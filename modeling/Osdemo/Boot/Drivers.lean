import Osdemo.Library.Loop
import Osdemo.Boot.MapRegions

/-!
Contract: the MMIO regions `main` hands to drivers after it activates the page
table: `make_gic` (`interrupts.rs`) and `find_virtio_mmio_devices`
(`virtio.rs`).

`make_gic` takes the first node that `find_compatible("arm,gic-v3")` yields;
the distributor is its first `reg` region, which must be exactly
`size_of::<Gicd>()` bytes, and the redistributors its second, which must hold a
`GicrSgi` frame for each CPU. `find_virtio_mmio_devices` looks only at the
direct children of the root, and hands the first `reg` region of each
`virtio,mmio` child to `MmioTransport::new` when it can hold the VirtIO
header. The sizes of `Gicd`, `GicrSgi` and `VirtIOHeader` come from the
drivers' crates and are parameters.

Owns: `GicRegions`, `makeGic`, `virtioRegion`, `findVirtioMmioDevices`, and
their inversion lemmas, which say which `reg` entry each region is.
-/

namespace Osdemo.Boot

open Rust Osdemo.Platform

/-! ### `make_gic` -/

/-- What `make_gic` hands to `GicV3::new`: the distributor and redistributor
bases and the number of CPUs. -/
structure GicRegions where
  gicd : Nat
  gicr : Nat
  cpuCount : Nat
deriving DecidableEq, Repr

/-- `make_gic`, with `size_of::<Gicd>()` as `gicdSize` and
`size_of::<GicrSgi>()` as `gicrSgiSize`; `none` where it returns `None`. -/
def makeGic (findCompatible : FindCompatible) (gicdSize gicrSgiSize : Nat) (fdt : Fdt) :
    Except Panic (Option GicRegions) := do
  let cpus ← unwrap fdt.cpuIds
  let cpuCount := cpus.length
  match (findCompatible fdt.root "arm,gic-v3").head? with
  | none => pure none
  | some node =>
      let regions ← unwrap node.reg
      let gicdRegion ← (regions[0]?).elim (throw (.explicit "GICD region missing")) pure
      let gicrRegion ← (regions[1]?).elim (throw (.explicit "GICR region missing")) pure
      let gicrRegionSize ← cellValue 64 gicrRegion.size
      let gicdRegionSize ← cellValue 64 gicdRegion.size
      -- the `info!` of the GICR space divides by `size_of::<GicrSgi>()`
      if gicrSgiSize = 0 then throw (.explicit "attempt to divide by zero")
      if gicdRegionSize ≠ gicdSize then throw .assertEqFailed
      let gicrNeeded ← mulChecked 64 gicrSgiSize cpuCount
      if ¬ gicrRegionSize ≥ gicrNeeded then
        throw (.explicit "assertion failed: gicr_region_size >= size_of::<GicrSgi>() * cpu_count")
      let gicdAddress ← cellValue 64 gicdRegion.address
      let gicd ← nonNull gicdAddress
      let gicrAddress ← cellValue 64 gicrRegion.address
      let gicr ← nonNull gicrAddress
      pure (some ⟨gicd, gicr, cpuCount⟩)

theorem elim_throw_eq_ok {α : Type} {option : Option α} {text : String} {value : α}
    (taken : option.elim (throw (.explicit text) : Except Panic α) pure = .ok value) :
    option = some value := by
  cases option with
  | none => cases taken
  | some value' =>
      cases taken
      rfl

/-- **Inversion of `make_gic`.** The GIC it finds is the first node
`find_compatible` yields; its distributor is the first `reg` region, exactly
`gicdSize` bytes long, and its redistributors start the second, which holds a
`GicrSgi` frame for each CPU. -/
theorem makeGic_eq_some {findCompatible : FindCompatible} {gicdSize gicrSgiSize : Nat}
    {fdt : Fdt} {gic : GicRegions}
    (made : makeGic findCompatible gicdSize gicrSgiSize fdt = .ok (some gic)) :
    ∃ node ∈ findCompatible fdt.root "arm,gic-v3", ∃ regions gicdRegion gicrRegion,
      node.reg = some regions ∧ regions[0]? = some gicdRegion ∧ regions[1]? = some gicrRegion ∧
      gic.gicd = gicdRegion.address ∧ gicdRegion.size = gicdSize ∧
      gic.gicr = gicrRegion.address ∧ gicrSgiSize * gic.cpuCount ≤ gicrRegion.size := by
  unfold makeGic at made
  rw [bind_eq_ok] at made
  obtain ⟨cpus, -, made⟩ := made
  cases found : (findCompatible fdt.root "arm,gic-v3").head? with
  | none => simp [found] at made
  | some node =>
      simp only [found, bind_eq_ok] at made
      obtain ⟨regions, hasRegions, gicdRegion, gicdFound, gicrRegion, gicrFound, gicrSize,
        gicrSizeOk, gicdSize', gicdSizeOk, made⟩ := made
      obtain ⟨-, rfl⟩ := cellValue_eq_ok_iff.mp gicrSizeOk
      obtain ⟨-, rfl⟩ := cellValue_eq_ok_iff.mp gicdSizeOk
      by_cases zero : gicrSgiSize = 0
      · simp [zero] at made
      by_cases sizeMatches : gicdRegion.size = gicdSize
      · simp only [zero, sizeMatches, ne_eq, not_true_eq_false, if_false, bind_eq_ok,
          mulChecked_ok_iff] at made
        obtain ⟨needed, ⟨-, rfl⟩, made⟩ := made
        by_cases enough : gicrRegion.size ≥ gicrSgiSize * cpus.length
        · simp only [enough, not_true_eq_false, if_false, bind_eq_ok, cellValue_eq_ok_iff,
            pure_eq_ok, Except.ok.injEq, Option.some.injEq] at made
          obtain ⟨_, ⟨-, rfl⟩, _, gicdOk, _, ⟨-, rfl⟩, _, gicrOk, rfl⟩ := made
          refine ⟨node, List.mem_of_mem_head? found, regions, gicdRegion, gicrRegion,
            ?_, elim_throw_eq_ok gicdFound, elim_throw_eq_ok gicrFound,
            nonNull_eq_ok gicdOk, sizeMatches, nonNull_eq_ok gicrOk, enough⟩
          cases hasReg : node.reg <;> simp_all
        · simp [enough] at made
      · simp [zero, sizeMatches] at made

/-! ### `find_virtio_mmio_devices` -/

/-- `VIRTIO_MMIO_COMPATIBLE`. -/
def virtioMmioCompatible : String := "virtio,mmio"

/-- The region `find_virtio_mmio_devices` hands to `MmioTransport::new` for
one child of the root, `headerSize` being `size_of::<VirtIOHeader>()`. -/
def virtioRegion (headerSize : Nat) (node : FdtNode) : Except Panic (Option AddrRange) :=
  if isCompatible node [virtioMmioCompatible] then do
    let regions ← unwrap node.reg
    match regions.head? with
    | some region =>
        let regionSize ← cellValue 64 region.size
        -- "region smaller than VirtIO header size"
        if regionSize < headerSize then pure none
        else
          let address ← cellValue 64 region.address
          let header ← nonNull address
          pure (some (AddrRange.ofSize header regionSize))
    -- "missing region"
    | none => pure none
  else pure none

/-- One child of the root in `find_virtio_mmio_devices`: the state is the
regions handed to transports so far. What a transport does with its device is
not modelled; a panic there only ends the loop earlier. -/
def findVirtioMmioDevicesStep (headerSize : Nat) (handed : List AddrRange) (node : FdtNode) :
    Loop.Step (List AddrRange) Empty Panic :=
  match virtioRegion headerSize node with
  | .ok region => .next (handed ++ region.toList)
  | .error panic => .panic handed panic

/-- `find_virtio_mmio_devices` over the direct children of the root. -/
def findVirtioMmioDevices (headerSize : Nat) (fdt : Fdt) : Loop.Halt (List AddrRange) Empty Panic :=
  (Loop.run (findVirtioMmioDevicesStep headerSize) [] fdt.root.children).1

/-- **Inversion for one child.** The region handed is the whole first `reg`
region of a `virtio,mmio` node. -/
theorem virtioRegion_eq_some {headerSize : Nat} {node : FdtNode} {region : AddrRange}
    (handed : virtioRegion headerSize node = .ok (some region)) :
    isCompatible node [virtioMmioCompatible] = true ∧
      ∃ regions first, node.reg = some regions ∧ regions.head? = some first ∧
        region = AddrRange.ofSize first.address first.size := by
  unfold virtioRegion at handed
  by_cases compatible : isCompatible node [virtioMmioCompatible] = true
  · rw [if_pos compatible, bind_eq_ok] at handed
    obtain ⟨regions, hasRegions, handed⟩ := handed
    refine ⟨compatible, regions, ?_⟩
    have regions_eq : node.reg = some regions := by
      cases hasReg : node.reg <;> simp_all
    cases found : regions.head? with
    | none => simp [found] at handed
    | some first =>
        simp only [found, bind_eq_ok, cellValue_eq_ok_iff] at handed
        obtain ⟨regionSize, ⟨-, rfl⟩, handed⟩ := handed
        by_cases small : first.size < headerSize
        · simp [small] at handed
        · simp only [small, if_false, bind_eq_ok, cellValue_eq_ok_iff, pure_eq_ok,
            Except.ok.injEq, Option.some.injEq] at handed
          obtain ⟨_, ⟨-, rfl⟩, header, headerOk, rfl⟩ := handed
          rw [nonNull_eq_ok headerOk]
          exact ⟨first, regions_eq, rfl, rfl⟩
  · simp [compatible] at handed

/-- Every region handed, wherever the loop halts, is the first `reg` region
of a `virtio,mmio` child of the root. -/
theorem findVirtioMmioDevices_handed {headerSize : Nat} {fdt : Fdt} :
    ∀ handed ∈ (findVirtioMmioDevices headerSize fdt).state?, ∀ region ∈ handed,
      ∃ node ∈ fdt.root.children, isCompatible node [virtioMmioCompatible] = true ∧
        ∃ regions first, node.reg = some regions ∧ regions.head? = some first ∧
          region = AddrRange.ofSize first.address first.size := by
  let Handed : List AddrRange → Prop := fun handed => ∀ region ∈ handed,
    ∃ node ∈ fdt.root.children, isCompatible node [virtioMmioCompatible] = true ∧
      ∃ regions first, node.reg = some regions ∧ regions.head? = some first ∧
        region = AddrRange.ofSize first.address first.size
  -- the loop reads only children of the root, so the invariant may name them
  have preserved : ∀ handed, ∀ node ∈ fdt.root.children, ∀ handed', Handed handed →
      findVirtioMmioDevicesStep headerSize handed node = .next handed' → Handed handed' := by
    intro handed node child handed' before stepped
    unfold findVirtioMmioDevicesStep at stepped
    cases found : virtioRegion headerSize node with
    | error panic => simp [found] at stepped
    | ok region? =>
        simp only [found, Loop.Step.next.injEq] at stepped
        subst stepped
        intro region member
        rcases List.mem_append.mp member with old | new
        · exact before region old
        · cases region? with
          | none => cases new
          | some region' =>
              rw [Option.toList_some, List.mem_singleton] at new
              subst new
              exact ⟨node, child, virtioRegion_eq_some found⟩
  -- a child that panics hands nothing
  have inPlace : Loop.PanicsInPlace (findVirtioMmioDevicesStep headerSize) := by
    intro handed node handed' message panicked
    unfold findVirtioMmioDevicesStep at panicked
    split at panicked
    · cases panicked
    · exact ((Loop.Step.panic.inj panicked).1).symm
  exact Loop.run_invariant_of_mem preserved inPlace.preserves (fun _ member => by simp at member)

end Osdemo.Boot
