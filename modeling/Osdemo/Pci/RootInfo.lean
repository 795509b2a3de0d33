import Osdemo.Pci.BarAllocator

/-!
Contract: `PciRootInfo` (`pci.rs`): what `for_fdt_node` keeps of a PCI host
bridge node, how `map_ranges` maps its ranges, and `find_pci_roots`.

`for_fdt_node` drops every memory range that starts at or above the page
table's size and trims the others to end there; configuration and I/O space
ranges pass through. `map_ranges` then maps each memory range as a device
region, and `init_pci` later builds the BAR pools from the same list.

Owns:
- `Cam` and its configuration-space size, `PciRootInfo`, `for_fdt_node`,
  `map_ranges`, `find_pci_roots`;
- `PciRange.trimmedTo`, what the loop of `for_fdt_node` keeps of one range,
  and the theorem that the loop is that filter over the decoded ranges
  (`keepRanges_eq`);
- the consequences for a kept memory range: it ends at the limit at the
  latest and is the original range cut at the limit; its region panics in
  `align_up` when the range ends at 0, and otherwise `map_ranges` maps exactly
  these regions and the BAR pools built from the kept list cover exactly the
  same addresses.
-/

namespace Osdemo.Pci

open Rust Osdemo.Platform

/-- `PCI_COMPATIBLE`. -/
def pciCompatible : String := "pci-host-cam-generic"

/-- `PCIE_COMPATIBLE`. -/
def pcieCompatible : String := "pci-host-ecam-generic"

/-- virtio-drivers' `Cam`: how configuration space is laid out. -/
inductive Cam where
  | mmioCam
  | ecam
deriving DecidableEq, Repr

/-- `Cam::size`: the configuration space of 256 buses of 32 devices of 8
functions, 256 bytes each for CAM and 4 KiB each for ECAM. -/
def Cam.size : Cam → Nat
  | .mmioCam => 0x100_0000
  | .ecam => 0x1000_0000

/-- `PciRootInfo`. -/
structure PciRootInfo where
  cam : Cam
  mmioBase : Nat
  ranges : List PciRange
deriving DecidableEq, Repr

/-! ### The ranges `for_fdt_node` keeps -/

/-- What the loop of `for_fdt_node` keeps of a range: memory ranges at or
above the limit are dropped, the others end at the limit at the latest. -/
def PciRange.trimmedTo (barRangeLimit : Nat) (range : PciRange) : Option PciRange :=
  if range.rangeType.IsMemory then
    if barRangeLimit ≤ range.cpuPhysical then none
    else some { range with size := min range.size (barRangeLimit - range.cpuPhysical) }
  else some range

/-- One iteration of the loop of `for_fdt_node`, after `PciRange::from`. -/
def keepRange (barRangeLimit : Nat) (range : PciRange) : Except Panic (Option PciRange) := do
  match ← range.flags.rangeType with
  | .memory32 | .memory64 =>
      if range.cpuPhysical ≥ barRangeLimit then
        -- "Ignoring range outside page table size"
        pure none
      else
        -- If the end of the range is outside our page table size, trim it down.
        pure (some { range with size := min range.size (barRangeLimit - range.cpuPhysical) })
  | _ => pure (some range)

/-- The loop of `for_fdt_node` over the `ranges` property. -/
def keepRanges (barRangeLimit : Nat) : List FdtRange → Except Panic (List PciRange)
  | [] => pure []
  | fdtRange :: rest => do
      let range ← PciRange.from fdtRange
      let kept ← keepRange barRangeLimit range
      let keptRest ← keepRanges barRangeLimit rest
      pure (kept.toList ++ keptRest)

theorem keepRange_eq (barRangeLimit : Nat) (range : PciRange) :
    keepRange barRangeLimit range = .ok (range.trimmedTo barRangeLimit) := by
  unfold keepRange PciRange.trimmedTo PciRangeType.IsMemory
  rw [range.flags_rangeType, ok_bind]
  by_cases above : barRangeLimit ≤ range.cpuPhysical <;>
    cases range.rangeType <;> simp [ge_iff_le, above]

/-- **The loop of `for_fdt_node`.** It decodes every range in order, and
keeps of them exactly `trimmedTo`, in their original order. -/
theorem keepRanges_eq (barRangeLimit : Nat) (fdtRanges : List FdtRange) :
    keepRanges barRangeLimit fdtRanges =
      (fdtRanges.mapM PciRange.from).map (·.filterMap (PciRange.trimmedTo barRangeLimit)) := by
  induction fdtRanges with
  | nil => rfl
  | cons fdtRange rest inductionHypothesis =>
      rw [keepRanges, List.mapM_cons, inductionHypothesis]
      cases PciRange.from fdtRange with
      | error panic => rfl
      | ok range =>
          simp only [ok_bind, keepRange_eq]
          cases rest.mapM PciRange.from with
          | error panic => rfl
          | ok ranges =>
              cases trimmed : range.trimmedTo barRangeLimit <;>
                simp [Except.map, trimmed]

/-! ### `for_fdt_node` and `find_pci_roots` -/

/-- `PciRootInfo::for_fdt_node`. The `info!` of the `reg` region evaluates
`address + size`, which panics on overflow. -/
def PciRootInfo.forFdtNode (pciNode : FdtNode) (cam : Cam) (barRangeLimit : Nat) :
    Except Panic PciRootInfo := do
  let regions ← unwrap pciNode.reg
  let region ← unwrap regions.head?
  let address ← cellValue 64 region.address
  let size ← cellValue 64 region.size
  let _ ← addChecked 64 address size
  if size ≠ cam.size then throw .assertEqFailed
  let fdtRanges ← unwrap pciNode.ranges
  let ranges ← keepRanges barRangeLimit fdtRanges
  pure ⟨cam, address, ranges⟩

/-- `find_pci_roots`: the CAM roots, then the ECAM roots, in the order
`find_compatible` yields them. -/
def findPciRoots (findCompatible : FindCompatible) (fdt : Fdt) (barRangeLimit : Nat) :
    Except Panic (List PciRootInfo) := do
  let pciRoots ← (findCompatible fdt.root pciCompatible).mapM fun pciNode =>
    PciRootInfo.forFdtNode pciNode .mmioCam barRangeLimit
  let pcieRoots ← (findCompatible fdt.root pcieCompatible).mapM fun pcieNode =>
    PciRootInfo.forFdtNode pcieNode .ecam barRangeLimit
  pure (pciRoots ++ pcieRoots)

/-- What a successful `for_fdt_node` read of its node. -/
theorem PciRootInfo.forFdtNode_eq_ok {pciNode : FdtNode} {cam : Cam} {barRangeLimit : Nat}
    {info : PciRootInfo} (built : PciRootInfo.forFdtNode pciNode cam barRangeLimit = .ok info) :
    info.cam = cam ∧
      (∃ regions region, pciNode.reg = some regions ∧ regions.head? = some region ∧
        info.mmioBase = region.address ∧ region.size = cam.size) ∧
      ∃ fdtRanges, pciNode.ranges = some fdtRanges ∧
        keepRanges barRangeLimit fdtRanges = .ok info.ranges := by
  unfold PciRootInfo.forFdtNode at built
  cases hasReg : pciNode.reg with
  | none => simp [hasReg] at built
  | some regions =>
      cases hasHead : regions.head? with
      | none => simp [hasReg, hasHead] at built
      | some region =>
          simp only [hasReg, hasHead, unwrap_some, ok_bind, bind_eq_ok, cellValue_eq_ok_iff,
            addChecked_ok_iff, ne_eq] at built
          obtain ⟨address, ⟨-, rfl⟩, size, ⟨-, rfl⟩, _, -, rest⟩ := built
          by_cases sizeMatches : region.size = cam.size
          · simp only [sizeMatches, not_true_eq_false, if_false] at rest
            cases hasRanges : pciNode.ranges with
            | none => simp [hasRanges] at rest
            | some fdtRanges =>
                simp only [hasRanges, unwrap_some, ok_bind, bind_eq_ok, pure_eq_ok,
                  Except.ok.injEq] at rest
                obtain ⟨ranges, kept, rfl⟩ := rest
                exact ⟨rfl, ⟨regions, region, rfl, hasHead, rfl, sizeMatches⟩, fdtRanges, rfl, kept⟩
          · simp [sizeMatches] at rest

/-! ### `map_ranges` -/

section MapRanges

variable {σ : Type}

/-- One iteration of `map_ranges`. -/
def mapRangesStep (mapRange : MapRange σ) (idmap : IdMap σ) (range : PciRange) :
    Except Panic (IdMap σ) := do
  match ← range.flags.rangeType with
  | .memory32 | .memory64 =>
      let memoryRegion ← range.memoryRegion
      IdMap.unwrapMap (idmap.mapDevice mapRange memoryRegion)
  | _ => pure idmap

/-- `PciRootInfo::map_ranges`. -/
def PciRootInfo.mapRanges (mapRange : MapRange σ) (info : PciRootInfo) (idmap : IdMap σ) :
    Except Panic (IdMap σ) :=
  info.ranges.foldlM (mapRangesStep mapRange) idmap

/-- The memory ranges of a list, in order: those `map_ranges` maps and the
BAR pools are built from. -/
def memoryRanges (ranges : List PciRange) : List PciRange :=
  ranges.filter fun range => decide range.rangeType.IsMemory

/-- The device region `map_ranges` maps for a memory range, when
`memory_region` does not panic. -/
def PciRange.mappedRegion (range : PciRange) : AddrRange :=
  MemoryRegion.rounded range.cpuPhysical (range.cpuPhysical + range.size)

theorem PciRange.memoryRegion_eq_ok {range : PciRange} (fits : range.RegionFits) :
    range.memoryRegion = .ok range.mappedRegion := by
  rw [range.memoryRegion_eq, if_pos fits]
  rfl

/-- One iteration of `map_ranges` on a memory range whose region fits is its
`map_device` call. -/
theorem mapRangesStep_of_isMemory {mapRange : MapRange σ} {range : PciRange}
    (isMemory : range.rangeType.IsMemory) (fits : range.RegionFits) (idmap : IdMap σ) :
    mapRangesStep mapRange idmap range =
      IdMap.unwrapMap (idmap.mapDevice mapRange range.mappedRegion) := by
  unfold mapRangesStep
  rw [range.flags_rangeType, ok_bind]
  rcases isMemory with isMemory | isMemory <;>
    simp [isMemory, PciRange.memoryRegion_eq_ok fits]

/-- On a memory range whose region does not fit, `memory_region` panics. -/
theorem mapRangesStep_of_not_regionFits {mapRange : MapRange σ} {range : PciRange}
    (isMemory : range.rangeType.IsMemory) (overflows : ¬ range.RegionFits) (idmap : IdMap σ) :
    mapRangesStep mapRange idmap range = .error .arithmeticOverflow := by
  unfold mapRangesStep
  rw [range.flags_rangeType, ok_bind]
  rcases isMemory with isMemory | isMemory <;>
    simp [isMemory, range.memoryRegion_eq, overflows]

theorem mapRangesStep_of_not_isMemory {mapRange : MapRange σ} {range : PciRange}
    (notMemory : ¬ range.rangeType.IsMemory) (idmap : IdMap σ) :
    mapRangesStep mapRange idmap range = .ok idmap := by
  unfold mapRangesStep PciRangeType.IsMemory at *
  rw [range.flags_rangeType, ok_bind]
  cases rangeType : range.rangeType <;> simp_all

/-- **`map_ranges`.** When the region of every memory range fits, the loop
is the `map_device` calls for the regions of the memory ranges, in order,
and nothing else. -/
theorem foldlM_mapRangesStep_eq {mapRange : MapRange σ} (ranges : List PciRange)
    (fits : ∀ range ∈ ranges, range.rangeType.IsMemory → range.RegionFits) (idmap : IdMap σ) :
    ranges.foldlM (mapRangesStep mapRange) idmap =
      IdMap.mapDevices mapRange idmap ((memoryRanges ranges).map PciRange.mappedRegion) := by
  induction ranges generalizing idmap with
  | nil => rfl
  | cons range rest inductionHypothesis =>
      have restFits : ∀ range ∈ rest, range.rangeType.IsMemory → range.RegionFits :=
        fun other member => fits other (List.mem_cons_of_mem range member)
      by_cases isMemory : range.rangeType.IsMemory
      · rw [List.foldlM_cons,
          mapRangesStep_of_isMemory isMemory (fits range List.mem_cons_self isMemory)]
        simp only [memoryRanges, List.filter_cons, isMemory, decide_true, if_true, List.map_cons,
          IdMap.mapDevices, List.foldlM_cons]
        simp only [IdMap.mapDevices, memoryRanges] at inductionHypothesis
        simp only [inductionHypothesis restFits]
      · rw [List.foldlM_cons, mapRangesStep_of_not_isMemory isMemory, ok_bind,
          inductionHypothesis restFits, memoryRanges,
          List.filter_cons_of_neg (by simpa using isMemory)]
        rfl

/-- A `map_ranges` loop that succeeds met only memory ranges whose region
fits: on any other, `memory_region` panics. -/
theorem regionFits_of_foldlM_mapRangesStep {mapRange : MapRange σ} (ranges : List PciRange) :
    ∀ {idmap idmap' : IdMap σ}, ranges.foldlM (mapRangesStep mapRange) idmap = .ok idmap' →
      ∀ range ∈ memoryRanges ranges, range.RegionFits := by
  induction ranges with
  | nil =>
      intro idmap idmap' _ range member
      simp [memoryRanges] at member
  | cons range rest inductionHypothesis =>
      intro idmap idmap' mapped other member
      rw [List.foldlM_cons, bind_eq_ok] at mapped
      obtain ⟨stepped, stepOk, restMapped⟩ := mapped
      simp only [memoryRanges, List.mem_filter, List.mem_cons, decide_eq_true_eq] at member
      obtain ⟨rfl | later, isMemory⟩ := member
      · by_contra overflows
        rw [mapRangesStep_of_not_regionFits isMemory overflows] at stepOk
        cases stepOk
      · exact inductionHypothesis restMapped other
          (List.mem_filter.mpr ⟨later, decide_eq_true isMemory⟩)

/-- A `map_ranges` that succeeds made exactly the `map_device` calls for the
regions of the memory ranges. -/
theorem PciRootInfo.mapRanges_eq_ok {mapRange : MapRange σ} {info : PciRootInfo}
    {idmap idmap' : IdMap σ} (mapped : info.mapRanges mapRange idmap = .ok idmap') :
    IdMap.mapDevices mapRange idmap ((memoryRanges info.ranges).map PciRange.mappedRegion) =
      .ok idmap' := by
  have fits := regionFits_of_foldlM_mapRangesStep info.ranges mapped
  rw [← foldlM_mapRangesStep_eq info.ranges
    (fun range member isMemory => fits range (List.mem_filter.mpr ⟨member, decide_eq_true isMemory⟩))]
  exact mapped

/-- What a `map_ranges` that succeeds records as mapped. -/
theorem PciRootInfo.mapRanges_mapped {mapRange : MapRange σ} {info : PciRootInfo}
    {idmap idmap' : IdMap σ} (mapped : info.mapRanges mapRange idmap = .ok idmap') :
    idmap'.mapped = idmap.mapped ++
      (memoryRanges info.ranges).map fun range => (MemoryKind.device, range.mappedRegion) := by
  rw [IdMap.mapDevices_mapped _ (PciRootInfo.mapRanges_eq_ok mapped), List.map_map]
  rfl

end MapRanges

/-! ### What is kept of a memory range -/

namespace PciRange

/-- The two outcomes of `trimmedTo`. -/
theorem trimmedTo_eq_some {barRangeLimit : Nat} {range kept : PciRange}
    (trimmed : range.trimmedTo barRangeLimit = some kept) :
    (¬ range.rangeType.IsMemory ∧ kept = range) ∨
      (range.rangeType.IsMemory ∧ range.cpuPhysical < barRangeLimit ∧
        kept = { range with size := min range.size (barRangeLimit - range.cpuPhysical) }) := by
  unfold trimmedTo at trimmed
  by_cases isMemory : range.rangeType.IsMemory
  · by_cases above : barRangeLimit ≤ range.cpuPhysical
    · simp [isMemory, above] at trimmed
    · simp only [isMemory, above, if_true, if_false, Option.some.injEq] at trimmed
      exact Or.inr ⟨isMemory, by omega, trimmed.symm⟩
  · simp only [isMemory, if_false, Option.some.injEq] at trimmed
    exact Or.inl ⟨isMemory, trimmed.symm⟩

/-- A trimmed range keeps its type. -/
theorem rangeType_of_trimmedTo {barRangeLimit : Nat} {range kept : PciRange}
    (trimmed : range.trimmedTo barRangeLimit = some kept) : kept.rangeType = range.rangeType := by
  rcases trimmedTo_eq_some trimmed with ⟨-, rfl⟩ | ⟨-, -, rfl⟩ <;> rfl

/-- Trimming keeps the addresses and the type, and may only shrink the size. -/
theorem fields_of_trimmedTo {barRangeLimit : Nat} {range kept : PciRange}
    (trimmed : range.trimmedTo barRangeLimit = some kept) :
    kept.cpuPhysical = range.cpuPhysical ∧ kept.busAddress = range.busAddress ∧
      kept.size ≤ range.size ∧ kept.rangeType = range.rangeType := by
  refine ⟨?_, ?_, ?_, rangeType_of_trimmedTo trimmed⟩ <;>
    rcases trimmedTo_eq_some trimmed with ⟨-, rfl⟩ | ⟨-, -, rfl⟩ <;> simp

/-- A kept memory range ends at the limit at the latest. -/
theorem end_le_of_trimmedTo {barRangeLimit : Nat} {range kept : PciRange}
    (trimmed : range.trimmedTo barRangeLimit = some kept) (isMemory : kept.rangeType.IsMemory) :
    kept.cpuPhysical + kept.size ≤ barRangeLimit := by
  rw [rangeType_of_trimmedTo trimmed] at isMemory
  rcases trimmedTo_eq_some trimmed with ⟨notMemory, -⟩ | ⟨-, below, rfl⟩
  · exact absurd isMemory notMemory
  · simp only
    omega

/-- A kept memory range covers exactly the addresses of the original one
below the limit. -/
theorem toSet_of_trimmedTo {barRangeLimit : Nat} {range kept : PciRange}
    (trimmed : range.trimmedTo barRangeLimit = some kept) (isMemory : kept.rangeType.IsMemory) :
    (AddrRange.ofSize kept.cpuPhysical kept.size).toSet =
      (AddrRange.ofSize range.cpuPhysical range.size).toSet ∩ Set.Iio barRangeLimit := by
  rw [rangeType_of_trimmedTo trimmed] at isMemory
  rcases trimmedTo_eq_some trimmed with ⟨notMemory, -⟩ | ⟨-, below, rfl⟩
  · exact absurd isMemory notMemory
  · ext address
    simp only [AddrRange.mem_toSet, AddrRange.ofSize_start, AddrRange.ofSize_stop,
      Set.mem_inter_iff, Set.mem_Iio]
    omega

end PciRange

/-! ### The BAR pools of the kept ranges -/

/-- The addresses in the frames of the pools of `routed ranges` are those of
its memory ranges. -/
theorem mem_frames_routed_iff (ranges : List PciRange) (address : Nat) :
    (∃ pool, ∃ frame ∈ ((PciBarAllocator.routed ranges).get pool).frames, address ∈ frame.toSet) ↔
      ∃ range ∈ memoryRanges ranges,
        address ∈ (AddrRange.ofSize range.cpuPhysical range.size).toSet := by
  simp only [PciBarAllocator.get_routed, PciBarAllocator.spansIn, memoryRanges, List.mem_map,
    List.mem_filter, decide_eq_true_eq]
  constructor
  · rintro ⟨pool, _, ⟨range, ⟨member, routedHere⟩, rfl⟩, inFrame⟩
    have isSome : range.pool.isSome := by simp [routedHere]
    exact ⟨range, ⟨member, (range.pool_isSome_iff).mp isSome⟩, inFrame⟩
  · rintro ⟨range, ⟨member, isMemory⟩, inSpan⟩
    obtain ⟨pool, routedHere⟩ := Option.isSome_iff_exists.mp ((range.pool_isSome_iff).mpr isMemory)
    exact ⟨pool, _, ⟨range, ⟨member, routedHere⟩, rfl⟩, inSpan⟩

/-! ### What `for_fdt_node` guarantees -/

/-- The ranges of a root that `for_fdt_node` built are `trimmedTo` of the
decoded ranges of its node. -/
theorem PciRootInfo.forFdtNode_ranges {pciNode : FdtNode} {cam : Cam} {barRangeLimit : Nat}
    {info : PciRootInfo} (built : PciRootInfo.forFdtNode pciNode cam barRangeLimit = .ok info) :
    ∃ fdtRanges ranges, pciNode.ranges = some fdtRanges ∧
      fdtRanges.mapM PciRange.from = .ok ranges ∧
      info.ranges = ranges.filterMap (PciRange.trimmedTo barRangeLimit) := by
  obtain ⟨-, -, fdtRanges, hasRanges, kept⟩ := PciRootInfo.forFdtNode_eq_ok built
  rw [keepRanges_eq] at kept
  cases decoded : fdtRanges.mapM PciRange.from with
  | error panic => simp [decoded, Except.map] at kept
  | ok ranges =>
      simp only [decoded, Except.map, Except.ok.injEq] at kept
      exact ⟨fdtRanges, ranges, hasRanges, decoded, kept.symm⟩

/-- Every kept memory range ends at the limit at the latest. -/
theorem PciRootInfo.end_le_of_forFdtNode {pciNode : FdtNode} {cam : Cam}
    {barRangeLimit : Nat} {info : PciRootInfo}
    (built : PciRootInfo.forFdtNode pciNode cam barRangeLimit = .ok info) :
    ∀ kept ∈ memoryRanges info.ranges, kept.cpuPhysical + kept.size ≤ barRangeLimit := by
  obtain ⟨-, ranges, -, -, keptRanges⟩ := PciRootInfo.forFdtNode_ranges built
  intro kept member
  obtain ⟨member, isMemory⟩ := List.mem_filter.mp member
  rw [keptRanges] at member
  obtain ⟨range, -, trimmed⟩ := List.mem_filterMap.mp member
  exact PciRange.end_le_of_trimmedTo trimmed (of_decide_eq_true isMemory)

/-- What `for_fdt_node` guarantees of the ranges of a root it built from
`pciNode` with `bar_range_limit`, and of the two consumers of that list. The
kept ranges are `trimmedTo` of the decoded ranges, in their order, and a kept
memory range is the original one cut at the limit. A kept memory range ends
at the limit at the latest; `memory_region` panics on it unless its region
fits, and otherwise returns the range rounded out to pages, which covers it
and, when the limit is page-aligned, ends at the limit at the latest. Below
the last page of the address space, a region fits exactly when its range ends
above 0. `map_ranges` is the `map_device` calls for these regions, in order,
when they all fit, and succeeds only if they do. The BAR pools built from the
kept ranges cover exactly the kept memory ranges. -/
structure PciRootInfo.KeepsTrimmed (pciNode : FdtNode) (barRangeLimit : Nat)
    (info : PciRootInfo) : Prop where
  trimmed : ∃ fdtRanges ranges, pciNode.ranges = some fdtRanges ∧
    fdtRanges.mapM PciRange.from = .ok ranges ∧
    info.ranges = ranges.filterMap (PciRange.trimmedTo barRangeLimit) ∧
    ∀ range ∈ ranges, ∀ kept, range.trimmedTo barRangeLimit = some kept →
      kept.rangeType.IsMemory →
        (AddrRange.ofSize kept.cpuPhysical kept.size).toSet =
          (AddrRange.ofSize range.cpuPhysical range.size).toSet ∩ Set.Iio barRangeLimit
  regionFits : ∀ kept ∈ memoryRanges info.ranges,
    kept.cpuPhysical + kept.size ≤ barRangeLimit ∧
      kept.memoryRegion = (if kept.RegionFits then .ok kept.mappedRegion
        else .error .arithmeticOverflow) ∧
      (AddrRange.ofSize kept.cpuPhysical kept.size).Within kept.mappedRegion ∧
      (AddrRange.Aligned barRangeLimit pageSize → kept.mappedRegion.stop ≤ barRangeLimit)
  fitsUnlessEmptyAtZero : barRangeLimit + pageSize ≤ limit 64 →
    ∀ kept ∈ memoryRanges info.ranges, kept.RegionFits ↔ 0 < kept.cpuPhysical + kept.size
  mapsExactly : ∀ {σ : Type} (mapRange : MapRange σ) (idmap : IdMap σ),
    (∀ kept ∈ memoryRanges info.ranges, kept.RegionFits) →
      info.mapRanges mapRange idmap =
        IdMap.mapDevices mapRange idmap ((memoryRanges info.ranges).map PciRange.mappedRegion)
  panicsUnlessFits : ∀ {σ : Type} (mapRange : MapRange σ) (idmap idmap' : IdMap σ),
    info.mapRanges mapRange idmap = .ok idmap' →
      ∀ kept ∈ memoryRanges info.ranges, kept.RegionFits
  poolsCover : ∀ allocator, PciBarAllocator.new info.ranges = .ok allocator → ∀ address,
    (∃ pool, ∃ frame ∈ (allocator.get pool).frames, address ∈ frame.toSet) ↔
      ∃ kept ∈ memoryRanges info.ranges,
        address ∈ (AddrRange.ofSize kept.cpuPhysical kept.size).toSet

/-- **`for_fdt_node`.** Every root it builds keeps its ranges trimmed to the
limit; the region of a kept memory range is computed without a panic exactly
when it fits, and `map_ranges` and the BAR pools see the same memory ranges. -/
theorem PciRootInfo.forFdtNode_keepsTrimmed {pciNode : FdtNode} {cam : Cam}
    {barRangeLimit : Nat} {info : PciRootInfo}
    (built : PciRootInfo.forFdtNode pciNode cam barRangeLimit = .ok info) :
    PciRootInfo.KeepsTrimmed pciNode barRangeLimit info := by
  obtain ⟨fdtRanges, ranges, hasRanges, decoded, keptRanges⟩ := PciRootInfo.forFdtNode_ranges built
  have keptEnd := PciRootInfo.end_le_of_forFdtNode built
  refine ⟨⟨fdtRanges, ranges, hasRanges, decoded, keptRanges, ?_⟩, ?_, ?_, ?_, ?_, ?_⟩
  · intro range _ kept trimmed isMemory
    exact PciRange.toSet_of_trimmedTo trimmed isMemory
  · intro kept member
    have below := keptEnd kept member
    refine ⟨below, ?_, MemoryRegion.within_rounded _ _,
      fun aligned => MemoryRegion.rounded_stop_le below aligned⟩
    rw [kept.memoryRegion_eq]
    rfl
  · intro limitFits kept member
    have below := keptEnd kept member
    unfold PciRange.RegionFits
    omega
  · intro σ mapRange idmap fits
    apply foldlM_mapRangesStep_eq
    intro kept member isMemory
    exact fits kept (List.mem_filter.mpr ⟨member, decide_eq_true isMemory⟩)
  · intro σ mapRange idmap idmap' mapped
    exact regionFits_of_foldlM_mapRangesStep info.ranges mapped
  · intro allocator builtPools address
    rw [(PciBarAllocator.new_eq_ok_iff.mp builtPools).2]
    exact mem_frames_routed_iff info.ranges address

/-- The host bridge of QEMU's `virt` machine, with a limit that drops its
64-bit window and trims its 32-bit one. -/
theorem forFdtNode_keepsTrimmed_virt :
    let pcieNode : FdtNode := {
      name := "pcie@10000000"
      compatible := some [pcieCompatible]
      reg := some [⟨0x40_1000_0000, 0x1000_0000⟩]
      ranges := some [
        ⟨0x0100_0000 * 2 ^ 64, 0x3eff_0000, 0x1_0000⟩,
        ⟨0x0200_0000 * 2 ^ 64 + 0x1000_0000, 0x1000_0000, 0x2eff_0000⟩,
        ⟨0x0300_0000 * 2 ^ 64 + 0x80_0000_0000, 0x80_0000_0000, 0x80_0000_0000⟩]
      children := [] }
    let info : PciRootInfo := ⟨.ecam, 0x40_1000_0000, [
      ⟨0x3eff_0000, 0, 0x1_0000, ⟨0x0100_0000⟩⟩,
      ⟨0x1000_0000, 0x1000_0000, 0x1000_0000, ⟨0x0200_0000⟩⟩]⟩
    PciRootInfo.forFdtNode pcieNode .ecam 0x2000_0000 = .ok info ∧
      PciRootInfo.KeepsTrimmed pcieNode 0x2000_0000 info := by
  intro pcieNode info
  have built : PciRootInfo.forFdtNode pcieNode .ecam 0x2000_0000 = .ok info := rfl
  exact ⟨built, PciRootInfo.forFdtNode_keepsTrimmed built⟩

/-- A 32-bit window of size 0 at address 0 is kept, since it starts below the
limit, and its region then panics in `align_up`: `map_ranges` panics on it
whatever the page table. -/
theorem mapRanges_panics_on_empty_window_at_zero :
    let pcieNode : FdtNode := {
      name := "pcie@10000000"
      compatible := some [pcieCompatible]
      reg := some [⟨0x40_1000_0000, 0x1000_0000⟩]
      ranges := some [⟨0x0200_0000 * 2 ^ 64, 0, 0⟩]
      children := [] }
    let info : PciRootInfo := ⟨.ecam, 0x40_1000_0000, [⟨0, 0, 0, ⟨0x0200_0000⟩⟩]⟩
    PciRootInfo.forFdtNode pcieNode .ecam 0x80_0000_0000 = .ok info ∧
      (memoryRanges info.ranges).map PciRange.memoryRegion = [.error .arithmeticOverflow] ∧
      ∀ {σ : Type} (mapRange : MapRange σ) (idmap : IdMap σ),
        info.mapRanges mapRange idmap = .error .arithmeticOverflow := by
  intro pcieNode info
  refine ⟨rfl, rfl, fun mapRange idmap => ?_⟩
  have overflows : ¬ PciRange.RegionFits ⟨0, 0, 0, ⟨0x0200_0000⟩⟩ := by decide
  have isMemory : PciRangeType.IsMemory (PciRange.rangeType ⟨0, 0, 0, ⟨0x0200_0000⟩⟩) := by decide
  simp only [PciRootInfo.mapRanges, info, List.foldlM_cons,
    mapRangesStep_of_not_regionFits isMemory overflows, error_bind]

end Osdemo.Pci
