import Osdemo.Library.Loop
import Osdemo.Pci.RootInfo

/-!
Contract: `PciRootInfo::init_pci` and `allocate_bars` (`pci.rs`): the
addresses the BARs of a root's devices are given.

`init_pci` builds the three pools from the root's ranges; then, for each
device function that virtio-drivers' `enumerate_bus(0)` yields, it reads the
BARs, draws a block for each memory BAR from the pools, writes its address,
and enables the device. The device functions and what their BARs report are
the input. Both loops together are one `Loop.run` over the steps of all
device functions in turn, so a panic stops the run in the state it reached,
with every write made so far.

Owns:
- `BarInfo`, `BarWrite`, `allocateBar` (one iteration of `allocate_bars`),
  `initPciStep` and `PciRootInfo.initPci`;
- `ValidRanges`, what is assumed of a root's ranges, and that trimming keeps
  it;
- `InitInvariant`, kept by every step, and from it where every written block
  lies (`BarsPlaced`) and that the `u32` conversion of `allocate32` never
  panics;
- `InitCoverage`, the weaker invariant that needs of the allocator only that
  its blocks stay inside its frames: every block lies in a memory range.
-/

namespace Osdemo.Pci

open Rust Osdemo.Platform FrameAllocator

/-- virtio-drivers' `DeviceFunction`. -/
structure DeviceFunction where
  bus : Nat
  device : Nat
  function : Nat
deriving DecidableEq, Repr

/-- virtio-drivers' `MemoryBarType`. -/
inductive MemoryBarType where
  | width32
  | below1MiB
  | width64
deriving DecidableEq, Repr

/-- virtio-drivers' `BarInfo`, without the current addresses, which
`allocate_bars` ignores. -/
inductive BarInfo where
  | memory (addressType : MemoryBarType) (prefetchable : Bool) (size : Nat)
  | io
deriving DecidableEq, Repr

/-- A `set_bar_32` or `set_bar_64` call. The size and prefetchable flag of the
BAR it programs are kept with it, so that properties can speak of its block. -/
structure BarWrite where
  deviceFunction : DeviceFunction
  barIndex : Nat
  addressType : MemoryBarType
  prefetchable : Bool
  address : Nat
  size : Nat
deriving DecidableEq, Repr

/-- The addresses the BAR decodes once written. -/
def BarWrite.block (write : BarWrite) : AddrRange := AddrRange.ofSize write.address write.size

/-- `Layout::from_size_align(size, size).unwrap()`. -/
def barLayout (size : Nat) : Except Panic Layout :=
  match Layout.fromSizeAlign size size with
  | some layout => pure layout
  | none => throw (.unwrapErr .layoutError)

/-- One iteration of the loop of `allocate_bars`: the BAR at `barIndex` of
`deviceFunction`, and the write it leads to, if any. -/
def allocateBar (policy : AllocPolicy) (deviceFunction : DeviceFunction) (barIndex : Nat)
    (info : Option BarInfo) (allocator : PciBarAllocator) :
    Except Panic (PciBarAllocator × Option BarWrite) :=
  match info with
  | none => pure (allocator, none)
  -- "Ignoring IO BAR"
  | some .io => pure (allocator, none)
  | some (.memory addressType prefetchable size) =>
      if size > 0 then do
        let layout ← barLayout size
        match addressType with
        | .width32 =>
            let (allocation, allocator) ← allocator.allocate32 policy layout
            pure (allocator,
              some ⟨deviceFunction, barIndex, .width32, prefetchable, allocation, size⟩)
        | .width64 =>
            let (allocation, allocator) ← allocator.allocate64 policy layout prefetchable
            pure (allocator,
              some ⟨deviceFunction, barIndex, .width64, prefetchable, allocation, size⟩)
        | .below1MiB => throw (.explicit "not implemented: Below 1MiB BARs not supported.")
      else pure (allocator, none)

/-- One step of the loops of `init_pci` and `allocate_bars`: `bars` returned
an error, which is unwrapped; the BAR at `barIndex` of a device function; or
`set_command` with I/O space, memory space and bus mastering. -/
inductive InitAction where
  | barsFailed
  | bar (deviceFunction : DeviceFunction) (barIndex : Nat) (info : Option BarInfo)
  | enable (deviceFunction : DeviceFunction)
deriving DecidableEq, Repr

/-- The steps of `allocate_bars(device_function)` when reading the BARs gives
`bars`, `none` for an error. -/
def deviceActions (deviceFunction : DeviceFunction) :
    Option (List (Option BarInfo)) → List InitAction
  | none => [.barsFailed]
  | some bars =>
      (bars.zipIdx.map fun (info, barIndex) => .bar deviceFunction barIndex info) ++
        [.enable deviceFunction]

/-- The state of `init_pci`: the pools, and the BAR writes made and devices
enabled so far, in order. -/
structure InitState where
  allocator : PciBarAllocator
  writes : List BarWrite
  enabled : List DeviceFunction

/-- One step of `init_pci`. -/
def initPciStep (policy : AllocPolicy) (state : InitState) :
    InitAction → Loop.Step InitState Empty Panic
  | .barsFailed => .panic state (.unwrapErr .pciError)
  | .bar deviceFunction barIndex info =>
      match allocateBar policy deviceFunction barIndex info state.allocator with
      | .ok (allocator, write) =>
          .next { state with allocator, writes := state.writes ++ write.toList }
      | .error panic => .panic state panic
  | .enable deviceFunction => .next { state with enabled := state.enabled ++ [deviceFunction] }

/-- **Inversion of a step that panics.** It panics before it writes anything,
either on the failed read of a device's BARs or where one BAR's allocation
panics. -/
theorem initPciStep_eq_panic {policy : AllocPolicy} {state state' : InitState}
    {action : InitAction} {message : Panic}
    (panicked : initPciStep policy state action = .panic state' message) :
    state' = state ∧ (message = .unwrapErr .pciError ∨
      ∃ deviceFunction barIndex info,
        allocateBar policy deviceFunction barIndex info state.allocator = .error message) := by
  cases action with
  | barsFailed =>
      simp only [initPciStep, Loop.Step.panic.injEq] at panicked
      exact ⟨panicked.1.symm, Or.inl panicked.2.symm⟩
  | enable deviceFunction => simp [initPciStep] at panicked
  | bar deviceFunction barIndex info =>
      simp only [initPciStep] at panicked
      cases allocated : allocateBar policy deviceFunction barIndex info state.allocator with
      | ok result => simp [allocated] at panicked
      | error panic =>
          simp only [allocated, Loop.Step.panic.injEq] at panicked
          obtain ⟨rfl, rfl⟩ := panicked
          exact ⟨rfl, Or.inr ⟨deviceFunction, barIndex, info, allocated⟩⟩

/-- A step of `init_pci` panics before it writes anything. -/
theorem initPciStep_panicsInPlace (policy : AllocPolicy) : Loop.PanicsInPlace (initPciStep policy) :=
  fun _ _ _ _ panicked => (initPciStep_eq_panic panicked).1

/-- `PciRootInfo::init_pci`, over the device functions `enumerate_bus(0)`
yields, each with what reading its BARs gives. An `error` is a panic of
`PciBarAllocator::new`, before any write; otherwise the result is where the
loop halted, `running` once every device function is done. -/
def PciRootInfo.initPci (policy : AllocPolicy) (info : PciRootInfo)
    (functions : List (DeviceFunction × Option (List (Option BarInfo)))) :
    Except Panic (Loop.Halt InitState Empty Panic) := do
  let allocator ← PciBarAllocator.new info.ranges
  let actions := functions.flatMap fun (deviceFunction, bars) => deviceActions deviceFunction bars
  pure (Loop.run (initPciStep policy) ⟨allocator, [], []⟩ actions).1

/-! ### One BAR -/

theorem barLayout_eq_ok {size : Nat} {layout : Layout} (built : barLayout size = .ok layout) :
    size.isPowerOfTwo ∧ layout = ⟨size, size⟩ := by
  unfold barLayout at built
  cases fromSize : Layout.fromSizeAlign size size with
  | none => simp [fromSize] at built
  | some layout' =>
      rw [fromSize] at built
      cases built
      obtain ⟨powerOfTwo, -, rfl⟩ := Layout.fromSizeAlign_eq_some_iff.mp fromSize
      exact ⟨powerOfTwo, rfl⟩

section OneBar

variable {policy : AllocPolicy} {deviceFunction : DeviceFunction} {barIndex : Nat}
  {info : Option BarInfo} {allocator allocator' : PciBarAllocator}

/-- **Inversion of one BAR.** Either nothing is written and the pools stay as
they were, or a block of the BAR's size, a power of two, is drawn from one
pool and written: from the 32-bit pool for a 32-bit BAR, and from the
prefetchable pool only for a prefetchable BAR. -/
theorem allocateBar_eq_ok {write? : Option BarWrite}
    (allocated : allocateBar policy deviceFunction barIndex info allocator =
      .ok (allocator', write?)) :
    (write? = none ∧ allocator' = allocator) ∨
      ∃ write pool, write? = some write ∧ 0 < write.size ∧ write.size.isPowerOfTwo ∧
        PciBarAllocator.DrawnFrom policy allocator allocator' ⟨write.size, write.size⟩
          write.address pool ∧
        (write.addressType = .width32 → pool = .memory32) ∧
        (pool = .prefetchableMemory64 → write.prefetchable = true) := by
  have unchanged : (pure (allocator, none) : Except Panic _) = .ok (allocator', write?) →
      write? = none ∧ allocator' = allocator := by
    intro returned
    cases returned
    exact ⟨rfl, rfl⟩
  unfold allocateBar at allocated
  cases info with
  | none => exact Or.inl (unchanged allocated)
  | some info =>
  cases info with
  | io => exact Or.inl (unchanged allocated)
  | memory addressType prefetchable size =>
  dsimp only at allocated
  by_cases positive : 0 < size
  · rw [if_pos positive, bind_eq_ok] at allocated
    obtain ⟨layout, layoutOk, rest⟩ := allocated
    obtain ⟨powerOfTwo, rfl⟩ := barLayout_eq_ok layoutOk
    cases addressType with
    | width32 =>
        rw [bind_eq_ok] at rest
        obtain ⟨⟨allocation, pools⟩, allocOk, rest⟩ := rest
        cases rest
        obtain ⟨-, drawn⟩ := PciBarAllocator.allocate32_eq_ok allocOk
        refine Or.inr ⟨_, .memory32, rfl, positive, powerOfTwo, drawn, fun _ => rfl, ?_⟩
        intro isPrefetchablePool
        cases isPrefetchablePool
    | width64 =>
        rw [bind_eq_ok] at rest
        obtain ⟨⟨allocation, pools⟩, allocOk, rest⟩ := rest
        cases rest
        obtain ⟨pool, prefetchablePool, -, drawn⟩ := PciBarAllocator.allocate64_eq_ok allocOk
        refine Or.inr ⟨_, pool, rfl, positive, powerOfTwo, drawn, ?_, prefetchablePool⟩
        intro isWidth32
        cases isWidth32
    | below1MiB => cases rest
  · rw [if_neg positive] at allocated
    exact Or.inl (unchanged allocated)

/-- The 32-bit pool never reaches the `u32` conversion panic when its frames
end at 4 GiB at the latest. -/
theorem allocate32_ne_tryFromIntError (withinFrames : policy.WithinFrames)
    (below : ∀ frame ∈ allocator.memory32.frames, frame.stop ≤ limit 32) {size : Nat}
    (powerOfTwo : size.isPowerOfTwo) :
    allocator.allocate32 policy ⟨size, size⟩ ≠ .error (.unwrapErr .tryFromIntError) := by
  unfold PciBarAllocator.allocate32
  cases drawn : allocator.memory32.allocAligned policy size size with
  | none => simp
  | some block =>
      obtain ⟨address, memory32⟩ := block
      obtain ⟨chosen, -⟩ := allocAligned_eq_some drawn
      obtain ⟨frame, member, within⟩ := withinFrames _ _ _ _ chosen
      rw [blockSize_self powerOfTwo] at within
      have positive : 0 < size := Nat.pos_of_isPowerOfTwo powerOfTwo
      have bounds := within (by simp only [AddrRange.ofSize_start, AddrRange.ofSize_stop]; omega)
      simp only [AddrRange.ofSize_start, AddrRange.ofSize_stop] at bounds
      have fits : address < limit 32 := by
        have stopBelow := below frame member
        omega
      simp [fits]

/-- The same for `allocate64`, whose last resort is the 32-bit pool. -/
theorem allocate64_ne_tryFromIntError (withinFrames : policy.WithinFrames)
    (below : ∀ frame ∈ allocator.memory32.frames, frame.stop ≤ limit 32) {size : Nat}
    (powerOfTwo : size.isPowerOfTwo) (prefetchable : Bool) :
    allocator.allocate64 policy ⟨size, size⟩ prefetchable ≠
      .error (.unwrapErr .tryFromIntError) := by
  have fallback : allocator.allocateFallback policy ⟨size, size⟩ ≠
      .error (.unwrapErr .tryFromIntError) := by
    unfold PciBarAllocator.allocateFallback
    cases allocator.memory64.allocAligned policy size size with
    | some block => simp
    | none => exact allocate32_ne_tryFromIntError withinFrames below powerOfTwo
  unfold PciBarAllocator.allocate64
  cases prefetchable with
  | false => exact fallback
  | true =>
      simp only [if_true]
      cases allocator.prefetchableMemory64.allocAligned policy size size with
      | some block => simp
      | none => exact fallback

/-- One BAR never panics converting an address to `u32` when the 32-bit pool
ends at 4 GiB at the latest. -/
theorem allocateBar_ne_tryFromIntError (withinFrames : policy.WithinFrames)
    (below : ∀ frame ∈ allocator.memory32.frames, frame.stop ≤ limit 32) :
    allocateBar policy deviceFunction barIndex info allocator ≠
      .error (.unwrapErr .tryFromIntError) := by
  unfold allocateBar
  cases info with
  | none => simp
  | some info =>
  cases info with
  | io => simp
  | memory addressType prefetchable size =>
  dsimp only
  by_cases positive : 0 < size
  · rw [if_pos positive]
    cases layoutResult : barLayout size with
    | error panic =>
        unfold barLayout at layoutResult
        split at layoutResult <;> cases layoutResult
        simp
    | ok layout =>
        obtain ⟨powerOfTwo, rfl⟩ := barLayout_eq_ok layoutResult
        simp only [ok_bind]
        cases addressType with
        | width32 =>
            cases allocated : allocator.allocate32 policy ⟨size, size⟩ with
            | error panic =>
                simpa [allocated] using
                  allocate32_ne_tryFromIntError withinFrames below powerOfTwo
            | ok result => simp
        | width64 =>
            cases allocated : allocator.allocate64 policy ⟨size, size⟩ prefetchable with
            | error panic =>
                simpa [allocated] using
                  allocate64_ne_tryFromIntError withinFrames below powerOfTwo prefetchable
            | ok result => simp
        | below1MiB => simp
  · simp [positive]

end OneBar

/-- **Inversion of a step that carries on.** Either the pools and the writes
stay as they were, or one block is drawn for a BAR, as `allocateBar_eq_ok`
describes, and written. -/
theorem initPciStep_eq_next {policy : AllocPolicy} {state state' : InitState}
    {action : InitAction} (stepped : initPciStep policy state action = .next state') :
    (state'.allocator = state.allocator ∧ state'.writes = state.writes) ∨
      ∃ write pool, state'.writes = state.writes ++ [write] ∧ 0 < write.size ∧
        write.size.isPowerOfTwo ∧
        PciBarAllocator.DrawnFrom policy state.allocator state'.allocator
          ⟨write.size, write.size⟩ write.address pool ∧
        (write.addressType = .width32 → pool = .memory32) ∧
        (pool = .prefetchableMemory64 → write.prefetchable = true) := by
  cases action with
  | barsFailed => simp [initPciStep] at stepped
  | enable deviceFunction =>
      simp only [initPciStep, Loop.Step.next.injEq] at stepped
      subst stepped
      exact Or.inl ⟨rfl, rfl⟩
  | bar deviceFunction barIndex info =>
      unfold initPciStep at stepped
      cases allocated : allocateBar policy deviceFunction barIndex info state.allocator with
      | error panic => simp [allocated] at stepped
      | ok result =>
          obtain ⟨allocator', write?⟩ := result
          simp only [allocated, Loop.Step.next.injEq] at stepped
          subst stepped
          rcases allocateBar_eq_ok allocated with
            ⟨rfl, rfl⟩ | ⟨write, pool, rfl, positive, powerOfTwo, drawn, width32, prefetchablePool⟩
          · exact Or.inl ⟨rfl, by simp⟩
          · exact Or.inr ⟨write, pool, rfl, positive, powerOfTwo, drawn, width32, prefetchablePool⟩

/-! ### The ranges of a root -/

/-- What is assumed of the ranges of a PCI root: its memory ranges are
identity-mapped and pairwise disjoint, and its 32-bit memory ranges lie below
4 GiB. -/
structure ValidRanges (ranges : List PciRange) : Prop where
  identityMapped : ∀ range ∈ memoryRanges ranges, range.cpuPhysical = range.busAddress
  disjoint : (memoryRanges ranges).Pairwise fun first second =>
    (AddrRange.ofSize first.cpuPhysical first.size).DisjointFrom
      (AddrRange.ofSize second.cpuPhysical second.size)
  below4GiB : ∀ range ∈ ranges, range.rangeType = .memory32 →
    range.cpuPhysical + range.size ≤ limit 32

instance (ranges : List PciRange) : Decidable (ValidRanges ranges) :=
  decidable_of_iff ((∀ range ∈ memoryRanges ranges, range.cpuPhysical = range.busAddress) ∧
      ((memoryRanges ranges).Pairwise fun first second =>
        (AddrRange.ofSize first.cpuPhysical first.size).DisjointFrom
          (AddrRange.ofSize second.cpuPhysical second.size)) ∧
      ∀ range ∈ ranges, range.rangeType = .memory32 → range.cpuPhysical + range.size ≤ limit 32)
    ⟨fun ⟨identityMapped, disjoint, below⟩ => ⟨identityMapped, disjoint, below⟩,
      fun valid => ⟨valid.identityMapped, valid.disjoint, valid.below4GiB⟩⟩

/-- The memory ranges kept are those kept of the memory ranges. -/
theorem memoryRanges_filterMap_trimmedTo (barRangeLimit : Nat) (ranges : List PciRange) :
    memoryRanges (ranges.filterMap (PciRange.trimmedTo barRangeLimit)) =
      (memoryRanges ranges).filterMap (PciRange.trimmedTo barRangeLimit) := by
  induction ranges with
  | nil => rfl
  | cons range rest inductionHypothesis =>
      unfold memoryRanges at *
      cases trimmed : range.trimmedTo barRangeLimit with
      | none =>
          -- only memory ranges are dropped
          have isMemory : range.rangeType.IsMemory := by
            by_contra notMemory
            simp [PciRange.trimmedTo, notMemory] at trimmed
          simp [trimmed, isMemory, inductionHypothesis]
      | some kept =>
          have sameType := PciRange.rangeType_of_trimmedTo trimmed
          by_cases isMemory : range.rangeType.IsMemory <;>
            simp [trimmed, isMemory, sameType, inductionHypothesis]

/-- Trimming keeps the assumptions on a root's ranges. -/
theorem ValidRanges.trimmed {ranges : List PciRange} (valid : ValidRanges ranges)
    (barRangeLimit : Nat) : ValidRanges (ranges.filterMap (PciRange.trimmedTo barRangeLimit)) where
  identityMapped := by
    intro kept member
    rw [memoryRanges_filterMap_trimmedTo] at member
    obtain ⟨range, member, trimmed⟩ := List.mem_filterMap.mp member
    obtain ⟨sameCpu, sameBus, -, -⟩ := PciRange.fields_of_trimmedTo trimmed
    rw [sameCpu, sameBus]
    exact valid.identityMapped range member
  disjoint := by
    rw [memoryRanges_filterMap_trimmedTo]
    refine valid.disjoint.filterMap _ ?_
    intro first second disjoint first' trimmedFirst second' trimmedSecond
    obtain ⟨sameCpu, -, smaller, -⟩ := PciRange.fields_of_trimmedTo trimmedFirst
    obtain ⟨sameCpu', -, smaller', -⟩ := PciRange.fields_of_trimmedTo trimmedSecond
    rw [sameCpu, sameCpu']
    exact disjoint.mono (AddrRange.ofSize_within_of_le smaller)
      (AddrRange.ofSize_within_of_le smaller')
  below4GiB := by
    intro kept member isMemory32
    obtain ⟨range, member, trimmed⟩ := List.mem_filterMap.mp member
    obtain ⟨sameCpu, -, smaller, sameType⟩ := PciRange.fields_of_trimmedTo trimmed
    have below := valid.below4GiB range member (sameType ▸ isMemory32)
    omega

section Pools

variable {ranges : List PciRange}

/-- Frames of different pools come from different memory ranges, so they do
not overlap. -/
theorem disjointFrom_of_mem_spansIn (valid : ValidRanges ranges) {pool pool' : Pool}
    (different : pool ≠ pool') {frame frame' : AddrRange}
    (member : frame ∈ PciBarAllocator.spansIn pool ranges)
    (member' : frame' ∈ PciBarAllocator.spansIn pool' ranges) : frame.DisjointFrom frame' := by
  obtain ⟨range, inRanges, routed, rfl⟩ := PciBarAllocator.mem_spansIn.mp member
  obtain ⟨range', inRanges', routed', rfl⟩ := PciBarAllocator.mem_spansIn.mp member'
  have isMemory : ∀ {range : PciRange} {pool : Pool}, range ∈ ranges → range.pool = some pool →
      range ∈ memoryRanges ranges := by
    intro range pool inRanges routed
    have isSome : range.pool.isSome := by simp [routed]
    exact List.mem_filter.mpr ⟨inRanges, decide_eq_true ((range.pool_isSome_iff).mp isSome)⟩
  have distinct : range ≠ range' := by
    rintro rfl
    exact different (Option.some.inj (routed.symm.trans routed'))
  have symmetric : Std.Symm fun first second : PciRange =>
      (AddrRange.ofSize first.cpuPhysical first.size).DisjointFrom
        (AddrRange.ofSize second.cpuPhysical second.size) :=
    ⟨fun _ _ disjoint => disjoint.symm⟩
  exact valid.disjoint.forall (isMemory inRanges routed) (isMemory inRanges' routed') distinct

/-- Every frame of the 32-bit pool ends at 4 GiB at the latest: a 32-bit range
by assumption, a 64-bit one because it is routed there only below
`u32::MAX`. -/
theorem stop_le_of_mem_spansIn_memory32 (valid : ValidRanges ranges) {frame : AddrRange}
    (member : frame ∈ PciBarAllocator.spansIn .memory32 ranges) : frame.stop ≤ limit 32 := by
  obtain ⟨range, inRanges, routed, rfl⟩ := PciBarAllocator.mem_spansIn.mp member
  have isSome : range.pool.isSome := by simp [routed]
  have isMemory := (range.pool_isSome_iff).mp isSome
  have identity := valid.identityMapped range
    (List.mem_filter.mpr ⟨inRanges, decide_eq_true isMemory⟩)
  simp only [AddrRange.ofSize_stop]
  unfold PciRange.pool at routed
  cases rangeType : range.rangeType with
  | memory32 => exact valid.below4GiB range inRanges rangeType
  | memory64 =>
      rw [rangeType] at routed
      by_cases low : range.busAddress + range.size < u32Max
      · have u32MaxLt : u32Max < limit 32 := by decide
        omega
      · simp only [low, if_false] at routed
        split_ifs at routed <;> cases routed
  | configurationSpace => simp [rangeType] at routed
  | ioSpace => simp [rangeType] at routed

end Pools

/-! ### Where the blocks go -/

/-- Where the blocks `init_pci` writes lie: each is non-empty and aligned to
its size, and lies inside a memory range, routed to the 32-bit pool for a
32-bit BAR and to the prefetchable pool only for a prefetchable BAR; no two
overlap; every 32-bit BAR's block lies below 4 GiB. -/
structure BarsPlaced (ranges : List PciRange) (writes : List BarWrite) : Prop where
  sized : ∀ write ∈ writes, 0 < write.size ∧ AddrRange.Aligned write.address write.size
  inRange : ∀ write ∈ writes, ∃ range ∈ ranges, ∃ pool, range.pool = some pool ∧
    write.block.Within (AddrRange.ofSize range.cpuPhysical range.size) ∧
    (write.addressType = .width32 → pool = .memory32) ∧
    (pool = .prefetchableMemory64 → write.prefetchable = true)
  disjoint : writes.Pairwise fun first second => first.block.DisjointFrom second.block
  below4GiB : ∀ write ∈ writes, write.addressType = .width32 →
    write.address + write.size ≤ limit 32

/-- Drawing a block leaves every pool's frames as they were. -/
theorem PciBarAllocator.frames_of_drawnFrom {policy : AllocPolicy}
    {allocator allocator' : PciBarAllocator} {layout : Layout} {address : Nat} {pool : Pool}
    (drawn : PciBarAllocator.DrawnFrom policy allocator allocator' layout address pool)
    (other : Pool) : (allocator'.get other).frames = (allocator.get other).frames := by
  obtain ⟨frameAllocator, allocatedOk, rfl⟩ := drawn
  by_cases same : other = pool
  · subst same
    rw [PciBarAllocator.get_set_same, frames_of_allocAligned allocatedOk]
  · rw [PciBarAllocator.get_set_other _ _ same]

/-- What `init_pci` keeps while it runs over the ranges `ranges` of its root:
the pools keep the frames `new` gave them, and each pool's blocks lie in its
frames and do not overlap; each write's block was handed out by a pool, the
32-bit pool for a 32-bit BAR and the prefetchable pool only for a
prefetchable BAR; and each write's block is non-empty, aligned to its size,
and clear of every other. -/
structure InitInvariant (ranges : List PciRange) (state : InitState) : Prop where
  frames : ∀ pool, (state.allocator.get pool).frames = PciBarAllocator.spansIn pool ranges
  valid : ∀ pool, (state.allocator.get pool).Valid
  tracked : ∀ write ∈ state.writes, ∃ pool, write.block ∈ (state.allocator.get pool).allocated ∧
    (write.addressType = .width32 → pool = .memory32) ∧
    (pool = .prefetchableMemory64 → write.prefetchable = true)
  sized : ∀ write ∈ state.writes, 0 < write.size ∧ AddrRange.Aligned write.address write.size
  disjoint : state.writes.Pairwise fun first second => first.block.DisjointFrom second.block

section Invariant

variable {policy : AllocPolicy} {ranges : List PciRange} {state : InitState}

theorem initInvariant_routed (ranges : List PciRange) :
    InitInvariant ranges ⟨PciBarAllocator.routed ranges, [], []⟩ where
  frames pool := by rw [PciBarAllocator.get_routed]
  valid pool := by
    rw [PciBarAllocator.get_routed]
    exact ⟨by simp, List.Pairwise.nil⟩
  tracked := by simp
  sized := by simp
  disjoint := List.Pairwise.nil

/-- The 32-bit pool ends at 4 GiB at the latest. -/
theorem InitInvariant.memory32_below (valid : ValidRanges ranges)
    (invariant : InitInvariant ranges state) :
    ∀ frame ∈ state.allocator.memory32.frames, frame.stop ≤ limit 32 := by
  intro frame member
  have inSpans : frame ∈ PciBarAllocator.spansIn .memory32 ranges :=
    invariant.frames .memory32 ▸ member
  exact stop_le_of_mem_spansIn_memory32 valid inSpans

/-- **Freshness across pools.** A block a sound policy hands out of any pool
is clear of every block written so far: of the same pool by the policy's
promise, of another pool because the two pools' frames do not overlap. -/
theorem InitInvariant.disjointFrom_drawn (sound : policy.Sound) (valid : ValidRanges ranges)
    (invariant : InitInvariant ranges state) {pool : Pool} {size address : Nat}
    (chosen : policy (state.allocator.get pool) size size = some address)
    (powerOfTwo : size.isPowerOfTwo) :
    ∀ write ∈ state.writes, write.block.DisjointFrom (AddrRange.ofSize address size) := by
  intro write member
  obtain ⟨pool', inAllocated, -, -⟩ := invariant.tracked write member
  have fresh := sound.fresh _ _ _ _ chosen
  have withinFrame := sound.withinFrames _ _ _ _ chosen
  rw [blockSize_self powerOfTwo] at fresh withinFrame
  by_cases same : pool' = pool
  · subst same
    exact (fresh write.block inAllocated).symm
  · obtain ⟨frame', frameMember', within'⟩ := (invariant.valid pool').withinFrames _ inAllocated
    obtain ⟨frame, frameMember, within⟩ := withinFrame
    rw [invariant.frames] at frameMember frameMember'
    exact (disjointFrom_of_mem_spansIn valid same frameMember' frameMember).mono within' within

/-- **One write.** Drawing a BAR's block from a pool and writing it keeps the
invariant. -/
theorem InitInvariant.draw (sound : policy.Sound) (valid : ValidRanges ranges)
    (invariant : InitInvariant ranges state) {write : BarWrite} {pool : Pool}
    {allocator' : PciBarAllocator} (positive : 0 < write.size)
    (powerOfTwo : write.size.isPowerOfTwo)
    (drawn : PciBarAllocator.DrawnFrom policy state.allocator allocator'
      ⟨write.size, write.size⟩ write.address pool)
    (width32 : write.addressType = .width32 → pool = .memory32)
    (prefetchablePool : pool = .prefetchableMemory64 → write.prefetchable = true) :
    InitInvariant ranges { state with allocator := allocator', writes := state.writes ++ [write] } := by
  have keptFrames := PciBarAllocator.frames_of_drawnFrom drawn
  obtain ⟨frameAllocator, allocatedOk, rfl⟩ := drawn
  obtain ⟨chosen, frameAllocatorEq⟩ := allocAligned_eq_some allocatedOk
  have newBlock : AddrRange.ofSize write.address (blockSize write.size write.size) = write.block := by
    rw [blockSize_self powerOfTwo]
    rfl
  refine ⟨?frames, ?valid, ?tracked, ?sized, ?disjoint⟩
  case frames =>
    intro other
    rw [keptFrames, invariant.frames]
  case valid =>
    intro other
    by_cases same : other = pool
    · subst same
      rw [PciBarAllocator.get_set_same]
      exact (invariant.valid other).allocAligned sound.withinFrames sound.fresh allocatedOk
    · rw [PciBarAllocator.get_set_other _ _ same]
      exact invariant.valid other
  case tracked =>
    intro written member
    rcases List.mem_append.mp member with old | new
    · obtain ⟨pool', inAllocated, width32', prefetchablePool'⟩ := invariant.tracked written old
      refine ⟨pool', ?_, width32', prefetchablePool'⟩
      by_cases same : pool' = pool
      · subst same
        rw [PciBarAllocator.get_set_same, frameAllocatorEq]
        exact List.mem_cons_of_mem _ inAllocated
      · rw [PciBarAllocator.get_set_other _ _ same]
        exact inAllocated
    · rw [List.mem_singleton.mp new]
      refine ⟨pool, ?_, width32, prefetchablePool⟩
      rw [PciBarAllocator.get_set_same, frameAllocatorEq, newBlock]
      exact List.mem_cons_self
  case sized =>
    intro written member
    rcases List.mem_append.mp member with old | new
    · exact invariant.sized written old
    · rw [List.mem_singleton.mp new]
      have aligned := sound.aligned _ _ _ _ chosen
      rw [blockSize_self powerOfTwo] at aligned
      exact ⟨positive, aligned⟩
  case disjoint =>
    refine List.pairwise_append.mpr ⟨invariant.disjoint, List.pairwise_singleton _ _, ?_⟩
    intro written old new member
    rw [List.mem_singleton.mp member]
    exact invariant.disjointFrom_drawn sound valid chosen powerOfTwo written old

/-- The invariant reads only the pools and the writes. -/
theorem InitInvariant.of_same (invariant : InitInvariant ranges state) {state' : InitState}
    (sameAllocator : state'.allocator = state.allocator) (sameWrites : state'.writes = state.writes) :
    InitInvariant ranges state' where
  frames := by rw [sameAllocator]; exact invariant.frames
  valid := by rw [sameAllocator]; exact invariant.valid
  tracked := by rw [sameAllocator, sameWrites]; exact invariant.tracked
  sized := by rw [sameWrites]; exact invariant.sized
  disjoint := by rw [sameWrites]; exact invariant.disjoint

/-- **Step lemma.** Every step of `init_pci` that carries on keeps the
invariant. -/
theorem InitInvariant.step (sound : policy.Sound) (valid : ValidRanges ranges)
    (invariant : InitInvariant ranges state) {action : InitAction} {state' : InitState}
    (stepped : initPciStep policy state action = .next state') : InitInvariant ranges state' := by
  rcases initPciStep_eq_next stepped with
    ⟨sameAllocator, sameWrites⟩ |
      ⟨write, pool, written, positive, powerOfTwo, drawn, width32, prefetchablePool⟩
  · exact invariant.of_same sameAllocator sameWrites
  · exact (invariant.draw sound valid positive powerOfTwo drawn width32 prefetchablePool).of_same
      rfl written

/-- No step of `init_pci` from a state of the invariant panics converting an
address to `u32`. -/
theorem InitInvariant.panic_ne_tryFromIntError (sound : policy.Sound)
    (valid : ValidRanges ranges) (invariant : InitInvariant ranges state) {action : InitAction}
    {state' : InitState} {message : Panic}
    (panicked : initPciStep policy state action = .panic state' message) :
    message ≠ .unwrapErr .tryFromIntError := by
  rcases (initPciStep_eq_panic panicked).2 with failedRead | ⟨deviceFunction, barIndex, info, allocated⟩
  · rw [failedRead]
    simp
  · intro isConversion
    rw [isConversion] at allocated
    exact allocateBar_ne_tryFromIntError sound.withinFrames (invariant.memory32_below valid) allocated

/-- Where the blocks written so far lie. -/
theorem InitInvariant.barsPlaced (valid : ValidRanges ranges)
    (invariant : InitInvariant ranges state) : BarsPlaced ranges state.writes where
  sized := invariant.sized
  inRange := by
    intro write member
    obtain ⟨pool, inAllocated, width32, prefetchablePool⟩ := invariant.tracked write member
    obtain ⟨frame, frameMember, within⟩ := (invariant.valid pool).withinFrames _ inAllocated
    rw [invariant.frames] at frameMember
    obtain ⟨range, inRanges, routed, rfl⟩ := PciBarAllocator.mem_spansIn.mp frameMember
    exact ⟨range, inRanges, pool, routed, within, width32, prefetchablePool⟩
  disjoint := invariant.disjoint
  below4GiB := by
    intro write member isWidth32
    obtain ⟨pool, inAllocated, width32, -⟩ := invariant.tracked write member
    obtain ⟨frame, frameMember, within⟩ := (invariant.valid pool).withinFrames _ inAllocated
    rw [invariant.frames, width32 isWidth32] at frameMember
    have stopBelow := stop_le_of_mem_spansIn_memory32 valid frameMember
    have positive := (invariant.sized write member).1
    have bounds := within (by simp only [BarWrite.block, AddrRange.ofSize_start,
      AddrRange.ofSize_stop]; omega)
    simp only [BarWrite.block, AddrRange.ofSize_stop] at bounds
    omega

end Invariant

/-! ### Coverage: what an allocator that stays in its frames gives -/

/-- What `init_pci` keeps when the policy is only known to stay inside its
frames: every block written lies inside a memory range of the root. -/
structure InitCoverage (ranges : List PciRange) (state : InitState) : Prop where
  frames : ∀ pool, (state.allocator.get pool).frames = PciBarAllocator.spansIn pool ranges
  covered : ∀ write ∈ state.writes, ∃ range ∈ memoryRanges ranges,
    write.block.Within (AddrRange.ofSize range.cpuPhysical range.size)

section Coverage

variable {policy : AllocPolicy} {ranges : List PciRange} {state : InitState}

theorem initCoverage_routed (ranges : List PciRange) :
    InitCoverage ranges ⟨PciBarAllocator.routed ranges, [], []⟩ where
  frames pool := by rw [PciBarAllocator.get_routed]
  covered := by simp

/-- A block drawn from a pool whose frames are the spans of its ranges lies
inside one of the memory ranges. -/
theorem within_memoryRange_of_drawnFrom (withinFrames : policy.WithinFrames)
    {allocator allocator' : PciBarAllocator} {size address : Nat} {pool : Pool}
    (frames : (allocator.get pool).frames = PciBarAllocator.spansIn pool ranges)
    (drawn : PciBarAllocator.DrawnFrom policy allocator allocator' ⟨size, size⟩ address pool)
    (powerOfTwo : size.isPowerOfTwo) :
    ∃ range ∈ memoryRanges ranges,
      (AddrRange.ofSize address size).Within (AddrRange.ofSize range.cpuPhysical range.size) := by
  obtain ⟨frameAllocator, allocatedOk, -⟩ := drawn
  obtain ⟨chosen, -⟩ := allocAligned_eq_some allocatedOk
  obtain ⟨frame, frameMember, within⟩ := withinFrames _ _ _ _ chosen
  rw [blockSize_self powerOfTwo] at within
  rw [frames] at frameMember
  obtain ⟨range, inRanges, routed, rfl⟩ := PciBarAllocator.mem_spansIn.mp frameMember
  have isSome : range.pool.isSome := by simp [routed]
  exact ⟨range, List.mem_filter.mpr ⟨inRanges, decide_eq_true ((range.pool_isSome_iff).mp isSome)⟩,
    within⟩

/-- **Step lemma for coverage.** -/
theorem InitCoverage.step (withinFrames : policy.WithinFrames)
    (coverage : InitCoverage ranges state) {action : InitAction} {state' : InitState}
    (stepped : initPciStep policy state action = .next state') : InitCoverage ranges state' := by
  rcases initPciStep_eq_next stepped with
    ⟨sameAllocator, sameWrites⟩ | ⟨write, pool, written, -, powerOfTwo, drawn, -, -⟩
  · exact ⟨by rw [sameAllocator]; exact coverage.frames, by rw [sameWrites]; exact coverage.covered⟩
  · refine ⟨fun other => ?_, ?_⟩
    · rw [PciBarAllocator.frames_of_drawnFrom drawn, coverage.frames]
    · intro written' member
      rw [written] at member
      rcases List.mem_append.mp member with old | new
      · exact coverage.covered written' old
      · rw [List.mem_singleton.mp new]
        exact within_memoryRange_of_drawnFrom withinFrames (coverage.frames pool) drawn
          powerOfTwo

/-- **Coverage of a run.** With a policy that stays inside its frames, every
block `init_pci` writes, wherever it halts, lies inside a memory range of the
root. -/
theorem PciRootInfo.initPci_covered (withinFrames : policy.WithinFrames) {info : PciRootInfo}
    {functions : List (DeviceFunction × Option (List (Option BarInfo)))}
    {halt : Loop.Halt InitState Empty Panic} (ran : info.initPci policy functions = .ok halt) :
    ∀ state ∈ halt.state?, ∀ write ∈ state.writes, ∃ range ∈ memoryRanges info.ranges,
      write.block.Within (AddrRange.ofSize range.cpuPhysical range.size) := by
  unfold PciRootInfo.initPci at ran
  rw [bind_eq_ok] at ran
  obtain ⟨allocator, started, ran⟩ := ran
  obtain ⟨-, rfl⟩ := PciBarAllocator.new_eq_ok_iff.mp started
  rw [pure_eq_ok, Except.ok.injEq] at ran
  subst ran
  intro state halted
  exact (Loop.run_invariant (fun _ _ _ coverage stepped => coverage.step withinFrames stepped)
    (initPciStep_panicsInPlace policy) _ (initCoverage_routed info.ranges) state halted).covered

end Coverage

/-! ### `init_pci` -/

/-- What `init_pci` guarantees for a root: it gets past
`PciBarAllocator::new`, wherever it halts the blocks it has written are
placed well, and it never panics converting an address to `u32`. -/
structure InitPciPlaces (policy : AllocPolicy) (info : PciRootInfo)
    (functions : List (DeviceFunction × Option (List (Option BarInfo)))) : Prop where
  started : ∃ halt, info.initPci policy functions = .ok halt
  placed : ∀ halt, info.initPci policy functions = .ok halt →
    ∀ state ∈ halt.state?, BarsPlaced info.ranges state.writes
  noConversionPanic : ∀ halt, info.initPci policy functions = .ok halt →
    ∀ state, halt ≠ .panicked state (.unwrapErr .tryFromIntError)

/-- The kept ranges of a root built from ranges that meet the assumptions
meet them too, and `new` accepts them. -/
theorem PciRootInfo.validRanges_of_forFdtNode {pciNode : FdtNode} {cam : Cam}
    {barRangeLimit : Nat} {info : PciRootInfo} (limitFits : barRangeLimit < limit 64)
    (built : PciRootInfo.forFdtNode pciNode cam barRangeLimit = .ok info)
    (assumed : ∃ fdtRanges ranges, pciNode.ranges = some fdtRanges ∧
      fdtRanges.mapM PciRange.from = .ok ranges ∧ ValidRanges ranges) :
    ValidRanges info.ranges ∧
      PciBarAllocator.new info.ranges = .ok (PciBarAllocator.routed info.ranges) := by
  obtain ⟨fdtRanges, ranges, hasRanges, decoded, keptRanges⟩ := PciRootInfo.forFdtNode_ranges built
  obtain ⟨fdtRanges', ranges', hasRanges', decoded', valid⟩ := assumed
  -- the node has one list of ranges, and it decodes one way
  obtain rfl : fdtRanges' = fdtRanges := Option.some.inj (hasRanges'.symm.trans hasRanges)
  obtain rfl : ranges' = ranges := Except.ok.inj (decoded'.symm.trans decoded)
  have validKept : ValidRanges info.ranges := keptRanges ▸ valid.trimmed barRangeLimit
  have admissible : ∀ range ∈ info.ranges, range.Admissible := by
    intro range member isMemory
    have isKept : range ∈ memoryRanges info.ranges :=
      List.mem_filter.mpr ⟨member, decide_eq_true isMemory⟩
    exact ⟨validKept.identityMapped range isKept,
      lt_of_le_of_lt (PciRootInfo.end_le_of_forFdtNode built range isKept) limitFits⟩
  exact ⟨validKept, PciBarAllocator.new_eq_ok_iff.mpr ⟨admissible, rfl⟩⟩

/-- **BAR allocation.** For a root that `for_fdt_node` built with a `usize`
limit from ranges that meet the assumptions, and a sound allocator, `init_pci`
places every BAR block well, whatever the devices on the bus report. -/
theorem PciRootInfo.initPci_placesBars {policy : AllocPolicy} (sound : policy.Sound)
    {pciNode : FdtNode} {cam : Cam} {barRangeLimit : Nat} {info : PciRootInfo}
    (limitFits : barRangeLimit < limit 64)
    (built : PciRootInfo.forFdtNode pciNode cam barRangeLimit = .ok info)
    (assumed : ∃ fdtRanges ranges, pciNode.ranges = some fdtRanges ∧
      fdtRanges.mapM PciRange.from = .ok ranges ∧ ValidRanges ranges)
    (functions : List (DeviceFunction × Option (List (Option BarInfo)))) :
    InitPciPlaces policy info functions := by
  obtain ⟨valid, started⟩ := PciRootInfo.validRanges_of_forFdtNode limitFits built assumed
  let actions := functions.flatMap fun (deviceFunction, bars) => deviceActions deviceFunction bars
  have runs : info.initPci policy functions =
      .ok (Loop.run (initPciStep policy) ⟨PciBarAllocator.routed info.ranges, [], []⟩ actions).1 := by
    simp only [PciRootInfo.initPci, started, ok_bind, pure_eq_ok]
    rfl
  have preserved : ∀ state action state', InitInvariant info.ranges state →
      initPciStep policy state action = .next state' → InitInvariant info.ranges state' :=
    fun _ _ _ invariant stepped => invariant.step sound valid stepped
  refine ⟨⟨_, runs⟩, ?_, ?_⟩
  · intro halt result state halted
    rw [runs, Except.ok.injEq] at result
    subst result
    have invariant := Loop.run_invariant preserved (initPciStep_panicsInPlace policy) actions
      (initInvariant_routed info.ranges) state halted
    exact invariant.barsPlaced valid
  · intro halt result state panicked
    rw [runs, Except.ok.injEq] at result
    rw [← result] at panicked
    exact Loop.run_panicked preserved
      (fun _ _ _ _ invariant stepped => invariant.panic_ne_tryFromIntError sound valid stepped)
      actions (initInvariant_routed info.ranges) panicked rfl

/-- A CAM root with one 32-bit window, a bump allocator, and one device with
a 32-bit BAR, an I/O BAR and a prefetchable 64-bit BAR. -/
theorem initPci_placesBars_cam :
    let pciNode : FdtNode := {
      name := "pci@30000000"
      compatible := some [pciCompatible]
      reg := some [⟨0x3000_0000, 0x100_0000⟩]
      ranges := some [⟨0x0200_0000 * 2 ^ 64 + 0x1000_0000, 0x1000_0000, 0x1000_0000⟩]
      children := [] }
    let info : PciRootInfo :=
      ⟨.mmioCam, 0x3000_0000, [⟨0x1000_0000, 0x1000_0000, 0x1000_0000, ⟨0x0200_0000⟩⟩]⟩
    let functions : List (DeviceFunction × Option (List (Option BarInfo))) :=
      [(⟨0, 1, 0⟩, some [some (.memory .width32 false 0x1000), some .io,
        some (.memory .width64 true 0x4000)])]
    bumpPolicy.Sound ∧ (0x4000_0000 : Nat) < limit 64 ∧
      PciRootInfo.forFdtNode pciNode .mmioCam 0x4000_0000 = .ok info ∧
      (∃ fdtRanges ranges, pciNode.ranges = some fdtRanges ∧
        fdtRanges.mapM PciRange.from = .ok ranges ∧ ValidRanges ranges) ∧
      InitPciPlaces bumpPolicy info functions := by
  intro pciNode info functions
  have built : PciRootInfo.forFdtNode pciNode .mmioCam 0x4000_0000 = .ok info := rfl
  have assumed : ∃ fdtRanges ranges, pciNode.ranges = some fdtRanges ∧
      fdtRanges.mapM PciRange.from = .ok ranges ∧ ValidRanges ranges :=
    ⟨_, _, rfl, rfl, by decide⟩
  exact ⟨bumpPolicy_sound, by decide, built, assumed,
    PciRootInfo.initPci_placesBars bumpPolicy_sound (by decide) built assumed functions⟩

end Osdemo.Pci
