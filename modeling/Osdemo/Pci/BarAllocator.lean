import Osdemo.Library.FrameAllocator
import Osdemo.Pci.Range

/-!
Contract: `PciBarAllocator` (`pci.rs`), its three frame allocators, the loop
of `PciBarAllocator::new` that routes a root's memory ranges into them, and
`allocate32` / `allocate64`.

Owns:
- `Pool`, with `get` and `set` on the three allocators;
- `PciRange.pool`, the pool `new` routes a range to, and `PciRange.Admissible`,
  what `new` asserts or needs of a memory range;
- the routing theorem `new_eq_ok_iff`: `new` succeeds exactly when every
  range is admissible, and then each pool holds, in order, the spans of the
  ranges routed to it and nothing else;
- the pool each allocation draws from (`allocate32_eq_ok`, `allocate64_eq_ok`).

The 32-bit test of `new` compares the end of a range with `u32::MAX`
strictly; `new_routes_top_of_4GiB_to_memory64` shows a range that ends at
4 GiB, and so lies inside the 32-bit space, going to a 64-bit pool.
-/

namespace Osdemo.Pci

open Rust

/-- The three allocators of `PciBarAllocator`. -/
inductive Pool where
  | memory32
  | memory64
  | prefetchableMemory64
deriving DecidableEq, Repr

/-- The order of a pool's allocator: `FrameAllocator<32>` for the 32-bit
pool, `FrameAllocator<64>` for the others. -/
def Pool.order : Pool → Nat
  | .memory32 => 32
  | .memory64 => 64
  | .prefetchableMemory64 => 64

/-- `PciBarAllocator`. -/
structure PciBarAllocator where
  memory32 : FrameAllocator
  memory64 : FrameAllocator
  prefetchableMemory64 : FrameAllocator
deriving DecidableEq, Repr

namespace PciBarAllocator

/-- The allocator of a pool. -/
def get (allocator : PciBarAllocator) : Pool → FrameAllocator
  | .memory32 => allocator.memory32
  | .memory64 => allocator.memory64
  | .prefetchableMemory64 => allocator.prefetchableMemory64

/-- Replace the allocator of a pool. -/
def set (allocator : PciBarAllocator) : Pool → FrameAllocator → PciBarAllocator
  | .memory32, pool => { allocator with memory32 := pool }
  | .memory64, pool => { allocator with memory64 := pool }
  | .prefetchableMemory64, pool => { allocator with prefetchableMemory64 := pool }

@[simp] theorem get_set_same (allocator : PciBarAllocator) (pool : Pool)
    (frameAllocator : FrameAllocator) : (allocator.set pool frameAllocator).get pool = frameAllocator := by
  cases pool <;> rfl

@[simp] theorem get_set_other (allocator : PciBarAllocator) {pool other : Pool}
    (frameAllocator : FrameAllocator) (different : other ≠ pool) :
    (allocator.set pool frameAllocator).get other = allocator.get other := by
  cases pool <;> cases other <;> first | rfl | exact absurd rfl different

/-- Add the frame `[start, stop)` to a pool. -/
def addFrameTo (allocator : PciBarAllocator) (pool : Pool) (start stop : Nat) : PciBarAllocator :=
  allocator.set pool ((allocator.get pool).addFrame start stop)

/-- One iteration of the loop of `PciBarAllocator::new`. -/
def addRange (allocator : PciBarAllocator) (range : PciRange) : Except Panic PciBarAllocator := do
  match ← range.flags.rangeType with
  | .memory32 =>
      if range.cpuPhysical ≠ range.busAddress then throw .assertEqFailed
      let stop ← addChecked 64 range.cpuPhysical range.size
      pure (allocator.addFrameTo .memory32 range.cpuPhysical stop)
  | .memory64 =>
      if range.cpuPhysical ≠ range.busAddress then throw .assertEqFailed
      let busEnd ← addChecked 64 range.busAddress range.size
      -- A 64-bit range entirely within the 32-bit address space is treated as
      -- a 32-bit range.
      let pool :=
        if busEnd < u32Max then Pool.memory32
        else if range.flags.prefetchable then Pool.prefetchableMemory64
        else Pool.memory64
      let stop ← addChecked 64 range.cpuPhysical range.size
      pure (allocator.addFrameTo pool range.cpuPhysical stop)
  | _ => pure allocator

/-- The three empty allocators `new` starts from. -/
def empty : PciBarAllocator :=
  ⟨FrameAllocator.new 32, FrameAllocator.new 64, FrameAllocator.new 64⟩

@[simp] theorem get_empty (pool : Pool) : empty.get pool = FrameAllocator.new pool.order := by
  cases pool <;> rfl

/-- `PciBarAllocator::new(ranges)`. -/
def new (ranges : List PciRange) : Except Panic PciBarAllocator :=
  ranges.foldlM addRange empty

end PciBarAllocator

/-! ### The routing -/

namespace PciRange

/-- The pool `PciBarAllocator::new` routes a range to; configuration and I/O
space ranges go nowhere. -/
def pool (range : PciRange) : Option Pool :=
  match range.rangeType with
  | .memory32 => some .memory32
  | .memory64 =>
      if range.busAddress + range.size < u32Max then some .memory32
      else if range.flags.prefetchable then some .prefetchableMemory64
      else some .memory64
  | _ => none

/-- What `PciBarAllocator::new` asserts or needs of a memory range: the
identity bus mapping, and an end that fits `usize`. -/
def Admissible (range : PciRange) : Prop :=
  range.rangeType.IsMemory → range.cpuPhysical = range.busAddress ∧
    range.cpuPhysical + range.size < limit 64

instance (range : PciRange) : Decidable range.Admissible :=
  inferInstanceAs (Decidable (_ → _))

theorem pool_isSome_iff (range : PciRange) : range.pool.isSome ↔ range.rangeType.IsMemory := by
  unfold pool PciRangeType.IsMemory
  cases range.rangeType <;> simp
  split_ifs <;> simp

end PciRange

namespace PciBarAllocator

/-- What one iteration of `new` does to an admissible range. -/
def routeRange (allocator : PciBarAllocator) (range : PciRange) : PciBarAllocator :=
  match range.pool with
  | some pool => allocator.addFrameTo pool range.cpuPhysical (range.cpuPhysical + range.size)
  | none => allocator

/-- **Inversion of one iteration.** It succeeds exactly on an admissible
range, and then routes it. -/
theorem addRange_eq_ok_iff {allocator allocator' : PciBarAllocator} {range : PciRange} :
    allocator.addRange range = .ok allocator' ↔
      range.Admissible ∧ allocator' = allocator.routeRange range := by
  unfold addRange routeRange PciRange.pool PciRange.Admissible PciRangeType.IsMemory
  rw [range.flags_rangeType, ok_bind]
  cases range.rangeType with
  | configurationSpace => simp [eq_comm]
  | ioSpace => simp [eq_comm]
  | memory32 =>
      by_cases identity : range.cpuPhysical = range.busAddress
      · simp only [identity, ne_eq, not_true_eq_false, if_false, bind_eq_ok, addChecked_ok_iff,
          pure_eq_ok, Except.ok.injEq]
        constructor
        · rintro ⟨stop, ⟨fits, rfl⟩, rfl⟩
          exact ⟨fun _ => ⟨trivial, fits⟩, rfl⟩
        · rintro ⟨admissible, rfl⟩
          exact ⟨_, ⟨(admissible (Or.inl trivial)).2, rfl⟩, rfl⟩
      · simp [identity]
  | memory64 =>
      by_cases identity : range.cpuPhysical = range.busAddress
      · simp only [identity, ne_eq, not_true_eq_false, if_false, bind_eq_ok, addChecked_ok_iff,
          pure_eq_ok, Except.ok.injEq]
        constructor
        · rintro ⟨busEnd, ⟨fits, rfl⟩, stop, ⟨-, rfl⟩, rfl⟩
          exact ⟨fun _ => ⟨trivial, fits⟩, by split_ifs <;> rfl⟩
        · rintro ⟨admissible, rfl⟩
          have fits := (admissible (Or.inr trivial)).2
          exact ⟨_, ⟨fits, rfl⟩, _, ⟨fits, rfl⟩, by split_ifs <;> rfl⟩
      · simp [identity]

/-- `new` over a list from any allocator: it succeeds exactly when every
range is admissible, and then routes them in order. -/
theorem foldlM_addRange_eq_ok_iff (ranges : List PciRange) :
    ∀ {allocator allocator' : PciBarAllocator}, ranges.foldlM addRange allocator = .ok allocator' ↔
      (∀ range ∈ ranges, range.Admissible) ∧ allocator' = ranges.foldl routeRange allocator := by
  induction ranges with
  | nil => simp [eq_comm]
  | cons range rest inductionHypothesis =>
      intro allocator allocator'
      simp only [List.foldlM_cons, bind_eq_ok, addRange_eq_ok_iff, inductionHypothesis,
        List.mem_cons, forall_eq_or_imp, List.foldl_cons]
      constructor
      · rintro ⟨_, ⟨admissible, rfl⟩, restAdmissible, rfl⟩
        exact ⟨⟨admissible, restAdmissible⟩, rfl⟩
      · rintro ⟨⟨admissible, restAdmissible⟩, rfl⟩
        exact ⟨_, ⟨admissible, rfl⟩, restAdmissible, rfl⟩

/-- `new` without its panics: every range routed in turn. -/
def routed (ranges : List PciRange) : PciBarAllocator := ranges.foldl routeRange empty

/-- **Routing.** `new` succeeds exactly when every range is admissible, and
then builds `routed ranges`. -/
theorem new_eq_ok_iff {ranges : List PciRange} {allocator : PciBarAllocator} :
    new ranges = .ok allocator ↔
      (∀ range ∈ ranges, range.Admissible) ∧ allocator = routed ranges :=
  foldlM_addRange_eq_ok_iff ranges

/-- The spans of the ranges routed to a pool, in order. -/
def spansIn (pool : Pool) (ranges : List PciRange) : List AddrRange :=
  (ranges.filter fun range => range.pool = some pool).map fun range =>
    AddrRange.ofSize range.cpuPhysical range.size

theorem mem_spansIn {pool : Pool} {ranges : List PciRange} {frame : AddrRange} :
    frame ∈ spansIn pool ranges ↔ ∃ range ∈ ranges, range.pool = some pool ∧
      frame = AddrRange.ofSize range.cpuPhysical range.size := by
  simp only [spansIn, List.mem_map, List.mem_filter, decide_eq_true_eq]
  constructor
  · rintro ⟨range, ⟨member, routedHere⟩, rfl⟩
    exact ⟨range, member, routedHere, rfl⟩
  · rintro ⟨range, member, routedHere, rfl⟩
    exact ⟨range, ⟨member, routedHere⟩, rfl⟩

theorem get_routeRange (allocator : PciBarAllocator) (range : PciRange) (pool : Pool) :
    (allocator.routeRange range).get pool =
      if range.pool = some pool then
        (allocator.get pool).addFrame range.cpuPhysical (range.cpuPhysical + range.size)
      else allocator.get pool := by
  unfold routeRange
  cases routedTo : range.pool with
  | none => simp
  | some target =>
      by_cases same : target = pool
      · subst same
        simp [addFrameTo]
      · simp [addFrameTo, same, Ne.symm same]

theorem get_foldl_routeRange (ranges : List PciRange) :
    ∀ (allocator : PciBarAllocator) (pool : Pool),
      (ranges.foldl routeRange allocator).get pool =
        { allocator.get pool with frames := (allocator.get pool).frames ++ spansIn pool ranges } := by
  induction ranges with
  | nil => intro allocator pool; simp [spansIn]
  | cons range rest inductionHypothesis =>
      intro allocator pool
      rw [List.foldl_cons, inductionHypothesis, get_routeRange]
      by_cases routedHere : range.pool = some pool
      · simp [routedHere, spansIn, FrameAllocator.addFrame, AddrRange.ofSize]
      · simp [routedHere, spansIn]

/-- Each pool of `routed ranges` has the spans of the ranges routed to it as
its frames, and has handed nothing out. -/
theorem get_routed (ranges : List PciRange) (pool : Pool) :
    (routed ranges).get pool = ⟨pool.order, spansIn pool ranges, []⟩ := by
  rw [routed, get_foldl_routeRange]
  simp [FrameAllocator.new]

/-- A 64-bit non-prefetchable range that ends exactly at 4 GiB lies inside
the 32-bit address space, yet `new` adds it to `memory64`: the test
`bus_address + size < u32::MAX` is off at the top of the 32-bit space. -/
theorem new_routes_top_of_4GiB_to_memory64 :
    let range : PciRange := ⟨0xC000_0000, 0xC000_0000, 0x4000_0000, ⟨0x0300_0000⟩⟩
    range.rangeType = .memory64 ∧ range.busAddress + range.size ≤ 2 ^ 32 ∧
      new [range] = .ok ⟨⟨32, [], []⟩, ⟨64, [⟨0xC000_0000, 0x1_0000_0000⟩], []⟩, ⟨64, [], []⟩⟩ := by
  refine ⟨by decide, by decide, ?_⟩
  rfl

/-! ### Allocating BARs -/

open FrameAllocator in
/-- `PciBarAllocator::allocate32`: a block from the 32-bit pool, whose start
must fit a `u32`. -/
def allocate32 (policy : AllocPolicy) (allocator : PciBarAllocator) (layout : Layout) :
    Except Panic (Nat × PciBarAllocator) :=
  match allocator.memory32.allocAligned policy layout.size layout.align with
  | none => .error (.explicit "Failed to allocate PCI BAR")
  | some (address, memory32) =>
      if address < limit 32 then .ok (address, { allocator with memory32 })
      else .error (.unwrapErr .tryFromIntError)

open FrameAllocator in
/-- The path of `allocate64` past the prefetchable pool: the 64-bit pool, and
if that fails the 32-bit pool. A `usize` always fits a `u64`, so the
conversion of a 64-bit block cannot fail. -/
def allocateFallback (policy : AllocPolicy) (allocator : PciBarAllocator) (layout : Layout) :
    Except Panic (Nat × PciBarAllocator) :=
  match allocator.memory64.allocAligned policy layout.size layout.align with
  | some (address, memory64) => .ok (address, { allocator with memory64 })
  | none => allocate32 policy allocator layout

open FrameAllocator in
/-- `PciBarAllocator::allocate64`: the prefetchable pool first, for a
prefetchable BAR only; if that fails, fall back to non-prefetchable. -/
def allocate64 (policy : AllocPolicy) (allocator : PciBarAllocator) (layout : Layout)
    (prefetchable : Bool) : Except Panic (Nat × PciBarAllocator) :=
  if prefetchable then
    match allocator.prefetchableMemory64.allocAligned policy layout.size layout.align with
    | some (address, prefetchableMemory64) => .ok (address, { allocator with prefetchableMemory64 })
    | none => allocateFallback policy allocator layout
  else
    allocateFallback policy allocator layout

/-- An allocation takes one block from `pool` and leaves the other pools as
they were. -/
def DrawnFrom (policy : FrameAllocator.AllocPolicy) (allocator allocator' : PciBarAllocator)
    (layout : Layout) (address : Nat) (pool : Pool) : Prop :=
  ∃ frameAllocator, (allocator.get pool).allocAligned policy layout.size layout.align =
    some (address, frameAllocator) ∧ allocator' = allocator.set pool frameAllocator

/-- **Inversion of `allocate32`.** A block of the 32-bit pool, starting below
4 GiB. -/
theorem allocate32_eq_ok {policy : FrameAllocator.AllocPolicy} {allocator allocator' : PciBarAllocator}
    {layout : Layout} {address : Nat}
    (allocated : allocate32 policy allocator layout = .ok (address, allocator')) :
    address < limit 32 ∧ DrawnFrom policy allocator allocator' layout address .memory32 := by
  unfold allocate32 at allocated
  split at allocated
  · cases allocated
  · rename_i chosen memory32 drawn
    split at allocated
    · cases allocated
      exact ⟨‹_›, ⟨memory32, drawn, rfl⟩⟩
    · cases allocated

/-- **Inversion of the fallback path.** A block of the 64-bit pool, or of the
32-bit pool below 4 GiB. -/
theorem allocateFallback_eq_ok {policy : FrameAllocator.AllocPolicy}
    {allocator allocator' : PciBarAllocator} {layout : Layout} {address : Nat}
    (allocated : allocateFallback policy allocator layout = .ok (address, allocator')) :
    ∃ pool, pool ≠ .prefetchableMemory64 ∧ (pool = .memory32 → address < limit 32) ∧
      DrawnFrom policy allocator allocator' layout address pool := by
  unfold allocateFallback at allocated
  cases drawn : allocator.memory64.allocAligned policy layout.size layout.align with
  | some block =>
      obtain ⟨blockAddress, memory64⟩ := block
      rw [drawn] at allocated
      cases allocated
      refine ⟨.memory64, by decide, ?_, memory64, drawn, rfl⟩
      intro isMemory32
      cases isMemory32
  | none =>
      rw [drawn] at allocated
      obtain ⟨below, drawnFrom⟩ := allocate32_eq_ok allocated
      exact ⟨.memory32, by decide, fun _ => below, drawnFrom⟩

/-- **Inversion of `allocate64`.** A block of one pool: the prefetchable pool
only for a prefetchable BAR, and the 32-bit pool only below 4 GiB. -/
theorem allocate64_eq_ok {policy : FrameAllocator.AllocPolicy} {allocator allocator' : PciBarAllocator}
    {layout : Layout} {prefetchable : Bool} {address : Nat}
    (allocated : allocate64 policy allocator layout prefetchable = .ok (address, allocator')) :
    ∃ pool, (pool = .prefetchableMemory64 → prefetchable = true) ∧
      (pool = .memory32 → address < limit 32) ∧
      DrawnFrom policy allocator allocator' layout address pool := by
  have ofFallback : allocateFallback policy allocator layout = .ok (address, allocator') →
      ∃ pool, (pool = .prefetchableMemory64 → prefetchable = true) ∧
        (pool = .memory32 → address < limit 32) ∧
        DrawnFrom policy allocator allocator' layout address pool := by
    intro fallback
    obtain ⟨pool, notPrefetchable, below, drawnFrom⟩ := allocateFallback_eq_ok fallback
    exact ⟨pool, fun isPrefetchable => absurd isPrefetchable notPrefetchable, below, drawnFrom⟩
  unfold allocate64 at allocated
  cases prefetchable with
  | false => exact ofFallback allocated
  | true =>
      simp only [if_true] at allocated
      cases drawn : allocator.prefetchableMemory64.allocAligned policy layout.size layout.align with
      | some block =>
          obtain ⟨blockAddress, prefetchablePool⟩ := block
          rw [drawn] at allocated
          cases allocated
          refine ⟨.prefetchableMemory64, fun _ => rfl, ?_, prefetchablePool, drawn, rfl⟩
          intro isMemory32
          cases isMemory32
      | none =>
          rw [drawn] at allocated
          exact ofFallback allocated

end PciBarAllocator

end Osdemo.Pci
