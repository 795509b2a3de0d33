import Osdemo.Library.FrameAllocator
import Osdemo.Library.Loop
import Osdemo.Platform.IdMap

/-!
Contract: `secondary_entry.rs`, the stacks of the secondary cores, on the heap
the whole kernel shares.

`start_core_with_stack(mpidr, entry)` takes the entry of `SECONDARY_STACKS`
for `mpidr` with `entry(mpidr).or_default()`, which allocates a
`Box<Stack<4>>` on the heap the first time, and hands its pointer to PSCI
`CPU_ON`. The map is a static and no entry is ever removed, so no stack is
ever freed.

The heap is the global allocator `HEAP_ALLOCATOR`, a buddy allocator,
modelled as a `FrameAllocator` under an `AllocPolicy` that keeps its
contract. The rest of the kernel allocates from it and frees what it
allocated, in any order between starts: a free is of a block its owner
allocated, and no code but the map owns a stack.

Owns: `SecondaryStacks`, `getSecondaryStack`, the system of starts and other
heap traffic (`HeapAction`, `SecondaryStacks.step`), its invariant `Valid`,
and the theorem that over any run each MPIDR has one stack, which it keeps,
live on the heap and clear of every other live block.
-/

namespace Osdemo.Boot

open Rust Osdemo.Platform

/-- `SECONDARY_STACK_PAGE_COUNT`. -/
def secondaryStackPageCount : Nat := 4

/-- The bytes of a `Stack<SECONDARY_STACK_PAGE_COUNT>`, whose pages are
page-aligned. -/
def secondaryStackSize : Nat := secondaryStackPageCount * pageSize

/-- `SECONDARY_STACKS`, each MPIDR with the start of its `Box<Stack<4>>`,
and the heap the stacks come from. -/
structure SecondaryStacks where
  entries : List (UInt64 × Nat)
  heap : FrameAllocator

/-- What the kernel does with the heap, in any order:
`start_core_with_stack(mpidr, entry)` from `start_cpu`, any other allocation
(a `Box`, a `Vec`, a node of a map), and the drop of a block some other
allocation made. -/
inductive HeapAction where
  | startCore (mpidr : UInt64)
  | alloc (size align : Nat)
  | dealloc (block : AddrRange)
deriving DecidableEq, Repr

namespace SecondaryStacks

/-- The block of the heap the stack at `stack` takes. -/
def stackBlock (stack : Nat) : AddrRange := AddrRange.ofSize stack secondaryStackSize

/-- `get_secondary_stack(mpidr)`. `Box::new` calls `handle_alloc_error`
where the heap has no room. -/
def getSecondaryStack (policy : FrameAllocator.AllocPolicy) (state : SecondaryStacks)
    (mpidr : UInt64) : Except Panic (Nat × SecondaryStacks) :=
  match state.entries.lookup mpidr with
  | some stack => pure (stack, state)
  | none =>
      match state.heap.allocAligned policy secondaryStackSize pageSize with
      | some (stack, heap) => pure (stack, ⟨(mpidr, stack) :: state.entries, heap⟩)
      | none => throw (handleAllocError ⟨secondaryStackSize, pageSize⟩)

/-- One action on the heap. A panic halts the kernel, which is left as it
was; an allocation that fails hands its caller a null pointer. -/
def step (policy : FrameAllocator.AllocPolicy) (state : SecondaryStacks) :
    HeapAction → SecondaryStacks
  | .startCore mpidr =>
      match getSecondaryStack policy state mpidr with
      | .ok (_, state') => state'
      | .error _ => state
  | .alloc size align =>
      match state.heap.allocAligned policy size align with
      | some (_, heap) => { state with heap }
      | none => state
  | .dealloc block =>
      -- no drop frees a stack: the map owns them all
      if block ∈ state.entries.map (fun entry => stackBlock entry.2) then state
      else { state with heap := state.heap.dealloc block }

/-- The block of the heap a stack takes: a power of two, larger than its
alignment. -/
theorem blockSize_secondaryStack :
    FrameAllocator.blockSize secondaryStackSize pageSize = secondaryStackSize := by
  have twoPow : secondaryStackSize = 2 ^ 14 := rfl
  rw [FrameAllocator.blockSize, twoPow, FrameAllocator.nextPowerOfTwo_two_pow]
  decide

/-! ### What a start does -/

/-- A start finds the MPIDR's stack, or allocates one for an MPIDR that has
none and adds it to the map. -/
theorem getSecondaryStack_eq_ok {policy : FrameAllocator.AllocPolicy} {state state' : SecondaryStacks}
    {mpidr : UInt64} {stack : Nat}
    (started : getSecondaryStack policy state mpidr = .ok (stack, state')) :
    (state.entries.lookup mpidr = some stack ∧ state' = state) ∨
      (state.entries.lookup mpidr = none ∧ ∃ heap,
        state.heap.allocAligned policy secondaryStackSize pageSize = some (stack, heap) ∧
        state' = ⟨(mpidr, stack) :: state.entries, heap⟩) := by
  unfold getSecondaryStack at started
  split at started
  · rename_i known
    cases started
    exact .inl ⟨known, rfl⟩
  · rename_i unknown
    split at started
    · rename_i heap allocated
      cases started
      exact .inr ⟨unknown, heap, allocated, rfl⟩
    · cases started

/-- Each MPIDR has at most one stack, no two stacks start at one address,
and every stack is live on a heap whose blocks do not overlap. -/
structure Valid (state : SecondaryStacks) : Prop where
  heap : state.heap.Valid
  oneStackEach : (state.entries.map Prod.fst).Nodup
  distinct : (state.entries.map Prod.snd).Nodup
  live : ∀ entry ∈ state.entries, stackBlock entry.2 ∈ state.heap.allocated

theorem initial_valid {heap : FrameAllocator} (valid : heap.Valid) : (⟨[], heap⟩ : SecondaryStacks).Valid where
  heap := valid
  oneStackEach := List.nodup_nil
  distinct := List.nodup_nil
  live _ member := nomatch member

section Policy

variable {policy : FrameAllocator.AllocPolicy} (sound : policy.Sound)
include sound

/-- A stack allocated for an MPIDR that had none keeps the invariant: the
MPIDR is new to the map, and the block, clear of every live one, is clear of
every stack. -/
theorem Valid.allocStack {state : SecondaryStacks} (valid : state.Valid) {mpidr : UInt64}
    (unknown : state.entries.lookup mpidr = none) {stack : Nat} {heap : FrameAllocator}
    (allocated : state.heap.allocAligned policy secondaryStackSize pageSize = some (stack, heap)) :
    (⟨(mpidr, stack) :: state.entries, heap⟩ : SecondaryStacks).Valid := by
  obtain ⟨chosen, rfl⟩ := FrameAllocator.allocAligned_eq_some allocated
  have fresh := sound.fresh _ _ _ _ chosen
  rw [blockSize_secondaryStack] at fresh
  refine ⟨valid.heap.allocAligned sound.withinFrames sound.fresh allocated, ?_, ?_, ?_⟩
  · -- the MPIDR is not yet a key
    refine List.nodup_cons.mpr ⟨fun member => ?_, valid.oneStackEach⟩
    obtain ⟨entry, entryMember, rfl⟩ := List.mem_map.mp member
    have differs := List.lookup_eq_none_iff.mp unknown entry entryMember
    simp at differs
  · -- the new stack overlaps every block at its own address, so no stack is there
    refine List.nodup_cons.mpr ⟨fun member => ?_, valid.distinct⟩
    obtain ⟨entry, entryMember, same⟩ := List.mem_map.mp member
    have disjoint := fresh _ (valid.live entry entryMember)
    rw [same] at disjoint
    exact AddrRange.not_disjointFrom_self (by simp [secondaryStackSize, pageSize,
      secondaryStackPageCount]) disjoint
  · intro entry member
    rcases List.mem_cons.mp member with rfl | old
    · simp [stackBlock, blockSize_secondaryStack]
    · exact List.mem_cons_of_mem _ (valid.live entry old)

theorem Valid.getSecondaryStack {state state' : SecondaryStacks} (valid : state.Valid)
    {mpidr : UInt64} {stack : Nat}
    (started : getSecondaryStack policy state mpidr = .ok (stack, state')) : state'.Valid := by
  rcases getSecondaryStack_eq_ok started with ⟨-, rfl⟩ | ⟨unknown, heap, allocated, rfl⟩
  · exact valid
  · exact valid.allocStack sound unknown allocated

/-- Heap traffic of the rest of the kernel keeps the invariant: a sound heap
stays sound, and every stack stays live. -/
theorem Valid.step {state : SecondaryStacks} (valid : state.Valid) (action : HeapAction) :
    (step policy state action).Valid := by
  cases action with
  | startCore mpidr =>
      dsimp only [SecondaryStacks.step]
      split
      · rename_i started
        exact valid.getSecondaryStack sound started
      · exact valid
  | alloc size align =>
      dsimp only [SecondaryStacks.step]
      split
      · rename_i heap allocated
        refine ⟨valid.heap.allocAligned sound.withinFrames sound.fresh allocated,
          valid.oneStackEach, valid.distinct, fun entry member => ?_⟩
        obtain ⟨-, rfl⟩ := FrameAllocator.allocAligned_eq_some allocated
        exact List.mem_cons_of_mem _ (valid.live entry member)
      · exact valid
  | dealloc block =>
      dsimp only [SecondaryStacks.step]
      split_ifs with isStack
      · exact valid
      · refine ⟨valid.heap.dealloc block, valid.oneStackEach, valid.distinct, fun entry member => ?_⟩
        have different : stackBlock entry.2 ≠ block := by
          rintro rfl
          exact isStack (List.mem_map.mpr ⟨entry, member, rfl⟩)
        exact FrameAllocator.mem_dealloc_of_ne (valid.live entry member) different

end Policy

/-! ### What every run keeps -/

/-- An MPIDR that has a stack keeps it, whatever the next action is. -/
theorem step_lookup_of_lookup (policy : FrameAllocator.AllocPolicy) {state : SecondaryStacks}
    {mpidr : UInt64} {stack : Nat} (known : state.entries.lookup mpidr = some stack)
    (action : HeapAction) : (step policy state action).entries.lookup mpidr = some stack := by
  cases action with
  | startCore started =>
      dsimp only [SecondaryStacks.step]
      split
      · rename_i result startedOk
        rcases getSecondaryStack_eq_ok startedOk with ⟨-, rfl⟩ | ⟨unknown, heap, -, rfl⟩
        · exact known
        · -- the new key had no stack, so it is not this MPIDR
          have different : mpidr ≠ started := by
            rintro rfl
            rw [known] at unknown
            cases unknown
          simp [List.lookup_cons, beq_eq_false_iff_ne.mpr different, known]
      · exact known
  | alloc size align =>
      dsimp only [SecondaryStacks.step]
      split <;> exact known
  | dealloc block =>
      dsimp only [SecondaryStacks.step]
      split_ifs <;> exact known

/-- A start that returns hands out the MPIDR's entry of the map. -/
theorem lookup_of_getSecondaryStack {policy : FrameAllocator.AllocPolicy}
    {state state' : SecondaryStacks} {mpidr : UInt64} {stack : Nat}
    (started : getSecondaryStack policy state mpidr = .ok (stack, state')) :
    state'.entries.lookup mpidr = some stack := by
  rcases getSecondaryStack_eq_ok started with ⟨known, rfl⟩ | ⟨-, heap, -, rfl⟩
  · exact known
  · simp

/-- Two stacks of the map that belong to different MPIDRs do not overlap. -/
theorem Valid.disjointFrom {state : SecondaryStacks} (valid : state.Valid)
    {entry other : UInt64 × Nat} (member : entry ∈ state.entries) (otherMember : other ∈ state.entries)
    (different : entry.1 ≠ other.1) : (stackBlock entry.2).DisjointFrom (stackBlock other.2) := by
  have apart : entry.2 ≠ other.2 := fun same =>
    different (congrArg Prod.fst (List.inj_on_of_nodup_map valid.distinct member otherMember same))
  have blocksApart : stackBlock entry.2 ≠ stackBlock other.2 := fun same =>
    apart (congrArg AddrRange.start same)
  exact valid.heap.disjointFrom (valid.live entry member) (valid.live other otherMember) blocksApart

/-- **A unique stack per MPIDR, never freed.** In every state that starts and
the rest of the kernel's heap traffic reach from a sound heap with no stacks:
each MPIDR has at most one stack; each stack is live on the heap and clear of
every other live block, so of the stack of every other MPIDR; a start that
returns hands out the MPIDR's stack; and an MPIDR keeps its stack through
every action that follows. -/
theorem secondaryStacks_unique_per_mpidr (policy : FrameAllocator.AllocPolicy) (sound : policy.Sound)
    {heap : FrameAllocator} (valid : heap.Valid) {state : SecondaryStacks}
    (reachable : Reachable (step policy) ⟨[], heap⟩ state) :
    (state.entries.map Prod.fst).Nodup ∧
      (∀ entry ∈ state.entries, stackBlock entry.2 ∈ state.heap.allocated ∧
        ∀ block ∈ state.heap.allocated, block ≠ stackBlock entry.2 →
          (stackBlock entry.2).DisjointFrom block) ∧
      (∀ entry ∈ state.entries, ∀ other ∈ state.entries, entry.1 ≠ other.1 →
        (stackBlock entry.2).DisjointFrom (stackBlock other.2)) ∧
      (∀ mpidr stack state', getSecondaryStack policy state mpidr = .ok (stack, state') →
        state'.entries.lookup mpidr = some stack) ∧
      ∀ mpidr stack, state.entries.lookup mpidr = some stack → ∀ action,
        (step policy state action).entries.lookup mpidr = some stack := by
  have invariant : state.Valid :=
    reachable.invariant (initial_valid valid) fun _ action valid => valid.step sound action
  refine ⟨invariant.oneStackEach, fun entry member => ⟨invariant.live entry member, ?_⟩,
    fun entry member other otherMember => invariant.disjointFrom member otherMember,
    fun _ _ _ started => lookup_of_getSecondaryStack started,
    fun _ _ known action => step_lookup_of_lookup policy known action⟩
  intro block blockMember different
  exact invariant.heap.disjointFrom (invariant.live entry member) blockMember (Ne.symm different)

/-- Two cores started around another allocation, on a bump heap of one frame. -/
theorem secondaryStacks_unique_per_mpidr_two_cores :
    let heap := (FrameAllocator.new 32).addFrame 0x40000 0x50000
    let state := [HeapAction.startCore 1, .alloc 64 8, .startCore 2].foldl
      (step FrameAllocator.bumpPolicy) ⟨[], heap⟩
    heap.Valid ∧ Reachable (step FrameAllocator.bumpPolicy) ⟨[], heap⟩ state ∧
      state.entries.length = 2 ∧
      ∀ entry ∈ state.entries, ∀ other ∈ state.entries, entry.1 ≠ other.1 →
        (stackBlock entry.2).DisjointFrom (stackBlock other.2) := by
  intro heap state
  have valid : heap.Valid := (FrameAllocator.new_valid 32).addFrame 0x40000 0x50000
  have reachable : Reachable (step FrameAllocator.bumpPolicy) ⟨[], heap⟩ state :=
    Reachable.of_foldl _ Reachable.initial
  exact ⟨valid, reachable, by decide,
    (secondaryStacks_unique_per_mpidr FrameAllocator.bumpPolicy FrameAllocator.bumpPolicy_sound
      valid reachable).2.2.1⟩

end SecondaryStacks

end Osdemo.Boot
