import Osdemo.Library.AddrRange

/-!
Contract: a frame allocator as its callers see it. Frames are added, then
blocks are allocated from them, and a block handed out may be freed again.

The allocator's bookkeeping is two lists: the frames added, and the blocks
handed out. Where a block goes is the allocator's own choice, the parameter
`AllocPolicy`, which may depend on everything the allocator was told so far.
Its contract, `AllocPolicy.Sound`, is what a buddy allocator promises of a
block: aligned to the block size, inside one frame, and clear of every block
it handed out before. A block of `size` units aligned to `align` takes
`max (size.nextPowerOfTwo) align` units.

Owns: `FrameAllocator`, `addFrame`, `allocAligned`, `dealloc`, the contract,
a policy that meets it (`bumpPolicy`), and the invariant a sound policy keeps
(`Valid`): every block lies in a frame and the blocks are pairwise disjoint.
-/

/-- The bookkeeping of a frame allocator with `order` block sizes. -/
structure FrameAllocator where
  order : Nat
  frames : List AddrRange
  allocated : List AddrRange
deriving DecidableEq, Repr

namespace FrameAllocator

/-- `FrameAllocator::new()`. -/
def new (order : Nat) : FrameAllocator := ⟨order, [], []⟩

/-- `add_frame(start, end)`. -/
def addFrame (allocator : FrameAllocator) (start stop : Nat) : FrameAllocator :=
  { allocator with frames := allocator.frames ++ [⟨start, stop⟩] }

@[simp] theorem addFrame_frames (allocator : FrameAllocator) (start stop : Nat) :
    (allocator.addFrame start stop).frames = allocator.frames ++ [⟨start, stop⟩] := rfl

@[simp] theorem addFrame_allocated (allocator : FrameAllocator) (start stop : Nat) :
    (allocator.addFrame start stop).allocated = allocator.allocated := rfl

/-- The doubling loop of `usize::next_power_of_two`, with enough fuel to
reach any target. -/
def nextPowerOfTwoFrom (target : Nat) : Nat → Nat → Nat
  | 0, power => power
  | fuel + 1, power =>
      if power < target then nextPowerOfTwoFrom target fuel (power * 2) else power

/-- `usize::next_power_of_two`: the least power of two at least `value`. -/
def nextPowerOfTwo (value : Nat) : Nat := nextPowerOfTwoFrom value value 1

private theorem nextPowerOfTwoFrom_two_pow {exponent : Nat} :
    ∀ fuel lower, lower ≤ exponent → exponent - lower ≤ fuel →
      nextPowerOfTwoFrom (2 ^ exponent) fuel (2 ^ lower) = 2 ^ exponent := by
  intro fuel
  induction fuel with
  | zero =>
      intro lower below gap
      have same : lower = exponent := by omega
      subst same
      rfl
  | succ fuel inductionHypothesis =>
      intro lower below gap
      rw [nextPowerOfTwoFrom]
      by_cases smaller : 2 ^ lower < 2 ^ exponent
      · rw [if_pos smaller, ← Nat.pow_succ]
        have lowerLt : lower < exponent := (Nat.pow_lt_pow_iff_right (by decide)).mp smaller
        exact inductionHypothesis (lower + 1) (by omega) (by omega)
      · rw [if_neg smaller]
        have same : lower = exponent := by
          have notLt : ¬ lower < exponent := fun lt => smaller (Nat.pow_lt_pow_right (by decide) lt)
          omega
        rw [same]

theorem nextPowerOfTwo_two_pow (exponent : Nat) : nextPowerOfTwo (2 ^ exponent) = 2 ^ exponent :=
  nextPowerOfTwoFrom_two_pow _ 0 (Nat.zero_le _) (Nat.le_of_lt Nat.lt_two_pow_self)

private theorem nextPowerOfTwoFrom_eq_mul_two_pow (target : Nat) :
    ∀ fuel power, ∃ exponent, nextPowerOfTwoFrom target fuel power = power * 2 ^ exponent
  | 0, power => ⟨0, by simp [nextPowerOfTwoFrom]⟩
  | fuel + 1, power => by
      unfold nextPowerOfTwoFrom
      split_ifs
      · obtain ⟨exponent, doubled⟩ := nextPowerOfTwoFrom_eq_mul_two_pow target fuel (power * 2)
        exact ⟨exponent + 1, by rw [doubled, Nat.pow_succ']; ring⟩
      · exact ⟨0, by simp⟩

theorem nextPowerOfTwo_isPowerOfTwo (value : Nat) : (nextPowerOfTwo value).isPowerOfTwo := by
  obtain ⟨exponent, doubled⟩ := nextPowerOfTwoFrom_eq_mul_two_pow value value 1
  exact ⟨exponent, by rw [nextPowerOfTwo, doubled, one_mul]⟩

-- the doubling stops at the target, or runs out of fuel past it
private theorem le_nextPowerOfTwoFrom (target : Nat) :
    ∀ fuel power, target ≤ power * 2 ^ fuel → target ≤ nextPowerOfTwoFrom target fuel power
  | 0, power, enough => by simpa [nextPowerOfTwoFrom] using enough
  | fuel + 1, power, enough => by
      unfold nextPowerOfTwoFrom
      split_ifs with below
      · apply le_nextPowerOfTwoFrom target fuel (power * 2)
        rw [Nat.mul_assoc, ← Nat.pow_succ']
        exact enough
      · omega

theorem le_nextPowerOfTwo (value : Nat) : value ≤ nextPowerOfTwo value :=
  le_nextPowerOfTwoFrom value value 1 (by rw [one_mul]; exact Nat.lt_two_pow_self.le)

/-- The units a block for `size` units aligned to `align` takes. -/
def blockSize (size align : Nat) : Nat := max (nextPowerOfTwo size) align

/-- A block holds the units asked for. -/
theorem le_blockSize (size align : Nat) : size ≤ blockSize size align :=
  (le_nextPowerOfTwo size).trans (le_max_left _ _)

/-- A block is a multiple of a power-of-two alignment: the larger of two
powers of two is a multiple of the smaller. -/
theorem dvd_blockSize (size : Nat) {align : Nat} (powerOfTwo : align.isPowerOfTwo) :
    align ∣ blockSize size align := by
  obtain ⟨alignExponent, rfl⟩ := powerOfTwo
  obtain ⟨exponent, rounded⟩ := nextPowerOfTwo_isPowerOfTwo size
  unfold blockSize
  rw [rounded]
  rcases le_total exponent alignExponent with smaller | larger
  · rw [max_eq_right (Nat.pow_le_pow_right (by decide) smaller)]
  · rw [max_eq_left (Nat.pow_le_pow_right (by decide) larger)]
    exact Nat.pow_dvd_pow 2 larger

/-- A power-of-two size aligned to itself takes exactly its size. -/
theorem blockSize_self {size : Nat} (powerOfTwo : size.isPowerOfTwo) :
    blockSize size size = size := by
  obtain ⟨exponent, rfl⟩ := powerOfTwo
  unfold blockSize
  rw [nextPowerOfTwo_two_pow, max_self]

/-- Where the allocator puts a block of `size` units aligned to `align`, if
it has room. -/
abbrev AllocPolicy := FrameAllocator → Nat → Nat → Option Nat

/-- `alloc_aligned(layout)`: the start of the block, and the allocator that
has handed it out. -/
def allocAligned (policy : AllocPolicy) (allocator : FrameAllocator) (size align : Nat) :
    Option (Nat × FrameAllocator) :=
  (policy allocator size align).map fun address =>
    (address, { allocator with
      allocated := AddrRange.ofSize address (blockSize size align) :: allocator.allocated })

theorem allocAligned_eq_some {policy : AllocPolicy} {allocator allocator' : FrameAllocator}
    {size align address : Nat}
    (allocated : allocAligned policy allocator size align = some (address, allocator')) :
    policy allocator size align = some address ∧
      allocator' = { allocator with
        allocated := AddrRange.ofSize address (blockSize size align) :: allocator.allocated } := by
  unfold allocAligned at allocated
  cases chosen : policy allocator size align with
  | none => simp [chosen] at allocated
  | some chosenAddress =>
      simp only [chosen, Option.map_some, Option.some.injEq, Prod.mk.injEq] at allocated
      obtain ⟨rfl, rfl⟩ := allocated
      exact ⟨rfl, rfl⟩

/-- Allocating leaves the frames as they were. -/
theorem frames_of_allocAligned {policy : AllocPolicy} {allocator allocator' : FrameAllocator}
    {size align address : Nat}
    (allocated : allocAligned policy allocator size align = some (address, allocator')) :
    allocator'.frames = allocator.frames := by
  obtain ⟨-, rfl⟩ := allocAligned_eq_some allocated
  rfl

/-- `dealloc(ptr, layout)`: the block handed out for them is free again. -/
def dealloc (allocator : FrameAllocator) (block : AddrRange) : FrameAllocator :=
  { allocator with allocated := allocator.allocated.erase block }

@[simp] theorem dealloc_frames (allocator : FrameAllocator) (block : AddrRange) :
    (allocator.dealloc block).frames = allocator.frames := rfl

/-- Freeing one block leaves every other block handed out. -/
theorem mem_dealloc_of_ne {allocator : FrameAllocator} {block other : AddrRange}
    (member : other ∈ allocator.allocated) (different : other ≠ block) :
    other ∈ (allocator.dealloc block).allocated :=
  (List.mem_erase_of_ne different).mpr member

/-! ### The contract of an allocator -/

/-- Every block starts at a multiple of its size. -/
def AllocPolicy.Aligned (policy : AllocPolicy) : Prop :=
  ∀ allocator size align address, policy allocator size align = some address →
    AddrRange.Aligned address (blockSize size align)

/-- Every block lies inside one of the frames added. -/
def AllocPolicy.WithinFrames (policy : AllocPolicy) : Prop :=
  ∀ allocator size align address, policy allocator size align = some address →
    ∃ frame ∈ allocator.frames, (AddrRange.ofSize address (blockSize size align)).Within frame

/-- Every block is clear of every block handed out before. -/
def AllocPolicy.Fresh (policy : AllocPolicy) : Prop :=
  ∀ allocator size align address, policy allocator size align = some address →
    ∀ block ∈ allocator.allocated,
      (AddrRange.ofSize address (blockSize size align)).DisjointFrom block

/-- What a buddy allocator promises of the blocks it hands out. -/
structure AllocPolicy.Sound (policy : AllocPolicy) : Prop where
  aligned : policy.Aligned
  withinFrames : policy.WithinFrames
  fresh : policy.Fresh

/-- What a sound allocator hands out for `size` units aligned to a power of
two `align`: an aligned address whose `size` units lie in a frame, clear of
every block handed out before. -/
theorem AllocPolicy.Sound.allocAligned {policy : AllocPolicy} (sound : policy.Sound)
    {allocator allocator' : FrameAllocator} {size align address : Nat}
    (powerOfTwo : align.isPowerOfTwo)
    (allocated : allocAligned policy allocator size align = some (address, allocator')) :
    AddrRange.Aligned address align ∧
      (∃ frame ∈ allocator.frames, (AddrRange.ofSize address size).Within frame) ∧
      ∀ block ∈ allocator.allocated, (AddrRange.ofSize address size).DisjointFrom block := by
  obtain ⟨chosen, -⟩ := allocAligned_eq_some allocated
  have inBlock : (AddrRange.ofSize address size).Within
      (AddrRange.ofSize address (blockSize size align)) :=
    AddrRange.ofSize_within_of_le (le_blockSize size align)
  refine ⟨AddrRange.Aligned.of_dvd (sound.aligned _ _ _ _ chosen) (dvd_blockSize size powerOfTwo),
    ?_, ?_⟩
  · obtain ⟨frame, member, within⟩ := sound.withinFrames _ _ _ _ chosen
    exact ⟨frame, member, inBlock.trans within⟩
  · intro block member
    exact (sound.fresh _ _ _ _ chosen block member).mono inBlock (AddrRange.within_refl block)

/-- A bump allocator that checks its own result: in the first frame where it
fits, the block goes at the first multiple of its size past every block
handed out so far. -/
def bumpPolicy : AllocPolicy := fun allocator size align =>
  let block := blockSize size align
  let top := allocator.allocated.foldl (fun top allocated => max top allocated.stop) 0
  allocator.frames.findSome? fun frame =>
    let address := AddrRange.alignUp (max frame.start top) block
    if AddrRange.Aligned address block ∧ (AddrRange.ofSize address block).Within frame ∧
        ∀ allocated ∈ allocator.allocated, (AddrRange.ofSize address block).DisjointFrom allocated
    then some address else none

theorem bumpPolicy_eq_some {allocator : FrameAllocator} {size align address : Nat}
    (chosen : bumpPolicy allocator size align = some address) :
    AddrRange.Aligned address (blockSize size align) ∧
      (∃ frame ∈ allocator.frames, (AddrRange.ofSize address (blockSize size align)).Within frame) ∧
      ∀ block ∈ allocator.allocated,
        (AddrRange.ofSize address (blockSize size align)).DisjointFrom block := by
  obtain ⟨frame, member, fits⟩ := List.exists_of_findSome?_eq_some chosen
  dsimp only at fits
  split at fits
  · rename_i checked
    cases fits
    exact ⟨checked.1, ⟨frame, member, checked.2.1⟩, checked.2.2⟩
  · cases fits

theorem bumpPolicy_sound : bumpPolicy.Sound where
  aligned _ _ _ _ chosen := (bumpPolicy_eq_some chosen).1
  withinFrames _ _ _ _ chosen := (bumpPolicy_eq_some chosen).2.1
  fresh _ _ _ _ chosen := (bumpPolicy_eq_some chosen).2.2

/-! ### The invariant of a sound allocator -/

/-- Every block handed out lies in a frame, and no two overlap. -/
structure Valid (allocator : FrameAllocator) : Prop where
  withinFrames : ∀ block ∈ allocator.allocated, ∃ frame ∈ allocator.frames, block.Within frame
  pairwise : allocator.allocated.Pairwise AddrRange.DisjointFrom

theorem new_valid (order : Nat) : (new order).Valid :=
  ⟨by simp [new], List.Pairwise.nil⟩

theorem Valid.addFrame {allocator : FrameAllocator} (valid : allocator.Valid) (start stop : Nat) :
    (allocator.addFrame start stop).Valid := by
  constructor
  · intro block member
    obtain ⟨frame, frameMember, within⟩ := valid.withinFrames block member
    exact ⟨frame, by simp [frameMember], within⟩
  · exact valid.pairwise

theorem Valid.allocAligned {policy : AllocPolicy} (withinFrames : policy.WithinFrames)
    (fresh : policy.Fresh) {allocator allocator' : FrameAllocator} (valid : allocator.Valid)
    {size align address : Nat}
    (allocated : allocAligned policy allocator size align = some (address, allocator')) :
    allocator'.Valid := by
  obtain ⟨chosen, rfl⟩ := allocAligned_eq_some allocated
  constructor
  · intro block member
    rcases List.mem_cons.mp member with isNew | isOld
    · exact isNew ▸ withinFrames allocator size align address chosen
    · exact valid.withinFrames block isOld
  · exact List.Pairwise.cons (fresh allocator size align address chosen) valid.pairwise

theorem Valid.dealloc {allocator : FrameAllocator} (valid : allocator.Valid) (block : AddrRange) :
    (allocator.dealloc block).Valid := by
  constructor
  · intro other member
    exact valid.withinFrames other (List.mem_of_mem_erase member)
  · exact valid.pairwise.sublist (List.erase_sublist)

/-- Two different blocks handed out do not overlap. -/
theorem Valid.disjointFrom {allocator : FrameAllocator} (valid : allocator.Valid)
    {block other : AddrRange} (member : block ∈ allocator.allocated)
    (otherMember : other ∈ allocator.allocated) (different : block ≠ other) :
    block.DisjointFrom other :=
  have : Std.Symm AddrRange.DisjointFrom := ⟨fun _ _ disjoint => disjoint.symm⟩
  valid.pairwise.forall member otherMember different

end FrameAllocator
