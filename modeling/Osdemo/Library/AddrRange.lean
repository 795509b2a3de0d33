import Mathlib

/-!
Contract: half-open address ranges `[start, stop)` over natural numbers.

Every region in a memory map has this shape: a `reg` entry of a device tree,
a page-table region, a bus window, a block handed out by an allocator.
Containment and disjointness are stated as inequalities, so that they are
decidable and `omega` closes them; `toSet` and `toFinset` give the addresses
they cover.

Owns:
- `AddrRange`, `Within` (containment) and `DisjointFrom`;
- the outward rounding of a range to a granule (`alignOut`), alignment of an
  address (`Aligned`), and rounding up by the bit trick
  `((address - 1) | (granule - 1)) + 1` for a power of two (`alignUp_eq_or`);
- the room a range has (`size`), and packing: pairwise disjoint ranges inside
  one range are no larger together than it.

Does not own: an address width. Callers bound their addresses themselves.
-/

/-- The addresses `start ≤ a < stop`. -/
structure AddrRange where
  start : Nat
  stop : Nat
deriving DecidableEq, Repr

namespace AddrRange

/-- The `size` addresses from `base` on. -/
def ofSize (base size : Nat) : AddrRange := ⟨base, base + size⟩

@[simp] theorem ofSize_start (base size : Nat) : (ofSize base size).start = base := rfl

@[simp] theorem ofSize_stop (base size : Nat) : (ofSize base size).stop = base + size := rfl

/-- The meaning of a range: the set it covers. -/
def toSet (range : AddrRange) : Set Nat := Set.Ico range.start range.stop

@[simp] theorem mem_toSet {range : AddrRange} {address : Nat} :
    address ∈ range.toSet ↔ range.start ≤ address ∧ address < range.stop :=
  Set.mem_Ico

/-- `inner` lies inside `outer`. An empty range lies inside every range. -/
def Within (inner outer : AddrRange) : Prop :=
  inner.start < inner.stop → outer.start ≤ inner.start ∧ inner.stop ≤ outer.stop

instance (inner outer : AddrRange) : Decidable (inner.Within outer) :=
  inferInstanceAs (Decidable (_ → _))

/-- No address lies in both ranges. -/
def DisjointFrom (left right : AddrRange) : Prop :=
  left.stop ≤ left.start ∨ right.stop ≤ right.start ∨
    left.stop ≤ right.start ∨ right.stop ≤ left.start

instance (left right : AddrRange) : Decidable (left.DisjointFrom right) :=
  inferInstanceAs (Decidable (_ ∨ _))

/-! ### Containment -/

@[simp] theorem within_refl (range : AddrRange) : range.Within range :=
  fun _ => ⟨le_refl _, le_refl _⟩

theorem Within.trans {inner middle outer : AddrRange} (first : inner.Within middle)
    (second : middle.Within outer) : inner.Within outer := by
  intro nonempty
  obtain ⟨startLe, stopLe⟩ := first nonempty
  obtain ⟨startLe', stopLe'⟩ := second (by omega)
  exact ⟨by omega, by omega⟩

/-- Shrinking a range from above keeps it inside the original. -/
theorem ofSize_within_of_le {base size size' : Nat} (smaller : size' ≤ size) :
    (ofSize base size').Within (ofSize base size) :=
  fun _ => ⟨le_refl _, by simp only [ofSize_stop]; omega⟩

/-! ### Disjointness -/

theorem DisjointFrom.symm {left right : AddrRange} (disjoint : left.DisjointFrom right) :
    right.DisjointFrom left := by
  unfold DisjointFrom at *
  omega

/-- Disjointness passes to sub-ranges on both sides. -/
theorem DisjointFrom.mono {left right left' right' : AddrRange}
    (disjoint : left'.DisjointFrom right') (leftWithin : left.Within left')
    (rightWithin : right.Within right') : left.DisjointFrom right := by
  unfold DisjointFrom at *
  by_cases leftEmpty : left.stop ≤ left.start
  · exact Or.inl leftEmpty
  by_cases rightEmpty : right.stop ≤ right.start
  · exact Or.inr (Or.inl rightEmpty)
  obtain ⟨leftStart, leftStop⟩ := leftWithin (by omega)
  obtain ⟨rightStart, rightStop⟩ := rightWithin (by omega)
  omega

/-- A non-empty range is not disjoint from itself. -/
theorem not_disjointFrom_self {range : AddrRange} (nonempty : range.start < range.stop) :
    ¬ range.DisjointFrom range := by
  unfold DisjointFrom
  omega

/-! ### Alignment and rounding -/

/-- `address` is a multiple of `align`. -/
def Aligned (address align : Nat) : Prop := address % align = 0

instance (address align : Nat) : Decidable (Aligned address align) :=
  inferInstanceAs (Decidable (_ = _))

/-- An address aligned to a multiple of `align` is aligned to `align`. -/
theorem Aligned.of_dvd {address align coarser : Nat} (aligned : Aligned address coarser)
    (divides : align ∣ coarser) : Aligned address align :=
  Nat.mod_eq_zero_of_dvd (dvd_trans divides (Nat.dvd_of_mod_eq_zero aligned))

/-- Round down to a multiple of `granule`. -/
def alignDown (address granule : Nat) : Nat := address / granule * granule

/-- Round up to a multiple of `granule`. -/
def alignUp (address granule : Nat) : Nat := (address + granule - 1) / granule * granule

theorem alignDown_le (address granule : Nat) : alignDown address granule ≤ address :=
  Nat.div_mul_le_self address granule

theorem le_alignUp (address : Nat) {granule : Nat} (positive : 0 < granule) :
    address ≤ alignUp address granule := by
  unfold alignUp
  have remainder := Nat.mod_lt (address + granule - 1) positive
  have decomposition := Nat.div_add_mod (address + granule - 1) granule
  rw [Nat.mul_comm] at decomposition
  omega

/-- Rounding up never passes a multiple of the granule at or above the
address. -/
theorem alignUp_le {address bound granule : Nat} (positive : 0 < granule)
    (below : address ≤ bound) (aligned : Aligned bound granule) :
    alignUp address granule ≤ bound := by
  unfold alignUp
  have multiple : bound / granule * granule = bound := Nat.div_mul_cancel (Nat.dvd_of_mod_eq_zero aligned)
  have quotient : (address + granule - 1) / granule < bound / granule + 1 := by
    rw [Nat.div_lt_iff_lt_mul positive, Nat.add_mul, multiple]
    omega
  calc (address + granule - 1) / granule * granule
      ≤ bound / granule * granule := Nat.mul_le_mul_right _ (by omega)
    _ = bound := multiple

/-- Or-ing in the bits below a power of two moves an address to the last one
of its granule. -/
theorem or_two_pow_sub_one (address bits : Nat) :
    address ||| (2 ^ bits - 1) = address / 2 ^ bits * 2 ^ bits + (2 ^ bits - 1) := by
  have positive : 0 < 2 ^ bits := Nat.two_pow_pos bits
  -- the low bits of the address are absorbed by the mask
  have lowBits : address % 2 ^ bits ||| (2 ^ bits - 1) = 2 ^ bits - 1 := by
    apply Nat.eq_of_testBit_eq
    intro index
    rw [Nat.testBit_or, Nat.testBit_two_pow_sub_one]
    by_cases below : index < bits
    · simp [below]
    · have small : address % 2 ^ bits < 2 ^ index :=
        lt_of_lt_of_le (Nat.mod_lt _ positive) (Nat.pow_le_pow_right (by decide) (by omega))
      simp [below, Nat.testBit_lt_two_pow small]
  have mask : 2 ^ bits - 1 < 2 ^ bits := by omega
  calc address ||| (2 ^ bits - 1)
      = (2 ^ bits * (address / 2 ^ bits) ||| address % 2 ^ bits) ||| (2 ^ bits - 1) := by
        rw [← Nat.two_pow_add_eq_or_of_lt (Nat.mod_lt _ positive), Nat.div_add_mod]
    _ = 2 ^ bits * (address / 2 ^ bits) ||| (2 ^ bits - 1) := by rw [Nat.or_assoc, lowBits]
    _ = address / 2 ^ bits * 2 ^ bits + (2 ^ bits - 1) := by
        rw [← Nat.two_pow_add_eq_or_of_lt mask, Nat.mul_comm]

/-- Rounding a positive address up to a power of two is
`((address - 1) | (granule - 1)) + 1`. -/
theorem alignUp_eq_or {address : Nat} (bits : Nat) (positive : 0 < address) :
    alignUp address (2 ^ bits) = ((address - 1) ||| (2 ^ bits - 1)) + 1 := by
  have granulePositive : 0 < 2 ^ bits := Nat.two_pow_pos bits
  have shifted : address + 2 ^ bits - 1 = address - 1 + 2 ^ bits := by omega
  rw [or_two_pow_sub_one, alignUp, shifted, Nat.add_div_right _ granulePositive, Nat.succ_mul]
  omega

/-- The smallest range of whole granules that covers `range`. -/
def alignOut (range : AddrRange) (granule : Nat) : AddrRange :=
  ⟨alignDown range.start granule, alignUp range.stop granule⟩

theorem within_alignOut (range : AddrRange) {granule : Nat} (positive : 0 < granule) :
    range.Within (range.alignOut granule) :=
  fun _ => ⟨alignDown_le _ _, le_alignUp _ positive⟩

/-! ### Room -/

/-- The number of addresses in a range. -/
def size (range : AddrRange) : Nat := range.stop - range.start

@[simp] theorem ofSize_size (base size : Nat) : (ofSize base size).size = size := by
  simp [AddrRange.size]

/-- The addresses of a range, as a finite set. -/
def toFinset (range : AddrRange) : Finset Nat := Finset.Ico range.start range.stop

theorem card_toFinset (range : AddrRange) : range.toFinset.card = range.size :=
  Nat.card_Ico _ _

theorem Within.toFinset_subset {inner outer : AddrRange} (within : inner.Within outer) :
    inner.toFinset ⊆ outer.toFinset := by
  intro address member
  simp only [toFinset, Finset.mem_Ico] at member ⊢
  have bounds := within (by omega)
  omega

theorem DisjointFrom.disjoint_toFinset {left right : AddrRange} (disjoint : left.DisjointFrom right) :
    Disjoint left.toFinset right.toFinset := by
  rw [Finset.disjoint_left]
  intro address inLeft inRight
  simp only [toFinset, Finset.mem_Ico] at inLeft inRight
  unfold DisjointFrom at disjoint
  omega

/-- **Packing.** Pairwise disjoint ranges inside a set of addresses take no
more room than it has. -/
theorem sum_size_le_card {ranges : List AddrRange} (pairwise : ranges.Pairwise DisjointFrom) :
    ∀ {room : Finset Nat}, (∀ range ∈ ranges, range.toFinset ⊆ room) →
      (ranges.map size).sum ≤ room.card := by
  induction pairwise with
  | nil => simp
  | @cons range rest disjoint _ inductionHypothesis =>
      intro room within
      have first := within range List.mem_cons_self
      -- the other ranges lie in what the first leaves of `room`
      have restWithin : ∀ other ∈ rest, other.toFinset ⊆ room \ range.toFinset := by
        intro other member
        rw [Finset.subset_sdiff]
        exact ⟨within other (List.mem_cons_of_mem _ member),
          (disjoint other member).disjoint_toFinset.symm⟩
      calc ((range :: rest).map size).sum = range.toFinset.card + (rest.map size).sum := by
            simp [card_toFinset]
        _ ≤ range.toFinset.card + (room \ range.toFinset).card :=
            Nat.add_le_add_left (inductionHypothesis restWithin) _
        _ = room.card := by rw [Nat.add_comm, Finset.card_sdiff_add_card_eq_card first]

/-- Pairwise disjoint ranges inside `outer` are no larger together than it. -/
theorem sum_size_le_of_within {ranges : List AddrRange} {outer : AddrRange}
    (pairwise : ranges.Pairwise DisjointFrom) (within : ∀ range ∈ ranges, range.Within outer) :
    (ranges.map size).sum ≤ outer.size := by
  rw [← card_toFinset]
  exact sum_size_le_card pairwise fun range member => (within range member).toFinset_subset

end AddrRange
