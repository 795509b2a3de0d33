import Osdemo.Platform.Fdt
import Osdemo.Platform.IdMap

/-!
Contract: a PCI root's ranges as `PciRange::from` decodes them from the
device tree, and the memory flags of their `phys.hi` cell (`pci.rs`).

A `ranges` entry of a PCI host bridge has a three-cell child address; its
first cell, `phys.hi`, carries the flags. `PciRange::from` keeps that cell as
`PciMemoryFlags`, the low 64 bits of the child address as the bus address,
and the parent address and length as they are.

Owns:
- `PciRangeType`, `PciMemoryFlags` with `prefetchable` and `range_type`;
- the decoding theorem: `range_type` never reaches its panic, and reads bits
  24 and 25 of `phys.hi` (`rangeType_eq_ofBits`); `prefetchable` reads bit 30;
- `PciRange`, `PciRange::from` and `PciRange::memory_region`.
-/

namespace Osdemo.Pci

open Rust Osdemo.Platform

/-- `PciRangeType`. -/
inductive PciRangeType where
  | configurationSpace
  | ioSpace
  | memory32
  | memory64
deriving DecidableEq, Repr

/-- `impl From<u32> for PciRangeType`. -/
def PciRangeType.from (value : UInt32) : Except Panic PciRangeType :=
  match value.toNat with
  | 0 => .ok .configurationSpace
  | 1 => .ok .ioSpace
  | 2 => .ok .memory32
  | 3 => .ok .memory64
  | value => .error (.explicit s!"Tried to convert invalid range type {value}")

/-- The space type that the two bits `ss` of `phys.hi` encode. -/
def PciRangeType.ofBits : Bool → Bool → PciRangeType
  | false, false => .configurationSpace
  | false, true => .ioSpace
  | true, false => .memory32
  | true, true => .memory64

/-- The two memory space types, the ones BARs are allocated from. -/
def PciRangeType.IsMemory (rangeType : PciRangeType) : Prop :=
  rangeType = .memory32 ∨ rangeType = .memory64

instance (rangeType : PciRangeType) : Decidable rangeType.IsMemory :=
  inferInstanceAs (Decidable (_ ∨ _))

/-- `PciMemoryFlags(pub u32)`: the `phys.hi` cell of a range. -/
structure PciMemoryFlags where
  bits : UInt32
deriving DecidableEq, Repr

namespace PciMemoryFlags

/-- `PciMemoryFlags::prefetchable`. -/
def prefetchable (flags : PciMemoryFlags) : Bool := flags.bits &&& 0x4000_0000 != 0

/-- `PciMemoryFlags::range_type`. -/
def rangeType (flags : PciMemoryFlags) : Except Panic PciRangeType :=
  PciRangeType.from ((flags.bits &&& 0x0300_0000) >>> 24)

/-- Bits of a conjunction with a single set bit. -/
private theorem and_two_pow_eq (value bit : Nat) :
    value &&& 2 ^ bit = if value.testBit bit then 2 ^ bit else 0 := by
  apply Nat.eq_of_testBit_eq
  intro index
  rw [Nat.testBit_and, Nat.testBit_two_pow]
  by_cases same : bit = index
  · subst same
    cases value.testBit bit <;> simp
  · cases value.testBit bit <;> simp [same]

/-- The masked field that `range_type` converts has the bits 24 and 25 of the
flags as its bits 0 and 1, and nothing else. -/
private theorem typeField_testBit (flags : PciMemoryFlags) (index : Nat) :
    (((flags.bits &&& 0x0300_0000) >>> 24).toNat).testBit index =
      (decide (index < 2) && flags.bits.toNat.testBit (index + 24)) := by
  have shift : (24 : UInt32).toNat % 32 = 24 := rfl
  have maskValue : (0x0300_0000 : UInt32).toNat = 0x0300_0000 := rfl
  rw [UInt32.toNat_shiftRight, UInt32.toNat_and, shift, maskValue, Nat.testBit_shiftRight,
    Nat.testBit_and]
  have mask : (0x0300_0000 : Nat).testBit (24 + index) = decide (index < 2) := by
    rcases Nat.lt_or_ge index 2 with small | large
    · interval_cases index <;> decide
    · have below : (0x0300_0000 : Nat) < 2 ^ (24 + index) :=
        lt_of_lt_of_le (by decide : (0x0300_0000 : Nat) < 2 ^ 26)
          (Nat.pow_le_pow_right (by decide) (by omega))
      rw [Nat.testBit_lt_two_pow below]
      simp only [Bool.false_eq, decide_eq_false_iff_not, not_lt]
      exact large
  rw [mask, Nat.add_comm 24 index, Bool.and_comm]

private theorem typeField_lt (flags : PciMemoryFlags) :
    ((flags.bits &&& 0x0300_0000) >>> 24).toNat < 4 := by
  have shift : (24 : UInt32).toNat % 32 = 24 := rfl
  have maskValue : (0x0300_0000 : UInt32).toNat = 0x0300_0000 := rfl
  rw [UInt32.toNat_shiftRight, UInt32.toNat_and, shift, maskValue, Nat.shiftRight_eq_div_pow]
  have masked : flags.bits.toNat &&& 0x0300_0000 ≤ 0x0300_0000 := Nat.and_le_right
  omega

/-- **Decoding.** `range_type` never panics: it is the type that bits 25 and
24 of `phys.hi` encode. -/
theorem rangeType_eq_ofBits (flags : PciMemoryFlags) :
    flags.rangeType =
      .ok (PciRangeType.ofBits (flags.bits.toNat.testBit 25) (flags.bits.toNat.testBit 24)) := by
  have bit24 := typeField_testBit flags 0
  have bit25 := typeField_testBit flags 1
  simp only [Nat.zero_add, show 1 + 24 = 25 from rfl, Nat.zero_lt_two, Nat.one_lt_two,
    decide_true, Bool.true_and] at bit24 bit25
  unfold rangeType PciRangeType.from
  have small := typeField_lt flags
  generalize ((flags.bits &&& 0x0300_0000) >>> 24).toNat = field at bit24 bit25 small ⊢
  rw [← bit24, ← bit25]
  interval_cases field <;> rfl

/-- `prefetchable` reads bit 30 of `phys.hi`. -/
theorem prefetchable_eq_testBit (flags : PciMemoryFlags) :
    flags.prefetchable = flags.bits.toNat.testBit 30 := by
  have maskValue : (0x4000_0000 : UInt32).toNat = 2 ^ 30 := rfl
  have masked : (flags.bits &&& 0x4000_0000).toNat =
      if flags.bits.toNat.testBit 30 then 2 ^ 30 else 0 := by
    rw [UInt32.toNat_and, maskValue, and_two_pow_eq]
  unfold prefetchable
  cases testBit30 : flags.bits.toNat.testBit 30
  · rw [testBit30, if_neg (by decide)] at masked
    have isZero : flags.bits &&& 0x4000_0000 = 0 := UInt32.toNat_inj.mp masked
    simp [isZero]
  · rw [testBit30, if_pos rfl] at masked
    have nonzero : flags.bits &&& 0x4000_0000 ≠ 0 := by
      intro isZero
      rw [isZero] at masked
      exact absurd masked (by decide)
    simp [nonzero]

end PciMemoryFlags

/-- `PciRange`. The `usize` fields hold values below `2 ^ 64`. -/
structure PciRange where
  cpuPhysical : Nat
  busAddress : Nat
  size : Nat
  flags : PciMemoryFlags
deriving DecidableEq, Repr

namespace PciRange

/-- `impl From<Range> for PciRange`. Each cell conversion is unwrapped; the
child address is truncated to `usize` for the bus address, and its top cell
(`>> 64`, as `u32`) becomes the flags. -/
def «from» (range : FdtRange) : Except Panic PciRange := do
  let childBusAddress ← cellValue 128 range.childBusAddress
  let cpuPhysical ← cellValue 64 range.parentBusAddress
  let size ← cellValue 64 range.length
  pure {
    cpuPhysical := cpuPhysical
    busAddress := childBusAddress % limit 64
    size := size
    flags := ⟨UInt32.ofNat (childBusAddress / limit 64)⟩ }

/-- The type of the range, once decoded. -/
def rangeType (range : PciRange) : PciRangeType :=
  PciRangeType.ofBits (range.flags.bits.toNat.testBit 25) (range.flags.bits.toNat.testBit 24)

theorem flags_rangeType (range : PciRange) : range.flags.rangeType = .ok range.rangeType :=
  PciMemoryFlags.rangeType_eq_ofBits range.flags

/-- The addresses `[cpu_physical, cpu_physical + size)`, computed with the
overflow-checked `usize` addition of `memory_region`. -/
def span (range : PciRange) : Except Panic AddrRange := do
  let stop ← addChecked 64 range.cpuPhysical range.size
  pure ⟨range.cpuPhysical, stop⟩

/-- `PciRange::memory_region`. -/
def memoryRegion (range : PciRange) : Except Panic AddrRange := do
  let span ← range.span
  MemoryRegion.new span.start span.stop

theorem span_eq_ok {range : PciRange} (fits : range.cpuPhysical + range.size < limit 64) :
    range.span = .ok (AddrRange.ofSize range.cpuPhysical range.size) := by
  simp [span, addChecked_eq_ok fits, AddrRange.ofSize]

/-- `memory_region` does not panic: the range ends above 0 and before the last
page below `2 ^ 64`. -/
def RegionFits (range : PciRange) : Prop :=
  0 < range.cpuPhysical + range.size ∧ range.cpuPhysical + range.size + pageSize ≤ limit 64

instance (range : PciRange) : Decidable range.RegionFits :=
  inferInstanceAs (Decidable (_ ∧ _))

/-- **`memory_region`.** It returns the range rounded out to pages, and
panics exactly when the range ends at 0 or in the last page below `2 ^ 64`:
the sum of `span` overflows only past that page. -/
theorem memoryRegion_eq (range : PciRange) :
    range.memoryRegion = if range.RegionFits
      then .ok (MemoryRegion.rounded range.cpuPhysical (range.cpuPhysical + range.size))
      else .error .arithmeticOverflow := by
  by_cases fits : range.cpuPhysical + range.size < limit 64
  · rw [memoryRegion, span_eq_ok fits, ok_bind, MemoryRegion.new_eq]
    rfl
  · have pagePositive : 0 < pageSize := by decide
    have overflows : ¬ range.cpuPhysical + range.size + pageSize ≤ limit 64 := by omega
    have spanPanics : range.span = .error .arithmeticOverflow := by
      simp [span, addChecked, fits]
    rw [memoryRegion, spanPanics, error_bind, if_neg (fun bounds => overflows bounds.2)]

end PciRange

end Osdemo.Pci
