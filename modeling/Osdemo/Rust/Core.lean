import Mathlib

/-!
Contract: the behaviour of Rust's `core` library that the kernel relies on,
as the library documents it.

The kernel is built with `cargo build`, the debug profile, so integer
overflow checks are on: `a + b` on a fixed-width integer panics when the sum
does not fit. `usize` is 64 bits wide on aarch64.

Owns:
- `Panic`, the ways the modelled code can panic, with the source's text
  wherever the source writes one, and the lemmas that take apart `do` blocks
  over `Except Panic`;
- `addChecked`, `subChecked` and `mulChecked`, overflow-checked arithmetic;
- `Layout.fromSizeAlign`, `handleAllocError` and `nonNull`;
- `parseInteger`, the integer `FromStr` used by `str::parse`;
- `isAsciiControl`, `u8::is_ascii_control`;
- `split`, `str::split` with a `char` pattern.
-/

namespace Rust

/-- The error types whose `Result`s the kernel unwraps: `TryFromIntError`
from a `try_into` between integer types, `LayoutError` from
`Layout::from_size_align`, aarch64-paging's `MapError`, virtio-drivers'
`PciError`, dtoolkit's error for a property value that does not convert, and
virtio-drivers' `Error` from a driver that fails to set up its device. The
panic message of `Result::unwrap` shows the error, so it tells them apart. -/
inductive ErrorType where
  | tryFromIntError
  | layoutError
  | mapError
  | pciError
  | fdtError
  | virtioError
deriving DecidableEq, Repr

/-- Why a Rust program panicked: `panic!`, `assert!`, `expect` or
`unimplemented!` with the source's text; `assert_eq!` or `assert_ne!` without
a message; `Option::unwrap` on `None`; `Result::unwrap` on `Err` of an error
type; an overflow-checked arithmetic operation that overflowed; or a bounded
vector pushed or collected past its capacity. -/
inductive Panic where
  | explicit (text : String)
  | assertEqFailed
  | assertNeFailed
  | unwrapNone
  | unwrapErr (error : ErrorType)
  | arithmeticOverflow
  | capacityExceeded
deriving DecidableEq, Repr

/-! ### Panicking computations

A computation that may panic is an `Except Panic`; these lemmas take apart
its `do` blocks without unfolding `bind`. -/

section Except

variable {ε α β : Type}

@[simp] theorem pure_eq_ok (value : α) : (pure value : Except ε α) = .ok value := rfl

@[simp] theorem throw_eq_error (error : ε) : (throw error : Except ε α) = .error error := rfl

@[simp] theorem ok_bind (value : α) (next : α → Except ε β) :
    (Except.ok value >>= next) = next value := rfl

@[simp] theorem error_bind (error : ε) (next : α → Except ε β) :
    (Except.error error >>= next) = .error error := rfl

theorem bind_eq_ok {first : Except ε α} {next : α → Except ε β} {result : β} :
    first >>= next = .ok result ↔ ∃ value, first = .ok value ∧ next value = .ok result := by
  cases first <;> simp

/-- Every result of a successful `mapM` is the result of one of the items. -/
theorem mem_of_mapM_eq_ok {f : α → Except ε β} :
    ∀ {items : List α} {results : List β}, items.mapM f = .ok results →
      ∀ result ∈ results, ∃ item ∈ items, f item = .ok result := by
  intro items
  induction items with
  | nil =>
      intro results mapped result member
      cases mapped
      simp at member
  | cons item rest inductionHypothesis =>
      intro results mapped result member
      rw [List.mapM_cons, bind_eq_ok] at mapped
      obtain ⟨first, firstOk, mapped⟩ := mapped
      rw [bind_eq_ok] at mapped
      obtain ⟨others, othersOk, mapped⟩ := mapped
      cases mapped
      rcases List.mem_cons.mp member with rfl | later
      · exact ⟨item, List.mem_cons_self, firstOk⟩
      · obtain ⟨other, otherMember, otherOk⟩ := inductionHypothesis othersOk result later
        exact ⟨other, List.mem_cons_of_mem _ otherMember, otherOk⟩

end Except

/-- `2 ^ bits`, one past the largest `bits`-bit unsigned integer. -/
def limit (bits : Nat) : Nat := 2 ^ bits

/-- `u32::MAX`. -/
def u32Max : Nat := limit 32 - 1

/-- `a + b` on `bits`-bit unsigned integers with overflow checks on. -/
def addChecked (bits a b : Nat) : Except Panic Nat :=
  if a + b < limit bits then .ok (a + b) else .error .arithmeticOverflow

theorem addChecked_eq_ok {bits a b : Nat} (fits : a + b < limit bits) :
    addChecked bits a b = .ok (a + b) := by
  simp [addChecked, fits]

theorem addChecked_ok_iff {bits a b sum : Nat} :
    addChecked bits a b = .ok sum ↔ a + b < limit bits ∧ sum = a + b := by
  unfold addChecked
  by_cases fits : a + b < limit bits
  · simp [fits, eq_comm]
  · simp [fits]

/-- `a - b` on unsigned integers with overflow checks on. -/
def subChecked (a b : Nat) : Except Panic Nat :=
  if b ≤ a then .ok (a - b) else .error .arithmeticOverflow

/-- `a * b` on `bits`-bit unsigned integers with overflow checks on. -/
def mulChecked (bits a b : Nat) : Except Panic Nat :=
  if a * b < limit bits then .ok (a * b) else .error .arithmeticOverflow

theorem mulChecked_ok_iff {bits a b product : Nat} :
    mulChecked bits a b = .ok product ↔ a * b < limit bits ∧ product = a * b := by
  unfold mulChecked
  by_cases fits : a * b < limit bits
  · simp [fits, eq_comm]
  · simp [fits]

/-- `core::alloc::Layout`: a size and a power-of-two alignment. -/
structure Layout where
  size : Nat
  align : Nat
deriving DecidableEq, Repr

/-- `Layout::from_size_align(size, align)`: `align` must be a power of two and
`size` at most `isize::MAX + 1 - align`. -/
def Layout.fromSizeAlign (size align : Nat) : Option Layout :=
  if align.isPowerOfTwo ∧ size + align ≤ limit 63 then some ⟨size, align⟩ else none

theorem Layout.fromSizeAlign_eq_some_iff {size align : Nat} {layout : Layout} :
    Layout.fromSizeAlign size align = some layout ↔
      align.isPowerOfTwo ∧ size + align ≤ limit 63 ∧ layout = ⟨size, align⟩ := by
  unfold Layout.fromSizeAlign
  by_cases valid : align.isPowerOfTwo ∧ size + align ≤ limit 63
  · simp [valid, eq_comm]
  · simp only [if_neg valid, reduceCtorEq, false_iff]
    exact fun ⟨powerOfTwo, small, _⟩ => valid ⟨powerOfTwo, small⟩

/-- `handle_alloc_error(layout)`: with no handler of the kernel's own, it
panics with this text. -/
def handleAllocError (layout : Layout) : Panic :=
  .explicit s!"memory allocation of {layout.size} bytes failed"

/-- `NonNull::new(address).unwrap()`. -/
def nonNull (address : Nat) : Except Panic Nat :=
  if address = 0 then .error .unwrapNone else .ok address

theorem nonNull_eq_ok {address result : Nat} (nonNullOk : nonNull address = .ok result) :
    result = address := by
  unfold nonNull at nonNullOk
  split at nonNullOk
  · cases nonNullOk
  · cases nonNullOk
    rfl

/-! ### Integer parsing -/

/-- The value of a non-empty string of ASCII decimal digits. -/
def digitsValue : List Char → Option Nat
  | [] => none
  | digits =>
      if digits.all Char.isDigit then
        some (digits.foldl (fun value digit => 10 * value + (digit.toNat - '0'.toNat)) 0)
      else
        none

/-- The value itself when it lies in `[min, max]`. -/
def checkRange (min max value : Int) : Option Int :=
  if min ≤ value ∧ value ≤ max then some value else none

theorem checkRange_eq_some {min max value result : Int}
    (checked : checkRange min max value = some result) :
    result = value ∧ min ≤ result ∧ result ≤ max := by
  unfold checkRange at checked
  split at checked
  · cases checked
    exact ⟨rfl, ‹min ≤ value ∧ value ≤ max›⟩
  · cases checked

/-- `str::parse` for an integer type whose values are `[min, max]`, as
`from_str_radix(text, 10)` documents it: an optional `+`, or `-` when the type
is `signed`, then at least one ASCII digit and nothing else, with a value in
range. -/
def parseInteger (signed : Bool) (min max : Int) (text : String) : Option Int :=
  match text.toList with
  | '+' :: digits => (digitsValue digits).bind fun value => checkRange min max value
  | '-' :: digits =>
      if signed then (digitsValue digits).bind fun value => checkRange min max (-value)
      else none
  | digits => (digitsValue digits).bind fun value => checkRange min max value

/-- `str::parse::<u32>`. -/
def parseU32 (text : String) : Option Int := parseInteger false 0 (limit 32 - 1) text

/-- `str::parse::<u64>`, and `str::parse::<usize>` on aarch64. -/
def parseU64 (text : String) : Option Int := parseInteger false 0 (limit 64 - 1) text

/-- `str::parse::<i64>`. -/
def parseI64 (text : String) : Option Int :=
  parseInteger true (-(limit 63 : Int)) (limit 63 - 1) text

/-- A parsed integer lies in the range of its type. -/
theorem parseInteger_bounds {signed : Bool} {min max : Int} {text : String} {value : Int}
    (parsed : parseInteger signed min max text = some value) : min ≤ value ∧ value ≤ max := by
  unfold parseInteger at parsed
  split at parsed
  · obtain ⟨_, _, checked⟩ := Option.bind_eq_some_iff.mp parsed
    exact (checkRange_eq_some checked).2
  · split at parsed
    · obtain ⟨_, _, checked⟩ := Option.bind_eq_some_iff.mp parsed
      exact (checkRange_eq_some checked).2
    · cases parsed
  · obtain ⟨_, _, checked⟩ := Option.bind_eq_some_iff.mp parsed
    exact (checkRange_eq_some checked).2

/-! ### Strings -/

/-- The pieces of `chars` between the occurrences of `separator`, empty pieces
included. -/
def splitChars (separator : Char) : List Char → List (List Char)
  | [] => [[]]
  | char :: rest =>
      let pieces := splitChars separator rest
      if char = separator then [] :: pieces else (char :: pieces.headD []) :: pieces.tail

/-- `text.split(separator)`: it splits at every occurrence and keeps the empty
pieces between adjacent separators and at either end. -/
def split (separator : Char) (text : String) : List String :=
  (splitChars separator text.toList).map String.ofList

example : split ' ' "vcat  2 " = ["vcat", "", "2", ""] := by decide

/-! ### Bytes -/

/-- `u8::is_ascii_control`: `0x00` to `0x1F`, and `0x7F`. -/
def isAsciiControl (byte : UInt8) : Bool := byte.toNat < 0x20 || byte.toNat == 0x7F

end Rust
