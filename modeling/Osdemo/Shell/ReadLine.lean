import Mathlib
import Osdemo.Library.Loop
import Osdemo.Library.ArrayVec
import Osdemo.Rust.Core

/-!
Contract: `read_line` of `apps/shell.rs`, over the bytes the console delivers.

`read_line` reads one byte at a time. A `\r` or `\n` ends the line; `EOF`
(`0x04`) on a line where nothing has been accepted yet makes the line `[EOF]`;
every other byte that is not an ASCII control character is echoed and pushed
onto an `ArrayVec<u8, 128>`, and the rest are dropped. The loop is
`Loop.run readLineStep` over the byte stream; a run that reads every byte is
still blocked in `read_exact`, waiting for the next one.

The state records what was written to the console as well as the line, so
that the echo can be compared with the line. The push comes after the echo of
its byte, so a push that panics leaves that byte echoed.

Owns:
- `readLineStep`, `readLine`, `accepted` and `EofOnEmptyLine`;
- one lemma per branch of the step, and the run lemma over bytes that do not
  end the line (`run_readLineStep_append`);
- what `read_line` returns, and where it panics.

Does not own: the console (reads and writes are taken never to fail) and the
rest of `shell::main` (`Osdemo.Shell.Commands`).
-/

namespace Osdemo.Shell

open Rust

/-- `EOF`. -/
def eof : UInt8 := 0x04

/-- `b"\r\n"`. -/
def crlf : List UInt8 := [0x0D, 0x0A]

/-- `b'\r' | b'\n'`. -/
def isLineEnd (byte : UInt8) : Bool := byte == 0x0D || byte == 0x0A

/-- The line `read_line` is building, and every byte it has written to the
console. -/
structure ReadState where
  line : ArrayVec UInt8 128
  echoed : List UInt8

/-- `ArrayVec::new()`, before anything is written. -/
def ReadState.initial : ReadState := ⟨ArrayVec.empty, []⟩

@[simp] theorem ReadState.initial_line_items : ReadState.initial.line.items = [] := rfl

@[simp] theorem ReadState.initial_echoed : ReadState.initial.echoed = [] := rfl

/-- One turn of the loop of `read_line`, on the byte `read_exact` gave. -/
def readLineStep (state : ReadState) (byte : UInt8) : Loop.Step ReadState ReadState Panic :=
  if isLineEnd byte then .stop { state with echoed := state.echoed ++ crlf }
  else if byte == eof && state.line.items.isEmpty then
    let echoed := state.echoed ++ crlf
    match state.line.push eof with
    | some line => .stop ⟨line, echoed⟩
    | none => .panic { state with echoed } .capacityExceeded
  else if !isAsciiControl byte then
    let echoed := state.echoed ++ [byte]
    match state.line.push byte with
    | some line => .next ⟨line, echoed⟩
    | none => .panic { state with echoed } .capacityExceeded
  else .next state

/-- `read_line(console)` on the bytes `input`: where it halts, and the bytes
it did not read. -/
def readLine (input : List UInt8) : Loop.Halt ReadState ReadState Panic × List UInt8 :=
  Loop.run readLineStep ReadState.initial input

/-- `line.as_ref() == [EOF]`, the test by which `shell::main` leaves its loop. -/
def isEof (line : ArrayVec UInt8 128) : Bool := line.items == [eof]

/-! ### The bytes a line keeps -/

/-- The bytes `read_line` accepts: those that are not ASCII control characters. -/
def accepted (bytes : List UInt8) : List UInt8 := bytes.filter fun byte => !isAsciiControl byte

@[simp] theorem accepted_nil : accepted [] = [] := rfl

theorem accepted_cons_of_control {byte : UInt8} (control : isAsciiControl byte = true)
    (bytes : List UInt8) : accepted (byte :: bytes) = accepted bytes := by
  simp [accepted, control]

theorem accepted_cons_of_printable {byte : UInt8} (printable : isAsciiControl byte = false)
    (bytes : List UInt8) : accepted (byte :: bytes) = byte :: accepted bytes := by
  simp [accepted, printable]

theorem isAsciiControl_of_mem_accepted {bytes : List UInt8} {byte : UInt8}
    (member : byte ∈ accepted bytes) : isAsciiControl byte = false := by
  simpa [accepted] using (List.mem_filter.mp member).2

/-- `EOF` arrives before any byte has been accepted: only control bytes come
before its first occurrence. -/
def EofOnEmptyLine (bytes : List UInt8) : Prop := eof ∈ bytes.takeWhile isAsciiControl

instance (bytes : List UInt8) : Decidable (EofOnEmptyLine bytes) :=
  inferInstanceAs (Decidable (eof ∈ bytes.takeWhile isAsciiControl))

theorem isAsciiControl_eof : isAsciiControl eof = true := by decide

theorem isLineEnd_eof : isLineEnd eof = false := by decide

theorem isAsciiControl_of_isLineEnd {byte : UInt8} (lineEnd : isLineEnd byte = true) :
    isAsciiControl byte = true := by
  simp only [isLineEnd, Bool.or_eq_true, beq_iff_eq] at lineEnd
  rcases lineEnd with rfl | rfl <;> decide

/-- An `EOF` on an empty line splits the bytes at its first occurrence, with
only control bytes before it. -/
theorem EofOnEmptyLine.split {bytes : List UInt8} (onEmpty : EofOnEmptyLine bytes) :
    ∃ leading after, bytes = leading ++ eof :: after ∧
      (∀ byte ∈ leading, isAsciiControl byte = true ∧ byte ≠ eof) ∧
      (bytes.dropWhile fun byte => byte != eof).tail = after := by
  induction bytes with
  | nil => simp [EofOnEmptyLine] at onEmpty
  | cons byte rest inductionHypothesis =>
      unfold EofOnEmptyLine at onEmpty
      by_cases control : isAsciiControl byte = true
      · rw [List.takeWhile_cons_of_pos control, List.mem_cons] at onEmpty
        by_cases isEofByte : byte = eof
        · subst isEofByte
          exact ⟨[], rest, rfl, by simp, by simp⟩
        · have later : EofOnEmptyLine rest := onEmpty.resolve_left (Ne.symm isEofByte)
          obtain ⟨leading, after, split, controls, dropped⟩ := inductionHypothesis later
          refine ⟨byte :: leading, after, by rw [split]; rfl, ?_, ?_⟩
          · intro other member
            rcases List.mem_cons.mp member with rfl | member
            · exact ⟨control, isEofByte⟩
            · exact controls other member
          · rw [List.dropWhile_cons_of_pos (by simpa using isEofByte), dropped]
      · rw [List.takeWhile_cons_of_neg control] at onEmpty
        cases onEmpty

/-! ### The step, branch by branch -/

theorem readLineStep_of_isLineEnd {byte : UInt8} (lineEnd : isLineEnd byte = true)
    (state : ReadState) :
    readLineStep state byte = .stop { state with echoed := state.echoed ++ crlf } := by
  simp [readLineStep, lineEnd]

/-- `EOF` on an empty line returns `[EOF]`. -/
theorem readLineStep_eof_of_empty {state : ReadState} (empty : state.line.items = []) :
    ∃ line, readLineStep state eof = .stop ⟨line, state.echoed ++ crlf⟩ ∧ line.items = [eof] := by
  obtain ⟨line, pushed, items⟩ := ArrayVec.push_eq_some eof
    (show state.line.items.length < 128 by simp [empty])
  refine ⟨line, ?_, by simpa [empty] using items⟩
  simp [readLineStep, isLineEnd_eof, empty, pushed]

/-- A control byte that does not end the line, and is not `EOF` on an empty
line, is dropped. -/
theorem readLineStep_of_control {byte : UInt8} {state : ReadState}
    (control : isAsciiControl byte = true) (notLineEnd : isLineEnd byte = false)
    (notEofOnEmpty : byte = eof → state.line.items ≠ []) :
    readLineStep state byte = .next state := by
  by_cases isEofByte : byte = eof
  · have nonEmpty := notEofOnEmpty isEofByte
    subst isEofByte
    simp [readLineStep, isLineEnd_eof, isAsciiControl_eof, nonEmpty]
  · simp [readLineStep, notLineEnd, control, isEofByte]

theorem isLineEnd_of_printable {byte : UInt8} (printable : isAsciiControl byte = false) :
    isLineEnd byte = false := by
  cases lineEnd : isLineEnd byte
  · rfl
  · rw [isAsciiControl_of_isLineEnd lineEnd] at printable
    cases printable

theorem ne_eof_of_printable {byte : UInt8} (printable : isAsciiControl byte = false) :
    byte ≠ eof := by
  rintro rfl
  rw [isAsciiControl_eof] at printable
  cases printable

/-- A byte that is not a control character is echoed and pushed. -/
theorem readLineStep_of_printable {byte : UInt8} {state : ReadState}
    (printable : isAsciiControl byte = false) (room : state.line.items.length < 128) :
    ∃ line, readLineStep state byte = .next ⟨line, state.echoed ++ [byte]⟩ ∧
      line.items = state.line.items ++ [byte] := by
  obtain ⟨line, pushed, items⟩ := ArrayVec.push_eq_some byte room
  refine ⟨line, ?_, items⟩
  simp [readLineStep, isLineEnd_of_printable printable, ne_eof_of_printable printable,
    printable, pushed]

/-- On a full line, a byte that is not a control character is echoed, and its
push panics. -/
theorem readLineStep_of_full {byte : UInt8} {state : ReadState}
    (printable : isAsciiControl byte = false) (full : state.line.items.length = 128) :
    readLineStep state byte =
      .panic { state with echoed := state.echoed ++ [byte] } .capacityExceeded := by
  simp [readLineStep, isLineEnd_of_printable printable, ne_eof_of_printable printable,
    printable, ArrayVec.push_eq_none full]

/-! ### Runs -/

/-- **Run lemma.** Over bytes that do not end the line, with no `EOF` on an
empty line and room for what they add, `read_line` carries on with the
accepted bytes pushed and echoed. -/
theorem run_readLineStep_append (bytes rest : List UInt8) (state : ReadState)
    (noLineEnd : ∀ byte ∈ bytes, isLineEnd byte = false)
    (noEofOnEmpty : state.line.items = [] → ¬EofOnEmptyLine bytes)
    (fits : state.line.items.length + (accepted bytes).length ≤ 128) :
    ∃ state', Loop.run readLineStep state (bytes ++ rest) = Loop.run readLineStep state' rest ∧
      state'.line.items = state.line.items ++ accepted bytes ∧
      state'.echoed = state.echoed ++ accepted bytes := by
  induction bytes generalizing state with
  | nil => exact ⟨state, rfl, by simp, by simp⟩
  | cons byte bytes inductionHypothesis =>
      have restNoLineEnd : ∀ byte ∈ bytes, isLineEnd byte = false :=
        fun other member => noLineEnd other (List.mem_cons_of_mem _ member)
      cases control : isAsciiControl byte with
      | true =>
          -- a dropped byte: the state is unchanged, and `EOF` cannot be on an empty line
          have onEmpty : state.line.items = [] → ¬EofOnEmptyLine bytes := by
            intro empty later
            apply noEofOnEmpty empty
            unfold EofOnEmptyLine at later ⊢
            rw [List.takeWhile_cons_of_pos control]
            exact List.mem_cons_of_mem _ later
          have notEofOnEmpty : byte = eof → state.line.items ≠ [] := by
            rintro rfl empty
            apply noEofOnEmpty empty
            simp [EofOnEmptyLine, List.takeWhile_cons_of_pos control]
          rw [accepted_cons_of_control control] at fits ⊢
          rw [List.cons_append, Loop.run_cons_of_next _
            (readLineStep_of_control control (noLineEnd byte List.mem_cons_self) notEofOnEmpty)]
          exact inductionHypothesis state restNoLineEnd onEmpty fits
      | false =>
          -- an accepted byte: the line is no longer empty
          rw [accepted_cons_of_printable control] at fits ⊢
          have room : state.line.items.length < 128 := by
            simp only [List.length_cons] at fits
            omega
          obtain ⟨line, stepped, items⟩ := readLineStep_of_printable control room
          rw [List.cons_append, Loop.run_cons_of_next _ stepped]
          have nonEmpty : line.items = [] → ¬EofOnEmptyLine bytes := by
            intro empty
            simp [items] at empty
          have restFits : line.items.length + (accepted bytes).length ≤ 128 := by
            simp only [items, List.length_append, List.length_cons, List.length_nil] at fits ⊢
            omega
          obtain ⟨state', ran, lineItems, echoed⟩ :=
            inductionHypothesis ⟨line, state.echoed ++ [byte]⟩ restNoLineEnd nonEmpty
              restFits
          exact ⟨state', ran, by simp [lineItems, items], by simp [echoed]⟩

/-- `EOF` after control bytes only: `read_line` returns `[EOF]` and echoes
`\r\n`, having read up to the `EOF`. -/
theorem readLine_eof (leading after : List UInt8)
    (controls : ∀ byte ∈ leading, isAsciiControl byte = true ∧ byte ≠ eof)
    (noLineEnd : ∀ byte ∈ leading, isLineEnd byte = false) :
    ∃ state, readLine (leading ++ eof :: after) = (.returned state, after) ∧
      state.line.items = [eof] ∧ state.echoed = crlf := by
  have nothingAccepted : accepted leading = [] := by
    simp only [accepted, List.filter_eq_nil_iff, Bool.not_eq_true']
    exact fun byte member => by simp [(controls byte member).1]
  have noEof : ¬EofOnEmptyLine leading := by
    intro onEmpty
    exact (controls eof ((List.takeWhile_prefix _).subset onEmpty)).2 rfl
  obtain ⟨state, ran, items, echoed⟩ := run_readLineStep_append leading (eof :: after)
    ReadState.initial noLineEnd (fun _ => noEof) (by simp [nothingAccepted])
  simp only [ReadState.initial_line_items, ReadState.initial_echoed, nothingAccepted,
    List.append_nil] at items echoed
  obtain ⟨line, stopped, lineItems⟩ := readLineStep_eof_of_empty items
  refine ⟨⟨line, state.echoed ++ crlf⟩, ?_, lineItems, by simp [echoed]⟩
  rw [readLine, ran, Loop.run_cons_of_stop _ stopped]

/-- A line ended by `\r` or `\n`, with no `EOF` on an empty line and at most
128 accepted bytes: `read_line` returns the accepted bytes and echoes them,
then `\r\n`, having read up to the end of the line. -/
theorem readLine_line (line rest : List UInt8) {lineEnd : UInt8}
    (ends : isLineEnd lineEnd = true) (noLineEnd : ∀ byte ∈ line, isLineEnd byte = false)
    (noEof : ¬EofOnEmptyLine line) (fits : (accepted line).length ≤ 128) :
    ∃ state, readLine (line ++ lineEnd :: rest) = (.returned state, rest) ∧
      state.line.items = accepted line ∧ state.echoed = accepted line ++ crlf := by
  obtain ⟨state, ran, items, echoed⟩ := run_readLineStep_append line (lineEnd :: rest)
    ReadState.initial noLineEnd (fun _ => noEof) (by simpa using fits)
  refine ⟨{ state with echoed := state.echoed ++ crlf }, ?_, by simpa using items,
    by simp [echoed]⟩
  rw [readLine, ran, Loop.run_cons_of_stop _ (readLineStep_of_isLineEnd ends state)]

/-- The line returned, when it does not come from `EOF`, is never `[EOF]`. -/
theorem accepted_ne_eof (bytes : List UInt8) : accepted bytes ≠ [eof] := by
  intro single
  have printable := isAsciiControl_of_mem_accepted (show eof ∈ accepted bytes by simp [single])
  rw [isAsciiControl_eof] at printable
  cases printable

/-- **What `read_line` returns.** On a stream with a line end after at most
128 accepted bytes, `read_line` returns: `[EOF]`, having read up to the first
`EOF`, when that `EOF` comes before any accepted byte; otherwise the accepted
bytes before the line end, having read up to it. It echoes the accepted bytes
and then `\r\n`, and the line passes the `EOF` test of `shell::main` exactly
in the first case. -/
theorem readLine_returns_accepted_or_eof (line rest : List UInt8) {lineEnd : UInt8}
    (ends : isLineEnd lineEnd = true) (noLineEnd : ∀ byte ∈ line, isLineEnd byte = false)
    (fits : (accepted line).length ≤ 128) :
    ∃ state remaining, readLine (line ++ lineEnd :: rest) = (.returned state, remaining) ∧
      (isEof state.line = true ↔ EofOnEmptyLine line) ∧
      (EofOnEmptyLine line → state.line.items = [eof] ∧ state.echoed = crlf ∧
        remaining = (line.dropWhile fun byte => byte != eof).tail ++ lineEnd :: rest) ∧
      (¬EofOnEmptyLine line → state.line.items = accepted line ∧
        state.echoed = accepted line ++ crlf ∧ remaining = rest) := by
  by_cases onEmpty : EofOnEmptyLine line
  · obtain ⟨leading, after, split, controls, dropped⟩ := onEmpty.split
    have leadingNoLineEnd : ∀ byte ∈ leading, isLineEnd byte = false :=
      fun byte member => noLineEnd byte (by rw [split]; exact List.mem_append_left _ member)
    obtain ⟨state, ran, items, echoed⟩ :=
      readLine_eof leading (after ++ lineEnd :: rest) controls leadingNoLineEnd
    refine ⟨state, after ++ lineEnd :: rest, ?_, ?_, fun _ => ⟨items, echoed, ?_⟩,
      fun notOnEmpty => absurd onEmpty notOnEmpty⟩
    · rw [split, List.append_assoc, List.cons_append]
      exact ran
    · simp [isEof, items, onEmpty]
    · rw [dropped]
  · obtain ⟨state, ran, items, echoed⟩ := readLine_line line rest ends noLineEnd onEmpty fits
    refine ⟨state, rest, ran, ?_, fun isOnEmpty => absurd isOnEmpty onEmpty,
      fun _ => ⟨items, echoed, rfl⟩⟩
    simp [isEof, items, accepted_ne_eof, onEmpty]

/-- `hi` typed and entered, and `0x04` typed on an empty line before the
line is entered: the first returns the line, the second `[EOF]`. -/
theorem readLine_returns_accepted_or_eof_on_hi_and_eof :
    (isLineEnd 0x0D = true ∧ (∀ byte ∈ [0x68, 0x69], isLineEnd byte = false) ∧
      (accepted [0x68, 0x69]).length ≤ 128 ∧
      ∃ state remaining, readLine ([0x68, 0x69] ++ 0x0D :: []) = (.returned state, remaining) ∧
        (isEof state.line = true ↔ EofOnEmptyLine [0x68, 0x69]) ∧
        (EofOnEmptyLine [0x68, 0x69] → state.line.items = [eof] ∧ state.echoed = crlf ∧
          remaining = ([0x68, 0x69].dropWhile fun byte => byte != eof).tail ++ 0x0D :: []) ∧
        (¬EofOnEmptyLine [0x68, 0x69] → state.line.items = accepted [0x68, 0x69] ∧
          state.echoed = accepted [0x68, 0x69] ++ crlf ∧ remaining = [])) ∧
    (isLineEnd 0x0D = true ∧ (∀ byte ∈ [0x04], isLineEnd byte = false) ∧
      (accepted [0x04]).length ≤ 128 ∧
      ∃ state remaining, readLine ([0x04] ++ 0x0D :: []) = (.returned state, remaining) ∧
        (isEof state.line = true ↔ EofOnEmptyLine [0x04]) ∧
        (EofOnEmptyLine [0x04] → state.line.items = [eof] ∧ state.echoed = crlf ∧
          remaining = ([0x04].dropWhile fun byte => byte != eof).tail ++ 0x0D :: []) ∧
        (¬EofOnEmptyLine [0x04] → state.line.items = accepted [0x04] ∧
          state.echoed = accepted [0x04] ++ crlf ∧ remaining = [])) := by
  have ends : isLineEnd 0x0D = true := by decide
  have hiNoLineEnd : ∀ byte ∈ [0x68, 0x69], isLineEnd byte = false := by simp [isLineEnd]
  have hiFits : (accepted [0x68, 0x69]).length ≤ 128 := by decide
  have eofNoLineEnd : ∀ byte ∈ [0x04], isLineEnd byte = false := by simp [isLineEnd]
  have eofFits : (accepted [0x04]).length ≤ 128 := by decide
  exact ⟨⟨ends, hiNoLineEnd, hiFits,
      readLine_returns_accepted_or_eof [0x68, 0x69] [] ends hiNoLineEnd hiFits⟩,
    ⟨ends, eofNoLineEnd, eofFits, readLine_returns_accepted_or_eof [0x04] [] ends eofNoLineEnd eofFits⟩⟩

/-- More accepted bytes than the line holds: the 129th is echoed and its push
panics, whatever follows. -/
theorem readLine_panics_of_overlong (line rest : List UInt8) {byte : UInt8}
    (noLineEnd : ∀ byte ∈ line, isLineEnd byte = false) (noEof : ¬EofOnEmptyLine line)
    (full : (accepted line).length = 128) (printable : isAsciiControl byte = false) :
    ∃ state, readLine (line ++ byte :: rest) = (.panicked state .capacityExceeded, rest) ∧
      state.line.items = accepted line ∧ state.echoed = accepted line ++ [byte] := by
  obtain ⟨state, ran, items, echoed⟩ := run_readLineStep_append line (byte :: rest)
    ReadState.initial noLineEnd (fun _ => noEof) (by simp [full])
  simp only [ReadState.initial_line_items, ReadState.initial_echoed, List.nil_append] at items echoed
  refine ⟨{ state with echoed := state.echoed ++ [byte] }, ?_, items, by simp [echoed]⟩
  rw [readLine, ran, Loop.run_cons_of_panic _ (readLineStep_of_full printable (by simp [items, full]))]

/-- 129 bytes `a` and then `\r`: `read_line` panics pushing the last `a`,
with the line full at 128 bytes. -/
theorem readLine_panics_on_129_printable_bytes :
    ∃ state, readLine (List.replicate 129 0x61 ++ [0x0D]) = (.panicked state .capacityExceeded, [0x0D]) ∧
      state.line.items = List.replicate 128 0x61 ∧ state.echoed = List.replicate 129 0x61 := by
  have printable : isAsciiControl 0x61 = false := by decide
  have allAccepted : accepted (List.replicate 128 0x61) = List.replicate 128 0x61 :=
    List.filter_replicate_of_pos (by simp [printable])
  -- `simp` would unfold the replicated lists, so they are rewritten by hand
  have noEof : ¬EofOnEmptyLine (List.replicate 128 0x61) := by
    unfold EofOnEmptyLine
    rw [List.takeWhile_replicate, if_neg (by rw [printable]; decide)]
    exact List.not_mem_nil
  have noLineEnd : ∀ byte ∈ List.replicate 128 (0x61 : UInt8), isLineEnd byte = false := by
    intro byte member
    rw [List.eq_of_mem_replicate member]
    decide
  obtain ⟨state, ran, items, echoed⟩ := readLine_panics_of_overlong (List.replicate 128 0x61) [0x0D]
    noLineEnd noEof (by rw [allAccepted, List.length_replicate]) printable
  refine ⟨state, ?_, by rw [items, allAccepted], by rw [echoed, allAccepted]; exact List.replicate_succ'.symm⟩
  rw [List.replicate_succ', List.append_assoc, List.singleton_append]
  exact ran

end Osdemo.Shell
