import Mathlib

/-!
Contract: loops that consume their inputs one at a time and may return early
or panic, and the reachable states of a system driven by arbitrary actions.

A `loop` over a byte stream, a list of BARs or a list of devices is modelled
by one step function. A step either carries on with a new state, makes the
loop return a value, or panics. `Loop.run` feeds the inputs to the step in
order and reports where the loop halted, together with the inputs it did not
read. Running out of inputs is not the end of the loop: a loop that reads a
device blocks there, and a loop over a finite list leaves normally there;
callers say which.

Owns:
- `Loop.Step`, `Loop.Halt` and `Loop.run`;
- the invariant rule for runs (`run_invariant`) and the rule for panics
  (`run_panicked`);
- `PanicsInPlace`: steps that panic before they have any effect;
- the trace rule (`run_trace`): a property of the inputs read so far and the
  state, where the run halts;
- `drain`, a loop that takes pieces off a buffer until it is empty;
- `Reachable` states of a total step function and its invariant rules, for
  every action and for a chosen list of actions.
-/

namespace Loop

/-- What one step of a loop does: carry on with the next input from a state,
leave the loop with a value, or panic with a message in the state the step
had reached, so that what the step did before it panicked stays done. -/
inductive Step (σ α ε : Type) where
  | next (state : σ)
  | stop (value : α)
  | panic (state : σ) (message : ε)
deriving DecidableEq, Repr

/-- Where a run of a loop halted: every input was read and the loop is still
running, the loop returned a value, or a step panicked. -/
inductive Halt (σ α ε : Type) where
  | running (state : σ)
  | returned (value : α)
  | panicked (state : σ) (message : ε)
deriving DecidableEq, Repr

variable {σ α ε ι : Type}

/-- Feed `inputs` to `step` from `state`; the halt and the inputs not read. -/
def run (step : σ → ι → Step σ α ε) (state : σ) : List ι → Halt σ α ε × List ι
  | [] => (.running state, [])
  | input :: rest =>
      match step state input with
      | .next state' => run step state' rest
      | .stop value => (.returned value, rest)
      | .panic state' message => (.panicked state' message, rest)

@[simp] theorem run_nil (step : σ → ι → Step σ α ε) (state : σ) :
    run step state [] = (.running state, []) := rfl

theorem run_cons_of_next {step : σ → ι → Step σ α ε} {state state' : σ} {input : ι}
    (rest : List ι) (stepped : step state input = .next state') :
    run step state (input :: rest) = run step state' rest := by
  simp only [run, stepped]

theorem run_cons_of_stop {step : σ → ι → Step σ α ε} {state : σ} {value : α} {input : ι}
    (rest : List ι) (stopped : step state input = .stop value) :
    run step state (input :: rest) = (.returned value, rest) := by
  simp only [run, stopped]

theorem run_cons_of_panic {step : σ → ι → Step σ α ε} {state state' : σ} {message : ε}
    {input : ι} (rest : List ι) (panicked : step state input = .panic state' message) :
    run step state (input :: rest) = (.panicked state' message, rest) := by
  simp only [run, panicked]

/-- The state a run halted in, if it did not return. -/
def Halt.state? : Halt σ α ε → Option σ
  | .running state => some state
  | .returned _ => none
  | .panicked state _ => some state

/-- What `Inv`, `Post` and `Crash` say of a halt: of the state a run is
still in, of the value it returned, or of the state and message it panicked
with. -/
def Halt.Holds (Inv : σ → Prop) (Post : α → Prop) (Crash : σ → ε → Prop) : Halt σ α ε → Prop
  | .running state => Inv state
  | .returned value => Post value
  | .panicked state message => Crash state message

/-- A step function whose steps panic before they have any effect. -/
def PanicsInPlace (step : σ → ι → Step σ α ε) : Prop :=
  ∀ state input state' message, step state input = .panic state' message → state' = state

section Invariant

variable {step : σ → ι → Step σ α ε} {Inv : σ → Prop}

/-- **Invariant rule.** A property kept by every step that carries on or
panics, on the inputs of the run, holds in the state where the run halts. -/
theorem run_invariant_of_mem {inputs : List ι}
    (preserved : ∀ state, ∀ input ∈ inputs, ∀ state', Inv state →
      step state input = .next state' → Inv state')
    (preservedByPanic : ∀ state, ∀ input ∈ inputs, ∀ state' message, Inv state →
      step state input = .panic state' message → Inv state')
    {state : σ} (initial : Inv state) :
    ∀ final ∈ (run step state inputs).1.state?, Inv final := by
  induction inputs generalizing state with
  | nil =>
      intro final member
      simp only [run_nil, Halt.state?, Option.mem_def, Option.some.injEq] at member
      exact member ▸ initial
  | cons input rest inductionHypothesis =>
      have restPreserved : ∀ state, ∀ input ∈ rest, ∀ state', Inv state →
          step state input = .next state' → Inv state' :=
        fun state input member => preserved state input (List.mem_cons_of_mem _ member)
      have restPreservedByPanic : ∀ state, ∀ input ∈ rest, ∀ state' message, Inv state →
          step state input = .panic state' message → Inv state' :=
        fun state input member => preservedByPanic state input (List.mem_cons_of_mem _ member)
      intro final member
      cases stepped : step state input with
      | next state' =>
          rw [run_cons_of_next rest stepped] at member
          have next := preserved state input List.mem_cons_self state' initial stepped
          exact inductionHypothesis restPreserved restPreservedByPanic next final member
      | stop value =>
          rw [run_cons_of_stop rest stepped] at member
          simp [Halt.state?] at member
      | panic state' message =>
          rw [run_cons_of_panic rest stepped] at member
          simp only [Halt.state?, Option.mem_def, Option.some.injEq] at member
          exact member ▸ preservedByPanic state input List.mem_cons_self state' message initial
            stepped

/-- A step that panics in place keeps every property. -/
theorem PanicsInPlace.preserves (inPlace : PanicsInPlace step) {inputs : List ι} :
    ∀ state, ∀ input ∈ inputs, ∀ state' message, Inv state →
      step state input = .panic state' message → Inv state' :=
  fun state input _ state' message holds panicked =>
    (inPlace state input state' message panicked) ▸ holds

/-- The invariant rule for a property kept by every step, when steps panic in
place. -/
theorem run_invariant
    (preserved : ∀ state input state', Inv state → step state input = .next state' →
      Inv state')
    (inPlace : PanicsInPlace step) (inputs : List ι) {state : σ} (initial : Inv state) :
    ∀ final ∈ (run step state inputs).1.state?, Inv final :=
  run_invariant_of_mem (fun state input _ => preserved state input) inPlace.preserves initial

/-- **Panic rule.** If every panicking step from a state satisfying `Inv`
panics with a message satisfying `Allowed`, so does every run that panics. -/
theorem run_panicked {Allowed : ε → Prop}
    (preserved : ∀ state input state', Inv state → step state input = .next state' →
      Inv state')
    (panics : ∀ state input state' message, Inv state →
      step state input = .panic state' message → Allowed message)
    (inputs : List ι) {state : σ} (initial : Inv state) {final : σ} {message : ε}
    (halted : (run step state inputs).1 = .panicked final message) : Allowed message := by
  induction inputs generalizing state with
  | nil => simp at halted
  | cons input rest inductionHypothesis =>
      cases stepped : step state input with
      | next state' =>
          rw [run_cons_of_next rest stepped] at halted
          exact inductionHypothesis (preserved state input state' initial stepped) halted
      | stop value =>
          rw [run_cons_of_stop rest stepped] at halted
          cases halted
      | panic state' message' =>
          rw [run_cons_of_panic rest stepped] at halted
          cases halted
          exact panics _ input _ _ initial stepped

end Invariant

section Trace

variable {step : σ → ι → Step σ α ε} {Inv : List ι → σ → Prop} {Post : List ι → α → Prop}
  {Crash : List ι → σ → ε → Prop}

/-- **Trace rule.** A property of the inputs read so far and of the state,
kept by every step that carries on, made `Post` by a step that returns and
`Crash` by one that panics, holds where the run halts, of the inputs it has
read. -/
theorem run_trace
    (next : ∀ read state input state', Inv read state → step state input = .next state' →
      Inv (read ++ [input]) state')
    (stop : ∀ read state input value, Inv read state → step state input = .stop value →
      Post (read ++ [input]) value)
    (panic : ∀ read state input state' message, Inv read state →
      step state input = .panic state' message → Crash (read ++ [input]) state' message)
    (inputs : List ι) {read : List ι} {state : σ} (initial : Inv read state) :
    ∃ consumed, inputs = consumed ++ (run step state inputs).2 ∧
      (run step state inputs).1.Holds (Inv (read ++ consumed)) (Post (read ++ consumed))
        (Crash (read ++ consumed)) := by
  induction inputs generalizing read state with
  | nil => exact ⟨[], rfl, by simpa [Halt.Holds] using initial⟩
  | cons input rest inductionHypothesis =>
      cases stepped : step state input with
      | next state' =>
          obtain ⟨consumed, split, holds⟩ :=
            inductionHypothesis (next read state input state' initial stepped)
          rw [run_cons_of_next rest stepped]
          refine ⟨input :: consumed, by rw [List.cons_append, ← split], ?_⟩
          rw [List.append_cons]
          exact holds
      | stop value =>
          rw [run_cons_of_stop rest stepped]
          exact ⟨[input], rfl, stop read state input value initial stepped⟩
      | panic state' message =>
          rw [run_cons_of_panic rest stepped]
          exact ⟨[input], rfl, panic read state input state' message initial stepped⟩

end Trace

/-! ### Draining a buffer -/

/-- `while !buffer.is_empty() { take up to size }`, for at most `fuel`
rounds: the pieces taken, in order, and what is left. -/
def drain (size : Nat) : Nat → List α → List (List α) × List α
  | 0, buffer => ([], buffer)
  | fuel + 1, buffer =>
      if 0 < buffer.length then
        let (pieces, left) := drain size fuel (buffer.drop size)
        (buffer.take size :: pieces, left)
      else ([], buffer)

/-- With a round for each item, the loop empties the buffer; its pieces,
none empty and none larger than `size`, make up the buffer in order. -/
theorem drain_spec {size : Nat} (positive : 0 < size) :
    ∀ fuel (buffer : List α), buffer.length ≤ fuel →
      (drain size fuel buffer).1.flatten = buffer ∧ (drain size fuel buffer).2 = [] ∧
        ∀ piece ∈ (drain size fuel buffer).1, 0 < piece.length ∧ piece.length ≤ size := by
  intro fuel
  -- each round takes at least one item, so `fuel` rounds reach the end
  induction fuel with
  | zero =>
      intro buffer short
      rw [List.eq_nil_of_length_eq_zero (Nat.le_zero.mp short)]
      simp [drain]
  | succ fuel inductionHypothesis =>
      intro buffer short
      by_cases empty : buffer = []
      · subst empty
        simp [drain]
      · have nonempty : 0 < buffer.length := List.length_pos_iff.mpr empty
        obtain ⟨flattened, emptied, sized⟩ :=
          inductionHypothesis (buffer.drop size) (by rw [List.length_drop]; omega)
        simp only [drain, nonempty, if_true, List.flatten_cons, flattened, List.take_append_drop,
          emptied, List.mem_cons, forall_eq_or_imp, List.length_take, true_and]
        exact ⟨⟨by omega, by omega⟩, sized⟩

end Loop

/-! ### Reachable states of a system driven by arbitrary actions -/

/-- The states reachable from `initial` by any sequence of actions. -/
inductive Reachable {σ α : Type} (step : σ → α → σ) (initial : σ) : σ → Prop where
  | initial : Reachable step initial initial
  | step {state : σ} (action : α) :
      Reachable step initial state → Reachable step initial (step state action)

namespace Reachable

variable {σ α : Type} {step : σ → α → σ} {initial : σ}

/-- **Invariant rule.** A property of the initial state that every action
keeps holds in every reachable state. -/
theorem invariant {Inv : σ → Prop} (holds : Inv initial)
    (preserved : ∀ state action, Inv state → Inv (step state action)) {state : σ}
    (reachable : Reachable step initial state) : Inv state := by
  induction reachable with
  | initial => exact holds
  | step action _ inductionHypothesis => exact preserved _ action inductionHypothesis

/-- **Invariant rule for chosen actions.** A property that every action of a
list keeps holds after the list. -/
theorem foldl_invariant {Inv : σ → Prop} {actions : List α}
    (preserved : ∀ state, ∀ action ∈ actions, Inv state → Inv (step state action)) :
    ∀ {state : σ}, Inv state → Inv (actions.foldl step state) := by
  induction actions with
  | nil => exact fun holds => holds
  | cons action rest inductionHypothesis =>
      intro state holds
      have restPreserved : ∀ state, ∀ action ∈ rest, Inv state → Inv (step state action) :=
        fun state action member => preserved state action (List.mem_cons_of_mem _ member)
      exact inductionHypothesis restPreserved (preserved state action List.mem_cons_self holds)

/-- The state after any interleaving of actions is reachable. -/
theorem of_foldl (actions : List α) : ∀ {state : σ}, Reachable step initial state →
    Reachable step initial (actions.foldl step state) := by
  induction actions with
  | nil => exact fun reachable => reachable
  | cons action rest inductionHypothesis =>
      exact fun reachable => inductionHypothesis (reachable.step action)

end Reachable
