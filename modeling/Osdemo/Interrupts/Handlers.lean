import Osdemo.Library.Loop
import Osdemo.Rust.Core

/-!
Contract: the IRQ handler registry of `interrupts.rs`: `SHARED_IRQ_HANDLERS`,
one map for all cores, `PRIVATE_IRQ_HANDLERS`, one map for each core, the four
functions that change them, and `handle_irq`.

Each function runs with exceptions masked on the core that calls it, and
reads or writes that core's private map. `set_shared_irq_handler` asserts that
the calling core has no private handler for the interrupt, and
`set_private_irq_handler` that there is no shared one; a failed assert panics
before anything changes. `handle_irq` calls the private handler of the current
core if there is one, and the shared handler otherwise.

The assert of `set_shared_irq_handler` reads only the calling core's private
map, so a shared handler registered on one core can meet a private handler of
another core; the last theorem of this module shows such a run.

Owns: `HandlerState`, the four functions, `handleIrq`, the step of the system
across cores (`HandlerState.step`), `NoConflictOn`, and the theorems that a
conflict on a core is created only by `set_shared_irq_handler` issued on
another core, and that without conflicts `handle_irq` runs the shared handler.
-/

namespace Osdemo.Interrupts

open Rust

/-- `SHARED_IRQ_HANDLERS` and `PRIVATE_IRQ_HANDLERS`, for interrupt ids `ι`
and handlers `η`; cores are numbered by `current_cpu_index`. -/
structure HandlerState (ι η : Type) where
  shared : ι → Option η
  perCore : Nat → ι → Option η

namespace HandlerState

variable {ι η : Type} [DecidableEq ι]

/-- No handler registered, as at boot. -/
def empty : HandlerState ι η := ⟨fun _ => none, fun _ _ => none⟩

/-- Replace the private map of one core. -/
def updatePerCore (state : HandlerState ι η) (core : Nat) (intid : ι) (handler : Option η) :
    HandlerState ι η :=
  let map := Function.update (state.perCore core) intid handler
  { state with perCore := Function.update state.perCore core map }

@[simp] theorem updatePerCore_shared (state : HandlerState ι η) (core : Nat) (intid : ι)
    (handler : Option η) : (state.updatePerCore core intid handler).shared = state.shared := rfl

@[simp] theorem updatePerCore_perCore_self (state : HandlerState ι η) (core : Nat) (intid : ι)
    (handler : Option η) :
    (state.updatePerCore core intid handler).perCore core =
      Function.update (state.perCore core) intid handler := by
  simp [updatePerCore]

@[simp] theorem updatePerCore_perCore_of_ne (state : HandlerState ι η) {core other : Nat}
    (intid : ι) (handler : Option η) (different : other ≠ core) :
    (state.updatePerCore core intid handler).perCore other = state.perCore other := by
  simp [updatePerCore, Function.update_of_ne different]

end HandlerState

section Calls

variable {ι η : Type} [DecidableEq ι] [ToString ι]

/-- `set_shared_irq_handler` called on `core`: the handler set before, if any. -/
def setSharedIrqHandler (core : Nat) (intid : ι) (handler : η) (state : HandlerState ι η) :
    Except Panic (Option η × HandlerState ι η) :=
  if (state.perCore core intid).isSome then
    throw (.explicit s!"Private IRQ handler already exists for {intid}")
  else
    pure (state.shared intid,
      { state with shared := Function.update state.shared intid (some handler) })

/-- `remove_shared_irq_handler`. -/
def removeSharedIrqHandler (intid : ι) (state : HandlerState ι η) :
    Except Panic (Option η × HandlerState ι η) :=
  pure (state.shared intid, { state with shared := Function.update state.shared intid none })

/-- `set_private_irq_handler` called on `core`. Its assert looks for a shared
handler, although its message speaks of a private one. -/
def setPrivateIrqHandler (core : Nat) (intid : ι) (handler : η) (state : HandlerState ι η) :
    Except Panic (Option η × HandlerState ι η) :=
  if (state.shared intid).isSome then
    throw (.explicit s!"Private IRQ handler already exists for {intid}")
  else
    pure (state.perCore core intid, state.updatePerCore core intid (some handler))

/-- `remove_private_irq_handler` called on `core`. -/
def removePrivateIrqHandler (core : Nat) (intid : ι) (state : HandlerState ι η) :
    Except Panic (Option η × HandlerState ι η) :=
  pure (state.perCore core intid, state.updatePerCore core intid none)

/-- `handle_irq` on `core`, with the interrupt the GIC acknowledged (`none` if
none was pending): the handler it calls. -/
def handleIrq (core : Nat) (pending : Option ι) (state : HandlerState ι η) : Except Panic η := do
  let intid ← pending.elim (throw (.explicit "No pending interrupt")) pure
  match state.perCore core intid with
  | some handler => pure handler
  | none =>
      match state.shared intid with
      | some handler => pure handler
      | none => throw (.explicit s!"Unexpected IRQ {intid} with no handler")

end Calls

/-- A call to one of the four functions. -/
inductive HandlerCall (ι η : Type) where
  | setShared (intid : ι) (handler : η)
  | removeShared (intid : ι)
  | setPrivate (intid : ι) (handler : η)
  | removePrivate (intid : ι)
deriving DecidableEq, Repr

/-- A call made on a core. -/
structure HandlerAction (ι η : Type) where
  core : Nat
  call : HandlerCall ι η
deriving DecidableEq, Repr

/-- A call that gives `core` a conflict: `set_shared_irq_handler` issued on
another core, which has no private handler for the interrupt, while `core`
has one. -/
def HandlerAction.CreatesConflictOn {ι η : Type} (action : HandlerAction ι η)
    (state : HandlerState ι η) (core : Nat) : Prop :=
  action.core ≠ core ∧ ∃ intid handler, action.call = .setShared intid handler ∧
    state.perCore action.core intid = none ∧ state.perCore core intid ≠ none

namespace HandlerState

variable {ι η : Type} [DecidableEq ι] [ToString ι]

/-- What a call does when made on `core`. -/
def run (core : Nat) : HandlerCall ι η → HandlerState ι η → Except Panic (Option η × HandlerState ι η)
  | .setShared intid handler => setSharedIrqHandler core intid handler
  | .removeShared intid => removeSharedIrqHandler intid
  | .setPrivate intid handler => setPrivateIrqHandler core intid handler
  | .removePrivate intid => removePrivateIrqHandler core intid

/-- One call on one core, in any interleaving: a call whose assert fails
panics and leaves the maps as they were. -/
def step (state : HandlerState ι η) (action : HandlerAction ι η) : HandlerState ι η :=
  match run action.core action.call state with
  | .ok (_, state') => state'
  | .error _ => state

/-- No interrupt has both a shared handler and a private handler on `core`. -/
def NoConflictOn (state : HandlerState ι η) (core : Nat) : Prop :=
  ∀ intid, state.shared intid = none ∨ state.perCore core intid = none

/-! ### What each call does to a core's conflicts -/

theorem step_setShared (state : HandlerState ι η) (core : Nat) (intid : ι) (handler : η) :
    state.step ⟨core, .setShared intid handler⟩ =
      if (state.perCore core intid).isSome then state
      else { state with shared := Function.update state.shared intid (some handler) } := by
  by_cases checked : (state.perCore core intid).isSome <;>
    simp [step, run, setSharedIrqHandler, checked]

theorem step_setPrivate (state : HandlerState ι η) (core : Nat) (intid : ι) (handler : η) :
    state.step ⟨core, .setPrivate intid handler⟩ =
      if (state.shared intid).isSome then state
      else state.updatePerCore core intid (some handler) := by
  by_cases checked : (state.shared intid).isSome <;>
    simp [step, run, setPrivateIrqHandler, checked]

theorem step_removeShared (state : HandlerState ι η) (core : Nat) (intid : ι) :
    state.step ⟨core, .removeShared intid⟩ =
      { state with shared := Function.update state.shared intid none } := rfl

theorem step_removePrivate (state : HandlerState ι η) (core : Nat) (intid : ι) :
    state.step ⟨core, .removePrivate intid⟩ = state.updatePerCore core intid none := rfl

/-- **Step lemma.** A core without conflicts keeps none across every call
that does not create one. -/
theorem step_noConflictOn (state : HandlerState ι η) (action : HandlerAction ι η) (core : Nat)
    (noConflict : state.NoConflictOn core) :
    (state.step action).NoConflictOn core ∨ action.CreatesConflictOn state core := by
  obtain ⟨caller, call⟩ := action
  cases call with
  | setShared intid handler =>
      rw [step_setShared]
      by_cases checked : (state.perCore caller intid).isSome
      · rw [if_pos checked]
        exact Or.inl noConflict
      rw [if_neg checked]
      by_cases here : caller = core
      · -- the assert read this core's private map
        subst here
        refine Or.inl fun other => ?_
        by_cases same : other = intid
        · subst same
          exact Or.inr (Option.not_isSome_iff_eq_none.mp checked)
        · simpa [Function.update_of_ne same] using noConflict other
      by_cases privatelyHere : state.perCore core intid = none
      · refine Or.inl fun other => ?_
        by_cases same : other = intid
        · subst same
          exact Or.inr privatelyHere
        · simpa [Function.update_of_ne same] using noConflict other
      · exact Or.inr ⟨here, intid, handler, rfl, Option.not_isSome_iff_eq_none.mp checked,
          privatelyHere⟩
  | removeShared intid =>
      refine Or.inl fun other => ?_
      rw [step_removeShared]
      by_cases same : other = intid
      · subst same
        simp
      · simpa [Function.update_of_ne same] using noConflict other
  | setPrivate intid handler =>
      refine Or.inl fun other => ?_
      rw [step_setPrivate]
      by_cases checked : (state.shared intid).isSome
      · rw [if_pos checked]
        exact noConflict other
      rw [if_neg checked]
      by_cases here : caller = core
      · subst here
        by_cases same : other = intid
        · subst same
          simp [Option.not_isSome_iff_eq_none.mp checked]
        · simpa [Function.update_of_ne same] using noConflict other
      · simpa [Ne.symm here] using noConflict other
  | removePrivate intid =>
      refine Or.inl fun other => ?_
      rw [step_removePrivate]
      by_cases here : caller = core
      · subst here
        by_cases same : other = intid
        · subst same
          simp
        · simpa [Function.update_of_ne same] using noConflict other
      · simpa [Ne.symm here] using noConflict other

/-- A call that creates a conflict does create one. -/
theorem step_conflict_of_createsConflictOn {state : HandlerState ι η}
    {action : HandlerAction ι η} {core : Nat} (creates : action.CreatesConflictOn state core) :
    ¬ (state.step action).NoConflictOn core := by
  obtain ⟨caller, call⟩ := action
  obtain ⟨elsewhere, intid, handler, isSetShared, callerFree, privatelyHere⟩ := creates
  simp only at isSetShared elsewhere callerFree
  subst isSetShared
  intro noConflict
  rw [step_setShared, callerFree] at noConflict
  rcases noConflict intid with sharedNone | privateNone
  · simp at sharedNone
  · exact privatelyHere privateNone

/-- A core without conflicts keeps none across a call exactly when the call
does not create one. -/
theorem step_noConflictOn_iff (state : HandlerState ι η) (action : HandlerAction ι η)
    (core : Nat) (noConflict : state.NoConflictOn core) :
    (state.step action).NoConflictOn core ↔ ¬ action.CreatesConflictOn state core := by
  constructor
  · intro kept creates
    exact step_conflict_of_createsConflictOn creates kept
  · intro notCreates
    rcases step_noConflictOn state action core noConflict with kept | creates
    · exact kept
    · exact absurd creates notCreates

/-- A core on which no call is made keeps its private map. -/
theorem step_perCore_of_ne (state : HandlerState ι η) (action : HandlerAction ι η) {core : Nat}
    (elsewhere : action.core ≠ core) : (state.step action).perCore core = state.perCore core := by
  obtain ⟨caller, call⟩ := action
  cases call with
  | setShared intid handler =>
      rw [step_setShared]
      split_ifs <;> rfl
  | removeShared intid => rfl
  | setPrivate intid handler =>
      rw [step_setPrivate]
      split_ifs
      · rfl
      · exact updatePerCore_perCore_of_ne _ _ _ (Ne.symm elsewhere)
  | removePrivate intid => exact updatePerCore_perCore_of_ne _ _ _ (Ne.symm elsewhere)

omit [DecidableEq ι] in
/-- Without a conflict on `core`, `handle_irq` there runs the shared handler
of an interrupt that has one. -/
theorem handleIrq_eq_shared {state : HandlerState ι η} {core : Nat}
    (noConflict : state.NoConflictOn core) {intid : ι} {handler : η}
    (registered : state.shared intid = some handler) :
    handleIrq core (some intid) state = .ok handler := by
  have privatelyNone : state.perCore core intid = none := by
    rcases noConflict intid with sharedNone | privateNone
    · rw [registered] at sharedNone
      cases sharedNone
    · exact privateNone
  simp [handleIrq, privatelyNone, registered]

/-- **Single-core runs.** When every call is made on one core, no core ever
has a conflict: the calling core never creates one, and the others keep empty
private maps. -/
theorem foldl_noConflictOn_of_single_core (core : Nat) (actions : List (HandlerAction ι η))
    (single : ∀ action ∈ actions, action.core = core) :
    ∀ other, (actions.foldl step empty).NoConflictOn other := by
  let Inv : HandlerState ι η → Prop := fun state =>
    state.NoConflictOn core ∧ ∀ other, other ≠ core → ∀ intid, state.perCore other intid = none
  have preserved : ∀ state, ∀ action ∈ actions, Inv state → Inv (state.step action) := by
    intro state action member ⟨noConflict, othersEmpty⟩
    have onCore := single action member
    refine ⟨?_, fun other elsewhere intid => ?_⟩
    · rcases step_noConflictOn state action core noConflict with kept | creates
      · exact kept
      · exact absurd onCore creates.1
    · rw [step_perCore_of_ne state action (onCore ▸ Ne.symm elsewhere)]
      exact othersEmpty other elsewhere intid
  have initial : Inv empty := ⟨fun _ => Or.inl rfl, fun _ _ _ => rfl⟩
  obtain ⟨noConflict, othersEmpty⟩ := Reachable.foldl_invariant preserved initial
  intro other
  by_cases same : other = core
  · exact same ▸ noConflict
  · exact fun intid => Or.inr (othersEmpty other same intid)

/-- **Conflicts across cores.** A call leaves a core without conflicts exactly
unless it is a `set_shared_irq_handler` issued on another core for an
interrupt that core handles privately. So in every run whose calls are all
made on one core, no core has a conflict, and `handle_irq` runs the shared
handler of every interrupt that has one. -/
theorem conflicts_only_from_remote_setShared :
    (∀ (state : HandlerState ι η) action core, state.NoConflictOn core →
      ((state.step action).NoConflictOn core ↔ ¬ action.CreatesConflictOn state core)) ∧
    ∀ (core : Nat) (actions : List (HandlerAction ι η)), (∀ action ∈ actions, action.core = core) →
      ∀ other intid handler, (actions.foldl step empty).NoConflictOn other ∧
        ((actions.foldl step empty).shared intid = some handler →
          handleIrq other (some intid) (actions.foldl step empty) = .ok handler) := by
  refine ⟨step_noConflictOn_iff, ?_⟩
  intro core actions single other intid handler
  have noConflict := foldl_noConflictOn_of_single_core core actions single other
  exact ⟨noConflict, handleIrq_eq_shared noConflict⟩

end HandlerState

/-- Calls all made on the boot core: a shared handler and a private one for
another interrupt. -/
theorem conflicts_only_from_remote_setShared_on_boot_core :
    let actions : List (HandlerAction Nat String) :=
      [⟨0, .setShared 33 "uart"⟩, ⟨0, .setPrivate 1 "sgi"⟩]
    (∀ action ∈ actions, action.core = 0) ∧
      (actions.foldl HandlerState.step HandlerState.empty).NoConflictOn 1 ∧
      ((actions.foldl HandlerState.step HandlerState.empty).shared 33 = some "uart" →
        handleIrq 1 (some 33) (actions.foldl HandlerState.step HandlerState.empty) = .ok "uart") := by
  intro actions
  have single : ∀ action ∈ actions, action.core = 0 := by decide
  exact ⟨single, HandlerState.conflicts_only_from_remote_setShared.2 0 actions single 1 33 "uart"⟩

/-- Core 1 registers a private handler, then core 0 a shared one for the same
interrupt. The assert of `set_shared_irq_handler` reads only core 0's private
map, so it passes, and `handle_irq` on core 1 then runs the private handler
although a shared one is registered. -/
theorem remote_setShared_conflicts :
    ∃ state : HandlerState Nat String,
      state = ([⟨1, .setPrivate 0 "private"⟩, ⟨0, .setShared 0 "shared"⟩] :
        List (HandlerAction Nat String)).foldl HandlerState.step HandlerState.empty ∧
      Reachable HandlerState.step HandlerState.empty state ∧ state.shared 0 = some "shared" ∧
      state.perCore 1 0 = some "private" ∧ ¬ state.NoConflictOn 1 ∧
      handleIrq 1 (some 0) state = .ok "private" := by
  refine ⟨_, rfl, Reachable.of_foldl _ .initial, rfl, rfl, fun noConflict => ?_, rfl⟩
  -- interrupt 0 has both a shared handler and core 1's private one
  rcases noConflict 0 with sharedNone | privateNone
  · exact absurd sharedNone (by decide)
  · exact absurd privateNone (by decide)

end Osdemo.Interrupts
