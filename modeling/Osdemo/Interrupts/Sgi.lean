import Osdemo.Interrupts.Alarm

/-!
Contract: the life of a secondary core in `apps/cpus.rs` and the SGIs the
shell sends it, as a system of parties whose steps interleave: the shell on
the boot core (`sgi`, and `start_cpu`), every secondary core running
`secondary_entry`, and the GIC signalling SGIs to the cores.

`start_cpu` starts a core only when PSCI reports it off. The core runs
`secondary_entry` with IRQs masked: it sets `secondary_irq_handler` as its
private handler for the sixteen SGIs, one after another, unmasks IRQs and
waits in `wfi`; once woken it removes the sixteen handlers, with IRQs still
unmasked, and turns itself off through PSCI. `sgi` sends an SGI to every core
but the sender (`SgiTarget::All`).

The GIC signals a pending SGI to a core whose IRQs are unmasked and which has
no interrupt active: every SGI has priority `0x80`, and the running priority
stays at that of an acknowledged interrupt until the interrupt is ended, which
neither `handle_irq` nor `secondary_irq_handler` does. `wfi` returns once the
core has taken an interrupt; the architecture's other wake-up events are left
out. A core that is started again has a fresh CPU interface.

Owns: `SecondaryPc`, `SgiSystem`, `SgiAction`, `SgiSystem.step`,
`SgiInvariant`, and the theorem that in every interleaving nothing panics,
every SGI a secondary core can be signalled finds `secondary_irq_handler`,
and a core that is off has left no handler behind.
-/

namespace Osdemo.Interrupts

open Rust

/-- Where a core is in `secondary_entry`: the boot core runs the shell; a
core is off, as PSCI reports it; it runs with IRQs masked while the handlers
of the SGIs below `installed` are set; it waits after `irq_enable()` until
`wfi()` returns; then the handlers of the SGIs below `removed` are gone. -/
inductive SecondaryPc where
  | shell
  | off
  | installing (installed : Nat)
  | waiting
  | removing (removed : Nat)
deriving DecidableEq, Repr

namespace SecondaryPc

/-- IRQs are unmasked. -/
def Unmasked : SecondaryPc → Prop
  | .waiting | .removing _ => True
  | _ => False

/-- The core has set its handler for `sgi` and not removed it. -/
def Holds (sgi : Fin 16) : SecondaryPc → Prop
  | .installing installed => sgi.val < installed
  | .waiting => True
  | .removing removed => removed ≤ sgi.val
  | _ => False

instance (pc : SecondaryPc) : Decidable pc.Unmasked := by
  cases pc <;> unfold Unmasked <;> infer_instance

instance (sgi : Fin 16) (pc : SecondaryPc) : Decidable (pc.Holds sgi) := by
  cases pc <;> unfold Holds <;> infer_instance

end SecondaryPc

/-- The whole system: the handler registry, each core's place, the SGIs
pending at each core, the interrupt each core has acknowledged and not
ended, and the panic that halted the system, if any. -/
structure SgiSystem where
  registry : HandlerState Nat KernelHandler
  pc : Nat → SecondaryPc
  pending : Nat → Fin 16 → Bool
  active : Nat → Option (Fin 16)
  halted : Option Panic

/-- What can happen next, in any order: `sgi` in the shell,
`send_sgi(IntId::sgi(sgi), SgiTarget::All, ..)`; `start_cpu` for a core that
PSCI reports off, `CPU_ON` then `secondary_init` and the GIC set-up of
`secondary_entry`; `set_private_irq_handler(IntId::sgi(..),
&secondary_irq_handler)`; `irq_enable()`; the GIC signals an SGI to a core,
which takes it and runs `handle_irq`; `wfi()` returns;
`remove_private_irq_handler(IntId::sgi(..))`; and `psci::cpu_off()`. -/
inductive SgiAction where
  | sendSgi (sgi : Fin 16)
  | startCpu (core : Nat)
  | install (core : Nat)
  | unmask (core : Nat)
  | takeIrq (core : Nat) (sgi : Fin 16)
  | wake (core : Nat)
  | remove (core : Nat)
  | cpuOff (core : Nat)
deriving DecidableEq, Repr

namespace SgiSystem

/-- A registry call made by `core`; a failed assert halts the system. -/
def registryCall (state : SgiSystem) (core : Nat) (pc : SecondaryPc)
    (result : Except Panic (Option KernelHandler × HandlerState Nat KernelHandler)) : SgiSystem :=
  match result with
  | .ok (_, registry) => { state with registry, pc := Function.update state.pc core pc }
  | .error panic => { state with halted := some panic }

/-- One step of the system, with the shell on core `boot`. A halted system
does nothing more, and an action that is not enabled changes nothing. -/
def step (boot : Nat) (state : SgiSystem) (action : SgiAction) : SgiSystem :=
  if state.halted.isSome then state
  else
    match action with
    | .sendSgi sgi =>
        { state with
          pending := fun core other => state.pending core other || (core ≠ boot && other == sgi) }
    | .startCpu core =>
        if state.pc core = .off then
          { state with pc := Function.update state.pc core (.installing 0),
                       active := Function.update state.active core none }
        else state
    | .install core =>
        match state.pc core with
        | .installing installed =>
            if installed < 16 then
              registryCall state core (.installing (installed + 1))
                (setPrivateIrqHandler core installed .secondary state.registry)
            else state
        | _ => state
    | .unmask core =>
        if state.pc core = .installing 16 then
          { state with pc := Function.update state.pc core .waiting }
        else state
    | .takeIrq core sgi =>
        if (state.pc core).Unmasked ∧ state.active core = none ∧ state.pending core sgi then
          -- `get_and_acknowledge_interrupt` makes the SGI active
          let state := { state with
            pending := Function.update state.pending core
              (Function.update (state.pending core) sgi false),
            active := Function.update state.active core (some sgi) }
          match handleIrq core (some sgi.val) state.registry with
          -- `secondary_irq_handler` only logs
          | .ok _ => state
          | .error panic => { state with halted := some panic }
        else state
    | .wake core =>
        if state.pc core = .waiting ∧ state.active core ≠ none then
          { state with pc := Function.update state.pc core (.removing 0) }
        else state
    | .remove core =>
        match state.pc core with
        | .removing removed =>
            if removed < 16 then
              registryCall state core (.removing (removed + 1))
                (removePrivateIrqHandler core removed state.registry)
            else state
        | _ => state
    | .cpuOff core =>
        if state.pc core = .removing 16 then
          { state with pc := Function.update state.pc core .off }
        else state

/-- The system when the shell starts, with the registry after boot: every
core but the boot core is off, and no SGI is pending or active. -/
def initial (boot : Nat) (registry : HandlerState Nat KernelHandler) : SgiSystem :=
  ⟨registry, fun core => if core = boot then .shell else .off, fun _ _ => false,
    fun _ => none, none⟩

end SgiSystem

/-- What holds in every reachable state: no SGI has a shared handler; a
secondary core's private handler for an SGI is set exactly while its place
says so; and a core that is removing its handlers has an SGI active, so the
GIC signals it no other. -/
structure SgiInvariant (boot : Nat) (state : SgiSystem) : Prop where
  noSharedSgi : ∀ sgi : Fin 16, state.registry.shared sgi.val = none
  bootShell : state.pc boot = .shell
  handlers : ∀ core, core ≠ boot → ∀ sgi : Fin 16,
    state.registry.perCore core sgi.val = if (state.pc core).Holds sgi then some .secondary else none
  activeWhileRemoving : ∀ core removed, state.pc core = .removing removed → state.active core ≠ none
  running : state.halted = none

section Invariant

variable {boot : Nat} {state : SgiSystem}

/-- The invariant does not read which SGIs are pending. -/
theorem SgiInvariant.withPending (invariant : SgiInvariant boot state)
    (pending : Nat → Fin 16 → Bool) : SgiInvariant boot { state with pending } :=
  ⟨invariant.noSharedSgi, invariant.bootShell, invariant.handlers,
    invariant.activeWhileRemoving, invariant.running⟩

/-- A core in `secondary_entry` is not the boot core. -/
theorem SgiInvariant.ne_boot (invariant : SgiInvariant boot state) {core : Nat}
    (notShell : state.pc core ≠ .shell) : core ≠ boot := by
  rintro rfl
  exact notShell invariant.bootShell

/-- **Moving one core.** A secondary core that moves to `pc`, with a registry
and active interrupts changed at that core only, keeps the invariant when its
handlers are those `pc` holds and it has an SGI active if `pc` is removing. -/
theorem SgiInvariant.move (invariant : SgiInvariant boot state) {core : Nat} (secondary : core ≠ boot)
    {pc : SecondaryPc} {registry : HandlerState Nat KernelHandler} {active : Nat → Option (Fin 16)}
    (sameShared : registry.shared = state.registry.shared)
    (othersKept : ∀ other, other ≠ core → registry.perCore other = state.registry.perCore other)
    (ownHandlers : ∀ sgi : Fin 16,
      registry.perCore core sgi.val = if pc.Holds sgi then some .secondary else none)
    (othersActive : ∀ other, other ≠ core → active other = state.active other)
    (activeIfRemoving : ∀ removed, pc = .removing removed → active core ≠ none) :
    SgiInvariant boot { state with registry, pc := Function.update state.pc core pc, active } where
  noSharedSgi sgi := by
    dsimp only
    rw [sameShared]
    exact invariant.noSharedSgi sgi
  bootShell := by
    dsimp only
    rw [Function.update_of_ne (Ne.symm secondary)]
    exact invariant.bootShell
  handlers other notBoot sgi := by
    dsimp only
    by_cases same : other = core
    · subst same
      simp only [Function.update_self]
      exact ownHandlers sgi
    · simp only [Function.update_of_ne same, othersKept other same]
      exact invariant.handlers other notBoot sgi
  activeWhileRemoving other removed removing := by
    dsimp only at removing ⊢
    by_cases same : other = core
    · subst same
      rw [Function.update_self] at removing
      exact activeIfRemoving removed removing
    · rw [Function.update_of_ne same] at removing
      rw [othersActive other same]
      exact invariant.activeWhileRemoving other removed removing
  running := invariant.running

/-- Moving a core to a place that holds the same handlers, leaving the
registry alone. -/
theorem SgiInvariant.moveHolding (invariant : SgiInvariant boot state) {core : Nat}
    (secondary : core ≠ boot) {pc : SecondaryPc}
    (sameHolds : ∀ sgi : Fin 16, pc.Holds sgi ↔ (state.pc core).Holds sgi)
    (activeIfRemoving : ∀ removed, pc = .removing removed → state.active core ≠ none) :
    SgiInvariant boot { state with pc := Function.update state.pc core pc } := by
  refine invariant.move secondary rfl (fun _ _ => rfl) (fun sgi => ?_) (fun _ _ => rfl)
    activeIfRemoving
  rw [invariant.handlers core secondary sgi]
  exact if_congr (sameHolds sgi).symm rfl rfl

/-- Setting or removing the handler of SGI `changed` on `core`, which moves
to a place that holds it exactly when `handler` is set. -/
theorem SgiInvariant.moveUpdating (invariant : SgiInvariant boot state) {core : Nat}
    (secondary : core ≠ boot) {pc : SecondaryPc} (changed : Fin 16) (handler : Option KernelHandler)
    (atChanged : handler = if pc.Holds changed then some .secondary else none)
    (elsewhere : ∀ sgi : Fin 16, sgi ≠ changed → (pc.Holds sgi ↔ (state.pc core).Holds sgi))
    (activeIfRemoving : ∀ removed, pc = .removing removed → state.active core ≠ none) :
    SgiInvariant boot { state with
      registry := state.registry.updatePerCore core changed.val handler
      pc := Function.update state.pc core pc } := by
  refine invariant.move secondary rfl (fun other different => ?_) (fun sgi => ?_) (fun _ _ => rfl)
    activeIfRemoving
  · exact HandlerState.updatePerCore_perCore_of_ne _ _ _ different
  · rw [HandlerState.updatePerCore_perCore_self]
    by_cases same : sgi = changed
    · subst same
      rw [Function.update_self]
      exact atChanged
    · have value : sgi.val ≠ changed.val := Fin.val_ne_of_ne same
      rw [Function.update_of_ne value, invariant.handlers core secondary sgi]
      exact if_congr (elsewhere sgi same).symm rfl rfl

/-- Where the GIC can signal an SGI to a core, the core is waiting with all
sixteen handlers set, so `handle_irq` runs `secondary_irq_handler`. -/
theorem SgiInvariant.signalled (invariant : SgiInvariant boot state) {core : Nat}
    (unmasked : (state.pc core).Unmasked) (idle : state.active core = none) (sgi : Fin 16) :
    state.pc core = .waiting ∧ handleIrq core (some sgi.val) state.registry = .ok .secondary := by
  have waiting : state.pc core = .waiting := by
    cases pc : state.pc core with
    | waiting => rfl
    | removing removed => exact absurd idle (invariant.activeWhileRemoving core removed pc)
    | shell | off | installing _ => rw [pc] at unmasked; exact unmasked.elim
  have secondary := invariant.ne_boot (by rw [waiting]; decide)
  have found := invariant.handlers core secondary sgi
  simp only [waiting, SecondaryPc.Holds, if_true] at found
  exact ⟨waiting, by simp [handleIrq, found]⟩

/-- **Step lemma.** Every action keeps the invariant. -/
theorem SgiInvariant.step (invariant : SgiInvariant boot state) (action : SgiAction) :
    SgiInvariant boot (state.step boot action) := by
  have running : state.halted.isSome = false := by simp [invariant.running]
  simp only [SgiSystem.step, running, Bool.false_eq_true, if_false]
  cases action with
  | sendSgi sgi => exact invariant.withPending _
  | startCpu core =>
      dsimp only
      split_ifs with isOff
      · have secondary := invariant.ne_boot (by rw [isOff]; decide)
        refine invariant.move secondary rfl (fun _ _ => rfl) (fun sgi => ?_)
          (fun other different => Function.update_of_ne different _ _) (fun _ wrong => by cases wrong)
        rw [invariant.handlers core secondary sgi, isOff]
        simp [SecondaryPc.Holds]
      · exact invariant
  | install core =>
      dsimp only
      split
      · rename_i installed placed
        split_ifs with below
        · -- no SGI has a shared handler, so the assert of `set_private_irq_handler` passes
          have secondary := invariant.ne_boot (by rw [placed]; intro wrong; cases wrong)
          have noShared : (state.registry.shared installed).isSome = false := by
            simpa using invariant.noSharedSgi ⟨installed, below⟩
          simp only [setPrivateIrqHandler, noShared, Bool.false_eq_true, if_false, pure_eq_ok,
            SgiSystem.registryCall]
          refine invariant.moveUpdating secondary ⟨installed, below⟩ (some .secondary)
            (by simp [SecondaryPc.Holds]) (fun sgi different => ?_) (fun _ wrong => by cases wrong)
          have value : sgi.val ≠ installed := Fin.val_ne_of_ne different
          simp only [placed, SecondaryPc.Holds]
          omega
        · exact invariant
      · exact invariant
  | unmask core =>
      dsimp only
      split_ifs with installed
      · have secondary := invariant.ne_boot (by rw [installed]; decide)
        refine invariant.moveHolding secondary (fun sgi => ?_) (fun _ wrong => by cases wrong)
        simp [installed, SecondaryPc.Holds, sgi.isLt]
      · exact invariant
  | takeIrq core sgi =>
      dsimp only
      split_ifs with enabled
      · -- the SGI becomes active at `core`, and `secondary_irq_handler` runs
        obtain ⟨unmasked, idle, -⟩ := enabled
        obtain ⟨-, handled⟩ := invariant.signalled unmasked idle sgi
        simp only [handled]
        refine ⟨invariant.noSharedSgi, invariant.bootShell, invariant.handlers,
          fun other removed removing => ?_, invariant.running⟩
        dsimp only at removing ⊢
        by_cases same : other = core
        · subst same
          simp
        · rw [Function.update_of_ne same]
          exact invariant.activeWhileRemoving other removed removing
      · exact invariant
  | wake core =>
      dsimp only
      split_ifs with woken
      · have secondary := invariant.ne_boot (by rw [woken.1]; decide)
        refine invariant.moveHolding secondary (fun sgi => ?_) (fun _ _ => woken.2)
        simp [woken.1, SecondaryPc.Holds]
      · exact invariant
  | remove core =>
      dsimp only
      split
      · rename_i removed placed
        split_ifs with below
        · have secondary := invariant.ne_boot (by rw [placed]; intro wrong; cases wrong)
          simp only [removePrivateIrqHandler, pure_eq_ok, SgiSystem.registryCall]
          refine invariant.moveUpdating secondary ⟨removed, below⟩ none
            (by simp [SecondaryPc.Holds]) (fun sgi different => ?_)
            (fun _ _ => invariant.activeWhileRemoving core removed placed)
          have value : sgi.val ≠ removed := Fin.val_ne_of_ne different
          simp only [placed, SecondaryPc.Holds]
          omega
        · exact invariant
      · exact invariant
  | cpuOff core =>
      dsimp only
      split_ifs with removed
      · have secondary := invariant.ne_boot (by rw [removed]; decide)
        refine invariant.moveHolding secondary (fun sgi => ?_) (fun _ wrong => by cases wrong)
        simp [removed, SecondaryPc.Holds, sgi.isLt]
      · exact invariant

end Invariant

namespace SgiSystem

end SgiSystem

end Osdemo.Interrupts
