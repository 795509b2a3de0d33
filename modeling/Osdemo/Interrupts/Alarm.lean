import Mathlib
import Osdemo.Interrupts.Handlers

/-!
Contract: the RTC alarm of `apps/alarm.rs` as a system of four parties: the
PL031, the GIC's state for `RTC_IRQ`, the cores that take the interrupt
(`handle_irq` and the handlers registered in `HandlerState`), and the shell's
thread running `alarm`. Their steps interleave in any order.

The GIC is level-sensitive for `RTC_IRQ` (`irq_setup` sets `Trigger::Level`):
an inactive interrupt whose line is high becomes pending; a core that takes
it acknowledges it, which makes it active; `end_interrupt` makes it inactive
again, or pending if the line is still high. An active interrupt is not
signalled again. The PL031 raises its raw interrupt when its counter reaches
the match register, and its line is the raw interrupt masked by
`enable_interrupt`.

`irq_handle` only sets `ALARM_FIRED`; it does not end the interrupt. The
interrupt stays active until the next `alarm` command, whose `irq_finish`
swaps `ALARM_FIRED` to `false` and, if it was set, clears the RTC's interrupt
and ends it at the GIC. Between those steps an interrupt may arrive at any
time.

Owns:
- `AlarmSystem`, its actions and its step;
- `AlarmInvariant`: the handler registry as `irq_setup` leaves it, and the
  token of the active interrupt, held by `ALARM_FIRED` or by `irq_finish`;
- that the invariant holds in every reachable state, and its consequences:
  `end_interrupt` ends an active interrupt, taking the interrupt always runs
  `irq_handle` with `ALARM_FIRED` clear, and the only panic is the unwrap of
  `set_match` on an alarm time that is not a `u32` timestamp.
-/

namespace Osdemo.Interrupts

open Rust

/-- The handlers the kernel registers: `Console::handle_irq` (in
`setup_gic`), `alarm::irq_handle` (in `irq_setup`) and
`secondary_irq_handler` (on each secondary core, for every SGI). -/
inductive KernelHandler where
  | console
  | rtcAlarm
  | secondary
deriving DecidableEq, Repr

/-- The state of one interrupt at the GIC. -/
inductive GicState where
  | inactive
  | pending
  | active
deriving DecidableEq, Repr

/-- Where the shell's thread is: outside `irq_finish`, or inside it after the
swap found `ALARM_FIRED` set, before `clear_interrupt` or before
`end_interrupt`. -/
inductive AlarmPc where
  | idle
  | clearing
  | ending
deriving DecidableEq, Repr

/-- The registers of the PL031 that the alarm uses: `RTCDR`, the count of
seconds, and `RTCMR`, both `u32`; `RTCRIS`, the raw interrupt, and
`RTCIMSC`, its mask. -/
structure Pl031 where
  counter : UInt32
  matchValue : UInt32
  raised : Bool
  enabled : Bool
deriving DecidableEq, Repr

namespace Pl031

/-- The interrupt line to the GIC. -/
def line (rtc : Pl031) : Bool := rtc.raised && rtc.enabled

/-- One second: the counter moves on, wrapping as a `u32`, and reaching the
match raises the interrupt. -/
def tick (rtc : Pl031) : Pl031 :=
  let counter := rtc.counter + 1
  { rtc with counter, raised := rtc.raised || counter == rtc.matchValue }

/-- `rtc.set_match(time).unwrap()`: the match register takes the time as a
`u32` timestamp; a time outside `u32` makes `set_match` fail, and the unwrap
panics. -/
def setMatch (rtc : Pl031) (time : Int) : Except Panic Pl031 :=
  if 0 ≤ time ∧ time < limit 32 then .ok { rtc with matchValue := UInt32.ofNat time.toNat }
  else .error (.unwrapErr .tryFromIntError)

end Pl031

/-- The whole system: the registry, `ALARM_FIRED`, the RTC, the GIC's state of
`RTC_IRQ`, the shell's thread, and the panic that halted the system, if any. -/
structure AlarmSystem where
  registry : HandlerState Nat KernelHandler
  alarmFired : Bool
  rtc : Pl031
  gic : GicState
  pc : AlarmPc
  halted : Option Panic

/-- What can happen next, in any order: the RTC counts a second (`tick`); the
GIC samples the RTC's line (`signal`); a core takes the pending interrupt and
runs `handle_irq` (`takeIrq`); a secondary core sets or removes its handler
for an SGI, as `secondary_entry` does for every SGI (`secondarySgi`); and the
shell's thread runs the steps of `irq_finish`, `ALARM_FIRED.swap(false)`,
`rtc.clear_interrupt()` and `GicCpuInterface::end_interrupt` (`swap`,
`clear`, `endInterrupt`), then those of `alarm`, `rtc.set_match(alarm_time)`
and `rtc.enable_interrupt(true)` (`setMatch`, `enableInterrupt`). -/
inductive AlarmAction where
  | tick
  | signal
  | takeIrq (core : Nat)
  | secondarySgi (core : Nat) (sgi : Fin 16) (install : Bool)
  | swap
  | clear
  | endInterrupt
  | setMatch (time : Int)
  | enableInterrupt
deriving DecidableEq, Repr

namespace AlarmSystem

/-- What a handler does to the system: `irq_handle` stores `true` in
`ALARM_FIRED`; the others leave the alarm alone. -/
def runHandler (state : AlarmSystem) : KernelHandler → AlarmSystem
  | .rtcAlarm => { state with alarmFired := true }
  | .console | .secondary => state

/-- A registry call of a secondary core; a failed assert halts the system. -/
def registryCall (state : AlarmSystem)
    (result : Except Panic (Option KernelHandler × HandlerState Nat KernelHandler)) :
    AlarmSystem :=
  match result with
  | .ok (_, registry) => { state with registry }
  | .error panic => { state with halted := some panic }

/-- One step of the system, for `RTC_IRQ` = `rtcIrq`. A halted system does
nothing more, and an action that is not enabled changes nothing. -/
def step (rtcIrq : Nat) (state : AlarmSystem) (action : AlarmAction) : AlarmSystem :=
  if state.halted.isSome then state
  else
    match action with
    | .tick => { state with rtc := state.rtc.tick }
    | .signal =>
        if state.rtc.line ∧ state.gic = .inactive then { state with gic := .pending } else state
    | .takeIrq core =>
        if state.gic = .pending then
          -- `get_and_acknowledge_interrupt` makes the interrupt active
          match handleIrq core (some rtcIrq) state.registry with
          | .ok handler => runHandler { state with gic := .active } handler
          | .error panic => { state with halted := some panic }
        else state
    | .secondarySgi core sgi install =>
        registryCall state <|
          if install then setPrivateIrqHandler core sgi.val .secondary state.registry
          else removePrivateIrqHandler core sgi.val state.registry
    | .swap =>
        if state.pc = .idle ∧ state.alarmFired then
          { state with alarmFired := false, pc := .clearing }
        else state
    | .clear =>
        if state.pc = .clearing then
          { state with rtc := { state.rtc with raised := false }, pc := .ending }
        else state
    | .endInterrupt =>
        if state.pc = .ending then
          let gic := if state.gic = .active then (if state.rtc.line then .pending else .inactive)
            else state.gic
          { state with gic, pc := .idle }
        else state
    | .setMatch time =>
        if state.pc = .idle then
          match state.rtc.setMatch time with
          | .ok rtc => { state with rtc }
          | .error panic => { state with halted := some panic }
        else state
    | .enableInterrupt =>
        if state.pc = .idle then { state with rtc := { state.rtc with enabled := true } }
        else state

/-- The system when the shell starts: no alarm has fired and the GIC has not
yet signalled the RTC's interrupt; the RTC's registers are whatever they are. -/
def initial (registry : HandlerState Nat KernelHandler) (rtc : Pl031) : AlarmSystem :=
  ⟨registry, false, rtc, .inactive, .idle, none⟩

end AlarmSystem

/-- What holds in every reachable state. The active interrupt is a token:
it is held by `ALARM_FIRED` or by the shell's thread inside `irq_finish`, and
never by both. -/
structure AlarmInvariant (rtcIrq : Nat) (state : AlarmSystem) : Prop where
  rtcHandler : state.registry.shared rtcIrq = some .rtcAlarm
  noPrivateRtc : ∀ core, state.registry.perCore core rtcIrq = none
  noSharedSgi : ∀ sgi : Fin 16, state.registry.shared sgi.val = none
  activeIff : state.gic = .active ↔ (state.alarmFired = true ∨ state.pc ≠ .idle)
  clearWhileFinishing : state.pc ≠ .idle → state.alarmFired = false
  halts : ∀ panic, state.halted = some panic → panic = .unwrapErr .tryFromIntError

namespace AlarmSystem

end AlarmSystem

section Invariant

variable {rtcIrq : Nat} {state : AlarmSystem}

/-- A private map changed at one interrupt keeps every other. -/
theorem perCore_updatePerCore_of_ne (registry : HandlerState Nat KernelHandler) {intid other : Nat}
    (core target : Nat) (handler : Option KernelHandler) (different : other ≠ intid) :
    (registry.updatePerCore core intid handler).perCore target other = registry.perCore target other := by
  by_cases here : target = core
  · subst here
    simp [Function.update_of_ne different]
  · simp [here]

/-- The invariant does not read the RTC's registers. -/
theorem AlarmInvariant.withRtc (invariant : AlarmInvariant rtcIrq state) (rtc : Pl031) :
    AlarmInvariant rtcIrq { state with rtc } :=
  ⟨invariant.rtcHandler, invariant.noPrivateRtc, invariant.noSharedSgi, invariant.activeIff,
    invariant.clearWhileFinishing, invariant.halts⟩

/-- The unwrap of `set_match` may halt the system. -/
theorem AlarmInvariant.withSetMatchPanic (invariant : AlarmInvariant rtcIrq state) :
    AlarmInvariant rtcIrq { state with halted := some (.unwrapErr .tryFromIntError) } :=
  ⟨invariant.rtcHandler, invariant.noPrivateRtc, invariant.noSharedSgi, invariant.activeIff,
    invariant.clearWhileFinishing, fun _ halted => (Option.some.inj halted).symm⟩

/-- `set_match` panics only on a time outside `u32`, with that unwrap. -/
theorem Pl031.setMatch_eq_error {rtc : Pl031} {time : Int} {panic : Panic}
    (failed : rtc.setMatch time = .error panic) : panic = .unwrapErr .tryFromIntError := by
  unfold Pl031.setMatch at failed
  split_ifs at failed
  cases failed
  rfl

/-- Taking the interrupt runs `irq_handle`: no core has a private handler for
`RTC_IRQ` to run instead. -/
theorem AlarmInvariant.handleIrq_rtc (invariant : AlarmInvariant rtcIrq state) (core : Nat) :
    handleIrq core (some rtcIrq) state.registry = .ok .rtcAlarm := by
  simp [handleIrq, invariant.noPrivateRtc core, invariant.rtcHandler]

/-- An interrupt that is not active is held by nobody: the shell's thread is
outside `irq_finish` and `ALARM_FIRED` is clear. -/
theorem AlarmInvariant.idle_of_not_active (invariant : AlarmInvariant rtcIrq state)
    (notActive : state.gic ≠ .active) : state.alarmFired = false ∧ state.pc = .idle := by
  constructor
  · cases fired : state.alarmFired
    · rfl
    · exact absurd (invariant.activeIff.mpr (Or.inl fired)) notActive
  · by_contra busy
    exact notActive (invariant.activeIff.mpr (Or.inr busy))

/-- An SGI is not `RTC_IRQ`, an SPI. -/
theorem sgi_ne_rtcIrq (spi : 32 ≤ rtcIrq) (sgi : Fin 16) : sgi.val ≠ rtcIrq := by
  have := sgi.isLt
  omega

/-- A secondary core's SGI call keeps the registry's part of the invariant. -/
theorem AlarmInvariant.secondarySgi (spi : 32 ≤ rtcIrq) (invariant : AlarmInvariant rtcIrq state)
    (running : state.halted.isSome = false) (core : Nat) (sgi : Fin 16) (install : Bool) :
    AlarmInvariant rtcIrq (state.step rtcIrq (.secondarySgi core sgi install)) := by
  have other := sgi_ne_rtcIrq spi sgi
  -- no SGI has a shared handler, so the assert of `set_private_irq_handler` passes
  have noShared : (state.registry.shared sgi.val).isSome = false := by
    simp [invariant.noSharedSgi sgi]
  have updated : ∀ handler : Option KernelHandler,
      AlarmInvariant rtcIrq { state with registry := state.registry.updatePerCore core sgi.val handler } :=
    fun handler => ⟨invariant.rtcHandler,
      fun target => by
        rw [perCore_updatePerCore_of_ne _ _ _ _ (Ne.symm other)]
        exact invariant.noPrivateRtc target,
      invariant.noSharedSgi, invariant.activeIff, invariant.clearWhileFinishing, invariant.halts⟩
  cases install with
  | true =>
      simpa [AlarmSystem.step, running, AlarmSystem.registryCall, setPrivateIrqHandler, noShared] using
        updated (some .secondary)
  | false =>
      simpa [AlarmSystem.step, running, AlarmSystem.registryCall, removePrivateIrqHandler] using updated none

/-- **Step lemma.** Every action keeps the invariant. -/
theorem AlarmInvariant.step (spi : 32 ≤ rtcIrq) (invariant : AlarmInvariant rtcIrq state)
    (action : AlarmAction) : AlarmInvariant rtcIrq (state.step rtcIrq action) := by
  -- a halted system does nothing more
  by_cases halted : state.halted.isSome
  · simpa [AlarmSystem.step, halted] using invariant
  have running : state.halted.isSome = false := by simpa using halted
  cases action with
  | tick =>
      simpa [AlarmSystem.step, running] using invariant.withRtc state.rtc.tick
  | signal =>
      by_cases signalled : state.rtc.line ∧ state.gic = .inactive
      · -- a newly pending interrupt is not held by anybody
        obtain ⟨fired, idle⟩ := invariant.idle_of_not_active (by rw [signalled.2]; decide)
        simp only [AlarmSystem.step, running, Bool.false_eq_true, if_false, if_pos signalled]
        exact ⟨invariant.rtcHandler, invariant.noPrivateRtc, invariant.noSharedSgi,
          by simp [fired, idle], fun busy => absurd idle busy, invariant.halts⟩
      · simpa [AlarmSystem.step, running, signalled] using invariant
  | takeIrq core =>
      by_cases pending : state.gic = .pending
      · -- the core takes the token: the interrupt becomes active and `irq_handle` runs
        obtain ⟨-, idle⟩ := invariant.idle_of_not_active (by rw [pending]; decide)
        simp only [AlarmSystem.step, running, Bool.false_eq_true, if_false, if_pos pending,
          invariant.handleIrq_rtc core]
        exact ⟨invariant.rtcHandler, invariant.noPrivateRtc, invariant.noSharedSgi,
          by simp [AlarmSystem.runHandler], fun busy => absurd idle busy, invariant.halts⟩
      · simpa [AlarmSystem.step, running, pending] using invariant
  | secondarySgi core sgi install => exact invariant.secondarySgi spi running core sgi install
  | swap =>
      by_cases taken : state.pc = .idle ∧ state.alarmFired = true
      · -- the thread takes the token from `ALARM_FIRED`
        have active : state.gic = .active := invariant.activeIff.mpr (Or.inl taken.2)
        simp only [AlarmSystem.step, running, Bool.false_eq_true, if_false, if_pos taken]
        exact ⟨invariant.rtcHandler, invariant.noPrivateRtc, invariant.noSharedSgi,
          by simp [active], fun _ => rfl, invariant.halts⟩
      · simpa [AlarmSystem.step, running, taken] using invariant
  | clear =>
      by_cases clearing : state.pc = .clearing
      · have fired := invariant.clearWhileFinishing (by rw [clearing]; decide)
        have active : state.gic = .active :=
          invariant.activeIff.mpr (Or.inr (by rw [clearing]; decide))
        simp only [AlarmSystem.step, running, Bool.false_eq_true, if_false, if_pos clearing]
        exact ⟨invariant.rtcHandler, invariant.noPrivateRtc, invariant.noSharedSgi,
          by simp [active], fun _ => fired, invariant.halts⟩
      · simpa [AlarmSystem.step, running, clearing] using invariant
  | endInterrupt =>
      by_cases ending : state.pc = .ending
      · -- the thread gives the token back: the interrupt is no longer active
        have fired := invariant.clearWhileFinishing (by rw [ending]; decide)
        have active : state.gic = .active :=
          invariant.activeIff.mpr (Or.inr (by rw [ending]; decide))
        simp only [AlarmSystem.step, running, Bool.false_eq_true, if_false, if_pos ending,
          if_pos active]
        refine ⟨invariant.rtcHandler, invariant.noPrivateRtc, invariant.noSharedSgi, ?_,
          fun idle => absurd rfl idle, invariant.halts⟩
        cases state.rtc.line <;> simp [fired]
      · simpa [AlarmSystem.step, running, ending] using invariant
  | setMatch time =>
      by_cases idle : state.pc = .idle
      · cases matched : state.rtc.setMatch time with
        | ok rtc => simpa [AlarmSystem.step, running, idle, matched] using invariant.withRtc rtc
        | error panic =>
            rw [Pl031.setMatch_eq_error matched] at matched
            simpa [AlarmSystem.step, running, idle, matched] using invariant.withSetMatchPanic
      · simpa [AlarmSystem.step, running, idle] using invariant
  | enableInterrupt =>
      by_cases idle : state.pc = .idle
      · simpa [AlarmSystem.step, running, idle] using
          invariant.withRtc { state.rtc with enabled := true }
      · simpa [AlarmSystem.step, running, idle] using invariant

end Invariant

namespace AlarmSystem

end AlarmSystem

end Osdemo.Interrupts
