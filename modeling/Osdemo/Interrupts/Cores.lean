import Osdemo.Interrupts.Handlers
import Osdemo.Platform.Fdt

/-!
Contract: `cpus.rs`, how a core finds its own index, and the per-core state
built on it.

A core's index is the position, among the cpu nodes of the device tree, of
the first one whose first `reg` value equals the affinity fields of the
core's MPIDR. `PerCoreState` is a slice of `cpu_count()` entries indexed by
it, through `percore`'s `Cores` trait, whose implementation `CoresImpl`
promises that cores with different affinities get different indices.

Owns: `mpidrAffinity`, `mpidrToCpuIndex`, `currentCpuIndex`, `cpuCount`,
`perCoreIndex` (`PerCore::get`), and `stepOnCore`, a call of the handler
registry made on the core with a given MPIDR. The theorems: the index is in
bounds of every per-core slice, so `PerCore::get` panics exactly where
`current_cpu_index` does; different affinities give different indices; and
so no call made on one core changes the private handlers of another.
-/

namespace Osdemo.Interrupts

open Rust Osdemo.Platform

/-- `MPIDR_AFFINITY_MASK`: the fields Aff3, Aff2, Aff1 and Aff0. -/
def mpidrAffinityMask : UInt64 := 0xff00ffffff

/-- `mpidr_affinity()`, of the value `read_mpidr_el1()` returns. -/
def mpidrAffinity (mpidr : UInt64) : UInt64 := mpidr &&& mpidrAffinityMask

/-- `position` with the closure of `mpidr_to_cpu_index`, from the cpu node at
`index` on. The closure reads the node's first `reg` value with
`to_int::<u64>().unwrap()`, which panics where it does not fit. -/
def positionFrom (affinity : Nat) (index : Nat) : List (Option Nat) → Except Panic (Option Nat)
  | [] => pure none
  | none :: _ => throw (.unwrapErr .fdtError)
  | some id :: rest =>
      if id = affinity then pure (some index) else positionFrom affinity (index + 1) rest

/-- `mpidr_to_cpu_index(mpidr_affinity)`. -/
def mpidrToCpuIndex (fdt : Fdt) (mpidrAffinity : UInt64) : Except Panic (Option Nat) := do
  let cpus ← unwrap fdt.cpuIds
  positionFrom mpidrAffinity.toNat 0 cpus

/-- `current_cpu_index()` on the core whose MPIDR reads `mpidr`. -/
def currentCpuIndex (fdt : Fdt) (mpidr : UInt64) : Except Panic Nat := do
  let index ← mpidrToCpuIndex fdt (mpidrAffinity mpidr)
  unwrap index

/-- `cpu_count()`. -/
def cpuCount (fdt : Fdt) : Except Panic Nat := do
  let cpus ← unwrap fdt.cpuIds
  pure cpus.length

/-- `PerCore::get` on a `PerCoreState`: the slice of `cpu_count()` entries,
made on first use, indexed by `CoresImpl::core_index()`. -/
def perCoreIndex (fdt : Fdt) (mpidr : UInt64) : Except Panic Nat := do
  let count ← cpuCount fdt
  let index ← currentCpuIndex fdt mpidr
  if index < count then pure index
  else throw (.explicit s!"index out of bounds: the len is {count} but the index is {index}")

/-! ### Where the index points -/

/-- A position found from `index` on is `index` plus the place of a node
whose value is the affinity. -/
theorem positionFrom_eq_some {affinity index found : Nat} {cpus : List (Option Nat)}
    (position : positionFrom affinity index cpus = .ok (some found)) :
    ∃ offset, found = index + offset ∧ cpus[offset]? = some (some affinity) := by
  induction cpus generalizing index with
  | nil => cases position
  | cons cpu rest inductionHypothesis =>
      match cpu, position with
      | none, position => cases position
      | some id, position =>
          unfold positionFrom at position
          split_ifs at position with matched
          · -- the first node with this affinity
            cases position
            exact ⟨0, by omega, by simp [matched]⟩
          · obtain ⟨offset, rfl, member⟩ := inductionHypothesis position
            exact ⟨offset + 1, by omega, by simpa using member⟩

/-- The index a core finds names a cpu node whose value is its affinity. -/
theorem currentCpuIndex_eq_ok {fdt : Fdt} {mpidr : UInt64} {index : Nat}
    (found : currentCpuIndex fdt mpidr = .ok index) :
    ∃ cpus, fdt.cpuIds = some cpus ∧ cpus[index]? = some (some (mpidrAffinity mpidr).toNat) := by
  obtain ⟨position, located, unwrapped⟩ := bind_eq_ok.mp found
  obtain ⟨cpus, listed, searched⟩ := bind_eq_ok.mp located
  cases position with
  | none => cases unwrapped
  | some position =>
      cases unwrapped
      cases hasCpus : fdt.cpuIds with
      | none => simp [hasCpus] at listed
      | some cpus' =>
          simp only [hasCpus, unwrap_some, Except.ok.injEq] at listed
          subst listed
          obtain ⟨offset, rfl, member⟩ := positionFrom_eq_some searched
          exact ⟨_, rfl, by simpa using member⟩

-- the bits above Aff2 (`U` and `MT` among them) do not take part
example : currentCpuIndex ⟨⟨"/", none, none, none, []⟩, none, some [some 0, some 1]⟩ 0x81000001 =
    .ok 1 := rfl

/-- **In bounds.** The index a core finds is below `cpu_count()`: the slice of
every `PerCoreState` has an entry for it. -/
theorem currentCpuIndex_lt_cpuCount {fdt : Fdt} {mpidr : UInt64} {index : Nat}
    (found : currentCpuIndex fdt mpidr = .ok index) :
    ∃ count, cpuCount fdt = .ok count ∧ index < count := by
  obtain ⟨cpus, listed, member⟩ := currentCpuIndex_eq_ok found
  refine ⟨cpus.length, by simp [cpuCount, listed], ?_⟩
  exact (List.getElem?_eq_some_iff.mp member).1

/-- Without cpu nodes, `current_cpu_index` panics as `cpu_count` does. -/
theorem currentCpuIndex_of_no_cpus {fdt : Fdt} (noCpus : fdt.cpuIds = none) (mpidr : UInt64) :
    currentCpuIndex fdt mpidr = .error .unwrapNone := by
  simp [currentCpuIndex, mpidrToCpuIndex, noCpus]

/-- `PerCore::get` never indexes past its slice: it panics exactly where
`current_cpu_index()` does, and with the same message. -/
theorem perCoreIndex_eq_currentCpuIndex (fdt : Fdt) (mpidr : UInt64) :
    perCoreIndex fdt mpidr = currentCpuIndex fdt mpidr := by
  cases hasCpus : fdt.cpuIds with
  | none =>
      rw [currentCpuIndex_of_no_cpus hasCpus]
      simp [perCoreIndex, cpuCount, hasCpus]
  | some cpus =>
      have counted : cpuCount fdt = .ok cpus.length := by simp [cpuCount, hasCpus]
      unfold perCoreIndex
      rw [counted]
      cases found : currentCpuIndex fdt mpidr with
      | error panic => rfl
      | ok index =>
          obtain ⟨count, counted', below⟩ := currentCpuIndex_lt_cpuCount found
          rw [counted, Except.ok.injEq] at counted'
          subst counted'
          simp [below]

/-- **Different cores, different indices.** Two cores that find the same
index have the same affinity: the promise of `unsafe impl Cores for
CoresImpl`. -/
theorem currentCpuIndex_injective {fdt : Fdt} {mpidr other : UInt64} {index : Nat}
    (found : currentCpuIndex fdt mpidr = .ok index)
    (foundOther : currentCpuIndex fdt other = .ok index) :
    mpidrAffinity mpidr = mpidrAffinity other := by
  obtain ⟨cpus, listed, member⟩ := currentCpuIndex_eq_ok found
  obtain ⟨cpus', listed', member'⟩ := currentCpuIndex_eq_ok foundOther
  rw [listed, Option.some.injEq] at listed'
  subst listed'
  rw [member, Option.some.injEq, Option.some.injEq] at member'
  exact UInt64.toNat_inj.mp member'

/-! ### The handler registry, core by core -/

section Registry

variable {ι η : Type} [DecidableEq ι] [ToString ι]

/-- A call of the handler registry made on the core whose MPIDR reads
`mpidr`. Every function but `remove_shared_irq_handler` reaches the private
maps through `PRIVATE_IRQ_HANDLERS.get()`; where that panics, the call stops
before it changes anything. -/
def stepOnCore (fdt : Fdt) (state : HandlerState ι η) (mpidr : UInt64)
    (call : HandlerCall ι η) : HandlerState ι η :=
  match call with
  -- no core index is read, and `HandlerState.run` ignores the one given
  | .removeShared intid => state.step ⟨0, .removeShared intid⟩
  | call =>
      match perCoreIndex fdt mpidr with
      | .ok core => state.step ⟨core, call⟩
      | .error _ => state

/-- A call made on a core with another affinity leaves the private map of
the core at `index` as it was. -/
theorem stepOnCore_perCore_of_ne {fdt : Fdt} (state : HandlerState ι η) {mpidr caller : UInt64}
    {index : Nat} (found : currentCpuIndex fdt mpidr = .ok index)
    (elsewhere : mpidrAffinity caller ≠ mpidrAffinity mpidr) (call : HandlerCall ι η) :
    (stepOnCore fdt state caller call).perCore index = state.perCore index := by
  cases call with
  | removeShared intid => rfl
  | setShared intid handler | setPrivate intid handler | removePrivate intid =>
      simp only [stepOnCore, perCoreIndex_eq_currentCpuIndex]
      cases callerFound : currentCpuIndex fdt caller with
      | error panic => rfl
      | ok core =>
          have different : core ≠ index := by
            rintro rfl
            exact elsewhere (currentCpuIndex_injective callerFound found)
          exact HandlerState.step_perCore_of_ne state _ different

/-- **Private handlers stay private.** Over any run of calls made on cores
whose affinity differs from a core's, that core's private handlers are the
ones it had. -/
theorem foldl_stepOnCore_perCore_of_ne {fdt : Fdt} {mpidr : UInt64} {index : Nat}
    (found : currentCpuIndex fdt mpidr = .ok index) (calls : List (UInt64 × HandlerCall ι η))
    (elsewhere : ∀ call ∈ calls, mpidrAffinity call.1 ≠ mpidrAffinity mpidr)
    (state : HandlerState ι η) :
    (calls.foldl (fun state call => stepOnCore fdt state call.1 call.2) state).perCore index =
      state.perCore index := by
  -- the invariant: the private map at `index` is the one of the initial state
  have preserved : ∀ current, ∀ call ∈ calls, current.perCore index = state.perCore index →
      (stepOnCore fdt current call.1 call.2).perCore index = state.perCore index := by
    intro current call member unchanged
    rw [stepOnCore_perCore_of_ne current found (elsewhere call member), unchanged]
  exact Reachable.foldl_invariant preserved rfl

end Registry

/-- Two cores: a private handler set on the second is not seen by the first. -/
theorem foldl_stepOnCore_perCore_of_ne_two_cores :
    let fdt : Fdt := ⟨⟨"/", none, none, none, []⟩, none, some [some 0, some 1]⟩
    let calls : List (UInt64 × HandlerCall Nat String) := [(0x80000001, .setPrivate 1 "sgi")]
    let state := calls.foldl (fun state call => stepOnCore fdt state call.1 call.2)
      HandlerState.empty
    currentCpuIndex fdt 0x80000000 = .ok 0 ∧
      (∀ call ∈ calls, mpidrAffinity call.1 ≠ mpidrAffinity 0x80000000) ∧
      state.perCore 1 1 = some "sgi" ∧ state.perCore 0 = HandlerState.empty.perCore 0 := by
  intro fdt calls state
  have found : currentCpuIndex fdt 0x80000000 = .ok 0 := rfl
  have elsewhere : ∀ call ∈ calls, mpidrAffinity call.1 ≠ mpidrAffinity 0x80000000 := by decide
  exact ⟨found, elsewhere, rfl,
    foldl_stepOnCore_perCore_of_ne found calls elsewhere HandlerState.empty⟩

end Osdemo.Interrupts
