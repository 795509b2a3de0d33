import Osdemo.Library.AddrRange
import Osdemo.Rust.Core

/-!
Contract: the kernel's identity-mapped page table, `IdMap`, as its callers
use it.

`IdMap` wraps aarch64-paging's `Mapping`, which the repository does not
contain. The one operation of it that the model needs, `Mapping::map_range`,
is the parameter `MapRange`: it maps a region with the attributes `IdMap`
picks for normal or device memory, and may fail. `IdMap` also keeps the list
of regions it has mapped, in order; nothing reads that list at run time, it
records what the page table covers when it is activated.

Owns: aarch64-paging's `align_up` and `MemoryRegion::new`, which panic, in
the debug build the kernel is built with, for a region that ends at 0 or in
the last page below `2 ^ 64`; `IdMap::map_memory` and `IdMap::map_device`,
and their frame lemmas; `mapDevices`, a run of `map_device` calls.
-/

namespace Osdemo.Platform

open Rust

/-- `aarch64_paging::paging::PAGE_SIZE`. -/
def pageSize : Nat := 4096

theorem pageSize_eq_two_pow : pageSize = 2 ^ 12 := rfl

/-- aarch64-paging's `align_up(value, alignment)` on `usize`,
`((value - 1) | (alignment - 1)) + 1`, with overflow checks on. -/
def alignUp (value alignment : Nat) : Except Panic Nat := do
  let below ← subChecked value 1
  addChecked 64 (below ||| (alignment - 1)) 1

/-- `MemoryRegion::new(start, end)`: `align_down(start, PAGE_SIZE)`, which is
`start & !(PAGE_SIZE - 1)` and cannot panic, to `align_up(end, PAGE_SIZE)`. -/
def MemoryRegion.new (start stop : Nat) : Except Panic AddrRange := do
  let stop ← alignUp stop pageSize
  pure ⟨AddrRange.alignDown start pageSize, stop⟩

/-- The region `MemoryRegion::new(start, end)` returns when it does not
panic: `[start, end)` rounded out to pages. -/
def MemoryRegion.rounded (start stop : Nat) : AddrRange :=
  (AddrRange.mk start stop).alignOut pageSize

/-- `align_up` to a page panics exactly for 0 and for a value in the last page
below `2 ^ 64`; otherwise it is the arithmetic round-up. -/
theorem alignUp_pageSize (value : Nat) :
    alignUp value pageSize = if 0 < value ∧ value + pageSize ≤ limit 64
      then .ok (AddrRange.alignUp value pageSize) else .error .arithmeticOverflow := by
  by_cases positive : 0 < value
  · have rounded := AddrRange.alignUp_eq_or 12 positive
    rw [← pageSize_eq_two_pow] at rounded
    have fits : AddrRange.alignUp value pageSize < limit 64 ↔ value + pageSize ≤ limit 64 := by
      unfold AddrRange.alignUp pageSize limit
      omega
    have below : 1 ≤ value := positive
    simp only [alignUp, subChecked, below, if_true, ok_bind, addChecked, ← rounded, fits,
      positive, true_and]
  · have zero : ¬ 1 ≤ value := by omega
    simp [alignUp, subChecked, zero, positive]

/-- **`MemoryRegion::new`.** It rounds the region out to pages, and panics
exactly when the end is 0 or lies in the last page below `2 ^ 64`. -/
theorem MemoryRegion.new_eq (start stop : Nat) :
    MemoryRegion.new start stop = if 0 < stop ∧ stop + pageSize ≤ limit 64
      then .ok (MemoryRegion.rounded start stop) else .error .arithmeticOverflow := by
  rw [MemoryRegion.new, alignUp_pageSize]
  split_ifs <;> rfl

theorem MemoryRegion.new_eq_ok_iff {start stop : Nat} {region : AddrRange} :
    MemoryRegion.new start stop = .ok region ↔
      0 < stop ∧ stop + pageSize ≤ limit 64 ∧ region = MemoryRegion.rounded start stop := by
  rw [MemoryRegion.new_eq]
  split_ifs with fits
  · simp [fits, eq_comm]
  · simp only [false_iff]
    intro ⟨positive, below, _⟩
    exact fits ⟨positive, below⟩

theorem MemoryRegion.within_rounded (start stop : Nat) :
    (AddrRange.mk start stop).Within (MemoryRegion.rounded start stop) :=
  AddrRange.within_alignOut _ (by decide)

/-- Rounding out to pages stays below a page-aligned bound. -/
theorem MemoryRegion.rounded_stop_le {start stop bound : Nat} (below : stop ≤ bound)
    (aligned : AddrRange.Aligned bound pageSize) : (MemoryRegion.rounded start stop).stop ≤ bound :=
  AddrRange.alignUp_le (by decide) below aligned

/-- The attributes a region is mapped with: `EL1_MEMORY_ATTRIBUTES` or
`EL2_MEMORY_ATTRIBUTES` for memory, `EL1_DEVICE_ATTRIBUTES` or
`EL2_DEVICE_ATTRIBUTES` for a device. -/
inductive MemoryKind where
  | memory
  | device
deriving DecidableEq, Repr

/-- aarch64-paging's `Mapping::map_range` for the exception level `IdMap`
was created at; `error` is its `MapError`. -/
abbrev MapRange (σ : Type) := σ → AddrRange → MemoryKind → Except Unit σ

/-- `IdMap`: the page table and the regions mapped into it so far. -/
structure IdMap (σ : Type) where
  mapping : σ
  mapped : List (MemoryKind × AddrRange)

namespace IdMap

variable {σ : Type}

/-- `IdMap::new`: nothing is mapped yet. -/
def new (mapping : σ) : IdMap σ := ⟨mapping, []⟩

/-- One `map_range` call, recorded when it succeeds. -/
def mapRegion (mapRange : MapRange σ) (idmap : IdMap σ) (range : AddrRange)
    (kind : MemoryKind) : Except Unit (IdMap σ) :=
  match mapRange idmap.mapping range kind with
  | .ok mapping => .ok ⟨mapping, idmap.mapped ++ [(kind, range)]⟩
  | .error error => .error error

/-- `IdMap::map_memory`. -/
def mapMemory (mapRange : MapRange σ) (idmap : IdMap σ) (range : AddrRange) :
    Except Unit (IdMap σ) :=
  idmap.mapRegion mapRange range .memory

/-- `IdMap::map_device`. -/
def mapDevice (mapRange : MapRange σ) (idmap : IdMap σ) (range : AddrRange) :
    Except Unit (IdMap σ) :=
  idmap.mapRegion mapRange range .device

/-- `.unwrap()` on the result of a mapping call. -/
def unwrapMap (result : Except Unit (IdMap σ)) : Except Panic (IdMap σ) :=
  result.mapError fun _ => .unwrapErr .mapError

theorem mapRegion_mapped {mapRange : MapRange σ} {idmap idmap' : IdMap σ} {range : AddrRange}
    {kind : MemoryKind} (mapped : idmap.mapRegion mapRange range kind = .ok idmap') :
    idmap'.mapped = idmap.mapped ++ [(kind, range)] := by
  unfold mapRegion at mapped
  split at mapped
  · cases mapped
    rfl
  · cases mapped

theorem unwrapMap_eq_ok {result : Except Unit (IdMap σ)} {idmap : IdMap σ} :
    unwrapMap result = .ok idmap ↔ result = .ok idmap := by
  cases result <;> simp [unwrapMap, Except.mapError]

/-- `map_device(region).unwrap()` for each region in turn. -/
def mapDevices (mapRange : MapRange σ) (idmap : IdMap σ) (regions : List AddrRange) :
    Except Panic (IdMap σ) :=
  regions.foldlM (fun idmap region => unwrapMap (idmap.mapDevice mapRange region)) idmap

/-- Mapping device regions one after another records them in order. -/
theorem mapDevices_mapped {mapRange : MapRange σ} (regions : List AddrRange) :
    ∀ {idmap idmap' : IdMap σ}, mapDevices mapRange idmap regions = .ok idmap' →
      idmap'.mapped = idmap.mapped ++ regions.map fun region => (MemoryKind.device, region) := by
  induction regions with
  | nil =>
      intro idmap idmap' mapped
      cases mapped
      simp
  | cons region rest inductionHypothesis =>
      intro idmap idmap' mapped
      rw [mapDevices, List.foldlM_cons, bind_eq_ok] at mapped
      obtain ⟨stepped, stepOk, restMapped⟩ := mapped
      rw [inductionHypothesis restMapped, mapRegion_mapped (unwrapMap_eq_ok.mp stepOk)]
      simp

end IdMap

end Osdemo.Platform
