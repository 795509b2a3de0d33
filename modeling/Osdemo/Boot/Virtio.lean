import Osdemo.Boot.Secondary

/-!
Contract: `virtio.rs` past the regions it hands to drivers:
`init_virtio_device`, which files each transport under its device type, and
`VirtioHal`, the memory virtio-drivers asks of the kernel.

A transport, MMIO or PCI, is the type parameter `τ`. virtio-drivers reports
its device type (`Transport::device_type`), and whether the driver for that
type sets the device up (`VirtIOBlk::new` and its kin), which the kernel
unwraps. `find_virtio_mmio_devices` and `find_virtio_pci_devices` hand the
transports they create to `init_virtio_device` one after another.

`dma_alloc` takes `pages` zeroed pages from the kernel's heap, the
`FrameAllocator` of `Osdemo.Boot.Secondary`, and gives their address as the
physical and the virtual one: the kernel's memory is identity-mapped.
`dma_dealloc` frees the block of the same layout.

Owns:
- `DeviceType`, `Devices`, `initVirtioDevice`, and that over the transports
  found each driver list gains, in order, the transports of its type;
- `dmaLayout`, `dmaAlloc`, `dmaDealloc`, `mmioPhysToVirt` and `share`, and
  what the `SAFETY` comment of `unsafe impl Hal for VirtioHal` promises: a
  DMA buffer is page-aligned, as large as asked, identity-mapped, inside the
  heap and clear of every live block, so of every secondary stack; and
  `dma_dealloc` gives back exactly the block `dma_alloc` took.
-/

namespace Osdemo.Boot

open Rust Osdemo.Platform

/-! ### `init_virtio_device` -/

/-- virtio-drivers' `DeviceType`, as `init_virtio_device` tells them apart:
any other type is kept by its VirtIO device ID. -/
inductive DeviceType where
  | block
  | console
  | socket
  | other (id : Nat)
deriving DecidableEq, Repr

/-- The types `init_virtio_device` makes a driver for. -/
def DeviceType.isSupported : DeviceType → Bool
  | .other _ => false
  | _ => true

/-- The VirtIO drivers of `Devices`, each kept as the transport it drives, in
the order they were made. -/
structure Devices (τ : Type) where
  block : List τ
  console : List τ
  vsock : List τ
deriving DecidableEq, Repr

/-- The driver lists of `Devices::new(rtc)`. -/
def Devices.new {τ : Type} : Devices τ := ⟨[], [], []⟩

section Transports

variable {τ : Type} (deviceType : τ → DeviceType) (driverNew : DeviceType → τ → Bool)

/-- `VirtIOBlk::new(transport).unwrap()`, `VirtIOConsole::new` or
`VirtIOSocket::new`, as `kind` says: `driverNew` tells whether the driver
sets up the device. -/
def newDriver (kind : DeviceType) (transport : τ) : Except Panic τ :=
  if driverNew kind transport then pure transport else throw (.unwrapErr .virtioError)

/-- `init_virtio_device(transport, devices)`. Another type is ignored with a
warning. -/
def initVirtioDevice (devices : Devices τ) (transport : τ) : Except Panic (Devices τ) :=
  match deviceType transport with
  | .block => do
      let driver ← newDriver driverNew .block transport
      pure { devices with block := devices.block ++ [driver] }
  | .console => do
      let driver ← newDriver driverNew .console transport
      pure { devices with console := devices.console ++ [driver] }
  | .socket => do
      let driver ← newDriver driverNew .socket transport
      pure { devices with vsock := devices.vsock ++ [driver] }
  | .other _ => pure devices

/-- The transports of one type, in order. -/
def ofType (kind : DeviceType) (transports : List τ) : List τ :=
  transports.filter (deviceType · = kind)

/-- `devices` with each list extended by the transports of its type. -/
def Devices.filed (devices : Devices τ) (transports : List τ) : Devices τ :=
  ⟨devices.block ++ ofType deviceType .block transports,
    devices.console ++ ofType deviceType .console transports,
    devices.vsock ++ ofType deviceType .socket transports⟩

theorem Devices.filed_append (devices : Devices τ) (first rest : List τ) :
    devices.filed deviceType (first ++ rest) =
      (devices.filed deviceType first).filed deviceType rest := by
  simp [Devices.filed, ofType, List.filter_append]

theorem Devices.filed_nil (devices : Devices τ) : devices.filed deviceType [] = devices := by
  simp [Devices.filed, ofType]

/-- One transport: its driver is made exactly when its type is supported, and
then it joins the list of its type. -/
theorem initVirtioDevice_eq_ok_iff {devices devices' : Devices τ} {transport : τ} :
    initVirtioDevice deviceType driverNew devices transport = .ok devices' ↔
      ((deviceType transport).isSupported → driverNew (deviceType transport) transport = true) ∧
        devices' = devices.filed deviceType [transport] := by
  -- the list a transport joins is the one of its type, and no other
  have filed : devices.filed deviceType [transport] =
      match deviceType transport with
      | .block => { devices with block := devices.block ++ [transport] }
      | .console => { devices with console := devices.console ++ [transport] }
      | .socket => { devices with vsock := devices.vsock ++ [transport] }
      | .other _ => devices := by
    cases kind : deviceType transport <;>
      simp only [Devices.filed, ofType, List.filter_cons, List.filter_nil, kind] <;> simp
  rw [filed]
  unfold initVirtioDevice
  cases deviceType transport with
  | other id =>
      simp only [DeviceType.isSupported, pure_eq_ok, Except.ok.injEq]
      exact ⟨fun same => ⟨nofun, same.symm⟩, fun ⟨_, same⟩ => same.symm⟩
  | block | console | socket =>
      cases created : driverNew _ transport with
      | false => simp [newDriver, created, DeviceType.isSupported]
      | true =>
          simp only [newDriver, created, DeviceType.isSupported, if_true, pure_eq_ok, ok_bind,
            Except.ok.injEq, forall_const, true_and]
          exact eq_comm

/-- **Devices by type.** Over the transports found, `init_virtio_device`
returns exactly when the driver of every transport of a supported type sets
up its device, and then each driver list has gained, in the order found, the
transports of its type, and those alone. -/
theorem foldlM_initVirtioDevice_eq_ok_iff (transports : List τ) (devices devices' : Devices τ) :
    transports.foldlM (initVirtioDevice deviceType driverNew) devices = .ok devices' ↔
      (∀ transport ∈ transports, (deviceType transport).isSupported →
        driverNew (deviceType transport) transport = true) ∧
        devices' = devices.filed deviceType transports := by
  induction transports generalizing devices with
  | nil =>
      rw [Devices.filed_nil, List.foldlM_nil, pure_eq_ok, Except.ok.injEq]
      exact ⟨fun same => ⟨nofun, same.symm⟩, fun ⟨_, same⟩ => same.symm⟩
  | cons transport rest inductionHypothesis =>
      rw [List.foldlM_cons, bind_eq_ok]
      constructor
      · rintro ⟨middle, first, later⟩
        obtain ⟨created, rfl⟩ := (initVirtioDevice_eq_ok_iff deviceType driverNew).mp first
        obtain ⟨createdLater, rfl⟩ := (inductionHypothesis _).mp later
        refine ⟨?_, by rw [← Devices.filed_append]; rfl⟩
        intro member inList
        rcases List.mem_cons.mp inList with rfl | later
        · exact created
        · exact createdLater member later
      · rintro ⟨created, rfl⟩
        refine ⟨devices.filed deviceType [transport], ?_, ?_⟩
        · exact (initVirtioDevice_eq_ok_iff deviceType driverNew).mpr
            ⟨created transport List.mem_cons_self, rfl⟩
        · refine (inductionHypothesis _).mpr ⟨fun member later => created member
            (List.mem_cons_of_mem _ later), ?_⟩
          rw [← Devices.filed_append]
          rfl

-- a socket, a block device and an unsupported type, with every driver set up
example : [DeviceType.socket, .block, .other 3].foldlM (initVirtioDevice id fun _ _ => true)
    Devices.new = .ok ⟨[.block], [], [.socket]⟩ := rfl

end Transports

/-! ### `VirtioHal` -/

/-- virtio-drivers' `PAGE_SIZE`. -/
def virtioPageSize : Nat := 0x1000

/-- `virt_to_phys(vaddr)`: the kernel's memory is identity-mapped. -/
def virtToPhys (vaddr : Nat) : Nat := vaddr

/-- `Layout::from_size_align(pages * PAGE_SIZE, PAGE_SIZE).unwrap()`, in both
`dma_alloc` and `dma_dealloc`. -/
def dmaLayout (pages : Nat) : Except Panic Layout := do
  let size ← mulChecked 64 pages virtioPageSize
  match Layout.fromSizeAlign size virtioPageSize with
  | some layout => pure layout
  | none => throw (.unwrapErr .layoutError)

/-- `VirtioHal::dma_alloc(pages, _)`: the physical and the virtual address of
the buffer, and the heap that has handed it out. `alloc_zeroed` returns null
where the heap has no room. -/
def dmaAlloc (policy : FrameAllocator.AllocPolicy) (heap : FrameAllocator) (pages : Nat) :
    Except Panic ((Nat × Nat) × FrameAllocator) := do
  if pages = 0 then throw .assertNeFailed
  let layout ← dmaLayout pages
  match heap.allocAligned policy layout.size layout.align with
  | some (vaddr, heap') =>
      if vaddr = 0 then throw (handleAllocError layout)
      else pure ((virtToPhys vaddr, vaddr), heap')
  | none => throw (handleAllocError layout)

/-- `VirtioHal::dma_dealloc(_paddr, vaddr, pages)`: the heap frees the block
of the layout for `pages` at `vaddr`; the call returns 0. -/
def dmaDealloc (heap : FrameAllocator) (vaddr pages : Nat) : Except Panic (Int × FrameAllocator) := do
  let layout ← dmaLayout pages
  pure (0, heap.dealloc (AddrRange.ofSize vaddr (FrameAllocator.blockSize layout.size layout.align)))

/-- `VirtioHal::mmio_phys_to_virt(paddr, _)`. -/
def mmioPhysToVirt (paddr : Nat) : Except Panic Nat := nonNull paddr

/-- `VirtioHal::share(buffer, _)`, of the buffer's start. -/
def share (vaddr : Nat) : Nat := virtToPhys vaddr

theorem dmaLayout_eq_ok_iff {pages : Nat} {layout : Layout} :
    dmaLayout pages = .ok layout ↔
      pages * virtioPageSize + virtioPageSize ≤ limit 63 ∧ layout = ⟨pages * virtioPageSize, virtioPageSize⟩ := by
  have powerOfTwo : virtioPageSize.isPowerOfTwo := ⟨12, rfl⟩
  constructor
  · intro laidOut
    obtain ⟨size, multiplied, checked⟩ := bind_eq_ok.mp laidOut
    obtain ⟨-, rfl⟩ := mulChecked_ok_iff.mp multiplied
    cases fromSize : Layout.fromSizeAlign (pages * virtioPageSize) virtioPageSize with
    | none => simp [fromSize] at checked
    | some found =>
        simp only [fromSize, pure_eq_ok, Except.ok.injEq] at checked
        subst checked
        obtain ⟨-, small, rfl⟩ := Layout.fromSizeAlign_eq_some_iff.mp fromSize
        exact ⟨small, rfl⟩
  · rintro ⟨small, rfl⟩
    have fits : pages * virtioPageSize < limit 64 := by
      have : limit 63 < limit 64 := by decide
      omega
    have fromSize : Layout.fromSizeAlign (pages * virtioPageSize) virtioPageSize =
        some ⟨pages * virtioPageSize, virtioPageSize⟩ :=
      Layout.fromSizeAlign_eq_some_iff.mpr ⟨powerOfTwo, small, rfl⟩
    simp [dmaLayout, mulChecked, fits, fromSize]

/-- A DMA allocation that returns was asked for pages, laid them out, and
took a non-null block for them from the heap. -/
theorem dmaAlloc_eq_ok {policy : FrameAllocator.AllocPolicy} {heap heap' : FrameAllocator}
    {pages paddr vaddr : Nat} (allocated : dmaAlloc policy heap pages = .ok ((paddr, vaddr), heap')) :
    0 < pages ∧ pages * virtioPageSize + virtioPageSize ≤ limit 63 ∧ paddr = vaddr ∧ vaddr ≠ 0 ∧
      heap.allocAligned policy (pages * virtioPageSize) virtioPageSize = some (vaddr, heap') := by
  unfold dmaAlloc at allocated
  by_cases none : pages = 0
  · simp [none] at allocated
  · simp only [none, if_false, pure_eq_ok] at allocated
    obtain ⟨layout, laidOut, taken⟩ := bind_eq_ok.mp allocated
    obtain ⟨small, rfl⟩ := dmaLayout_eq_ok_iff.mp laidOut
    split at taken
    · rename_i address heap'' chosen
      split_ifs at taken with null
      simp only [Except.ok.injEq, Prod.mk.injEq] at taken
      obtain ⟨⟨rfl, rfl⟩, rfl⟩ := taken
      exact ⟨Nat.pos_of_ne_zero none, small, rfl, null, chosen⟩
    · cases taken

section Hal

variable {policy : FrameAllocator.AllocPolicy} (sound : policy.Sound)
include sound

/-- **DMA buffers.** What `dma_alloc` returns from a sound heap: as many
pages as asked, page-aligned, at the same physical and virtual address, not
null, inside a frame of the heap and clear of every block live before; and
the heap stays sound, with the buffer's block live. -/
theorem dmaAlloc_appropriate {heap heap' : FrameAllocator} (valid : heap.Valid) {pages paddr vaddr : Nat}
    (allocated : dmaAlloc policy heap pages = .ok ((paddr, vaddr), heap')) :
    paddr = vaddr ∧ vaddr ≠ 0 ∧ AddrRange.Aligned vaddr virtioPageSize ∧
      (∃ frame ∈ heap.frames, (AddrRange.ofSize vaddr (pages * virtioPageSize)).Within frame) ∧
      (∀ block ∈ heap.allocated, (AddrRange.ofSize vaddr (pages * virtioPageSize)).DisjointFrom block) ∧
      heap'.Valid ∧
      heap'.allocated = AddrRange.ofSize vaddr
        (FrameAllocator.blockSize (pages * virtioPageSize) virtioPageSize) :: heap.allocated := by
  obtain ⟨-, -, rfl, nonNull, taken⟩ := dmaAlloc_eq_ok allocated
  obtain ⟨aligned, within, fresh⟩ := sound.allocAligned ⟨12, rfl⟩ taken
  obtain ⟨-, rfl⟩ := FrameAllocator.allocAligned_eq_some taken
  exact ⟨rfl, nonNull, aligned, within, fresh,
    valid.allocAligned sound.withinFrames sound.fresh taken, rfl⟩

end Hal

/-- **Freed as taken.** `dma_dealloc` with the pages of a `dma_alloc` gives
the heap back as it was before the allocation. -/
theorem dmaDealloc_of_dmaAlloc {policy : FrameAllocator.AllocPolicy} {heap heap' : FrameAllocator}
    {pages paddr vaddr : Nat} (allocated : dmaAlloc policy heap pages = .ok ((paddr, vaddr), heap')) :
    dmaDealloc heap' vaddr pages = .ok (0, heap) := by
  obtain ⟨-, small, -, -, taken⟩ := dmaAlloc_eq_ok allocated
  obtain ⟨-, rfl⟩ := FrameAllocator.allocAligned_eq_some taken
  have laidOut : dmaLayout pages = .ok ⟨pages * virtioPageSize, virtioPageSize⟩ :=
    dmaLayout_eq_ok_iff.mpr ⟨small, rfl⟩
  simp [dmaDealloc, laidOut, FrameAllocator.dealloc]

/-! ### DMA buffers among the heap traffic -/

/-- A DMA allocation is one of the other allocations of the heap system of
`Osdemo.Boot.Secondary`. -/
theorem step_alloc_of_dmaAlloc {policy : FrameAllocator.AllocPolicy} {state : SecondaryStacks}
    {heap : FrameAllocator} {pages paddr vaddr : Nat}
    (allocated : dmaAlloc policy state.heap pages = .ok ((paddr, vaddr), heap)) :
    SecondaryStacks.step policy state (.alloc (pages * virtioPageSize) virtioPageSize) =
      { state with heap } := by
  obtain ⟨-, -, -, -, taken⟩ := dmaAlloc_eq_ok allocated
  simp [SecondaryStacks.step, taken]

/-- **No DMA into a stack.** In every state of the heap system, a buffer
`dma_alloc` hands to a device is identity-mapped (its physical address is
its virtual one, inside a frame of the heap), page-aligned, not null, and
clear of the stack of every secondary core; and the allocation is a step of
the system, so what holds of every run holds after it. -/
theorem dmaAlloc_clear_of_secondary_stacks (policy : FrameAllocator.AllocPolicy) (sound : policy.Sound)
    {heap : FrameAllocator} (valid : heap.Valid) {state : SecondaryStacks}
    (reachable : Reachable (SecondaryStacks.step policy) ⟨[], heap⟩ state)
    {pages paddr vaddr : Nat} {heap' : FrameAllocator}
    (allocated : dmaAlloc policy state.heap pages = .ok ((paddr, vaddr), heap')) :
    paddr = vaddr ∧ vaddr ≠ 0 ∧ AddrRange.Aligned vaddr virtioPageSize ∧
      (∃ frame ∈ state.heap.frames, (AddrRange.ofSize vaddr (pages * virtioPageSize)).Within frame) ∧
      (∀ entry ∈ state.entries, (AddrRange.ofSize paddr (pages * virtioPageSize)).DisjointFrom
        (SecondaryStacks.stackBlock entry.2)) ∧
      Reachable (SecondaryStacks.step policy) ⟨[], heap⟩ { state with heap := heap' } := by
  have invariant : state.Valid := reachable.invariant (SecondaryStacks.initial_valid valid)
    fun _ action valid => valid.step sound action
  obtain ⟨identity, nonNull, aligned, within, fresh, -⟩ :=
    dmaAlloc_appropriate sound invariant.heap allocated
  refine ⟨identity, nonNull, aligned, within, ?_, step_alloc_of_dmaAlloc allocated ▸ reachable.step _⟩
  -- every stack is a live block of the heap, and the buffer is clear of those
  intro entry member
  rw [identity]
  exact fresh _ (invariant.live entry member)

/-- A page of DMA after one core has been started. -/
theorem dmaAlloc_clear_of_secondary_stacks_after_start :
    let heap := (FrameAllocator.new 32).addFrame 0x40000 0x50000
    let state := [HeapAction.startCore 1].foldl
      (SecondaryStacks.step FrameAllocator.bumpPolicy) ⟨[], heap⟩
    heap.Valid ∧ Reachable (SecondaryStacks.step FrameAllocator.bumpPolicy) ⟨[], heap⟩ state ∧
      ∃ heap', dmaAlloc FrameAllocator.bumpPolicy state.heap 1 = .ok ((0x44000, 0x44000), heap') ∧
        (0x44000 = 0x44000 ∧ 0x44000 ≠ 0 ∧ AddrRange.Aligned 0x44000 virtioPageSize ∧
          (∃ frame ∈ state.heap.frames, (AddrRange.ofSize 0x44000 (1 * virtioPageSize)).Within frame) ∧
          (∀ entry ∈ state.entries, (AddrRange.ofSize 0x44000 (1 * virtioPageSize)).DisjointFrom
            (SecondaryStacks.stackBlock entry.2)) ∧
          Reachable (SecondaryStacks.step FrameAllocator.bumpPolicy) ⟨[], heap⟩
            { state with heap := heap' }) := by
  intro heap state
  have valid : heap.Valid := (FrameAllocator.new_valid 32).addFrame 0x40000 0x50000
  have reachable : Reachable (SecondaryStacks.step FrameAllocator.bumpPolicy) ⟨[], heap⟩ state :=
    Reachable.of_foldl _ Reachable.initial
  have allocated : dmaAlloc FrameAllocator.bumpPolicy state.heap 1 =
      .ok ((0x44000, 0x44000), { state.heap with
        allocated := AddrRange.ofSize 0x44000 0x1000 :: state.heap.allocated }) := by decide
  exact ⟨valid, reachable, _, allocated,
    dmaAlloc_clear_of_secondary_stacks FrameAllocator.bumpPolicy FrameAllocator.bumpPolicy_sound
      valid reachable allocated⟩

end Osdemo.Boot
