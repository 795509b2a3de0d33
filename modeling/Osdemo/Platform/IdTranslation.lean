import Osdemo.Library.FrameAllocator
import Osdemo.Library.Loop
import Osdemo.Platform.IdMap

/-!
Contract: `IdTranslation` (`pagetable.rs`), the `Translation` through which
aarch64-paging's `Mapping` gets the page tables of `IdMap`.

The tables come from `page_allocator`, a buddy allocator that `main` gives
`PAGE_HEAP`, ten pages, and nothing else. `Mapping` calls `allocate_table`
when a mapping needs a table it lacks and `deallocate_table` when it drops
one, in an order this repository does not fix: the results hold over every
sequence of `TableCall`s. `deallocate_table` is safe only on a live table;
the model frees nothing for any other.

Owns: `pageHeapSize`, `IdTranslation` with `allocateTable`, `deallocateTable`
and `physicalToVirtual`, the invariant `TablesValid`, and two theorems over
every sequence of calls: a table handed out is a page of `PAGE_HEAP` clear of
every live table, which `physical_to_virtual` gives back from the physical
address it came with; and at most ten tables are live, with `allocate_table`
panicking when ten are.

Does not own: the contents of the tables, which aarch64-paging writes.
-/

namespace Osdemo.Platform

open Rust FrameAllocator

/-- `PAGE_HEAP_SIZE`. -/
def pageHeapSize : Nat := 10 * pageSize

/-- The addresses of `PAGE_HEAP`, placed at `pageHeap`. -/
def pageHeapRange (pageHeap : Nat) : AddrRange := AddrRange.ofSize pageHeap pageHeapSize

/-- `Layout::new::<PageTable<A>>()`: 512 descriptors of 8 bytes, aligned to a
page. -/
def pageTableLayout : Layout := ⟨pageSize, pageSize⟩

/-- `IdTranslation`. -/
structure IdTranslation where
  pageAllocator : FrameAllocator
deriving DecidableEq, Repr

/-- What `Mapping` asks of its `Translation` that changes it. -/
inductive TableCall where
  | allocateTable
  | deallocateTable (table : Nat)
deriving DecidableEq, Repr

namespace IdTranslation

/-- `Heap::new()` and `add_to_heap(&mut page_allocator, PAGE_HEAP)` in
`main`, with `PAGE_HEAP` at `pageHeap`, then `IdTranslation::new`. -/
def new (pageHeap : Nat) : IdTranslation :=
  ⟨(FrameAllocator.new 32).addFrame pageHeap (pageHeap + pageHeapSize)⟩

/-- The block of the page allocator the table at `table` takes. -/
def tableBlock (table : Nat) : AddrRange :=
  AddrRange.ofSize table (blockSize pageTableLayout.size pageTableLayout.align)

/-- The tables handed out and not yet freed. -/
def tables (translation : IdTranslation) : List Nat :=
  translation.pageAllocator.allocated.map AddrRange.start

/-- `allocate_table()`: the table and its physical address, the same one
under the identity mapping. The zeroing of the new table is left out. -/
def allocateTable (policy : AllocPolicy) (translation : IdTranslation) :
    Except Panic ((Nat × Nat) × IdTranslation) :=
  match translation.pageAllocator.allocAligned policy pageTableLayout.size pageTableLayout.align with
  | some (pointer, pageAllocator) => pure ((pointer, pointer), ⟨pageAllocator⟩)
  | none => throw (.explicit "Failed to allocate page for pagetable")

/-- `deallocate_table(page_table)`. -/
def deallocateTable (translation : IdTranslation) (table : Nat) : IdTranslation :=
  ⟨translation.pageAllocator.dealloc (tableBlock table)⟩

/-- `physical_to_virtual(pa)`. -/
def physicalToVirtual (pa : Nat) : Except Panic Nat :=
  if pa = 0 then throw (.explicit "Got physical address 0 for pagetable") else pure pa

/-- One call of `Mapping`. A panic halts the kernel, which is left as it was. -/
def step (policy : AllocPolicy) (translation : IdTranslation) : TableCall → IdTranslation
  | .allocateTable =>
      match allocateTable policy translation with
      | .ok (_, translation) => translation
      | .error _ => translation
  | .deallocateTable table => translation.deallocateTable table

theorem blockSize_pageTable : blockSize pageTableLayout.size pageTableLayout.align = pageSize :=
  blockSize_self ⟨12, rfl⟩

variable {policy : AllocPolicy} {translation after : IdTranslation} {pageHeap : Nat}

theorem allocateTable_eq_ok {table pa : Nat}
    (allocated : allocateTable policy translation = .ok ((table, pa), after)) :
    pa = table ∧ translation.pageAllocator.allocAligned policy pageTableLayout.size
      pageTableLayout.align = some (table, after.pageAllocator) := by
  unfold allocateTable at allocated
  split at allocated
  · rename_i pointer pageAllocator handed
    cases allocated
    exact ⟨rfl, handed⟩
  · cases allocated

theorem allocateTable_eq_error {panic : Panic}
    (failed : allocateTable policy translation = .error panic) :
    panic = .explicit "Failed to allocate page for pagetable" := by
  unfold allocateTable at failed
  split at failed
  · cases failed
  · cases failed
    rfl

/-! ### The tables in `PAGE_HEAP` -/

/-- The page allocator's one frame is `PAGE_HEAP`, its blocks do not
overlap, and each is an aligned page: a table. -/
structure TablesValid (pageHeap : Nat) (translation : IdTranslation) : Prop where
  heap : translation.pageAllocator.Valid
  frames : translation.pageAllocator.frames = [pageHeapRange pageHeap]
  pages : ∀ block ∈ translation.pageAllocator.allocated,
    block = tableBlock block.start ∧ AddrRange.Aligned block.start pageSize

theorem new_tablesValid (pageHeap : Nat) : (new pageHeap).TablesValid pageHeap where
  heap := (new_valid 32).addFrame _ _
  frames := rfl
  pages := nofun

theorem TablesValid.within (valid : translation.TablesValid pageHeap) {block : AddrRange}
    (member : block ∈ translation.pageAllocator.allocated) :
    block.Within (pageHeapRange pageHeap) := by
  obtain ⟨frame, frameMember, within⟩ := valid.heap.withinFrames block member
  rw [valid.frames, List.mem_singleton] at frameMember
  exact frameMember ▸ within

theorem TablesValid.allocateTable (sound : policy.Sound) (valid : translation.TablesValid pageHeap)
    {table pa : Nat} (allocated : allocateTable policy translation = .ok ((table, pa), after)) :
    after.TablesValid pageHeap := by
  obtain ⟨-, handed⟩ := allocateTable_eq_ok allocated
  obtain ⟨chosen, grown⟩ := allocAligned_eq_some handed
  refine ⟨valid.heap.allocAligned sound.withinFrames sound.fresh handed, ?_, ?_⟩
  · rw [frames_of_allocAligned handed, valid.frames]
  · rw [grown]
    intro block member
    rcases List.mem_cons.mp member with rfl | old
    · have aligned := sound.aligned _ _ _ _ chosen
      rw [blockSize_pageTable] at aligned
      exact ⟨rfl, aligned⟩
    · exact valid.pages block old

theorem TablesValid.deallocateTable (valid : translation.TablesValid pageHeap) (table : Nat) :
    (translation.deallocateTable table).TablesValid pageHeap where
  heap := valid.heap.dealloc _
  frames := valid.frames
  pages block member := valid.pages block (List.mem_of_mem_erase member)

theorem TablesValid.step (sound : policy.Sound) (valid : translation.TablesValid pageHeap) :
    ∀ call, (IdTranslation.step policy translation call).TablesValid pageHeap
  | .allocateTable => by
      rw [IdTranslation.step]
      split
      · rename_i allocated
        exact valid.allocateTable sound allocated
      · exact valid
  | .deallocateTable table => valid.deallocateTable table

theorem TablesValid.of_reachable (sound : policy.Sound)
    (reachable : Reachable (IdTranslation.step policy) (new pageHeap) translation) :
    translation.TablesValid pageHeap :=
  reachable.invariant (new_tablesValid pageHeap) fun _ call valid => valid.step sound call

/-- `PAGE_HEAP` holds ten pages: the blocks, pairwise disjoint pages inside
it, are ten at most. -/
theorem TablesValid.length_le (valid : translation.TablesValid pageHeap) :
    translation.pageAllocator.allocated.length ≤ 10 := by
  have within : ∀ block ∈ translation.pageAllocator.allocated,
      block.Within (pageHeapRange pageHeap) := fun _ member => valid.within member
  have sized : ∀ size ∈ translation.pageAllocator.allocated.map AddrRange.size, pageSize ≤ size := by
    intro size member
    obtain ⟨block, blockMember, rfl⟩ := List.mem_map.mp member
    rw [(valid.pages block blockMember).1, tableBlock, AddrRange.ofSize_size, blockSize_pageTable]
  have bound : translation.pageAllocator.allocated.length * pageSize ≤ 10 * pageSize :=
    calc translation.pageAllocator.allocated.length * pageSize
        ≤ (translation.pageAllocator.allocated.map AddrRange.size).sum := by
          simpa using List.card_nsmul_le_sum _ _ sized
      _ ≤ (pageHeapRange pageHeap).size :=
          AddrRange.sum_size_le_of_within valid.heap.pairwise within
      _ = 10 * pageSize := AddrRange.ofSize_size _ _
  exact Nat.le_of_mul_le_mul_right bound (by decide)

/-- **A table is a fresh page of `PAGE_HEAP`, mapped to itself.** In every
state the calls of `Mapping` reach, with `PAGE_HEAP` anywhere but at address
zero and a buddy allocator that keeps its promise, a table `allocate_table`
hands out is a page-aligned page of `PAGE_HEAP`, clear of every live table,
and `physical_to_virtual` of the physical address it comes with gives the
table back. -/
theorem allocateTable_identity_mapped (sound : policy.Sound) (placed : 0 < pageHeap)
    (reachable : Reachable (step policy) (new pageHeap) translation) {table pa : Nat}
    (allocated : allocateTable policy translation = .ok ((table, pa), after)) :
    physicalToVirtual pa = .ok table ∧ AddrRange.Aligned table pageSize ∧
      (tableBlock table).Within (pageHeapRange pageHeap) ∧
      (∀ live ∈ translation.tables, (tableBlock table).DisjointFrom (tableBlock live)) ∧
      after.tables = table :: translation.tables := by
  have valid := TablesValid.of_reachable sound reachable
  obtain ⟨rfl, handed⟩ := allocateTable_eq_ok allocated
  obtain ⟨chosen, grown⟩ := allocAligned_eq_some handed
  have within : (tableBlock pa).Within (pageHeapRange pageHeap) :=
    (valid.allocateTable sound allocated).within (by rw [grown]; exact List.mem_cons_self)
  have above : pageHeap ≤ pa := by
    have bounds := within (by simp [tableBlock, blockSize_pageTable, pageSize])
    simpa [pageHeapRange, tableBlock] using bounds.1
  refine ⟨?_, ?_, within, ?_, by rw [tables, grown, List.map_cons]; rfl⟩
  · rw [physicalToVirtual, if_neg (by omega)]
    rfl
  · have aligned := sound.aligned _ _ _ _ chosen
    rwa [blockSize_pageTable] at aligned
  · intro live member
    obtain ⟨block, blockMember, rfl⟩ := List.mem_map.mp member
    rw [← (valid.pages block blockMember).1]
    exact sound.fresh _ _ _ _ chosen block blockMember

/-- **Ten tables at most.** In every state the calls of `Mapping` reach, at
most ten tables are live, and with ten live `allocate_table` panics. -/
theorem pageTables_at_most_ten (sound : policy.Sound)
    (reachable : Reachable (step policy) (new pageHeap) translation) :
    translation.tables.length ≤ 10 ∧ (translation.tables.length = 10 →
      allocateTable policy translation = .error (.explicit "Failed to allocate page for pagetable")) := by
  have valid := TablesValid.of_reachable sound reachable
  refine ⟨by simpa [tables] using valid.length_le, fun full => ?_⟩
  cases allocated : allocateTable policy translation with
  | error panic => rw [allocateTable_eq_error allocated]
  | ok result =>
      -- an eleventh block would not fit
      obtain ⟨⟨table, pa⟩, after⟩ := result
      obtain ⟨-, handed⟩ := allocateTable_eq_ok allocated
      obtain ⟨-, grown⟩ := allocAligned_eq_some handed
      have fits := (valid.allocateTable sound allocated).length_le
      rw [grown, List.length_cons] at fits
      simp [tables] at full
      omega

/-- Ten tables fill `PAGE_HEAP` placed at a page boundary, and an eleventh
panics. -/
theorem pageTables_at_most_ten_full :
    let full := (List.replicate 10 TableCall.allocateTable).foldl (step bumpPolicy) (new 4096)
    full.tables.length = 10 ∧ full.tables.length ≤ 10 ∧ (full.tables.length = 10 →
      allocateTable bumpPolicy full = .error (.explicit "Failed to allocate page for pagetable")) := by
  intro full
  have filled : full.tables.length = 10 := by decide
  exact ⟨filled, pageTables_at_most_ten bumpPolicy_sound (Reachable.of_foldl _ .initial)⟩

end IdTranslation

end Osdemo.Platform
