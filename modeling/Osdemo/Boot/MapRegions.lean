import Osdemo.Pci.RootInfo

/-!
Contract: `map_fdt_regions` and `map_fdt_node_regions` (`main.rs`): what the
kernel maps from the device tree before it activates its page table.

`map_fdt_regions` maps every `reg` region of the memory node as normal
memory, then walks the whole tree. For every node that lists one of the
device `compatible` strings, the walk maps each of its `reg` regions as device
memory; a node with an empty `compatible` list that matches none of them makes
the `info!` that names it panic.

Owns:
- `deviceCompatibles`, `fdtToPagetableRegion`, `mapNodeRegions`,
  `mapFdtNodeRegions` over a tree and `mapFdtRegions`;
- the walk theorem `mapFdtNodeRegions_eq_ok`: a walk that succeeds has mapped
  every `reg` region of every compatible node of the tree, and kept what was
  mapped before (`RegionsMapped`).
-/

namespace Osdemo.Boot

open Rust Osdemo.Platform Osdemo.Pci

/-- The `compatible` strings of the devices whose regions `map_fdt_node_regions`
maps. -/
def deviceCompatibles : List String :=
  [pciCompatible, pcieCompatible, "arm,gic-v3", "arm,gic-v3-its", "arm,pl011", "arm,pl031",
    "arm,pl061", "arm,primecell", "ns16550a", "virtio,mmio"]

/-- `fdt_to_pagetable_region`: the `u64` end is computed with overflow
checks. -/
def fdtToPagetableRegion (region : Reg) : Except Panic AddrRange := do
  let address ← cellValue 64 region.address
  let size ← cellValue 64 region.size
  let stop ← addChecked 64 address size
  MemoryRegion.new address stop

/-- The page-table region of a `reg` entry. -/
def pagetableRegion (region : Reg) : AddrRange :=
  MemoryRegion.rounded region.address (region.address + region.size)

theorem fdtToPagetableRegion_eq_ok {region : Reg} {pageRegion : AddrRange}
    (converted : fdtToPagetableRegion region = .ok pageRegion) :
    region.address + region.size < limit 64 ∧ pageRegion = pagetableRegion region := by
  simp only [fdtToPagetableRegion, bind_eq_ok, cellValue_eq_ok_iff, addChecked_ok_iff,
    MemoryRegion.new_eq_ok_iff] at converted
  obtain ⟨address, ⟨-, rfl⟩, size, ⟨-, rfl⟩, stop, ⟨fits, rfl⟩, -, -, rfl⟩ := converted
  exact ⟨fits, rfl⟩

/-- A `reg` entry covers its page-table region's share of the address space. -/
theorem within_pagetableRegion (region : Reg) :
    (AddrRange.ofSize region.address region.size).Within (pagetableRegion region) :=
  MemoryRegion.within_rounded _ _

section Walk

variable {σ : Type} (mapRange : MapRange σ)

/-- The loop of `map_fdt_node_regions` over the `reg` regions of a compatible
node. Its `info!` reads the node's first `compatible` string, which exists
since the node is compatible. -/
def mapRegs (idmap : IdMap σ) (regions : List Reg) : Except Panic (IdMap σ) :=
  regions.foldlM (fun idmap fdtRegion => do
    let region ← fdtToPagetableRegion fdtRegion
    IdMap.unwrapMap (idmap.mapDevice mapRange region)) idmap

/-- What `map_fdt_node_regions` does for the node itself, before its
children. -/
def mapNodeRegions (node : FdtNode) (idmap : IdMap σ) : Except Panic (IdMap σ) :=
  if isCompatible node deviceCompatibles then do
    let regions ← unwrap node.reg
    mapRegs mapRange idmap regions
  else
    match node.compatible with
    -- the `info!` of `compatible.next().unwrap()`
    | some strings => do
        let _ ← unwrap strings.head?
        pure idmap
    | none => pure idmap

mutual
/-- `map_fdt_node_regions`: the node, then each child's subtree in turn. -/
def mapFdtNodeRegions : FdtNode → IdMap σ → Except Panic (IdMap σ)
  | node@⟨_, _, _, _, children⟩, idmap => do
      let idmap ← mapNodeRegions mapRange node idmap
      mapFdtNodeRegionsOf children idmap

/-- `map_fdt_node_regions` over a list of subtrees in turn. -/
def mapFdtNodeRegionsOf : List FdtNode → IdMap σ → Except Panic (IdMap σ)
  | [], idmap => pure idmap
  | child :: rest, idmap => do
      let idmap ← mapFdtNodeRegions child idmap
      mapFdtNodeRegionsOf rest idmap
end

/-- `map_fdt_regions`: the memory node's regions as normal memory, then the
walk from the root. The `info!` reads each region's size once more. -/
def mapFdtRegions (fdt : Fdt) (idmap : IdMap σ) : Except Panic (IdMap σ) := do
  let memoryRegions ← unwrap fdt.memoryReg
  let idmap ← memoryRegions.foldlM (fun idmap fdtRegion => do
      let region ← fdtToPagetableRegion fdtRegion
      let _ ← cellValue 64 fdtRegion.size
      IdMap.unwrapMap (idmap.mapMemory mapRange region)) idmap
  mapFdtNodeRegions mapRange fdt.root idmap

/-- Every compatible node among `nodes` has its `reg` regions mapped as
device memory in `mapped`. -/
def RegionsMapped (nodes : List FdtNode) (mapped : List (MemoryKind × AddrRange)) : Prop :=
  ∀ node ∈ nodes, isCompatible node deviceCompatibles = true →
    ∃ regions, node.reg = some regions ∧
      ∀ region ∈ regions, (MemoryKind.device, pagetableRegion region) ∈ mapped

theorem RegionsMapped.mono {nodes : List FdtNode} {mapped mapped' : List (MemoryKind × AddrRange)}
    (regionsMapped : RegionsMapped nodes mapped) (extended : mapped <+: mapped') :
    RegionsMapped nodes mapped' := by
  intro node member compatible
  obtain ⟨regions, hasRegions, covered⟩ := regionsMapped node member compatible
  exact ⟨regions, hasRegions, fun region inRegions => extended.subset (covered region inRegions)⟩

variable {mapRange}

theorem mapRegs_eq_ok (regions : List Reg) :
    ∀ {idmap idmap' : IdMap σ}, mapRegs mapRange idmap regions = .ok idmap' →
      idmap'.mapped = idmap.mapped ++
        regions.map fun region => (MemoryKind.device, pagetableRegion region) := by
  induction regions with
  | nil =>
      intro idmap idmap' mapped
      cases mapped
      simp
  | cons region rest inductionHypothesis =>
      intro idmap idmap' mapped
      rw [mapRegs, List.foldlM_cons, bind_eq_ok] at mapped
      obtain ⟨stepped, stepOk, restMapped⟩ := mapped
      rw [bind_eq_ok] at stepOk
      obtain ⟨pageRegion, converted, deviceOk⟩ := stepOk
      obtain ⟨-, rfl⟩ := fdtToPagetableRegion_eq_ok converted
      rw [inductionHypothesis restMapped, IdMap.mapRegion_mapped (IdMap.unwrapMap_eq_ok.mp deviceOk)]
      simp

/-- The node's own step keeps what was mapped, and maps every `reg` region of
a compatible node. -/
theorem mapNodeRegions_eq_ok {node : FdtNode} {idmap idmap' : IdMap σ}
    (mapped : mapNodeRegions mapRange node idmap = .ok idmap') :
    idmap.mapped <+: idmap'.mapped ∧ RegionsMapped [node] idmap'.mapped := by
  unfold mapNodeRegions at mapped
  by_cases compatible : isCompatible node deviceCompatibles = true
  · rw [if_pos compatible, bind_eq_ok] at mapped
    obtain ⟨regions, hasRegions, regsMapped⟩ := mapped
    have regions_eq : node.reg = some regions := by
      cases hasReg : node.reg <;> simp_all
    have appended := mapRegs_eq_ok regions regsMapped
    refine ⟨⟨_, appended.symm⟩, ?_⟩
    intro other member _
    rw [List.mem_singleton.mp member]
    refine ⟨regions, regions_eq, fun region inRegions => ?_⟩
    rw [appended]
    exact List.mem_append_right _ (List.mem_map_of_mem inRegions)
  · rw [if_neg compatible] at mapped
    have unchanged : idmap' = idmap := by
      split at mapped
      · rw [bind_eq_ok] at mapped
        obtain ⟨-, -, returned⟩ := mapped
        cases returned
        rfl
      · cases mapped
        rfl
    subst unchanged
    refine ⟨List.prefix_refl _, ?_⟩
    intro other member compatible'
    rw [List.mem_singleton.mp member] at compatible'
    exact absurd compatible' compatible

mutual
/-- **The walk.** A successful `map_fdt_node_regions` keeps what was mapped
before and maps every `reg` region of every compatible node of the subtree. -/
theorem mapFdtNodeRegions_eq_ok : ∀ (node : FdtNode) {idmap idmap' : IdMap σ},
    mapFdtNodeRegions mapRange node idmap = .ok idmap' →
      idmap.mapped <+: idmap'.mapped ∧ RegionsMapped node.nodes idmap'.mapped
  | node@⟨_, _, _, _, children⟩, idmap, idmap', mapped => by
      rw [mapFdtNodeRegions, bind_eq_ok] at mapped
      obtain ⟨middle, own, rest⟩ := mapped
      obtain ⟨ownPrefix, ownMapped⟩ := mapNodeRegions_eq_ok own
      obtain ⟨restPrefix, restMapped⟩ := mapFdtNodeRegionsOf_eq_ok children rest
      refine ⟨ownPrefix.trans restPrefix, ?_⟩
      intro other member compatible
      rw [FdtNode.nodes_eq, List.mem_cons] at member
      rcases member with rfl | below
      · exact (ownMapped.mono restPrefix) _ List.mem_cons_self compatible
      · exact restMapped other below compatible

/-- The walk over a list of subtrees. -/
theorem mapFdtNodeRegionsOf_eq_ok : ∀ (nodes : List FdtNode) {idmap idmap' : IdMap σ},
    mapFdtNodeRegionsOf mapRange nodes idmap = .ok idmap' →
      idmap.mapped <+: idmap'.mapped ∧ RegionsMapped (FdtNode.nodesOf nodes) idmap'.mapped
  | [], idmap, idmap', mapped => by
      cases mapped
      refine ⟨List.prefix_refl _, ?_⟩
      intro other member
      simp [FdtNode.nodesOf] at member
  | node :: rest, idmap, idmap', mapped => by
      rw [mapFdtNodeRegionsOf, bind_eq_ok] at mapped
      obtain ⟨middle, first, others⟩ := mapped
      obtain ⟨firstPrefix, firstMapped⟩ := mapFdtNodeRegions_eq_ok node first
      obtain ⟨othersPrefix, othersMapped⟩ := mapFdtNodeRegionsOf_eq_ok rest others
      refine ⟨firstPrefix.trans othersPrefix, ?_⟩
      intro other member compatible
      rw [FdtNode.nodesOf, List.mem_append] at member
      rcases member with inFirst | inOthers
      · exact (firstMapped.mono othersPrefix) other inFirst compatible
      · exact othersMapped other inOthers compatible
end

/-- **`map_fdt_regions`.** When it succeeds, every `reg` region of every
compatible node of the tree is mapped as device memory. -/
theorem mapFdtRegions_eq_ok {fdt : Fdt} {idmap idmap' : IdMap σ}
    (mapped : mapFdtRegions mapRange fdt idmap = .ok idmap') :
    idmap.mapped <+: idmap'.mapped ∧ RegionsMapped fdt.root.nodes idmap'.mapped := by
  rw [mapFdtRegions, bind_eq_ok] at mapped
  obtain ⟨memoryRegions, -, mapped⟩ := mapped
  rw [bind_eq_ok] at mapped
  obtain ⟨middle, memoryMapped, walked⟩ := mapped
  obtain ⟨walkPrefix, walkMapped⟩ := mapFdtNodeRegions_eq_ok fdt.root walked
  have memoryPrefix : idmap.mapped <+: middle.mapped := by
    clear walked walkPrefix walkMapped
    induction memoryRegions generalizing idmap with
    | nil =>
        cases memoryMapped
        exact List.prefix_refl _
    | cons region rest inductionHypothesis =>
        rw [List.foldlM_cons, bind_eq_ok] at memoryMapped
        obtain ⟨stepped, stepOk, restMapped⟩ := memoryMapped
        simp only [bind_eq_ok] at stepOk
        obtain ⟨_, -, _, -, memoryOk⟩ := stepOk
        have stepPrefix : idmap.mapped <+: stepped.mapped :=
          ⟨_, (IdMap.mapRegion_mapped (IdMap.unwrapMap_eq_ok.mp memoryOk)).symm⟩
        exact stepPrefix.trans (inductionHypothesis restMapped)
  exact ⟨memoryPrefix.trans walkPrefix, walkMapped⟩

end Walk

end Osdemo.Boot
