import Osdemo.Pci.InitPci
import Osdemo.Boot.Drivers

/-!
Contract: `main` (`main.rs`) up to activating the page table, and what the
page table then covers of the MMIO regions handed to drivers.

Before activation, `main` maps the regions of the device tree
(`map_fdt_regions`), finds the PCI roots with the page table's size as the
limit of their BAR ranges, and maps the memory ranges of each root
(`map_ranges`). After activation it hands MMIO regions to drivers: the GIC
(`make_gic`), the VirtIO MMIO devices, the configuration space of each PCI
root, and the BARs `init_pci` allocates. What `main` does before creating the
page table (console, logger, heaps) touches no MMIO region of the device tree
and is not modelled; `IdMap::size` is the parameter `pageTableSize`.

Owns: `mapPciRanges`, `bootPageTable`, `MappedAsDevice`,
`DriverRegionsMapped`, and the theorem that every region handed to a driver
lies inside a device region mapped before activation.
-/

namespace Osdemo.Boot

open Rust Osdemo.Platform Osdemo.Pci FrameAllocator

section Boot

variable {σ : Type} (mapRange : MapRange σ)

/-- The loop of `main` over the PCI roots found: `map_ranges` for each. -/
def mapPciRanges (roots : List PciRootInfo) (idmap : IdMap σ) : Except Panic (IdMap σ) :=
  roots.foldlM (fun idmap root => root.mapRanges mapRange idmap) idmap

/-- `main` from `IdMap::new` to `idmap.activate()`: the page table as it is
activated, and the PCI roots found. -/
def bootPageTable (findCompatible : FindCompatible) (fdt : Fdt) (mapping : σ)
    (pageTableSize : Nat) : Except Panic (IdMap σ × List PciRootInfo) := do
  let idmap ← mapFdtRegions mapRange fdt (IdMap.new mapping)
  let pciRootsInfo ← findPciRoots findCompatible fdt pageTableSize
  let idmap ← mapPciRanges mapRange pciRootsInfo idmap
  pure (idmap, pciRootsInfo)

variable {mapRange}

/-- **The PCI mappings.** The loop keeps what was mapped and maps the region
of every memory range of every root. -/
theorem mapPciRanges_eq_ok (roots : List PciRootInfo) :
    ∀ {idmap idmap' : IdMap σ}, mapPciRanges mapRange roots idmap = .ok idmap' →
      idmap.mapped <+: idmap'.mapped ∧ ∀ root ∈ roots, ∀ range ∈ memoryRanges root.ranges,
        (MemoryKind.device, range.mappedRegion) ∈ idmap'.mapped := by
  induction roots with
  | nil =>
      intro idmap idmap' mapped
      cases mapped
      exact ⟨List.prefix_refl _, by simp⟩
  | cons root rest inductionHypothesis =>
      intro idmap idmap' mapped
      rw [mapPciRanges, List.foldlM_cons, bind_eq_ok] at mapped
      obtain ⟨middle, rootMapped, restMapped⟩ := mapped
      have appended := PciRootInfo.mapRanges_mapped rootMapped
      obtain ⟨restPrefix, restCovered⟩ := inductionHypothesis restMapped
      refine ⟨(List.prefix_append _ _).trans (appended ▸ restPrefix), ?_⟩
      intro other member range isMemory
      rcases List.mem_cons.mp member with rfl | later
      · apply restPrefix.subset
        rw [appended]
        exact List.mem_append_right _ (List.mem_map_of_mem isMemory)
      · exact restCovered other later range isMemory

/-- Every PCI root found was built by `for_fdt_node` from a node of the tree
that is compatible with `PCI_COMPATIBLE` or `PCIE_COMPATIBLE`. -/
theorem findPciRoots_eq_ok {findCompatible : FindCompatible} (sound : findCompatible.Sound)
    {fdt : Fdt} {barRangeLimit : Nat} {roots : List PciRootInfo}
    (found : findPciRoots findCompatible fdt barRangeLimit = .ok roots) :
    ∀ root ∈ roots, ∃ node ∈ fdt.root.nodes, ∃ compatible ∈ deviceCompatibles, ∃ cam,
      node.CompatibleWith compatible ∧ PciRootInfo.forFdtNode node cam barRangeLimit = .ok root := by
  unfold findPciRoots at found
  rw [bind_eq_ok] at found
  obtain ⟨pciRoots, pciFound, found⟩ := found
  rw [bind_eq_ok] at found
  obtain ⟨pcieRoots, pcieFound, found⟩ := found
  cases found
  intro root member
  rcases List.mem_append.mp member with isPci | isPcie
  · obtain ⟨node, nodeFound, built⟩ := mem_of_mapM_eq_ok pciFound root isPci
    obtain ⟨inTree, compatible⟩ := sound _ _ node nodeFound
    exact ⟨node, inTree, pciCompatible, by decide, .mmioCam, compatible, built⟩
  · obtain ⟨node, nodeFound, built⟩ := mem_of_mapM_eq_ok pcieFound root isPcie
    obtain ⟨inTree, compatible⟩ := sound _ _ node nodeFound
    exact ⟨node, inTree, pcieCompatible, by decide, .ecam, compatible, built⟩

end Boot

/-! ### The regions handed to drivers -/

/-- `region` lies inside a region the page table maps as device memory. -/
def MappedAsDevice (mapped : List (MemoryKind × AddrRange)) (region : AddrRange) : Prop :=
  ∃ deviceRegion, (MemoryKind.device, deviceRegion) ∈ mapped ∧ region.Within deviceRegion

/-- Every `reg` region of a compatible node of a walked tree, and every part
of one, is mapped as device memory. -/
theorem RegionsMapped.mappedAsDevice {nodes : List FdtNode}
    {mapped : List (MemoryKind × AddrRange)} (regionsMapped : RegionsMapped nodes mapped)
    {node : FdtNode} (member : node ∈ nodes) {compatible : String}
    (compatibleWith : node.CompatibleWith compatible) (listed : compatible ∈ deviceCompatibles)
    {regions : List Reg} (hasRegions : node.reg = some regions) {region : Reg}
    (inRegions : region ∈ regions) {part : AddrRange}
    (within : part.Within (AddrRange.ofSize region.address region.size)) :
    MappedAsDevice mapped part := by
  obtain ⟨regions', hasRegions', covered⟩ :=
    regionsMapped node member (isCompatible_of_compatibleWith compatibleWith listed)
  obtain rfl : regions' = regions := Option.some.inj (hasRegions'.symm.trans hasRegions)
  exact ⟨_, covered region inRegions, within.trans (within_pagetableRegion region)⟩

/-- What the page table covers when `main` activates it: every MMIO region
that `main` later hands to a driver. These are the first `reg` region of each
VirtIO MMIO device given a transport, the GIC distributor and the
redistributor frames of every CPU, the configuration space of every PCI root,
and every BAR block `init_pci` writes, which lies in a memory range of its
root that `map_ranges` mapped. -/
structure DriverRegionsMapped {σ : Type} (findCompatible : FindCompatible)
    (policy : AllocPolicy) (gicdSize gicrSgiSize headerSize : Nat) (fdt : Fdt)
    (idmap : IdMap σ) (roots : List PciRootInfo) : Prop where
  virtio : ∀ handed ∈ (findVirtioMmioDevices headerSize fdt).state?, ∀ region ∈ handed,
    MappedAsDevice idmap.mapped region
  gic : ∀ gic, makeGic findCompatible gicdSize gicrSgiSize fdt = .ok (some gic) →
    MappedAsDevice idmap.mapped (AddrRange.ofSize gic.gicd gicdSize) ∧
      MappedAsDevice idmap.mapped (AddrRange.ofSize gic.gicr (gicrSgiSize * gic.cpuCount))
  pciCam : ∀ root ∈ roots, MappedAsDevice idmap.mapped (AddrRange.ofSize root.mmioBase root.cam.size)
  bars : ∀ root ∈ roots, ∀ functions halt, root.initPci policy functions = .ok halt →
    ∀ state ∈ halt.state?, ∀ write ∈ state.writes, ∃ range ∈ memoryRanges root.ranges,
      write.block.Within (AddrRange.ofSize range.cpuPhysical range.size) ∧
        (MemoryKind.device, range.mappedRegion) ∈ idmap.mapped

/-- **MMIO before activation.** With a `find_compatible` that yields
compatible nodes of the tree and an allocator that stays in its frames, every
MMIO region `main` hands to a driver after activating the page table lies
inside a device region mapped before. -/
theorem bootPageTable_mapsDriverRegions {σ : Type} {mapRange : MapRange σ}
    {findCompatible : FindCompatible} {policy : AllocPolicy} {fdt : Fdt} {mapping : σ}
    {pageTableSize : Nat} {idmap : IdMap σ} {roots : List PciRootInfo}
    (sound : findCompatible.Sound) (withinFrames : policy.WithinFrames)
    (sizeFits : pageTableSize < limit 64)
    (booted : bootPageTable mapRange findCompatible fdt mapping pageTableSize = .ok (idmap, roots))
    (gicdSize gicrSgiSize headerSize : Nat) :
    DriverRegionsMapped findCompatible policy gicdSize gicrSgiSize headerSize fdt idmap roots := by
  simp only [bootPageTable, bind_eq_ok, pure_eq_ok, Except.ok.injEq, Prod.mk.injEq] at booted
  obtain ⟨walked, walkedOk, found, foundOk, final, finalOk, rfl, rfl⟩ := booted
  have fromNodes := findPciRoots_eq_ok sound foundOk
  obtain ⟨pciPrefix, rangesMapped⟩ := mapPciRanges_eq_ok found finalOk
  have nodesMapped : RegionsMapped fdt.root.nodes final.mapped :=
    (mapFdtRegions_eq_ok walkedOk).2.mono pciPrefix
  refine ⟨?virtio, ?gic, ?pciCam, ?bars⟩
  case virtio =>
    intro handed halted region member
    obtain ⟨node, child, compatible, regions, first, hasRegions, isFirst, rfl⟩ :=
      findVirtioMmioDevices_handed handed halted region member
    have compatibleWith : ∃ strings, node.compatible = some strings ∧ virtioMmioCompatible ∈ strings := by
      unfold isCompatible at compatible
      cases hasStrings : node.compatible with
      | none => simp [hasStrings] at compatible
      | some strings =>
          simp only [hasStrings, List.any_eq_true, List.contains_iff_mem, List.mem_singleton] at compatible
          obtain ⟨string, member, rfl⟩ := compatible
          exact ⟨strings, rfl, member⟩
    exact nodesMapped.mappedAsDevice (FdtNode.child_mem_nodes child) compatibleWith (by decide)
      hasRegions (List.mem_of_mem_head? isFirst) (AddrRange.within_refl _)
  case gic =>
    intro gic made
    obtain ⟨node, nodeFound, regions, gicdRegion, gicrRegion, hasRegions, gicdFirst, gicrSecond,
      gicdBase, gicdExact, gicrBase, gicrEnough⟩ := makeGic_eq_some made
    obtain ⟨inTree, compatibleWith⟩ := sound _ _ node nodeFound
    constructor
    · rw [gicdBase, ← gicdExact]
      exact nodesMapped.mappedAsDevice inTree compatibleWith (by decide) hasRegions
        (List.mem_of_getElem? gicdFirst) (AddrRange.within_refl _)
    · rw [gicrBase]
      exact nodesMapped.mappedAsDevice inTree compatibleWith (by decide) hasRegions
        (List.mem_of_getElem? gicrSecond) (AddrRange.ofSize_within_of_le gicrEnough)
  case pciCam =>
    intro root member
    obtain ⟨node, inTree, compatible, listed, cam, compatibleWith, built⟩ := fromNodes root member
    obtain ⟨rfl, ⟨regions, region, hasRegions, isFirst, base, exact⟩, -⟩ :=
      PciRootInfo.forFdtNode_eq_ok built
    rw [base, ← exact]
    exact nodesMapped.mappedAsDevice inTree compatibleWith listed hasRegions
      (List.mem_of_mem_head? isFirst) (AddrRange.within_refl _)
  case bars =>
    intro root member functions halt ran state halted write written
    obtain ⟨range, isMemory, within⟩ :=
      PciRootInfo.initPci_covered withinFrames ran state halted write written
    exact ⟨range, isMemory, within, rangesMapped root member range isMemory⟩

/-- A tree with memory, a GIC, the PCIe host bridge of QEMU's `virt` machine
and a VirtIO MMIO device, booted with a page table of 512 GiB that accepts
every mapping: the 64-bit window of the bridge lies above the page table and
is dropped, its 32-bit window is mapped. -/
theorem bootPageTable_mapsDriverRegions_virt :
    let fdt : Fdt := {
      root := {
        name := ""
        compatible := some ["linux,dummy-virt"]
        reg := none
        ranges := none
        children := [
          { name := "intc@8000000", compatible := some ["arm,gic-v3"],
            reg := some [⟨0x800_0000, 0x1_0000⟩, ⟨0x80A_0000, 0xF6_0000⟩], ranges := none,
            children := [] },
          { name := "pcie@10000000", compatible := some [pcieCompatible],
            reg := some [⟨0x40_1000_0000, 0x1000_0000⟩],
            ranges := some [
              ⟨0x0100_0000 * 2 ^ 64, 0x3eff_0000, 0x1_0000⟩,
              ⟨0x0200_0000 * 2 ^ 64 + 0x1000_0000, 0x1000_0000, 0x2eff_0000⟩,
              ⟨0x0300_0000 * 2 ^ 64 + 0x80_0000_0000, 0x80_0000_0000, 0x80_0000_0000⟩],
            children := [] },
          { name := "virtio_mmio@a000000", compatible := some [virtioMmioCompatible],
            reg := some [⟨0xA00_0000, 0x200⟩], ranges := none, children := [] }] }
      memoryReg := some [⟨0x4000_0000, 0x1000_0000⟩]
      cpuIds := some [some 0] }
    let mapRange : MapRange Unit := fun mapping _ _ => .ok mapping
    let root : PciRootInfo := ⟨.ecam, 0x40_1000_0000, [
      ⟨0x3eff_0000, 0, 0x1_0000, ⟨0x0100_0000⟩⟩,
      ⟨0x1000_0000, 0x1000_0000, 0x2eff_0000, ⟨0x0200_0000⟩⟩]⟩
    let idmap : IdMap Unit := ⟨(), [(.memory, ⟨0x4000_0000, 0x5000_0000⟩),
      (.device, ⟨0x800_0000, 0x801_0000⟩), (.device, ⟨0x80A_0000, 0x900_0000⟩),
      (.device, ⟨0x40_1000_0000, 0x40_2000_0000⟩), (.device, ⟨0xA00_0000, 0xA00_1000⟩),
      (.device, ⟨0x1000_0000, 0x3eff_0000⟩)]⟩
    findCompatibleInOrder.Sound ∧ bumpPolicy.WithinFrames ∧ (0x80_0000_0000 : Nat) < limit 64 ∧
      bootPageTable mapRange findCompatibleInOrder fdt () 0x80_0000_0000 = .ok (idmap, [root]) ∧
      DriverRegionsMapped findCompatibleInOrder bumpPolicy 0x1_0000 0x2_0000 0x100 fdt idmap
        [root] := by
  intro fdt mapRange root idmap
  have booted :
      bootPageTable mapRange findCompatibleInOrder fdt () 0x80_0000_0000 = .ok (idmap, [root]) :=
    rfl
  exact ⟨findCompatibleInOrder_sound, bumpPolicy_sound.withinFrames, by decide, booted,
    bootPageTable_mapsDriverRegions findCompatibleInOrder_sound bumpPolicy_sound.withinFrames
      (by decide) booted _ _ _⟩

end Osdemo.Boot
