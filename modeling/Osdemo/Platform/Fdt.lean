import Osdemo.Rust.Core

/-!
Contract: the device tree as the kernel reads it through dtoolkit.

A node has a name, an optional `compatible` string list, optional `reg` and
`ranges` lists, and its children. Cell values are kept as the numbers they
encode. A conversion to a fixed-width integer (`address::<u64>()`,
`child_bus_address::<u128>()`, ...) gives the value when it fits the width,
and the kernel unwraps every conversion. Blobs that dtoolkit cannot parse are
not modelled: every tree here is a parsed one.

Owns:
- `FdtNode`, `Reg`, `FdtRange`, `Fdt`, and the pre-order list `nodes` of a
  tree;
- `is_compatible` as the kernel defines it;
- dtoolkit's `find_compatible`, which the repository does not contain, as the
  parameter `FindCompatible` with the one property the kernel relies on
  (`FindCompatible.Sound`), and one implementation that has it.
-/

namespace Osdemo.Platform

open Rust

/-- One entry of a `reg` property. -/
structure Reg where
  address : Nat
  size : Nat
deriving DecidableEq, Repr

/-- One entry of a `ranges` property: a child bus address, the parent bus
address it maps to, and the length. -/
structure FdtRange where
  childBusAddress : Nat
  parentBusAddress : Nat
  length : Nat
deriving DecidableEq, Repr

/-- A device-tree node and the properties the kernel reads. -/
structure FdtNode where
  name : String
  compatible : Option (List String)
  reg : Option (List Reg)
  ranges : Option (List FdtRange)
  children : List FdtNode
deriving Repr

/-- The parts of a flattened device tree the kernel reads: the root node, the
`reg` of the memory node, and the first `reg` value of each cpu node (`none`
where it does not fit a `u64`). -/
structure Fdt where
  root : FdtNode
  memoryReg : Option (List Reg)
  cpuIds : Option (List (Option Nat))
deriving Repr

/-- `to_int::<T>().unwrap()` and its kin: the value when it fits `bits` bits. -/
def cellValue (bits value : Nat) : Except Panic Nat :=
  if value < limit bits then .ok value else .error (.unwrapErr .fdtError)

theorem cellValue_eq_ok_iff {bits value result : Nat} :
    cellValue bits value = .ok result ↔ value < limit bits ∧ result = value := by
  unfold cellValue
  by_cases fits : value < limit bits
  · simp [fits, eq_comm]
  · simp [fits]

/-- `Option::unwrap`. -/
def unwrap {α : Type} : Option α → Except Panic α
  | some value => .ok value
  | none => .error .unwrapNone

@[simp] theorem unwrap_some {α : Type} (value : α) : unwrap (some value) = .ok value := rfl

@[simp] theorem unwrap_none {α : Type} : unwrap (none : Option α) = .error .unwrapNone := rfl

/-! ### The nodes of a tree -/

mutual
/-- A node and all its descendants, in pre-order. -/
def FdtNode.nodes : FdtNode → List FdtNode
  | node@⟨_, _, _, _, children⟩ => node :: FdtNode.nodesOf children

/-- The nodes of a list of trees, each in pre-order. -/
def FdtNode.nodesOf : List FdtNode → List FdtNode
  | [] => []
  | node :: rest => node.nodes ++ FdtNode.nodesOf rest
end

theorem FdtNode.nodes_eq (node : FdtNode) : node.nodes = node :: FdtNode.nodesOf node.children := by
  cases node
  rfl

@[simp] theorem FdtNode.mem_nodes_self (node : FdtNode) : node ∈ node.nodes := by
  rw [FdtNode.nodes_eq]
  exact List.mem_cons_self

theorem FdtNode.mem_nodesOf {nodes : List FdtNode} {node : FdtNode} :
    node ∈ FdtNode.nodesOf nodes ↔ ∃ tree ∈ nodes, node ∈ tree.nodes := by
  induction nodes with
  | nil => simp [FdtNode.nodesOf]
  | cons tree rest inductionHypothesis =>
      simp [FdtNode.nodesOf, inductionHypothesis]

/-- A child of a node is one of its nodes. -/
theorem FdtNode.child_mem_nodes {node child : FdtNode} (member : child ∈ node.children) :
    child ∈ node.nodes := by
  rw [FdtNode.nodes_eq, List.mem_cons, FdtNode.mem_nodesOf]
  exact Or.inr ⟨child, member, child.mem_nodes_self⟩

/-! ### Compatible strings -/

/-- The node lists `compatible` among its `compatible` strings. -/
def FdtNode.CompatibleWith (node : FdtNode) (compatible : String) : Prop :=
  ∃ strings, node.compatible = some strings ∧ compatible ∈ strings

instance (node : FdtNode) (compatible : String) : Decidable (node.CompatibleWith compatible) :=
  match node with
  | ⟨_, some strings, _, _, _⟩ =>
      decidable_of_iff (compatible ∈ strings) (by simp [FdtNode.CompatibleWith])
  | ⟨_, none, _, _, _⟩ => isFalse (by simp [FdtNode.CompatibleWith])

/-- `is_compatible(node, with)`: some `compatible` string of the node is in `with`. -/
def isCompatible (node : FdtNode) (with_ : List String) : Bool :=
  match node.compatible with
  | some strings => strings.any fun compatible => with_.contains compatible
  | none => false

theorem isCompatible_of_compatibleWith {node : FdtNode} {with_ : List String}
    {compatible : String} (compatibleWith : node.CompatibleWith compatible)
    (listed : compatible ∈ with_) : isCompatible node with_ = true := by
  obtain ⟨strings, hasStrings, member⟩ := compatibleWith
  simp only [isCompatible, hasStrings, List.any_eq_true, List.contains_iff_mem]
  exact ⟨compatible, member, listed⟩

/-! ### `find_compatible` -/

/-- dtoolkit's `Node::find_compatible`: the nodes below a root that it yields
for a `compatible` string, in order. -/
abbrev FindCompatible := FdtNode → String → List FdtNode

/-- Every node `find_compatible` yields is a node of the tree that lists the
string among its `compatible` strings. -/
def FindCompatible.Sound (findCompatible : FindCompatible) : Prop :=
  ∀ root compatible node, node ∈ findCompatible root compatible →
    node ∈ root.nodes ∧ node.CompatibleWith compatible

/-- A pre-order search for compatible nodes. -/
def findCompatibleInOrder : FindCompatible := fun root compatible =>
  root.nodes.filter fun node => decide (node.CompatibleWith compatible)

theorem findCompatibleInOrder_sound : FindCompatible.Sound findCompatibleInOrder := by
  intro root compatible node member
  simpa [findCompatibleInOrder] using member

end Osdemo.Platform
