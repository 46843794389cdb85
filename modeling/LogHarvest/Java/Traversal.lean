import LogHarvest.Java.Tree

/-!
# Walking a syntax tree

The nodes of a tree are listed parents first and children in the order of the source. The walk
keeps a list of what is still to be visited, and with every node the nodes around it.
-/

namespace LogHarvest.Java

/-- A node with the nodes around it, innermost first. -/
structure Located where
  tree : Tree
  around : List Tree

namespace Tree

mutual

/-- The number of nodes of a tree. -/
def size : Tree → Nat
  | .node _ _ children => 1 + sizeAll children

/-- The number of nodes of some children. -/
def sizeAll : List (Role × Tree) → Nat
  | [] => 0
  | (_, t) :: rest => t.size + sizeAll rest

end

end Tree

namespace Located

/-- The children of a node, with the nodes around them. -/
def inner (l : Located) : List Located :=
  l.tree.children.map fun c => ⟨c.2, l.tree :: l.around⟩

/-- Visits what is still to be visited, with fuel for as many nodes as there are. -/
def visit : (fuel : Nat) → List Located → List Located
  | 0, _ => []
  | _ + 1, [] => []
  | fuel + 1, l :: pending => l :: visit fuel (l.inner ++ pending)

/-- All nodes of a tree. -/
def all (t : Tree) : List Located := visit t.size [⟨t, []⟩]

/-- The nodes of a tree whose kind passes a test. -/
def ofKind (kinds : Kind → Bool) (t : Tree) : List Located :=
  (all t).filter fun l => kinds l.tree.kind

end Located

end LogHarvest.Java
