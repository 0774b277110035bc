import Docweave.Project.Basic

/-!
# Unfolded graphs

A graph is shown as a tree of what a node leads to. A node that stands above itself on the way from the root
is marked and not unfolded again, so the tree is finite even where the graph has cycles: the nodes on the way
are different, and their number is passed as fuel.
-/

namespace Docweave

/-- A node that leads to others, or one that stands above already. -/
inductive Unfolding (α : Type) where
  | fresh (node : α) (below : List (Unfolding α))
  | repeated (node : α)
  deriving Repr

namespace Unfolding

variable {α : Type} [DecidableEq α]

/-- What a node leads to, where `above` are the nodes on the way to it and it itself. -/
def childrenFrom (neighbours : α → List α) : (fuel : Nat) → (above : List α) → α → List (Unfolding α)
  | 0, _, _ => []
  | fuel + 1, above, node =>
    (neighbours node).map fun next =>
      if next ∈ above then .repeated next
      else .fresh next (childrenFrom neighbours fuel (above ++ [next]) next)

/-- What a node leads to, where `nodes` are all nodes of the graph. -/
def children (neighbours : α → List α) (nodes : List α) (node : α) : List (Unfolding α) :=
  childrenFrom neighbours nodes.length [node] node

mutual

/-- The nodes of a tree that are not marked as repeated. -/
def freshNodes : Unfolding α → List α
  | .fresh node below => node :: freshOfAll below
  | .repeated _ => []

/-- The nodes of several trees that are not marked as repeated. -/
def freshOfAll : List (Unfolding α) → List α
  | [] => []
  | tree :: trees => freshNodes tree ++ freshOfAll trees

end

end Unfolding

/-- What a file requires, as trees. -/
def Project.requireTrees (project : Project) (id : FileId) : List (Unfolding FileId) :=
  Unfolding.children project.required project.allFiles id

end Docweave
