/-!
# Reachability

Walks along the edges of a graph that is given by the neighbours of each node. Nodes are visited breadth
first and each one once, so cycles do no harm. The number of edges bounds the length of the queue and is
passed as fuel.
-/

namespace Docweave.Reach

variable {α : Type} [DecidableEq α]

/-- The nodes that are reached from a queue, after those found so far. The start itself is left out. -/
def closureFrom (neighbours : α → List α) (start : α) : (fuel : Nat) → (queue found : List α) → List α
  | 0, _, found => found
  | _, [], found => found
  | fuel + 1, node :: queue, found =>
    if node ∈ found ∨ node = start then closureFrom neighbours start fuel queue found
    else closureFrom neighbours start fuel (queue ++ neighbours node) (found ++ [node])

/-- Number of edges that start at some nodes. -/
def edgeCount (neighbours : α → List α) (nodes : List α) : Nat :=
  nodes.foldr (fun node count => (neighbours node).length + count) 0

/-- Every other node that is reached from a node, where `nodes` are all nodes of the graph. -/
def closure (neighbours : α → List α) (nodes : List α) (start : α) : List α :=
  closureFrom neighbours start ((neighbours start).length + edgeCount neighbours nodes + 1)
    (neighbours start) []

/-- The nodes without neighbours that are reached from a queue, after those found so far. -/
def endsFrom (neighbours : α → List α) : (fuel : Nat) → (queue visited found : List α) → List α
  | 0, _, _, found => found
  | _, [], _, found => found
  | fuel + 1, node :: queue, visited, found =>
    if node ∈ visited then endsFrom neighbours fuel queue visited found
    else
      match neighbours node with
      | [] => endsFrom neighbours fuel queue (visited ++ [node]) (found ++ [node])
      | next => endsFrom neighbours fuel (queue ++ next) (visited ++ [node]) found

/-- The nodes without neighbours that are reached from a node. When only cycles are reached, the node
stands in for the missing end. -/
def ends (neighbours : α → List α) (nodes : List α) (start : α) : List α :=
  let found := endsFrom neighbours ((neighbours start).length + edgeCount neighbours nodes + 1)
    (neighbours start) [] []
  if (neighbours start).isEmpty || found.isEmpty then [start] else found

/-- Add nodes until all are covered. Each round takes the first node that is not covered, adds the ends
of its forward walks to the roots, and covers what these reach backwards. -/
def rootsFrom (forward backward : α → List α) (everything nodes : List α) :
    (fuel : Nat) → (roots covered : List α) → List α
  | 0, roots, _ => roots
  | fuel + 1, roots, covered =>
    if covered.length < nodes.length then
      match nodes.find? (fun node => node ∉ covered) with
      | none => roots
      | some node =>
        let found := ends forward everything node
        let reached := found.flatMap (closure backward everything)
        rootsFrom forward backward everything nodes fuel (roots ++ found).eraseDups
          (covered ++ found ++ [node] ++ reached).eraseDups
    else roots

/-- Nodes from which all listed nodes are reached by backward walks, in the order in which they are
found. `everything` lists all nodes that edges may lead to. -/
def roots (forward backward : α → List α) (everything nodes : List α) : List α :=
  rootsFrom forward backward everything nodes nodes.length [] []

/-- Every listed node once: each root, followed by what it reaches backwards. -/
def ordered (forward backward : α → List α) (everything nodes : List α) : List α :=
  ((roots forward backward everything nodes).flatMap (fun root => root :: closure backward everything root)
    ++ nodes).eraseDups

end Docweave.Reach
