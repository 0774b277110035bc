import Docweave.Project.Unfold
import Docweave.Proofs.Project.Roots

/-!
# What files reach, as lists and as trees

Where every edge is noted at both ends, one file reaches another along what is required exactly when
it is reached back along what requires.  The tree that is drawn below a file shows the files it
reaches: unfolding never goes on from a node that stands above itself, and nothing is lost by that,
since a way that comes back to a node can be cut short to one that does not.
-/

namespace Docweave

namespace Reach

variable {α : Type} {neighbours : α → List α} {above more : List α} {node other : α}

/-- A way to another node takes at least one step. -/
theorem leads_iff_of_ne (different : other ≠ node) :
    Leads neighbours node other ↔ Relation.TransGen (fun node next => next ∈ neighbours node) node other := by
  rw [Leads, Relation.reflTransGen_iff_eq_or_transGen, or_iff_right different]

/-- One node leads to another in steps that never end at one of the nodes `above`. -/
abbrev LeadsPast (neighbours : α → List α) (above : List α) : α → α → Prop :=
  Relation.ReflTransGen fun node next => next ∈ neighbours node ∧ next ∉ above

theorem leadsPast_nil_iff : LeadsPast neighbours [] node other ↔ Leads neighbours node other := by
  simp [LeadsPast, Leads]

/-- Fewer nodes are easier to avoid. -/
theorem leadsPast_of_subset (fewer : above ⊆ more) (leads : LeadsPast neighbours more node other) :
    LeadsPast neighbours above node other := by
  apply Relation.ReflTransGen.mono _ node other leads
  rintro node next ⟨isNext, past⟩
  exact ⟨isNext, fun inside => past (fewer inside)⟩

/-- What comes before the last visit to the start of a way can be left out. -/
theorem leadsPast_append_self (leads : LeadsPast neighbours above node other) :
    LeadsPast neighbours (above ++ [node]) node other := by
  induction leads with
  | refl => exact .refl
  | @tail middle last _ step ih =>
      by_cases back : last = node
      · subst back
        exact .refl
      · refine ih.tail ⟨step.1, ?_⟩
        rw [List.mem_append, List.mem_singleton, not_or]
        exact ⟨step.2, back⟩

end Reach

namespace Unfolding

open Reach

variable {α : Type} {neighbours : α → List α} {nodes above : List α} {node other : α}
variable {trees : List (Unfolding α)}

theorem mem_freshOfAll : other ∈ freshOfAll trees ↔ ∃ tree ∈ trees, other ∈ freshNodes tree := by
  induction trees with
  | nil => simp [freshOfAll]
  | cons tree trees ih => simp [freshOfAll, ih]

variable [DecidableEq α]

/-! ## Unfolding without a bound -/

/-- The trees below a node, where `above` are the nodes on the way to it and it itself.  A neighbour
that stands above is marked, and any other one is unfolded in turn. -/
inductive Unfolds (neighbours : α → List α) : (above : List α) → α → List (Unfolding α) → Prop where
  | node {above : List α} {node : α} (below : α → List (Unfolding α))
      (unfolds : ∀ next ∈ neighbours node, next ∉ above →
        Unfolds neighbours (above ++ [next]) next (below next)) :
      Unfolds neighbours above node ((neighbours node).map fun next =>
        if next ∈ above then .repeated next else .fresh next (below next))

/-- The nodes on the way are different, so there are no more steps than nodes. -/
theorem unfolds_childrenFrom (inside : ∀ node, neighbours node ⊆ nodes) {fuel : Nat}
    (distinct : above.Nodup) (known : above ⊆ nodes) (enough : nodes.length < above.length + fuel) :
    Unfolds neighbours above node (childrenFrom neighbours fuel above node) := by
  induction fuel generalizing above node with
  | zero =>
      have fits := (distinct.subperm known).length_le
      omega
  | succ fuel ih =>
      rw [childrenFrom]
      apply Unfolds.node
      intro next isNext new
      apply ih
      · exact List.nodup_append.mpr ⟨distinct, List.nodup_singleton next, by
          rintro earlier isAbove _ isNew rfl
          exact new (List.mem_singleton.mp isNew ▸ isAbove)⟩
      · exact List.append_subset.mpr ⟨known, List.cons_subset.mpr ⟨inside node isNext, List.nil_subset _⟩⟩
      · rw [List.length_append, List.length_singleton]
        omega

theorem unfolds_children (inside : ∀ node, neighbours node ⊆ nodes)
    (outside : ∀ node, node ∉ nodes → neighbours node = []) (node : α) :
    Unfolds neighbours [node] node (children neighbours nodes node) := by
  by_cases known : node ∈ nodes
  · apply unfolds_childrenFrom inside (List.nodup_singleton node)
    · exact List.cons_subset.mpr ⟨known, List.nil_subset _⟩
    · rw [List.length_singleton]
      omega
  · have alone := outside node known
    have nothing : children neighbours nodes node = [] := by
      rw [children]
      cases nodes.length with
      | zero => rfl
      | succ fuel => rw [childrenFrom, alone, List.map_nil]
    have unfolds : Unfolds neighbours [node] node ((neighbours node).map fun next =>
        if next ∈ [node] then .repeated next else .fresh next []) := by
      apply Unfolds.node
      rw [alone]
      exact nofun
    rwa [alone, List.map_nil, ← nothing] at unfolds

/-! ## The nodes that are shown -/

/-- Below a node those are shown to which it leads past the nodes above. -/
theorem Unfolds.mem_freshOfAll_iff (unfolds : Unfolds neighbours above node trees) (inside : node ∈ above) :
    other ∈ freshOfAll trees ↔ other ∉ above ∧ LeadsPast neighbours above node other := by
  induction unfolds with
  | @node above node below _ ih =>
      have shown : other ∈ freshOfAll ((neighbours node).map fun next =>
            if next ∈ above then .repeated next else .fresh next (below next)) ↔
          ∃ next, (next ∈ neighbours node ∧ next ∉ above) ∧
            (other = next ∨ other ∈ freshOfAll (below next)) := by
        rw [mem_freshOfAll]
        constructor
        · rintro ⟨_, isTree, isShown⟩
          obtain ⟨next, isNext, rfl⟩ := List.mem_map.mp isTree
          split at isShown
          · cases isShown
          · rename_i new
            exact ⟨next, ⟨isNext, new⟩, List.mem_cons.mp isShown⟩
        · rintro ⟨next, ⟨isNext, new⟩, isShown⟩
          refine ⟨_, List.mem_map_of_mem isNext, ?_⟩
          rw [if_neg new]
          exact List.mem_cons.mpr isShown
      have nextInside : ∀ next, next ∈ above ++ [next] := fun next =>
        List.mem_append_right above (List.mem_singleton_self next)
      rw [shown]
      constructor
      · rintro ⟨next, step, rfl | isBelow⟩
        · exact ⟨step.2, .single step⟩
        · obtain ⟨new, leads⟩ := (ih next step.1 step.2 (nextInside next)).mp isBelow
          exact ⟨fun isAbove => new (List.mem_append_left _ isAbove),
            .head step (leadsPast_of_subset (List.subset_append_left above [next]) leads)⟩
      · rintro ⟨new, leads⟩
        rcases Relation.ReflTransGen.cases_head leads with rfl | ⟨next, step, onward⟩
        · exact absurd inside new
        · refine ⟨next, step, ?_⟩
          by_cases arrived : other = next
          · exact .inl arrived
          · refine .inr ((ih next step.1 step.2 (nextInside next)).mpr ⟨?_, leadsPast_append_self onward⟩)
            rw [List.mem_append, List.mem_singleton, not_or]
            exact ⟨new, arrived⟩

/-- Below the root of a tree all other nodes are shown to which it leads. -/
theorem Unfolds.mem_freshOfAll_root (unfolds : Unfolds neighbours [node] node trees) :
    other ∈ freshOfAll trees ↔ other ≠ node ∧ Leads neighbours node other := by
  rw [unfolds.mem_freshOfAll_iff (List.mem_singleton_self node), List.mem_singleton, ← leadsPast_nil_iff]
  exact and_congr_right fun _ => ⟨leadsPast_of_subset (List.nil_subset _), leadsPast_append_self⟩

end Unfolding

namespace Project

variable {project : Project} {id other : FileId}

/-! ## Edges that are noted at both ends -/

/-- Every edge is noted at both of its ends. -/
def Symmetric (project : Project) : Prop :=
  ∀ id other, other ∈ project.required id ↔ id ∈ project.requiredBy other

/-- It is enough to look at the files of the project, since no others have edges. -/
instance (project : Project) : Decidable project.Symmetric :=
  decidable_of_iff (∀ id ∈ project.allFiles, (∀ other ∈ project.required id, id ∈ project.requiredBy other) ∧
      ∀ other ∈ project.requiredBy id, id ∈ project.required other) <| by
    constructor
    · intro noted id other
      constructor
      · intro isRequired
        by_cases known : id ∈ project.allFiles
        · exact (noted id known).1 other isRequired
        · rw [required_outside id known] at isRequired
          cases isRequired
      · intro requires
        by_cases known : other ∈ project.allFiles
        · exact (noted other known).2 id requires
        · rw [requiredBy_outside other known] at requires
          cases requires
    · intro symmetric id _
      exact ⟨fun other => (symmetric id other).mp, fun other => (symmetric other id).mpr⟩

namespace Symmetric

/-- A way along what requires is a way back along what is required. -/
theorem leads_iff (symmetric : project.Symmetric) :
    Reach.Leads project.requiredBy other id ↔ Reach.Leads project.required id other := by
  have flipped : (fun file next => next ∈ project.requiredBy file) =
      Function.swap fun file next => next ∈ project.required file := by
    funext file next
    exact propext (symmetric next file).symm
  rw [Reach.Leads, flipped]
  exact Relation.reflTransGen_swap

/-- No edge leads out of the files of a project. -/
theorem required_subset (symmetric : project.Symmetric) (id : FileId) :
    project.required id ⊆ project.allFiles := by
  intro other isRequired
  apply Decidable.byContradiction
  intro unknown
  have requires := (symmetric id other).mp isRequired
  rw [requiredBy_outside other unknown] at requires
  cases requires

theorem unfolds_requireTrees (symmetric : project.Symmetric) (id : FileId) :
    Unfolding.Unfolds project.required [id] id (project.requireTrees id) :=
  Unfolding.unfolds_children symmetric.required_subset required_outside id

end Symmetric

theorem mem_allRequiredBy_iff :
    other ∈ project.allRequiredBy id ↔ other ≠ id ∧ Reach.Leads project.requiredBy id other :=
  (Reach.gathers_closure requiredBy_outside id).mem_iff.2 other

/-- Whatever cycles the edges form, going through what a file requires, or through what requires it, and
drawing the tree below it come to an end.  Both lists have each other file that edges lead to, once;
one is the other read backwards; and the nodes of the tree without a mark are those of the first. -/
theorem reached_of_symmetric (project : Project) (symmetric : project.Symmetric) (id : FileId) :
    (Reach.Gathers project.required id (project.required id) [] (project.allRequired id) ∧
      (project.allRequired id).Nodup ∧
      ∀ other, other ∈ project.allRequired id ↔
        other ≠ id ∧ Relation.TransGen (fun file next => next ∈ project.required file) id other) ∧
    (Reach.Gathers project.requiredBy id (project.requiredBy id) [] (project.allRequiredBy id) ∧
      (project.allRequiredBy id).Nodup ∧
      ∀ other, other ∈ project.allRequiredBy id ↔
        other ≠ id ∧ Relation.TransGen (fun file next => next ∈ project.requiredBy file) id other) ∧
    (∀ other, other ∈ project.allRequired id ↔ id ∈ project.allRequiredBy other) ∧
    Unfolding.Unfolds project.required [id] id (project.requireTrees id) ∧
    ∀ other, other ∈ Unfolding.freshOfAll (project.requireTrees id) ↔ other ∈ project.allRequired id := by
  have required : Reach.Gathers project.required id (project.required id) [] (project.allRequired id) :=
    Reach.gathers_closure required_outside id
  have requiredBy : Reach.Gathers project.requiredBy id (project.requiredBy id) [] (project.allRequiredBy id) :=
    Reach.gathers_closure requiredBy_outside id
  have unfolds := symmetric.unfolds_requireTrees id
  refine ⟨⟨required, required.mem_iff.1, ?_⟩, ⟨requiredBy, requiredBy.mem_iff.1, ?_⟩, ?_, unfolds, ?_⟩
  · intro other
    rw [mem_allRequired_iff]
    exact and_congr_right Reach.leads_iff_of_ne
  · intro other
    rw [mem_allRequiredBy_iff]
    exact and_congr_right Reach.leads_iff_of_ne
  · intro other
    rw [mem_allRequired_iff, mem_allRequiredBy_iff, symmetric.leads_iff, ne_comm]
  · intro other
    rw [unfolds.mem_freshOfAll_root, mem_allRequired_iff]

/-- Two files that import each other, of which one imports a third. -/
theorem reached_of_symmetric_cycle :
    let first := ({} : Project).addFile "import { b } from './b'" 1 (some "a.js") none none
    let second := first.1.addFile "import { a } from './a.js'\nimport { c } from './c'" 1 (some "b.js") none none
    let project := ((second.1.addFile "var c" 1 (some "c.js") none none).1).linkAll [⟨2⟩, ⟨0⟩, ⟨1⟩]
    project.Symmetric ∧ ⟨2⟩ ∈ Unfolding.freshOfAll (project.requireTrees ⟨0⟩) ∧
      ⟨0⟩ ∉ Unfolding.freshOfAll (project.requireTrees ⟨0⟩) ∧ ⟨0⟩ ∈ project.allRequiredBy ⟨2⟩ := by
  intro first second project
  have symmetric : project.Symmetric := by decide
  obtain ⟨-, -, dual, -, shown⟩ := reached_of_symmetric project symmetric ⟨0⟩
  have reached : (⟨2⟩ : FileId) ∈ project.allRequired ⟨0⟩ := by decide
  exact ⟨symmetric, (shown ⟨2⟩).mpr reached, fun again => absurd ((shown ⟨0⟩).mp again) (by decide),
    (dual ⟨2⟩).mp reached⟩

end Project

end Docweave
