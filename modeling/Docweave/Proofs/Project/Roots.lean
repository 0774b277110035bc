import Docweave.Proofs.Project.Edges
import Docweave.Proofs.Project.Reach

/-!
# Roots of linked files

Linked files are listed in the order in which they were linked, and every edge between them is
noted at both ends.  So the roots of a project reach all of its files, whether imports form
cycles or not, and going through the roots gives every file once.
-/

namespace Docweave.Project

open Text

/-! ## The list of linked files -/

section Listed

variable {project after : Project} {done : List FileId} {id : FileId}

theorem linked_addEdges (project : Project) (edges : List (FileId × FileId)) :
    (project.addEdges edges).linked = project.linked := by
  induction edges generalizing project with
  | nil => rfl
  | cons edge edges ih => exact ih (project.addEdge edge.1 edge.2)

theorem linked_register (id : FileId) {path : Text} (free : project.registered? path = none) :
    (project.register id path).linked = project.linked ++ [id] := by
  rw [register, free]
  rfl

theorem linked_link (isMain : Bool) (free : project.registered? (project.filePath id) = none) :
    (project.link id isMain).linked = project.linked ++ [id] := by
  have freeThen : (project.addEdges (project.newEdges id)).registered? (project.filePath id) =
      none := by
    rw [registered?, paths_addEdges]
    exact free
  have registered := linked_register id freeThen
  rw [linked_addEdges] at registered
  rw [link_eq]
  cases isMain <;> exact registered

theorem Linked.registered?_eq_none (linked : Linked project done after)
    (free : ∀ other ∈ done, project.filePath other ≠ project.filePath id) :
    after.registered? (after.filePath id) = none := by
  cases found : after.registered? (after.filePath id) with
  | none => rfl
  | some other =>
      obtain ⟨inDone, same⟩ := linked.registered?_iff.mp found
      rw [linked.sameFiles.filePath_eq] at same
      exact absurd same (free other inDone)

/-- Files under paths of their own are listed in the order in which they are linked. -/
theorem Linked.listed {order : List (FileId × Bool)} (linked : Linked project done after)
    (listed : after.linked = done) (known : ∀ entry ∈ order, project.HasFile entry.1)
    (free : ∀ entry ∈ order, ∀ other ∈ done, project.filePath other ≠ project.filePath entry.1)
    (apart : order.Pairwise fun first second =>
      project.filePath first.1 ≠ project.filePath second.1) :
    (after.linkInOrder order).linked = done ++ order.map Prod.fst := by
  induction order generalizing done after with
  | nil => simpa [linkInOrder] using listed
  | cons entry order ih =>
      obtain ⟨id, isMain⟩ := entry
      have freeHead := free _ List.mem_cons_self
      have step := linked.link (known _ List.mem_cons_self) freeHead isMain
      have stepListed : (after.link id isMain).linked = done ++ [id] := by
        rw [linked_link isMain (linked.registered?_eq_none freeHead), listed]
      obtain ⟨apartHead, apartTail⟩ := List.pairwise_cons.mp apart
      have rest := ih step stepListed
        (fun entry inTail => known entry (List.mem_cons_of_mem _ inTail)) (by
          intro entry inTail other membership
          rw [List.mem_append, List.mem_singleton] at membership
          rcases membership with inDone | rfl
          · exact free entry (List.mem_cons_of_mem _ inTail) other inDone
          · exact apartHead entry inTail) apartTail
      rw [List.map_cons, List.append_cons]
      exact rest

end Listed

/-! ## The graph of linked files -/

section Graph

variable {project : Project} {ids : List FileId} {order : List (FileId × Bool)}

theorem Fresh.linked_linkInOrder (fresh : project.Fresh ids)
    (permuted : (order.map Prod.fst).Perm ids) (unlisted : project.linked = []) :
    Linked project (order.map Prod.fst) (project.linkInOrder order) ∧
      (project.linkInOrder order).linked = order.map Prod.fst := by
  have known : ∀ entry ∈ order, project.HasFile entry.1 := by
    intro entry membership
    exact fresh.known entry.1 (permuted.mem_iff.mp (List.mem_map_of_mem membership))
  have apart : (order.map Prod.fst).Pairwise fun first second =>
      project.filePath first ≠ project.filePath second :=
    (permuted.pairwise_iff fun different => Ne.symm different).mpr fresh.apart
  rw [List.pairwise_map] at apart
  have start := linked_nil fresh.unregistered
  exact ⟨Project.linked_linkInOrder start known (by simp) apart,
    start.listed unlisted known (by simp) apart⟩

theorem Fresh.nodup (fresh : project.Fresh ids) : ids.Nodup := by
  apply List.Pairwise.imp _ fresh.apart
  rintro id other different rfl
  exact different rfl

/-- Between fresh files that were linked, each edge is noted at both ends, and no other edges are
there. -/
theorem Fresh.dual (fresh : project.Fresh ids) (permuted : (order.map Prod.fst).Perm ids)
    (unlisted : project.linked = []) :
    let after := project.linkInOrder order
    Reach.Dual after.requiredBy after.required after.linked := by
  intro after
  obtain ⟨linked, listed⟩ := fresh.linked_linkInOrder permuted unlisted
  have mem_linked : ∀ id, id ∈ after.linked ↔ id ∈ ids := fun id => by
    rw [listed, permuted.mem_iff]
  have mem_required : ∀ id ∈ ids, ∀ other,
      other ∈ after.required id ↔ other ∈ ids ∧ project.Requires id other := by
    intro id membership other
    rw [linked.mem_required, (fresh.unlinked id membership).1, permuted.mem_iff, permuted.mem_iff]
    simp [membership]
  have mem_requiredBy : ∀ id ∈ ids, ∀ other,
      other ∈ after.requiredBy id ↔ other ∈ ids ∧ project.Requires other id := by
    intro id membership other
    rw [linked.mem_requiredBy, (fresh.unlinked id membership).2, permuted.mem_iff, permuted.mem_iff]
    simp [membership]
  constructor
  · rw [listed]
    exact permuted.nodup_iff.mpr fresh.nodup
  · intro id membership other isNext
    rw [mem_linked] at membership ⊢
    exact ((mem_requiredBy id membership other).mp isNext).1
  · intro id membership other isNext
    rw [mem_linked] at membership ⊢
    exact ((mem_required id membership other).mp isNext).1
  · intro id membership other otherIn
    rw [mem_linked] at membership otherIn
    rw [mem_requiredBy id membership, mem_required other otherIn]
    simp [membership, otherIn]

theorem file_of_not_mem_allFiles {id : FileId} (outside : id ∉ project.allFiles) :
    project.file id = default := by
  have missing : project.files.size ≤ id.index := by
    apply Nat.le_of_not_lt
    intro has
    exact outside (List.mem_map.mpr ⟨id.index, List.mem_range.mpr has, rfl⟩)
  rw [file, Array.getElem?_eq_none missing]
  rfl

theorem required_outside (id : FileId) (outside : id ∉ project.allFiles) :
    project.required id = [] := by
  rw [required, file_of_not_mem_allFiles outside]
  rfl

theorem requiredBy_outside (id : FileId) (outside : id ∉ project.allFiles) :
    project.requiredBy id = [] := by
  rw [requiredBy, file_of_not_mem_allFiles outside]
  rfl

/-- What a file requires, directly or not, is what the edges lead to from it. -/
theorem mem_allRequired_iff {id other : FileId} :
    other ∈ project.allRequired id ↔ other ≠ id ∧ Reach.Leads project.required id other :=
  (Reach.gathers_closure required_outside id).mem_iff.2 other

/-- All fresh files that were linked are gone through, each once. -/
theorem Fresh.ordered_perm (fresh : project.Fresh ids) (permuted : (order.map Prod.fst).Perm ids)
    (unlisted : project.linked = []) : (project.linkInOrder order).ordered.Perm ids := by
  have dual := fresh.dual permuted unlisted
  have rounds := Reach.findsRoots_roots dual requiredBy_outside required_outside
  have ordered := (rounds.covers dual Reach.covers_nil).ordered_perm dual
    (project.linkInOrder order).allRequired fun root _ => Reach.gathers_closure required_outside root
  apply ordered.trans
  rw [(fresh.linked_linkInOrder permuted unlisted).2]
  exact permuted

end Graph

/-- However files are linked and whatever cycles their imports form, finding roots comes to an end.
The roots reach all files, those that nothing requires are among them, and any other root leads to
cycles only. -/
theorem roots_linkInOrder (project : Project) (ids : List FileId) (fresh : project.Fresh ids)
    (unlisted : project.linked = []) (order : List (FileId × Bool))
    (permuted : (order.map Prod.fst).Perm ids) :
    let after := project.linkInOrder order
    after.linked.Perm ids ∧
    Reach.FindsRoots after.requiredBy after.required after.linked [] [] after.roots ∧
    after.roots.Nodup ∧
    (∀ id, (∃ root ∈ after.roots, id = root ∨ id ∈ after.allRequired root) ↔ id ∈ after.linked) ∧
    (∀ id ∈ after.linked, after.requiredBy id = [] → id ∈ after.roots) ∧
    (∀ root ∈ after.roots, after.requiredBy root ≠ [] →
      ∀ id, Reach.Leads after.requiredBy root id → after.requiredBy id ≠ []) ∧
    ((∀ id, ¬ Relation.TransGen (fun id other => other ∈ after.required id) id id) →
      ∀ id, id ∈ after.roots ↔ id ∈ after.linked ∧ after.requiredBy id = []) ∧
    after.ordered.Perm after.linked := by
  intro after
  have dual : Reach.Dual after.requiredBy after.required after.linked := fresh.dual permuted unlisted
  have rounds : Reach.FindsRoots after.requiredBy after.required after.linked [] [] after.roots :=
    Reach.findsRoots_roots dual requiredBy_outside required_outside
  have covers := rounds.covers dual Reach.covers_nil
  have cyclic : ∀ root ∈ after.roots, after.requiredBy root ≠ [] →
      ∀ id, Reach.Leads after.requiredBy root id → after.requiredBy id ≠ [] :=
    fun root isRoot leadsOn => (covers.final root isRoot).resolve_left leadsOn
  refine ⟨?_, rounds, covers.nodup_roots, ?_, ?_, cyclic, ?_, ?_⟩
  · rw [(fresh.linked_linkInOrder permuted unlisted).2]
    exact permuted
  · intro id
    rw [covers.mem_covered]
    constructor
    · rintro ⟨root, isRoot, rfl | inClosure⟩
      · exact ⟨id, isRoot, .refl⟩
      · exact ⟨root, isRoot, (mem_allRequired_iff.mp inClosure).2⟩
    · rintro ⟨root, isRoot, leads⟩
      refine ⟨root, isRoot, ?_⟩
      by_cases same : id = root
      · exact .inl same
      · exact .inr (mem_allRequired_iff.mpr ⟨same, leads⟩)
  · intro id membership final
    exact covers.mem_of_final dual membership final
  · intro acyclic id
    constructor
    · intro isRoot
      have membership := covers.roots_subset isRoot
      obtain ⟨last, leads, final⟩ := dual.exists_final acyclic membership
      refine ⟨membership, ?_⟩
      apply Decidable.byContradiction
      intro leadsOn
      exact cyclic id isRoot leadsOn last leads final
    · rintro ⟨membership, final⟩
      exact covers.mem_of_final dual membership final
  · exact covers.ordered_perm dual after.allRequired fun root _ =>
      Reach.gathers_closure required_outside root

/-- Two files that import each other and are imported by none other, a third one that imports a
fourth: the cycle has a root of its own. -/
theorem roots_linkInOrder_cycle :
    let first := ({} : Project).addFile "import { b } from './b'" 1 (some "a.js") none none
    let second := first.1.addFile "import { a } from './a.js'" 1 (some "b.js") none none
    let third := second.1.addFile "import { d } from './d'" 1 (some "c.js") none none
    let project := (third.1.addFile "var d" 1 (some "d.js") none none).1
    let ids : List FileId := [⟨0⟩, ⟨1⟩, ⟨2⟩, ⟨3⟩]
    let order : List (FileId × Bool) := [(⟨3⟩, false), (⟨1⟩, true), (⟨0⟩, false), (⟨2⟩, false)]
    project.Fresh ids ∧ project.linked = [] ∧ (order.map Prod.fst).Perm ids ∧
      (project.linkInOrder order).roots = [⟨2⟩, ⟨1⟩] ∧
      (∃ root ∈ (project.linkInOrder order).roots,
        (⟨3⟩ : FileId) = root ∨ ⟨3⟩ ∈ (project.linkInOrder order).allRequired root) ∧
      (project.linkInOrder order).ordered.Perm ids := by
  intro first second third project ids order
  have fresh : project.Fresh ids := ⟨by decide, by decide, by decide, by decide⟩
  have permuted : (order.map Prod.fst).Perm ids := by decide
  obtain ⟨listed, -, -, covered, -, -, -, ordered⟩ :=
    roots_linkInOrder project ids fresh rfl order permuted
  exact ⟨fresh, rfl, permuted, by decide, (covered ⟨3⟩).mpr (listed.mem_iff.mpr (by decide)),
    ordered.trans listed⟩

end Docweave.Project
