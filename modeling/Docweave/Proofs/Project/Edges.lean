import Docweave.Project.Basic

/-!
# Edges between linked files

Linking a file adds the edges between it and the files linked before it, found from the
one side or the other.  Once every file of a set is linked there is an edge from one to
another exactly when an import of the first leads to the path of the second, in whatever
order they came.
-/

namespace Docweave.Project

open Text

/-- The file is one of the project. -/
def HasFile (project : Project) (id : FileId) : Prop := id.index < project.files.size

instance (project : Project) (id : FileId) : Decidable (project.HasFile id) :=
  inferInstanceAs (Decidable (_ < _))

/-- Two projects with the same files at the same paths, which may differ in their edges and their
register. -/
structure SameFiles (before after : Project) : Prop where
  hasFile : ∀ id, after.HasFile id ↔ before.HasFile id
  base_eq : after.base = before.base
  path_eq : ∀ id, (after.file id).path = (before.file id).path
  tables_eq : ∀ id, (after.file id).tables = (before.file id).tables

namespace SameFiles

variable {first second third : Project}

theorem refl (project : Project) : SameFiles project project :=
  ⟨fun _ => Iff.rfl, rfl, fun _ => rfl, fun _ => rfl⟩

theorem trans (early : SameFiles first second) (late : SameFiles second third) :
    SameFiles first third where
  hasFile id := (late.hasFile id).trans (early.hasFile id)
  base_eq := late.base_eq.trans early.base_eq
  path_eq id := (late.path_eq id).trans (early.path_eq id)
  tables_eq id := (late.tables_eq id).trans (early.tables_eq id)

theorem filePath_eq (same : SameFiles first second) (id : FileId) :
    second.filePath id = first.filePath id := by
  rw [filePath, filePath, same.base_eq, same.path_eq]

theorem importPaths_eq (same : SameFiles first second) (id : FileId) (path : Text) :
    second.importPaths id path = first.importPaths id path := by
  rw [importPaths, importPaths, same.tables_eq]

end SameFiles

/-! ## Adding edges -/

section Edges

variable {project : Project} {id other requiring required : FileId}

theorem file_modifyFile {change : SourceFile → SourceFile} (has : project.HasFile id) :
    (project.modifyFile id change).file other =
      if other = id then change (project.file other) else project.file other := by
  rw [HasFile] at has
  split
  · rename_i same
    subst same
    simp [file, modifyFile, Array.getElem?_modify, Array.getElem?_eq_getElem has]
  · rename_i different
    have indexDifferent : id.index ≠ other.index := by
      intro same
      exact different (by cases id; cases other; simp_all)
    simp [file, modifyFile, Array.getElem?_modify, indexDifferent]

theorem hasFile_modifyFile {change : SourceFile → SourceFile} :
    (project.modifyFile id change).HasFile other ↔ project.HasFile other := by
  simp [HasFile, modifyFile]

theorem mem_addOnce (files : List FileId) :
    other ∈ addOnce id files ↔ other ∈ files ∨ other = id := by
  rw [addOnce]
  split <;> grind

theorem nodup_addOnce {files : List FileId} (nodup : files.Nodup) : (addOnce id files).Nodup := by
  rw [addOnce]
  split
  · exact nodup
  · grind

theorem file_addEdge (hasRequiring : project.HasFile requiring)
    (hasRequired : project.HasFile required) :
    (project.addEdge requiring required).file id =
      { project.file id with
        required := if id = requiring then addOnce required (project.required id)
          else project.required id
        requiredBy := if id = required then addOnce requiring (project.requiredBy id)
          else project.requiredBy id } := by
  have hasLast : (project.modifyFile requiring fun file =>
      { file with required := addOnce required file.required }).HasFile required :=
    hasFile_modifyFile.mpr hasRequired
  rw [addEdge, file_modifyFile hasLast, file_modifyFile hasRequiring]
  simp only [Project.required, Project.requiredBy]
  by_cases atStart : id = requiring
  · simp only [if_pos atStart]
    split <;> rfl
  · simp only [if_neg atStart]
    split <;> rfl

/-- The edges, added one after the other. -/
def addEdges (edges : List (FileId × FileId)) (project : Project) : Project :=
  edges.foldl (fun project (requiring, required) => project.addEdge requiring required) project

theorem sameFiles_addEdge (hasRequiring : project.HasFile requiring)
    (hasRequired : project.HasFile required) :
    SameFiles project (project.addEdge requiring required) where
  hasFile _ := hasFile_modifyFile.trans hasFile_modifyFile
  base_eq := rfl
  path_eq _ := by rw [file_addEdge hasRequiring hasRequired]
  tables_eq _ := by rw [file_addEdge hasRequiring hasRequired]

end Edges

/-- After adding edges, exactly these are there in addition, each once at either end. -/
structure AddsEdges (edges : List (FileId × FileId)) (before after : Project) : Prop where
  sameFiles : SameFiles before after
  mem_required : ∀ id other,
    other ∈ after.required id ↔ other ∈ before.required id ∨ (id, other) ∈ edges
  mem_requiredBy : ∀ id other,
    other ∈ after.requiredBy id ↔ other ∈ before.requiredBy id ∨ (other, id) ∈ edges
  nodup_required : ∀ id, (before.required id).Nodup → (after.required id).Nodup
  nodup_requiredBy : ∀ id, (before.requiredBy id).Nodup → (after.requiredBy id).Nodup

theorem addsEdges_addEdge {project : Project} {requiring required : FileId}
    (hasRequiring : project.HasFile requiring) (hasRequired : project.HasFile required) :
    AddsEdges [(requiring, required)] project (project.addEdge requiring required) where
  sameFiles := sameFiles_addEdge hasRequiring hasRequired
  mem_required id other := by
    rw [Project.required, file_addEdge hasRequiring hasRequired]
    grind [mem_addOnce]
  mem_requiredBy id other := by
    rw [Project.requiredBy, file_addEdge hasRequiring hasRequired]
    grind [mem_addOnce]
  nodup_required id nodup := by
    rw [Project.required, file_addEdge hasRequiring hasRequired]
    grind [nodup_addOnce]
  nodup_requiredBy id nodup := by
    rw [Project.requiredBy, file_addEdge hasRequiring hasRequired]
    grind [nodup_addOnce]

theorem addsEdges_addEdges {project : Project} {edges : List (FileId × FileId)}
    (known : ∀ edge ∈ edges, project.HasFile edge.1 ∧ project.HasFile edge.2) :
    AddsEdges edges project (project.addEdges edges) := by
  induction edges generalizing project with
  | nil => exact ⟨.refl project, by simp [addEdges], by simp [addEdges], fun _ h => h, fun _ h => h⟩
  | cons edge edges ih =>
      obtain ⟨requiring, required⟩ := edge
      obtain ⟨hasRequiring, hasRequired⟩ := known _ List.mem_cons_self
      have head := addsEdges_addEdge hasRequiring hasRequired
      have knownTail : ∀ edge ∈ edges, (project.addEdge requiring required).HasFile edge.1 ∧
          (project.addEdge requiring required).HasFile edge.2 := by
        intro edge membership
        rw [head.sameFiles.hasFile, head.sameFiles.hasFile]
        exact known edge (List.mem_cons_of_mem _ membership)
      have tail := ih knownTail
      constructor
      · exact head.sameFiles.trans tail.sameFiles
      · intro id other
        exact (tail.mem_required id other).trans (by
          rw [head.mem_required]
          simp [or_assoc])
      · intro id other
        exact (tail.mem_requiredBy id other).trans (by
          rw [head.mem_requiredBy]
          simp [or_assoc])
      · intro id nodup
        exact tail.nodup_required id (head.nodup_required id nodup)
      · intro id nodup
        exact tail.nodup_requiredBy id (head.nodup_requiredBy id nodup)

/-! ## Linking one file -/

/-- The edges that linking a file adds. -/
def newEdges (project : Project) (id : FileId) : List (FileId × FileId) :=
  let path := project.filePath id
  let requiring := project.paths.filter fun (otherPath, other) =>
    (project.importPaths other otherPath).contains path
  let required := (project.importPaths id path).filterMap fun candidate =>
    (project.registered? candidate).filter (· ≠ id)
  requiring.map (fun (_, other) => (other, id)) ++ required.map fun other => (id, other)

theorem link_eq (project : Project) (id : FileId) (isMain : Bool) :
    project.link id isMain =
      let linked := (project.addEdges (project.newEdges id)).register id (project.filePath id)
      if isMain then { linked with main := some id } else linked := by
  rw [link, addEdges, newEdges, List.foldl_append, List.foldl_map, List.foldl_map]

theorem putEntry_of_fresh {entries : List (Text × FileId)} {path : Text} {id : FileId}
    (fresh : ∀ entry ∈ entries, entry.1 ≠ path) :
    Value.putEntry (· == ·) path id entries = entries ++ [(path, id)] := by
  induction entries with
  | nil => rfl
  | cons entry entries ih =>
      have different := fresh entry List.mem_cons_self
      simp only [Value.putEntry, beq_iff_eq, different, if_false]
      rw [ih fun other inTail => fresh other (List.mem_cons_of_mem _ inTail)]
      rfl

theorem paths_addEdges (project : Project) (edges : List (FileId × FileId)) :
    (project.addEdges edges).paths = project.paths := by
  induction edges generalizing project with
  | nil => rfl
  | cons edge edges ih => exact ih (project.addEdge edge.1 edge.2)

section Register

variable (project : Project) (id : FileId) (path : Text)

theorem files_register : (project.register id path).files = project.files := by
  rw [register]
  split <;> rfl

theorem base_register : (project.register id path).base = project.base := by
  rw [register]
  split <;> rfl

theorem paths_register :
    (project.register id path).paths = Value.putEntry (· == ·) path id project.paths := by
  rw [register]
  split <;> rfl

end Register

theorem paths_link_eq (project : Project) (id : FileId) (isMain : Bool) :
    (project.link id isMain).paths =
      Value.putEntry (· == ·) (project.filePath id) id project.paths := by
  have registered := paths_register (project.addEdges (project.newEdges id)) id
    (project.filePath id)
  rw [paths_addEdges] at registered
  rw [link_eq]
  cases isMain <;> exact registered

theorem paths_link {project : Project} {id : FileId} (isMain : Bool)
    (free : ∀ entry ∈ project.paths, entry.1 ≠ project.filePath id) :
    (project.link id isMain).paths = project.paths ++ [(project.filePath id, id)] := by
  rw [paths_link_eq, putEntry_of_fresh free]

/-- Registering changes no file. -/
theorem files_link (project : Project) (id : FileId) (isMain : Bool) :
    (project.link id isMain).files = (project.addEdges (project.newEdges id)).files ∧
      (project.link id isMain).base = (project.addEdges (project.newEdges id)).base := by
  rw [link_eq]
  cases isMain <;> exact ⟨files_register _ _ _, base_register _ _ _⟩

theorem addsEdges_link {project : Project} {id : FileId} (isMain : Bool)
    (known : ∀ edge ∈ project.newEdges id, project.HasFile edge.1 ∧ project.HasFile edge.2) :
    AddsEdges (project.newEdges id) project (project.link id isMain) := by
  have added := addsEdges_addEdges known
  obtain ⟨files_eq, base_eq⟩ := files_link project id isMain
  have file_eq : ∀ other, (project.link id isMain).file other =
      (project.addEdges (project.newEdges id)).file other := by
    intro other
    rw [file, files_eq, file]
  constructor
  · constructor
    · intro other
      rw [HasFile, files_eq]
      exact added.sameFiles.hasFile other
    · exact base_eq.trans added.sameFiles.base_eq
    · intro other
      rw [file_eq, added.sameFiles.path_eq]
    · intro other
      rw [file_eq, added.sameFiles.tables_eq]
  · intro other third
    rw [required, file_eq]
    exact added.mem_required other third
  · intro other third
    rw [requiredBy, file_eq]
    exact added.mem_requiredBy other third
  · intro other nodup
    rw [required, file_eq]
    exact added.nodup_required other nodup
  · intro other nodup
    rw [requiredBy, file_eq]
    exact added.nodup_requiredBy other nodup

/-! ## Linking one file after the other -/

/-- An import of one file leads to another. -/
def Requires (project : Project) (id other : FileId) : Prop :=
  id ≠ other ∧ project.filePath other ∈ project.importPaths id (project.filePath id)

instance (project : Project) (id other : FileId) : Decidable (project.Requires id other) :=
  inferInstanceAs (Decidable (_ ∧ _))

/-- The files of `done` are linked: they are registered under paths of their own, and all
edges between them are there. -/
structure Linked (project : Project) (done : List FileId) (after : Project) : Prop where
  sameFiles : SameFiles project after
  known : ∀ id ∈ done, project.HasFile id
  apart : ∀ id ∈ done, ∀ other ∈ done, project.filePath id = project.filePath other → id = other
  paths_eq : after.paths = done.map fun id => (project.filePath id, id)
  mem_required : ∀ id other, other ∈ after.required id ↔
    other ∈ project.required id ∨ id ∈ done ∧ other ∈ done ∧ project.Requires id other
  mem_requiredBy : ∀ id other, other ∈ after.requiredBy id ↔
    other ∈ project.requiredBy id ∨ other ∈ done ∧ id ∈ done ∧ project.Requires other id
  nodup_required : ∀ id, (project.required id).Nodup → (after.required id).Nodup
  nodup_requiredBy : ∀ id, (project.requiredBy id).Nodup → (after.requiredBy id).Nodup

namespace Linked

variable {project after : Project} {done : List FileId} {id other : FileId} {path : Text}

theorem registered?_iff (linked : Linked project done after) :
    after.registered? path = some other ↔ other ∈ done ∧ project.filePath other = path := by
  have found : after.registered? path = done.find? fun id => project.filePath id == path := by
    rw [registered?, linked.paths_eq, List.find?_map, Option.map_map]
    exact Option.map_id_apply
  rw [found]
  constructor
  · intro first
    exact ⟨List.mem_of_find?_eq_some first, by simpa using List.find?_some first⟩
  · rintro ⟨membership, leads⟩
    cases first : done.find? fun id => project.filePath id == path with
    | none =>
        have noneLeads := List.find?_eq_none.mp first other membership
        simp [leads] at noneLeads
    | some id =>
        have idLeads : project.filePath id = path := by simpa using List.find?_some first
        have same := linked.apart id (List.mem_of_find?_eq_some first) other membership
          (idLeads.trans leads.symm)
        rw [same]

/-- The edges that are added are those between the new file and the linked ones. -/
theorem mem_newEdges (linked : Linked project done after) (new : id ∉ done)
    (edge : FileId × FileId) :
    edge ∈ after.newEdges id ↔
      (edge.1 ∈ done ∧ edge.2 = id ∨ edge.1 = id ∧ edge.2 ∈ done) ∧
        project.Requires edge.1 edge.2 := by
  obtain ⟨requiring, required⟩ := edge
  have different : ∀ other ∈ done, other ≠ id := by
    rintro other membership rfl
    exact new membership
  rw [newEdges, linked.sameFiles.filePath_eq, linked.sameFiles.importPaths_eq, linked.paths_eq]
  simp only [linked.sameFiles.importPaths_eq, List.mem_append, List.mem_map, List.mem_filter,
    List.mem_filterMap, List.contains_iff_mem, Option.filter_eq_some_iff, linked.registered?_iff,
    Requires]
  constructor
  · rintro (⟨entry, ⟨⟨other, membership, rfl⟩, leads⟩, equal⟩ |
      ⟨other, ⟨path, leads, found⟩, equal⟩)
    · obtain ⟨rfl, rfl⟩ := Prod.mk.inj equal
      exact ⟨.inl ⟨membership, rfl⟩, different other membership, leads⟩
    · obtain ⟨rfl, rfl⟩ := Prod.mk.inj equal
      obtain ⟨⟨membership, rfl⟩, -⟩ := found
      exact ⟨.inr ⟨rfl, membership⟩, (different other membership).symm, leads⟩
  · rintro ⟨⟨membership, rfl⟩ | ⟨rfl, membership⟩, -, leads⟩
    · exact .inl ⟨_, ⟨⟨requiring, membership, rfl⟩, leads⟩, rfl⟩
    · refine .inr ⟨required, ⟨_, leads, ⟨membership, rfl⟩, ?_⟩, rfl⟩
      simpa using different required membership

/-- With one file more, the edges between the linked files are those there were and the new ones. -/
theorem edge_append_iff (requiring required : FileId) :
    (requiring ∈ done ++ [id] ∧ required ∈ done ++ [id] ∧ project.Requires requiring required) ↔
      (requiring ∈ done ∧ required ∈ done ∧ project.Requires requiring required) ∨
      (requiring ∈ done ∧ required = id ∨ requiring = id ∧ required ∈ done) ∧
        project.Requires requiring required := by
  have different : project.Requires requiring required → requiring ≠ required := And.left
  simp only [List.mem_append, List.mem_singleton]
  grind

theorem link (linked : Linked project done after) (known : project.HasFile id)
    (free : ∀ other ∈ done, project.filePath other ≠ project.filePath id) (isMain : Bool) :
    Linked project (done ++ [id]) (after.link id isMain) := by
  have new : id ∉ done := fun membership => free id membership rfl
  have edgesKnown : ∀ edge ∈ after.newEdges id, after.HasFile edge.1 ∧ after.HasFile edge.2 := by
    intro edge membership
    rw [linked.sameFiles.hasFile, linked.sameFiles.hasFile]
    obtain ⟨⟨inDone, atId⟩ | ⟨atId, inDone⟩, -⟩ := (linked.mem_newEdges new edge).mp membership
    · exact ⟨linked.known _ inDone, atId ▸ known⟩
    · exact ⟨atId ▸ known, linked.known _ inDone⟩
  have pathsFree : ∀ entry ∈ after.paths, entry.1 ≠ after.filePath id := by
    intro entry membership
    rw [linked.paths_eq, List.mem_map] at membership
    obtain ⟨other, inDone, rfl⟩ := membership
    rw [linked.sameFiles.filePath_eq]
    exact free other inDone
  have added := addsEdges_link isMain edgesKnown
  constructor
  · exact linked.sameFiles.trans added.sameFiles
  · intro other membership
    rw [List.mem_append, List.mem_singleton] at membership
    rcases membership with inDone | rfl
    · exact linked.known other inDone
    · exact known
  · intro first firstIn second secondIn same
    rw [List.mem_append, List.mem_singleton] at firstIn secondIn
    rcases firstIn with firstDone | rfl <;> rcases secondIn with secondDone | rfl
    · exact linked.apart first firstDone second secondDone same
    · exact absurd same (free first firstDone)
    · exact absurd same.symm (free second secondDone)
    · rfl
  · rw [paths_link isMain pathsFree, linked.paths_eq, linked.sameFiles.filePath_eq, List.map_append]
    rfl
  · intro requiring required
    rw [added.mem_required, linked.mem_required, linked.mem_newEdges new, edge_append_iff, or_assoc]
  · intro required requiring
    rw [added.mem_requiredBy, linked.mem_requiredBy, linked.mem_newEdges new, edge_append_iff,
      or_assoc]
  · intro other nodup
    exact added.nodup_required other (linked.nodup_required other nodup)
  · intro other nodup
    exact added.nodup_requiredBy other (linked.nodup_requiredBy other nodup)

end Linked

theorem linked_nil {project : Project} (unregistered : project.paths = []) :
    Linked project [] project where
  sameFiles := .refl project
  known := by simp
  apart := by simp
  paths_eq := unregistered
  mem_required := by simp
  mem_requiredBy := by simp
  nodup_required _ nodup := nodup
  nodup_requiredBy _ nodup := nodup

/-- Link files in the given order, each as the main file or not. -/
def linkInOrder (order : List (FileId × Bool)) (project : Project) : Project :=
  order.foldl (fun project (id, isMain) => project.link id isMain) project

theorem linked_linkInOrder {project after : Project} {done : List FileId}
    {order : List (FileId × Bool)} (linked : Linked project done after)
    (known : ∀ entry ∈ order, project.HasFile entry.1)
    (free : ∀ entry ∈ order, ∀ other ∈ done, project.filePath other ≠ project.filePath entry.1)
    (apart : order.Pairwise fun first second =>
      project.filePath first.1 ≠ project.filePath second.1) :
    Linked project (done ++ order.map Prod.fst) (after.linkInOrder order) := by
  induction order generalizing done after with
  | nil => simpa [linkInOrder] using linked
  | cons entry order ih =>
      obtain ⟨id, isMain⟩ := entry
      have step := linked.link (known _ List.mem_cons_self) (free _ List.mem_cons_self) isMain
      obtain ⟨apartHead, apartTail⟩ := List.pairwise_cons.mp apart
      have rest := ih step (fun entry inTail => known entry (List.mem_cons_of_mem _ inTail)) (by
        intro entry inTail other membership
        rw [List.mem_append, List.mem_singleton] at membership
        rcases membership with inDone | rfl
        · exact free entry (List.mem_cons_of_mem _ inTail) other inDone
        · exact apartHead entry inTail) apartTail
      rw [List.map_cons, ← List.singleton_append, ← List.append_assoc]
      exact rest

/-- Files that have not been linked, in a project without a register, under paths of their own. -/
structure Fresh (project : Project) (ids : List FileId) : Prop where
  unregistered : project.paths = []
  known : ∀ id ∈ ids, project.HasFile id
  apart : ids.Pairwise fun first second => project.filePath first ≠ project.filePath second
  unlinked : ∀ id ∈ ids, project.required id = [] ∧ project.requiredBy id = []

/-- In whatever order fresh files are linked, the edges between them are those that their
imports ask for, each noted once at either end. -/
theorem edges_linkInOrder (project : Project) (ids : List FileId) (fresh : project.Fresh ids)
    (order : List (FileId × Bool)) (permuted : (order.map Prod.fst).Perm ids) :
    let after := project.linkInOrder order
    (∀ id ∈ ids, ∀ other ∈ ids,
      (other ∈ after.required id ↔ id ∈ after.requiredBy other) ∧
      (other ∈ after.required id ↔
        id ≠ other ∧ project.filePath other ∈ project.importPaths id (project.filePath id))) ∧
    ∀ id ∈ ids, after.required id ⊆ ids ∧ after.requiredBy id ⊆ ids ∧
      (after.required id).Nodup ∧ (after.requiredBy id).Nodup ∧
      id ∉ after.required id ∧ id ∉ after.requiredBy id := by
  intro after
  have known : ∀ entry ∈ order, project.HasFile entry.1 := by
    intro entry membership
    exact fresh.known entry.1 (permuted.mem_iff.mp (List.mem_map_of_mem membership))
  have apart : (order.map Prod.fst).Pairwise fun first second =>
      project.filePath first ≠ project.filePath second :=
    (permuted.pairwise_iff fun different => Ne.symm different).mpr fresh.apart
  rw [List.pairwise_map] at apart
  have linked := linked_linkInOrder (linked_nil fresh.unregistered) known (by simp) apart
  rw [List.nil_append] at linked
  have required : ∀ id ∈ ids, ∀ other,
      other ∈ after.required id ↔ other ∈ ids ∧ project.Requires id other := by
    intro id membership other
    rw [linked.mem_required, (fresh.unlinked id membership).1, permuted.mem_iff, permuted.mem_iff]
    simp [membership]
  have requiredBy : ∀ id ∈ ids, ∀ other,
      other ∈ after.requiredBy id ↔ other ∈ ids ∧ project.Requires other id := by
    intro id membership other
    rw [linked.mem_requiredBy, (fresh.unlinked id membership).2, permuted.mem_iff, permuted.mem_iff]
    simp [membership]
  constructor
  · intro id membership other otherIn
    rw [required id membership, requiredBy other otherIn]
    simp [membership, otherIn, Requires]
  · intro id membership
    refine ⟨fun other inRequired => ((required id membership other).mp inRequired).1,
      fun other inRequired => ((requiredBy id membership other).mp inRequired).1, ?_, ?_, ?_, ?_⟩
    · apply linked.nodup_required
      rw [(fresh.unlinked id membership).1]
      exact List.nodup_nil
    · apply linked.nodup_requiredBy
      rw [(fresh.unlinked id membership).2]
      exact List.nodup_nil
    · intro inRequired
      exact ((required id membership id).mp inRequired).2.1 rfl
    · intro inRequired
      exact ((requiredBy id membership id).mp inRequired).2.1 rfl

/-- Two files that import each other and a third one, linked from the last to the first. -/
theorem edges_linkInOrder_cycle :
    let first := ({} : Project).addFile "import { b } from './b'" 1 (some "a.js") none none
    let second := first.1.addFile "import { a } from './a.js'" 1 (some "b.js") none none
    let project := (second.1.addFile "var c" 1 (some "c.js") none none).1
    let order : List (FileId × Bool) := [(⟨2⟩, false), (⟨1⟩, true), (⟨0⟩, false)]
    project.Fresh [⟨0⟩, ⟨1⟩, ⟨2⟩] ∧ (order.map Prod.fst).Perm [⟨0⟩, ⟨1⟩, ⟨2⟩] ∧
      ⟨1⟩ ∈ (project.linkInOrder order).required ⟨0⟩ ∧
      ⟨0⟩ ∈ (project.linkInOrder order).required ⟨1⟩ ∧
      ⟨2⟩ ∉ (project.linkInOrder order).required ⟨0⟩ := by
  intro first second project order
  have fresh : project.Fresh [⟨0⟩, ⟨1⟩, ⟨2⟩] := ⟨by decide, by decide, by decide, by decide⟩
  have permuted : (order.map Prod.fst).Perm [⟨0⟩, ⟨1⟩, ⟨2⟩] := by decide
  obtain ⟨edges, -⟩ := edges_linkInOrder project _ fresh order permuted
  refine ⟨fresh, permuted, ?_, ?_, ?_⟩
  · exact (edges ⟨0⟩ (by decide) ⟨1⟩ (by decide)).2.mpr (by decide)
  · exact (edges ⟨1⟩ (by decide) ⟨0⟩ (by decide)).2.mpr (by decide)
  · exact fun third => absurd ((edges ⟨0⟩ (by decide) ⟨2⟩ (by decide)).2.mp third) (by decide)

end Docweave.Project
