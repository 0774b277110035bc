import Docweave.Proofs.Directive.Run

/-!
# Projects that are built

A project starts without files.  Files are added, read anew and linked, bodies are opened, blocks
are cut off, names are noted and directives are applied, in any order.  All projects that are
built this way are sound.
-/

namespace Docweave

open Text

namespace Forest

variable {forest : Forest} {content other : ContentId}

/-- Reading a text takes no content away. -/
theorem hasContent_load (has : forest.HasContent other) (text : Text) (row : Int) :
    (forest.load content text row).HasContent other := by
  rw [load_eq]
  exact (growsIn_plantTrees _ _ _).hasContent other (hasContent_emptied.mpr has)

/-- Reading a text makes a body of no content that was there. -/
theorem Sound.unowned_load (sound : forest.Sound) (has : forest.HasContent content)
    (unowned : forest.Unowned content) (text : Text) (row : Int)
    (hasOther : forest.HasContent other) (unownedOther : forest.Unowned other) :
    (forest.load content text row).Unowned other := by
  have emptied := sound.emptied has unowned text row
  have planted := Planted.parse text row emptied.placed (hasContent_emptied.mpr has)
  intro id nested
  rw [load_eq] at nested
  by_cases early : (forest.emptied content text row).HasBlock id
  · rw [planted.grows.entry_eq id early, view_emptied Entry.nested fun _ => rfl] at nested
    exact unownedOther id nested
  · have hasId := hasBlock_of_eq_some Entry.nested rfl nested
    exact planted.fresh id other hasId early nested (hasContent_emptied.mpr hasOther)

end Forest

namespace Project

/-- The projects that come about. -/
inductive Built : Project → Prop
  | empty (base : Text) : Built { base }
  | addFile {project} (built : Built project) (text : Text) (row : Int)
      (path name description : Option Text) : Built (project.addFile text row path name description).1
  | load {project id} (built : Built project) (has : project.HasFile id) (text : Text) (row : Int) :
      Built (project.load id text row)
  | link {project} (built : Built project) (id : FileId) (isMain : Bool) :
      Built (project.link id isMain)
  | note {before after} (built : Built before) (notes : Notes before after) : Built after
  | openBody {project} (built : Built project) (id : BlockId) :
      Built (project.modifyForest (Forest.openBody id))
  | truncate {project content} (built : Built project) (has : project.forest.HasContent content)
      (length : Int) : Built (project.modifyForest (Forest.truncate content length))
  | rebuildTables {project} (built : Built project) (id : FileId) : Built (project.rebuildTables id)
  | runFile {project id} (built : Built project) (has : project.HasFile id) (report : Report) :
      Built (Pass.runFile Handler.builtIn id { project, report }).project

variable {project : Project} {id : FileId}

theorem Sound.load (sound : project.Sound) (has : project.HasFile id) (text : Text) (row : Int) :
    (project.load id text row).Sound := by
  have hasContent := sound.hasContent id has
  have unowned := sound.unowned id has
  have content_eq : ∀ other, ((project.load id text row).file other).content =
      (project.file other).content := fun _ => view_modifyFile SourceFile.content fun _ => rfl
  refine ⟨sound.forest.load hasContent unowned text row, ?_, ?_⟩
  · intro other hasOther
    rw [content_eq]
    exact Forest.hasContent_load (sound.hasContent other (hasFile_modifyFile.mp hasOther)) text row
  · intro other hasOther
    have hasFirst := hasFile_modifyFile.mp hasOther
    rw [content_eq]
    exact sound.forest.unowned_load hasContent unowned text row (sound.hasContent other hasFirst)
      (sound.unowned other hasFirst)

/-- A project with one more file, which has a content without a text. -/
def withFile (path name description : Option Text) (project : Project) : Project :=
  { project with
    forest := (project.forest.newContent {}).1
    files := project.files.push { path, name, description, content := project.forest.nextContent } }

theorem addFile_eq (text : Text) (row : Int) (path name description : Option Text) :
    project.addFile text row path name description =
      ((project.withFile path name description).load ⟨project.files.size⟩ text row,
        ⟨project.files.size⟩) := rfl

section WithFile

variable {path name description : Option Text}

theorem hasFile_withFile :
    (project.withFile path name description).HasFile id ↔
      project.HasFile id ∨ id = ⟨project.files.size⟩ := by
  cases id
  simp only [withFile, HasFile, Array.size_push, FileId.mk.injEq]
  omega

theorem file_withFile_of_has (has : project.HasFile id) :
    (project.withFile path name description).file id = project.file id := by
  rw [HasFile] at has
  simp [withFile, file, Array.getElem?_push, Nat.ne_of_lt has]

theorem file_withFile_self :
    ((project.withFile path name description).file ⟨project.files.size⟩).content =
      project.forest.nextContent := by
  simp [withFile, file]

theorem Sound.withFile (sound : project.Sound) :
    (project.withFile path name description).Sound := by
  refine ⟨sound.forest.newContent {} rfl, ?_, ?_⟩
  · intro id has
    rcases hasFile_withFile.mp has with early | rfl
    · rw [file_withFile_of_has early]
      exact Forest.hasContent_newContent.mpr (.inl (sound.hasContent id early))
    · rw [file_withFile_self]
      exact Forest.hasContent_newContent.mpr (.inr rfl)
  · intro id has
    rcases hasFile_withFile.mp has with early | rfl
    · rw [file_withFile_of_has early]
      exact sound.unowned id early
    · rw [file_withFile_self]
      exact sound.forest.unowned_nextContent

theorem Sound.addFile (sound : project.Sound) (text : Text) (row : Int) :
    (project.addFile text row path name description).1.Sound := by
  rw [addFile_eq]
  exact sound.withFile.load (hasFile_withFile.mpr (.inr rfl)) text row

theorem hasFile_addFile (text : Text) (row : Int) :
    (project.addFile text row path name description).1.HasFile
      (project.addFile text row path name description).2 :=
  hasFile_modifyFile.mpr (hasFile_withFile.mpr (.inr rfl))

end WithFile

theorem Notes.addEdge (project : Project) (requiring required : FileId) :
    Notes project (project.addEdge requiring required) := by
  have requires : Notes project (project.modifyFile requiring fun file =>
      { file with required := addOnce required file.required }) :=
    .modifyFile (fun _ => rfl) fun _ => rfl
  exact requires.trans (.modifyFile (fun _ => rfl) fun _ => rfl)

theorem Notes.addEdges (edges : List (FileId × FileId)) (project : Project) :
    Notes project (project.addEdges edges) := by
  induction edges generalizing project with
  | nil => exact .refl project
  | cons edge edges ih => exact (Notes.addEdge project edge.1 edge.2).trans (ih _)

theorem Notes.register (project : Project) (id : FileId) (path : Text) :
    Notes project (project.register id path) := by
  rw [Project.register]
  split <;> exact ⟨.refl _, fun _ => Iff.rfl, fun _ => rfl, fun _ => rfl⟩

/-- Linking a file changes neither its blocks nor its tables. -/
theorem Notes.link (project : Project) (id : FileId) (isMain : Bool) :
    Notes project (project.link id isMain) := by
  have linked := (Notes.addEdges (project.newEdges id) project).trans
    (Notes.register _ id (project.filePath id))
  rw [link_eq]
  dsimp only
  split
  · exact linked.trans ⟨.refl _, fun _ => Iff.rfl, fun _ => rfl, fun _ => rfl⟩
  · exact linked

theorem Built.sound (built : Built project) : project.Sound := by
  induction built with
  | empty base =>
      exact ⟨.empty, fun _ has => absurd has (Nat.not_lt_zero _),
        fun _ has => absurd has (Nat.not_lt_zero _)⟩
  | addFile built text row path name description ih => exact ih.addFile text row
  | load built has text row ih => exact ih.load has text row
  | @link project built id isMain ih =>
      have notes := Notes.link project id isMain
      exact (Keeps.notes notes).sound ih (ih.forest.notes notes.forest)
  | note built notes ih => exact (Keeps.notes notes).sound ih (ih.forest.notes notes.forest)
  | openBody built id ih =>
      exact (Keeps.modifyForest (.openBody ih.forest.placed id)).sound ih (ih.forest.openBody id)
  | truncate built has length ih =>
      exact (Keeps.modifyForest (.truncate has length)).sound ih (ih.forest.truncate has length)
  | rebuildTables built id ih => exact (Keeps.rebuildTables id).sound ih ih.forest
  | @runFile project id built has report ih =>
      have start : ({ project, report } : Pass).project.Sound := ih
      obtain ⟨handings, runs⟩ := Pass.exists_runs Handler.allNoting_builtIn start has Bool.false_ne_true
      exact (runs.moves Handler.allNoting_builtIn ih has).sound ih

end Project

end Docweave
