import Docweave.Directive.Pass
import Docweave.Proofs.Forest.Sound
import Docweave.Proofs.Project.Edges

/-!
# What handlers note

A handler names blocks, gives them aliases and fields, names the file or remarks on it, and
reports what it cannot do.  It neither reads a text nor opens a body nor cuts a block off, and it
comes to an end unless a pattern in its arguments has a number that is too large.
-/

namespace Docweave

open Text

namespace Project

/-- Between two projects nothing has changed but what is noted about blocks and files. -/
structure Notes (before after : Project) : Prop where
  forest : Forest.Notes before.forest after.forest
  hasFile : ∀ id, after.HasFile id ↔ before.HasFile id
  content_eq : ∀ id, (after.file id).content = (before.file id).content
  tables_eq : ∀ id, (after.file id).tables = (before.file id).tables

/-- What a change does not touch in a file, it does not touch in the project. -/
theorem view_modifyFile {α : Type} {project : Project} {id other : FileId}
    {change : SourceFile → SourceFile} (view : SourceFile → α)
    (kept : ∀ file, view (change file) = view file) :
    view ((project.modifyFile id change).file other) = view (project.file other) := by
  by_cases has : project.HasFile id
  · rw [file_modifyFile has]
    split
    · exact kept _
    · rfl
  · have outside : (project.modifyFile id change).file other = project.file other := by
      rw [HasFile, Nat.not_lt] at has
      simp only [file, modifyFile, Array.getElem?_modify]
      split
      · rename_i same
        rw [← same, Array.getElem?_eq_none has]
        rfl
      · rfl
    rw [outside]

namespace Notes

variable {first second third project : Project}

theorem refl (project : Project) : Notes project project :=
  ⟨.refl project.forest, fun _ => Iff.rfl, fun _ => rfl, fun _ => rfl⟩

theorem trans (early : Notes first second) (late : Notes second third) : Notes first third where
  forest := early.forest.trans late.forest
  hasFile id := (late.hasFile id).trans (early.hasFile id)
  content_eq id := (late.content_eq id).trans (early.content_eq id)
  tables_eq id := (late.tables_eq id).trans (early.tables_eq id)

theorem modifyForest {change : Forest → Forest}
    (notes : Forest.Notes project.forest (change project.forest)) :
    Notes project (project.modifyForest change) :=
  ⟨notes, fun _ => Iff.rfl, fun _ => rfl, fun _ => rfl⟩

theorem modifyFile {id : FileId} {change : SourceFile → SourceFile}
    (content : ∀ file, (change file).content = file.content)
    (tables : ∀ file, (change file).tables = file.tables) :
    Notes project (project.modifyFile id change) where
  forest := .refl project.forest
  hasFile _ := hasFile_modifyFile
  content_eq _ := view_modifyFile SourceFile.content content
  tables_eq _ := view_modifyFile SourceFile.tables tables

end Notes

end Project

/-- The first placeholder of the arguments that cannot be read has a pattern with a number that is
too large. -/
def Placeholder.TooLarge (args : List Text) : Prop :=
  ∃ error, Placeholder.readAll args = .error error ∧ error.isTooLarge

namespace Pass

theorem notes_problem (context : DirectiveContext) (problem : Problem) (pass : Pass) :
    Project.Notes pass.project (pass.problem context problem).project :=
  ⟨.refl _, fun _ => Iff.rfl, fun _ => rfl, fun _ => rfl⟩

/-- What a handler does to a pass: it adds notes, and it halts the pass only on a number that is
too large. -/
structure Noted (args : List Text) (before after : Pass) : Prop where
  notes : Project.Notes before.project after.project
  halted : after.halted → before.halted ∨ Placeholder.TooLarge args

namespace Noted

variable {args : List Text} {first second third pass : Pass} {context : DirectiveContext}

theorem refl (pass : Pass) : Noted args pass pass := ⟨.refl pass.project, .inl⟩

theorem trans (early : Noted args first second) (late : Noted args second third) :
    Noted args first third where
  notes := early.notes.trans late.notes
  halted isHalted := (late.halted isHalted).elim early.halted .inr

theorem problem (problem : Problem) : Noted args pass (pass.problem context problem) :=
  ⟨notes_problem .., .inl⟩

theorem modifyForest {change : Forest → Forest}
    (notes : ∀ forest, Forest.Notes forest (change forest)) :
    Noted args pass (pass.modifyForest change) :=
  ⟨.modifyForest (notes _), .inl⟩

theorem modifyFile {change : SourceFile → SourceFile}
    (content : ∀ file, (change file).content = file.content)
    (tables : ∀ file, (change file).tables = file.tables) :
    Noted args pass (pass.modifyFile context change) :=
  ⟨.modifyFile content tables, .inl⟩

theorem withBlock {path : Text} {next : BlockId → Pass → Pass}
    (noted : ∀ id, Noted args pass (next id pass)) :
    Noted args pass (pass.withBlock context path next) := by
  rw [Pass.withBlock]
  split
  · exact noted _
  · exact problem _

/-- Only a placeholder that cannot be read is an error. -/
theorem readAll_of_expand {forest : Forest} {target : Option BlockId} {includeTarget : Bool}
    {error : PlaceholderError}
    (failed : Placeholder.expand forest args target includeTarget = .error error) :
    Placeholder.readAll args = .error error := by
  rw [Placeholder.expand] at failed
  cases read : Placeholder.readAll args with
  | error cause =>
      rw [read] at failed
      cases failed
      rfl
  | ok placeholders =>
      rw [read] at failed
      simp only [bind, Except.bind] at failed
      split at failed
      · cases failed
      · split at failed <;> cases failed

theorem foldl {α : Type} {act : α → Pass → Pass} (noted : ∀ item pass, Noted args pass (act item pass))
    (items : List α) : Noted args pass (items.foldl (fun pass item => act item pass) pass) := by
  induction items generalizing pass with
  | nil => exact refl pass
  | cons item items ih => exact (noted item pass).trans ih

theorem forExpanded {next : List Text → Pass → Pass}
    (noted : ∀ list pass, Noted args pass (next list pass)) :
    Noted args pass (pass.forExpanded context args next) := by
  rw [Pass.forExpanded]
  split
  · rename_i error failed
    split
    · rename_i tooLarge
      exact ⟨.refl pass.project, fun _ => .inr ⟨error, readAll_of_expand failed, tooLarge⟩⟩
    · exact problem _
  · split
    · exact problem _
    · exact refl pass
  · exact foldl noted _

end Noted

end Pass

namespace Handler

open Pass

/-- The handler only notes. -/
def Noting (handler : Handler) : Prop :=
  ∀ context args pass, Noted args pass (handler context args pass)

theorem noting_aliasing : Noting aliasing := by
  intro context args pass
  unfold aliasing
  split
  · split
    · exact .modifyForest fun _ => .addAlias _
    · exact .problem _
  · apply Noted.forExpanded
    intro list pass
    split
    · exact .withBlock fun _ => .modifyForest fun _ => .addAlias _
    · exact .refl pass
  · exact .problem _

theorem noted_assignPath (context : DirectiveContext) (args : List Text) (target value : Text)
    (pass : Pass) : Noted args pass (assignPath context target value pass) := by
  rw [assignPath]
  split
  · exact .problem _
  · apply Noted.withBlock
    intro owner
    apply Noted.withBlock
    intro id
    exact .modifyForest fun _ => .assignField _ _

theorem noting_assigning : Noting assigning := by
  intro context args pass
  unfold assigning
  split
  · apply Noted.forExpanded
    intro list pass
    split
    · exact noted_assignPath ..
    · exact .refl pass
  · exact .problem _

theorem noting_exporting : Noting exporting := by
  intro context args pass
  unfold exporting
  split
  · split
    · exact .modifyForest fun _ => .exportAs _
    · exact .modifyFile (fun _ => rfl) fun _ => rfl
  · apply Noted.forExpanded
    intro list pass
    split
    · exact .withBlock fun _ => .modifyForest fun _ => .exportAs _
    · exact .refl pass
  · exact .problem _

theorem noted_remark (context : DirectiveContext) (args : List Text) (key value : Text)
    (pass : Pass) : Noted args pass (remark context key value pass) :=
  .modifyFile (fun _ => rfl) fun _ => rfl

theorem noting_designPattern : Noting designPattern := by
  intro context args pass
  unfold designPattern
  split
  · exact .problem _
  · rename_i name rest
    have named := noted_remark context (name :: rest) "pattern" name pass
    split
    · split
      · exact named.trans (.problem _)
      · exact named.trans (noted_remark ..)
    · exact named.trans (.problem _)

theorem noting_steering : Noting steering := fun _ _ pass => .refl pass

/-- All verbs only note something. -/
def AllNoting (handlers : List (Text × Handler)) : Prop := ∀ entry ∈ handlers, Noting entry.2

theorem allNoting_builtIn : AllNoting builtIn := by
  intro entry isBuiltIn
  simp only [builtIn, List.mem_cons, List.not_mem_nil, or_false] at isBuiltIn
  rcases isBuiltIn with rfl | rfl | rfl | rfl | rfl | rfl
  · exact noting_aliasing
  · exact noting_assigning
  · exact noting_exporting
  · exact noting_steering
  · exact noting_designPattern
  · exact noting_steering

end Handler

/-- Applying a directive is what its handler does, and counting it. -/
theorem Pass.noted_applyDirective {handlers : List (Text × Handler)}
    (noting : Handler.AllNoting handlers) (context : DirectiveContext)
    (directive : Directive) (pass : Pass) :
    Pass.Noted directive.args pass (pass.applyDirective handlers context directive) := by
  rw [applyDirective]
  split
  · exact .problem _
  · rename_i handler found
    obtain ⟨entry, atVerb, rfl⟩ := Option.map_eq_some_iff.mp found
    have handled := noting entry (List.mem_of_find?_eq_some atVerb)
      { context with verb := directive.verb } directive.args pass
    rw [andThen]
    split
    · exact handled
    · exact ⟨handled.notes, handled.halted⟩

end Docweave
