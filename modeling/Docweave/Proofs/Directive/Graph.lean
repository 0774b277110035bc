import Docweave.Proofs.Directive.Effect

/-!
# The graph of files through a pass

A pass over directives changes what is known of blocks and files, but not which files there are, at
which paths they stand, which are linked and how.  So the files come in the same order before and
after it.
-/

namespace Docweave

namespace Project

/-- Two projects have the same files at the same paths, linked in the same way. -/
structure SameGraph (before after : Project) : Prop where
  size_eq : after.files.size = before.files.size
  linked_eq : after.linked = before.linked
  path_eq : ∀ id, (after.file id).path = (before.file id).path
  required_eq : ∀ id, after.required id = before.required id
  requiredBy_eq : ∀ id, after.requiredBy id = before.requiredBy id

namespace SameGraph

variable {first second third project : Project}

theorem refl (project : Project) : SameGraph project project :=
  ⟨rfl, rfl, fun _ => rfl, fun _ => rfl, fun _ => rfl⟩

theorem trans (early : SameGraph first second) (late : SameGraph second third) :
    SameGraph first third where
  size_eq := late.size_eq.trans early.size_eq
  linked_eq := late.linked_eq.trans early.linked_eq
  path_eq id := (late.path_eq id).trans (early.path_eq id)
  required_eq id := (late.required_eq id).trans (early.required_eq id)
  requiredBy_eq id := (late.requiredBy_eq id).trans (early.requiredBy_eq id)

theorem ordered_eq (same : SameGraph first second) : second.ordered = first.ordered := by
  rw [ordered, allFiles, same.size_eq, same.linked_eq, funext same.required_eq,
    funext same.requiredBy_eq]
  rfl

theorem rebuildTables (id : FileId) : SameGraph project (project.rebuildTables id) where
  size_eq := Array.size_modify
  linked_eq := rfl
  path_eq _ := view_modifyFile SourceFile.path fun _ => rfl
  required_eq _ := view_modifyFile SourceFile.required fun _ => rfl
  requiredBy_eq _ := view_modifyFile SourceFile.requiredBy fun _ => rfl

end SameGraph

end Project

theorem FileNote.size_writeAll (notes : List FileNote) (file : FileId) (files : Array SourceFile) :
    (writeAll notes file files).size = files.size := by
  induction notes generalizing files with
  | nil => rfl
  | cons note notes ih =>
      have rest := ih (files.modify file.index note.writeTo)
      rwa [Array.size_modify] at rest

/-- No note is about the graph. -/
theorem Effect.sameGraph_on (file : FileId) (effect : Effect) (pass : Pass) :
    Project.SameGraph pass.project (effect.on file pass).project where
  size_eq := FileNote.size_writeAll effect.onFile file pass.project.files
  linked_eq := rfl
  path_eq := effect.path_on file pass
  required_eq := FileNote.view_writeAll pass.project SourceFile.required
    (fun note _ => by cases note <;> rfl) effect.onFile file
  requiredBy_eq := FileNote.view_writeAll pass.project SourceFile.requiredBy
    (fun note _ => by cases note <;> rfl) effect.onFile file

namespace Pass

open Project (SameGraph)

variable {handlers : List (Text × Handler)} {next : Pass → Pass}

/-- The action leaves the graph of files alone. -/
def KeepsGraph (act : Pass → Pass) : Prop := ∀ pass, SameGraph pass.project (act pass).project

theorem KeepsGraph.andThen (keeps : KeepsGraph next) (pass : Pass) :
    SameGraph pass.project (pass.andThen next).project := by
  by_cases halted : pass.halted
  · rw [andThen_of_halted halted]
    exact .refl pass.project
  · rw [andThen_of_going halted]
    exact keeps pass

theorem KeepsGraph.foldl {α : Type} {act : Pass → α → Pass}
    (keeps : ∀ item, KeepsGraph fun pass => act pass item) (items : List α) :
    KeepsGraph fun pass => items.foldl act pass := by
  induction items with
  | nil => exact fun pass => .refl pass.project
  | cons item items ih => exact fun pass => (keeps item pass).trans (ih _)

theorem keepsGraph_problem (context : DirectiveContext) (problem : Problem) :
    KeepsGraph (Pass.problem context problem) :=
  fun _ => ⟨rfl, rfl, fun _ => rfl, fun _ => rfl, fun _ => rfl⟩

theorem keepsGraph_applyDirective (repeating : Handler.AllRepeating handlers)
    (context : DirectiveContext) (directive : Directive) :
    KeepsGraph (applyDirective handlers context directive) := by
  intro pass
  obtain ⟨effect, -, applied, -⟩ :=
    exists_effect_applyDirective repeating (.refl pass) context directive
  rw [applied]
  exact effect.sameGraph_on context.file pass

theorem keepsGraph_enterBody {inside : ContentId → Pass → Pass}
    (keeps : ∀ content, KeepsGraph (inside content)) (context : DirectiveContext) :
    KeepsGraph (enterBody inside context) := by
  intro pass
  rw [enterBody]
  split
  · exact keepsGraph_problem _ _ pass
  · rename_i id _
    dsimp only
    split
    · exact keepsGraph_problem _ _ pass
    · have opened : SameGraph pass.project (pass.modifyForest (Forest.openBody id)).project :=
        ⟨rfl, rfl, fun _ => rfl, fun _ => rfl, fun _ => rfl⟩
      split
      · exact opened.trans (keeps _ _)
      · exact opened

theorem keepsGraph_stopAfter (content : ContentId) (context : DirectiveContext) :
    KeepsGraph (stopAfter content context) := by
  intro pass
  have cut (length : Int) :
      SameGraph pass.project (pass.modifyForest (Forest.truncate content length)).project :=
    ⟨rfl, rfl, fun _ => rfl, fun _ => rfl, fun _ => rfl⟩
  rw [stopAfter]
  split
  · exact (cut _).trans (.rebuildTables _)
  · exact cut _

theorem keepsGraph_applyComment (repeating : Handler.AllRepeating handlers)
    {inside : ContentId → Pass → Pass} (keeps : ∀ content, KeepsGraph (inside content))
    (file : FileId) (content : ContentId) (comment : BlockId) :
    KeepsGraph (applyComment handlers inside file content comment) := by
  intro pass
  have directives (context : DirectiveContext) := KeepsGraph.foldl
    (fun directive => (keepsGraph_applyDirective repeating context directive).andThen)
    (pass.project.forest.block comment).directives pass
  have entering (wanted : Bool) (context : DirectiveContext) :
      KeepsGraph fun pass => if wanted then enterBody inside context pass else pass := by
    intro pass
    cases wanted
    · exact .refl pass.project
    · exact keepsGraph_enterBody keeps context pass
  have stopping (wanted : Bool) (context : DirectiveContext) :
      KeepsGraph fun pass => if wanted then stopAfter content context pass else pass := by
    intro pass
    cases wanted
    · exact .refl pass.project
    · exact keepsGraph_stopAfter content context pass
  exact ((directives _).trans ((entering _ _).andThen _)).trans ((stopping _ _).andThen _)

theorem keepsGraph_walkBlocks {apply : BlockId → Pass → Pass}
    (keeps : ∀ id, KeepsGraph (apply id)) (fuel : Nat) (next : Option BlockId) :
    KeepsGraph (walkBlocks apply fuel next) := by
  intro pass
  induction fuel generalizing next pass with
  | zero => exact .refl pass.project
  | succ fuel ih =>
      cases next with
      | none => exact .refl pass.project
      | some id =>
          rw [walkBlocks]
          split
          · exact (keeps id pass).trans (KeepsGraph.andThen (ih _) _)
          · exact KeepsGraph.andThen (ih _) pass

/-- However deep bodies nest, going through a content leaves the graph alone. -/
theorem keepsGraph_runContent (repeating : Handler.AllRepeating handlers) (file : FileId)
    (depth : Nat) (content : ContentId) : KeepsGraph (runContent handlers file depth content) := by
  induction depth generalizing content with
  | zero => exact fun pass => .refl pass.project
  | succ depth ih =>
      intro pass
      exact keepsGraph_walkBlocks (keepsGraph_applyComment repeating ih file content) _ _ pass

theorem keepsGraph_runFile (repeating : Handler.AllRepeating handlers) (id : FileId) :
    KeepsGraph (runFile handlers id) := by
  intro pass
  have processed (path : Text) : KeepsGraph fun done =>
      { done with report := { done.report with processed := done.report.processed ++ [path] } } :=
    fun done => .refl done.project
  exact (keepsGraph_runContent repeating id _ _ pass).trans ((processed _).andThen _)

theorem keepsGraph_runAll (repeating : Handler.AllRepeating handlers) :
    KeepsGraph (runAll handlers) := by
  intro pass
  exact KeepsGraph.foldl (fun id => (keepsGraph_runFile repeating id).andThen) _ pass

end Pass

/-- Directives do not change which files are linked and how. -/
theorem Project.sameGraph_runDirectives (project : Project) :
    SameGraph project project.runDirectives.1 :=
  Pass.keepsGraph_runAll Handler.allRepeating_builtIn { project }

end Docweave
