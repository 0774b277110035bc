import Docweave.Proofs.Project.Built

/-!
# What a pass leaves of the parsed structure

Directives are written into the blocks that they change, so a pass must not disturb what it walks
through.  It keeps every block as it was read, it takes blocks away only from the end of a content
with a comment that stops the pass there, it opens bodies as they are written, and what was noted
before stays noted.
-/

namespace Docweave.Project

open Text

/-- A pass over a file of any project comes to an end.  Every block there was is the same block
after it, so all that is read off it is the same too; a content has lost at most its last blocks,
and none unless one of its comments had the turn of a directive `stop`; a block that was not open
is not open or holds the first blocks of its body; aliases and fields have only been added. -/
theorem structure_runFile {project : Project} (built : project.Built) {id : FileId}
    (has : project.HasFile id) (report : Report) :
    let before := project.forest
    let done := Pass.runFile Handler.builtIn id { project, report }
    let after := done.project.forest
    ∃ handings, Pass.Runs Handler.builtIn id { project, report } handings done ∧
      (∀ block, before.HasBlock block →
        after.HasBlock block ∧ after.block block = before.block block) ∧
      (∀ content, before.HasContent content →
        after.members content <+: before.members content ∧
        ((∀ handing ∈ handings, handing.directive.verb = Pass.stopVerb →
            handing.context.comment ∉ before.members content) →
          after.members content = before.members content)) ∧
      (∀ block, before.HasBlock block → (before.entry block).nested = none →
        (after.entry block).nested = none ∨
        ∃ body inner, (before.block block).body? = some body ∧
          (after.entry block).nested = some inner ∧
          (after.members inner).map after.block <+: (Outline.parse body.text body.row).blocks) ∧
      (∀ block, before.HasBlock block →
        (before.entry block).aliases <+: (after.entry block).aliases ∧
        ∀ field ∈ (before.entry block).fields,
          field.1 ∈ (after.entry block).fields.map Prod.fst) := by
  intro before done after
  have sound := built.sound
  have start : ({ project, report } : Pass).project.Sound := sound
  obtain ⟨handings, runs⟩ := Pass.exists_runs Handler.allNoting_builtIn start has Bool.false_ne_true
  have moves := runs.moves Handler.allNoting_builtIn sound has
  have keeps := (moves.keeps sound).forest
  have soundAfter := (moves.sound sound).forest
  refine ⟨handings, runs, ?_, ?_, ?_, ?_⟩
  · intro block hasBlock
    exact ⟨keeps.hasBlock block hasBlock, keeps.block_eq block hasBlock⟩
  · intro content hasContent
    refine ⟨keeps.members content hasContent, fun going => ?_⟩
    apply moves.members_eq sound hasContent
    rintro ⟨handing, had, rfl, stops⟩
    apply going handing had stops
    exact runs.located Handler.allNoting_builtIn sound has handing had (.inr hasContent)
  · intro block hasBlock _
    cases nested : (after.entry block).nested with
    | none => exact .inl rfl
    | some inner =>
        have opens := soundAfter.opened block inner nested
        obtain ⟨body, found, text_eq, row_eq⟩ := opens.body
        rw [keeps.block_eq block hasBlock] at found
        refine .inr ⟨body, inner, found, rfl, ?_⟩
        rw [← text_eq, ← row_eq]
        exact soundAfter.blocks inner opens.hasContent
  · intro block hasBlock
    refine ⟨keeps.aliases block hasBlock, fun field present => ?_⟩
    exact (keeps.fields block hasBlock).subset (List.mem_map_of_mem present)

/-- A file whose comments lead into a body, stop there, and stop at the top. -/
theorem structure_runFile_nested :
    let text : Text := "// @parse\nfunction f() \x7b\n  // @stop\n  var a\n\x7d\n// @alias f g\n// @stop\nvar b\n"
    let project := (addFile text 1 none none none {}).1
    let after := (Pass.runFile Handler.builtIn ⟨0⟩ { project }).project.forest
    project.Built ∧ project.HasFile ⟨0⟩ ∧
      (∀ content, project.forest.HasContent content →
        after.members content <+: project.forest.members content) := by
  intro text project after
  have built : project.Built := .addFile (.empty ['.']) text 1 none none none
  have has : project.HasFile ⟨0⟩ := hasFile_addFile text 1
  obtain ⟨_, _, _, members, _⟩ := structure_runFile built has {}
  exact ⟨built, has, fun content hasContent => (members content hasContent).1⟩

end Docweave.Project
