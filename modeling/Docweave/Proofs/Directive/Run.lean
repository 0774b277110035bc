import Docweave.Proofs.Directive.Walk

/-!
# Passes over a file

The functions that run a pass are bounded in how far and how deep they go.  The bounds are never
met: links lead forward in a content that only loses blocks, and a body is shorter than the text
it stands in.  So a pass over a file is a walk by the rules, whatever is in the file.
-/

namespace Docweave

open Text

namespace Forest

variable {forest : Forest} {content inner : ContentId} {id other : BlockId}

/-- Links do not lead out of a content. -/
theorem mem_members_of_step? (placed : forest.Placed) {level : Level} {direction : Direction}
    (member : id ∈ forest.members content) (found : forest.step? level direction id = some other) :
    other ∈ forest.members content := by
  cases direction with
  | forward =>
      obtain ⟨⟨inContent, index, first, second⟩, -⟩ := (step?_forward_iff placed).mp found
      rw [← placed.content_unique member (List.mem_of_getElem? first)]
      exact List.mem_of_getElem? second
  | backward =>
      obtain ⟨⟨inContent, index, first, second⟩, -⟩ := (step?_backward_iff placed).mp found
      rw [← placed.content_unique member (List.mem_of_getElem? second)]
      exact List.mem_of_getElem? first

theorem mem_members_of_mem_walkFrom (placed : forest.Placed) {level : Level}
    {direction : Direction} {fuel : Nat} (member : id ∈ forest.members content)
    (reached : other ∈ forest.walkFrom level direction fuel id) : other ∈ forest.members content := by
  induction fuel generalizing id with
  | zero => cases reached
  | succ fuel ih =>
      rw [walkFrom] at reached
      split at reached
      · cases reached
      · rename_i next found
        have memberNext := mem_members_of_step? placed member found
        rcases List.mem_cons.mp reached with rfl | further
        · exact memberNext
        · exact ih memberNext further

/-- What a search along links finds stands in the same content. -/
theorem mem_members_of_next? (placed : forest.Placed) {level : Level} {direction : Direction}
    {kinds : Option (List BlockKind)} (member : id ∈ forest.members content)
    (found : forest.next? level direction kinds id = some other) : other ∈ forest.members content :=
  mem_members_of_mem_walkFrom placed member (List.mem_of_find?_eq_some found)

/-- A body is shorter than the text that its block stands in. -/
theorem Sound.text_lt (sound : forest.Sound) (member : id ∈ forest.members content)
    (nested : (forest.entry id).nested = some inner) :
    (forest.content inner).text.length < (forest.content content).text.length := by
  obtain ⟨body, found, text_eq, -⟩ := (sound.opened id inner nested).body
  have read := (sound.blocks content (sound.placed.hasContent_of_member member)).subset
    (List.mem_map_of_mem member)
  have short := ((Outline.holdsBrace_parse read).opensAtBrace found).length_lt
  rw [text_eq]
  exact Nat.lt_of_lt_of_le short (Outline.raw_length_le_parse read)

end Forest

namespace Pass

variable {handlers : List (Text × Handler)} {file : FileId} {id : BlockId}
variable {content inner : ContentId} {next : Option BlockId} {stops : ContentId → Prop}
variable {pass after : Pass}

/-! ## The bounds are never met -/

theorem text_lt_of_leads (noting : Handler.AllNoting handlers)
    (meets : Meets content (some id) pass) (leads : inner? handlers file id pass = some inner) :
    ((opened handlers file id pass).project.forest.content inner).text.length <
      (pass.project.forest.content content).text.length := by
  have moves := moves_opened noting file (fun _ => False) id pass
  have sound := (moves.sound meets.sound).forest
  obtain ⟨target, found, -, nested⟩ := of_leads leads
  have member := Forest.mem_members_of_next? meets.sound.forest.placed (meets.member id rfl) found
  rw [← moves.members_eq meets.sound meets.hasContent not_false] at member
  rw [← (moves.keeps meets.sound).forest.text_eq content meets.hasContent]
  exact sound.text_lt member nested

/-- What follows a block is further on in a content that has not grown. -/
theorem sibling?_eq_getElem? {index : Nat} (meets : Meets content (some id) pass)
    (atIndex : (pass.project.forest.members content)[index]? = some id)
    (moves : Project.Moves file stops pass.project after.project) :
    ∃ further, after.project.forest.sibling? .forward id =
        (after.project.forest.members content)[further]? ∧
      (after.project.forest.members content).length ≤
        further + ((pass.project.forest.members content).length - (index + 1)) := by
  have keeps := (moves.keeps meets.sound).forest
  have place := meets.sound.forest.placed.place_of_member atIndex
  have has := meets.sound.forest.placed.hasBlock (meets.member id rfl)
  rcases keeps.place id has with same | gone
  · have shorter := (keeps.members content meets.hasContent).length_le
    refine ⟨index + 1, ?_, by omega⟩
    rw [Forest.sibling?, same, place]
  · refine ⟨(after.project.forest.members content).length, ?_, by omega⟩
    rw [Forest.sibling?, gone, List.getElem?_eq_none (Nat.le_refl _)]

theorem walks_of_halted (halted : pass.halted) :
    Walks handlers file content next pass [] pass := by
  cases next with
  | none => exact .finished
  | some id => exact .halted halted

/-- Going from block to block is a walk, when the steps are as many as there are blocks left and
what is done inside bodies is a walk too. -/
theorem walks_walkBlocks (noting : Handler.AllNoting handlers)
    {inside : ContentId → Pass → Pass} {depth : Nat}
    (insideWalks : ∀ inner pass, pass.project.Sound → pass.project.forest.HasContent inner →
      ¬ pass.halted → (pass.project.forest.content inner).text.length < depth →
      ∃ handings, Walks handlers file inner (pass.project.forest.members inner).head? pass handings
        (inside inner pass))
    (fuel index : Nat) (sound : pass.project.Sound)
    (has : pass.project.forest.HasContent content) (going : ¬ pass.halted)
    (deep : (pass.project.forest.content content).text.length ≤ depth)
    (far : (pass.project.forest.members content).length ≤ index + fuel) :
    ∃ handings, Walks handlers file content (pass.project.forest.members content)[index]? pass
      handings (walkBlocks (applyComment handlers inside file content) fuel
        (pass.project.forest.members content)[index]? pass) := by
  induction fuel generalizing index pass with
  | zero =>
      have past : (pass.project.forest.members content)[index]? = none :=
        List.getElem?_eq_none far
      rw [past]
      exact ⟨[], .finished⟩
  | succ fuel ih =>
      cases atIndex : (pass.project.forest.members content)[index]? with
      | none => exact ⟨[], .finished⟩
      | some id =>
          have meets := Meets.of_member sound has (List.mem_of_getElem? atIndex)
          -- The rest of the walk, from wherever the block at hand stands when it is done with.
          have goOn : ∀ done : Pass, Project.Moves file (fun _ => True) pass.project done.project →
              ∃ later, Walks handlers file content (done.project.forest.sibling? .forward id) done
                later (done.andThen (walkBlocks (applyComment handlers inside file content) fuel
                  (done.project.forest.sibling? .forward id))) := by
            intro done moves
            by_cases halted : done.halted
            · rw [andThen_of_halted halted]
              exact ⟨[], walks_of_halted halted⟩
            · obtain ⟨further, follows, near⟩ := sibling?_eq_getElem? meets atIndex moves
              rw [andThen_of_going halted, follows]
              apply ih
              · exact moves.sound sound
              · exact (moves.keeps sound).forest.hasContent content has
              · exact halted
              · rwa [(moves.keeps sound).forest.text_eq content has]
              · omega
          rw [walkBlocks]
          by_cases speaks : (pass.project.forest.block id).hasDirectives
          · rw [if_pos speaks, applyComment_eq]
            cases leads : inner? handlers file id pass with
            | none =>
                obtain ⟨later, rest⟩ := goOn _ ((meets.around noting file).mono fun _ _ => trivial)
                exact ⟨_, .around going speaks leads rest⟩
            | some inner =>
                have start := meets.body noting leads
                have short := text_lt_of_leads noting meets leads
                obtain ⟨-, -, applies, -⟩ := of_leads leads
                obtain ⟨within, body⟩ := insideWalks inner _ start.sound start.hasContent
                  (by rwa [halted_opened]) (by omega)
                obtain ⟨later, rest⟩ := goOn _
                  ((meets.inside noting leads (body.moves noting start)).mono fun _ _ => trivial)
                exact ⟨_, .inside going speaks leads body rest⟩
          · rw [if_neg speaks]
            obtain ⟨later, rest⟩ := goOn pass .refl
            exact ⟨later, .silent going speaks rest⟩

/-- Going through a content is a walk, when the bound on the depth is greater than the length of
its text. -/
theorem walks_runContent (noting : Handler.AllNoting handlers) (depth : Nat)
    (content : ContentId) (pass : Pass) (sound : pass.project.Sound)
    (has : pass.project.forest.HasContent content) (going : ¬ pass.halted)
    (deep : (pass.project.forest.content content).text.length < depth) :
    ∃ handings, Walks handlers file content (pass.project.forest.members content).head? pass
      handings (runContent handlers file depth content pass) := by
  induction depth generalizing content pass with
  | zero => cases deep
  | succ depth ih =>
      rw [runContent, List.head?_eq_getElem?]
      exact walks_walkBlocks noting ih _ 0 sound has going (Nat.le_of_lt_succ deep) (by omega)

/-! ## Runs -/

/-- A pass over a file, by the rules: a walk through its blocks, after which the file counts as
processed unless the pass is halted. -/
def Runs (handlers : List (Text × Handler)) (id : FileId) (pass : Pass) (handings : List Handing)
    (after : Pass) : Prop :=
  let content := (pass.project.file id).content
  ∃ walked,
    Walks handlers id content (pass.project.forest.members content).head? pass handings walked ∧
    after = walked.andThen fun done =>
      { done with report := { done.report with
          processed := done.report.processed ++ [(pass.project.file id).path.getD []] } }

/-- A pass over a file comes to an end, by the rules. -/
theorem exists_runs (noting : Handler.AllNoting handlers) {id : FileId}
    (sound : pass.project.Sound) (has : pass.project.HasFile id) (going : ¬ pass.halted) :
    ∃ handings, Runs handlers id pass handings (runFile handlers id pass) := by
  obtain ⟨handings, walks⟩ := walks_runContent noting _ (pass.project.file id).content pass sound
    (sound.hasContent id has) going (Nat.lt_succ_self _)
  exact ⟨handings, _, walks, rfl⟩

section Runs

variable {id : FileId} {handings : List Handing}

/-- What the rules lead to is determined, and so are the directives that have their turn. -/
theorem Runs.unique {others : List Handing} {other : Pass}
    (runs : Runs handlers id pass handings after) (again : Runs handlers id pass others other) :
    others = handings ∧ other = after := by
  obtain ⟨walked, walks, rfl⟩ := runs
  obtain ⟨walkedAgain, walksAgain, rfl⟩ := again
  obtain ⟨rfl, rfl⟩ := walks.unique walksAgain
  exact ⟨rfl, rfl⟩

theorem Runs.moves (runs : Runs handlers id pass handings after)
    (noting : Handler.AllNoting handlers) (sound : pass.project.Sound)
    (has : pass.project.HasFile id) :
    Project.Moves id (Stopped handings) pass.project after.project := by
  obtain ⟨walked, walks, rfl⟩ := runs
  have moves := walks.moves noting (.head sound (sound.hasContent id has))
  rw [andThen]
  split
  · exact moves
  · exact moves

theorem Runs.located (runs : Runs handlers id pass handings after)
    (noting : Handler.AllNoting handlers) (sound : pass.project.Sound)
    (has : pass.project.HasFile id) :
    ∀ handing ∈ handings, handing.Located pass.project.forest := by
  obtain ⟨walked, walks, -⟩ := runs
  exact walks.located noting (.head sound (sound.hasContent id has))

theorem Runs.exists_tooLarge (runs : Runs handlers id pass handings after)
    (noting : Handler.AllNoting handlers) (going : ¬ pass.halted)
    (halted : after.halted) : ∃ handing ∈ handings, Placeholder.TooLarge handing.directive.args := by
  obtain ⟨walked, walks, rfl⟩ := runs
  apply walks.exists_tooLarge noting going
  rw [andThen] at halted
  split at halted
  · exact halted
  · exact halted

end Runs

end Pass

end Docweave
