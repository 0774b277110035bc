import Docweave.Proofs.Directive.Overwrite
import Docweave.Proofs.Directive.Visits

/-!
# Passing over a file again

A pass that neither stops nor opens a body leaves nothing behind but notes and issues.  A second
pass then finds the same blocks with the same bodies open, so the same directives have their turn
and have the same effect: they write over their own notes, and report the same issues once more.
-/

namespace Docweave

open Text

/-- Between two forests no body has been opened. -/
def Forest.Unopened (before after : Forest) : Prop :=
  ∀ id, (after.entry id).nested = (before.entry id).nested

namespace Forest.Unopened

variable {first second third : Forest}

/-- A body that was not open at the end was not open on the way there. -/
theorem early (unopened : Unopened first third) (early : Keeps first second)
    (late : Keeps second third) : Unopened first second := by
  intro id
  cases opened : (second.entry id).nested with
  | some inner => rw [← unopened id, late.nested id inner opened]
  | none =>
      cases openFirst : (first.entry id).nested with
      | none => rfl
      | some inner =>
          rw [early.nested id inner openFirst] at opened
          cases opened

theorem late (unopened : Unopened first third) (early : Keeps first second)
    (late : Keeps second third) : Unopened second third := fun id =>
  (unopened id).trans (unopened.early early late id).symm

/-- Only the blocks of the first forest count, when there are no others. -/
theorem of_index (size_eq : second.entries.size = first.entries.size)
    (same : ∀ index < first.entries.size,
      (second.entry ⟨index⟩).nested = (first.entry ⟨index⟩).nested) : Unopened first second := by
  intro id
  by_cases has : first.HasBlock id
  · exact same id.index has
  · have hasNot : ¬ second.HasBlock id := by rwa [HasBlock, size_eq]
    rw [entry_of_not_hasBlock has, entry_of_not_hasBlock hasNot]

end Forest.Unopened

namespace Pass

variable {handlers : List (Text × Handler)} {file : FileId} {comment : BlockId}
variable {content : ContentId} {context : DirectiveContext} {next : Option BlockId}
variable {first second pass entered after : Pass} {handings : List Handing}

/-! ## The same comment in passes that are alike -/

namespace Alike

/-- A pass that starts from what an effect leaves is like the one that had the effect. -/
theorem of_effect {effect : Effect} (left : second.project = (effect.on file first).project)
    (sameHalted : second.halted = first.halted) : Alike first second where
  forest := by
    rw [left]
    exact Forest.alike_noteAll effect.onBlocks _
  content_eq id := by rw [left, Effect.content_on]
  path_eq id := by rw [left, Effect.path_on]
  halted_eq := sameHalted

theorem contextAt_eq (alike : Alike first second) :
    contextAt file comment second = contextAt file comment first := by
  rw [contextAt, contextAt, alike.forest.next?_eq]

theorem directivesAt_eq (alike : Alike first second) :
    directivesAt comment second = directivesAt comment first := by
  rw [directivesAt, directivesAt, alike.forest.block_eq]

theorem asks_eq (alike : Alike first second) (verb : Text) :
    asks comment second verb = asks comment first verb := by
  rw [asks, asks, alike.directivesAt_eq]

/-- The same directives have their turn before passes that are alike are halted. -/
theorem handed_eq (repeating : Handler.AllRepeating handlers) (alike : Alike first second)
    (directives : List Directive) :
    handed handlers content context directives second =
      handed handlers content context directives first := by
  induction directives generalizing first second with
  | nil => rfl
  | cons directive directives ih =>
      rw [handed, handed, alike.halted_eq]
      obtain ⟨effect, -, ofFirst, ofSecond⟩ :=
        exists_effect_applyDirective repeating alike context directive
      rw [ofFirst, ofSecond, ih (alike.on context.file effect)]

theorem turns_eq (repeating : Handler.AllRepeating handlers) (alike : Alike first second) :
    turns handlers file comment second content = turns handlers file comment first content := by
  rw [turns, turns, alike.contextAt_eq, alike.directivesAt_eq, alike.handed_eq repeating]

end Alike

theorem exists_effect_applyAll (repeating : Handler.AllRepeating handlers)
    (alike : Alike first second) (directives : List Directive) :
    ∃ effect : Effect, applyAll handlers context directives first = effect.on context.file first ∧
      applyAll handlers context directives second = effect.on context.file second := by
  induction directives generalizing first second with
  | nil => exact ⟨{}, (Effect.on_empty _ first).symm, (Effect.on_empty _ second).symm⟩
  | cons directive directives ih =>
      by_cases halted : first.halted
      · have haltedSecond : second.halted := alike.halted_eq.trans halted
        rw [applyAll_of_halted _ halted, applyAll_of_halted _ haltedSecond]
        exact ⟨{}, (Effect.on_empty _ first).symm, (Effect.on_empty _ second).symm⟩
      · have goingSecond : ¬ second.halted := by rwa [alike.halted_eq]
        obtain ⟨effect, -, ofFirst, ofSecond⟩ :=
          exists_effect_applyDirective repeating alike context directive
        obtain ⟨rest, restFirst, restSecond⟩ := ih (alike.on context.file effect)
        refine ⟨effect.andThen rest, ?_, ?_⟩
        · rw [applyAll, List.foldl_cons, andThen_of_going halted, ofFirst, Effect.on_andThen]
          exact restFirst
        · rw [applyAll, List.foldl_cons, andThen_of_going goingSecond, ofSecond, Effect.on_andThen]
          exact restSecond

/-- The directives of a comment have one effect. -/
theorem exists_effect_applied (repeating : Handler.AllRepeating handlers)
    (alike : Alike first second) :
    ∃ effect : Effect, applied handlers file comment first = effect.on file first ∧
      applied handlers file comment second = effect.on file second := by
  rw [applied, applied, alike.contextAt_eq, alike.directivesAt_eq]
  exact exists_effect_applyAll repeating alike _

/-! ## Bodies that are open -/

/-- Report that there is no body to go into. -/
def reportBody (context : DirectiveContext) (pass : Pass) : Pass :=
  let context := { context with verb := parseVerb }
  match context.target with
  | none => pass.problem context (.noBody none)
  | some id =>
    let block := pass.project.forest.block id
    match block.body? with
    | none => pass.problem context (.noBody (some block.row))
    | some _ => pass

/-- The body that a directive asks for is open, if the target has a body. -/
def BodyOpen (context : DirectiveContext) (pass : Pass) : Prop :=
  ∀ id, context.target = some id → (pass.project.forest.block id).body?.isSome →
    (pass.project.forest.entry id).nested.isSome

theorem enterBody_of_bodyOpen (isOpen : BodyOpen context pass) :
    enterBody (fun _ pass => pass) context pass = reportBody context pass := by
  rw [enterBody, reportBody]
  cases target : context.target with
  | none => rfl
  | some id =>
      cases body : (pass.project.forest.block id).body? with
      | none => simp only [body]
      | some found =>
          have nested := isOpen id target (by simp [body])
          have unchanged : pass.project.forest.openBody id = pass.project.forest := by
            obtain ⟨inner, opened⟩ := Option.isSome_iff_exists.mp nested
            rw [Forest.openBody, opened]
          simp only [body, modifyForest, Project.modifyForest, unchanged]
          split <;> rfl

theorem repeats_reportBody (context : DirectiveContext) :
    Repeats context.file (reportBody context) := by
  obtain ⟨file, comment, target, verb⟩ := context
  cases target with
  | none => exact @Repeats.problem ⟨file, comment, none, parseVerb⟩ _ rfl
  | some id =>
      apply Repeats.choose (fun pass => pass.project.forest.block id) fun block pass =>
        match block.body? with
        | none => pass.problem ⟨file, comment, some id, parseVerb⟩ (.noBody (some block.row))
        | some _ => pass
      · intro first second alike
        rw [alike.forest.block_eq]
      · intro block
        cases block.body? with
        | none => exact @Repeats.problem ⟨file, comment, some id, parseVerb⟩ _ rfl
        | some _ => exact .nothing

/-- A comment that opens nothing asks for a body that is open, or for none. -/
theorem bodyOpen_of_unopened (noting : Handler.AllNoting handlers)
    (going : ¬ (applied handlers file comment pass).halted) (parses : asks comment pass parseVerb)
    (unopened : pass.project.forest.Unopened (opened handlers file comment pass).project.forest) :
    BodyOpen (contextAt file comment pass) (applied handlers file comment pass) := by
  intro id target hasBody
  have notes : Project.Notes pass.project (applied handlers file comment pass).project :=
    notes_applyAll noting _ _
  obtain ⟨body, found⟩ := Option.isSome_iff_exists.mp hasBody
  rw [notes.forest.nested_eq, ← unopened id, opened_eq_openBody going parses target found]
  exact Forest.isSome_nested_openBody found

/-- When a comment opens nothing, what it does after its directives has one effect. -/
theorem exists_effect_entered (noting : Handler.AllNoting handlers) (alike : Alike first second)
    (applies : Alike (applied handlers file comment first) (applied handlers file comment second))
    (unopened : first.project.forest.Unopened (opened handlers file comment first).project.forest) :
    ∃ effect : Effect,
      opened handlers file comment first = effect.on file (applied handlers file comment first) ∧
      opened handlers file comment second = effect.on file (applied handlers file comment second) := by
  by_cases halted : (applied handlers file comment first).halted
  · have haltedSecond : (applied handlers file comment second).halted := by
      rwa [applies.halted_eq]
    refine ⟨{}, ?_, ?_⟩
    · rw [opened, andThen_of_halted halted, Effect.on_empty]
    · rw [opened, andThen_of_halted haltedSecond, Effect.on_empty]
  · have goingSecond : ¬ (applied handlers file comment second).halted := by
      rwa [applies.halted_eq]
    rw [opened, opened, andThen_of_going halted, andThen_of_going goingSecond,
      alike.asks_eq, alike.contextAt_eq]
    by_cases parses : asks comment first parseVerb
    · have isOpen := bodyOpen_of_unopened noting halted parses unopened
      have isOpenSecond : BodyOpen (contextAt file comment first)
          (applied handlers file comment second) := by
        intro id target
        rw [applies.forest.block_eq, applies.forest.nested_eq]
        exact isOpen id target
      rw [if_pos parses, if_pos parses, enterBody_of_bodyOpen isOpen,
        enterBody_of_bodyOpen isOpenSecond]
      obtain ⟨effect, -, ofFirst, ofSecond⟩ :=
        repeats_reportBody (contextAt file comment first) _ _ applies
      exact ⟨effect, ofFirst, ofSecond⟩
    · rw [if_neg parses, if_neg parses]
      exact ⟨{}, (Effect.on_empty file _).symm, (Effect.on_empty file _).symm⟩

/-- A comment that opens nothing has one effect, and leads into the same body. -/
theorem exists_effect_opened (noting : Handler.AllNoting handlers)
    (repeating : Handler.AllRepeating handlers) (alike : Alike first second)
    (unopened : first.project.forest.Unopened (opened handlers file comment first).project.forest) :
    ∃ effect : Effect, opened handlers file comment first = effect.on file first ∧
      opened handlers file comment second = effect.on file second ∧
      inner? handlers file comment second = inner? handlers file comment first := by
  obtain ⟨effect, ofFirst, ofSecond⟩ := exists_effect_applied repeating alike
  have applies : Alike (applied handlers file comment first)
      (applied handlers file comment second) := by
    rw [ofFirst, ofSecond]
    exact alike.on file effect
  obtain ⟨rest, restFirst, restSecond⟩ := exists_effect_entered noting alike applies unopened
  have openedAlike : Alike (opened handlers file comment first)
      (opened handlers file comment second) := by
    rw [restFirst, restSecond]
    exact applies.on file rest
  refine ⟨effect.andThen rest, ?_, ?_, ?_⟩
  · rw [Effect.on_andThen, ← ofFirst, restFirst]
  · rw [Effect.on_andThen, ← ofSecond, restSecond]
  · simp only [inner?, applies.halted_eq, alike.asks_eq, alike.contextAt_eq,
      applies.forest.block_eq, openedAlike.forest.nested_eq]

/-- A comment without the turn of a directive `stop` cuts nothing off. -/
theorem closed_of_unstopped (unstopped : ¬ Stopped (turns handlers file comment pass content) content)
    (halts : (applied handlers file comment pass).halted → entered.halted) :
    closed file comment pass content entered = entered := by
  by_cases halted : (applied handlers file comment pass).halted
  · rw [closed, andThen_of_halted (halts halted)]
  · apply closed_of_quiet
    intro asked
    exact unstopped (stopped_turns halted asked)

/-! ## The same walk -/

theorem not_stopped_of_quiet (content : ContentId)
    (quiet : ∀ handing ∈ handings, handing.directive.verb ≠ stopVerb) :
    ¬ Stopped handings content := by
  rintro ⟨handing, had, -, stops⟩
  exact quiet handing had stops

/-- A walk that neither stops nor opens a body has one effect, and the walk through the same
content of a pass that is alike hands over the same directives and has the same effect. -/
theorem Walks.again (noting : Handler.AllNoting handlers)
    (repeating : Handler.AllRepeating handlers)
    (walks : Walks handlers file content next first handings after)
    (meets : Meets content next first)
    (quiet : ∀ handing ∈ handings, handing.directive.verb ≠ stopVerb)
    (unopened : first.project.forest.Unopened after.project.forest) (alike : Alike first second) :
    ∃ effect : Effect, after = effect.on file first ∧
      Walks handlers file content next second handings (effect.on file second) := by
  induction walks generalizing second with
  | finished =>
      refine ⟨{}, (Effect.on_empty file _).symm, ?_⟩
      rw [Effect.on_empty]
      exact .finished
  | halted isHalted =>
      refine ⟨{}, (Effect.on_empty file _).symm, ?_⟩
      rw [Effect.on_empty]
      exact .halted (by rwa [alike.halted_eq])
  | @silent content id pass later after going isSilent rest ih =>
      obtain ⟨effect, ofFirst, ofSecond⟩ := ih meets.silent quiet unopened alike
      refine ⟨effect, ofFirst, .silent ?_ ?_ ?_⟩
      · rwa [alike.halted_eq]
      · rwa [alike.forest.block_eq]
      · rwa [alike.forest.sibling?_eq]
  | @around content id pass later after going speaks shut rest ih =>
      have unstopped := not_stopped_of_quiet content fun handing had =>
        quiet handing (List.mem_append_left _ had)
      have closedHere : closed file id pass content (opened handlers file id pass) =
          opened handlers file id pass := closed_of_unstopped unstopped halted_opened.trans
      have here := meets.around noting file
      rw [closedHere] at here
      simp only [closedHere] at rest ih
      have onwards := rest.moves noting (meets.sibling here)
      have keepsHere := (here.keeps meets.sound).forest
      have keepsOnwards := (onwards.keeps (here.sound meets.sound)).forest
      obtain ⟨effect, ofFirst, ofSecond, inner_eq⟩ := exists_effect_opened noting repeating alike
        (unopened.early keepsHere keepsOnwards)
      have openedAlike : Alike (opened handlers file id pass) (opened handlers file id second) := by
        rw [ofFirst, ofSecond]
        exact alike.on file effect
      obtain ⟨others, ofRest, restAgain⟩ := ih (meets.sibling here)
        (fun handing had => quiet handing (List.mem_append_right _ had))
        (unopened.late keepsHere keepsOnwards) openedAlike
      refine ⟨effect.andThen others, ?_, ?_⟩
      · rw [Effect.on_andThen, ← ofFirst, ofRest]
      · rw [← alike.turns_eq repeating] at unstopped ⊢
        have closedAgain : closed file id second content (opened handlers file id second) =
            opened handlers file id second := closed_of_unstopped unstopped halted_opened.trans
        rw [Effect.on_andThen, ← ofSecond]
        apply Walks.around
        · rwa [alike.halted_eq]
        · rwa [alike.forest.block_eq]
        · rwa [inner_eq]
        · simpa only [closedAgain, openedAlike.forest.sibling?_eq] using restAgain
  | @inside content inner id pass within entered later after going speaks leads body rest ihBody ih =>
      have unstopped := not_stopped_of_quiet content fun handing had =>
        quiet handing (List.mem_append_left _ (List.mem_append_left _ had))
      obtain ⟨-, -, applies, -⟩ := of_leads leads
      have closedHere : closed file id pass content entered = entered :=
        closed_of_unstopped unstopped fun halted => absurd halted applies
      have start := meets.body noting leads
      have bodyMoves := body.moves noting start
      have here := meets.inside noting leads bodyMoves
      rw [closedHere] at here
      simp only [closedHere] at rest ih
      have onwards := rest.moves noting (meets.sibling here)
      have keepsOpened := ((moves_opened noting file (fun _ => False) id pass).keeps meets.sound).forest
      have keepsBody := (bodyMoves.keeps start.sound).forest
      have keepsOnwards := (onwards.keeps (here.sound meets.sound)).forest
      have unopenedHere := unopened.early (keepsOpened.trans keepsBody) keepsOnwards
      obtain ⟨effect, ofFirst, ofSecond, inner_eq⟩ :=
        exists_effect_opened noting repeating alike (unopenedHere.early keepsOpened keepsBody)
      have openedAlike : Alike (opened handlers file id pass) (opened handlers file id second) := by
        rw [ofFirst, ofSecond]
        exact alike.on file effect
      obtain ⟨inside, ofBody, bodyAgain⟩ := ihBody start
        (fun handing had => quiet handing (List.mem_append_left _ (List.mem_append_right _ had)))
        (unopenedHere.late keepsOpened keepsBody) openedAlike
      have enteredAlike : Alike entered (inside.on file (opened handlers file id second)) := by
        rw [ofBody]
        exact openedAlike.on file inside
      obtain ⟨others, ofRest, restAgain⟩ := ih (meets.sibling here)
        (fun handing had => quiet handing (List.mem_append_right _ had))
        (unopened.late (keepsOpened.trans keepsBody) keepsOnwards) enteredAlike
      refine ⟨(effect.andThen inside).andThen others, ?_, ?_⟩
      · rw [Effect.on_andThen, Effect.on_andThen, ← ofFirst, ← ofBody, ofRest]
      · rw [← alike.turns_eq repeating] at unstopped ⊢
        rw [← inner_eq] at leads
        obtain ⟨-, -, appliesAgain, -⟩ := of_leads leads
        have closedAgain : closed file id second content
            (inside.on file (opened handlers file id second)) =
            inside.on file (opened handlers file id second) :=
          closed_of_unstopped unstopped fun halted => absurd halted appliesAgain
        rw [Effect.on_andThen, Effect.on_andThen, ← ofSecond]
        apply Walks.inside
        · rwa [alike.halted_eq]
        · rwa [alike.forest.block_eq]
        · exact leads
        · simpa only [openedAlike.forest.members_eq] using bodyAgain
        · simpa only [closedAgain, enteredAlike.forest.sibling?_eq] using restAgain

/-- A pass after an effect, apart from the files that count as processed. -/
structure Leaves (file : FileId) (effect : Effect) (before after : Pass) : Prop where
  project_eq : after.project = (effect.on file before).project
  issues_eq : after.report.issues = before.report.issues ++ effect.issues
  halted_eq : after.halted = (before.halted || effect.halts)

/-- A pass that neither stops nor opens a body leaves an effect, and a pass that is alike hands over
the same directives and leaves the same effect. -/
theorem Runs.again {others : List Handing} {last : Pass} (noting : Handler.AllNoting handlers)
    (repeating : Handler.AllRepeating handlers)
    (runs : Runs handlers file first handings after) (sound : first.project.Sound)
    (has : first.project.HasFile file)
    (quiet : ∀ handing ∈ handings, handing.directive.verb ≠ stopVerb)
    (unopened : first.project.forest.Unopened after.project.forest) (alike : Alike first second)
    (runsSecond : Runs handlers file second others last) :
    others = handings ∧
      ∃ effect, Leaves file effect first after ∧ Leaves file effect second last := by
  obtain ⟨walked, walks, project_eq, issues_eq, -, halted_eq⟩ := runs.walks
  obtain ⟨walkedSecond, walksSecond, project_eq', issues_eq', -, halted_eq'⟩ := runsSecond.walks
  rw [project_eq] at unopened
  obtain ⟨effect, rfl, walksAgain⟩ := walks.again noting repeating
    (.head sound (sound.hasContent file has)) quiet unopened alike
  rw [alike.content_eq, alike.forest.members_eq] at walksSecond
  obtain ⟨rfl, rfl⟩ := walksAgain.unique walksSecond
  exact ⟨rfl, effect, ⟨project_eq, issues_eq, halted_eq⟩, ⟨project_eq', issues_eq', halted_eq'⟩⟩

end Pass

namespace Project

open Pass

/-- A pass over a file comes to an end.  When no directive that had its turn was `stop` and no body
was opened, a second pass hands over the same directives, leaves all blocks and files with the names,
aliases, fields and remarks that the first one left, and adds the same issues to its report. -/
theorem runFile_again {project : Project} (built : project.Built) {id : FileId}
    (has : project.HasFile id) (early late : Report) :
    let done := Pass.runFile Handler.builtIn id { project, report := early }
    let again := Pass.runFile Handler.builtIn id { project := done.project, report := late }
    ∃ handings, Runs Handler.builtIn id { project, report := early } handings done ∧
      ((∀ handing ∈ handings, handing.directive.verb ≠ stopVerb) →
        (∀ block, (done.project.forest.entry block).nested = (project.forest.entry block).nested) →
        Runs Handler.builtIn id { project := done.project, report := late } handings again ∧
        again.project.forest = done.project.forest ∧
        again.project.files = done.project.files ∧
        again.halted = done.halted ∧
        ∃ issues, done.report.issues = early.issues ++ issues ∧
          again.report.issues = late.issues ++ issues) := by
  intro done again
  have sound := built.sound
  have going : ¬ ({ project, report := early } : Pass).halted := Bool.false_ne_true
  obtain ⟨handings, runs⟩ := exists_runs Handler.allNoting_builtIn
    (show ({ project, report := early } : Pass).project.Sound from sound) has going
  refine ⟨handings, runs, fun quiet unopened => ?_⟩
  have moves := runs.moves Handler.allNoting_builtIn sound has
  obtain ⟨others, runsAgain⟩ := exists_runs Handler.allNoting_builtIn
    (show ({ project := done.project, report := late } : Pass).project.Sound from moves.sound sound)
    (((moves.keeps sound).hasFile id).mpr has) Bool.false_ne_true
  have compare := fun {second} {others} {last} =>
    @Runs.again _ id { project, report := early } second done handings others last
      Handler.allNoting_builtIn Handler.allRepeating_builtIn runs sound has quiet unopened
  -- Compared with itself, the first pass leaves a project that is like the one it started from.
  obtain ⟨-, left, leaves, -⟩ := compare (.refl _) runs
  have alike : Pass.Alike { project, report := early } { project := done.project, report := late } :=
    .of_effect leaves.project_eq rfl
  obtain ⟨rfl, effect, leavesFirst, leavesAgain⟩ := compare alike runsAgain
  have forest_eq : done.project.forest = project.forest.noteAll effect.onBlocks :=
    congrArg Project.forest leavesFirst.project_eq
  have files_eq : done.project.files = FileNote.writeAll effect.onFile id project.files :=
    congrArg Project.files leavesFirst.project_eq
  refine ⟨runsAgain, ?_, ?_, ?_, effect.issues, leavesFirst.issues_eq, leavesAgain.issues_eq⟩
  · calc
      again.project.forest = done.project.forest.noteAll effect.onBlocks :=
        congrArg Project.forest leavesAgain.project_eq
      _ = done.project.forest := by rw [forest_eq, Forest.noteAll_twice]
  · calc
      again.project.files = FileNote.writeAll effect.onFile id done.project.files :=
        congrArg Project.files leavesAgain.project_eq
      _ = done.project.files := by rw [files_eq, FileNote.writeAll_twice]
  · exact leavesAgain.halted_eq.trans leavesFirst.halted_eq.symm

/-- A file whose directives name, alias, assign and remark, go into a body that is open, and have
problems to report. -/
theorem runFile_again_body_open :
    let text : Text := "// @export g\n// @parse\nfunction f() \x7b\n  // @alias h\n  var a = 1\n\x7d\n// @assign f.b x\n// @oops\nvar x = 1\n/** @pattern singleton s */\n"
    let project := (addFile text 1 none none none {}).1
    let done := Pass.runFile Handler.builtIn ⟨0⟩ { project }
    let again := Pass.runFile Handler.builtIn ⟨0⟩ { project := done.project }
    project.Built ∧ project.HasFile ⟨0⟩ ∧
      (done.project.forest.entry ⟨1⟩).exportedName = some "g".toList ∧
      again.project.forest = done.project.forest ∧
      again.project.files = done.project.files ∧
      again.report.issues = done.report.issues ∧ done.report.issues.length = 1 := by
  intro text project done again
  have built : project.Built := .addFile (.empty ['.']) text 1 none none none
  have has : project.HasFile ⟨0⟩ := hasFile_addFile text 1
  obtain ⟨exported, problems, quiet, size_eq, same⟩ :
      (done.project.forest.entry ⟨1⟩).exportedName = some "g".toList ∧
      done.report.issues.length = 1 ∧
      (∀ index < done.project.forest.entries.size,
        ∀ directive ∈ (done.project.forest.block ⟨index⟩).directives, directive.verb ≠ stopVerb) ∧
      done.project.forest.entries.size = project.forest.entries.size ∧
      (∀ index < project.forest.entries.size,
        (done.project.forest.entry ⟨index⟩).nested = (project.forest.entry ⟨index⟩).nested) := by
    decide +kernel
  -- What there is to compute is done, and the text need not be read again.
  clear_value project
  obtain ⟨handings, runs, left⟩ := runFile_again built has {} {}
  have stand := runs.directive_mem Handler.allNoting_builtIn built.sound has
  obtain ⟨-, forest_eq, files_eq, -, issues, issues_eq, issuesAgain_eq⟩ := left
    (fun handing had => quiet _ (Forest.hasBlock_of_directive (stand handing had)) _ (stand handing had))
    (Forest.Unopened.of_index size_eq same)
  exact ⟨built, has, exported, forest_eq, files_eq, issuesAgain_eq.trans issues_eq.symm, problems⟩

end Project

end Docweave
