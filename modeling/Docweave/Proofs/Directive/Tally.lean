import Docweave.Proofs.Directive.Effect
import Docweave.Proofs.Directive.Visits

/-!
# What a report says of a pass

Of the directives that have their turn, those with a known verb are counted as applied, but for
the one that halts the pass, and each with an unknown verb is reported by one issue.  Nothing else
is counted and no other issue is about a verb.
-/

namespace Docweave

open Text

/-- The issue that a directive with an unknown verb leads to. -/
def Handing.unknownIssue (path : Option Text) (row : BlockId → Int) (handing : Handing) : Issue :=
  ⟨.unknownVerb handing.directive.verb, path, row handing.context.comment, handing.directive.verb⟩

/-- The issues about unknown verbs. -/
def Report.unknownVerbs (report : Report) : List Issue :=
  report.issues.filter fun issue => issue.problem.isUnknownVerb

namespace Pass

/-- What is counted and reported between two passes over a file agrees with the directives that had
their turn. -/
structure Tally (handlers : List (Text × Handler)) (file : FileId) (row : BlockId → Int)
    (before : Pass) (handings : List Handing) (after : Pass) : Prop where
  path_eq : (after.project.file file).path = (before.project.file file).path
  applied_eq : after.report.applied + after.halted.toNat =
    before.report.applied + before.halted.toNat +
      handings.countP fun handing => knows handlers handing.directive.verb
  unknown_eq : after.report.unknownVerbs = before.report.unknownVerbs ++
    (handings.filter fun handing => !knows handlers handing.directive.verb).map
      (Handing.unknownIssue (before.project.file file).path row)

namespace Tally

variable {handlers : List (Text × Handler)} {file : FileId} {row : BlockId → Int}
variable {first second third pass : Pass} {handings others : List Handing}

theorem refl (pass : Pass) : Tally handlers file row pass [] pass :=
  ⟨rfl, rfl, (List.append_nil _).symm⟩

theorem trans (early : Tally handlers file row first handings second)
    (late : Tally handlers file row second others third) :
    Tally handlers file row first (handings ++ others) third where
  path_eq := late.path_eq.trans early.path_eq
  applied_eq := by
    rw [late.applied_eq, early.applied_eq, List.countP_append, Nat.add_assoc]
  unknown_eq := by
    rw [late.unknown_eq, early.unknown_eq, early.path_eq, List.filter_append, List.map_append,
      List.append_assoc]

/-- What neither counts nor reports an unknown verb does not matter. -/
theorem of_report_eq (path_eq : (second.project.file file).path = (first.project.file file).path)
    (applied_eq : second.report.applied = first.report.applied)
    (unknown_eq : second.report.unknownVerbs = first.report.unknownVerbs)
    (halted_eq : second.halted = first.halted) : Tally handlers file row first [] second where
  path_eq := path_eq
  applied_eq := by simp [applied_eq, halted_eq]
  unknown_eq := by simp [unknown_eq]

theorem problem {context : DirectiveContext} {problem : Problem}
    (known : problem.isUnknownVerb = false) :
    Tally handlers file row pass [] (pass.problem context problem) := by
  refine of_report_eq rfl rfl ?_ rfl
  simp [Report.unknownVerbs, Pass.problem, known]

end Tally

variable {handlers : List (Text × Handler)} {file : FileId} {row : BlockId → Int}
variable {content : ContentId} {comment : BlockId} {context : DirectiveContext}
variable {next : Option BlockId} {pass entered after : Pass} {handings : List Handing}

theorem unknownVerbs_on {effect : Effect}
    (known : ∀ issue ∈ effect.issues, issue.problem.isUnknownVerb = false) :
    (effect.on file pass).report.unknownVerbs = pass.report.unknownVerbs := by
  have nothing : effect.issues.filter (fun issue => issue.problem.isUnknownVerb) = [] := by
    apply List.filter_eq_nil_iff.mpr
    intro issue reported
    simp [known issue reported]
  rw [Report.unknownVerbs, Effect.on, List.filter_append, nothing, List.append_nil,
    Report.unknownVerbs]

/-- One directive that has its turn. -/
theorem tally_applyDirective (repeating : Handler.AllRepeating handlers)
    (directive : Directive) (going : ¬ pass.halted)
    (atRow : (pass.project.forest.block context.comment).row = row context.comment) :
    Tally handlers context.file row pass [⟨content, context, directive⟩]
      (applyDirective handlers context directive pass) := by
  obtain ⟨effect, effects, applied_eq, -⟩ :=
    exists_effect_applyDirective repeating (.refl pass) context directive
  rw [applied_eq]
  refine ⟨Effect.path_on .., ?_, ?_⟩
  · cases effects with
    | unknown missing => simp [Effect.on, Effect.ofProblem, missing]
    | halting known modest halts =>
        simp_all [Effect.on, modest.applied_eq]
    | counted known modest goes =>
        simp_all [Effect.on, Effect.andThen, modest.applied_eq]
  · cases effects with
    | unknown missing =>
        simp [Effect.on, Effect.ofProblem, missing, Report.unknownVerbs, Problem.isUnknownVerb,
          Handing.unknownIssue, atRow]
    | halting known modest halts => simp [unknownVerbs_on modest.known, known]
    | counted known modest goes =>
        rw [unknownVerbs_on (by simpa [Effect.andThen] using modest.known)]
        simp [known]

/-- The directives of a comment, until the pass is halted. -/
theorem tally_handed (noting : Handler.AllNoting handlers)
    (repeating : Handler.AllRepeating handlers) (directives : List Directive)
    (atRow : (pass.project.forest.block context.comment).row = row context.comment) :
    Tally handlers context.file row pass (handed handlers content context directives pass)
      (applyAll handlers context directives pass) := by
  induction directives generalizing pass with
  | nil => exact .refl pass
  | cons directive directives ih =>
      by_cases halted : pass.halted
      · rw [applyAll_of_halted _ halted, handed, if_pos halted]
        exact .refl pass
      · have notes := (noted_applyDirective noting context directive pass).notes
        rw [applyAll, List.foldl_cons, andThen_of_going halted, handed, if_neg halted]
        refine (tally_applyDirective repeating directive halted atRow).trans (ih ?_)
        rwa [notes.forest.block_eq]

/-- A body that is opened or reported to be missing. -/
theorem tally_opened :
    Tally handlers file row (applied handlers file comment pass) []
      (opened handlers file comment pass) := by
  rw [opened, andThen]
  split
  · exact .refl _
  · split
    · rw [enterBody]
      split
      · exact .problem rfl
      · dsimp only
        split
        · exact .problem rfl
        · split <;> exact .of_report_eq rfl rfl rfl rfl
    · exact .refl _

/-- What is cut off after a comment. -/
theorem tally_closed :
    Tally handlers file row entered [] (closed file comment pass content entered) := by
  rw [closed, andThen]
  split
  · exact .refl _
  · split
    · rw [stopAfter]
      split
      · refine .of_report_eq ?_ rfl rfl rfl
        exact Project.view_modifyFile SourceFile.path fun _ => rfl
      · exact .of_report_eq rfl rfl rfl rfl
    · exact .refl _

/-- A comment, up to the body that it leads into. -/
theorem tally_turns (noting : Handler.AllNoting handlers) (repeating : Handler.AllRepeating handlers)
    (atRow : (pass.project.forest.block comment).row = row comment) :
    Tally handlers file row pass (turns handlers file comment pass content)
      (opened handlers file comment pass) := by
  have handedOver : Tally handlers file row pass (turns handlers file comment pass content)
      (applied handlers file comment pass) :=
    @tally_handed _ _ content (contextAt file comment pass) pass noting repeating _ atRow
  have whole := handedOver.trans tally_opened
  rwa [List.append_nil] at whole

/-- The blocks of a pass start at the rows that are given. -/
def RowsAt (row : BlockId → Int) (pass : Pass) : Prop :=
  ∀ id, pass.project.forest.HasBlock id → (pass.project.forest.block id).row = row id

/-- Blocks start where they did before. -/
theorem RowsAt.before (rows : RowsAt row after) (keeps : pass.project.Keeps after.project) :
    RowsAt row pass := by
  intro id has
  rw [← rows id (keeps.forest.hasBlock id has), keeps.forest.block_eq id has]

/-- The directives of a whole walk. -/
theorem Tour.tally {visits : List Visit} (noting : Handler.AllNoting handlers)
    (repeating : Handler.AllRepeating handlers)
    (tour : Tour handlers file content next pass visits after) (meets : Meets content next pass)
    (rows : RowsAt row after) :
    Tally handlers file row pass (visits.flatMap (Visit.turns handlers file)) after := by
  induction tour with
  | finished => exact .refl _
  | halted isHalted => exact .refl _
  | silent going isSilent rest ih => exact ih meets.silent rows
  | @around content id pass later after going speaks shut rest ih =>
      obtain ⟨toOpened, toClosed, meetsLater⟩ := meets.closed noting file .refl
      have rowsHere := rows.before ((toOpened.trans toClosed).trans (rest.keeps noting meetsLater))
      have atRow := rowsHere id (meets.sound.forest.placed.hasBlock (meets.member id rfl))
      exact (tally_turns noting repeating atRow).trans (tally_closed.trans (ih meetsLater rows))
  | @inside content inner id pass within entered later after going speaks leads body rest ihBody ih =>
      have start := meets.body noting leads
      obtain ⟨toOpened, toClosed, meetsLater⟩ := meets.closed noting file (body.moves noting start)
      have rowsEntered := rows.before (toClosed.trans (rest.keeps noting meetsLater))
      have rowsHere := rowsEntered.before (toOpened.trans (body.keeps noting start))
      have atRow := rowsHere id (meets.sound.forest.placed.hasBlock (meets.member id rfl))
      rw [List.flatMap_cons, List.flatMap_append]
      exact (tally_turns noting repeating atRow).trans
        ((ihBody start rowsEntered).trans (tally_closed.trans (ih meetsLater rows)))

end Pass

end Docweave
