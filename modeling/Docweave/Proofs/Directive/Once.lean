import Mathlib.Algebra.Order.BigOperators.Group.List
import Mathlib.Algebra.Order.Group.Nat
import Mathlib.Data.List.Pairwise
import Docweave.Proofs.Block.Directives
import Docweave.Proofs.Directive.Tally
import Docweave.Proofs.Forest.Owner

/-!
# Directives that have their turn once

A body is gone into once for each comment that leads into it.  So a directive has its turn once,
as long as no two comments ask for the body of the same code.
-/

namespace Docweave

open Text

/-! ## The directives of a comment -/

theorem CommentInfo.rows_increase (number : Int) (unmarked : List Text) :
    (ofRows number unmarked).directives.Pairwise fun early late => early.row < late.row := by
  induction unmarked generalizing number with
  | nil => exact .nil
  | cons row rest ih =>
      simp only [ofRows]
      split
      · refine .cons ?_ (ih (number + 1))
        intro directive later
        obtain ⟨offset, -, -, row_eq, -⟩ := standsOn_of_mem_ofRows later
        rw [row_readDirective, row_eq]
        omega
      · exact ih (number + 1)

/-- A comment has each of its directives once, since they stand on different rows. -/
theorem Block.directives_nodup (block : Block) : block.directives.Nodup := by
  have distinct : ∀ kind raw row, (CommentInfo.read kind raw row).directives.Nodup := by
    intro kind raw row
    apply List.Pairwise.imp _ (CommentInfo.rows_increase row _)
    rintro early late before rfl
    exact Int.lt_irrefl _ before
  rw [directives, info]
  cases kind : block.kind with
  | lineComment | blockComment => exact distinct ..
  | moduleImport | functionDecl | variableDecl | classDecl | methodDecl | assignment | unknown =>
      exact .nil

namespace Pass

variable {handlers : List (Text × Handler)} {file : FileId} {content : ContentId}
variable {context : DirectiveContext} {next : Option BlockId} {pass after : Pass}
variable {visits : List Visit}

/-- Directives have their turn in the order in which they stand in the comment. -/
theorem handed_isPrefix (directives : List Directive) :
    (handed handlers content context directives pass).map Handing.directive <+: directives := by
  induction directives generalizing pass with
  | nil => exact List.nil_prefix
  | cons directive directives ih =>
      rw [handed]
      split
      · exact List.nil_prefix
      · exact List.prefix_cons_inj _ |>.mpr ih

end Pass

namespace Visit

variable {handlers : List (Text × Handler)} {file : FileId} {visit other : Visit}
variable {inner : ContentId} {first second : Pass}

/-- No directive has its turn twice on a visit. -/
theorem turns_nodup :
    ((visit.turns handlers file).map fun handing =>
      (handing.context.comment, handing.directive)).Nodup := by
  have distinct : ((visit.turns handlers file).map Handing.directive).Nodup :=
    (Block.directives_nodup _).sublist (Pass.handed_isPrefix _).sublist
  apply List.Nodup.of_map Prod.snd
  rwa [List.map_map]

/-- A visit that leads into a body comes to a comment that asks for it. -/
theorem asks_parse (found : visit.inner? handlers file = some inner) :
    Pass.asks visit.comment visit.pass Pass.parseVerb := by
  rw [inner?, Pass.inner?] at found
  split at found
  · cases found
  · rename_i goes
    rw [Bool.or_eq_true, not_or, Bool.not_eq_true', Bool.not_eq_false] at goes
    exact goes.2

/-- A visit that leads into a body has had the turn of a directive `parse`. -/
theorem exists_parse (found : visit.inner? handlers file = some inner) :
    ∃ handing ∈ visit.turns handlers file, handing.directive.verb = Pass.parseVerb ∧
      handing.context = Pass.contextAt file visit.comment visit.pass := by
  obtain ⟨-, -, goes, -⟩ := Pass.of_leads found
  obtain ⟨directive, present, parses⟩ := List.any_eq_true.mp (asks_parse found)
  exact ⟨_, Pass.mem_handed goes present, by simpa using parses, rfl⟩

end Visit

/-! ## Each comment once -/

/-- Two directives `parse` ask for the body of the same code. -/
def Handing.SharesBody (forest : Forest) (first second : Handing) : Prop :=
  first.directive.verb = Pass.parseVerb ∧ second.directive.verb = Pass.parseVerb ∧
    ∃ target, first.context.target = some target ∧ second.context.target = some target ∧
      (forest.block target).body?.isSome

namespace Pass

variable {handlers : List (Text × Handler)} {file : FileId} {content : ContentId}
variable {next : Option BlockId} {pass after : Pass} {visits : List Visit}

/-- Comments that ask for the same body are one comment. -/
def Unshared (forest : Forest) (handings : List Handing) : Prop :=
  ∀ first ∈ handings, ∀ second ∈ handings, first.SharesBody forest second →
    second.context.comment = first.context.comment

/-- At any two moments of a tour, a block stands in one content. -/
theorem Tour.content_unique (tour : Tour handlers file content next pass visits after)
    (noting : Handler.AllNoting handlers) (meets : Meets content next pass)
    {visit other : Visit} {block : BlockId} (visited : visit ∈ visits) (visitedOther : other ∈ visits)
    (member : block ∈ visit.pass.project.forest.members visit.content)
    (memberOther : block ∈ other.pass.project.forest.members other.content) :
    other.content = visit.content := by
  have symmetric : Std.Symm fun early late : Visit =>
      early.pass.project.Keeps late.pass.project ∨ late.pass.project.Keeps early.pass.project :=
    ⟨fun _ _ => Or.symm⟩
  have compared := ((tour.pairwise_keeps noting meets).imp fun {early late} keeps =>
    (Or.inl keeps : early.pass.project.Keeps late.pass.project ∨
      late.pass.project.Keeps early.pass.project)).forall_of_forall
    (fun visit _ => .inl (.refl _)) visited visitedOther
  have between := tour.between noting meets
  rcases compared with keeps | keeps
  · exact (between visit visited).content_unique (between other visitedOther) keeps member memberOther
  · exact ((between other visitedOther).content_unique (between visit visited) keeps memberOther
      member).symm

/-- The visits that lead into one content are visits of one comment in one content. -/
theorem Tour.leads_unique (tour : Tour handlers file content next pass visits after)
    (noting : Handler.AllNoting handlers) (meets : Meets content next pass)
    (owned : after.project.forest.Owned)
    (unshared : Unshared after.project.forest (visits.flatMap (Visit.turns handlers file)))
    {visit other : Visit} {inner : ContentId} (visited : visit ∈ visits)
    (visitedOther : other ∈ visits) (found : visit.inner? handlers file = some inner)
    (foundOther : other.inner? handlers file = some inner) :
    other.content = visit.content ∧ other.comment = visit.comment := by
  have between := tour.between noting meets visit visited
  have betweenOther := tour.between noting meets other visitedOther
  obtain ⟨target, isTarget, nested⟩ := between.leads found
  obtain ⟨targetOther, isTargetOther, nestedOther⟩ := betweenOther.leads foundOther
  obtain rfl := owned.unique nested nestedOther
  constructor
  · apply tour.content_unique noting meets visited visitedOther
    · exact Forest.mem_members_of_next? between.meets.sound.forest.placed between.member isTarget
    · exact Forest.mem_members_of_next? betweenOther.meets.sound.forest.placed betweenOther.member
        isTargetOther
  · obtain ⟨handing, had, parses, context_eq⟩ := visit.exists_parse found
    obtain ⟨handingOther, hadOther, parsesOther, contextOther_eq⟩ := other.exists_parse foundOther
    have sound := ((tour.moves noting meets).sound meets.sound).forest
    obtain ⟨body, hasBody, -⟩ := (sound.opened _ _ nested).body
    have same := unshared handing (List.mem_flatMap.mpr ⟨visit, visited, had⟩) handingOther
      (List.mem_flatMap.mpr ⟨other, visitedOther, hadOther⟩)
      ⟨parses, parsesOther, targetOther, by rw [context_eq]; exact isTarget,
        by rw [contextOther_eq]; exact isTargetOther, by rw [hasBody]; rfl⟩
    rw [context_eq, contextOther_eq] at same
    exact same

/-- A content is gone into once at most, if the comments that lead into it are visited once. -/
theorem Tour.entries_le_one (tour : Tour handlers file content next pass visits after)
    (noting : Handler.AllNoting handlers) (meets : Meets content next pass)
    (owned : after.project.forest.Owned)
    (unshared : Unshared after.project.forest (visits.flatMap (Visit.turns handlers file)))
    {stood : ContentId}
    (once : ∀ visit ∈ visits, visit.inner? handlers file = some stood →
      (visits.countP fun other => other.content = visit.content ∧ other.comment = visit.comment) ≤ 1) :
    (visits.countP fun visit => visit.inner? handlers file = some stood) ≤ 1 := by
  by_cases leads : ∃ visit ∈ visits, visit.inner? handlers file = some stood
  · obtain ⟨visit, visited, found⟩ := leads
    refine Nat.le_trans (List.countP_mono_left ?_) (once visit visited found)
    intro other visitedOther foundOther
    have same := tour.leads_unique noting meets owned unshared visited visitedOther found
      (of_decide_eq_true foundOther)
    exact decide_eq_true same
  · have none : (visits.countP fun visit => visit.inner? handlers file = some stood) = 0 := by
      rw [List.countP_eq_zero]
      intro visit visited found
      exact leads ⟨visit, visited, of_decide_eq_true found⟩
    omega

/-- A comment is visited once at most. The induction is on how much shorter the text of its content
is than the longest one: a content is gone into from a content with a longer text. -/
theorem Tour.count_le_one (tour : Tour handlers file content next pass visits after)
    (noting : Handler.AllNoting handlers) (meets : Meets content next pass)
    (owned : after.project.forest.Owned)
    (unshared : Unshared after.project.forest (visits.flatMap (Visit.turns handlers file)))
    (unowned : after.project.forest.Unowned content) (stood : ContentId) (comment : BlockId) :
    (visits.countP fun visit => visit.content = stood ∧ visit.comment = comment) ≤ 1 := by
  let length (content : ContentId) : Nat := (after.project.forest.content content).text.length
  let bound := (visits.map fun visit => length visit.content).sum
  have bounded : ∀ visit ∈ visits, length visit.content ≤ bound := fun visit visited =>
    List.single_le_sum (by simp) _ (List.mem_map_of_mem visited)
  induction shorter : bound - length stood using Nat.strong_induction_on generalizing stood comment with
  | _ shorter ih =>
      have enteredOnce : (visits.countP fun visit => visit.inner? handlers file = some stood) ≤ 1 := by
        apply tour.entries_le_one noting meets owned unshared
        intro visit visited found
        have longer : length stood < length visit.content :=
          (tour.between noting meets visit visited).text_lt noting found
        have short := bounded visit visited
        exact ih (bound - length visit.content) (by omega) visit.content visit.comment rfl
      rcases tour.count_le noting meets stood comment with few | ⟨rfl, -, few⟩
      · exact Nat.le_trans few enteredOnce
      · have none : (visits.countP fun visit => visit.inner? handlers file = some stood) = 0 := by
          rw [List.countP_eq_zero]
          intro visit visited found
          obtain ⟨target, -, nested⟩ :=
            (tour.between noting meets visit visited).leads (of_decide_eq_true found)
          exact unowned target nested
        omega

/-- No directive has its turn twice. -/
theorem Tour.nodup_handings (tour : Tour handlers file content next pass visits after)
    (noting : Handler.AllNoting handlers) (meets : Meets content next pass)
    (owned : after.project.forest.Owned)
    (unshared : Unshared after.project.forest (visits.flatMap (Visit.turns handlers file)))
    (unowned : after.project.forest.Unowned content) :
    ((visits.flatMap (Visit.turns handlers file)).map fun handing =>
      (handing.context.comment, handing.directive)).Nodup := by
  have distinct : (visits.map fun visit => (visit.content, visit.comment)).Nodup := by
    rw [List.nodup_iff_count_le_one]
    rintro ⟨stood, comment⟩
    have few := tour.count_le_one noting meets owned unshared unowned stood comment
    rw [List.count, List.countP_map]
    apply Nat.le_trans (List.countP_mono_left _) few
    intro visit _ same
    simpa [Prod.ext_iff] using eq_of_beq same
  rw [List.map_flatMap, List.nodup_flatMap]
  refine ⟨fun visit _ => Visit.turns_nodup, ?_⟩
  apply List.Pairwise.imp_of_mem _ (List.pairwise_map.mp distinct)
  intro visit other visited visitedOther different
  apply List.disjoint_left.mpr
  intro pair ofVisit ofOther
  obtain ⟨handing, had, rfl⟩ := List.mem_map.mp ofVisit
  obtain ⟨handingOther, hadOther, same⟩ := List.mem_map.mp ofOther
  obtain ⟨-, context_eq, -⟩ := of_mem_handed had
  obtain ⟨-, contextOther_eq, -⟩ := of_mem_handed hadOther
  have sameComment : other.comment = visit.comment := by
    have equal := congrArg Prod.fst same
    rwa [context_eq, contextOther_eq] at equal
  -- The comments are one, so they stand in one content too.
  have member := (tour.between noting meets visit visited).member
  have memberOther := (tour.between noting meets other visitedOther).member
  rw [sameComment] at memberOther
  have sameContent := tour.content_unique noting meets visited visitedOther member memberOther
  exact different (Prod.ext sameContent.symm sameComment.symm)

theorem Tour.start_going (tour : Tour handlers file content next pass visits after)
    (going : ¬ after.halted) : ¬ pass.halted := by
  intro halted
  obtain ⟨-, rfl⟩ := tour.walks.eq_of_halted halted
  exact going halted

/-- A tour that is not halted has handed over all directives of the comments it visits. -/
theorem Tour.going (tour : Tour handlers file content next pass visits after)
    (going : ¬ after.halted) :
    ∀ visit ∈ visits, ¬ (applied handlers file visit.comment visit.pass).halted := by
  induction tour with
  | finished | halted _ => simp
  | silent _ isSilent rest ih => exact ih going
  | around _ speaks shut rest ih =>
      have here := rest.start_going going
      rw [halted_closed, halted_opened] at here
      intro visit visited
      rcases List.mem_cons.mp visited with rfl | later
      · exact here
      · exact ih going visit later
  | inside _ speaks leads body rest ihBody ih =>
      obtain ⟨-, -, here, -⟩ := of_leads leads
      have entered := rest.start_going going
      rw [halted_closed] at entered
      intro visit visited
      rcases List.mem_cons.mp visited with rfl | onward
      · exact here
      · rcases List.mem_append.mp onward with within | later
        · exact ihBody entered visit within
        · exact ih going visit later

end Pass

/-- No body is asked for twice when only one block asks for bodies. -/
theorem Pass.unshared_of_index {forest : Forest} {handings : List Handing} {only : Nat}
    (stand : ∀ handing ∈ handings,
      handing.directive ∈ (forest.block handing.context.comment).directives)
    (unique : ∀ index < forest.entries.size,
      (∃ directive ∈ (forest.block ⟨index⟩).directives, directive.verb = parseVerb) →
        index = only) : Unshared forest handings := by
  have asked : ∀ handing ∈ handings, handing.directive.verb = parseVerb →
      handing.context.comment.index = only := by
    intro handing had parses
    have present := stand handing had
    exact unique _ (Forest.hasBlock_of_directive present) ⟨_, present, parses⟩
  rintro first had second hadSecond ⟨parses, parsesSecond, -⟩
  have sameIndex := (asked second hadSecond parsesSecond).trans (asked first had parses).symm
  exact congrArg BlockId.mk sameIndex

namespace Project

open Pass

/-- A pass over a file comes to an end.  The directives that have their turn stand in comments, and
unless the pass is halted, all directives of a comment have their turn if one has.  Those with a
known verb are counted as applied, but for the one that halts the pass, and for each of the others
there is one issue about its verb and no more.  No directive has its turn twice, as long as no two
comments ask for the body of the same code. -/
theorem once_runFile {project : Project} (built : project.Built) {id : FileId}
    (has : project.HasFile id) (report : Report) :
    let done := Pass.runFile Handler.builtIn id { project, report }
    let forest := done.project.forest
    let known (handing : Handing) := knows Handler.builtIn handing.directive.verb
    ∃ handings, Runs Handler.builtIn id { project, report } handings done ∧
      (∀ handing ∈ handings,
        handing.directive ∈ (forest.block handing.context.comment).directives ∧
        (¬ done.halted → ∀ directive ∈ (forest.block handing.context.comment).directives,
          { handing with directive } ∈ handings)) ∧
      done.report.applied + done.halted.toNat = report.applied + handings.countP known ∧
      done.report.unknownVerbs = report.unknownVerbs ++
        (handings.filter fun handing => !known handing).map
          (Handing.unknownIssue (project.file id).path fun comment => (forest.block comment).row) ∧
      (Unshared forest handings →
        (handings.map fun handing => (handing.context.comment, handing.directive)).Nodup) := by
  intro done forest known
  have noting := Handler.allNoting_builtIn
  have start : ({ project, report } : Pass).project.Sound := built.sound
  obtain ⟨handings, runs⟩ := exists_runs noting start has Bool.false_ne_true
  obtain ⟨walked, walks, project_eq, issues_eq, applied_eq, halted_eq⟩ := runs.walks
  obtain ⟨visits, tour, rfl⟩ := walks.exists_tour
  have meets := Meets.head start (start.hasContent id has)
  have moves := tour.moves noting meets
  have forest_eq : forest = walked.project.forest := congrArg Project.forest project_eq
  have rows : RowsAt (fun comment => (forest.block comment).row) walked := by
    intro comment _
    rw [forest_eq]
  have tally := tour.tally noting Handler.allRepeating_builtIn meets rows
  refine ⟨_, runs, ?_, ?_, ?_, ?_⟩
  · intro handing had
    obtain ⟨visit, visited, turn⟩ := List.mem_flatMap.mp had
    have between := tour.between noting meets visit visited
    obtain ⟨content_eq, context_eq, stands⟩ := between.directive_mem noting turn
    rw [forest_eq, context_eq]
    refine ⟨stands, fun going directive present => List.mem_flatMap.mpr ⟨visit, visited, ?_⟩⟩
    rw [halted_eq] at going
    have turnToo := between.mem_turns noting (tour.going going visit visited) present
    rwa [← content_eq] at turnToo
  · rw [applied_eq, halted_eq]
    exact tally.applied_eq
  · rw [Report.unknownVerbs, issues_eq]
    exact tally.unknown_eq
  · intro unshared
    rw [forest_eq] at unshared
    exact tour.nodup_handings noting meets (moves.owned built.owned) unshared
      ((moves.keeps start).forest.unowned (start.hasContent id has) (start.unowned id has))

/-- One comment leads into a body with a known and an unknown verb, and a comment after it has an
unknown verb too. -/
theorem once_runFile_nested :
    let text : Text := "// @parse\nfunction f() \x7b\n  // @alias b\n  // @oops\n  var a = 1\n\x7d\n// @nope\n"
    let project := (addFile text 1 none none none {}).1
    let done := Pass.runFile Handler.builtIn ⟨0⟩ { project }
    project.Built ∧ project.HasFile ⟨0⟩ ∧
      ∃ handings, Runs Handler.builtIn ⟨0⟩ { project } handings done ∧
        handings.countP (fun handing => knows Handler.builtIn handing.directive.verb) = 2 ∧
        (handings.filter fun handing => !knows Handler.builtIn handing.directive.verb).length = 2 ∧
        Unshared done.project.forest handings ∧
        (handings.map fun handing => (handing.context.comment, handing.directive)).Nodup := by
  intro text project done
  have built : project.Built := .addFile (.empty ['.']) text 1 none none none
  have has : project.HasFile ⟨0⟩ := hasFile_addFile text 1
  obtain ⟨counted, reported, onlyFirst⟩ :
      done.report.applied + done.halted.toNat = 2 ∧ done.report.unknownVerbs.length = 2 ∧
      ∀ index < done.project.forest.entries.size,
        (∃ directive ∈ (done.project.forest.block ⟨index⟩).directives,
          directive.verb = parseVerb) → index = 0 := by
    decide +kernel
  -- What there is to compute is done, and the text need not be read again.
  clear_value project
  obtain ⟨handings, runs, stand, count, unknown, nodup⟩ := once_runFile built has {}
  have unshared : Unshared done.project.forest handings :=
    unshared_of_index (fun handing had => (stand handing had).1) onlyFirst
  refine ⟨built, has, handings, runs, ?_, ?_, unshared, nodup unshared⟩
  · exact (Nat.zero_add _).symm.trans (count.symm.trans counted)
  · have length_eq := congrArg List.length unknown
    rw [List.length_append, List.length_map] at length_eq
    exact (Nat.zero_add _).symm.trans (length_eq.symm.trans reported)

/-- Two comments ask for the body of the same code, so its two directives have their turn twice:
four applications are counted and two issues reported for three known and one unknown directive. -/
theorem twice_runFile_of_sharesBody :
    let text : Text := "// @parse\n\n// @parse\nfunction f() \x7b\n  // @alias b\n  // @oops\n  var a = 1\n\x7d\n"
    let project := (addFile text 1 none none none {}).1
    let done := Pass.runFile Handler.builtIn ⟨0⟩ { project }
    let directives := (List.range done.project.forest.entries.size).flatMap fun index =>
      (done.project.forest.block ⟨index⟩).directives
    ¬ done.halted ∧
      directives.countP (fun directive => knows Handler.builtIn directive.verb) = 3 ∧
      done.report.applied = 4 ∧
      directives.countP (fun directive => !knows Handler.builtIn directive.verb) = 1 ∧
      done.report.unknownVerbs.length = 2 := by
  decide +kernel

end Project

end Docweave
