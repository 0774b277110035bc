import Docweave.Proofs.Directive.Walk

/-!
# Directives that fail

A handler looks up all that it needs before it writes anything down.  So a directive that reports an
error leaves blocks and files as they were, with one exception: the design pattern of a single
instance is noted before it turns out that the instance has no name.
-/

namespace Docweave

open Text

namespace Pass

variable {inside : ContentId → Pass → Pass} {content : ContentId} {context : DirectiveContext}
variable {directive : Directive} {args : List Text} {before after pass : Pass}

/-! ## One directive of a comment -/

/-- Carry out one directive of a comment: its handler comes first, and then the verb may ask for the
body of the target, in which `inside` goes through the blocks, or for a cut after the comment. -/
def carryOut (inside : ContentId → Pass → Pass) (content : ContentId) (context : DirectiveContext)
    (directive : Directive) (pass : Pass) : Pass :=
  let applied := pass.andThen (applyDirective Handler.builtIn context directive)
  let entered := applied.andThen fun pass =>
    if directive.verb = parseVerb then enterBody inside context pass else pass
  entered.andThen fun pass => if directive.verb = stopVerb then stopAfter content context pass else pass

/-- What a directive does of its own; the directives inside a body are left to themselves. -/
def carryOutAlone : ContentId → DirectiveContext → Directive → Pass → Pass :=
  carryOut fun _ pass => pass

/-- A comment with one directive has it carried out. -/
theorem applyComment_singleton {file : FileId} {comment : BlockId}
    (single : directivesAt comment pass = [directive]) :
    applyComment Handler.builtIn inside file content comment pass =
      carryOut inside content (contextAt file comment pass) directive pass := by
  have applied_eq : applied Handler.builtIn file comment pass =
      pass.andThen (applyDirective Handler.builtIn (contextAt file comment pass) directive) := by
    rw [applied, single]
    rfl
  have asks_eq : ∀ verb, asks comment pass verb = decide (directive.verb = verb) := by
    intro verb
    simp [asks, single, beq_eq_decide]
  rw [applyComment_eq, ← enterBody_eq, closed, applied_eq, asks_eq, asks_eq, carryOut]
  simp only [decide_eq_true_eq]

/-! ## Errors -/

/-- Number of errors that have been reported. -/
def errors (pass : Pass) : Nat := pass.report.count .error

theorem errors_problem (context : DirectiveContext) (problem : Problem) (pass : Pass) :
    (pass.problem context problem).errors =
      pass.errors + if problem.severity = .error then 1 else 0 := by
  simp [errors, Report.count, Pass.problem, List.countP_append]

theorem errors_wrongCount (context : DirectiveContext) (expected : Text) (args : List Text)
    (pass : Pass) : (pass.wrongCount context expected args).errors = pass.errors + 1 := by
  have isError : (Problem.argumentCount context.verb expected args.length).severity = .error := rfl
  rw [wrongCount, errors_problem, if_pos isError]

theorem errors_eq_of_issues_eq (same : after.report.issues = before.report.issues) :
    after.errors = before.errors := by
  rw [errors, Report.count, same]
  rfl

theorem errors_stopAfter : (stopAfter content context pass).errors = pass.errors := by
  rw [stopAfter]
  split <;> rfl

/-- Blocks and files are as they were. -/
structure Untouched (before after : Pass) : Prop where
  forest_eq : after.project.forest = before.project.forest
  files_eq : after.project.files = before.project.files

theorem untouched_problem (context : DirectiveContext) (problem : Problem) (pass : Pass) :
    Untouched pass (pass.problem context problem) := ⟨rfl, rfl⟩

/-- All or nothing: when an error is reported, blocks and files are as they were. -/
def AllOrNothing (before after : Pass) : Prop :=
  before.errors < after.errors → Untouched before after

namespace AllOrNothing

theorem problem (problem : Problem) : AllOrNothing pass (pass.problem context problem) :=
  fun _ => untouched_problem context problem pass

/-- What reports nothing may write what it likes. -/
theorem of_errors_eq (same : after.errors = before.errors) : AllOrNothing before after :=
  fun fails => absurd same (Nat.ne_of_gt fails)

/-- What says and writes nothing may come first. -/
theorem after_untouched {middle : Pass} (untouched : Untouched before middle)
    (same : middle.errors = before.errors) (late : AllOrNothing middle after) :
    AllOrNothing before after := by
  intro fails
  rw [← same] at fails
  have rest := late fails
  exact ⟨rest.forest_eq.trans untouched.forest_eq, rest.files_eq.trans untouched.files_eq⟩

theorem withBlock {path : Text} {next : BlockId → Pass → Pass}
    (each : ∀ id, AllOrNothing pass (next id pass)) :
    AllOrNothing pass (pass.withBlock context path next) := by
  rw [Pass.withBlock]
  split
  · exact each _
  · exact problem _

end AllOrNothing

/-! ## Arguments without placeholders -/

theorem expand_of_plain (forest : Forest) (target : Option BlockId) (includeTarget : Bool)
    (plain : Placeholder.inAny args = false) :
    Placeholder.expand forest args target includeTarget = .ok [args] := by
  have readAll_eq : Placeholder.readAll args = .ok (args.map fun _ => []) := by
    rw [Placeholder.readAll]
    induction args with
    | nil => rfl
    | cons arg args ih =>
        simp only [Placeholder.inAny, List.any_cons, Bool.or_eq_false_iff, Bool.not_eq_false',
          List.isEmpty_iff] at plain
        rw [List.mapM_cons, plain.1, ih plain.2]
        rfl
  have noneRead : (args.map fun _ => ([] : List Placeholder)).all List.isEmpty = true := by
    simp
  rw [Placeholder.expand, readAll_eq]
  simp only [bind, Except.bind, noneRead, if_true]

/-- Arguments without placeholders stand for themselves. -/
theorem forExpanded_of_plain {next : List Text → Pass → Pass}
    (plain : Placeholder.inAny args = false) :
    pass.forExpanded context args next = next args pass := by
  rw [forExpanded, expand_of_plain _ _ _ plain]
  rfl

end Pass

/-! ## Handlers -/

namespace Handler

open Pass

variable {context : DirectiveContext} {args : List Text} {pass : Pass}

/-- With arguments without placeholders, the handler does all or nothing. -/
def Careful (handler : Handler) : Prop :=
  ∀ context args pass, Placeholder.inAny args = false → AllOrNothing pass (handler context args pass)

theorem careful_aliasing : Careful aliasing := by
  intro context args pass plain
  unfold aliasing
  split
  · split
    · exact .of_errors_eq rfl
    · exact .problem _
  · rw [forExpanded_of_plain plain]
    exact .withBlock fun _ => .of_errors_eq rfl
  · exact .problem _

theorem careful_assigning : Careful assigning := by
  intro context args pass plain
  unfold assigning
  split
  · rw [forExpanded_of_plain plain]
    dsimp only
    rw [assignPath]
    split
    · exact .problem _
    · apply AllOrNothing.withBlock
      intro owner
      apply AllOrNothing.withBlock
      intro id
      exact .of_errors_eq rfl
  · exact .problem _

theorem careful_exporting : Careful exporting := by
  intro context args pass plain
  unfold exporting
  split
  · split
    · exact .of_errors_eq rfl
    · exact .of_errors_eq rfl
  · rw [forExpanded_of_plain plain]
    exact .withBlock fun _ => .of_errors_eq rfl
  · exact .problem _

theorem careful_steering : Careful steering := fun _ _ _ _ => .of_errors_eq rfl

/-- The arguments name the pattern of a single instance, and no instance. -/
def LacksInstance (args : List Text) : Prop := args = ["singleton".toList]

theorem allOrNothing_designPattern (named : ¬ LacksInstance args) :
    AllOrNothing pass (designPattern context args pass) := by
  match args with
  | [] => exact .problem _
  | name :: rest =>
      unfold designPattern
      dsimp only
      split
      · rename_i single
        match rest with
        | [] => exact absurd (congrArg (· :: []) single) named
        | _ :: _ => exact .of_errors_eq rfl
      · -- That a pattern is not known is a warning.
        apply AllOrNothing.of_errors_eq
        rw [errors_problem, if_neg (by simp [Problem.severity])]
        rfl

/-- The file with a remark that it has a single instance. -/
def withSinglePattern (file : SourceFile) : SourceFile :=
  { file with remarks := Value.putEntry (· == ·) "pattern" (.text "singleton") file.remarks }

/-- The remark is made although an error is reported. -/
theorem designPattern_of_lacksInstance (lacks : LacksInstance args) :
    designPattern context args pass =
      (pass.modifyFile context withSinglePattern).wrongCount context "2" args := by
  subst lacks
  rfl

/-- The design pattern is the only handler that may write before it reports an error. -/
theorem allOrNothing_of_builtIn {verb : Text} {handler : Handler} (context : DirectiveContext)
    (pass : Pass) (found : (verb, handler) ∈ builtIn) (plain : Placeholder.inAny args = false)
    (named : ¬ (verb = "pattern".toList ∧ LacksInstance args)) :
    AllOrNothing pass (handler context args pass) := by
  simp only [builtIn, List.mem_cons, Prod.mk.injEq, List.not_mem_nil, or_false] at found
  rcases found with ⟨rfl, rfl⟩ | ⟨rfl, rfl⟩ | ⟨rfl, rfl⟩ | ⟨rfl, rfl⟩ | ⟨rfl, rfl⟩ | ⟨rfl, rfl⟩
  · exact careful_aliasing _ _ _ plain
  · exact careful_assigning _ _ _ plain
  · exact careful_exporting _ _ _ plain
  · exact careful_steering _ _ _ plain
  · exact allOrNothing_designPattern fun lacks => named ⟨rfl, lacks⟩
  · exact careful_steering _ _ _ plain

end Handler

namespace Pass

variable {content : ContentId} {context : DirectiveContext} {directive : Directive} {pass : Pass}

/-- The directive notes the pattern of a single instance without a name for the instance. -/
def LacksInstance (directive : Directive) : Prop :=
  directive.verb = "pattern".toList ∧ Handler.LacksInstance directive.args

theorem allOrNothing_applyDirective (plain : Placeholder.inAny directive.args = false)
    (named : ¬ LacksInstance directive) :
    AllOrNothing pass (applyDirective Handler.builtIn context directive pass) := by
  rw [applyDirective]
  split
  · exact .problem _
  · rename_i handler found
    obtain ⟨entry, atVerb, rfl⟩ := Option.map_eq_some_iff.mp found
    have sameVerb : entry.1 = directive.verb := by simpa using List.find?_some atVerb
    have isBuiltIn : (directive.verb, entry.2) ∈ Handler.builtIn := by
      rw [← sameVerb]
      exact List.mem_of_find?_eq_some atVerb
    have handled := Handler.allOrNothing_of_builtIn { context with verb := directive.verb } pass
      isBuiltIn plain named
    rw [andThen]
    split
    · exact handled
    · exact fun fails => ⟨(handled fails).forest_eq, (handled fails).files_eq⟩

theorem applyDirective_of_steering
    (steers : directive.verb = parseVerb ∨ directive.verb = stopVerb) :
    applyDirective Handler.builtIn context directive pass =
      pass.andThen fun applied =>
        { applied with report := { applied.report with applied := applied.report.applied + 1 } } := by
  rw [applyDirective]
  rcases steers with verb | verb
  · rw [verb]
    rfl
  · rw [verb]
    rfl

/-- Either there is no body whose blocks can be gone through, or nothing is reported before that. -/
inductive Entering (context : DirectiveContext) (pass alone : Pass) : Prop
  | stays (careful : AllOrNothing pass alone)
      (same : ∀ inside, enterBody inside context pass = alone)
  | opens (report_eq : alone.report = pass.report) (inner : ContentId)
      (enters : ∀ inside, enterBody inside context pass = inside inner alone)

theorem entering (context : DirectiveContext) (pass : Pass) :
    Entering context pass (enterBody (fun _ pass => pass) context pass) := by
  obtain ⟨file, comment, target, verb⟩ := context
  cases target with
  | none => exact .stays (.problem _) fun _ => rfl
  | some id =>
      cases found : (pass.project.forest.block id).body? with
      | none =>
          apply Entering.stays
          · simp only [enterBody, found]
            exact .problem _
          · intro inside
            simp only [enterBody, found]
      | some body =>
          cases nested : ((pass.modifyForest (Forest.openBody id)).project.forest.entry id).nested with
          | none =>
              apply Entering.stays
              · simp only [enterBody, found, nested]
                exact .of_errors_eq rfl
              · intro inside
                simp only [enterBody, found, nested]
          | some inner =>
              refine .opens ?_ inner ?_
              · simp only [enterBody, found, nested]
                rfl
              · intro inside
                simp only [enterBody, found, nested]

theorem andThen_self : pass.andThen (fun pass => pass) = pass := by
  rw [andThen, ite_self]

/-- A directive that steers nothing is done with when its handler is. -/
theorem carryOut_of_other (noParse : directive.verb ≠ parseVerb) (noStop : directive.verb ≠ stopVerb) :
    carryOut inside content context directive pass =
      pass.andThen (applyDirective Handler.builtIn context directive) := by
  simp only [carryOut, if_neg noParse, if_neg noStop, andThen_self]

theorem carryOut_of_stop (stops : directive.verb = stopVerb) :
    carryOut inside content context directive pass =
      (pass.andThen (applyDirective Handler.builtIn context directive)).andThen
        (stopAfter content context) := by
  have noParse : directive.verb ≠ parseVerb := by
    rw [stops]
    decide
  simp only [carryOut, if_neg noParse, if_pos stops, andThen_self]

theorem carryOut_of_parse (parses : directive.verb = parseVerb) :
    carryOut inside content context directive pass =
      (pass.andThen (applyDirective Handler.builtIn context directive)).andThen
        (enterBody inside context) := by
  have noStop : directive.verb ≠ stopVerb := by
    rw [parses]
    decide
  simp only [carryOut, if_pos parses, if_neg noStop, andThen_self]

/-- A steering directive is counted, and nothing is said or written. -/
theorem report_applied_of_steering (context : DirectiveContext) (pass : Pass)
    (steers : directive.verb = parseVerb ∨ directive.verb = stopVerb) :
    let applied := pass.andThen (applyDirective Handler.builtIn context directive)
    applied.report.issues = pass.report.issues ∧ Untouched pass applied := by
  intro applied
  simp only [applied, applyDirective_of_steering steers, andThen]
  split <;> exact ⟨rfl, rfl, rfl⟩

/-- A pattern that lacks its instance is an error, and is noted. -/
theorem applyDirective_of_lacksInstance (context : DirectiveContext) (pass : Pass)
    (lacks : LacksInstance directive) :
    let applied := applyDirective Handler.builtIn context directive pass
    pass.errors < applied.errors ∧ applied.project.forest = pass.project.forest ∧
      applied.project.files =
        (pass.project.modifyFile context.file Handler.withSinglePattern).files := by
  intro applied
  obtain ⟨verb, args⟩ := lacks
  have handled : applied = (Handler.designPattern { context with verb := directive.verb }
      directive.args pass).andThen fun applied =>
        { applied with report := { applied.report with applied := applied.report.applied + 1 } } := by
    simp only [applied, applyDirective, verb]
    rfl
  rw [handled, Handler.designPattern_of_lacksInstance args]
  have fails : pass.errors < ((pass.modifyFile { context with verb := directive.verb }
      Handler.withSinglePattern).wrongCount { context with verb := directive.verb } "2"
        directive.args).errors := by
    rw [errors_wrongCount]
    exact Nat.lt_succ_self _
  rw [andThen]
  split
  · exact ⟨fails, rfl, rfl⟩
  · exact ⟨fails, rfl, rfl⟩

/-- A directive that is carried out does all or nothing, but for the pattern without an instance. -/
theorem allOrNothing_carryOutAlone (plain : Placeholder.inAny directive.args = false)
    (named : ¬ LacksInstance directive) :
    AllOrNothing pass (carryOutAlone content context directive pass) := by
  let applied := pass.andThen (applyDirective Handler.builtIn context directive)
  have handled : AllOrNothing pass applied := by
    simp only [applied, andThen]
    split
    · exact .of_errors_eq rfl
    · exact allOrNothing_applyDirective plain named
  rw [carryOutAlone]
  by_cases parses : directive.verb = parseVerb
  · obtain ⟨issues_eq, untouched⟩ := report_applied_of_steering context pass (.inl parses)
    rw [carryOut_of_parse parses, andThen]
    split
    · exact handled
    · apply AllOrNothing.after_untouched untouched (errors_eq_of_issues_eq issues_eq)
      cases entering context applied with
      | stays careful same => exact careful
      | opens report_eq inner enters =>
          exact .of_errors_eq (congrArg (Report.count · .error) report_eq)
  by_cases stops : directive.verb = stopVerb
  · obtain ⟨issues_eq, -⟩ := report_applied_of_steering context pass (.inr stops)
    rw [carryOut_of_stop stops, andThen]
    split
    · exact handled
    · exact .of_errors_eq (errors_stopAfter.trans (errors_eq_of_issues_eq issues_eq))
  · rw [carryOut_of_other parses stops]
    exact handled

/-- The directives inside a body are all that is carried out besides, and only when nothing has been
reported. -/
theorem carryOut_cases (inside : ContentId → Pass → Pass) (content : ContentId)
    (context : DirectiveContext) (directive : Directive) (pass : Pass) :
    let alone := carryOutAlone content context directive pass
    carryOut inside content context directive pass = alone ∨
      alone.report.issues = pass.report.issues ∧
        ∃ inner, carryOut inside content context directive pass = inside inner alone := by
  intro alone
  let applied := pass.andThen (applyDirective Handler.builtIn context directive)
  by_cases parses : directive.verb = parseVerb
  · obtain ⟨issues_eq, -⟩ := report_applied_of_steering context pass (.inl parses)
    simp only [alone, carryOutAlone, carryOut_of_parse parses]
    by_cases halted : applied.halted
    · rw [andThen_of_halted halted, andThen_of_halted halted]
      exact .inl rfl
    · rw [andThen_of_going halted, andThen_of_going halted]
      cases entering context applied with
      | stays careful same => exact .inl (same inside)
      | opens report_eq inner enters =>
          exact .inr ⟨(congrArg Report.issues report_eq).trans issues_eq, inner, enters inside⟩
  by_cases stops : directive.verb = stopVerb
  · simp only [alone, carryOutAlone, carryOut_of_stop stops]
    exact .inl trivial
  · simp only [alone, carryOutAlone, carryOut_of_other parses stops]
    exact .inl trivial

end Pass

namespace Project

open Pass

/-- A directive without placeholders that reports an error leaves blocks and files as they were, but
for the pattern of a single instance, which is noted before its instance is missed.  Where a directive
asks for a body that is there, it reports nothing itself: the body is left to the directives inside. -/
theorem untouched_of_failing (content : ContentId) (context : DirectiveContext)
    (directive : Directive) (pass : Pass) (plain : Placeholder.inAny directive.args = false) :
    let alone := carryOutAlone content context directive pass
    (pass.errors < alone.errors →
      alone.project.forest = pass.project.forest ∧
      (¬ LacksInstance directive → alone.project.files = pass.project.files) ∧
      (LacksInstance directive → alone.project.files =
        (pass.project.modifyFile context.file Handler.withSinglePattern).files)) ∧
    ∀ inside, carryOut inside content context directive pass = alone ∨
      alone.report.issues = pass.report.issues ∧
        ∃ inner, carryOut inside content context directive pass = inside inner alone := by
  intro alone
  refine ⟨fun fails => ?_, fun inside => carryOut_cases inside content context directive pass⟩
  by_cases lacks : LacksInstance directive
  · have alone_eq : alone = pass.andThen (applyDirective Handler.builtIn context directive) := by
      apply carryOut_of_other
      · rw [lacks.1]
        decide
      · rw [lacks.1]
        decide
    by_cases halted : pass.halted
    · rw [alone_eq, andThen_of_halted halted] at fails
      exact absurd rfl (Nat.ne_of_lt fails)
    · obtain ⟨-, forest_eq, files_eq⟩ := applyDirective_of_lacksInstance context pass lacks
      rw [alone_eq, andThen_of_going halted]
      exact ⟨forest_eq, fun named => absurd lacks named, fun _ => files_eq⟩
  · have untouched := allOrNothing_carryOutAlone plain lacks fails
    exact ⟨untouched.forest_eq, fun _ => untouched.files_eq, fun lacking => absurd lacking lacks⟩

/-- A field of a method is to be documented by a block that is not there. -/
theorem untouched_of_failing_assign :
    let text : Text := "class A \x7b\n  run() \x7b\x7d\n\x7d\n// @assign A.prototype.run.doc nowhere\nvar b = 1\n"
    let project := (addFile text 1 none none none {}).1
    let context := contextAt ⟨0⟩ ⟨2⟩ { project }
    let directive : Directive := ⟨"assign", ["A.prototype.run.doc".toList, "nowhere".toList], 4⟩
    let alone := carryOutAlone (project.file ⟨0⟩).content context directive { project }
    (project.forest.block ⟨2⟩).directives = [directive] ∧
      Placeholder.inAny directive.args = false ∧ errors { project } < alone.errors ∧
      ¬ LacksInstance directive ∧
      alone.project.forest = project.forest ∧ alone.project.files = project.files := by
  intro text project context directive alone
  obtain ⟨single, plain, fails⟩ : (project.forest.block ⟨2⟩).directives = [directive] ∧
      Placeholder.inAny directive.args = false ∧ errors { project } < alone.errors := by
    decide +kernel
  have named : ¬ LacksInstance directive := fun lacks => absurd lacks.1 (by decide)
  clear_value project context directive
  obtain ⟨untouched, -⟩ := untouched_of_failing (project.file ⟨0⟩).content context directive
    { project } plain
  obtain ⟨forest_eq, files_eq, -⟩ := untouched fails
  exact ⟨single, plain, fails, named, forest_eq, files_eq named⟩

/-- The pattern of a single instance without a name is an error, and there is a remark on it. -/
theorem remarked_of_failing_pattern :
    let text : Text := "// @pattern singleton\nvar a = 1\n"
    let project := (addFile text 1 none none none {}).1
    let context := contextAt ⟨0⟩ ⟨0⟩ { project }
    let directive : Directive := ⟨"pattern", ["singleton".toList], 1⟩
    let alone := carryOutAlone (project.file ⟨0⟩).content context directive { project }
    (project.forest.block ⟨0⟩).directives = [directive] ∧
      Placeholder.inAny directive.args = false ∧ errors { project } < alone.errors ∧
      (project.file ⟨0⟩).remarks.map Prod.fst = [] ∧
      (alone.project.file ⟨0⟩).remarks.map Prod.fst = ["pattern".toList] := by
  decide +kernel

end Project

end Docweave
