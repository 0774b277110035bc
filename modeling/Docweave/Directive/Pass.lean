import Docweave.Directive.Report

/-!
# The pass over the directives

Directives stand in comments and apply to the first code after the comment, or to the file when there is
none. A pass goes through the blocks of a file in order. Each verb has a handler, which changes names,
aliases, fields or remarks; two verbs also steer the pass itself: `parse` goes into the body of the code,
and `stop` drops all blocks after the comment.
-/

namespace Docweave

open Text

/-- A directive that was handed to an observing handler. -/
structure Observation where
  verb : Text
  target : Option Forest.Reference
  args : List Text
  deriving DecidableEq, Repr

/-- Where a pass stands. A pass that has met a pattern with numbers that are too large is halted: it has come to its
end in the middle of a comment. -/
structure Pass where
  project : Project
  report : Report := {}
  observed : List Observation := []
  halted : Bool := false
  deriving Inhabited

/-- What a directive is applied to. -/
structure DirectiveContext where
  file : FileId
  comment : BlockId
  target : Option BlockId
  verb : Text
  deriving DecidableEq, Repr

/-- What a verb does. -/
abbrev Handler := DirectiveContext → List Text → Pass → Pass

namespace Pass

/-- Report a problem. -/
def problem (context : DirectiveContext) (problem : Problem) (pass : Pass) : Pass :=
  let path := (pass.project.file context.file).path
  let issue : Issue := ⟨problem, path, (pass.project.forest.block context.comment).row, context.verb⟩
  { pass with
    project := pass.project.notify issue.notice
    report := { pass.report with issues := pass.report.issues ++ [issue] } }

/-- Change the blocks. -/
def modifyForest (change : Forest → Forest) (pass : Pass) : Pass :=
  { pass with project := pass.project.modifyForest change }

/-- Change the file that a directive stands in. -/
def modifyFile (context : DirectiveContext) (change : SourceFile → SourceFile) (pass : Pass) : Pass :=
  { pass with project := pass.project.modifyFile context.file change }

/-- The block at a dotted path in a file. -/
def find? (context : DirectiveContext) (path : Text) (pass : Pass) : Option BlockId :=
  pass.project.forest.byPath? (pass.project.file context.file).content (Forest.splitPath path)

/-- Go on with the block at a dotted path, or report that there is none. -/
def withBlock (context : DirectiveContext) (path : Text) (next : BlockId → Pass → Pass) (pass : Pass) :
    Pass :=
  match pass.find? context path with
  | some id => next id pass
  | none => pass.problem context (.noSuchPath path)

/-- Go on with each argument list that the arguments stand for. -/
def forExpanded (context : DirectiveContext) (args : List Text) (next : List Text → Pass → Pass)
    (pass : Pass) : Pass :=
  match Placeholder.expand pass.project.forest args context.target true with
  | .error error =>
    if error.isTooLarge then { pass with halted := true } else pass.problem context (.placeholder error)
  | .ok [] => if Placeholder.inAny args then pass.problem context .nothingExpanded else pass
  | .ok lists => lists.foldl (fun pass list => next list pass) pass

/-- Report a wrong number of arguments. -/
def wrongCount (context : DirectiveContext) (expected : Text) (args : List Text) (pass : Pass) : Pass :=
  pass.problem context (.argumentCount context.verb expected args.length)

end Pass

namespace Handler

/-- `alias name` names the target, and `alias path name` the block at a path. -/
def aliasing : Handler := fun context args pass =>
  match args with
  | [name] =>
    match context.target with
    | some id => pass.modifyForest fun forest => (forest.addAlias id name).1
    | none => pass.problem context .aliasWithoutTarget
  | [_, _] =>
    pass.forExpanded context args fun list pass =>
      match list with
      | [path, name] =>
        pass.withBlock context path fun id pass => pass.modifyForest fun forest => (forest.addAlias id name).1
      | _ => pass
  | _ => pass.wrongCount context "1 or 2" args

/-- Document the block at one path as a field at the end of another. -/
def assignPath (context : DirectiveContext) (target value : Text) (pass : Pass) : Pass :=
  let parts := Forest.splitPath target
  let name := parts.getLastD []
  if parts.dropLast.isEmpty || name.isEmpty then pass.problem context (.noFieldName target)
  else
    pass.withBlock context (join ['.'] parts.dropLast) fun owner pass =>
      pass.withBlock context value fun id pass =>
        pass.modifyForest fun forest => forest.assignField owner name (.block id)

/-- `assign path.field value` documents a block as a field of another. -/
def assigning : Handler := fun context args pass =>
  match args with
  | [_, _] =>
    pass.forExpanded context args fun list pass =>
      match list with
      | [target, value] => assignPath context target value pass
      | _ => pass
  | _ => pass.wrongCount context "2" args

/-- `export name` names the target, or the file when there is none; `export path name` names the block
at a path. -/
def exporting : Handler := fun context args pass =>
  match args with
  | [name] =>
    match context.target with
    | some id => pass.modifyForest fun forest => forest.exportAs id name
    | none => pass.modifyFile context fun file => { file with exportedName := some name }
  | [_, _] =>
    pass.forExpanded context args fun list pass =>
      match list with
      | [path, name] =>
        pass.withBlock context path fun id pass => pass.modifyForest fun forest => forest.exportAs id name
      | _ => pass
  | _ => pass.wrongCount context "1 or 2" args

/-- Note a remark on the file. -/
def remark (context : DirectiveContext) (key value : Text) (pass : Pass) : Pass :=
  pass.modifyFile context fun file =>
    { file with remarks := Value.putEntry (· == ·) key (.text value) file.remarks }

/-- `pattern name …` notes a design pattern of the file. -/
def designPattern : Handler := fun context args pass =>
  match args with
  | [] => pass.wrongCount context "at least 1" args
  | name :: rest =>
    let noted := remark context "pattern" name pass
    if name = "singleton".toList then
      match rest with
      | [] => noted.wrongCount context "2" args
      | instanceName :: _ => remark context "exportedInstance" instanceName noted
    else noted.problem context (.unknownDesignPattern name)

/-- The verbs that steer the pass leave nothing to a handler. -/
def steering : Handler := fun _ _ pass => pass

/-- The verbs and what they do. -/
def builtIn : List (Text × Handler) :=
  [("alias", aliasing), ("assign", assigning), ("export", exporting), ("parse", steering),
    ("pattern", designPattern), ("stop", steering)]

/-- A handler that only notes what it is handed, and reports a failure when its first argument asks for
one. -/
def observer : Handler := fun context args pass =>
  let seen : Observation :=
    ⟨context.verb, context.target.map pass.project.forest.reference, args⟩
  let noted := { pass with observed := pass.observed ++ [seen] }
  if args.head? = some "fail".toList then noted.problem context (.other "recorded failure") else noted

end Handler

namespace Pass

/-- The verb that goes into the body of the target. -/
def parseVerb : Text := "parse"

/-- The verb that drops all blocks after the comment. -/
def stopVerb : Text := "stop"

/-- Go on with a pass unless it is halted. -/
def andThen (pass : Pass) (next : Pass → Pass) : Pass := if pass.halted then pass else next pass

/-- Apply one directive. -/
def applyDirective (handlers : List (Text × Handler)) (context : DirectiveContext) (directive : Directive)
    (pass : Pass) : Pass :=
  let context := { context with verb := directive.verb }
  match (handlers.find? fun entry => entry.1 == directive.verb).map Prod.snd with
  | none => pass.problem context (.unknownVerb directive.verb)
  | some handler =>
    (handler context directive.args pass).andThen fun applied =>
      { applied with report := { applied.report with applied := applied.report.applied + 1 } }

/-- Go into the body of a target, where `inside` goes through the blocks of a content. -/
def enterBody (inside : ContentId → Pass → Pass) (context : DirectiveContext) (pass : Pass) : Pass :=
  let context := { context with verb := parseVerb }
  match context.target with
  | none => pass.problem context (.noBody none)
  | some id =>
    let block := pass.project.forest.block id
    match block.body? with
    | none => pass.problem context (.noBody (some block.row))
    | some _ =>
      let opened := pass.modifyForest (Forest.openBody id)
      match (opened.project.forest.entry id).nested with
      | some inner => inside inner opened
      | none => opened

/-- Drop the blocks of a content after a comment. At the top of a file this changes its tables. -/
def stopAfter (content : ContentId) (context : DirectiveContext) (pass : Pass) : Pass :=
  let length := pass.project.forest.indexIn content context.comment + 1
  let cut := pass.modifyForest (Forest.truncate content length)
  if (pass.project.file context.file).content = content then
    { cut with project := cut.project.rebuildTables context.file }
  else cut

/-- Apply the directives of a comment. -/
def applyComment (handlers : List (Text × Handler)) (inside : ContentId → Pass → Pass) (file : FileId)
    (content : ContentId) (comment : BlockId) (pass : Pass) : Pass :=
  let forest := pass.project.forest
  let directives := (forest.block comment).directives
  let context : DirectiveContext :=
    ⟨file, comment, forest.next? .all .forward Forest.codeKinds comment, []⟩
  let applied := directives.foldl (fun pass directive => pass.andThen (applyDirective handlers context directive)) pass
  let has (verb : Text) := directives.any fun directive => directive.verb == verb
  let entered := applied.andThen fun pass => if has parseVerb then enterBody inside context pass else pass
  entered.andThen fun pass => if has stopVerb then stopAfter content context pass else pass

/-- Go through blocks from one on, and apply the directives of each comment that has some. -/
def walkBlocks (apply : BlockId → Pass → Pass) : (fuel : Nat) → Option BlockId → Pass → Pass
  | 0, _, pass => pass
  | _, none, pass => pass
  | fuel + 1, some id, pass =>
    let applied := if (pass.project.forest.block id).hasDirectives then apply id pass else pass
    applied.andThen (walkBlocks apply fuel (applied.project.forest.sibling? .forward id))

/-- Go through the blocks of a content, with bodies nested at most `depth` deep. -/
def runContent (handlers : List (Text × Handler)) (file : FileId) : (depth : Nat) → ContentId → Pass → Pass
  | 0, _, pass => pass
  | depth + 1, content, pass =>
    let members := pass.project.forest.members content
    walkBlocks
      (applyComment handlers (fun inner pass => runContent handlers file depth inner pass) file content)
      members.length members.head? pass

/-- Go through the blocks of a file. A body is shorter than the text it stands in, so the length of the
text bounds how deep bodies nest. -/
def runFile (handlers : List (Text × Handler)) (id : FileId) (pass : Pass) : Pass :=
  let content := (pass.project.file id).content
  let depth := (pass.project.forest.content content).text.length + 1
  let path := (pass.project.file id).path.getD []
  (runContent handlers id depth content pass).andThen fun done =>
    { done with report := { done.report with processed := done.report.processed ++ [path] } }

/-- Go through all linked files of a project, roots first. -/
def runAll (handlers : List (Text × Handler)) (pass : Pass) : Pass :=
  pass.project.ordered.foldl (fun pass id => pass.andThen (runFile handlers id)) pass

/-- Go through the blocks of a file a number of times, with a report for each of them. -/
def runTimes (handlers : List (Text × Handler)) (id : FileId) : (times : Nat) → Pass → Pass × List Report
  | 0, pass => (pass, [])
  | times + 1, pass =>
    let done := runFile handlers id { pass with report := {} }
    if done.halted then (done, [])
    else
      let (last, reports) := runTimes handlers id times done
      (last, done.report :: reports)

/-- The report of a pass, unless it is halted. -/
def report? (pass : Pass) : Option Report := if pass.halted then none else some pass.report

end Pass

namespace Project

/-- Apply the directives of one file. There is no report when the pass is halted. -/
def runFile (id : FileId) (project : Project) : Project × Option Report :=
  let done := Pass.runFile Handler.builtIn id { project }
  (done.project, done.report?)

/-- Apply the directives of all linked files. There is no report when the pass is halted. -/
def runDirectives (project : Project) : Project × Option Report :=
  let done := Pass.runAll Handler.builtIn { project }
  (done.project, done.report?)

end Project

end Docweave
