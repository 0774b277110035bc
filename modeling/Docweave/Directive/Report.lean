import Docweave.Directive.Placeholder
import Docweave.Project.Basic

/-!
# Reports

A directive that cannot be applied is reported and passed over. A report names what went wrong, where,
and how serious it is; it also counts what was applied.
-/

namespace Docweave

open Text

/-- How serious a problem is. -/
inductive Severity where
  | error
  | warning
  deriving DecidableEq, Repr, Inhabited

/-- The word for how serious a problem is. -/
def Severity.name : Severity → Text
  | .error => "error"
  | .warning => "warning"

/-- What may go wrong when a directive is applied. -/
inductive Problem where
  | unknownVerb (verb : Text)
  | argumentCount (verb expected : Text) (given : Nat)
  | aliasWithoutTarget
  | noSuchPath (path : Text)
  | noFieldName (path : Text)
  | placeholder (error : PlaceholderError)
  | nothingExpanded
  | unknownDesignPattern (name : Text)
  | noBody (row : Option Int)
  | other (message : Text)
  deriving DecidableEq, Repr

namespace Problem

/-- What is said about a problem. -/
def message : Problem → Text
  | .unknownVerb verb => "Unknown directive " ++ verb
  | .argumentCount verb expected given =>
    "Bad argument count for " ++ verb ++ ", expected " ++ expected ++ ", got " ++ ofNat given
  | .aliasWithoutTarget => "alias directive cannot be applied to code unit"
  | .noSuchPath path => "No such path in code unit: " ++ path
  | .noFieldName path => "No field name in assign target: " ++ path
  | .placeholder error => error.message
  | .nothingExpanded => "Expression expansion did not find any matching code"
  | .unknownDesignPattern name => "Unknown value for pattern (" ++ name ++ ")"
  | .noBody row =>
    let place : Text := match row with
      | some row => "row " ++ ofInt row
      | none => "end of file"
    "Bad target (" ++ place ++ ") for parse directive"
  | .other message => message

/-- How serious a problem is: what finds nothing to do is only a warning. -/
def severity : Problem → Severity
  | .nothingExpanded | .unknownDesignPattern _ => .warning
  | _ => .error

end Problem

/-- A problem and the comment whose directive led to it. -/
structure Issue where
  problem : Problem
  path : Option Text
  row : Int
  verb : Text
  deriving DecidableEq, Repr

namespace Issue

/-- Where an issue arose. -/
def location (issue : Issue) : Text := Notice.location issue.path issue.row

/-- The notice that goes with an issue. -/
def notice (issue : Issue) : Notice := .directive issue.problem.message issue.path issue.row

end Issue

/-- What came of a pass over the directives. -/
structure Report where
  issues : List Issue := []
  processed : List Text := []
  applied : Nat := 0
  deriving Repr, Inhabited

namespace Report

/-- Number of issues of a severity. -/
def count (report : Report) (severity : Severity) : Nat :=
  report.issues.countP fun issue => issue.problem.severity == severity

/-- Whether every directive was applied without an error. -/
def passed (report : Report) : Bool := report.count .error == 0

end Report

end Docweave
