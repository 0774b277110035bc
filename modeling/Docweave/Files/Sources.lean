import Docweave.Files.Tree
import Docweave.Pattern.Match
import Docweave.Pattern.Read
import Docweave.Settings.Basic

/-!
# Source files of a directory

Source files are found by going through a directory in the order of names. Patterns of the settings decide
which files are passed over, by name, and which directories are not entered, by path. A pattern that cannot
be used ends the search; the files found before it count.
-/

namespace Docweave.Files

/-- Why a pattern cannot be used. -/
inductive FilterError where
  | badPattern (error : PatternError)
  | patternNotText
  deriving DecidableEq, Repr

/-- What is said about a pattern whose flags or numbers are wrong values. Other errors are not spoken about. -/
def FilterError.valueMessage? : FilterError → Option Text
  | .badPattern .scriptsClash => some (PatternError.scriptsClash.message [])
  | .badPattern (.tooManyDigits count) => some ((PatternError.tooManyDigits count).message [])
  | _ => none

/-- A way to look for written patterns in a text. -/
abbrev Search : Type := Text → Value → Except FilterError Bool

/-- Whether a written pattern is found in a text. -/
def patternFound (text : Text) : Value → Except FilterError Bool
  | .text written =>
    match Pattern.parse written with
    | .ok pattern => .ok (pattern.found text)
    | .error error => .error (.badPattern error)
  | _ => .error .patternNotText

/-- Whether one of several written patterns is found in a text. Those after it do not matter. -/
def anyFound (search : Search) (text : Text) : List Value → Except FilterError Bool
  | [] => .ok false
  | pattern :: patterns => do
    if ← search text pattern then return true
    anyFound search text patterns

/-- Whether a file is passed over. Where there are patterns for what is wanted, the others do not count. -/
def skipsFileBy (search : Search) (settings : Settings) (path : Text) : Except FilterError Bool :=
  let name := Path.fileName path
  let wanted : List Value := settings.value .includeOnly
  if wanted.isEmpty then anyFound search name (settings.value .excludeFiles)
  else (anyFound search name wanted).map not

/-- Whether a directory is not entered. One that is wanted always is. -/
def skipsDirectoryBy (search : Search) (settings : Settings) (path : Text) : Except FilterError Bool := do
  if ← anyFound search path (settings.value .includePaths) then return false
  anyFound search path (settings.value .excludePaths)

/-- Whether a file is passed over, by the patterns as they are written. -/
def skipsFile (settings : Settings) (path : Text) : Except FilterError Bool :=
  skipsFileBy patternFound settings path

/-- Whether a directory is not entered, by the patterns as they are written. -/
def skipsDirectory (settings : Settings) (path : Text) : Except FilterError Bool :=
  skipsDirectoryBy patternFound settings path

/-- A source file: its path below the directory, and its bytes. -/
structure Source where
  path : Text
  bytes : List UInt8
  deriving DecidableEq, Repr, Inhabited

/-- What a search has found, and the error that ended it early. -/
structure Found where
  sources : List Source := []
  error : Option FilterError := none
  deriving Repr, Inhabited

namespace Found

/-- What two searches find one after the other. -/
def andThen (first second : Found) : Found :=
  match first.error with
  | some _ => first
  | none => ⟨first.sources ++ second.sources, second.error⟩

/-- A search that goes on only if nothing is passed over. -/
def unlessSkipped (skipped : Except FilterError Bool) (found : Found) : Found :=
  match skipped with
  | .error error => { error := some error }
  | .ok true => {}
  | .ok false => found

end Found

/-- What searches find one after the other, in the order of names. -/
def inNameOrder (searches : List (Text × Found)) : Found :=
  ((searches.mergeSort fun left right => Text.upTo left.1 right.1).map Prod.snd).foldr Found.andThen {}

/-- What a search passes over. -/
structure Filter where
  recursive : Bool
  skipsFile : Text → Except FilterError Bool
  skipsDirectory : Text → Except FilterError Bool

/-- What the settings pass over. -/
def Filter.ofSettings (search : Search) (settings : Settings) (recursive : Bool) : Filter :=
  ⟨recursive, skipsFileBy search settings, skipsDirectoryBy search settings⟩

mutual

/-- The source files of a file or directory at a path. -/
def sourcesAt (filter : Filter) (path : Text) : Tree → Found
  | .file bytes => Found.unlessSkipped (filter.skipsFile path) { sources := [⟨path, bytes⟩] }
  | .directory entries =>
    if filter.recursive then
      Found.unlessSkipped (filter.skipsDirectory path) (inNameOrder (searchesBelow filter path entries))
    else {}

/-- A search for each entry of a directory at a path. -/
def searchesBelow (filter : Filter) (path : Text) : List (Text × Tree) → List (Text × Found)
  | [] => []
  | (name, node) :: rest =>
    (name, sourcesAt filter (Path.join [path, name]) node) :: searchesBelow filter path rest

end

/-- The source files of a directory. It is entered itself whatever is passed over. -/
def sourcesOf (filter : Filter) (directory : Tree) : Found :=
  inNameOrder (searchesBelow filter ['.'] directory.entries)

end Docweave.Files
