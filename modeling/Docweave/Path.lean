import Docweave.Text.Basic

/-!
# Slash-separated paths

Joining, normalising and taking apart paths as texts, without asking any file system. One leading
slash makes a path absolute; exactly two are a root of their own and are kept.
-/

namespace Docweave.Path

/-- Join one more part to a path. An absolute part replaces everything before it. -/
def append (path part : Text) : Text :=
  if Text.startsWith ['/'] part then part
  else if path.isEmpty || Text.endsWith ['/'] path then path ++ part
  else path ++ '/' :: part

/-- Join the parts of a path in order. -/
def joinParts : List Text → Text
  | [] => []
  | part :: parts => parts.foldl append part

/-- Number of leading slashes that a normalised path keeps. -/
def rootSlashes : Text → Nat
  | '/' :: '/' :: '/' :: _ => 1
  | '/' :: '/' :: _ => 2
  | '/' :: _ => 1
  | _ => 0

/-- Take one more component onto the components read so far, the last one first. Empty components and
`.` are dropped; `..` removes the component before it, is dropped at a root and kept in front of a
relative path. -/
def pushComponent (rooted : Bool) (read : List Text) (component : Text) : List Text :=
  if component = [] ∨ component = ['.'] then read
  else if component ≠ ['.', '.'] then component :: read
  else
    match read with
    | [] => if rooted then [] else [component]
    | last :: earlier => if last = ['.', '.'] then component :: read else earlier

/-- The components of a path once `.`, `..` and repeated slashes are resolved. -/
def components (path : Text) : List Text :=
  ((Text.splitChar '/' path).foldl (pushComponent (rootSlashes path ≠ 0)) []).reverse

/-- Resolve `.`, `..` and repeated slashes. The empty path is the current directory. -/
def normalize (path : Text) : Text :=
  let resolved := List.replicate (rootSlashes path) '/' ++ Text.join ['/'] (components path)
  if resolved.isEmpty then ['.'] else resolved

/-- Join paths, of which the empty ones are skipped, and normalise the result. -/
def join (parts : List Text) : Text := normalize (joinParts (parts.filter (fun part => !part.isEmpty)))

/-- The part of a path after its last slash. -/
def fileName (path : Text) : Text := ((Text.splitChar '/' path).getLast?).getD []

/-- The part of a path before its last slash, empty when it has none. -/
def directory (path : Text) : Text :=
  match Text.findLast? ['/'] path with
  | none => []
  | some offset => path.take offset

/-- Split a path before the last dot of its file name. Dots that lead the file name start no
extension. -/
def splitExtension (path : Text) : Text × Text :=
  let start := match Text.findLast? ['/'] path with
    | none => 0
    | some offset => offset + 1
  let name := path.drop start
  match Text.findLast? ['.'] name with
  | none => (path, [])
  | some dot =>
    if (name.take dot).all (· == '.') then (path, [])
    else (path.take (start + dot), path.drop (start + dot))

/-- A path without the extension of its file name. -/
def stem (path : Text) : Text := (splitExtension path).1

/-- The components of a path as they are written, without empty ones and `.`. -/
def writtenComponents (path : Text) : List Text :=
  (Text.splitChar '/' path).filter fun component => component ≠ [] ∧ component ≠ ['.']

/-- A path from its leading slashes and components. A path without any is the current directory. -/
def ofComponents (slashes : Nat) (components : List Text) : Text :=
  let path := List.replicate slashes '/' ++ Text.join ['/'] components
  if path.isEmpty then ['.'] else path

/-- Drop repeated slashes and `.` from a path, and leave `..` to the file system. -/
def tidy (path : Text) : Text := ofComponents (rootSlashes path) (writtenComponents path)

/-- The tidy path of a part below a directory. -/
def child (directory part : Text) : Text := tidy (append (tidy directory) part)

/-- The tidy path without its last component. -/
def parent (path : Text) : Text := ofComponents (rootSlashes path) (writtenComponents path).dropLast

end Docweave.Path
