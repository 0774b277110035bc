import Docweave.Path
import Docweave.Text.Quote
import Docweave.Text.Utf8

/-!
# Trees of files

A directory holds named files and directories. Paths are resolved from the root of a tree, component by
component; each one on the way has to be a directory, and `..` leads back to the one around it. Nothing lies
outside of the tree.
-/

namespace Docweave.Files

/-- A file with its bytes, or a directory with what it holds by name. -/
inductive Tree where
  | file (bytes : List UInt8)
  | directory (entries : List (Text × Tree))
  deriving Repr, Inhabited

/-- Why a file or directory cannot be used, with its path. -/
inductive FileError where
  | notFound (path : Text)
  | alreadyExists (path : Text)
  | notADirectory (path : Text)
  | isADirectory (path : Text)
  | nullInPath
  deriving DecidableEq, Repr, Inhabited

namespace Tree

/-- An empty directory. -/
def empty : Tree := .directory []

/-- Whether a tree is a directory. -/
def isDirectory : Tree → Bool
  | .file _ => false
  | .directory _ => true

/-- What a directory holds; a file holds nothing. -/
def entries : Tree → List (Text × Tree)
  | .file _ => []
  | .directory entries => entries

/-- Put something under a name into a list of entries. -/
def putEntry (name : Text) (node : Tree) : List (Text × Tree) → List (Text × Tree)
  | [] => [(name, node)]
  | (other, old) :: rest =>
    if other = name then (name, node) :: rest else (other, old) :: putEntry name node rest

/-- The part of a tree at the end of names. -/
def get? : List Text → Tree → Option Tree
  | [], tree => some tree
  | name :: names, tree => (tree.entries.lookup name).bind (get? names)

/-- Put something at the end of names. Directories on the way are made where nothing is. -/
def put : Tree → List Text → (node : Tree) → Tree
  | _, [], node => node
  | tree, name :: names, node =>
    let inner := (tree.entries.lookup name).getD empty
    .directory (putEntry name (put inner names node) tree.entries)

/-- Go from the names that lead to a directory to those that lead to a component of it. -/
def enter? (tree : Tree) (path : Text) (place : List Text) (component : Text) :
    Except FileError (List Text) :=
  match tree.get? place with
  | none => .error (.notFound path)
  | some (.file _) => .error (.notADirectory path)
  | some (.directory _) =>
    if component ≠ ['.', '.'] then .ok (place ++ [component])
    else if place.isEmpty then .error (.notFound path)
    else .ok place.dropLast

/-- The names to which a path leads. What it leads to need not exist, but what it goes through must. -/
def resolve (tree : Tree) (path : Text) : Except FileError (List Text) :=
  (Path.writtenComponents path).foldlM (tree.enter? path) []

/-- What a path leads to. -/
def find? (tree : Tree) (path : Text) : Option Tree :=
  match tree.resolve path with
  | .ok place => tree.get? place
  | .error _ => none

/-- Whether a path climbs out of the tree and ends in one of the directories around it. -/
def climbsOut (tree : Tree) (path : Text) : Bool :=
  let components := Path.writtenComponents path
  let climbs := (components.reverse.takeWhile (· = ['.', '.'])).length
  (List.range climbs).any fun count =>
    let before := Path.ofComponents 0 (components.take (components.length - (count + 1)))
    (tree.resolve before).toOption == some []

/-- What a path leads to when it is taken to the letter. An empty path leads nowhere, and one that ends in a
slash or in `.` leads to a directory only. Nothing is known of the directories around the tree but that they are
there. -/
def findExactly? (tree : Tree) (path : Text) : Option Tree :=
  if path.isEmpty then none
  else if tree.climbsOut path then some empty
  else
    let last := Path.fileName path
    (tree.find? path).filter fun found => found.isDirectory || (last ≠ [] && last ≠ ['.'])

/-- Refuse a path that holds the null character, which no name may hold. -/
def requireName (path : Text) : Except FileError Unit :=
  if path.contains '\x00' then .error .nullInPath else .ok ()

/-- The bytes of the file that a path leads to. -/
def read (tree : Tree) (path : Text) : Except FileError (List UInt8) := do
  requireName path
  let place ← tree.resolve path
  match tree.get? place with
  | none => .error (.notFound path)
  | some (.directory _) => .error (.isADirectory path)
  | some (.file bytes) => .ok bytes

/-- Make a directory below those of some components, if it is not there. -/
def makeStep (path : Text) (tree : Tree) (components : List Text) : Except FileError Tree :=
  let part := Path.ofComponents (Path.rootSlashes path) components
  match tree.resolve part with
  | .error _ => .error (.notADirectory path)
  | .ok place =>
    match tree.get? place with
    | none => .ok (tree.put place empty)
    | some (.directory _) => .ok tree
    | some (.file _) => .error (if part = Path.tidy path then .alreadyExists path else .notADirectory path)

/-- Make a directory and those on the way to it, where they are not there. -/
def makeDirectories (path : Text) (tree : Tree) : Except FileError Tree :=
  let components := Path.writtenComponents path
  let steps := (List.range components.length).map fun count => components.take (count + 1)
  requireName path *> steps.foldlM (makeStep path) tree

/-- Write a file. Its directory must be there. -/
def write (path : Text) (bytes : List UInt8) (tree : Tree) : Except FileError Tree := do
  requireName path
  let place ← tree.resolve path
  match tree.get? place with
  | some (.directory _) => .error (.isADirectory path)
  | _ => .ok (tree.put place (.file bytes))

/-- Write a file in a directory that is made if it is not there. -/
def writeBelow (path : Text) (bytes : List UInt8) (tree : Tree) : Except FileError Tree := do
  (← tree.makeDirectories (Path.parent path)).write path bytes

/-- Write a text to a file, in a directory that is made if it is not there. -/
def writeText (path text : Text) (tree : Tree) : Except FileError Tree := tree.writeBelow path (Utf8.encode text)

/-- A tree with a file in it. It is left out where it cannot be written. -/
def withFile (path : Text) (bytes : List UInt8) (tree : Tree) : Tree := (tree.writeBelow path bytes).toOption.getD tree

/-- A tree with a directory in it. It is left out where it cannot be made. -/
def withDirectory (path : Text) (tree : Tree) : Tree := (tree.makeDirectories path).toOption.getD tree

mutual

/-- The files of a tree with their paths below a directory. -/
def filesBelow (path : Text) : Tree → List (Text × List UInt8)
  | .file bytes => [(path, bytes)]
  | .directory entries => entriesBelow path entries

/-- The files of entries with their paths below a directory. -/
def entriesBelow (path : Text) : List (Text × Tree) → List (Text × List UInt8)
  | [] => []
  | (name, node) :: rest => filesBelow (Path.child path name) node ++ entriesBelow path rest

end

/-- All files of a tree with their paths. -/
def files (tree : Tree) : List (Text × List UInt8) := filesBelow ['.'] tree

/-- The files that an earlier tree does not hold with the same bytes, in the order of their paths. -/
def changedSince (earlier tree : Tree) : List (Text × List UInt8) :=
  let old := earlier.files
  let changed := tree.files.filter fun file => old.lookup file.1 != some file.2
  changed.mergeSort fun left right => Text.upTo left.1 right.1

end Tree

/-- What is said about a file that cannot be used. -/
def FileError.message : FileError → Text
  | .notFound path => describe "[Errno 2] No such file or directory" path
  | .alreadyExists path => describe "[Errno 17] File exists" path
  | .notADirectory path => describe "[Errno 20] Not a directory" path
  | .isADirectory path => describe "[Errno 21] Is a directory" path
  | .nullInPath => "embedded null byte"
where
  describe (problem path : Text) : Text := problem ++ ": " ++ Text.quoted path

end Docweave.Files
