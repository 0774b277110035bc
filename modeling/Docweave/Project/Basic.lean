import Docweave.Project.Tables
import Docweave.Project.Reach
import Docweave.Path

/-!
# Projects

A project holds source files, the blocks of all of them, and a register in which files are linked by
their imports. A file requires another when one of its import paths leads to the path of the other.
Linking works in both directions, so files may be linked in any order.
-/

namespace Docweave

open Text

/-- The identity of a source file. -/
structure FileId where
  index : Nat
  deriving DecidableEq, Repr, Inhabited

/-- A source file: where it is, how it is titled, its content and tables, and the files it requires and
is required by. -/
structure SourceFile where
  path : Option Text
  name : Option Text := none
  description : Option Text := none
  exportedName : Option Text := none
  remarks : List (Text × Value) := []
  content : ContentId
  tables : Tables := {}
  required : List FileId := []
  requiredBy : List FileId := []
  deriving Repr, Inhabited

namespace SourceFile

/-- The name under which a file is shown: its exported name, else its main export, else its file name up
to the first dot. -/
def displayName? (file : SourceFile) : Option Text :=
  match file.exportedName, file.tables.main, file.path with
  | some name, _, _ => some name
  | none, some main, _ => some main
  | none, none, some path => some ((splitChar '.' (Path.fileName path)).headD [])
  | none, none, none => none

end SourceFile

/-- Something that the user is told on the side. -/
inductive Notice where
  | directive (message : Text) (path : Option Text) (row : Int)
  | linkedTwice (path : Text)
  deriving DecidableEq, Repr

namespace Notice

/-- The place of a directive. -/
def location (path : Option Text) (row : Int) : Text := path.getD "None" ++ ':' :: ofInt row

/-- The text of a notice. -/
def message : Notice → Text
  | .directive message path row => "Directive error: " ++ message ++ " [ " ++ location path row ++ " ]"
  | .linkedTwice path => "Unit path linked twice: " ++ path

end Notice

/-- Source files, their blocks, and the register of linked files with the path of each. -/
structure Project where
  forest : Forest := {}
  files : Array SourceFile := #[]
  base : Text := ['.']
  linked : List FileId := []
  paths : List (Text × FileId) := []
  main : Option FileId := none
  notices : List Notice := []
  deriving Repr, Inhabited

namespace Project

/-- The file with a given identity. -/
def file (project : Project) (id : FileId) : SourceFile := (project.files[id.index]?).getD default

/-- All files of a project, linked or not. -/
def allFiles (project : Project) : List FileId := (List.range project.files.size).map FileId.mk

/-- Change a file. -/
def modifyFile (id : FileId) (change : SourceFile → SourceFile) (project : Project) : Project :=
  { project with files := project.files.modify id.index change }

/-- Change the blocks. -/
def modifyForest (change : Forest → Forest) (project : Project) : Project :=
  { project with forest := change project.forest }

/-- Tell the user something. -/
def notify (notice : Notice) (project : Project) : Project :=
  { project with notices := project.notices ++ [notice] }

/-- Derive the tables of a file from its blocks. -/
def rebuildTables (id : FileId) (project : Project) : Project :=
  project.modifyFile id fun file => { file with tables := Tables.ofContent project.forest file.content }

/-- Read the text of a file anew. -/
def load (id : FileId) (text : Text) (row : Int) (project : Project) : Project :=
  (project.modifyForest (Forest.load (project.file id).content text row)).rebuildTables id

/-- Add a file to a project, not yet linked. -/
def addFile (text : Text) (row : Int) (path name description : Option Text) (project : Project) :
    Project × FileId :=
  let (forest, content) := project.forest.newContent {}
  let id : FileId := ⟨project.files.size⟩
  let project := { project with forest, files := project.files.push { path, name, description, content } }
  (project.load id text row, id)

/-- The path under which a file is registered. -/
def filePath (project : Project) (id : FileId) : Text :=
  Path.join [project.base, ((project.file id).path).getD []]

/-- What may be missing at the end of an import path. -/
def importSuffixes : List Text := ["", ".js", "/index.js"]

/-- The paths to which the internal imports of a file at `path` may lead. -/
def importPaths (project : Project) (id : FileId) (path : Text) : List Text :=
  let base := Path.directory path
  (((project.file id).tables.imports.filter ImportedName.internal).flatMap fun imported =>
    importSuffixes.map fun suffix => Path.join [base, imported.path ++ suffix]).eraseDups

/-- Add a file to a list of files, unless it is there. -/
def addOnce (id : FileId) (files : List FileId) : List FileId := if id ∈ files then files else files ++ [id]

/-- Note that one file requires another. -/
def addEdge (requiring required : FileId) (project : Project) : Project :=
  (project.modifyFile requiring fun file => { file with required := addOnce required file.required }).modifyFile
    required fun file => { file with requiredBy := addOnce requiring file.requiredBy }

/-- The file registered under a path. -/
def registered? (project : Project) (path : Text) : Option FileId :=
  (project.paths.find? fun entry => entry.1 == path).map Prod.snd

/-- Register a file under its path. A path that is taken passes to the new file. -/
def register (id : FileId) (path : Text) (project : Project) : Project :=
  let told :=
    if (project.registered? path).isSome then project.notify (.linkedTwice path)
    else { project with linked := project.linked ++ [id] }
  { told with paths := Value.putEntry (· == ·) path id told.paths }

/-- Link a file with the registered files that require it and that it requires, and register it. -/
def link (id : FileId) (isMain : Bool) (project : Project) : Project :=
  let path := project.filePath id
  let requiring := project.paths.filter fun (otherPath, other) =>
    (project.importPaths other otherPath).contains path
  let linked := requiring.foldl (fun project (_, other) => project.addEdge other id) project
  let required := (project.importPaths id path).filterMap fun candidate =>
    (project.registered? candidate).filter (· ≠ id)
  let linked := required.foldl (fun project other => project.addEdge id other) linked
  let linked := linked.register id path
  if isMain then { linked with main := some id } else linked

/-- Link several files, one after the other. -/
def linkAll (ids : List FileId) (project : Project) : Project :=
  ids.foldl (fun project id => project.link id false) project

/-- The registered file at a path. -/
def fileAt? (project : Project) (path : Text) : Option FileId :=
  project.registered? (Path.join [project.base, path])

/-- A short description of a file for messages. -/
def describeFile (project : Project) (id : FileId) : Text :=
  let file := project.file id
  let path : Value := match file.path with
    | some path => .text path
    | none => .null
  "CodeUnit(" ++ path.literal ++ ", blocks=" ++ ofNat (project.forest.members file.content).length ++ ")"

/-- The files that a file requires. -/
def required (project : Project) (id : FileId) : List FileId := (project.file id).required

/-- The files that require a file. -/
def requiredBy (project : Project) (id : FileId) : List FileId := (project.file id).requiredBy

/-- The files that a file requires, directly or not. -/
def allRequired (project : Project) (id : FileId) : List FileId :=
  Reach.closure project.required project.allFiles id

/-- The files that require a file, directly or not. -/
def allRequiredBy (project : Project) (id : FileId) : List FileId :=
  Reach.closure project.requiredBy project.allFiles id

/-- The files that a file requires in the end and that require nothing. -/
def firstRequired (project : Project) (id : FileId) : List FileId :=
  Reach.ends project.required project.allFiles id

/-- The files that require a file in the end and that nothing requires. -/
def lastRequiring (project : Project) (id : FileId) : List FileId :=
  Reach.ends project.requiredBy project.allFiles id

/-- Files from which all linked files are reached by what they require. -/
def roots (project : Project) : List FileId :=
  Reach.roots project.requiredBy project.required project.allFiles project.linked

/-- Every linked file once: each root, followed by what it requires. -/
def ordered (project : Project) : List FileId :=
  Reach.ordered project.requiredBy project.required project.allFiles project.linked

end Project

end Docweave
