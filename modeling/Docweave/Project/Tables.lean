import Docweave.Forest.Lookup

/-!
# Symbol tables

What a file declares, imports and exports, as told by its top-level blocks. The tables are a function of
the blocks: nothing else enters them.
-/

namespace Docweave

open Text

/-- A class that a file declares, with its methods and their arguments. -/
structure DeclaredClass where
  name : Text
  superclass : Option Text
  methods : List (Option Text × List Text)
  deriving DecidableEq, Repr, Inhabited

/-- A function that a file declares. -/
structure DeclaredFunction where
  keyword : Text
  name : Text
  args : List Text
  deriving DecidableEq, Repr, Inhabited

/-- A variable that a file declares. -/
structure DeclaredValue where
  keyword : Text
  name : Text
  value : Text
  deriving DecidableEq, Repr, Inhabited

/-- A name that a file binds to a module or to a field of it. -/
structure ImportedName where
  keyword : Text
  name : Text
  internal : Bool
  path : Text
  field : Option Text
  deriving DecidableEq, Repr, Inhabited

/-- What a file declares, imports and exports. -/
structure Tables where
  classes : List DeclaredClass := []
  functions : List DeclaredFunction := []
  values : List DeclaredValue := []
  imports : List ImportedName := []
  exports : List Text := []
  main : Option Text := none
  deriving DecidableEq, Repr, Inhabited

namespace Tables

/-- The names that an import binds. -/
def importsOf (info : ImportInfo) : List ImportedName :=
  info.bindings.map fun (name, field) => ⟨info.keyword, name, info.internal, info.path, field⟩

/-- The name that a variable binds when its value is a field of an imported name. -/
def derivedImport? (known : List ImportedName) (info : VariableInfo) : Option ImportedName := do
  let source ← known.find? fun imported => startsWith (imported.name ++ ['.']) info.value
  some { source with
    keyword := info.keyword
    name := info.name
    field := some (info.value.drop (source.name.length + 1)) }

/-- Add the variables that are imports in disguise; a later one may read a field of an earlier one. -/
def withDerived (known : List ImportedName) (infos : List VariableInfo) : List ImportedName :=
  infos.foldl (fun known info => known ++ (derivedImport? known info).toList) known

/-- The target of an assignment that exports from a module. -/
def exportTarget : Text := "module.exports"

/-- The tables of a content. -/
def ofContent (forest : Forest) (content : ContentId) : Tables :=
  let members := forest.members content
  let infos := members.map fun id => (forest.block id).info
  let imports := infos.flatMap fun info =>
    match info with
    | .imports info => importsOf info
    | _ => []
  let declared := infos.filterMap fun info =>
    match info with
    | .variable info => some info
    | _ => none
  let exporting := infos.filterMap fun info =>
    match info with
    | .assignment info => if startsWith exportTarget info.target then some info else none
    | _ => none
  { classes := members.filterMap fun id =>
      match (forest.block id).info with
      | .classBody info => some ⟨info.name, info.superclass, forest.declaredMethods id⟩
      | _ => none
    functions := infos.filterMap fun info =>
      match info with
      | .function info => some ⟨info.keyword, info.name, info.args⟩
      | _ => none
    values := declared.map fun info => ⟨info.keyword, info.name, info.value⟩
    imports := withDerived imports declared
    exports := exporting.map AssignmentInfo.value
    main := ((exporting.filter fun info => info.target = exportTarget).getLast?).map AssignmentInfo.value }

/-- The names that a file exports. An object in braces exports what its entries stand for. -/
def exportedNames (tables : Tables) : List Text :=
  tables.exports.flatMap fun value =>
    let value := strip value
    if startsWith ['{'] value && endsWith ['}'] value then
      (splitChar ',' ((value.drop 1).dropLast)).filterMap fun part =>
        let name := strip ((splitChar ':' part).getLastD [])
        if name.isEmpty then none else some name
    else [value]

end Tables

end Docweave
