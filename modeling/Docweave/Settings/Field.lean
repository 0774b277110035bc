import Docweave.Value.Basic

/-!
# Fields of the settings

Every setting is a field of one of five groups. A field has a shape, which says what kind of value it
takes, and a value that holds when nothing else is said.
-/

namespace Docweave

/-- The kind of value that a field takes. -/
inductive Shape where
  | flag
  | number
  | text
  | list
  deriving DecidableEq, Repr, Inhabited

/-- The values of a shape. Lists may hold any plain values. -/
@[reducible] def Shape.Carrier : Shape → Type
  | .flag => Bool
  | .number => Int
  | .text => Text
  | .list => List Value

/-- A group of settings: how code is read, which pages are written, how they are laid out, where they
go, and what the project is. -/
inductive Group where
  | code
  | pages
  | output
  | paths
  | project
  deriving DecidableEq, Repr, Inhabited

namespace Group

/-- All groups in order. -/
def all : List Group := [.code, .pages, .output, .paths, .project]

/-- The key of a group. -/
def name : Group → Text
  | .code => "code"
  | .pages => "structure"
  | .output => "output"
  | .paths => "paths"
  | .project => "project"

/-- The group with a key. -/
def ofName? (name : Text) : Option Group := all.find? fun group => group.name == name

end Group

/-- A single setting. -/
inductive Field where
  | fileHeaders
  | fileTitle
  | fileTitleMaxRows
  | fileDescription
  | fileDescriptionMaxRows
  | sectionTitleMaxRows
  | generateIndex
  | generateAliasEntries
  | minColumns
  | maxColumns
  | sectionUnderlines
  | outputPath
  | baseCodePath
  | projectName
  | author
  | version
  | main
  | recursive
  | includeOnly
  | excludeFiles
  | includePaths
  | excludePaths
  deriving DecidableEq, Repr, Inhabited

namespace Field

/-- All fields in order. -/
def all : List Field :=
  [.fileHeaders, .fileTitle, .fileTitleMaxRows, .fileDescription, .fileDescriptionMaxRows,
    .sectionTitleMaxRows, .generateIndex, .generateAliasEntries, .minColumns, .maxColumns,
    .sectionUnderlines, .outputPath, .baseCodePath, .projectName, .author, .version, .main, .recursive,
    .includeOnly, .excludeFiles, .includePaths, .excludePaths]

/-- The group of a field. -/
def group : Field → Group
  | .fileHeaders | .fileTitle | .fileTitleMaxRows | .fileDescription | .fileDescriptionMaxRows
  | .sectionTitleMaxRows => .code
  | .generateIndex | .generateAliasEntries => .pages
  | .minColumns | .maxColumns | .sectionUnderlines => .output
  | .outputPath | .baseCodePath => .paths
  | .projectName | .author | .version | .main | .recursive | .includeOnly | .excludeFiles
  | .includePaths | .excludePaths => .project

/-- The key of a field in its group. -/
def name : Field → Text
  | .fileHeaders => "file_headers"
  | .fileTitle => "file_title"
  | .fileTitleMaxRows => "file_title_max_rows"
  | .fileDescription => "file_description"
  | .fileDescriptionMaxRows => "file_description_max_rows"
  | .sectionTitleMaxRows => "section_title_max_rows"
  | .generateIndex => "generate_index"
  | .generateAliasEntries => "generate_alias_entries"
  | .minColumns => "min_columns"
  | .maxColumns => "max_columns"
  | .sectionUnderlines => "section_underlines"
  | .outputPath => "output_path"
  | .baseCodePath => "base_code_path"
  | .projectName => "name"
  | .author => "author"
  | .version => "version"
  | .main => "main"
  | .recursive => "recursive"
  | .includeOnly => "include_only"
  | .excludeFiles => "exclude_files"
  | .includePaths => "include_paths"
  | .excludePaths => "exclude_paths"

/-- The shape of a field. -/
@[reducible] def shape : Field → Shape
  | .fileHeaders | .fileTitle | .fileDescription | .generateIndex | .generateAliasEntries
  | .recursive => .flag
  | .fileTitleMaxRows | .fileDescriptionMaxRows | .sectionTitleMaxRows | .minColumns
  | .maxColumns => .number
  | .outputPath | .baseCodePath | .projectName | .author | .version | .main => .text
  | .sectionUnderlines | .includeOnly | .excludeFiles | .includePaths | .excludePaths => .list

/-- The fields of a group, in order. -/
def ofGroup (group : Group) : List Field := all.filter fun field => field.group = group

/-- The field of a group with a key. -/
def find? (group : Group) (name : Text) : Option Field :=
  (ofGroup group).find? fun field => field.name == name

theorem mem_all (field : Field) : field ∈ all := by cases field <;> decide

theorem find?_name (field : Field) : find? field.group field.name = some field := by
  cases field <;> rfl

end Field

end Docweave
