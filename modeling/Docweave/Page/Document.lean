import Docweave.Page.Element
import Docweave.Comment.Section
import Docweave.Project.Basic

/-!
# Pages of a project

Each file gives a page: a header from its first comment, then its classes, its exported and internal
functions, and its variables in groups under title comments. An index lists the pages.
-/

namespace Docweave.Page

open Text

/-- A page: where it goes and its rows. -/
structure Sheet where
  path : Text
  rows : List Text
  deriving DecidableEq, Repr, Inhabited

/-- The text of a page. -/
def Sheet.text (page : Sheet) : Text := unrows page.rows ++ ['\n']

/-- A heading at a depth. -/
def heading (depth : Int) (text : Text) : Element := ⟨.heading depth, some text⟩

/-- A paragraph. -/
def paragraph (text : Text) : Element := ⟨.paragraph, some text⟩

/-- A text that may be missing, as it is shown inside of other text. -/
def shown (text : Option Text) : Text := text.getD "None"

section Comments

mutual

/-- The items of a list at a depth. -/
def itemElements (depth : Int) : List Comment.SectionItem → List Element
  | [] => []
  | item :: items => itemElement depth item ++ itemElements depth items

/-- An item of a list at a depth, with the list that nests below it. -/
def itemElement (depth : Int) : Comment.SectionItem → List Element
  | .text text => [⟨.itemAt depth, some text⟩]
  | .nested (.mk head items) => ⟨.itemAt depth, some head.text⟩ :: itemElements (depth + 1) items

end

/-- A section: a paragraph or literal block, and its list. -/
def sectionElements (part : Comment.Section) : List Element :=
  ⟨if part.head.literal then .literal else .paragraph, some part.head.text⟩ :: itemElements 1 part.items

/-- The elements of sections. -/
def sectionsElements (parts : List Comment.Section) : List Element := parts.flatMap sectionElements

/-- The elements of a comment. -/
def commentElements (comment : Block) : List Element := sectionsElements (Comment.Section.ofBlock comment)

/-- Whether a comment is a title: few rows of text, and rows of decoration besides. -/
def isTitle (settings : Settings) (block : Block) : Bool :=
  let rows := block.trimmedRows.length
  let most : Int := settings.value .sectionTitleMaxRows
  block.isComment && rows ≠ 0 && (rows : Int) ≤ most && rows ≠ block.rowCount

end Comments

section Header

/-- Take the first section for a text of its own, when it is a paragraph of few rows. -/
def takeShort (wanted : Bool) (mostRows : Int) (parts : List Comment.Section) :
    Option Text × List Comment.Section :=
  match parts with
  | part :: rest =>
    if wanted && part.head.bullet.isNone && part.head.rowCount ≤ mostRows then (some part.head.text, rest)
    else (none, parts)
  | [] => (none, [])

/-- A title with the path of the file. -/
def titled (title : Text) (path : Option Text) : Text := title ++ " (" ++ shown path ++ ")"

/-- A text that is there and not empty. -/
def given? (text : Option Text) : Option Text := text.filter fun text => !text.isEmpty

/-- The comments that stand alone from a block on, at most `fuel` of them. -/
def lonelyComments (forest : Forest) : (fuel : Nat) → Option BlockId → List BlockId
  | 0, _ => []
  | _, none => []
  | fuel + 1, some id =>
    if (forest.block id).isComment && (forest.step? .adjacent .forward id).isNone then
      id :: lonelyComments forest fuel (forest.sibling? .forward id)
    else []

/-- Title, description and introduction of a file. -/
def fileHeader (settings : Settings) (forest : Forest) (file : SourceFile) (depth : Int) : List Element :=
  let members := forest.members file.content
  let parts : List Comment.Section :=
    match members.head? with
    | some first => if settings.value .fileHeaders then Comment.Section.ofBlock (forest.block first) else []
    | none => []
  let (title, parts) := takeShort (settings.value .fileTitle) (settings.value .fileTitleMaxRows) parts
  let (description, parts) :=
    takeShort (settings.value .fileDescription) (settings.value .fileDescriptionMaxRows) parts
  let title :=
    match given? file.name, title with
    | some name, _ => titled name file.path
    | none, some title => titled title file.path
    | none, none => file.path.getD []
  let description := given? file.description <|> description
  let lonely := lonelyComments forest members.length (members.head?.bind (forest.sibling? .forward))
  [heading depth title, ⟨.strong, description⟩] ++ sectionsElements parts
    ++ lonely.flatMap fun id => commentElements (forest.block id)

end Header

section Declarations

/-- What a callable block is. -/
inductive Callable where
  | function (exported : Bool)
  | method
  | constructor
  deriving DecidableEq, Repr

/-- The word for a callable block. -/
def Callable.word : Callable → Text
  | .function _ => "function"
  | .method => "method"
  | .constructor => "constructor"

/-- The title of a callable block. -/
def callableTitle (forest : Forest) (id : BlockId) (callable : Callable) : Text :=
  let block := forest.block id
  let signature := " (" ++ join ", " block.args ++ ")"
  let path := forest.namespacePath id
  match callable with
  | .constructor => "Constructor"
  | .method =>
    let member := path.getLastD ((forest.displayName? id).getD [])
    join ['.'] (path.dropLast ++ [Forest.prototypeName, member]) ++ signature
  | .function true => join ['.'] path ++ signature
  | .function false => shown block.identifier? ++ signature

/-- Documentation of a callable block: its comment, or else its arguments. -/
def callableElements (forest : Forest) (id : BlockId) (depth : Int) (callable : Callable) : List Element :=
  let block := forest.block id
  let description :=
    match forest.note? id with
    | some note => commentElements (forest.block note)
    | none =>
      ⟨.strong, some "Arguments"⟩ ::
        if block.args.isEmpty then
          [paragraph ("This " ++ callable.word ++ " does not take any arguments")]
        else block.args.map fun arg => ⟨.item none, some ('`' :: arg ++ ['`'])⟩
  let aliases := (forest.entry id).aliases
  let known :=
    if aliases.isEmpty then []
    else [paragraph ("Also known as: " ++ join ", " (aliases.map fun name => "``" ++ name ++ "``"))]
  heading depth (callableTitle forest id callable) :: description ++ known

/-- A documented field of a class. -/
def fieldElement (forest : Forest) (name : Text) (value : FieldValue) : Element :=
  let text := match value with
    | .block id => shown (forest.displayName? id)
    | .plain value => value.plainText
  ⟨.item none, some ("``" ++ name ++ "``: " ++ text)⟩

/-- Documentation of a class: its base, its constructor, its methods and fields. -/
def classElements (forest : Forest) (id : BlockId) (depth : Int) (exported : Bool) : List Element :=
  let block := forest.block id
  let scope : Text := if exported then "exported class" else "internal only"
  let base := (given? block.superclass?).getD "Object"
  let description := match forest.note? id with
    | some note => commentElements (forest.block note)
    | none => []
  let members := (forest.entry id).nested
  let constructor? := members.bind fun inner => forest.byMember? inner "constructor"
  let construction := match constructor? with
    | some member => callableElements forest member (depth + 1) .constructor
    | none => []
  let methods := match members with
    | some inner => (forest.ofKinds inner [.methodDecl]).filter fun member => some member ≠ constructor?
    | none => []
  let methodElements := methods.flatMap fun member => callableElements forest member (depth + 2) .method
  let methodPart :=
    if methodElements.isEmpty then [paragraph "This class does not define any member methods"]
    else paragraph "This class defines the following member methods" :: methodElements
  [heading depth ("class " ++ shown (forest.displayName? id) ++ " (" ++ scope ++ ")"),
      paragraph ("**Base class:** " ++ base)]
    ++ description ++ construction ++ [heading (depth + 1) "Member methods"] ++ methodPart
    ++ (forest.entry id).fields.map fun (name, value) => fieldElement forest name value

end Declarations

section Variables

/-- Variables under one title comment, each with its own comment. -/
structure VariableGroup where
  title : Option BlockId
  declared : List (BlockId × Option BlockId)
  deriving DecidableEq, Repr, Inhabited

/-- Whether a block, if there is one, is a title comment. -/
def isTitleAt (settings : Settings) (forest : Forest) (id : Option BlockId) : Bool :=
  match id with
  | some id => isTitle settings (forest.block id)
  | none => false

/-- The title comment of a run of variables that starts with a given one: the comment before it, or the
one before that. -/
def titleOf? (settings : Settings) (forest : Forest) (variableId : BlockId) : Option BlockId :=
  match forest.sibling? .backward variableId with
  | none => none
  | some before =>
    let earlier := forest.sibling? .backward before
    if (forest.block before).isComment && isTitleAt settings forest earlier then earlier
    else if isTitle settings (forest.block before) then some before
    else none

/-- The comment right before a variable, unless it is the title. -/
def ownComment? (forest : Forest) (title : Option BlockId) (variableId : BlockId) : Option BlockId :=
  (forest.step? .adjacent .backward variableId).filter fun id =>
    (forest.block id).isComment && some id ≠ title

/-- Skip at most `fuel` comments that are no titles. -/
def skipComments (settings : Settings) (forest : Forest) : (fuel : Nat) → Option BlockId → Option BlockId
  | 0, current => current
  | _, none => none
  | fuel + 1, some id =>
    let block := forest.block id
    if block.isComment && !isTitle settings block then
      skipComments settings forest fuel (forest.sibling? .forward id)
    else some id

/-- A run of variables, with comments that are no titles in between, and the block after it. -/
def takeVariables (settings : Settings) (forest : Forest) (title : Option BlockId) :
    (fuel : Nat) → Option BlockId → List (BlockId × Option BlockId) × Option BlockId
  | 0, current => ([], current)
  | _, none => ([], none)
  | fuel + 1, some id =>
    if (forest.block id).kind = .variableDecl then
      let next := skipComments settings forest fuel (forest.sibling? .forward id)
      let (others, rest) := takeVariables settings forest title fuel next
      ((id, ownComment? forest title id) :: others, rest)
    else ([], some id)

/-- The runs of variables from a variable on, each with its title. -/
def variableRuns (settings : Settings) (forest : Forest) (size : Nat) :
    (fuel : Nat) → Option BlockId → List VariableGroup
  | 0, _ => []
  | _, none => []
  | fuel + 1, some id =>
    let title := titleOf? settings forest id
    let (declared, rest) := takeVariables settings forest title size (some id)
    let next := rest.bind fun id => forest.next? .all .forward (some [.variableDecl]) id
    ⟨title, declared⟩ :: variableRuns settings forest size fuel next

/-- The variables of a content in groups. Runs without a title share one group, which comes last. -/
def variableGroups (settings : Settings) (forest : Forest) (content : ContentId) : List VariableGroup :=
  let members := forest.members content
  let size := members.length
  let first := members.find? fun id => (forest.block id).kind = .variableDecl
  let runs := variableRuns settings forest size size first
  let untitled := (runs.filter fun group => group.title.isNone).flatMap VariableGroup.declared
  (runs.filter fun group => group.title.isSome)
    ++ if untitled.isEmpty then [] else [⟨none, untitled⟩]

/-- Documentation of a variable. -/
def variableElements (forest : Forest) (exported : List Text) (depth : Int) (id : BlockId)
    (comment : Option BlockId) : List Element :=
  let block := forest.block id
  let isExported := match block.identifier? with
    | some name => exported.contains name
    | none => false
  let scope :=
    if isExported then "exported as " ++ join ['.'] (forest.namespacePath id) else "not exported".toList
  let value := match block.info with
    | .variable info => info.value
    | _ => []
  let remark := match comment with
    | some comment => [paragraph (forest.block comment).compactText]
    | none => []
  heading depth (shown block.keyword? ++ ' ' :: shown block.identifier?) :: remark
    ++ [⟨.itemAt 1, some scope⟩, ⟨.itemAt 1, some ("initial value: ``" ++ value ++ "``")⟩]

/-- Documentation of a group of variables, one of `count`. -/
def groupElements (forest : Forest) (exported : List Text) (depth : Int) (count : Nat)
    (group : VariableGroup) : List Element :=
  let (lead, depth) :=
    match group.title with
    | some title => ([heading depth (forest.block title).compactText], depth + 1)
    | none => if count > 1 then ([heading depth "Other Declared Variables"], depth + 1) else ([], depth)
  lead ++ group.declared.flatMap fun (id, comment) => variableElements forest exported depth id comment

end Variables

section Pages

/-- Elements under a heading, or nothing when there are none. -/
def underHeading (depth : Int) (title : Text) (elements : List Element) : List Element :=
  if elements.isEmpty then [] else heading depth title :: elements

/-- All elements of the page of a file. -/
def fileElements (settings : Settings) (forest : Forest) (file : SourceFile) (depth : Int) : List Element :=
  let exported := file.tables.exportedNames
  let members := forest.members file.content
  let isExported (id : BlockId) : Bool :=
    match (forest.block id).identifier? with
    | some name => exported.contains name
    | none => false
  let ofKind (kind : BlockKind) (wanted : Bool) : List BlockId :=
    members.filter fun id => (forest.block id).kind == kind && isExported id == wanted
  let classes (wanted : Bool) :=
    (ofKind .classDecl wanted).flatMap fun id => classElements forest id (depth + 1) wanted
  let functions (wanted : Bool) :=
    (ofKind .functionDecl wanted).flatMap fun id => callableElements forest id (depth + 2) (.function wanted)
  let groups := variableGroups settings forest file.content
  let declared := groups.flatMap (groupElements forest exported (depth + 2) groups.length)
  fileHeader settings forest file depth ++ classes true ++ classes false
    ++ underHeading (depth + 1) "Exported Functions" (functions true)
    ++ underHeading (depth + 1) "Internal Functions" (functions false)
    ++ underHeading (depth + 1) "Variable Declarations" declared

/-- Where the page of a file goes. -/
def pagePath (settings : Settings) (file : SourceFile) : Text :=
  let path := (given? file.path).getD "unit"
  Path.append (settings.value .baseCodePath) (Path.stem path ++ ".rst")

/-- The page of a file. -/
def filePage (settings : Settings) (forest : Forest) (depth : Int) (file : SourceFile) :
    Except LayoutError Sheet := do
  let rows ← Element.textRows settings (fileElements settings forest file depth)
  return ⟨pagePath settings file, rows⟩

/-- The page that lists the others. -/
def indexPage (settings : Settings) (pages : List Sheet) : Except LayoutError Sheet := do
  let name : Text := settings.value .projectName
  let version : Text := settings.value .version
  let author : Text := settings.value .author
  let title := heading 1 (if name.isEmpty then "Documentation".toList else name)
  let versionPart := if version.isEmpty then [] else [⟨.strong, some ("Version " ++ version)⟩]
  let authorPart := if author.isEmpty then [] else [paragraph ("Author: " ++ author)]
  let rows ← Element.textRows settings (title :: versionPart ++ authorPart)
  let list : List Text := [[], ".. toctree::", "   :maxdepth: 2", []]
  return ⟨"index.rst", rows ++ list ++ pages.map fun page => "   " ++ Path.stem page.path⟩

/-- All pages of a project: one for each linked file, and the index if it is wanted. -/
def generate (settings : Settings) (project : Project) (depth : Int) : Except LayoutError (List Sheet) := do
  let pages ← project.ordered.mapM fun id => filePage settings project.forest depth (project.file id)
  if settings.value .generateIndex then return pages ++ [← indexPage settings pages] else return pages

end Pages

end Docweave.Page
