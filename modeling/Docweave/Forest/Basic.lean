import Docweave.Outline
import Docweave.Value.Basic

/-!
# Forests

Directives name blocks, rename them and refer from one to another, so blocks need an identity that
outlasts such changes. A forest holds every block and every content, the ordered sequence of blocks of a
file or of an opened body. A block knows its place in the content that holds it, and a content the block
whose body it is. A block that was cut off has no place but keeps everything else.
-/

namespace Docweave

/-- The identity of a block. -/
structure BlockId where
  index : Nat
  deriving DecidableEq, Repr, Inhabited

/-- The identity of a content. -/
structure ContentId where
  index : Nat
  deriving DecidableEq, Repr, Inhabited

/-- The value of a documented field: another block, or plain data. -/
inductive FieldValue where
  | block (id : BlockId)
  | plain (value : Value)
  deriving Repr, Inhabited

/-- A position in a content. -/
structure Place where
  content : ContentId
  index : Nat
  deriving DecidableEq, Repr, Inhabited

/-- A block and what directives have noted about it. Aliases and fields keep the order in which they
were added. -/
structure Entry where
  block : Block
  exportedName : Option Text := none
  aliases : List Text := []
  fields : List (Text × FieldValue) := []
  nested : Option ContentId := none
  place : Option Place := none
  deriving Repr, Inhabited

/-- A sequence of blocks, the text it was read from, and the block whose body that text is. -/
structure Content where
  text : Text := []
  row : Int := 1
  members : List BlockId := []
  owner : Option BlockId := none
  deriving DecidableEq, Repr, Inhabited

/-- All blocks and contents. -/
structure Forest where
  entries : Array Entry := #[]
  contents : Array Content := #[]
  deriving Repr, Inhabited

namespace Forest

/-- The entry of a block. -/
def entry (forest : Forest) (id : BlockId) : Entry := (forest.entries[id.index]?).getD default

/-- The block with a given identity. -/
def block (forest : Forest) (id : BlockId) : Block := (forest.entry id).block

/-- The content with a given identity. -/
def content (forest : Forest) (id : ContentId) : Content := (forest.contents[id.index]?).getD default

/-- The blocks of a content, in order. -/
def members (forest : Forest) (id : ContentId) : List BlockId := (forest.content id).members

/-- Change the entry of a block. -/
def modifyEntry (id : BlockId) (change : Entry → Entry) (forest : Forest) : Forest :=
  { forest with entries := forest.entries.modify id.index change }

/-- Change a content. -/
def modifyContent (id : ContentId) (change : Content → Content) (forest : Forest) : Forest :=
  { forest with contents := forest.contents.modify id.index change }

/-- Add a block that stands in no content. -/
def newBlock (block : Block) (forest : Forest) : Forest × BlockId :=
  ({ forest with entries := forest.entries.push { block } }, ⟨forest.entries.size⟩)

/-- Add a content. -/
def newContent (content : Content) (forest : Forest) : Forest × ContentId :=
  ({ forest with contents := forest.contents.push content }, ⟨forest.contents.size⟩)

/-- Take a block out of its place. The content that held it is left to the caller. -/
def detach (forest : Forest) (id : BlockId) : Forest :=
  forest.modifyEntry id fun entry => { entry with place := none }

/-- Put a block at the end of a content. -/
def append (content : ContentId) (id : BlockId) (forest : Forest) : Forest :=
  let index := (forest.members content).length
  let placed := forest.modifyEntry id fun entry => { entry with place := some ⟨content, index⟩ }
  placed.modifyContent content fun record => { record with members := record.members ++ [id] }

/-- Keep the blocks of a content before a signed offset and cut off the others. -/
def truncate (content : ContentId) (length : Int) (forest : Forest) : Forest :=
  let members := forest.members content
  if length ≥ members.length then forest
  else
    let cut := (Text.dropSigned length members).foldl detach forest
    cut.modifyContent content fun record => { record with members := Text.takeSigned length members }

mutual

/-- Put the blocks of a tree at the end of a content, each body that is opened into a content of its
own. -/
def plantTree (content : ContentId) : BlockTree → Forest → Forest
  | .leaf block, forest =>
    let (forest, id) := forest.newBlock block
    forest.append content id
  | .branch block members, forest =>
    let (forest, id) := forest.newBlock block
    let forest := forest.append content id
    let body := block.body?.getD default
    let (forest, inner) := forest.newContent { text := body.text, row := body.row, owner := some id }
    let forest := forest.modifyEntry id fun entry => { entry with nested := some inner }
    plantTrees inner members forest

/-- Put the blocks of several trees at the end of a content. -/
def plantTrees (content : ContentId) : List BlockTree → Forest → Forest
  | [], forest => forest
  | tree :: trees, forest => plantTrees content trees (plantTree content tree forest)

end

/-- Replace the blocks of a content by those of a text. -/
def load (content : ContentId) (text : Text) (row : Int) (forest : Forest) : Forest :=
  let emptied := (forest.members content).foldl detach forest
  let emptied := emptied.modifyContent content fun record => { record with text, row, members := [] }
  emptied.plantTrees content (Outline.parse text row).members

/-- A forest with one content, which holds the blocks of a text. -/
def ofText (text : Text) (row : Int) : Forest × ContentId :=
  let (forest, id) := newContent { row } {}
  (forest.load id text row, id)

/-- Open the body of a block, unless that has been done. -/
def openBody (id : BlockId) (forest : Forest) : Forest :=
  match (forest.entry id).nested, (forest.block id).body? with
  | none, some body =>
    let (forest, inner) := forest.newContent { owner := some id }
    let forest := forest.load inner body.text body.row
    forest.modifyEntry id fun entry => { entry with nested := some inner }
  | _, _ => forest

/-- The text that the blocks of a content make up. -/
def sourceText (forest : Forest) (id : ContentId) : Text :=
  Outline.gap (forest.content id).text ++ Outline.blockText ((forest.members id).map forest.block)

/-- The content that holds a block. -/
def parent? (forest : Forest) (id : BlockId) : Option ContentId := (forest.entry id).place.map Place.content

/-- The position of a block in the content that holds it, or minus one. -/
def index (forest : Forest) (id : BlockId) : Int :=
  match (forest.entry id).place with
  | some place => place.index
  | none => -1

/-- The position of a block in a given content, or minus one when it is not there. -/
def indexIn (forest : Forest) (content : ContentId) (id : BlockId) : Int :=
  match (forest.entry id).place with
  | some place =>
    if place.content = content ∧ place.index < (forest.members content).length then place.index else -1
  | none => -1

/-- The block in whose body a block stands. -/
def owner? (forest : Forest) (id : BlockId) : Option BlockId :=
  (forest.parent? id).bind fun content => (forest.content content).owner

/-- A block and the blocks in whose bodies it stands, from the inside out. No chain is longer than the
number of blocks. -/
def ownersFrom (forest : Forest) : (fuel : Nat) → BlockId → List BlockId
  | 0, id => [id]
  | fuel + 1, id =>
    match forest.owner? id with
    | none => [id]
    | some owner => id :: ownersFrom forest fuel owner

/-- A block after the blocks in whose bodies it stands, from the outside in. -/
def lineage (forest : Forest) (id : BlockId) : List BlockId :=
  (forest.ownersFrom forest.entries.size id).reverse

/-- The name under which a block is shown: the one it is exported under, or else the declared one. -/
def displayName? (forest : Forest) (id : BlockId) : Option Text :=
  match (forest.entry id).exportedName with
  | some (char :: rest) => some (char :: rest)
  | _ => (forest.block id).declaredName?

/-- The names of a block and of the blocks around it, from the outside in. -/
def namespacePath (forest : Forest) (id : BlockId) : List Text :=
  (forest.lineage id).filterMap fun owner =>
    match forest.displayName? owner with
    | some (char :: rest) => some (char :: rest)
    | _ => none

/-- Add an alias, unless the block has it. The answer says whether it was added. -/
def addAlias (id : BlockId) (name : Text) (forest : Forest) : Forest × Bool :=
  if (forest.entry id).aliases.contains name then (forest, false)
  else (forest.modifyEntry id fun entry => { entry with aliases := entry.aliases ++ [name] }, true)

/-- Export a block under a name. -/
def exportAs (id : BlockId) (name : Text) (forest : Forest) : Forest :=
  forest.modifyEntry id fun entry => { entry with exportedName := some name }

/-- Document a field of a block. -/
def assignField (id : BlockId) (name : Text) (value : FieldValue) (forest : Forest) : Forest :=
  forest.modifyEntry id fun entry =>
    { entry with fields := Value.putEntry (· == ·) name value entry.fields }

/-- What is shown of a block where it is only referred to: its positions from the outside in, its kind,
row and name. -/
structure Reference where
  path : List Int
  kind : BlockKind
  row : Int
  name : Option Text
  deriving DecidableEq, Repr

/-- The reference to a block. -/
def reference (forest : Forest) (id : BlockId) : Reference :=
  let block := forest.block id
  ⟨(forest.lineage id).map forest.index, block.kind, block.row, forest.displayName? id⟩

/-- A short description of a content for messages. -/
def describeContent (forest : Forest) (id : ContentId) : Text :=
  "Content(blocks=" ++ Text.ofNat (forest.members id).length ++ ", row=" ++ Text.ofInt (forest.content id).row
    ++ ")"

end Forest

end Docweave
