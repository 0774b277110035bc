import Docweave.Yaml.Token
import Docweave.Yaml.Plain

/-!
# Nodes of a YAML document

Tokens make up a tree of scalars, sequences and mappings, each with a tag that says what it stands for. A place
where a node is left out holds an empty scalar, which stands for nothing. A reference to an anchor is the node
that the anchor names. Such a node may stand in several places, so it carries a mark, and so do the nodes in it. A
reference inside of the node itself is its mark alone.
-/

namespace Docweave.Yaml

/-- A node of a document. -/
inductive Node where
  | scalar (mark : Option Nat) (tag : Tag) (text : Text)
  | sequence (mark : Option Nat) (tag : Tag) (items : List Node)
  | mapping (mark : Option Nat) (tag : Tag) (entries : List (Node × Node))
  | again (mark : Nat)
  deriving Repr, Inhabited

namespace Node

/-- The node that stands where one is left out. -/
def empty : Node := .scalar none .nothing []

/-- The full form of the tags that have a meaning. -/
def tagSpace : Text := "tag:yaml.org,2002:"

/-- The handles that stand for the start of a tag wherever nothing else is said. -/
def standardHandles : List (Text × Text) := [("!", ['!']), ("!!", tagSpace)]

/-- The tokens that are left, the anchors read so far with the nodes that they name, the anchors of the nodes around
this place with their marks, and the handles of tags with what they stand for. -/
structure Reading where
  tokens : List Token
  anchors : List (Text × Node) := []
  around : List (Text × Nat) := []
  handles : List (Text × Text) := standardHandles
  deriving Repr

/-- A reader takes a result off the tokens, or says why there is none. -/
abbrev Reader (α : Type) := Reading → Except ReadError (α × Reading)

namespace Reading

/-- The next token. -/
def peek? (reading : Reading) : Option Token := reading.tokens.head?

/-- Whether the next token is one of several. -/
def sees (reading : Reading) (tokens : List Token) : Bool :=
  match reading.peek? with
  | some token => tokens.contains token
  | none => false

/-- Move over a token. -/
def next (reading : Reading) : Reading := { reading with tokens := reading.tokens.drop 1 }

/-- Refuse the next token: it has no place here, or it tells of an error of its own. -/
def refuse {α : Type} (reading : Reading) : Except ReadError α :=
  match reading.peek? with
  | some (.fault error) => .error error
  | _ => .error .malformed

/-- Move over a token that has to stand here. -/
def expect (reading : Reading) (token : Token) : Except ReadError Reading :=
  if reading.sees [token] then .ok reading.next else reading.refuse

/-- The mark of a node that starts here. Only a node inside of a named one is ever referred to again. -/
def mark? (reading : Reading) : Option Nat :=
  if reading.around.isEmpty then none else some reading.tokens.length

/-- Whether an anchor has been read. -/
def hasAnchor (reading : Reading) (anchor : Text) : Bool :=
  reading.anchors.any (fun entry => entry.1 == anchor) || reading.around.any fun entry => entry.1 == anchor

/-- Go into a node that may have a name. Each name is given once. -/
def enter (reading : Reading) : (anchor : Option Text) → Except ReadError Reading
  | none => .ok reading
  | some anchor =>
    if reading.hasAnchor anchor then .error .malformed
    else .ok { reading with around := (anchor, reading.tokens.length) :: reading.around }

/-- Come out of a node that may have a name. -/
def leave (reading : Reading) (anchor : Option Text) (node : Node) : Reading :=
  match anchor with
  | none => reading
  | some anchor =>
    { reading with anchors := (anchor, node) :: reading.anchors, around := reading.around.drop 1 }

/-- The node that an anchor names. -/
def find? (reading : Reading) (anchor : Text) : Option Node :=
  reading.anchors.lookup anchor <|> (reading.around.lookup anchor).map .again

end Reading

/-- What a tag asks for. -/
inductive Asked where
  | anything
  | tag (tag : Tag)
  deriving DecidableEq, Repr

/-- The tags that have a meaning. -/
def knownTags : List (Text × Tag) :=
  [("null", .nothing), ("bool", .flag), ("int", .integer), ("float", .decimal), ("binary", .binary),
    ("timestamp", .date), ("str", .text), ("seq", .sequence), ("map", .mapping), ("omap", .ordered),
    ("pairs", .pairs), ("set", .set), ("merge", .merge), ("value", .standIn)]

/-- What a tag asks for in its full form. A single exclamation mark asks for nothing. -/
def askedBy (tag : Text) : Asked :=
  if tag = ['!'] then .anything
  else .tag (((Text.after? tagSpace tag).bind fun name => knownTags.lookup name).getD .unknown)

/-- What a tag of a handle and the rest asks for. -/
def askedIn (reading : Reading) (handle suffix : Text) : Except ReadError Asked :=
  if handle.isEmpty then .ok (askedBy suffix)
  else
    match reading.handles.lookup handle with
    | some start => .ok (askedBy (start ++ suffix))
    | none => .error .malformed

/-- The anchor and the tag before a node, in either order. -/
def properties (reading : Reading) : Except ReadError (Option Text × Option Asked × Reading) :=
  match reading.tokens with
  | .anchor name :: .tag handle suffix :: rest =>
    (askedIn reading handle suffix).map fun asked => (some name, some asked, { reading with tokens := rest })
  | .tag handle suffix :: .anchor name :: rest =>
    (askedIn reading handle suffix).map fun asked => (some name, some asked, { reading with tokens := rest })
  | .anchor name :: rest => .ok (some name, none, { reading with tokens := rest })
  | .tag handle suffix :: rest =>
    (askedIn reading handle suffix).map fun asked => (none, some asked, { reading with tokens := rest })
  | _ => .ok (none, none, reading)

/-- The tag of a scalar. Without one a plain scalar stands for what it is spelled like. -/
def scalarTag (asked : Option Asked) (plain : Bool) (text : Text) : Tag :=
  match asked with
  | none => if plain then Plain.kind text else .text
  | some .anything => Plain.kind text
  | some (.tag tag) => tag

/-- The tag of a collection that has a tag of its own unless another is asked for. -/
def tagOr (own : Tag) : Option Asked → Tag
  | some (.tag tag) => tag
  | _ => own

/-- Where a node stands: in brackets, in a block, or as the value of a block mapping, where a sequence need
not be indented. -/
inductive Context where
  | flow
  | block
  | blockValue
  deriving DecidableEq, Repr

/-- Read an anchor or a tag without a node: an empty scalar. -/
def bare (anchor : Option Text) (asked : Option Asked) : Reader Node := fun reading =>
  if anchor.isNone ∧ asked.isNone then reading.refuse
  else .ok (.scalar reading.mark? (scalarTag asked true []) [], reading)

/-- Put an item before those that are read after it. -/
def prepend {α : Type} (item : α) (more : Except ReadError (List α × Reading)) :
    Except ReadError (List α × Reading) :=
  more.map fun (items, reading) => (item :: items, reading)

/-- A sequence of the items that are read. -/
def sequenceOf (mark : Option Nat) (asked : Option Asked) (items : Except ReadError (List Node × Reading)) :
    Except ReadError (Node × Reading) :=
  items.map fun (items, reading) => (.sequence mark (tagOr .sequence asked) items, reading)

/-- A mapping of the entries that are read. -/
def mappingOf (mark : Option Nat) (asked : Option Asked)
    (entries : Except ReadError (List (Node × Node) × Reading)) : Except ReadError (Node × Reading) :=
  entries.map fun (entries, reading) => (.mapping mark (tagOr .mapping asked) entries, reading)

mutual

/-- Read a node. -/
def node (context : Context) : (fuel : Nat) → Reader Node
  | 0, _ => .error .malformed
  | fuel + 1, reading =>
    match reading.tokens with
    | .copy name :: rest =>
      match reading.find? name with
      | some node => .ok (node, { reading with tokens := rest })
      | none => .error .malformed
    | _ => do
      let (anchor, asked, reading) ← properties reading
      let reading ← reading.enter anchor
      let mark := reading.mark?
      let (node, reading) ← match reading.peek? with
        | some .blockEntry =>
          if context = .blockValue then sequenceOf mark asked (looseItems fuel reading)
          else bare anchor asked reading
        | some (.scalar plain text) => .ok (.scalar mark (scalarTag asked plain text) text, reading.next)
        | some .flowSequence => sequenceOf mark asked (flowItems true fuel reading.next)
        | some .flowMapping => mappingOf mark asked (flowEntries true fuel reading.next)
        | some .blockSequence =>
          if context = .flow then bare anchor asked reading
          else sequenceOf mark asked (blockItems fuel reading.next)
        | some .blockMapping =>
          if context = .flow then bare anchor asked reading
          else mappingOf mark asked (blockEntries fuel reading.next)
        | some (.fault _) => reading.refuse
        | _ => bare anchor asked reading
      return (node, reading.leave anchor node)

/-- Read a node, or an empty one before one of several tokens. -/
def nodeOr (context : Context) (ends : List Token) : (fuel : Nat) → Reader Node
  | 0, _ => .error .malformed
  | fuel + 1, reading => if reading.sees ends then .ok (empty, reading) else node context fuel reading

/-- Read the items of a block sequence. -/
def blockItems : (fuel : Nat) → Reader (List Node)
  | 0, _ => .error .malformed
  | fuel + 1, reading =>
    match reading.peek? with
    | some .blockEnd => .ok ([], reading.next)
    | some .blockEntry => do
      let (item, reading) ← nodeOr .block [.blockEntry, .blockEnd] fuel reading.next
      prepend item (blockItems fuel reading)
    | _ => reading.refuse

/-- Read the items of a sequence that is not indented below its key. -/
def looseItems : (fuel : Nat) → Reader (List Node)
  | 0, _ => .error .malformed
  | fuel + 1, reading =>
    match reading.peek? with
    | some .blockEntry => do
      let (item, reading) ← nodeOr .block [.blockEntry, .key, .value, .blockEnd] fuel reading.next
      prepend item (looseItems fuel reading)
    | _ => .ok ([], reading)

/-- Read the value of an entry, or an empty one where it is left out. -/
def valueOr (context : Context) (ends : List Token) : (fuel : Nat) → Reader Node
  | 0, _ => .error .malformed
  | fuel + 1, reading =>
    if reading.sees [.value] then nodeOr context ends fuel reading.next else .ok (empty, reading)

/-- Read the entries of a block mapping. -/
def blockEntries : (fuel : Nat) → Reader (List (Node × Node))
  | 0, _ => .error .malformed
  | fuel + 1, reading =>
    match reading.peek? with
    | some .blockEnd => .ok ([], reading.next)
    | some .key => do
      let ends : List Token := [.key, .value, .blockEnd]
      let (key, reading) ← nodeOr .blockValue ends fuel reading.next
      let (value, reading) ← valueOr .blockValue ends fuel reading
      prepend (key, value) (blockEntries fuel reading)
    | _ => reading.refuse

/-- Read a key in brackets, and its value. -/
def flowPair (last : Token) : (fuel : Nat) → Reader (Node × Node)
  | 0, _ => .error .malformed
  | fuel + 1, reading => do
    let (key, reading) ← nodeOr .flow [.value, .flowEntry, last] fuel reading
    let (value, reading) ← valueOr .flow [.flowEntry, last] fuel reading
    return ((key, value), reading)

/-- Read the items of a sequence in brackets. An item with a key is a mapping of its own. -/
def flowItems (first : Bool) : (fuel : Nat) → Reader (List Node)
  | 0, _ => .error .malformed
  | fuel + 1, reading => do
    if reading.sees [.flowSequenceEnd] then return ([], reading.next)
    let reading ← if first then .ok reading else reading.expect .flowEntry
    if reading.sees [.flowSequenceEnd] then return ([], reading.next)
    if reading.sees [.key] then
      let mark := reading.mark?
      let (entry, reading) ← flowPair .flowSequenceEnd fuel reading.next
      prepend (.mapping mark .mapping [entry]) (flowItems false fuel reading)
    else
      let (item, reading) ← node .flow fuel reading
      prepend item (flowItems false fuel reading)

/-- Read the entries of a mapping in brackets. -/
def flowEntries (first : Bool) : (fuel : Nat) → Reader (List (Node × Node))
  | 0, _ => .error .malformed
  | fuel + 1, reading => do
    if reading.sees [.flowMappingEnd] then return ([], reading.next)
    let reading ← if first then .ok reading else reading.expect .flowEntry
    if reading.sees [.flowMappingEnd] then return ([], reading.next)
    if reading.sees [.key] then
      let (entry, reading) ← flowPair .flowMappingEnd fuel reading.next
      prepend entry (flowEntries false fuel reading)
    else
      let (key, reading) ← node .flow fuel reading
      prepend (key, empty) (flowEntries false fuel reading)

end

/-- Tokens between documents, and the end of the text. -/
def seesNoContent (reading : Reading) : Bool :=
  match reading.peek? with
  | none | some (.version _) | some (.tagHandle _ _) | some .directive | some .documentStart
  | some .documentEnd => true
  | _ => false

/-- Move over the directives of a document. The version is given at most once, and its first number is one. Each
handle of tags is given at most once. -/
def directives (versioned : Bool) (given : List (Text × Text)) (tokens : List Token) : Except ReadError Reading :=
  match tokens with
  | .version major :: rest =>
    if versioned || major ≠ 1 then .error .malformed else directives true given rest
  | .tagHandle handle space :: rest =>
    if given.any fun entry => entry.1 == handle then .error .malformed
    else directives versioned ((handle, space) :: given) rest
  | .directive :: rest => directives versioned given rest
  | .documentStart :: rest => .ok { tokens := rest, handles := given ++ standardHandles }
  | _ => ({ tokens } : Reading).refuse

/-- Read the root of a document. A document without a mark at its start has content. -/
def root (tokens : List Token) : Except ReadError (Node × Reading) :=
  let fuel := 5 * tokens.length + 5
  match tokens with
  | .version _ :: _ | .tagHandle _ _ :: _ | .directive :: _ | .documentStart :: _ => do
    let reading ← directives false [] tokens
    if seesNoContent reading then return (empty, reading)
    node .block fuel reading
  | _ => node .block fuel { tokens }

/-- The single document that tokens make up. A text without tokens is empty. -/
def ofTokens (tokens : List Token) : Except ReadError Node :=
  if tokens.isEmpty then .ok empty
  else do
    let (node, reading) ← root tokens
    let reading := { reading with tokens := reading.tokens.dropWhile (· == Token.documentEnd) }
    if reading.tokens.isEmpty then return node
    reading.refuse

/-- The single document that a text holds. -/
def ofText (text : Text) : Except ReadError Node :=
  match Token.ofText? text with
  | some tokens => ofTokens tokens
  | none => .error .malformed

end Node

end Docweave.Yaml
