import Docweave.Yaml.Node
import Docweave.Yaml.Scalar

/-!
# Values of a YAML document

A document stands for a plain value. A mapping keeps the order in which its keys first appear, and a key
that appears again takes the later value. Entries that are merged in come before its own.

Values are made level by level, from the root on: what stands in a collection is made once everything on the
level of the collection has been. So of several errors the one nearest to the root counts, and among those on one
level the first.
-/

namespace Docweave.Yaml

/-- Whether a character may stand in a document. -/
def isPrintable (char : Char) : Bool :=
  char == '\t' || char == '\n' || char == '\r' || char == '\u0085' || (' ' ≤ char && char ≤ '~')
    || ('\u00a0' ≤ char && char ≤ '\ufffd') || char.toNat ≥ 0x10000

/-- An error, and the level on which it turns up. -/
structure Fault where
  level : Nat
  error : ReadError
  deriving DecidableEq, Repr

/-- What comes of a part of a document. -/
abbrev Made (α : Type) := Except Fault α

namespace Made

/-- Two results together. The error on the earlier level counts, or else the first. -/
def both {α β : Type} (left : Made α) (right : Made β) : Made (α × β) :=
  match left, right with
  | .ok left, .ok right => .ok (left, right)
  | .error left, .error right => .error (if right.level < left.level then right else left)
  | .error fault, .ok _ | .ok _, .error fault => .error fault

/-- A result before others. -/
def cons {α : Type} (first : Made α) (rest : Made (List α)) : Made (List α) :=
  (both first rest).map fun (first, rest) => first :: rest

end Made

/-- A mapping of entries that are put in one after the other. -/
def entriesOf (entries : List (Value × Value)) : List (Value × Value) :=
  entries.foldl (fun mapping (key, value) => Value.putEntry Value.sameKey key value mapping) []

/-- The entries of a mapping: whether all that it merges in are mappings, the entries that are merged in, and its
own. -/
structure Entries where
  mergeable : Bool := true
  merged : Made (List (Value × Value)) := .ok []
  own : Made (List (Value × Value)) := .ok []

namespace Entries

/-- The entries that are merged in, before its own. -/
def all (entries : Entries) : Made (List (Value × Value)) :=
  (Made.both entries.merged entries.own).map fun (merged, own) => merged ++ own

/-- The entries of a mapping that is made on a level. Mappings are merged before any value is made. -/
def onLevel (level : Nat) (entries : Entries) : Made (List (Value × Value)) :=
  if entries.mergeable then entries.all else .error ⟨level, .malformed⟩

/-- The entries of a mapping that may carry a mark, as they are outside of it. -/
def opened (mark : Option Nat) (entries : Entries) : Entries :=
  match mark with
  | none => entries
  | some mark =>
    let whole (all : List (Value × Value)) : Value := .shared mark (.mapping (entriesOf all))
    { mergeable := entries.mergeable, own := entries.all.map fun all => Value.replaceEntries mark (whole all) all }

/-- The entries that another mapping adds by way of merging. -/
def merge (added entries : Entries) : Entries where
  mergeable := added.mergeable && entries.mergeable
  merged := (Made.both added.all entries.merged).map fun (added, merged) => added ++ merged
  own := entries.own

/-- What cannot be merged. -/
def unmergeable : Entries := { mergeable := false }

end Entries

namespace Node

/-- What is made on a level. -/
def onLevel {α : Type} (level : Nat) (result : Except ReadError α) : Made α := result.mapError (Fault.mk level)

/-- Whether a tag names a collection. What is in it is looked at a level further in. -/
def isCollectionTag : Tag → Bool
  | .sequence | .ordered | .pairs | .mapping | .set => true
  | _ => false

/-- The level on which a node that does not fit its tag is refused. -/
def refusalLevel (level : Nat) (tag : Tag) : Nat := if isCollectionTag tag then level + 1 else level

/-- Whether a node makes up a collection, which cannot be a key. -/
def isCollection : Node → Bool
  | .scalar _ tag _ | .sequence _ tag _ | .mapping _ tag _ => isCollectionTag tag
  | .again _ => true

/-- A value of a node that carries a mark. Of scalars only dates and moments are told apart by it. -/
def marked (mark : Option Nat) (value : Value) : Value :=
  match mark, value with
  | some mark, .list _ | some mark, .set _ | some mark, .mapping _ | some mark, .date _ _ _
  | some mark, .moment _ => .shared mark value
  | _, _ => value

mutual

/-- The text of a node. A mapping has the text of its default value. -/
def text? : Node → Option Text
  | .scalar _ _ text => some text
  | .mapping _ _ entries => standInText? entries
  | .sequence _ _ _ | .again _ => none

/-- The text of the default value among entries. -/
def standInText? : List (Node × Node) → Option Text
  | [] => none
  | (.scalar _ .standIn _, value) :: _ => text? value
  | (_, _) :: entries => standInText? entries

end

mutual

/-- The value of a node on a level. -/
def toValue (level : Nat) : Node → Made Value
  | .scalar mark tag text =>
    if isCollectionTag tag then onLevel (level + 1) (.error .malformed)
    else (onLevel level (Scalar.value tag text)).map (marked mark)
  | .sequence mark .sequence items => (toValues (level + 1) items).map fun items => marked mark (.list items)
  | .sequence mark .ordered items | .sequence mark .pairs items =>
    (toPairs (level + 1) items).map fun pairs => marked mark (.list pairs)
  | .sequence _ tag _ => onLevel (refusalLevel level tag) (.error .malformed)
  | .mapping mark .mapping entries =>
    ((toEntries (level + 1) entries).onLevel (level + 1)).map fun all => marked mark (.mapping (entriesOf all))
  | .mapping mark .set entries =>
    ((toEntries (level + 1) entries).onLevel (level + 1)).map fun all =>
      marked mark (.set ((entriesOf all).map Prod.fst))
  | .mapping mark tag entries =>
    if isCollectionTag tag then onLevel (level + 1) (.error .malformed)
    else
      match standInText? entries with
      | some text => (onLevel level (Scalar.value tag text)).map (marked mark)
      | none => onLevel level (.error .malformed)
  | .again mark => .ok (.again mark)

/-- The values of nodes. -/
def toValues (level : Nat) : List Node → Made (List Value)
  | [] => .ok []
  | item :: items => Made.cons (toValue level item) (toValues level items)

/-- The pairs of mappings with one entry each. -/
def toPairs (level : Nat) : List Node → Made (List Value)
  | [] => .ok []
  | .mapping _ _ [(key, value)] :: items =>
    let pair := (Made.both (toValue level key) (toValue level value)).map fun (key, value) => Value.pair key value
    Made.cons pair (toPairs level items)
  | _ :: _ => onLevel level (.error .malformed)

/-- The entries of a mapping. -/
def toEntries (level : Nat) : List (Node × Node) → Entries
  | [] => {}
  | (.scalar _ .merge _, value) :: entries => (mergedEntries level value).merge (toEntries level entries)
  | (.scalar _ .standIn text, value) :: entries =>
    let rest := toEntries level entries
    { rest with own := Made.cons ((toValue level value).map (.text text, ·)) rest.own }
  | (key, value) :: entries =>
    let rest := toEntries level entries
    let made := if key.isCollection then onLevel level (.error .malformed) else (toValue level key).map Value.opened
    { rest with own := Made.cons (Made.both made (toValue level value)) rest.own }

/-- The entries that a mapping, or a sequence of mappings, adds to another. What is merged into itself adds
nothing. -/
def mergedEntries (level : Nat) : Node → Entries
  | .mapping mark _ entries => (toEntries level entries).opened mark
  | .sequence _ _ items => mergedItems level items
  | .scalar _ _ _ => .unmergeable
  | .again _ => {}

/-- The entries that several mappings add to another. An earlier one overrides a later one, so it comes
after it. -/
def mergedItems (level : Nat) : List Node → Entries
  | [] => {}
  | .again _ :: items => mergedItems level items
  | .mapping mark _ entries :: items =>
    let later := mergedItems level items
    let first := (toEntries level entries).opened mark
    { mergeable := first.mergeable && later.mergeable, merged := later.all, own := first.all }
  | _ :: _ => .unmergeable

end

end Node

/-- The value that a text stands for. -/
def read (text : Text) : Except ReadError Value :=
  if !text.all isPrintable then .error .malformed
  else do
    let node ← Node.ofText text
    (node.toValue 0).mapError Fault.error

end Docweave.Yaml
