import Docweave.Settings.Basic
import Docweave.Text.Indent
import Docweave.Text.Wrap

/-!
# Elements of a page

A page is a sequence of styled texts. An element is laid out as rows of its own, and the styles of two
neighbours decide how many empty rows stand between them.
-/

namespace Docweave.Page

open Text

/-- The style of an element. An item of a list has a depth, unless the list is a plain one. -/
inductive Style where
  | heading (depth : Int)
  | paragraph
  | strong
  | item (depth : Option Nat)
  | literal
  | other (name : Text)
  deriving DecidableEq, Repr, Inhabited

namespace Style

/-- The name of a style. -/
def name : Style → Text
  | .heading depth => 'h' :: ofInt depth
  | .paragraph => "p"
  | .strong => "b"
  | .item none => "l"
  | .item (some depth) => 'l' :: ofNat depth
  | .literal => "code"
  | .other name => name

/-- Styles that are known by name. -/
def known : List Style :=
  [.paragraph, .strong, .literal, .item none]
    ++ [1, 2, 3, 4, 5].map (fun depth => .heading depth)
    ++ [1, 2, 3, 4, 5, 6, 7, 8].map (fun depth => .item (some depth))

/-- The style with a name. -/
def ofName (name : Text) : Style := (known.find? fun style => style.name == name).getD (.other name)

/-- The rank of a heading, from zero. There are five. -/
def headingRank? : Style → Option Nat
  | .heading depth => if 1 ≤ depth ∧ depth ≤ 5 then some (depth - 1).toNat else none
  | _ => none

/-- Whether a style is one of the five headings. -/
def isHeading (style : Style) : Bool := style.headingRank?.isSome

/-- Width of the padding before an item, its bullet included. -/
def itemWidth? : Style → Option Nat
  | .item none => some 2
  | .item (some depth) => some (3 * depth - 1)
  | _ => none

/-- Whether a style is an item of a list. -/
def isItem (style : Style) : Bool := style.itemWidth?.isSome

/-- The style of an item at a depth. Deeper lists than eight look alike. -/
def itemAt (depth : Int) : Style := .item (some (max 1 (min depth 8)).toNat)

end Style

/-- A styled text; an element without text is left out. -/
structure Element where
  style : Style
  text : Option Text
  deriving DecidableEq, Repr, Inhabited

/-- Why elements cannot be laid out. -/
inductive LayoutError where
  | columnBeforeText
  | noHeadingMark
  | noMarkUnder (key : Int)
  | headingMarkNotText
  deriving DecidableEq, Repr, Inhabited

namespace Element

/-- The empty rows between two elements. -/
def between (before after : Element) : List Text :=
  if after.style.isItem then
    if before.style.name = after.style.name then [] else [[]]
  else if after.style.isHeading then [[], []]
  else [[]]

/-- Wrap a text between the columns of the settings. -/
def wrapped (text : Text) (most least : Int) : Except LayoutError (List Text) :=
  match wrap text most least with
  | some rows => .ok rows
  | none => .error .columnBeforeText

/-- A row that repeats a mark; a mark that counts as absent gives an empty row. A list may be repeated
like a text, and is then no row of text. -/
def markRow (length : Nat) (mark : Value) : Except LayoutError Value :=
  if mark.isEmpty then .ok (.text [])
  else
    match mark.opened with
    | .text unit => .ok (.text (fill length unit))
    | .bytes unit => .ok (.bytes (fill length unit))
    | .list unit => .ok (.list (fill length unit))
    | .pair first second => .ok (.list (fill length [first, second]))
    | _ => .error .headingMarkNotText

/-- The single marks that heading marks are made of, which stand one after the other. -/
def singleMarks? : Value → Option (List Value)
  | .text marks => some (marks.map fun char => .text [char])
  | .bytes marks => some (marks.map fun byte => .int byte.toNat)
  | .list marks => some marks
  | .pair first second => some [first, second]
  | _ => none

/-- Number of the single marks that heading marks are made of. -/
def markCount : Value → Except LayoutError Nat
  | .mapping entries => .ok entries.length
  | .set items => .ok items.length
  | marks =>
    match singleMarks? marks with
    | some marks => .ok marks.length
    | none => .error .headingMarkNotText

/-- The single mark at a place, which is a key where the marks are a mapping. -/
def markAt (marks : Value) (place : Int) : Except LayoutError Value :=
  match marks with
  | .mapping entries =>
    match entries.find? fun (key, _) => Value.sameKey key (.int place) with
    | some (_, mark) => .ok mark
    | none => .error (.noMarkUnder place)
  | _ =>
    match singleMarks? marks with
    | some marks =>
      match Text.atSigned? place marks with
      | some mark => .ok mark
      | none => .error .noHeadingMark
    | none => .error .headingMarkNotText

/-- The row above a heading: when there is more than one mark the first stands there. -/
def aboveRows (length : Nat) (marks : Value) : Except LayoutError (List Value) := do
  let count ← markCount marks
  if 1 < count then ((markAt marks 0).bind (markRow length)).map ([·]) else .ok []

/-- The rows of a heading, which the last mark underlines. -/
def headingRows (text : Text) (marks : Value) : Except LayoutError (List Value) := do
  let above ← aboveRows text.length marks.opened
  let below ← (markAt marks.opened (-1)).bind (markRow text.length)
  return above ++ [.text text, below]

/-- A heading of a rank. Ranks beyond the last mark share it. -/
def headingOf (text : Text) (rank : Nat) (underlines : List Value) : Except LayoutError (List Value) :=
  match underlines[min rank (underlines.length - 1)]? with
  | none => .error .noHeadingMark
  | some marks => headingRows text marks

/-- The rows of an element. -/
def rows (settings : Settings) (element : Element) : Except LayoutError (List Value) :=
  let least : Int := settings.value .minColumns
  let most : Int := settings.value .maxColumns
  let texts (rows : Except LayoutError (List Text)) := rows.map fun rows => rows.map Value.text
  match element.text.getD [] with
  | [] => .ok []
  | text =>
    match element.style.headingRank?, element.style.itemWidth?, element.style with
    | some rank, _, _ => headingOf text rank (settings.value .sectionUnderlines)
    | _, some width, _ =>
      texts ((wrapped text (most - width) least).map fun rows => padRows rows "* " [] width)
    | _, _, .strong => texts (wrapped ("**" ++ text ++ "**") most least)
    | _, _, .literal => texts (.ok (["::".toList, []] ++ indentRows (Text.rows text) "  "))
    | _, _, _ => texts (wrapped text most least)

/-- The rows of elements after a given one. -/
def rowsAfter (settings : Settings) : Option Element → List Element → Except LayoutError (List Value)
  | _, [] => .ok []
  | previous, element :: rest =>
    if (element.text.getD []).isEmpty then rowsAfter settings previous rest
    else do
      let gap := match previous with
        | some before => (between before element).map Value.text
        | none => []
      let own ← element.rows settings
      let others ← rowsAfter settings (some element) rest
      return gap ++ own ++ others

/-- The rows of a sequence of elements. -/
def allRows (settings : Settings) (elements : List Element) : Except LayoutError (List Value) :=
  rowsAfter settings none elements

/-- The rows of a sequence of elements on a page, where each has to be a text. -/
def textRows (settings : Settings) (elements : List Element) : Except LayoutError (List Text) := do
  let rows ← allRows settings elements
  rows.mapM fun
    | .text row => .ok row
    | _ => .error .headingMarkNotText

end Element

end Docweave.Page
