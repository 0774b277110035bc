import Docweave.Value.Base64
import Docweave.Yaml.Style

/-!
# Writing YAML

Values are written as blocks: one entry or item to a line, with nested mappings indented by two columns and
sequences not indented below their key. Empty collections are written in brackets. Long texts are folded at
spaces after column eighty. Bytes, pairs and sets have a tag that says what they are. A value that stands in several
places is written in the first of them, with an anchor that the others refer to.
-/

namespace Docweave.Yaml

/-- What has been written, the column reached, whether a blank or the start of a line stands before it, whether the
line holds nothing but its indentation and marks of items and keys, and the anchors that have been written. -/
structure Pen where
  written : Text := []
  column : Nat := 0
  afterBlank : Bool := true
  onIndent : Bool := true
  anchors : List Nat := []
  deriving DecidableEq, Repr, Inhabited

namespace Pen

/-- The column after which a text is folded. -/
def width : Nat := 80

/-- Write text on the line. -/
def put (text : Text) (pen : Pen) : Pen :=
  { pen with written := pen.written ++ text, column := pen.column + text.length }

/-- End the line. -/
def newline (pen : Pen) : Pen :=
  { pen with written := pen.written ++ ['\n'], column := 0, afterBlank := true, onIndent := true }

/-- Write a mark, with a space before it if it needs one. -/
def mark (text : Text) (spaced keepsIndent : Bool) (pen : Pen) : Pen :=
  let put := pen.put (if pen.afterBlank || !spaced then text else ' ' :: text)
  { put with afterBlank := false, onIndent := pen.onIndent && keepsIndent }

/-- Go to a column of indentation, on a new line if this one is taken. -/
def indent (column : Nat) (pen : Pen) : Pen :=
  let taken := !pen.onIndent || pen.column > column || (pen.column == column && !pen.afterBlank)
  let pen := if taken then pen.newline else pen
  if pen.column < column then
    { pen.put (List.replicate (column - pen.column) ' ') with afterBlank := true }
  else pen

/-- Write an anchor before a value. -/
def anchor (mark : Nat) (name : Text) (pen : Pen) : Pen :=
  { pen.mark ('&' :: name) true false with anchors := mark :: pen.anchors }

/-- Note that something other than a mark was written. -/
def inText (pen : Pen) : Pen := { pen with afterBlank := false, onIndent := false }

end Pen

/-- How a run of characters is written. -/
inductive RunKind where
  | spaces
  | newlines
  | word
  deriving DecidableEq, Repr

/-- How a character is written. -/
def RunKind.ofChar (char : Char) : RunKind :=
  if char = ' ' then .spaces else if Style.isNewline char then .newlines else .word

/-- A text cut into spaces, new lines and words. -/
def runs (text : Text) : List Text :=
  text.splitBy fun left right => RunKind.ofChar left == RunKind.ofChar right

/-- The kind of a run. -/
def RunKind.ofRun (run : Text) : RunKind := ofChar (run.headD ' ')

/-- Write the runs of a plain text. A single space past the width turns into a new line. -/
def plainRuns (column : Nat) (folds : Bool) : List Text → Pen → Pen
  | [], pen => pen
  | run :: more, pen =>
    if run = [' '] ∧ pen.column > Pen.width ∧ folds then plainRuns column folds more (pen.indent column).inText
    else plainRuns column folds more (pen.put run)

/-- Write a plain text. -/
def writePlain (column : Nat) (folds : Bool) (text : Text) (pen : Pen) : Pen :=
  if text.isEmpty then pen
  else
    let pen := if pen.afterBlank then pen else pen.put [' ']
    plainRuns column folds (runs text) pen.inText

/-- Double the single quotes of a text. -/
def doubleQuotes (text : Text) : Text :=
  text.flatMap fun char => if char = '\'' then ['\'', '\''] else [char]

/-- Write the runs of a text in single quotes. A single space past the width turns into a new line, unless it
is the first or the last run; a new line is written as an empty line. -/
def singleRuns (column : Nat) (folds : Bool) : (first : Bool) → List Text → Pen → Pen
  | _, [], pen => pen
  | first, run :: more, pen =>
    match RunKind.ofRun run with
    | .word => singleRuns column folds false more (pen.put (doubleQuotes run))
    | .newlines =>
      let lines := (List.replicate (run.length + 1) ()).foldl (fun pen _ => pen.newline) pen
      singleRuns column folds false more (lines.indent column)
    | .spaces =>
      if run.length = 1 ∧ pen.column > Pen.width ∧ folds ∧ !first ∧ !more.isEmpty then
        singleRuns column folds false more (pen.indent column)
      else singleRuns column folds false more (pen.put run)

/-- Write a text in single quotes. -/
def writeSingle (column : Nat) (folds : Bool) (text : Text) (pen : Pen) : Pen :=
  (singleRuns column folds true (runs text) (pen.mark ['\''] true false)).mark ['\''] false false

/-- Write a text in double quotes from a character on, after some that still have to be put down. Past the
width a line ends with a backslash, before a space or next to an escape; a space at the start of a line gets
a backslash too. -/
def doubleFrom (column : Nat) (folds : Bool) : (first : Bool) → (pending : Text) → Text → Pen → Pen
  | _, pending, [], pen => pen.put pending
  | first, pending, char :: rest, pen =>
    let escaped := Style.isEscaped char
    let pen := if escaped then (pen.put pending).put (Style.escape char) else pen
    let waiting := if escaped then [] else pending
    let reach : Int := if escaped then (pen.column : Int) - 1 else pen.column + pending.length
    let folding :=
      !first && !rest.isEmpty && (char == ' ' || waiting.isEmpty) && reach > Pen.width && folds
    if folding then
      let pen := ((pen.put (waiting ++ ['\\'])).indent column).inText
      let next := if escaped then rest.head? else some char
      let pen := if next = some ' ' then pen.put ['\\'] else pen
      doubleFrom column folds false (if escaped then [] else [char]) rest pen
    else doubleFrom column folds false (if escaped then [] else waiting ++ [char]) rest pen

/-- Write a text in double quotes. -/
def writeDouble (column : Nat) (folds : Bool) (text : Text) (pen : Pen) : Pen :=
  (doubleFrom column folds true [] text (pen.mark ['"'] true false)).mark ['"'] false false

/-- The spelling of a number with a point. -/
def decimalText (number : Double) : Text :=
  match number with
  | .notANumber => ".nan"
  | .infinite negative => if negative then "-.inf" else ".inf"
  | .finite _ _ _ =>
    let text := number.render
    if text.contains '.' then text else Text.replaceFirst ['e'] ".0e" text

/-- The spelling of a scalar that is no text. -/
def spelling : Value → Text
  | .null => "null"
  | .bool value => if value then "true" else "false"
  | .double number => decimalText number
  | value => value.plainText

/-- Where a value is written: as the whole document, as an item, as a key, or as a value of a mapping. -/
inductive Position where
  | root
  | item
  | key
  | entry
  deriving DecidableEq, Repr

/-- The column of the lines of a scalar inside of a block at a column. -/
def scalarColumn : Option Nat → Nat
  | none => 2
  | some column => column + 2

/-- The column of a block inside of another one. -/
def blockColumn : Option Nat → Nat
  | none => 0
  | some column => column + 2

/-- Write a text. -/
def writeText (outer : Option Nat) (position : Position) (text : Text) (pen : Pen) : Pen :=
  let column := scalarColumn outer
  let isKey := position = .key
  match Style.ofText isKey text with
  | .plain => writePlain column (!isKey) text pen
  | .single => writeSingle column (!isKey) text pen
  | .double => writeDouble column (!isKey) text pen

/-- Write bytes as a block of lines. -/
def writeBytes (outer : Option Nat) (position : Position) (bytes : List UInt8) (pen : Pen) : Pen :=
  let column := scalarColumn outer
  let tagged := pen.mark "!!binary" true false
  let lines := Base64.lines bytes
  if lines.isEmpty then writeDouble column (position ≠ .key) [] tagged
  else
    lines.foldl (fun pen line => (pen.newline.put (List.replicate column ' ' ++ line)).inText)
      (tagged.mark ['|'] true false)

/-- The longest tag and text of a key on one line. -/
def keyWidth : Nat := 128

/-- The length of the tag that goes with a scalar. -/
def tagWidth : Value → Nat
  | .null | .bool _ => 6
  | .double _ => 7
  | .date _ _ _ | .moment _ => 11
  | _ => 5

/-- Whether a key fits on the line of its value. -/
def isSimpleKey (key : Value) : Bool :=
  match key with
  | .text text => !text.isEmpty && !text.any Style.isNewline && text.length + 5 < keyWidth
  | .list items => items.isEmpty
  | .mapping entries => entries.isEmpty
  | .bytes _ | .pair _ _ | .set _ | .shared _ _ | .again _ => false
  | other => tagWidth other + (spelling other).length < keyWidth

/-- The column of a sequence. Below the key of a mapping it is not indented. -/
def sequenceColumn (outer : Option Nat) (position : Position) (onIndent : Bool) : Nat :=
  match position, onIndent, outer with
  | .entry, false, some column => column
  | _, _, _ => blockColumn outer

/-- Write an empty collection. -/
def writeEmpty (opening closing : Char) (pen : Pen) : Pen :=
  (pen.mark [opening] true false).mark [closing] false false

/-- The marks that have been met in a value, and those that have been met more than once, in this order. -/
structure Meetings where
  met : List Nat := []
  repeated : List Nat := []

namespace Meetings

/-- Meet a mark once more. -/
def repeatMark (mark : Nat) (meetings : Meetings) : Meetings :=
  if meetings.repeated.contains mark then meetings
  else { meetings with repeated := meetings.repeated ++ [mark] }

mutual

/-- Meet the marks in a value. What has been met before is not gone into again. -/
def ofValue : Value → Meetings → Meetings
  | .shared mark value, meetings =>
    if meetings.met.contains mark then meetings.repeatMark mark
    else ofValue value { meetings with met := mark :: meetings.met }
  | .again mark, meetings => meetings.repeatMark mark
  | .list items, meetings => ofItems items meetings
  | .pair first second, meetings => ofValue second (ofValue first meetings)
  | .mapping entries, meetings => ofEntries entries meetings
  | _, meetings => meetings

/-- Meet the marks in several values. -/
def ofItems : List Value → Meetings → Meetings
  | [], meetings => meetings
  | item :: items, meetings => ofItems items (ofValue item meetings)

/-- Meet the marks in the values of entries. -/
def ofEntries : List (Value × Value) → Meetings → Meetings
  | [], meetings => meetings
  | (_, value) :: entries, meetings => ofEntries entries (ofValue value meetings)

end

/-- The name of the anchor for each mark that is met more than once: a number of at least three digits. -/
def names (meetings : Meetings) : List (Nat × Text) :=
  meetings.repeated.zipIdx.map fun (mark, index) =>
    let digits := Text.ofNat (index + 1)
    (mark, "id" ++ List.replicate (3 - digits.length) '0' ++ digits)

end Meetings

mutual

/-- Write a value inside of a block at a column, with the names of anchors. -/
def writeValue (names : List (Nat × Text)) (outer : Option Nat) (position : Position) : Value → Pen → Pen
  | .text text, pen => writeText outer position text pen
  | .list items, pen =>
    if items.isEmpty then writeEmpty '[' ']' pen
    else writeItems names (sequenceColumn outer position pen.onIndent) items pen
  | .mapping entries, pen =>
    if entries.isEmpty then writeEmpty '{' '}' pen else writeEntries names (blockColumn outer) entries pen
  | .bytes bytes, pen => writeBytes outer position bytes pen
  | .pair first second, pen =>
    let pen := pen.mark "!!python/tuple" true false
    let column := sequenceColumn outer position pen.onIndent
    let pen := writeValue names (some column) .item first ((pen.indent column).mark ['-'] true true)
    writeValue names (some column) .item second ((pen.indent column).mark ['-'] true true)
  | .set items, pen =>
    let pen := pen.mark "!!set" true false
    if items.isEmpty then writeEmpty '{' '}' pen else writeMembers names (blockColumn outer) items pen
  | .shared mark value, pen =>
    match names.lookup mark with
    | none => writeValue names outer position value pen
    | some name =>
      if pen.anchors.contains mark then pen.mark ('*' :: name) true false
      else writeValue names outer position value (pen.anchor mark name)
  | .again mark, pen => pen.mark ('*' :: (names.lookup mark).getD []) true false
  | value, pen => writePlain (scalarColumn outer) (position ≠ .key) (spelling value) pen

/-- Write the items of a sequence at a column. -/
def writeItems (names : List (Nat × Text)) (column : Nat) : List Value → Pen → Pen
  | [], pen => pen
  | item :: items, pen =>
    let pen := writeValue names (some column) .item item ((pen.indent column).mark ['-'] true true)
    writeItems names column items pen

/-- Write the members of a set at a column, as keys without a value. -/
def writeMembers (names : List (Nat × Text)) (column : Nat) : List Value → Pen → Pen
  | [], pen => pen
  | item :: items, pen =>
    let keyed := (writeValue names (some column) .key item (pen.indent column)).mark [':'] false false
    writeMembers names column items (writePlain (scalarColumn (some column)) true "null" keyed)

/-- Write the entries of a mapping at a column. A key that does not fit on the line of its value gets a mark
of its own. -/
def writeEntries (names : List (Nat × Text)) (column : Nat) : List (Value × Value) → Pen → Pen
  | [], pen => pen
  | (key, value) :: entries, pen =>
    let pen := pen.indent column
    let keyed :=
      if isSimpleKey key then (writeValue names (some column) .key key pen).mark [':'] false false
      else
        let pen := writeValue names (some column) .entry key (pen.mark ['?'] true true)
        (pen.indent column).mark [':'] true true
    writeEntries names column entries (writeValue names (some column) .entry value keyed)

end

/-- Whether a value is a scalar without quotes, after which the end of the document is marked. -/
def isPlainScalar : Value → Bool
  | .text text => Style.ofText false text = .plain
  | .list _ | .mapping _ | .pair _ _ | .set _ | .bytes _ | .again _ => false
  | .shared _ value => isPlainScalar value
  | _ => true

/-- The text of a value. -/
def write (value : Value) : Text :=
  let names := (Meetings.ofValue value {}).names
  let pen := (writeValue names none .root value {}).indent 0
  let pen := if isPlainScalar value then (pen.mark "..." true false).indent 0 else pen
  pen.written

end Docweave.Yaml
