import Docweave.Yaml.Cursor
import Docweave.Yaml.ReadError

/-!
# Scalars as they are written

The five ways to write a scalar: plain, in single or double quotes, and as a literal or folded block. Each
is read from the place where it starts and gives its text and the place after it. A line break inside of a
plain or quoted scalar is folded: it stands for a space, and further breaks stand for themselves.
-/

namespace Docweave.Yaml

section Plain

/-- Characters that end a plain scalar inside of brackets. -/
def flowMarks : List Char := [',', '?', '[', ']', '{', '}']

/-- Characters that end a plain scalar inside of brackets when they follow a colon. -/
def flowEnds : List Char := [',', '[', ']', '{', '}']

/-- Whether a colon before a character ends a plain scalar. -/
def colonEnds (flow : Bool) (follower : Option Char) : Bool :=
  endsWord follower ||
    match follower with
    | some char => flow && flowEnds.contains char
    | none => false

/-- The first run of a plain scalar that holds no blanks. -/
def plainRun (flow : Bool) : Text → Text
  | [] => []
  | char :: rest =>
    if isGap char || (char == ':' && colonEnds flow rest.head?) || (flow && flowMarks.contains char) then []
    else char :: plainRun flow rest

/-- Take spaces and line breaks after the first break of a folded text. A mark between documents ends the
scalar. -/
def plainBreaks : (fuel : Nat) → (breaks : Text) → Cursor → Option Text × Cursor
  | 0, breaks, cursor => (some breaks, cursor)
  | fuel + 1, breaks, cursor =>
    if cursor.sees ' ' then plainBreaks fuel breaks cursor.next
    else
      match cursor.takeBreak? with
      | none => (some breaks, cursor)
      | some (char, cursor) =>
        if cursor.seesSeparator then (none, cursor) else plainBreaks fuel (breaks ++ [char]) cursor

/-- What a first break and the breaks after it stand for. -/
def folded (first : Char) (breaks : Text) : Text :=
  if first ≠ '\n' then first :: breaks else if breaks.isEmpty then [' '] else breaks

/-- The gap after a run of a plain scalar: what it stands for, where nothing ends the scalar, the place
after it, and whether it holds a line break. -/
def plainGap (cursor : Cursor) : Text × Cursor × Bool :=
  let (spaces, afterSpaces) := cursor.span (· == ' ')
  match afterSpaces.takeBreak? with
  | none => (spaces, afterSpaces, false)
  | some (first, afterBreak) =>
    if afterBreak.seesSeparator then ([], afterBreak, true)
    else
      match plainBreaks afterBreak.rest.length [] afterBreak with
      | (some breaks, afterBreaks) => (folded first breaks, afterBreaks, true)
      | (none, afterBreaks) => ([], afterBreaks, true)

/-- A plain scalar from a run on, after `gap`: its text, the place after it, and whether a line break
ended it. -/
def plainFrom (flow : Bool) (indent : Int) : (fuel : Nat) → (gap : Text) → (broken : Bool) → Cursor →
    Text × Cursor × Bool
  | 0, _, broken, cursor => ([], cursor, broken)
  | fuel + 1, gap, broken, cursor =>
    let run := if cursor.sees '#' then [] else plainRun flow cursor.rest
    if run.isEmpty then ([], cursor, broken)
    else
      let (nextGap, afterGap, crossed) := plainGap (cursor.advance run.length)
      if nextGap.isEmpty || afterGap.sees '#' || (!flow && (afterGap.column : Int) < indent) then
        (gap ++ run, afterGap, crossed)
      else
        let (more, rest, broken) := plainFrom flow indent fuel nextGap crossed afterGap
        (gap ++ run ++ more, rest, broken)

/-- A plain scalar, the place after it, and whether a line break ended it. -/
def plainScalar (flow : Bool) (indent : Int) (cursor : Cursor) : Text × Cursor × Bool :=
  plainFrom flow indent (cursor.rest.length + 1) [] false cursor

end Plain

section Quoted

/-- What a single character after a backslash stands for. -/
def escapes : List (Char × Char) :=
  [('0', '\x00'), ('a', '\x07'), ('b', '\x08'), ('t', '\t'), ('\t', '\t'), ('n', '\n'), ('v', '\x0b'),
    ('f', '\x0c'), ('r', '\r'), ('e', '\x1b'), (' ', ' '), ('"', '"'), ('\\', '\\'), ('/', '/'),
    ('N', '\u0085'), ('_', '\u00a0'), ('L', '\u2028'), ('P', '\u2029')]

/-- The number of hexadecimal digits that a character after a backslash asks for. -/
def escapeDigits : List (Char × Nat) := [('x', 2), ('u', 4), ('U', 8)]

/-- The value of a hexadecimal digit. -/
def hexDigit? (char : Char) : Option Nat :=
  if '0' ≤ char ∧ char ≤ '9' then some (char.toNat - 48)
  else if 'a' ≤ char ∧ char ≤ 'f' then some (char.toNat - 87)
  else if 'A' ≤ char ∧ char ≤ 'F' then some (char.toNat - 55)
  else none

/-- The value of hexadecimal digits. -/
def hexValue? (digits : Text) : Option Nat :=
  digits.foldlM (fun value char => (hexDigit? char).map (value * 16 + ·)) 0

/-- Take the breaks inside of a quoted scalar with the blanks around them. A mark between documents must
not stand here. -/
def quotedBreaks : (fuel : Nat) → Cursor → Except ReadError (Text × Cursor)
  | 0, cursor => .ok ([], cursor)
  | fuel + 1, cursor =>
    if cursor.seesSeparator then .error .malformed
    else
      let afterBlanks := cursor.skipBlanks
      match afterBlanks.takeBreak? with
      | none => .ok ([], afterBlanks)
      | some (char, afterBreak) =>
        (quotedBreaks fuel afterBreak).map fun (breaks, rest) => (char :: breaks, rest)

/-- The character of a code. Halves of pairs stand for none. -/
def charOfCode (code : Nat) : Except ReadError Char :=
  if code.isValidChar then .ok (Char.ofNat code)
  else if code < 0x110000 then .error .malformed
  else .error (.noSuchCharacter code)

/-- A character by its code of some hexadecimal digits. -/
def codeEscape (count : Nat) (cursor : Cursor) : Except ReadError (Text × Cursor) :=
  let digits := cursor.rest.take count
  match hexValue? digits with
  | some code =>
    if digits.length < count then .error .malformed
    else (charOfCode code).map fun char => ([char], cursor.advance count)
  | none => .error .malformed

/-- An escape, read from after the backslash. -/
def escape (cursor : Cursor) : Except ReadError (Text × Cursor) :=
  match cursor.peek? with
  | none => .error .malformed
  | some char =>
    match escapes.lookup char, escapeDigits.lookup char with
    | some meant, _ => .ok ([meant], cursor.next)
    | none, some count => codeEscape count cursor.next
    | none, none =>
      match cursor.takeBreak? with
      | none => .error .malformed
      | some (_, afterBreak) => quotedBreaks afterBreak.rest.length afterBreak

/-- Whether a character of a quoted scalar stands for itself wherever it is. -/
def isOrdinary (char : Char) : Bool := !(isGap char || char == '\'' || char == '"' || char == '\\')

/-- The first run of a quoted scalar that holds no blanks. -/
def quotedRun (double : Bool) : (fuel : Nat) → Cursor → Except ReadError (Text × Cursor)
  | 0, cursor => .ok ([], cursor)
  | fuel + 1, cursor =>
    let (plain, cursor) := cursor.span isOrdinary
    let more (text : Text) (rest : Cursor) : Except ReadError (Text × Cursor) :=
      (quotedRun double fuel rest).map fun (others, rest) => (plain ++ text ++ others, rest)
    match double, cursor.rest with
    | false, '\'' :: '\'' :: _ => more ['\''] (cursor.advance 2)
    | false, '"' :: _ => more ['"'] cursor.next
    | false, '\\' :: _ => more ['\\'] cursor.next
    | true, '\'' :: _ => more ['\''] cursor.next
    | true, '\\' :: _ => do
      let (text, rest) ← escape cursor.next
      more text rest
    | _, _ => .ok (plain, cursor)

/-- The gap after a run of a quoted scalar. The text must not end here. -/
def quotedGap (cursor : Cursor) : Except ReadError (Text × Cursor) :=
  let (blanks, afterBlanks) := cursor.span Text.isBlank
  if afterBlanks.rest.isEmpty then .error .malformed
  else
    match afterBlanks.takeBreak? with
    | none => .ok (blanks, afterBlanks)
    | some (first, afterBreak) =>
      (quotedBreaks afterBreak.rest.length afterBreak).map fun (breaks, rest) => (folded first breaks, rest)

/-- A quoted scalar from a run on. -/
def quotedFrom (quote : Char) : (fuel : Nat) → Cursor → Except ReadError (Text × Cursor)
  | 0, _ => .error .malformed
  | fuel + 1, cursor => do
    let (run, afterRun) ← quotedRun (quote == '"') cursor.rest.length cursor
    if afterRun.sees quote then return (run, afterRun.next)
    let (gap, afterGap) ← quotedGap afterRun
    let (more, rest) ← quotedFrom quote fuel afterGap
    return (run ++ gap ++ more, rest)

/-- A quoted scalar, read from its first quote. -/
def quotedScalar (quote : Char) (cursor : Cursor) : Except ReadError (Text × Cursor) :=
  quotedFrom quote (cursor.rest.length + 1) cursor.next

end Quoted

section Block

/-- What becomes of the breaks at the end of a block scalar. -/
inductive Chomping where
  | clip
  | strip
  | keep
  deriving DecidableEq, Repr

/-- The sign that says what becomes of the last breaks. -/
def chomping? : Char → Option Chomping
  | '+' => some .keep
  | '-' => some .strip
  | _ => none

/-- The digit that says how far a block scalar is indented. Zero is no such digit. -/
def increment? (char : Char) : Option Nat := if '1' ≤ char ∧ char ≤ '9' then some (char.toNat - 48) else none

/-- Take what a class of signs stands for, if the next character is one of them. -/
def takeSign {α : Type} (sign? : Char → Option α) (cursor : Cursor) : Option α × Cursor :=
  match cursor.peek?.bind sign? with
  | some meant => (some meant, cursor.next)
  | none => (none, cursor)

/-- The signs at the head of a block scalar, in either order, with the rest of their line. -/
def blockHead? (cursor : Cursor) : Option (Chomping × Option Nat × Cursor) := do
  let (early, cursor) := takeSign chomping? cursor
  let (increment, cursor) := takeSign increment? cursor
  let (late, cursor) := if early.isNone && increment.isSome then takeSign chomping? cursor else (none, cursor)
  if !endsField cursor.peek? then none
  else
    let cursor := cursor.skipSpaces.skipComment
    if !endsLine cursor.peek? then none
    else
      let rest := (cursor.takeBreak?.map Prod.snd).getD cursor
      some ((early <|> late).getD .clip, increment, rest)

/-- Take the blank lines at the start of a block scalar: the breaks, and the widest indentation seen. -/
def leadingLines : (fuel : Nat) → (widest : Nat) → Cursor → Text × Nat × Cursor
  | 0, widest, cursor => ([], widest, cursor)
  | fuel + 1, widest, cursor =>
    if cursor.sees ' ' then leadingLines fuel (max widest cursor.next.column) cursor.next
    else
      match cursor.takeBreak? with
      | none => ([], widest, cursor)
      | some (char, rest) =>
        let (breaks, widest, rest) := leadingLines fuel widest rest
        (char :: breaks, widest, rest)

/-- Move over spaces up to a column. -/
def skipIndent (indent : Nat) (cursor : Cursor) : Cursor :=
  cursor.advance (min (cursor.rest.takeWhile (· == ' ')).length (indent - cursor.column))

/-- Take blank lines, and move over the indentation of the line after them. -/
def blankLines (indent : Nat) : (fuel : Nat) → Cursor → Text × Cursor
  | 0, cursor => ([], cursor)
  | fuel + 1, cursor =>
    let cursor := skipIndent indent cursor
    match cursor.takeBreak? with
    | none => ([], cursor)
    | some (char, rest) =>
      let (breaks, rest) := blankLines indent fuel rest
      (char :: breaks, rest)

/-- Whether a line is more indented than the block. -/
def startsBlank (cursor : Cursor) : Bool := (cursor.peek?.map Text.isBlank).getD false

/-- The lines of a block scalar from one on that comes after `breaks`: the text up to the last line, its
break, the breaks after it, and the place after them. -/
def blockLines (fold : Bool) (indent : Nat) : (fuel : Nat) → (breaks : Text) → Cursor →
    Text × Text × Text × Cursor
  | 0, breaks, cursor => ([], [], breaks, cursor)
  | fuel + 1, breaks, cursor =>
    if cursor.column ≠ indent || cursor.rest.isEmpty then ([], [], breaks, cursor)
    else
      let deeper := startsBlank cursor
      let (line, afterLine) := cursor.span fun char => !isBreak char
      let (lineBreak, afterBreak) : Text × Cursor := match afterLine.takeBreak? with
        | some (char, rest) => ([char], rest)
        | none => ([], afterLine)
      let (nextBreaks, afterBreaks) := blankLines indent afterBreak.rest.length.succ afterBreak
      if afterBreaks.column = indent && !afterBreaks.rest.isEmpty then
        let joint : Text :=
          if fold && lineBreak == ['\n'] && !deeper && !startsBlank afterBreaks then
            if nextBreaks.isEmpty then [' '] else []
          else lineBreak
        let (more, lastBreak, lastBreaks, rest) := blockLines fold indent fuel nextBreaks afterBreaks
        (breaks ++ line ++ joint ++ more, lastBreak, lastBreaks, rest)
      else (breaks ++ line, lineBreak, nextBreaks, afterBreaks)

/-- A literal or folded block scalar inside of a block at column `outer`, read from its first sign. -/
def blockScalar? (fold : Bool) (outer : Int) (cursor : Cursor) : Option (Text × Cursor) := do
  let (chomping, increment, cursor) ← blockHead? cursor.next
  let least := (max (outer + 1) 1).toNat
  let size := cursor.rest.length + 1
  let (indent, breaks, cursor) :=
    match increment with
    | none =>
      let (breaks, widest, cursor) := leadingLines size 0 cursor
      (max least widest, breaks, cursor)
    | some increment =>
      let indent := least + increment - 1
      let (breaks, cursor) := blankLines indent size cursor
      (indent, breaks, cursor)
  let (text, lastBreak, lastBreaks, rest) := blockLines fold indent size breaks cursor
  match chomping with
  | .strip => some (text, rest)
  | .clip => some (text ++ lastBreak, rest)
  | .keep => some (text ++ lastBreak ++ lastBreaks, rest)

end Block

end Docweave.Yaml
