import Docweave.Text.Basic

/-!
# Extents

How far a construct reaches from the start of a text: to the end of its row, to the brace that closes
its body, or to the row on which the last bracket of a statement is closed. Braces of a body are
counted wherever they stand; brackets of a statement are not seen inside string literals.
-/

namespace Docweave.Extent

/-- Length of the first row of a text. -/
def line (text : Text) : Nat := (text.takeWhile (· ≠ '\n')).length

/-- What follows the brace that closes the body in which a text starts, where `depth` braces are
open. -/
def afterBody? : (depth : Nat) → Text → Option Text
  | _, [] => none
  | depth, char :: rest =>
    if char = '{' then afterBody? (depth + 1) rest
    else if char = '}' then
      if depth ≤ 1 then some rest else afterBody? (depth - 1) rest
    else afterBody? depth rest

/-- Length of a construct with a body in braces, with the semicolons right after the body. A body that
is never closed takes the whole text, and without an opening brace the construct is one row. -/
def braced (text : Text) : Nat :=
  match text.dropWhile (· ≠ '{') with
  | [] => line text
  | body =>
    match afterBody? 0 body with
    | none => text.length
    | some rest => text.length - (rest.dropWhile (· = ';')).length

/-- The quotes that open a string literal. -/
def isQuote (char : Char) : Bool := char == '\'' || char == '"' || char == '`'

/-- The bracket that closes an opening bracket. -/
def closerOf? : Char → Option Char
  | '{' => some '}'
  | '(' => some ')'
  | '[' => some ']'
  | _ => none

/-- Whether a character closes a bracket. -/
def isCloser (char : Char) : Bool := char == '}' || char == ')' || char == ']'

/-- Number of characters up to the end of a statement: the first newline outside string literals at
which no bracket is open, or the end of the text. `expected` holds the closing brackets that are due,
innermost first, and `quote` the quote of the string literal being read. A closing bracket that is not
due, or one that stays due, gives no end.

A string literal ends at its own quote; unless it is a template it also ends before a newline. A
backslash in it hides the next character. -/
def statementRest? : (expected : List Char) → (quote : Option Char) → Text → Option Nat
  | expected, _, [] => if expected.isEmpty then some 0 else none
  | expected, some _, '\\' :: [] => if expected.isEmpty then some 1 else none
  | expected, some quote, '\\' :: _ :: rest => (statementRest? expected (some quote) rest).map (· + 2)
  | expected, some quote, char :: rest =>
    if char = quote then (statementRest? expected none rest).map (· + 1)
    else if char = '\n' ∧ quote ≠ '`' then
      if expected.isEmpty then some 0 else (statementRest? expected none rest).map (· + 1)
    else (statementRest? expected (some quote) rest).map (· + 1)
  | expected, none, char :: rest =>
    if char = '\n' ∧ expected = [] then some 0
    else if isQuote char then (statementRest? expected (some char) rest).map (· + 1)
    else
      match closerOf? char with
      | some closer => (statementRest? (closer :: expected) none rest).map (· + 1)
      | none =>
        if isCloser char then
          match expected with
          | due :: outer =>
            if due = char then (statementRest? outer none rest).map (· + 1) else none
          | [] => none
        else (statementRest? expected none rest).map (· + 1)

/-- Length of a statement whose value starts at offset `start`. Brackets that do not match leave the
first row. -/
def statement (text : Text) (start : Nat) : Nat :=
  match statementRest? [] none (text.drop start) with
  | some rest => min (start + rest) text.length
  | none => line text

/-- Length of a statement whose value starts at a signed offset. A negative offset counts from the end
of the text, and the scan goes on from the start of the text once it has passed the end; it fails when
the offset lies before the start. -/
def statementSigned? (text : Text) (start : Int) : Option Int :=
  if 0 ≤ start then some (statement text start.toNat)
  else if (text.length : Int) + start < 0 then none
  else
    match statementRest? [] none (Text.dropSigned start text ++ text) with
    | some rest => some (start + rest)
    | none => some (line text)

end Docweave.Extent
