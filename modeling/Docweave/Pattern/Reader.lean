import Docweave.Pattern.Basic
import Docweave.Pattern.Fault

/-!
# Where the reading of a pattern stands

A written pattern is a sequence of tokens: single characters, and pairs of a backslash and the character
after it. Reading goes from left to right and stops at the first fault. A backslash that ends the text is
a fault as soon as the token before it has been taken.
-/

namespace Docweave.Pattern

/-- One or two characters of a written pattern and their offset. -/
structure Token where
  start : Nat
  text : Text
  deriving DecidableEq, Repr, Inhabited

namespace Token

/-- The tokens of a text that starts at an offset. -/
def scan : (start : Nat) → Text → List Token
  | _, [] => []
  | start, '\\' :: char :: rest => ⟨start, ['\\', char]⟩ :: scan (start + 2) rest
  | start, char :: rest => ⟨start, [char]⟩ :: scan (start + 1) rest

/-- Whether a token is a backslash with nothing after it. -/
def isLoneBackslash (token : Token) : Bool := token.text == ['\\']

end Token

/-- What is switched on by flags. -/
structure Flags where
  ignoreCase : Bool := false
  rowAnchors : Bool := false
  dotNewlines : Bool := false
  spaced : Bool := false
  asciiOnly : Bool := false
  deriving DecidableEq, Repr, Inhabited

/-- The case rule that flags ask for. -/
def Flags.rule (flags : Flags) : CaseRule :=
  if !flags.ignoreCase then .exact else if flags.asciiOnly then .ascii else .all

/-- Where the reading stands. Groups are numbered from one; a group that has not been closed cannot be
referred to. Inside of a look behind a place only the groups before it can be, of which there are
`beforeLook`. Conditions may ask for groups that follow. -/
structure Reader where
  tokens : List Token
  length : Nat
  groups : Nat := 1
  closed : List (Nat × Nat × Nat) := []
  names : List (Text × Nat) := []
  beforeLook : Option Nat := none
  asked : List (Nat × Nat) := []
  flags : Flags := {}
  asksAllScripts : Bool := false
  isTemplate : Bool := false
  deriving Repr, Inhabited

namespace Reader

/-- Whether a group has been closed. -/
def hasClosed (reader : Reader) (number : Nat) : Bool := reader.closed.any fun group => group.1 == number

/-- The least and the greatest width of a closed group. -/
def widthOf (reader : Reader) (number : Nat) : Nat × Nat := (reader.closed.lookup number).getD (0, 0)

end Reader

/-- Reading gives a result and where it stands, or the first error. -/
abbrev Read (α : Type) := StateT Reader (Except PatternError) α

namespace Read

/-- Offset of the next token, or the length of the text at its end. -/
def offset : Read Nat := do
  let reader ← get
  return match reader.tokens with
    | token :: _ => token.start
    | [] => reader.length

/-- Fail with a fault at an offset. -/
def failAt {α : Type} (fault : PatternFault) (position : Nat) : Read α :=
  throw (.faulty fault (some position))

/-- Fail with a fault a number of characters before the next token. -/
def failBack {α : Type} (fault : PatternFault) (back : Nat) : Read α := do
  failAt fault ((← offset) - back)

/-- The next token, which is not taken. -/
def peek? : Read (Option Text) := do
  return (← get).tokens.head?.map Token.text

/-- Fail when the next token is a backslash that ends the text. -/
def checkNext : Read Unit := do
  let reader ← get
  match reader.tokens with
  | token :: _ => if token.isLoneBackslash then failAt .trailingBackslash (reader.length - 1) else pure ()
  | [] => pure ()

/-- Take the next token. -/
def take? : Read (Option Text) := do
  let reader ← get
  match reader.tokens with
  | [] => return none
  | token :: rest =>
    set { reader with tokens := rest }
    checkNext
    return some token.text

/-- Take the next token if it is a given character. -/
def accept (char : Char) : Read Bool := do
  if (← peek?) == some [char] then
    let _ ← take?
    return true
  else return false

/-- Take at most `count` tokens that are characters of a class. -/
def takeWhile (inClass : Char → Bool) : (count : Nat) → Read Text
  | 0 => return []
  | count + 1 => do
    match ← peek? with
    | some [char] =>
      if inClass char then
        let _ ← take?
        return char :: (← takeWhile inClass count)
      else return []
    | _ => return []

/-- Take tokens up to and with a character. `missing` is the fault when there is nothing before it, and `unclosed`
the one when it does not come. -/
def takeName (closer : Char) (missing unclosed : PatternFault) : (fuel : Nat) → (name : Text) → Read Text
  | 0, name => return name
  | fuel + 1, name => do
    match ← take? with
    | none => if name.isEmpty then failBack missing 0 else failBack unclosed name.length
    | some token =>
      if token == [closer] then
        if name.isEmpty then failBack missing 1 else return name
      else takeName closer missing unclosed fuel (name ++ token)

end Read

end Docweave.Pattern
