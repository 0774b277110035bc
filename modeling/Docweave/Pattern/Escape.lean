import Docweave.Pattern.Reader
import Docweave.Text.CharacterName

/-!
# Escapes and sets in patterns

A backslash gives the character after it another meaning: a control character, a class, a place, the code or the
name of a character, or a group that has been taken before. Inside of brackets stands a set of characters.
-/

namespace Docweave.Pattern.Read

/-- Whether a character is an octal digit. -/
def isOctal (char : Char) : Bool := '0' ≤ char && char ≤ '7'

/-- Whether a character is a hexadecimal digit. -/
def isHex (char : Char) : Bool := Numeral.digitValue char < 16

/-- The control character of an escape. -/
def controlOf? : Char → Option Char
  | 'a' => some (Char.ofNat 7)
  | 'b' => some (Char.ofNat 8)
  | 'f' => some (Char.ofNat 12)
  | 'n' => some '\n'
  | 'r' => some '\r'
  | 't' => some '\t'
  | 'v' => some (Char.ofNat 11)
  | '\\' => some '\\'
  | _ => none

/-- The class of an escape, and whether it is negated. -/
def classOf? : Char → Option (CharClass × Bool)
  | 'd' => some (.digit, false)
  | 'D' => some (.digit, true)
  | 's' => some (.space, false)
  | 'S' => some (.space, true)
  | 'w' => some (.word, false)
  | 'W' => some (.word, true)
  | _ => none

/-- The anchor of an escape. -/
def anchorOf? (asciiOnly : Bool) : Char → Option Anchor
  | 'A' => some .textStart
  | 'b' => some (.wordEdge asciiOnly)
  | 'B' => some (.noWordEdge asciiOnly)
  | 'Z' => some .textEnd
  | _ => none

/-- Number of hexadecimal digits that follow a code point escape. -/
def hexWidth? : Char → Option Nat
  | 'x' => some 2
  | 'u' => some 4
  | 'U' => some 8
  | _ => none

/-- The largest number that can be tried as a code at all. -/
def mostCode : Nat := 2147483647

/-- Read the hexadecimal digits of an escape. -/
def readHex (letter : Char) (width : Nat) : Read Nat := do
  let digits ← takeWhile isHex width
  let escape := '\\' :: letter :: digits
  if digits.length < width then failBack (.incompleteEscape escape) escape.length
  else
    let code := Numeral.ofDigits 16 digits
    if code > mostCode then throw .tooLarge
    else if code > 0x10FFFF then failBack (.badEscape escape) escape.length
    else return code

/-- Read the name of a character in braces. -/
def readCharacterName : Read Nat := do
  if !(← accept '\x7b') then failBack .unnamedCharacter 0
  let name ← takeName '\x7d' .missingCharacterName .openCharacterName ((← get).length + 1) []
  match Text.CharacterName.find? name with
  | some char => return char.toNat
  | none => failBack (.unknownCharacter name) (name.length + 4)

/-- Read an octal escape whose first digits are given. -/
def readOctal (digits : Text) : Read Nat := do
  let code := Numeral.ofDigits 8 digits
  if code > 0o377 then failBack (.octalTooLarge ('\\' :: digits)) (digits.length + 1)
  else return code

/-- Read the escape of a single character; letters without a meaning are a fault. -/
def readPlainEscape (char : Char) : Read Nat := do
  if char.isAlpha || char.isDigit then failBack (.badEscape ['\\', char]) 2 else return char.toNat

/-- Check that a group may be referred to inside of a look behind a place. -/
def checkLook (number : Nat) : Read Unit := do
  let reader ← get
  match reader.beforeLook with
  | none => return ()
  | some before =>
    if !reader.hasClosed number then failBack .groupStillOpen 0
    else if before ≤ number then failBack .groupInLookBehind 0
    else return ()

/-- Refer to a group. -/
def referTo (number back : Nat) : Read Pattern := do
  let reader ← get
  if !reader.hasClosed number then failBack .groupStillOpen back
  checkLook number
  return .reference number reader.flags.rule

/-- Read an escape that starts with a digit other than zero: three octal digits give a character, else
it refers to a group. -/
def readNumber (first : Char) : Read Pattern := do
  let more ← takeWhile Char.isDigit 1
  let digits := first :: more
  let octal ←
    match digits, ← peek? with
    | [one, two], some [three] => pure (isOctal one && isOctal two && isOctal three)
    | _, _ => pure false
  if octal then
    let third ← takeWhile isOctal 1
    return .literal (← readOctal (digits ++ third)) (← get).flags.rule
  else
    let number := Numeral.ofDigits 10 digits
    if number < (← get).groups then referTo number (digits.length + 1)
    else failBack (.unknownGroup number) digits.length

/-- Read an escape outside of a set. -/
def readEscape (char : Char) : Read Pattern := do
  let flags := (← get).flags
  match anchorOf? flags.asciiOnly char, classOf? char, controlOf? char, hexWidth? char with
  | some anchor, _, _, _ => return .edge anchor
  | _, some (cls, negated), _, _ => return .oneOf false [.named cls negated flags.asciiOnly] flags.rule
  | _, _, some control, _ => return .literal control.toNat flags.rule
  | _, _, _, some width => return .literal (← readHex char width) flags.rule
  | _, _, _, _ =>
    if char == 'N' then return .literal (← readCharacterName) flags.rule
    else if char == '0' then
      return .literal (← readOctal ('0' :: (← takeWhile isOctal 2))) flags.rule
    else if char.isDigit then readNumber char
    else return .literal (← readPlainEscape char) flags.rule

/-- Read an escape inside of a set. -/
def readSetEscape (char : Char) : Read SetItem := do
  match controlOf? char, classOf? char, hexWidth? char with
  | some control, _, _ => return .char control.toNat
  | _, some (cls, negated), _ => return .named cls negated (← get).flags.asciiOnly
  | _, _, some width => return .char (← readHex char width)
  | _, _, _ =>
    if char == 'N' then return .char (← readCharacterName)
    else if isOctal char then return .char (← readOctal (char :: (← takeWhile isOctal 2)))
    else return .char (← readPlainEscape char)

/-- Read a token of a set as an item. -/
def readSetToken (token : Text) : Read SetItem :=
  match token with
  | ['\\', char] => readSetEscape char
  | [char] => return .char char.toNat
  | _ => return .char '\\'.toNat

/-- Read the items of a set that was opened at `start`, up to its closing bracket. A bracket that comes
first is an item. -/
def readSetItems (start : Nat) : (fuel : Nat) → List SetItem → Read (List SetItem)
  | 0, items => return items
  | fuel + 1, items => do
    match ← take? with
    | none => failAt .openSet start
    | some token =>
      if token == [']'] && !items.isEmpty then return items
      else
        let low ← readSetToken token
        if ← accept '-' then
          match ← take? with
          | none => failAt .openSet start
          | some [']'] => return items ++ [low, .char '-'.toNat]
          | some other =>
            let high ← readSetToken other
            let bad := failBack (.badRange token other) (token.length + 1 + other.length)
            match low, high with
            | .char lowCode, .char highCode =>
              if highCode < lowCode then bad
              else readSetItems start fuel (items ++ [.range lowCode highCode])
            | _, _ => bad
        else readSetItems start fuel (items ++ [low])

/-- Read a set that was opened at `start`. -/
def readSet (start : Nat) : Read Pattern := do
  let negated ← accept '^'
  let items ← readSetItems start ((← get).length + 1) []
  return .oneOf negated items (← get).flags.rule

end Docweave.Pattern.Read
