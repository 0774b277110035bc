import Docweave.Text.CharacterName
import Docweave.Text.Word
import Docweave.Value.Numeral

/-!
# Literals in tags

A tag that starts with `@` names an action, and its parameters are literals: numbers, texts, bytes, tuples, sets
and mappings of them, and a few names. What they stand for does not matter here, only whether they can be read. A
complex number is written as a sum, members of a set and keys of a mapping have to be fixed values, and texts that
stand next to each other are one.
-/

namespace Docweave.Terminal

/-- What kind of literal has been read. -/
inductive Literal where
  | number (isImaginary : Bool)
  | signed (isImaginary : Bool)
  | quoted (isBytes : Bool)
  | fixed
  | changeable
  deriving DecidableEq, Repr

namespace Literal

/-- Pass over spaces, comments and backslashes at the end of a row. Newlines count as spaces inside of brackets. -/
def dropSpaceFrom (inBrackets : Bool) : (inComment : Bool) → Text → Text
  | _, [] => []
  | true, char :: rest =>
    if char ≠ '\n' then dropSpaceFrom inBrackets true rest
    else if inBrackets then dropSpaceFrom inBrackets false rest
    else char :: rest
  | false, '\\' :: '\n' :: rest => dropSpaceFrom inBrackets false rest
  | false, char :: rest =>
    if char == '#' then dropSpaceFrom inBrackets true rest
    else if char == ' ' || char == '\t' || char == '\x0c' || (inBrackets && char == '\n') then
      dropSpaceFrom inBrackets false rest
    else char :: rest

/-- Pass over what may stand between two parts of a literal. -/
def dropSpace (inBrackets : Bool) (text : Text) : Text := dropSpaceFrom inBrackets false text

/-- Whether a character may be part of a name. -/
def isNameChar (char : Char) : Bool := char.isAlphanum || char == '_' || 128 ≤ char.toNat

/-- Whether a character is a hexadecimal digit. -/
def isHex (char : Char) : Bool := Numeral.digitValue char < 16

/-- Cut an exponent off a text, if it starts with one. -/
def cutExponent? (text : Text) : Option Text :=
  match text with
  | mark :: rest =>
    if mark.toLower = 'e' then
      let (digits, behind) := Numeral.cutDigits Char.isDigit false (Numeral.cutSign rest).2
      if digits.isEmpty then none else some behind
    else none
  | [] => none

/-- Read a decimal number: whether it is imaginary, and what follows it. A whole number does not start with a zero
unless it is zero. -/
def readDecimal? (text : Text) : Option (Bool × Text) :=
  let (whole, rest) := Numeral.cutDigits Char.isDigit false text
  let (hasPoint, fraction, rest) := match rest with
    | '.' :: rest => (true, Numeral.cutDigits Char.isDigit false rest)
    | rest => (false, [], rest)
  if whole.isEmpty && fraction.isEmpty then none
  else
    let afterExponent := cutExponent? rest
    let rest := afterExponent.getD rest
    if (rest.head?.map Char.toLower) = some 'j' then some (true, rest.drop 1)
    else if hasPoint || afterExponent.isSome || whole.head? ≠ some '0' || whole.all (· == '0') then some (false, rest)
    else none

/-- Read a number. No name follows it directly. -/
def readNumber? (text : Text) : Option (Literal × Text) :=
  let inBase (base : Nat) (digits : Text) : Option (Bool × Text) :=
    let (digits, rest) := Numeral.cutDigits (Numeral.digitValue · < base) true digits
    if digits.isEmpty then none else some (false, rest)
  let found := match text with
    | '0' :: mark :: rest =>
      match [2, 8, 16].find? fun base => Numeral.baseMark base = some mark.toLower with
      | some base => inBase base rest
      | none => readDecimal? text
    | _ => readDecimal? text
  found.bind fun (isImaginary, rest) =>
    if rest.head?.any isNameChar then none else some (.number isImaginary, rest)

/-- How many characters an escape takes up behind its backslash, if it can be read. -/
def escapeLength? (isBytes : Bool) : Text → Option Nat
  | [] => none
  | mark :: rest =>
    let digits (count : Nat) : Option Nat :=
      let digits := (rest.take count).takeWhile isHex
      if digits.length = count ∧ Numeral.ofDigits 16 digits ≤ 0x10FFFF then some (count + 1) else none
    match mark, isBytes with
    | 'x', _ => digits 2
    | 'u', false => digits 4
    | 'U', false => digits 8
    | 'N', false =>
      match rest with
      | '\x7b' :: rest =>
        let name := rest.takeWhile (· ≠ '\x7d')
        if name.length < rest.length ∧ (Text.CharacterName.find? name).isSome then some (name.length + 3) else none
      | _ => none
    | _, _ => some 1

/-- How a quoted literal is written. -/
structure Quoting where
  mark : Char
  isTriple : Bool
  isRaw : Bool
  isBytes : Bool

/-- What follows a quoted literal whose opening quotes have been taken. `skip` counts the characters of the last
escape that are still to be passed over. -/
def afterQuoted? (quoting : Quoting) : (skip : Nat) → Text → Option Text
  | _, [] => none
  | skip, char :: rest =>
    if quoting.isBytes && 128 ≤ char.toNat then none
    else
      match skip with
      | skip + 1 => afterQuoted? quoting skip rest
      | 0 =>
        if char = '\\' then
          match if quoting.isRaw then some 1 else escapeLength? quoting.isBytes rest with
          | some length => afterQuoted? quoting length rest
          | none => none
        else if char = quoting.mark then
          if !quoting.isTriple then some rest
          else if Text.startsWith [char, char] rest then some (rest.drop 2)
          else afterQuoted? quoting 0 rest
        else if char = '\n' && !quoting.isTriple then none
        else afterQuoted? quoting 0 rest

/-- Letters that may stand before a quote. -/
def quoteLetters : List Text := ["", "r", "u", "b", "br", "rb"]

/-- Read one quoted literal. -/
def readQuoted? (text : Text) : Option (Literal × Text) :=
  let letters := (text.takeWhile Char.isAlpha).map Char.toLower
  match text.drop letters.length with
  | mark :: rest =>
    if (mark == '\'' || mark == '"') && quoteLetters.contains letters then
      let isTriple := Text.startsWith [mark, mark] rest
      let isBytes := letters.contains 'b'
      let quoting : Quoting := ⟨mark, isTriple, letters.contains 'r', isBytes⟩
      (afterQuoted? quoting 0 (if isTriple then rest.drop 2 else rest)).map fun rest => (.quoted isBytes, rest)
    else none
  | [] => none

/-- Read the further quoted literals behind one. They are all texts or all bytes. -/
def readFurther? (inBrackets isBytes : Bool) : (fuel : Nat) → Text → Option (Literal × Text)
  | 0, _ => none
  | fuel + 1, text =>
    match readQuoted? (dropSpace inBrackets text) with
    | some (next, rest) => if next = .quoted isBytes then readFurther? inBrackets isBytes fuel rest else none
    | none => some (.quoted isBytes, text)

/-- Names that are literals. -/
def constantNames : List Text := ["True", "False", "None"]

/-- Read a literal that starts with a name. -/
def readNamed? (inBrackets : Bool) (text : Text) : Option (Literal × Text) :=
  let name := text.takeWhile isNameChar
  let rest := text.drop name.length
  if constantNames.contains name then some (.fixed, rest)
  else if name = "set".toList then
    match dropSpace inBrackets rest with
    | '(' :: rest =>
      match dropSpace true rest with
      | ')' :: rest => some (.changeable, rest)
      | _ => none
    | _ => none
  else none

/-- Whether a literal may be a member of a set or a key of a mapping. -/
def isFixed (literal : Literal) : Bool := literal ≠ .changeable

mutual

/-- Read a literal that is no sum and has no sign. -/
def readAtom? (inBrackets : Bool) : (fuel : Nat) → Text → Option (Literal × Text)
  | 0, _ => none
  | fuel + 1, text =>
    match text with
    | '(' :: rest => do
      let (items, isList, rest) ← readItems? true fuel rest
      match rest with
      | ')' :: rest =>
        match items, isList with
        | [item], false => some (item, rest)
        | _, _ => some (if items.all isFixed then .fixed else .changeable, rest)
      | _ => none
    | '\x7b' :: rest => do
      let rest := dropSpace true rest
      match rest with
      | '\x7d' :: rest => some (.changeable, rest)
      | _ =>
        let rest ← readMembers? none fuel rest
        some (.changeable, rest)
    | '.' :: '.' :: '.' :: rest => some (.fixed, rest)
    | _ =>
      match readQuoted? text with
      | some (.quoted isBytes, rest) => readFurther? inBrackets isBytes rest.length.succ rest
      | _ => (readNamed? inBrackets text).or (readNumber? text)

/-- Read a literal with its sign. -/
def readTerm? (inBrackets : Bool) : (fuel : Nat) → Text → Option (Literal × Text)
  | 0, _ => none
  | fuel + 1, text =>
    match dropSpace inBrackets text with
    | sign :: rest =>
      if sign == '+' || sign == '-' then
        match readAtom? inBrackets fuel (dropSpace inBrackets rest) with
        | some (.number isImaginary, rest) => some (.signed isImaginary, rest)
        | _ => none
      else readAtom? inBrackets fuel (sign :: rest)
    | [] => none

/-- Read a literal. A sum is the one of a real number and an imaginary one. -/
def readSum? (inBrackets : Bool) : (fuel : Nat) → Text → Option (Literal × Text)
  | 0, _ => none
  | fuel + 1, text => do
    let (first, rest) ← readTerm? inBrackets fuel text
    let rest := dropSpace inBrackets rest
    match rest with
    | sign :: behind =>
      if sign == '+' || sign == '-' then
        match first, readTerm? inBrackets fuel behind with
        | .number false, some (.number true, rest) | .signed false, some (.number true, rest) =>
          some (.fixed, dropSpace inBrackets rest)
        | _, _ => none
      else some (first, rest)
    | [] => some (first, [])

/-- Read literals with commas between them, and whether there is a comma. There may be none, and a comma may stand
behind the last one. -/
def readItems? (inBrackets : Bool) : (fuel : Nat) → Text → Option (List Literal × Bool × Text)
  | 0, _ => none
  | fuel + 1, text =>
    match readSum? inBrackets fuel text with
    | none => some ([], false, dropSpace inBrackets text)
    | some (item, ',' :: rest) => do
      let (items, _, rest) ← readItems? inBrackets fuel rest
      some (item :: items, true, rest)
    | some (item, rest) => some ([item], false, rest)

/-- Read the members of a set or a mapping up to the closing brace. `hasValues` tells which of the two it is, once
that is known. -/
def readMembers? (hasValues : Option Bool) : (fuel : Nat) → Text → Option Text
  | 0, _ => none
  | fuel + 1, text => do
    let (key, rest) ← readSum? true fuel text
    if !key.isFixed then none
    let (isMapping, rest) ← match rest with
      | ':' :: rest => do
        let (_, rest) ← readSum? true fuel rest
        some (true, rest)
      | rest => some (false, rest)
    if hasValues.any (· ≠ isMapping) then none
    match rest with
    | '\x7d' :: rest => some rest
    | ',' :: rest =>
      match dropSpace true rest with
      | '\x7d' :: rest => some rest
      | rest => readMembers? (some isMapping) fuel rest
    | _ => none

end

/-- Whether a text is a literal, or several with commas between them. -/
def isLiteral (text : Text) : Bool :=
  !text.contains '\x00' &&
    match readItems? false (4 * text.length + 8) text with
    | some (items, _, rest) => !items.isEmpty && (dropSpace true rest).isEmpty
    | none => false

/-- The parameters of an action: what stands in parentheses behind its name, none when only the name is given, or
all of the text when it does not start with a name. -/
def parametersOf (text : Text) : Text :=
  let rest := text.dropWhile fun char => Text.isWord char || char == '.'
  match rest with
  | [] => "()"
  | '(' :: inner => if inner.getLast? = some ')' && !inner.contains '\n' then rest else text
  | _ => text

end Literal

end Docweave.Terminal
