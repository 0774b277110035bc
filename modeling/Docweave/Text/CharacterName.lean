import Docweave.Text.CharacterName.Table
import Docweave.Text.Printable
import Docweave.Text.Space

/-!
# Names of characters

Every character that is assigned has a name in capital letters. Most names stand in a table. The name of a Korean
syllable is put together from the sounds of its three letters, and the name of an ideograph ends with its code.
-/

namespace Docweave.Text.CharacterName

/-- The value of hexadecimal digits. -/
def ofHex (digits : Text) : Nat :=
  digits.foldl (fun code digit => code * 16 + if digit.isDigit then digit.toNat - 48 else digit.toNat - 55) 0

/-- A code in hexadecimal digits. -/
def toHex (code : Nat) : Text := (Nat.toDigits 16 code).map Char.toUpper

/-- The words of a name, where the first ones may be those of the name before it. -/
def wordsAfter (previous : List Text) : Text → List Text
  | [] => []
  | first :: rest =>
    if first.isDigit then previous.take (first.toNat - 48) ++ Text.splitChar ' ' rest
    else Text.splitChar ' ' (first :: rest)

/-- Look for a name among entries, the first of which has a given code unless it says otherwise. -/
def findEntry? (name : List Text) (code : Nat) (previous : List Text) : List Text → Option Nat
  | [] => none
  | ('@' :: digits) :: rest => findEntry? name (ofHex digits) previous rest
  | entry :: rest =>
    let words := wordsAfter previous entry
    if words = name then some code else findEntry? name (code + 1) words rest

/-- Look for a name in rows of a table. -/
def findRow? (name : List Text) (rows : List String) : Option Nat :=
  rows.findSome? fun (row : String) => findEntry? name 0 [] ((Text.splitChar ';' row).map Text.stripLeft)

/-- Characters other than the unified ideographs whose names end with their codes: how the names start, and the
first and the last code. -/
def numberedRanges : List (Text × Nat × Nat) :=
  [("CJK COMPATIBILITY IDEOGRAPH-", 0xF900, 0xFA6D), ("CJK COMPATIBILITY IDEOGRAPH-", 0xFA70, 0xFAD9),
    ("CJK COMPATIBILITY IDEOGRAPH-", 0x2F800, 0x2FA1D), ("KHITAN SMALL SCRIPT CHARACTER-", 0x18B00, 0x18CD5),
    ("NUSHU CHARACTER-", 0x1B170, 0x1B2FB)]

/-- Read a name that ends with a code. -/
def findNumbered? (name : Text) : Option Nat :=
  numberedRanges.findSome? fun (lead, first, last) => do
    let digits ← Text.after? lead name
    let code := ofHex digits
    if first ≤ code && code ≤ last && toHex code == digits then some code else none

/-- The unified ideographs. -/
def ideographRanges : List (Nat × Nat) :=
  [(0x3400, 0x4DBF), (0x4E00, 0x9FFF), (0x20000, 0x2A6DF), (0x2A700, 0x2B738), (0x2B740, 0x2B81D),
    (0x2B820, 0x2CEA1), (0x2CEB0, 0x2EBE0), (0x30000, 0x3134A)]

/-- Read the name of a unified ideograph, which ends with four or five digits. -/
def findIdeograph? (name : Text) : Option Nat := do
  let digits ← Text.after? "CJK UNIFIED IDEOGRAPH-" name
  let isCode := digits.all fun digit => digit.isDigit || ('A' ≤ digit && digit ≤ 'F')
  if isCode && (digits.length == 4 || digits.length == 5) && inRanges ideographRanges (ofHex digits) then
    some (ofHex digits)
  else none

/-- The sounds of the first letter of a syllable. -/
def firstSounds : List Text :=
  ["G", "GG", "N", "D", "DD", "R", "M", "B", "BB", "S", "SS", "", "J", "JJ", "C", "K", "T", "P", "H"]

/-- The sounds of the second letter of a syllable. -/
def middleSounds : List Text :=
  ["A", "AE", "YA", "YAE", "EO", "E", "YEO", "YE", "O", "WA", "WAE", "OE", "YO", "U", "WEO", "WE", "WI", "YU", "EU",
    "YI", "I"]

/-- The sounds of the last letter of a syllable, which may be missing. -/
def lastSounds : List Text :=
  ["", "G", "GG", "GS", "N", "NJ", "NH", "D", "L", "LG", "LM", "LB", "LS", "LT", "LP", "LH", "M", "B", "BS", "S", "SS",
    "NG", "J", "C", "K", "T", "P", "H"]

/-- Read the longest of several sounds: its number and what follows it. -/
def cutSound? (sounds : List Text) (text : Text) : Option (Nat × Text) :=
  let found := sounds.zipIdx.filterMap fun (sound, index) => (Text.after? sound text).map fun rest => (index, rest)
  found.foldl (fun best next => match best with
    | none => some next
    | some best => some (if next.2.length < best.2.length then next else best)) none

/-- Read the name of a syllable. -/
def findSyllable? (name : Text) : Option Nat := do
  let sounds ← Text.after? "HANGUL SYLLABLE " name
  let (first, rest) ← cutSound? firstSounds sounds
  let (middle, rest) ← cutSound? middleSounds rest
  let (last, rest) ← cutSound? lastSounds rest
  if rest.isEmpty then some (0xAC00 + (first * 21 + middle) * 28 + last) else none

/-- The character of a name. The case of letters matters only in names of syllables and unified ideographs. -/
def find? (name : Text) : Option Char :=
  let capitals := name.map Char.toUpper
  let words := Text.splitChar ' ' capitals
  let code := (findSyllable? name).or <| (findIdeograph? name).or <| (findNumbered? capitals).or <|
    (findRow? words nameRows).or (findRow? words aliasRows)
  code.map Char.ofNat

end Docweave.Text.CharacterName
