/-!
# Texts

A text is the list of its code points, so lengths, offsets and columns all count code points. This
module holds the cuts and searches that everything above it is made of. Each one recurses on the text
itself, so closed instances evaluate in the kernel.
-/

namespace Docweave

/-- A text is the list of its code points. -/
abbrev Text := List Char

/-- String literals may be written where a text is expected. -/
instance : Coe String Text := ⟨String.toList⟩

namespace Text

/-- Spaces and tabs are the blanks of a row. -/
def isBlank (char : Char) : Bool := char == ' ' || char == '\t'

/-- Blanks and the newline separate words across rows. -/
def isSeparator (char : Char) : Bool := isBlank char || char == '\n'

/-- Whether a text holds blanks only. -/
def allBlank (text : Text) : Bool := text.all isBlank

/-- Drop the longest final run of characters in a class. -/
def dropTrailing (inClass : Char → Bool) (text : Text) : Text :=
  (text.reverse.dropWhile inClass).reverse

/-- Strip every character of a class from both ends. -/
def stripOf (inClass : Char → Bool) (text : Text) : Text :=
  dropTrailing inClass (text.dropWhile inClass)

/-- Strip blanks, but no newlines, from both ends. -/
def trim (text : Text) : Text := stripOf isBlank text

/-- Write every run of blanks as one space. The flag says that the previous character was a blank. -/
def squeeze : Bool → Text → Text
  | _, [] => []
  | afterBlank, char :: rest =>
    if isBlank char then
      if afterBlank then squeeze true rest else ' ' :: squeeze true rest
    else
      char :: squeeze false rest

/-- Squeeze every run of blanks to one space and trim. -/
def clean (text : Text) : Text := trim (squeeze false text)

/-- The pieces of a text between the occurrences of a character; there is always at least one. -/
def splitChar (separator : Char) : Text → List Text
  | [] => [[]]
  | char :: rest =>
    if char = separator then
      [] :: splitChar separator rest
    else
      match splitChar separator rest with
      | [] => [[char]]
      | piece :: pieces => (char :: piece) :: pieces

/-- The rows of a text. -/
def rows (text : Text) : List Text := splitChar '\n' text

/-- Join pieces with a separator between neighbours. -/
def join (separator : Text) (pieces : List Text) : Text := List.intercalate separator pieces

/-- Join rows with newlines. -/
def unrows (pieces : List Text) : Text := join ['\n'] pieces

/-- What follows `lead` in a text that starts with it. -/
def after? : Text → Text → Option Text
  | [], text => some text
  | _ :: _, [] => none
  | expected :: lead, char :: rest => if expected = char then after? lead rest else none

/-- Whether a text starts with `lead`. -/
def startsWith (lead text : Text) : Bool := (after? lead text).isSome

/-- Whether a text ends with `tail`. -/
def endsWith (tail text : Text) : Bool := startsWith tail.reverse text.reverse

/-- Whether a text comes before another, or is the same: characters are compared in order. -/
def upTo (left right : Text) : Bool := !decide (right < left)

/-- Split a text at the occurrences of a non-empty separator, taken from the left and not
overlapping. `skip` counts the characters of the last occurrence that are still to be passed over and
`piece` holds the open piece in reverse. -/
def splitTextFrom (separator : Text) : (skip : Nat) → (piece : Text) → Text → List Text
  | _, piece, [] => [piece.reverse]
  | skip + 1, piece, _ :: rest => splitTextFrom separator skip piece rest
  | 0, piece, char :: rest =>
    if startsWith separator (char :: rest) then
      piece.reverse :: splitTextFrom separator (separator.length - 1) [] rest
    else
      splitTextFrom separator 0 (char :: piece) rest

/-- The pieces of a text between the occurrences of a non-empty separator. -/
def splitText (separator text : Text) : List Text := splitTextFrom separator 0 [] text

/-- Offset of the first occurrence of `needle`. -/
def find? (needle : Text) : Text → Option Nat
  | [] => if needle.isEmpty then some 0 else none
  | char :: rest =>
    if startsWith needle (char :: rest) then some 0 else (find? needle rest).map (· + 1)

/-- Offset of the last occurrence of `needle`. -/
def findLast? (needle : Text) : Text → Option Nat
  | [] => if needle.isEmpty then some 0 else none
  | char :: rest =>
    match findLast? needle rest with
    | some offset => some (offset + 1)
    | none => if startsWith needle (char :: rest) then some 0 else none

/-- Offset of the first occurrence of a character. -/
def findChar? (needle : Char) : Text → Option Nat
  | [] => none
  | char :: rest => if char = needle then some 0 else (findChar? needle rest).map (· + 1)

/-- Replace the first occurrence of `old`, if there is one. -/
def replaceFirst (old new text : Text) : Text :=
  match find? old text with
  | none => text
  | some offset => text.take offset ++ new ++ text.drop (offset + old.length)

/-- Replace every occurrence of one character by another. -/
def replaceChar (old new : Char) (text : Text) : Text :=
  text.map fun char => if char = old then new else char

/-- Cut a text at the first occurrence of a character, which is dropped. Without one the second part
is empty. -/
def cutAt (separator : Char) (text : Text) : Text × Text :=
  (text.takeWhile (· ≠ separator), (text.dropWhile (· ≠ separator)).drop 1)

/-- The offset that a signed offset names in a text of a given length: negative offsets count from the
end, and every offset is clamped to the text. -/
def clampOffset (length : Nat) (offset : Int) : Nat :=
  if offset < 0 then (length + offset).toNat else min offset.toNat length

/-- The text before a signed offset. -/
def takeSigned {α : Type} (offset : Int) (items : List α) : List α :=
  items.take (clampOffset items.length offset)

/-- The text from a signed offset on. -/
def dropSigned {α : Type} (offset : Int) (items : List α) : List α :=
  items.drop (clampOffset items.length offset)

/-- The item at a signed offset, where negative offsets count from the end. -/
def atSigned? {α : Type} (offset : Int) (items : List α) : Option α :=
  if offset < 0 then
    if items.length + offset < 0 then none else items[(items.length + offset).toNat]?
  else
    items[offset.toNat]?

/-- The decimal digits of a natural number. -/
def ofNat (number : Nat) : Text := Nat.toDigits 10 number

/-- The decimal digits of an integer, with a leading minus sign when it is negative. -/
def ofInt : Int → Text
  | .ofNat number => ofNat number
  | .negSucc number => '-' :: ofNat (number + 1)

end Text

end Docweave
