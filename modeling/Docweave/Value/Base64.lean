import Docweave.Text.Basic

/-!
# Bytes in sixty-four characters

Three bytes are written as four characters of six bits each. A group that is not full is filled up with equals
signs. In reading, what is none of the characters is passed over.
-/

namespace Docweave.Base64

/-- The character for six bits. -/
def char (bits : Nat) : Char :=
  if bits < 26 then Char.ofNat (bits + 65)
  else if bits < 52 then Char.ofNat (bits + 71)
  else if bits < 62 then Char.ofNat (bits - 4)
  else if bits = 62 then '+'
  else '/'

/-- The six bits of a character. -/
def bits? (char : Char) : Option Nat :=
  if 'A' ≤ char ∧ char ≤ 'Z' then some (char.toNat - 65)
  else if 'a' ≤ char ∧ char ≤ 'z' then some (char.toNat - 71)
  else if '0' ≤ char ∧ char ≤ '9' then some (char.toNat + 4)
  else if char = '+' then some 62
  else if char = '/' then some 63
  else none

/-- The characters for bytes. -/
def encode : List UInt8 → Text
  | [] => []
  | [first] => [char (first.toNat / 4), char (first.toNat % 4 * 16), '=', '=']
  | [first, second] =>
    [char (first.toNat / 4), char (first.toNat % 4 * 16 + second.toNat / 16), char (second.toNat % 16 * 4), '=']
  | first :: second :: third :: rest =>
    char (first.toNat / 4) :: char (first.toNat % 4 * 16 + second.toNat / 16)
      :: char (second.toNat % 16 * 4 + third.toNat / 64) :: char (third.toNat % 64) :: encode rest

/-- How many bytes a line holds. -/
def lineBytes : Nat := 57

/-- The lines of characters for bytes, at most `fuel` of them. -/
def linesFrom : (fuel : Nat) → List UInt8 → List Text
  | 0, _ => []
  | fuel + 1, bytes =>
    if bytes.isEmpty then [] else encode (bytes.take lineBytes) :: linesFrom fuel (bytes.drop lineBytes)

/-- The lines of characters for bytes. -/
def lines (bytes : List UInt8) : List Text := linesFrom bytes.length bytes

/-- Read characters. `place` is the place in the group of four, `left` holds the bits that wait for more, and
`fills` counts the equals signs. A full group, or one that is filled up, may end the characters. -/
def decodeFrom : (place left fills : Nat) → Text → Option (List UInt8)
  | place, _, _, [] => if place = 0 then some [] else none
  | place, left, fills, char :: rest =>
    if char = '=' then
      if place ≥ 2 then if place + fills + 1 ≥ 4 then some [] else decodeFrom place left (fills + 1) rest
      else decodeFrom place left fills rest
    else
      match bits? char with
      | none => decodeFrom place left fills rest
      | some bits =>
        match place with
        | 0 => decodeFrom 1 bits 0 rest
        | 1 => (decodeFrom 2 (bits % 16) 0 rest).map (UInt8.ofNat (left * 4 + bits / 16) :: ·)
        | 2 => (decodeFrom 3 (bits % 4) 0 rest).map (UInt8.ofNat (left * 16 + bits / 4) :: ·)
        | _ => (decodeFrom 0 0 0 rest).map (UInt8.ofNat (left * 64 + bits) :: ·)

/-- The bytes for characters, if the last group is full. -/
def decode? (text : Text) : Option (List UInt8) := decodeFrom 0 0 0 text

end Docweave.Base64
