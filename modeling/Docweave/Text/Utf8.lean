import Docweave.Text.Basic

/-!
# Texts as bytes

Texts are stored in UTF-8. Decoding fails at the first bytes that stand for no character, and the error
tells which bytes these are and what is wrong with them.
-/

namespace Docweave.Utf8

/-- What is wrong with bytes that stand for no character. -/
inductive Fault where
  | badStart
  | badContinuation
  | truncated
  deriving DecidableEq, Repr, Inhabited

/-- The words for a fault. -/
def Fault.message : Fault → Text
  | .badStart => "invalid start byte"
  | .badContinuation => "invalid continuation byte"
  | .truncated => "unexpected end of data"

/-- Bytes that stand for no character: their first and last position, the first of them, and the fault. -/
structure DecodeError where
  first : Nat
  last : Nat
  byte : UInt8
  fault : Fault
  deriving DecidableEq, Repr, Inhabited

/-- A byte in two hexadecimal digits. -/
def byteText (byte : UInt8) : Text :=
  let digits := Nat.toDigits 16 byte.toNat
  List.replicate (2 - digits.length) '0' ++ digits

/-- What is said about bytes that stand for no character. -/
def DecodeError.message (error : DecodeError) : Text :=
  let place : Text :=
    if error.first = error.last then
      "byte 0x" ++ byteText error.byte ++ " in position " ++ Text.ofNat error.first
    else "bytes in position " ++ Text.ofNat error.first ++ '-' :: Text.ofNat error.last
  "'utf-8' codec can't decode " ++ place ++ ": " ++ error.fault.message

/-- What a first byte asks for: the number of bytes after it, the bits it holds, and the bounds of the byte
after it. -/
structure Lead where
  count : Nat
  bits : Nat
  low : UInt8 := 0x80
  high : UInt8 := 0xbf
  deriving DecidableEq, Repr

/-- What a first byte asks for. Spellings that are too long, halves of pairs and numbers beyond the last
character are ruled out by the bounds. -/
def lead? (byte : UInt8) : Option Lead :=
  let number := byte.toNat
  if byte < 0x80 then some ⟨0, number, 0x80, 0xbf⟩
  else if byte < 0xc2 then none
  else if byte < 0xe0 then some ⟨1, number - 0xc0, 0x80, 0xbf⟩
  else if byte = 0xe0 then some ⟨2, 0, 0xa0, 0xbf⟩
  else if byte = 0xed then some ⟨2, 0xd, 0x80, 0x9f⟩
  else if byte < 0xf0 then some ⟨2, number - 0xe0, 0x80, 0xbf⟩
  else if byte = 0xf0 then some ⟨3, 0, 0x90, 0xbf⟩
  else if byte < 0xf4 then some ⟨3, number - 0xf0, 0x80, 0xbf⟩
  else if byte = 0xf4 then some ⟨3, 4, 0x80, 0x8f⟩
  else none

/-- Whether the bytes of a character go on as its first byte asks: the fault, if there is one, and the
number of bytes before it. -/
def faultIn : (lead : Lead) → List UInt8 → Option (Fault × Nat)
  | ⟨0, _, _, _⟩, _ => none
  | ⟨_ + 1, _, _, _⟩, [] => some (.truncated, 0)
  | ⟨count + 1, bits, low, high⟩, byte :: rest =>
    if low ≤ byte ∧ byte ≤ high then
      (faultIn ⟨count, bits, 0x80, 0xbf⟩ rest).map fun (fault, length) => (fault, length + 1)
    else some (.badContinuation, 0)

/-- The character of some bits and the bytes after them. -/
def charOf (bits : Nat) (bytes : List UInt8) : Char :=
  Char.ofNat (bytes.foldl (fun number byte => number * 64 + (byte.toNat - 0x80)) bits)

/-- Decode bytes from a position on, at most `fuel` characters. -/
def decodeFrom : (fuel position : Nat) → List UInt8 → Except DecodeError Text
  | 0, _, _ => .ok []
  | _, _, [] => .ok []
  | fuel + 1, position, byte :: rest =>
    match lead? byte with
    | none => .error ⟨position, position, byte, .badStart⟩
    | some lead =>
      match faultIn lead rest with
      | some (fault, length) => .error ⟨position, position + length, byte, fault⟩
      | none => do
        let more ← decodeFrom fuel (position + lead.count + 1) (rest.drop lead.count)
        return charOf lead.bits (rest.take lead.count) :: more

/-- The text that bytes stand for. -/
def decode (bytes : List UInt8) : Except DecodeError Text := decodeFrom bytes.length 0 bytes

/-- The bytes that stand for a text. -/
def encode (text : Text) : List UInt8 := text.flatMap String.utf8EncodeChar

end Docweave.Utf8

namespace Docweave.Text

/-- Write every line break as a single newline. -/
def unifyBreaks : Text → Text
  | [] => []
  | '\r' :: '\n' :: rest => '\n' :: unifyBreaks rest
  | '\r' :: rest => '\n' :: unifyBreaks rest
  | char :: rest => char :: unifyBreaks rest

end Docweave.Text
