import Docweave.Text.Printable

/-!
# Quoted texts

A text inside a message is written between quotes. Single quotes are used unless the text holds a
single quote and no double one. A backslash escapes itself and the quote, and whatever is not printable
is written by its code point in hexadecimal digits.
-/

namespace Docweave.Text

/-- The quote to put around a text. -/
def quoteFor (text : Text) : Char := if text.contains '\'' && !text.contains '"' then '"' else '\''

/-- The lowest `width` hexadecimal digits of a number. -/
def hexDigits (width number : Nat) : Text :=
  let digits := Nat.toDigits 16 number
  List.replicate (width - digits.length) '0' ++ digits

/-- Write a character by its code point. -/
def escapeCode (code : Nat) : Text :=
  if code < 0x100 then "\\x" ++ hexDigits 2 code
  else if code < 0x10000 then "\\u" ++ hexDigits 4 code
  else "\\U" ++ hexDigits 8 code

/-- Write a character between quotes. -/
def escapeChar (quote char : Char) : Text :=
  if char = quote ∨ char = '\\' then ['\\', char]
  else if char = '\n' then "\\n"
  else if char = '\t' then "\\t"
  else if char = '\r' then "\\r"
  else if isPrintable char then [char]
  else escapeCode char.toNat

/-- Write a text between quotes. -/
def quoted (text : Text) : Text :=
  let quote := quoteFor text
  quote :: (text.map (escapeChar quote)).flatten ++ [quote]

end Docweave.Text
