import Docweave.Text.Basic

/-!
# Wrapping

A long row is broken at the last space between two columns. Where there is none it is cut hard at the
upper column. A space at the cut is dropped, and nothing else is.
-/

namespace Docweave.Text

/-- The last column from `low` to `high` that holds a space. -/
def lastSpace? (text : Text) (low : Nat) : (high : Nat) → Option Nat
  | 0 => if low = 0 ∧ text[0]? = some ' ' then some 0 else none
  | high + 1 =>
    if high + 1 < low then none
    else if text[high + 1]? = some ' ' then some (high + 1)
    else lastSpace? text low high

/-- The column at which a text longer than `most` is broken. A break leaves at least one character on
its row. -/
def breakColumn (text : Text) (most : Nat) (least : Int) : Nat :=
  (lastSpace? text (max 1 least.toNat) most).getD most

/-- Drop the space at a cut. -/
def dropSpace : Text → Text
  | ' ' :: rest => rest
  | text => text

/-- Wrap with at most `fuel` breaks. The search for a space runs down to column `least`, where
columns below zero count from the end of the text; it fails when it leaves a text without spaces. -/
def wrapFrom (most : Nat) (least : Int) : (fuel : Nat) → Text → Option (List Text)
  | 0, text => some [text]
  | fuel + 1, text =>
    if text.length ≤ most then some [text]
    else if least < -(text.length : Int) ∧ ' ' ∉ text then none
    else
      let column := breakColumn text most least
      (wrapFrom most least fuel (dropSpace (text.drop column))).map (text.take column :: ·)

/-- Wrap a text to rows of at most `most` columns, none broken before column `least`. No positive
`most` means no wrapping. Every break takes at least one character off, so the length of the text
bounds their number. -/
def wrap (text : Text) (most least : Int) : Option (List Text) :=
  if most ≤ 0 then some [text] else wrapFrom most.toNat least text.length text

end Docweave.Text
