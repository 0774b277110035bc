import Docweave.Text.Basic

/-!
# Similar texts

Two texts are similar when they share most of their characters. What they share is counted by their longest
common part, the first one if there are several, and then by what is left of it and right of it.
-/

namespace Docweave.Text

/-- Length of the common start of two texts. -/
def commonLength : Text → Text → Nat
  | left :: lefts, right :: rights => if left = right then commonLength lefts rights + 1 else 0
  | _, _ => 0

/-- A common part of two texts: where it starts in each, and its length. -/
structure Overlap where
  left : Nat
  right : Nat
  length : Nat
  deriving DecidableEq, Repr

/-- The longest common part of two texts, the first one if there are several. -/
def longestOverlap (left right : Text) : Overlap :=
  let starts := (List.range left.length).flatMap fun start => (List.range right.length).map fun other => (start, other)
  starts.foldl
    (fun best (start, other) =>
      let length := commonLength (left.drop start) (right.drop other)
      if best.length < length then ⟨start, other, length⟩ else best) ⟨0, 0, 0⟩

/-- Number of characters that two texts share. The fuel bounds the number of parts. -/
def sharedFrom : (fuel : Nat) → Text → Text → Nat
  | 0, _, _ => 0
  | fuel + 1, left, right =>
    let found := longestOverlap left right
    if found.length = 0 then 0
    else
      sharedFrom fuel (left.take found.left) (right.take found.right) + found.length +
        sharedFrom fuel (left.drop (found.left + found.length)) (right.drop (found.right + found.length))

/-- Number of characters that two texts share, each part counted once in both. -/
def sharedCount (left right : Text) : Nat := sharedFrom left.length left right

/-- How similar a text is to another, as a quotient: the shared characters of both over all characters. -/
def similarity (left right : Text) : Nat × Nat := (2 * sharedCount left right, left.length + right.length)

/-- The texts of a list that share at least three fifths of their characters with a text: up to three, the
most similar ones first. Of two that are as similar, the later one in the order of characters comes first. -/
def similarTo (text : Text) (others : List Text) : List Text :=
  let close := others.filter fun other =>
    let (shared, total) := similarity other text
    total = 0 ∨ 3 * total ≤ 5 * shared
  let comesFirst (left right : Text) : Bool :=
    let (shared, total) := similarity left text
    let (shared', total') := similarity right text
    if shared * total' = shared' * total then upTo right left else decide (shared' * total < shared * total')
  (close.mergeSort comesFirst).take 3

end Docweave.Text
