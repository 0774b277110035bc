import Docweave.Text.Case
import Docweave.Text.Space
import Docweave.Text.Word

/-!
# Search patterns

A pattern describes a set of texts, with the order in which a search tries its choices. Characters are
described by their codes and by classes. Whether case matters and which scripts count is noted where it is
decided, so that a pattern carries its own meaning.
-/

namespace Docweave

/-- Which letters count as the same: none but equal ones, ASCII letters of either case, or letters of either case
in all scripts. -/
inductive CaseRule where
  | exact
  | ascii
  | all
  deriving DecidableEq, Repr, Inhabited

namespace CaseRule

/-- The lower case of a code. -/
def lower : CaseRule → Nat → Nat
  | .exact, code => code
  | .ascii, code => if 65 ≤ code ∧ code ≤ 90 then code + 32 else code
  | .all, code => Text.lowerCode code

/-- Whether two codes count as the same. Small letters that share a capital letter do. -/
def same (rule : CaseRule) (left right : Nat) : Bool :=
  left == right || rule.lower left == rule.lower right ||
    (rule == .all && (Text.smallVariants (Text.lowerCode left)).contains (Text.lowerCode right))

/-- Whether a code counts as the same as some code of a range. -/
def inRange (rule : CaseRule) (low high code : Nat) : Bool :=
  let holds (code : Nat) : Bool := low ≤ code && code ≤ high
  match rule with
  | .exact => holds code
  | .ascii =>
    let small := rule.lower code
    holds code || holds small || (97 ≤ small && small ≤ 122 && holds (small - 32))
  | .all => holds code || (Text.caseVariants code).any holds

end CaseRule

/-- A named class of characters. -/
inductive CharClass where
  | digit
  | space
  | word
  deriving DecidableEq, Repr, Inhabited

namespace CharClass

/-- Whether a character belongs to a class, of which only the ASCII characters may count. -/
def holds (asciiOnly : Bool) (cls : CharClass) (char : Char) : Bool :=
  if asciiOnly then
    match cls with
    | .digit => char.isDigit
    | .space => char == ' ' || (9 ≤ char.toNat && char.toNat ≤ 13)
    | .word => char.isAlphanum || char == '_'
  else
    match cls with
    | .digit => Text.isDigit char
    | .space => Text.isSpace char
    | .word => Text.isWord char

end CharClass

/-- An item of a set of characters. -/
inductive SetItem where
  | char (code : Nat)
  | range (low high : Nat)
  | named (cls : CharClass) (negated asciiOnly : Bool)
  deriving DecidableEq, Repr, Inhabited

namespace SetItem

/-- Whether a character belongs to an item. -/
def holds (rule : CaseRule) (item : SetItem) (char : Char) : Bool :=
  match item with
  | .char code => rule.same code char.toNat
  | .range low high => rule.inRange low high char.toNat
  | .named cls negated asciiOnly => cls.holds asciiOnly char != negated

end SetItem

/-- A place in the text that takes no characters. -/
inductive Anchor where
  | textStart
  | rowStart
  | textEnd
  | lastRowEnd
  | rowEnd
  | wordEdge (asciiOnly : Bool)
  | noWordEdge (asciiOnly : Bool)
  deriving DecidableEq, Repr, Inhabited

/-- How a repetition chooses the number of its rounds: as many as possible, as few as possible, or as many as
possible without going back on them. -/
inductive Greed where
  | greedy
  | lazy
  | possessive
  deriving DecidableEq, Repr, Inhabited

/-- A search pattern. Repetitions give the least and the greatest number of rounds, and a look behind a place the
least and the greatest number of characters that it takes. -/
inductive Pattern where
  | empty
  | literal (code : Nat) (rule : CaseRule)
  | any (newlines : Bool)
  | oneOf (negated : Bool) (items : List SetItem) (rule : CaseRule)
  | edge (anchor : Anchor)
  | seq (first second : Pattern)
  | choice (first second : Pattern)
  | repeated (least : Nat) (most : Option Nat) (greed : Greed) (body : Pattern)
  | group (number : Option Nat) (body : Pattern)
  | reference (number : Nat) (rule : CaseRule)
  | whether (number : Nat) (present missing : Pattern)
  | ahead (negated : Bool) (body : Pattern)
  | behind (negated : Bool) (least most : Nat) (body : Pattern)
  | atomic (body : Pattern)
  deriving Repr, Inhabited

namespace Pattern

/-- Widths are not told apart beyond this one. -/
def widthLimit : Nat := 18446744073709551616

/-- Number of characters that a pattern takes at least and at most, given those of the groups it refers to. -/
def width (widthOf : Nat → Nat × Nat) : Pattern → Nat × Nat
  | .empty | .edge _ | .ahead _ _ | .behind _ _ _ _ => (0, 0)
  | .literal _ _ | .any _ | .oneOf _ _ _ => (1, 1)
  | .seq first second =>
    let (least, most) := first.width widthOf
    let (leastSecond, mostSecond) := second.width widthOf
    (min widthLimit (least + leastSecond), min widthLimit (most + mostSecond))
  | .choice first second | .whether _ first second =>
    let (least, most) := first.width widthOf
    let (leastSecond, mostSecond) := second.width widthOf
    (min least leastSecond, max most mostSecond)
  | .repeated leastRounds mostRounds _ body =>
    let (least, most) := body.width widthOf
    let most := match mostRounds with
      | some rounds => rounds * most
      | none => if most = 0 then 0 else widthLimit
    (min widthLimit (leastRounds * least), min widthLimit most)
  | .group _ body | .atomic body => body.width widthOf
  | .reference number _ => widthOf number

end Pattern

end Docweave
