import Docweave.Pattern.Basic

/-!
# Matching

A match is searched for by trying the choices of a pattern in order and going back to the last choice
when the rest does not fit. What follows a part of the pattern is passed to it as a continuation, so the
search is plain recursion on the pattern. A repetition stops trying further rounds once a round has taken
nothing, so the number of rounds is bounded by the text.
-/

namespace Docweave.Pattern

/-- Where a match stands: the characters before the place with the nearest first, those after it, and
the texts of the groups, the latest first. -/
structure Spot where
  before : Text
  after : Text
  groups : List (Nat × Text)
  deriving DecidableEq, Repr, Inhabited

namespace Spot

/-- Number of characters before the place. -/
def offset (spot : Spot) : Nat := spot.before.length

/-- Take one character of a class. -/
def take? (inClass : Char → Bool) (spot : Spot) : Option Spot :=
  match spot.after with
  | char :: rest => if inClass char then some { spot with before := char :: spot.before, after := rest } else none
  | [] => none

/-- Take the characters of a text, in order. Only letters of the same lower case count as the same. -/
def takeText? (rule : CaseRule) : Text → Spot → Option Spot
  | [], spot => some spot
  | char :: rest, spot =>
    match spot.take? fun other => rule.lower char.toNat == rule.lower other.toNat with
    | some spot => takeText? rule rest spot
    | none => none

/-- Go back a number of characters. -/
def back? : Nat → Spot → Option Spot
  | 0, spot => some spot
  | count + 1, spot =>
    match spot.before with
    | char :: rest => back? count { spot with before := rest, after := char :: spot.after }
    | [] => none

/-- Whether the characters on the two sides of the place differ in being part of a word. -/
def atWordEdge (asciiOnly : Bool) (spot : Spot) : Bool :=
  let isWordAt (side : Text) := side.head?.any (CharClass.word.holds asciiOnly)
  isWordAt spot.before != isWordAt spot.after

/-- The text that a group has taken last. -/
def group? (spot : Spot) (number : Nat) : Option Text := spot.groups.lookup number

/-- Whether an anchor holds at the place. The empty text has no place inside or outside of words. -/
def holds (spot : Spot) : Anchor → Bool
  | .textStart => spot.before.isEmpty
  | .rowStart => spot.before.isEmpty || spot.before.head? == some '\n'
  | .textEnd => spot.after.isEmpty
  | .lastRowEnd => spot.after.isEmpty || spot.after == ['\n']
  | .rowEnd => spot.after.isEmpty || spot.after.head? == some '\n'
  | .wordEdge asciiOnly => spot.atWordEdge asciiOnly
  | .noWordEdge asciiOnly => !(spot.before.isEmpty && spot.after.isEmpty) && !spot.atWordEdge asciiOnly

end Spot

/-- A step of a match: given what has to follow, it finds a spot from which that succeeds. -/
abbrev Step := (Spot → Option Spot) → Spot → Option Spot

/-- Whether another round may follow `count` rounds. -/
def belowMost (most : Option Nat) (count : Nat) : Bool :=
  match most with
  | some most => count < most
  | none => true

/-- Repeat a step, after `count` rounds, and go on with `next`. `last` is where the latest optional round
started: a round that has taken nothing is followed by no other. -/
def repeatStep (step : Step) (least : Nat) (most : Option Nat) (greedy : Bool)
    (next : Spot → Option Spot) : (fuel : Nat) → (count : Nat) → (last : Option Nat) → Spot → Option Spot
  | 0, _, _, spot => next spot
  | fuel + 1, count, last, spot =>
    if count < least then
      step (repeatStep step least most greedy next fuel (count + 1) last) spot
    else
      let again : Unit → Option Spot := fun _ =>
        if belowMost most count && last != some spot.offset then
          step (repeatStep step least most greedy next fuel (count + 1) (some spot.offset)) spot
        else none
      if greedy then (again ()).orElse fun _ => next spot
      else (next spot).orElse again

/-- Repeat a step, after `count` rounds, as often as possible. What a round has taken is not given back. -/
def repeatKept (round : Spot → Option Spot) (least : Nat) (most : Option Nat) :
    (fuel : Nat) → (count : Nat) → (last : Option Nat) → Spot → Option Spot
  | 0, _, _, spot => some spot
  | fuel + 1, count, last, spot =>
    if count < least then
      match round spot with
      | some inner => repeatKept round least most fuel (count + 1) last inner
      | none => none
    else if belowMost most count && last != some spot.offset then
      match round spot with
      | some inner => repeatKept round least most fuel (count + 1) (some spot.offset) inner
      | none => some spot
    else some spot

/-- Match a pattern at a spot and go on with `next`. -/
def run : Pattern → Step
  | .empty, next, spot => next spot
  | .literal code rule, next, spot => (spot.take? (SetItem.holds rule (.char code))).bind next
  | .any newlines, next, spot => (spot.take? fun char => newlines || char != '\n').bind next
  | .oneOf negated items rule, next, spot =>
    (spot.take? fun char => items.any (fun item => item.holds rule char) != negated).bind next
  | .edge anchor, next, spot => if spot.holds anchor then next spot else none
  | .seq first second, next, spot => run first (fun spot => run second next spot) spot
  | .choice first second, next, spot => (run first next spot).orElse fun _ => run second next spot
  | .repeated least most greed body, next, spot =>
    let fuel := least + spot.after.length + 2
    match greed with
    | .possessive => (repeatKept (fun spot => run body some spot) least most fuel 0 none spot).bind next
    | _ => repeatStep (fun next spot => run body next spot) least most (greed == .greedy) next fuel 0 none spot
  | .group none body, next, spot => run body next spot
  | .group (some number) body, next, spot =>
    run body (fun inner =>
      let taken := (inner.before.take (inner.offset - spot.offset)).reverse
      next { inner with groups := (number, taken) :: inner.groups }) spot
  | .reference number rule, next, spot => do
    let text ← spot.group? number
    next (← spot.takeText? rule text)
  | .whether number present missing, next, spot =>
    if (spot.group? number).isSome then run present next spot else run missing next spot
  | .ahead negated body, next, spot =>
    match run body some spot with
    | some inner => if negated then none else next { spot with groups := inner.groups }
    | none => if negated then next spot else none
  | .behind negated width _ body, next, spot =>
    match (spot.back? width).bind (fun start => run body some start) with
    | some inner => if negated then none else next { spot with groups := inner.groups }
    | none => if negated then next spot else none
  | .atomic body, next, spot => (run body some spot).bind next

/-- The text that a pattern takes at the start of the rest of a text. -/
def takenAt? (pattern : Pattern) (before after : Text) : Option Text :=
  (pattern.run some ⟨before, after, []⟩).map fun spot =>
    (spot.before.take (spot.offset - before.length)).reverse

/-- The first match from a place on. -/
def searchFrom? (pattern : Pattern) (before : Text) : Text → Option Text
  | [] => pattern.takenAt? before []
  | char :: rest =>
    match pattern.takenAt? before (char :: rest) with
    | some taken => some taken
    | none => searchFrom? pattern (char :: before) rest

/-- The first match in a text: the leftmost one, and the one whose choices come first there. -/
def search? (pattern : Pattern) (text : Text) : Option Text := pattern.searchFrom? [] text

/-- Whether a pattern matches somewhere in a text. -/
def found (pattern : Pattern) (text : Text) : Bool := (pattern.search? text).isSome

end Docweave.Pattern
