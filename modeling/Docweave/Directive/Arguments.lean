import Docweave.Block.Extent

/-!
# Arguments of calls

The arguments of a call are the stretches between its commas. Only parentheses and string literals hide
a comma; that is enough to take arguments out of calls such as `register("name", make(Base, "x"))`.
-/

namespace Docweave.Call

open Text

/-- The stretches of an argument list between the commas outside of parentheses and string literals.
`depth` counts open parentheses, `quote` is the quote of the string literal being read and `piece` holds
the open stretch in reverse. Parentheses that do not match give nothing. -/
def segmentsFrom? : (depth : Nat) → (quote : Option Char) → (piece : Text) → Text → Option (List Text)
  | depth, _, piece, [] => if depth = 0 then some [piece.reverse] else none
  | depth, some quote, piece, '\\' :: char :: rest =>
    segmentsFrom? depth (some quote) (char :: '\\' :: piece) rest
  | depth, some quote, piece, char :: rest =>
    segmentsFrom? depth (if char = quote then none else some quote) (char :: piece) rest
  | depth, none, piece, char :: rest =>
    if Extent.isQuote char then segmentsFrom? depth (some char) (char :: piece) rest
    else if char = '(' then segmentsFrom? (depth + 1) none (char :: piece) rest
    else if char = ')' then
      match depth with
      | 0 => none
      | depth + 1 => segmentsFrom? depth none (char :: piece) rest
    else if char = ',' ∧ depth = 0 then
      (segmentsFrom? 0 none [] rest).map (piece.reverse :: ·)
    else segmentsFrom? depth none (char :: piece) rest

/-- The stretches of an argument list. -/
def segments? (text : Text) : Option (List Text) := segmentsFrom? 0 none [] text

/-- The arguments of an argument list. A blank list has none. -/
def arguments? (text : Text) : Option (List Text) :=
  if allBlank text then some [] else (segments? text).map (List.map trim)

/-- The arguments of a call, of which some are calls again. -/
inductive ArgTree where
  | leaf (text : Text)
  | node (args : List ArgTree)
  deriving Repr, Inhabited

/-- What stands between the first opening and the last closing parenthesis of a text, where `none` says
that it has neither. -/
def inner? (call : Text) : Option (Option Text) :=
  match findChar? '(' call, findLast? [')'] call with
  | none, none => some none
  | some opening, some closing =>
    if closing < opening then none else some (some ((call.take closing).drop (opening + 1)))
  | _, _ => none

/-- The arguments of a call, down to a depth. -/
def treeFrom? : (fuel : Nat) → Text → Option ArgTree
  | 0, _ => none
  | fuel + 1, call =>
    match inner? call with
    | none => none
    | some none => some (.leaf call)
    | some (some list) =>
      match arguments? list with
      | none => none
      | some args => (args.mapM fun arg => treeFrom? fuel arg).map .node

/-- The arguments of a call with those of the calls inside it. A text without parentheses stands for
itself, and parentheses that do not match give nothing. An argument is shorter than its call, so the
length bounds the depth. -/
def tree? (call : Text) : Option ArgTree := treeFrom? (call.length + 1) call

namespace ArgTree

/-- The tree at the end of a path of argument positions. -/
def at? : ArgTree → List Nat → Option ArgTree
  | tree, [] => some tree
  | .leaf _, _ :: _ => none
  | .node args, index :: path =>
    match args[index]? with
    | some arg => at? arg path
    | none => none

end ArgTree

/-- The argument at the end of a path of positions. -/
def argument? (call : Text) (path : List Nat) : Option ArgTree := (tree? call).bind fun tree => tree.at? path

/-- A position before the first argument. -/
structure BeforeFirst where
  index : Int
  deriving DecidableEq, Repr

/-- The tree at the end of a path of positions, where negative ones count from the end. -/
def signedAt : Option ArgTree → List Int → Except BeforeFirst (Option ArgTree)
  | tree, [] => .ok tree
  | some (.node args), index :: path =>
    if index ≥ args.length then .ok none
    else
      match Text.atSigned? index args with
      | some arg => signedAt (some arg) path
      | none => .error ⟨index⟩
  | _, _ :: _ => .ok none

end Docweave.Call
