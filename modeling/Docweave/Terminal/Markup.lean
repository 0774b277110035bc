import Docweave.Terminal.Emoji
import Docweave.Terminal.Fit
import Docweave.Terminal.Literal
import Docweave.Terminal.Style
import Docweave.Text.Utf8

/-!
# Markup

Messages may hold tags in brackets, such as `[red]` and `[/red]`, which style the text between them and are
not shown. A bracket starts a tag when a lower-case letter or one of `#`, `/` and `@` follows it and it is
closed before another bracket opens. Backslashes before a tag stand for half as many, and one that is left
over makes the tag ordinary text. Without colours only the plain text of a message remains, with emoji in
place of their names.
-/

namespace Docweave.Terminal

/-- Why a message cannot be shown: it closes a tag which is not open, the parameters of a tag cannot be read, or a
colour lacks one of its numbers. -/
inductive MarkupError where
  | notOpen (name : Text)
  | nothingOpen
  | badParameters (parameters : Text)
  | missingNumber
  deriving DecidableEq, Repr

namespace Markup

/-- Whether a character may follow the bracket of a tag. -/
def startsTag (char : Char) : Bool := ('a' ≤ char && char ≤ 'z') || char == '#' || char == '/' || char == '@'

/-- What stands between the brackets of a tag, and the text behind it. -/
def tag? : Text → Option (Text × Text)
  | '[' :: char :: rest =>
    let inner := rest.takeWhile fun char => char != '[' && char != ']'
    match rest.drop inner.length with
    | ']' :: behind => if startsTag char then some (char :: inner, behind) else none
    | _ => none
  | _ => none

/-- A piece of a message: text without tags, or a tag and the number of backslashes before it. -/
inductive Piece where
  | plain (text : Text)
  | tag (slashes : Nat) (name : Text)
  deriving DecidableEq, Repr

/-- The tag that starts at a run of backslashes. -/
def taggedRun? (text : Text) : Option (Nat × Text × Text) :=
  let slashes := (text.takeWhile (· == '\\')).length
  (tag? (text.drop slashes)).map fun (name, behind) => (slashes, name, behind)

/-- A text in reverse as a piece, unless it is empty. -/
def plainPieces (reversed : Text) : List Piece := if reversed.isEmpty then [] else [.plain reversed.reverse]

/-- Split a message into texts and tags with the backslashes before them. `skip` counts the characters of the last
tag that are still to be passed over, and `reversed` holds the text since then from its end to its start. -/
def piecesFrom : (skip : Nat) → (reversed : Text) → Text → List Piece
  | _, reversed, [] => plainPieces reversed
  | skip + 1, reversed, _ :: rest => piecesFrom skip reversed rest
  | 0, reversed, char :: rest =>
    match taggedRun? (char :: rest) with
    | some (slashes, name, _) =>
      plainPieces reversed ++ .tag slashes name :: piecesFrom (slashes + name.length + 1) [] rest
    | none => piecesFrom 0 (char :: reversed) rest

/-- The pieces of a message. -/
def pieces (message : Text) : List Piece := piecesFrom 0 [] message

/-- A piece as it is written. -/
def Piece.written : Piece → Text
  | .plain text => text
  | .tag slashes name => List.replicate slashes '\\' ++ '[' :: name ++ [']']

/-- A piece as it is written to be shown. -/
def Piece.escaped : Piece → Text
  | .plain text => text
  | .tag slashes name => (Piece.tag (2 * slashes + 1) name).written

/-- Write a text so that its tags are shown. A single backslash at the end is doubled, since a tag may
follow it. -/
def escape (text : Text) : Text :=
  let escaped := (pieces text).flatMap Piece.escaped
  if Text.endsWith ['\\'] escaped && !Text.endsWith ['\\', '\\'] escaped then escaped ++ ['\\'] else escaped

/-- An open tag. What follows an equals sign is a parameter. -/
structure OpenTag where
  name : Text
  parameters : Option Text
  deriving DecidableEq, Repr

/-- The normal form of the name of a tag. -/
def normalName (name : Text) : Except MarkupError Text :=
  match Style.normalName name with
  | .ok name => .ok name
  | .error _ => .error .missingNumber

/-- Check a tag whose text is shown. The parameters of an action have to be literals, and the style of another tag
must not lack a number. -/
def OpenTag.check (tag : OpenTag) : Except MarkupError Unit :=
  if tag.name.head? = some '@' then
    match tag.parameters with
    | some parameters =>
      let written := Literal.parametersOf (Text.strip parameters)
      if parameters.isEmpty || Literal.isLiteral (Text.unifyBreaks written) then .ok ()
      else .error (.badParameters parameters)
    | none => .ok ()
  else
    match Style.read (tag.name ++ (tag.parameters.map (' ' :: ·)).getD []) with
    | .error .missingNumber => .error .missingNumber
    | _ => .ok ()

/-- What a stack of open tags becomes when a tag is met. A tag that starts with a slash closes the last one
of its name, or the last of all when it has no name. -/
def followTag (stack : List OpenTag) (tag : Text) : Except MarkupError (List OpenTag) := do
  let name := tag.takeWhile (· ≠ '=')
  match name with
  | '/' :: closed =>
    let closed := Text.strip closed
    if closed.isEmpty then
      match stack with
      | [] => throw .nothingOpen
      | last :: stack =>
        last.check
        return stack
    else
      let name ← normalName closed
      match stack.find? fun tag => tag.name = name with
      | none => throw (.notOpen name)
      | some tag =>
        tag.check
        return stack.eraseP fun tag => tag.name = name
  | _ =>
    let parameters := if name.length < tag.length then some (tag.drop (name.length + 1)) else none
    return ⟨← normalName name, parameters⟩ :: stack

/-- Whether a character moves the cursor, and is left out. -/
def isControl (char : Char) : Bool := char.toNat ∈ [7, 8, 11, 12, 13]

/-- Drop a backslash before a bracket. -/
def dropSlashes : Text → Text
  | [] => []
  | '\\' :: '[' :: rest => '[' :: dropSlashes rest
  | char :: rest => char :: dropSlashes rest

/-- A text without tags as it is shown: with emoji and without control characters. -/
def plain (text : Text) : Text := (Emoji.replace text).filter fun char => !isControl char

/-- The plain text of pieces, where `stack` holds the open tags, the last one first. -/
def plainFrom (stack : List OpenTag) : List Piece → Except MarkupError Text
  | [] => do
    for tag in stack do
      if tag.name.head? ≠ some '@' then tag.check
    return []
  | .plain text :: rest => do
    return plain (dropSlashes text) ++ (← plainFrom stack rest)
  | .tag slashes name :: rest => do
    let shown := List.replicate (slashes / 2) '\\'
    if slashes % 2 = 1 then
      return shown ++ plain (Piece.tag 0 name).written ++ (← plainFrom stack rest)
    else
      return shown ++ (← plainFrom (← followTag stack name) rest)

/-- The plain text of a message. -/
def read (message : Text) : Except MarkupError Text :=
  if message.contains '[' then plainFrom [] (pieces message) else .ok (plain message)

end Markup

/-- The number of columns of the terminal. -/
def screenWidth : Nat := 200

/-- The rows in which a text without tags is shown. -/
def rowsOf (text : Text) : List Text := Fit.rows .free .fold screenWidth text

end Docweave.Terminal
