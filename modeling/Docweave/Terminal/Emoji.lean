import Docweave.Terminal.EmojiNames
import Docweave.Text.Case
import Docweave.Text.Space

/-!
# Emoji in messages

A name between colons, such as `:bug:`, stands for an emoji. The name may end with `-emoji` or `-text`, which
asks for the coloured or the plain form. Names between colons that are not known stay as they are, and what
follows them is read on from behind the second colon.
-/

namespace Docweave.Terminal.Emoji

/-- Every second item of a list with the item before it. -/
def pairs {α : Type} : List α → List (α × α)
  | first :: second :: rest => (first, second) :: pairs rest
  | _ => []

/-- The names of emoji, each with its emoji. -/
def names : List (Text × Text) := emojiRows.flatMap fun (row : String) => pairs (Text.words row)

/-- The emoji of a name. The case of letters does not matter. -/
def find? (name : Text) : Option Text := names.lookup (Text.lower name)

/-- The ends of a name that ask for a form of the emoji, and the character that asks for it. -/
def forms : List (Text × Text) := [("-emoji:", ['\uFE0F']), ("-text:", ['\uFE0E']), (":", [])]

/-- Read a name up to its second colon: the name, its end, and the character for the form. A name holds no white
space. -/
def name? : Text → Option (Text × Text × Text)
  | [] => none
  | char :: rest =>
    match forms.find? fun (ending, _) => Text.startsWith ending (char :: rest) with
    | some (ending, form) => some ([], ending, form)
    | none => if Text.isSpace char then none else (name? rest).map fun (name, found) => (char :: name, found)

/-- Put emoji for their names. `skip` counts the characters of the last name that are still to be passed over. -/
def replaceFrom : (skip : Nat) → Text → Text
  | _, [] => []
  | skip + 1, _ :: rest => replaceFrom skip rest
  | 0, char :: rest =>
    match if char = ':' then name? rest else none with
    | none => char :: replaceFrom 0 rest
    | some (name, ending, form) =>
      let shown := match find? name with
        | some emoji => emoji ++ form
        | none => char :: name ++ ending
      shown ++ replaceFrom (name.length + ending.length) rest

/-- A text with emoji in place of their names. -/
def replace (text : Text) : Text := replaceFrom 0 text

end Docweave.Terminal.Emoji
