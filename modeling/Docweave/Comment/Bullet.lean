import Docweave.Text.Basic

/-!
# Bullets

A row of a comment may start an item of a list. Its bullet is what stands before the text of the item,
blanks included, so two rows belong to one list exactly when their bullets are the same text. A row
that defines a name in backquotes followed by a colon has a bullet too: its indentation and a mark that
stands for the name.
-/

namespace Docweave.Comment

open Text

/-- The mark that stands for the name in the bullet of a definition. -/
def definitionMark : Text := "``:"

/-- Whether a text holds a backquote and a colon on its first row. -/
def closesName : Text → Bool
  | [] => false
  | char :: rest => char != '\n' && (startsWith "`:" (char :: rest) || closesName rest)

/-- Whether a row defines a name of at least one character. -/
def isDefinition (row : Text) : Bool :=
  match row.dropWhile isBlank with
  | '`' :: char :: rest => char != '\n' && closesName rest
  | _ => false

/-- The signs of a list item. -/
def signs : List Text := ["*", "-", "+", ">", "->", "=>", "#"]

/-- The bullet of a list item: blanks, a sign and at least one blank. -/
def signBullet? (row : Text) : Option Text :=
  let indent := row.takeWhile isBlank
  signs.findSome? fun sign =>
    match after? sign (row.drop indent.length) with
    | some (char :: rest) =>
      if isBlank char then some (indent ++ sign ++ (char :: rest).takeWhile isBlank) else none
    | _ => none

/-- The bullet of a row. -/
def bullet? (row : Text) : Option Text :=
  if isDefinition row then some (row.takeWhile isBlank ++ definitionMark) else signBullet? row

end Docweave.Comment
