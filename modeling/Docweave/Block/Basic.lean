import Docweave.Block.Info
import Docweave.Text.Quote

/-!
# Blocks

A block is one classified stretch of source text with its place in the file. What it says is read off
its raw text, so the two can never disagree.
-/

namespace Docweave

open Text

/-- A classified stretch of source text. `lineEnd` holds the blanks and the newline that end its last
row, `gapAfter` the blank rows that follow. -/
structure Block where
  kind : BlockKind
  raw : Text
  row : Int
  blankBefore : Nat := 0
  blankAfter : Nat := 0
  lineEnd : Text := []
  gapAfter : Text := []
  deriving DecidableEq, Repr, Inhabited

namespace Block

/-- What the block says. -/
def info (block : Block) : BlockInfo := BlockInfo.read block.kind block.raw block.row

/-- Number of rows that the raw text spans. -/
def rowCount (block : Block) : Nat := block.raw.count '\n' + 1

/-- Whether the last row of the block ends with the block. -/
def endsRow (block : Block) : Bool := endsWith ['\n'] block.lineEnd

/-- Whether the block is a comment. -/
def isComment (block : Block) : Bool := block.kind.isComment

/-- Whether the block is a comment with a blank row after it. -/
def isIsolatedComment (block : Block) : Bool := block.isComment && block.blankAfter > 0

/-- The declared name of an import, function, variable or class. -/
def identifier? (block : Block) : Option Text :=
  match block.info with
  | .imports info => some info.name
  | .function info => some info.name
  | .variable info => some info.name
  | .classBody info => some info.name
  | _ => none

/-- The word that declares the name. -/
def keyword? (block : Block) : Option Text :=
  match block.info with
  | .imports info => some info.keyword
  | .function info => some info.keyword
  | .variable info => some info.keyword
  | .classBody _ => some "class"
  | _ => none

/-- The name of a method. -/
def member? (block : Block) : Option Text :=
  match block.info with
  | .method info => some info.name
  | _ => none

/-- The declared name, or else the name of the method. -/
def declaredName? (block : Block) : Option Text :=
  match block.identifier? with
  | some (char :: rest) => some (char :: rest)
  | _ => block.member?

/-- The arguments of a function, a method or an assigned function. -/
def args (block : Block) : List Text :=
  match block.info with
  | .function info => info.args
  | .method info => info.args
  | .assignment info =>
    match info.function with
    | some value => value.args
    | none => []
  | _ => []

/-- The body of a function, class, method or assigned function. -/
def body? (block : Block) : Option Body :=
  match block.info with
  | .function info => some info.body
  | .classBody info => some info.body
  | .method info => some info.body
  | .assignment info => info.function.map FunctionValue.body
  | _ => none

/-- The row of the brace that opens the body. An assignment without a function has row zero, and a
block of a kind without bodies its own row. -/
def bodyRow (block : Block) : Int :=
  match block.info with
  | .assignment info =>
    match info.function with
    | some value => value.body.row
    | none => 0
  | _ =>
    match block.body? with
    | some body => body.row
    | none => block.row

/-- The class that a class extends. -/
def superclass? (block : Block) : Option Text :=
  match block.info with
  | .classBody info => info.superclass
  | _ => none

/-- The directives of a comment. -/
def directives (block : Block) : List Directive :=
  match block.info with
  | .comment info => info.directives
  | _ => []

/-- The directives of a comment with a given verb. -/
def directivesOf (verb : Text) (block : Block) : List Directive :=
  block.directives.filter (fun directive => directive.verb == verb)

/-- Whether a comment carries a directive. -/
def hasDirectives (block : Block) : Bool := !block.directives.isEmpty

/-- The rows of a comment, without markers and directives. -/
def rows (block : Block) : List Text :=
  match block.info with
  | .comment info => info.rows
  | _ => []

/-- The rows of a comment without the empty ones at both ends. -/
def trimmedRows (block : Block) : List Text := trimRows block.rows

/-- The text of a comment on one row. -/
def compactText (block : Block) : Text := join " " (block.trimmedRows.map strip)

/-- Whether a block is a static method. -/
def isStatic (block : Block) : Bool :=
  match block.info with
  | .method info => info.modifiers.contains "static".toList
  | _ => false

/-- A short description of a block for messages. -/
def describe (block : Block) : Text :=
  let shown := (block.raw.map fun char =>
    if char = '\n' then ['\\', 'n'] else if char = '\t' then ['\\', 't'] else [char]).flatten
  let shown := if shown.length > 60 then shown.take 60 ++ " ..." else shown
  "Block(" ++ block.kind.name ++ ", row=" ++ ofInt block.row ++ ", " ++ quoted shown ++ ")"

end Block

end Docweave
