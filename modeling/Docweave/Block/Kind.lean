import Docweave.Text.Basic

/-!
# Kinds of blocks

A source text is cut into blocks, and each block is one of nine kinds. Every row
that is of no other kind is of the unknown one.
-/

namespace Docweave

/-- The kind of a block of source text. -/
inductive BlockKind where
  | lineComment
  | blockComment
  | moduleImport
  | functionDecl
  | variableDecl
  | classDecl
  | methodDecl
  | assignment
  | unknown
  deriving DecidableEq, Repr, Inhabited

namespace BlockKind

/-- Every kind, in the order in which they are listed to the user. -/
def all : List BlockKind :=
  [.lineComment, .blockComment, .moduleImport, .functionDecl, .variableDecl, .classDecl, .methodDecl,
    .assignment, .unknown]

/-- The name under which a kind is shown. -/
def name : BlockKind → Text
  | .lineComment => "commentLine"
  | .blockComment => "commentBlock"
  | .moduleImport => "requireModule"
  | .functionDecl => "funDeclaration"
  | .variableDecl => "varDeclaration"
  | .classDecl => "classDeclaration"
  | .methodDecl => "methodDeclaration"
  | .assignment => "assignment"
  | .unknown => "unknown"

/-- The kind shown under a name. -/
def ofName? (name : Text) : Option BlockKind := all.find? (fun kind => kind.name == name)

/-- Whether a kind is one of the two comment kinds. -/
def isComment : BlockKind → Bool
  | .lineComment | .blockComment => true
  | _ => false

/-- Everything that is no comment is code. -/
def isCode (kind : BlockKind) : Bool := !kind.isComment

theorem ofName?_name (kind : BlockKind) : ofName? kind.name = some kind := by cases kind <;> rfl

end BlockKind

end Docweave
