import Docweave.Block.Kind
import Docweave.Block.Header

/-!
# Classification

The first block of a text is found by trying the headers in a fixed order: declarations that start
with a reserved word come before the assignment, whose header would accept them too. What the header
settles is the kind; how far the block reaches is a matter of its extent.
-/

namespace Docweave

open Text

/-- The first block of a text: its kind and the number of characters it takes. -/
structure Classified where
  kind : BlockKind
  length : Nat
  deriving DecidableEq, Repr

/-- First rows longer than this are taken for minified code and not looked into. -/
def minifiedRowLength : Nat := 1000

namespace Comment

/-- A row that belongs to a run of line comments. -/
def isLineRow (row : Text) : Bool := startsWith "//" (row.dropWhile isBlank)

/-- Length of the run of line comments at the start of a text. The newline that ends the last row is
not part of it. -/
def runLength (text : Text) : Nat :=
  (text.takeWhile isSeparator).length
    + (unrows ((rows (text.dropWhile isSeparator)).takeWhile isLineRow)).length

/-- Length up to the end of the first comment block, or of the whole text when it is never closed. -/
def blockLength (text : Text) : Nat :=
  let start := (find? "/*" text).getD 0 + 2
  match find? "*/" (text.drop start) with
  | some offset => start + offset + 2
  | none => text.length

end Comment

namespace Classified

/-- Length of a statement whose value follows the first equals sign of the text. -/
def assignedLength (text : Text) : Nat :=
  Extent.statement text ((findChar? '=' text).map (· + 1) |>.getD 0)

/-- The kind of block whose header starts a text, with its extent. -/
def recognise? (text : Text) : Option Classified :=
  let body := Header.skip text
  if startsWith "//" body then some ⟨.lineComment, Comment.runLength text⟩
  else if startsWith "/*" body then some ⟨.blockComment, Comment.blockLength text⟩
  else if (Header.require? text).isSome then some ⟨.moduleImport, Extent.line text⟩
  else if (Header.import? text).isSome then some ⟨.moduleImport, Extent.line text⟩
  else if (Header.function? text).isSome then some ⟨.functionDecl, Extent.braced text⟩
  else if (Header.variableStart? text).isSome then some ⟨.variableDecl, assignedLength text⟩
  else if (Header.class? text).isSome then some ⟨.classDecl, Extent.braced text⟩
  else if (Header.assignment? text).isSome then some ⟨.assignment, assignedLength text⟩
  else if (Header.method? text).isSome then some ⟨.methodDecl, Extent.braced text⟩
  else none

/-- One row of unknown text, or the newline when the first row is empty. -/
def unknownRow (text : Text) : Classified := ⟨.unknown, max 1 (Extent.line text)⟩

end Classified

/-- Classify the first block of a text. A text that is not empty always gives up at least one
character. -/
def classify (text : Text) : Classified :=
  if text.isEmpty then ⟨.unknown, 0⟩
  else if Extent.line text > minifiedRowLength then Classified.unknownRow text
  else
    match Classified.recognise? text with
    | some found => if found.length = 0 then Classified.unknownRow text else found
    | none => Classified.unknownRow text

end Docweave
