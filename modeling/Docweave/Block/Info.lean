import Docweave.Block.Kind
import Docweave.Block.Header
import Docweave.Text.Indent
import Docweave.Text.Space

/-!
# What a block says

Each kind of block says something of its own: a comment has rows and directives, a declaration a name,
a callable block arguments and a body. All of it is read off the raw text and the row on which the
block starts. Reading never fails: text that does not fit its kind gives names and values that are
empty or cut where the expected mark would have been.
-/

namespace Docweave

open Text

/-- A `@verb argument …` row of a comment. -/
structure Directive where
  verb : Text
  args : List Text
  row : Int
  deriving DecidableEq, Repr, Inhabited

/-- The rows of a comment without its markers, and the directives taken out of them. -/
structure CommentInfo where
  rows : List Text
  directives : List Directive
  deriving DecidableEq, Repr, Inhabited

/-- Names bound to a module. A binding pairs the local name with the field it reads, if any. The first
binding gives the block its name. -/
structure ImportInfo where
  keyword : Text
  name : Text
  path : Text
  field : Option Text
  internal : Bool
  bindings : List (Text × Option Text)
  deriving DecidableEq, Repr, Inhabited

/-- The text of a body, without its shared indentation, and the row of the brace that opens it. -/
structure Body where
  text : Text
  row : Int
  deriving DecidableEq, Repr, Inhabited

/-- A named function. -/
structure FunctionInfo where
  keyword : Text
  name : Text
  args : List Text
  body : Body
  deriving DecidableEq, Repr, Inhabited

/-- A variable and its initial value. -/
structure VariableInfo where
  keyword : Text
  name : Text
  value : Text
  deriving DecidableEq, Repr, Inhabited

/-- A class; its members are found in the body. -/
structure ClassInfo where
  name : Text
  superclass : Option Text
  body : Body
  deriving DecidableEq, Repr, Inhabited

/-- A member of a class. -/
structure MethodInfo where
  name : Text
  args : List Text
  modifiers : List Text
  body : Body
  deriving DecidableEq, Repr, Inhabited

/-- The arguments and the body of a function that is assigned. -/
structure FunctionValue where
  args : List Text
  body : Body
  deriving DecidableEq, Repr, Inhabited

/-- A value assigned to a target. -/
structure AssignmentInfo where
  target : Text
  value : Text
  function : Option FunctionValue
  deriving DecidableEq, Repr, Inhabited

/-- What a block says, by its kind. -/
inductive BlockInfo where
  | comment (info : CommentInfo)
  | imports (info : ImportInfo)
  | function (info : FunctionInfo)
  | variable (info : VariableInfo)
  | classBody (info : ClassInfo)
  | method (info : MethodInfo)
  | assignment (info : AssignmentInfo)
  | nothing
  deriving DecidableEq, Repr, Inhabited

namespace CommentInfo

/-- Take the slashes off a row of line comments. -/
def unmarkLine (row : Text) : Text := (after? "//" (row.dropWhile isBlank)).getD row

/-- Take the end mark off a row, with what stands before it when that is blank. -/
def dropEndMark (row : Text) : Text :=
  let kept := dropTrailing isBlank row
  if endsWith "*/" kept then
    let inner := kept.take (kept.length - 2)
    if allBlank inner then [] else inner
  else row

/-- Take the start mark or the leading star off a row, with the blanks before it. -/
def dropStartMark (row : Text) : Text :=
  match row.dropWhile isBlank with
  | '/' :: '*' :: rest => rest.dropWhile (· = '*')
  | '*' :: rest => rest
  | rest => rest

/-- Take the marks of a comment block off one of its rows. -/
def unmarkBlock (row : Text) : Text := dropStartMark (dropEndMark row)

/-- Whether a row holds a directive. -/
def isDirectiveRow (row : Text) : Bool :=
  match row.dropWhile isBlank with
  | '@' :: char :: _ => char.isAlphanum || char == '_'
  | _ => false

/-- Read the directive on a row. -/
def readDirective (row : Text) (number : Int) : Directive :=
  match splitChar ' ' (clean row) with
  | [] => ⟨[], [], number⟩
  | verb :: args => ⟨verb.drop 1, args, number⟩

/-- Sort unmarked rows into text and directives, from the row numbered `number` on. -/
def ofRows : (number : Int) → List Text → CommentInfo
  | _, [] => ⟨[], []⟩
  | number, row :: rest =>
    let kept := dropTrailing isBlank row
    let others := ofRows (number + 1) rest
    if isDirectiveRow kept then
      { others with directives := readDirective kept number :: others.directives }
    else
      { others with rows := kept :: others.rows }

/-- Read a comment. -/
def read (kind : BlockKind) (raw : Text) (row : Int) : CommentInfo :=
  let unmark := if kind = .lineComment then unmarkLine else unmarkBlock
  ofRows row ((Text.rows raw).map unmark)

end CommentInfo

namespace ImportInfo

/-- Whether a module path names a file of the project: it starts with `/`, `./` or `../`. -/
def isInternalPath (path : Text) : Bool :=
  startsWith "/" path || startsWith "./" path || startsWith "../" path

/-- The first quoted text that is not empty. -/
def firstQuoted : Text → Text
  | [] => []
  | char :: rest =>
    let inner := rest.takeWhile (fun char => !Header.isPathQuote char)
    if Header.isPathQuote char && !inner.isEmpty && inner.length < rest.length then inner
    else firstQuoted rest

/-- The bindings between the braces of an import. -/
def bracedBindings (names : Text) : List (Text × Option Text) :=
  let inside := stripOf (fun char => char == '{' || char == '}' || char == ' ') names
  (splitChar ',' inside).filterMap fun part =>
    let words := splitText " as " part
    let imported := trim (words.headD [])
    if imported.isEmpty then none else some (trim (words.getLastD []), some imported)

/-- The bindings written between `import` and `from`. -/
def bindingsOf (names : Text) : List (Text × Option Text) :=
  if startsWith ['{'] names then bracedBindings names
  else if startsWith ['*'] names then [(trim ((splitText " as " names).getLastD []), none)]
  else [(names, some "default")]

/-- The field that is read off a required module: the dotted name after the last `).`, when it ends
the statement. -/
def requiredField? : Text → Option Text
  | [] => none
  | char :: rest =>
    let found :=
      match char, rest with
      | ')', '.' :: tail =>
        let name := tail.takeWhile Header.isDottedChar
        let ending := tail.dropWhile Header.isDottedChar
        if !name.isEmpty && (ending == [] || ending == [';']) then some name else none
      | _, _ => none
    match found with
    | some name => some name
    | none => requiredField? rest

/-- Read an import or a required module. -/
def read (raw : Text) : ImportInfo :=
  let line := clean (replaceChar '\n' ' ' raw)
  let path := firstQuoted line
  let internal := isInternalPath path
  match after? "import" line with
  | some rest =>
    let names := trim <|
      match findLast? " from " line with
      | some offset => (line.take offset).drop 6
      | none => rest.dropLast
    let bindings := bindingsOf names
    let (name, field) := bindings.headD ([], none)
    ⟨"import", name, path, field, internal, bindings⟩
  | none =>
    let (left, right) := cutAt '=' line
    let words := splitChar ' ' (trim left)
    let keyword := words.headD []
    let name := (words[1]?).getD keyword
    let field := requiredField? right
    ⟨keyword, name, path, field, internal, [(name, field)]⟩

end ImportInfo

namespace Body

/-- A text without the newline that ends it, and that newline, if there is one. -/
def cutFinalNewline (text : Text) : Text × Text :=
  match text.getLast? with
  | some '\n' => (text.dropLast, ['\n'])
  | _ => (text, [])

/-- Take the closing brace off the end of a body, with the semicolons after it and the blanks around
it. A newline that ends the text stays where it is. -/
def dropClosing (text : Text) : Text :=
  let (inner, newline) := cutFinalNewline text
  let before := dropTrailing isBlank (dropTrailing (· = ';') (dropTrailing isBlank inner))
  match before.getLast? with
  | some '}' => dropTrailing isBlank before.dropLast ++ newline
  | _ => text

/-- The text before the brace at an offset. Without a brace it is all but the last character. -/
def headerPart (raw : Text) : (brace : Option Nat) → Text
  | some offset => raw.take offset
  | none => raw.dropLast

/-- The text after the brace at an offset. Without a brace it is the whole text. -/
def bodyPart (raw : Text) : (brace : Option Nat) → Text
  | some offset => raw.drop (offset + 1)
  | none => raw

/-- The body that opens with the brace at an offset of a block that starts on `row`. -/
def read (raw : Text) (brace : Option Nat) (row : Int) : Body :=
  ⟨deindent (dropClosing (bodyPart raw brace)), row + (headerPart raw brace).count '\n'⟩

/-- The header before a body, on one row. -/
def header (raw : Text) (brace : Option Nat) : Text :=
  clean (replaceChar '\n' ' ' (headerPart raw brace))

end Body

/-- The arguments of a parameter list. -/
def splitParameters (parameters : Text) : List Text :=
  let parameters := trim parameters
  if parameters.isEmpty then [] else (splitChar ',' parameters).map trim

/-- Cut a header at its parameter list, which reaches from the first opening to the last closing
parenthesis. -/
def cutParameters? (header : Text) : Option (Text × Text × Text) := do
  let opening ← findChar? '(' header
  let closing ← findLast? [')'] (header.drop (opening + 1))
  let inner := header.drop (opening + 1)
  some (header.take opening, inner.take closing, inner.drop (closing + 1))

/-- The arguments of a header. -/
def headerArgs (header : Text) : List Text :=
  match cutParameters? header with
  | some (_, parameters, _) => splitParameters parameters
  | none => []

/-- A header with a space in place of its parameter list. -/
def headerNames (header : Text) : Text :=
  match cutParameters? header with
  | some (before, _, after) => before ++ ' ' :: after
  | none => header

/-- Words of a function header that are not its name. -/
def functionWords : List Text := ["const", "var", "let", "async", "function"]

/-- Read a function. -/
def FunctionInfo.read (raw : Text) (row : Int) : FunctionInfo :=
  let brace := findChar? '{' raw
  let header := Body.header raw brace
  let words := splitChar ' ' (clean (replaceChar '=' ' ' (headerNames header)))
  let first := words.headD []
  let keyword := if Header.declarators.contains first then first else "function"
  let name := (words.filter (fun word => !functionWords.contains word)).headD []
  ⟨keyword, name, headerArgs header, Body.read raw brace row⟩

/-- Read a variable. -/
def VariableInfo.read (raw : Text) : VariableInfo :=
  let (left, right) := cutAt '=' raw
  let words := splitChar ' ' (clean (replaceChar '\n' ' ' left))
  let value := clean (replaceChar '\n' ' ' right)
  ⟨words.headD [], (words[1]?).getD [], stripRight (dropTrailing (· = ';') value)⟩

/-- Read a class. -/
def ClassInfo.read (raw : Text) (row : Int) : ClassInfo :=
  let brace := findChar? '{' raw
  let parts := splitText " extends " (Body.header raw brace)
  let words := splitChar ' ' (parts.headD [])
  let superclass :=
    match parts with
    | [_, base] => some (trim base)
    | _ => none
  ⟨(words[1]?).getD [], superclass, Body.read raw brace row⟩

/-- Read a method. -/
def MethodInfo.read (raw : Text) (row : Int) : MethodInfo :=
  let brace := findChar? '{' raw
  let header := Body.header raw brace
  let words := splitChar ' ' (clean (headerNames header))
  ⟨words.getLastD [], headerArgs header, words.dropLast.filter Header.modifiers.contains,
    Body.read raw brace row⟩

namespace FunctionValue

/-- Read the brace that opens a body, after white space. -/
def openBody? (text : Text) : Option Text := after? ['{'] (stripLeft text)

/-- Read parentheses that hold no further ones. -/
def parentheses? (text : Text) : Option (Text × Text) := do
  let text ← after? ['('] text
  let inner := text.takeWhile (fun char => char ≠ '(' && char ≠ ')')
  let rest ← after? [')'] (text.drop inner.length)
  some (inner, rest)

/-- `function name(…) {`, where the name may be missing. -/
def named? (text : Text) : Option (Text × Text) := do
  let text ← after? "function" text
  let text := stripLeft ((stripLeft text).dropWhile Header.isNameChar)
  let (inner, rest) ← parentheses? text
  some (inner, ← openBody? rest)

/-- `(…) => {`. -/
def arrow? (text : Text) : Option (Text × Text) := do
  let (inner, rest) ← parentheses? text
  let rest ← after? "=>" (stripLeft rest)
  some (inner, ← openBody? rest)

/-- `name => {`. -/
def bareArrow? (text : Text) : Option (Text × Text) := do
  let rest ← Header.some? Header.isNameChar text
  let rest' ← after? "=>" (stripLeft rest)
  some (text.take (text.length - rest.length), ← openBody? rest')

/-- A function expression at the start of a text: its parameter list and what follows the brace that
opens its body. -/
def synchronous? (text : Text) : Option (Text × Text) := named? text <|> arrow? text <|> bareArrow? text

/-- A function expression, also one that starts with `async`. -/
def header? (text : Text) : Option (Text × Text) :=
  let marked := do
    let rest ← Header.some? isSpace (← after? "async" text)
    synchronous? rest
  marked <|> synchronous? text

end FunctionValue

/-- Read an assignment. Its value is what follows the first equals sign, without the semicolons at the
end. -/
def AssignmentInfo.read (raw : Text) (row : Int) : AssignmentInfo :=
  let equals := findChar? '=' raw
  let assigned := Body.bodyPart raw equals
  let value := stripRight (dropTrailing (· = ';') (strip assigned))
  let function :=
    match FunctionValue.header? value with
    | none => none
    | some (parameters, rest) =>
      let before := raw.length - (stripLeft assigned).length
      let brace := before + (value.length - rest.length) - 1
      some ⟨splitParameters parameters, Body.read raw (some brace) row⟩
  ⟨strip (Body.headerPart raw equals), value, function⟩

/-- Read what a block of a kind says. -/
def BlockInfo.read (kind : BlockKind) (raw : Text) (row : Int) : BlockInfo :=
  match kind with
  | .lineComment | .blockComment => .comment (CommentInfo.read kind raw row)
  | .moduleImport => .imports (ImportInfo.read raw)
  | .functionDecl => .function (FunctionInfo.read raw row)
  | .variableDecl => .variable (VariableInfo.read raw)
  | .classDecl => .classBody (ClassInfo.read raw row)
  | .methodDecl => .method (MethodInfo.read raw row)
  | .assignment => .assignment (AssignmentInfo.read raw row)
  | .unknown => .nothing

end Docweave
