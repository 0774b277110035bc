import Docweave.Block.Extent

/-!
# Headers

A header is the stretch of text by which a kind of block is recognised. Each recogniser reads a header
at the start of a text and returns what follows it. Words of a header may be separated by any run of
blanks and newlines.
-/

namespace Docweave.Header

open Text

/-- Characters of an identifier. Identifiers are recognised in ASCII only. -/
def isNameChar (char : Char) : Bool := char.isAlphanum || char == '_' || char == '$'

/-- Characters of a dotted name. -/
def isDottedChar (char : Char) : Bool := isNameChar char || char == '.'

/-- Read one or more characters of a class. -/
def some? (inClass : Char → Bool) : Text → Option Text
  | [] => none
  | char :: rest => if inClass char then some (rest.dropWhile inClass) else none

/-- Skip separators, if any. -/
def skip (text : Text) : Text := text.dropWhile isSeparator

/-- Read one of several words. -/
def word? (words : List Text) (text : Text) : Option Text := words.findSome? (fun word => after? word text)

/-- Read a word and the separators that must follow it. -/
def spaced? (words : List Text) (text : Text) : Option Text := do
  some? isSeparator (← word? words text)

/-- The words that declare a variable. -/
def declarators : List Text := ["var", "const", "let"]

/-- Read a declarator, a name and the equals sign after it. -/
def binding? (text : Text) : Option Text := do
  let text ← spaced? declarators (skip text)
  let text ← some? isNameChar text
  after? ['='] (skip text)

/-- The quotes around a module path. -/
def isPathQuote (char : Char) : Bool := char == '\'' || char == '"'

/-- What follows the last quote of the row that has `tail` right after it. -/
def afterLastQuote? (tail : Text) : Text → Option Text
  | [] => none
  | char :: rest =>
    if char = '\n' then none
    else
      match afterLastQuote? tail rest with
      | some found => some found
      | none => if isPathQuote char then after? tail rest else none

/-- Read a quoted module path of at least one character, followed by `tail`. -/
def modulePath? (tail : Text) : Text → Option Text
  | quote :: char :: rest =>
    if isPathQuote quote && char != '\n' then afterLastQuote? tail rest else none
  | _ => none

/-- `const name = require("path")`. -/
def require? (text : Text) : Option Text := do
  let text ← binding? text
  let text ← after? "require(" (skip text)
  modulePath? [')'] text

/-- The names bound by an import: all names under one, a single name, or names in braces. -/
def importedNames? (text : Text) : Option Text :=
  match text with
  | '*' :: rest => do
    let rest ← some? isSeparator rest
    let rest ← spaced? ["as"] rest
    some? isNameChar rest
  | '{' :: rest =>
    match rest.dropWhile (· ≠ '}') with
    | [] => none
    | _ :: rest => some rest
  | _ => some? isNameChar text

/-- `import names from "path"`. -/
def import? (text : Text) : Option Text := do
  let text ← spaced? ["import"] (skip text)
  let text ← importedNames? text
  let text ← some? isSeparator text
  let text ← spaced? ["from"] text
  modulePath? [] text

/-- Read a parameter list in parentheses, which holds no further parentheses, and the brace that opens
the body after it. -/
def parameters? (text : Text) : Option Text := do
  let text ← after? ['('] (skip text)
  let text ← after? [')'] (text.dropWhile (fun char => char ≠ '(' && char ≠ ')'))
  after? ['{'] (skip text)

/-- Read `async` with the separators after it, when it is there. -/
def skipAsync (text : Text) : Text := (spaced? ["async"] text).getD text

/-- `const name = function (…) {`, or `function name(…) {`, both also with `async`. -/
def function? (text : Text) : Option Text := do
  let text ←
    match binding? text with
    | some value => after? "function" (skipAsync (skip value))
    | none => do
      let text ← spaced? ["function"] (skipAsync (skip text))
      some? isNameChar text
  parameters? text

/-- `const name = …`, up to the end of the row. -/
def variableStart? (text : Text) : Option Text := do
  let text ← binding? text
  if startsWith ['='] text then none else some ((skip text).dropWhile (· ≠ '\n'))

/-- `class Name {` or `class Name extends Other {`. -/
def class? (text : Text) : Option Text := do
  let text ← spaced? ["class"] (skip text)
  let text ← some? isNameChar text
  let plain := after? ['{'] (skip text)
  let extending := do
    let text ← some? isSeparator text
    let text ← spaced? ["extends"] text
    let text ← some? isDottedChar text
    after? ['{'] (skip text)
  extending <|> plain

/-- What follows the last occurrence of a character in the row. -/
def afterLast? (target : Char) : Text → Option Text
  | [] => none
  | char :: rest =>
    if char = '\n' then none
    else
      match afterLast? target rest with
      | some found => some found
      | none => if char = target then some rest else none

/-- Whether a row ends in an opening bracket, blanks apart. -/
def leavesOpen (row : Text) : Bool :=
  match (dropTrailing isBlank row).getLast? with
  | some char => (Extent.closerOf? char).isSome
  | none => false

/-- `target = value` where the row of the value has a semicolon or leaves a bracket open. -/
def assignment? (text : Text) : Option Text := do
  let text ← some? isDottedChar (skip text)
  let text ← after? ['='] (skip text)
  if startsWith ['='] text || startsWith ['>'] text then none
  else
    let text := skip text
    match afterLast? ';' text with
    | some rest => some rest
    | none =>
      if leavesOpen (text.takeWhile (· ≠ '\n')) then some ((text.dropWhile (· ≠ '\n')).drop 1) else none

/-- Words that may stand before the name of a method. -/
def modifiers : List Text := ["static", "async", "get", "set"]

/-- Statements that look like a method with a parameter list but are none. -/
def statementWords : List Text :=
  ["if", "for", "while", "switch", "catch", "with", "function", "return"]

/-- Whether a text starts with one of the statement words, as a word of its own. -/
def startsStatement (text : Text) : Bool :=
  statementWords.any fun word =>
    match after? word text with
    | none => false
    | some [] => true
    | some (char :: _) => !(char.isAlphanum || char == '_')

/-- Skip at most `fuel` modifiers. The flag says whether any was there. -/
def skipModifiers : (fuel : Nat) → Bool → Text → Bool × Text
  | 0, found, text => (found, text)
  | fuel + 1, found, text =>
    match spaced? modifiers text with
    | some rest => skipModifiers fuel true rest
    | none => (found, text)

/-- `name(…) {`, with any number of modifiers before the name. A modifier right before the parameter
list is the name. -/
def method? (text : Text) : Option Text :=
  let text := skip text
  if startsStatement text then none
  else
    match skipModifiers text.length false text with
    | (found, rest) =>
      match some? isNameChar rest with
      | some afterName => parameters? afterName
      | none => if found then parameters? rest else none

end Docweave.Header
