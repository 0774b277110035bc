import Docweave.Text.Utf8
import Docweave.Yaml.Lexeme

/-!
# Tokens of a YAML text

Indentation is turned into marks that open and close blocks, so that the tokens alone say how the text
nests. Whether a scalar is a key shows only at the colon after it: until then its place among the tokens
is remembered, and the mark of a key is put there later. A key has to stand on one line, with its colon
not far away. A character that does not exist ends the tokens with the error, for what stands before it is read
first.
-/

namespace Docweave.Yaml

/-- A token. -/
inductive Token where
  | version (major : Nat)
  | tagHandle (handle space : Text)
  | directive
  | documentStart
  | documentEnd
  | blockSequence
  | blockMapping
  | blockEnd
  | flowSequence
  | flowSequenceEnd
  | flowMapping
  | flowMappingEnd
  | blockEntry
  | flowEntry
  | key
  | value
  | copy (name : Text)
  | anchor (name : Text)
  | tag (handle suffix : Text)
  | scalar (plain : Bool) (text : Text)
  | fault (error : ReadError)
  deriving DecidableEq, Repr, Inhabited

namespace Token

/-- A token that turns into a key when a colon follows it. It must do so when it stands at the column of
an open block. -/
structure PossibleKey where
  level : Nat
  position : Nat
  required : Bool
  index : Nat
  line : Nat
  column : Nat
  deriving DecidableEq, Repr

/-- Where the scan stands: the tokens so far, the number of open brackets, the columns of the open blocks
with the innermost first, whether a key may start here, and the tokens that may turn into keys. -/
structure Scan where
  cursor : Cursor
  tokens : List Token := []
  level : Nat := 0
  blocks : List Nat := []
  keyAllowed : Bool := true
  keys : List PossibleKey := []
  deriving Repr

namespace Scan

/-- The column of the innermost open block, or minus one. -/
def indent (scan : Scan) : Int :=
  match scan.blocks with
  | [] => -1
  | column :: _ => column

/-- Add a token at the end. -/
def push (token : Token) (scan : Scan) : Scan := { scan with tokens := scan.tokens ++ [token] }

/-- Move the cursor. -/
def moveTo (cursor : Cursor) (scan : Scan) : Scan := { scan with cursor }

/-- Add a token of some characters. -/
def pushMark (token : Token) (width : Nat) (scan : Scan) : Scan :=
  (scan.push token).moveTo (scan.cursor.advance width)

/-- The longest distance between a key and its colon. -/
def keyReach : Nat := 1024

/-- Whether a possible key is too far behind the cursor. -/
def isStale (cursor : Cursor) (key : PossibleKey) : Bool :=
  key.line ≠ cursor.line || cursor.index - key.index > keyReach

/-- Forget possible keys that are too far behind. A required one must not be among them. -/
def dropStale? (scan : Scan) : Option Scan :=
  if scan.keys.any fun key => key.required && isStale scan.cursor key then none
  else some { scan with keys := scan.keys.filter fun key => !isStale scan.cursor key }

/-- Forget the possible key inside of the current brackets. A required one must not be forgotten. -/
def dropKey? (scan : Scan) : Option Scan :=
  if scan.keys.any fun key => key.level == scan.level && key.required then none
  else some { scan with keys := scan.keys.filter fun key => key.level != scan.level }

/-- Remember that the next token may turn into a key. -/
def saveKey? (scan : Scan) : Option Scan :=
  if scan.keyAllowed then do
    let scan ← scan.dropKey?
    let cursor := scan.cursor
    let required := scan.level == 0 && scan.indent == cursor.column
    let key : PossibleKey :=
      ⟨scan.level, scan.tokens.length, required, cursor.index, cursor.line, cursor.column⟩
    some { scan with keys := key :: scan.keys }
  else some scan

/-- Close the blocks that are indented further than a column. -/
def closeBlocks (column : Int) : List Nat → List Token → List Nat × List Token
  | [], tokens => ([], tokens)
  | block :: blocks, tokens =>
    if (block : Int) > column then closeBlocks column blocks (tokens ++ [.blockEnd])
    else (block :: blocks, tokens)

/-- Close the blocks that end before a column. Inside of brackets indentation has no meaning. -/
def unwind (column : Int) (scan : Scan) : Scan :=
  if scan.level ≠ 0 then scan
  else
    let (blocks, tokens) := closeBlocks column scan.blocks scan.tokens
    { scan with blocks, tokens }

/-- Open a block at a column, unless one is open there or further in. The mark goes to a position among
the tokens. -/
def openBlock (column position : Nat) (mark : Token) (scan : Scan) : Scan :=
  if scan.indent < column then
    { scan with blocks := column :: scan.blocks, tokens := scan.tokens.insertIdx position mark }
  else scan

/-- Move over spaces, comments and line breaks. After a break outside of brackets a key may start. -/
def skipGap : (fuel : Nat) → Scan → Scan
  | 0, scan => scan
  | fuel + 1, scan =>
    let cursor := scan.cursor.skipSpaces.skipComment
    match cursor.takeBreak? with
    | none => scan.moveTo cursor
    | some (_, rest) =>
      skipGap fuel { scan with cursor := rest, keyAllowed := scan.keyAllowed || scan.level == 0 }

/-- Move to the next token, over a mark at the very start. -/
def toNextToken (scan : Scan) : Scan :=
  let started :=
    if scan.cursor.index = 0 ∧ scan.cursor.sees byteOrderMark then scan.moveTo scan.cursor.next else scan
  skipGap (started.cursor.rest.length + 1) started

/-- Close all blocks before a token that stands outside of them. -/
def closeAll? (scan : Scan) : Option Scan := do
  let scan ← (scan.unwind (-1)).dropKey?
  some { scan with keyAllowed := false }

/-- Whether a character may stand in a name. -/
def isNameChar (char : Char) : Bool := char.isAlphanum || char == '-' || char == '_'

/-- Whether a character may stand in a tag. -/
def isTagChar (char : Char) : Bool :=
  char.isAlphanum || "-;/?:@&=+$,_.!~*'()[]".toList.contains char

/-- Take bytes that are written as a percent sign and two hexadecimal digits each. -/
def tagBytes? : (fuel : Nat) → Cursor → Option (List UInt8 × Cursor)
  | 0, cursor => some ([], cursor)
  | fuel + 1, cursor =>
    match cursor.rest with
    | '%' :: high :: low :: _ => do
      let byte ← hexValue? [high, low]
      let (bytes, rest) ← tagBytes? fuel (cursor.advance 3)
      some (UInt8.ofNat byte :: bytes, rest)
    | '%' :: _ => none
    | _ => some ([], cursor)

/-- Take the text of a tag. Characters that may not stand in it are written by their bytes. -/
def tagText? : (fuel : Nat) → Cursor → Option (Text × Cursor)
  | 0, cursor => some ([], cursor)
  | fuel + 1, cursor => do
    let (text, cursor) := cursor.span isTagChar
    let (bytes, cursor) ← tagBytes? cursor.rest.length cursor
    if bytes.isEmpty then some (text, cursor)
    else
      let chars ← (Utf8.decode bytes).toOption
      let (more, rest) ← tagText? fuel cursor
      some (text ++ chars ++ more, rest)

/-- Take a tag, or what stands for the start of one. It must not be empty. -/
def tagName? (cursor : Cursor) : Option (Text × Cursor) := do
  let (text, rest) ← tagText? (cursor.rest.length + 1) cursor
  if text.isEmpty then none else some (text, rest)

/-- The end of the line of a directive, over blanks and a comment. -/
def directiveEnd? (cursor : Cursor) : Option Cursor :=
  let afterLine := cursor.skipSpaces.skipComment
  if endsField cursor.peek? && endsLine afterLine.peek? then some afterLine else none

/-- The directive for the version, after its name. -/
def versionDirective? (cursor : Cursor) : Option (Token × Cursor) :=
  let (major, cursor) := cursor.skipSpaces.span Char.isDigit
  if major.isEmpty || !cursor.sees '.' then none
  else
    let (minor, cursor) := cursor.next.span Char.isDigit
    let number := major.foldl (fun number char => number * 10 + (char.toNat - 48)) 0
    if minor.isEmpty then none else (directiveEnd? cursor).map (.version number, ·)

/-- The directive for the handle of tags, after its name. -/
def handleDirective? (cursor : Cursor) : Option (Token × Cursor) :=
  let cursor := cursor.skipSpaces
  if !cursor.sees '!' then none
  else
    let (word, afterWord) := cursor.next.span isNameChar
    let (handle, cursor) : Text × Cursor :=
      if afterWord.sees '!' then ('!' :: word ++ ['!'], afterWord.next) else ('!' :: word, afterWord)
    if !cursor.sees ' ' || (handle.length > 1 && !Text.endsWith ['!'] handle) then none
    else
      (tagName? cursor.skipSpaces).bind fun (space, cursor) =>
        (directiveEnd? cursor).map (.tagHandle handle space, ·)

/-- A directive for the whole document. Those for the version and for tags mean something. -/
def directive? (scan : Scan) : Option Scan := do
  let scan ← scan.closeAll?
  let (name, cursor) := scan.cursor.next.span isNameChar
  if name.isEmpty || !endsField cursor.peek? then none
  else
    let (token, cursor) ←
      if name = "YAML".toList then versionDirective? cursor
      else if name = "TAG".toList then handleDirective? cursor
      else some (.directive, cursor.skipLine)
    some ((scan.push token).moveTo cursor)

/-- The start or end of a document. -/
def documentMark? (token : Token) (scan : Scan) : Option Scan := do
  let scan ← scan.closeAll?
  some (scan.pushMark token 3)

/-- An opening bracket. -/
def openFlow? (token : Token) (scan : Scan) : Option Scan := do
  let scan ← scan.saveKey?
  some ({ scan with level := scan.level + 1, keyAllowed := true }.pushMark token 1)

/-- A closing bracket. -/
def closeFlow? (token : Token) (scan : Scan) : Option Scan := do
  let scan ← scan.dropKey?
  some ({ scan with level := scan.level - 1, keyAllowed := false }.pushMark token 1)

/-- A comma between brackets. -/
def flowEntry? (scan : Scan) : Option Scan := do
  let scan ← scan.dropKey?
  some ({ scan with keyAllowed := true }.pushMark .flowEntry 1)

/-- Open a block for an entry that stands at the cursor, where a key would be allowed. -/
def openEntry? (mark : Token) (scan : Scan) : Option Scan :=
  if scan.level ≠ 0 then some scan
  else if scan.keyAllowed then some (scan.openBlock scan.cursor.column scan.tokens.length mark)
  else none

/-- A dash before an item. -/
def blockEntry? (scan : Scan) : Option Scan := do
  let scan ← scan.openEntry? .blockSequence
  let scan ← scan.dropKey?
  some ({ scan with keyAllowed := true }.pushMark .blockEntry 1)

/-- A question mark before a key. -/
def explicitKey? (scan : Scan) : Option Scan := do
  let scan ← scan.openEntry? .blockMapping
  let scan ← scan.dropKey?
  some ({ scan with keyAllowed := scan.level == 0 }.pushMark .key 1)

/-- A colon before a value: the possible key turns into one, or else the value stands alone. -/
def value? (scan : Scan) : Option Scan :=
  match scan.keys.find? fun key => key.level == scan.level with
  | some found =>
    let keyed :=
      { scan with
        keys := scan.keys.filter fun key => key.level != scan.level
        tokens := scan.tokens.insertIdx found.position .key
        keyAllowed := false }
    let opened := if scan.level = 0 then keyed.openBlock found.column found.position .blockMapping else keyed
    some (opened.pushMark .value 1)
  | none => do
    let scan ← scan.openEntry? .blockMapping
    let scan ← scan.dropKey?
    some ({ scan with keyAllowed := scan.level == 0 }.pushMark .value 1)

/-- Whether the name of an anchor ends before a character. -/
def endsName (follower : Option Char) : Bool :=
  endsWord follower ||
    match follower with
    | some char => ['?', ':', ',', ']', '}', '%', '@', '\x60'].contains char
    | none => false

/-- An anchor or a reference to one. -/
def name? (token : Text → Token) (scan : Scan) : Option Scan := do
  let scan ← scan.saveKey?
  let (name, cursor) := scan.cursor.next.span isNameChar
  if name.isEmpty || !endsName cursor.peek? then none
  else some (({ scan with keyAllowed := false }.push (token name)).moveTo cursor)

/-- A tag. Its handle is the part up to the second exclamation mark. -/
def tag? (scan : Scan) : Option Scan := do
  let scan ← scan.saveKey?
  let scan := { scan with keyAllowed := false }
  let cursor := scan.cursor.next
  if cursor.sees '<' then
    let (suffix, cursor) ← tagName? cursor.next
    if !cursor.sees '>' || !endsField cursor.next.peek? then none
    else some ((scan.push (.tag [] suffix)).moveTo cursor.next)
  else if endsWord cursor.peek? then some ((scan.push (.tag [] ['!'])).moveTo cursor)
  else
    let (word, afterWord) := cursor.span isNameChar
    let (handle, cursor) : Text × Cursor :=
      if afterWord.sees '!' then ('!' :: word ++ ['!'], afterWord.next) else (['!'], cursor)
    let (suffix, cursor) ← tagName? cursor
    if !endsField cursor.peek? then none
    else some ((scan.push (.tag handle suffix)).moveTo cursor)

/-- A block scalar. -/
def block? (fold : Bool) (scan : Scan) : Option Scan := do
  let scan ← scan.dropKey?
  let (text, cursor) ← blockScalar? fold scan.indent scan.cursor
  some (({ scan with keyAllowed := true }.push (.scalar false text)).moveTo cursor)

/-- End the tokens with an error. -/
def stop (error : ReadError) (scan : Scan) : Scan :=
  { scan with keys := [], cursor := { scan.cursor with rest := [] } }.push (.fault error)

/-- A quoted scalar. -/
def quoted? (quote : Char) (scan : Scan) : Option Scan := do
  let scan ← scan.saveKey?
  match quotedScalar quote scan.cursor with
  | .ok (text, cursor) =>
    some (({ scan with keyAllowed := false }.push (.scalar false text)).moveTo cursor)
  | .error .malformed => none
  | .error error => some (scan.stop error)

/-- A plain scalar. -/
def plain? (scan : Scan) : Option Scan := do
  let scan ← scan.saveKey?
  let (text, cursor, broken) := plainScalar (scan.level ≠ 0) (scan.indent + 1) scan.cursor
  some (({ scan with keyAllowed := broken }.push (.scalar true text)).moveTo cursor)

/-- Characters that no plain scalar starts with. -/
def indicators : List Char :=
  ['-', '?', ':', ',', '[', ']', '{', '}', '#', '&', '*', '!', '|', '>', '\'', '"', '%', '@', '\x60']

/-- Whether a plain scalar starts with a character before another one. -/
def startsPlain (flow : Bool) (char : Char) (follower : Option Char) : Bool :=
  !(isGap char || indicators.contains char) ||
    (!endsWord follower && (char == '-' || (!flow && (char == '?' || char == ':'))))

/-- Read the token that starts with a character. -/
def token? (char : Char) (scan : Scan) : Option Scan :=
  let cursor := scan.cursor
  let follower := cursor.peekAt? 1
  let flow := scan.level ≠ 0
  let marks := flow || endsWord follower
  if char = '%' ∧ cursor.column = 0 then scan.directive?
  else if cursor.column = 0 ∧ cursor.seesMark "---" then scan.documentMark? .documentStart
  else if cursor.column = 0 ∧ cursor.seesMark "..." then scan.documentMark? .documentEnd
  else
    match char with
    | '[' => scan.openFlow? .flowSequence
    | '{' => scan.openFlow? .flowMapping
    | ']' => scan.closeFlow? .flowSequenceEnd
    | '}' => scan.closeFlow? .flowMappingEnd
    | ',' => scan.flowEntry?
    | '*' => scan.name? .copy
    | '&' => scan.name? .anchor
    | '!' => scan.tag?
    | '\'' => scan.quoted? '\''
    | '"' => scan.quoted? '"'
    | _ =>
      if char = '-' ∧ endsWord follower then scan.blockEntry?
      else if char = '?' ∧ marks then scan.explicitKey?
      else if char = ':' ∧ marks then scan.value?
      else if char = '|' ∧ !flow then scan.block? false
      else if char = '>' ∧ !flow then scan.block? true
      else if startsPlain flow char follower then scan.plain?
      else none

/-- Close what is open at the end of the text. -/
def finish? (scan : Scan) : Option (List Token) := do
  let scan ← (scan.unwind (-1)).dropKey?
  some scan.tokens

/-- Read tokens to the end of the text. Each of them takes up at least one character. -/
def run? : (fuel : Nat) → Scan → Option (List Token)
  | 0, _ => none
  | fuel + 1, scan => do
    let scan ← scan.toNextToken.dropStale?
    let scan := scan.unwind scan.cursor.column
    match scan.cursor.peek? with
    | none => scan.finish?
    | some char => do run? fuel (← scan.token? char)

end Scan

/-- The tokens of a text, or nothing when it is not well formed. -/
def ofText? (text : Text) : Option (List Token) := Scan.run? (text.length + 1) { cursor := .start text }

end Token

end Docweave.Yaml
