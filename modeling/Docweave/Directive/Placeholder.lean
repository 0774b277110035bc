import Docweave.Directive.Arguments
import Docweave.Pattern.Match
import Docweave.Pattern.Read
import Docweave.Forest.Link

/-!
# Placeholders

An argument of a directive may hold placeholders such as `{value}` or `{arg[1]/[a-z]+/}`. They are
filled in from the assignments right below the directive, one argument list for each assignment from
which every placeholder can be filled. With a pattern, the first match in the text is taken instead of
the text.
-/

namespace Docweave

open Text

/-- The part of an assignment that a placeholder stands for. -/
inductive PlaceholderElement where
  | target
  | value
  | arg (path : List Nat)
  deriving DecidableEq, Repr, Inhabited

/-- A placeholder: how it is written, what it stands for, and the pattern that narrows it down, with its
own text. -/
structure Placeholder where
  expression : Text
  element : PlaceholderElement
  pattern : Option (Text × Pattern)
  deriving Repr, Inhabited

/-- Why a placeholder cannot be read. -/
inductive PlaceholderError where
  | unterminatedPattern (expression : Text)
  | badPattern (expression written : Text) (error : PatternError)
  | unknownElement (element : Text)
  | indexTooLong (digits : Nat)
  deriving DecidableEq, Repr, Inhabited

namespace PlaceholderError

/-- What is said about a placeholder that cannot be read. -/
def message : PlaceholderError → Text
  | .unterminatedPattern expression => "Unterminated regex in expression '" ++ expression ++ "'"
  | .badPattern expression written (.faulty fault position) =>
    "Bad regex in expression '" ++ expression ++ "': " ++ PatternError.faultMessage written fault position
  | .badPattern _ written error => error.message written
  | .unknownElement element => "Unknown element '" ++ element ++ "' in expression"
  | .indexTooLong digits => (NumeralError.tooManyDigits digits).message

/-- Whether a pattern has numbers that are too large. No directive is prepared for that. -/
def isTooLarge : PlaceholderError → Bool
  | .badPattern _ _ .tooLarge => true
  | _ => false

end PlaceholderError

namespace Placeholder

/-- Read the positions in brackets that make up a text, each as its digits. `digits` holds the open
position in reverse, `none` when no bracket is open. -/
def readPositions? : (digits : Option Text) → Text → Option (List Text)
  | none, [] => some []
  | some _, [] => none
  | none, '[' :: rest => readPositions? (some []) rest
  | none, _ :: _ => none
  | some digits, char :: rest =>
    if char.isDigit then readPositions? (some (char :: digits)) rest
    else if char = ']' ∧ digits ≠ [] then (readPositions? none rest).map (digits.reverse :: ·)
    else none

/-- Drop a newline that ends a text. -/
def dropFinalNewline (text : Text) : Text := if endsWith ['\n'] text then text.dropLast else text

/-- The positions of an argument element such as `arg[1][0]`. A newline may end it. -/
def argPositions? (element : Text) : Option (List Text) := do
  let positions ← readPositions? none (dropFinalNewline (← after? "arg" element))
  if positions.isEmpty then none else some positions

/-- Read the element of a placeholder. -/
def readElement (element : Text) : Except PlaceholderError PlaceholderElement :=
  if element = "target".toList then .ok .target
  else if element = "value".toList then .ok .value
  else
    match argPositions? element with
    | none => .error (.unknownElement element)
    | some positions =>
      match positions.find? (fun digits => digits.length > Value.mostDigits) with
      | some digits => .error (.indexTooLong digits.length)
      | none => .ok (.arg (positions.map (Numeral.ofDigits 10)))

/-- Read the pattern between the first slash of a placeholder and the slash that ends it. -/
def readPattern (expression afterSlash : Text) : Except PlaceholderError (Text × Pattern) :=
  if endsWith ['/'] afterSlash then
    let written := afterSlash.dropLast
    match Pattern.parse written with
    | .ok pattern => .ok (written, pattern)
    | .error error => .error (.badPattern expression written error)
  else .error (.unterminatedPattern expression)

/-- Read a placeholder. Its first and last character are the braces around it. -/
def read (expression : Text) : Except PlaceholderError Placeholder :=
  let inside := (expression.drop 1).dropLast
  match findChar? '/' inside with
  | none => do
    let element ← readElement inside
    .ok ⟨expression, element, none⟩
  | some slash => do
    let pattern ← readPattern expression (inside.drop (slash + 1))
    let element ← readElement (inside.take slash)
    .ok ⟨expression, element, some pattern⟩

/-- Number of characters up to the brace that closes a placeholder, in a text that starts after its
opening brace. Inside may stand pairs of braces that hold none. `seen` says that something stands before,
`inner` that a pair is open. -/
def closing? : (seen inner : Bool) → Text → Option Nat
  | _, _, [] => none
  | seen, true, char :: rest =>
    if char = '}' then (closing? true false rest).map (· + 1)
    else if char = '{' then none
    else (closing? seen true rest).map (· + 1)
  | seen, false, char :: rest =>
    if char = '}' then if seen then some 1 else none
    else if char = '{' then (closing? seen true rest).map (· + 1)
    else (closing? true false rest).map (· + 1)

/-- The placeholder at the start of a text. -/
def expressionAt? : Text → Option Text
  | '{' :: rest => (closing? false false rest).map fun length => '{' :: rest.take length
  | _ => none

/-- The placeholders of a text, from the left and not overlapping. `skip` counts the characters of the
last one that are still to be passed over. -/
def expressionsFrom : (skip : Nat) → Text → List Text
  | _, [] => []
  | skip + 1, _ :: rest => expressionsFrom skip rest
  | 0, char :: rest =>
    match expressionAt? (char :: rest) with
    | some expression => expression :: expressionsFrom (expression.length - 1) rest
    | none => expressionsFrom 0 rest

/-- The placeholders of an argument as they are written. -/
def expressions (arg : Text) : List Text := expressionsFrom 0 arg

/-- Whether some argument holds a placeholder. -/
def inAny (args : List Text) : Bool := args.any fun arg => !(expressions arg).isEmpty

/-- Read the placeholders of every argument. The first one that cannot be read decides. -/
def readAll (args : List Text) : Except PlaceholderError (List (List Placeholder)) :=
  args.mapM fun arg => (expressions arg).mapM read

/-- The text of an assignment that an element stands for. -/
def PlaceholderElement.textOf? (info : AssignmentInfo) : PlaceholderElement → Option Text
  | .target => some info.target
  | .value => some info.value
  | .arg path =>
    match Call.argument? info.value path with
    | some (.leaf text) => some text
    | _ => none

/-- The text that a placeholder takes from a block; only assignments give one. -/
def extract? (placeholder : Placeholder) (block : Block) : Option Text :=
  match block.info with
  | .assignment info => do
    let text ← PlaceholderElement.textOf? info placeholder.element
    match placeholder.pattern with
    | none => some text
    | some (_, pattern) => pattern.search? text
  | _ => none

/-- Fill the placeholders of an argument one after the other, each where it is first found. -/
def fill? (block : Block) : List Placeholder → Text → Option Text
  | [], arg => some arg
  | placeholder :: rest, arg =>
    match placeholder.extract? block with
    | none => none
    | some text => fill? block rest (replaceFirst placeholder.expression text arg)

/-- Fill the placeholders of all arguments. -/
def fillAll? (block : Block) (args : List Text) (placeholders : List (List Placeholder)) :
    Option (List Text) :=
  (args.zip placeholders).mapM fun (arg, own) => fill? block own arg

/-- The argument lists that a directive stands for, where `target` is the block it applies to. Arguments
without placeholders stand for themselves. -/
def expand (forest : Forest) (args : List Text) (target : Option BlockId) (includeTarget : Bool) :
    Except PlaceholderError (List (List Text)) := do
  let placeholders ← readAll args
  if placeholders.all List.isEmpty then .ok [args]
  else
    match target with
    | none => .ok []
    | some id =>
      let following := forest.walk .adjacent .forward id
      let candidates := if includeTarget then id :: following else following
      .ok (candidates.filterMap fun candidate =>
        let block := forest.block candidate
        if block.kind = .assignment then fillAll? block args placeholders else none)

end Placeholder

end Docweave
