import Docweave.Pattern.Escape
import Docweave.Pattern.Flag

/-!
# Reading a pattern

A pattern is a choice of alternatives, each of which is a sequence of items: characters, places, groups and
repetitions of the item before them. Once all of it has been read, it is settled whether the groups that conditions
ask for are there and how far a look behind a place goes.
-/

namespace Docweave.Pattern

namespace Read

/-- Numbers of rounds are smaller than this one. -/
def roundLimit : Nat := 4294967295

/-- The number of rounds that digits give. -/
def readRounds (digits : Text) : Read Nat :=
  if digits.length > Value.mostDigits then throw (.tooManyDigits digits.length)
  else
    let rounds := Numeral.ofDigits 10 digits
    if rounds ≥ roundLimit then throw .tooLarge else return rounds

/-- Read the bounds of a repetition in braces. Braces that hold no bounds are plain characters. -/
def readBounds? : Read (Option (Nat × Option Nat)) := do
  let before ← get
  let start ← offset
  if (← peek?) == some ['\x7d'] then return none
  else
    let low ← takeWhile Char.isDigit before.length
    let high ← if ← accept ',' then takeWhile Char.isDigit before.length else pure low
    if ← accept '\x7d' then
      let least ← if low.isEmpty then pure 0 else readRounds low
      if high.isEmpty then return some (least, none)
      let most ← readRounds high
      if most < least then failAt .repeatBoundsCrossed start else return some (least, some most)
    else
      set before
      return none

/-- Whether a pattern is an anchor, which cannot be repeated. -/
def isAnchor : Pattern → Bool
  | .edge _ => true
  | _ => false

/-- Whether a pattern is a repetition, which cannot be repeated again. -/
def isRepetition : Pattern → Bool
  | .repeated .. => true
  | _ => false

/-- Repeat the last of the patterns read so far, which are kept with the last one first. -/
def repeatLast (start : Nat) (least : Nat) (most : Option Nat) (read : List Pattern) :
    Read (List Pattern) := do
  match read with
  | [] => failAt .nothingToRepeat start
  | last :: earlier =>
    if isAnchor last then failAt .nothingToRepeat start
    else if isRepetition last then failAt .multipleRepeat start
    else if ← accept '?' then return .repeated least most .lazy last :: earlier
    else if ← accept '+' then return .repeated least most .possessive last :: earlier
    else return .repeated least most .greedy last :: earlier

/-- Take the name of a group up to a closing character. -/
def takeGroupName (closer : Char) : Read Text := do
  takeName closer .missingGroupName (.openGroupName closer) ((← get).length + 1) []

/-- Read a group name up to a closing character. -/
def readGroupName (closer : Char) : Read Text := do
  let name ← takeGroupName closer
  if Text.isIdentifier name then return name else failBack (.badGroupName name) (name.length + 1)

/-- The number of a named group. -/
def groupNamed (name : Text) : Read Nat := do
  match (← get).names.lookup name with
  | some number => return number
  | none => failBack (.unknownGroupName name) (name.length + 1)

/-- Numbers of groups are smaller than this one. -/
def groupLimit : Nat := 1073741823

/-- Read which group a condition asks for, up to the closing parenthesis. -/
def readAskedGroup : Read Nat := do
  let name ← takeGroupName ')'
  let back := name.length + 1
  if Text.isIdentifier name then groupNamed name
  else
    match Numeral.whole 10 name with
    | .ok (.ofNat number) =>
      if number = 0 then failBack .groupZero back
      if number ≥ groupLimit then failBack (.unknownGroup number) back
      let position := (← offset) - back
      modify fun reader =>
        if reader.asked.any fun asked => asked.1 == number then reader
        else { reader with asked := reader.asked ++ [(number, position)] }
      return number
    | _ => failBack (.badGroupName name) back

/-- Number a new group. -/
def openGroup (name : Option Text) : Read Nat := do
  let reader ← get
  match name with
  | none => pure ()
  | some name =>
    match reader.names.lookup name with
    | some earlier => failBack (.groupNameTaken name reader.groups earlier) (name.length + 1)
    | none => pure ()
  set { reader with
    groups := reader.groups + 1
    names := (name.map fun name => (name, reader.groups)).toList ++ reader.names }
  return reader.groups

/-- Skip a comment that was opened at `start`. -/
def skipComment (start : Nat) : (fuel : Nat) → Read Unit
  | 0 => return ()
  | fuel + 1 => do
    match ← peek? with
    | none => failAt .openComment start
    | some token =>
      let _ ← take?
      if token == [')'] then return () else skipComment start fuel

/-- Skip the rest of a row. -/
def skipRow : (fuel : Nat) → Read Unit
  | 0 => return ()
  | fuel + 1 => do
    match ← take? with
    | none | some ['\n'] => return ()
    | some _ => skipRow fuel

/-- Put patterns, the last one first, in sequence. -/
def sequenceOf (read : List Pattern) : Pattern :=
  match read with
  | [] => .empty
  | last :: earlier => earlier.foldl (fun rest pattern => .seq pattern rest) last

/-- Take the parenthesis that closes a group opened at `start`. -/
def closeGroup (start : Nat) : Read Unit := do
  if ← accept ')' then return () else failAt .openGroup start

/-- What the start of a group asks for. -/
inductive GroupKind where
  | capturing (name : Option Text)
  | plain
  | atomic
  | ahead (negated : Bool)
  | behind (negated : Bool)
  | whether (number : Nat)
  | flagged (on off : List Flag)
  | nothing
  | reference (pattern : Pattern)

/-- Read what follows an opening parenthesis at `start`. `first` says that nothing has been read before
it in the whole pattern. -/
def readGroupKind (start : Nat) (first : Bool) : Read GroupKind := do
  if !(← accept '?') then return .capturing none
  else
    match ← take? with
    | none => failBack .unexpectedEnd 0
    | some ['P'] =>
      if ← accept '<' then return .capturing (some (← readGroupName '>'))
      else if ← accept '=' then
        let name ← readGroupName ')'
        return .reference (← referTo (← groupNamed name) (name.length + 1))
      else
        match ← take? with
        | none => failBack .unexpectedEnd 0
        | some token => failBack (.unknownExtension ('P' :: token)) (token.length + 2)
    | some [':'] => return .plain
    | some ['>'] => return .atomic
    | some ['='] => return .ahead false
    | some ['!'] => return .ahead true
    | some ['#'] =>
      skipComment start ((← get).length + 1)
      return .nothing
    | some ['<'] =>
      match ← take? with
      | none => failBack .unexpectedEnd 0
      | some ['='] => return .behind false
      | some ['!'] => return .behind true
      | some token => failBack (.unknownExtension ('<' :: token)) (token.length + 2)
    | some ['('] =>
      let number ← readAskedGroup
      checkLook number
      return .whether number
    | some token =>
      let flag := Flag.ofToken? token
      if token == ['-'] || flag.isSome then
        match ← readFlags flag with
        | .oneGroup on off => return .flagged on off
        | .wholePattern on =>
          if !first then failAt .lateFlags start
          switchAll on
          return .nothing
      else failBack (.unknownExtension token) (token.length + 1)

/-- Whether a token is passed over in a spaced pattern. -/
def isSpacing (token : Text) : Bool :=
  match token with
  | [char] => char == ' ' || (9 ≤ char.toNat && char.toNat ≤ 13)
  | _ => false

/-- The pattern of a token that stands for itself or for a place. -/
def plainItem (flags : Flags) : Text → Pattern
  | ['.'] => .any flags.dotNewlines
  | ['^'] => .edge (if flags.rowAnchors then .rowStart else .textStart)
  | ['$'] => .edge (if flags.rowAnchors then .rowEnd else .lastRowEnd)
  | char :: _ => .literal char.toNat flags.rule
  | [] => .empty

mutual

/-- Read alternatives up to a closing parenthesis or the end. `first` says that nothing has been read before them
in the whole pattern. -/
def readChoices : (fuel : Nat) → (first : Bool) → Read Pattern
  | 0, _ => return .empty
  | fuel + 1, first => do
    let read ← readItems first fuel []
    if ← accept '|' then
      return .choice (sequenceOf read) (← readChoices fuel false)
    else return sequenceOf read

/-- Read the body of a group that was opened at `start`, with its closing parenthesis. -/
def readBody (start : Nat) : (fuel : Nat) → Read Pattern
  | 0 => return .empty
  | fuel + 1 => do
    let body ← readChoices fuel false
    closeGroup start
    return body

/-- Read a group of some kind that was opened at `start`. -/
def readGroup (start : Nat) : (fuel : Nat) → GroupKind → Read (Option Pattern)
  | 0, _ => return none
  | fuel + 1, kind => do
    match kind with
    | .nothing => return none
    | .reference pattern => return some pattern
    | .capturing name =>
      let number ← openGroup name
      let body ← readBody start fuel
      modify fun reader => { reader with closed := (number, body.width reader.widthOf) :: reader.closed }
      return some (.group (some number) body)
    | .plain => return some (.group none (← readBody start fuel))
    | .atomic => return some (.atomic (← readBody start fuel))
    | .ahead negated => return some (.ahead negated (← readBody start fuel))
    | .behind negated =>
      let before := (← get).beforeLook
      modify fun reader => { reader with beforeLook := before.or (some reader.groups) }
      let body ← readChoices fuel false
      modify fun reader => { reader with beforeLook := before }
      closeGroup start
      let (least, most) := body.width (← get).widthOf
      return some (.behind negated least most body)
    | .whether number =>
      let present ← readItems false fuel []
      let missing ← if ← accept '|' then readItems false fuel [] else pure []
      if (← peek?) == some ['|'] then failBack .thirdBranch 0
      closeGroup start
      return some (.whether number (sequenceOf present) (sequenceOf missing))
    | .flagged on off =>
      let flags := (← get).flags
      modify fun reader => { reader with flags := flags.switch on off }
      let body ← readBody start fuel
      modify fun reader => { reader with flags }
      return some (.group none body)

/-- Read the items of one alternative after those read so far, which are kept with the last one
first. -/
def readItems (first : Bool) : (fuel : Nat) → List Pattern → Read (List Pattern)
  | 0, read => return read
  | fuel + 1, read => do
    match ← peek? with
    | none | some ['|'] | some [')'] => return read
    | some token =>
      let start ← offset
      let _ ← take?
      let flags := (← get).flags
      if flags.spaced && isSpacing token then readItems first fuel read
      else if flags.spaced && token == ['#'] then
        skipRow ((← get).length + 1)
        readItems first fuel read
      else
        match token with
        | ['\\', char] => readItems first fuel ((← readEscape char) :: read)
        | ['['] => readItems first fuel ((← readSet start) :: read)
        | ['*'] => readItems first fuel (← repeatLast start 0 none read)
        | ['+'] => readItems first fuel (← repeatLast start 1 none read)
        | ['?'] => readItems first fuel (← repeatLast start 0 (some 1) read)
        | ['\x7b'] =>
          match ← readBounds? with
          | some (least, most) => readItems first fuel (← repeatLast start least most read)
          | none => readItems first fuel (plainItem flags token :: read)
        | ['('] =>
          let kind ← readGroupKind start (first && read.isEmpty)
          let group ← readGroup start fuel kind
          readItems first fuel (group.toList ++ read)
        | token => readItems first fuel (plainItem flags token :: read)

end

/-- Looks behind a place do not go further than this. -/
def lookLimit : Nat := 4294967295

/-- The name of a repetition in messages. -/
def greedName : Greed → Text
  | .greedy => "MAX_REPEAT"
  | .lazy => "MIN_REPEAT"
  | .possessive => "POSSESSIVE_REPEAT"

/-- The first fault of a pattern that can be told only once all of it has been read: a look behind a place without
a fixed width, or a repetition in a template. -/
def lateFault? (isTemplate : Bool) : Pattern → Option PatternFault
  | .empty | .edge _ | .literal _ _ | .any _ | .oneOf _ _ _ | .reference _ _ => none
  | .seq first second | .choice first second | .whether _ first second =>
    (lateFault? isTemplate first).or (lateFault? isTemplate second)
  | .repeated _ _ greed body =>
    if isTemplate then some (.repeatInTemplate (greedName greed)) else lateFault? isTemplate body
  | .group _ body | .atomic body | .ahead _ body => lateFault? isTemplate body
  | .behind _ least most body =>
    if least > lookLimit then some .distantLookBehind
    else if least ≠ most then some .unboundedLookBehind
    else lateFault? isTemplate body

/-- The set that a pattern starts with: whether it is negated, its items, and its case rule. -/
def leadingSet? : Pattern → Option (Bool × List SetItem × CaseRule)
  | .oneOf negated items rule => some (negated, items, rule)
  | .group _ body => leadingSet? body
  | .seq first _ => leadingSet? first
  | _ => none

/-- An item in the scripts of the whole pattern. -/
def inScripts (asciiOnly : Bool) : SetItem → SetItem
  | .named cls negated _ => .named cls negated asciiOnly
  | item => item

/-- A match starts only where the set that the pattern starts with holds in the scripts of the whole pattern as
well, whatever its group says. When case is ignored, that is so for sets of classes alone. -/
def guardStart (asciiOnly : Bool) (pattern : Pattern) : Pattern :=
  match leadingSet? pattern with
  | none => pattern
  | some (negated, items, rule) =>
    let guard := items.map (inScripts asciiOnly)
    let hasOthers := items.any fun item => match item with
      | .named .. => false
      | _ => true
    if guard = items ∨ (rule ≠ .exact ∧ hasOthers) then pattern
    else .seq (.ahead false (.oneOf negated guard .exact)) pattern

/-- Read a whole pattern. -/
def readAll : Read Pattern := do
  checkNext
  let pattern ← readChoices (4 * (← get).length + 4) true
  let reader ← get
  if reader.flags.asciiOnly && reader.asksAllScripts then throw .scriptsClash
  if !reader.tokens.isEmpty then failBack .strayClosingParenthesis 0
  match reader.asked.find? fun asked => reader.groups ≤ asked.1 with
  | some (number, position) => failAt (.unknownGroup number) position
  | none => pure ()
  match lateFault? reader.isTemplate pattern with
  | some fault => throw (.faulty fault none)
  | none => return guardStart reader.flags.asciiOnly pattern

end Read

/-- Read a written pattern. -/
def parse (written : Text) : Except PatternError Pattern :=
  (Read.readAll.run { tokens := Token.scan 0 written, length := written.length }).map Prod.fst

end Docweave.Pattern
