import Docweave.Pattern.Reader
import Docweave.Text.Identifier

/-!
# Flags in patterns

Letters behind a question mark in parentheses switch flags on, and those behind a minus sign switch them off. Flags
hold for the group that they stand in, or, when nothing else does, for the whole pattern.
-/

namespace Docweave.Pattern

/-- What a letter switches on or off. -/
inductive Flag where
  | ignoreCase
  | locale
  | rowAnchors
  | dotNewlines
  | spaced
  | ascii
  | template
  | allScripts
  deriving DecidableEq, Repr, Inhabited

namespace Flag

/-- The flag of a letter. -/
def ofLetter? : Char → Option Flag
  | 'i' => some .ignoreCase
  | 'L' => some .locale
  | 'm' => some .rowAnchors
  | 's' => some .dotNewlines
  | 'x' => some .spaced
  | 'a' => some .ascii
  | 't' => some .template
  | 'u' => some .allScripts
  | _ => none

/-- The flag of a token. -/
def ofToken? : Text → Option Flag
  | [char] => ofLetter? char
  | _ => none

/-- Whether a flag tells which scripts count. Only one of these can be switched on, and none off. -/
def isScript (flag : Flag) : Bool := flag = .locale || flag = .ascii || flag = .allScripts

end Flag

/-- Flags after some are switched on and some off. -/
def Flags.switch (on off : List Flag) (flags : Flags) : Flags :=
  let after (flag : Flag) (before : Bool) : Bool := (before || on.contains flag) && !off.contains flag
  { ignoreCase := after .ignoreCase flags.ignoreCase
    rowAnchors := after .rowAnchors flags.rowAnchors
    dotNewlines := after .dotNewlines flags.dotNewlines
    spaced := after .spaced flags.spaced
    asciiOnly := (flags.asciiOnly && !on.contains .allScripts) || on.contains .ascii }

/-- What flags are for: the whole pattern, or one group, where some may be switched off. -/
inductive FlagScope where
  | wholePattern (on : List Flag)
  | oneGroup (on off : List Flag)

namespace Read

/-- Whether a token is a letter. -/
def isLetter : Text → Bool
  | [char] => Text.isIdentifierStart char && char ≠ '_'
  | _ => false

/-- The next token as a flag. `missing` is the fault when there is none, or when it is no letter. -/
def takeFlag (missing : PatternFault) (token : Option Text) : Read Flag :=
  match token with
  | none => failBack missing 0
  | some token =>
    match Flag.ofToken? token with
    | some flag => return flag
    | none => failBack (if isLetter token then .unknownFlag else missing) token.length

/-- Read flags that are switched on, the last of which is given, and the token that ends them. -/
def readFlagsOn : (fuel : Nat) → (on : List Flag) → Flag → Read (List Flag × Char)
  | 0, on, _ => return (on, ':')
  | fuel + 1, on, flag => do
    if flag = .locale then failBack .localeFlag 0
    if flag.isScript && on.any fun other => other.isScript && other ≠ flag then failBack .scriptFlagsClash 0
    let on := flag :: on
    match ← take? with
    | some [')'] => return (on, ')')
    | some ['-'] => return (on, '-')
    | some [':'] => return (on, ':')
    | token => readFlagsOn fuel on (← takeFlag .openFlags token)

/-- Read flags that are switched off up to a colon. The last one is given. -/
def readFlagsOff : (fuel : Nat) → (off : List Flag) → Flag → Read (List Flag)
  | 0, off, _ => return off
  | fuel + 1, off, flag => do
    if flag.isScript then failBack .scriptFlagOff 0
    let off := flag :: off
    match ← take? with
    | some [':'] => return off
    | token => readFlagsOff fuel off (← takeFlag .openFlagsOff token)

/-- Read flags, the first of which is given, or none when they start with a minus sign. -/
def readFlags (first : Option Flag) : Read FlagScope := do
  let fuel := (← get).length + 1
  let (on, ending) ← match first with
    | some flag => readFlagsOn fuel [] flag
    | none => pure ([], '-')
  if ending = ')' then return .wholePattern on
  if on.contains .template then failBack .wholeFlagOn 1
  let off ← if ending = '-' then readFlagsOff fuel [] (← takeFlag .missingFlag (← take?)) else pure []
  if off.contains .template then failBack .wholeFlagOff 1
  if on.any off.contains then failBack .flagBothWays 1
  return .oneGroup on off

/-- Switch flags on for the whole pattern. -/
def switchAll (on : List Flag) : Read Unit :=
  modify fun reader =>
    { reader with
      flags := reader.flags.switch (on.filter (· ≠ .allScripts)) []
      asksAllScripts := reader.asksAllScripts || on.contains .allScripts
      isTemplate := reader.isTemplate || on.contains .template }

end Read

end Docweave.Pattern
