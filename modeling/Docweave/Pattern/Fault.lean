import Docweave.Text.Quote
import Docweave.Value.Numeral

/-!
# Faults of a written pattern

Why a text cannot be read as a pattern, and where the fault lies.
-/

namespace Docweave

/-- Why a text is no pattern. -/
inductive PatternFault where
  | trailingBackslash
  | badEscape (escape : Text)
  | incompleteEscape (escape : Text)
  | octalTooLarge (escape : Text)
  | unnamedCharacter
  | missingCharacterName
  | openCharacterName
  | unknownCharacter (name : Text)
  | openSet
  | badRange (low high : Text)
  | nothingToRepeat
  | multipleRepeat
  | repeatBoundsCrossed
  | openGroup
  | openComment
  | strayClosingParenthesis
  | unexpectedEnd
  | unknownExtension (extension : Text)
  | missingGroupName
  | openGroupName (closer : Char)
  | badGroupName (name : Text)
  | unknownGroupName (name : Text)
  | groupNameTaken (name : Text) (number earlier : Nat)
  | unknownGroup (number : Nat)
  | groupZero
  | groupStillOpen
  | groupInLookBehind
  | thirdBranch
  | lateFlags
  | unknownFlag
  | missingFlag
  | openFlags
  | openFlagsOff
  | flagBothWays
  | localeFlag
  | scriptFlagsClash
  | scriptFlagOff
  | wholeFlagOn
  | wholeFlagOff
  | repeatInTemplate (operator : Text)
  | unboundedLookBehind
  | distantLookBehind
  deriving DecidableEq, Repr, Inhabited

namespace PatternFault

/-- What is said about a fault. -/
def message : PatternFault → Text
  | .trailingBackslash => "bad escape (end of pattern)"
  | .badEscape escape => "bad escape " ++ escape
  | .incompleteEscape escape => "incomplete escape " ++ escape
  | .octalTooLarge escape => "octal escape value " ++ escape ++ " outside of range 0-0o377"
  | .unnamedCharacter => "missing \x7b"
  | .missingCharacterName => "missing character name"
  | .openCharacterName => "missing \x7d, unterminated name"
  | .unknownCharacter name => "undefined character name " ++ Text.quoted name
  | .openSet => "unterminated character set"
  | .badRange low high => "bad character range " ++ low ++ "-" ++ high
  | .nothingToRepeat => "nothing to repeat"
  | .multipleRepeat => "multiple repeat"
  | .repeatBoundsCrossed => "min repeat greater than max repeat"
  | .openGroup => "missing ), unterminated subpattern"
  | .openComment => "missing ), unterminated comment"
  | .strayClosingParenthesis => "unbalanced parenthesis"
  | .unexpectedEnd => "unexpected end of pattern"
  | .unknownExtension extension => "unknown extension ?" ++ extension
  | .missingGroupName => "missing group name"
  | .openGroupName closer => "missing " ++ [closer] ++ ", unterminated name"
  | .badGroupName name => "bad character in group name " ++ Text.quoted name
  | .unknownGroupName name => "unknown group name " ++ Text.quoted name
  | .groupNameTaken name number earlier =>
    "redefinition of group name " ++ Text.quoted name ++ " as group " ++ Text.ofNat number
      ++ "; was group " ++ Text.ofNat earlier
  | .unknownGroup number => "invalid group reference " ++ Text.ofNat number
  | .groupZero => "bad group number"
  | .groupStillOpen => "cannot refer to an open group"
  | .groupInLookBehind => "cannot refer to group defined in the same lookbehind subpattern"
  | .thirdBranch => "conditional backref with more than two branches"
  | .lateFlags => "global flags not at the start of the expression"
  | .unknownFlag => "unknown flag"
  | .missingFlag => "missing flag"
  | .openFlags => "missing -, : or )"
  | .openFlagsOff => "missing :"
  | .flagBothWays => "bad inline flags: flag turned on and off"
  | .localeFlag => "bad inline flags: cannot use 'L' flag with a str pattern"
  | .scriptFlagsClash => "bad inline flags: flags 'a', 'u' and 'L' are incompatible"
  | .scriptFlagOff => "bad inline flags: cannot turn off flags 'a', 'u' and 'L'"
  | .wholeFlagOn => "bad inline flags: cannot turn on global flag"
  | .wholeFlagOff => "bad inline flags: cannot turn off global flag"
  | .repeatInTemplate operator => "internal: unsupported template operator " ++ operator
  | .unboundedLookBehind => "look-behind requires fixed-width pattern"
  | .distantLookBehind => "looks too much behind"

end PatternFault

/-- Why a pattern cannot be read: it has a fault at an offset, where one can be given, its flags contradict each
other, or one of its numbers is too long or too large. -/
inductive PatternError where
  | faulty (fault : PatternFault) (position : Option Nat)
  | scriptsClash
  | tooManyDigits (count : Nat)
  | tooLarge
  deriving DecidableEq, Repr, Inhabited

namespace PatternError

/-- What is said about a fault at an offset. In a pattern of several rows the row and the column are added. -/
def faultMessage (written : Text) (fault : PatternFault) : Option Nat → Text
  | none => fault.message
  | some position =>
    let text := fault.message ++ " at position " ++ Text.ofNat position
    if written.contains '\n' then
      let before := written.take position
      let column : Int :=
        match Text.findLast? ['\n'] before with
        | some offset => (position : Int) - offset
        | none => (position : Int) + 1
      text ++ " (line " ++ Text.ofNat (before.count '\n' + 1) ++ ", column " ++ Text.ofInt column ++ ")"
    else text

/-- What is said about an error in a written pattern. -/
def message (written : Text) : PatternError → Text
  | .faulty fault position => faultMessage written fault position
  | .scriptsClash => "ASCII and UNICODE flags are incompatible"
  | .tooManyDigits count => (NumeralError.tooManyDigits count).message
  | .tooLarge => "the repetition number is too large"

end PatternError

end Docweave
