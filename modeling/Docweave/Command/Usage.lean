import Docweave.Text.Quote
import Docweave.Text.Similar

/-!
# Command lines

A command line holds options and arguments. A long option starts with two dashes and may carry its value
behind an equals sign; short options are single letters behind one dash, and several of them may stand
together. An option that takes a value and carries none takes the next word, whatever it is. Two dashes alone
end the options.
-/

namespace Docweave.Command

/-- An option: the ways to write it, the ways to write that it does not hold, whether it takes a value, and
what it is for. -/
structure Switch where
  spellings : List Text
  denials : List Text := []
  takesValue : Bool := false
  purpose : Text := []
  deriving DecidableEq, Repr

namespace Switch

/-- All ways to write an option. -/
def allSpellings (switch : Switch) : List Text := switch.spellings ++ switch.denials

/-- An option goes by the first of its spellings. -/
def name (switch : Switch) : Text := switch.spellings.headD []

/-- The name under which a spelling of an option is noted: a denial keeps its own. -/
def nameFor (switch : Switch) (spelling : Text) : Text :=
  if switch.denials.contains spelling then spelling else switch.name

/-- The option that shows how a command is used. -/
def help : Switch := { spellings := ["--help"], purpose := "Show this message and exit." }

end Switch

/-- What a command expects: its options, and the names of its arguments, first those that have to be given.
Where options and arguments are not mixed, the options end at the first argument. -/
structure Shape where
  switches : List Switch
  required : List Text := []
  optional : List Text := []
  mixed : Bool := true
  deriving DecidableEq, Repr

/-- Why a command line is refused. -/
inductive UsageError where
  | noSuchOption (name : Text) (similar : List Text)
  | valueMissing (name : Text)
  | valueUnexpected (name : Text)
  | argumentMissing (name : Text)
  | argumentsLeft (words : List Text)
  | commandMissing
  | noSuchCommand (name : Text)
  | noSuchFile (argument path : Text)
  | isADirectory (argument path : Text)
  deriving DecidableEq, Repr

namespace UsageError

/-- The spellings that may have been meant. -/
def suggestion : List Text → Text
  | [] => []
  | [name] => " Did you mean " ++ name ++ "?"
  | names => " (Possible options: " ++ Text.join ", " (names.mergeSort Text.upTo) ++ ")"

/-- Whether an error is about the value of an option. Such an error is reported without a word on how the
command is used. -/
def isAboutValue : UsageError → Bool
  | .valueMissing _ | .valueUnexpected _ => true
  | _ => false

/-- What is said about a command line that is refused. -/
def message : UsageError → Text
  | .noSuchOption name similar => "No such option: " ++ name ++ suggestion similar
  | .valueMissing name => "Option " ++ Text.quoted name ++ " requires an argument."
  | .valueUnexpected name => "Option " ++ Text.quoted name ++ " does not take a value."
  | .argumentMissing name => "Missing argument '" ++ name ++ "'."
  | .argumentsLeft [word] => "Got unexpected extra argument (" ++ word ++ ")"
  | .argumentsLeft words => "Got unexpected extra arguments (" ++ Text.join " " words ++ ")"
  | .commandMissing => "Missing command."
  | .noSuchCommand name => "No such command " ++ Text.quoted name ++ "."
  | .noSuchFile argument path =>
    "Invalid value for '" ++ argument ++ "': File " ++ Text.quoted path ++ " does not exist."
  | .isADirectory argument path =>
    "Invalid value for '" ++ argument ++ "': File " ++ Text.quoted path ++ " is a directory."

end UsageError

/-- What a command line gives: options by name with their values, in order, and the other words. -/
structure Given where
  options : List (Text × Text) := []
  words : List Text := []
  deriving DecidableEq, Repr

namespace Given

/-- The last value given for an option. -/
def value? (given : Given) (name : Text) : Option Text := given.options.reverse.lookup name

/-- Whether an option is given. -/
def has (given : Given) (name : Text) : Bool := given.options.any fun option => option.1 == name

end Given

namespace Shape

/-- The option that is written in a way. -/
def switch? (shape : Shape) (spelling : Text) : Option Switch :=
  shape.switches.find? fun switch => switch.allSpellings.contains spelling

/-- The spellings of long options. -/
def longSpellings (shape : Shape) : List Text :=
  (shape.switches.flatMap Switch.allSpellings).filter (Text.startsWith "--")

/-- What a word of options gives: options with their values, and the option that takes the next word, with
the spelling that was used. -/
structure Word where
  options : List (Text × Text) := []
  waiting : Option (Switch × Text) := none

/-- Read a long option. -/
def readLong (shape : Shape) (word : Text) : Except UsageError Word :=
  let spelling := word.takeWhile (· ≠ '=')
  let value := word.drop spelling.length
  match shape.switch? spelling with
  | none => .error (.noSuchOption spelling (Text.similarTo spelling shape.longSpellings))
  | some switch =>
    match switch.takesValue, value with
    | true, _ :: value => .ok { options := [(switch.name, value)] }
    | true, [] => .ok { waiting := some (switch, spelling) }
    | false, _ :: _ => .error (.valueUnexpected spelling)
    | false, [] => .ok { options := [(switch.nameFor spelling, [])] }

/-- Read short options that stand together. One that takes a value takes the letters behind it. -/
def readShort (shape : Shape) : Text → Except UsageError Word
  | [] => .ok {}
  | letter :: rest =>
    let spelling := ['-', letter]
    match shape.switch? spelling with
    | none => .error (.noSuchOption spelling [])
    | some switch =>
      if !switch.takesValue then do
        let word ← shape.readShort rest
        return { word with options := (switch.name, []) :: word.options }
      else if rest.isEmpty then .ok { waiting := some (switch, spelling) }
      else .ok { options := [(switch.name, rest)] }

/-- Read the words of a command line, of which the first is the value of a waiting option. -/
def readFrom (shape : Shape) : (waiting : Option (Switch × Text)) → List Text → Except UsageError Given
  | none, [] => .ok {}
  | some (_, spelling), [] => .error (.valueMissing spelling)
  | some (switch, _), word :: rest => do
    let given ← shape.readFrom none rest
    return { given with options := (switch.name, word) :: given.options }
  | none, word :: rest =>
    match word with
    | ['-', '-'] => .ok { words := rest }
    | '-' :: char :: letters => do
      let read ← if char = '-' then shape.readLong word else shape.readShort (char :: letters)
      let given ← shape.readFrom read.waiting rest
      return { given with options := read.options ++ given.options }
    | _ =>
      if shape.mixed then do
        let given ← shape.readFrom none rest
        return { given with words := word :: given.words }
      else .ok { words := word :: rest }

/-- Read a command line. -/
def read (shape : Shape) (words : List Text) : Except UsageError Given := shape.readFrom none words

/-- Refuse words that lack an argument which has to be given. -/
def requireWords (shape : Shape) (words : List Text) : Except UsageError Unit :=
  match shape.required.drop words.length with
  | [] => .ok ()
  | name :: _ => .error (.argumentMissing name)

/-- Refuse words that are left when every argument has been given. -/
def refuseMore (shape : Shape) (words : List Text) : Except UsageError Unit :=
  match words.drop (shape.required.length + shape.optional.length) with
  | [] => .ok ()
  | left => .error (.argumentsLeft left)

/-- The arguments of a command: those that need not be given stand in brackets. -/
def summary (shape : Shape) : Text :=
  Text.join " " (shape.required ++ shape.optional.map fun name => '[' :: name ++ [']'])

end Shape

end Docweave.Command
