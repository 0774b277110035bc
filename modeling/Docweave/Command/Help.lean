import Docweave.Command.Usage

/-!
# Help

The help on a command says how it is called and what it does, and lists its options and, for a group of
commands, the commands. Both lists have two columns. What a command does is said in one sentence, which is also
how it is listed in its group; rows that go into the details may follow.
-/

namespace Docweave.Command

/-- What a command does: a sentence, and rows with the details. -/
structure About where
  summary : Text
  details : List Text := []
  deriving DecidableEq, Repr

/-- How a command is called, and what may follow. -/
structure Usage where
  call : Text
  arguments : Text
  deriving DecidableEq, Repr

namespace Usage

/-- The line that says how a command is used. -/
def line (usage : Usage) : Text :=
  let following : Text := if usage.arguments.isEmpty then [] else ' ' :: usage.arguments
  "Usage: " ++ usage.call ++ " [OPTIONS]" ++ following

end Usage

namespace Switch

/-- Ways to write an option, the short ones first. -/
def joinSpellings (spellings : List Text) : Text :=
  let (long, short) := spellings.partition (Text.startsWith "--")
  Text.join ", " (short ++ long)

/-- How an option is listed. -/
def label (switch : Switch) : Text :=
  let denied : Text := if switch.denials.isEmpty then [] else " / " ++ joinSpellings switch.denials
  let value : Text := if switch.takesValue then " TEXT" else []
  joinSpellings switch.spellings ++ denied ++ value

end Switch

/-- The help on a command. -/
structure Help where
  usage : Usage
  about : About
  switches : List Switch
  commands : List (Text × Text) := []
  deriving DecidableEq, Repr

namespace Help

/-- How many columns the help may take. -/
def width : Nat := 78

/-- Set a row in. -/
def setIn (row : Text) : Text := if row.isEmpty then [] else ' ' :: ' ' :: row

/-- The rows of a list with two columns, under a heading. -/
def listRows (heading : Text) (entries : List (Text × Text)) : List Text :=
  let first := (entries.map fun entry => entry.1.length).foldl max 0
  let row (entry : Text × Text) : Text :=
    setIn (entry.1 ++ List.replicate (first + 2 - entry.1.length) ' ' ++ entry.2)
  [] :: (heading ++ [':']) :: entries.map row

/-- As many words as fit with three dots behind them. -/
def abridge (room : Nat) (sentence : Text) : Text :=
  let words := Text.splitChar ' ' sentence
  let starts := (List.range words.length).map fun count => Text.join [' '] (words.take count)
  (((starts.filter fun start => start.length + 3 ≤ room).getLast?).getD []) ++ "..."

/-- A sentence in a given room: what does not fit is cut off. -/
def brief (room : Nat) (sentence : Text) : Text :=
  if sentence.length ≤ room then sentence else abridge room sentence

/-- The commands of a group with what they do, in the order of their names. -/
def commandEntries (commands : List (Text × Text)) : List (Text × Text) :=
  let longest := (commands.map fun command => command.1.length).foldl max 0
  let sorted := commands.mergeSort fun left right => Text.upTo left.1 right.1
  sorted.map fun (name, summary) => (name, brief (width - 6 - longest) summary)

/-- The rows of the help on a command. -/
def rows (help : Help) : List Text :=
  let details := if help.about.details.isEmpty then [] else [] :: help.about.details
  let options := listRows "Options" (help.switches.map fun switch => (switch.label, switch.purpose))
  let commands := if help.commands.isEmpty then [] else listRows "Commands" (commandEntries help.commands)
  help.usage.line :: [] :: (help.about.summary :: details).map setIn ++ options ++ commands

end Help

end Docweave.Command
