import Docweave.Command.Help
import Docweave.Files.Tree
import Docweave.Text.Word

/-!
# Commands

What can be asked for on the command line. A command line that fits no command is refused, with a line that
says how the command is used.
-/

namespace Docweave.Command

open Files

/-- Something to be done. -/
inductive Action where
  | document (path : Text) (output settingsFile : Option Text) (strict : Bool)
  | listBlocks (file : Text) (nested : Bool)
  | listRoots (path : Text)
  | writeDefaults (directory : Text) (force : Bool)
  | getSetting (key : Option Text) (directory : Text)
  | setSetting (key value directory : Text)
  deriving DecidableEq, Repr

/-- What a command line asks for. -/
inductive Request where
  | act (action : Action)
  | help (help : Help)
  | version
  deriving DecidableEq, Repr

/-- A command line that is refused. -/
structure Refusal where
  usage : Usage
  error : UsageError
  deriving DecidableEq, Repr

namespace Refusal

/-- The rows that say how the command is used. -/
def usageRows (refusal : Refusal) : List Text :=
  [refusal.usage.line, "Try '" ++ refusal.usage.call ++ " --help' for help.", []]

/-- What is said about a command line that is refused. -/
def message (refusal : Refusal) : Text :=
  let usage := if refusal.error.isAboutValue then [] else refusal.usageRows
  Text.unrows (usage ++ ["Error: " ++ refusal.error.message, []])

end Refusal

/-- A reader of the words behind the name by which a command is called. -/
abbrev Reader := (call : Text) → List Text → Except Refusal Request

/-- A command of a group: its name, what it does, and how the words behind its name are read. -/
structure Entry where
  name : Text
  about : About
  reader : About → Reader

/-- The option that shows the version. -/
def versionSwitch : Switch := { spellings := ["--version"], purpose := "Show the version and exit." }

/-- What is asked for by an option that goes before all else. -/
def firstRequest? (help : Help) (given : Given) : Option Request :=
  given.options.findSome? fun (name, _) =>
    if name = Switch.help.name then some (.help help)
    else if name = versionSwitch.name then some .version
    else none

/-- Read the options and arguments of a single command. -/
def single (shape : Shape) (action : List Text → Given → Except UsageError Action) (about : About) : Reader :=
  fun call words =>
    let usage : Usage := ⟨call, shape.summary⟩
    Except.mapError (Refusal.mk usage) do
      let given ← shape.read words
      match firstRequest? { usage, about, switches := shape.switches } given with
      | some request => return request
      | none =>
        shape.requireWords given.words
        let action ← action given.words given
        shape.refuseMore given.words
        return .act action

/-- Whether a word starts with a mark: a character that is neither a letter nor a digit. -/
def startsWithMark : Text → Bool
  | [] => false
  | char :: _ => char == '_' || !Text.isWord char

/-- Read the options of a group of commands, and go on with the command that is named. Without any words, and
where an unknown command starts with a mark as options do, the help on the group is shown. -/
def group (switches : List Switch) (entries : List Entry) (about : About) : Reader := fun call words =>
  let shape : Shape := { switches, mixed := false }
  let usage : Usage := ⟨call, "COMMAND [ARGS]..."⟩
  let help : Help :=
    { usage, about, switches, commands := entries.map fun entry => (entry.name, entry.about.summary) }
  let refuse (error : UsageError) : Except Refusal Request := .error ⟨usage, error⟩
  if words.isEmpty then .ok (.help help)
  else do
    let given ← (shape.read words).mapError (Refusal.mk usage)
    match firstRequest? help given, given.words with
    | some request, _ => return request
    | none, [] => refuse .commandMissing
    | none, name :: rest =>
      match entries.find? fun entry => entry.name = name with
      | some entry => entry.reader entry.about (call ++ ' ' :: name) rest
      | none => if startsWithMark name then return .help help else refuse (.noSuchCommand name)

/-- The option for the directory of a project. -/
def directorySwitch : Switch :=
  { spellings := ["--project-dir"], takesValue := true, purpose := "Project root directory" }

/-- The option that lets a file be replaced. -/
def forceSwitch : Switch := { spellings := ["--force"], purpose := "Overwrite an existing settings file" }

/-- The directory of a project, the current one unless it is given. -/
def directoryOf (given : Given) : Text := (given.value? directorySwitch.name).getD ['.']

/-- The first word, or the current directory. -/
def pathOf (words : List Text) : Text := words.headD ['.']

/-- The commands on settings. -/
def settingsEntries : List Entry :=
  [{ name := "default"
     about := { summary := "Write the default settings to the project directory." }
     reader := single { switches := [directorySwitch, forceSwitch, .help] }
      fun _ given => .ok (.writeDefaults (directoryOf given) (given.has forceSwitch.name)) },
    { name := "get"
      about :=
        { summary := "Print the configured value for KEY (all settings when omitted)."
          details := ["KEY is dotted, e.g. output.maxColumns."] }
      reader := single { switches := [directorySwitch, .help], optional := ["KEY"] }
        fun words given => .ok (.getSetting words.head? (directoryOf given)) },
    { name := "set"
      about :=
        { summary := "Set KEY to VALUE in the project settings file."
          details := ["VALUE is read as YAML, so \x60120\x60, \x60true\x60 and \x60[a, b]\x60 keep their types."] }
      reader := single { switches := [directorySwitch, .help], required := ["KEY", "VALUE"] }
        fun words given =>
          .ok (.setSetting (words.headD []) ((words.drop 1).headD []) (directoryOf given)) }]

/-- Refuse a file that is not there. A path that no file can have is left to the command, which fails. -/
def checkFile (files : Tree) (path : Text) : Except UsageError Unit :=
  if (Tree.requireName path).toOption.isNone then .ok () else
  match files.findExactly? path with
  | none => .error (.noSuchFile "FILE" path)
  | some (.directory _) => .error (.isADirectory "FILE" path)
  | some (.file _) => .ok ()

/-- The option for blocks inside of blocks. -/
def nestedSwitch : Switch :=
  { spellings := ["--nested"], denials := ["--no-nested"], purpose := "Also list blocks of parsed bodies" }

/-- Whether an option holds: the last of its spellings and denials decides. -/
def holds (switch : Switch) (given : Given) : Bool :=
  let wishes := given.options.filter fun option => option.1 = switch.name ∨ switch.denials.contains option.1
  (wishes.getLast?).any fun option => option.1 = switch.name

/-- The option for the directory of the pages. -/
def outputSwitch : Switch :=
  { spellings := ["--output", "-o"], takesValue := true
    purpose := "Output directory (settings paths.output_path by default)" }

/-- The option for the settings file. -/
def settingsSwitch : Switch := { spellings := ["--settings"], takesValue := true, purpose := "Settings file" }

/-- The option that makes errors of directives count. -/
def strictSwitch : Switch := { spellings := ["--strict"], purpose := "Fail when a directive reports an error" }

/-- The option for more messages. -/
def verboseSwitch : Switch := { spellings := ["--verbose", "-v"], purpose := "Show debug logging" }

/-- All commands. -/
def entries (files : Tree) : List Entry :=
  [{ name := "document"
     about := { summary := "Generate file documentation for the project at PATH." }
     reader := single
      { switches := [outputSwitch, settingsSwitch, strictSwitch, .help], optional := ["PATH"] }
      fun words given =>
        .ok (.document (pathOf words) (given.value? outputSwitch.name) (given.value? settingsSwitch.name)
          (given.has strictSwitch.name)) },
    { name := "blocks"
      about := { summary := "List the blocks parsed from FILE." }
      reader := single { switches := [nestedSwitch, .help], required := ["FILE"] }
        fun words given => do
          checkFile files (words.headD [])
          return .listBlocks (words.headD []) (holds nestedSwitch given) },
    { name := "roots"
      about := { summary := "Show the root units of the project at PATH and the units they require." }
      reader := single { switches := [.help], optional := ["PATH"] }
        fun words _ => .ok (.listRoots (pathOf words)) },
    { name := "config"
      about := { summary := "Project settings commands." }
      reader := group [.help] settingsEntries }]

/-- The name by which the program is called. -/
def programName : Text := "cli"

/-- What the program does. -/
def programAbout : About where
  summary := "dgen-one - documentation generator for JavaScript projects."
  details :=
    ["Reads source files, attaches comments to the code they document, applies",
      "@directives found in comments and writes reStructuredText pages.",
      [],
      "GETTING STARTED:",
      "  dgen config default                Write default settings to the current directory",
      "  dgen config get output.maxColumns  Read a setting",
      "  dgen config set output.maxColumns 100",
      "  dgen document [PATH]               Generate file documentation",
      [],
      "INSPECTION:",
      "  dgen blocks FILE                   List the blocks parsed from a file",
      "  dgen roots [PATH]                  Show root units and what they require"]

/-- What a command line asks for. -/
def read (files : Tree) (words : List Text) : Except Refusal Request :=
  group [versionSwitch, verboseSwitch, .help] (entries files) programAbout programName words

end Docweave.Command
