import Docweave.Command.Basic
import Docweave.Command.Listing
import Docweave.Project.Unfold
import Docweave.Session
import Docweave.Settings.File
import Docweave.Terminal.Branches

/-!
# Running commands

A command reads and changes a tree of files, shows rows, and ends with an exit code. Most errors are shown as
a message and end the command with code one. What it is not prepared for is a failure, which also ends it.
-/

namespace Docweave.Command

open Files Terminal

/-- What a command is not prepared for. -/
inductive Failure where
  | file (error : FileError)
  | undecodable (error : Utf8.DecodeError)
  | reading (error : Yaml.ReadError)
  | saving (error : SaveError)
  | settings (error : SettingsError)
  | filter (error : FilterError)
  | pages (error : PagesError)
  | markup (error : MarkupError)
  deriving Repr

/-- What is said about a failure. -/
def Failure.message : Failure → Text
  | .file error => error.message
  | .undecodable error => error.message
  | .reading error => error.message
  | .saving error => error.message
  | .settings error => error.message
  | .filter _ => "A pattern of the settings cannot be used."
  | .pages .halted => "A pattern in a directive has a number that is too large."
  | .pages (.layout _) => "The pages cannot be laid out with these settings."
  | .markup _ => "A message holds tags that cannot be followed."

/-- Why a command ends early. -/
inductive Stop where
  | refused
  | failed (failure : Failure)
  deriving Repr

/-- The files, and the rows that have been shown. -/
structure State where
  files : Tree
  rows : List Text := []

/-- What a command does: it changes the state and may end early. -/
abbrev Run := ExceptT Stop (StateM State)

namespace Run

/-- Show rows. -/
def showRows (rows : List Text) : Run Unit := modify fun state => { state with rows := state.rows ++ rows }

/-- Fail. -/
def fail {α : Type} (failure : Failure) : Run α := throw (.failed failure)

/-- Show what has been drawn. -/
def showDrawn (drawn : Except MarkupError (List Text)) : Run Unit :=
  match drawn with
  | .ok rows => showRows rows
  | .error error => fail (.markup error)

/-- Show a message. -/
def say (message : Text) : Run Unit := showDrawn ((Markup.read message).map rowsOf)

/-- Show a text without markup. -/
def sayPlain (text : Text) : Run Unit := showRows (rowsOf (Markup.plain text))

/-- Show messages and end the command. -/
def refuse {α : Type} (messages : List Text) : Run α := do
  messages.forM say
  throw .refused

/-- What is said about an error. -/
def errorMessage (text : Text) : Text := "[red]Error:[/red] " ++ text

/-- What is said about settings that cannot be read. -/
def settingsMessage (text : Text) : Text := "[red]Error reading settings:[/red] " ++ text

/-- What is said about a directory without source files. -/
def emptyMessage (path : Text) : Text := "[yellow]No source files found in " ++ path ++ "[/yellow]"

/-- The settings file of a directory. -/
def settingsPath (directory : Text) : Text := Path.child directory settingsFileName

/-- End the command with a message, since settings cannot be read. What does not tell about a wrong value is a
failure. -/
def refuseSettings {α : Type} (message : Text → Text) (error : SettingsFileError) : Run α :=
  match error.isAboutValue, error with
  | false, .file error => fail (.file error)
  | false, .unreadable _ error => fail (.reading error)
  | _, _ => refuse [message error.message]

/-- Load settings, or end the command with a message. -/
def loadSettings (path : Text) (message : Text → Text) : Run Settings := do
  match Settings.load (← get).files path with
  | .ok settings => return settings
  | .error error => refuseSettings message error

/-- Save settings. -/
def saveSettings (settings : Settings) (path : Text) : Run Unit := do
  match settings.save path (← get).files with
  | .ok files => modify fun state => { state with files }
  | .error error => fail (.saving error)

/-- Write the default settings. A file that is there is kept unless it may be replaced. -/
def writeDefaults (directory : Text) (force : Bool) : Run Unit := do
  let path := settingsPath directory
  if ((← get).files.find? path).isSome && !force then
    refuse [errorMessage ("Settings file already exists: " ++ path ++ " (use --force)")]
  saveSettings .default path
  say ("[green]Default settings written to[/green] " ++ path)
  say "Edit the file by hand or run \x60dgen config set KEY VALUE\x60"

/-- End the command, since there is no such setting. -/
def refuseKey {α : Type} (key : Text) : Run α := refuse [errorMessage ("No such key in config file: " ++ key)]

/-- Show a setting, a section of the settings, or all of them. -/
def getSetting (key : Option Text) (directory : Text) : Run Unit := do
  let settings ← loadSettings (settingsPath directory) errorMessage
  let key := key.getD []
  match settings.get key with
  | .error .endless => fail (.settings .endless)
  | .error _ => refuseKey key
  | .ok value =>
    if value.isTooLong then fail (.settings .numberTooLong)
    match value with
    | .list _ | .mapping _ =>
      let name : Text := if key.isEmpty then "config" else key
      sayPlain (Text.stripRight (Yaml.write (.mapping [(.text name, value)])))
    | _ => sayPlain (key ++ ": " ++ (Yaml.write value).takeWhile (· ≠ '\n'))

/-- Change a setting. What is not written as a value counts as a text. -/
def setSetting (key written directory : Text) : Run Unit := do
  let path := settingsPath directory
  let settings ← loadSettings path errorMessage
  let value ← match Yaml.read written with
    | .ok value => pure value
    | .error .malformed => pure (.text written)
    | .error error => fail (.reading error)
  match settings.withValue key value with
  | .error (.unknownKey _) => refuseKey key
  | .error error => refuse [errorMessage error.message]
  | .ok settings =>
    saveSettings settings path
    match settings.get key with
    | .ok value => say ("[green]Set[/green] " ++ key ++ " = " ++ value.literal)
    | .error _ => refuseKey key

/-- The table of issues with directives. -/
def issueTable (report : Report) : Table where
  title := "Directive Issues"
  columns := [⟨"Severity", false⟩, ⟨"Location", false⟩, ⟨"Directive", false⟩, ⟨"Message", false⟩]
  rows := report.issues.map fun issue =>
    let problem := issue.problem
    let color : Text := match problem.severity with
      | .error => "red"
      | .warning => "yellow"
    ['[' :: color ++ ']' :: problem.severity.name ++ "[/" ++ color ++ "]", Markup.escape issue.location, issue.verb,
      Markup.escape problem.message]

/-- Write the pages of a project. -/
def document (path : Text) (output settingsFile : Option Text) (strict : Bool) : Run Unit := do
  let given (option : Option Text) : Option Text := option.filter fun text => !text.isEmpty
  let path := Path.tidy path
  let settingsFile := ((given settingsFile).map Path.tidy).getD (settingsPath path)
  let settings ← loadSettings settingsFile settingsMessage
  let loaded := Session.autoload (← get).files (some path) none { settings }
  match loaded.error with
  | some (.filter error) => fail (.filter error)
  | some error =>
    refuse [errorMessage error.message,
      "There were errors while reading the code and comments. Stopping."]
  | none => pure ()
  if loaded.added.isEmpty then
    say (emptyMessage path)
    return
  let (session, pages) := loaded.session.generate
  let report := session.report.getD {}
  match pages with
  | .error error => fail (.pages error)
  | .ok pages =>
    if !report.issues.isEmpty then showDrawn (issueTable report).draw
    let directory := session.outputDirectory (given output)
    let written := Session.writePages directory (← get).files pages
    modify fun state => { state with files := written.files }
    match written.error with
    | some .nullInPath => fail (.file .nullInPath)
    | some error =>
      refuse [errorMessage error.message, "There were errors while writing the documentation."]
    | none => pure ()
    say ("[green]RST documentation written to[/green] " ++ directory ++ " (" ++ Text.ofNat written.paths.length ++
      " files)")
    if strict && !report.passed then
      refuse ["[red]" ++ Text.ofNat (report.count .error) ++ " directive error(s)[/red]"]

/-- List the blocks of a file. -/
def listBlocks (path : Text) (nested : Bool) : Run Unit := do
  match (← get).files.read path with
  | .error error => fail (.file error)
  | .ok bytes =>
    match Utf8.decode bytes with
    | .error error => fail (.undecodable error)
    | .ok text =>
      let name := Path.fileName (Path.tidy path)
      let (project, id) := Project.addFile (Text.unifyBreaks text) 1 (some name) none none {}
      let file := project.file id
      let tables := file.tables
      showDrawn (blockTable ("Blocks: " ++ path) (contentCells project.forest nested file.content)).draw
      say (Text.join ", " [Text.ofNat (project.forest.members file.content).length ++ " blocks",
        Text.ofNat tables.functions.length ++ " functions", Text.ofNat tables.classes.length ++ " classes",
        Text.ofNat tables.imports.length ++ " imports"])

/-- The path of a file, as it is shown. -/
def pathLabel (project : Project) (id : FileId) : Text := Markup.escape ((project.file id).path.getD [])

mutual

/-- A tree of what files require, as it is drawn. -/
def branchOf (project : Project) : Unfolding FileId → Branches
  | .fresh id below => .node (pathLabel project id) (branchesOf project below)
  | .repeated id => .node (pathLabel project id ++ " [dim](see above)[/dim]") []

/-- Trees of what files require, as they are drawn. -/
def branchesOf (project : Project) : List (Unfolding FileId) → List Branches
  | [] => []
  | tree :: trees => branchOf project tree :: branchesOf project trees

end

/-- A file and what it requires, as it is drawn. -/
def rootBranches (project : Project) (id : FileId) : Branches :=
  .node ("[bold]" ++ pathLabel project id ++ "[/bold]") (branchesOf project (project.requireTrees id))

/-- Show the files that no other file requires, and what they require. -/
def listRoots (path : Text) : Run Unit := do
  let path := Path.tidy path
  let settings ← match Settings.load (← get).files (settingsPath path) with
    | .ok settings => pure settings
    | .error (.file error) => refuse [errorMessage error.message]
    | .error error => refuseSettings settingsMessage error
  let loaded := Session.autoload (← get).files (some path) none { settings }
  match loaded.error with
  | some (.filter error) =>
    match error.valueMessage? with
    | some message => refuse [settingsMessage message]
    | none => fail (.filter error)
  | some (.undecodable error) => refuse [settingsMessage error.message]
  | some error => refuse [errorMessage error.message]
  | none => pure ()
  let project := loaded.session.project
  if project.linked.isEmpty then
    say (emptyMessage path)
    return
  project.roots.forM fun root => showDrawn (rootBranches project root).draw

/-- Do what is asked for. -/
def act : Action → Run Unit
  | .document path output settingsFile strict => document path output settingsFile strict
  | .listBlocks file nested => listBlocks file nested
  | .listRoots path => listRoots path
  | .writeDefaults directory force => writeDefaults directory force
  | .getSetting key directory => getSetting key directory
  | .setSetting key value directory => setSetting key value directory

end Run

/-- What has come of a command: the files after it, the rows shown, the exit code, what is said about a command
line that is refused, and the failure that ended it. -/
structure Outcome where
  files : Tree
  rows : List Text := []
  exitCode : Nat := 0
  complaint : Text := []
  failure : Option Failure := none

/-- The version of the program. -/
def version : Text := "0.1.0"

/-- Run a command line. -/
def run (files : Tree) (words : List Text) : Outcome :=
  match read files words with
  | .error refusal => { files, exitCode := 2, complaint := refusal.message }
  | .ok (.help help) => { files, rows := help.rows }
  | .ok .version => { files, rows := [programName ++ ", version " ++ version] }
  | .ok (.act action) =>
    let (result, state) := (Run.act action).run.run { files }
    let outcome : Outcome := { files := state.files, rows := state.rows }
    match result with
    | .ok _ => outcome
    | .error .refused => { outcome with exitCode := 1 }
    | .error (.failed failure) => { outcome with exitCode := 1, failure := some failure }

end Docweave.Command
