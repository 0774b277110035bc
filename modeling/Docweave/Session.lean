import Docweave.Directive.Pass
import Docweave.Files.Sources
import Docweave.Page.Document

/-!
# Sessions

A session documents one project: it loads the source files of a directory, applies their directives once,
and writes the pages. Paths of source files are relative to the base of the session.
-/

namespace Docweave

open Files

/-- Why source files cannot be loaded. -/
inductive LoadError where
  | noSuchDirectory (path : Text)
  | noSuchFile (path : Text)
  | undecodable (error : Utf8.DecodeError)
  | filter (error : FilterError)
  deriving DecidableEq, Repr

/-- What is said about source files that cannot be loaded. -/
def LoadError.message : LoadError → Text
  | .noSuchDirectory path => "Project directory not found: " ++ path
  | .noSuchFile path => "No such file: " ++ path
  | .undecodable error => error.message
  | .filter error => error.valueMessage?.getD []

/-- Why there are no pages: the pass over the directives is halted, or the pages cannot be laid out. -/
inductive PagesError where
  | halted
  | layout (error : Page.LayoutError)
  deriving DecidableEq, Repr

/-- Settings, the directory that paths are relative to, the project, and the report on its directives once
they have been applied. -/
structure Session where
  settings : Settings := .default
  base : Text := ['.']
  project : Project := {}
  report : Option Report := none

namespace Session

/-- Where a path of the project leads. -/
def fullPath (session : Session) (path : Text) : Text := Path.child session.base path

/-- Whether a path is that of the main file. -/
def isMainPath (session : Session) (path : Text) : Bool :=
  let main : Text := session.settings.value .main
  !main.isEmpty && path == Path.join [main]

/-- Add a source file with a given text to the project and link it. -/
def addText (text path : Text) (name description : Option Text) (isMain : Bool) (session : Session) :
    Session × FileId :=
  let path := Path.join [path]
  let (project, id) := session.project.addFile text 1 (some path) name description
  ({ session with project := project.link id (isMain || session.isMainPath path) }, id)

/-- Add a source file with given bytes. -/
def addBytes (bytes : List UInt8) (path : Text) (name description : Option Text) (session : Session) :
    Except LoadError (Session × FileId) :=
  match Utf8.decode bytes with
  | .ok text => .ok (session.addText (Text.unifyBreaks text) path name description false)
  | .error error => .error (.undecodable error)

/-- Add a file of the project. -/
def addPath (files : Tree) (path : Text) (name description : Option Text) (session : Session) :
    Except LoadError (Session × FileId) :=
  let full := session.fullPath path
  match files.find? full with
  | some (.file bytes) => session.addBytes bytes path name description
  | _ => .error (.noSuchFile full)

/-- What has been loaded: the session after it, the files added, and the error that ended it early. -/
structure Loaded where
  session : Session
  added : List FileId := []
  error : Option LoadError := none

/-- Add sources one after the other, up to the first that cannot be read. -/
def addSources (session : Session) : List Source → Loaded
  | [] => { session }
  | source :: sources =>
    match session.addBytes source.bytes source.path none none with
    | .error error => { session, error := some error }
    | .ok (session, id) =>
      let rest := addSources session sources
      { rest with added := id :: rest.added }

/-- Add every source file of the project directory, which is the base or replaces it, where patterns are
looked for in a given way. -/
def autoloadBy (search : Search) (files : Tree) (path : Option Text) (recursive : Option Bool)
    (session : Session) : Loaded :=
  let session := { session with base := Path.tidy (path.getD session.base) }
  match files.find? session.base with
  | some (.directory entries) =>
    let recursive := recursive.getD (session.settings.value .recursive)
    let found := sourcesOf (Filter.ofSettings search session.settings recursive) (.directory entries)
    let loaded := session.addSources found.sources
    { loaded with error := loaded.error <|> found.error.map .filter }
  | _ => { session, error := some (.noSuchDirectory session.base) }

/-- Add every source file of the project directory. -/
def autoload (files : Tree) (path : Option Text) (recursive : Option Bool) (session : Session) : Loaded :=
  session.autoloadBy patternFound files path recursive

/-- Apply the directives of all files, unless that has been done. There is no report when the pass is halted. -/
def runDirectives (session : Session) : Session × Option Report :=
  match session.report with
  | some report => (session, some report)
  | none =>
    let (project, report) := session.project.runDirectives
    ({ session with project, report }, report)

/-- Apply the directives and lay out the pages. -/
def generate (session : Session) : Session × Except PagesError (List Page.Sheet) :=
  match session.runDirectives with
  | (session, none) => (session, .error .halted)
  | (session, some _) => (session, (Page.generate session.settings session.project 1).mapError .layout)

/-- What has been written: the files after it, the paths written, and the error that ended it early. -/
structure Written where
  files : Tree
  paths : List Text := []
  error : Option FileError := none

/-- Write pages below a directory, one after the other. -/
def writePages (directory : Text) (files : Tree) : List Page.Sheet → Written
  | [] => { files }
  | page :: pages =>
    let path := Path.child directory page.path
    match files.writeText path page.text with
    | .error error =>
      match files.makeDirectories (Path.parent path) with
      | .ok made => { files := made, error := some error }
      | .error _ => { files, error := some error }
    | .ok files =>
      let rest := writePages directory files pages
      { rest with paths := path :: rest.paths }

/-- Where pages go: to a given directory, or to that of the settings. -/
def outputDirectory (session : Session) (path : Option Text) : Text :=
  match path with
  | some path => Path.tidy path
  | none => session.fullPath (session.settings.value .outputPath)

end Session

end Docweave
