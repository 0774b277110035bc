import Docweave.Proofs.Path.Normal
import Docweave.Proofs.Session.Loading

/-!
# Finding files that were added

A file is registered under the normal form of its path, and what is asked for is brought into normal
form too.  So a file is found under every spelling of its path, and of several files with one path the
one that was added last.
-/

namespace Docweave

open Text

/-- A source file that is to be added, with the path as it is spelled. -/
structure Addition where
  text : Text
  path : Text
  name : Option Text := none
  description : Option Text := none
  isMain : Bool := false
  deriving DecidableEq, Repr

namespace Session

variable {session : Session} {additions : List Addition}

/-- Add source files one after the other. -/
def addEach : List Addition → Session → Session × List FileId
  | [], session => (session, [])
  | addition :: additions, session =>
    let (session, id) := session.addText addition.text addition.path addition.name addition.description
      addition.isMain
    let (session, ids) := addEach additions session
    (session, id :: ids)

/-- The last of some added files whose path has a normal form. -/
def lastUnder (path : Text) (added : List (Addition × FileId)) : Option FileId :=
  (added.reverse.find? fun entry => Path.join [entry.1.path] = path).map Prod.snd

theorem lastUnder_cons (path : Text) (addition : Addition) (id : FileId) (added : List (Addition × FileId)) :
    lastUnder path ((addition, id) :: added) =
      (lastUnder path added).or (if Path.join [addition.path] = path then some id else none) := by
  rw [lastUnder, lastUnder, List.reverse_cons, List.find?_append, Option.map_or]
  congr 1
  by_cases same : Path.join [addition.path] = path
  · simp [same]
  · simp [same]

/-- Each file that is added is a new one. -/
theorem adds_addEach (additions : List Addition) (session : Session) :
    Project.Adds (additions.map fun addition => Path.join [addition.path]) session.project
        (session.addEach additions).1.project ∧
      (session.addEach additions).2 = session.project.nextFiles additions.length := by
  induction additions generalizing session with
  | nil => exact ⟨.refl _, rfl⟩
  | cons addition additions ih =>
      have first : Project.Adds [Path.join [addition.path]] session.project
          (session.addText addition.text addition.path addition.name addition.description
            addition.isMain).1.project := Project.adds_link_addFile _ _ _ _ _ _
      obtain ⟨rest, ids_eq⟩ := ih (session.addText addition.text addition.path addition.name
        addition.description addition.isMain).1
      refine ⟨first.trans rest, ?_⟩
      have nextFiles_eq := Project.nextFiles_add first.size_eq additions.length
      rw [List.length_singleton, Nat.add_comm] at nextFiles_eq
      rw [List.length_cons, nextFiles_eq, ← ids_eq]
      rfl

/-- What is registered after one file was added at the root of a project. -/
theorem registered?_addText (atRoot : session.project.base = ['.']) (addition : Addition) (path : Text) :
    (session.addText addition.text addition.path addition.name addition.description
        addition.isMain).1.project.registered? path =
      if Path.join [addition.path] = path then some ⟨session.project.files.size⟩
      else session.project.registered? path := by
  have joined : Path.join [session.project.base, Path.join [addition.path]] = Path.join [addition.path] := by
    rw [atRoot, Path.join_here, Path.join_singleton, Path.normalize_normalize]
  have registered := Project.registered?_link_addFile session.project addition.text
    (Path.join [addition.path]) addition.name addition.description
    (addition.isMain || session.isMainPath (Path.join [addition.path])) path
  rwa [joined] at registered

theorem registered?_addEach (atRoot : session.project.base = ['.']) (path : Text) :
    (session.addEach additions).1.project.registered? path =
      (lastUnder path (additions.zip (session.addEach additions).2)).or
        (session.project.registered? path) := by
  induction additions generalizing session with
  | nil => rfl
  | cons addition additions ih =>
      have rootThen : (session.addText addition.text addition.path addition.name addition.description
          addition.isMain).1.project.base = ['.'] :=
        (Project.adds_link_addFile _ _ _ _ _ _).base_eq.trans atRoot
      have last := ih rootThen
      rw [registered?_addText atRoot] at last
      rw [addEach, List.zip_cons_cons, lastUnder_cons, Option.or_assoc]
      refine last.trans (congrArg _ ?_)
      split <;> rfl

/-- Whatever files are added to a new session, under whatever spellings of their paths, each is a file
of its own under the normal form of its path; and what is found under a path is the file that was added
last of those whose path has the same normal form, if there is one. -/
theorem fileAt?_addEach (settings : Settings) (base : Text) (additions : List Addition) (path : Text) :
    let (after, ids) := addEach additions { settings, base }
    ids = (List.range additions.length).map FileId.mk ∧
    ids.map (fun id => (after.project.file id).path) =
      additions.map (fun addition => some (Path.join [addition.path])) ∧
    after.project.fileAt? path = lastUnder (Path.join [path]) (additions.zip ids) := by
  obtain ⟨adds, ids_eq⟩ := adds_addEach additions { settings, base }
  refine ⟨?_, ?_, ?_⟩
  · rw [ids_eq, List.range_eq_range']
    rfl
  · rw [ids_eq]
    have paths_eq := adds.paths_eq
    rwa [List.length_map, List.map_map] at paths_eq
  · have atRoot : (addEach additions { settings, base }).1.project.base = ['.'] := adds.base_eq
    rw [Project.fileAt?, atRoot, Path.join_here, ← Path.join_singleton, registered?_addEach rfl]
    exact Option.or_none

/-- Of two files whose paths are spelled in two ways the later one is found under a third. -/
example :
    let additions : List Addition := [⟨"var a", "./lib//a.js", none, none, false⟩,
      ⟨"var b", "b/../lib/a.js", none, none, false⟩]
    (addEach additions {}).1.project.fileAt? "lib/./a.js" = some ⟨1⟩ := by decide +kernel

end Session

end Docweave
