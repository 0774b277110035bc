import Docweave.Proofs.Files.Search
import Docweave.Proofs.Project.Built
import Docweave.Proofs.Project.Registers
import Docweave.Session

/-!
# Loading the files of a directory

The files that a search finds are added to the project and linked one after the other, in the order of
their places.  Each becomes a new file of the project under its path.  What a pattern means is left open:
it is enough that every pattern of the settings has an answer for every text.
-/

namespace Docweave

open Text Files

/-! ## Patterns -/

/-- All patterns of the settings. -/
def Settings.patterns (settings : Settings) : List Value :=
  settings.value .includeOnly ++ settings.value .excludeFiles ++ settings.value .includePaths ++
    settings.value .excludePaths

section Patterns

variable {search : Search} {settings : Settings} {patterns : List Value}

theorem anyFound_decides (text : Text)
    (valid : ∀ pattern ∈ patterns, ∃ answer, search text pattern = .ok answer) :
    ∃ answer, anyFound search text patterns = .ok answer := by
  induction patterns with
  | nil => exact ⟨false, rfl⟩
  | cons pattern patterns ih =>
      obtain ⟨⟨answer, first⟩, others⟩ := List.forall_mem_cons.mp valid
      rw [anyFound, first]
      cases answer with
      | true => exact ⟨true, rfl⟩
      | false => exact ih others

/-- Whether a written pattern is valid does not depend on the text in which it is looked for. -/
theorem patternFound_decides {pattern : Value} {other : Text} (found : (patternFound other pattern).isOk = true)
    (text : Text) : ∃ answer, patternFound text pattern = .ok answer := by
  cases pattern with
  | text written =>
      rw [patternFound] at found ⊢
      cases parses : Pattern.parse written with
      | error error => simp [parses, Except.isOk, Except.toBool] at found
      | ok pattern => exact ⟨pattern.found text, rfl⟩
  | _ => cases found

theorem decides_ofSettings (recursive : Bool)
    (valid : ∀ pattern ∈ settings.patterns, ∀ text, ∃ answer, search text pattern = .ok answer) :
    (Filter.ofSettings search settings recursive).Decides := by
  simp only [Settings.patterns, List.forall_mem_append] at valid
  obtain ⟨⟨⟨includeOnly, excludeFiles⟩, includePaths⟩, excludePaths⟩ := valid
  constructor
  · intro path
    have wanted := anyFound_decides (Path.fileName path) fun pattern member =>
      includeOnly pattern member (Path.fileName path)
    have unwanted := anyFound_decides (Path.fileName path) fun pattern member =>
      excludeFiles pattern member (Path.fileName path)
    simp only [Filter.ofSettings, skipsFileBy]
    split
    · exact unwanted
    · obtain ⟨answer, found⟩ := wanted
      exact ⟨!answer, by rw [found]; rfl⟩
  · intro path
    obtain ⟨answer, wanted⟩ := anyFound_decides path fun pattern member => includePaths pattern member path
    have unwanted := anyFound_decides path fun pattern member => excludePaths pattern member path
    simp only [Filter.ofSettings, skipsDirectoryBy, wanted]
    cases answer with
    | true => exact ⟨false, rfl⟩
    | false => exact unwanted

end Patterns

namespace Project

variable {before middle after project : Project} {path text : Text} {first second : List Text}
variable {id : FileId}

/-! ## Adding files -/

/-- The next files of a project. -/
def nextFiles (project : Project) (count : Nat) : List FileId :=
  (List.range' project.files.size count).map FileId.mk

/-- Files under some paths were added to a project and linked in that order.  Nothing else about the list
and the register has changed, where no path was taken. -/
structure Adds (paths : List Text) (before after : Project) : Prop where
  size_eq : after.files.size = before.files.size + paths.length
  base_eq : after.base = before.base
  path_eq : ∀ id, before.HasFile id → (after.file id).path = (before.file id).path
  paths_eq : (before.nextFiles paths.length).map (fun id => (after.file id).path) = paths.map some
  registered?_eq : ∀ other, (∀ path ∈ paths, Path.join [before.base, path] ≠ other) →
    after.registered? other = before.registered? other
  linked_eq : (paths.map fun path => Path.join [before.base, path]).Nodup →
    (∀ path ∈ paths, before.registered? (Path.join [before.base, path]) = none) →
    after.linked = before.linked ++ before.nextFiles paths.length

theorem hasFile_of_mem_nextFiles {count : Nat} (membership : id ∈ before.nextFiles count)
    (size_eq : after.files.size = before.files.size + count) : after.HasFile id := by
  obtain ⟨index, inRange, rfl⟩ := List.mem_map.mp membership
  have := List.mem_range'_1.mp inRange
  rw [HasFile, size_eq]
  exact this.2

theorem nextFiles_add {count : Nat} (size_eq : middle.files.size = before.files.size + count) (more : Nat) :
    before.nextFiles (count + more) = before.nextFiles count ++ middle.nextFiles more := by
  rw [nextFiles, nextFiles, nextFiles, size_eq, ← List.map_append, List.range'_append_1]

theorem Adds.refl (project : Project) : Adds [] project project where
  size_eq := rfl
  base_eq := rfl
  path_eq _ _ := rfl
  paths_eq := rfl
  registered?_eq _ _ := rfl
  linked_eq _ _ := (List.append_nil _).symm

theorem Adds.trans (early : Adds first before middle) (late : Adds second middle after) :
    Adds (first ++ second) before after where
  size_eq := by rw [late.size_eq, early.size_eq, List.length_append, Nat.add_assoc]
  base_eq := late.base_eq.trans early.base_eq
  path_eq id has := by
    have hasThen : middle.HasFile id := by
      rw [HasFile, early.size_eq]
      exact Nat.lt_add_right _ has
    rw [late.path_eq id hasThen, early.path_eq id has]
  paths_eq := by
    have kept : (before.nextFiles first.length).map (fun id => (after.file id).path) =
        (before.nextFiles first.length).map fun id => (middle.file id).path :=
      List.map_congr_left fun id membership =>
        late.path_eq id (hasFile_of_mem_nextFiles membership early.size_eq)
    rw [List.length_append, nextFiles_add early.size_eq, List.map_append, List.map_append, kept,
      early.paths_eq, late.paths_eq]
  registered?_eq other apart := by
    obtain ⟨apartFirst, apartSecond⟩ := List.forall_mem_append.mp apart
    rw [late.registered?_eq other (by rwa [early.base_eq]), early.registered?_eq other apartFirst]
  linked_eq distinct free := by
    rw [List.map_append, List.nodup_append] at distinct
    obtain ⟨distinctFirst, distinctSecond, apart⟩ := distinct
    obtain ⟨freeFirst, freeSecond⟩ := List.forall_mem_append.mp free
    have freeThen : ∀ path ∈ second, middle.registered? (Path.join [middle.base, path]) = none := by
      intro path membership
      rw [early.base_eq, early.registered?_eq, freeSecond path membership]
      intro other otherMember same
      exact apart _ (List.mem_map_of_mem otherMember) _ (List.mem_map_of_mem membership) same
    rw [late.linked_eq (by rwa [early.base_eq]) freeThen, early.linked_eq distinctFirst freeFirst,
      List.length_append, nextFiles_add early.size_eq, List.append_assoc]

theorem sameFiles_modifyFile {change : SourceFile → SourceFile}
    (path_eq : ∀ file, (change file).path = file.path)
    (tables_eq : ∀ file, (change file).tables = file.tables) :
    SameFiles project (project.modifyFile id change) where
  hasFile _ := hasFile_modifyFile
  base_eq := rfl
  path_eq _ := view_modifyFile SourceFile.path path_eq
  tables_eq _ := view_modifyFile SourceFile.tables tables_eq

theorem sameFiles_addEdges (project : Project) (edges : List (FileId × FileId)) :
    SameFiles project (project.addEdges edges) := by
  induction edges generalizing project with
  | nil => exact .refl project
  | cons edge edges ih =>
      refine .trans ?_ (ih (project.addEdge edge.1 edge.2))
      rw [addEdge]
      refine .trans (sameFiles_modifyFile ?_ ?_) (sameFiles_modifyFile ?_ ?_)
      all_goals exact fun _ => rfl

theorem sameFiles_link (project : Project) (id : FileId) (isMain : Bool) :
    SameFiles project (project.link id isMain) := by
  obtain ⟨files_eq, base_eq⟩ := files_link project id isMain
  have same := sameFiles_addEdges project (project.newEdges id)
  refine ⟨fun other => ?_, base_eq.trans same.base_eq, fun other => ?_, fun other => ?_⟩
  · rw [HasFile, files_eq]
    exact same.hasFile other
  · rw [file, files_eq]
    exact same.path_eq other
  · rw [file, files_eq]
    exact same.tables_eq other

theorem SameFiles.size_eq (same : SameFiles before after) : after.files.size = before.files.size :=
  eq_of_forall_lt_iff fun index => same.hasFile ⟨index⟩

theorem path_addFile (project : Project) (text : Text) (row : Int) (path name description : Option Text)
    (id : FileId) :
    ((project.addFile text row path name description).1.file id).path =
      ((project.withFile path name description).file id).path := by
  rw [addFile_eq]
  exact view_modifyFile SourceFile.path fun _ => rfl

theorem size_addFile (project : Project) (text : Text) (row : Int) (path name description : Option Text) :
    (project.addFile text row path name description).1.files.size = project.files.size + 1 := by
  simp [addFile, load, rebuildTables, modifyForest, modifyFile]

theorem path_addFile_self (project : Project) (text : Text) (row : Int) (path name description : Option Text) :
    ((project.addFile text row path name description).1.file ⟨project.files.size⟩).path = path := by
  rw [path_addFile]
  simp [withFile, file]

section LinkAddFile

variable (project : Project) (text path : Text) (name description : Option Text) (isMain : Bool)

theorem filePath_addFile_self :
    (project.addFile text 1 (some path) name description).1.filePath ⟨project.files.size⟩ =
      Path.join [project.base, path] := by
  rw [filePath, path_addFile_self project text 1 (some path) name description]
  rfl

/-- A file that is linked at once is the one that is registered under its path. -/
theorem registered?_link_addFile (other : Text) :
    ((project.addFile text 1 (some path) name description).1.link ⟨project.files.size⟩ isMain).registered?
        other =
      if Path.join [project.base, path] = other then some ⟨project.files.size⟩
      else project.registered? other := by
  rw [registered?, paths_link_eq, filePath_addFile_self, Value.find?_putEntry]
  rfl

/-- A file with a text, which is linked at once. -/
theorem adds_link_addFile :
    Adds [path] project ((project.addFile text 1 (some path) name description).1.link
      ⟨project.files.size⟩ isMain) := by
  have same := sameFiles_link (project.addFile text 1 (some path) name description).1
    ⟨project.files.size⟩ isMain
  have path_self := path_addFile_self project text 1 (some path) name description
  constructor
  · rw [same.size_eq, size_addFile]
    rfl
  · rw [same.base_eq]
    rfl
  · intro id has
    rw [same.path_eq, path_addFile, file_withFile_of_has has]
  · rw [nextFiles, List.length_singleton, List.range'_one, List.map_singleton, List.map_singleton,
      same.path_eq, path_self]
    rfl
  · intro other apart
    rw [registered?_link_addFile, if_neg (apart path List.mem_cons_self)]
  · intro _ free
    rw [linked_link isMain]
    · rfl
    · rw [filePath_addFile_self]
      exact free path List.mem_cons_self

end LinkAddFile

end Project

namespace Session

variable {session : Session} {units : List (List Text × Text)} {listing : List (List Text × List UInt8)}

/-! ## Adding texts -/

/-- The session after texts were added under the paths of places and linked, one after the other. -/
def addTexts (units : List (List Text × Text)) (session : Session) : Session :=
  units.foldl (fun session unit => (session.addText unit.2 (Path.ofPlace unit.1) none none false).1) session

theorem adds_addText (text path : Text) (session : Session) :
    Project.Adds [Path.join [path]] session.project
      (session.addText text path none none false).1.project :=
  Project.adds_link_addFile _ _ _ _ _ _

theorem adds_addTexts (session : Session) (names : ∀ unit ∈ units, ∀ name ∈ unit.1, Path.IsName name) :
    Project.Adds (units.map fun unit => Path.ofPlace unit.1) session.project
      (session.addTexts units).project := by
  induction units generalizing session with
  | nil => exact .refl _
  | cons unit units ih =>
      obtain ⟨isName, others⟩ := List.forall_mem_cons.mp names
      have first := adds_addText unit.2 (Path.ofPlace unit.1) session
      rw [Path.join_ofPlace isName] at first
      exact first.trans (ih _ others)

/-- What a file at a place is added as. -/
def unitOf (file : List Text × List UInt8) : List Text × Text :=
  (file.1, unifyBreaks ((Utf8.decode file.2).toOption.getD []))

/-- Files that can be read are all added. -/
theorem addSources_eq (readable : ∀ file ∈ listing, ∃ text, Utf8.decode file.2 = .ok text) :
    session.addSources (listing.map fun file => ⟨Path.ofPlace file.1, file.2⟩) =
      { session := session.addTexts (listing.map unitOf)
        added := session.project.nextFiles listing.length } := by
  induction listing generalizing session with
  | nil => rfl
  | cons file listing ih =>
      obtain ⟨⟨text, decoded⟩, others⟩ := List.forall_mem_cons.mp readable
      have added : session.addBytes file.2 (Path.ofPlace file.1) none none =
          .ok (session.addText (unifyBreaks text) (Path.ofPlace file.1) none none false) := by
        rw [addBytes, decoded]
      have unit_eq : unitOf file = (file.1, unifyBreaks text) := by
        rw [unitOf, decoded]
        rfl
      have first := adds_addText (unifyBreaks text) (Path.ofPlace file.1) session
      have nextFiles_eq := Project.nextFiles_add first.size_eq listing.length
      rw [List.length_singleton, Nat.add_comm] at nextFiles_eq
      rw [List.map_cons, addSources, added]
      simp only [ih others]
      rw [List.map_cons, unit_eq, List.length_cons, nextFiles_eq]
      rfl

theorem mem_map_unitOf (readable : ∀ file ∈ listing, ∃ text, Utf8.decode file.2 = .ok text)
    {place : List Text} {text : Text} :
    (place, text) ∈ listing.map unitOf ↔ ∃ bytes decoded, (place, bytes) ∈ listing ∧
      Utf8.decode bytes = .ok decoded ∧ text = unifyBreaks decoded := by
  rw [List.mem_map]
  constructor
  · rintro ⟨⟨_, bytes⟩, isListed, same⟩
    cases same
    obtain ⟨decoded, decodes⟩ := readable _ isListed
    refine ⟨bytes, decoded, isListed, decodes, ?_⟩
    rw [decodes]
    rfl
  · rintro ⟨bytes, decoded, isListed, decodes, rfl⟩
    refine ⟨(place, bytes), isListed, ?_⟩
    rw [unitOf, decodes]
    rfl

/-! ## Loading a directory -/

section Directory

variable {search : Search} {files : Tree} {path : Option Text} {entries : List (Text × Tree)}

theorem autoloadBy_eq (recursive : Option Bool)
    (isDirectory : files.find? (Path.tidy (path.getD session.base)) = some (.directory entries))
    (found_eq : sourcesOf (.ofSettings search session.settings
        (recursive.getD (session.settings.value .recursive))) (.directory entries) =
      { sources := listing.map fun file => ⟨Path.ofPlace file.1, file.2⟩ })
    (readable : ∀ file ∈ listing, ∃ text, Utf8.decode file.2 = .ok text) :
    session.autoloadBy search files path recursive =
      { session := { session with base := Path.tidy (path.getD session.base) }.addTexts (listing.map unitOf)
        added := session.project.nextFiles listing.length } := by
  simp only [autoloadBy, isDirectory, found_eq, addSources_eq readable]
  rfl

/-- Where paths are relative to the root of a project, files at different places under paths that are not
taken are listed in the order in which they are added. -/
theorem linked_addTexts (session : Session) (atRoot : session.project.base = ['.'])
    (names : ∀ unit ∈ units, ∀ name ∈ unit.1, Path.IsName name) (distinct : (units.map Prod.fst).Nodup)
    (free : ∀ unit ∈ units, session.project.registered? (Path.ofPlace unit.1) = none) :
    (session.addTexts units).project.linked =
      session.project.linked ++ session.project.nextFiles units.length := by
  have joined : ∀ unit ∈ units,
      Path.join [session.project.base, Path.ofPlace unit.1] = Path.ofPlace unit.1 := by
    intro unit isUnit
    rw [atRoot]
    exact Path.join_ofPlace_ofPlace (List.forall_mem_nil _) (names unit isUnit)
  have linked_eq := (adds_addTexts session names).linked_eq
  rw [List.length_map, List.map_map] at linked_eq
  apply linked_eq
  · have paths_eq : units.map ((fun path => Path.join [session.project.base, path]) ∘
        fun unit => Path.ofPlace unit.1) = (units.map Prod.fst).map Path.ofPlace := by
      rw [List.map_map]
      exact List.map_congr_left joined
    rw [paths_eq]
    apply List.Nodup.map_on _ distinct
    intro place isPlace other isOther same
    obtain ⟨unit, isUnit, rfl⟩ := List.mem_map.mp isPlace
    obtain ⟨otherUnit, otherIsUnit, rfl⟩ := List.mem_map.mp isOther
    exact Path.ofPlace_injective (names unit isUnit) (names otherUnit otherIsUnit) same
  · intro path isPath
    obtain ⟨unit, isUnit, rfl⟩ := List.mem_map.mp isPath
    rw [joined unit isUnit]
    exact free unit isUnit

/-- Every file of a directory is added that is not passed over and to which only directories lead that are
entered, none twice, in the order of the components of places, and the files are linked in this order. -/
theorem autoload_finds (recursive : Option Bool)
    (isDirectory : files.find? (Path.tidy (path.getD session.base)) = some (.directory entries))
    (readable : (Tree.directory entries).Readable)
    (valid : ∀ pattern ∈ session.settings.patterns, ∀ text, ∃ answer, search text pattern = .ok answer) :
    let base := Path.tidy (path.getD session.base)
    let loaded := session.autoloadBy search files path recursive
    ∃ units : List (List Text × Text),
      (∀ place text, (place, text) ∈ units ↔ ∃ bytes decoded,
        (Tree.directory entries).get? place = some (.file bytes) ∧
        Utf8.decode bytes = .ok decoded ∧ text = unifyBreaks decoded ∧
        skipsFileBy search session.settings (Path.ofPlace place) = .ok false ∧
        ∀ front back, place = front ++ back → front ≠ [] → back ≠ [] →
          recursive.getD (session.settings.value .recursive) = true ∧
          skipsDirectoryBy search session.settings (Path.ofPlace front) = .ok false) ∧
      (units.map Prod.fst).Pairwise (· < ·) ∧
      loaded.error = none ∧
      loaded.session = { session with base }.addTexts units ∧
      loaded.added = session.project.nextFiles units.length ∧
      loaded.added.map (fun id => (loaded.session.project.file id).path) =
        units.map (fun unit => some (Path.ofPlace unit.1)) ∧
      (session.project.base = ['.'] →
        (∀ unit ∈ units, session.project.registered? (Path.ofPlace unit.1) = none) →
        loaded.session.project.linked = session.project.linked ++ loaded.added) := by
  intro base loaded
  obtain ⟨listing, found_eq, sorted, membership⟩ :=
    lists_sourcesOf (decides_ofSettings (recursive.getD (session.settings.value .recursive)) valid) readable
  have listed : ∀ file ∈ listing, (Tree.directory entries).get? file.1 = some (.file file.2) :=
    fun file isListed => ((membership file.1 file.2).mp isListed).1
  have decodes : ∀ file ∈ listing, ∃ text, Utf8.decode file.2 = .ok text := by
    intro file isListed
    cases (readable.of_get? (listed file isListed)).2 with
    | file decodes => exact ⟨_, decodes⟩
  have loaded_eq : loaded = { session := { session with base }.addTexts (listing.map unitOf)
                              added := session.project.nextFiles listing.length } :=
    autoloadBy_eq recursive isDirectory found_eq decodes
  have names : ∀ unit ∈ listing.map unitOf, ∀ name ∈ unit.1, Path.IsName name := by
    intro unit isUnit
    obtain ⟨file, isListed, rfl⟩ := List.mem_map.mp isUnit
    exact (readable.of_get? (listed file isListed)).1
  have places_eq : (listing.map unitOf).map Prod.fst = listing.map Prod.fst := by
    rw [List.map_map]
    rfl
  refine ⟨listing.map unitOf, ?_, ?_, ?_, ?_, ?_, ?_, ?_⟩
  · intro place text
    rw [mem_map_unitOf decodes]
    constructor
    · rintro ⟨bytes, decoded, isListed, decoded_eq, text_eq⟩
      obtain ⟨isThere, kept, enters⟩ := (membership place bytes).mp isListed
      exact ⟨bytes, decoded, isThere, decoded_eq, text_eq, kept, enters⟩
    · rintro ⟨bytes, decoded, isThere, decoded_eq, text_eq, kept, enters⟩
      exact ⟨bytes, decoded, (membership place bytes).mpr ⟨isThere, kept, enters⟩, decoded_eq, text_eq⟩
  · rwa [places_eq]
  · rw [loaded_eq]
  · rw [loaded_eq]
  · rw [loaded_eq, List.length_map]
  · have paths_eq := (adds_addTexts { session with base } names).paths_eq
    rw [List.length_map, List.length_map, List.map_map] at paths_eq
    rw [loaded_eq]
    exact paths_eq
  · intro atRoot free
    have distinct : ((listing.map unitOf).map Prod.fst).Nodup := by
      rw [places_eq]
      apply sorted.imp
      rintro place _ before rfl
      exact List.lt_irrefl place before
    have linked_eq := linked_addTexts { session with base } atRoot names distinct free
    rw [List.length_map] at linked_eq
    rw [loaded_eq]
    exact linked_eq

theorem autoload_finds_tree :
    let text : Text := "var n = 1\n"
    let file : Tree := .file (Utf8.encode text)
    let files : Tree := .directory [("b.js", file), ("a", .directory [("c.mjs", file)]),
      ("node_modules", .directory [("d.js", file)])]
    let loaded := ({} : Session).autoload files none none
    files.Readable ∧ ∃ units : List (List Text × Text),
      (["b.js".toList], text) ∈ units ∧ (["a".toList, "c.mjs".toList], text) ∈ units ∧
      (∀ other, (["node_modules".toList, "d.js".toList], other) ∉ units) ∧
      (units.map Prod.fst).Pairwise (· < ·) ∧ loaded.error = none ∧
      loaded.session = ({} : Session).addTexts units ∧
      loaded.session.project.linked = loaded.added := by
  intro text file files loaded
  have decodes : Utf8.decode (Utf8.encode text) = .ok text := rfl
  have readable : files.Readable := by
    have isFile : file.Readable := .file decodes
    have single : ∀ name, Path.IsName name → (Tree.directory [(name, file)]).Readable := fun name isName =>
      .directory (List.forall_mem_singleton.mpr isName) (List.nodup_singleton _)
        (List.forall_mem_singleton.mpr isFile)
    refine .directory (by decide) (by decide) ?_
    refine List.forall_mem_cons.mpr ⟨isFile, List.forall_mem_cons.mpr ⟨?_, ?_⟩⟩
    · exact single _ (by decide)
    · exact List.forall_mem_singleton.mpr (single _ (by decide))
  have valid : ∀ pattern ∈ ({} : Session).settings.patterns, ∀ text,
      ∃ answer, patternFound text pattern = .ok answer := by
    have found : ∀ pattern ∈ ({} : Session).settings.patterns, (patternFound [] pattern).isOk = true := by
      decide +kernel
    exact fun pattern isPattern text => patternFound_decides (found pattern isPattern) text
  obtain ⟨kept, entered⟩ : (∀ path ∈ ["b.js".toList, "a/c.mjs".toList],
        skipsFileBy patternFound .default path = .ok false) ∧
      skipsDirectoryBy patternFound .default "a" = .ok false ∧
      skipsDirectoryBy patternFound .default "node_modules" = .ok true := by
    decide +kernel
  obtain ⟨units, membership, sorted, loads, session_eq, -, -, listed⟩ :=
    @autoload_finds {} patternFound files none _ none rfl readable valid
  refine ⟨readable, units, ?_, ?_, ?_, sorted, loads, session_eq, listed rfl fun _ _ => rfl⟩
  · refine (membership _ _).mpr ⟨_, text, rfl, decodes, rfl, kept "b.js".toList (by simp), ?_⟩
    intro front back split isBelow isOn
    obtain ⟨name, front, rfl⟩ := List.exists_cons_of_ne_nil isBelow
    have ends := (List.cons_eq_cons.mp split).2
    exact absurd (List.append_eq_nil_iff.mp ends.symm).2 isOn
  · refine (membership _ _).mpr ⟨_, text, rfl, decodes, rfl, kept "a/c.mjs".toList (by simp), ?_⟩
    intro front back split isBelow isOn
    obtain ⟨name, front, rfl⟩ := List.exists_cons_of_ne_nil isBelow
    obtain ⟨rfl, ends⟩ := List.cons_eq_cons.mp split
    cases front with
    | nil => exact ⟨rfl, entered.1⟩
    | cons second front =>
        have ends := (List.cons_eq_cons.mp ends).2
        exact absurd (List.append_eq_nil_iff.mp ends.symm).2 isOn
  · intro other isUnit
    obtain ⟨_, _, -, -, -, -, enters⟩ := (membership _ _).mp isUnit
    have notEntered := (enters ["node_modules".toList] ["d.js".toList] rfl (by simp) (by simp)).2
    exact absurd (entered.2.symm.trans notEntered) (by simp)

end Directory

end Session

end Docweave
