import Docweave.Proofs.Project.Roots

/-!
# The list of linked files and the register of paths

Both are about the files that were linked, and both have one entry for each path.  When several files
are at the same path, the list keeps the first of them and the register the last, so the two agree
exactly when no path comes twice.
-/

namespace Docweave

open Text

/-! ## Entries of a list -/

namespace Value

variable {α : Type} {key path : Text} {value : α} {entries : List (Text × α)}

theorem find?_putEntry :
    ((putEntry (· == ·) key value entries).find? fun entry => entry.1 == path).map Prod.snd =
      if key = path then some value
      else (entries.find? fun entry => entry.1 == path).map Prod.snd := by
  induction entries with
  | nil =>
      by_cases same : key = path
      · simp [putEntry, same]
      · simp [putEntry, same]
  | cons entry entries ih =>
      obtain ⟨other, old⟩ := entry
      by_cases atKey : other = key
      · subst atKey
        by_cases same : other = path
        · simp [putEntry, same]
        · simp [putEntry, same]
      · by_cases atPath : other = path
        · subst atPath
          simp [putEntry, atKey, Ne.symm atKey]
        · simpa [putEntry, atKey, atPath] using ih

/-- A key that is there keeps its place, and a new one comes last. -/
theorem map_fst_putEntry :
    (putEntry (· == ·) key value entries).map Prod.fst =
      if key ∈ entries.map Prod.fst then entries.map Prod.fst else entries.map Prod.fst ++ [key] := by
  induction entries with
  | nil => rfl
  | cons entry entries ih =>
      obtain ⟨other, old⟩ := entry
      by_cases atKey : other = key
      · simp [putEntry, atKey]
      · simp only [putEntry, beq_iff_eq, atKey, if_false, List.map_cons, ih, List.mem_cons,
          Ne.symm atKey, false_or]
        split <;> rfl

/-- Where no key comes twice, an entry is the one that is found under its key. -/
theorem mem_iff_find? (nodup : (entries.map Prod.fst).Nodup) :
    (key, value) ∈ entries ↔
      (entries.find? fun entry => entry.1 == key).map Prod.snd = some value := by
  induction entries with
  | nil => simp
  | cons entry entries ih =>
      obtain ⟨other, old⟩ := entry
      obtain ⟨new, nodupTail⟩ := List.nodup_cons.mp nodup
      by_cases same : other = key
      · subst same
        have notLater : (other, value) ∉ entries := fun later =>
          new (List.mem_map.mpr ⟨_, later, rfl⟩)
        simp [notLater, eq_comm]
      · simpa [same, Ne.symm same] using ih nodupTail

end Value

namespace Project

variable {project after : Project} {done : List FileId} {id other : FileId} {path : Text}

/-! ## The first and the last file at a path -/

/-- The first of some files that is at a path. -/
def firstAt (project : Project) (path : Text) (ids : List FileId) : Option FileId :=
  ids.find? fun id => project.filePath id == path

/-- The last of some files that is at a path. -/
def lastAt (project : Project) (path : Text) (ids : List FileId) : Option FileId :=
  project.firstAt path ids.reverse

theorem firstAt_append (ids more : List FileId) :
    project.firstAt path (ids ++ more) = (project.firstAt path ids).or (project.firstAt path more) :=
  List.find?_append

theorem firstAt_singleton :
    project.firstAt path [id] = if project.filePath id = path then some id else none := by
  by_cases same : project.filePath id = path
  · simp [firstAt, same]
  · simp [firstAt, same]

theorem lastAt_append_singleton :
    project.lastAt path (done ++ [id]) =
      if project.filePath id = path then some id else project.lastAt path done := by
  rw [lastAt, lastAt, List.reverse_append, List.reverse_singleton, firstAt_append, firstAt_singleton]
  split <;> rfl

theorem filePath_of_firstAt (found : project.firstAt path done = some id) :
    project.filePath id = path := by
  simpa using List.find?_some found

theorem mem_of_lastAt (found : project.lastAt path done = some id) : id ∈ done :=
  List.mem_reverse.mp (List.mem_of_find?_eq_some found)

theorem isSome_lastAt : (project.lastAt path done).isSome = (project.firstAt path done).isSome := by
  rw [Bool.eq_iff_iff, lastAt, firstAt, firstAt, List.find?_isSome, List.find?_isSome]
  simp only [List.mem_reverse]

/-- Of different files at different paths, each is the first and the last one at its path. -/
theorem firstAt_eq_some_of_nodup (nodup : (done.map project.filePath).Nodup) :
    project.firstAt (project.filePath id) done = some id ↔ id ∈ done := by
  constructor
  · exact List.mem_of_find?_eq_some
  · intro membership
    obtain ⟨found, first⟩ : ∃ found, project.firstAt (project.filePath id) done = some found :=
      Option.isSome_iff_exists.mp (List.find?_isSome.mpr ⟨id, membership, beq_self_eq_true _⟩)
    rw [first, List.inj_on_of_nodup_map nodup (List.mem_of_find?_eq_some first) membership
      (filePath_of_firstAt first)]

/-- Where the first file at a path is also the last one, no other file is at it. -/
theorem eq_of_firstAt_of_lastAt (nodup : done.Nodup) (first : project.firstAt path done = some id)
    (last : project.lastAt path done = some id) (membership : other ∈ done)
    (atPath : project.filePath other = path) : other = id := by
  obtain ⟨-, earlier, later, done_eq, noEarlier⟩ := List.find?_eq_some_iff_append.mp first
  obtain ⟨-, after, before, reversed_eq, noAfter⟩ := List.find?_eq_some_iff_append.mp last
  have split_eq : earlier ++ id :: later = before.reverse ++ id :: after.reverse := by
    rw [← done_eq, ← List.reverse_reverse done, reversed_eq]
    simp
  have later_eq : later = after.reverse := by
    rw [done_eq] at nodup
    obtain ⟨once, -⟩ := List.nodup_cons.mp (List.nodup_middle.mp nodup)
    rw [List.mem_append, not_or] at once
    exact ((List.append_cons_inj_of_notMem once.1 once.2).mp split_eq).2.2
  rw [done_eq, List.mem_append, List.mem_cons] at membership
  rcases membership with inEarlier | same | inLater
  · simpa [atPath] using noEarlier other inEarlier
  · exact same
  · rw [later_eq, List.mem_reverse] at inLater
    simpa [atPath] using noAfter other inLater

/-! ## Linking one file after the other -/

/-- Files were linked, and some of them may be at the same path: the list has the first one at each
path and the register the last one. -/
structure Registers (project : Project) (done : List FileId) (after : Project) : Prop where
  sameFiles : SameFiles project after
  known : ∀ id ∈ done, project.HasFile id
  keys_eq : after.paths.map Prod.fst = after.linked.map project.filePath
  nodup_keys : (after.paths.map Prod.fst).Nodup
  mem_linked : ∀ id, id ∈ after.linked ↔ project.firstAt (project.filePath id) done = some id
  registered?_eq : ∀ path, after.registered? path = project.lastAt path done

namespace Registers

theorem nil (unregistered : project.paths = []) (unlisted : project.linked = []) :
    Registers project [] project where
  sameFiles := .refl project
  known := by simp
  keys_eq := by simp [unregistered, unlisted]
  nodup_keys := by simp [unregistered]
  mem_linked := by simp [unlisted, firstAt]
  registered?_eq := by simp [registered?, unregistered, lastAt, firstAt]

theorem mem_paths (registers : Registers project done after) :
    (path, id) ∈ after.paths ↔ project.lastAt path done = some id := by
  rw [← registers.registered?_eq, registered?]
  exact Value.mem_iff_find? registers.nodup_keys

/-- The files in the register are those that are the last one at their path. -/
theorem mem_registered (registers : Registers project done after) :
    id ∈ after.paths.map Prod.snd ↔ project.lastAt (project.filePath id) done = some id := by
  constructor
  · intro membership
    obtain ⟨⟨path, found⟩, entryIn, rfl⟩ := List.mem_map.mp membership
    have last := registers.mem_paths.mp entryIn
    rw [filePath_of_firstAt last]
    exact last
  · intro last
    exact List.mem_map_of_mem (registers.mem_paths.mpr last)

theorem hasFile_of_mem_paths (registers : Registers project done after)
    (membership : (path, id) ∈ after.paths) : after.HasFile id :=
  (registers.sameFiles.hasFile id).mpr
    (registers.known id (mem_of_lastAt (registers.mem_paths.mp membership)))

theorem hasFile_of_newEdges (registers : Registers project done after) (known : project.HasFile id) :
    ∀ edge ∈ after.newEdges id, after.HasFile edge.1 ∧ after.HasFile edge.2 := by
  have knownThen : after.HasFile id := (registers.sameFiles.hasFile id).mpr known
  intro edge membership
  rw [newEdges, List.mem_append, List.mem_map, List.mem_map] at membership
  rcases membership with ⟨⟨path, other⟩, requiring, rfl⟩ | ⟨other, required, rfl⟩
  · exact ⟨registers.hasFile_of_mem_paths (List.mem_filter.mp requiring).1, knownThen⟩
  · obtain ⟨path, -, found⟩ := List.mem_filterMap.mp required
    have registered := (Option.filter_eq_some_iff.mp found).1
    rw [registers.registered?_eq] at registered
    exact ⟨knownThen, registers.hasFile_of_mem_paths (registers.mem_paths.mpr registered)⟩

theorem linked_link (registers : Registers project done after) (id : FileId) (isMain : Bool) :
    (after.link id isMain).linked =
      if (project.firstAt (project.filePath id) done).isSome then after.linked
      else after.linked ++ [id] := by
  have registered?_eq : (after.addEdges (after.newEdges id)).registered? (after.filePath id) =
      project.lastAt (project.filePath id) done := by
    rw [registered?, paths_addEdges, ← registers.registered?_eq, registers.sameFiles.filePath_eq]
    rfl
  have linked_eq : ((after.addEdges (after.newEdges id)).register id (after.filePath id)).linked =
      if (project.firstAt (project.filePath id) done).isSome then after.linked
      else after.linked ++ [id] := by
    rw [register, registered?_eq, isSome_lastAt, ← linked_addEdges after (after.newEdges id)]
    split <;> rfl
  rw [link_eq]
  cases isMain <;> exact linked_eq

/-- A path is in the register when one of the files is at it. -/
theorem mem_keys (registers : Registers project done after) :
    path ∈ after.paths.map Prod.fst ↔ (project.firstAt path done).isSome := by
  rw [← isSome_lastAt, Option.isSome_iff_exists, List.mem_map]
  constructor
  · rintro ⟨⟨path, id⟩, entryIn, rfl⟩
    exact ⟨id, registers.mem_paths.mp entryIn⟩
  · rintro ⟨id, last⟩
    exact ⟨(path, id), registers.mem_paths.mpr last, rfl⟩

theorem keys_link (registers : Registers project done after) (id : FileId) (isMain : Bool) :
    (after.link id isMain).paths.map Prod.fst =
      if (project.firstAt (project.filePath id) done).isSome then after.paths.map Prod.fst
      else after.paths.map Prod.fst ++ [project.filePath id] := by
  rw [paths_link_eq, registers.sameFiles.filePath_eq, Value.map_fst_putEntry]
  simp only [registers.mem_keys]

theorem link (registers : Registers project done after) (known : project.HasFile id)
    (isMain : Bool) : Registers project (done ++ [id]) (after.link id isMain) := by
  have added := addsEdges_link isMain (registers.hasFile_of_newEdges known)
  have linked_eq := registers.linked_link id isMain
  have keys_eq := registers.keys_link id isMain
  constructor
  · exact registers.sameFiles.trans added.sameFiles
  · intro other membership
    rcases List.mem_append.mp membership with inDone | isNew
    · exact registers.known other inDone
    · rw [List.mem_singleton.mp isNew]
      exact known
  · rw [keys_eq, linked_eq, registers.keys_eq]
    split
    · rfl
    · rw [List.map_append]
      rfl
  · rw [keys_eq]
    split
    · exact registers.nodup_keys
    · rename_i free
      rw [← registers.mem_keys] at free
      exact List.nodup_append.mpr ⟨registers.nodup_keys, List.nodup_singleton _, by
        rintro path pathIn _ isNew rfl
        rw [List.mem_singleton.mp isNew] at pathIn
        exact free pathIn⟩
  · intro other
    rw [linked_eq, firstAt_append, firstAt_singleton]
    have listed := registers.mem_linked other
    by_cases samePlace : project.filePath id = project.filePath other
    · rw [samePlace, if_pos rfl]
      cases first : project.firstAt (project.filePath other) done with
      | none =>
          rw [first] at listed
          simp [listed, eq_comm]
      | some found =>
          rw [first] at listed
          simpa using listed
    · have different : other ≠ id := by
        rintro rfl
        exact samePlace rfl
      rw [if_neg samePlace, Option.or_none, ← listed]
      split
      · rfl
      · simp [different]
  · intro path
    rw [lastAt_append_singleton, ← registers.registered?_eq, registered?, paths_link_eq,
      registers.sameFiles.filePath_eq, Value.find?_putEntry]
    rfl

theorem linkInOrder {order : List (FileId × Bool)} (registers : Registers project done after)
    (known : ∀ entry ∈ order, project.HasFile entry.1) :
    Registers project (done ++ order.map Prod.fst) (after.linkInOrder order) := by
  induction order generalizing done after with
  | nil => simpa [Project.linkInOrder] using registers
  | cons entry order ih =>
      obtain ⟨id, isMain⟩ := entry
      have step := registers.link (known _ List.mem_cons_self) isMain
      have rest := ih step fun entry inTail => known entry (List.mem_cons_of_mem _ inTail)
      rw [List.map_cons, List.append_cons]
      exact rest

end Registers

/-- The list of linked files has the first file at each path and the register the last one, under
the same paths in the same order.  The two are about the same files exactly when no two of the files
are at the same path. -/
theorem registers_linkInOrder (project : Project) (unregistered : project.paths = [])
    (unlisted : project.linked = []) (order : List (FileId × Bool))
    (known : ∀ entry ∈ order, project.HasFile entry.1) :
    let ids := order.map Prod.fst
    let after := project.linkInOrder order
    after.paths.map Prod.fst = after.linked.map project.filePath ∧
    (after.paths.map Prod.fst).Nodup ∧
    (∀ id, id ∈ after.linked ↔ project.firstAt (project.filePath id) ids = some id) ∧
    (∀ id, id ∈ after.paths.map Prod.snd ↔ project.lastAt (project.filePath id) ids = some id) ∧
    (∀ path, after.registered? path = project.lastAt path ids) ∧
    (ids.Nodup → ((∀ id, id ∈ after.linked ↔ id ∈ after.paths.map Prod.snd) ↔
      (ids.map project.filePath).Nodup)) := by
  intro ids after
  have registers : Registers project ids after := (Registers.nil unregistered unlisted).linkInOrder known
  refine ⟨registers.keys_eq, registers.nodup_keys, registers.mem_linked,
    fun _ => registers.mem_registered, registers.registered?_eq, fun nodup => ?_⟩
  constructor
  · intro agree
    apply (List.nodup_map_iff_inj_on nodup).mpr
    intro first firstIn second secondIn samePath
    obtain ⟨id, atPath⟩ : ∃ id, project.firstAt (project.filePath first) ids = some id :=
      Option.isSome_iff_exists.mp (List.find?_isSome.mpr ⟨first, firstIn, beq_self_eq_true _⟩)
    have path_eq := filePath_of_firstAt atPath
    rw [← path_eq] at atPath
    have last := registers.mem_registered.mp ((agree id).mp ((registers.mem_linked id).mpr atPath))
    rw [eq_of_firstAt_of_lastAt nodup atPath last firstIn path_eq.symm,
      eq_of_firstAt_of_lastAt nodup atPath last secondIn (samePath.symm.trans path_eq.symm)]
  · intro apart id
    rw [registers.mem_linked, registers.mem_registered, lastAt,
      firstAt_eq_some_of_nodup apart, firstAt_eq_some_of_nodup (by simpa using apart),
      List.mem_reverse]

/-- Two files at one path, the second one linked last of all. -/
theorem registers_linkInOrder_taken :
    let first := ({} : Project).addFile "var a" 1 (some "a.js") none none
    let second := first.1.addFile "var b" 1 (some "./x/../a.js") none none
    let project := (second.1.addFile "var c" 1 (some "c.js") none none).1
    let order : List (FileId × Bool) := [(⟨0⟩, false), (⟨2⟩, true), (⟨1⟩, false)]
    let after := project.linkInOrder order
    project.paths = [] ∧ project.linked = [] ∧ (∀ entry ∈ order, project.HasFile entry.1) ∧
      ⟨0⟩ ∈ after.linked ∧ ⟨0⟩ ∉ after.paths.map Prod.snd ∧ after.fileAt? "a.js" = some ⟨1⟩ := by
  intro first second project order after
  have known : ∀ entry ∈ order, project.HasFile entry.1 := by decide
  obtain ⟨-, -, listed, registered, found, -⟩ := registers_linkInOrder project rfl rfl order known
  refine ⟨rfl, rfl, known, (listed ⟨0⟩).mpr (by decide), fun membership => ?_, ?_⟩
  · exact absurd ((registered ⟨0⟩).mp membership) (by decide)
  · exact (found _).trans (by decide)

/-- Of two files at one path, one is listed without being registered and the other is registered
without being listed.  The roots then reach as many files as are listed, but not the last of them. -/
theorem unregistered_linkInOrder_taken :
    let first := ({} : Project).addFile "" 1 (some "a.js") none none
    let second := first.1.addFile "" 1 (some "a.js") none none
    let third := second.1.addFile "const a = require('./a')" 1 (some "b.js") none none
    let project := (third.1.addFile "" 1 (some "c.js") none none).1
    let after := project.linkInOrder [(⟨0⟩, false), (⟨1⟩, false), (⟨2⟩, false), (⟨3⟩, false)]
    ¬ (∀ id, id ∈ after.linked ↔ id ∈ after.paths.map Prod.snd) ∧
      after.linked = [⟨0⟩, ⟨2⟩, ⟨3⟩] ∧ after.paths.map Prod.snd = [⟨1⟩, ⟨2⟩, ⟨3⟩] ∧
      after.fileAt? "a.js" = some ⟨1⟩ ∧ after.roots = [⟨0⟩, ⟨2⟩] ∧
      ¬ ∃ root ∈ after.roots, (⟨3⟩ : FileId) = root ∨ ⟨3⟩ ∈ after.allRequired root := by
  intro first second third project after
  have linked_eq : after.linked = [⟨0⟩, ⟨2⟩, ⟨3⟩] := by decide +kernel
  have registered_eq : after.paths.map Prod.snd = [⟨1⟩, ⟨2⟩, ⟨3⟩] := by decide +kernel
  refine ⟨fun agree => ?_, linked_eq, registered_eq, by decide +kernel, by decide +kernel,
    by decide +kernel⟩
  have registered := (agree ⟨0⟩).mp (by rw [linked_eq]; decide)
  rw [registered_eq] at registered
  exact absurd registered (by decide)

end Project

end Docweave
