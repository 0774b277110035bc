import Docweave.Files.Tree

/-!
# Places in a tree of files

A path leads to the same place in every tree where it leads anywhere.  Making directories and
writing files keeps all directories and all files at other places, so what is read at a place is
what was written there last.
-/

namespace Docweave

open Text

/-- What is computed in two steps is computed when both are. -/
theorem of_bind_eq_ok {ε α β : Type} {first : Except ε α} {next : α → Except ε β} {value : β}
    (done : (first >>= next) = .ok value) :
    ∃ middle, first = .ok middle ∧ next middle = .ok value := by
  cases first with
  | error error => cases done
  | ok middle => exact ⟨middle, rfl, done⟩

namespace Path

/-- The place after one more component: `..` leads back to the directory around it. -/
def enter (place : List Text) (component : Text) : List Text :=
  if component = ['.', '.'] then place.dropLast else place ++ [component]

/-- The place that a path leads to. -/
def place (path : Text) : List Text := (writtenComponents path).foldl enter []

end Path

namespace Files.Tree

variable {tree before after last : Tree} {node kept : Tree} {name path : Text}
variable {place front other : List Text} {bytes : List UInt8}

/-- There is a directory at a place. -/
def HasDirectory (tree : Tree) (place : List Text) : Prop :=
  ∃ entries, tree.get? place = some (.directory entries)

/-! ## Putting something at a place -/

theorem lookup_cons (known other : Text) (old : Tree) (entries : List (Text × Tree)) :
    ((known, old) :: entries).lookup other =
      if other = known then some old else entries.lookup other := by
  rw [List.lookup_cons]
  by_cases same : other = known
  · simp [same]
  · simp [beq_eq_false_iff_ne.mpr same, same]

theorem lookup_putEntry (name other : Text) (node : Tree) (entries : List (Text × Tree)) :
    (putEntry name node entries).lookup other =
      if other = name then some node else entries.lookup other := by
  induction entries with
  | nil => rw [putEntry, lookup_cons]
  | cons entry entries ih =>
      obtain ⟨known, old⟩ := entry
      rw [putEntry, lookup_cons]
      by_cases here : known = name
      · rw [if_pos here, lookup_cons, here]
        split <;> rfl
      · rw [if_neg here, lookup_cons, ih]
        by_cases same : other = known
        · rw [if_pos same, if_neg (same ▸ here), if_pos same]
        · rw [if_neg same, if_neg same]

theorem get?_cons (entries : List (Text × Tree)) (name : Text) (names : List Text) :
    (Tree.directory entries).get? (name :: names) = (entries.lookup name).bind (get? names) := rfl

/-- A part of a directory after something was put below it. -/
theorem get?_put_cons (entries : List (Text × Tree)) (first name : Text) (names rest : List Text)
    (node : Tree) :
    ((Tree.directory entries).put (name :: names) node).get? (first :: rest) =
      if first = name then (put ((entries.lookup name).getD empty) names node).get? rest
      else (Tree.directory entries).get? (first :: rest) := by
  rw [put, get?_cons, Tree.entries, lookup_putEntry]
  split <;> rfl

theorem get?_put_self (tree : Tree) (place : List Text) (node : Tree) :
    (tree.put place node).get? place = some node := by
  induction place generalizing tree with
  | nil => rfl
  | cons name names ih => rw [put, get?_cons, lookup_putEntry, if_pos rfl, Option.bind_some, ih]

/-- All directories that lead to a place are there. -/
def Reaches (tree : Tree) (place : List Text) : Prop :=
  ∀ front name back, place = front ++ name :: back → tree.HasDirectory front

/-- A tree keeps its directories, and its files where nothing was written. -/
structure Keeps (written : List (List Text)) (before after : Tree) : Prop where
  directory : ∀ place, before.HasDirectory place → after.HasDirectory place
  file : ∀ place bytes, place ∉ written → before.get? place = some (.file bytes) →
    after.get? place = some (.file bytes)

/-- Something that is put where no directory is changes no other place that was there, but that
directories on the way to it hold more. -/
theorem get?_put_of_ne (reaches : tree.Reaches place) (free : ¬ tree.HasDirectory place)
    (different : other ≠ place) (found : tree.get? other = some kept) :
    (tree.put place node).get? other = some kept ∨
      kept.isDirectory ∧ (tree.put place node).HasDirectory other := by
  induction place generalizing tree other with
  | nil =>
      cases tree with
      | file bytes =>
          cases other with
          | nil => exact absurd rfl different
          | cons name names => cases found
      | directory entries => exact absurd ⟨entries, rfl⟩ free
  | cons name names ih =>
      obtain ⟨entries, isDirectory⟩ := reaches [] name names rfl
      cases isDirectory
      cases other with
      | nil =>
          cases found
          exact .inr ⟨rfl, _, rfl⟩
      | cons first rest =>
          rw [HasDirectory, get?_put_cons]
          by_cases same : first = name
          · subst same
            obtain ⟨inner, inside, foundInner⟩ := Option.bind_eq_some_iff.mp found
            have inside : entries.lookup first = some inner := inside
            have below : ∀ place, (Tree.directory entries).get? (first :: place) = inner.get? place := by
              intro place
              rw [get?_cons, inside, Option.bind_some]
            rw [if_pos rfl, inside]
            refine ih ?_ ?_ ?_ foundInner
            · intro front name back split
              have reached := reaches (first :: front) name back (congrArg (first :: ·) split)
              rwa [HasDirectory, below] at reached
            · rintro ⟨inner, isDirectory⟩
              exact free ⟨inner, (below names).trans isDirectory⟩
            · rintro rfl
              exact different rfl
          · rw [if_neg same]
            exact .inl found

theorem keeps_put (reaches : tree.Reaches place) (free : ¬ tree.HasDirectory place) (node : Tree) :
    Keeps [place] tree (tree.put place node) where
  directory other := by
    rintro ⟨entries, found⟩
    have different : other ≠ place := by
      rintro rfl
      exact free ⟨entries, found⟩
    rcases get?_put_of_ne reaches free different found with same | ⟨-, more⟩
    · exact ⟨entries, same⟩
    · exact more
  file other bytes different found := by
    rw [List.mem_singleton] at different
    rcases get?_put_of_ne reaches free different found with same | ⟨notFile, -⟩
    · exact same
    · cases notFile

namespace Keeps

variable {written others : List (List Text)}

theorem refl (tree : Tree) : Keeps [] tree tree := ⟨fun _ found => found, fun _ _ _ found => found⟩

theorem trans (early : Keeps written before after) (late : Keeps others after last) :
    Keeps (written ++ others) before last where
  directory place found := late.directory place (early.directory place found)
  file place bytes different found := by
    rw [List.mem_append, not_or] at different
    exact late.file place bytes different.2 (early.file place bytes different.1 found)

/-- Where nothing was, no file was lost. -/
theorem of_new (keeps : Keeps [place] before after) (new : before.get? place = none) :
    Keeps [] before after where
  directory := keeps.directory
  file other bytes _ found := by
    apply keeps.file other bytes _ found
    rw [List.mem_singleton]
    rintro rfl
    rw [new] at found
    cases found

end Keeps

/-! ## Where a path leads -/

theorem enter?_eq_ok {component : Text} :
    tree.enter? path place component = .ok other ↔
      tree.HasDirectory place ∧ (component = ['.', '.'] → place ≠ []) ∧
        other = Path.enter place component := by
  rw [enter?, HasDirectory, Path.enter]
  cases tree.get? place with
  | none => simp
  | some found =>
      cases found with
      | file bytes => simp
      | directory entries =>
          by_cases climbs : component = ['.', '.']
          · by_cases top : place = []
            · simp [climbs, top]
            · simpa [climbs, top] using eq_comm
          · simpa [climbs] using eq_comm

/-- Steps through the components of a path. -/
def resolveFrom (tree : Tree) (path : Text) (place : List Text) (components : List Text) :
    Except FileError (List Text) := components.foldlM (tree.enter? path) place

theorem resolveFrom_cons {component : Text} {components : List Text} :
    tree.resolveFrom path place (component :: components) = .ok other ↔
      tree.HasDirectory place ∧ (component = ['.', '.'] → place ≠ []) ∧
        tree.resolveFrom path (Path.enter place component) components = .ok other := by
  rw [resolveFrom, List.foldlM_cons]
  constructor
  · intro found
    obtain ⟨next, entered, onwards⟩ := of_bind_eq_ok found
    obtain ⟨isDirectory, inside, rfl⟩ := enter?_eq_ok.mp entered
    exact ⟨isDirectory, inside, onwards⟩
  · rintro ⟨isDirectory, inside, found⟩
    rw [enter?_eq_ok.mpr ⟨isDirectory, inside, rfl⟩]
    exact found

theorem Reaches.enter {component : Text} (reaches : tree.Reaches place)
    (isDirectory : tree.HasDirectory place) : tree.Reaches (Path.enter place component) := by
  intro front name back split
  rw [Path.enter] at split
  split at split
  · by_cases top : place = []
    · subst top
      cases front <;> cases split
    · have whole := (List.dropLast_concat_getLast top).symm
      rw [split, List.append_assoc, List.cons_append] at whole
      exact reaches front name _ whole
  · rcases back.eq_nil_or_concat with rfl | ⟨back, final, rfl⟩
    · obtain ⟨rfl, -⟩ := List.append_inj' split rfl
      exact isDirectory
    · rw [List.concat_eq_append, ← List.cons_append, ← List.append_assoc] at split
      obtain ⟨whole, -⟩ := List.append_inj' split rfl
      exact reaches front name back whole

theorem resolveFrom_eq_ok {components : List Text} (reaches : tree.Reaches place)
    (found : tree.resolveFrom path place components = .ok other) :
    other = components.foldl Path.enter place ∧ tree.Reaches other := by
  induction components generalizing place with
  | nil =>
      cases found
      exact ⟨rfl, reaches⟩
  | cons component components ih =>
      obtain ⟨isDirectory, -, onwards⟩ := resolveFrom_cons.mp found
      exact ih (reaches.enter isDirectory) onwards

/-- A path leads to its place, and all directories on the way are there. -/
theorem resolve_eq_ok (found : tree.resolve path = .ok other) :
    other = Path.place path ∧ tree.Reaches other := by
  apply resolveFrom_eq_ok _ found
  intro front name back split
  cases front <;> cases split

/-- A path that leads somewhere leads there also when more directories are there. -/
theorem resolveFrom_mono {components : List Text}
    (directory : ∀ place, before.HasDirectory place → after.HasDirectory place)
    (found : before.resolveFrom path place components = .ok other) :
    after.resolveFrom path place components = .ok other := by
  induction components generalizing place with
  | nil => exact found
  | cons component components ih =>
      obtain ⟨isDirectory, inside, onwards⟩ := resolveFrom_cons.mp found
      exact resolveFrom_cons.mpr ⟨directory place isDirectory, inside, ih onwards⟩

theorem Keeps.resolve {written : List (List Text)} (keeps : Keeps written before after)
    (found : before.resolve path = .ok other) : after.resolve path = .ok other :=
  resolveFrom_mono keeps.directory found

/-! ## Making directories and writing files -/

theorem keeps_makeStep {components : List Text} (made : before.makeStep path components = .ok after) :
    Keeps [] before after := by
  rw [makeStep] at made
  split at made
  · cases made
  · rename_i place found
    split at made
    · rename_i new
      cases made
      have reaches := (resolve_eq_ok found).2
      refine (keeps_put reaches ?_ empty).of_new new
      rintro ⟨entries, isDirectory⟩
      rw [new] at isDirectory
      cases isDirectory
    · cases made
      exact .refl _
    · split at made <;> cases made

theorem keeps_makeSteps {steps : List (List Text)}
    (made : steps.foldlM (makeStep path) before = .ok after) : Keeps [] before after := by
  induction steps generalizing before with
  | nil =>
      cases made
      exact .refl _
  | cons step steps ih =>
      rw [List.foldlM_cons] at made
      obtain ⟨next, first, rest⟩ := of_bind_eq_ok made
      exact (keeps_makeStep first).trans (ih rest)

theorem keeps_makeDirectories (made : before.makeDirectories path = .ok after) :
    Keeps [] before after := by
  obtain ⟨_, -, made⟩ := of_bind_eq_ok made
  exact keeps_makeSteps made

theorem read_eq_ok :
    tree.read path = .ok bytes ↔ requireName path = .ok () ∧ tree.resolve path = .ok (Path.place path) ∧
      tree.get? (Path.place path) = some (.file bytes) := by
  constructor
  · intro found
    obtain ⟨_, named, found⟩ := of_bind_eq_ok found
    obtain ⟨place, resolved, found⟩ := of_bind_eq_ok found
    obtain ⟨rfl, -⟩ := resolve_eq_ok resolved
    refine ⟨named, resolved, ?_⟩
    split at found <;> cases found
    assumption
  · rintro ⟨named, resolved, found⟩
    simp only [read, named, resolved, found, bind, Except.bind]

/-- A file that was written can be read, and no other file has changed. -/
theorem of_write (written : before.write path bytes = .ok after) :
    Keeps [Path.place path] before after ∧ after.read path = .ok bytes := by
  obtain ⟨_, named, written⟩ := of_bind_eq_ok written
  obtain ⟨place, resolved, written⟩ := of_bind_eq_ok written
  obtain ⟨rfl, reaches⟩ := resolve_eq_ok resolved
  split at written
  · cases written
  · rename_i notDirectory
    cases written
    have free : ¬ before.HasDirectory (Path.place path) := fun ⟨entries, found⟩ =>
      notDirectory entries found
    have keeps := keeps_put reaches free (.file bytes)
    exact ⟨keeps, read_eq_ok.mpr ⟨named, keeps.resolve resolved, get?_put_self _ _ _⟩⟩

/-- A text that was written below a directory can be read, and no other file has changed. -/
theorem of_writeText {text : Text} (written : before.writeText path text = .ok after) :
    Keeps [Path.place path] before after ∧ after.read path = .ok (Utf8.encode text) := by
  obtain ⟨next, made, written⟩ := of_bind_eq_ok written
  obtain ⟨keeps, found⟩ := of_write written
  exact ⟨(keeps_makeDirectories made).trans keeps, found⟩

end Files.Tree

end Docweave
