import Docweave.Files.Sources
import Docweave.Proofs.Files.Places
import Docweave.Proofs.Text.Rows

/-!
# What a search finds

A search lists the files of a directory by their places.  A file is listed if it is not passed over and
every directory on the way to it is entered, and it is listed once.  Since each directory is gone through
in the order of names, places stand in the order of their components.
-/

namespace Docweave

open Text

/-! ## Paths of places -/

namespace Path

variable {name : Text} {place read : List Text}

/-- A name that a file or directory may have. -/
structure IsName (name : Text) : Prop where
  nonempty : name ≠ []
  noSlash : '/' ∉ name
  notHere : name ≠ ['.']
  notAround : name ≠ ['.', '.']

instance (name : Text) : Decidable (IsName name) :=
  decidable_of_iff (name ≠ [] ∧ '/' ∉ name ∧ name ≠ ['.'] ∧ name ≠ ['.', '.'])
    ⟨fun ⟨nonempty, noSlash, notHere, notAround⟩ => ⟨nonempty, noSlash, notHere, notAround⟩,
      fun isName => ⟨isName.nonempty, isName.noSlash, isName.notHere, isName.notAround⟩⟩

/-- The path of a place, whose names are between slashes. -/
def ofPlace (place : List Text) : Text := ofComponents 0 place

theorem foldl_pushComponent (names : ∀ name ∈ place, IsName name) :
    place.foldl (pushComponent false) read = place.reverse ++ read := by
  induction place generalizing read with
  | nil => rfl
  | cons name place ih =>
      obtain ⟨isName, others⟩ := List.forall_mem_cons.mp names
      have pushed : pushComponent false read name = name :: read := by
        simp only [pushComponent, isName.nonempty, isName.notHere, or_self, if_false, ne_eq,
          isName.notAround, not_false_eq_true, if_true]
      rw [List.foldl_cons, pushed, ih others]
      simp

/-- The path of a place is cut into its names, and that of the root is a dot. -/
theorem splitChar_ofPlace (names : ∀ name ∈ place, IsName name) :
    splitChar '/' (ofPlace place) = if place = [] then [['.']] else place := by
  split
  · rename_i atRoot
    subst atRoot
    rfl
  · rename_i nonempty
    have pieces : splitChar '/' (Text.join ['/'] place) = place := by
      rw [splitChar_eq_splitOn, Text.join]
      exact List.splitOn_intercalate '/' (fun name membership => (names name membership).noSlash) nonempty
    have written : Text.join ['/'] place ≠ [] := by
      intro empty
      rw [empty] at pieces
      exact (names [] (by rw [← pieces]; decide)).nonempty rfl
    rw [ofPlace, ofComponents, List.replicate_zero, List.nil_append, if_neg (by simpa using written), pieces]

theorem ofPlace_ne_nil (place : List Text) : ofPlace place ≠ [] := by
  rw [ofPlace, ofComponents]
  split
  · exact List.cons_ne_nil _ _
  · rename_i nonempty
    simpa using nonempty

theorem mem_splitChar_ofPlace (names : ∀ name ∈ place, IsName name) :
    [] ∉ splitChar '/' (ofPlace place) := by
  rw [splitChar_ofPlace names]
  split
  · decide
  · intro membership
    exact (names [] membership).nonempty rfl

/-- The path of a place neither starts nor ends with a slash. -/
theorem ofPlace_ne (names : ∀ name ∈ place, IsName name) (rest : Text) :
    ofPlace place ≠ '/' :: rest ∧ ofPlace place ≠ rest ++ ['/'] := by
  have noneEmpty := mem_splitChar_ofPlace names
  constructor
  · intro starts
    rw [starts, splitChar, if_pos rfl] at noneEmpty
    exact noneEmpty List.mem_cons_self
  · intro ends
    rw [ends, splitChar_eq_splitOn, List.splitOn_append_cons_self] at noneEmpty
    exact noneEmpty (List.mem_append_right _ (by decide))

theorem rootSlashes_of_ne {path : Text} (unrooted : ∀ rest, path ≠ '/' :: rest) : rootSlashes path = 0 := by
  cases path with
  | nil => rfl
  | cons char rest =>
      have notSlash : char ≠ '/' := by
        rintro rfl
        exact unrooted rest rfl
      rw [rootSlashes]
      all_goals
        intros
        simp_all

/-- A path whose pieces lead to a place is normalised to the path of the place. -/
theorem normalize_eq {path : Text} (unrooted : rootSlashes path = 0)
    (leads : (splitChar '/' path).foldl (pushComponent false) [] = place.reverse) :
    normalize path = ofPlace place := by
  have components_eq : components path = place := by
    rw [components, unrooted]
    simp [leads]
  rw [normalize, unrooted, components_eq]
  rfl

/-- The path of a place leads there from every place. -/
theorem foldl_splitChar_ofPlace (names : ∀ name ∈ place, IsName name) :
    (splitChar '/' (ofPlace place)).foldl (pushComponent false) read = place.reverse ++ read := by
  rw [splitChar_ofPlace names]
  split
  · rename_i atRoot
    subst atRoot
    simp [pushComponent]
  · exact foldl_pushComponent names

theorem join_ofPlace (names : ∀ name ∈ place, IsName name) : join [ofPlace place] = ofPlace place := by
  have kept : [ofPlace place].filter (fun part => !part.isEmpty) = [ofPlace place] := by
    simp [ofPlace_ne_nil]
  rw [join, kept]
  apply normalize_eq
  · exact rootSlashes_of_ne fun rest => (ofPlace_ne names rest).1
  · exact (foldl_splitChar_ofPlace names).trans (List.append_nil _)

/-- The paths of two places make the path of the one below the other. -/
theorem join_ofPlace_ofPlace {below : List Text} (names : ∀ name ∈ place, IsName name)
    (belowNames : ∀ name ∈ below, IsName name) :
    join [ofPlace place, ofPlace below] = ofPlace (place ++ below) := by
  have kept : [ofPlace place, ofPlace below].filter (fun part => !part.isEmpty) =
      [ofPlace place, ofPlace below] := by
    simp [ofPlace_ne_nil]
  have relative : startsWith ['/'] (ofPlace below) = false := by
    rw [Bool.eq_false_iff]
    intro absolute
    obtain ⟨rest, absolute⟩ := startsWith_iff.mp absolute
    exact (ofPlace_ne belowNames rest).1 absolute
  have unended : endsWith ['/'] (ofPlace place) = false := by
    rw [Bool.eq_false_iff]
    intro ends
    obtain ⟨before, ends⟩ := endsWith_singleton.mp ends
    exact (ofPlace_ne names before).2 ends
  have joined : joinParts [ofPlace place, ofPlace below] = ofPlace place ++ '/' :: ofPlace below := by
    rw [joinParts, List.foldl_cons, List.foldl_nil, append, relative, unended]
    simp [ofPlace_ne_nil]
  rw [join, kept, joined]
  apply normalize_eq
  · apply rootSlashes_of_ne
    intro rest absolute
    obtain ⟨char, front, path⟩ := List.exists_cons_of_ne_nil (ofPlace_ne_nil place)
    rw [path, List.cons_append] at absolute
    obtain ⟨rfl, -⟩ := List.cons_eq_cons.mp absolute
    exact (ofPlace_ne names front).1 path
  · rw [splitChar_eq_splitOn, List.splitOn_append_cons_self, ← splitChar_eq_splitOn, ← splitChar_eq_splitOn,
      List.foldl_append, foldl_splitChar_ofPlace names, foldl_splitChar_ofPlace belowNames]
    simp

theorem ofPlace_singleton (isName : IsName name) : ofPlace [name] = name := by
  simp [ofPlace, ofComponents, Text.join, isName.nonempty]

/-- The path of a place and a name make the path of the place below it. -/
theorem join_child (names : ∀ name ∈ place, IsName name) (isName : IsName name) :
    join [ofPlace place, name] = ofPlace (place ++ [name]) := by
  have joined := join_ofPlace_ofPlace names (List.forall_mem_singleton.mpr isName)
  rwa [ofPlace_singleton isName] at joined

/-- Different places have different paths. -/
theorem ofPlace_injective {other : List Text} (names : ∀ name ∈ place, IsName name)
    (otherNames : ∀ name ∈ other, IsName name) (same : ofPlace place = ofPlace other) : place = other := by
  have leads : (splitChar '/' (ofPlace place)).foldl (pushComponent false) [] = place.reverse ++ [] :=
    foldl_splitChar_ofPlace names
  rw [same, foldl_splitChar_ofPlace otherNames, List.append_nil, List.append_nil] at leads
  exact (List.reverse_inj.mp leads).symm

end Path

namespace Files

variable {filter : Filter} {place : List Text} {bytes : List UInt8} {tree node : Tree} {name : Text}
variable {entries : List (Text × Tree)} {wanted others : List Text → List UInt8 → Prop} {found more : Found}

/-! ## Listings -/

/-- A search that ends without an error and finds the wanted files below a place, each once, in the order
of the components of their places. -/
def Lists (above : List Text) (wanted : List Text → List UInt8 → Prop) (found : Found) : Prop :=
  ∃ listing : List (List Text × List UInt8),
    found = { sources := listing.map fun file => ⟨Path.ofPlace (above ++ file.1), file.2⟩ } ∧
      (listing.map Prod.fst).Pairwise (· < ·) ∧
      ∀ place bytes, (place, bytes) ∈ listing ↔ wanted place bytes

theorem Lists.congr {above : List Text} (lists : Lists above wanted found)
    (same : ∀ place bytes, wanted place bytes ↔ others place bytes) : Lists above others found := by
  obtain ⟨listing, found_eq, sorted, membership⟩ := lists
  exact ⟨listing, found_eq, sorted, fun place bytes => (membership place bytes).trans (same place bytes)⟩

theorem lists_nothing (above : List Text) : Lists above (fun _ _ => False) {} :=
  ⟨[], rfl, List.Pairwise.nil, fun _ _ => List.mem_nil_iff _⟩

theorem lists_file (above : List Text) (bytes : List UInt8) :
    Lists above (fun place other => place = [] ∧ other = bytes)
      { sources := [⟨Path.ofPlace above, bytes⟩] } := by
  refine ⟨[([], bytes)], ?_, List.pairwise_singleton _ _, ?_⟩
  · rw [List.map_singleton, List.append_nil]
  · intro place other
    rw [List.mem_singleton, Prod.mk.injEq]

/-- What is found under a name comes before what is found under greater names. -/
theorem Lists.andThen {above : List Text} (lists : Lists (above ++ [name]) wanted found)
    (later : Lists above others more)
    (greater : ∀ place bytes, others place bytes → ∃ next rest, place = next :: rest ∧ name < next) :
    Lists above (fun place bytes => (∃ rest, place = name :: rest ∧ wanted rest bytes) ∨ others place bytes)
      (found.andThen more) := by
  obtain ⟨listing, rfl, sorted, membership⟩ := lists
  obtain ⟨rest, rfl, restSorted, restMembership⟩ := later
  refine ⟨listing.map (fun file => (name :: file.1, file.2)) ++ rest, ?_, ?_, ?_⟩
  · simp [Found.andThen]
  · rw [List.map_append, List.map_map, List.pairwise_append]
    refine ⟨?_, restSorted, ?_⟩
    · rw [List.pairwise_map] at sorted ⊢
      exact sorted.imp fun before => List.cons_lt_cons_iff.mpr (.inr ⟨rfl, before⟩)
    · intro place placeMember other otherMember
      obtain ⟨file, -, rfl⟩ := List.mem_map.mp placeMember
      obtain ⟨⟨_, bytes⟩, isListed, rfl⟩ := List.mem_map.mp otherMember
      obtain ⟨next, back, rfl, before⟩ := greater _ _ ((restMembership _ _).mp isListed)
      exact List.cons_lt_cons_iff.mpr (.inl before)
  · intro place bytes
    rw [List.mem_append, restMembership]
    apply or_congr_left
    rw [List.mem_map]
    constructor
    · rintro ⟨⟨inner, bytes⟩, isListed, same⟩
      cases same
      exact ⟨inner, rfl, (membership inner bytes).mp isListed⟩
    · rintro ⟨inner, rfl, isWanted⟩
      exact ⟨(inner, bytes), (membership inner bytes).mpr isWanted, rfl⟩

/-! ## The order of names -/

/-- What is wanted in the entries of a directory, each under its name. -/
def Below (wanted : Text → Tree → List Text → List UInt8 → Prop) (entries : List (Text × Tree))
    (place : List Text) (bytes : List UInt8) : Prop :=
  ∃ name node rest, (name, node) ∈ entries ∧ place = name :: rest ∧ wanted name node rest bytes

section Order

variable {above : List Text}

theorem lists_foldr (wantedIn : Text → Tree → List Text → List UInt8 → Prop) (search : Text → Tree → Found)
    (sorted : entries.Pairwise fun entry other => entry.1 < other.1)
    (each : ∀ entry ∈ entries,
      Lists (above ++ [entry.1]) (wantedIn entry.1 entry.2) (search entry.1 entry.2)) :
    Lists above (Below wantedIn entries)
      ((entries.map fun entry => search entry.1 entry.2).foldr Found.andThen {}) := by
  induction entries with
  | nil => exact (lists_nothing above).congr fun place bytes => by simp [Below]
  | cons entry entries ih =>
      obtain ⟨before, sorted⟩ := List.pairwise_cons.mp sorted
      obtain ⟨first, others⟩ := List.forall_mem_cons.mp each
      refine (first.andThen (ih sorted others) ?_).congr ?_
      · rintro place bytes ⟨name, node, rest, isEntry, rfl, -⟩
        exact ⟨name, rest, rfl, before _ isEntry⟩
      · intro place bytes
        obtain ⟨name, node⟩ := entry
        constructor
        · rintro (⟨rest, rfl, isWanted⟩ | ⟨other, inner, rest, isEntry, rfl, isWanted⟩)
          · exact ⟨name, node, rest, List.mem_cons_self, rfl, isWanted⟩
          · exact ⟨other, inner, rest, List.mem_cons_of_mem _ isEntry, rfl, isWanted⟩
        · rintro ⟨other, inner, rest, isEntry, rfl, isWanted⟩
          rcases List.mem_cons.mp isEntry with here | later
          · cases here
            exact .inl ⟨rest, rfl, isWanted⟩
          · exact .inr ⟨other, inner, rest, later, rfl, isWanted⟩

theorem upTo_iff {left right : Text} : Text.upTo left right = true ↔ ¬right < left := by
  rw [Text.upTo, Bool.not_eq_true', decide_eq_false_iff_not]

/-- Entries in the order of their names, of which none comes twice. -/
theorem pairwise_mergeSort (distinct : (entries.map Prod.fst).Nodup) :
    (entries.mergeSort fun left right => Text.upTo left.1 right.1).Pairwise
      fun entry other => entry.1 < other.1 := by
  have permuted := List.mergeSort_perm entries fun left right => Text.upTo left.1 right.1
  have different := List.pairwise_map.mp ((permuted.map Prod.fst).nodup_iff.mpr distinct)
  have ordered : (entries.mergeSort fun left right => Text.upTo left.1 right.1).Pairwise
      fun left right => Text.upTo left.1 right.1 = true := by
    apply List.pairwise_mergeSort
    · intro first second third early late
      rw [upTo_iff] at early late ⊢
      exact List.not_lt.mpr (List.le_trans (List.not_lt.mp early) (List.not_lt.mp late))
    · intro left right
      rw [Bool.or_eq_true, upTo_iff, upTo_iff]
      exact (List.le_total left.1 right.1).imp List.not_lt.mpr List.not_lt.mpr
  refine (ordered.and different).imp ?_
  rintro entry other ⟨upTo, different⟩
  apply Classical.byContradiction
  intro notBefore
  exact different (List.le_antisymm (List.not_lt.mp (upTo_iff.mp upTo)) (List.not_lt.mp notBefore))

theorem lists_inNameOrder (wantedIn : Text → Tree → List Text → List UInt8 → Prop)
    (search : Text → Tree → Found) (distinct : (entries.map Prod.fst).Nodup)
    (each : ∀ entry ∈ entries,
      Lists (above ++ [entry.1]) (wantedIn entry.1 entry.2) (search entry.1 entry.2)) :
    Lists above (Below wantedIn entries)
      (inNameOrder (entries.map fun entry => (entry.1, search entry.1 entry.2))) := by
  have permuted := List.mergeSort_perm entries fun left right => Text.upTo left.1 right.1
  have lists := lists_foldr wantedIn search (pairwise_mergeSort distinct) fun entry membership =>
    each entry (permuted.mem_iff.mp membership)
  rw [inNameOrder, ← List.map_mergeSort (r := fun left right => Text.upTo left.1 right.1) (by simp),
    List.map_map]
  refine lists.congr fun place bytes => ?_
  simp only [Below, permuted.mem_iff]

end Order

/-! ## Trees -/

/-- A tree of files in UTF-8, in which the names are such that a file or directory may have, and none
comes twice in a directory. -/
inductive Tree.Readable : Tree → Prop where
  | file {bytes : List UInt8} {text : Text} (decodes : Utf8.decode bytes = .ok text) :
      Tree.Readable (.file bytes)
  | directory {entries : List (Text × Tree)} (names : ∀ entry ∈ entries, Path.IsName entry.1)
      (distinct : (entries.map Prod.fst).Nodup) (inside : ∀ entry ∈ entries, Tree.Readable entry.2) :
      Tree.Readable (.directory entries)

theorem mem_iff_lookup (distinct : (entries.map Prod.fst).Nodup) :
    (name, node) ∈ entries ↔ entries.lookup name = some node := by
  induction entries with
  | nil => simp
  | cons entry entries ih =>
      obtain ⟨other, old⟩ := entry
      obtain ⟨new, others⟩ := List.nodup_cons.mp distinct
      rw [Tree.lookup_cons, List.mem_cons, ih others]
      by_cases same : name = other
      · subst same
        have notLater : entries.lookup name ≠ some node := fun later =>
          new (List.mem_map.mpr ⟨_, (ih others).mpr later, rfl⟩)
        simp [notLater, eq_comm]
      · simp [same]

/-- What lies in a readable tree lies at a place of names and is readable. -/
theorem Tree.Readable.of_get? (readable : tree.Readable) (found : tree.get? place = some node) :
    (∀ name ∈ place, Path.IsName name) ∧ node.Readable := by
  induction place generalizing tree with
  | nil =>
      cases found
      exact ⟨List.forall_mem_nil _, readable⟩
  | cons name place ih =>
      cases readable with
      | file decodes => simp [Tree.get?, Tree.entries] at found
      | directory names distinct inside =>
          rw [Tree.get?_cons, Option.bind_eq_some_iff] at found
          obtain ⟨inner, isEntry, found⟩ := found
          have membership := (mem_iff_lookup distinct).mpr isEntry
          obtain ⟨placeNames, nodeReadable⟩ := ih (inside _ membership) found
          exact ⟨List.forall_mem_cons.mpr ⟨names _ membership, placeNames⟩, nodeReadable⟩

/-- A filter that says of every file and directory whether it is passed over. -/
structure Filter.Decides (filter : Filter) : Prop where
  file : ∀ path, ∃ answer, filter.skipsFile path = .ok answer
  directory : ∀ path, ∃ answer, filter.skipsDirectory path = .ok answer

/-- A directory at a place is entered. -/
def Filter.Enters (filter : Filter) (place : List Text) : Prop :=
  filter.recursive = true ∧ filter.skipsDirectory (Path.ofPlace place) = .ok false

/-- A file with some bytes at a place of a tree, which lies below another place, is not passed over, and
all directories of the tree that it stands in are entered, but for the tree itself. -/
def Filter.Finds (filter : Filter) (above : List Text) (tree : Tree) (place : List Text) (bytes : List UInt8) :
    Prop :=
  tree.get? place = some (.file bytes) ∧ filter.skipsFile (Path.ofPlace (above ++ place)) = .ok false ∧
    ∀ front back, place = front ++ back → front ≠ [] → back ≠ [] → filter.Enters (above ++ front)

/-- A file is found, and the tree that it stands in is entered. -/
def Filter.Wants (filter : Filter) (above : List Text) (tree : Tree) (place : List Text) (bytes : List UInt8) :
    Prop :=
  filter.Finds above tree place bytes ∧ (place ≠ [] → filter.Enters above)

section Trees

variable {above : List Text}

theorem wants_file {other : List UInt8} :
    filter.Wants above (.file bytes) place other ↔
      (place = [] ∧ other = bytes) ∧ filter.skipsFile (Path.ofPlace above) = .ok false := by
  constructor
  · rintro ⟨⟨isThere, kept, -⟩, -⟩
    cases place with
    | nil =>
        cases isThere
        rw [List.append_nil] at kept
        exact ⟨⟨rfl, rfl⟩, kept⟩
    | cons name rest => simp [Tree.get?, Tree.entries] at isThere
  · rintro ⟨⟨rfl, rfl⟩, kept⟩
    refine ⟨⟨rfl, by rwa [List.append_nil], ?_⟩, fun below => absurd rfl below⟩
    intro front back split isOn
    exact absurd (List.append_eq_nil_iff.mp split.symm).1 isOn

/-- What is found in a directory is wanted in one of its entries. -/
theorem below_wants_iff (distinct : (entries.map Prod.fst).Nodup) :
    Below (fun name node => filter.Wants (above ++ [name]) node) entries place bytes ↔
      filter.Finds above (.directory entries) place bytes := by
  constructor
  · rintro ⟨name, node, rest, isEntry, rfl, ⟨isThere, kept, enters⟩, entersFirst⟩
    refine ⟨?_, ?_, ?_⟩
    · rw [Tree.get?_cons, (mem_iff_lookup distinct).mp isEntry]
      exact isThere
    · rwa [List.append_assoc] at kept
    · intro front back split isBelow isOn
      obtain ⟨first, front, rfl⟩ := List.exists_cons_of_ne_nil isBelow
      obtain ⟨rfl, inner⟩ := List.cons_eq_cons.mp split
      cases front with
      | nil =>
          obtain rfl : rest = back := inner
          exact entersFirst isOn
      | cons second front =>
          have entersInner := enters (second :: front) back inner (List.cons_ne_nil _ _) isOn
          rwa [List.append_assoc] at entersInner
  · rintro ⟨isThere, kept, enters⟩
    cases place with
    | nil => cases isThere
    | cons name rest =>
        rw [Tree.get?_cons, Option.bind_eq_some_iff] at isThere
        obtain ⟨node, found, isThere⟩ := isThere
        refine ⟨name, node, rest, (mem_iff_lookup distinct).mpr found, rfl, ⟨isThere, ?_, ?_⟩, ?_⟩
        · rwa [List.append_assoc]
        · rintro front back rfl - isOn
          rw [List.append_assoc]
          exact enters (name :: front) back rfl (List.cons_ne_nil _ _) isOn
        · intro isBelow
          exact enters [name] rest rfl (List.cons_ne_nil _ _) isBelow

/-- What is wanted in a directory is found in it if it is entered, and else nothing is. -/
theorem wants_directory :
    filter.Wants above (.directory entries) place bytes ↔
      filter.Enters above ∧ filter.Finds above (.directory entries) place bytes := by
  rw [Filter.Wants, and_comm, and_congr_left_iff]
  rintro ⟨isThere, -⟩
  have below : place ≠ [] := by
    rintro rfl
    cases isThere
  simp [below]

theorem searchesBelow_eq (path : Text) :
    searchesBelow filter path entries =
      entries.map fun entry => (entry.1, sourcesAt filter (Path.join [path, entry.1]) entry.2) := by
  induction entries with
  | nil => rfl
  | cons entry entries ih => rw [searchesBelow, ih, List.map_cons]

theorem lists_searchesBelow (names : ∀ entry ∈ entries, Path.IsName entry.1)
    (distinct : (entries.map Prod.fst).Nodup) (aboveNames : ∀ name ∈ above, Path.IsName name)
    (each : ∀ entry ∈ entries, ∀ above, (∀ name ∈ above, Path.IsName name) →
      Lists above (filter.Wants above entry.2) (sourcesAt filter (Path.ofPlace above) entry.2)) :
    Lists above (filter.Finds above (.directory entries))
      (inNameOrder (searchesBelow filter (Path.ofPlace above) entries)) := by
  have searches_eq : searchesBelow filter (Path.ofPlace above) entries =
      entries.map fun entry => (entry.1, sourcesAt filter (Path.ofPlace (above ++ [entry.1])) entry.2) := by
    rw [searchesBelow_eq]
    apply List.map_congr_left
    intro entry membership
    rw [Path.join_child aboveNames (names entry membership)]
  have lists := lists_inNameOrder (fun name node => filter.Wants (above ++ [name]) node)
    (fun name node => sourcesAt filter (Path.ofPlace (above ++ [name])) node) distinct
    fun entry membership => each entry membership (above ++ [entry.1])
      (List.forall_mem_append.mpr ⟨aboveNames, List.forall_mem_singleton.mpr (names entry membership)⟩)
  rw [searches_eq]
  exact lists.congr fun _ _ => below_wants_iff distinct

theorem lists_sourcesAt (decides : filter.Decides) (readable : tree.Readable) :
    ∀ above, (∀ name ∈ above, Path.IsName name) →
      Lists above (filter.Wants above tree) (sourcesAt filter (Path.ofPlace above) tree) := by
  induction readable with
  | @file bytes text decodes =>
      intro above names
      obtain ⟨answer, decided⟩ := decides.file (Path.ofPlace above)
      rw [sourcesAt, decided]
      cases answer with
      | true => exact (lists_nothing above).congr fun place other => by simp [wants_file, decided]
      | false => exact (lists_file above bytes).congr fun place other => by simp [wants_file, decided]
  | directory names distinct inside ih =>
      intro above aboveNames
      obtain ⟨answer, decided⟩ := decides.directory (Path.ofPlace above)
      have lists := lists_searchesBelow names distinct aboveNames ih
      rw [sourcesAt, decided]
      split
      · rename_i recursive
        cases answer with
        | true =>
            exact (lists_nothing above).congr fun place other => by
              simp [wants_directory, Filter.Enters, decided]
        | false =>
            exact lists.congr fun place other => by
              simp [wants_directory, Filter.Enters, decided, recursive]
      · rename_i flat
        exact (lists_nothing above).congr fun place other => by
          simp [wants_directory, Filter.Enters, flat]

/-- A search of a directory finds the files that are not passed over, through the directories that are
entered. -/
theorem lists_sourcesOf (decides : filter.Decides) (readable : (Tree.directory entries).Readable) :
    Lists [] (filter.Finds [] (.directory entries)) (sourcesOf filter (.directory entries)) := by
  cases readable with
  | directory names distinct inside =>
      exact lists_searchesBelow names distinct (List.forall_mem_nil _) fun entry membership =>
        lists_sourcesAt decides (inside entry membership)

end Trees

end Files

end Docweave
