import Docweave.Proofs.Files.Search

/-!
# Normal forms of paths

A path is normalised to its leading slashes and its components.  The components climb first, and
only where the path is relative, and then go down by names; such components are read back as they
are.  So a normal form is its own normal form, and a dot before a path changes nothing.
-/

namespace Docweave.Path

open Text

variable {rooted : Bool} {read components : List Text} {component path rest : Text} {slashes : Nat}

/-! ## Resolved components -/

/-- What may have been read of a path, the last component first: names, and before them components
that climb out of a relative path. -/
inductive Resolved (rooted : Bool) : List Text → Prop where
  | start : Resolved rooted []
  | climb {read : List Text} (relative : rooted = false) (climbs : ∀ last ∈ read.head?, last = ['.', '.'])
      (resolved : Resolved rooted read) : Resolved rooted (['.', '.'] :: read)
  | down {name : Text} {read : List Text} (isName : IsName name) (resolved : Resolved rooted read) :
      Resolved rooted (name :: read)

theorem pushComponent_name (isName : IsName component) (rooted : Bool) (read : List Text) :
    pushComponent rooted read component = component :: read := by
  simp [pushComponent, isName.nonempty, isName.notHere, isName.notAround]

/-- A component that climbs removes the one before it, unless that climbs too. -/
theorem pushComponent_around_cons (rooted : Bool) (last : Text) (earlier : List Text) :
    pushComponent rooted (last :: earlier) ['.', '.'] =
      if last = ['.', '.'] then ['.', '.'] :: last :: earlier else earlier := rfl

namespace Resolved

theorem push (resolved : Resolved rooted read) (noSlash : '/' ∉ component) :
    Resolved rooted (pushComponent rooted read component) := by
  by_cases dropped : component = [] ∨ component = ['.']
  · simp only [pushComponent, dropped, if_true]
    exact resolved
  by_cases around : component = ['.', '.']
  · subst around
    cases resolved with
    | start =>
        cases rooted with
        | true => exact .start
        | false => exact .climb rfl (by simp) .start
    | climb relative climbs resolved =>
        rw [pushComponent_around_cons, if_pos rfl]
        exact .climb relative (by simp) (.climb relative climbs resolved)
    | down isName resolved =>
        rw [pushComponent_around_cons, if_neg isName.notAround]
        exact resolved
  · rw [not_or] at dropped
    have isName : IsName component := ⟨dropped.1, noSlash, dropped.2, around⟩
    rw [pushComponent_name isName]
    exact .down isName resolved

theorem foldl_push (resolved : Resolved rooted read) (noSlash : ∀ component ∈ components, '/' ∉ component) :
    Resolved rooted (components.foldl (pushComponent rooted) read) := by
  induction components generalizing read with
  | nil => exact resolved
  | cons component components ih =>
      obtain ⟨noneHere, noneLater⟩ := List.forall_mem_cons.mp noSlash
      exact ih (resolved.push noneHere) noneLater

/-- Resolved components are read as they are. -/
theorem foldr_push (resolved : Resolved rooted read) :
    read.foldr (fun component read => pushComponent rooted read component) [] = read := by
  induction resolved with
  | start => rfl
  | @climb read relative climbs resolved ih =>
      rw [List.foldr_cons, ih]
      cases read with
      | nil => rw [relative]; rfl
      | cons last earlier => rw [pushComponent_around_cons, if_pos (climbs last rfl)]
  | down isName resolved ih => rw [List.foldr_cons, ih, pushComponent_name isName]

theorem mem (resolved : Resolved rooted read) (membership : component ∈ read) :
    component ≠ [] ∧ '/' ∉ component := by
  induction resolved with
  | start => cases membership
  | climb _ _ _ ih =>
      rcases List.mem_cons.mp membership with rfl | earlier
      · decide
      · exact ih earlier
  | down isName _ ih =>
      rcases List.mem_cons.mp membership with rfl | earlier
      · exact ⟨isName.nonempty, isName.noSlash⟩
      · exact ih earlier

end Resolved

theorem resolved_components (path : Text) :
    Resolved (rootSlashes path ≠ 0) (Path.components path).reverse := by
  rw [Path.components, List.reverse_reverse]
  exact Resolved.start.foldl_push fun _ => not_mem_of_mem_splitChar

/-! ## Leading slashes -/

theorem rootSlashes_le_two (path : Text) : rootSlashes path ≤ 2 := by
  rw [rootSlashes.eq_def]
  split <;> omega

/-- Up to two slashes before a relative path are kept. -/
theorem rootSlashes_replicate_append (few : slashes ≤ 2) (relative : ∀ tail, rest ≠ '/' :: tail) :
    rootSlashes (List.replicate slashes '/' ++ rest) = slashes := by
  obtain rfl | rfl | rfl : slashes = 0 ∨ slashes = 1 ∨ slashes = 2 := by omega
  · exact rootSlashes_of_ne relative
  all_goals
    cases rest with
    | nil => rfl
    | cons char tail =>
        have notSlash : char ≠ '/' := by
          rintro rfl
          exact relative tail rfl
        simp [rootSlashes, notSlash]

/-! ## Normal forms -/

theorem normalize_eq_ofComponents (path : Text) :
    normalize path = ofComponents (rootSlashes path) (Path.components path) := rfl

theorem splitChar_replicate_append (slashes : Nat) (rest : Text) :
    splitChar '/' (List.replicate slashes '/' ++ rest) =
      List.replicate slashes [] ++ splitChar '/' rest := by
  induction slashes with
  | zero => rfl
  | succ slashes ih =>
      rw [List.replicate_succ, List.replicate_succ, List.cons_append, List.cons_append, splitChar,
        if_pos rfl, ih]

/-- Slashes in a row count as one. -/
theorem foldl_replicate_nil (slashes : Nat) :
    (List.replicate slashes []).foldl (pushComponent rooted) read = read := by
  induction slashes with
  | zero => rfl
  | succ slashes ih =>
      rw [List.replicate_succ, List.foldl_cons]
      exact ih

/-- What a path was put together from can be read off it, where the components are resolved. -/
theorem of_ofComponents (few : slashes ≤ 2) (resolved : Resolved (slashes ≠ 0) components.reverse) :
    rootSlashes (ofComponents slashes components) = slashes ∧
      Path.components (ofComponents slashes components) = components := by
  by_cases none : components = []
  · subst none
    obtain rfl | rfl | rfl : slashes = 0 ∨ slashes = 1 ∨ slashes = 2 := by omega
    all_goals exact ⟨rfl, rfl⟩
  have named : ∀ component ∈ components, component ≠ [] ∧ '/' ∉ component :=
    fun component membership => resolved.mem (List.mem_reverse.mpr membership)
  have pieces : splitChar '/' (Text.join ['/'] components) = components := by
    rw [splitChar_eq_splitOn, Text.join]
    exact List.splitOn_intercalate '/' (fun component membership => (named component membership).2) none
  have noneEmpty : [] ∉ splitChar '/' (Text.join ['/'] components) := by
    rw [pieces]
    exact fun membership => (named [] membership).1 rfl
  have relative : ∀ tail, Text.join ['/'] components ≠ '/' :: tail := by
    intro tail starts
    rw [starts, splitChar, if_pos rfl] at noneEmpty
    exact noneEmpty List.mem_cons_self
  have written : ofComponents slashes components =
      List.replicate slashes '/' ++ Text.join ['/'] components := by
    have nonempty : Text.join ['/'] components ≠ [] := by
      intro empty
      rw [empty] at noneEmpty
      exact noneEmpty (by decide)
    simp [ofComponents, nonempty]
  have slashes_eq : rootSlashes (ofComponents slashes components) = slashes := by
    rw [written, rootSlashes_replicate_append few relative]
  refine ⟨slashes_eq, ?_⟩
  have readAgain := resolved.foldr_push
  rw [List.foldr_reverse] at readAgain
  rw [Path.components, slashes_eq, written, splitChar_replicate_append, pieces, List.foldl_append,
    foldl_replicate_nil, readAgain, List.reverse_reverse]

/-- A normal form is its own normal form. -/
theorem normalize_normalize (path : Text) : normalize (normalize path) = normalize path := by
  obtain ⟨slashes_eq, components_eq⟩ := of_ofComponents (rootSlashes_le_two path) (resolved_components path)
  rw [normalize_eq_ofComponents path, normalize_eq_ofComponents, slashes_eq, components_eq]

theorem join_singleton (path : Text) : join [path] = normalize path := by
  cases path <;> rfl

/-- A dot before a path changes nothing. -/
theorem join_here (path : Text) : join [['.'], path] = normalize path := by
  cases path with
  | nil => rfl
  | cons char rest =>
      by_cases absolute : char = '/'
      · subst absolute
        rfl
      · have joined : join [['.'], char :: rest] = normalize ('.' :: '/' :: char :: rest) := by
          simp [join, joinParts, append, startsWith, endsWith, after?, Ne.symm absolute]
        have unrooted : rootSlashes (char :: rest) = 0 := by
          apply rootSlashes_of_ne
          rintro tail starts
          exact absolute (List.cons_eq_cons.mp starts).1
        rw [joined, normalize_eq_ofComponents, normalize_eq_ofComponents, unrooted]
        have components_eq : Path.components ('.' :: '/' :: char :: rest) = Path.components (char :: rest) := by
          rw [Path.components, Path.components, unrooted]
          rfl
        rw [components_eq]
        rfl

end Docweave.Path
