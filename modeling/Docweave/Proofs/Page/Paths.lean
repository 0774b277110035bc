import Docweave.Page.Document
import Docweave.Proofs.Files.Places

/-!
# Where pages go

The page of a file is named after the path of the file without its extension, so files that differ
in the extension only share a page path, and a file `index` at the top shares that of the index.
Nothing else makes two paths one.
-/

namespace Docweave

open Text

namespace Path

variable {path base first second : Text}

/-- The extension of the file name of a path, with its dot. -/
def extension (path : Text) : Text := (splitExtension path).2

/-- The file name has no extension, or it has one that does not start the name. -/
theorem splitExtension_cases (path : Text) :
    splitExtension path = (path, []) ∨
    ∃ length, 0 < length ∧ splitExtension path = (path.take length, path.drop length) := by
  generalize found : splitExtension path = cut
  unfold splitExtension at found
  extract_lets start name at found
  split at found
  · exact .inl found.symm
  · rename_i dot _
    split at found
    · exact .inl found.symm
    · rename_i visible
      refine .inr ⟨start + dot, ?_, found.symm⟩
      apply Nat.pos_of_ne_zero
      intro atStart
      obtain ⟨-, rfl⟩ := Nat.add_eq_zero_iff.mp atStart
      exact visible rfl

theorem stem_append_extension (path : Text) : stem path ++ extension path = path := by
  rw [stem, extension]
  rcases splitExtension_cases path with whole | ⟨length, -, cut⟩
  · rw [whole, List.append_nil]
  · rw [cut, List.take_append_drop]

/-- Only an empty path has an empty stem. -/
theorem eq_nil_of_stem_eq_nil (empty : stem path = []) : path = [] := by
  rw [stem] at empty
  rcases splitExtension_cases path with whole | ⟨length, positive, cut⟩
  · rwa [whole] at empty
  · rw [cut] at empty
    exact (List.take_eq_nil_iff.mp empty).resolve_left (Nat.ne_of_gt positive)

theorem rooted_cons (char : Char) (rest : Text) :
    startsWith ['/'] (char :: rest) = decide ('/' = char) := by
  rw [startsWith, after?]
  by_cases slash : '/' = char
  · rw [if_pos slash, decide_eq_true slash, after?]
    rfl
  · rw [if_neg slash, decide_eq_false slash]
    rfl

theorem rooted_append {part : Text} (nonempty : part ≠ []) (tail : Text) :
    startsWith ['/'] (part ++ tail) = startsWith ['/'] part := by
  cases part with
  | nil => exact absurd rfl nonempty
  | cons char rest => rw [List.cons_append, rooted_cons, rooted_cons]

theorem rooted_stem (path : Text) : startsWith ['/'] (stem path) = startsWith ['/'] path := by
  by_cases empty : stem path = []
  · rw [empty, eq_nil_of_stem_eq_nil empty]
  · rw [← rooted_append empty (extension path), stem_append_extension]

/-- Below a directory paths stay apart, unless one of them is absolute. -/
theorem append_inj (rooted : startsWith ['/'] first = startsWith ['/'] second)
    (same : append base first = append base second) : first = second := by
  rw [append, append, rooted] at same
  split at same
  · exact same
  · split at same
    · exact List.append_cancel_left same
    · exact (List.cons_inj_right _).mp (List.append_cancel_left same)

/-- What is joined to a directory may be made longer before or after. -/
theorem append_append (base part : Text) {char : Char} (tail : Text) (inside : '/' ≠ char) :
    append base (part ++ char :: tail) = append base part ++ char :: tail := by
  have rooted : startsWith ['/'] (part ++ char :: tail) = startsWith ['/'] part := by
    cases part with
    | nil =>
        rw [List.nil_append, rooted_cons, decide_eq_false inside]
        rfl
    | cons first rest => exact rooted_append (List.cons_ne_nil first rest) _
  rw [append, append, rooted]
  split
  · rfl
  · split <;> simp

end Path

namespace Page

variable {settings : Settings} {forest : Forest} {depth : Int} {project : Project}
variable {ids : List FileId} {pages : List Sheet}

/-- The path of the page of a file at a path, without its extension. -/
def pageStem (settings : Settings) (path : Text) : Text :=
  Path.append (settings.value .baseCodePath) (Path.stem path)

theorem pagePath_eq {file : SourceFile} {path : Text} (named : file.path = some path)
    (nonempty : path ≠ []) : pagePath settings file = pageStem settings path ++ ".rst".toList := by
  have given : given? file.path = some path := by
    rw [given?, named, Option.filter_some, if_pos]
    simpa using nonempty
  rw [pagePath, given]
  exact Path.append_append _ _ "rst".toList (by decide)

/-- Files that share a page path differ in the extension, or one of their paths is absolute. -/
theorem eq_of_pageStem_eq {first second : Text}
    (same : pageStem settings first = pageStem settings second)
    (extension : Path.extension first = Path.extension second)
    (rooted : startsWith ['/'] first = startsWith ['/'] second) : first = second := by
  rw [← Path.rooted_stem first, ← Path.rooted_stem second] at rooted
  have stems : Path.stem first = Path.stem second := Path.append_inj rooted same
  rw [← Path.stem_append_extension first, ← Path.stem_append_extension second, stems, extension]

theorem path_filePage {file : SourceFile} {page : Sheet}
    (laid : filePage settings forest depth file = .ok page) : page.path = pagePath settings file := by
  obtain ⟨rows, -, laid⟩ := of_bind_eq_ok laid
  cases laid
  rfl

theorem paths_filePages
    (laid : ids.mapM (fun id => filePage settings forest depth (project.file id)) = .ok pages) :
    pages.map Sheet.path = ids.map fun id => pagePath settings (project.file id) := by
  induction ids generalizing pages with
  | nil =>
      cases laid
      rfl
  | cons id ids ih =>
      rw [List.mapM_cons] at laid
      obtain ⟨page, head, laid⟩ := of_bind_eq_ok laid
      obtain ⟨rest, tail, laid⟩ := of_bind_eq_ok laid
      cases laid
      rw [List.map_cons, List.map_cons, path_filePage head, ih tail]

theorem path_indexPage {page : Sheet} (laid : indexPage settings pages = .ok page) :
    page.path = "index.rst".toList := by
  obtain ⟨rows, -, laid⟩ := of_bind_eq_ok laid
  cases laid
  rfl

/-- The path of the index without its extension, if there is an index. -/
def indexStem (settings : Settings) : List Text :=
  if settings.value .generateIndex then ["index".toList] else []

/-- There is one page for each file, in order, and the index comes last. -/
theorem paths_generate (laid : generate settings project depth = .ok pages) :
    pages.map Sheet.path =
      (project.ordered.map fun id => pagePath settings (project.file id)) ++
        (indexStem settings).map (· ++ ".rst".toList) := by
  obtain ⟨filePages, files, laid⟩ := of_bind_eq_ok laid
  rw [indexStem]
  split at laid
  · rename_i wanted
    obtain ⟨index, last, laid⟩ := of_bind_eq_ok laid
    cases laid
    rw [if_pos wanted, List.map_append, paths_filePages files, List.map_singleton,
      path_indexPage last]
    rfl
  · rename_i unwanted
    cases laid
    rw [if_neg unwanted, paths_filePages files]
    exact (List.append_nil _).symm

end Page

end Docweave
