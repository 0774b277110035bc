import Docweave.Session
import Docweave.Proofs.Directive.Graph
import Docweave.Proofs.Page.Paths
import Docweave.Proofs.Project.Roots

/-!
# Pages that are written

Pages are written one after the other.  Those that go to the same place are written over each
other, and all others can be read back.  Two files of a project have their pages at the same path
when their paths differ in the extension only.
-/

namespace Docweave

open Text

namespace Session

open Files

variable {directory : Text} {files : Tree} {page : Page.Sheet} {pages : List Page.Sheet}

/-- The path to which a page is written. -/
def pageTarget (directory : Text) (page : Page.Sheet) : Text := Path.child directory page.path

/-- The place to which a page is written. -/
def pagePlace (directory : Text) (page : Page.Sheet) : List Text :=
  Path.place (pageTarget directory page)

/-- When all pages are written, the first one is, and the others after it. -/
theorem writePages_cons (done : (writePages directory files (page :: pages)).error = none) :
    ∃ next, files.writeText (pageTarget directory page) page.text = .ok next ∧
      (writePages directory next pages).error = none ∧
      (writePages directory files (page :: pages)).files = (writePages directory next pages).files ∧
      (writePages directory files (page :: pages)).paths =
        pageTarget directory page :: (writePages directory next pages).paths := by
  rw [writePages, ← pageTarget] at done ⊢
  cases written : files.writeText (pageTarget directory page) page.text with
  | error error =>
      rw [written] at done
      dsimp only at done
      split at done <;> cases done
  | ok next =>
      rw [written] at done
      exact ⟨next, rfl, done, rfl, rfl⟩

/-- Pages are written one after the other, each to its own path. -/
theorem paths_writePages (done : (writePages directory files pages).error = none) :
    (writePages directory files pages).paths = pages.map (pageTarget directory) := by
  induction pages generalizing files with
  | nil => rfl
  | cons page pages ih =>
      obtain ⟨next, -, rest, -, paths_eq⟩ := writePages_cons done
      rw [paths_eq, ih rest, List.map_cons]

theorem keeps_writePages (done : (writePages directory files pages).error = none) :
    Tree.Keeps (pages.map (pagePlace directory)) files (writePages directory files pages).files := by
  induction pages generalizing files with
  | nil => exact .refl files
  | cons page pages ih =>
      obtain ⟨next, written, rest, files_eq, -⟩ := writePages_cons done
      rw [files_eq, List.map_cons]
      exact (Tree.of_writeText written).1.trans (ih rest)

/-- The last page that goes to a place is read under the path of every page that goes there. -/
theorem get?_writePages (done : (writePages directory files pages).error = none)
    {earlier later : List Page.Sheet} (split : pages = earlier ++ page :: later)
    (last : ∀ other ∈ later, pagePlace directory other ≠ pagePlace directory page) :
    (writePages directory files pages).files.get? (pagePlace directory page) =
      some (.file (Utf8.encode page.text)) := by
  induction earlier generalizing files pages with
  | nil =>
      rw [List.nil_append] at split
      subst split
      obtain ⟨next, written, rest, files_eq, -⟩ := writePages_cons done
      obtain ⟨-, -, here⟩ := Tree.read_eq_ok.mp (Tree.of_writeText written).2
      have free : pagePlace directory page ∉ later.map (pagePlace directory) := by
        rw [List.mem_map]
        rintro ⟨other, isLater, same⟩
        exact last other isLater same
      rw [files_eq]
      exact (keeps_writePages rest).file _ _ free here
  | cons first earlier ih =>
      rw [List.cons_append] at split
      subst split
      obtain ⟨next, -, rest, files_eq, -⟩ := writePages_cons done
      rw [files_eq]
      exact ih rest rfl

/-- The paths of all pages lead somewhere when the pages are written. -/
theorem resolve_writePages (done : (writePages directory files pages).error = none)
    (written : page ∈ pages) :
    Tree.requireName (pageTarget directory page) = .ok () ∧
      (writePages directory files pages).files.resolve (pageTarget directory page) =
        .ok (pagePlace directory page) := by
  induction pages generalizing files with
  | nil => cases written
  | cons first pages ih =>
      obtain ⟨next, writtenFirst, rest, files_eq, -⟩ := writePages_cons done
      rw [files_eq]
      rcases List.mem_cons.mp written with rfl | later
      · obtain ⟨named, resolved, -⟩ := Tree.read_eq_ok.mp (Tree.of_writeText writtenFirst).2
        exact ⟨named, (keeps_writePages rest).resolve resolved⟩
      · exact ih rest later

/-- Under the path of every page the last page that went to the same place is read. -/
theorem read_writePages (done : (writePages directory files pages).error = none)
    {earlier later : List Page.Sheet} (split : pages = earlier ++ page :: later)
    (last : ∀ other ∈ later, pagePlace directory other ≠ pagePlace directory page)
    {other : Page.Sheet} (written : other ∈ pages)
    (same : pagePlace directory other = pagePlace directory page) :
    (writePages directory files pages).files.read (pageTarget directory other) =
      .ok (Utf8.encode page.text) := by
  obtain ⟨named, resolved⟩ := resolve_writePages done written
  refine Tree.read_eq_ok.mpr ⟨named, resolved, ?_⟩
  have here := get?_writePages done split last
  rwa [← same] at here

end Session

namespace Project

open Page Session

/-- Each file that was linked has one page, whatever directives did, and the index comes on top.  The
paths of the pages differ if and only if those of the files differ without their extensions, and
none of them is that of the index.  Under the path of a page the last page that went to the same
place is read. -/
theorem pages_linkInOrder (project : Project) (ids : List FileId) (fresh : project.Fresh ids)
    (unlisted : project.linked = []) (order : List (FileId × Bool))
    (permuted : (order.map Prod.fst).Perm ids) (paths : FileId → Text)
    (named : ∀ id ∈ ids, (project.file id).path = some (paths id) ∧ paths id ≠ [])
    (current : Project) (same : (project.linkInOrder order).SameGraph current)
    (settings : Settings) (depth : Int) (pages : List Sheet)
    (laid : generate settings current depth = .ok pages) :
    let stems := (ids.map fun id => pageStem settings (paths id)) ++ indexStem settings
    (pages.map Sheet.path).Perm (stems.map (· ++ ".rst".toList)) ∧
    ((pages.map Sheet.path).Nodup ↔ stems.Nodup) ∧
    (∀ id ∈ ids, ∀ other ∈ ids,
      pageStem settings (paths id) = pageStem settings (paths other) →
      Path.extension (paths id) = Path.extension (paths other) →
      startsWith ['/'] (paths id) = startsWith ['/'] (paths other) → id = other) ∧
    ∀ directory files, (writePages directory files pages).error = none →
      (writePages directory files pages).paths = pages.map (pageTarget directory) ∧
      ∀ earlier last later, pages = earlier ++ last :: later →
        (∀ other ∈ later, pagePlace directory other ≠ pagePlace directory last) →
        ∀ page ∈ pages, pagePlace directory page = pagePlace directory last →
          (writePages directory files pages).files.read (pageTarget directory page) =
            .ok (Utf8.encode last.text) := by
  intro stems
  have linked := (fresh.linked_linkInOrder permuted unlisted).1
  have path_eq : ∀ id ∈ ids,
      pagePath settings (current.file id) = pageStem settings (paths id) ++ ".rst".toList := by
    intro id membership
    obtain ⟨path, nonempty⟩ := named id membership
    exact pagePath_eq (by rw [same.path_eq, linked.sameFiles.path_eq, path]) nonempty
  have perm : (pages.map Sheet.path).Perm (stems.map (· ++ ".rst".toList)) := by
    have ordered : current.ordered.Perm ids := by
      rw [same.ordered_eq]
      exact fresh.ordered_perm permuted unlisted
    have filePaths := ordered.map fun id => pagePath settings (current.file id)
    rw [List.map_congr_left path_eq] at filePaths
    rw [paths_generate laid, List.map_append, List.map_map]
    exact filePaths.append_right _
  refine ⟨perm, ?_, ?_, ?_⟩
  · rw [perm.nodup_iff]
    exact List.nodup_map_iff (List.append_left_injective _)
  · intro id membership other otherIn stem extension rooted
    have samePath : project.filePath id = project.filePath other := by
      rw [filePath, filePath, (named id membership).1, (named other otherIn).1,
        eq_of_pageStem_eq stem extension rooted]
    have apart : (ids.map project.filePath).Nodup := List.pairwise_map.mpr fresh.apart
    exact List.inj_on_of_nodup_map apart membership otherIn samePath
  · intro directory files done
    refine ⟨paths_writePages done, ?_⟩
    intro earlier last later split isLast page membership here
    exact read_writePages done split isLast membership here

/-- A file at the top and one in a directory, with the same name but for the extension: all pages are
read as they were laid out. -/
theorem pages_linkInOrder_of_two :
    let first := ({} : Project).addFile "var a = 1\n" 1 (some "a.js") none none
    let project := (first.1.addFile "var b = 2\n" 1 (some "lib/a.mjs") none none).1
    let ids : List FileId := [⟨0⟩, ⟨1⟩]
    let order : List (FileId × Bool) := [(⟨1⟩, false), (⟨0⟩, true)]
    let paths : FileId → Text := fun id => if id.index = 0 then "a.js" else "lib/a.mjs"
    let current := (project.linkInOrder order).runDirectives.1
    let pages := (generate .default current 1).toOption.getD []
    let written := writePages "docs" .empty pages
    project.Fresh ids ∧ project.linked = [] ∧ (order.map Prod.fst).Perm ids ∧
      (∀ id ∈ ids, (project.file id).path = some (paths id) ∧ paths id ≠ []) ∧
      (project.linkInOrder order).SameGraph current ∧
      generate .default current 1 = .ok pages ∧ written.error = none ∧
      (pages.map Sheet.path).Perm ["code/a.rst".toList, "code/lib/a.rst".toList, "index.rst".toList] ∧
      (pages.map Sheet.path).Nodup ∧
      ∀ page ∈ pages, written.files.read (pageTarget "docs" page) = .ok (Utf8.encode page.text) := by
  intro first project ids order paths current pages written
  have fresh : project.Fresh ids := ⟨by decide, by decide, by decide +kernel, by decide⟩
  have same : (project.linkInOrder order).SameGraph current := sameGraph_runDirectives _
  obtain ⟨unlisted, permuted, named, laid, done, stems, apart⟩ :
      project.linked = [] ∧ (order.map Prod.fst).Perm ids ∧
      (∀ id ∈ ids, (project.file id).path = some (paths id) ∧ paths id ≠ []) ∧
      generate .default current 1 = .ok pages ∧ written.error = none ∧
      (ids.map fun id => pageStem .default (paths id)) ++ indexStem .default =
        ["code/a".toList, "code/lib/a".toList, "index".toList] ∧
      pages.Pairwise fun page other => pagePlace "docs" other ≠ pagePlace "docs" page := by
    decide +kernel
  -- What there is to compute is done, and the pages need not be laid out again.
  clear_value project ids paths current pages
  obtain ⟨listed, distinct, -, reading⟩ := pages_linkInOrder project ids fresh unlisted order permuted
    paths named current same .default 1 pages laid
  rw [stems] at listed distinct
  refine ⟨fresh, unlisted, permuted, named, same, laid, done, listed, distinct.mpr (by decide), ?_⟩
  intro page membership
  obtain ⟨earlier, later, split⟩ := List.append_of_mem membership
  refine (reading "docs" .empty done).2 earlier page later split ?_ page membership rfl
  rw [split, List.pairwise_append, List.pairwise_cons] at apart
  exact apart.2.1.1

/-- Two files whose paths differ in the extension have their pages at one path, and only one of the
pages is left when they have been written. -/
theorem pages_overwritten_of_same_stem :
    let first := ({} : Project).addFile "var a = 1\n" 1 (some "a.js") none none
    let project := (first.1.addFile "var b = 2\n" 1 (some "a.mjs") none none).1
    let ids : List FileId := [⟨0⟩, ⟨1⟩]
    let order : List (FileId × Bool) := [(⟨0⟩, false), (⟨1⟩, false)]
    let current := (project.linkInOrder order).runDirectives.1
    let pages := (generate .default current 1).toOption.getD []
    let written := writePages "docs" .empty pages
    project.Fresh ids ∧ project.linked = [] ∧ (order.map Prod.fst).Perm ids ∧
      (∀ id ∈ ids, ∃ path, (project.file id).path = some path ∧ Path.join [path] = path ∧
        Files.skipsFile .default path = .ok false) ∧
      generate .default current 1 = .ok pages ∧ written.error = none ∧
      pages.map Sheet.path = ["code/a.rst".toList, "code/a.rst".toList, "index.rst".toList] ∧
      ¬ (pages.map Sheet.path).Nodup ∧
      (∃ page ∈ pages, page.path = "code/a.rst".toList ∧
        written.files.read (pageTarget "docs" page) ≠ .ok (Utf8.encode page.text)) := by
  intro first project ids order current pages written
  have fresh : project.Fresh ids := ⟨by decide, by decide, by decide +kernel, by decide⟩
  have accepted : ∀ id ∈ ids, ∃ path ∈ ["a.js".toList, "a.mjs".toList],
      (project.file id).path = some path ∧ Path.join [path] = path ∧
      Files.skipsFile .default path = .ok false := by
    decide +kernel
  obtain ⟨unlisted, permuted, overwritten⟩ :
      project.linked = [] ∧ (order.map Prod.fst).Perm ids ∧
      generate .default current 1 = .ok pages ∧ written.error = none ∧
      pages.map Sheet.path = ["code/a.rst".toList, "code/a.rst".toList, "index.rst".toList] ∧
      ¬ (pages.map Sheet.path).Nodup ∧
      (∃ page ∈ pages, page.path = "code/a.rst".toList ∧
        written.files.read (pageTarget "docs" page) ≠ .ok (Utf8.encode page.text)) := by
    decide +kernel
  refine ⟨fresh, unlisted, permuted, ?_, overwritten⟩
  intro id membership
  obtain ⟨path, -, found⟩ := accepted id membership
  exact ⟨path, found⟩

end Project

end Docweave
