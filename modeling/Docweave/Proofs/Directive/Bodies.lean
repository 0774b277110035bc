import Docweave.Proofs.Forest.Spoken
import Docweave.Proofs.Directive.Once

/-!
# The bodies that are open after a pass

Two look-ups decide which functions are open after a pass.  Parsing opens those for which a comment
with `parse` speaks, found backward over blocks without blank rows; the pass opens the first code that
follows such a comment.  Nothing else opens a body, so at the top of a file that does not stop
a function is open exactly when one of the two has found it.
-/

namespace Docweave

open Text

namespace Pass

section Tour

variable {handlers : List (Text × Handler)} {file : FileId} {id block : BlockId}
variable {content : ContentId} {next : Option BlockId}
variable {pass entered after : Pass} {visits : List Visit}

/-! ## Nothing at the top is passed over -/

theorem Meets.hasBlock_of_ahead (meets : Meets content next pass)
    (ahead : Ahead content next pass block) : pass.project.forest.HasBlock block := by
  obtain ⟨_, _, _, _, atFurther⟩ := ahead
  exact meets.sound.forest.placed.hasBlock (List.mem_of_getElem? atFurther)

/-- A walk that leaves a content whole has the rest of it still ahead at the next block. -/
theorem ahead_sibling (sound : entered.project.Sound)
    (whole : entered.project.forest.members content = pass.project.forest.members content)
    (ahead : Ahead content (some id) pass block) (other : block ≠ id) :
    Ahead content (entered.project.forest.sibling? .forward id) entered block := by
  obtain ⟨index, further, atIndex, notBefore, atFurther⟩ := ahead
  have different : index ≠ further := by
    rintro rfl
    exact other (Option.some.inj (atFurther.symm.trans atIndex))
  rw [← whole] at atIndex atFurther
  exact ⟨index + 1, further, (sound.forest.placed.sibling?_eq atIndex).symm, by omega, atFurther⟩

/-- A walk that is not halted and leaves its content whole visits every comment with directives that
is ahead. -/
theorem Tour.exists_visit (tour : Tour handlers file content next pass visits after)
    (noting : Handler.AllNoting handlers) (meets : Meets content next pass) (going : ¬ after.halted)
    (whole : after.project.forest.members content = pass.project.forest.members content)
    (ahead : Ahead content next pass block)
    (speaks : (pass.project.forest.block block).hasDirectives) :
    ∃ visit ∈ visits, visit.content = content ∧ visit.comment = block := by
  induction tour with
  | finished =>
      obtain ⟨index, further, atIndex, notBefore, atFurther⟩ := ahead
      have inside := (List.getElem?_eq_some_iff.mp atFurther).1
      rw [List.getElem?_eq_none_iff] at atIndex
      omega
  | halted isHalted => exact absurd isHalted going
  | @silent content id pass later after _ isSilent rest ih =>
      have other : block ≠ id := by
        rintro rfl
        exact isSilent speaks
      exact ih meets.silent going whole (ahead_sibling meets.sound rfl ahead other) speaks
  | @around content id pass later after _ _ shut rest ih =>
      obtain ⟨toOpened, toClosed, meetsLater⟩ := meets.closed noting file .refl
      have keeps := toOpened.trans toClosed
      have wholeLater := keeps.forest.members_eq_between (rest.keeps noting meetsLater).forest
        meets.hasContent whole
      by_cases here : block = id
      · exact ⟨_, List.mem_cons_self, rfl, here.symm⟩
      · obtain ⟨visit, visited, found⟩ := ih meetsLater going (whole.trans wholeLater.symm)
          (ahead_sibling meetsLater.sound wholeLater ahead here)
          (by rwa [keeps.forest.block_eq block (meets.hasBlock_of_ahead ahead)])
        exact ⟨visit, List.mem_cons_of_mem _ visited, found⟩
  | @inside content inner id pass within entered later after _ _ leads body rest ihBody ih =>
      have start := meets.body noting leads
      obtain ⟨toOpened, toClosed, meetsLater⟩ := meets.closed noting file (body.moves noting start)
      have keeps := (toOpened.trans (body.keeps noting start)).trans toClosed
      have wholeLater := keeps.forest.members_eq_between (rest.keeps noting meetsLater).forest
        meets.hasContent whole
      by_cases here : block = id
      · exact ⟨_, List.mem_cons_self, rfl, here.symm⟩
      · obtain ⟨visit, visited, found⟩ := ih meetsLater going (whole.trans wholeLater.symm)
          (ahead_sibling meetsLater.sound wholeLater ahead here)
          (by rwa [keeps.forest.block_eq block (meets.hasBlock_of_ahead ahead)])
        exact ⟨visit, List.mem_cons_of_mem _ (List.mem_append_right _ visited), found⟩

/-! ## Nothing else opens a body -/

theorem nested_closed : ((closed file id pass content entered).project.forest.entry block).nested =
    (entered.project.forest.entry block).nested := by
  rw [closed, andThen]
  split
  · rfl
  · split
    · rw [stopAfter]
      split <;> exact Forest.view_truncate Entry.nested fun _ => rfl
    · rfl

/-- A comment opens a body only when it leads into it. -/
theorem nested_opened (noting : Handler.AllNoting handlers)
    (has : pass.project.forest.HasBlock block)
    (other : (contextAt file id pass).target ≠ some block ∨ inner? handlers file id pass = none) :
    ((opened handlers file id pass).project.forest.entry block).nested =
      (pass.project.forest.entry block).nested := by
  have notes : Project.Notes pass.project (applied handlers file id pass).project :=
    notes_applyAll noting _ _
  rcases opened_cases handlers file id pass with
    ⟨-, -, more⟩ | ⟨target, inner, isTarget, leads, -, opened_eq, -⟩
  · rw [more.forest.nested_eq, notes.forest.nested_eq]
  · have different : block ≠ target := by
      rintro rfl
      rcases other with other | shut
      · exact other isTarget
      · rw [leads] at shut
        cases shut
    rw [opened_eq]
    exact (Forest.nested_openBody_of_ne ((notes.forest.hasBlock_iff block).mpr has) different).trans
      (notes.forest.nested_eq block)

/-- A body that a walk has opened is that of the code after a comment it visited. -/
theorem Tour.exists_target (tour : Tour handlers file content next pass visits after)
    (noting : Handler.AllNoting handlers) (meets : Meets content next pass)
    (has : pass.project.forest.HasBlock block)
    (shut : (pass.project.forest.entry block).nested = none)
    (isOpen : (after.project.forest.entry block).nested.isSome) :
    ∃ visit ∈ visits, visit.target? = some block ∧ (visit.inner? handlers file).isSome := by
  induction tour with
  | finished | halted _ =>
      rw [shut] at isOpen
      cases isOpen
  | silent _ _ rest ih => exact ih meets.silent has shut isOpen
  | @around content id pass later after _ _ leadsNowhere rest ih =>
      obtain ⟨toOpened, toClosed, meetsLater⟩ := meets.closed noting file .refl
      have shutOpened := (nested_opened noting has (.inr leadsNowhere)).trans shut
      have hasLater := (toOpened.trans toClosed).forest.hasBlock block has
      obtain ⟨visit, visited, found⟩ := ih meetsLater hasLater (nested_closed.trans shutOpened) isOpen
      exact ⟨visit, List.mem_cons_of_mem _ visited, found⟩
  | @inside content inner id pass within entered later after _ _ leads body rest ihBody ih =>
      have start := meets.body noting leads
      obtain ⟨toOpened, toClosed, meetsLater⟩ := meets.closed noting file (body.moves noting start)
      have hasOpened := toOpened.forest.hasBlock block has
      by_cases here : (contextAt file id pass).target = some block
      · refine ⟨⟨content, id, pass⟩, List.mem_cons_self, here, ?_⟩
        rw [Visit.inner?, leads]
        rfl
      · have shutOpened := (nested_opened noting has (.inl here)).trans shut
        cases inBody : (entered.project.forest.entry block).nested with
        | some _ =>
            obtain ⟨visit, visited, found⟩ := ihBody start hasOpened shutOpened (by rw [inBody]; rfl)
            exact ⟨visit, List.mem_cons_of_mem _ (List.mem_append_left _ visited), found⟩
        | none =>
            have hasLater := ((body.keeps noting start).trans toClosed).forest.hasBlock block hasOpened
            obtain ⟨visit, visited, found⟩ := ih meetsLater hasLater (nested_closed.trans inBody) isOpen
            exact ⟨visit, List.mem_cons_of_mem _ (List.mem_append_right _ visited), found⟩

/-! ## What is open after a walk -/

/-- Without a comment that asks to stop a content stays whole. -/
theorem Tour.members_eq (tour : Tour handlers file content next pass visits after)
    (noting : Handler.AllNoting handlers) (meets : Meets content next pass)
    (quiet : ∀ comment ∈ pass.project.forest.members content, ¬ asks comment pass stopVerb) :
    after.project.forest.members content = pass.project.forest.members content := by
  apply (tour.walks.moves noting meets).members_eq meets.sound meets.hasContent
  rintro ⟨handing, had, rfl, stops⟩
  have member := tour.walks.located noting meets handing had (.inr meets.hasContent)
  obtain ⟨visit, visited, turn⟩ := List.mem_flatMap.mp had
  have between := tour.between noting meets visit visited
  obtain ⟨-, context_eq, present⟩ := of_mem_handed turn
  have inContent : visit.comment ∈ pass.project.forest.members handing.content := by
    rw [context_eq] at member
    exact member
  have asked : asks visit.comment visit.pass stopVerb :=
    List.any_eq_true.mpr ⟨handing.directive, present, beq_iff_eq.mpr stops⟩
  rw [asks_eq between.since (meets.sound.forest.placed.hasBlock inContent)] at asked
  exact quiet visit.comment inContent asked

section Whole

variable (tour : Tour handlers file content next pass visits after)
variable (noting : Handler.AllNoting handlers) (meets : Meets content next pass)
variable (whole : after.project.forest.members content = pass.project.forest.members content)

include tour noting meets whole

/-- In a content that stays whole, every visit sees the blocks of the content and what follows a
comment in it as they were at the start. -/
theorem Tour.sees {visit : Visit} (visited : visit ∈ visits) :
    visit.pass.project.forest.members content = pass.project.forest.members content ∧
      ∀ comment ∈ pass.project.forest.members content,
        visit.pass.project.forest.next? .all .forward Forest.codeKinds comment =
          pass.project.forest.next? .all .forward Forest.codeKinds comment := by
  have placed := meets.sound.forest.placed
  have between := tour.between noting meets visit visited
  have members_eq := between.since.forest.members_eq_between (between.keeps noting).forest
    meets.hasContent whole
  refine ⟨members_eq, fun comment inContent => ?_⟩
  exact Forest.next?_eq_of_members_eq placed between.meets.sound.forest.placed members_eq
    (fun id member => between.since.forest.block_eq id (placed.hasBlock member)) inContent _

/-- A body that has been opened in a content that stays whole stands first in the code after a
comment with `parse`. -/
theorem Tour.exists_asking (member : block ∈ pass.project.forest.members content)
    (shut : (pass.project.forest.entry block).nested = none)
    (isOpen : (after.project.forest.entry block).nested.isSome) :
    ∃ comment ∈ pass.project.forest.members content, asks comment pass parseVerb ∧
      pass.project.forest.next? .all .forward Forest.codeKinds comment = some block := by
  have placed := meets.sound.forest.placed
  obtain ⟨visit, visited, isTarget, leads⟩ :=
    tour.exists_target noting meets (placed.hasBlock member) shut isOpen
  obtain ⟨members_eq, next_eq⟩ := tour.sees noting meets whole visited
  have between := tour.between noting meets visit visited
  have placedVisit := between.meets.sound.forest.placed
  have content_eq : content = visit.content := by
    apply placedVisit.content_unique
      (Forest.mem_members_of_next? placedVisit between.member isTarget)
    rwa [members_eq]
  have inContent := between.member
  rw [← content_eq, members_eq] at inContent
  refine ⟨visit.comment, inContent, ?_, ?_⟩
  · rw [← asks_eq between.since (placed.hasBlock inContent)]
    obtain ⟨inner, found⟩ := Option.isSome_iff_exists.mp leads
    exact Visit.asks_parse found
  · rw [← next_eq visit.comment inContent]
    exact isTarget

/-- A comment with `parse` that lies ahead opens the body of the code after it. -/
theorem Tour.isSome_nested (going : ¬ after.halted) {comment : BlockId}
    (ahead : Ahead content next pass comment)
    (inContent : comment ∈ pass.project.forest.members content)
    (parses : asks comment pass parseVerb)
    (follows : pass.project.forest.next? .all .forward Forest.codeKinds comment = some block)
    (has : pass.project.forest.HasBlock block)
    (hasBody : (pass.project.forest.block block).body?.isSome) :
    (after.project.forest.entry block).nested.isSome := by
  have placed := meets.sound.forest.placed
  have speaks : (pass.project.forest.block comment).hasDirectives := by
    obtain ⟨directive, present, -⟩ := List.any_eq_true.mp parses
    have nonempty := List.ne_nil_of_mem present
    simpa [Block.hasDirectives, directivesAt] using nonempty
  obtain ⟨visit, visited, -, rfl⟩ := tour.exists_visit noting meets going whole ahead speaks
  have between := tour.between noting meets visit visited
  have applies := tour.going going visit visited
  have notes : Project.Notes visit.pass.project
      (applied handlers file visit.comment visit.pass).project := notes_applyAll noting _ _
  have isTarget :=
    ((tour.sees noting meets whole visited).2 visit.comment inContent).trans follows
  rw [← asks_eq between.since (placed.hasBlock inContent)] at parses
  obtain ⟨body, found⟩ := Option.isSome_iff_exists.mp hasBody
  rw [← between.since.forest.block_eq block has, ← notes.forest.block_eq] at found
  obtain ⟨inner, nested⟩ := Option.isSome_iff_exists.mp (Forest.isSome_nested_openBody found)
  apply Option.isSome_iff_exists.mpr
  refine ⟨inner, between.onwards.forest.nested block inner ?_⟩
  rw [Visit.opened, opened_eq_openBody applies parses isTarget found]
  exact nested

end Whole

/-- In a content that stays whole, those bodies are open after a walk from its first block that were
open before, or that stand first in the code after a comment with `parse`. -/
theorem Tour.isSome_nested_iff
    (tour : Tour handlers file content (pass.project.forest.members content).head? pass visits after)
    (noting : Handler.AllNoting handlers)
    (meets : Meets content (pass.project.forest.members content).head? pass)
    (going : ¬ after.halted)
    (whole : after.project.forest.members content = pass.project.forest.members content)
    (member : block ∈ pass.project.forest.members content)
    (hasBody : (pass.project.forest.block block).body?.isSome) :
    (after.project.forest.entry block).nested.isSome ↔
      (pass.project.forest.entry block).nested.isSome ∨
      ∃ comment ∈ pass.project.forest.members content, asks comment pass parseVerb ∧
        pass.project.forest.next? .all .forward Forest.codeKinds comment = some block := by
  constructor
  · intro isOpen
    cases shut : (pass.project.forest.entry block).nested with
    | some inner => exact .inl rfl
    | none => exact .inr (tour.exists_asking noting meets whole member shut isOpen)
  · rintro (early | ⟨comment, inContent, parses, follows⟩)
    · obtain ⟨inner, nested⟩ := Option.isSome_iff_exists.mp early
      exact Option.isSome_iff_exists.mpr
        ⟨inner, (tour.keeps noting meets).forest.nested block inner nested⟩
    · obtain ⟨index, atIndex⟩ := List.mem_iff_getElem?.mp inContent
      have ahead : Ahead content (pass.project.forest.members content).head? pass comment :=
        ⟨0, index, List.head?_eq_getElem?.symm, Nat.zero_le _, atIndex⟩
      exact tour.isSome_nested noting meets whole going ahead inContent parses follows
        (meets.sound.forest.placed.hasBlock member) hasBody

end Tour

end Pass

namespace Project

open Pass

section AddFile

variable {project : Project} {text : Text} {row : Int} {path name description : Option Text}

theorem content_addFile :
    ((project.addFile text row path name description).1.file
      (project.addFile text row path name description).2).content = project.forest.nextContent := by
  rw [addFile_eq]
  exact Eq.trans (view_modifyFile SourceFile.content fun _ => rfl) file_withFile_self

theorem forest_addFile :
    (project.addFile text row path name description).1.forest =
      (Forest.newContent { text, row } project.forest).1.plantTrees project.forest.nextContent
        (Outline.parse text row).members := by
  rw [← Forest.load_newContent {} project.forest text row rfl, addFile_eq]
  exact congrArg (fun content => Forest.load content text row _) file_withFile_self

/-- A file that was just added shows the blocks of its text, opened as they are in its outline. -/
theorem shows_addFile :
    (project.addFile text row path name description).1.forest.Shows
      ((project.addFile text row path name description).1.forest.members project.forest.nextContent)
      (Outline.parse text row).members := by
  obtain ⟨ids, members_eq, shows⟩ := Forest.shows_plantTrees
    (Forest.hasContent_newContent.mpr (.inr rfl) :
      (Forest.newContent { text, row } project.forest).1.HasContent project.forest.nextContent)
    (Outline.parse text row).members
  rw [forest_addFile, members_eq, Forest.members, Forest.content_newContent_self, List.nil_append]
  exact shows

end AddFile

/-- A file is added and a pass goes over it, which meets no comment at the top that asks to stop and
no number that is too large.  It leaves all blocks at the top, and there a function or an assigned
function is open exactly when a comment with `parse` is followed by it as the first code, or speaks
for it: there is no blank row and no other comment between the two. -/
theorem nested_runFile_iff {project : Project} (built : project.Built) (text : Text) (row : Int)
    (path name description : Option Text) (report : Report) :
    let added := project.addFile text row path name description
    let read := added.1.forest
    let content := (added.1.file added.2).content
    let done := Pass.runFile Handler.builtIn added.2 { project := added.1, report }
    let carries (verb : Text) (comment : BlockId) :=
      ∃ directive ∈ (read.block comment).directives, directive.verb = verb
    (∀ comment ∈ read.members content, ¬ carries stopVerb comment) → ¬ done.halted →
      done.project.forest.members content = read.members content ∧
      ∀ block ∈ read.members content,
        (read.block block).kind = .functionDecl ∨ (read.block block).kind = .assignment →
        (read.block block).body?.isSome →
        ((done.project.forest.entry block).nested.isSome ↔
          ∃ comment ∈ read.members content, carries parseVerb comment ∧
            (read.next? .all .forward Forest.codeKinds comment = some block ∨
              read.note? block = some comment)) := by
  intro added read content done carries quiet going
  have noting := Handler.allNoting_builtIn
  have sound : added.1.Sound := built.sound.addFile text row
  have has : added.1.HasFile added.2 := hasFile_addFile text row
  have carries_iff : ∀ verb comment, asks comment { project := added.1, report } verb ↔
      carries verb comment := by
    intro verb comment
    simp [asks, directivesAt, carries, read]
  have start : ({ project := added.1, report } : Pass).project.Sound := sound
  obtain ⟨handings, runs⟩ := exists_runs noting start has Bool.false_ne_true
  obtain ⟨walked, walks, project_eq, -, -, halted_eq⟩ := runs.walks
  obtain ⟨visits, tour, rfl⟩ := walks.exists_tour
  have meets := Meets.head start (start.hasContent added.2 has)
  have whole := tour.members_eq noting meets fun comment inContent asked =>
    quiet comment inContent ((carries_iff stopVerb comment).mp asked)
  have goes : ¬ walked.halted := by rwa [← halted_eq]
  refine ⟨by rw [project_eq]; exact whole, fun block member kind hasBody => ?_⟩
  have shows : read.Shows (read.members content) (Outline.parse text row).members := by
    have content_eq : content = project.forest.nextContent := content_addFile
    rw [content_eq]
    exact shows_addFile
  have placed : read.Placed := sound.forest.placed
  rw [project_eq, tour.isSome_nested_iff noting meets goes whole member hasBody]
  constructor
  · rintro (early | ⟨comment, inContent, asked, follows⟩)
    · obtain ⟨comment, speaks, parses⟩ :=
        (shows.isSome_nested_iff placed member kind hasBody).mp early
      exact ⟨comment, Forest.mem_members_of_next? placed member speaks, parses, .inr speaks⟩
    · exact ⟨comment, inContent, (carries_iff parseVerb comment).mp asked, .inl follows⟩
  · rintro ⟨comment, inContent, parses, follows | speaks⟩
    · exact .inr ⟨comment, inContent, (carries_iff parseVerb comment).mpr parses, follows⟩
    · exact .inl ((shows.isSome_nested_iff placed member kind hasBody).mpr ⟨comment, speaks, parses⟩)

/-- The first of three functions is opened by the pass, over a blank row, the second not at all, and
the third by parsing, which looks past the value before it. -/
theorem nested_runFile_of_three :
    let text : Text := "// @parse\n\nfunction a() \x7b\n\x7d\nfunction b() \x7b\n\x7d\n// @parse\nvar x = 1\nexports.c = function () \x7b\n\x7d\n"
    let added := ({} : Project).addFile text 1 none none none
    let read := added.1.forest
    let content := (added.1.file added.2).content
    let done := Pass.runFile Handler.builtIn added.2 { project := added.1 }
    let after := done.project.forest
    Built {} ∧
      (∀ comment ∈ read.members content,
        ¬ ∃ directive ∈ (read.block comment).directives, directive.verb = stopVerb) ∧
      ¬ done.halted ∧ after.members content = [⟨0⟩, ⟨1⟩, ⟨2⟩, ⟨3⟩, ⟨4⟩, ⟨5⟩] ∧
      (after.entry ⟨1⟩).nested.isSome ∧ ¬ (after.entry ⟨2⟩).nested.isSome ∧
      (after.entry ⟨5⟩).nested.isSome := by
  intro text added read content done after
  let asked (block : BlockId) : Prop := ∃ comment ∈ read.members content,
    (∃ directive ∈ (read.block comment).directives, directive.verb = parseVerb) ∧
      (read.next? .all .forward Forest.codeKinds comment = some block ∨
        read.note? block = some comment)
  obtain ⟨quiet, going, members_eq, kinds, first, second, third⟩ :
      (∀ comment ∈ read.members content,
        ¬ ∃ directive ∈ (read.block comment).directives, directive.verb = stopVerb) ∧
      ¬ done.halted ∧ read.members content = [⟨0⟩, ⟨1⟩, ⟨2⟩, ⟨3⟩, ⟨4⟩, ⟨5⟩] ∧
      (∀ block ∈ [⟨1⟩, ⟨2⟩, ⟨5⟩],
        ((read.block block).kind = .functionDecl ∨ (read.block block).kind = .assignment) ∧
          (read.block block).body?.isSome) ∧
      asked ⟨1⟩ ∧ ¬ asked ⟨2⟩ ∧ asked ⟨5⟩ := by
    decide +kernel
  -- What there is to compute is done, and the text need not be read again.
  clear_value text
  obtain ⟨whole, open_iff⟩ :=
    nested_runFile_iff (.empty ['.']) text 1 none none none {} quiet going
  have member : ∀ block ∈ [⟨1⟩, ⟨2⟩, ⟨5⟩], block ∈ read.members content := by
    rw [members_eq]
    decide
  have openHere : ∀ block ∈ [⟨1⟩, ⟨2⟩, ⟨5⟩], (after.entry block).nested.isSome ↔ asked block :=
    fun block listed => open_iff block (member block listed) (kinds block listed).1 (kinds block listed).2
  refine ⟨.empty ['.'], quiet, going, whole.trans members_eq, ?_, ?_, ?_⟩
  · exact (openHere ⟨1⟩ (by simp)).mpr first
  · exact mt (openHere ⟨2⟩ (by simp)).mp second
  · exact (openHere ⟨5⟩ (by simp)).mpr third

/-- A function is open although no comment with `parse` is followed by it as the first code: the
comment speaks for all of the run in which the function stands. -/
theorem nested_runFile_of_run :
    let text : Text := "// @parse\nfunction a() \x7b\n\x7d\nfunction b() \x7b\n\x7d\n"
    let added := ({} : Project).addFile text 1 none none none
    let read := added.1.forest
    let content := (added.1.file added.2).content
    let done := Pass.runFile Handler.builtIn added.2 { project := added.1 }
    (∀ comment ∈ read.members content,
        ¬ ∃ directive ∈ (read.block comment).directives, directive.verb = stopVerb) ∧
      ¬ done.halted ∧ ⟨2⟩ ∈ done.project.forest.members content ∧
      (read.block ⟨2⟩).kind = .functionDecl ∧
      ¬ ((done.project.forest.entry ⟨2⟩).nested.isSome ↔
        ∃ comment ∈ read.members content,
          (∃ directive ∈ (read.block comment).directives, directive.verb = parseVerb) ∧
            read.next? .all .forward Forest.codeKinds comment = some ⟨2⟩) := by
  decide +kernel

end Project

end Docweave
