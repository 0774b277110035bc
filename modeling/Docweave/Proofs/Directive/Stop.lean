import Docweave.Proofs.Project.Built

/-!
# Stopping at the top of a file

The first comment at the top of a file that asks to stop is the last block that a pass leaves
there.  Whatever happens in bodies on the way, no walk but that of the file itself comes to the
blocks at its top, and none of them goes away before the comment has its turn.
-/

namespace Docweave

open Text

namespace Pass

variable {handlers : List (Text × Handler)} {file : FileId} {id comment : BlockId}
variable {content : ContentId} {next : Option BlockId} {earlier later : List BlockId}
variable {pass entered after : Pass} {handings : List Handing}

/-- At the top of a file stand some blocks that do not ask to stop, a comment that does, and what
follows it. -/
structure FirstStop (file : FileId) (content : ContentId) (earlier : List BlockId)
    (comment : BlockId) (later : List BlockId) (pass : Pass) : Prop where
  sound : pass.project.Sound
  hasFile : pass.project.HasFile file
  top : (pass.project.file file).content = content
  members : pass.project.forest.members content = earlier ++ comment :: later
  asked : asks comment pass stopVerb
  quiet : ∀ id ∈ earlier, ¬ asks id pass stopVerb

theorem asks_eq {verb : Text} (keeps : pass.project.Keeps after.project)
    (has : pass.project.forest.HasBlock id) : asks id after verb = asks id pass verb := by
  rw [asks, directivesAt, keeps.forest.block_eq id has, asks, directivesAt]

theorem closed_of_quiet (quiet : ¬ asks id pass stopVerb) :
    closed file id pass content entered = entered := by
  rw [closed, andThen]
  split <;> rfl

namespace FirstStop

theorem hasContent (first : FirstStop file content earlier comment later pass) :
    pass.project.forest.HasContent content := by
  have has := first.sound.hasContent file first.hasFile
  rwa [first.top] at has

theorem unowned (first : FirstStop file content earlier comment later pass) :
    pass.project.forest.Unowned content := by
  have unowned := first.sound.unowned file first.hasFile
  rwa [first.top] at unowned

/-- The comment stays the first that asks to stop, whatever is left after it. -/
theorem keeps {rest : List BlockId} (first : FirstStop file content earlier comment later pass)
    (keeps : pass.project.Keeps after.project) (sound : after.project.Sound)
    (members : after.project.forest.members content = earlier ++ comment :: rest) :
    FirstStop file content earlier comment rest after := by
  have hasBlock : ∀ id ∈ earlier ++ comment :: later, pass.project.forest.HasBlock id := by
    rw [← first.members]
    intro id member
    exact first.sound.forest.placed.hasBlock member
  refine ⟨sound, (keeps.hasFile file).mpr first.hasFile, (keeps.content_eq file).trans first.top,
    members, ?_, ?_⟩
  · rw [asks_eq keeps (hasBlock comment (by simp))]
    exact first.asked
  · intro id isEarlier
    rw [asks_eq keeps (hasBlock id (List.mem_append_left _ isEarlier))]
    exact first.quiet id isEarlier

/-- What happens in other contents changes nothing at the top. -/
theorem moves (first : FirstStop file content earlier comment later pass)
    (moves : Project.Moves file (Stopped handings) pass.project after.project)
    (outside : ∀ handing ∈ handings, handing.content ≠ content) :
    FirstStop file content earlier comment later after := by
  apply first.keeps (moves.keeps first.sound) (moves.sound first.sound)
  rw [moves.members_eq first.sound first.hasContent, first.members]
  rintro ⟨handing, had, inContent, -⟩
  exact outside handing had inContent

/-- One step of the walk at the top: the directives of the block, what happens in other contents,
and the rest of the walk. -/
theorem step (first : FirstStop file content earlier comment later pass)
    (noting : Handler.AllNoting handlers) (going : ¬ pass.halted)
    (upTo : id ∈ earlier ++ [comment])
    (walks : Walks handlers file content (some id) pass handings after) :
    ∃ entered early rest, handings = early ++ rest ∧
      (∀ handing ∈ early, handing.content = content →
        handing.context.comment ∈ earlier ++ [comment]) ∧
      FirstStop file content earlier comment later entered ∧
      Walks handlers file content
        ((closed file id pass content entered).project.forest.sibling? .forward id)
        (closed file id pass content entered) rest after := by
  have ofTurn : ∀ handing ∈ turns handlers file id pass content,
      handing.context.comment ∈ earlier ++ [comment] := by
    intro handing had
    obtain ⟨-, sameContext, -⟩ := of_mem_handed had
    rw [sameContext]
    exact upTo
  cases walks with
  | halted isHalted => exact absurd isHalted going
  | silent _ isSilent rest =>
      have nothing : directivesAt id pass = [] := by
        simpa [directivesAt, Block.hasDirectives] using isSilent
      have quiet : ¬ asks id pass stopVerb := by simp [asks, nothing]
      refine ⟨pass, [], handings, rfl, by simp, first, ?_⟩
      rw [closed_of_quiet quiet]
      exact rest
  | around _ speaks shut rest =>
      refine ⟨_, _, _, rfl, fun handing had _ => ofTurn handing had, ?_, rest⟩
      exact first.moves (moves_opened noting file (Stopped []) id pass) (by simp)
  | inside _ speaks leads body rest =>
      have member : id ∈ pass.project.forest.members content := by
        rw [first.members, ← List.singleton_append, ← List.append_assoc]
        exact List.mem_append_left _ upTo
      have meets := Meets.of_member first.sound first.hasContent member
      have start := meets.body noting leads
      have opened := first.moves (moves_opened noting file (Stopped []) id pass) (by simp)
      have outside := body.outside noting start opened.hasContent opened.unowned
        (inner?_ne leads opened.unowned)
      refine ⟨_, _, _, rfl, ?_, opened.moves (body.moves noting start) outside, rest⟩
      intro handing had inContent
      rcases List.mem_append.mp had with atOnce | inBody
      · exact ofTurn handing atOnce
      · exact absurd inContent (outside handing inBody)

end FirstStop

/-! ## At the comment -/

/-- What is left of a file that was cut after a comment. -/
structure CutAfter (file : FileId) (content : ContentId) (earlier : List BlockId)
    (comment : BlockId) (later : List BlockId) (pass : Pass) : Prop where
  members_eq : pass.project.forest.members content = earlier ++ [comment]
  detached : ∀ id ∈ later, (pass.project.forest.entry id).place = none
  tables_eq : (pass.project.file file).tables = Tables.ofContent pass.project.forest content

/-- The comment is found where it stands, and the cut is made right after it. -/
theorem FirstStop.cutAfter (first : FirstStop file content earlier comment later entered)
    (asked : asks comment pass stopVerb) (going : ¬ entered.halted) :
    CutAfter file content earlier comment later (closed file comment pass content entered) := by
  have atIndex : (entered.project.forest.members content)[earlier.length]? = some comment := by
    rw [first.members]
    simp
  have place := first.sound.forest.placed.place_of_member atIndex
  have index_eq : entered.project.forest.indexIn content comment = earlier.length := by
    rw [Forest.indexIn, place, first.members]
    simp
  have closed_eq : (closed file comment pass content entered).project =
      (entered.project.modifyForest
        (Forest.truncate content (earlier.length + 1))).rebuildTables file := by
    rw [closed, andThen_of_going going, if_pos asked, stopAfter]
    simp only [contextAt, first.top, index_eq]
    rfl
  have members_split : entered.project.forest.members content = (earlier ++ [comment]) ++ later := by
    rw [first.members]
    simp
  have offset_eq : clampOffset ((earlier ++ [comment]) ++ later).length (earlier.length + 1) =
      (earlier ++ [comment]).length := by
    rw [clampOffset]
    simp only [List.length_append, List.length_singleton]
    split <;> omega
  constructor
  · rw [closed_eq]
    refine (Forest.members_truncate first.hasContent _).trans ?_
    rw [takeSigned, members_split, offset_eq, List.take_left]
  · rw [closed_eq]
    intro id isLater
    apply Forest.place_truncate
    rw [dropSigned, members_split, offset_eq, List.drop_left]
    exact isLater
  · rw [closed_eq, Project.rebuildTables, Project.file_modifyFile, if_pos rfl]
    · dsimp only
      rw [← first.top]
      rfl
    · exact first.hasFile

/-! ## The whole walk -/

/-- How a walk through a file ends that has a comment to stop at: halted on the way with all blocks
in place, or cut after the comment. -/
structure StopsAt (file : FileId) (content : ContentId) (earlier : List BlockId)
    (comment : BlockId) (later : List BlockId) (handings : List Handing) (after : Pass) : Prop where
  turns : ∀ handing ∈ handings, handing.content = content →
    handing.context.comment ∈ earlier ++ [comment]
  whole : after.halted → after.project.forest.members content = earlier ++ comment :: later
  cut : ¬ after.halted → CutAfter file content earlier comment later after

theorem FirstStop.nothing_follows (first : FirstStop file content earlier comment later entered)
    (asked : asks comment pass stopVerb) (going : ¬ entered.halted) :
    (closed file comment pass content entered).project.forest.sibling? .forward comment = none := by
  have moves : Project.Moves file (fun _ => True) entered.project
      (closed file comment pass content entered).project :=
    moves_closed first.hasContent fun _ _ => trivial
  have cut := first.cutAfter asked going
  have atEnd : ((closed file comment pass content entered).project.forest.members
      content)[earlier.length]? = some comment := by
    rw [cut.members_eq]
    simp
  rw [(moves.sound first.sound).forest.placed.sibling?_eq atEnd, cut.members_eq]
  simp

/-- A pass that is halted in the middle of a block ends there. -/
theorem FirstStop.stopsAt_of_halted {early rest : List Handing}
    (first : FirstStop file content earlier comment later entered) (halted : entered.halted)
    (early_mem : ∀ handing ∈ early, handing.content = content →
      handing.context.comment ∈ earlier ++ [comment])
    (onwards : Walks handlers file content next (closed file id pass content entered) rest after) :
    StopsAt file content earlier comment later (early ++ rest) after := by
  rw [closed, andThen_of_halted halted] at onwards
  obtain ⟨rfl, rfl⟩ := onwards.eq_of_halted halted
  rw [List.append_nil]
  exact ⟨early_mem, fun _ => first.members, fun going => absurd halted going⟩

/-- The walk goes through the blocks before the comment, so the induction is on how many of them
are left. -/
theorem FirstStop.stopsAt (first : FirstStop file content earlier comment later pass)
    (noting : Handler.AllNoting handlers) (left : Nat) {index : Nat}
    (reaches : index + left = earlier.length) (going : ¬ pass.halted)
    (walks : Walks handlers file content (pass.project.forest.members content)[index]? pass
      handings after) :
    StopsAt file content earlier comment later handings after := by
  induction left generalizing index pass handings with
  | zero =>
      have atIndex : (pass.project.forest.members content)[index]? = some comment := by
        have last : index = earlier.length := by omega
        rw [first.members, last]
        simp
      rw [atIndex] at walks
      obtain ⟨entered, early, rest, rfl, early_mem, firstEntered, onwards⟩ :=
        first.step noting going (by simp) walks
      by_cases halted : entered.halted
      · exact firstEntered.stopsAt_of_halted halted early_mem onwards
      · have cut := firstEntered.cutAfter first.asked halted
        rw [firstEntered.nothing_follows first.asked halted] at onwards
        obtain ⟨rfl, rfl⟩ := onwards.eq_of_none
        rw [List.append_nil]
        refine ⟨early_mem, fun isHalted => ?_, fun _ => cut⟩
        rw [halted_closed] at isHalted
        exact absurd isHalted halted
  | succ left ih =>
      obtain ⟨id, atEarlier⟩ : ∃ id, earlier[index]? = some id :=
        ⟨_, List.getElem?_eq_getElem (by omega)⟩
      have isEarlier := List.mem_of_getElem? atEarlier
      have atIndex : (pass.project.forest.members content)[index]? = some id := by
        rw [first.members, List.getElem?_append_left (by omega), atEarlier]
      rw [atIndex] at walks
      obtain ⟨entered, early, rest, rfl, early_mem, firstEntered, onwards⟩ :=
        first.step noting going (List.mem_append_left _ isEarlier) walks
      by_cases halted : entered.halted
      · exact firstEntered.stopsAt_of_halted halted early_mem onwards
      · have stays : (entered.project.forest.members content)[index]? = some id := by
          rw [firstEntered.members, ← first.members, atIndex]
        rw [closed_of_quiet (first.quiet id isEarlier),
          firstEntered.sound.forest.placed.sibling?_eq stays] at onwards
        have onwardsStops := ih firstEntered (by omega) halted onwards
        refine ⟨?_, onwardsStops.whole, onwardsStops.cut⟩
        intro handing had inContent
        rcases List.mem_append.mp had with atOnce | onwardsHad
        · exact early_mem handing atOnce inContent
        · exact onwardsStops.turns handing onwardsHad inContent

/-- A pass over the file is a walk from the first block on. -/
theorem FirstStop.stopsAt_of_runs (first : FirstStop file content earlier comment later pass)
    (noting : Handler.AllNoting handlers) (going : ¬ pass.halted)
    (runs : Runs handlers file pass handings after) :
    StopsAt file content earlier comment later handings after := by
  obtain ⟨walked, walks, rfl⟩ := runs
  rw [first.top, List.head?_eq_getElem?] at walks
  have stops := first.stopsAt noting earlier.length (Nat.zero_add _) going walks
  rw [andThen]
  split
  · exact stops
  · refine ⟨stops.turns, stops.whole, fun going => ?_⟩
    have cut := stops.cut going
    exact ⟨cut.members_eq, cut.detached, cut.tables_eq⟩

end Pass

namespace Project

open Pass

/-- The directives of blocks after the comment do not have their turn: the blocks stand at the top
of the file, after the comment, and nowhere else. -/
theorem not_mem_later {project : Project} {content : ContentId} {earlier later : List BlockId}
    {comment : BlockId} {handing : Handing} (sound : project.Sound)
    (members : project.forest.members content = earlier ++ comment :: later)
    (located : handing.Located project.forest)
    (turn : handing.content = content → handing.context.comment ∈ earlier ++ [comment]) :
    handing.context.comment ∉ later := by
  intro isLater
  have member : handing.context.comment ∈ project.forest.members content := by
    rw [members]
    exact List.mem_append_right _ (List.mem_cons_of_mem _ isLater)
  have inContent := sound.forest.placed.content_unique member
    (located (.inl (sound.forest.placed.hasBlock member)))
  have nodup := sound.forest.placed.nodup content
  rw [members, ← List.singleton_append, ← List.append_assoc, List.nodup_append] at nodup
  exact nodup.2.2 _ (turn inContent) _ isLater rfl

/-- At the top of a file some blocks without `stop` are followed by a comment with it.  A pass over
the file comes to an end, and no directive of a block after the comment has its turn.  Unless the
pass is halted by a number that is too large, the comment is then the last block at the top, the
blocks after it stand nowhere, the tables are those of the blocks that are left, and another pass
leaves the same blocks. -/
theorem stop_runFile {project : Project} (built : project.Built) {id : FileId}
    (has : project.HasFile id) (report : Report) {earlier later : List BlockId} {comment : BlockId}
    (members : project.forest.members (project.file id).content = earlier ++ comment :: later)
    (stops : ∃ directive ∈ (project.forest.block comment).directives, directive.verb = stopVerb)
    (quiet : ∀ block ∈ earlier, ∀ directive ∈ (project.forest.block block).directives,
      directive.verb ≠ stopVerb) :
    let top := (project.file id).content
    let done := Pass.runFile Handler.builtIn id { project, report }
    let after := done.project.forest
    ∃ handings, Runs Handler.builtIn id { project, report } handings done ∧
      (∀ handing ∈ handings, handing.context.comment ∉ later) ∧
      (done.halted → after.members top = project.forest.members top ∧
        ∃ handing ∈ handings, Placeholder.TooLarge handing.directive.args) ∧
      (¬ done.halted →
        after.members top = earlier ++ [comment] ∧
        (∀ block ∈ later, after.parent? block = none ∧ after.index block = -1) ∧
        (done.project.file id).tables = Tables.ofContent after top ∧
        ∀ report, (Pass.runFile Handler.builtIn id
          { project := done.project, report }).project.forest.members top = after.members top) := by
  intro top done after
  have sound := built.sound
  have start : ({ project, report } : Pass).project.Sound := sound
  have going : ¬ ({ project, report } : Pass).halted := Bool.false_ne_true
  have first : FirstStop id top earlier comment later { project, report } := by
    refine ⟨sound, has, rfl, members, ?_, ?_⟩
    · simpa [asks, directivesAt] using stops
    · simpa [asks, directivesAt] using quiet
  obtain ⟨handings, runs⟩ := Pass.exists_runs Handler.allNoting_builtIn start has going
  have stopsAt := first.stopsAt_of_runs Handler.allNoting_builtIn going runs
  refine ⟨handings, runs, ?_, ?_, ?_⟩
  · intro handing had
    exact not_mem_later sound members
      (runs.located Handler.allNoting_builtIn sound has handing had) (stopsAt.turns handing had)
  · intro halted
    exact ⟨(stopsAt.whole halted).trans members.symm,
      runs.exists_tooLarge Handler.allNoting_builtIn going halted⟩
  · intro goes
    have cut := stopsAt.cut goes
    refine ⟨cut.members_eq, ?_, cut.tables_eq, ?_⟩
    · intro block isLater
      exact Forest.parent?_of_place_none (cut.detached block isLater)
    · intro report
      have moves := runs.moves Handler.allNoting_builtIn sound has
      have again : FirstStop id top earlier comment [] { project := done.project, report } :=
        first.keeps (moves.keeps sound) (moves.sound sound) cut.members_eq
      obtain ⟨_, runsAgain⟩ := Pass.exists_runs Handler.allNoting_builtIn again.sound again.hasFile going
      have stopsAgain := again.stopsAt_of_runs Handler.allNoting_builtIn going runsAgain
      rw [cut.members_eq]
      by_cases halted : (Pass.runFile Handler.builtIn id { project := done.project, report }).halted
      · exact stopsAgain.whole halted
      · exact (stopsAgain.cut halted).members_eq

/-- Two values with a comment between them that stops the pass. -/
theorem stop_runFile_between_values :
    let text : Text := "var a = 1\n// @stop\nvar b = 2\n"
    let project := (addFile text 1 none none none {}).1
    let done := Pass.runFile Handler.builtIn ⟨0⟩ { project }
    project.Built ∧ project.HasFile ⟨0⟩ ∧ ¬ done.halted ∧
      project.forest.members (project.file ⟨0⟩).content = [⟨0⟩] ++ ⟨1⟩ :: [⟨2⟩] ∧
      done.project.forest.members (project.file ⟨0⟩).content = [⟨0⟩, ⟨1⟩] ∧
      done.project.forest.parent? ⟨2⟩ = none := by
  intro text project
  have built : project.Built := .addFile (.empty ['.']) text 1 none none none
  have has : project.HasFile ⟨0⟩ := hasFile_addFile text 1
  have members : project.forest.members (project.file ⟨0⟩).content = [⟨0⟩] ++ ⟨1⟩ :: [⟨2⟩] := by
    decide +kernel
  have goes : ¬ (Pass.runFile Handler.builtIn ⟨0⟩ { project }).halted := by decide +kernel
  obtain ⟨handings, runs, turns, halts, left⟩ :=
    stop_runFile built has {} members (by decide +kernel) (by decide +kernel)
  have cut := left goes
  exact ⟨built, has, goes, members, cut.1, (cut.2.1 ⟨2⟩ List.mem_cons_self).1⟩

/-- A pass that meets a number that is too large ends there, and the comment that would stop it
later on does not have its turn. -/
theorem stop_skipped_of_tooLarge :
    let text : Text := "// @alias \x7bvalue/a\x7b99999999999\x7d/\x7d x\nvar a = 1\n// @stop\nvar b = 2\n"
    let project := (addFile text 1 none none none {}).1
    let done := Pass.runFile Handler.builtIn ⟨0⟩ { project }
    project.forest.members (project.file ⟨0⟩).content = [⟨0⟩, ⟨1⟩, ⟨2⟩, ⟨3⟩] ∧
      (∃ directive ∈ (project.forest.block ⟨2⟩).directives, directive.verb = stopVerb) ∧
      done.halted ∧
      done.project.forest.members (project.file ⟨0⟩).content = [⟨0⟩, ⟨1⟩, ⟨2⟩, ⟨3⟩] := by
  decide +kernel

end Project

end Docweave
