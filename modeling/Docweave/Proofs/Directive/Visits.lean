import Docweave.Proofs.Directive.Stop

/-!
# Visits of comments

A walk comes to one comment after the other, and may come to the same comment again when two
comments lead into the same body.  Here a walk is described by its visits, each with the pass at
that moment, and the visits of a comment are counted: there are no more of them than times that a
walk goes into the content where the comment stands.
-/

namespace Docweave

open Text

/-- Only a block of the forest has directives. -/
theorem Forest.hasBlock_of_directive {forest : Forest} {block : BlockId} {directive : Directive}
    (present : directive ∈ (forest.block block).directives) : forest.HasBlock block := by
  by_contra missing
  rw [Forest.block, Forest.entry_of_not_hasBlock missing] at present
  cases present

/-- A comment that a walk has come to in a content, and the pass at that moment. -/
structure Visit where
  content : ContentId
  comment : BlockId
  pass : Pass

namespace Visit

variable (handlers : List (Text × Handler)) (file : FileId) (visit : Visit)

/-- The directives that have their turn on a visit. -/
def turns : List Handing := Pass.turns handlers file visit.comment visit.pass visit.content

/-- The body that a visit leads into. -/
def inner? : Option ContentId := Pass.inner? handlers file visit.comment visit.pass

/-- The code that the directives of the comment are applied to. -/
def target? : Option BlockId :=
  visit.pass.project.forest.next? .all .forward Forest.codeKinds visit.comment

/-- The pass when the body that the comment asks for is open. -/
def opened : Pass := Pass.opened handlers file visit.comment visit.pass

end Visit

namespace Pass

/-- The walk through a content from a block on, the visits of comments with directives in it, and
the pass it ends with. -/
inductive Tour (handlers : List (Text × Handler)) (file : FileId) :
    ContentId → Option BlockId → Pass → List Visit → Pass → Prop
  | finished {content pass} : Tour handlers file content none pass [] pass
  | halted {content id pass} (halted : pass.halted) :
      Tour handlers file content (some id) pass [] pass
  | silent {content id pass later after} (going : ¬ pass.halted)
      (silent : ¬ (pass.project.forest.block id).hasDirectives)
      (rest : Tour handlers file content (pass.project.forest.sibling? .forward id) pass later after) :
      Tour handlers file content (some id) pass later after
  | around {content id pass later after} (going : ¬ pass.halted)
      (speaks : (pass.project.forest.block id).hasDirectives)
      (shut : inner? handlers file id pass = none)
      (rest :
        let done := closed file id pass content (opened handlers file id pass)
        Tour handlers file content (done.project.forest.sibling? .forward id) done later after) :
      Tour handlers file content (some id) pass (⟨content, id, pass⟩ :: later) after
  | inside {content inner id pass within entered later after} (going : ¬ pass.halted)
      (speaks : (pass.project.forest.block id).hasDirectives)
      (leads : inner? handlers file id pass = some inner)
      (body :
        let start := opened handlers file id pass
        Tour handlers file inner (start.project.forest.members inner).head? start within entered)
      (rest :
        let done := closed file id pass content entered
        Tour handlers file content (done.project.forest.sibling? .forward id) done later after) :
      Tour handlers file content (some id) pass (⟨content, id, pass⟩ :: (within ++ later)) after

section Tour

variable {handlers : List (Text × Handler)} {file : FileId} {id comment : BlockId}
variable {content inner : ContentId} {next : Option BlockId}
variable {pass after : Pass} {handings : List Handing} {visits : List Visit}

/-- Every walk is a tour, and its directives have their turns on the visits. -/
theorem Walks.exists_tour (walks : Walks handlers file content next pass handings after) :
    ∃ visits, Tour handlers file content next pass visits after ∧
      handings = visits.flatMap (Visit.turns handlers file) := by
  induction walks with
  | finished => exact ⟨[], .finished, rfl⟩
  | halted isHalted => exact ⟨[], .halted isHalted, rfl⟩
  | silent going isSilent rest ih =>
      obtain ⟨visits, tour, rfl⟩ := ih
      exact ⟨visits, .silent going isSilent tour, rfl⟩
  | around going speaks shut rest ih =>
      obtain ⟨later, tour, rfl⟩ := ih
      exact ⟨_, .around going speaks shut tour, rfl⟩
  | inside going speaks leads body rest ihBody ih =>
      obtain ⟨within, tourBody, rfl⟩ := ihBody
      obtain ⟨later, tour, rfl⟩ := ih
      refine ⟨_, .inside going speaks leads tourBody tour, ?_⟩
      simp [Visit.turns]

theorem Tour.walks (tour : Tour handlers file content next pass visits after) :
    Walks handlers file content next pass (visits.flatMap (Visit.turns handlers file)) after := by
  induction tour with
  | finished => exact .finished
  | halted isHalted => exact .halted isHalted
  | silent going isSilent rest ih => exact .silent going isSilent ih
  | around going speaks shut rest ih => exact .around going speaks shut ih
  | inside going speaks leads body rest ihBody ih =>
      rw [List.flatMap_cons, List.flatMap_append, ← List.append_assoc]
      exact .inside going speaks leads ihBody ih

/-- A pass over a file leaves what its walk has left, but for the files that count as processed. -/
theorem Runs.walks (runs : Runs handlers file pass handings after) :
    ∃ walked, Walks handlers file (pass.project.file file).content
        (pass.project.forest.members (pass.project.file file).content).head? pass handings walked ∧
      after.project = walked.project ∧ after.report.issues = walked.report.issues ∧
      after.report.applied = walked.report.applied ∧ after.halted = walked.halted := by
  obtain ⟨walked, walks, rfl⟩ := runs
  refine ⟨walked, walks, ?_⟩
  rw [andThen]
  split <;> exact ⟨rfl, rfl, rfl, rfl⟩

theorem Tour.moves (tour : Tour handlers file content next pass visits after)
    (noting : Handler.AllNoting handlers) (meets : Meets content next pass) :
    Project.Moves file (fun _ => True) pass.project after.project :=
  (tour.walks.moves noting meets).mono fun _ _ => trivial

end Tour

end Pass

/-! ## The moments of a tour -/

namespace Visit

/-- The visit is made between two passes. -/
structure Between (handlers : List (Text × Handler)) (file : FileId) (before after : Pass)
    (visit : Visit) : Prop where
  meets : Pass.Meets visit.content (some visit.comment) visit.pass
  going : ¬ visit.pass.halted
  since : before.project.Keeps visit.pass.project
  onwards : (visit.opened handlers file).project.Keeps after.project

namespace Between

variable {handlers : List (Text × Handler)} {file : FileId} {first second third : Pass}
variable {visit other : Visit} {inner : ContentId}

theorem later (between : Between handlers file second third visit)
    (keeps : first.project.Keeps second.project) : Between handlers file first third visit :=
  { between with since := keeps.trans between.since }

theorem earlier (between : Between handlers file first second visit)
    (keeps : second.project.Keeps third.project) : Between handlers file first third visit :=
  { between with onwards := between.onwards.trans keeps }

theorem keepsOpened (between : Between handlers file first second visit)
    (noting : Handler.AllNoting handlers) :
    visit.pass.project.Keeps (visit.opened handlers file).project :=
  (Pass.moves_opened noting file (fun _ => True) visit.comment visit.pass).keeps between.meets.sound

theorem keeps (between : Between handlers file first second visit)
    (noting : Handler.AllNoting handlers) : visit.pass.project.Keeps second.project :=
  (between.keepsOpened noting).trans between.onwards

theorem member (between : Between handlers file first second visit) :
    visit.comment ∈ visit.pass.project.forest.members visit.content :=
  between.meets.member visit.comment rfl

theorem block_eq (between : Between handlers file first second visit)
    (noting : Handler.AllNoting handlers) :
    second.project.forest.block visit.comment = visit.pass.project.forest.block visit.comment :=
  (between.keeps noting).forest.block_eq visit.comment
    (between.meets.sound.forest.placed.hasBlock between.member)

/-- The directives that have their turn stand in the comment, also afterwards. -/
theorem directive_mem (between : Between handlers file first second visit)
    (noting : Handler.AllNoting handlers) {handing : Handing}
    (had : handing ∈ visit.turns handlers file) :
    handing.content = visit.content ∧
      handing.context = Pass.contextAt file visit.comment visit.pass ∧
      handing.directive ∈ (second.project.forest.block visit.comment).directives := by
  obtain ⟨sameContent, sameContext, present⟩ := Pass.of_mem_handed had
  refine ⟨sameContent, sameContext, ?_⟩
  rw [between.block_eq noting]
  exact present

/-- Unless the pass is halted, all directives of the comment have their turn. -/
theorem mem_turns (between : Between handlers file first second visit)
    (noting : Handler.AllNoting handlers)
    (going : ¬ (Pass.applied handlers file visit.comment visit.pass).halted)
    {directive : Directive}
    (present : directive ∈ (second.project.forest.block visit.comment).directives) :
    ⟨visit.content, Pass.contextAt file visit.comment visit.pass, directive⟩ ∈
      visit.turns handlers file := by
  rw [between.block_eq noting] at present
  exact Pass.mem_handed going present

/-- A visit leads into the body of its target, and the body stays open. -/
theorem leads (between : Between handlers file first second visit)
    (found : visit.inner? handlers file = some inner) :
    ∃ target, visit.target? = some target ∧
      (second.project.forest.entry target).nested = some inner := by
  obtain ⟨target, isTarget, -, nested⟩ := Pass.of_leads found
  exact ⟨target, isTarget, between.onwards.forest.nested target inner nested⟩

/-- A visit leads into a content with a shorter text. -/
theorem text_lt (between : Between handlers file first second visit)
    (noting : Handler.AllNoting handlers) (found : visit.inner? handlers file = some inner) :
    (second.project.forest.content inner).text.length <
      (second.project.forest.content visit.content).text.length := by
  have meetsInner := between.meets.body noting found
  rw [between.onwards.forest.text_eq inner meetsInner.hasContent,
    (between.keeps noting).forest.text_eq visit.content between.meets.hasContent]
  exact Pass.text_lt_of_leads noting between.meets found

/-- A block stands in one content, also at different moments. -/
theorem content_unique {block : BlockId} {content : ContentId}
    (between : Between handlers file first second visit)
    (betweenOther : Between handlers file first second other)
    (keeps : visit.pass.project.Keeps other.pass.project)
    (member : block ∈ visit.pass.project.forest.members visit.content)
    (memberOther : block ∈ other.pass.project.forest.members content) :
    content = visit.content := by
  have placed := between.meets.sound.forest.placed
  have early := keeps.forest.mem_members placed betweenOther.meets.sound.forest.placed
    (.inl (placed.hasBlock member)) memberOther
  exact placed.content_unique member early

end Between

end Visit

namespace Pass

section Tour

variable {handlers : List (Text × Handler)} {file : FileId} {id comment : BlockId}
variable {content inner stood : ContentId} {next : Option BlockId}
variable {pass after : Pass} {handings : List Handing} {visits : List Visit}

/-- What was done in the body that a comment leads into, and the cut after the comment, keep what
there was when the body was opened; and the walk goes on in the same content. -/
theorem Meets.closed (noting : Handler.AllNoting handlers) (file : FileId)
    (meets : Meets content (some id) pass) {entered : Pass}
    (body : Project.Moves file (fun _ => True) (opened handlers file id pass).project entered.project) :
    pass.project.Keeps (opened handlers file id pass).project ∧
      entered.project.Keeps (closed file id pass content entered).project ∧
      Meets content ((closed file id pass content entered).project.forest.sibling? .forward id)
        (closed file id pass content entered) := by
  have toOpened := moves_opened noting file (fun _ => True) id pass
  have toEntered := toOpened.trans body
  have keepsEntered := Project.Moves.keeps toEntered meets.sound
  have toClosed : Project.Moves file (fun _ => True) entered.project
      (Pass.closed file id pass content entered).project :=
    moves_closed (keepsEntered.forest.hasContent content meets.hasContent) fun _ _ => trivial
  exact ⟨toOpened.keeps meets.sound, toClosed.keeps (Project.Moves.sound toEntered meets.sound),
    meets.sibling (Relation.ReflTransGen.trans toEntered toClosed)⟩

theorem Tour.keeps (tour : Tour handlers file content next pass visits after)
    (noting : Handler.AllNoting handlers) (meets : Meets content next pass) :
    pass.project.Keeps after.project :=
  (tour.moves noting meets).keeps meets.sound

/-- All visits of a tour are made between its beginning and its end. -/
theorem Tour.between (tour : Tour handlers file content next pass visits after)
    (noting : Handler.AllNoting handlers) (meets : Meets content next pass) :
    ∀ visit ∈ visits, visit.Between handlers file pass after := by
  induction tour with
  | finished | halted _ => simp
  | silent going isSilent rest ih => exact ih meets.silent
  | around going speaks shut rest ih =>
      obtain ⟨toOpened, toClosed, meetsLater⟩ := meets.closed noting file .refl
      intro visit visited
      rcases List.mem_cons.mp visited with rfl | onLater
      · exact ⟨meets, going, .refl _, toClosed.trans (rest.keeps noting meetsLater)⟩
      · exact (ih meetsLater visit onLater).later (toOpened.trans toClosed)
  | inside going speaks leads body rest ihBody ih =>
      have start := meets.body noting leads
      obtain ⟨toOpened, toClosed, meetsLater⟩ := meets.closed noting file (body.moves noting start)
      have inBody := body.keeps noting start
      have afterBody := toClosed.trans (rest.keeps noting meetsLater)
      intro visit visited
      rcases List.mem_cons.mp visited with rfl | onward
      · exact ⟨meets, going, .refl _, inBody.trans afterBody⟩
      · rcases List.mem_append.mp onward with within | onLater
        · exact ((ihBody start visit within).later toOpened).earlier afterBody
        · exact (ih meetsLater visit onLater).later ((toOpened.trans inBody).trans toClosed)

/-- Directives that have their turn stand in comments. -/
theorem Runs.directive_mem (runs : Runs handlers file pass handings after)
    (noting : Handler.AllNoting handlers) (sound : pass.project.Sound)
    (has : pass.project.HasFile file) :
    ∀ handing ∈ handings,
      handing.directive ∈ (after.project.forest.block handing.context.comment).directives := by
  obtain ⟨walked, walks, project_eq, -⟩ := runs.walks
  obtain ⟨visits, tour, rfl⟩ := walks.exists_tour
  intro handing had
  obtain ⟨visit, visited, turn⟩ := List.mem_flatMap.mp had
  have between := tour.between noting (.head sound (sound.hasContent file has)) visit visited
  obtain ⟨-, context_eq, stands⟩ := between.directive_mem noting turn
  rw [project_eq, context_eq]
  exact stands

/-- Visits are made one after the other. -/
theorem Tour.pairwise_keeps (tour : Tour handlers file content next pass visits after)
    (noting : Handler.AllNoting handlers) (meets : Meets content next pass) :
    visits.Pairwise fun early late => early.pass.project.Keeps late.pass.project := by
  induction tour with
  | finished | halted _ => exact .nil
  | silent going isSilent rest ih => exact ih meets.silent
  | around going speaks shut rest ih =>
      obtain ⟨toOpened, toClosed, meetsLater⟩ := meets.closed noting file .refl
      refine .cons ?_ (ih meetsLater)
      intro visit onLater
      exact (toOpened.trans toClosed).trans (rest.between noting meetsLater visit onLater).since
  | inside going speaks leads body rest ihBody ih =>
      have start := meets.body noting leads
      obtain ⟨toOpened, toClosed, meetsLater⟩ := meets.closed noting file (body.moves noting start)
      have within := body.between noting start
      have onLater := rest.between noting meetsLater
      refine .cons ?_ (List.pairwise_append.mpr ⟨ihBody start, ih meetsLater, ?_⟩)
      · intro visit onward
        rcases List.mem_append.mp onward with inBody | later
        · exact toOpened.trans (within visit inBody).since
        · exact ((toOpened.trans (body.keeps noting start)).trans toClosed).trans
            (onLater visit later).since
      · intro early inBody late later
        exact (((within early inBody).keeps noting).trans toClosed).trans (onLater late later).since

/-! ## Counting visits -/

/-- The block is the one that a walk through the content has come to, or follows it. -/
def Ahead (content : ContentId) (next : Option BlockId) (pass : Pass) (block : BlockId) : Prop :=
  ∃ index further : Nat, (pass.project.forest.members content)[index]? = next ∧ index ≤ further ∧
    (pass.project.forest.members content)[further]? = some block

theorem Meets.ahead_self (meets : Meets content (some id) pass) : Ahead content (some id) pass id := by
  obtain ⟨index, atIndex⟩ := List.mem_iff_getElem?.mp (meets.member id rfl)
  exact ⟨index, index, atIndex, Nat.le_refl _, atIndex⟩

/-- What is ahead when a block is done with was ahead before, and is another block. -/
theorem Meets.ahead_of_sibling (meets : Meets content (some id) pass)
    (keeps : pass.project.Keeps after.project) (sound : after.project.Sound) {block : BlockId}
    (ahead : Ahead content (after.project.forest.sibling? .forward id) after block) :
    Ahead content (some id) pass block ∧ block ≠ id := by
  obtain ⟨index, further, atIndex, notBefore, atFurther⟩ := ahead
  have short : index < (after.project.forest.members content).length :=
    Nat.lt_of_le_of_lt notBefore (List.getElem?_eq_some_iff.mp atFurther).1
  rw [List.getElem?_eq_getElem short] at atIndex
  obtain ⟨inContent, place, first, second⟩ :=
    (Forest.sibling?_forward_iff sound.forest.placed).mp atIndex.symm
  -- The follower of the block is the one at the index, so the block itself is right before it.
  have places := (sound.forest.placed.place_of_member second).symm.trans
    (sound.forest.placed.place_of_member (List.getElem?_eq_getElem short))
  cases places
  obtain ⟨cut, whole⟩ := keeps.forest.members content meets.hasContent
  have early : ∀ {index : Nat} {block : BlockId},
      (after.project.forest.members content)[index]? = some block →
      (pass.project.forest.members content)[index]? = some block := by
    intro index block found
    rw [← whole, List.getElem?_append_left (List.getElem?_eq_some_iff.mp found).1, found]
  refine ⟨⟨place, further, early first, by omega, early atFurther⟩, ?_⟩
  rintro rfl
  have same := (sound.forest.placed.place_of_member first).symm.trans
    (sound.forest.placed.place_of_member atFurther)
  cases same
  omega

/-- The visit of one comment counts for what is ahead, when it is not ahead any more. -/
theorem Meets.count_le (meets : Meets content (some id) pass)
    (keeps : pass.project.Keeps after.project) (sound : after.project.Sound)
    {within entriesWithin later entriesLater : Nat} (few : within ≤ entriesWithin)
    (onwards : later ≤ entriesLater ∨ (stood = content ∧
      Ahead content (after.project.forest.sibling? .forward id) after comment ∧
      later ≤ entriesLater + 1)) :
    let count := within + later + if content = stood ∧ id = comment then 1 else 0
    let entries := entriesWithin + entriesLater
    count ≤ entries ∨ (stood = content ∧ Ahead content (some id) pass comment ∧ count ≤ entries + 1) := by
  dsimp only
  by_cases here : content = stood ∧ id = comment
  · obtain ⟨rfl, rfl⟩ := here
    rw [if_pos ⟨rfl, rfl⟩]
    rcases onwards with fewLater | ⟨-, ahead, -⟩
    · exact .inr ⟨rfl, meets.ahead_self, by omega⟩
    · exact absurd rfl (meets.ahead_of_sibling keeps sound ahead).2
  · rw [if_neg here]
    rcases onwards with fewLater | ⟨rfl, ahead, fewLater⟩
    · exact .inl (by omega)
    · exact .inr ⟨rfl, (meets.ahead_of_sibling keeps sound ahead).1, by omega⟩

/-- A comment is visited no more often than the content where it stands is gone into; and the tour
itself is one more time for the comments that are ahead in its content. -/
theorem Tour.count_le (tour : Tour handlers file content next pass visits after)
    (noting : Handler.AllNoting handlers) (meets : Meets content next pass) (stood : ContentId)
    (comment : BlockId) :
    let count := visits.countP fun visit => visit.content = stood ∧ visit.comment = comment
    let entries := visits.countP fun visit => visit.inner? handlers file = some stood
    count ≤ entries ∨ (stood = content ∧ Ahead content next pass comment ∧ count ≤ entries + 1) := by
  dsimp only
  induction tour with
  | finished | halted _ => simp
  | silent going isSilent rest ih =>
      rcases ih meets.silent with few | ⟨rfl, ahead, few⟩
      · exact .inl few
      · exact .inr ⟨rfl, (meets.ahead_of_sibling (.refl _) meets.sound ahead).1, few⟩
  | around going speaks shut rest ih =>
      obtain ⟨toOpened, toClosed, meetsLater⟩ := meets.closed noting file .refl
      have step := meets.count_le (toOpened.trans toClosed) meetsLater.sound (Nat.le_refl 0)
        (ih meetsLater)
      simpa [List.countP_cons, Visit.inner?, shut] using step
  | @inside content inner id pass within entered later after going speaks leads body rest ihBody ih =>
      have start := meets.body noting leads
      obtain ⟨toOpened, toClosed, meetsLater⟩ := meets.closed noting file (body.moves noting start)
      have keeps := (toOpened.trans (body.keeps noting start)).trans toClosed
      have few : (within.countP fun visit => visit.content = stood ∧ visit.comment = comment) ≤
          (within.countP fun visit => visit.inner? handlers file = some stood) +
            if inner = stood then 1 else 0 := by
        rcases ihBody start with few | ⟨rfl, -, few⟩
        · omega
        · simpa using few
      have step := meets.count_le keeps meetsLater.sound few (ih meetsLater)
      simpa [List.countP_cons, Visit.inner?, leads, Nat.add_right_comm] using step

end Tour

end Pass

end Docweave
