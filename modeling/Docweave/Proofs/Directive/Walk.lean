import Docweave.Proofs.Directive.Moves

/-!
# Walks through the blocks of a content

A pass is described here by rules, without a bound on how far or how deep it goes.  A walk goes
from block to block along the links of the moment.  At a comment with directives it hands each of
them over, goes into the body that is asked for, cuts off what follows if that is asked for, and
goes on from where the comment then stands.  The rules also tell which directives had their turn.
-/

namespace Docweave

open Text

/-- A directive whose turn came, with the content in which its comment was met. -/
structure Handing where
  content : ContentId
  context : DirectiveContext
  directive : Directive
  deriving DecidableEq, Repr

/-- The directive was met where its comment stands: if the comment or the content
was there before the walk, then so was the comment in the content. -/
def Handing.Located (forest : Forest) (handing : Handing) : Prop :=
  forest.HasBlock handing.context.comment ∨ forest.HasContent handing.content →
    handing.context.comment ∈ forest.members handing.content

/-- A comment of the content had the turn of its directive `stop`. -/
def Stopped (handings : List Handing) (content : ContentId) : Prop :=
  ∃ handing ∈ handings, handing.content = content ∧ handing.directive.verb = Pass.stopVerb

theorem Stopped.mono {handings others : List Handing} {content : ContentId}
    (included : handings ⊆ others) (stopped : Stopped handings content) :
    Stopped others content := by
  obtain ⟨handing, had, inContent, stops⟩ := stopped
  exact ⟨handing, included had, inContent, stops⟩

namespace Pass

/-! ## What happens at a comment -/

/-- Hand directives over, one after the other, until the pass is halted. -/
def applyAll (handlers : List (Text × Handler)) (context : DirectiveContext)
    (directives : List Directive) (pass : Pass) : Pass :=
  directives.foldl (fun pass directive => pass.andThen (applyDirective handlers context directive)) pass

/-- The directives that have their turn before the pass is halted. -/
def handed (handlers : List (Text × Handler)) (content : ContentId) (context : DirectiveContext) :
    List Directive → Pass → List Handing
  | [], _ => []
  | directive :: directives, pass =>
    if pass.halted then []
    else ⟨content, context, directive⟩ ::
      handed handlers content context directives (applyDirective handlers context directive pass)

section Comment

variable (handlers : List (Text × Handler)) (file : FileId) (comment : BlockId) (pass : Pass)

/-- What the directives of a comment are applied to. -/
def contextAt : DirectiveContext :=
  ⟨file, comment, pass.project.forest.next? .all .forward Forest.codeKinds comment, []⟩

/-- The directives of a comment. -/
def directivesAt : List Directive := (pass.project.forest.block comment).directives

/-- Whether a comment has a directive with a verb. -/
def asks (verb : Text) : Bool :=
  (directivesAt comment pass).any fun directive => directive.verb == verb

/-- The pass when the directives of a comment have been handed over. -/
def applied : Pass :=
  applyAll handlers (contextAt file comment pass) (directivesAt comment pass) pass

/-- The directives of a comment that have their turn. -/
def turns (content : ContentId) : List Handing :=
  handed handlers content (contextAt file comment pass) (directivesAt comment pass) pass

/-- The pass when the body that a comment asks for is open, or is reported to be missing. -/
def opened : Pass :=
  (applied handlers file comment pass).andThen fun done =>
    if asks comment pass parseVerb then
      enterBody (fun _ pass => pass) (contextAt file comment pass) done
    else done

/-- The body that a comment leads into. -/
def inner? : Option ContentId :=
  let done := applied handlers file comment pass
  if done.halted || !asks comment pass parseVerb then none
  else (contextAt file comment pass).target.bind fun id =>
    if (done.project.forest.block id).body?.isSome then
      ((opened handlers file comment pass).project.forest.entry id).nested
    else none

/-- The pass when what follows a comment is cut off, if that is asked for. It has come out of the
body as `entered`. -/
def closed (content : ContentId) (entered : Pass) : Pass :=
  entered.andThen fun done =>
    if asks comment pass stopVerb then stopAfter content (contextAt file comment pass) done else done

end Comment

section Stages

variable {handlers : List (Text × Handler)} {file : FileId} {comment : BlockId}
variable {content : ContentId} {context : DirectiveContext} {pass : Pass}

theorem andThen_of_halted {step : Pass → Pass} (halted : pass.halted) :
    pass.andThen step = pass := by
  rw [andThen, if_pos halted]

theorem andThen_of_going {step : Pass → Pass} (going : ¬ pass.halted) :
    pass.andThen step = step pass := by
  rw [andThen, if_neg going]

/-- Going into a body is opening it and what is done inside. -/
theorem enterBody_eq (inside : ContentId → Pass → Pass) :
    ((applied handlers file comment pass).andThen fun done =>
      if asks comment pass parseVerb then enterBody inside (contextAt file comment pass) done
      else done) =
    (match inner? handlers file comment pass with
      | some inner => inside inner (opened handlers file comment pass)
      | none => opened handlers file comment pass) := by
  by_cases halted : (applied handlers file comment pass).halted
  · simp [inner?, opened, halted, andThen_of_halted]
  · by_cases parses : asks comment pass parseVerb
    · simp only [inner?, opened, andThen_of_going halted, halted, parses, enterBody]
      cases target : (contextAt file comment pass).target with
      | none => rfl
      | some id =>
          cases body : ((applied handlers file comment pass).project.forest.block id).body? with
          | none => simp [body]
          | some found =>
              simp only [Bool.not_true, Bool.or_self, Bool.false_eq_true, if_false, if_true,
                Option.bind_some, body, Option.isSome_some]
              split <;> simp_all
    · simp [inner?, opened, andThen_of_going halted, parses]

/-- A comment is done with in three steps: directives, body, cut. -/
theorem applyComment_eq (inside : ContentId → Pass → Pass) :
    applyComment handlers inside file content comment pass =
      closed file comment pass content
        (match inner? handlers file comment pass with
          | some inner => inside inner (opened handlers file comment pass)
          | none => opened handlers file comment pass) := by
  rw [← enterBody_eq]
  rfl

theorem applyAll_of_halted (directives : List Directive) (halted : pass.halted) :
    applyAll handlers context directives pass = pass := by
  induction directives with
  | nil => rfl
  | cons directive directives ih =>
      rw [applyAll, List.foldl_cons, andThen_of_halted halted]
      exact ih

theorem notes_applyAll (noting : Handler.AllNoting handlers)
    (directives : List Directive) (pass : Pass) :
    Project.Notes pass.project (applyAll handlers context directives pass).project := by
  induction directives generalizing pass with
  | nil => exact .refl pass.project
  | cons directive directives ih =>
      rw [applyAll, List.foldl_cons]
      refine Project.Notes.trans ?_ (ih _)
      rw [andThen]
      split
      · exact .refl pass.project
      · exact (noted_applyDirective noting context directive pass).notes

/-- A pass that goes on has handed all directives over. -/
theorem mem_handed {directive : Directive} {directives : List Directive}
    (going : ¬ (applyAll handlers context directives pass).halted)
    (present : directive ∈ directives) :
    ⟨content, context, directive⟩ ∈ handed handlers content context directives pass := by
  induction directives generalizing pass with
  | nil => cases present
  | cons first directives ih =>
      have start : ¬ pass.halted := by
        intro halted
        rw [applyAll_of_halted _ halted] at going
        exact going halted
      rw [applyAll, List.foldl_cons, andThen_of_going start] at going
      rw [handed, if_neg start]
      rcases List.mem_cons.mp present with rfl | later
      · exact List.mem_cons_self
      · exact List.mem_cons_of_mem _ (ih going later)

theorem of_mem_handed {handing : Handing} {directives : List Directive}
    (had : handing ∈ handed handlers content context directives pass) :
    handing.content = content ∧ handing.context = context ∧ handing.directive ∈ directives := by
  induction directives generalizing pass with
  | nil => cases had
  | cons first directives ih =>
      rw [handed] at had
      split at had
      · cases had
      · rcases List.mem_cons.mp had with rfl | later
        · exact ⟨rfl, rfl, List.mem_cons_self⟩
        · obtain ⟨sameContent, sameContext, present⟩ := ih later
          exact ⟨sameContent, sameContext, List.mem_cons_of_mem _ present⟩

/-- A pass is halted by a directive whose arguments have a number that is too large. -/
theorem exists_tooLarge_of_halted (noting : Handler.AllNoting handlers)
    {directives : List Directive} (going : ¬ pass.halted)
    (halted : (applyAll handlers context directives pass).halted) :
    ∃ handing ∈ handed handlers content context directives pass,
      Placeholder.TooLarge handing.directive.args := by
  induction directives generalizing pass with
  | nil => exact absurd halted going
  | cons directive directives ih =>
      rw [applyAll, List.foldl_cons, andThen_of_going going] at halted
      rw [handed, if_neg going]
      by_cases atOnce : (applyDirective handlers context directive pass).halted
      · have noted := noted_applyDirective noting context directive pass
        exact ⟨_, List.mem_cons_self, (noted.halted atOnce).resolve_left going⟩
      · obtain ⟨handing, had, tooLarge⟩ := ih atOnce halted
        exact ⟨handing, List.mem_cons_of_mem _ had, tooLarge⟩

/-- A comment that asks for a body, and is followed by code with one, opens it. -/
theorem opened_eq_openBody (going : ¬ (applied handlers file comment pass).halted)
    (parses : asks comment pass parseVerb) {target : BlockId} {body : Body}
    (isTarget : (contextAt file comment pass).target = some target)
    (found : ((applied handlers file comment pass).project.forest.block target).body? = some body) :
    opened handlers file comment pass =
      (applied handlers file comment pass).modifyForest (Forest.openBody target) := by
  rw [opened, andThen_of_going going, if_pos parses, enterBody, isTarget]
  simp only [found]
  split <;> rfl

/-- Opening the body that a comment asks for changes nothing but notes, or it opens the body of the
code after the comment and leads into it. -/
theorem opened_cases (handlers : List (Text × Handler)) (file : FileId) (comment : BlockId)
    (pass : Pass) :
    (inner? handlers file comment pass = none ∧
      (opened handlers file comment pass).halted = (applied handlers file comment pass).halted ∧
      Project.Notes (applied handlers file comment pass).project
        (opened handlers file comment pass).project) ∨
    ∃ target inner,
      pass.project.forest.next? .all .forward Forest.codeKinds comment = some target ∧
      inner? handlers file comment pass = some inner ∧
      ¬ (applied handlers file comment pass).halted ∧
      opened handlers file comment pass =
        (applied handlers file comment pass).modifyForest (Forest.openBody target) ∧
      ((opened handlers file comment pass).project.forest.entry target).nested = some inner := by
  by_cases halted : (applied handlers file comment pass).halted
  · refine .inl ⟨by simp [inner?, halted], ?_⟩
    rw [opened, andThen_of_halted halted]
    exact ⟨rfl, .refl _⟩
  · by_cases parses : asks comment pass parseVerb
    · have opened_eq : opened handlers file comment pass =
          enterBody (fun _ pass => pass) (contextAt file comment pass)
            (applied handlers file comment pass) := by
        rw [opened, andThen_of_going halted, if_pos parses]
      cases target : (contextAt file comment pass).target with
      | none =>
          refine .inl ⟨by simp [inner?, target], ?_⟩
          rw [opened_eq, enterBody, target]
          exact ⟨rfl, notes_problem ..⟩
      | some id =>
          cases body : ((applied handlers file comment pass).project.forest.block id).body? with
          | none =>
              refine .inl ⟨by simp [inner?, target, body], ?_⟩
              rw [opened_eq, enterBody, target]
              simp only [body]
              exact ⟨rfl, notes_problem ..⟩
          | some found =>
              obtain ⟨inner, nested⟩ := Option.isSome_iff_exists.mp
                (Forest.isSome_nested_openBody body)
              have entered := opened_eq_openBody halted parses target body
              refine .inr ⟨id, inner, target, ?_, halted, entered, ?_⟩
              · simp only [inner?, halted, parses, target, entered, Bool.not_true, Bool.or_self,
                  Bool.false_eq_true, if_false, Option.bind_some, body, Option.isSome_some, if_true]
                exact nested
              · rw [entered]
                exact nested
    · refine .inl ⟨by simp [inner?, parses], ?_⟩
      rw [opened, andThen_of_going halted, if_neg parses]
      exact ⟨rfl, .refl _⟩

/-- Only the opened body of the code after a comment is led into. -/
theorem of_leads {inner : ContentId} (leads : inner? handlers file comment pass = some inner) :
    ∃ target, pass.project.forest.next? .all .forward Forest.codeKinds comment = some target ∧
      ¬ (applied handlers file comment pass).halted ∧
      ((opened handlers file comment pass).project.forest.entry target).nested = some inner := by
  rcases opened_cases handlers file comment pass with
    ⟨shut, -⟩ | ⟨target, _, found, leadsTo, going, -, nested⟩
  · rw [shut] at leads
    cases leads
  · rw [leadsTo] at leads
    cases leads
    exact ⟨target, found, going, nested⟩

theorem moves_opened (noting : Handler.AllNoting handlers)
    (file : FileId) (stops : ContentId → Prop) (comment : BlockId) (pass : Pass) :
    Project.Moves file stops pass.project (opened handlers file comment pass).project := by
  have handedOver : Project.Move file stops pass.project
      (applied handlers file comment pass).project := .note (notes_applyAll noting _ _)
  rcases opened_cases handlers file comment pass with
    ⟨-, -, notes⟩ | ⟨target, inner, -, -, -, opened_eq, -⟩
  · exact .tail (.single handedOver) (.note notes)
  · rw [opened_eq]
    exact .tail (.single handedOver) (.enter target)

theorem moves_closed {stops : ContentId → Prop} {entered : Pass}
    (has : entered.project.forest.HasContent content)
    (stop : asks comment pass stopVerb → ¬ entered.halted → stops content) :
    Project.Moves file stops entered.project (closed file comment pass content entered).project := by
  rw [closed, andThen]
  split
  · exact .refl
  · rename_i going
    split
    · rename_i asked
      rw [stopAfter]
      split
      · rename_i top
        exact .single (.cutFile _ has (stop asked going) top)
      · rename_i inside
        exact .single (.cut _ has (stop asked going) inside)
    · exact .refl

theorem halted_opened :
    (opened handlers file comment pass).halted = (applied handlers file comment pass).halted := by
  rcases opened_cases handlers file comment pass with ⟨-, same, -⟩ | ⟨_, _, -, -, -, opened_eq, -⟩
  · exact same
  · rw [opened_eq]
    rfl

theorem halted_closed {entered : Pass} :
    (closed file comment pass content entered).halted = entered.halted := by
  rw [closed, andThen]
  split
  · rfl
  · split
    · rw [stopAfter]
      split <;> rfl
    · rfl

/-- A comment that asks to stop has had the turn of that directive, unless the pass is halted. -/
theorem stopped_turns (going : ¬ (applied handlers file comment pass).halted)
    (asked : asks comment pass stopVerb) :
    Stopped (turns handlers file comment pass content) content := by
  obtain ⟨directive, present, stops⟩ := List.any_eq_true.mp asked
  exact ⟨_, mem_handed going present, rfl, by simpa using stops⟩

end Stages

/-! ## Walks -/

/-- The walk through a content from a block on, the directives that have their turn in it, and the
pass it ends with. -/
inductive Walks (handlers : List (Text × Handler)) (file : FileId) :
    ContentId → Option BlockId → Pass → List Handing → Pass → Prop
  | finished {content pass} : Walks handlers file content none pass [] pass
  | halted {content id pass} (halted : pass.halted) :
      Walks handlers file content (some id) pass [] pass
  | silent {content id pass later after} (going : ¬ pass.halted)
      (silent : ¬ (pass.project.forest.block id).hasDirectives)
      (rest : Walks handlers file content (pass.project.forest.sibling? .forward id) pass later after) :
      Walks handlers file content (some id) pass later after
  | around {content id pass later after} (going : ¬ pass.halted)
      (speaks : (pass.project.forest.block id).hasDirectives)
      (shut : inner? handlers file id pass = none)
      (rest :
        let done := closed file id pass content (opened handlers file id pass)
        Walks handlers file content (done.project.forest.sibling? .forward id) done later after) :
      Walks handlers file content (some id) pass (turns handlers file id pass content ++ later) after
  | inside {content inner id pass within entered later after} (going : ¬ pass.halted)
      (speaks : (pass.project.forest.block id).hasDirectives)
      (leads : inner? handlers file id pass = some inner)
      (body :
        let start := opened handlers file id pass
        Walks handlers file inner (start.project.forest.members inner).head? start within entered)
      (rest :
        let done := closed file id pass content entered
        Walks handlers file content (done.project.forest.sibling? .forward id) done later after) :
      Walks handlers file content (some id) pass
        (turns handlers file id pass content ++ within ++ later) after

/-- A walk has come to a block of a content, in a sound project. -/
structure Meets (content : ContentId) (next : Option BlockId) (pass : Pass) : Prop where
  sound : pass.project.Sound
  hasContent : pass.project.forest.HasContent content
  member : ∀ id, next = some id → id ∈ pass.project.forest.members content

section Walking

variable {handlers : List (Text × Handler)} {file : FileId} {id : BlockId}
variable {content inner top : ContentId} {next : Option BlockId} {stops : ContentId → Prop}
variable {pass entered after : Pass} {handings within : List Handing}

theorem Meets.of_member (sound : pass.project.Sound)
    (has : pass.project.forest.HasContent content)
    (member : id ∈ pass.project.forest.members content) : Meets content (some id) pass where
  sound := sound
  hasContent := has
  member other same := by
    cases same
    exact member

theorem Meets.head (sound : pass.project.Sound) (has : pass.project.forest.HasContent content) :
    Meets content (pass.project.forest.members content).head? pass where
  sound := sound
  hasContent := has
  member _ first := List.mem_of_head? first

/-- Whatever was done at a block, the block that then follows it stands in the same content. -/
theorem Meets.sibling (meets : Meets content (some id) pass)
    (moves : Project.Moves file stops pass.project after.project) :
    Meets content (after.project.forest.sibling? .forward id) after where
  sound := moves.sound meets.sound
  hasContent := (moves.keeps meets.sound).forest.hasContent content meets.hasContent
  member other found := by
    -- A block with a follower has a place, and then it is the place it had before.
    have sound := moves.sound meets.sound
    have keeps := moves.keeps meets.sound
    obtain ⟨inContent, index, first, second⟩ :=
      (Forest.sibling?_forward_iff sound.forest.placed).mp found
    have has := meets.sound.forest.placed.hasBlock (meets.member id rfl)
    have member := keeps.forest.mem_members meets.sound.forest.placed sound.forest.placed
      (.inl has) (List.mem_of_getElem? first)
    rw [← meets.sound.forest.placed.content_unique (meets.member id rfl) member]
    exact List.mem_of_getElem? second

theorem Meets.silent (meets : Meets content (some id) pass) :
    Meets content (pass.project.forest.sibling? .forward id) pass :=
  have nothing : Project.Moves default (fun _ => False) pass.project pass.project := .refl
  meets.sibling nothing

theorem Meets.body (noting : Handler.AllNoting handlers)
    (meets : Meets content (some id) pass) (leads : inner? handlers file id pass = some inner) :
    Meets inner ((opened handlers file id pass).project.forest.members inner).head?
      (opened handlers file id pass) := by
  have moves := moves_opened noting file (fun _ => False) id pass
  have sound := moves.sound meets.sound
  obtain ⟨target, -, -, nested⟩ := of_leads leads
  exact .head sound (sound.forest.opened target inner nested).hasContent

/-- A content that is not a body is not the one that a comment leads into. -/
theorem inner?_ne (leads : inner? handlers file id pass = some inner)
    (unowned : (opened handlers file id pass).project.forest.Unowned top) : inner ≠ top := by
  rintro rfl
  obtain ⟨target, -, -, nested⟩ := of_leads leads
  exact unowned target nested

/-- What is done at a comment that leads into no body. -/
theorem Meets.around (noting : Handler.AllNoting handlers) (file : FileId)
    (meets : Meets content (some id) pass) :
    Project.Moves file (Stopped (turns handlers file id pass content)) pass.project
      (closed file id pass content (opened handlers file id pass)).project := by
  have toOpened := moves_opened noting file (Stopped (turns handlers file id pass content)) id pass
  apply toOpened.trans
  apply moves_closed
  · exact (toOpened.keeps meets.sound).forest.hasContent content meets.hasContent
  · intro asked going
    apply stopped_turns _ asked
    rwa [← halted_opened]

/-- What is done at a comment that leads into a body, around what is done in the body. -/
theorem Meets.inside (noting : Handler.AllNoting handlers)
    (meets : Meets content (some id) pass) (leads : inner? handlers file id pass = some inner)
    (body : Project.Moves file (Stopped within) (opened handlers file id pass).project
      entered.project) :
    Project.Moves file (Stopped (turns handlers file id pass content ++ within)) pass.project
      (closed file id pass content entered).project := by
  have toOpened := moves_opened noting file
    (Stopped (turns handlers file id pass content ++ within)) id pass
  have toEntered := toOpened.trans
    (body.mono fun _ => Stopped.mono (List.subset_append_right _ _))
  apply Relation.ReflTransGen.trans toEntered
  apply moves_closed
  · exact (Project.Moves.keeps toEntered meets.sound).forest.hasContent content meets.hasContent
  · intro asked _
    apply Stopped.mono (List.subset_append_left _ _)
    obtain ⟨-, -, applies, -⟩ := of_leads leads
    exact stopped_turns applies asked

/-- A walk that is halted goes no further. -/
theorem Walks.eq_of_halted (walks : Walks handlers file content next pass handings after)
    (halted : pass.halted) : handings = [] ∧ after = pass := by
  cases walks with
  | finished | halted _ => exact ⟨rfl, rfl⟩
  | silent going _ _ | around going _ _ _ | inside going _ _ _ _ => exact absurd halted going

theorem Walks.eq_of_none (walks : Walks handlers file content none pass handings after) :
    handings = [] ∧ after = pass := by
  cases walks
  exact ⟨rfl, rfl⟩

/-- The rules leave no choice. -/
theorem Walks.unique {others : List Handing} {other : Pass}
    (walks : Walks handlers file content next pass handings after)
    (again : Walks handlers file content next pass others other) :
    others = handings ∧ other = after := by
  induction walks generalizing others other with
  | finished => exact again.eq_of_none
  | halted isHalted => exact again.eq_of_halted isHalted
  | silent going isSilent rest ih =>
      cases again with
      | halted isHalted => exact absurd isHalted going
      | silent _ _ restAgain => exact ih restAgain
      | around _ speaks _ _ | inside _ speaks _ _ _ => exact absurd speaks isSilent
  | around going speaks shut rest ih =>
      cases again with
      | halted isHalted => exact absurd isHalted going
      | silent _ isSilent _ => exact absurd speaks isSilent
      | around _ _ _ restAgain =>
          obtain ⟨rfl, rfl⟩ := ih restAgain
          exact ⟨rfl, rfl⟩
      | inside _ _ leads _ _ =>
          rw [shut] at leads
          cases leads
  | inside going speaks leads body rest ihBody ih =>
      cases again with
      | halted isHalted => exact absurd isHalted going
      | silent _ isSilent _ => exact absurd speaks isSilent
      | around _ _ shut _ =>
          rw [leads] at shut
          cases shut
      | inside _ _ leadsAgain bodyAgain restAgain =>
          rw [leads] at leadsAgain
          cases leadsAgain
          obtain ⟨rfl, rfl⟩ := ihBody bodyAgain
          obtain ⟨rfl, rfl⟩ := ih restAgain
          exact ⟨rfl, rfl⟩

/-- A walk comes down to moves, and it cuts only where it stopped. -/
theorem Walks.moves (noting : Handler.AllNoting handlers)
    (walks : Walks handlers file content next pass handings after)
    (meets : Meets content next pass) :
    Project.Moves file (Stopped handings) pass.project after.project := by
  induction walks with
  | finished => exact .refl
  | halted isHalted => exact .refl
  | silent going isSilent rest ih => exact ih (meets.silent)
  | around going speaks shut rest ih =>
      have here := meets.around noting file
      have onwards := ih (meets.sibling here)
      exact (here.mono fun _ => Stopped.mono (List.subset_append_left _ _)).trans
        (onwards.mono fun _ => Stopped.mono (List.subset_append_right _ _))
  | inside going speaks leads body rest ihBody ih =>
      have here := meets.inside noting leads (ihBody (meets.body noting leads))
      have onwards := ih (meets.sibling here)
      exact (here.mono fun _ => Stopped.mono (List.subset_append_left _ _)).trans
        (onwards.mono fun _ => Stopped.mono (List.subset_append_right _ _))

theorem located_before {handing : Handing}
    (located : handing.Located after.project.forest) (sound : pass.project.Sound)
    (moves : Project.Moves file stops pass.project after.project) :
    handing.Located pass.project.forest := by
  intro known
  have keeps := (moves.keeps sound).forest
  apply keeps.mem_members sound.forest.placed (moves.sound sound).forest.placed known
  apply located
  exact known.imp (keeps.hasBlock _) (keeps.hasContent _)

theorem located_turns (meets : Meets content (some id) pass) :
    ∀ handing ∈ turns handlers file id pass content, handing.Located pass.project.forest := by
  intro handing had _
  obtain ⟨sameContent, sameContext, -⟩ := of_mem_handed had
  rw [sameContent, sameContext]
  exact meets.member id rfl

theorem Walks.located (noting : Handler.AllNoting handlers)
    (walks : Walks handlers file content next pass handings after)
    (meets : Meets content next pass) :
    ∀ handing ∈ handings, handing.Located pass.project.forest := by
  induction walks with
  | finished | halted _ => simp
  | silent going isSilent rest ih => exact ih (meets.silent)
  | around going speaks shut rest ih =>
      have here := meets.around noting file
      intro handing had
      rcases List.mem_append.mp had with atOnce | later
      · exact located_turns meets handing atOnce
      · exact located_before (ih (meets.sibling here) handing later) meets.sound here
  | @inside content inner id pass within entered later after going speaks leads body rest ihBody ih =>
      have start := meets.body noting leads
      have here := meets.inside noting leads (body.moves noting start)
      have toOpened := moves_opened noting file (fun _ => False) id pass
      intro handing had
      rcases List.mem_append.mp had with upTo | later
      · rcases List.mem_append.mp upTo with atOnce | inBody
        · exact located_turns meets handing atOnce
        · exact located_before (ihBody start handing inBody) meets.sound toOpened
      · exact located_before (ih (meets.sibling here) handing later) meets.sound here

/-- No walk through another content comes to a content that is not a body. -/
theorem Walks.outside (noting : Handler.AllNoting handlers)
    (walks : Walks handlers file content next pass handings after)
    (meets : Meets content next pass) (has : pass.project.forest.HasContent top)
    (unowned : pass.project.forest.Unowned top) (other : content ≠ top) :
    ∀ handing ∈ handings, handing.content ≠ top := by
  have atComment : ∀ {content id pass}, content ≠ top →
      ∀ handing ∈ turns handlers file id pass content, handing.content ≠ top := by
    intro content id pass other handing had
    obtain ⟨sameContent, -⟩ := of_mem_handed had
    rwa [sameContent]
  induction walks with
  | finished | halted _ => simp
  | silent going isSilent rest ih => exact ih (meets.silent) has unowned other
  | around going speaks shut rest ih =>
      have here := meets.around noting file
      have keeps := (here.keeps meets.sound).forest
      intro handing had
      rcases List.mem_append.mp had with atOnce | later
      · exact atComment other handing atOnce
      · exact ih (meets.sibling here) (keeps.hasContent top has) (keeps.unowned has unowned) other
          handing later
  | @inside content inner id pass within entered later after going speaks leads body rest ihBody ih =>
      have start := meets.body noting leads
      have here := meets.inside noting leads (body.moves noting start)
      have keeps := (here.keeps meets.sound).forest
      have toOpened := moves_opened noting file (fun _ => False) id pass
      have keepsOpened := (toOpened.keeps meets.sound).forest
      have unownedOpened := keepsOpened.unowned has unowned
      intro handing had
      rcases List.mem_append.mp had with upTo | later
      · rcases List.mem_append.mp upTo with atOnce | inBody
        · exact atComment other handing atOnce
        · -- The body is that of a block, so it is another content too.
          refine ihBody start (keepsOpened.hasContent top has) unownedOpened ?_ handing inBody
          exact inner?_ne leads unownedOpened
      · exact ih (meets.sibling here) (keeps.hasContent top has) (keeps.unowned has unowned) other
          handing later

/-- A walk is halted by a directive whose arguments have a number that is too large. -/
theorem Walks.exists_tooLarge (noting : Handler.AllNoting handlers)
    (walks : Walks handlers file content next pass handings after) (going : ¬ pass.halted)
    (halted : after.halted) :
    ∃ handing ∈ handings, Placeholder.TooLarge handing.directive.args := by
  have inPart : ∀ {part whole : List Handing}, part ⊆ whole →
      (∃ handing ∈ part, Placeholder.TooLarge handing.directive.args) →
      ∃ handing ∈ whole, Placeholder.TooLarge handing.directive.args := by
    rintro part whole included ⟨handing, had, tooLarge⟩
    exact ⟨handing, included had, tooLarge⟩
  induction walks with
  | finished => exact absurd halted going
  | halted isHalted => exact absurd isHalted going
  | silent _ isSilent rest ih => exact ih going halted
  | @around content id pass later after _ speaks shut rest ih =>
      by_cases atOnce : (applied handlers file id pass).halted
      · exact inPart (List.subset_append_left _ _) (exists_tooLarge_of_halted noting going atOnce)
      · refine inPart (List.subset_append_right _ _) (ih ?_ halted)
        rwa [halted_closed, halted_opened]
  | @inside content inner id pass within entered later after _ speaks leads body rest ihBody ih =>
      by_cases inBody : entered.halted
      · obtain ⟨-, -, applies, -⟩ := of_leads leads
        have start : ¬ (opened handlers file id pass).halted := by rwa [halted_opened]
        refine inPart ?_ (ihBody start inBody)
        exact List.Subset.trans (List.subset_append_right _ _) (List.subset_append_left _ _)
      · refine inPart (List.subset_append_right _ _) (ih ?_ halted)
        rwa [halted_closed]

end Walking

end Pass

end Docweave
