import Mathlib.Data.List.Flatten
import Docweave.Page.Document
import Docweave.Proofs.Forest.Spoken

/-!
# Groups of variables

The members of a content are passed over in order, in runs of variables with comments in between.  Every
variable lies in one run, and a run is under the title that stands before its first variable.  The runs
without a title are put together behind the others, so the groups hold each variable once.
-/

namespace Docweave.Page

open Forest

variable {settings : Settings} {forest : Forest} {content : ContentId} {id title : BlockId}
  {heading : Option BlockId} {rest : List BlockId} {index fuel size : Nat}

/-- Whether a block declares a variable. -/
def isVariable (forest : Forest) (id : BlockId) : Bool := (forest.block id).kind = .variableDecl

/-- The variables of a group. -/
def VariableGroup.ids (group : VariableGroup) : List BlockId := group.declared.map Prod.fst

open VariableGroup

theorem isVariable_of_isComment (comment : (forest.block id).isComment = true) :
    isVariable forest id = false := by
  rw [Block.isComment] at comment
  rw [isVariable, decide_eq_false_iff_not]
  intro kind
  rw [kind] at comment
  cases comment

/-! ## The cursor -/

theorem exists_index_of_suffix (suffix : id :: rest <:+ forest.members content) :
    ∃ index, (forest.members content)[index]? = some id ∧
      (forest.members content).drop (index + 1) = rest := by
  obtain ⟨passed, members_eq⟩ := suffix
  refine ⟨passed.length, ?_, ?_⟩
  · rw [← members_eq, List.getElem?_append_right (Nat.le_refl _), Nat.sub_self]
    rfl
  · rw [← members_eq, List.drop_append, List.drop_eq_nil_of_le (Nat.le_succ _),
      Nat.add_sub_cancel_left]
    rfl

theorem sibling?_of_suffix (placed : forest.Placed) (suffix : id :: rest <:+ forest.members content) :
    forest.sibling? .forward id = rest.head? := by
  obtain ⟨index, atIndex, after⟩ := exists_index_of_suffix suffix
  rw [placed.sibling?_eq atIndex, ← List.head?_drop, after]

/-- The next variable after the block under the cursor is looked for among the blocks behind it. -/
theorem next?_of_suffix (placed : forest.Placed) (suffix : rest <:+ forest.members content) :
    (rest.head?.bind fun id => forest.next? .all .forward (some [.variableDecl]) id) =
      rest.tail.find? (isVariable forest) := by
  cases rest with
  | nil => rfl
  | cons id rest =>
      obtain ⟨index, atIndex, after⟩ := exists_index_of_suffix suffix
      have sameTest : forest.hasKind (some [.variableDecl]) = isVariable forest := by
        funext other
        rw [hasKind, isVariable, List.contains_cons, List.contains_nil, Bool.or_false]
        rfl
      rw [List.head?_cons, Option.bind_some, next?, walk_forward placed atIndex, after, sameTest]
      rfl

/-- Only comments are skipped. -/
theorem exists_skipComments (placed : forest.Placed) (suffix : rest <:+ forest.members content)
    (settings : Settings) (fuel : Nat) :
    ∃ skipped remaining, rest = skipped ++ remaining ∧
      (∀ id ∈ skipped, isVariable forest id = false) ∧
      skipComments settings forest fuel rest.head? = remaining.head? := by
  induction fuel generalizing rest with
  | zero => exact ⟨[], rest, rfl, List.forall_mem_nil _, rfl⟩
  | succ fuel ih =>
      cases rest with
      | nil => exact ⟨[], [], rfl, List.forall_mem_nil _, rfl⟩
      | cons id rest =>
          rw [List.head?_cons, skipComments, sibling?_of_suffix placed suffix]
          split
          · rename_i plain
            obtain ⟨skipped, remaining, rfl, others, skips⟩ :=
              ih ((List.suffix_cons id rest).trans suffix)
            have comment := (Bool.and_eq_true_iff.mp plain).1
            exact ⟨id :: skipped, remaining, rfl,
              List.forall_mem_cons.mpr ⟨isVariable_of_isComment comment, others⟩, skips⟩
          · exact ⟨[], id :: rest, rfl, List.forall_mem_nil _, rfl⟩

/-- A run takes all variables up to the block it stops before, which is none. -/
theorem exists_takeVariables (placed : forest.Placed) (suffix : rest <:+ forest.members content)
    (settings : Settings) (heading : Option BlockId) (enough : rest.length ≤ fuel) :
    ∃ passed remaining, rest = passed ++ remaining ∧
      (takeVariables settings forest heading fuel rest.head?).1.map Prod.fst =
        passed.filter (isVariable forest) ∧
      (takeVariables settings forest heading fuel rest.head?).2 = remaining.head? ∧
      ∀ id ∈ remaining.head?, isVariable forest id = false := by
  induction fuel generalizing rest with
  | zero =>
      obtain rfl := List.length_eq_zero_iff.mp (Nat.le_zero.mp enough)
      exact ⟨[], [], rfl, rfl, rfl, nofun⟩
  | succ fuel ih =>
      cases rest with
      | nil => exact ⟨[], [], rfl, rfl, rfl, nofun⟩
      | cons id rest =>
          rw [List.head?_cons, takeVariables, sibling?_of_suffix placed suffix]
          split
          · rename_i kind
            have restSuffix := (List.suffix_cons id rest).trans suffix
            obtain ⟨skipped, ahead, rfl, noVariable, skips⟩ :=
              exists_skipComments placed restSuffix settings fuel
            have short : ahead.length ≤ fuel := by
              rw [List.length_cons, List.length_append] at enough
              omega
            obtain ⟨passed, remaining, rfl, taken_eq, next_eq, stops⟩ :=
              ih ((List.suffix_append skipped _).trans restSuffix) short
            rw [skips]
            refine ⟨id :: skipped ++ passed, remaining, by simp, ?_, next_eq, stops⟩
            have isFirst : isVariable forest id = true := decide_eq_true kind
            have noneSkipped : skipped.filter (isVariable forest) = [] :=
              List.filter_eq_nil_iff.mpr fun id member => by simp [noVariable id member]
            rw [List.filter_append, List.filter_cons_of_pos isFirst, noneSkipped, ← taken_eq]
            rfl
          · rename_i kind
            refine ⟨[], id :: rest, rfl, rfl, rfl, ?_⟩
            intro other isHead
            obtain rfl := Option.mem_some_iff.mp isHead
            exact decide_eq_false kind

/-! ## Runs -/

/-- A run of variables under the title that its first one has. -/
def IsRun (settings : Settings) (forest : Forest) (group : VariableGroup) : Prop :=
  ∃ first others, group.ids = first :: others ∧ group.title = titleOf? settings forest first

theorem variableRuns_none : variableRuns settings forest size fuel none = [] := by
  cases fuel <;> rfl

/-- The first run, and the runs from the next variable after the block that it stops before. -/
theorem variableRuns_some :
    variableRuns settings forest size (fuel + 1) (some id) =
      ⟨titleOf? settings forest id,
          (takeVariables settings forest (titleOf? settings forest id) size (some id)).1⟩ ::
        variableRuns settings forest size fuel
          ((takeVariables settings forest (titleOf? settings forest id) size (some id)).2.bind
            fun id => forest.next? .all .forward (some [.variableDecl]) id) := rfl

/-- The run that starts with a variable, and the rest in which the next variable is looked for. -/
theorem exists_run (placed : forest.Placed) (suffix : id :: rest <:+ forest.members content)
    (isFirst : isVariable forest id = true) (settings : Settings) (heading : Option BlockId)
    (sized : (id :: rest).length ≤ size) :
    ∃ more behind, behind <:+ rest ∧
      (takeVariables settings forest heading size (some id)).1.map Prod.fst = id :: more ∧
      rest.filter (isVariable forest) = more ++ behind.filter (isVariable forest) ∧
      ((takeVariables settings forest heading size (some id)).2.bind
          fun id => forest.next? .all .forward (some [.variableDecl]) id) =
        behind.find? (isVariable forest) := by
  obtain ⟨passed, remaining, split_eq, taken_eq, next_eq, stops⟩ :=
    exists_takeVariables placed suffix settings heading sized
  rw [List.head?_cons] at taken_eq next_eq
  cases passed with
  | nil =>
      -- The run would stop right before its first variable.
      rw [List.nil_append] at split_eq
      rw [← split_eq, List.head?_cons] at stops
      exact absurd isFirst (by rw [stops id rfl]; exact Bool.false_ne_true)
  | cons first passed =>
      rw [List.cons_append] at split_eq
      obtain ⟨rfl, rfl⟩ := List.cons.inj split_eq
      have after := (List.suffix_append (id :: passed) remaining).trans suffix
      have stopsBefore : remaining.filter (isVariable forest) =
          remaining.tail.filter (isVariable forest) := by
        cases remaining with
        | nil => rfl
        | cons head tail => exact List.filter_cons_of_neg (by simp [stops head rfl])
      refine ⟨passed.filter (isVariable forest), remaining.tail, ?_, ?_, ?_, ?_⟩
      · exact (List.tail_suffix remaining).trans (List.suffix_append passed remaining)
      · exact taken_eq.trans (List.filter_cons_of_pos isFirst)
      · rw [List.filter_append, stopsBefore]
      · rw [next_eq, next?_of_suffix placed after]

/-- The runs from a place on hold all variables from there on, in order. -/
theorem variableRuns_spec (placed : forest.Placed) (suffix : rest <:+ forest.members content)
    (settings : Settings) (enough : rest.length ≤ fuel) (sized : rest.length ≤ size) :
    let runs := variableRuns settings forest size fuel (rest.find? (isVariable forest))
    runs.flatMap ids = rest.filter (isVariable forest) ∧
      ∀ group ∈ runs, IsRun settings forest group := by
  induction fuel generalizing rest with
  | zero =>
      obtain rfl := List.length_eq_zero_iff.mp (Nat.le_zero.mp enough)
      exact ⟨rfl, List.forall_mem_nil _⟩
  | succ fuel ih =>
      cases found : rest.find? (isVariable forest) with
      | none =>
          have noVariable := List.filter_eq_nil_iff.mpr (List.find?_eq_none.mp found)
          rw [variableRuns_none, noVariable]
          exact ⟨rfl, List.forall_mem_nil _⟩
      | some first =>
          obtain ⟨isFirst, gap, others, rfl, gapOther⟩ := List.find?_eq_some_iff_append.mp found
          have fromFirst := (List.suffix_append gap (first :: others)).trans suffix
          rw [List.length_append, List.length_cons] at enough sized
          have sizedRun : (first :: others).length ≤ size := Nat.le_trans (Nat.le_add_left _ _) sized
          obtain ⟨more, behind, isBehind, ids_eq, others_eq, next_eq⟩ :=
            exists_run placed fromFirst isFirst settings (titleOf? settings forest first) sizedRun
          have behindSuffix := (isBehind.trans (List.suffix_cons first others)).trans fromFirst
          have shorter := isBehind.length_le
          obtain ⟨later_eq, laterRuns⟩ := ih behindSuffix (by omega) (by omega)
          have noneInGap : gap.filter (isVariable forest) = [] :=
            List.filter_eq_nil_iff.mpr fun id member => by simpa using gapOther id member
          rw [variableRuns_some, next_eq]
          refine ⟨?_, List.forall_mem_cons.mpr ⟨⟨first, more, ids_eq, rfl⟩, laterRuns⟩⟩
          rw [List.flatMap_cons, later_eq, VariableGroup.ids, ids_eq, List.filter_append, noneInGap,
            List.nil_append, List.filter_cons_of_pos isFirst, others_eq]
          rfl

/-! ## Titles -/

theorem exists_before (placed : forest.Placed) (atIndex : (forest.members content)[index]? = some id)
    {before : BlockId} (found : forest.sibling? .backward id = some before) :
    ∃ previous, index = previous + 1 ∧ (forest.members content)[previous]? = some before := by
  cases index with
  | zero =>
      rw [sibling?, placed.place_of_member atIndex] at found
      cases found
  | succ previous => exact ⟨previous, rfl, (sibling?_backward_eq placed atIndex).symm.trans found⟩

/-- Where a title stands that speaks for the variables from a given one on: right before this, or right
before the comment that is. -/
def Heads (settings : Settings) (forest : Forest) (content : ContentId) (title first : BlockId) : Prop :=
  isTitle settings (forest.block title) = true ∧ ∃ index,
    (forest.members content)[index]? = some title ∧
    ((forest.members content)[index + 1]? = some first ∨
      ∃ between, (forest.members content)[index + 1]? = some between ∧
        (forest.block between).isComment = true ∧ (forest.members content)[index + 2]? = some first)

theorem heads_of_titleOf? (placed : forest.Placed) (member : id ∈ forest.members content)
    (found : titleOf? settings forest id = some title) : Heads settings forest content title id := by
  obtain ⟨index, atIndex⟩ := List.mem_iff_getElem?.mp member
  rw [titleOf?] at found
  cases isBefore : forest.sibling? .backward id with
  | none =>
      rw [isBefore] at found
      cases found
  | some before =>
      obtain ⟨index, rfl, atBefore⟩ := exists_before placed atIndex isBefore
      rw [isBefore] at found
      dsimp only at found
      split at found
      · rename_i passes
        obtain ⟨comment, titled⟩ := Bool.and_eq_true_iff.mp passes
        obtain ⟨index, rfl, atTitle⟩ := exists_before placed atBefore found
        rw [found] at titled
        exact ⟨titled, index, atTitle, .inr ⟨before, atBefore, comment, atIndex⟩⟩
      · split at found
        · rename_i titled
          obtain rfl := Option.some.inj found
          exact ⟨titled, index, atBefore, .inl atIndex⟩
        · cases found

/-! ## Groups -/

/-- The groups of some runs: those with a title as they are, and one for all others behind them. -/
def gathered (runs : List VariableGroup) : List VariableGroup :=
  let untitled := (runs.filter fun group => group.title.isNone).flatMap VariableGroup.declared
  (runs.filter fun group => group.title.isSome) ++ if untitled.isEmpty then [] else [⟨none, untitled⟩]

section Gathered

variable {group : VariableGroup} {runs : List VariableGroup}

/-- The last group is the one without a title, or there is none and every group is a run. -/
theorem gathered_cases (runs : List VariableGroup) :
    (gathered runs = runs.filter (fun group => group.title.isSome) ∧
        (runs.filter fun group => group.title.isNone).flatMap ids = []) ∨
      ∃ last, gathered runs = runs.filter (fun group => group.title.isSome) ++ [last] ∧
        last.title = none ∧ last.ids ≠ [] ∧
        (runs.filter fun group => group.title.isNone).flatMap ids = last.ids := by
  have ids_eq : (runs.filter fun group => group.title.isNone).flatMap ids =
      ((runs.filter fun group => group.title.isNone).flatMap VariableGroup.declared).map Prod.fst :=
    List.map_flatMap.symm
  rw [gathered, ids_eq]
  cases (runs.filter fun group => group.title.isNone).flatMap VariableGroup.declared with
  | nil => exact .inl ⟨List.append_nil _, rfl⟩
  | cons first others => exact .inr ⟨⟨none, first :: others⟩, rfl, rfl, List.cons_ne_nil _ _, rfl⟩

theorem perm_gathered (runs : List VariableGroup) :
    ((gathered runs).flatMap ids).Perm (runs.flatMap ids) := by
  have split_perm := List.Perm.flatMap_right ids
    (List.filter_append_perm (fun group : VariableGroup => group.title.isSome) runs)
  rw [List.flatMap_append] at split_perm
  simp only [Option.not_isSome] at split_perm
  obtain ⟨groups_eq, none_eq⟩ | ⟨last, groups_eq, -, -, last_eq⟩ := gathered_cases runs
  · rwa [groups_eq, ← List.append_nil (List.flatMap _ _), ← none_eq]
  · rwa [groups_eq, List.flatMap_append, List.flatMap_singleton, ← last_eq]

theorem filter_gathered (runs : List VariableGroup) :
    (gathered runs).filter (fun group => group.title.isSome) =
      runs.filter fun group => group.title.isSome := by
  obtain ⟨groups_eq, -⟩ | ⟨last, groups_eq, untitled, -⟩ := gathered_cases runs
  · rw [groups_eq, List.filter_filter]
    simp only [Bool.and_self]
  · rw [groups_eq, List.filter_append, List.filter_filter, List.filter_cons_of_neg (by simp [untitled])]
    simp only [Bool.and_self, List.filter_nil, List.append_nil]

/-- A group is a run with a title, or it is the last one. -/
theorem mem_gathered (member : group ∈ gathered runs) :
    (group ∈ runs ∧ group.title.isSome = true) ∨ group.title = none ∧ group.ids ≠ [] := by
  obtain ⟨groups_eq, -⟩ | ⟨last, groups_eq, untitled, nonempty, -⟩ := gathered_cases runs
  · rw [groups_eq] at member
    exact .inl (List.mem_filter.mp member)
  · rw [groups_eq, List.mem_append, List.mem_singleton] at member
    rcases member with titled | rfl
    · exact .inl (List.mem_filter.mp titled)
    · exact .inr ⟨untitled, nonempty⟩

theorem titled_of_mem_dropLast (early : group ∈ (gathered runs).dropLast) : group.title.isSome = true := by
  obtain ⟨groups_eq, -⟩ | ⟨last, groups_eq, -⟩ := gathered_cases runs
  · rw [groups_eq] at early
    exact (List.mem_filter.mp (List.dropLast_subset _ early)).2
  · rw [groups_eq, List.dropLast_concat] at early
    exact (List.mem_filter.mp early).2

end Gathered

/-- The groups are not empty and hold the variables of the content, each once.  Only the last one may be
without a title, the others are in the order of the content, and each stands below its title. -/
theorem variableGroups_partition (settings : Settings) (placed : forest.Placed) (content : ContentId) :
    let groups := variableGroups settings forest content
    (∀ group ∈ groups, group.ids ≠ []) ∧
    (groups.flatMap ids).Perm ((forest.members content).filter (isVariable forest)) ∧
    (groups.flatMap ids).Nodup ∧
    (∀ group ∈ groups.dropLast, group.title.isSome = true) ∧
    ((groups.filter fun group => group.title.isSome).flatMap ids).Sublist (forest.members content) ∧
    ∀ group ∈ groups, ∀ title ∈ group.title, ∃ first, group.ids.head? = some first ∧
      Heads settings forest content title first := by
  intro groups
  let members := forest.members content
  let runs := variableRuns settings forest members.length members.length (members.find? (isVariable forest))
  have groups_eq : groups = gathered runs := rfl
  obtain ⟨runs_eq, areRuns⟩ := variableRuns_spec placed (List.suffix_refl members) settings
    (Nat.le_refl _) (Nat.le_refl _)
  have perm : (groups.flatMap ids).Perm (members.filter (isVariable forest)) := runs_eq ▸ perm_gathered runs
  refine ⟨?_, perm, ?_, fun group early => titled_of_mem_dropLast early, ?_, ?_⟩
  · intro group member
    obtain ⟨isRun, -⟩ | ⟨-, nonempty⟩ := mem_gathered member
    · obtain ⟨first, others, ids_eq, -⟩ := areRuns group isRun
      rw [ids_eq]
      exact List.cons_ne_nil _ _
    · exact nonempty
  · exact perm.nodup_iff.mpr ((placed.nodup content).filter _)
  · rw [groups_eq, filter_gathered]
    have inRuns : ((runs.filter fun group => group.title.isSome).flatMap ids).Sublist (runs.flatMap ids) :=
      List.filter_sublist.flatMap ids
    rw [runs_eq] at inRuns
    exact inRuns.trans List.filter_sublist
  · intro group member title isTitle
    rw [Option.mem_def] at isTitle
    obtain ⟨isRun, -⟩ | ⟨untitled, -⟩ := mem_gathered member
    · obtain ⟨first, others, ids_eq, title_eq⟩ := areRuns group isRun
      have firstMember : first ∈ members := by
        have inRuns : first ∈ runs.flatMap ids :=
          List.mem_flatMap.mpr ⟨group, isRun, by rw [ids_eq]; exact List.mem_cons_self⟩
        rw [runs_eq] at inRuns
        exact (List.mem_filter.mp inRuns).1
      exact ⟨first, by rw [ids_eq]; rfl,
        heads_of_titleOf? placed firstMember (title_eq.symm.trans isTitle)⟩
    · rw [untitled] at isTitle
      cases isTitle

/-- A comment stands between the title of the first group and its variables.  The other variables, before
the title and behind a statement, are in the last group. -/
theorem variableGroups_partition_ofText :
    let forest := (ofText ("var a = 1\n\n/*\n * Sizes\n */\n// of b\nvar b = 2\n// of c\nvar c = 3\n" ++
      "f()\nvar d = 4\n") 1).1
    let groups := variableGroups Settings.default forest ⟨0⟩
    forest.Placed ∧
      groups.map (fun group => (group.title, group.ids)) =
        [(some ⟨1⟩, [⟨3⟩, ⟨5⟩]), (none, [⟨0⟩, ⟨7⟩])] ∧
      (groups.flatMap ids).Perm ((forest.members ⟨0⟩).filter (isVariable forest)) ∧
      Heads Settings.default forest ⟨0⟩ ⟨1⟩ ⟨3⟩ := by
  intro forest groups
  have placed : forest.Placed := (reads_ofText _ 1).placed
  have groups_eq : groups.map (fun group => (group.title, group.ids)) =
      [(some ⟨1⟩, [⟨3⟩, ⟨5⟩]), (none, [⟨0⟩, ⟨7⟩])] := by decide +kernel
  obtain ⟨-, perm, -, -, -, heads⟩ := variableGroups_partition Settings.default placed ⟨0⟩
  obtain ⟨titled, member, titled_eq⟩ :
      ∃ group ∈ groups, (group.title, group.ids) = (some ⟨1⟩, [⟨3⟩, ⟨5⟩]) := by
    rw [← List.mem_map, groups_eq]
    exact List.mem_cons_self
  obtain ⟨title_eq, ids_eq⟩ := Prod.mk.inj titled_eq
  obtain ⟨first, isFirst, headsFirst⟩ := heads titled member ⟨1⟩ title_eq
  rw [ids_eq] at isFirst
  obtain rfl := Option.some.inj isFirst
  exact ⟨placed, groups_eq, perm, headsFirst⟩

end Docweave.Page
