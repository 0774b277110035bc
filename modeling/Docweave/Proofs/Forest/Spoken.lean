import Mathlib.Data.List.Find
import Mathlib.Data.List.Perm.Subperm
import Mathlib.Data.List.TakeWhile
import Docweave.Proofs.Forest.Opened

/-!
# Comments that speak for blocks

A comment speaks for the blocks that follow it without a blank row in between, up to the next
comment.  Parsing carries that comment along while it cuts a text, and opens a body when the comment
asks for it; in a forest the comment is looked up backward along links.  The two find the same
comment, so the blocks that parsing has opened can be told from the forest.
-/

namespace Docweave

namespace BlockTree

/-- Whether the body of the block is opened. -/
def isOpen : BlockTree → Bool
  | .leaf _ => false
  | .branch _ _ => true

end BlockTree

namespace Outline

variable {note : Option Block} {block : Block}

/-- The comment that may speak for the block after some blocks, which are given nearest first. -/
def noteOf : List Block → Option Block
  | [] => none
  | block :: earlier => noteAfter (heard block.blankBefore (noteOf earlier)) block

@[simp] theorem heard_none (blanks : Nat) : heard blanks none = none := by
  rw [heard, ite_self]

theorem isOpen_treeOf :
    (treeOf note block).isOpen = (opensBody block note && block.body?.isSome) := by
  rw [treeOf]
  cases opensBody block note <;> cases block.body? <;> rfl

/-- A function or an assigned function is opened when the comment that speaks for it has a directive
`parse`. -/
theorem opensBody_iff (kind : block.kind = .functionDecl ∨ block.kind = .assignment)
    (body : block.body?.isSome) :
    opensBody block note ↔ ∃ comment, note = some comment ∧
      ∃ directive ∈ comment.directives, directive.verb = "parse".toList := by
  have carries : ∀ comment : Block, (!(comment.directivesOf "parse".toList).isEmpty) = true ↔
      ∃ directive ∈ comment.directives, directive.verb = "parse".toList := by
    intro comment
    simp [Block.directivesOf]
  cases note with
  | none => rcases kind with kind | kind <;> simp [opensBody, kind]
  | some comment =>
      simp only [Option.some.injEq, exists_eq_left']
      rw [← carries comment]
      rcases kind with kind | kind <;> simp [opensBody, kind, body]

/-- The tree of a block depends on what stands before it only by the comment that speaks for it. -/
theorem treeOf_members (note : Option Block) (blanks : Nat) (row : Int) (text : Text) :
    ∀ earlier, noteOf earlier = note → ∀ (index : Nat) tree,
      (membersFrom text.length note blanks row text)[index]? = some tree →
      tree = treeOf (heard tree.block.blankBefore (noteOf
        ((((membersFrom text.length note blanks row text).map BlockTree.block).take index).reverse ++
          earlier))) tree.block := by
  apply members_induction (motive := fun note _ _ _ trees =>
    ∀ earlier, noteOf earlier = note → ∀ (index : Nat) tree, trees[index]? = some tree →
      tree = treeOf (heard tree.block.blankBefore (noteOf
        (((trees.map BlockTree.block).take index).reverse ++ earlier))) tree.block)
  · intro note blanks row earlier _ index tree found
    cases found
  · intro note blanks row text block rest trees nonempty cut ih earlier before index tree found
    cases index with
    | zero =>
        rw [List.getElem?_cons_zero, Option.some.injEq] at found
        subst found
        rw [block_treeOf, List.take_zero, List.reverse_nil, List.nil_append, before,
          cut.blankBefore_eq]
    | succ index =>
        have after : noteOf (block :: earlier) = noteAfter (heard blanks note) block := by
          rw [noteOf, before, cut.blankBefore_eq]
        have later := ih (block :: earlier) after index tree found
        rwa [List.map_cons, block_treeOf, List.take_succ_cons, List.reverse_cons, List.append_assoc]

theorem treeOf_parse {text : Text} {row : Int} {index : Nat} {tree : BlockTree}
    (found : (parse text row).members[index]? = some tree) :
    tree = treeOf (heard tree.block.blankBefore
      (noteOf (((parse text row).blocks.take index).reverse))) tree.block := by
  rw [blocks]
  rw [parse_members] at found ⊢
  have tree_eq := treeOf_members none _ _ _ [] rfl index tree found
  rwa [List.append_nil] at tree_eq

end Outline

namespace Forest

open Outline

variable {forest before after : Forest} {content : ContentId} {id : BlockId} {index : Nat}

/-! ## Planted blocks -/

/-- Some blocks of a forest are the roots of trees, and those are open whose tree is. -/
def Shows (forest : Forest) (ids : List BlockId) (trees : List BlockTree) : Prop :=
  ids.map (fun id => (forest.block id, (forest.entry id).nested.isSome)) =
    trees.map fun tree => (tree.block, tree.isOpen)

theorem shows_plantTree (has : forest.HasContent content) (tree : BlockTree) :
    ((forest.plantTree content tree).content content).members =
        forest.members content ++ [forest.nextBlock] ∧
      (forest.plantTree content tree).HasBlock forest.nextBlock ∧
      (forest.plantTree content tree).Shows [forest.nextBlock] [tree] := by
  cases tree with
  | leaf block =>
      rw [plantTree_leaf, content_withBlock has, hasBlock_withBlock, Shows, List.map_singleton,
        Forest.block, entry_withBlock]
      exact ⟨rfl, .inr rfl, rfl⟩
  | branch block members =>
      rw [plantTree_branch]
      have grows := growsIn_plantTrees members forest.nextContent (forest.withBranch content block)
      have hasBranch : (forest.withBranch content block).HasBlock forest.nextBlock :=
        hasBlock_withBranch.mpr (.inr rfl)
      have different : content ≠ forest.nextContent := by
        rintro rfl
        exact nextContent_fresh has
      rw [grows.content_eq content (hasContent_withBranch.mpr (.inl has)) different,
        content_withBranch has, Shows, List.map_singleton, Forest.block, grows.entry_eq _ hasBranch,
        entry_withBranch]
      exact ⟨rfl, grows.hasBlock _ hasBranch, rfl⟩

theorem shows_plantTrees (has : forest.HasContent content) (trees : List BlockTree) :
    ∃ ids, (forest.plantTrees content trees).members content = forest.members content ++ ids ∧
      (forest.plantTrees content trees).Shows ids trees := by
  induction trees generalizing forest with
  | nil =>
      rw [plantTrees]
      exact ⟨[], (List.append_nil _).symm, rfl⟩
  | cons tree trees ih =>
      rw [plantTrees]
      obtain ⟨headMembers, hasHead, headShows⟩ := shows_plantTree has tree
      have hasAfter := (growsIn_plantTree tree content forest).hasContent content has
      obtain ⟨ids, restMembers, restShows⟩ := ih hasAfter
      refine ⟨forest.nextBlock :: ids, ?_, ?_⟩
      · rw [restMembers, Forest.members, headMembers, List.append_assoc]
        rfl
      · have kept := (growsIn_plantTrees trees content _).entry_eq _ hasHead
        rw [Shows, List.map_cons, Forest.block, kept]
        rw [Shows] at restShows
        exact congrArg₂ _ (List.singleton_inj.mp headShows) restShows

/-! ## Neighbours by index -/

/-- No list of different blocks is longer than there are blocks. -/
theorem length_le_of_nodup {ids : List BlockId} (distinct : ids.Nodup)
    (known : ∀ id ∈ ids, forest.HasBlock id) : ids.length ≤ forest.entries.size := by
  have distinctIndices : (ids.map BlockId.index).Nodup :=
    distinct.map fun _ _ same => congrArg BlockId.mk same
  have bounded : ids.map BlockId.index ⊆ List.range forest.entries.size := by
    intro index found
    obtain ⟨id, member, rfl⟩ := List.mem_map.mp found
    exact List.mem_range.mpr (known id member)
  simpa using (distinctIndices.subperm bounded).length_le

theorem Indexed.length_members_le (indexed : forest.Indexed content) :
    (forest.members content).length ≤ forest.entries.size :=
  length_le_of_nodup indexed.nodup fun _ => indexed.hasBlock

theorem Placed.length_members_le (placed : forest.Placed) (content : ContentId) :
    (forest.members content).length ≤ forest.entries.size :=
  (placed.indexed content).length_members_le

/-- On a level that asks only for the later of two neighbours, what is reached forward is the rest of
the content up to the first block that the level does not link. -/
theorem walkFrom_forward (placed : forest.Placed) {level : Level} {test : Block → Bool}
    (linked_eq : ∀ before after, level.linked before after = test after) {fuel : Nat}
    (atIndex : (forest.members content)[index]? = some id)
    (enough : (forest.members content).length ≤ index + 1 + fuel) :
    forest.walkFrom level .forward fuel id =
      ((forest.members content).drop (index + 1)).takeWhile fun other => test (forest.block other) := by
  induction fuel generalizing index id with
  | zero => rw [walkFrom, List.drop_eq_nil_of_le enough, List.takeWhile_nil]
  | succ fuel ih =>
      rw [walkFrom, step?, placed.sibling?_eq atIndex]
      cases next : (forest.members content)[index + 1]? with
      | none => rw [List.drop_eq_nil_of_le (List.getElem?_eq_none_iff.mp next), List.takeWhile_nil]
      | some other =>
          rw [← List.getElem_cons_drop (List.getElem?_eq_some_iff.mp next).1,
            (List.getElem?_eq_some_iff.mp next).2, List.takeWhile_cons, ← ih next (by omega)]
          simp only [linked_eq]
          cases test (forest.block other) <;> rfl

/-- What is reached forward on the first level is the rest of the content. -/
theorem walk_forward (placed : forest.Placed)
    (atIndex : (forest.members content)[index]? = some id) :
    forest.walk .all .forward id = (forest.members content).drop (index + 1) := by
  have short := placed.length_members_le content
  rw [walk, walkFrom_forward placed (fun _ _ => rfl) atIndex (by omega)]
  exact List.takeWhile_eq_self_iff.mpr fun _ _ => rfl

/-- What follows a block depends on the blocks of its content only. -/
theorem next?_eq_of_members_eq (placed : before.Placed) (placedAfter : after.Placed)
    (members_eq : after.members content = before.members content)
    (block_eq : ∀ id ∈ before.members content, after.block id = before.block id)
    (member : id ∈ before.members content) (kinds : Option (List BlockKind)) :
    after.next? .all .forward kinds id = before.next? .all .forward kinds id := by
  obtain ⟨index, atIndex⟩ := List.mem_iff_getElem?.mp member
  have atAfter : (after.members content)[index]? = some id := by rw [members_eq, atIndex]
  rw [next?, walk_forward placedAfter atAfter, members_eq, next?, walk_forward placed atIndex]
  apply List.find?_congr
  intro other rest
  cases kinds with
  | none => rfl
  | some kinds => rw [hasKind, hasKind, block_eq other (List.mem_of_mem_drop rest)]

theorem sibling?_backward_eq (placed : forest.Placed)
    (atIndex : (forest.members content)[index + 1]? = some id) :
    forest.sibling? .backward id = (forest.members content)[index]? := by
  rw [sibling?, placed.place_of_member atIndex]

theorem hasKind_commentKinds : forest.hasKind commentKinds id = (forest.block id).isComment := by
  simp only [hasKind, commentKinds, Block.isComment]
  cases (forest.block id).kind <;> rfl

/-- The comment that speaks for a block, looked up among the blocks before it, which are given nearest
first. -/
def speaking (forest : Forest) : BlockId → List BlockId → Option BlockId
  | _, [] => none
  | id, before :: earlier =>
    if (forest.block id).blankBefore = 0 then
      if (forest.block before).isComment then some before else forest.speaking before earlier
    else none

theorem find?_walkFrom_backward (placed : forest.Placed) {fuel : Nat}
    (atIndex : (forest.members content)[index]? = some id) (enough : index ≤ fuel) :
    (forest.walkFrom .adjacent .backward fuel id).find? (forest.hasKind commentKinds) =
      forest.speaking id ((forest.members content).take index).reverse := by
  -- The look-up goes from block to block toward the start, and `speaking` recurses the same way.
  induction index generalizing id fuel with
  | zero =>
      rw [List.take_zero, List.reverse_nil, speaking]
      cases fuel with
      | zero => rfl
      | succ fuel =>
          rw [walkFrom, step?, sibling?, placed.place_of_member atIndex]
          rfl
  | succ index ih =>
      obtain ⟨fuel, rfl⟩ : ∃ smaller, fuel = smaller + 1 := ⟨fuel - 1, by omega⟩
      have enoughLeft : index ≤ fuel := Nat.le_of_succ_le_succ enough
      have inside := (List.getElem?_eq_some_iff.mp atIndex).1
      obtain ⟨previous, atPrevious⟩ : ∃ previous, (forest.members content)[index]? = some previous :=
        ⟨_, List.getElem?_eq_getElem (by omega)⟩
      have before : ((forest.members content).take (index + 1)).reverse =
          previous :: ((forest.members content).take index).reverse := by
        rw [List.take_add_one, atPrevious]
        simp
      rw [before, speaking, walkFrom, step?, sibling?_backward_eq placed atIndex, atPrevious]
      by_cases blank : (forest.block id).blankBefore = 0
      · have linked : Level.adjacent.linked (forest.block previous) (forest.block id) := by
          simp [Level.linked, blank]
        simp only [linked, if_true]
        rw [if_pos blank, List.find?_cons, hasKind_commentKinds]
        cases isComment : (forest.block previous).isComment with
        | true => rfl
        | false => exact ih atPrevious enoughLeft
      · simp [Level.linked, blank]

theorem note?_eq_speaking (placed : forest.Placed)
    (atIndex : (forest.members content)[index]? = some id) :
    forest.note? id = forest.speaking id ((forest.members content).take index).reverse := by
  have short := placed.length_members_le content
  have inside := (List.getElem?_eq_some_iff.mp atIndex).1
  exact find?_walkFrom_backward placed atIndex (by omega)

theorem map_speaking (id : BlockId) (earlier : List BlockId) :
    (forest.speaking id earlier).map forest.block =
      heard (forest.block id).blankBefore (noteOf (earlier.map forest.block)) := by
  induction earlier generalizing id with
  | nil => rw [speaking, List.map_nil, noteOf, heard_none, Option.map_none]
  | cons before earlier ih =>
      rw [speaking, List.map_cons, noteOf, heard]
      split
      · rw [noteAfter, ← ih before]
        split <;> rfl
      · rfl

/-- The comment that is looked up backward is the one that is carried along forward. -/
theorem note?_eq (placed : forest.Placed)
    (atIndex : (forest.members content)[index]? = some id) :
    (forest.note? id).map forest.block =
      heard (forest.block id).blankBefore
        (noteOf (((forest.members content).map forest.block).take index).reverse) := by
  rw [note?_eq_speaking placed atIndex, map_speaking, List.map_reverse, List.map_take]

/-! ## Blocks that parsing has opened -/

/-- When the blocks of a text have just been planted, those functions and assigned functions are open
for which a comment speaks that has a directive `parse`. -/
theorem Shows.isSome_nested_iff {text : Text} {row : Int}
    (shows : forest.Shows (forest.members content) (Outline.parse text row).members)
    (placed : forest.Placed) (member : id ∈ forest.members content)
    (kind : (forest.block id).kind = .functionDecl ∨ (forest.block id).kind = .assignment)
    (body : (forest.block id).body?.isSome) :
    (forest.entry id).nested.isSome ↔ ∃ comment, forest.note? id = some comment ∧
      ∃ directive ∈ (forest.block comment).directives, directive.verb = "parse".toList := by
  obtain ⟨index, atIndex⟩ := List.mem_iff_getElem?.mp member
  have blocks_eq : (forest.members content).map forest.block = (Outline.parse text row).blocks := by
    have firsts := congrArg (List.map Prod.fst) shows
    rwa [List.map_map, List.map_map] at firsts
  have atPair := congrArg (fun pairs => pairs[index]?) shows
  simp only [List.getElem?_map, atIndex, Option.map_some] at atPair
  obtain ⟨tree, atTree, pair_eq⟩ := Option.map_eq_some_iff.mp atPair.symm
  obtain ⟨block_eq, open_eq⟩ := Prod.mk.inj pair_eq
  have tree_eq := Outline.treeOf_parse atTree
  rw [block_eq, ← blocks_eq, ← note?_eq placed atIndex] at tree_eq
  rw [← open_eq, tree_eq, isOpen_treeOf, body, Bool.and_true, opensBody_iff kind body]
  simp only [Option.map_eq_some_iff]
  constructor
  · rintro ⟨_, ⟨comment, speaks, rfl⟩, asks⟩
    exact ⟨comment, speaks, asks⟩
  · rintro ⟨comment, speaks, asks⟩
    exact ⟨_, ⟨comment, speaks, rfl⟩, asks⟩

end Forest

end Docweave
