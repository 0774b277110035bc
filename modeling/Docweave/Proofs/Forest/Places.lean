import Mathlib.Data.List.Nodup
import Docweave.Forest.Link
import Docweave.Proofs.Forest.Change

/-!
# Places and links

A block stores its place and a content its members.  The two say the same in every forest
that is built by adding, appending, loading, truncating and opening, where a block is
only appended while it has no place.  Links between neighbours are computed from the
places, so they are the same read in either direction.
-/

namespace Docweave

open Text

namespace Forest

/-- Blocks and contents agree: a block is a member of a content at an index exactly when that is its
place. -/
def Placed (forest : Forest) : Prop :=
  ∀ content index id, (forest.members content)[index]? = some id ↔
    (forest.entry id).place = some ⟨content, index⟩

/-- Every member of a content has the content and its index in it for its place. -/
def Indexed (forest : Forest) (content : ContentId) : Prop :=
  ∀ index id, (forest.members content)[index]? = some id →
    (forest.entry id).place = some ⟨content, index⟩

namespace Indexed

variable {forest : Forest} {content : ContentId} {id : BlockId}

theorem hasBlock (indexed : forest.Indexed content) (member : id ∈ forest.members content) :
    forest.HasBlock id := by
  obtain ⟨index, found⟩ := List.mem_iff_getElem?.mp member
  exact hasBlock_of_eq_some Entry.place rfl (indexed index id found)

theorem nodup (indexed : forest.Indexed content) : (forest.members content).Nodup := by
  rw [List.nodup_iff_getElem?_ne_getElem?]
  intro index other before short same
  have found := List.getElem?_eq_getElem short
  have places := (indexed _ _ (same.trans found)).symm.trans (indexed _ _ found)
  cases places
  exact Nat.lt_irrefl _ before

end Indexed

namespace Placed

variable {forest after : Forest} {content : ContentId} {id : BlockId} {index : Nat}

theorem empty : Placed {} := by
  intro content index id
  simp [members, Forest.content, entry, default, instInhabitedContent.default,
    instInhabitedEntry.default]

theorem place_of_member (placed : forest.Placed)
    (member : (forest.members content)[index]? = some id) :
    (forest.entry id).place = some ⟨content, index⟩ :=
  (placed content index id).mp member

theorem indexed (placed : forest.Placed) (content : ContentId) : forest.Indexed content :=
  fun _ _ => placed.place_of_member

theorem hasBlock (placed : forest.Placed) (member : id ∈ forest.members content) :
    forest.HasBlock id :=
  (placed.indexed content).hasBlock member

theorem hasContent (placed : forest.Placed) {place : Place}
    (atPlace : (forest.entry id).place = some place) : forest.HasContent place.content := by
  apply Decidable.byContradiction
  intro missing
  have member := (placed place.content place.index id).mpr atPlace
  rw [members, content_of_not_hasContent missing] at member
  cases member

theorem hasContent_of_member (placed : forest.Placed) (member : id ∈ forest.members content) :
    forest.HasContent content := by
  obtain ⟨index, found⟩ := List.mem_iff_getElem?.mp member
  exact placed.hasContent (placed.place_of_member found)

theorem nodup (placed : forest.Placed) (content : ContentId) : (forest.members content).Nodup :=
  (placed.indexed content).nodup

theorem sibling?_eq (placed : forest.Placed) (atIndex : (forest.members content)[index]? = some id) :
    forest.sibling? .forward id = (forest.members content)[index + 1]? := by
  rw [sibling?, placed.place_of_member atIndex]

/-- Only the places and the members count. -/
theorem congr (placed : forest.Placed)
    (places : ∀ id, (after.entry id).place = (forest.entry id).place)
    (members : ∀ content, after.members content = forest.members content) : after.Placed := by
  intro content index id
  rw [places, members]
  exact placed content index id

/-! ## Steps -/

theorem newBlock (placed : forest.Placed) (block : Block) : (newBlock block forest).1.Placed := by
  apply placed.congr
  · intro id
    by_cases has : forest.HasBlock id
    · rw [entry_newBlock_of_has has]
    · rw [entry_of_not_hasBlock has]
      by_cases same : id = forest.nextBlock
      · rw [same, entry_newBlock_self]
        rfl
      · rw [entry_of_not_hasBlock (by simp [hasBlock_newBlock, has, same])]
  · intro content
    rfl

theorem newContent (placed : forest.Placed) {record : Content} (empty : record.members = []) :
    (newContent record forest).1.Placed := by
  apply placed.congr
  · intro id
    rfl
  · intro content
    rw [members, members]
    by_cases has : forest.HasContent content
    · rw [content_newContent_of_has has]
    · rw [content_of_not_hasContent has]
      by_cases same : content = forest.nextContent
      · rw [same, content_newContent_self, empty]
        rfl
      · rw [content_of_not_hasContent (by simp [hasContent_newContent, has, same])]

theorem modifyEntry (placed : forest.Placed) {change : Entry → Entry}
    (kept : ∀ entry, (change entry).place = entry.place) : (forest.modifyEntry id change).Placed :=
  placed.congr (fun _ => view_modifyEntry Entry.place kept) (fun _ => rfl)

/-- A block without a place may be put at the end of a content. -/
theorem append (placed : forest.Placed) (hasContent : forest.HasContent content)
    (hasBlock : forest.HasBlock id) (free : (forest.entry id).place = none) :
    (forest.append content id).Placed := by
  intro other index member
  have old := placed other index member
  rw [members]
  by_cases sameBlock : member = id
  · subst sameBlock
    have absent : (forest.members other)[index]? ≠ some member := by
      rw [Ne, old, free]
      exact nofun
    rw [entry_append_self hasBlock]
    by_cases sameContent : other = content
    · subst sameContent
      rw [content_append_self hasContent]
      grind
    · rw [content_append_of_ne sameContent]
      exact iff_of_false absent (by simp [Ne.symm sameContent])
  · rw [entry_append_of_ne sameBlock, ← old]
    by_cases sameContent : other = content
    · subst sameContent
      rw [content_append_self hasContent]
      grind
    · rw [content_append_of_ne sameContent]
      rfl

theorem mem_drop_iff (placed : forest.Placed) (length : Nat) :
    id ∈ (forest.members content).drop length ↔
      ∃ index, length ≤ index ∧ (forest.entry id).place = some ⟨content, index⟩ := by
  rw [List.mem_iff_getElem?]
  simp only [List.getElem?_drop]
  constructor
  · rintro ⟨offset, found⟩
    exact ⟨length + offset, Nat.le_add_right _ _, placed.place_of_member found⟩
  · rintro ⟨index, late, place⟩
    refine ⟨index - length, ?_⟩
    rw [Nat.add_sub_cancel' late, placed content index id, place]

/-- The members of a content from some index on may be taken out of it. -/
theorem detachFrom (placed : forest.Placed) (has : forest.HasContent content) (length : Nat)
    {change : Content → Content}
    (kept : (change (forest.content content)).members = (forest.members content).take length) :
    ((((forest.members content).drop length).foldl detach forest).modifyContent content change).Placed := by
  intro other index member
  have hasAfter : (((forest.members content).drop length).foldl detach forest).HasContent content := by
    rwa [HasContent, contents_detachAll]
  have sameContent : ∀ other, (((forest.members content).drop length).foldl detach forest).content other =
      forest.content other := by
    intro other
    rw [Forest.content, contents_detachAll, Forest.content]
  -- A member is cut off exactly when it stands in this content, too late.
  have uncut : (forest.members other)[index]? = some member →
      (member ∉ (forest.members content).drop length ↔ (other = content → index < length)) := by
    intro found
    rw [placed.mem_drop_iff, placed.place_of_member found]
    grind
  rw [entry_modifyContent, place_detachAll_iff, ← placed other index member, members]
  by_cases same : other = content
  · subst same
    rw [content_modifyContent_self hasAfter, sameContent, kept, List.getElem?_take]
    grind
  · rw [content_modifyContent_of_ne same, sameContent]
    exact ⟨fun found => ⟨found, (uncut found).mpr fun equal => absurd equal same⟩, And.left⟩

theorem truncate (placed : forest.Placed) (has : forest.HasContent content) (length : Int) :
    (forest.truncate content length).Placed := by
  rw [Forest.truncate]
  split
  · exact placed
  · exact placed.detachFrom has (clampOffset (forest.members content).length length) rfl

/-! ## Planting -/

theorem withBlock (placed : forest.Placed) (has : forest.HasContent content) (block : Block) :
    (forest.withBlock content block).Placed := by
  apply (placed.newBlock block).append
  · exact has
  · rw [hasBlock_newBlock]
    exact .inr rfl
  · rw [entry_newBlock_self]

theorem withBranch (placed : forest.Placed) (has : forest.HasContent content) (block : Block) :
    (forest.withBranch content block).Placed :=
  ((placed.withBlock has block).newContent rfl).modifyEntry fun _ => rfl

mutual

theorem plantTree (tree : BlockTree) {content : ContentId} {forest : Forest}
    (placed : forest.Placed) (has : forest.HasContent content) :
    (forest.plantTree content tree).Placed := by
  cases tree with
  | leaf block =>
      rw [plantTree_leaf]
      exact placed.withBlock has block
  | branch block members =>
      rw [plantTree_branch]
      apply plantTrees members (placed.withBranch has block)
      exact hasContent_withBranch.mpr (.inr rfl)

theorem plantTrees (trees : List BlockTree) {content : ContentId} {forest : Forest}
    (placed : forest.Placed) (has : forest.HasContent content) :
    (forest.plantTrees content trees).Placed := by
  cases trees with
  | nil =>
      rw [Forest.plantTrees]
      exact placed
  | cons tree trees =>
      rw [Forest.plantTrees]
      apply plantTrees trees (plantTree tree placed has)
      exact (growsIn_plantTree tree content forest).hasContent content has

end

/-- A content may be loaded anew. -/
theorem load (placed : forest.Placed) (has : forest.HasContent content) (text : Text) (row : Int) :
    (forest.load content text row).Placed := by
  rw [Forest.load]
  apply plantTrees
  · exact placed.detachFrom has 0 rfl
  · rw [hasContent_modifyContent, HasContent, contents_detachAll]
    exact has

theorem openBody (placed : forest.Placed) (id : BlockId) : (forest.openBody id).Placed := by
  rw [Forest.openBody]
  split
  · apply modifyEntry
    · apply load
      · exact placed.newContent rfl
      · exact hasContent_newContent.mpr (.inr rfl)
    · intro entry
      rfl
  · exact placed

end Placed

/-! ## Removed blocks -/

section Removed

variable {forest : Forest} {content : ContentId} {id : BlockId}

theorem parent?_of_place_none (free : (forest.entry id).place = none) :
    forest.parent? id = none ∧ forest.index id = -1 := by
  rw [parent?, index, free]
  exact ⟨rfl, rfl⟩

/-- A loaded content keeps none of its blocks. -/
theorem place_load (placed : forest.Placed) (member : id ∈ forest.members content) (text : Text)
    (row : Int) : ((forest.load content text row).entry id).place = none := by
  rw [load, (growsIn_plantTrees _ content _).entry_eq id, entry_modifyContent, entry_detachAll,
    if_pos member]
  rw [hasBlock_modifyContent, HasBlock, entries_size_detachAll]
  exact placed.hasBlock member

theorem clampOffset_of_le {length : Nat} {offset : Int} (long : length ≤ offset) :
    clampOffset length offset = length := by
  rw [clampOffset]
  split <;> omega

/-- The blocks before the offset stay, in order. -/
theorem members_truncate (has : forest.HasContent content) (length : Int) :
    (forest.truncate content length).members content =
      takeSigned length (forest.members content) := by
  rw [truncate]
  split
  · rename_i long
    rw [takeSigned, clampOffset_of_le long, List.take_length]
  · rw [members, content_modifyContent_self]
    rwa [HasContent, contents_detachAll]

/-- The blocks from the offset on have no place any more. -/
theorem place_truncate {length : Int} (removed : id ∈ dropSigned length (forest.members content)) :
    ((forest.truncate content length).entry id).place = none := by
  rw [truncate]
  split
  · rename_i long
    rw [dropSigned, clampOffset_of_le long, List.drop_length] at removed
    cases removed
  · rw [entry_modifyContent, entry_detachAll, if_pos removed]

end Removed

/-! ## Neighbours -/

/-- One block stands right before another. -/
def Precedes (forest : Forest) (before after : BlockId) : Prop :=
  ∃ content index, (forest.members content)[index]? = some before ∧
    (forest.members content)[index + 1]? = some after

section Neighbours

variable {forest : Forest} {level : Level} {direction : Direction} {before after : BlockId}

theorem sibling?_forward_iff (placed : forest.Placed) :
    forest.sibling? .forward before = some after ↔ forest.Precedes before after := by
  rw [sibling?]
  constructor
  · intro found
    split at found
    · cases found
    · rename_i place atPlace
      exact ⟨place.content, place.index, (placed _ _ _).mpr atPlace, found⟩
  · rintro ⟨content, index, atIndex, next⟩
    rw [placed.place_of_member atIndex]
    exact next

theorem sibling?_backward_iff (placed : forest.Placed) :
    forest.sibling? .backward after = some before ↔ forest.Precedes before after := by
  rw [sibling?]
  constructor
  · intro found
    split at found
    · cases found
    · rename_i place atPlace
      obtain ⟨content, index⟩ := place
      cases index with
      | zero => cases found
      | succ index => exact ⟨content, index, found, (placed _ _ _).mpr atPlace⟩
  · rintro ⟨content, index, atIndex, next⟩
    rw [placed.place_of_member next]
    exact atIndex

theorem step?_forward_iff (placed : forest.Placed) :
    forest.step? level .forward before = some after ↔
      forest.Precedes before after ∧ level.linked (forest.block before) (forest.block after) := by
  rw [← sibling?_forward_iff placed, step?]
  grind

theorem step?_backward_iff (placed : forest.Placed) :
    forest.step? level .backward after = some before ↔
      forest.Precedes before after ∧ level.linked (forest.block before) (forest.block after) := by
  rw [← sibling?_backward_iff placed, step?]
  grind

/-- Without a choice of kinds the next block is the linked neighbour. -/
theorem next?_eq_step? (forest : Forest) (level : Level) (direction : Direction) (id : BlockId) :
    forest.next? level direction none id = forest.step? level direction id := by
  rw [next?, walk]
  cases size : forest.entries.size with
  | zero =>
      have missing : ¬ forest.HasBlock id := by
        rw [HasBlock, size]
        exact Nat.not_lt_zero _
      rw [step?, sibling?, entry_of_not_hasBlock missing]
      rfl
  | succ fuel =>
      rw [walkFrom]
      cases forest.step? level direction id with
      | none => rfl
      | some other => rfl

end Neighbours

end Forest

/-! ## Runs of edits -/

/-- A change to the blocks of a forest. -/
inductive Edit where
  | addBlock (block : Block)
  | addContent (row : Int) (owner : Option BlockId)
  | load (content : ContentId) (text : Text) (row : Int)
  | truncate (content : ContentId) (length : Int)
  | append (content : ContentId) (id : BlockId)
  | openBody (id : BlockId)

namespace Edit

open Forest

/-- Make one change. -/
def apply : Edit → Forest → Forest
  | .addBlock block, forest => (newBlock block forest).1
  | .addContent row owner, forest => (newContent { row, owner } forest).1
  | .load content text row, forest => forest.load content text row
  | .truncate content length, forest => forest.truncate content length
  | .append content id, forest => forest.append content id
  | .openBody id, forest => forest.openBody id

/-- A change names contents and blocks of the forest, and a block is appended only while it has no
place. -/
def Allowed : Edit → Forest → Prop
  | .addBlock _, _ | .addContent _ _, _ | .openBody _, _ => True
  | .load content _ _, forest | .truncate content _, forest => forest.HasContent content
  | .append content id, forest =>
    forest.HasContent content ∧ forest.HasBlock id ∧ (forest.entry id).place = none

instance (edit : Edit) (forest : Forest) : Decidable (edit.Allowed forest) :=
  match edit with
  | .addBlock _ | .addContent _ _ | .openBody _ => inferInstanceAs (Decidable True)
  | .load content _ _ | .truncate content _ =>
    inferInstanceAs (Decidable (forest.HasContent content))
  | .append content id => inferInstanceAs (Decidable
      (forest.HasContent content ∧ forest.HasBlock id ∧ (forest.entry id).place = none))

/-- Make changes one after the other. -/
def applyAll : List Edit → Forest → Forest
  | [], forest => forest
  | edit :: edits, forest => applyAll edits (edit.apply forest)

/-- Every change of a sequence is allowed at the moment it is made. -/
def AllAllowed : List Edit → Forest → Prop
  | [], _ => True
  | edit :: edits, forest => edit.Allowed forest ∧ AllAllowed edits (edit.apply forest)

instance decideAllAllowed : (edits : List Edit) → (forest : Forest) →
    Decidable (AllAllowed edits forest)
  | [], _ => inferInstanceAs (Decidable True)
  | edit :: edits, forest =>
    have := decideAllAllowed edits (edit.apply forest)
    inferInstanceAs (Decidable (edit.Allowed forest ∧ AllAllowed edits (edit.apply forest)))

variable {forest : Forest}

theorem placed_apply {edit : Edit} (allowed : edit.Allowed forest) (placed : forest.Placed) :
    (edit.apply forest).Placed := by
  cases edit with
  | addBlock block => exact placed.newBlock block
  | addContent row owner => exact placed.newContent rfl
  | load content text row => exact placed.load allowed text row
  | truncate content length => exact placed.truncate allowed length
  | append content id => exact placed.append allowed.1 allowed.2.1 allowed.2.2
  | openBody id => exact placed.openBody id

theorem placed_applyAll {edits : List Edit} (allowed : AllAllowed edits forest)
    (placed : forest.Placed) : (applyAll edits forest).Placed := by
  induction edits generalizing forest with
  | nil => exact placed
  | cons edit edits ih => exact ih allowed.2 (placed_apply allowed.1 placed)

/-- After any sequence of changes blocks know their places, a block that a content lost has
none, and links read the same in either direction, on every level along neighbours only. -/
theorem places_and_links (edits : List Edit) (allowed : AllAllowed edits {}) :
    let forest := applyAll edits {}
    (∀ content (index : Nat) id, (forest.members content)[index]? = some id →
      forest.parent? id = some content ∧ forest.index id = index) ∧
    (∀ id, (∀ content, id ∉ forest.members content) →
      forest.parent? id = none ∧ forest.index id = -1) ∧
    (∀ content text row, ∀ id ∈ forest.members content,
      (forest.load content text row).parent? id = none ∧
      (forest.load content text row).index id = -1) ∧
    (∀ content length, forest.HasContent content →
      (forest.truncate content length).members content =
        takeSigned length (forest.members content) ∧
      ∀ id ∈ dropSigned length (forest.members content),
        (forest.truncate content length).parent? id = none ∧
        (forest.truncate content length).index id = -1) ∧
    ∀ level before after,
      (forest.next? level .forward none before = some after ↔
        forest.next? level .backward none after = some before) ∧
      (forest.next? level .forward none before = some after →
        forest.next? .all .forward none before = some after) := by
  have placed := placed_applyAll allowed Placed.empty
  refine ⟨?_, ?_, ?_, ?_, ?_⟩
  · intro content index id member
    rw [parent?, Forest.index, placed.place_of_member member]
    exact ⟨rfl, rfl⟩
  · intro id outside
    apply parent?_of_place_none
    cases atPlace : ((applyAll edits {}).entry id).place with
    | none => rfl
    | some place =>
        have member := (placed place.content place.index id).mpr atPlace
        exact absurd (List.mem_of_getElem? member) (outside place.content)
  · intro content text row id member
    exact parent?_of_place_none (place_load placed member text row)
  · intro content length has
    refine ⟨members_truncate has length, ?_⟩
    intro id removed
    exact parent?_of_place_none (place_truncate removed)
  · intro level before after
    simp only [next?_eq_step?, step?_forward_iff placed, step?_backward_iff placed, true_and]
    rintro ⟨precedes, linked⟩
    exact ⟨precedes, rfl⟩

/-- Two declarations are read, cut off and put back in the other order. -/
theorem places_and_links_swapped :
    let edits : List Edit := [.addContent 1 none, .load ⟨0⟩ "var a\nvar b" 1, .truncate ⟨0⟩ (-2),
      .append ⟨0⟩ ⟨1⟩, .append ⟨0⟩ ⟨0⟩]
    AllAllowed edits {} ∧ (applyAll edits {}).parent? ⟨0⟩ = some ⟨0⟩ ∧
      (applyAll edits {}).index ⟨0⟩ = 1 ∧
      (applyAll edits {}).next? .adjacent .forward none ⟨1⟩ = some ⟨0⟩ := by
  intro edits
  have allowed : AllAllowed edits {} := by decide
  obtain ⟨positions, -, -, -, links⟩ := places_and_links edits allowed
  obtain ⟨parent, index⟩ := positions ⟨0⟩ 1 ⟨0⟩ (by decide)
  exact ⟨allowed, parent, index, (links .adjacent ⟨1⟩ ⟨0⟩).1.mpr (by decide)⟩

end Edit

end Docweave
