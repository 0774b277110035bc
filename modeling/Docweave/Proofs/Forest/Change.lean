import Docweave.Forest.Basic

/-!
# What a change to a forest leaves alone

Each primitive change touches one entry or one content.  Planting trees makes new
entries and new contents and writes to one content that was there before; every other
entry and content stays as it is.
-/

namespace Docweave.Forest

/-- The block is one of the forest. -/
def HasBlock (forest : Forest) (id : BlockId) : Prop := id.index < forest.entries.size

/-- The content is one of the forest. -/
def HasContent (forest : Forest) (id : ContentId) : Prop := id.index < forest.contents.size

/-- The identity that the next new block gets. -/
def nextBlock (forest : Forest) : BlockId := ⟨forest.entries.size⟩

/-- The identity that the next new content gets. -/
def nextContent (forest : Forest) : ContentId := ⟨forest.contents.size⟩

instance (forest : Forest) (id : BlockId) : Decidable (forest.HasBlock id) :=
  inferInstanceAs (Decidable (_ < _))

instance (forest : Forest) (id : ContentId) : Decidable (forest.HasContent id) :=
  inferInstanceAs (Decidable (_ < _))

section Primitive

variable {forest : Forest} {id other : BlockId} {content inner : ContentId}

theorem entry_of_not_hasBlock (missing : ¬ forest.HasBlock id) : forest.entry id = default := by
  rw [HasBlock, Nat.not_lt] at missing
  rw [entry, Array.getElem?_eq_none missing]
  rfl

/-- What only a block of the forest can have tells that it is one. -/
theorem hasBlock_of_eq_some {α : Type} {value : α} (view : Entry → Option α)
    (unset : view default = none) (found : view (forest.entry id) = some value) :
    forest.HasBlock id := by
  apply Decidable.byContradiction
  intro missing
  rw [entry_of_not_hasBlock missing, unset] at found
  cases found

theorem content_of_not_hasContent (missing : ¬ forest.HasContent content) :
    forest.content content = default := by
  rw [HasContent, Nat.not_lt] at missing
  rw [Forest.content, Array.getElem?_eq_none missing]
  rfl

/-! ## Changing an entry -/

theorem entry_modifyEntry_self {change : Entry → Entry} (has : forest.HasBlock id) :
    (forest.modifyEntry id change).entry id = change (forest.entry id) := by
  rw [HasBlock] at has
  simp [entry, modifyEntry, Array.getElem?_modify, Array.getElem?_eq_getElem has]

theorem entry_modifyEntry_of_ne {change : Entry → Entry} (different : other ≠ id) :
    (forest.modifyEntry id change).entry other = forest.entry other := by
  have indexDifferent : id.index ≠ other.index := by
    intro same
    exact different (by cases id; cases other; simp_all)
  simp [entry, modifyEntry, Array.getElem?_modify, indexDifferent]

@[simp] theorem content_modifyEntry {change : Entry → Entry} :
    (forest.modifyEntry id change).content content = forest.content content := rfl

@[simp] theorem hasBlock_modifyEntry {change : Entry → Entry} :
    (forest.modifyEntry id change).HasBlock other ↔ forest.HasBlock other := by
  simp [HasBlock, modifyEntry]

@[simp] theorem hasContent_modifyEntry {change : Entry → Entry} :
    (forest.modifyEntry id change).HasContent content ↔ forest.HasContent content := Iff.rfl

/-- What a change does not touch in an entry, it does not touch in the forest. -/
theorem view_modifyEntry {α : Type} {change : Entry → Entry} (view : Entry → α)
    (kept : ∀ entry, view (change entry) = view entry) :
    view ((forest.modifyEntry id change).entry other) = view (forest.entry other) := by
  by_cases same : other = id
  · subst same
    by_cases has : forest.HasBlock other
    · rw [entry_modifyEntry_self has, kept]
    · rw [entry_of_not_hasBlock has, entry_of_not_hasBlock (by simpa using has)]
  · rw [entry_modifyEntry_of_ne same]

/-! ## Changing a content -/

theorem content_modifyContent_self {change : Content → Content} (has : forest.HasContent content) :
    (forest.modifyContent content change).content content = change (forest.content content) := by
  rw [HasContent] at has
  simp [Forest.content, modifyContent, Array.getElem?_modify, Array.getElem?_eq_getElem has]

theorem content_modifyContent_of_ne {change : Content → Content} (different : inner ≠ content) :
    (forest.modifyContent content change).content inner = forest.content inner := by
  have indexDifferent : content.index ≠ inner.index := by
    intro same
    exact different (by cases content; cases inner; simp_all)
  simp [Forest.content, modifyContent, Array.getElem?_modify, indexDifferent]

@[simp] theorem entry_modifyContent {change : Content → Content} :
    (forest.modifyContent content change).entry id = forest.entry id := rfl

@[simp] theorem hasBlock_modifyContent {change : Content → Content} :
    (forest.modifyContent content change).HasBlock id ↔ forest.HasBlock id := Iff.rfl

@[simp] theorem hasContent_modifyContent {change : Content → Content} :
    (forest.modifyContent content change).HasContent inner ↔ forest.HasContent inner := by
  simp [HasContent, modifyContent]

/-! ## New blocks and contents -/

variable {block : Block} {record : Content}

theorem entry_newBlock_self : (newBlock block forest).1.entry forest.nextBlock = { block } := by
  simp [newBlock, nextBlock, entry]

theorem entry_newBlock_of_has (has : forest.HasBlock id) :
    (newBlock block forest).1.entry id = forest.entry id := by
  rw [HasBlock] at has
  simp [newBlock, entry, Array.getElem?_push, Nat.ne_of_lt has]

@[simp] theorem content_newBlock :
    (newBlock block forest).1.content content = forest.content content := rfl

theorem hasBlock_newBlock :
    (newBlock block forest).1.HasBlock id ↔ forest.HasBlock id ∨ id = forest.nextBlock := by
  cases id
  simp only [newBlock, nextBlock, HasBlock, Array.size_push, BlockId.mk.injEq]
  omega

theorem nextBlock_fresh : ¬ forest.HasBlock forest.nextBlock := Nat.lt_irrefl _

@[simp] theorem hasContent_newBlock :
    (newBlock block forest).1.HasContent content ↔ forest.HasContent content := Iff.rfl

theorem content_newContent_self :
    (newContent record forest).1.content forest.nextContent = record := by
  simp [newContent, nextContent, Forest.content]

theorem content_newContent_of_has (has : forest.HasContent content) :
    (newContent record forest).1.content content = forest.content content := by
  rw [HasContent] at has
  simp [newContent, Forest.content, Array.getElem?_push, Nat.ne_of_lt has]

@[simp] theorem entry_newContent : (newContent record forest).1.entry id = forest.entry id := rfl

@[simp] theorem hasBlock_newContent :
    (newContent record forest).1.HasBlock id ↔ forest.HasBlock id := Iff.rfl

theorem hasContent_newContent :
    (newContent record forest).1.HasContent content ↔
      forest.HasContent content ∨ content = forest.nextContent := by
  cases content
  simp only [newContent, nextContent, HasContent, Array.size_push, ContentId.mk.injEq]
  omega

theorem nextContent_fresh : ¬ forest.HasContent forest.nextContent := Nat.lt_irrefl _

/-! ## Appending a block -/

theorem entry_append_self (has : forest.HasBlock id) :
    (forest.append content id).entry id =
      { forest.entry id with place := some ⟨content, (forest.members content).length⟩ } :=
  entry_modifyEntry_self has

theorem entry_append_of_ne (different : other ≠ id) :
    (forest.append content id).entry other = forest.entry other :=
  entry_modifyEntry_of_ne different

theorem content_append_self (has : forest.HasContent content) :
    (forest.append content id).content content =
      { forest.content content with members := forest.members content ++ [id] } :=
  content_modifyContent_self has

theorem content_append_of_ne (different : inner ≠ content) :
    (forest.append content id).content inner = forest.content inner :=
  content_modifyContent_of_ne different

@[simp] theorem hasBlock_append :
    (forest.append content id).HasBlock other ↔ forest.HasBlock other := by
  simp [append]

@[simp] theorem hasContent_append :
    (forest.append content id).HasContent inner ↔ forest.HasContent inner := by
  simp [append]

/-! ## Detaching blocks -/

theorem entry_detach :
    (forest.detach id).entry other =
      if other = id then { forest.entry other with place := none } else forest.entry other := by
  split
  · rename_i same
    subst same
    by_cases has : forest.HasBlock other
    · exact entry_modifyEntry_self has
    · rw [entry_of_not_hasBlock has, detach, entry_of_not_hasBlock (by simpa using has)]
      rfl
  · rename_i different
    exact entry_modifyEntry_of_ne different

theorem entry_detachAll (ids : List BlockId) (forest : Forest) (other : BlockId) :
    (ids.foldl detach forest).entry other =
      if other ∈ ids then { forest.entry other with place := none } else forest.entry other := by
  induction ids generalizing forest with
  | nil => simp
  | cons id ids ih =>
      rw [List.foldl_cons, ih, entry_detach]
      by_cases same : other = id <;> simp [same]

theorem place_detachAll_iff {ids : List BlockId} {place : Place} :
    ((ids.foldl detach forest).entry id).place = some place ↔
      (forest.entry id).place = some place ∧ id ∉ ids := by
  rw [entry_detachAll]
  split
  · rename_i detached
    simp [detached]
  · rename_i kept
    simp [kept]

theorem contents_detachAll (ids : List BlockId) (forest : Forest) :
    (ids.foldl detach forest).contents = forest.contents := by
  induction ids generalizing forest with
  | nil => rfl
  | cons id ids ih => exact ih (forest.detach id)

theorem entries_size_detachAll (ids : List BlockId) (forest : Forest) :
    (ids.foldl detach forest).entries.size = forest.entries.size := by
  induction ids generalizing forest with
  | nil => rfl
  | cons id ids ih =>
      rw [List.foldl_cons, ih]
      simp [detach, modifyEntry]

end Primitive

/-! ## Planting -/

/-- Between two forests blocks and contents were added, and of what was there only one content has
changed. -/
structure GrowsIn (content : ContentId) (before after : Forest) : Prop where
  hasBlock : ∀ id, before.HasBlock id → after.HasBlock id
  hasContent : ∀ id, before.HasContent id → after.HasContent id
  entry_eq : ∀ id, before.HasBlock id → after.entry id = before.entry id
  content_eq : ∀ id, before.HasContent id → id ≠ content → after.content id = before.content id

namespace GrowsIn

variable {content inner : ContentId} {first second third : Forest}

theorem refl (forest : Forest) : GrowsIn content forest forest :=
  ⟨fun _ has => has, fun _ has => has, fun _ _ => rfl, fun _ _ _ => rfl⟩

/-- Growth in a content that is new to the first forest does not count. -/
theorem trans (early : GrowsIn content first second) (late : GrowsIn inner second third)
    (outside : inner = content ∨ ¬ first.HasContent inner) : GrowsIn content first third where
  hasBlock id has := late.hasBlock id (early.hasBlock id has)
  hasContent id has := late.hasContent id (early.hasContent id has)
  entry_eq id has := (late.entry_eq id (early.hasBlock id has)).trans (early.entry_eq id has)
  content_eq id has different := by
    have other : id ≠ inner := by
      rintro rfl
      exact outside.elim different (fun missing => missing has)
    have kept := late.content_eq id (early.hasContent id has) other
    exact kept.trans (early.content_eq id has different)

end GrowsIn

section Planting

variable {forest first second : Forest} {content inner : ContentId} {block : Block} {id : BlockId}
variable {record : Content}

/-- A forest with one more block, at the end of a content. -/
def withBlock (content : ContentId) (block : Block) (forest : Forest) : Forest :=
  (newBlock block forest).1.append content forest.nextBlock

/-- A forest in which a content is noted as the body of a block. -/
def withNested (id : BlockId) (inner : ContentId) (forest : Forest) : Forest :=
  forest.modifyEntry id fun entry => { entry with nested := some inner }

/-- A forest with one more content, for the body of a block. -/
def withInner (id : BlockId) (record : Content) (forest : Forest) : Forest :=
  (newContent record forest).1.withNested id forest.nextContent

theorem plantTree_leaf :
    plantTree content (.leaf block) forest = withBlock content block forest := by
  rw [plantTree]
  rfl

/-- A forest with one more block, at the end of a content, and an empty content for its body. -/
def withBranch (content : ContentId) (block : Block) (forest : Forest) : Forest :=
  let body := block.body?.getD default
  withInner forest.nextBlock { text := body.text, row := body.row, owner := some forest.nextBlock }
    (withBlock content block forest)

theorem nextContent_withBlock (content : ContentId) (block : Block) (forest : Forest) :
    (withBlock content block forest).nextContent = forest.nextContent := by
  simp [nextContent, withBlock, append, modifyContent, modifyEntry, newBlock]

theorem plantTree_branch {members : List BlockTree} :
    plantTree content (.branch block members) forest =
      plantTrees forest.nextContent members (withBranch content block forest) := by
  rw [plantTree, ← nextContent_withBlock content block]
  rfl

theorem growsIn_withBlock : GrowsIn content forest (withBlock content block forest) where
  hasBlock id has := by
    rw [withBlock, hasBlock_append, hasBlock_newBlock]
    exact .inl has
  hasContent id has := by simpa [withBlock] using has
  entry_eq id has := by
    have different : id ≠ forest.nextBlock := by
      rintro rfl
      exact nextBlock_fresh has
    rw [withBlock, entry_append_of_ne different, entry_newBlock_of_has has]
  content_eq id has different := by
    rw [withBlock, content_append_of_ne different, content_newBlock]

/-- A block that is new may be opened. -/
theorem GrowsIn.withInner (grows : GrowsIn content first second) (fresh : ¬ first.HasBlock id) :
    GrowsIn content first (second.withInner id record) where
  hasBlock other has := by simpa [Forest.withInner, withNested] using grows.hasBlock other has
  hasContent other has := by
    rw [Forest.withInner, withNested, hasContent_modifyEntry, hasContent_newContent]
    exact .inl (grows.hasContent other has)
  entry_eq other has := by
    have different : other ≠ id := by
      rintro rfl
      exact fresh has
    rw [Forest.withInner, withNested, entry_modifyEntry_of_ne different, entry_newContent,
      grows.entry_eq other has]
  content_eq other has different := by
    rw [Forest.withInner, withNested, content_modifyEntry,
      content_newContent_of_has (grows.hasContent other has), grows.content_eq other has different]

theorem growsIn_withBranch : GrowsIn content forest (withBranch content block forest) :=
  growsIn_withBlock.withInner nextBlock_fresh

theorem hasBlock_withBlock :
    (withBlock content block forest).HasBlock id ↔ forest.HasBlock id ∨ id = forest.nextBlock := by
  rw [withBlock, hasBlock_append]
  exact hasBlock_newBlock

theorem entry_withBlock :
    (withBlock content block forest).entry forest.nextBlock =
      { block, place := some ⟨content, (forest.members content).length⟩ } := by
  have has : (newBlock block forest).1.HasBlock forest.nextBlock := hasBlock_newBlock.mpr (.inr rfl)
  rw [withBlock]
  exact (entry_append_self has).trans (by rw [entry_newBlock_self]; rfl)

/-- A new block shows nothing but itself and its place. -/
theorem view_withBlock {α : Type} {block : Block} (view : Entry → α)
    (unset : ∀ block place, view { block, place := some place } = view default) (id : BlockId) :
    view ((withBlock content block forest).entry id) = view (forest.entry id) := by
  by_cases early : forest.HasBlock id
  · rw [growsIn_withBlock.entry_eq id early]
  · rw [entry_of_not_hasBlock early]
    by_cases new : id = forest.nextBlock
    · rw [new, entry_withBlock, unset]
    · rw [entry_of_not_hasBlock]
      rw [hasBlock_withBlock]
      exact fun found => found.elim early new

/-- A block without an open body differs from every one that has one. -/
theorem ne_of_closed {other : BlockId} (closed : (forest.entry id).nested = none)
    (nested : (forest.entry other).nested = some inner) : other ≠ id := by
  rintro rfl
  rw [closed] at nested
  cases nested

theorem content_withBlock (has : forest.HasContent content) :
    (withBlock content block forest).content content =
      { forest.content content with members := forest.members content ++ [forest.nextBlock] } :=
  content_append_self has

theorem hasBlock_withBranch :
    (withBranch content block forest).HasBlock id ↔ forest.HasBlock id ∨ id = forest.nextBlock := by
  rw [withBranch, withInner, withNested, hasBlock_modifyEntry, hasBlock_newContent,
    hasBlock_withBlock]

theorem hasContent_withBranch :
    (withBranch content block forest).HasContent inner ↔
      forest.HasContent inner ∨ inner = forest.nextContent := by
  rw [withBranch, withInner, withNested, hasContent_modifyEntry, hasContent_newContent,
    nextContent_withBlock]
  simp [withBlock]

theorem entry_withBranch :
    (withBranch content block forest).entry forest.nextBlock =
      { block, place := some ⟨content, (forest.members content).length⟩,
               nested := some forest.nextContent } := by
  rw [withBranch, withInner, withNested, entry_modifyEntry_self, entry_newContent, entry_withBlock,
    nextContent_withBlock]
  rw [hasBlock_newContent, hasBlock_withBlock]
  exact .inr rfl

theorem content_withBranch (has : forest.HasContent content) :
    (withBranch content block forest).content content =
      { forest.content content with members := forest.members content ++ [forest.nextBlock] } := by
  rw [withBranch, withInner, withNested, content_modifyEntry, content_newContent_of_has,
    content_withBlock has]
  simpa [withBlock] using has

theorem content_withBranch_inner {body : Body} (found : block.body? = some body) :
    (withBranch content block forest).content forest.nextContent =
      { text := body.text, row := body.row, owner := some forest.nextBlock } := by
  rw [withBranch, withInner, withNested, content_modifyEntry,
    ← nextContent_withBlock content block forest, content_newContent_self, found]
  rfl

mutual

theorem growsIn_plantTree (tree : BlockTree) (content : ContentId) (forest : Forest) :
    GrowsIn content forest (forest.plantTree content tree) := by
  cases tree with
  | leaf block =>
      rw [plantTree_leaf]
      exact growsIn_withBlock
  | branch block members =>
      rw [plantTree_branch]
      have planted := growsIn_plantTrees members forest.nextContent
        (withBranch content block forest)
      exact growsIn_withBranch.trans planted (.inr nextContent_fresh)

theorem growsIn_plantTrees (trees : List BlockTree) (content : ContentId) (forest : Forest) :
    GrowsIn content forest (forest.plantTrees content trees) := by
  cases trees with
  | nil =>
      rw [plantTrees]
      exact .refl forest
  | cons tree trees =>
      rw [plantTrees]
      have head := growsIn_plantTree tree content forest
      exact head.trans (growsIn_plantTrees trees content _) (.inl rfl)

end

end Planting

end Docweave.Forest
