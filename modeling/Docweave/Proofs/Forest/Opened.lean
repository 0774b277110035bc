import Docweave.Proofs.Forest.Places
import Docweave.Proofs.Outline.Blocks

/-!
# Contents that parsing opens

A forest that starts from a text, and in which bodies are opened later in any order,
holds one content for the text and one for each body that is open.  Every content has
the blocks of its own text, in order, and every content but the first belongs to a block
of an older one.
-/

namespace Docweave.Forest

open Text

/-- The content holds the blocks of the body of a block that stands in an older content. -/
structure IsBodyOf (forest : Forest) (inner : ContentId) (id : BlockId) : Prop where
  hasBlock : forest.HasBlock id
  hasContent : forest.HasContent inner
  older : ∃ place, (forest.entry id).place = some place ∧ place.content.index < inner.index
  body : ∃ body, (forest.block id).body? = some body ∧ (forest.content inner).text = body.text ∧
    (forest.content inner).row = body.row
  blocks : (forest.members inner).map forest.block =
    (Outline.parse (forest.content inner).text (forest.content inner).row).blocks

/-- What is known of a block that was read: it stands somewhere, a class is open, and
what is open is its body. -/
structure IsRead (forest : Forest) (id : BlockId) : Prop where
  place : (forest.entry id).place.isSome
  opened : (forest.block id).kind = .classDecl → (forest.entry id).nested.isSome
  nested : ∀ inner, (forest.entry id).nested = some inner → forest.IsBodyOf inner id

/-- Blocks and places of a forest stay, whatever is added. -/
structure Retains (before after : Forest) : Prop where
  hasBlock : ∀ id, before.HasBlock id → after.HasBlock id
  hasContent : ∀ id, before.HasContent id → after.HasContent id
  block_eq : ∀ id, before.HasBlock id → after.block id = before.block id
  place_eq : ∀ id, before.HasBlock id → (after.entry id).place = (before.entry id).place

section Stable

variable {before after forest : Forest} {inner content : ContentId} {id : BlockId}

theorem GrowsIn.retains (grows : GrowsIn content before after) : before.Retains after where
  hasBlock := grows.hasBlock
  hasContent := grows.hasContent
  block_eq id has := by rw [block, block, grows.entry_eq id has]
  place_eq id has := by rw [grows.entry_eq id has]

theorem Retains.members_eq (retains : before.Retains after) {ids : List BlockId}
    (known : ∀ id ∈ ids, before.HasBlock id) : ids.map after.block = ids.map before.block := by
  apply List.map_congr_left
  intro id membership
  exact retains.block_eq id (known id membership)

theorem IsBodyOf.retained (opened : before.IsBodyOf inner id) (placed : before.Placed)
    (retains : before.Retains after) (same : after.content inner = before.content inner) :
    after.IsBodyOf inner id where
  hasBlock := retains.hasBlock id opened.hasBlock
  hasContent := retains.hasContent inner opened.hasContent
  older := by
    rw [retains.place_eq id opened.hasBlock]
    exact opened.older
  body := by
    rw [retains.block_eq id opened.hasBlock, same]
    exact opened.body
  blocks := by
    have known : ∀ id ∈ before.members inner, before.HasBlock id := fun _ => placed.hasBlock
    rw [members, same]
    exact (retains.members_eq known).trans opened.blocks

theorem IsRead.retained (read : before.IsRead id) (placed : before.Placed)
    (retains : before.Retains after) (same : after.entry id = before.entry id)
    (outside : ∀ inner, (before.entry id).nested = some inner → before.HasContent inner →
      after.content inner = before.content inner) : after.IsRead id where
  place := by
    rw [same]
    exact read.place
  opened := by
    rw [block, same]
    exact read.opened
  nested inner found := by
    rw [same] at found
    have opened := read.nested inner found
    exact opened.retained placed retains (outside inner found opened.hasContent)

theorem retains_withNested : forest.Retains (forest.withNested id inner) where
  hasBlock other has := by simpa [withNested] using has
  hasContent other has := by simpa [withNested] using has
  block_eq _ _ := view_modifyEntry Entry.block fun _ => rfl
  place_eq _ _ := view_modifyEntry Entry.place fun _ => rfl

theorem Retains.trans {last : Forest} (early : before.Retains after) (late : after.Retains last) :
    before.Retains last where
  hasBlock id has := late.hasBlock id (early.hasBlock id has)
  hasContent id has := late.hasContent id (early.hasContent id has)
  block_eq id has := (late.block_eq id (early.hasBlock id has)).trans (early.block_eq id has)
  place_eq id has := (late.place_eq id (early.hasBlock id has)).trans (early.place_eq id has)

end Stable

/-! ## Planting -/

/-- The trees were planted at the end of a content, and every body in them was opened. -/
structure Planted (content : ContentId) (trees : List BlockTree) (before after : Forest) :
    Prop where
  grows : GrowsIn content before after
  added : ∃ ids, after.content content =
      { before.content content with members := before.members content ++ ids } ∧
    ids.map after.block = trees.map BlockTree.block
  opened : ∀ inner, after.HasContent inner → ¬ before.HasContent inner →
    ∃ id, after.IsBodyOf inner id
  read : ∀ id, after.HasBlock id → ¬ before.HasBlock id → after.IsRead id
  fresh : ∀ id inner, after.HasBlock id → ¬ before.HasBlock id →
    (after.entry id).nested = some inner → ¬ before.HasContent inner

namespace Planted

variable {first second third forest : Forest} {content : ContentId} {tree : BlockTree}
variable {trees : List BlockTree} {block : Block}

theorem nil (forest : Forest) : Planted content [] forest forest where
  grows := .refl forest
  added := ⟨[], by simp [members], rfl⟩
  opened _ has missing := absurd has missing
  read _ has missing := absurd has missing
  fresh _ _ has missing := absurd has missing

/-- What a content holds when it was empty before the blocks of its text were planted in it. -/
theorem blocks_of_empty {text : Text} {row : Int} {owner : Option BlockId}
    (planted : Planted content (Outline.parse text row).members first second)
    (start : first.content content = { text, row, owner }) :
    (second.content content).text = text ∧ (second.content content).row = row ∧
      (second.members content).map second.block = (Outline.parse text row).blocks := by
  obtain ⟨ids, content_eq, blocks_eq⟩ := planted.added
  rw [start, members, start] at content_eq
  rw [members, content_eq]
  exact ⟨rfl, rfl, blocks_eq⟩

/-- A body that is planted in an empty content is open there. -/
theorem isBodyOf {id : BlockId} {body : Body}
    (planted : Planted content (Outline.parse body.text body.row).members first second)
    (start : first.content content = { text := body.text, row := body.row, owner := some id })
    (hasBlock : first.HasBlock id) (hasContent : first.HasContent content)
    (older : ∃ place, (first.entry id).place = some place ∧ place.content.index < content.index)
    (found : (first.block id).body? = some body) : second.IsBodyOf content id := by
  obtain ⟨text_eq, row_eq, blocks_eq⟩ := planted.blocks_of_empty start
  constructor
  · exact planted.grows.hasBlock id hasBlock
  · exact planted.grows.hasContent content hasContent
  · rw [planted.grows.entry_eq id hasBlock]
    exact older
  · rw [planted.grows.retains.block_eq id hasBlock]
    exact ⟨body, found, text_eq, row_eq⟩
  · rw [text_eq, row_eq]
    exact blocks_eq

/-- Trees may be planted one after the other. -/
theorem cons (has : first.HasContent content) (placed : second.Placed)
    (head : Planted content [tree] first second) (tail : Planted content trees second third) :
    Planted content (tree :: trees) first third where
  grows := head.grows.trans tail.grows (.inl rfl)
  added := by
    obtain ⟨headIds, headContent, headBlocks⟩ := head.added
    obtain ⟨tailIds, tailContent, tailBlocks⟩ := tail.added
    have known : ∀ id ∈ headIds, second.HasBlock id := by
      intro id membership
      have member : id ∈ second.members content := by
        rw [members, headContent]
        exact List.mem_append_right _ membership
      exact placed.hasBlock member
    refine ⟨headIds ++ tailIds, ?_, ?_⟩
    · rw [tailContent, members, headContent, List.append_assoc]
    · rw [List.map_append, tail.grows.retains.members_eq known, headBlocks, tailBlocks]
      rfl
  opened inner hasInner missing := by
    by_cases early : second.HasContent inner
    · obtain ⟨id, opened⟩ := head.opened inner early missing
      have different : inner ≠ content := by
        rintro rfl
        exact missing has
      have kept := tail.grows.content_eq inner early different
      exact ⟨id, opened.retained placed tail.grows.retains kept⟩
    · exact tail.opened inner hasInner early
  read id hasBlock missing := by
    by_cases early : second.HasBlock id
    · apply (head.read id early missing).retained placed tail.grows.retains
      · exact tail.grows.entry_eq id early
      · intro inner nested hasInner
        have different : inner ≠ content := by
          rintro rfl
          exact head.fresh id inner early missing nested has
        exact tail.grows.content_eq inner hasInner different
    · exact tail.read id hasBlock early
  fresh id inner hasBlock missing nested hasInner := by
    by_cases early : second.HasBlock id
    · rw [tail.grows.entry_eq id early] at nested
      exact head.fresh id inner early missing nested hasInner
    · exact tail.fresh id inner hasBlock early nested (head.grows.hasContent inner hasInner)

theorem leaf (has : forest.HasContent content) (notClass : block.kind ≠ .classDecl) :
    Planted content [.leaf block] forest (forest.withBlock content block) where
  grows := growsIn_withBlock
  added := by
    refine ⟨[forest.nextBlock], content_withBlock has, ?_⟩
    rw [List.map_singleton, Forest.block, entry_withBlock]
    rfl
  opened inner hasInner missing := absurd (by simpa [withBlock] using hasInner) missing
  read id hasBlock missing := by
    have same : id = forest.nextBlock := (hasBlock_withBlock.mp hasBlock).resolve_left missing
    subst same
    constructor
    · rw [entry_withBlock]
      rfl
    · intro kind
      rw [Forest.block, entry_withBlock] at kind
      exact absurd kind notClass
    · intro inner nested
      rw [entry_withBlock] at nested
      cases nested
  fresh id inner hasBlock missing nested := by
    have same : id = forest.nextBlock := (hasBlock_withBlock.mp hasBlock).resolve_left missing
    rw [same, entry_withBlock] at nested
    cases nested

/-- A block whose body is opened, once the blocks of the body are planted. -/
theorem branch {body : Body} {after : Forest} (has : forest.HasContent content)
    (found : block.body? = some body)
    (inside : Planted forest.nextContent (Outline.parse body.text body.row).members
      (forest.withBranch content block) after) :
    Planted content [.branch block (Outline.parse body.text body.row).members] forest after := by
  have hasBlock : (forest.withBranch content block).HasBlock forest.nextBlock :=
    hasBlock_withBranch.mpr (.inr rfl)
  have entry_eq := (inside.grows.entry_eq _ hasBlock).trans entry_withBranch
  have older : ∃ place,
      ((forest.withBranch content block).entry forest.nextBlock).place = some place ∧
        place.content.index < forest.nextContent.index :=
    ⟨⟨content, (forest.members content).length⟩, by rw [entry_withBranch], has⟩
  have isBody : after.IsBodyOf forest.nextContent forest.nextBlock :=
    inside.isBodyOf (content_withBranch_inner found) hasBlock
      (hasContent_withBranch.mpr (.inr rfl)) older (by rw [Forest.block, entry_withBranch, found])
  constructor
  · exact growsIn_withBranch.trans inside.grows (.inr nextContent_fresh)
  · refine ⟨[forest.nextBlock], ?_, ?_⟩
    · have different : content ≠ forest.nextContent := by
        rintro rfl
        exact nextContent_fresh has
      rw [inside.grows.content_eq content (hasContent_withBranch.mpr (.inl has)) different,
        content_withBranch has]
    · rw [List.map_singleton, Forest.block, entry_eq]
      rfl
  · intro inner hasInner missing
    by_cases early : (forest.withBranch content block).HasContent inner
    · have same : inner = forest.nextContent :=
        (hasContent_withBranch.mp early).resolve_left missing
      exact ⟨_, same ▸ isBody⟩
    · exact inside.opened inner hasInner early
  · intro id hasId missing
    by_cases early : (forest.withBranch content block).HasBlock id
    · have same : id = forest.nextBlock := (hasBlock_withBranch.mp early).resolve_left missing
      subst same
      constructor
      · rw [entry_eq]
        rfl
      · intro _
        rw [entry_eq]
        rfl
      · intro inner nested
        rw [entry_eq, Option.some.injEq] at nested
        exact nested ▸ isBody
    · exact inside.read id hasId early
  · intro id inner hasId missing nested hasInner
    by_cases early : (forest.withBranch content block).HasBlock id
    · have same : id = forest.nextBlock := (hasBlock_withBranch.mp early).resolve_left missing
      rw [same, entry_eq, Option.some.injEq] at nested
      exact nextContent_fresh (nested ▸ hasInner)
    · exact inside.fresh id inner hasId early nested (growsIn_withBranch.hasContent inner hasInner)

/-- Trees that can each be planted can be planted one after the other. -/
theorem list (each : ∀ tree ∈ trees, ∀ (content : ContentId) (forest : Forest), forest.Placed →
      forest.HasContent content → Planted content [tree] forest (forest.plantTree content tree))
    (placed : forest.Placed) (has : forest.HasContent content) :
    Planted content trees forest (forest.plantTrees content trees) := by
  induction trees generalizing forest with
  | nil =>
      rw [plantTrees]
      exact nil forest
  | cons tree trees ih =>
      rw [plantTrees]
      have head := each tree List.mem_cons_self content forest placed has
      have placedHead := placed.plantTree tree has
      apply cons has placedHead head
      exact ih (fun tree inTail => each tree (List.mem_cons_of_mem _ inTail)) placedHead
        (head.grows.hasContent content has)

theorem of_faithful (faithful : tree.Faithful) (content : ContentId) (forest : Forest)
    (placed : forest.Placed) (has : forest.HasContent content) :
    Planted content [tree] forest (forest.plantTree content tree) := by
  induction faithful generalizing content forest with
  | leaf notClass =>
      rw [plantTree_leaf]
      exact leaf has notClass
  | branch found _ ih =>
      rw [plantTree_branch]
      apply branch has found
      exact list ih (placed.withBranch has _) (hasContent_withBranch.mpr (.inr rfl))

/-- The trees of a text can be planted in any content. -/
theorem parse (text : Text) (row : Int) (placed : forest.Placed) (has : forest.HasContent content) :
    Planted content (Outline.parse text row).members forest
      (forest.plantTrees content (Outline.parse text row).members) :=
  list (fun tree inText => of_faithful (Outline.faithful_parse text row tree inText)) placed has

end Planted

/-! ## Forests of one text -/

/-- The forest holds the blocks of a text and of bodies in it: the first content has those
of the text, every other one those of the body of a block. -/
structure Reads (text : Text) (row : Int) (forest : Forest) : Prop where
  placed : forest.Placed
  hasTop : forest.HasContent ⟨0⟩
  topText : (forest.content ⟨0⟩).text = text
  topRow : (forest.content ⟨0⟩).row = row
  topBlocks : (forest.members ⟨0⟩).map forest.block = (Outline.parse text row).blocks
  opened : ∀ inner, forest.HasContent inner → inner ≠ ⟨0⟩ → ∃ id, forest.IsBodyOf inner id
  read : ∀ id, forest.HasBlock id → forest.IsRead id

/-- A block stands in a content that is older than the next one. -/
theorem Reads.older {text : Text} {row : Int} {forest : Forest} {id : BlockId}
    (reads : Reads text row forest) (has : forest.HasBlock id) :
    ∃ place, (forest.entry id).place = some place ∧
      place.content.index < forest.nextContent.index := by
  obtain ⟨place, atPlace⟩ := Option.isSome_iff_exists.mp (reads.read id has).place
  exact ⟨place, atPlace, reads.placed.hasContent atPlace⟩

section Opening

variable {forest : Forest} {record : Content} {text : Text} {row : Int} {id : BlockId}

/-- Loading a content that is new plants the blocks of the text in it. -/
theorem load_newContent (record : Content) (forest : Forest) (text : Text) (row : Int)
    (empty : record.members = []) :
    (newContent record forest).1.load forest.nextContent text row =
      (newContent { record with text, row } forest).1.plantTrees forest.nextContent
        (Outline.parse text row).members := by
  obtain ⟨oldText, oldRow, members, owner⟩ := record
  subst empty
  have start : (newContent ⟨oldText, oldRow, [], owner⟩ forest).1.modifyContent forest.nextContent
      (fun record => { record with text, row, members := [] }) =
      (newContent ⟨text, row, [], owner⟩ forest).1 := by
    simp only [modifyContent, newContent, nextContent, Forest.mk.injEq, true_and]
    apply Array.ext_getElem?
    intro index
    rw [Array.getElem?_modify, Array.getElem?_push, Array.getElem?_push]
    grind
  rw [load, Forest.members, content_newContent_self]
  exact congrArg (plantTrees forest.nextContent (Outline.parse text row).members) start

theorem growsIn_newContent : GrowsIn forest.nextContent forest (newContent record forest).1 where
  hasBlock _ has := has
  hasContent _ has := hasContent_newContent.mpr (.inl has)
  entry_eq _ _ := rfl
  content_eq _ has _ := content_newContent_of_has has

/-- A text is read by planting its blocks in a forest with one empty content. -/
theorem ofText_eq (text : Text) (row : Int) :
    (ofText text row).1 = (newContent { text, row } {}).1.plantTrees ⟨0⟩
      (Outline.parse text row).members :=
  load_newContent { row } {} text row rfl

theorem reads_ofText (text : Text) (row : Int) : Reads text row (ofText text row).1 := by
  have placed : (newContent { text, row } {}).1.Placed := Placed.empty.newContent rfl
  have has : (newContent { text, row } {}).1.HasContent ⟨0⟩ := hasContent_newContent.mpr (.inr rfl)
  have planted := Planted.parse text row placed has
  rw [← ofText_eq] at planted
  obtain ⟨topText, topRow, topBlocks⟩ := planted.blocks_of_empty content_newContent_self
  refine ⟨?_, planted.grows.hasContent _ has, topText, topRow, topBlocks, ?_, ?_⟩
  · rw [ofText_eq]
    exact placed.plantTrees _ has
  · intro inner hasInner other
    apply planted.opened inner hasInner
    intro early
    exact (hasContent_newContent.mp early).elim (Nat.not_lt_zero _) other
  · intro id hasBlock
    exact planted.read id hasBlock (Nat.not_lt_zero _)

/-- Opening a body adds its blocks and changes nothing else, but for the block that now is open. -/
theorem Reads.withBody {body : Body} {after : Forest} (reads : Reads text row forest)
    (hasId : forest.HasBlock id) (found : (forest.block id).body? = some body)
    (planted : Planted forest.nextContent (Outline.parse body.text body.row).members
      (newContent { text := body.text, row := body.row, owner := some id } forest).1 after)
    (placed : after.Placed) : Reads text row (after.withNested id forest.nextContent) := by
  have grows : GrowsIn forest.nextContent forest after :=
    growsIn_newContent.trans planted.grows (.inl rfl)
  have noted : after.Retains (after.withNested id forest.nextContent) := retains_withNested
  have retains := grows.retains.trans noted
  have kept : ∀ inner, forest.HasContent inner → after.content inner = forest.content inner := by
    intro inner has
    apply grows.content_eq inner has
    rintro rfl
    exact nextContent_fresh has
  have isBody : after.IsBodyOf forest.nextContent id :=
    planted.isBodyOf content_newContent_self hasId (hasContent_newContent.mpr (.inr rfl))
      (reads.older hasId) found
  constructor
  · exact placed.modifyEntry fun _ => rfl
  · exact retains.hasContent _ reads.hasTop
  · exact (congrArg Content.text (kept _ reads.hasTop)).trans reads.topText
  · exact (congrArg Content.row (kept _ reads.hasTop)).trans reads.topRow
  · have known : ∀ id ∈ forest.members ⟨0⟩, forest.HasBlock id := fun _ => reads.placed.hasBlock
    have same : (after.withNested id forest.nextContent).members ⟨0⟩ = forest.members ⟨0⟩ :=
      congrArg Content.members (kept _ reads.hasTop)
    rw [same, retains.members_eq known]
    exact reads.topBlocks
  · intro inner hasInner notTop
    by_cases early : forest.HasContent inner
    · obtain ⟨owner, opened⟩ := reads.opened inner early notTop
      exact ⟨owner, opened.retained reads.placed retains (kept inner early)⟩
    · by_cases same : inner = forest.nextContent
      · exact ⟨id, same ▸ isBody.retained placed noted rfl⟩
      · obtain ⟨owner, opened⟩ := planted.opened inner hasInner
          (by simp [hasContent_newContent, early, same])
        exact ⟨owner, opened.retained placed noted rfl⟩
  · intro other hasOther
    by_cases same : other = id
    · subst same
      have entry_eq : (after.withNested other forest.nextContent).entry other =
          { after.entry other with nested := some forest.nextContent } :=
        entry_modifyEntry_self (grows.hasBlock other hasId)
      constructor
      · rw [entry_eq, grows.entry_eq other hasId]
        exact (reads.read other hasId).place
      · intro _
        rw [entry_eq]
        rfl
      · intro inner nested
        rw [entry_eq, Option.some.injEq] at nested
        exact nested ▸ isBody.retained placed noted rfl
    · have read : after.IsRead other := by
        by_cases early : forest.HasBlock other
        · exact (reads.read other early).retained reads.placed grows.retains
            (grows.entry_eq other early) fun inner _ => kept inner
        · exact planted.read other (by simpa [withNested] using hasOther) early
      exact read.retained placed noted (entry_modifyEntry_of_ne same) fun _ _ _ => rfl

theorem hasBlock_of_body? {body : Body} (found : (forest.block id).body? = some body) :
    forest.HasBlock id :=
  hasBlock_of_eq_some (fun entry => entry.block.body?) rfl found

/-- Opening a body, when there is one and it is not open. -/
theorem Reads.openBody (reads : Reads text row forest) (id : BlockId) :
    Reads text row (forest.openBody id) := by
  rw [Forest.openBody]
  split
  · rename_i body _ found
    let record : Content := { text := body.text, row := body.row, owner := some id }
    have placed : (newContent record forest).1.Placed := reads.placed.newContent rfl
    have has : (newContent record forest).1.HasContent forest.nextContent :=
      hasContent_newContent.mpr (.inr rfl)
    have opened := reads.withBody (hasBlock_of_body? found) found
      (Planted.parse body.text body.row placed has) (placed.plantTrees _ has)
    rw [← load_newContent { owner := some id } forest body.text body.row rfl] at opened
    exact opened
  · exact reads

/-- A block with a body can be opened. -/
theorem isSome_nested_openBody {body : Body} (found : (forest.block id).body? = some body) :
    ((forest.openBody id).entry id).nested.isSome := by
  rw [Forest.openBody, found]
  split
  · rw [entry_modifyEntry_self]
    · rfl
    · rename_i inside _ _
      have loaded := load_newContent { owner := some id } forest inside.text inside.row rfl
      change ((newContent { owner := some id } forest).1.load forest.nextContent _ _).HasBlock id
      rw [loaded]
      exact (growsIn_plantTrees _ _ _).hasBlock id (hasBlock_of_body? found)
  · rename_i opened
    cases nested : (forest.entry id).nested with
    | none => exact (opened body nested rfl).elim
    | some inner => rfl

end Opening

end Docweave.Forest
