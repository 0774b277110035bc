import Mathlib.Data.List.Infix
import Docweave.Proofs.Forest.Opened

/-!
# Forests of many texts

Files are read into one forest, bodies are opened in it, blocks are cut off and names are noted.
All of this keeps four things: places and members agree, every content holds blocks of its
own text from the first one on, what is open in a block is the text of its body, and every class
is open.
-/

namespace Docweave.Forest

open Text

/-- The content has the text of the body of a block. -/
structure Opens (forest : Forest) (id : BlockId) (inner : ContentId) : Prop where
  hasContent : forest.HasContent inner
  body : ∃ body, (forest.block id).body? = some body ∧ (forest.content inner).text = body.text ∧
    (forest.content inner).row = body.row

/-- What holds of a forest whatever was read, opened, cut off or noted in it. -/
structure Sound (forest : Forest) : Prop where
  placed : forest.Placed
  blocks : ∀ content, forest.HasContent content →
    (forest.members content).map forest.block <+:
      (Outline.parse (forest.content content).text (forest.content content).row).blocks
  opened : ∀ id inner, (forest.entry id).nested = some inner → forest.Opens id inner
  classes : ∀ id, forest.HasBlock id → (forest.block id).kind = .classDecl →
    (forest.entry id).nested.isSome

/-- The content is not the body of a block. -/
def Unowned (forest : Forest) (content : ContentId) : Prop :=
  ∀ id, (forest.entry id).nested ≠ some content

/-- A block stands in one content only. -/
theorem Placed.content_unique {forest : Forest} {id : BlockId} {content other : ContentId}
    (placed : forest.Placed) (member : id ∈ forest.members content)
    (memberOther : id ∈ forest.members other) : other = content := by
  obtain ⟨index, found⟩ := List.mem_iff_getElem?.mp member
  obtain ⟨indexOther, foundOther⟩ := List.mem_iff_getElem?.mp memberOther
  have same := (placed.place_of_member foundOther).symm.trans (placed.place_of_member found)
  cases same
  rfl

theorem entry_modifyEntry {forest : Forest} {id other : BlockId} {change : Entry → Entry} :
    (forest.modifyEntry id change).entry other =
      if other = id ∧ forest.HasBlock id then change (forest.entry other)
      else forest.entry other := by
  split
  · rename_i changed
    rw [changed.1, entry_modifyEntry_self changed.2]
  · rename_i unchanged
    by_cases same : other = id
    · subst same
      have missing : ¬ forest.HasBlock other := fun has => unchanged ⟨rfl, has⟩
      rw [entry_of_not_hasBlock missing, entry_of_not_hasBlock (by simpa using missing)]
    · exact entry_modifyEntry_of_ne same

/-! ## Notes -/

/-- Between two forests nothing has changed but names, aliases and fields, and of the last two only
some were added. -/
structure Notes (before after : Forest) : Prop where
  size_eq : after.entries.size = before.entries.size
  contents_eq : after.contents = before.contents
  block_eq : ∀ id, after.block id = before.block id
  place_eq : ∀ id, (after.entry id).place = (before.entry id).place
  nested_eq : ∀ id, (after.entry id).nested = (before.entry id).nested
  aliases : ∀ id, (before.entry id).aliases <+: (after.entry id).aliases
  fields : ∀ id, (before.entry id).fields.map Prod.fst <+: (after.entry id).fields.map Prod.fst

namespace Notes

variable {first second third forest : Forest} {id : BlockId} {content : ContentId}

theorem refl (forest : Forest) : Notes forest forest where
  size_eq := rfl
  contents_eq := rfl
  block_eq _ := rfl
  place_eq _ := rfl
  nested_eq _ := rfl
  aliases _ := List.prefix_refl _
  fields _ := List.prefix_refl _

theorem trans (early : Notes first second) (late : Notes second third) : Notes first third where
  size_eq := late.size_eq.trans early.size_eq
  contents_eq := late.contents_eq.trans early.contents_eq
  block_eq id := (late.block_eq id).trans (early.block_eq id)
  place_eq id := (late.place_eq id).trans (early.place_eq id)
  nested_eq id := (late.nested_eq id).trans (early.nested_eq id)
  aliases id := (early.aliases id).trans (late.aliases id)
  fields id := (early.fields id).trans (late.fields id)

theorem content_eq (notes : Notes first second) (content : ContentId) :
    second.content content = first.content content := by
  rw [Forest.content, notes.contents_eq, Forest.content]

theorem members_eq (notes : Notes first second) (content : ContentId) :
    second.members content = first.members content := by
  rw [members, notes.content_eq, members]

theorem hasBlock_iff (notes : Notes first second) (id : BlockId) :
    second.HasBlock id ↔ first.HasBlock id := by
  rw [HasBlock, notes.size_eq, HasBlock]

theorem hasContent_iff (notes : Notes first second) (content : ContentId) :
    second.HasContent content ↔ first.HasContent content := by
  rw [HasContent, notes.contents_eq, HasContent]

/-- One entry may be changed if the change is one of notes. -/
theorem modifyEntry {change : Entry → Entry} (block : ∀ entry, (change entry).block = entry.block)
    (place : ∀ entry, (change entry).place = entry.place)
    (nested : ∀ entry, (change entry).nested = entry.nested)
    (aliases : ∀ entry, entry.aliases <+: (change entry).aliases)
    (fields : ∀ entry, entry.fields.map Prod.fst <+: (change entry).fields.map Prod.fst) :
    Notes forest (forest.modifyEntry id change) where
  size_eq := by simp [Forest.modifyEntry]
  contents_eq := rfl
  block_eq _ := view_modifyEntry Entry.block block
  place_eq _ := view_modifyEntry Entry.place place
  nested_eq _ := view_modifyEntry Entry.nested nested
  aliases other := by
    rw [entry_modifyEntry]
    split
    · exact aliases _
    · exact List.prefix_refl _
  fields other := by
    rw [entry_modifyEntry]
    split
    · exact fields _
    · exact List.prefix_refl _

theorem addAlias (name : Text) : Notes forest (forest.addAlias id name).1 := by
  rw [Forest.addAlias]
  split
  · exact refl forest
  · exact modifyEntry (fun _ => rfl) (fun _ => rfl) (fun _ => rfl)
      (fun _ => List.prefix_append _ _) (fun _ => List.prefix_refl _)

theorem exportAs (name : Text) : Notes forest (forest.exportAs id name) :=
  modifyEntry (fun _ => rfl) (fun _ => rfl) (fun _ => rfl)
    (fun _ => List.prefix_refl _) (fun _ => List.prefix_refl _)

/-- Writing an entry keeps the keys in order and puts a new one at the end. -/
theorem keys_putEntry {α : Type} (name : Text) (value : α) (entries : List (Text × α)) :
    entries.map Prod.fst <+: (Value.putEntry (· == ·) name value entries).map Prod.fst := by
  induction entries with
  | nil => exact List.nil_prefix
  | cons entry entries ih =>
      rw [Value.putEntry]
      split
      · rename_i same
        simp_all
      · exact List.prefix_cons_inj _ |>.mpr ih

theorem assignField (name : Text) (value : FieldValue) :
    Notes forest (forest.assignField id name value) :=
  modifyEntry (fun _ => rfl) (fun _ => rfl) (fun _ => rfl)
    (fun _ => List.prefix_refl _) (fun _ => keys_putEntry name value _)

end Notes

/-! ## What keeps a forest sound -/

/-- Detaching blocks touches nothing but their places. -/
theorem view_detachAll {α : Type} (view : Entry → α)
    (kept : ∀ entry : Entry, view { entry with place := none } = view entry) (ids : List BlockId)
    (forest : Forest) (id : BlockId) :
    view ((ids.foldl detach forest).entry id) = view (forest.entry id) := by
  rw [entry_detachAll]
  split
  · exact kept _
  · rfl

theorem content_detachAll (ids : List BlockId) (forest : Forest) (content : ContentId) :
    (ids.foldl detach forest).content content = forest.content content := by
  rw [Forest.content, contents_detachAll, Forest.content]

theorem hasContent_detachAll {ids : List BlockId} {forest : Forest} {content : ContentId} :
    (ids.foldl detach forest).HasContent content ↔ forest.HasContent content := by
  rw [HasContent, contents_detachAll, HasContent]

section Truncated

variable {forest : Forest} {content inner : ContentId} {length : Int} {id : BlockId}

theorem view_truncate {α : Type} (view : Entry → α)
    (kept : ∀ entry : Entry, view { entry with place := none } = view entry) :
    view ((forest.truncate content length).entry id) = view (forest.entry id) := by
  rw [truncate]
  split
  · rfl
  · exact view_detachAll view kept _ _ _

theorem hasContent_truncate :
    (forest.truncate content length).HasContent inner ↔ forest.HasContent inner := by
  rw [truncate]
  split
  · exact Iff.rfl
  · exact hasContent_modifyContent.trans hasContent_detachAll

theorem hasBlock_truncate : (forest.truncate content length).HasBlock id ↔ forest.HasBlock id := by
  rw [truncate]
  split
  · exact Iff.rfl
  · rw [hasBlock_modifyContent, HasBlock, entries_size_detachAll, HasBlock]

theorem content_truncate (has : forest.HasContent content) (inner : ContentId) :
    (forest.truncate content length).content inner =
      if inner = content then
        { forest.content content with members := takeSigned length (forest.members content) }
      else forest.content inner := by
  rw [truncate]
  split
  · rename_i long
    rw [takeSigned, clampOffset_of_le long, List.take_length]
    split
    · rename_i same
      rw [same]
      rfl
    · rfl
  · split
    · rename_i same
      rw [same, content_modifyContent_self (hasContent_detachAll.mpr has), content_detachAll]
    · rename_i different
      rw [content_modifyContent_of_ne different, content_detachAll]

theorem text_truncate (has : forest.HasContent content) (inner : ContentId) :
    ((forest.truncate content length).content inner).text = (forest.content inner).text := by
  rw [content_truncate has]
  split
  · rename_i same
    rw [same]
  · rfl

theorem row_truncate (has : forest.HasContent content) (inner : ContentId) :
    ((forest.truncate content length).content inner).row = (forest.content inner).row := by
  rw [content_truncate has]
  split
  · rename_i same
    rw [same]
  · rfl

theorem members_truncate_of_ne (has : forest.HasContent content) (different : inner ≠ content) :
    (forest.truncate content length).members inner = forest.members inner := by
  rw [members, content_truncate has, if_neg different, members]

theorem members_truncate_isPrefix (has : forest.HasContent content) (inner : ContentId) :
    (forest.truncate content length).members inner <+: forest.members inner := by
  by_cases same : inner = content
  · rw [same, members_truncate has]
    exact List.take_prefix _ _
  · rw [members_truncate_of_ne has same]

end Truncated

/-- A forest in which a content has lost its blocks and got another text. -/
def emptied (content : ContentId) (text : Text) (row : Int) (forest : Forest) : Forest :=
  ((forest.members content).foldl detach forest).modifyContent content fun record =>
    { record with text, row, members := [] }

theorem load_eq (content : ContentId) (text : Text) (row : Int) (forest : Forest) :
    forest.load content text row =
      (forest.emptied content text row).plantTrees content (Outline.parse text row).members := rfl

section Emptied

variable {forest : Forest} {content inner : ContentId} {text : Text} {row : Int}

theorem content_emptied_self (has : forest.HasContent content) :
    (forest.emptied content text row).content content =
      { text, row, owner := (forest.content content).owner } := by
  rw [emptied, content_modifyContent_self (hasContent_detachAll.mpr has), content_detachAll]

theorem content_emptied_of_ne (different : inner ≠ content) :
    (forest.emptied content text row).content inner = forest.content inner := by
  rw [emptied, content_modifyContent_of_ne different, content_detachAll]

theorem hasContent_emptied :
    (forest.emptied content text row).HasContent inner ↔ forest.HasContent inner := by
  rw [emptied, hasContent_modifyContent, hasContent_detachAll]

theorem hasBlock_emptied {id : BlockId} :
    (forest.emptied content text row).HasBlock id ↔ forest.HasBlock id := by
  rw [emptied, hasBlock_modifyContent, HasBlock, entries_size_detachAll, HasBlock]

theorem view_emptied {α : Type} (view : Entry → α)
    (kept : ∀ entry : Entry, view { entry with place := none } = view entry) (id : BlockId) :
    view ((forest.emptied content text row).entry id) = view (forest.entry id) := by
  rw [emptied, entry_modifyContent]
  exact view_detachAll view kept _ _ _

end Emptied

/-- A forest with one more content, which holds the blocks of a body. -/
def withBody (id : BlockId) (body : Body) (forest : Forest) : Forest :=
  (newContent { text := body.text, row := body.row, owner := some id } forest).1.plantTrees
    forest.nextContent (Outline.parse body.text body.row).members

theorem growsIn_withBody {id : BlockId} {body : Body} {forest : Forest} :
    GrowsIn forest.nextContent forest (forest.withBody id body) :=
  growsIn_newContent.trans (growsIn_plantTrees _ _ _) (.inl rfl)

/-- Opening a block either changes nothing or adds the blocks of its body in a content of their
own. -/
theorem openBody_cases (forest : Forest) (id : BlockId) :
    forest.openBody id = forest ∨
      ∃ body, (forest.entry id).nested = none ∧ (forest.block id).body? = some body ∧
        forest.openBody id = (forest.withBody id body).withNested id forest.nextContent := by
  rw [openBody]
  split
  · rename_i body closed found
    refine .inr ⟨body, closed, found, ?_⟩
    rw [withBody, ← load_newContent { owner := some id } forest body.text body.row rfl]
    rfl
  · exact .inl rfl

namespace Opens

variable {before after : Forest} {id : BlockId} {inner : ContentId}

/-- Only the block and the content count. -/
theorem congr (opens : before.Opens id inner) (hasContent : after.HasContent inner)
    (block_eq : after.block id = before.block id)
    (text_eq : (after.content inner).text = (before.content inner).text)
    (row_eq : (after.content inner).row = (before.content inner).row) : after.Opens id inner where
  hasContent := hasContent
  body := by
    rw [block_eq, text_eq, row_eq]
    exact opens.body

end Opens

namespace Sound

variable {forest after : Forest} {id : BlockId} {content inner : ContentId}

theorem empty : Sound {} where
  placed := Placed.empty
  blocks _ has := absurd has (Nat.not_lt_zero _)
  opened _ _ nested := absurd (hasBlock_of_eq_some Entry.nested rfl nested) (Nat.not_lt_zero _)
  classes _ has := absurd has (Nat.not_lt_zero _)

theorem notes (sound : forest.Sound) (notes : Notes forest after) : after.Sound where
  placed := sound.placed.congr notes.place_eq notes.members_eq
  blocks content has := by
    have blocks := sound.blocks content ((notes.hasContent_iff content).mp has)
    rw [notes.members_eq, notes.content_eq, funext notes.block_eq]
    exact blocks
  opened id inner nested := by
    rw [notes.nested_eq] at nested
    have opens := sound.opened id inner nested
    apply opens.congr
    · exact (notes.hasContent_iff inner).mpr opens.hasContent
    · exact notes.block_eq id
    · rw [notes.content_eq]
    · rw [notes.content_eq]
  classes id has kind := by
    rw [notes.block_eq] at kind
    rw [notes.nested_eq]
    exact sound.classes id ((notes.hasBlock_iff id).mp has) kind

/-- A content that is new belongs to no block yet. -/
theorem unowned_nextContent (sound : forest.Sound) : forest.Unowned forest.nextContent := by
  intro id nested
  exact nextContent_fresh (sound.opened id _ nested).hasContent

theorem newContent (sound : forest.Sound) (record : Content) (nothing : record.members = []) :
    (newContent record forest).1.Sound where
  placed := sound.placed.newContent nothing
  blocks content has := by
    rcases hasContent_newContent.mp has with early | rfl
    · have blocks := sound.blocks content early
      rw [members, content_newContent_of_has early]
      exact blocks
    · rw [members, content_newContent_self, nothing]
      exact List.nil_prefix
  opened id inner nested := by
    have opens := sound.opened id inner nested
    apply opens.congr
    · exact hasContent_newContent.mpr (.inl opens.hasContent)
    · rfl
    · rw [content_newContent_of_has opens.hasContent]
    · rw [content_newContent_of_has opens.hasContent]
  classes := sound.classes

/-- Cutting blocks off leaves each content with its first ones. -/
theorem truncate (sound : forest.Sound) (has : forest.HasContent content) (length : Int) :
    (forest.truncate content length).Sound where
  placed := sound.placed.truncate has length
  blocks other hasOther := by
    have kept := sound.blocks other (hasContent_truncate.mp hasOther)
    have block_eq : (forest.truncate content length).block = forest.block := by
      funext id
      exact view_truncate Entry.block fun _ => rfl
    rw [block_eq, text_truncate has, row_truncate has]
    exact ((members_truncate_isPrefix has other).map forest.block).trans kept
  opened id inner nested := by
    rw [view_truncate Entry.nested fun _ => rfl] at nested
    have opens := sound.opened id inner nested
    apply opens.congr
    · exact hasContent_truncate.mpr opens.hasContent
    · exact view_truncate Entry.block fun _ => rfl
    · exact text_truncate has inner
    · exact row_truncate has inner
  classes id hasId kind := by
    have block_eq : (forest.truncate content length).block id = forest.block id :=
      view_truncate Entry.block fun _ => rfl
    rw [block_eq] at kind
    rw [view_truncate Entry.nested fun _ => rfl]
    exact sound.classes id (hasBlock_truncate.mp hasId) kind

theorem emptied (sound : forest.Sound) (has : forest.HasContent content)
    (unowned : forest.Unowned content) (text : Text) (row : Int) :
    (forest.emptied content text row).Sound where
  placed := sound.placed.detachFrom has 0 rfl
  blocks other hasOther := by
    have block_eq : (forest.emptied content text row).block = forest.block := by
      funext id
      exact view_emptied Entry.block (fun _ => rfl) id
    rw [block_eq, members]
    by_cases same : other = content
    · subst same
      rw [content_emptied_self has]
      exact List.nil_prefix
    · rw [content_emptied_of_ne same]
      exact sound.blocks other (hasContent_emptied.mp hasOther)
  opened id inner nested := by
    rw [view_emptied Entry.nested fun _ => rfl] at nested
    have different : inner ≠ content := by
      rintro rfl
      exact unowned id nested
    have opens := sound.opened id inner nested
    apply opens.congr
    · exact hasContent_emptied.mpr opens.hasContent
    · exact view_emptied Entry.block (fun _ => rfl) id
    · rw [content_emptied_of_ne different]
    · rw [content_emptied_of_ne different]
  classes id hasId kind := by
    have block_eq : (forest.emptied content text row).block id = forest.block id :=
      view_emptied Entry.block (fun _ => rfl) id
    rw [block_eq] at kind
    rw [view_emptied Entry.nested fun _ => rfl]
    exact sound.classes id (hasBlock_emptied.mp hasId) kind

/-- The blocks of a text may be planted in an empty content that has this text. -/
theorem planted {text : Text} {row : Int} {owner : Option BlockId} (sound : forest.Sound)
    (start : forest.content content = { text, row, owner }) (unowned : forest.Unowned content)
    (planted : Planted content (Outline.parse text row).members forest after)
    (placed : after.Placed) : after.Sound where
  placed := placed
  blocks other hasOther := by
    by_cases same : other = content
    · subst same
      obtain ⟨text_eq, row_eq, blocks_eq⟩ := planted.blocks_of_empty start
      rw [text_eq, row_eq, blocks_eq]
    · by_cases early : forest.HasContent other
      · have known : ∀ id ∈ forest.members other, forest.HasBlock id :=
          fun _ => sound.placed.hasBlock
        rw [members, planted.grows.content_eq other early same]
        exact (planted.grows.retains.members_eq known).symm ▸ sound.blocks other early
      · obtain ⟨id, opened⟩ := planted.opened other hasOther early
        rw [opened.blocks]
  opened id inner nested := by
    have hasBlock : after.HasBlock id := hasBlock_of_eq_some Entry.nested rfl nested
    by_cases early : forest.HasBlock id
    · rw [planted.grows.entry_eq id early] at nested
      have opens := sound.opened id inner nested
      have different : inner ≠ content := by
        rintro rfl
        exact unowned id nested
      have kept := planted.grows.content_eq inner opens.hasContent different
      apply opens.congr
      · exact planted.grows.hasContent inner opens.hasContent
      · exact planted.grows.retains.block_eq id early
      · rw [kept]
      · rw [kept]
    · have opened := (planted.read id hasBlock early).nested inner nested
      exact ⟨opened.hasContent, opened.body⟩
  classes id has kind := by
    by_cases early : forest.HasBlock id
    · rw [planted.grows.retains.block_eq id early] at kind
      rw [planted.grows.entry_eq id early]
      exact sound.classes id early kind
    · exact (planted.read id has early).opened kind

/-- A content that belongs to no block may be read anew. -/
theorem load (sound : forest.Sound) (has : forest.HasContent content)
    (unowned : forest.Unowned content) (text : Text) (row : Int) :
    (forest.load content text row).Sound := by
  have emptied := sound.emptied has unowned text row
  have hasThen : (forest.emptied content text row).HasContent content :=
    hasContent_emptied.mpr has
  have unownedThen : (forest.emptied content text row).Unowned content := by
    intro id nested
    rw [view_emptied Entry.nested fun _ => rfl] at nested
    exact unowned id nested
  rw [load_eq]
  exact emptied.planted (content_emptied_self has) unownedThen
    (Planted.parse text row emptied.placed hasThen) (emptied.placed.plantTrees _ hasThen)

/-- A content with the text of a body may be noted as that body. -/
theorem withNested (sound : forest.Sound) (opens : forest.Opens id inner) :
    (forest.withNested id inner).Sound where
  placed := sound.placed.modifyEntry fun _ => rfl
  blocks content has := by
    have block_eq : (forest.withNested id inner).block = forest.block := by
      funext other
      exact view_modifyEntry Entry.block fun _ => rfl
    rw [block_eq]
    exact sound.blocks content has
  opened other found nested := by
    have block_eq : (forest.withNested id inner).block other = forest.block other :=
      view_modifyEntry Entry.block fun _ => rfl
    rw [Forest.withNested, entry_modifyEntry] at nested
    split at nested
    · rename_i changed
      cases nested
      rw [changed.1] at block_eq ⊢
      exact opens.congr opens.hasContent block_eq rfl rfl
    · have opensOther := sound.opened other found nested
      exact opensOther.congr opensOther.hasContent block_eq rfl rfl
  classes other has kind := by
    have block_eq : (forest.withNested id inner).block other = forest.block other :=
      view_modifyEntry Entry.block fun _ => rfl
    rw [block_eq] at kind
    rw [Forest.withNested, entry_modifyEntry]
    split
    · rfl
    · exact sound.classes other (hasBlock_modifyEntry.mp has) kind

/-- A body may be opened, when there is one and it is not open. -/
theorem openBody (sound : forest.Sound) (id : BlockId) : (forest.openBody id).Sound := by
  rcases forest.openBody_cases id with same | ⟨body, -, found, opened⟩
  · rw [same]
    exact sound
  · have start := sound.newContent { text := body.text, row := body.row, owner := some id } rfl
    have has : (Forest.newContent { text := body.text, row := body.row, owner := some id }
        forest).1.HasContent forest.nextContent := hasContent_newContent.mpr (.inr rfl)
    have planted := Planted.parse body.text body.row start.placed has
    have hasId := hasBlock_of_body? found
    obtain ⟨text_eq, row_eq, -⟩ := planted.blocks_of_empty content_newContent_self
    rw [opened]
    apply withNested (start.planted content_newContent_self sound.unowned_nextContent planted
      (start.placed.plantTrees _ has))
    refine ⟨planted.grows.hasContent _ has, body, ?_, text_eq, row_eq⟩
    rw [planted.grows.retains.block_eq id hasId]
    exact found

end Sound

end Docweave.Forest
