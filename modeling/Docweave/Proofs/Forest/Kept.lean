import Docweave.Proofs.Forest.Sound

/-!
# What a forest keeps

Opening bodies, cutting blocks off and noting names leaves the blocks of a forest as they were
read.  A content keeps its text and loses at most its last blocks, a block keeps its place or
has none, and what was noted about a block stays noted.
-/

namespace Docweave.Forest

open Text

/-- What is kept between two forests when bodies are opened, blocks cut off and names noted. -/
structure Keeps (before after : Forest) : Prop where
  hasBlock : ∀ id, before.HasBlock id → after.HasBlock id
  hasContent : ∀ content, before.HasContent content → after.HasContent content
  block_eq : ∀ id, before.HasBlock id → after.block id = before.block id
  place : ∀ id, before.HasBlock id →
    (after.entry id).place = (before.entry id).place ∨ (after.entry id).place = none
  text_eq : ∀ content, before.HasContent content →
    (after.content content).text = (before.content content).text
  members : ∀ content, before.HasContent content →
    after.members content <+: before.members content
  aliases : ∀ id, before.HasBlock id → (before.entry id).aliases <+: (after.entry id).aliases
  fields : ∀ id, before.HasBlock id →
    (before.entry id).fields.map Prod.fst <+: (after.entry id).fields.map Prod.fst
  nested : ∀ id inner, (before.entry id).nested = some inner → (after.entry id).nested = some inner
  nested_new : ∀ id inner, (after.entry id).nested = some inner →
    (before.entry id).nested = some inner ∨ ¬ before.HasContent inner

namespace Keeps

variable {first second third forest : Forest} {id : BlockId} {content : ContentId}

theorem refl (forest : Forest) : Keeps forest forest where
  hasBlock _ has := has
  hasContent _ has := has
  block_eq _ _ := rfl
  place _ _ := .inl rfl
  text_eq _ _ := rfl
  members _ _ := List.prefix_refl _
  aliases _ _ := List.prefix_refl _
  fields _ _ := List.prefix_refl _
  nested _ _ found := found
  nested_new _ _ found := .inl found

theorem trans (early : Keeps first second) (late : Keeps second third) : Keeps first third where
  hasBlock id has := late.hasBlock id (early.hasBlock id has)
  hasContent content has := late.hasContent content (early.hasContent content has)
  block_eq id has := (late.block_eq id (early.hasBlock id has)).trans (early.block_eq id has)
  place id has := by
    rcases late.place id (early.hasBlock id has) with same | gone
    · rw [same]
      exact early.place id has
    · exact .inr gone
  text_eq content has :=
    (late.text_eq content (early.hasContent content has)).trans (early.text_eq content has)
  members content has :=
    (late.members content (early.hasContent content has)).trans (early.members content has)
  aliases id has := (early.aliases id has).trans (late.aliases id (early.hasBlock id has))
  fields id has := (early.fields id has).trans (late.fields id (early.hasBlock id has))
  nested id inner found := late.nested id inner (early.nested id inner found)
  nested_new id inner found := by
    rcases late.nested_new id inner found with known | new
    · exact early.nested_new id inner known
    · exact .inr fun has => new (early.hasContent inner has)

theorem notes (notes : Notes first second) : Keeps first second where
  hasBlock id has := (notes.hasBlock_iff id).mpr has
  hasContent content has := (notes.hasContent_iff content).mpr has
  block_eq id _ := notes.block_eq id
  place id _ := .inl (notes.place_eq id)
  text_eq content _ := by rw [notes.content_eq]
  members content _ := by
    rw [notes.members_eq]
  aliases id _ := notes.aliases id
  fields id _ := notes.fields id
  nested id inner found := by rwa [notes.nested_eq]
  nested_new id inner found := by
    rw [notes.nested_eq] at found
    exact .inl found

theorem truncate (has : forest.HasContent content) (length : Int) :
    Keeps forest (forest.truncate content length) where
  hasBlock _ := hasBlock_truncate.mpr
  hasContent _ := hasContent_truncate.mpr
  block_eq _ _ := view_truncate Entry.block fun _ => rfl
  place id _ := by
    rw [Forest.truncate]
    split
    · exact .inl rfl
    · rw [entry_modifyContent, entry_detachAll]
      split
      · exact .inr rfl
      · exact .inl rfl
  text_eq inner _ := text_truncate has inner
  members inner _ := members_truncate_isPrefix has inner
  aliases id _ := by
    rw [view_truncate Entry.aliases fun _ => rfl]
  fields id _ := by
    rw [view_truncate Entry.fields fun _ => rfl]
  nested id inner found := by rwa [view_truncate Entry.nested fun _ => rfl]
  nested_new id inner found := by
    rw [view_truncate Entry.nested fun _ => rfl] at found
    exact .inl found

/-- A block that is left in a content has always been there. -/
theorem mem_members (keeps : Keeps first second) (placedFirst : first.Placed)
    (placedSecond : second.Placed) (known : first.HasBlock id ∨ first.HasContent content)
    (member : id ∈ second.members content) : id ∈ first.members content := by
  rcases known with has | has
  · obtain ⟨index, found⟩ := List.mem_iff_getElem?.mp member
    have place := placedSecond.place_of_member found
    rcases keeps.place id has with same | gone
    · rw [same] at place
      exact List.mem_of_getElem? ((placedFirst content index id).mpr place)
    · rw [gone] at place
      cases place
  · exact (keeps.members content has).subset member

/-- A content that belongs to no block before belongs to none after. -/
theorem unowned (keeps : Keeps first second) (has : first.HasContent content)
    (unowned : first.Unowned content) : second.Unowned content := by
  intro id found
  rcases keeps.nested_new id content found with early | new
  · exact unowned id early
  · exact new has

/-- A content that is whole in the end was whole on the way. -/
theorem members_eq_between (early : Keeps first second) (late : Keeps second third)
    (has : first.HasContent content) (whole : third.members content = first.members content) :
    second.members content = first.members content := by
  apply (early.members content has).eq_of_length_le
  rw [← whole]
  exact (late.members content (early.hasContent content has)).length_le

end Keeps

/-! ## Opening a body -/

section Opening

variable {forest : Forest} {id other : BlockId} {content : ContentId}

theorem hasContent_openBody (has : forest.HasContent content) :
    (forest.openBody id).HasContent content := by
  rcases forest.openBody_cases id with same | ⟨body, -, -, opened⟩
  · rwa [same]
  · rw [opened]
    exact growsIn_withBody.hasContent content has

theorem hasBlock_openBody (has : forest.HasBlock other) : (forest.openBody id).HasBlock other := by
  rcases forest.openBody_cases id with same | ⟨body, -, -, opened⟩
  · rwa [same]
  · rw [opened, withNested, hasBlock_modifyEntry]
    exact growsIn_withBody.hasBlock other has

/-- The contents there were are not touched. -/
theorem content_openBody (has : forest.HasContent content) :
    (forest.openBody id).content content = forest.content content := by
  rcases forest.openBody_cases id with same | ⟨body, -, -, opened⟩
  · rw [same]
  · rw [opened, withNested, content_modifyEntry]
    apply growsIn_withBody.content_eq content has
    rintro rfl
    exact nextContent_fresh has

theorem members_openBody (has : forest.HasContent content) :
    (forest.openBody id).members content = forest.members content := by
  rw [members, content_openBody has, members]

/-- Of the blocks there were, only what is open in one of them changes. -/
theorem view_openBody {α : Type} (view : Entry → α)
    (kept : ∀ entry inner, view { entry with nested := some inner } = view entry)
    (has : forest.HasBlock other) :
    view ((forest.openBody id).entry other) = view (forest.entry other) := by
  rcases forest.openBody_cases id with same | ⟨body, -, -, opened⟩
  · rw [same]
  · rw [opened, withNested, view_modifyEntry view fun entry => kept entry _,
      growsIn_withBody.entry_eq other has]

/-- Only the block itself is opened. -/
theorem nested_openBody_of_ne (has : forest.HasBlock other)
    (different : other ≠ id) :
    ((forest.openBody id).entry other).nested = (forest.entry other).nested := by
  rcases forest.openBody_cases id with same | ⟨body, -, -, opened⟩
  · rw [same]
  · rw [opened, withNested, entry_modifyEntry_of_ne different, growsIn_withBody.entry_eq other has]

theorem Keeps.openBody (placed : forest.Placed) (id : BlockId) :
    Keeps forest (forest.openBody id) where
  hasBlock _ := hasBlock_openBody
  hasContent _ := hasContent_openBody
  block_eq _ has := view_openBody Entry.block (fun _ _ => rfl) has
  place _ has := .inl (view_openBody Entry.place (fun _ _ => rfl) has)
  text_eq _ has := by rw [content_openBody has]
  members _ has := by
    rw [members_openBody has]
  aliases _ has := by
    rw [view_openBody Entry.aliases (fun _ _ => rfl) has]
  fields _ has := by
    rw [view_openBody Entry.fields (fun _ _ => rfl) has]
  nested other inner found := by
    have has := hasBlock_of_eq_some Entry.nested rfl found
    rcases forest.openBody_cases id with same | ⟨-, closed, -, -⟩
    · rwa [same]
    · rwa [nested_openBody_of_ne has (ne_of_closed closed found)]
  nested_new other inner found := by
    rcases forest.openBody_cases id with same | ⟨body, -, -, opened⟩
    · rw [same] at found
      exact .inl found
    · rw [opened, withNested, entry_modifyEntry] at found
      split at found
      · cases found
        exact .inr nextContent_fresh
      · by_cases early : forest.HasBlock other
        · rw [growsIn_withBody.entry_eq other early] at found
          exact .inl found
        · have start : (newContent { text := body.text, row := body.row, owner := some id }
              forest).1.Placed := placed.newContent rfl
          have planted := Planted.parse body.text body.row start
            (hasContent_newContent.mpr (.inr rfl))
          have hasOther := hasBlock_of_eq_some Entry.nested rfl found
          refine .inr fun has => ?_
          exact planted.fresh other inner hasOther early found (hasContent_newContent.mpr (.inl has))

end Opening

end Docweave.Forest
