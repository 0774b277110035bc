import Docweave.Proofs.Project.Built

/-!
# The owner of a body

A content that is open in a block names this block as its owner.  So a content is open in one
block at most, whatever was read, opened, cut off or noted.
-/

namespace Docweave

open Text

namespace Forest

/-- What is open in a block names the block as its owner. -/
def Owned (forest : Forest) : Prop :=
  ∀ id inner, (forest.entry id).nested = some inner →
    forest.HasContent inner ∧ (forest.content inner).owner = some id

/-- A content is open in one block at most. -/
theorem Owned.unique {forest : Forest} (owned : forest.Owned) {id other : BlockId}
    {inner : ContentId} (nested : (forest.entry id).nested = some inner)
    (nestedOther : (forest.entry other).nested = some inner) : other = id := by
  have same := (owned other inner nestedOther).2.symm.trans (owned id inner nested).2
  cases same
  rfl

/-- Between two forests contents keep their owners, and what is open still names its block. -/
structure Owns (before after : Forest) : Prop where
  hasContent : ∀ content, before.HasContent content → after.HasContent content
  owner_eq : ∀ content, before.HasContent content →
    (after.content content).owner = (before.content content).owner
  owned : before.Owned → after.Owned

namespace Owns

variable {first second third forest : Forest} {id : BlockId} {content : ContentId} {block : Block}

theorem refl (forest : Forest) : Owns forest forest := ⟨fun _ has => has, fun _ _ => rfl, id⟩

theorem trans (early : Owns first second) (late : Owns second third) : Owns first third where
  hasContent content has := late.hasContent content (early.hasContent content has)
  owner_eq content has :=
    (late.owner_eq content (early.hasContent content has)).trans (early.owner_eq content has)
  owned isOwned := late.owned (early.owned isOwned)

/-- Where nothing is opened, only the owners count. -/
theorem of_nested_eq (nested_eq : ∀ id, (second.entry id).nested = (first.entry id).nested)
    (hasContent : ∀ content, first.HasContent content → second.HasContent content)
    (owner_eq : ∀ content, first.HasContent content →
      (second.content content).owner = (first.content content).owner) : Owns first second where
  hasContent := hasContent
  owner_eq := owner_eq
  owned isOwned id inner nested := by
    rw [nested_eq] at nested
    obtain ⟨has, owner⟩ := isOwned id inner nested
    exact ⟨hasContent inner has, (owner_eq inner has).trans owner⟩

theorem notes (notes : Notes first second) : Owns first second :=
  of_nested_eq notes.nested_eq (fun content => (notes.hasContent_iff content).mpr)
    fun content _ => by rw [notes.content_eq]

theorem truncate (has : forest.HasContent content) (length : Int) :
    Owns forest (forest.truncate content length) := by
  apply of_nested_eq
  · exact fun _ => view_truncate Entry.nested fun _ => rfl
  · exact fun _ => hasContent_truncate.mpr
  · intro inner _
    rw [content_truncate has]
    split
    · rename_i same
      rw [same]
    · rfl

theorem emptied (has : forest.HasContent content) (text : Text) (row : Int) :
    Owns forest (forest.emptied content text row) := by
  apply of_nested_eq
  · exact fun id => view_emptied Entry.nested (fun _ => rfl) id
  · exact fun _ => hasContent_emptied.mpr
  · intro inner _
    by_cases same : inner = content
    · rw [same, content_emptied_self has]
    · rw [content_emptied_of_ne same]

theorem newContent (record : Content) : Owns forest (newContent record forest).1 :=
  of_nested_eq (fun _ => rfl) (fun _ has => hasContent_newContent.mpr (.inl has))
    fun _ has => by rw [content_newContent_of_has has]

theorem withBlock (has : forest.HasContent content) :
    Owns forest (forest.withBlock content block) := by
  apply of_nested_eq
  · exact view_withBlock Entry.nested fun _ _ => rfl
  · exact growsIn_withBlock.hasContent
  · intro inner hasInner
    by_cases same : inner = content
    · rw [same, content_withBlock has]
    · rw [growsIn_withBlock.content_eq inner hasInner same]

/-- A content may be noted as the body of its owner. -/
theorem withNested {inner : ContentId} (has : forest.HasContent inner)
    (owner : (forest.content inner).owner = some id) : Owns forest (forest.withNested id inner) where
  hasContent _ := hasContent_modifyEntry.mpr
  owner_eq _ _ := rfl
  owned isOwned other found nested := by
    rw [Forest.withNested, entry_modifyEntry] at nested
    split at nested
    · rename_i changed
      cases nested
      rw [changed.1]
      exact ⟨has, owner⟩
    · exact isOwned other found nested

theorem withBranch (has : forest.HasContent content) :
    Owns forest (forest.withBranch content block) := by
  refine (withBlock has).trans ((newContent _).trans (withNested ?_ ?_))
  · exact hasContent_newContent.mpr (.inr rfl)
  · rw [content_newContent_self]

mutual

theorem plantTree (tree : BlockTree) (content : ContentId) (forest : Forest)
    (has : forest.HasContent content) : Owns forest (forest.plantTree content tree) := by
  cases tree with
  | leaf block =>
      rw [plantTree_leaf]
      exact withBlock has
  | branch block members =>
      rw [plantTree_branch]
      exact (withBranch has).trans
        (plantTrees members forest.nextContent _ (hasContent_withBranch.mpr (.inr rfl)))

theorem plantTrees (trees : List BlockTree) (content : ContentId) (forest : Forest)
    (has : forest.HasContent content) : Owns forest (forest.plantTrees content trees) := by
  cases trees with
  | nil =>
      rw [Forest.plantTrees]
      exact refl forest
  | cons tree trees =>
      rw [Forest.plantTrees]
      have head := plantTree tree content forest has
      exact head.trans (plantTrees trees content _ (head.hasContent content has))

end

theorem load (has : forest.HasContent content) (text : Text) (row : Int) :
    Owns forest (forest.load content text row) := by
  rw [load_eq]
  exact (emptied has text row).trans (plantTrees _ _ _ (hasContent_emptied.mpr has))

theorem openBody (id : BlockId) : Owns forest (forest.openBody id) := by
  rcases forest.openBody_cases id with same | ⟨body, -, -, opened⟩
  · rw [same]
    exact refl forest
  · have has : (Forest.newContent { text := body.text, row := body.row, owner := some id }
        forest).1.HasContent forest.nextContent := hasContent_newContent.mpr (.inr rfl)
    have planted := plantTrees (Outline.parse body.text body.row).members _ _ has
    rw [opened]
    refine ((newContent _).trans planted).trans (withNested (planted.hasContent _ has) ?_)
    rw [planted.owner_eq _ has, content_newContent_self]

end Owns

end Forest

namespace Project

theorem Move.owns {file : FileId} {stops : ContentId → Prop} {before after : Project}
    (move : Move file stops before after) : before.forest.Owns after.forest := by
  cases move with
  | note notes => exact .notes notes.forest
  | enter id => exact .openBody id
  | cut length has stop inside | cutFile length has stop top => exact .truncate has length

theorem Moves.owned {file : FileId} {stops : ContentId → Prop} {before after : Project}
    (moves : Moves file stops before after) (owned : before.forest.Owned) : after.forest.Owned := by
  induction moves with
  | refl => exact owned
  | tail _ move ih => exact move.owns.owned ih

/-- What is open in the projects that come about names its block. -/
theorem Built.owned {project : Project} (built : Built project) : project.forest.Owned := by
  induction built with
  | empty base =>
      intro id inner nested
      exact absurd (Forest.hasBlock_of_eq_some Entry.nested rfl nested) (Nat.not_lt_zero _)
  | @addFile project built text row path name description ih =>
      have start : (project.withFile path name description).forest.Owned :=
        (Forest.Owns.newContent {}).owned ih
      rw [addFile_eq]
      refine (Forest.Owns.load ?_ text row).owned start
      rw [file_withFile_self]
      exact Forest.hasContent_newContent.mpr (.inr rfl)
  | load built has text row ih =>
      exact (Forest.Owns.load (built.sound.hasContent _ has) text row).owned ih
  | @link project built id isMain ih =>
      exact (Forest.Owns.notes (Notes.link project id isMain).forest).owned ih
  | note built notes ih => exact (Forest.Owns.notes notes.forest).owned ih
  | openBody built id ih => exact (Forest.Owns.openBody id).owned ih
  | truncate built has length ih => exact (Forest.Owns.truncate has length).owned ih
  | rebuildTables built id ih => exact ih
  | @runFile project id built has report ih =>
      have start : ({ project, report } : Pass).project.Sound := built.sound
      obtain ⟨handings, runs⟩ := Pass.exists_runs Handler.allNoting_builtIn start has Bool.false_ne_true
      exact (runs.moves Handler.allNoting_builtIn built.sound has).owned ih

end Project

end Docweave
