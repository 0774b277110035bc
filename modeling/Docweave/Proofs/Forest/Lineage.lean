import Docweave.Proofs.Forest.Owner
import Docweave.Proofs.Forest.Source
import Docweave.Proofs.Forest.Spoken

/-!
# The blocks around a block

In a forest that was read from a text, and in which bodies were opened, every content but the first
belongs to the block in which it is open.  That block stands in an older content, so whoever climbs
from a block to its owner, and on to the owner of the owner, arrives at the first content after no
more steps than there are blocks.
-/

namespace Docweave.Forest

variable {forest first second third : Forest} {id owner : BlockId} {content inner top : ContentId}

/-! ## Contents and their owners -/

/-- Between two forests contents keep their owners, what is open stays open, every new content is open
in its owner, and no block is exported. -/
structure Adopts (before after : Forest) : Prop extends Owns before after where
  nested_eq : ∀ id inner, (before.entry id).nested = some inner → (after.entry id).nested = some inner
  adopted : ∀ content, after.HasContent content → ¬ before.HasContent content →
    ∃ id, (after.content content).owner = some id ∧ (after.entry id).nested = some content
  exported_eq : ∀ id, (after.entry id).exportedName = (before.entry id).exportedName

namespace Adopts

theorem refl (forest : Forest) : Adopts forest forest where
  toOwns := .refl forest
  nested_eq _ _ nested := nested
  adopted _ has missing := absurd has missing
  exported_eq _ := rfl

theorem trans (early : Adopts first second) (late : Adopts second third) : Adopts first third where
  toOwns := early.toOwns.trans late.toOwns
  nested_eq id inner nested := late.nested_eq id inner (early.nested_eq id inner nested)
  adopted content has missing := by
    by_cases between : second.HasContent content
    · obtain ⟨id, owner, nested⟩ := early.adopted content between missing
      exact ⟨id, (late.owner_eq content between).trans owner, late.nested_eq id content nested⟩
    · exact late.adopted content has between
  exported_eq id := (late.exported_eq id).trans (early.exported_eq id)

end Adopts

theorem exportedName_withNested {other : BlockId} :
    ((forest.withNested id inner).entry other).exportedName = (forest.entry other).exportedName :=
  view_modifyEntry Entry.exportedName fun _ => rfl

theorem adopts_withBlock (has : forest.HasContent content) (block : Block) :
    Adopts forest (forest.withBlock content block) where
  toOwns := .withBlock has
  nested_eq id inner nested := by rwa [view_withBlock Entry.nested (fun _ _ => rfl)]
  adopted inner hasInner missing := absurd (by simpa [withBlock] using hasInner) missing
  exported_eq := view_withBlock Entry.exportedName fun _ _ => rfl

theorem adopts_withBranch (has : forest.HasContent content) (block : Block) :
    Adopts forest (forest.withBranch content block) where
  toOwns := .withBranch has
  nested_eq id inner nested := by
    rw [growsIn_withBranch.entry_eq id (hasBlock_of_eq_some Entry.nested rfl nested), nested]
  adopted inner hasInner missing := by
    obtain rfl := (hasContent_withBranch.mp hasInner).resolve_left missing
    refine ⟨forest.nextBlock, ?_, by rw [entry_withBranch]⟩
    rw [withBranch, withInner, withNested, content_modifyEntry, ← nextContent_withBlock content block,
      content_newContent_self]
  exported_eq id := by
    rw [withBranch, withInner, exportedName_withNested, entry_newContent]
    exact view_withBlock Entry.exportedName (fun _ _ => rfl) id

mutual

theorem adopts_plantTree (tree : BlockTree) (content : ContentId) (forest : Forest)
    (has : forest.HasContent content) : Adopts forest (forest.plantTree content tree) := by
  cases tree with
  | leaf block =>
      rw [plantTree_leaf]
      exact adopts_withBlock has block
  | branch block members =>
      rw [plantTree_branch]
      exact (adopts_withBranch has block).trans
        (adopts_plantTrees members forest.nextContent _ (hasContent_withBranch.mpr (.inr rfl)))

theorem adopts_plantTrees (trees : List BlockTree) (content : ContentId) (forest : Forest)
    (has : forest.HasContent content) : Adopts forest (forest.plantTrees content trees) := by
  cases trees with
  | nil =>
      rw [plantTrees]
      exact .refl forest
  | cons tree trees =>
      rw [plantTrees]
      have head := adopts_plantTree tree content forest has
      exact head.trans (adopts_plantTrees trees content _ (head.hasContent content has))

end

/-- A body that is opened belongs to its block. -/
theorem adopts_openBody (id : BlockId) : Adopts forest (forest.openBody id) := by
  rcases forest.openBody_cases id with same | ⟨body, closed, found, opened⟩
  · rw [same]
    exact .refl forest
  · let record : Content := { text := body.text, row := body.row, owner := some id }
    have has : (newContent record forest).1.HasContent forest.nextContent :=
      hasContent_newContent.mpr (.inr rfl)
    have planted : Adopts (newContent record forest).1 (forest.withBody id body) :=
      adopts_plantTrees (Outline.parse body.text body.row).members _ _ has
    have entry_eq : (forest.withBody id body).entry id = forest.entry id :=
      growsIn_withBody.entry_eq id (hasBlock_of_body? found)
    rw [opened]
    constructor
    · rw [← opened]
      exact Owns.openBody id
    · intro other inner nested
      rw [withNested, entry_modifyEntry_of_ne (ne_of_closed closed nested)]
      exact planted.nested_eq other inner nested
    · intro content hasContent missing
      by_cases new : content = forest.nextContent
      · subst new
        refine ⟨id, ?_, ?_⟩
        · exact (planted.owner_eq _ has).trans (congrArg Content.owner content_newContent_self)
        · rw [withNested, entry_modifyEntry_self
            (growsIn_withBody.hasBlock id (hasBlock_of_body? found))]
      · obtain ⟨other, owner, nested⟩ := planted.adopted content hasContent
          (by simp [hasContent_newContent, missing, new])
        have different := ne_of_closed (entry_eq ▸ closed) nested
        exact ⟨other, owner, by rw [withNested, entry_modifyEntry_of_ne different, nested]⟩
    · intro other
      exact exportedName_withNested.trans (planted.exported_eq other)

/-- Every content but the first belongs to the block in which it is open, which stands in an older
content, and no block is exported. -/
structure RootedIn (top : ContentId) (forest : Forest) : Prop where
  placed : forest.Placed
  topOwner : (forest.content top).owner = none
  owner_iff : ∀ id inner, (forest.content inner).owner = some id ↔ (forest.entry id).nested = some inner
  owned : ∀ inner, forest.HasContent inner → inner ≠ top → ∃ id, (forest.content inner).owner = some id
  older : ∀ id inner, (forest.entry id).nested = some inner →
    ∃ place, (forest.entry id).place = some place ∧ place.content.index < inner.index
  unexported : ∀ id, (forest.entry id).exportedName = none

theorem adopts_openAll (ids : List BlockId) : Adopts forest (forest.openAll ids) := by
  induction ids generalizing forest with
  | nil => exact .refl forest
  | cons id ids ih => exact (adopts_openBody id).trans ih

theorem rootedIn_openAll (text : Text) (row : Int) (ids : List BlockId) :
    RootedIn (ofText text row).2 ((ofText text row).1.openAll ids) := by
  have reads := (reads_ofText text row).openAll ids
  have has : (newContent { text, row } {}).1.HasContent ⟨0⟩ := hasContent_newContent.mpr (.inr rfl)
  have start : (newContent { text, row } {}).1.Owned := by
    intro id inner nested
    exact absurd (hasBlock_of_eq_some Entry.nested rfl nested) (Nat.not_lt_zero _)
  have adopts : Adopts (newContent { text, row } {}).1 ((ofText text row).1.openAll ids) := by
    rw [ofText_eq]
    exact (adopts_plantTrees _ _ _ has).trans (adopts_openAll ids)
  have owned := adopts.owned start
  have topOwner := (adopts.owner_eq ⟨0⟩ has).trans (congrArg Content.owner content_newContent_self)
  have adopted (inner : ContentId) (hasInner : ((ofText text row).1.openAll ids).HasContent inner)
      (notTop : inner ≠ ⟨0⟩) := adopts.adopted inner hasInner fun early =>
    (hasContent_newContent.mp early).elim (Nat.not_lt_zero _) notTop
  constructor
  · exact reads.placed
  · exact topOwner
  · intro id inner
    refine ⟨fun owner => ?_, fun nested => (owned id inner nested).2⟩
    have hasInner : ((ofText text row).1.openAll ids).HasContent inner := by
      apply Decidable.byContradiction
      intro missing
      rw [content_of_not_hasContent missing] at owner
      cases owner
    have notTop : inner ≠ ⟨0⟩ := by
      rintro rfl
      rw [topOwner] at owner
      cases owner
    obtain ⟨other, same, nested⟩ := adopted inner hasInner notTop
    rw [owner] at same
    cases same
    exact nested
  · intro inner hasInner notTop
    obtain ⟨id, owner, -⟩ := adopted inner hasInner notTop
    exact ⟨id, owner⟩
  · intro id inner nested
    exact (reads.isBodyOf nested).older
  · intro id
    rw [adopts.exported_eq id, entry_of_not_hasBlock (Nat.not_lt_zero _)]
    rfl

/-! ## Climbing to the first content -/

/-- A block and the blocks in whose bodies it stands, from the inside out. -/
inductive Ancestry (forest : Forest) : BlockId → List BlockId → Prop
  | outermost {id : BlockId} (free : forest.owner? id = none) : Ancestry forest id [id]
  | inside {id owner : BlockId} {chain : List BlockId} (owned : forest.owner? id = some owner)
      (outer : Ancestry forest owner chain) : Ancestry forest id (id :: chain)

theorem Ancestry.ownersFrom_eq {chain : List BlockId} (ancestry : Ancestry forest id chain) {fuel : Nat}
    (enough : chain.length ≤ fuel + 1) : forest.ownersFrom fuel id = chain := by
  induction ancestry generalizing fuel with
  | outermost free =>
      cases fuel with
      | zero => rfl
      | succ fuel => rw [ownersFrom, free]
  | inside owned outer ih =>
      cases fuel with
      | zero =>
          cases outer <;> simp at enough
      | succ fuel =>
          rw [ownersFrom, owned]
          exact congrArg _ (ih (Nat.le_of_succ_le_succ enough))

theorem RootedIn.owner?_eq (rooted : RootedIn top forest) (member : id ∈ forest.members content) :
    forest.owner? id = (forest.content content).owner := by
  obtain ⟨index, atIndex⟩ := List.mem_iff_getElem?.mp member
  rw [owner?, parent?, rooted.placed.place_of_member atIndex]
  rfl

/-- Owners stand in ever older contents, so no block is met twice on the way up. -/
theorem RootedIn.exists_ancestry (rooted : RootedIn top forest) {place : Place} (id : BlockId)
    (atPlace : (forest.entry id).place = some place) :
    ∃ chain, Ancestry forest id chain ∧ chain.Nodup ∧ ∀ other ∈ chain, ∃ outer,
      (forest.entry other).place = some outer ∧ outer.content.index ≤ place.content.index := by
  have owner_eq : forest.owner? id = (forest.content place.content).owner := by
    rw [owner?, parent?, atPlace]
    rfl
  cases owner : (forest.content place.content).owner with
  | none =>
      refine ⟨[id], .outermost (owner_eq.trans owner), List.nodup_singleton id, ?_⟩
      intro other membership
      obtain rfl := List.mem_singleton.mp membership
      exact ⟨place, atPlace, Nat.le_refl _⟩
  | some outer =>
      obtain ⟨outerPlace, atOuter, older⟩ := rooted.older outer _ ((rooted.owner_iff _ _).mp owner)
      obtain ⟨chain, ancestry, distinct, bounded⟩ := rooted.exists_ancestry outer atOuter
      refine ⟨id :: chain, .inside (owner_eq.trans owner) ancestry, List.nodup_cons.mpr ⟨?_, distinct⟩, ?_⟩
      · intro membership
        obtain ⟨again, atAgain, within⟩ := bounded id membership
        rw [atPlace, Option.some.injEq] at atAgain
        subst atAgain
        omega
      · intro other membership
        rcases List.mem_cons.mp membership with rfl | inChain
        · exact ⟨place, atPlace, Nat.le_refl _⟩
        · obtain ⟨otherPlace, atOther, within⟩ := bounded other inChain
          exact ⟨otherPlace, atOther, by omega⟩
termination_by place.content.index

theorem RootedIn.ancestry_lineage (rooted : RootedIn top forest) (member : id ∈ forest.members content) :
    Ancestry forest id (forest.lineage id).reverse := by
  obtain ⟨index, atIndex⟩ := List.mem_iff_getElem?.mp member
  obtain ⟨chain, ancestry, distinct, bounded⟩ :=
    rooted.exists_ancestry id (rooted.placed.place_of_member atIndex)
  have short : chain.length ≤ forest.entries.size := by
    apply length_le_of_nodup distinct
    intro other membership
    obtain ⟨place, atPlace, -⟩ := bounded other membership
    exact hasBlock_of_eq_some Entry.place rfl atPlace
  rw [lineage, ancestry.ownersFrom_eq (by omega), List.reverse_reverse]
  exact ancestry

theorem Ancestry.unique {chain other : List BlockId} (ancestry : Ancestry forest id chain)
    (another : Ancestry forest id other) : other = chain := by
  induction ancestry generalizing other with
  | outermost free =>
      cases another with
      | outermost => rfl
      | inside owned =>
          rw [free] at owned
          cases owned
  | inside owned outer ih =>
      cases another with
      | outermost free =>
          rw [free] at owned
          cases owned
      | inside ownedAgain outerAgain =>
          rw [owned, Option.some.injEq] at ownedAgain
          subst ownedAgain
          rw [ih outerAgain]

/-- The owner of a content stands in an older one. -/
theorem RootedIn.exists_mem_of_owner (rooted : RootedIn top forest)
    (owner_eq : (forest.content content).owner = some owner) :
    ∃ outer, owner ∈ forest.members outer ∧ outer.index < content.index := by
  obtain ⟨place, atPlace, older⟩ := rooted.older owner content ((rooted.owner_iff _ _).mp owner_eq)
  exact ⟨place.content, List.mem_of_getElem? ((rooted.placed _ _ _).mpr atPlace), older⟩

theorem RootedIn.lineage_of_outermost (rooted : RootedIn top forest)
    (member : id ∈ forest.members content) (free : (forest.content content).owner = none) :
    forest.lineage id = [id] := by
  have ancestry := rooted.ancestry_lineage member
  have single := (Ancestry.outermost ((rooted.owner?_eq member).trans free)).unique ancestry
  rw [← List.reverse_reverse (forest.lineage id), single]
  rfl

/-- The lineage of a block goes on where that of its owner ends. -/
theorem RootedIn.lineage_of_owner (rooted : RootedIn top forest) (member : id ∈ forest.members content)
    (owner_eq : (forest.content content).owner = some owner) :
    forest.lineage id = forest.lineage owner ++ [id] := by
  obtain ⟨outer, memberOuter, -⟩ := rooted.exists_mem_of_owner owner_eq
  have ancestry := rooted.ancestry_lineage member
  have outward := rooted.ancestry_lineage memberOuter
  have longer := (Ancestry.inside ((rooted.owner?_eq member).trans owner_eq) outward).unique ancestry
  rw [← List.reverse_reverse (forest.lineage id), longer, List.reverse_cons, List.reverse_reverse]

/-! ## Descending from a content -/

/-- Blocks of which each stands in the body of the one before it, from a content on. -/
inductive Descends (forest : Forest) : ContentId → List BlockId → Prop
  | last {content : ContentId} {id : BlockId} (member : id ∈ forest.members content) :
      Descends forest content [id]
  | inside {content inner : ContentId} {id : BlockId} {ids : List BlockId}
      (member : id ∈ forest.members content) (nested : (forest.entry id).nested = some inner)
      (rest : Descends forest inner ids) : Descends forest content (id :: ids)

theorem Descends.concat {outer : ContentId} {ids : List BlockId} (descends : Descends forest outer ids)
    (last : ids.getLast? = some owner) (nested : (forest.entry owner).nested = some inner)
    (member : id ∈ forest.members inner) : Descends forest outer (ids ++ [id]) := by
  induction descends with
  | last memberOwner =>
      cases last
      exact .inside memberOwner nested (.last member)
  | inside memberFirst nestedFirst rest ih =>
      refine .inside memberFirst nestedFirst (ih ?_)
      cases rest <;> exact last

theorem RootedIn.getLast?_lineage (rooted : RootedIn top forest) (member : id ∈ forest.members content) :
    (forest.lineage id).getLast? = some id := by
  cases owner_eq : (forest.content content).owner with
  | none => rw [rooted.lineage_of_outermost member owner_eq, List.getLast?_singleton]
  | some owner => rw [rooted.lineage_of_owner member owner_eq, List.getLast?_concat]

/-- The lineage of a block descends to it from the first content. -/
theorem RootedIn.descends_lineage (rooted : RootedIn top forest) (content : ContentId) (id : BlockId)
    (member : id ∈ forest.members content) : Descends forest top (forest.lineage id) := by
  cases owner_eq : (forest.content content).owner with
  | none =>
      have first : content = top := by
        apply Decidable.byContradiction
        intro notTop
        obtain ⟨owner, owned⟩ :=
          rooted.owned content (rooted.placed.hasContent_of_member member) notTop
        rw [owner_eq] at owned
        cases owned
      rw [rooted.lineage_of_outermost member owner_eq]
      exact .last (first ▸ member)
  | some owner =>
      obtain ⟨outer, memberOuter, older⟩ := rooted.exists_mem_of_owner owner_eq
      have descends := rooted.descends_lineage outer owner memberOuter
      rw [rooted.lineage_of_owner member owner_eq]
      exact descends.concat (rooted.getLast?_lineage memberOuter) ((rooted.owner_iff _ _).mp owner_eq)
        member
termination_by content.index

end Docweave.Forest
