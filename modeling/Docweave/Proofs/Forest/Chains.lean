import Mathlib.Data.List.SplitBy
import Docweave.Proofs.Forest.Spoken

/-!
# Chains of linked blocks

On every level the members of a content fall into chains, in which each block is linked to the next and
which go on as far as the links do.  Whatever block of a chain the traversals start at, backward, forward
or from the first block on, they find that chain, so the chains of all blocks make up the content.
-/

namespace Docweave

namespace Forest

variable {forest : Forest} {content : ContentId} {id : BlockId} {level : Level} {direction : Direction}

/-! ## Walks -/

/-- Whether a step in the direction may lead from one block to another. -/
def linkedTo (forest : Forest) (level : Level) : Direction → (id other : BlockId) → Bool
  | .forward, id, other => level.linked (forest.block id) (forest.block other)
  | .backward, id, other => level.linked (forest.block other) (forest.block id)

/-- What stands in the direction from a block in its content, nearest first. -/
def Ahead (forest : Forest) (content : ContentId) :
    Direction → (id : BlockId) → (others : List BlockId) → Prop
  | .forward, id, others => ∃ behind : List BlockId, forest.members content = behind.reverse ++ id :: others
  | .backward, id, others => ∃ behind : List BlockId, forest.members content = others.reverse ++ id :: behind

theorem Ahead.next {other : BlockId} {others : List BlockId}
    (ahead : forest.Ahead content direction id (other :: others)) :
    forest.Ahead content direction other others := by
  cases direction with
  | forward =>
      obtain ⟨behind, split⟩ := ahead
      exact ⟨id :: behind, by simp [split]⟩
  | backward =>
      obtain ⟨behind, split⟩ := ahead
      exact ⟨id :: behind, by simp [split]⟩

theorem sibling?_of_ahead {others : List BlockId} (indexed : forest.Indexed content)
    (ahead : forest.Ahead content direction id others) : forest.sibling? direction id = others.head? := by
  cases direction with
  | forward =>
      obtain ⟨behind, split⟩ := ahead
      have atPlace := indexed behind.length id (by simp [split])
      have past : behind.reverse.length ≤ behind.length + 1 := by simp
      simp only [sibling?, atPlace, split]
      rw [List.getElem?_append_right past, List.length_reverse, Nat.add_sub_cancel_left,
        List.getElem?_cons_succ, List.head?_eq_getElem?]
  | backward =>
      obtain ⟨behind, split⟩ := ahead
      have atPlace := indexed others.length id (by simp [split])
      rw [sibling?, atPlace]
      cases others with
      | nil => rfl
      | cons other others => simp [split]

theorem step?_eq (forest : Forest) (level : Level) (direction : Direction) (id : BlockId) :
    forest.step? level direction id =
      (forest.sibling? direction id).filter (forest.linkedTo level direction id) := by
  rw [step?]
  cases forest.sibling? direction id with
  | none => rfl
  | some other => cases direction <;> rfl

/-- A walk takes the blocks ahead up to the first that is not linked to the one before it. -/
theorem walkFrom_eq (indexed : forest.Indexed content) {fuel : Nat} {run rest : List BlockId}
    (ahead : forest.Ahead content direction id (run ++ rest))
    (linked : (id :: run).IsChain (forest.linkedTo level direction · ·))
    (stops : ∀ other ∈ rest.head?, ¬ forest.linkedTo level direction (run.getLast?.getD id) other)
    (enough : run.length ≤ fuel) : forest.walkFrom level direction fuel id = run := by
  -- The induction is on what is reached: the block that a step leads to is where the rest of the walk
  -- starts, with one block less ahead.
  induction run generalizing id fuel with
  | nil =>
      cases fuel with
      | zero => rfl
      | succ fuel =>
          have stuck : forest.step? level direction id = none := by
            rw [step?_eq, sibling?_of_ahead indexed ahead, List.nil_append, Option.filter_eq_none_iff]
            exact stops
          rw [walkFrom, stuck]
  | cons next run ih =>
      obtain ⟨fuel, rfl⟩ : ∃ smaller, fuel = smaller + 1 :=
        ⟨fuel - 1, (Nat.sub_add_cancel (Nat.le_trans (Nat.succ_pos _) enough)).symm⟩
      rw [List.isChain_cons_cons] at linked
      rw [List.getLast?_cons] at stops
      have goes : forest.step? level direction id = some next := by
        rw [step?_eq, sibling?_of_ahead indexed ahead, List.cons_append, List.head?_cons,
          Option.filter_some, if_pos linked.1]
      rw [walkFrom, goes]
      exact congrArg _ (ih ahead.next linked.2 stops (Nat.le_of_succ_le_succ enough))

/-! ## Chains -/

/-- Consecutive members of a content, of which each is linked to the next, while neither the first nor
the last is linked any further. -/
structure MaximalChain (forest : Forest) (level : Level) (content : ContentId)
    (before ids after : List BlockId) : Prop where
  members_eq : forest.members content = before ++ (ids ++ after)
  linked : ids.IsChain (forest.linkedTo level .forward · ·)
  stopsBefore : ∀ other ∈ before.getLast?, ∀ first ∈ ids.head?,
    ¬ forest.linkedTo level .forward other first
  stopsAfter : ∀ last ∈ ids.getLast?, ∀ other ∈ after.head?, ¬ forest.linkedTo level .forward last other

namespace MaximalChain

variable {before after ids left right : List BlockId}

theorem walk_forward (chain : forest.MaximalChain level content before (left ++ id :: right) after)
    (indexed : forest.Indexed content) : forest.walk level .forward id = right := by
  have short := indexed.length_members_le
  rw [chain.members_eq] at short
  have ahead : forest.Ahead content .forward id (right ++ after) :=
    ⟨left.reverse ++ before.reverse, by simp [chain.members_eq]⟩
  refine walkFrom_eq indexed ahead chain.linked.right_of_append ?_ ?_
  · refine chain.stopsAfter _ ?_
    rw [List.getLast?_append_cons, List.getLast?_cons]
    rfl
  · simp only [List.length_append, List.length_cons] at short
    omega

theorem walk_backward (chain : forest.MaximalChain level content before (left ++ id :: right) after)
    (indexed : forest.Indexed content) : forest.walk level .backward id = left.reverse := by
  have short := indexed.length_members_le
  rw [chain.members_eq] at short
  have ahead : forest.Ahead content .backward id (left.reverse ++ before.reverse) :=
    ⟨right ++ after, by simp [chain.members_eq]⟩
  have upTo : (left ++ [id]).IsChain (forest.linkedTo level .forward · ·) := by
    have linked := chain.linked
    rw [← List.singleton_append, ← List.append_assoc] at linked
    exact linked.left_of_append
  refine walkFrom_eq indexed ahead ?_ ?_ ?_
  · rw [← List.reverse_concat, List.isChain_reverse]
    exact upTo
  · intro other isLast
    rw [List.head?_reverse] at isLast
    rw [List.getLast?_reverse]
    refine chain.stopsBefore other isLast _ ?_
    cases left <;> rfl
  · simp only [List.length_append, List.length_cons, List.length_reverse] at short ⊢
    omega

/-- Backward the farthest block is the first of the chain. -/
theorem head?_eq (chain : forest.MaximalChain level content before ids after)
    (indexed : forest.Indexed content) (member : id ∈ ids) :
    ids.head? = some (forest.farthest level .backward id) := by
  obtain ⟨left, right, rfl⟩ := List.append_of_mem member
  rw [farthest, chain.walk_backward indexed, List.getLast?_reverse]
  cases left <;> rfl

theorem getLast?_eq (chain : forest.MaximalChain level content before ids after)
    (indexed : forest.Indexed content) (member : id ∈ ids) :
    ids.getLast? = some (forest.farthest level .forward id) := by
  obtain ⟨left, right, rfl⟩ := List.append_of_mem member
  rw [farthest, chain.walk_forward indexed, List.getLast?_append_cons, List.getLast?_cons]

/-- Every block of a chain finds the whole chain. -/
theorem chain_eq (chain : forest.MaximalChain level content before ids after)
    (indexed : forest.Indexed content) (member : id ∈ ids) (kinds : Option (List BlockKind)) :
    forest.chain level kinds id = ids.filter (forest.hasKind kinds) := by
  obtain ⟨first, rest, rfl⟩ := List.exists_cons_of_ne_nil (List.ne_nil_of_mem member)
  have isFirst := chain.head?_eq indexed member
  rw [List.head?_cons, Option.some.injEq] at isFirst
  have fromFirst : forest.MaximalChain level content before ([] ++ first :: rest) after := chain
  rw [Forest.chain, ← isFirst, fromFirst.walk_forward indexed]

end MaximalChain

/-! ## Contents cut into chains -/

section Pieces

variable {ids : List BlockId} {linked : BlockId → BlockId → Bool} {before after : List (List BlockId)}

/-- Where a list is split the last before and the first after are not linked. -/
theorem not_linked_of_splitBy (split : ids.splitBy linked = before ++ after) :
    ∀ last ∈ before.flatten.getLast?, ∀ first ∈ after.flatten.head?, ¬ linked last first := by
  have apart := List.isChain_getLast_head_splitBy linked ids
  rw [split] at apart
  rcases List.eq_nil_or_concat before with rfl | ⟨earlier, piece, rfl⟩
  · rintro last ⟨⟩
  · cases after with
    | nil => rintro last - first ⟨⟩
    | cons next later =>
        obtain ⟨some, alsoSome, notLinked⟩ :=
          (List.isChain_append.mp apart).2.2 piece (by simp) next (by simp)
        intro last isLast first isFirst
        rw [List.concat_eq_append, List.flatten_append, List.flatten_singleton,
          List.getLast?_append_of_ne_nil _ some, List.getLast?_eq_some_getLast some] at isLast
        rw [List.flatten_cons, List.head?_append_of_ne_nil _ alsoSome,
          List.head?_eq_some_head alsoSome] at isFirst
        cases isLast
        cases isFirst
        simpa using notLinked

/-- Each piece is found as often as it has members, and once when repetitions are left out. -/
theorem eraseDups_pieces {pieces : List (List BlockId)} (distinct : pieces.Nodup) (nonempty : [] ∉ pieces) :
    (pieces.flatMap fun piece => piece.map fun _ => piece).eraseDups = pieces := by
  induction pieces with
  | nil => rfl
  | cons piece pieces ih =>
      rw [List.nodup_cons] at distinct
      rw [List.mem_cons, not_or] at nonempty
      obtain ⟨first, rest, piece_eq⟩ := List.exists_cons_of_ne_nil (Ne.symm nonempty.1)
      have again : (rest.map fun _ => piece).filter (fun other => !other == piece) = [] := by
        simp
      have others : (pieces.flatMap fun piece => piece.map fun _ => piece).filter
          (fun other => !other == piece) = pieces.flatMap fun piece => piece.map fun _ => piece := by
        rw [List.filter_eq_self]
        intro other membership
        obtain ⟨known, inPieces, found⟩ := List.mem_flatMap.mp membership
        obtain ⟨-, -, rfl⟩ := List.mem_map.mp found
        have different : known ≠ piece := by
          rintro rfl
          exact distinct.1 inPieces
        simpa using different
      have repeated : piece.map (fun _ => piece) = piece :: rest.map fun _ => piece := by
        rw [piece_eq, List.map_cons]
      rw [List.flatMap_cons, repeated, List.cons_append, List.eraseDups_cons, List.filter_append, again,
        others, List.nil_append, ih distinct.2 nonempty.2]

end Pieces

theorem exists_maximalChain {piece : List BlockId}
    (member : piece ∈ (forest.members content).splitBy (forest.linkedTo level .forward)) :
    ∃ before after, forest.MaximalChain level content before piece after := by
  obtain ⟨before, after, split⟩ := List.append_of_mem member
  have nonempty := List.ne_nil_of_mem_splitBy member
  have whole := List.flatten_splitBy (forest.linkedTo level .forward) (forest.members content)
  rw [split, List.flatten_append, List.flatten_cons] at whole
  refine ⟨before.flatten, after.flatten, whole.symm, List.isChain_of_mem_splitBy member, ?_, ?_⟩
  · intro other isLast first isFirst
    refine not_linked_of_splitBy split other isLast first ?_
    rwa [List.flatten_cons, List.head?_append_of_ne_nil _ nonempty]
  · intro last isLast other isFirst
    rw [← List.singleton_append, ← List.append_assoc] at split
    refine not_linked_of_splitBy split last ?_ other isFirst
    rwa [List.flatten_append, List.flatten_singleton, List.getLast?_append_of_ne_nil _ nonempty]

theorem allFrom_none (forest : Forest) (level : Level) (direction : Direction) (id : BlockId) :
    forest.allFrom level direction none id = forest.walk level direction id :=
  List.filter_eq_self.mpr fun _ _ => rfl

theorem MaximalChain.chain_eq_self {before ids after : List BlockId}
    (chain : forest.MaximalChain level content before ids after) (indexed : forest.Indexed content)
    (member : id ∈ ids) : forest.chain level none id = ids := by
  rw [chain.chain_eq indexed member]
  exact List.filter_eq_self.mpr fun _ _ => rfl

/-- The pieces between which links are missing are the chains, each found by all its blocks. -/
theorem map_chain_eq (indexed : forest.Indexed content) (level : Level) :
    (forest.members content).map (forest.chain level none) =
      ((forest.members content).splitBy (forest.linkedTo level .forward)).flatMap fun piece =>
        piece.map fun _ => piece := by
  conv => lhs; rw [← List.flatten_splitBy (forest.linkedTo level .forward) (forest.members content)]
  rw [List.map_flatten, List.flatMap]
  congr 1
  apply List.map_congr_left
  intro piece inPieces
  apply List.map_congr_left
  intro id member
  obtain ⟨before, after, chain⟩ := exists_maximalChain inPieces
  exact chain.chain_eq_self indexed member

/-- The chain of a block is the one stretch of linked blocks around it that goes on as far as the links
do, read the same from each of its blocks and in either direction, and the chains make up the content. -/
theorem chains_of_indexed (indexed : forest.Indexed content) (level : Level) :
    (∀ id ∈ forest.members content,
      id ∈ forest.chain level none id ∧
      (∀ ids, id ∈ ids → ((∃ before after, forest.MaximalChain level content before ids after) ↔
        ids = forest.chain level none id)) ∧
      forest.chain level none id =
        (forest.allFrom level .backward none id).reverse ++ id :: forest.allFrom level .forward none id ∧
      (forest.chain level none id).head? = some (forest.farthest level .backward id) ∧
      (forest.chain level none id).getLast? = some (forest.farthest level .forward id) ∧
      ∀ other ∈ forest.chain level none id, forest.chain level none other = forest.chain level none id) ∧
    ((forest.members content).map (forest.chain level none)).eraseDups.flatten = forest.members content := by
  have whole := List.flatten_splitBy (forest.linkedTo level .forward) (forest.members content)
  constructor
  · intro id member
    -- The block stands in one of the pieces into which the content is cut where a link is missing.
    rw [← whole] at member
    obtain ⟨ids, inPieces, inIds⟩ := List.mem_flatten.mp member
    obtain ⟨before, after, chain⟩ := exists_maximalChain inPieces
    have chain_eq := chain.chain_eq_self indexed inIds
    rw [chain_eq, allFrom_none, allFrom_none]
    refine ⟨inIds, ?_, ?_, chain.head?_eq indexed inIds, chain.getLast?_eq indexed inIds, ?_⟩
    · intro others inOthers
      constructor
      · rintro ⟨_, _, another⟩
        exact (another.chain_eq_self indexed inOthers).symm.trans chain_eq
      · rintro rfl
        exact ⟨before, after, chain⟩
    · obtain ⟨left, right, rfl⟩ := List.append_of_mem inIds
      rw [chain.walk_backward indexed, chain.walk_forward indexed, List.reverse_reverse]
    · intro other inOthers
      exact chain.chain_eq_self indexed inOthers
  · have nonempty := List.nil_notMem_splitBy (forest.linkedTo level .forward) (forest.members content)
    -- Pieces that are equal would share their members, and no member is repeated.
    have distinct : ((forest.members content).splitBy (forest.linkedTo level .forward)).Nodup := by
      have separate := indexed.nodup
      rw [← whole, List.nodup_flatten] at separate
      refine separate.2.imp_of_mem ?_
      rintro piece _ inPieces - disjoint rfl
      obtain ⟨first, inPiece⟩ := List.exists_mem_of_ne_nil piece (List.ne_nil_of_mem_splitBy inPieces)
      exact disjoint inPiece inPiece
    rw [map_chain_eq indexed, eraseDups_pieces distinct nonempty, whole]

/-- A comment with a blank row after it is a chain of its own, and two variables are one. -/
theorem chains_of_indexed_variables :
    let forest := (ofText "// a\n\nlet b = 1\nlet c = 2\n" 1).1
    forest.Indexed ⟨0⟩ ∧
      (forest.members ⟨0⟩).map (forest.chain .grouped none) = [[⟨0⟩], [⟨1⟩, ⟨2⟩], [⟨1⟩, ⟨2⟩]] ∧
      ((forest.members ⟨0⟩).map (forest.chain .grouped none)).eraseDups.flatten = [⟨0⟩, ⟨1⟩, ⟨2⟩] := by
  intro forest
  have indexed := (reads_ofText "// a\n\nlet b = 1\nlet c = 2\n" 1).placed.indexed ⟨0⟩
  have members_eq : forest.members ⟨0⟩ = [⟨0⟩, ⟨1⟩, ⟨2⟩] := by decide +kernel
  refine ⟨indexed, by decide +kernel, ?_⟩
  rw [(chains_of_indexed indexed .grouped).2]
  exact members_eq

end Forest

end Docweave
