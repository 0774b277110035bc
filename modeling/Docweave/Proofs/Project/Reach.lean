import Docweave.Project.Reach
import Mathlib.Data.Fintype.Card
import Mathlib.Data.Set.Finite.List
import Mathlib.Logic.Relation

/-!
# What the walks over a graph reach

Each walk is described without a bound on its length, by the rounds it makes until its queue is
empty.  The number of edges is enough for that, so a closure is everything that a node leads
to, and the ends of a node are the nodes without neighbours among these.  Where every edge can
be followed in either direction, the rounds of root finding come to an end with all nodes
covered, on every graph.
-/

namespace Docweave.Reach

variable {α : Type}

/-- One node leads to another along the edges of a graph, in any number of steps. -/
abbrev Leads (neighbours : α → List α) : α → α → Prop :=
  Relation.ReflTransGen fun node next => next ∈ neighbours node

/-! ## Rounds without a bound -/

section Rounds

variable [DecidableEq α] (neighbours : α → List α)

/-- The rounds of a closure: the first node of the queue is passed over or added, until the queue is
empty. -/
inductive Gathers (start : α) : (queue found result : List α) → Prop where
  | done {found : List α} : Gathers start [] found found
  | skip {node : α} {queue found result : List α} (known : node ∈ start :: found)
      (rest : Gathers start queue found result) : Gathers start (node :: queue) found result
  | add {node : α} {queue found result : List α} (new : node ∉ start :: found)
      (rest : Gathers start (queue ++ neighbours node) (found ++ [node]) result) :
      Gathers start (node :: queue) found result

/-- The rounds of a search for nodes without neighbours. -/
inductive GathersEnds : (queue visited found result : List α) → Prop where
  | done {visited found : List α} : GathersEnds [] visited found found
  | skip {node : α} {queue visited found result : List α} (known : node ∈ visited)
      (rest : GathersEnds queue visited found result) :
      GathersEnds (node :: queue) visited found result
  | last {node : α} {queue visited found result : List α} (new : node ∉ visited)
      (final : neighbours node = [])
      (rest : GathersEnds queue (visited ++ [node]) (found ++ [node]) result) :
      GathersEnds (node :: queue) visited found result
  | add {node : α} {queue visited found result : List α} (new : node ∉ visited)
      (leadsOn : neighbours node ≠ [])
      (rest : GathersEnds (queue ++ neighbours node) (visited ++ [node]) found result) :
      GathersEnds (node :: queue) visited found result

/-- The ends of a node are those that the search finds, or the node itself when it finds none. -/
inductive HasEnds (start : α) : (ends : List α) → Prop where
  | found {ends : List α} (search : GathersEnds neighbours (neighbours start) [] [] ends)
      (nonempty : ends ≠ []) : HasEnds start ends
  | itself (search : GathersEnds neighbours (neighbours start) [] [] []) : HasEnds start [start]

/-- The rounds of root finding: as long as fewer nodes are covered than there are, the first one that
is not covered leads to more roots, and what these reach backwards is covered. -/
inductive FindsRoots (forward backward : α → List α) (nodes : List α) :
    (roots covered result : List α) → Prop where
  | done {roots covered : List α} (all : nodes.length ≤ covered.length) :
      FindsRoots forward backward nodes roots covered roots
  | round {node : α} {roots covered found result : List α} {reached : α → List α}
      (incomplete : covered.length < nodes.length)
      (first : nodes.find? (fun node => node ∉ covered) = some node)
      (ends : HasEnds forward node found)
      (closures : ∀ root ∈ found, Gathers backward root (backward root) [] (reached root))
      (rest : FindsRoots forward backward nodes (roots ++ found).eraseDups
        (covered ++ found ++ [node] ++ found.flatMap reached).eraseDups result) :
      FindsRoots forward backward nodes roots covered result

end Rounds

/-! ## The number of edges bounds the rounds -/

section Bounds

variable {neighbours : α → List α} {nodes : List α}

theorem edgeCount_cons (node : α) (nodes : List α) :
    edgeCount neighbours (node :: nodes) = (neighbours node).length + edgeCount neighbours nodes :=
  rfl

theorem edgeCount_filter_le (neighbours : α → List α) (test : α → Bool) (nodes : List α) :
    edgeCount neighbours (nodes.filter test) ≤ edgeCount neighbours nodes := by
  induction nodes with
  | nil => exact Nat.le_refl _
  | cons node nodes ih =>
      rw [List.filter_cons, edgeCount_cons]
      split
      · rw [edgeCount_cons]
        omega
      · omega

theorem edgeCount_filter_ne [DecidableEq α] {node : α} {nodes : List α} (inside : node ∈ nodes) :
    (neighbours node).length + edgeCount neighbours (nodes.filter fun other => other ≠ node) ≤
      edgeCount neighbours nodes := by
  induction nodes with
  | nil => cases inside
  | cons other nodes ih =>
      by_cases same : other = node
      · subst same
        rw [List.filter_cons_of_neg (by simp), edgeCount_cons]
        exact Nat.add_le_add_left (edgeCount_filter_le _ _ nodes) _
      · have inTail : node ∈ nodes := by
          rcases List.mem_cons.mp inside with equal | inTail
          · exact absurd equal.symm same
          · exact inTail
        have fewer := ih inTail
        rw [List.filter_cons_of_pos (by simpa using same), edgeCount_cons, edgeCount_cons]
        omega

variable [DecidableEq α]

/-- Number of edges that start at nodes a walk has not been at. -/
def edgesAhead (neighbours : α → List α) (nodes seen : List α) : Nat :=
  edgeCount neighbours (nodes.filter fun node => node ∉ seen)

/-- A node that was not seen takes its edges with it. -/
theorem edgesAhead_append {node : α} {seen : List α}
    (outside : ∀ node, node ∉ nodes → neighbours node = []) (new : node ∉ seen) :
    (neighbours node).length + edgesAhead neighbours nodes (seen ++ [node]) ≤
      edgesAhead neighbours nodes seen := by
  have narrower : edgesAhead neighbours nodes (seen ++ [node]) = edgeCount neighbours
      ((nodes.filter fun other => other ∉ seen).filter fun other => other ≠ node) := by
    rw [edgesAhead, List.filter_filter]
    congr 2
    funext other
    simp [not_or, Bool.and_comm]
  rw [narrower, edgesAhead]
  by_cases inside : node ∈ nodes
  · apply edgeCount_filter_ne
    simp [inside, new]
  · rw [outside node inside, List.length_nil, Nat.zero_add]
    exact edgeCount_filter_le _ _ _

theorem gathers_closureFrom (outside : ∀ node, node ∉ nodes → neighbours node = []) (start : α)
    {fuel : Nat} {queue found : List α}
    (enough : queue.length + edgesAhead neighbours nodes (start :: found) ≤ fuel) :
    Gathers neighbours start queue found (closureFrom neighbours start fuel queue found) := by
  induction fuel generalizing queue found with
  | zero =>
      cases queue with
      | nil => exact .done
      | cons node queue => simp at enough
  | succ fuel ih =>
      cases queue with
      | nil => exact .done
      | cons node queue =>
          rw [List.length_cons] at enough
          rw [closureFrom]
          split
          · rename_i known
            apply Gathers.skip
            · rcases known with inFound | equal
              · exact List.mem_cons_of_mem _ inFound
              · exact equal ▸ List.mem_cons_self
            · exact ih (by omega)
          · rename_i unknown
            have new : node ∉ start :: found := by
              rw [List.mem_cons, not_or]
              exact ⟨fun equal => unknown (.inr equal), fun inFound => unknown (.inl inFound)⟩
            have fewer := edgesAhead_append outside new
            apply Gathers.add new
            apply ih
            rw [List.length_append]
            rw [List.cons_append] at fewer
            omega

theorem gathersEnds_endsFrom (outside : ∀ node, node ∉ nodes → neighbours node = []) {fuel : Nat}
    {queue visited found : List α}
    (enough : queue.length + edgesAhead neighbours nodes visited ≤ fuel) :
    GathersEnds neighbours queue visited found
      (endsFrom neighbours fuel queue visited found) := by
  induction fuel generalizing queue visited found with
  | zero =>
      cases queue with
      | nil => exact .done
      | cons node queue => simp at enough
  | succ fuel ih =>
      cases queue with
      | nil => exact .done
      | cons node queue =>
          rw [List.length_cons] at enough
          rw [endsFrom]
          split
          · rename_i known
            exact .skip known (ih (by omega))
          · rename_i new
            have fewer := edgesAhead_append outside new
            split
            · rename_i final
              exact .last new final (ih (by omega))
            · rename_i leadsOn
              apply GathersEnds.add new leadsOn
              apply ih
              rw [List.length_append]
              omega

theorem gathers_closure (outside : ∀ node, node ∉ nodes → neighbours node = []) (start : α) :
    Gathers neighbours start (neighbours start) [] (closure neighbours nodes start) := by
  apply gathers_closureFrom outside
  have fewer := edgeCount_filter_le neighbours
    (fun node => node ∉ [start]) nodes
  rw [edgesAhead]
  omega

theorem hasEnds_ends (outside : ∀ node, node ∉ nodes → neighbours node = []) (start : α) :
    HasEnds neighbours start (ends neighbours nodes start) := by
  have search : GathersEnds neighbours (neighbours start) [] []
      (endsFrom neighbours ((neighbours start).length + edgeCount neighbours nodes + 1)
        (neighbours start) [] []) := by
    apply gathersEnds_endsFrom outside
    have fewer := edgeCount_filter_le neighbours (fun node => node ∉ []) nodes
    rw [edgesAhead]
    omega
  rw [ends]
  split
  · rename_i noEnd
    rw [Bool.or_eq_true, List.isEmpty_iff, List.isEmpty_iff] at noEnd
    apply HasEnds.itself
    rcases noEnd with alone | nothing
    · rw [alone]
      exact .done
    · rwa [nothing] at search
  · rename_i someEnd
    rw [Bool.or_eq_true, List.isEmpty_iff, List.isEmpty_iff, not_or] at someEnd
    exact .found search someEnd.2

end Bounds

/-! ## What is found is what is reached -/

/-- A search has been at the nodes of `seen` and goes on from those of `queue`. -/
structure Explores (neighbours : α → List α) (seeds queue seen : List α) : Prop where
  sound : ∀ node, node ∈ queue ∨ node ∈ seen → ∃ seed ∈ seeds, Leads neighbours seed node
  seeds_met : ∀ seed ∈ seeds, seed ∈ seen ∨ seed ∈ queue
  closed : ∀ node ∈ seen, ∀ next ∈ neighbours node, next ∈ seen ∨ next ∈ queue

namespace Explores

variable {neighbours : α → List α} {seeds queue seen : List α} {node : α}

theorem skip (explores : Explores neighbours seeds (node :: queue) seen) (known : node ∈ seen) :
    Explores neighbours seeds queue seen where
  sound other met := explores.sound other (met.imp_left (List.mem_cons_of_mem _))
  seeds_met seed inSeeds := by
    have met := explores.seeds_met seed inSeeds
    grind
  closed other inSeen next isNext := by
    have met := explores.closed other inSeen next isNext
    grind

theorem add (explores : Explores neighbours seeds (node :: queue) seen) :
    Explores neighbours seeds (queue ++ neighbours node) (seen ++ [node]) where
  sound other met := by
    obtain ⟨seed, inSeeds, toNode⟩ := explores.sound node (.inl List.mem_cons_self)
    rw [List.mem_append, List.mem_append, List.mem_singleton] at met
    rcases met with (inQueue | isNext) | (inSeen | rfl)
    · exact explores.sound other (.inl (List.mem_cons_of_mem _ inQueue))
    · exact ⟨seed, inSeeds, toNode.tail isNext⟩
    · exact explores.sound other (.inr inSeen)
    · exact ⟨seed, inSeeds, toNode⟩
  seeds_met seed inSeeds := by
    have met := explores.seeds_met seed inSeeds
    grind
  closed other inSeen next isNext := by
    have met := explores.closed other
    grind

/-- Once the queue is empty, the search has been exactly where the seeds lead to. -/
theorem mem_seen_iff (explores : Explores neighbours seeds [] seen) :
    node ∈ seen ↔ ∃ seed ∈ seeds, Leads neighbours seed node := by
  constructor
  · intro inSeen
    exact explores.sound node (.inr inSeen)
  · rintro ⟨seed, inSeeds, leads⟩
    have closed : ∀ node ∈ seen, ∀ next ∈ neighbours node, next ∈ seen := by
      intro node inSeen next isNext
      simpa using explores.closed node inSeen next isNext
    induction leads with
    | refl => simpa using explores.seeds_met seed inSeeds
    | tail _ isNext ih => exact closed _ ih _ isNext

end Explores

section Found

variable [DecidableEq α] {neighbours : α → List α} {start : α} {seeds queue visited found result : List α}

theorem Gathers.explores (gathers : Gathers neighbours start queue found result)
    (explores : Explores neighbours [start] queue (start :: found))
    (nodup : (start :: found).Nodup) :
    Explores neighbours [start] [] (start :: result) ∧ (start :: result).Nodup := by
  induction gathers with
  | done => exact ⟨explores, nodup⟩
  | skip known _ ih => exact ih (explores.skip known) nodup
  | add new _ ih =>
      apply ih explores.add
      rw [← List.cons_append]
      grind

/-- A closure lists, each once, the other nodes to which its start leads. -/
theorem Gathers.mem_iff (gathers : Gathers neighbours start (neighbours start) [] result) :
    result.Nodup ∧ ∀ node, node ∈ result ↔ node ≠ start ∧ Leads neighbours start node := by
  have explores : Explores neighbours [start] (neighbours start) [start] := by
    constructor
    · rintro node (isNext | isStart)
      · exact ⟨start, List.mem_singleton_self _, .single isNext⟩
      · exact ⟨start, List.mem_singleton_self _, List.mem_singleton.mp isStart ▸ .refl⟩
    · exact fun seed isStart => .inl isStart
    · intro node isStart next isNext
      exact .inr (List.mem_singleton.mp isStart ▸ isNext)
  obtain ⟨all, nodup⟩ := gathers.explores explores (List.nodup_singleton start)
  obtain ⟨startOutside, nodupResult⟩ := List.nodup_cons.mp nodup
  refine ⟨nodupResult, ?_⟩
  intro node
  have reached : node ∈ start :: result ↔ ∃ seed ∈ [start], Leads neighbours seed node :=
    all.mem_seen_iff
  simp only [List.mem_singleton, exists_eq_left] at reached
  rw [← reached, List.mem_cons]
  constructor
  · intro inResult
    exact ⟨fun equal => startOutside (equal ▸ inResult), .inr inResult⟩
  · rintro ⟨different, equal | inResult⟩
    · exact absurd equal different
    · exact inResult

/-- The search keeps, of the nodes it has been at, those without neighbours. -/
theorem GathersEnds.explores (search : GathersEnds neighbours queue visited found result)
    (explores : Explores neighbours seeds queue visited) (nodup : visited.Nodup)
    (kept : found = visited.filter fun node => (neighbours node).isEmpty) :
    ∃ all, Explores neighbours seeds [] all ∧ all.Nodup ∧
      result = all.filter fun node => (neighbours node).isEmpty := by
  induction search with
  | done => exact ⟨_, explores, nodup, kept⟩
  | skip known _ ih => exact ih (explores.skip known) nodup kept
  | last new final _ ih =>
      have added := explores.add
      rw [final, List.append_nil] at added
      apply ih added
      · grind
      · rw [List.filter_append, ← kept]
        simp [final]
  | add new leadsOn _ ih =>
      apply ih explores.add
      · grind
      · rw [List.filter_append, ← kept]
        simp [leadsOn]

theorem GathersEnds.mem_iff (search : GathersEnds neighbours seeds [] [] result) :
    result.Nodup ∧ ∀ node, node ∈ result ↔
      neighbours node = [] ∧ ∃ seed ∈ seeds, Leads neighbours seed node := by
  have explores : Explores neighbours seeds seeds [] := by
    constructor
    · rintro node (inSeeds | inNone)
      · exact ⟨node, inSeeds, .refl⟩
      · cases inNone
    · exact fun seed inSeeds => .inr inSeeds
    · exact nofun
  obtain ⟨all, reached, nodup, kept⟩ := search.explores explores List.nodup_nil rfl
  subst kept
  refine ⟨nodup.filter _, ?_⟩
  intro node
  rw [List.mem_filter, reached.mem_seen_iff, List.isEmpty_iff, and_comm]

/-- The ends of a node are nodes it leads to. They lead nowhere, or the node is its own end and leads
to no node that leads nowhere. -/
theorem HasEnds.cases (hasEnds : HasEnds neighbours start found) :
    found.Nodup ∧ found ≠ [] ∧ (∀ last ∈ found, Leads neighbours start last) ∧
      ((∀ last ∈ found, neighbours last = []) ∨
        found = [start] ∧ ∀ last, Leads neighbours start last → neighbours last ≠ []) := by
  cases hasEnds with
  | found search someEnd =>
      obtain ⟨nodup, mem_found⟩ := search.mem_iff
      refine ⟨nodup, someEnd, ?_, .inl fun last inFound => ((mem_found last).mp inFound).1⟩
      intro last inFound
      obtain ⟨-, next, isNext, leads⟩ := (mem_found last).mp inFound
      exact .head isNext leads
  | itself search =>
      obtain ⟨-, mem_nil⟩ := search.mem_iff
      refine ⟨List.nodup_singleton _, List.cons_ne_nil _ _, ?_, ?_⟩
      · intro last isStart
        exact List.mem_singleton.mp isStart ▸ .refl
      · by_cases alone : neighbours start = []
        · left
          intro last isStart
          rw [List.mem_singleton.mp isStart, alone]
        · right
          refine ⟨rfl, ?_⟩
          intro last leads final
          rcases Relation.ReflTransGen.cases_head leads with equal | ⟨next, isNext, onward⟩
          · exact alone (equal ▸ final)
          · exact List.not_mem_nil ((mem_nil last).mpr ⟨final, next, isNext, onward⟩)

end Found

/-! ## Roots -/

/-- Among the nodes every edge can be followed in either direction, and none leads out of them. -/
structure Dual (forward backward : α → List α) (nodes : List α) : Prop where
  nodup : nodes.Nodup
  forward_subset : ∀ node ∈ nodes, forward node ⊆ nodes
  backward_subset : ∀ node ∈ nodes, backward node ⊆ nodes
  mem_iff : ∀ node ∈ nodes, ∀ other ∈ nodes, other ∈ forward node ↔ node ∈ backward other

namespace Dual

variable {forward backward : α → List α} {nodes : List α} {node other : α}

theorem symm (dual : Dual forward backward nodes) : Dual backward forward nodes where
  nodup := dual.nodup
  forward_subset := dual.backward_subset
  backward_subset := dual.forward_subset
  mem_iff node inNodes other otherIn := (dual.mem_iff other otherIn node inNodes).symm

theorem mem_of_leads (dual : Dual forward backward nodes) (inNodes : node ∈ nodes)
    (leads : Leads forward node other) : other ∈ nodes := by
  induction leads with
  | refl => exact inNodes
  | tail _ isNext ih => exact dual.forward_subset _ ih isNext

/-- A way forward is a way back. -/
theorem leads_back (dual : Dual forward backward nodes) (inNodes : node ∈ nodes)
    (leads : Leads forward node other) : Leads backward other node := by
  induction leads with
  | refl => exact .refl
  | tail before isNext ih =>
      have middle := dual.mem_of_leads inNodes before
      exact .head ((dual.mem_iff _ middle _ (dual.forward_subset _ middle isNext)).mp isNext) ih

/-- Without cycles every node leads forwards to one that leads nowhere. -/
theorem exists_final (dual : Dual forward backward nodes)
    (acyclic : ∀ node, ¬ Relation.TransGen (fun node next => next ∈ backward node) node node)
    (inNodes : node ∈ nodes) : ∃ last, Leads forward node last ∧ forward last = [] := by
  -- On the finitely many nodes, being reached backwards is a well-founded relation.
  let Back (first second : { node // node ∈ nodes }) : Prop :=
    Relation.TransGen (fun node next => next ∈ backward node) first.1 second.1
  have finite : Finite { node // node ∈ nodes } := List.finite_toSet nodes
  have trans : IsTrans _ Back := ⟨fun _ _ _ early late => early.trans late⟩
  have irrefl : Std.Irrefl Back := ⟨fun node => acyclic node.1⟩
  have wellFounded : WellFounded Back := Finite.wellFounded_of_trans_of_irrefl Back
  have step : ∀ node : { node // node ∈ nodes },
      ∃ last, Leads forward node.1 last ∧ forward last = [] := by
    intro node
    induction node using wellFounded.induction with
    | h node ih =>
        cases next : forward node.1 with
        | nil => exact ⟨node.1, .refl, next⟩
        | cons other others =>
            have isNext : other ∈ forward node.1 := by
              rw [next]
              exact List.mem_cons_self
            have otherIn := dual.forward_subset _ node.2 isNext
            have back := (dual.mem_iff _ node.2 _ otherIn).mp isNext
            obtain ⟨last, leads, final⟩ := ih ⟨other, otherIn⟩ (.single back)
            exact ⟨last, .head isNext leads, final⟩
  exact step ⟨node, inNodes⟩

end Dual

theorem nodup_eraseDups [DecidableEq α] (nodes : List α) : nodes.eraseDups.Nodup := by
  cases nodes with
  | nil => simp
  | cons node nodes =>
      rw [List.eraseDups_cons, List.nodup_cons]
      constructor
      · simp
      · exact nodup_eraseDups (nodes.filter fun other => !other == node)
termination_by nodes.length
decreasing_by
  simp only [List.length_cons]
  exact Nat.lt_add_one_of_le (List.length_filter_le _ _)

/-- The covered nodes are those that the roots reach backwards, and forwards a root leads nowhere or
to cycles only. -/
structure Covers (forward backward : α → List α) (nodes roots covered : List α) : Prop where
  nodup_roots : roots.Nodup
  nodup_covered : covered.Nodup
  roots_subset : roots ⊆ nodes
  mem_covered : ∀ node, node ∈ covered ↔ ∃ root ∈ roots, Leads backward root node
  final : ∀ root ∈ roots, forward root = [] ∨
    ∀ last, Leads forward root last → forward last ≠ []

theorem covers_nil {forward backward : α → List α} {nodes : List α} :
    Covers forward backward nodes [] [] where
  nodup_roots := List.nodup_nil
  nodup_covered := List.nodup_nil
  roots_subset := List.nil_subset _
  mem_covered := by simp
  final := nofun

namespace Covers

variable {forward backward : α → List α} {everything nodes roots covered found result : List α}
variable {node : α} {reached : α → List α}

theorem covered_subset (covers : Covers forward backward nodes roots covered)
    (dual : Dual forward backward nodes) : covered ⊆ nodes := by
  intro node inCovered
  obtain ⟨root, inRoots, leads⟩ := (covers.mem_covered node).mp inCovered
  exact dual.symm.mem_of_leads (covers.roots_subset inRoots) leads

/-- A node that leads nowhere forwards is a root: nothing else reaches it backwards. -/
theorem mem_of_final (covers : Covers forward backward nodes roots nodes)
    (dual : Dual forward backward nodes) {node : α} (inNodes : node ∈ nodes)
    (final : forward node = []) : node ∈ roots := by
  obtain ⟨root, inRoots, back⟩ := (covers.mem_covered node).mp inNodes
  have leads := dual.symm.leads_back (covers.roots_subset inRoots) back
  rcases Relation.ReflTransGen.cases_head leads with rfl | ⟨next, isNext, -⟩
  · exact inRoots
  · rw [final] at isNext
    cases isNext

/-- A list without repetition that is as long as one it is contained in has the same elements. -/
theorem complete (covers : Covers forward backward nodes roots covered)
    (dual : Dual forward backward nodes) (all : nodes.length ≤ covered.length) :
    covered.Perm nodes :=
  (covers.nodup_covered.subperm (covers.covered_subset dual)).perm_of_length_le all

variable [DecidableEq α]

/-- One round keeps what is known of roots and covered nodes. -/
theorem round (covers : Covers forward backward nodes roots covered)
    (dual : Dual forward backward nodes) (inNodes : node ∈ nodes)
    (hasEnds : HasEnds forward node found)
    (closures : ∀ root ∈ found, Gathers backward root (backward root) [] (reached root)) :
    Covers forward backward nodes (roots ++ found).eraseDups
      (covered ++ found ++ [node] ++ found.flatMap reached).eraseDups := by
  obtain ⟨-, someEnd, leadsTo, endsFinal⟩ := hasEnds.cases
  have inReached : ∀ root ∈ found, ∀ other,
      other = root ∨ other ∈ reached root ↔ Leads backward root other := by
    intro root inFound other
    rw [(closures root inFound).mem_iff.2]
    constructor
    · rintro (rfl | ⟨-, leads⟩)
      · exact .refl
      · exact leads
    · intro leads
      by_cases same : other = root
      · exact .inl same
      · exact .inr ⟨same, leads⟩
  constructor
  · exact nodup_eraseDups _
  · exact nodup_eraseDups _
  · intro root isRoot
    rw [List.mem_eraseDups, List.mem_append] at isRoot
    rcases isRoot with inRoots | inFound
    · exact covers.roots_subset inRoots
    · exact dual.mem_of_leads inNodes (leadsTo root inFound)
  · intro other
    simp only [List.mem_eraseDups, List.mem_append, List.mem_singleton, List.mem_flatMap,
      covers.mem_covered]
    constructor
    · rintro (((⟨root, inRoots, leads⟩ | inFound) | rfl) | ⟨root, inFound, inClosure⟩)
      · exact ⟨root, .inl inRoots, leads⟩
      · exact ⟨other, .inr inFound, .refl⟩
      · -- The node of the round leads forward to each of its ends, so each leads back to it.
        obtain ⟨last, inFound⟩ := List.exists_mem_of_ne_nil found someEnd
        exact ⟨last, .inr inFound, dual.leads_back inNodes (leadsTo last inFound)⟩
      · exact ⟨root, .inr inFound, (inReached root inFound other).mp (.inr inClosure)⟩
    · rintro ⟨root, inRoots | inFound, leads⟩
      · exact .inl (.inl (.inl ⟨root, inRoots, leads⟩))
      · rcases (inReached root inFound other).mpr leads with rfl | inClosure
        · exact .inl (.inl (.inr inFound))
        · exact .inr ⟨root, inFound, inClosure⟩
  · intro root isRoot
    rw [List.mem_eraseDups, List.mem_append] at isRoot
    rcases isRoot with inRoots | inFound
    · exact covers.final root inRoots
    · rcases endsFinal with final | ⟨rfl, cyclic⟩
      · exact .inl (final root inFound)
      · exact .inr (List.mem_singleton.mp inFound ▸ cyclic)

/-- As long as fewer nodes are covered than there are, one is not covered. -/
theorem exists_uncovered (dual : Dual forward backward nodes)
    (incomplete : covered.length < nodes.length) :
    ∃ node, nodes.find? (fun node => node ∉ covered) = some node := by
  cases first : nodes.find? (fun node => node ∉ covered) with
  | some node => exact ⟨node, rfl⟩
  | none =>
      have subset : nodes ⊆ covered := by
        intro node inNodes
        simpa using List.find?_eq_none.mp first node inNodes
      have shorter := (dual.nodup.subperm subset).length_le
      omega

/-- Every round covers one node more, so the number of nodes is enough. -/
theorem findsRoots (covers : Covers forward backward nodes roots covered)
    (dual : Dual forward backward nodes)
    (outsideForward : ∀ node, node ∉ everything → forward node = [])
    (outsideBackward : ∀ node, node ∉ everything → backward node = []) {fuel : Nat}
    (enough : nodes.length ≤ covered.length + fuel) :
    FindsRoots forward backward nodes roots covered
      (rootsFrom forward backward everything nodes fuel roots covered) := by
  induction fuel generalizing roots covered with
  | zero =>
      rw [rootsFrom]
      exact .done (by simpa using enough)
  | succ fuel ih =>
      rw [rootsFrom]
      split
      · rename_i incomplete
        obtain ⟨node, first⟩ := exists_uncovered dual incomplete
        have inNodes : node ∈ nodes := List.mem_of_find?_eq_some first
        have uncovered : node ∉ covered := by simpa using List.find?_some first
        have hasEnds := hasEnds_ends outsideForward node
        have closures : ∀ root ∈ ends forward everything node,
            Gathers backward root (backward root) [] (closure backward everything root) :=
          fun root _ => gathers_closure outsideBackward root
        have next := covers.round dual inNodes hasEnds closures
        have longer : covered.length + 1 ≤ (covered ++ ends forward everything node ++ [node] ++
            (ends forward everything node).flatMap (closure backward everything)).eraseDups.length := by
          have inside : node :: covered ⊆ (covered ++ ends forward everything node ++ [node] ++
              (ends forward everything node).flatMap (closure backward everything)).eraseDups := by
            intro other membership
            rw [List.mem_eraseDups]
            grind
          exact ((List.nodup_cons.mpr ⟨uncovered, covers.nodup_covered⟩).subperm inside).length_le
        rw [first]
        exact .round incomplete first hasEnds closures (ih next (by omega))
      · rename_i complete
        exact .done (by omega)

end Covers

section Roots

variable [DecidableEq α] {forward backward : α → List α} {everything nodes roots covered result : List α}

/-- The rounds end with all nodes covered. -/
theorem FindsRoots.covers (rounds : FindsRoots forward backward nodes roots covered result)
    (dual : Dual forward backward nodes) (covers : Covers forward backward nodes roots covered) :
    Covers forward backward nodes result nodes := by
  induction rounds with
  | done all =>
      have complete := covers.complete dual all
      refine ⟨covers.nodup_roots, dual.nodup, covers.roots_subset, ?_, covers.final⟩
      intro node
      rw [← complete.mem_iff, covers.mem_covered]
  | round _ first hasEnds closures _ ih =>
      exact ih (covers.round dual (List.mem_of_find?_eq_some first) hasEnds closures)

theorem findsRoots_roots (dual : Dual forward backward nodes)
    (outsideForward : ∀ node, node ∉ everything → forward node = [])
    (outsideBackward : ∀ node, node ∉ everything → backward node = []) :
    FindsRoots forward backward nodes [] [] (Reach.roots forward backward everything nodes) :=
  covers_nil.findsRoots dual outsideForward outsideBackward (Nat.le_add_left _ _)

/-- The roots and what they reach backwards, then all nodes, each once, are the nodes. -/
theorem Covers.ordered_perm (covers : Covers forward backward nodes roots nodes)
    (dual : Dual forward backward nodes) (reached : α → List α)
    (closures : ∀ root ∈ roots, Gathers backward root (backward root) [] (reached root)) :
    (roots.flatMap (fun root => root :: reached root) ++ nodes).eraseDups.Perm nodes := by
  rw [List.perm_ext_iff_of_nodup (nodup_eraseDups _) dual.nodup]
  intro node
  rw [List.mem_eraseDups, List.mem_append]
  refine ⟨?_, .inr⟩
  rintro (inWalk | inNodes)
  · obtain ⟨root, inRoots, inWalk⟩ := List.mem_flatMap.mp inWalk
    rcases List.mem_cons.mp inWalk with rfl | inClosure
    · exact covers.roots_subset inRoots
    · have leads := (((closures root inRoots).mem_iff.2 node).mp inClosure).2
      exact dual.symm.mem_of_leads (covers.roots_subset inRoots) leads
  · exact inNodes

end Roots

end Docweave.Reach
