import Docweave.Forest.Lookup
import Docweave.Proofs.Forest.Lineage

/-!
# Paths of names

A path of names leads from the first content into bodies, and every block has a path of its own, made
of the names of the blocks around it.  The two are inverse.  A block that a path leads to has the
names of the path, without the word that leads from a class to its members; and a block that its
content finds by its name, as do the contents of the blocks around it, is found by the path of these
names, with that word after each class.
-/

namespace Docweave

open Text

namespace Block

variable {block : Block} {name : Text}

theorem identifier?_of_member? (found : block.member? = some name) : block.identifier? = none := by
  rw [member?] at found
  rw [identifier?]
  split at found
  · rename_i method
    rw [method]
  · cases found

theorem declaredName?_of_identifier? (found : block.identifier? = some name) (nonempty : name ≠ []) :
    block.declaredName? = some name := by
  rw [declaredName?, found]
  cases name with
  | nil => exact absurd rfl nonempty
  | cons char rest => rfl

theorem declaredName?_of_member? (found : block.member? = some name) :
    block.declaredName? = some name := by
  rw [declaredName?, identifier?_of_member? found, found]

end Block

namespace Forest

variable {forest : Forest} {top content inner : ContentId} {id owner : BlockId} {name : Text}

/-! ## Names in a content -/

theorem mem_of_byName? (found : forest.byName? content name = some id) :
    id ∈ forest.members content ∧
      ((forest.block id).identifier? = some name ∨ (forest.block id).member? = some name) := by
  rw [byName?, Option.orElse_eq_orElse, Option.orElse_eq_or, Option.or_eq_some_iff] at found
  rcases found with declared | ⟨-, method⟩
  · exact ⟨List.mem_of_find?_eq_some declared, .inl (by simpa using List.find?_some declared)⟩
  · exact ⟨List.mem_of_find?_eq_some method, .inr (by simpa using List.find?_some method)⟩

theorem RootedIn.displayName?_eq (rooted : RootedIn top forest) (id : BlockId) :
    forest.displayName? id = (forest.block id).declaredName? := by
  rw [displayName?, rooted.unexported]

theorem RootedIn.displayName?_of_byName? (rooted : RootedIn top forest)
    (found : forest.byName? content name = some id) (nonempty : name ≠ []) :
    forest.displayName? id = some name := by
  rw [rooted.displayName?_eq]
  rcases (mem_of_byName? found).2 with declared | method
  · exact Block.declaredName?_of_identifier? declared nonempty
  · exact Block.declaredName?_of_member? method

/-- The names of the blocks around a content, from the outside in. -/
def pathTo (forest : Forest) (content : ContentId) : List Text :=
  match (forest.content content).owner with
  | none => []
  | some owner => forest.namespacePath owner

/-- A block that is found by its name adds that name to the names around its content. -/
theorem RootedIn.namespacePath_of_byName? (rooted : RootedIn top forest)
    (found : forest.byName? content name = some id) (nonempty : name ≠ []) :
    forest.namespacePath id = forest.pathTo content ++ [name] := by
  have member := (mem_of_byName? found).1
  have shown := rooted.displayName?_of_byName? found nonempty
  obtain ⟨char, rest, rfl⟩ := List.exists_cons_of_ne_nil nonempty
  rw [pathTo]
  cases owner_eq : (forest.content content).owner with
  | none =>
      rw [namespacePath, rooted.lineage_of_outermost member owner_eq, List.filterMap_cons, shown]
      rfl
  | some owner =>
      rw [namespacePath, rooted.lineage_of_owner member owner_eq, List.filterMap_append,
        List.filterMap_cons, shown]
      rfl

/-! ## From a path to the names of its block -/

/-- The names of a path, without each word that leads from a class to its members. -/
def namesAlong (forest : Forest) : ContentId → List Text → List Text
  | _, [] => []
  | _, [name] => [name]
  | content, name :: next :: more =>
    match (forest.byName? content name).bind fun first => ((forest.entry first).nested.map (first, ·)) with
    | none => name :: next :: more
    | some (first, inner) =>
      if (forest.block first).kind = .classDecl ∧ next = prototypeName then
        name :: forest.namesAlong inner more
      else name :: forest.namesAlong inner (next :: more)

/-- A path that leads on goes through a block whose body is open. -/
theorem byPath?_cons_cons {next : Text} {more : List Text}
    (found : forest.byPath? content (name :: next :: more) = some id) :
    ∃ first inner, forest.byName? content name = some first ∧ (forest.entry first).nested = some inner ∧
      ((forest.block first).kind = .classDecl ∧ next = prototypeName ∧
          forest.byPath? inner more = some id ∨
        ¬ ((forest.block first).kind = .classDecl ∧ next = prototypeName) ∧
          forest.byPath? inner (next :: more) = some id) := by
  rw [byPath?] at found
  split at found
  · cases found
  · rename_i first named
    split at found
    · cases found
    · rename_i inner nested
      refine ⟨first, inner, named, nested, ?_⟩
      split at found
      · rename_i isClass
        split at found
        · rename_i leads
          exact .inl ⟨isClass, leads, found⟩
        · rename_i other
          exact .inr ⟨fun both => other both.2, (Option.filter_eq_some_iff.mp found).1⟩
      · rename_i noClass
        exact .inr ⟨fun both => noClass both.1, found⟩

theorem RootedIn.pathTo_eq (rooted : RootedIn top forest) (nested : (forest.entry id).nested = some inner) :
    forest.pathTo inner = forest.namespacePath id := by
  rw [pathTo, (rooted.owner_iff _ _).mpr nested]

/-- The block at the end of a path is shown under the names of the path. -/
theorem RootedIn.namespacePath_of_byPath? (rooted : RootedIn top forest) (content : ContentId)
    (path : List Text) (nonempty : ∀ name ∈ path, name ≠ [])
    (found : forest.byPath? content path = some id) :
    forest.namespacePath id = forest.pathTo content ++ forest.namesAlong content path := by
  match path with
  | [] => cases found
  | [name] =>
      rw [byPath?] at found
      exact rooted.namespacePath_of_byName? found (nonempty name List.mem_cons_self)
  | name :: next :: more =>
      obtain ⟨first, inner, named, nested, leads⟩ := byPath?_cons_cons found
      have outer := rooted.namespacePath_of_byName? named (nonempty name List.mem_cons_self)
      have later : ∀ name ∈ next :: more, name ≠ [] :=
        fun name membership => nonempty name (List.mem_cons_of_mem _ membership)
      rw [namesAlong, named, Option.bind_some, nested, Option.map_some]
      rcases leads with ⟨isClass, isWord, found⟩ | ⟨different, found⟩
      · have inside := rooted.namespacePath_of_byPath? inner more
          (fun name membership => later name (List.mem_cons_of_mem _ membership)) found
        simp only [isClass, isWord, and_self, if_true]
        rw [inside, rooted.pathTo_eq nested, outer, List.append_assoc, List.singleton_append]
      · have inside := rooted.namespacePath_of_byPath? inner (next :: more) later found
        simp only [different, if_false]
        rw [inside, rooted.pathTo_eq nested, outer, List.append_assoc, List.singleton_append]
termination_by path.length

/-! ## From a block to its path -/

/-- A block is the one that its content finds by a name. -/
def Picks (forest : Forest) (id : BlockId) (name : Text) : Prop :=
  ((forest.parent? id).bind fun content => forest.byName? content name) = some id

instance (forest : Forest) (id : BlockId) (name : Text) : Decidable (forest.Picks id name) :=
  inferInstanceAs (Decidable (_ = _))

/-- The path through blocks with their names, with the word that leads to the members after each class
but the last block. -/
def pathThrough (forest : Forest) : List (BlockId × Text) → List Text
  | [] => []
  | [(_, name)] => [name]
  | (id, name) :: next :: more =>
    if (forest.block id).kind = .classDecl then name :: prototypeName :: forest.pathThrough (next :: more)
    else name :: forest.pathThrough (next :: more)

theorem pathThrough_cons (forest : Forest) (id : BlockId) (name : Text) (rest : List (BlockId × Text)) :
    ∃ more, forest.pathThrough ((id, name) :: rest) = name :: more := by
  cases rest with
  | nil => exact ⟨[], rfl⟩
  | cons next rest =>
      rw [pathThrough]
      split
      · exact ⟨_, rfl⟩
      · exact ⟨_, rfl⟩

theorem Picks.byName?_eq (picks : forest.Picks id name) (placed : forest.Placed)
    (member : id ∈ forest.members content) : forest.byName? content name = some id := by
  obtain ⟨index, atIndex⟩ := List.mem_iff_getElem?.mp member
  rw [Picks, parent?, placed.place_of_member atIndex] at picks
  exact picks

/-- The path through blocks of which each stands in the body of the one before leads to the last. -/
theorem Descends.byPath?_eq {ids : List BlockId} {names : List Text} (placed : forest.Placed)
    (descends : Descends forest content ids) (picked : List.Forall₂ forest.Picks ids names) :
    forest.byPath? content (forest.pathThrough (ids.zip names)) = ids.getLast? := by
  induction descends generalizing names with
  | last member =>
      obtain ⟨name, rest, picks, none, rfl⟩ := List.forall₂_cons_left_iff.mp picked
      cases none
      exact picks.byName?_eq placed member
  | inside member nested rest ih =>
      rename_i content inner id ids
      obtain ⟨name, more, picks, pickedRest, rfl⟩ := List.forall₂_cons_left_iff.mp picked
      have found := picks.byName?_eq placed member
      have inside := ih pickedRest
      obtain ⟨next, ids, rfl⟩ : ∃ next later, ids = next :: later := by
        cases rest <;> exact ⟨_, _, rfl⟩
      obtain ⟨nextName, more, -, -, rfl⟩ := List.forall₂_cons_left_iff.mp pickedRest
      rw [List.zip_cons_cons, List.zip_cons_cons, pathThrough]
      rw [List.zip_cons_cons] at inside
      obtain ⟨path, path_eq⟩ := forest.pathThrough_cons next nextName (ids.zip more)
      rw [path_eq] at inside ⊢
      rw [List.getLast?_cons_cons, ← inside]
      split
      · rename_i isClass
        rw [byPath?]
        simp only [found, nested, isClass, if_true]
      · rename_i noClass
        rw [byPath?]
        simp only [found, nested, noClass, if_false]

theorem exists_member_of_picks {names : List Text}
    (picked : List.Forall₂ forest.Picks (forest.lineage id) names) :
    ∃ content, id ∈ forest.members content := by
  obtain ⟨outer, owners_eq⟩ : ∃ outer, forest.ownersFrom forest.entries.size id = id :: outer := by
    rw [ownersFrom.eq_def]
    split
    · exact ⟨[], rfl⟩
    · split
      · exact ⟨[], rfl⟩
      · exact ⟨_, rfl⟩
  rw [← List.reverse_reverse names, lineage, List.forall₂_reverse_iff, owners_eq] at picked
  obtain ⟨name, rest, picks, -, -⟩ := List.forall₂_cons_left_iff.mp picked
  obtain ⟨content, -, found⟩ := Option.bind_eq_some_iff.mp picks
  exact ⟨content, (mem_of_byName? found).1⟩

/-- A path of names and the names of the block it leads to determine each other: the names are those
of the path without the words that lead from a class to its members, and a block that is picked by
its name, like the blocks around it, is found by the path through these. -/
theorem byPath?_inverse_namespacePath (text : Text) (row : Int) (ids : List BlockId) :
    let forest := (ofText text row).1.openAll ids
    let top := (ofText text row).2
    (∀ path id, (∀ name ∈ path, name ≠ []) → forest.byPath? top path = some id →
      forest.namespacePath id = forest.namesAlong top path) ∧
    ∀ id names, List.Forall₂ forest.Picks (forest.lineage id) names →
      forest.byPath? top (forest.pathThrough ((forest.lineage id).zip names)) = some id := by
  intro forest top
  have rooted : RootedIn top forest := rootedIn_openAll text row ids
  constructor
  · intro path id nonempty found
    have names_eq := rooted.namespacePath_of_byPath? top path nonempty found
    rwa [pathTo, rooted.topOwner, List.nil_append] at names_eq
  · intro id names picked
    obtain ⟨content, member⟩ := exists_member_of_picks picked
    rw [(rooted.descends_lineage content id member).byPath?_eq rooted.placed picked,
      rooted.getLast?_lineage member]

/-- A method of a class, and a function in a body that is opened later. -/
theorem byPath?_inverse_namespacePath_of_method :
    let text : Text := "class Store \x7b\n  get(key) \x7b\x7d\n\x7d\nfunction load() \x7b\n  function a() \x7b\x7d\n\x7d\n"
    let forest := (ofText text 1).1.openAll [⟨2⟩]
    let path : List Text := ["Store", "prototype", "get"]
    forest.byPath? ⟨0⟩ path = some ⟨1⟩ ∧ forest.namespacePath ⟨1⟩ = ["Store".toList, "get".toList] ∧
      List.Forall₂ forest.Picks (forest.lineage ⟨3⟩) ["load".toList, "a".toList] ∧
      forest.byPath? ⟨0⟩ ["load".toList, "a".toList] = some ⟨3⟩ := by
  intro text forest path
  obtain ⟨shown, leads⟩ := byPath?_inverse_namespacePath text 1 [⟨2⟩]
  have found : forest.byPath? ⟨0⟩ path = some ⟨1⟩ := by decide +kernel
  have nonempty : ∀ name ∈ path, name ≠ [] := by decide
  have picked : List.Forall₂ forest.Picks (forest.lineage ⟨3⟩) ["load".toList, "a".toList] := by
    decide +kernel
  have names_eq : forest.namesAlong ⟨0⟩ path = ["Store".toList, "get".toList] := by decide +kernel
  have path_eq : forest.pathThrough ((forest.lineage ⟨3⟩).zip ["load".toList, "a".toList]) =
      ["load".toList, "a".toList] := by decide +kernel
  have reached := leads ⟨3⟩ _ picked
  rw [path_eq] at reached
  exact ⟨found, (shown path ⟨1⟩ nonempty found).trans names_eq, picked, reached⟩

end Forest

end Docweave
