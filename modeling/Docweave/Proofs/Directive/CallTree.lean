import Docweave.Proofs.Directive.Segments

/-!
# Calls as they are written

A call is written as its name and its arguments in parentheses, with commas between them, and an
argument is a word or a call again.  Whatever the names are, and however wide and deep the calls
nest, the tree that is read from a call as it is written is the tree it was written from.  So a path
of positions reads the argument at its end when it leads to one, and nothing otherwise.
-/

namespace Docweave.Call

open Text

variable {name text list : Text} {depth : Nat} {path : List Nat}

/-! ## Writing -/

/-- A text that stands for itself as an argument: no blanks at its ends, and no quotes, parentheses
and commas in it. -/
structure Word where
  text : Text
  nonempty : text ≠ []
  visible_head : ∀ char ∈ text.head?, isBlank char = false
  visible_last : ∀ char ∈ text.getLast?, isBlank char = false
  unmarked : Unmarked text

/-- A word, or a call with a name that holds no quotes, parentheses and commas. -/
inductive Expression where
  | word (leaf : Word)
  | call (name : Text) (unmarked : Unmarked name) (args : List Expression)

mutual

/-- An expression as it is written. -/
def Expression.written : Expression → Text
  | .word leaf => leaf.text
  | .call name _ args => name ++ '(' :: (join ", " (writtenAll args) ++ [')'])

/-- Each expression of a list as it is written. -/
def Expression.writtenAll : List Expression → List Text
  | [] => []
  | arg :: args => arg.written :: writtenAll args

end

mutual

/-- The words of an expression, arranged as its calls nest. -/
def Expression.tree : Expression → ArgTree
  | .word leaf => .leaf leaf.text
  | .call _ _ args => .node (treeAll args)

/-- The tree of each expression of a list. -/
def Expression.treeAll : List Expression → List ArgTree
  | [] => []
  | arg :: args => arg.tree :: treeAll args

end

/-- The tree at the end of a path of positions. -/
inductive SubtreeAt : ArgTree → List Nat → ArgTree → Prop
  | here (tree : ArgTree) : SubtreeAt tree [] tree
  | inside {args : List ArgTree} {index : Nat} {arg : ArgTree} {path : List Nat} {subtree : ArgTree}
      (found : args[index]? = some arg) (more : SubtreeAt arg path subtree) :
      SubtreeAt (.node args) (index :: path) subtree

/-! ## Reading what is written -/

namespace Word

theorem trim_text (leaf : Word) : trim leaf.text = leaf.text := by
  obtain ⟨first, rest, starts⟩ := List.exists_cons_of_ne_nil leaf.nonempty
  obtain ⟨front, last, ends⟩ := (List.eq_nil_or_concat leaf.text).resolve_left leaf.nonempty
  have visibleFirst := leaf.visible_head first (by rw [starts]; rfl)
  have visibleLast := leaf.visible_last last (by rw [ends]; simp)
  have kept : leaf.text.dropWhile isBlank = leaf.text := by
    rw [starts, List.dropWhile_cons_of_neg (by simp [visibleFirst])]
  rw [trim, stripOf, kept, ends, List.concat_eq_append, dropTrailing_append_cons visibleLast]
  rfl

theorem tree?_text (leaf : Word) : tree? leaf.text = some (.leaf leaf.text) := by
  refine tree?_of_plain (inner?_eq_none_iff.mpr ⟨fun opening => ?_, fun closing => ?_⟩)
  · exact absurd (leaf.unmarked _ opening) (by decide)
  · exact absurd (leaf.unmarked _ closing) (by decide)

end Word

namespace Expression

theorem passes_join {pieces : List Text} (passes : ∀ piece ∈ pieces, Passes (depth + 1) piece) :
    Passes (depth + 1) (join ", " pieces) := by
  have comma : Passes (depth + 1) ", ".toList :=
    (passes_comma depth).append (passes_char (by decide) _)
  induction pieces with
  | nil => exact passes_nil _
  | cons piece pieces ih =>
      obtain ⟨first, later⟩ := List.forall_mem_cons.mp passes
      cases pieces with
      | nil => simpa [join] using first
      | cons next pieces =>
          rw [join, List.intercalate_cons_cons]
          exact (first.append comma).append (ih later)

mutual

/-- An expression holds no comma outside of its own parentheses. -/
theorem passes_written (expression : Expression) (depth : Nat) : Passes depth expression.written := by
  cases expression with
  | word leaf =>
      rw [written]
      exact passes_of_unmarked leaf.unmarked depth
  | call name unmarked args =>
      rw [written]
      have inside := passes_join (passes_writtenAll args (depth + 1))
      exact (passes_of_unmarked unmarked depth).append inside.parenthesised

theorem passes_writtenAll (args : List Expression) (depth : Nat) :
    ∀ piece ∈ writtenAll args, Passes depth piece := by
  cases args with
  | nil =>
      rw [writtenAll]
      exact fun piece membership => absurd membership List.not_mem_nil
  | cons arg args =>
      rw [writtenAll, List.forall_mem_cons]
      exact ⟨passes_written arg depth, passes_writtenAll args depth⟩

end

/-- Every expression holds something besides blanks. -/
theorem not_allBlank_written (expression : Expression) : ¬ allBlank expression.written := by
  cases expression with
  | word leaf =>
      obtain ⟨first, rest, text_eq⟩ := List.exists_cons_of_ne_nil leaf.nonempty
      have visible := leaf.visible_head first (by rw [text_eq]; rfl)
      rw [written, text_eq, allBlank, List.all_cons, visible]
      exact Bool.false_ne_true
  | call name unmarked args =>
      rw [written, allBlank, List.all_append]
      simp [isBlank]

/-- A call stands for the trees of its arguments, whatever its name. -/
theorem tree?_of_call (plain : '(' ∉ name) {args : List Expression}
    (each : (writtenAll args).mapM (tree? ∘ trim) = some (treeAll args)) :
    tree? (name ++ '(' :: (join ", " (writtenAll args) ++ [')'])) = some (.node (treeAll args)) := by
  rw [tree?_of_list (inner?_of_call plain _)]
  cases args with
  | nil => rfl
  | cons arg args =>
      have visible : ¬ allBlank (join ", " (writtenAll (arg :: args))) := by
        rw [writtenAll]
        exact fun blank => not_allBlank_written arg (allBlank_of_join blank)
      have read : arguments? (join ", " (writtenAll (arg :: args))) =
          some ((writtenAll (arg :: args)).map trim) :=
        arguments?_join (List.forall_mem_singleton.mpr rfl) (passes_writtenAll (arg :: args) 0) visible
      rw [read, Option.bind_some, List.mapM_map, each, Option.map_some]

theorem trim_call (name list : Text) :
    trim (name ++ '(' :: (list ++ [')'])) = name.dropWhile isBlank ++ '(' :: (list ++ [')']) := by
  have kept : (name ++ '(' :: (list ++ [')'])).dropWhile isBlank =
      name.dropWhile isBlank ++ '(' :: list ++ [')'] := by
    induction name with
    | nil => simp [isBlank]
    | cons char name ih => by_cases blank : isBlank char <;> simp [blank, ih]
  rw [trim, stripOf, kept, dropTrailing_append_cons (by decide)]
  simp [dropTrailing]

mutual

/-- Blanks around an expression do not change its tree. -/
theorem tree?_trim_written (expression : Expression) :
    tree? (trim expression.written) = some expression.tree := by
  cases expression with
  | word leaf =>
      rw [written, tree, leaf.trim_text]
      exact leaf.tree?_text
  | call name unmarked args =>
      have plain : '(' ∉ name.dropWhile isBlank := fun opening =>
        absurd (unmarked _ ((List.dropWhile_suffix _).subset opening)) (by decide)
      rw [written, tree, trim_call]
      exact tree?_of_call plain (mapM_tree?_writtenAll args)

theorem mapM_tree?_writtenAll (args : List Expression) :
    (writtenAll args).mapM (tree? ∘ trim) = some (treeAll args) := by
  cases args with
  | nil => rw [writtenAll, treeAll]; rfl
  | cons arg args =>
      rw [writtenAll, treeAll, List.mapM_cons, Function.comp_apply, tree?_trim_written arg,
        mapM_tree?_writtenAll args]
      rfl

end

/-- The tree that an expression is written from is read from it. -/
theorem tree?_written (expression : Expression) : tree? expression.written = some expression.tree := by
  cases expression with
  | word leaf =>
      rw [written, tree]
      exact leaf.tree?_text
  | call name unmarked args =>
      have plain : '(' ∉ name := fun opening => absurd (unmarked _ opening) (by decide)
      rw [written, tree]
      exact tree?_of_call plain (mapM_tree?_writtenAll args)

end Expression

/-! ## Paths -/

/-- A path reads what stands at its end, and nothing when it leads nowhere. -/
theorem ArgTree.at?_eq_some {tree subtree : ArgTree} :
    tree.at? path = some subtree ↔ SubtreeAt tree path subtree := by
  induction path generalizing tree with
  | nil =>
      rw [ArgTree.at?, Option.some.injEq]
      constructor
      · rintro rfl
        exact .here tree
      · rintro ⟨⟩
        rfl
  | cons index path ih =>
      cases tree with
      | leaf text =>
          rw [ArgTree.at?]
          exact iff_of_false (Option.some_ne_none subtree).symm nofun
      | node args =>
          rw [ArgTree.at?]
          constructor
          · intro read
            split at read
            · rename_i arg found
              exact .inside found (ih.mp read)
            · cases read
          · rintro (_ | ⟨found, more⟩)
            rw [found]
            exact ih.mpr more

/-- Positions that are not negative are counted from the first argument. -/
theorem signedAt_of_nat (tree : ArgTree) (path : List Nat) :
    signedAt (some tree) (path.map Int.ofNat) = .ok (tree.at? path) := by
  induction path generalizing tree with
  | nil => rw [List.map_nil, signedAt, ArgTree.at?]
  | cons index path ih =>
      rw [List.map_cons]
      cases tree with
      | leaf text => rfl
      | node args =>
          rw [signedAt, ArgTree.at?]
          by_cases within : index < args.length
          · have found : atSigned? (Int.ofNat index) args = some args[index] := by
              have counted : ¬ Int.ofNat index < 0 := Int.not_lt.mpr (Int.natCast_nonneg index)
              rw [atSigned?, if_neg counted]
              exact List.getElem?_eq_getElem within
            rw [if_neg (by simpa using within), found, List.getElem?_eq_getElem within]
            exact ih _
          · have missing : args[index]? = none := by simpa using within
            rw [if_pos (by simpa using within), missing]

/-- What is read from an expression as it is written is its tree, and a path of positions reads what
stands at its end there, or nothing when it leads out of the tree. -/
theorem tree_and_arguments_of_written (expression : Expression) :
    tree? expression.written = some expression.tree ∧
      ∀ path, signedAt (tree? expression.written) (path.map Int.ofNat) =
          .ok (argument? expression.written path) ∧
        ∀ subtree, argument? expression.written path = some subtree ↔
          SubtreeAt expression.tree path subtree := by
  have read := expression.tree?_written
  refine ⟨read, fun path => ⟨?_, fun subtree => ?_⟩⟩
  · rw [argument?, read, Option.bind_some]
    exact signedAt_of_nat _ path
  · rw [argument?, read, Option.bind_some]
    exact ArgTree.at?_eq_some

example : tree? "f(a, g(b, c), h())" =
    some (.node [.leaf "a", .node [.leaf "b", .leaf "c"], .node []]) := rfl

end Docweave.Call
