import Docweave.Proofs.Directive.Commas

/-!
# String literals in argument lists

A string literal hides its commas and parentheses from the cutting of an argument list, whatever stands
in it.  It does not hide them from the search for the list of a call: an argument with a parenthesis is
taken for a call, even if the parenthesis stands in a string literal.  So the arguments of a call are
told apart whatever their literals hold, and the tree has each of them as a leaf exactly when no literal
holds a parenthesis.
-/

namespace Docweave.Call

open Text

variable {name text body rest : Text} {quote : Char} {depth : Nat}

/-! ## Arguments that are no calls -/

/-- What may stand between the quotes of a string literal: the quote itself only after a backslash. -/
inductive LiteralBody (quote : Char) : Text → Prop
  | nil : LiteralBody quote []
  | char {char : Char} {text : Text} (noQuote : char ≠ quote) (noEscape : char ≠ '\\')
      (more : LiteralBody quote text) : LiteralBody quote (char :: text)
  | escaped (char : Char) {text : Text} (more : LiteralBody quote text) :
      LiteralBody quote ('\\' :: char :: text)

/-- A text without quotes, parentheses and commas, or a string literal with blanks around it. -/
inductive FlatArgument : Text → Prop
  | plain {text : Text} (unmarked : Unmarked text) : FlatArgument text
  | literal {before body after : Text} {quote : Char} (isQuote : Extent.isQuote quote = true)
      (isBody : LiteralBody quote body) (isBefore : ∀ char ∈ before, isBlank char = true)
      (isAfter : ∀ char ∈ after, isBlank char = true) :
      FlatArgument (before ++ (quote :: (body ++ [quote]) ++ after))

/-- A body and the quote that closes it are what is left of a literal after its first quote. -/
theorem LiteralBody.literalTail (isBody : LiteralBody quote body) (rest : Text) :
    LiteralTail quote (NeverCut quote) (body ++ [quote]) rest := by
  induction isBody with
  | nil => exact .closed rest
  | char noQuote noEscape _ ih => exact .char noQuote noEscape id ih
  | escaped char _ ih => exact .escaped char ih

theorem passes_literal (isQuote : Extent.isQuote quote = true) (isBody : LiteralBody quote body)
    (depth : Nat) : Passes depth (quote :: (body ++ [quote])) := by
  intro piece rest
  rw [List.cons_append, segmentsFrom?_cons, if_pos isQuote,
    segmentsFrom?_literalTail (isQuote_iff.mp isQuote) (isBody.literalTail rest)]
  simp

theorem FlatArgument.passes (flat : FlatArgument text) (depth : Nat) : Passes depth text := by
  cases flat with
  | plain unmarked => exact passes_of_unmarked unmarked depth
  | literal isQuote isBody isBefore isAfter =>
      have before := passes_of_unmarked (unmarked_of_blank isBefore) depth
      have after := passes_of_unmarked (unmarked_of_blank isAfter) depth
      exact before.append ((passes_literal isQuote isBody depth).append after)

/-! ## Which arguments are leaves -/

/-- A text with a parenthesis is never a leaf. -/
theorem tree?_eq_leaf_iff {leaf : Text} :
    tree? text = some (.leaf leaf) ↔ leaf = text ∧ '(' ∉ text ∧ ')' ∉ text := by
  rw [← inner?_eq_none_iff]
  rcases found : inner? text with _ | _ | list
  · have nothing : tree? text = none := by simp only [tree?, treeFrom?, found]
    simp [nothing]
  · rw [tree?_of_plain found]
    simp [eq_comm]
  · rw [tree?_of_list found, Option.map_eq_some_iff]
    simp

theorem mapM_eq_map_iff {α β : Type} {f : α → Option β} {g : α → β} {items : List α} :
    items.mapM f = some (items.map g) ↔ ∀ item ∈ items, f item = some (g item) := by
  induction items with
  | nil => simp
  | cons item items ih =>
      rw [List.mapM_cons, List.forall_mem_cons, ← ih]
      cases f item <;> cases items.mapM f <;> simp

/-- The arguments of a call are told apart whatever its string literals hold, and each of them is then
read as a call of its own.  So they are the leaves of the tree exactly when no string literal holds a
parenthesis. -/
theorem tree?_of_flat (plain : '(' ∉ name) {gap : Text} (blank : ∀ char ∈ gap, isBlank char = true)
    {args : List Text} (flat : ∀ arg ∈ args, FlatArgument arg) :
    let list := join (',' :: gap) args
    let call := name ++ '(' :: (list ++ [')'])
    (allBlank list → tree? call = some (.node [])) ∧
      (¬ allBlank list → arguments? list = some (args.map trim) ∧
        tree? call = (args.mapM (tree? ∘ trim)).map .node ∧
        (tree? call = some (.node (args.map (.leaf ∘ trim))) ↔
          ∀ arg ∈ args, '(' ∉ arg ∧ ')' ∉ arg)) := by
  intro list call
  have found : inner? call = some (some list) := inner?_of_call plain list
  refine ⟨fun empty => ?_, fun visible => ?_⟩
  · rw [tree?_of_list found, arguments?, if_pos empty]
    rfl
  · have read : arguments? list = some (args.map trim) :=
      arguments?_join blank (fun arg membership => (flat arg membership).passes 0) visible
    have tree_eq : tree? call = (args.mapM (tree? ∘ trim)).map .node := by
      rw [tree?_of_list found, read, Option.bind_some, List.mapM_map]
    refine ⟨read, tree_eq, ?_⟩
    have leaves : (args.mapM (tree? ∘ trim)).map ArgTree.node = some (.node (args.map (.leaf ∘ trim))) ↔
        args.mapM (tree? ∘ trim) = some (args.map (.leaf ∘ trim)) := by
      simp
    rw [tree_eq, leaves, mapM_eq_map_iff]
    simp only [Function.comp_apply, tree?_eq_leaf_iff, true_and, mem_trim_iff (by decide : isBlank '(' = false),
      mem_trim_iff (by decide : isBlank ')' = false)]

/-- A literal with commas, parentheses left out, and a quote after a backslash. -/
theorem tree?_of_flat_register :
    let args : List Text := ["\"a, \\\"b\\\" c\"", "x.y "]
    ('(' ∉ "register".toList ∧ (∀ char ∈ [' '], isBlank char = true) ∧ (∀ arg ∈ args, FlatArgument arg) ∧
      ∀ arg ∈ args, '(' ∉ arg ∧ ')' ∉ arg) ∧
      tree? "register(\"a, \\\"b\\\" c\", x.y )" =
        some (.node [.leaf "\"a, \\\"b\\\" c\"", .leaf "x.y"]) := by
  intro args
  have isBody : LiteralBody '"' "a, \\\"b\\\" c" :=
    .char (by decide) (by decide) (.char (by decide) (by decide) (.char (by decide) (by decide)
      (.escaped '"' (.char (by decide) (by decide) (.escaped '"' (.char (by decide) (by decide)
        (.char (by decide) (by decide) .nil)))))))
  have literal := FlatArgument.literal rfl isBody (List.forall_mem_nil _) (List.forall_mem_nil _)
  have flat : ∀ arg ∈ args, FlatArgument arg :=
    List.forall_mem_cons.mpr ⟨literal, List.forall_mem_singleton.mpr (.plain (by decide))⟩
  have noParentheses : ∀ arg ∈ args, '(' ∉ arg ∧ ')' ∉ arg := by decide
  have plain : '(' ∉ "register".toList := by decide
  have blank : ∀ char ∈ [' '], isBlank char = true := List.forall_mem_singleton.mpr rfl
  obtain ⟨-, -, leaves⟩ := (tree?_of_flat plain blank flat).2 (by decide)
  exact ⟨⟨plain, blank, flat, noParentheses⟩, leaves.mpr noParentheses⟩

/-- A parenthesis in a string literal loses the tree of the call. -/
theorem tree_lost_of_literal :
    let args : List Text := ["'('", "x"]
    (∀ arg ∈ args, FlatArgument arg) ∧ arguments? "'(', x" = some args ∧ tree? "f('(', x)" = none := by
  intro args
  have isBody : LiteralBody '\'' ['('] := .char (by decide) (by decide) .nil
  have literal := FlatArgument.literal rfl isBody (List.forall_mem_nil _) (List.forall_mem_nil _)
  have flat : ∀ arg ∈ args, FlatArgument arg :=
    List.forall_mem_cons.mpr ⟨literal, List.forall_mem_singleton.mpr (.plain (by decide))⟩
  exact ⟨flat, by decide, by decide⟩

end Docweave.Call
