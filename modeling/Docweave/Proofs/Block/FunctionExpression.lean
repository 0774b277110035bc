import Docweave.Block.Info
import Docweave.Proofs.Block.CallableHeader

/-!
# Function expressions

A function expression is `function name(…)`, `(…) =>` or `name =>`, each also with `async` before it,
and a brace opens its body.  The three forms are told apart by what follows their first word, so a
text has at most one reading, and the recogniser finds exactly that one.
-/

namespace Docweave.FunctionValue

open Text Header

variable {text rest parameters : Text}

/-- White space, or nothing. -/
def Spaces (gap : Text) : Prop := ∀ char ∈ gap, isSpace char = true

instance (gap : Text) : Decidable (Spaces gap) := List.decidableBAll _ gap

/-- A function expression up to the brace that opens its body. -/
inductive Synchronous (parameters : Text) : Text → Prop
  | named {gap name before after : Text} (isGap : Spaces gap)
      (isName : ∀ char ∈ name, isNameChar char = true) (isBefore : Spaces before)
      (plain : ∀ char ∈ parameters, isParameterChar char = true) (isAfter : Spaces after) :
      Synchronous parameters
        ("function".toList ++ (gap ++ (name ++ (before ++ '(' :: (parameters ++ ')' :: after)))))
  | arrow {before after : Text} (plain : ∀ char ∈ parameters, isParameterChar char = true)
      (isBefore : Spaces before) (isAfter : Spaces after) :
      Synchronous parameters ('(' :: (parameters ++ ')' :: (before ++ ("=>".toList ++ after))))
  | bare {before after : Text} (isName : Run isNameChar parameters) (isBefore : Spaces before)
      (isAfter : Spaces after) :
      Synchronous parameters (parameters ++ (before ++ ("=>".toList ++ after)))

/-- A function expression, also one that starts with `async`. -/
inductive FunctionExpression (parameters : Text) : Text → Prop
  | synchronous {front : Text} (isFunction : Synchronous parameters front) :
      FunctionExpression parameters front
  | asynchronous {gap front : Text} (isGap : Run isSpace gap) (isFunction : Synchronous parameters front) :
      FunctionExpression parameters ("async".toList ++ (gap ++ front))

/-! ## White space -/

theorem exists_spaces (text : Text) : ∃ gap, Spaces gap ∧ text = gap ++ stripLeft text :=
  exists_dropWhile isSpace text

theorem stripLeft_append {gap : Text} (isGap : Spaces gap) (rest : Text) :
    stripLeft (gap ++ rest) = stripLeft rest :=
  List.dropWhile_append_of_pos isGap

theorem stripLeft_of_leaves (leaves : Leaves isSpace rest) : stripLeft rest = rest :=
  dropWhile_append_of_leaves (List.forall_mem_nil _) leaves

/-! ## The parts of a function expression -/

theorem openBody?_eq_some :
    openBody? text = some rest ↔ ∃ gap, Spaces gap ∧ text = gap ++ '{' :: rest := by
  rw [openBody?, after?_eq_some]
  constructor
  · intro opens
    obtain ⟨gap, isGap, text_eq⟩ := exists_spaces text
    exact ⟨gap, isGap, by rw [text_eq, opens, List.singleton_append]⟩
  · rintro ⟨gap, isGap, rfl⟩
    exact dropWhile_append_of_outside isGap (by decide) rest

theorem parentheses?_eq_some :
    parentheses? text = some (parameters, rest) ↔
      (∀ char ∈ parameters, isParameterChar char = true) ∧ text = '(' :: (parameters ++ ')' :: rest) := by
  simp only [parentheses?, Option.bind_eq_bind, Option.bind_eq_some_iff, after?_eq_some,
    Option.some.injEq, Prod.mk.injEq, List.singleton_append]
  constructor
  · rintro ⟨inside, rfl, left, closes, rfl, rfl⟩
    refine ⟨fun _ => mem_takeWhile_inClass, congrArg ('(' :: ·) ?_⟩
    rw [← closes]
    exact (List.prefix_iff_eq_append.mp (List.takeWhile_prefix _)).symm
  · rintro ⟨plain, rfl⟩
    have inside : (parameters ++ ')' :: rest).takeWhile (fun char => char ≠ '(' && char ≠ ')') =
        parameters := takeWhile_append_of_outside plain rfl rest
    refine ⟨_, rfl, rest, ?_, inside, rfl⟩
    rw [inside, List.drop_left]

theorem arrow_eq_some {afterList : Text} :
    (∃ left, after? "=>".toList (stripLeft afterList) = some left ∧ openBody? left = some rest) ↔
      ∃ before after, Spaces before ∧ Spaces after ∧
        afterList = before ++ ("=>".toList ++ (after ++ '{' :: rest)) := by
  simp only [after?_eq_some, openBody?_eq_some]
  constructor
  · rintro ⟨left, marks, after, isAfter, rfl⟩
    obtain ⟨before, isBefore, split⟩ := exists_spaces afterList
    exact ⟨before, after, isBefore, isAfter, by rw [split, marks]⟩
  · rintro ⟨before, after, isBefore, isAfter, rfl⟩
    refine ⟨_, ?_, after, isAfter, rfl⟩
    rw [stripLeft_append isBefore]
    rfl

theorem named?_eq_some :
    named? text = some (parameters, rest) ↔
      ∃ gap name before after, Spaces gap ∧ (∀ char ∈ name, isNameChar char = true) ∧ Spaces before ∧
        (∀ char ∈ parameters, isParameterChar char = true) ∧ Spaces after ∧
        text = "function".toList ++ (gap ++ (name ++ (before ++ '(' :: (parameters ++ ')' ::
          (after ++ '{' :: rest))))) := by
  simp only [named?, Option.bind_eq_bind, Option.bind_eq_some_iff, after?_eq_some, Option.some.injEq,
    Prod.mk.injEq, Prod.exists, parentheses?_eq_some, openBody?_eq_some]
  constructor
  · rintro ⟨left, rfl, inner, afterList, ⟨plain, listed⟩, body, ⟨after, isAfter, rfl⟩, rfl, rfl⟩
    obtain ⟨gap, isGap, left_eq⟩ := exists_spaces left
    obtain ⟨before, isBefore, before_eq⟩ := exists_spaces ((stripLeft left).dropWhile isNameChar)
    refine ⟨gap, (stripLeft left).takeWhile isNameChar, before, after, isGap,
      fun _ => mem_takeWhile_inClass, isBefore, plain, isAfter, ?_⟩
    rw [← listed, ← before_eq, List.takeWhile_append_dropWhile, ← left_eq]
  · rintro ⟨gap, name, before, after, isGap, isName, isBefore, plain, isAfter, rfl⟩
    refine ⟨_, rfl, parameters, after ++ '{' :: rest, ⟨plain, ?_⟩, rest, ⟨after, isAfter, rfl⟩, rfl, rfl⟩
    have opening (rest : Text) : stripLeft (before ++ '(' :: rest) = '(' :: rest :=
      dropWhile_append_of_outside isBefore (by decide) rest
    rw [stripLeft_append isGap]
    cases name with
    | nil => rw [List.nil_append, opening]; rfl
    | cons char tail =>
        have isRun : Run isNameChar (char :: tail) := ⟨List.cons_ne_nil _ _, isName⟩
        have leaves : Leaves isNameChar (before ++ '(' :: (parameters ++ ')' :: (after ++ '{' :: rest))) :=
          leaves_append isBefore (fun _ => isNameChar_of_isSpace) (by rintro _ ⟨⟩; rfl)
        rw [stripLeft_of_leaves (isRun.leaves_append (fun _ => isSpace_of_isNameChar) _),
          dropWhile_append_of_leaves isName leaves, opening]

theorem arrow?_eq_some :
    arrow? text = some (parameters, rest) ↔
      ∃ before after, (∀ char ∈ parameters, isParameterChar char = true) ∧ Spaces before ∧
        Spaces after ∧
        text = '(' :: (parameters ++ ')' :: (before ++ ("=>".toList ++ (after ++ '{' :: rest)))) := by
  simp only [arrow?, Option.bind_eq_bind, Option.bind_eq_some_iff, Option.some.injEq, Prod.mk.injEq,
    Prod.exists, parentheses?_eq_some]
  constructor
  · rintro ⟨inner, afterList, ⟨plain, rfl⟩, left, marks, body, opens, rfl, rfl⟩
    obtain ⟨before, after, isBefore, isAfter, rfl⟩ := arrow_eq_some.mp ⟨left, marks, opens⟩
    exact ⟨before, after, plain, isBefore, isAfter, rfl⟩
  · rintro ⟨before, after, plain, isBefore, isAfter, rfl⟩
    obtain ⟨left, marks, opens⟩ := arrow_eq_some.mpr ⟨before, after, isBefore, isAfter, rfl⟩
    exact ⟨parameters, _, ⟨plain, rfl⟩, left, marks, rest, opens, rfl, rfl⟩

theorem bareArrow?_eq_some :
    bareArrow? text = some (parameters, rest) ↔
      ∃ before after, Run isNameChar parameters ∧ Spaces before ∧ Spaces after ∧
        text = parameters ++ (before ++ ("=>".toList ++ (after ++ '{' :: rest))) := by
  simp only [bareArrow?, Option.bind_eq_bind, Option.bind_eq_some_iff, Option.some.injEq, Prod.mk.injEq,
    some?_eq_some]
  constructor
  · rintro ⟨afterName, ⟨name, isName, -, rfl⟩, left, marks, body, opens, rfl, rfl⟩
    obtain ⟨before, after, isBefore, isAfter, rfl⟩ := arrow_eq_some.mp ⟨left, marks, opens⟩
    rw [List.length_append, Nat.add_sub_cancel, List.take_left]
    exact ⟨before, after, isName, isBefore, isAfter, rfl⟩
  · rintro ⟨before, after, isName, isBefore, isAfter, rfl⟩
    obtain ⟨left, marks, opens⟩ := arrow_eq_some.mpr ⟨before, after, isBefore, isAfter, rfl⟩
    have leaves : Leaves isNameChar (before ++ ("=>".toList ++ (after ++ '{' :: rest))) :=
      leaves_append isBefore (fun _ => isNameChar_of_isSpace) (by rintro _ ⟨⟩; rfl)
    refine ⟨_, ⟨parameters, isName, leaves, rfl⟩, left, marks, rest, opens, ?_, rfl⟩
    rw [List.length_append, Nat.add_sub_cancel, List.take_left]

/-! ## Telling the forms apart -/

/-- Characters of names and white space. -/
def isWordChar (char : Char) : Bool := isNameChar char || isSpace char

theorem isWordChar_of_isNameChar {char : Char} (isName : isNameChar char = true) :
    isWordChar char = true := by
  rw [isWordChar, isName, Bool.true_or]

theorem isWordChar_of_isSpace {char : Char} (blank : isSpace char = true) : isWordChar char = true := by
  rw [isWordChar, blank, Bool.or_true]

/-- A text with an arrow after its words is no function with a list of parameters. -/
theorem named?_of_arrow {front before : Text} (isName : Run isNameChar front) (isBefore : Spaces before)
    (rest : Text) : named? (front ++ (before ++ ("=>".toList ++ rest))) = none := by
  cases read : named? (front ++ (before ++ ("=>".toList ++ rest))) with
  | none => rfl
  | some result =>
      obtain ⟨gap, name, between, after, isGap, isWord, isBetween, -, -, split⟩ := named?_eq_some.mp read
      have arrowWords : ∀ char ∈ front ++ before, isWordChar char = true := by
        intro char membership
        rcases List.mem_append.mp membership with inName | inGap
        · exact isWordChar_of_isNameChar (isName.inside char inName)
        · exact isWordChar_of_isSpace (isBefore char inGap)
      have inFunction : Run isNameChar "function".toList := by decide
      have listWords : ∀ char ∈ "function".toList ++ (gap ++ (name ++ between)),
          isWordChar char = true := by
        simp only [List.mem_append]
        rintro char (inWord | inGap | inName | inBetween)
        · exact isWordChar_of_isNameChar (inFunction.inside char inWord)
        · exact isWordChar_of_isSpace (isGap char inGap)
        · exact isWordChar_of_isNameChar (isWord char inName)
        · exact isWordChar_of_isSpace (isBetween char inBetween)
      -- After its words the text would go on with an equals sign and with a parenthesis.
      have noEquals : isWordChar '=' = false := by decide
      have noParenthesis : isWordChar '(' = false := by decide
      have arrow := dropWhile_append_of_outside arrowWords noEquals ('>' :: rest)
      have list := dropWhile_append_of_outside listWords noParenthesis
        (result.1 ++ ')' :: (after ++ '{' :: result.2))
      have same : front ++ before ++ '=' :: ('>' :: rest) =
          "function".toList ++ (gap ++ (name ++ between)) ++
            '(' :: (result.1 ++ ')' :: (after ++ '{' :: result.2)) := by
        simpa using split
      rw [same, list] at arrow
      cases arrow

theorem arrow?_of_name {front : Text} (isName : Run isNameChar front) (rest : Text) :
    arrow? (front ++ rest) = none := by
  cases read : arrow? (front ++ rest) with
  | none => rfl
  | some result =>
      obtain ⟨before, after, -, -, -, split⟩ := arrow?_eq_some.mp read
      obtain ⟨char, tail, rfl⟩ := List.exists_cons_of_ne_nil isName.nonempty
      obtain ⟨rfl, -⟩ := List.cons.inj split
      cases isName.inside '(' List.mem_cons_self

/-- A function expression starts with a mark or a name. -/
theorem Synchronous.leaves {front : Text} (isFunction : Synchronous parameters front) (rest : Text) :
    Leaves (fun char => isSpace char || char == '=') (front ++ rest) := by
  have named {char : Char} (isName : isNameChar char = true) :
      (isSpace char || char == '=') = false := by
    rw [isSpace_of_isNameChar isName, Bool.false_or, beq_eq_false_iff_ne]
    rintro rfl
    cases isName
  cases isFunction with
  | named => rintro _ ⟨⟩; rfl
  | arrow => rintro _ ⟨⟩; rfl
  | bare isName =>
      rw [List.append_assoc]
      exact isName.leaves_append (fun _ => named) _

theorem Synchronous.visible {front : Text} (isFunction : Synchronous parameters front) (rest : Text) :
    Leaves isSpace (front ++ rest) :=
  fun char first => (Bool.or_eq_false_iff.mp (isFunction.leaves rest char first)).1

theorem FunctionExpression.visible {front : Text} (isFunction : FunctionExpression parameters front)
    (rest : Text) : Leaves isSpace (front ++ rest) := by
  cases isFunction with
  | synchronous isFunction => exact isFunction.visible rest
  | asynchronous =>
      rintro _ ⟨⟩
      rfl

theorem synchronous?_eq_some :
    synchronous? text = some (parameters, rest) ↔
      ∃ front, Synchronous parameters front ∧ text = front ++ '{' :: rest := by
  simp only [synchronous?, Option.orElse_eq_orElse, Option.orElse_eq_or, Option.or_eq_some_iff]
  constructor
  · rintro (named | ⟨-, arrow | ⟨-, bare⟩⟩)
    · obtain ⟨gap, name, before, after, isGap, isName, isBefore, plain, isAfter, rfl⟩ :=
        named?_eq_some.mp named
      exact ⟨_, .named isGap isName isBefore plain isAfter, by simp⟩
    · obtain ⟨before, after, plain, isBefore, isAfter, rfl⟩ := arrow?_eq_some.mp arrow
      exact ⟨_, .arrow plain isBefore isAfter, by simp⟩
    · obtain ⟨before, after, isName, isBefore, isAfter, rfl⟩ := bareArrow?_eq_some.mp bare
      exact ⟨_, .bare isName isBefore isAfter, by simp⟩
  · rintro ⟨_, isFunction, rfl⟩
    cases isFunction with
    | named isGap isName isBefore plain isAfter =>
        exact .inl (named?_eq_some.mpr
          ⟨_, _, _, _, isGap, isName, isBefore, plain, isAfter, by simp⟩)
    | arrow plain isBefore isAfter =>
        exact .inr ⟨rfl, .inl (arrow?_eq_some.mpr ⟨_, _, plain, isBefore, isAfter, by simp⟩)⟩
    | bare isName isBefore isAfter =>
        rename_i before after
        have unnamed := named?_of_arrow isName isBefore (after ++ '{' :: rest)
        have unlisted := arrow?_of_name isName (before ++ ("=>".toList ++ (after ++ '{' :: rest)))
        simp only [List.append_assoc]
        exact .inr ⟨unnamed, .inr ⟨unlisted, bareArrow?_eq_some.mpr
          ⟨_, _, isName, isBefore, isAfter, rfl⟩⟩⟩

/-- What follows `async` and white space starts no function expression of its own. -/
theorem Synchronous.ne_marked {front gap other otherParameters : Text}
    (isFunction : Synchronous parameters front) (isGap : Run isSpace gap)
    (isOther : Synchronous otherParameters other) (rest more : Text) :
    front ++ rest ≠ "async".toList ++ (gap ++ (other ++ more)) := by
  intro same
  cases isFunction with
  | named => cases same
  | arrow => cases same
  | bare isName isBefore isAfter =>
      rename_i before after
      have isAsync : Run isNameChar "async".toList := by decide
      have leavesArrow : Leaves isNameChar (before ++ ("=>".toList ++ (after ++ rest))) :=
        leaves_append isBefore (fun _ => isNameChar_of_isSpace) (by rintro _ ⟨⟩; rfl)
      have leavesGap : Leaves isNameChar (gap ++ (other ++ more)) :=
        isGap.leaves_append (fun _ => isNameChar_of_isSpace) _
      -- The name is `async`, and after white space both an arrow and the other function follow.
      have read := some?_eq_some.mpr ⟨parameters, isName, leavesArrow, rfl⟩
      have readAsync := some?_eq_some.mpr ⟨_, isAsync, leavesGap, rfl⟩
      simp only [List.append_assoc] at same
      rw [same, readAsync] at read
      have stripped := congrArg stripLeft (Option.some.inj read)
      have leaves := isOther.leaves more
      rw [stripLeft_append isGap.inside, stripLeft_append isBefore,
        stripLeft_of_leaves (isOther.visible more)] at stripped
      rw [stripped] at leaves
      cases leaves '=' rfl

/-- The recogniser finds exactly the function expressions, up to the brace that opens the body. -/
theorem header?_eq_some :
    header? text = some (parameters, rest) ↔
      ∃ front, FunctionExpression parameters front ∧ text = front ++ '{' :: rest := by
  simp only [header?, Option.orElse_eq_orElse, Option.orElse_eq_or, Option.or_eq_some_iff,
    Option.bind_eq_bind, Option.bind_eq_some_iff, synchronous?_eq_some, some?_eq_some]
  constructor
  · rintro (⟨left, readWord, _, ⟨gap, isGap, -, rfl⟩, front, isFunction, rfl⟩ | ⟨-, front, isFunction, rfl⟩)
    · rw [after?_eq_some.mp readWord]
      exact ⟨_, .asynchronous isGap isFunction, by simp⟩
    · exact ⟨front, .synchronous isFunction, rfl⟩
  · rintro ⟨_, isFunction, rfl⟩
    cases isFunction with
    | asynchronous isGap isFunction =>
        rename_i gap front
        exact .inl ⟨_, after?_eq_some.mpr (List.append_assoc ..), _,
          ⟨gap, isGap, isFunction.visible _, by simp⟩, front, isFunction, rfl⟩
    | synchronous isFunction =>
        refine .inr ⟨?_, _, isFunction, rfl⟩
        rw [Option.eq_none_iff_forall_ne_some]
        rintro ⟨others, left⟩ read
        simp only [Option.bind_eq_some_iff, after?_eq_some, some?_eq_some, synchronous?_eq_some] at read
        obtain ⟨_, same, _, ⟨gap, isGap, -, rfl⟩, other, isOther, rfl⟩ := read
        exact isFunction.ne_marked isGap isOther _ _ same

end Docweave.FunctionValue
