import Docweave.Proofs.Block.ImportHeader

/-!
# The headers of functions and methods

The two headers by which a function and a method are recognised are patterns of words, names and a
parameter list, and a brace opens the body after them.  A parameter list may hold any character but
parentheses, braces included.  The recognisers read exactly these patterns, so a text has at most one
header, and the brace after it is settled.
-/

namespace Docweave.Header

open Text

variable {text rest parameters header : Text}

-- The characters of the text are looked at, not all characters.
instance (gap : Text) : Decidable (Gap gap) := List.decidableBAll _ gap

instance (inClass : Char → Bool) (run : Text) : Decidable (Run inClass run) :=
  decidable_of_iff (run ≠ [] ∧ run.all inClass = true)
    ⟨fun both => ⟨both.1, List.all_eq_true.mp both.2⟩,
      fun isRun => ⟨isRun.nonempty, List.all_eq_true.mpr isRun.inside⟩⟩

/-! ## Parameter lists -/

/-- Characters of parameters. -/
def isParameterChar (char : Char) : Bool := char ≠ '(' && char ≠ ')'

/-- Parameters in parentheses, which hold no further ones, with the separators around them. -/
inductive Parenthesised (parameters : Text) : Text → Prop
  | intro {before after : Text} (isBefore : Gap before)
      (plain : ∀ char ∈ parameters, isParameterChar char = true) (isAfter : Gap after) :
      Parenthesised parameters (before ++ '(' :: (parameters ++ ')' :: after))

theorem skip_gap_cons {gap : Text} {char : Char} (isGap : Gap gap) (visible : isSeparator char = false)
    (rest : Text) : skip (gap ++ char :: rest) = char :: rest :=
  dropWhile_append_of_outside isGap visible rest

theorem parameters?_eq_some :
    parameters? text = some rest ↔
      ∃ parameters list, Parenthesised parameters list ∧ text = list ++ '{' :: rest := by
  simp only [parameters?, Option.bind_eq_bind, Option.bind_eq_some_iff, after?_eq_some]
  constructor
  · rintro ⟨inside, opens, closed, closes, brace⟩
    obtain ⟨before, isBefore, text_eq⟩ := exists_gap text
    obtain ⟨after, isAfter, closed_eq⟩ := exists_gap closed
    obtain ⟨parameters, plain, rfl⟩ : ∃ parameters, (∀ char ∈ parameters, isParameterChar char = true) ∧
        inside = parameters ++ ')' :: closed := by
      refine ⟨inside.takeWhile isParameterChar, fun _ => mem_takeWhile_inClass, ?_⟩
      rw [← List.singleton_append, ← closes]
      exact List.takeWhile_append_dropWhile.symm
    refine ⟨parameters, _, .intro isBefore plain isAfter, ?_⟩
    rw [text_eq, opens, closed_eq, brace]
    simp
  · rintro ⟨parameters, _, ⟨isBefore, plain, isAfter⟩, rfl⟩
    rename_i before after
    refine ⟨parameters ++ ')' :: (after ++ '{' :: rest), ?_, after ++ '{' :: rest, ?_, ?_⟩
    · simpa using skip_gap_cons isBefore rfl _
    · exact dropWhile_append_of_outside plain rfl _
    · exact skip_gap_cons isAfter rfl _

theorem parameters?_append {list : Text} (isList : Parenthesised parameters list) (rest : Text) :
    parameters? (list ++ '{' :: rest) = some rest :=
  parameters?_eq_some.mpr ⟨parameters, list, isList, rfl⟩

/-- A name may stand before a parameter list. -/
theorem Parenthesised.leaves {list : Text} (isList : Parenthesised parameters list) (rest : Text) :
    Leaves isNameChar (list ++ rest) := by
  obtain ⟨isBefore, -, -⟩ := isList
  rw [List.append_assoc]
  exact leaves_append isBefore (fun _ => isNameChar_of_isSeparator) (by rintro _ ⟨⟩; rfl)

theorem Parenthesised.prepend {gap list : Text} (isGap : Gap gap)
    (isList : Parenthesised parameters list) : Parenthesised parameters (gap ++ list) := by
  obtain ⟨isBefore, plain, isAfter⟩ := isList
  rw [← List.append_assoc]
  refine .intro ?_ plain isAfter
  intro char membership
  exact (List.mem_append.mp membership).elim (isGap char) (isBefore char)

theorem Parenthesised.mem {list : Text} (isList : Parenthesised parameters list) : '(' ∈ list := by
  obtain ⟨-, -, -⟩ := isList
  simp

/-! ## Functions -/

/-- The word `async` with the separators after it, or nothing. -/
inductive Async : Text → Prop
  | absent : Async []
  | present {gap : Text} (isGap : Run isSeparator gap) : Async ("async".toList ++ gap)

/-- `const name = function (…)`, or `function name(…)`, both also with `async`. -/
inductive FunctionHeader (parameters : Text) : Text → Prop
  | bound {front gap mark list : Text} (binding : Binding front) (isGap : Gap gap) (isMark : Async mark)
      (isList : Parenthesised parameters list) :
      FunctionHeader parameters (front ++ (gap ++ (mark ++ ("function".toList ++ list))))
  | named {lead mark gap name list : Text} (isLead : Gap lead) (isMark : Async mark)
      (isGap : Run isSeparator gap) (isName : Run isNameChar name)
      (isList : Parenthesised parameters list) :
      FunctionHeader parameters (lead ++ (mark ++ ("function".toList ++ (gap ++ (name ++ list)))))

theorem apart_async : Apart ["async".toList] := by decide

theorem apart_function : Apart ["function".toList] := by decide

theorem exists_async (text : Text) : ∃ mark, Async mark ∧ text = mark ++ skipAsync text := by
  rw [skipAsync]
  cases read : spaced? ["async".toList] text with
  | none => exact ⟨[], .absent, rfl⟩
  | some rest =>
      obtain ⟨word, isWord, gap, isGap, -, rfl⟩ := (spaced?_eq_some apart_async).mp read
      obtain rfl := List.mem_singleton.mp isWord
      exact ⟨_, .present isGap, by simp⟩

theorem skipAsync_append {mark : Text} (isMark : Async mark) (rest : Text) :
    skipAsync (mark ++ ("function".toList ++ rest)) = "function".toList ++ rest := by
  cases isMark with
  | absent => rfl
  | present isGap =>
      rename_i gap
      have read : spaced? ["async".toList] ("async".toList ++ (gap ++ ("function".toList ++ rest))) =
          some ("function".toList ++ rest) :=
        (spaced?_eq_some apart_async).mpr
          ⟨_, List.mem_singleton_self _, gap, isGap, by rintro _ ⟨⟩; rfl, rfl⟩
      rw [skipAsync, List.append_assoc, read, Option.getD_some]

theorem leaves_of_async {mark : Text} (isMark : Async mark) (rest : Text) :
    Leaves isSeparator (mark ++ ("function".toList ++ rest)) := by
  cases isMark <;> rintro _ ⟨⟩ <;> rfl

/-- The word `function` with its mark declares no variable. -/
theorem binding?_of_async {lead mark : Text} (isLead : Gap lead) (isMark : Async mark) (rest : Text) :
    binding? (lead ++ (mark ++ ("function".toList ++ rest))) = none := by
  rw [binding?, skip_append isLead (leaves_of_async isMark rest)]
  cases isMark <;> rfl

theorem function?_eq_some :
    function? text = some rest ↔
      ∃ parameters header, FunctionHeader parameters header ∧ text = header ++ '{' :: rest := by
  constructor
  · intro read
    simp only [function?, Option.bind_eq_bind] at read
    split at read
    · rename_i value bound
      obtain ⟨front, binding, rfl⟩ := binding?_eq_some.mp bound
      obtain ⟨afterWord, readWord, readParameters⟩ := Option.bind_eq_some_iff.mp read
      obtain ⟨parameters, list, isList, rfl⟩ := parameters?_eq_some.mp readParameters
      obtain ⟨gap, isGap, value_eq⟩ := exists_gap value
      obtain ⟨mark, isMark, skipped_eq⟩ := exists_async (skip value)
      refine ⟨parameters, _, .bound binding isGap isMark isList, ?_⟩
      rw [value_eq, skipped_eq, after?_eq_some.mp readWord]
      simp
    · simp only [Option.bind_eq_some_iff, spaced?_eq_some apart_function, some?_eq_some,
        List.mem_singleton] at read
      obtain ⟨_, ⟨_, rfl, gap, isGap, -, spaced⟩, _, ⟨name, isName, -, rfl⟩, readParameters⟩ := read
      obtain ⟨parameters, list, isList, rfl⟩ := parameters?_eq_some.mp readParameters
      obtain ⟨lead, isLead, text_eq⟩ := exists_gap text
      obtain ⟨mark, isMark, skipped_eq⟩ := exists_async (skip text)
      refine ⟨parameters, _, .named isLead isMark isGap isName isList, ?_⟩
      rw [text_eq, skipped_eq, spaced]
      simp
  · rintro ⟨parameters, _, header, rfl⟩
    cases header with
    | bound binding isGap isMark isList =>
        rename_i front gap mark list
        have bound : binding? (front ++ (gap ++ (mark ++ ("function".toList ++ list))) ++ '{' :: rest) =
            some (gap ++ (mark ++ ("function".toList ++ (list ++ '{' :: rest)))) :=
          binding?_eq_some.mpr ⟨front, binding, by simp⟩
        simp only [function?, bound, Option.bind_eq_bind]
        rw [skip_append isGap (leaves_of_async isMark _), skipAsync_append isMark,
          after?_eq_some.mpr rfl]
        exact parameters?_append isList rest
    | named isLead isMark isGap isName isList =>
        rename_i lead mark gap name list
        have unbound := binding?_of_async isLead isMark (gap ++ (name ++ (list ++ '{' :: rest)))
        have read : skip (lead ++ (mark ++ ("function".toList ++ (gap ++ (name ++ (list ++ '{' :: rest)))))) =
            mark ++ ("function".toList ++ (gap ++ (name ++ (list ++ '{' :: rest)))) :=
          skip_append isLead (leaves_of_async isMark _)
        simp only [function?, List.append_assoc, unbound, Option.bind_eq_bind, read,
          skipAsync_append isMark, Option.bind_eq_some_iff, spaced?_eq_some apart_function,
          some?_eq_some, List.mem_singleton]
        refine ⟨_, ⟨_, rfl, gap, isGap, ?_, rfl⟩, _, ⟨name, isName, isList.leaves _, rfl⟩,
          parameters?_append isList rest⟩
        exact isName.leaves_append (fun _ => isSeparator_of_isNameChar) _

/-! ## Methods -/

/-- Modifiers, each with the separators after it. -/
inductive Modifiers : Text → Prop
  | nil : Modifiers []
  | cons {word gap front : Text} (isWord : word ∈ modifiers) (isGap : Run isSeparator gap)
      (more : Modifiers front) : Modifiers (word ++ (gap ++ front))

/-- `name(…)`, with any number of modifiers before the name, unless it reads as a statement. -/
inductive MethodHeader (parameters : Text) : Text → Prop
  | intro {lead front name list : Text} (isLead : Gap lead) (modified : Modifiers front)
      (isName : Run isNameChar name) (isList : Parenthesised parameters list)
      (noStatement : startsStatement (front ++ (name ++ list)) = false) :
      MethodHeader parameters (lead ++ (front ++ (name ++ list)))

theorem apart_modifiers : Apart modifiers := by decide

theorem run_of_modifier {word : Text} (isWord : word ∈ modifiers) : Run isNameChar word := by
  have allNames : ∀ word ∈ modifiers, Run isNameChar word := by decide
  exact allNames word isWord

theorem Modifiers.leaves {front : Text} (modified : Modifiers front) (leaves : Leaves isSeparator rest) :
    Leaves isSeparator (front ++ rest) := by
  cases modified with
  | nil => exact leaves
  | cons isWord isGap more =>
      rw [List.append_assoc]
      exact (run_of_modifier isWord).leaves_append (fun _ => isSeparator_of_isNameChar) _

theorem Modifiers.exists_last {front : Text} (modified : Modifiers front) (nonempty : front ≠ []) :
    ∃ earlier word gap, Modifiers earlier ∧ word ∈ modifiers ∧ Run isSeparator gap ∧
      front = earlier ++ (word ++ gap) := by
  induction modified with
  | nil => exact absurd rfl nonempty
  | cons isWord isGap more ih =>
      rename_i word gap front
      by_cases last : front = []
      · exact ⟨[], word, gap, .nil, isWord, isGap, by simp [last]⟩
      · obtain ⟨earlier, lastWord, lastGap, modified, isLast, isLastGap, rfl⟩ := ih last
        exact ⟨_, lastWord, lastGap, .cons isWord isGap modified, isLast, isLastGap, by simp⟩

/-- What is skipped are modifiers, and the flag says so. -/
theorem exists_modifiers (fuel : Nat) (found : Bool) (text : Text) :
    ∃ front, Modifiers front ∧ text = front ++ (skipModifiers fuel found text).2 ∧
      ((skipModifiers fuel found text).1 = true → found = true ∨ front ≠ []) := by
  induction fuel generalizing found text with
  | zero => exact ⟨[], .nil, rfl, .inl⟩
  | succ fuel ih =>
      rw [skipModifiers]
      split
      · rename_i rest read
        obtain ⟨word, isWord, gap, isGap, -, rfl⟩ := (spaced?_eq_some apart_modifiers).mp read
        obtain ⟨front, modified, rest_eq, -⟩ := ih true rest
        refine ⟨_, .cons isWord isGap modified, ?_, fun _ => .inr ?_⟩
        · rw [List.append_assoc, List.append_assoc, ← rest_eq]
        · exact List.append_ne_nil_of_left_ne_nil (run_of_modifier isWord).nonempty _
      · exact ⟨[], .nil, rfl, .inl⟩

theorem skipModifiers_of_none (unmodified : spaced? modifiers text = none) (fuel : Nat) (found : Bool) :
    skipModifiers fuel found text = (found, text) := by
  cases fuel with
  | zero => rfl
  | succ fuel => rw [skipModifiers, unmodified]

/-- All modifiers are skipped, with enough fuel. -/
theorem skipModifiers_append {front : Text} (modified : Modifiers front)
    (leaves : Leaves isSeparator rest) {fuel : Nat} (enough : (front ++ rest).length ≤ fuel)
    (found : Bool) :
    ∃ left flag, rest.length ≤ left ∧
      skipModifiers fuel found (front ++ rest) = skipModifiers left flag rest := by
  induction modified generalizing fuel found with
  | nil => exact ⟨fuel, found, enough, rfl⟩
  | cons isWord isGap more ih =>
      rename_i word gap front
      have positive := List.length_pos_iff.mpr (run_of_modifier isWord).nonempty
      simp only [List.length_append] at enough
      obtain ⟨smaller, rfl⟩ : ∃ smaller, fuel = smaller + 1 := ⟨fuel - 1, by omega⟩
      have read : spaced? modifiers (word ++ (gap ++ front) ++ rest) = some (front ++ rest) :=
        (spaced?_eq_some apart_modifiers).mpr
          ⟨word, isWord, gap, isGap, more.leaves leaves, by simp⟩
      rw [skipModifiers, read]
      exact ih (by rw [List.length_append]; omega) true

/-- A word without a mark is told before the mark. -/
theorem after?_append_of_mem {mark : Char} {word : Text} (plain : mark ∉ word) (marked : mark ∈ text)
    (rest : Text) :
    after? word (text ++ rest) = (after? word text).map (· ++ rest) ∧ after? word text ≠ some [] := by
  induction word generalizing text with
  | nil =>
      refine ⟨rfl, fun same => ?_⟩
      cases same
      cases marked
  | cons expected word ih =>
      cases text with
      | nil => cases marked
      | cons char text =>
          rw [List.mem_cons, not_or] at plain
          rw [List.cons_append, after?, after?]
          split
          · rename_i same
            rw [same] at plain
            exact ih plain.2 ((List.mem_cons.mp marked).resolve_left plain.1)
          · exact ⟨rfl, (Option.some_ne_none []).symm⟩

theorem startsStatement_append (listed : '(' ∈ text) (rest : Text) :
    startsStatement (text ++ rest) = startsStatement text := by
  have plain : ∀ word ∈ statementWords, '(' ∉ word := by decide
  rw [startsStatement, startsStatement, Bool.eq_iff_iff, List.any_eq_true, List.any_eq_true]
  apply exists_congr
  intro word
  apply and_congr_right
  intro isWord
  obtain ⟨read, goesOn⟩ := after?_append_of_mem (plain word isWord) listed rest
  rw [read]
  cases found : after? word text with
  | none => rfl
  | some left =>
      cases left with
      | nil => exact absurd found goesOn
      | cons char left => rfl

/-- Read the name and the parameter list after modifiers. -/
def named? : Bool × Text → Option Text
  | (found, text) =>
    match some? isNameChar text with
    | some afterName => parameters? afterName
    | none => if found then parameters? text else none

theorem method?_eq (text : Text) :
    method? text =
      if startsStatement (skip text) then none
      else named? (skipModifiers (skip text).length false (skip text)) := rfl

theorem named?_of_name {name list : Text} (isName : Run isNameChar name)
    (isList : Parenthesised parameters list) (found : Bool) (rest : Text) :
    named? (found, name ++ (list ++ '{' :: rest)) = some rest := by
  have read : some? isNameChar (name ++ (list ++ '{' :: rest)) = some (list ++ '{' :: rest) :=
    some?_eq_some.mpr ⟨name, isName, isList.leaves _, rfl⟩
  rw [named?, read]
  exact parameters?_append isList rest

/-- A modifier right before the parameter list is the name. -/
theorem named?_of_modifier {name list : Text} (isName : Run isNameChar name)
    (isList : Parenthesised parameters list) {left : Text}
    (read : spaced? modifiers (name ++ (list ++ '{' :: rest)) = some left) (fuel : Nat) :
    named? (skipModifiers fuel true left) = some rest := by
  obtain ⟨word, isWord, gap, isGap, leaves, split⟩ := (spaced?_eq_some apart_modifiers).mp read
  have readName : some? isNameChar (name ++ (list ++ '{' :: rest)) = some (list ++ '{' :: rest) :=
    some?_eq_some.mpr ⟨name, isName, isList.leaves _, rfl⟩
  have readWord : some? isNameChar (name ++ (list ++ '{' :: rest)) = some (gap ++ left) :=
    some?_eq_some.mpr ⟨word, run_of_modifier isWord,
      isGap.leaves_append (fun _ => isNameChar_of_isSeparator) left, split⟩
  have same : list ++ '{' :: rest = gap ++ left := Option.some.inj (readName.symm.trans readWord)
  obtain ⟨isBefore, plain, isAfter⟩ := isList
  rename_i before after
  -- Both runs of separators end where the parenthesis opens.
  have left_eq : left = '(' :: (parameters ++ ')' :: (after ++ '{' :: rest)) := by
    rw [← skip_append isGap.inside leaves, ← same, List.append_assoc]
    exact (skip_gap_cons isBefore rfl _).trans (by simp)
  have listed : Parenthesised parameters ([] ++ '(' :: (parameters ++ ')' :: after)) :=
    .intro (List.forall_mem_nil _) plain isAfter
  rw [left_eq, skipModifiers_of_none rfl, named?]
  exact (congrArg parameters? (by simp)).trans (parameters?_append listed rest)

theorem method?_eq_some :
    method? text = some rest ↔
      ∃ parameters header, MethodHeader parameters header ∧ text = header ++ '{' :: rest := by
  constructor
  · intro read
    obtain ⟨lead, isLead, text_eq⟩ := exists_gap text
    rw [method?_eq] at read
    split at read
    · cases read
    · rename_i noStatement
      rw [Bool.not_eq_true] at noStatement
      obtain ⟨front, modified, skipped_eq, flagged⟩ :=
        exists_modifiers (skip text).length false (skip text)
      generalize skipModifiers (skip text).length false (skip text) = skipped at read skipped_eq flagged
      obtain ⟨found, left⟩ := skipped
      rw [named?] at read
      split at read
      · rename_i afterName readName
        obtain ⟨parameters, list, isList, rfl⟩ := parameters?_eq_some.mp read
        obtain ⟨name, isName, -, rfl⟩ := some?_eq_some.mp readName
        have split_eq : skip text = front ++ (name ++ list) ++ '{' :: rest := by simp [skipped_eq]
        rw [split_eq, startsStatement_append (by simp [isList.mem])] at noStatement
        refine ⟨parameters, _, .intro isLead modified isName isList noStatement, ?_⟩
        rw [text_eq, split_eq]
        simp
      · split at read
        · rename_i isFound
          obtain ⟨earlier, name, gap, isEarlier, isName, isGap, rfl⟩ :=
            modified.exists_last ((flagged isFound).resolve_left Bool.false_ne_true)
          obtain ⟨parameters, list, isList, rfl⟩ := parameters?_eq_some.mp read
          have split_eq : skip text = earlier ++ (name ++ (gap ++ list)) ++ '{' :: rest := by
            simp [skipped_eq]
          rw [split_eq, startsStatement_append (by simp [isList.mem])] at noStatement
          refine ⟨parameters, _, .intro isLead isEarlier (run_of_modifier isName)
            (isList.prepend isGap.inside) noStatement, ?_⟩
          rw [text_eq, split_eq]
          simp
        · cases read
  · rintro ⟨parameters, _, ⟨isLead, modified, isName, isList, noStatement⟩, rfl⟩
    rename_i lead front name list
    have visible := isName.leaves_append (fun _ => isSeparator_of_isNameChar) (list ++ '{' :: rest)
    have skipped : skip (lead ++ (front ++ (name ++ list)) ++ '{' :: rest) =
        front ++ (name ++ (list ++ '{' :: rest)) := by
      simpa using skip_append isLead (modified.leaves visible)
    have unstated : startsStatement (front ++ (name ++ (list ++ '{' :: rest))) = false := by
      have listed : '(' ∈ front ++ (name ++ list) := by simp [isList.mem]
      have appended := startsStatement_append listed ('{' :: rest)
      rw [← noStatement, ← appended]
      simp
    obtain ⟨fuel, flag, enough, skipped_eq⟩ := skipModifiers_append modified visible (Nat.le_refl _) false
    rw [method?_eq, skipped, unstated, if_neg Bool.false_ne_true, skipped_eq]
    cases read : spaced? modifiers (name ++ (list ++ '{' :: rest)) with
    | none =>
        rw [skipModifiers_of_none read]
        exact named?_of_name isName isList flag rest
    | some left =>
        have positive := List.length_pos_iff.mpr isName.nonempty
        rw [List.length_append] at enough
        obtain ⟨smaller, rfl⟩ : ∃ smaller, fuel = smaller + 1 := ⟨fuel - 1, by omega⟩
        rw [skipModifiers, read]
        exact named?_of_modifier isName isList read smaller

end Docweave.Header
