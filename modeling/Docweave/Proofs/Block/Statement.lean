import Mathlib.Data.List.Induction
import Docweave.Proofs.Text.Tokens

/-!
# Where a statement ends

A statement ends at the first newline outside of string literals at which no bracket is open, or with
the text.  The brackets before that place are properly nested.  A bracket that closes another one than
the innermost, or none, leaves no such place, and neither does one that stays open; the statement is
then the first row.  The scan keeps the closing brackets that are due, so it is compared with brackets
that are nested by a stack machine over brackets alone.
-/

namespace Docweave.Extent

open Text

variable {brackets text : Text} {due : List Char} {front before after tokens : List Token} {token : Token}

/-! ## Nested brackets -/

/-- The brackets that belong together. -/
inductive Pair : (opening closing : Char) → Prop
  | round : Pair '(' ')'
  | square : Pair '[' ']'
  | curly : Pair '{' '}'

/-- Brackets that are properly nested and all closed. -/
inductive Nested : Text → Prop
  | nil : Nested []
  | pair {opening closing : Char} {inner rest : Text} (isPair : Pair opening closing)
      (inside : Nested inner) (more : Nested rest) : Nested (opening :: (inner ++ closing :: rest))

/-- The closing brackets that are due after some brackets, innermost first. -/
inductive Due : (brackets : Text) → (due : List Char) → Prop
  | nested {brackets : Text} (isNested : Nested brackets) : Due brackets []
  | opened {before inner : Text} {due : List Char} {opening closing : Char} (outer : Due before due)
      (isPair : Pair opening closing) (isNested : Nested inner) :
      Due (before ++ opening :: inner) (closing :: due)

/-- The characters that are brackets. -/
def isBracket (char : Char) : Bool := ['(', ')', '[', ']', '{', '}'].contains char

/-- The brackets outside of string literals. -/
def bracketsOf (tokens : List Token) : Text := (marks tokens).filter isBracket

theorem Nested.append {first second : Text} (isFirst : Nested first) (isSecond : Nested second) :
    Nested (first ++ second) := by
  induction isFirst with
  | nil => exact isSecond
  | pair isPair inside _ _ ih => simpa using Nested.pair isPair inside ih

theorem Nested.singlePair {opening closing : Char} {inner : Text} (isPair : Pair opening closing)
    (inside : Nested inner) : Nested (opening :: (inner ++ [closing])) := .pair isPair inside .nil

/-- An opening bracket makes its closing bracket due. -/
theorem Due.concat_opening {opening closing : Char} (isDue : Due brackets due) (isPair : Pair opening closing) :
    Due (brackets ++ [opening]) (closing :: due) := .opened isDue isPair .nil

/-- The bracket that is due closes the innermost open one. -/
theorem Due.concat_closing {closing : Char} (isDue : Due brackets (closing :: due)) :
    Due (brackets ++ [closing]) due := by
  cases isDue with
  | @opened before inner _ opening _ outer isPair isNested =>
      have pair := Nested.singlePair isPair isNested
      cases outer with
      | nested isBefore => simpa using Due.nested (isBefore.append pair)
      | @opened before outerInner due outerOpening outerClosing outer isOuterPair isOuterNested =>
          simpa using Due.opened outer isOuterPair (isOuterNested.append pair)

/-! ## The stack of due brackets -/

/-- The closing brackets that are due after one more bracket. -/
def afterBracket? (due : List Char) (char : Char) : Option (List Char) :=
  match closerOf? char with
  | some closing => some (closing :: due)
  | none =>
    match due with
    | first :: outer => if first = char then some outer else none
    | [] => none

/-- The closing brackets that are due after more brackets, unless one of these is not due. -/
def afterBrackets? : (due : List Char) → (brackets : Text) → Option (List Char)
  | due, [] => some due
  | due, char :: brackets => (afterBracket? due char).bind (afterBrackets? · brackets)

theorem afterBrackets?_append (due : List Char) (first second : Text) :
    afterBrackets? due (first ++ second) =
      (afterBrackets? due first).bind (afterBrackets? · second) := by
  induction first generalizing due with
  | nil => rfl
  | cons char first ih =>
      rw [List.cons_append, afterBrackets?, afterBrackets?]
      cases afterBracket? due char with
      | none => rfl
      | some later => exact ih later

theorem afterBrackets?_singleton (due : List Char) (char : Char) :
    afterBrackets? due [char] = afterBracket? due char := by
  rw [afterBrackets?]
  cases afterBracket? due char <;> rfl

theorem Pair.afterBracket?_opening {opening closing : Char} (isPair : Pair opening closing)
    (due : List Char) : afterBracket? due opening = some (closing :: due) := by
  cases isPair <;> rfl

theorem Pair.afterBracket?_closing {opening closing : Char} (isPair : Pair opening closing)
    (due : List Char) : afterBracket? (closing :: due) closing = some due := by
  cases isPair <;> rfl

theorem pair_of_closerOf? {opening closing : Char} (found : closerOf? opening = some closing) :
    Pair opening closing := by
  rw [closerOf?.eq_def] at found
  split at found
  · cases found
    exact .curly
  · cases found
    exact .round
  · cases found
    exact .square
  · cases found

theorem Pair.afterBracket?_eq_none {opening closing : Char} (isPair : Pair opening closing) :
    afterBracket? due closing = none ↔ due.head? ≠ some closing := by
  cases isPair <;> cases due <;> simp [afterBracket?, closerOf?]

/-- Nested brackets leave due what was due before them. -/
theorem Nested.afterBrackets?_eq (isNested : Nested brackets) (due : List Char) :
    afterBrackets? due brackets = some due := by
  induction isNested generalizing due with
  | nil => rfl
  | pair isPair _ _ inside more =>
      rw [afterBrackets?, isPair.afterBracket?_opening, Option.bind_some, afterBrackets?_append, inside,
        Option.bind_some, afterBrackets?, isPair.afterBracket?_closing, Option.bind_some, more]

/-- The stack moves as the brackets that are due do. -/
theorem Due.concat {char : Char} {later : List Char} (isDue : Due brackets due)
    (step : afterBracket? due char = some later) : Due (brackets ++ [char]) later := by
  rw [afterBracket?.eq_def] at step
  split at step
  · rename_i closing found
    cases step
    exact isDue.concat_opening (pair_of_closerOf? found)
  · split at step
    · rename_i first outer
      split at step
      · rename_i same
        subst same
        cases step
        exact isDue.concat_closing
      · cases step
    · cases step

/-- The stack holds the brackets that are due. -/
theorem due_iff : Due brackets due ↔ afterBrackets? [] brackets = some due := by
  constructor
  · intro isDue
    induction isDue with
    | nested isNested => exact isNested.afterBrackets?_eq []
    | opened _ isPair isNested outer =>
        rw [afterBrackets?_append, outer, Option.bind_some, afterBrackets?,
          isPair.afterBracket?_opening, Option.bind_some, isNested.afterBrackets?_eq]
  · intro read
    induction brackets using List.reverseRecOn generalizing due with
    | nil =>
        cases read
        exact .nested .nil
    | append_singleton brackets char ih =>
        rw [afterBrackets?_append, Option.bind_eq_some_iff] at read
        obtain ⟨earlier, readEarlier, step⟩ := read
        rw [afterBrackets?_singleton] at step
        exact (ih readEarlier).concat step

theorem nested_iff : Nested brackets ↔ afterBrackets? [] brackets = some [] := by
  rw [← due_iff]
  constructor
  · exact .nested
  · rintro ⟨isNested⟩
    exact isNested

/-- In nested brackets every closing bracket closes the innermost open one. -/
theorem Nested.head?_due {opening closing : Char} {others : Text}
    (isNested : Nested (brackets ++ closing :: others)) (isPair : Pair opening closing)
    (isDue : Due brackets due) : due.head? = some closing := by
  have nothingDue := nested_iff.mp isNested
  rw [afterBrackets?_append, due_iff.mp isDue, Option.bind_some, afterBrackets?] at nothingDue
  refine Decidable.not_not.mp fun notDue => ?_
  rw [isPair.afterBracket?_eq_none.mpr notDue] at nothingDue
  cases nothingDue

/-! ## Places at which a statement may end -/

/-- A newline ends a row, and with it a string literal that is no template. -/
def CutsRow (quote char : Char) : Prop := char = '\n' ∧ quote ≠ '`'

/-- No newline among the tokens ends the statement: brackets are open at each of them. -/
def Unended (tokens : List Token) : Prop :=
  ∀ before after, tokens = before ++ .mark '\n' :: after → ¬ Nested (bracketsOf before)

/-- The statement ends between `before` and `after`: no bracket is open there, the text ends or a
newline stands there, and no earlier newline ends the statement. -/
structure EndsBetween (before after : List Token) : Prop where
  nested : Nested (bracketsOf before)
  unended : Unended before
  stops : after = [] ∨ ∃ more, after = .mark '\n' :: more

/-- The brackets do not match: before the statement ends, one closes another bracket than the innermost
open one or none at all, or some stay open up to the end of the text. -/
inductive Mismatched (tokens : List Token) : Prop
  | wrong {before after : List Token} {opening closing : Char} {due : List Char}
      (split : tokens = before ++ .mark closing :: after) (unended : Unended before)
      (isPair : Pair opening closing) (isDue : Due (bracketsOf before) due)
      (notDue : due.head? ≠ some closing) : Mismatched tokens
  | unclosed {closing : Char} {due : List Char} (unended : Unended tokens)
      (isDue : Due (bracketsOf tokens) (closing :: due)) : Mismatched tokens

theorem sparesQuotes_cutsRow : SparesQuotes CutsRow := by
  intro quote isQuote
  refine ⟨fun cut => ?_, fun cut => absurd cut.1 (by decide)⟩
  rw [cut.1] at isQuote
  exact absurd isQuote (by decide)

@[simp] theorem bracketsOf_append (first second : List Token) :
    bracketsOf (first ++ second) = bracketsOf first ++ bracketsOf second := by
  rw [bracketsOf, marks_append, List.filter_append, bracketsOf, bracketsOf]

theorem bracketsOf_mark {char : Char} (bracket : isBracket char = true) :
    bracketsOf [.mark char] = [char] := by
  rw [bracketsOf, marks_mark, List.filter_cons_of_pos bracket, List.filter_nil]

theorem bracketsOf_mark_of_not {char : Char} (noBracket : isBracket char = false) :
    bracketsOf [.mark char] = [] := by
  rw [bracketsOf, marks_mark, List.filter_cons_of_neg (by simp [noBracket]), List.filter_nil]

theorem Pair.isBracket_closing {opening closing : Char} (isPair : Pair opening closing) :
    isBracket closing = true := by
  cases isPair <;> rfl

theorem bracketsOf_cons (token : Token) (tokens : List Token) :
    bracketsOf (token :: tokens) = bracketsOf [token] ++ bracketsOf tokens :=
  bracketsOf_append [token] tokens

theorem unended_nil : Unended [] := by
  intro before after split
  simp at split

/-- A token is passed, unless it is a newline and nothing is open. -/
theorem Unended.concat (unended : Unended front)
    (goesOn : token = .mark '\n' → ¬ Nested (bracketsOf front)) : Unended (front ++ [token]) := by
  intro before after split
  rcases List.eq_nil_or_concat after with rfl | ⟨shorter, last, rfl⟩
  · obtain ⟨rfl, same⟩ := List.append_inj' split rfl
    exact goesOn (List.cons.inj same).1
  · rw [List.concat_eq_append, ← List.cons_append, ← List.append_assoc] at split
    obtain ⟨rfl, -⟩ := List.append_inj' split rfl
    exact unended before shorter rfl

/-- A statement that ends holds no mismatch before its end. -/
theorem EndsBetween.not_mismatched (ends : EndsBetween before after) :
    ¬ Mismatched (before ++ after) := by
  rintro (⟨split, unended, isPair, isDue, notDue⟩ | ⟨unended, isDue⟩)
  · rename_i first last opening closing due
    -- The wrong bracket stands before the end, or behind the newline that ends the statement.
    rcases List.append_eq_append_iff.mp split with ⟨between, rfl, after_eq⟩ | ⟨between, rfl, last_eq⟩
    · rcases ends.stops with rfl | ⟨more, rfl⟩
      · simp at after_eq
      · cases between with
        | nil =>
            cases after_eq
            cases isPair
        | cons token between =>
            obtain ⟨rfl, -⟩ := List.cons.inj after_eq
            exact unended before between rfl ends.nested
    · cases between with
      | nil =>
          rcases ends.stops with rfl | ⟨more, rfl⟩
          · cases last_eq
          · cases last_eq
            cases isPair
      | cons token between =>
          obtain ⟨rfl, -⟩ := List.cons.inj last_eq
          have isNested := ends.nested
          rw [bracketsOf_append, bracketsOf_cons, bracketsOf_mark isPair.isBracket_closing] at isNested
          exact notDue (isNested.head?_due isPair isDue)
  · rcases ends.stops with rfl | ⟨more, rfl⟩
    · rw [List.append_nil, due_iff, nested_iff.mp ends.nested] at isDue
      cases isDue
    · exact unended before more rfl ends.nested

/-! ## The scan -/

theorem statementRest?_inside {quote char : Char} (noEscape : char ≠ '\\') (due : List Char)
    (text : Text) : statementRest? due (some quote) (char :: text) =
      if char = quote then (statementRest? due none text).map (· + 1)
      else if char = '\n' ∧ quote ≠ '`' then
        if due.isEmpty then some 0 else (statementRest? due none text).map (· + 1)
      else (statementRest? due (some quote) text).map (· + 1) := by
  rw [statementRest?]
  · exact fun same _ => noEscape same
  · exact fun _ _ same _ => noEscape same

theorem statementRest?_newline (due : List Char) (text : Text) :
    statementRest? due none ('\n' :: text) =
      if due.isEmpty then some 0 else (statementRest? due none text).map (· + 1) := by
  cases due with
  | nil => rfl
  | cons first due => rfl

/-- The scan of a string literal ends where the literal does. -/
theorem statementRest?_literalTail {quote : Char} {tail rest : Text} (isQuote : Quote quote)
    (isTail : LiteralTail quote (CutsRow quote) tail rest) (due : List Char) :
    statementRest? due (some quote) (tail ++ rest) =
      (statementRest? due none rest).map (· + tail.length) := by
  induction isTail with
  | closed rest =>
      rw [List.singleton_append, statementRest?_inside isQuote.ne_backslash, if_pos rfl,
        List.length_singleton]
  | cut here rest =>
      obtain ⟨rfl, notTemplate⟩ := here
      have noQuote : '\n' ≠ quote := by
        rintro rfl
        exact absurd isQuote (by decide)
      rw [List.nil_append, statementRest?_inside (by decide), if_neg noQuote, if_pos ⟨rfl, notTemplate⟩,
        ← statementRest?_newline]
      simp
  | unclosed => cases due <;> rfl
  | unclosedEscape => cases due <;> rfl
  | char noQuote noEscape noCut more ih =>
      have goesOn : ¬ (_ = '\n' ∧ quote ≠ '`') := noCut
      rw [List.cons_append, statementRest?_inside noEscape, if_neg noQuote, if_neg goesOn, ih,
        Option.map_map, List.length_cons]
      rfl
  | escaped hidden more ih =>
      rw [List.cons_append, List.cons_append, statementRest?, ih, Option.map_map, List.length_cons,
        List.length_cons]
      rfl

theorem statementRest?_quote {quote : Char} (isQuote : Quote quote) (due : List Char) (text : Text) :
    statementRest? due none (quote :: text) = (statementRest? due (some quote) text).map (· + 1) := by
  cases isQuote <;> cases due <;> rfl

theorem exists_pair_of_isBracket {char : Char} (bracket : isBracket char = true) :
    ∃ other, Pair char other ∨ Pair other char := by
  simp only [isBracket, List.contains_eq_mem, List.mem_cons, List.not_mem_nil, or_false,
    decide_eq_true_eq] at bracket
  rcases bracket with rfl | rfl | rfl | rfl | rfl | rfl
  · exact ⟨')', .inl .round⟩
  · exact ⟨'(', .inr .round⟩
  · exact ⟨']', .inl .square⟩
  · exact ⟨'[', .inr .square⟩
  · exact ⟨'}', .inl .curly⟩
  · exact ⟨'{', .inr .curly⟩

theorem closerOf?_of_not_bracket {char : Char} (noBracket : isBracket char = false) :
    closerOf? char = none := by
  rw [closerOf?.eq_def]
  split <;> first | rfl | cases noBracket

theorem isCloser_of_not_bracket {char : Char} (noBracket : isBracket char = false) :
    isCloser char = false := by
  rw [Bool.eq_false_iff]
  intro closer
  simp only [isCloser, Bool.or_eq_true, beq_iff_eq] at closer
  rcases closer with (rfl | rfl) | rfl <;> cases noBracket

/-- The scan of a character outside of string literals moves the stack, unless the statement ends. -/
theorem statementRest?_mark {char : Char} (noQuote : ¬ Quote char) (goesOn : ¬ (char = '\n' ∧ due = []))
    (text : Text) : statementRest? due none (char :: text) =
      (afterBrackets? due (bracketsOf [.mark char])).bind fun later =>
        (statementRest? later none text).map (· + 1) := by
  rw [statementRest?.eq_def]
  simp only [if_neg goesOn, if_neg (mt isQuote_iff.mp noQuote)]
  by_cases bracket : isBracket char = true
  · rw [bracketsOf_mark bracket, afterBrackets?_singleton]
    obtain ⟨other, isPair | isPair⟩ := exists_pair_of_isBracket bracket
    · cases isPair <;> rfl
    · cases due with
      | nil => cases isPair <;> rfl
      | cons first outer =>
          by_cases same : first = char
          · subst same
            cases isPair <;> simp [afterBracket?, closerOf?, isCloser]
          · cases isPair <;> simp [afterBracket?, closerOf?, isCloser, same]
  · have noBracket := Bool.eq_false_iff.mpr bracket
    rw [bracketsOf_mark_of_not noBracket, closerOf?_of_not_bracket noBracket]
    simp [isCloser_of_not_bracket noBracket, afterBrackets?]

/-- A token that leaves no stack closes something else than what is due. -/
theorem exists_wrong (refused : afterBrackets? due (bracketsOf [token]) = none) :
    ∃ opening closing, token = .mark closing ∧ Pair opening closing ∧ due.head? ≠ some closing := by
  cases token with
  | literal text => cases refused
  | mark char =>
      by_cases bracket : isBracket char = true
      · rw [bracketsOf_mark bracket, afterBrackets?_singleton] at refused
        obtain ⟨other, isPair | isPair⟩ := exists_pair_of_isBracket bracket
        · rw [isPair.afterBracket?_opening] at refused
          cases refused
        · exact ⟨other, char, rfl, isPair, isPair.afterBracket?_eq_none.mp refused⟩
      · rw [bracketsOf_mark_of_not (Bool.eq_false_iff.mpr bracket)] at refused
        cases refused

/-- What the scan of a text finds, where `front` has been read before and left `due`: brackets that do
not match, or the place where the statement ends. -/
def Finds (front : List Token) (due : List Char) (text : Text) (tokens : List Token) : Prop :=
  (statementRest? due none text = none ∧ Mismatched (front ++ tokens)) ∨
    ∃ before after, tokens = before ++ after ∧ EndsBetween (front ++ before) after ∧
      statementRest? due none text = some (spell before).length

/-- The scan goes on with the stack that a token leaves, or the token closes a wrong bracket. -/
theorem finds_cons (token : Token) (step : statementRest? due none (token.written ++ text) =
      (afterBrackets? due (bracketsOf [token])).bind fun later =>
        (statementRest? later none text).map (· + token.written.length))
    (opened : afterBrackets? [] (bracketsOf front) = some due) (unended : Unended front)
    (goesOn : token = .mark '\n' → due ≠ [])
    (more : ∀ later, afterBrackets? [] (bracketsOf (front ++ [token])) = some later →
      Unended (front ++ [token]) → Finds (front ++ [token]) later text tokens) :
    Finds front due (token.written ++ text) (token :: tokens) := by
  rw [Finds, step]
  cases found : afterBrackets? due (bracketsOf [token]) with
  | none =>
      obtain ⟨opening, closing, rfl, isPair, notDue⟩ := exists_wrong found
      exact .inl ⟨rfl, .wrong rfl unended isPair (due_iff.mpr opened) notDue⟩
  | some later =>
      have openedLater : afterBrackets? [] (bracketsOf (front ++ [token])) = some later := by
        rw [bracketsOf_append, afterBrackets?_append, opened, Option.bind_some, found]
      have unendedLater : Unended (front ++ [token]) := by
        refine unended.concat fun newline isNested => goesOn newline ?_
        exact Option.some.inj (opened.symm.trans (nested_iff.mp isNested))
      rw [Option.bind_some]
      rcases more later openedLater unendedLater with ⟨refused, mismatched⟩ | ⟨before, after, rfl, ends, read⟩
      · refine .inl ⟨by rw [refused, Option.map_none], ?_⟩
        rwa [List.append_assoc] at mismatched
      · refine .inr ⟨token :: before, after, rfl, ?_, ?_⟩
        · rwa [List.append_assoc] at ends
        · rw [read, Option.map_some, spell_cons, List.length_append, Nat.add_comm]

/-- The scan finds where the statement ends, or that its brackets do not match. -/
theorem finds_of_reads (reads : Reads CutsRow text tokens)
    (opened : afterBrackets? [] (bracketsOf front) = some due) (unended : Unended front) :
    Finds front due text tokens := by
  induction reads generalizing front due with
  | nil =>
      cases due with
      | nil =>
          refine .inr ⟨[], [], rfl, ⟨?_, ?_, .inl rfl⟩, rfl⟩
          · rwa [List.append_nil, nested_iff]
          · rwa [List.append_nil]
      | cons closing due =>
          refine .inl ⟨rfl, ?_⟩
          rw [List.append_nil]
          exact .unclosed unended (due_iff.mpr opened)
  | @mark char text tokens noQuote more ih =>
      by_cases stops : char = '\n' ∧ due = []
      · obtain ⟨rfl, rfl⟩ := stops
        refine .inr ⟨[], _, rfl, ⟨?_, ?_, .inr ⟨tokens, rfl⟩⟩, rfl⟩
        · rwa [List.append_nil, nested_iff]
        · rwa [List.append_nil]
      · refine finds_cons (.mark char) (statementRest?_mark noQuote stops text) opened unended ?_ fun _ => ih
        rintro ⟨⟩ empty
        exact stops ⟨rfl, empty⟩
  | @literal quote tail rest tokens isQuote isTail more ih =>
      refine finds_cons (.literal (quote :: tail)) ?_ opened unended ?_ fun _ => ih
      · have step := statementRest?_literalTail isQuote isTail due
        rw [Token.written, List.cons_append, statementRest?_quote isQuote, step, Option.map_map]
        rfl
      · rintro ⟨⟩

/-! ## The end of a statement -/

/-- A text from the start of a value on has its tokens.  If their brackets do not match, the statement
is the first row of the text.  Otherwise it reaches from the start to the first newline outside of
string literals at which no bracket is open, or to the end of the text without one, and the brackets up
to there are nested. -/
theorem end_of_statement {start : Nat} (within : start ≤ text.length) :
    ∃ tokens, (∀ others, Reads CutsRow (text.drop start) others ↔ others = tokens) ∧
      (Mismatched tokens ∧ statement text start = line text ∨
        ¬ Mismatched tokens ∧ ∃ before after, tokens = before ++ after ∧ EndsBetween before after ∧
          statement text start = start + (spell before).length ∧
          (text.take (statement text start)).drop start = spell before ∧
          text.drop (statement text start) = spell after) := by
  obtain ⟨tokens, reads_iff⟩ := exists_reads_iff sparesQuotes_cutsRow (text.drop start)
  refine ⟨tokens, reads_iff, ?_⟩
  have reads := (reads_iff tokens).mpr rfl
  have found : Finds [] [] (text.drop start) tokens := finds_of_reads reads rfl unended_nil
  rcases found with
    ⟨refused, mismatched⟩ | ⟨before, after, rfl, ends, read⟩
  · exact .inl ⟨mismatched, by rw [statement, refused]⟩
  · refine .inr ⟨ends.not_mismatched, before, after, rfl, ends, ?_⟩
    have spelled : text.drop start = spell before ++ spell after := by
      rw [← reads.spell_eq, spell_append]
    have reach : statement text start = start + (spell before).length := by
      have lengths := congrArg List.length spelled
      rw [List.length_drop, List.length_append] at lengths
      rw [statement, read]
      exact Nat.min_eq_left (by omega)
    refine ⟨reach, ?_, ?_⟩
    · rw [reach, ← List.take_drop, spelled, List.take_left]
    · rw [reach, ← List.drop_drop, spelled, List.drop_left]

/-- Brackets in a string literal, a quote after a backslash, and a newline in brackets. -/
theorem end_of_statement_over_rows :
    let text : Text := "a = f(\")\\\"\",\n  [1])\nb"
    4 ≤ text.length ∧ statement text 4 ≠ line text ∧
      ∃ before after, EndsBetween before after ∧ statement text 4 = 19 ∧
        spell before = "f(\")\\\"\",\n  [1])" ∧ spell after = "\nb" := by
  intro text
  have within : 4 ≤ text.length := by decide
  have apart : statement text 4 ≠ line text := by decide +kernel
  refine ⟨within, apart, ?_⟩
  obtain ⟨tokens, -, ⟨-, row⟩ | ⟨-, before, after, -, ends, reach, spelled, left⟩⟩ :=
    end_of_statement within
  · exact absurd row apart
  · exact ⟨before, after, ends, by decide +kernel, spelled.symm.trans (by decide +kernel),
      left.symm.trans (by decide +kernel)⟩

/-- A bracket that closes another one than the innermost leaves the first row. -/
example : statement "a = f([)\n]" 4 = 8 := by decide

end Docweave.Extent
