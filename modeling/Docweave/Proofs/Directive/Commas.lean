import Mathlib.Data.List.Induction
import Docweave.Proofs.Directive.Segments
import Docweave.Proofs.Text.Tokens

/-!
# Argument lists cut at their commas

A comma cuts an argument list when it stands outside of string literals and parentheses.  The list has
no arguments when a parenthesis is closed that is not open, or one is left open.  Otherwise its tokens
are the stretches between the commas that cut, each of which is cut nowhere; the scan of such a stretch
by itself gives the stretch back, and so does the scan without the blanks at its ends.
-/

namespace Docweave.Call

open Text

variable {text piece : Text} {tokens segment : List Token} {depth : Nat} {quote : Option Char}

/-! ## Parentheses and commas -/

/-- No parenthesis is closed that is not open, and none is left open. -/
structure Matched (marks : Text) : Prop where
  neverNegative : ∀ front, front <+: marks → front.count ')' ≤ front.count '('
  settled : marks.count ')' = marks.count '('

/-- A stretch of an argument list that is cut nowhere: no parenthesis is closed that is not open, every
comma stands in parentheses, and `depth` of these are left open. -/
structure Uncut (depth : Nat) (marks : Text) : Prop where
  neverNegative : ∀ front, front <+: marks → front.count ')' ≤ front.count '('
  commas : ∀ front back, marks = front ++ ',' :: back → front.count ')' < front.count '('
  count_eq : marks.count '(' = marks.count ')' + depth

theorem Uncut.matched {marks : Text} (uncut : Uncut 0 marks) : Matched marks :=
  ⟨uncut.neverNegative, uncut.count_eq.symm⟩

theorem uncut_nil : Uncut 0 [] := by
  refine ⟨?_, ?_, rfl⟩
  · rintro front isPrefix
    simp [List.prefix_nil.mp isPrefix]
  · intro front back split
    simp at split

/-- One more mark is passed over when it closes no parenthesis too many and is no comma that cuts. -/
theorem Uncut.concat {marks : Text} {char : Char} {later : Nat} (uncut : Uncut depth marks)
    (comma : char = ',' → 0 < depth)
    (count_eq : (marks ++ [char]).count '(' = (marks ++ [char]).count ')' + later) :
    Uncut later (marks ++ [char]) := by
  refine ⟨?_, ?_, count_eq⟩
  · intro front isPrefix
    rcases List.prefix_concat_iff.mp isPrefix with rfl | within
    · omega
    · exact uncut.neverNegative front within
  · intro front back split
    rcases List.eq_nil_or_concat back with rfl | ⟨shorter, last, rfl⟩
    · obtain ⟨rfl, same⟩ := List.append_inj' split rfl
      have opened := comma (List.cons.inj same).1
      have counted := uncut.count_eq
      omega
    · rw [List.concat_eq_append, ← List.cons_append, ← List.append_assoc] at split
      obtain ⟨rfl, -⟩ := List.append_inj' split rfl
      exact uncut.commas front shorter rfl

/-- A stretch that is cut nowhere and the comma after it have no say in whether the rest matches. -/
theorem Uncut.matched_append_iff {marks others : Text} (uncut : Uncut 0 marks) :
    Matched (marks ++ ',' :: others) ↔ Matched others := by
  have counted := uncut.count_eq
  constructor
  · rintro ⟨neverNegative, settled⟩
    constructor
    · intro front isPrefix
      have within := neverNegative (marks ++ ',' :: front) (by simpa using isPrefix)
      simp at within
      omega
    · simp at settled
      omega
  · rintro ⟨neverNegative, settled⟩
    constructor
    · intro front isPrefix
      rcases List.prefix_or_prefix_of_prefix isPrefix (List.prefix_append marks (',' :: others)) with
        within | ⟨more, rfl⟩
      · exact uncut.neverNegative front within
      · rcases List.prefix_cons_iff.mp ((List.prefix_append_right_inj marks).mp isPrefix) with
          rfl | ⟨later, rfl, isLater⟩
        · exact uncut.neverNegative _ (by simp)
        · have rest := neverNegative later isLater
          simp
          omega
    · simp
      omega

/-- What is cut into stretches matches. -/
theorem matched_intercalate {segments : List (List Token)}
    (uncut : ∀ segment ∈ segments, Uncut 0 (marks segment)) :
    Matched (marks ([Token.mark ','].intercalate segments)) := by
  induction segments with
  | nil => exact uncut_nil.matched
  | cons first later ih =>
      obtain ⟨uncutFirst, uncutLater⟩ := List.forall_mem_cons.mp uncut
      cases later with
      | nil =>
          rw [List.intercalate_singleton]
          exact uncutFirst.matched
      | cons next later =>
          rw [List.intercalate_cons_cons, marks_append, marks_append, marks_mark, List.append_assoc]
          exact uncutFirst.matched_append_iff.mpr (ih uncutLater)

/-! ## The scan -/

/-- Nothing but its own quote ends a string literal in an argument list. -/
def NeverCut (_ _ : Char) : Prop := False

theorem sparesQuotes_neverCut : SparesQuotes NeverCut := fun _ _ => ⟨id, id⟩

/-- The scan of a string literal ends where the literal does. -/
theorem segmentsFrom?_literalTail {quote : Char} {tail rest : Text} (isQuote : Quote quote)
    (isTail : LiteralTail quote (NeverCut quote) tail rest) (depth : Nat) (piece : Text) :
    segmentsFrom? depth (some quote) piece (tail ++ rest) =
      segmentsFrom? depth none (tail.reverse ++ piece) rest := by
  induction isTail generalizing piece with
  | closed rest =>
      rw [List.singleton_append, segmentsFrom?, if_pos rfl]
      · rfl
      · exact fun _ _ same _ => isQuote.ne_backslash same
  | cut here rest => exact here.elim
  | unclosed => rfl
  | unclosedEscape =>
      have step : segmentsFrom? depth (some quote) piece ['\\'] =
          segmentsFrom? depth (if '\\' = quote then none else some quote) ('\\' :: piece) [] := rfl
      rw [List.append_nil, step, if_neg isQuote.ne_backslash.symm]
      rfl
  | char noQuote noEscape _ more ih =>
      rw [List.cons_append, segmentsFrom?, if_neg noQuote, ih]
      · simp
      · exact fun _ _ same _ => noEscape same
  | escaped hidden more ih =>
      rw [List.cons_append, List.cons_append, segmentsFrom?, ih]
      simp

/-- What the scan of a text finds, where `segment` is the stretch read so far: parentheses that do not
match, or the stretches between the commas that cut. -/
def Finds (segment : List Token) (depth : Nat) (text : Text) (tokens : List Token) : Prop :=
  (segmentsFrom? depth none (spell segment).reverse text = none ∧ ¬ Matched (marks (segment ++ tokens))) ∨
    ∃ segments, segments ≠ [] ∧ segment ++ tokens = [Token.mark ','].intercalate segments ∧
      (∀ segment ∈ segments, Uncut 0 (marks segment)) ∧
      segmentsFrom? depth none (spell segment).reverse text = some (segments.map spell)

/-- A token at which the scan does not cut goes to the stretch. -/
theorem Finds.pass {later : Nat} (token : Token) (found : Finds (segment ++ [token]) later text tokens)
    (step : segmentsFrom? depth none (spell segment).reverse (token.written ++ text) =
      segmentsFrom? later none (token.written.reverse ++ (spell segment).reverse) text) :
    Finds segment depth (token.written ++ text) (token :: tokens) := by
  have spelled : (spell (segment ++ [token])).reverse =
      token.written.reverse ++ (spell segment).reverse := by simp
  rwa [Finds, spelled, ← step, List.append_assoc] at found

/-- A comma outside of parentheses ends the stretch. -/
theorem Finds.cut (uncut : Uncut 0 (marks segment)) (found : Finds [] 0 text tokens) :
    Finds segment 0 (',' :: text) (.mark ',' :: tokens) := by
  have step : segmentsFrom? 0 none (spell segment).reverse (',' :: text) =
      (segmentsFrom? 0 none [] text).map (spell segment :: ·) := by
    rw [segmentsFrom?_cons, if_neg (by decide), if_neg (by decide), if_neg (by decide),
      if_pos ⟨rfl, rfl⟩, List.reverse_reverse]
  rw [Finds, step]
  rcases found with ⟨refused, unmatched⟩ | ⟨segments, nonempty, tokens_eq, isUncut, read⟩
  · refine .inl ⟨?_, ?_⟩
    · rw [show segmentsFrom? 0 none [] text = none from refused, Option.map_none]
    · rw [marks_append]
      exact fun matched => unmatched (uncut.matched_append_iff.mp matched)
  · refine .inr ⟨segment :: segments, List.cons_ne_nil _ _, ?_,
      List.forall_mem_cons.mpr ⟨uncut, isUncut⟩, ?_⟩
    · obtain ⟨first, later, rfl⟩ := List.exists_cons_of_ne_nil nonempty
      rw [List.intercalate_cons_cons, ← tokens_eq]
      simp
    · rw [show segmentsFrom? 0 none [] text = some (segments.map spell) from read, Option.map_some,
        List.map_cons]

/-- A mark at which the scan does not cut leaves `later` parentheses open. -/
theorem finds_mark {char : Char} (later : Nat) (uncut : Uncut depth (marks segment))
    (comma : char = ',' → 0 < depth)
    (count_eq : (marks segment ++ [char]).count '(' = (marks segment ++ [char]).count ')' + later)
    (step : segmentsFrom? depth none (spell segment).reverse (char :: text) =
      segmentsFrom? later none (char :: (spell segment).reverse) text)
    (more : Uncut later (marks (segment ++ [.mark char])) →
      Finds (segment ++ [.mark char]) later text tokens) :
    Finds segment depth (char :: text) (.mark char :: tokens) := by
  have goesOn := uncut.concat comma count_eq
  rw [← marks_mark, ← marks_append] at goesOn
  exact (more goesOn).pass (.mark char) step

/-- The scan finds the stretches between the commas that cut, or that the parentheses do not match. -/
theorem finds_of_reads (reads : Reads NeverCut text tokens) (uncut : Uncut depth (marks segment)) :
    Finds segment depth text tokens := by
  have counted := uncut.count_eq
  induction reads generalizing segment depth with
  | nil =>
      by_cases settled : depth = 0
      · subst settled
        refine .inr ⟨[segment], List.cons_ne_nil _ _, ?_, List.forall_mem_singleton.mpr uncut, ?_⟩
        · rw [List.append_nil, List.intercalate_singleton]
        · rw [segmentsFrom?, if_pos rfl, List.reverse_reverse]
          rfl
      · refine .inl ⟨by rw [segmentsFrom?, if_neg settled], fun matched => settled ?_⟩
        rw [List.append_nil] at matched
        have closed := matched.settled
        omega
  | @mark char text tokens noQuote more ih =>
      have step := segmentsFrom?_cons depth (spell segment).reverse char text
      rw [if_neg (mt isQuote_iff.mp noQuote)] at step
      by_cases opening : char = '('
      · subst opening
        rw [if_pos rfl] at step
        refine finds_mark (depth + 1) uncut (absurd · (by decide)) ?_ step fun goesOn =>
          ih goesOn goesOn.count_eq
        simp
        omega
      · rw [if_neg opening] at step
        by_cases closing : char = ')'
        · subst closing
          rw [if_pos rfl] at step
          by_cases settled : depth = 0
          · subst settled
            refine .inl ⟨by rw [step, if_pos rfl], fun matched => ?_⟩
            have negative := matched.neverNegative (marks segment ++ [')']) ⟨marks tokens, by simp⟩
            simp at negative
            omega
          · rw [if_neg settled] at step
            refine finds_mark (depth - 1) uncut (absurd · (by decide)) ?_ step fun goesOn =>
              ih goesOn goesOn.count_eq
            simp
            omega
        · rw [if_neg closing] at step
          by_cases comma : char = ',' ∧ depth = 0
          · obtain ⟨rfl, rfl⟩ := comma
            exact .cut uncut (ih uncut_nil uncut_nil.count_eq)
          · rw [if_neg comma] at step
            refine finds_mark depth uncut ?_ ?_ step fun goesOn => ih goesOn goesOn.count_eq
            · rintro rfl
              exact Nat.pos_of_ne_zero fun settled => comma ⟨rfl, settled⟩
            · simp [opening, closing]
              omega
  | @literal quote tail rest tokens isQuote isTail more ih =>
      have unmarked : marks (segment ++ [.literal (quote :: tail)]) = marks segment := by simp
      refine (ih (unmarked ▸ uncut) (unmarked ▸ counted)).pass (.literal (quote :: tail)) ?_
      rw [Token.written, List.cons_append, segmentsFrom?_cons, if_pos (isQuote_iff.mpr isQuote),
        segmentsFrom?_literalTail isQuote isTail]
      simp

/-- A list is cut exactly when its parentheses match. -/
theorem segments?_of_reads (reads : Reads NeverCut text tokens) :
    (segments? text = none ↔ ¬ Matched (marks tokens)) ∧
      ∀ pieces, segments? text = some pieces → ∃ segments,
        tokens = [Token.mark ','].intercalate segments ∧
          (∀ segment ∈ segments, Uncut 0 (marks segment)) ∧ pieces = segments.map spell := by
  have found : Finds [] 0 text tokens := finds_of_reads reads uncut_nil
  rcases found with ⟨refused, unmatched⟩ | ⟨segments, -, tokens_eq, isUncut, read⟩
  · have nothing : segments? text = none := refused
    exact ⟨iff_of_true nothing unmatched, by simp [nothing]⟩
  · rw [List.nil_append] at tokens_eq
    have cut : segments? text = some (segments.map spell) := read
    refine ⟨iff_of_false (by simp [cut]) (not_not_intro (tokens_eq ▸ matched_intercalate isUncut)), ?_⟩
    rintro pieces again
    exact ⟨segments, tokens_eq, isUncut, Option.some.inj (again.symm.trans cut)⟩

/-! ## A stretch by itself -/

/-- What follows a string literal may end earlier. -/
theorem literalTail_of_append {quote : Char} {tail rest more : Text}
    (isTail : LiteralTail quote (NeverCut quote) tail (rest ++ more)) :
    LiteralTail quote (NeverCut quote) tail rest := by
  generalize whole_eq : rest ++ more = whole at isTail
  induction isTail with
  | closed whole => exact .closed rest
  | cut here _ => exact here.elim
  | unclosed =>
      obtain ⟨rfl, -⟩ := List.append_eq_nil_iff.mp whole_eq
      exact .unclosed
  | unclosedEscape =>
      obtain ⟨rfl, -⟩ := List.append_eq_nil_iff.mp whole_eq
      exact .unclosedEscape
  | char noQuote noEscape noCut _ ih => exact .char noQuote noEscape noCut (ih whole_eq)
  | escaped hidden _ ih => exact .escaped hidden (ih whole_eq)

/-- A character at the end of the text is either behind a string literal, or in one that is not closed. -/
theorem literalTail_concat {quote char : Char} {tail rest : Text}
    (isTail : LiteralTail quote (NeverCut quote) tail rest) (apart : char ≠ quote)
    (noEscape : char ≠ '\\') :
    LiteralTail quote (NeverCut quote) tail (rest ++ [char]) ∨
      rest = [] ∧ LiteralTail quote (NeverCut quote) (tail ++ [char]) [] := by
  induction isTail with
  | closed rest => exact .inl (.closed _)
  | cut here _ => exact here.elim
  | unclosed => exact .inr ⟨rfl, .char apart noEscape id .unclosed⟩
  | unclosedEscape => exact .inr ⟨rfl, .escaped char .unclosed⟩
  | char noQuote noBackslash noCut _ ih =>
      exact ih.imp (.char noQuote noBackslash noCut) fun inside =>
        ⟨inside.1, .char noQuote noBackslash noCut inside.2⟩
  | escaped hidden _ ih =>
      exact ih.imp (.escaped hidden) fun inside => ⟨inside.1, .escaped hidden inside.2⟩

/-- Tokens that stand next to each other are read by themselves. -/
theorem reads_of_append {front back : List Token} (reads : Reads NeverCut text (front ++ back)) :
    Reads NeverCut (spell front) front ∧ Reads NeverCut (spell back) back := by
  induction front generalizing text with
  | nil =>
      have spelled := reads.spell_eq
      rw [List.nil_append] at spelled reads
      exact ⟨.nil, spelled ▸ reads⟩
  | cons token front ih =>
      cases reads with
      | mark noQuote more => exact ⟨.mark noQuote (ih more).1, (ih more).2⟩
      | @literal quote tail rest _ isQuote isTail more =>
          obtain ⟨readsFront, readsBack⟩ := ih more
          have spelled : spell (front ++ back) = rest := more.spell_eq
          rw [← spelled, spell_append] at isTail
          exact ⟨.literal isQuote (literalTail_of_append isTail) readsFront, readsBack⟩

/-- A text that is one argument: nothing in it cuts. -/
def IsStretch (text : Text) : Prop := ∃ tokens, Reads NeverCut text tokens ∧ Uncut 0 (marks tokens)

/-- A text in which nothing cuts is its own only stretch. -/
theorem IsStretch.segments?_eq (isStretch : IsStretch text) : segments? text = some [text] := by
  obtain ⟨tokens, reads, uncut⟩ := isStretch
  have found : Finds [] 0 text tokens := finds_of_reads reads uncut_nil
  rcases found with ⟨-, unmatched⟩ | ⟨segments, nonempty, tokens_eq, isUncut, read⟩
  · exact absurd uncut.matched unmatched
  · obtain ⟨first, later, rfl⟩ := List.exists_cons_of_ne_nil nonempty
    rw [List.nil_append] at tokens_eq
    cases later with
    | nil =>
        rw [List.intercalate_singleton] at tokens_eq
        rw [List.map_singleton, ← tokens_eq, reads.spell_eq] at read
        exact read
    | cons next later =>
        -- The first comma that cuts would stand outside of parentheses.
        rw [List.intercalate_cons_cons] at tokens_eq
        have inside := uncut.commas (marks first) (marks ([Token.mark ','].intercalate (next :: later)))
          (by rw [tokens_eq]; simp)
        have settled := (isUncut first List.mem_cons_self).count_eq
        omega

/-! ## Blanks around a stretch -/

theorem not_quote_of_isBlank {char : Char} (blank : isBlank char = true) : ¬ Quote char := by
  simp only [isBlank, Bool.or_eq_true, beq_iff_eq] at blank
  rcases blank with rfl | rfl <;> decide

/-- A blank at the end is a mark, or it stands in a string literal that is not closed. -/
theorem exists_reads_concat {char : Char} (blank : isBlank char = true)
    (reads : Reads NeverCut text tokens) :
    ∃ longer, Reads NeverCut (text ++ [char]) longer ∧
      (marks longer = marks tokens ∨ marks longer = marks tokens ++ [char]) := by
  induction reads with
  | nil => exact ⟨[.mark char], .mark (not_quote_of_isBlank blank) .nil, .inr rfl⟩
  | mark noQuote _ ih =>
      obtain ⟨longer, readsLonger, same⟩ := ih
      exact ⟨_, .mark noQuote readsLonger, by simpa using same⟩
  | @literal quote tail rest tokens isQuote isTail more ih =>
      have apart : char ≠ quote := fun same => not_quote_of_isBlank blank (same ▸ isQuote)
      have noEscape : char ≠ '\\' := by
        rintro rfl
        exact absurd blank (by decide)
      rcases literalTail_concat isTail apart noEscape with behind | ⟨rfl, inside⟩
      · obtain ⟨longer, readsLonger, same⟩ := ih
        refine ⟨.literal (quote :: tail) :: longer, ?_, ?_⟩
        · rw [List.cons_append, List.append_assoc]
          exact .literal isQuote behind readsLonger
        · simpa using same
      · cases more
        refine ⟨[.literal (quote :: (tail ++ [char]))], ?_, .inl rfl⟩
        have readsInside := Reads.literal isQuote inside .nil
        simpa using readsInside

theorem isMark_of_isBlank {char : Char} (blank : isBlank char = true) : isMark char = false :=
  unmarked_of_blank (List.forall_mem_singleton.mpr blank) char List.mem_cons_self

theorem ne_of_isMark {char : Char} (unmarked : isMark char = false) :
    char ≠ '(' ∧ char ≠ ')' ∧ char ≠ ',' := by
  refine ⟨?_, ?_, ?_⟩ <;> rintro rfl <;> exact absurd unmarked (by decide)

theorem Uncut.of_cons {marks : Text} {char : Char} (uncut : Uncut depth (char :: marks))
    (unmarked : isMark char = false) : Uncut depth marks := by
  obtain ⟨noOpening, noClosing, -⟩ := ne_of_isMark unmarked
  obtain ⟨neverNegative, commas, count_eq⟩ := uncut
  refine ⟨fun front isPrefix => ?_, fun front back split => ?_, ?_⟩
  · have within := neverNegative (char :: front) ((List.prefix_cons_inj char).mpr isPrefix)
    rwa [List.count_cons_of_ne noClosing, List.count_cons_of_ne noOpening] at within
  · have inside := commas (char :: front) back (by rw [split, List.cons_append])
    rwa [List.count_cons_of_ne noClosing, List.count_cons_of_ne noOpening] at inside
  · rwa [List.count_cons_of_ne noClosing, List.count_cons_of_ne noOpening] at count_eq

theorem Uncut.of_concat {marks : Text} {char : Char} (uncut : Uncut depth (marks ++ [char]))
    (unmarked : isMark char = false) : Uncut depth marks := by
  obtain ⟨noOpening, noClosing, -⟩ := ne_of_isMark unmarked
  obtain ⟨neverNegative, commas, count_eq⟩ := uncut
  refine ⟨fun front isPrefix => ?_, fun front back split => ?_, ?_⟩
  · exact neverNegative front (isPrefix.trans (List.prefix_append _ _))
  · exact commas front (back ++ [char]) (by simp [split])
  · simpa [noOpening, noClosing] using count_eq

theorem IsStretch.of_cons {char : Char} (blank : isBlank char = true)
    (isStretch : IsStretch (char :: text)) : IsStretch text := by
  obtain ⟨tokens, reads, uncut⟩ := isStretch
  cases reads with
  | mark _ more => exact ⟨_, more, uncut.of_cons (isMark_of_isBlank blank)⟩
  | literal isQuote => exact absurd isQuote (not_quote_of_isBlank blank)

theorem IsStretch.of_concat {char : Char} (blank : isBlank char = true)
    (isStretch : IsStretch (text ++ [char])) : IsStretch text := by
  obtain ⟨tokens, reads, uncut⟩ := isStretch
  obtain ⟨shorter, readsShorter⟩ := exists_reads NeverCut text
  obtain ⟨longer, readsLonger, same⟩ := exists_reads_concat blank readsShorter
  obtain rfl := readsLonger.unique sparesQuotes_neverCut reads
  rcases same with same | same
  · exact ⟨shorter, readsShorter, same ▸ uncut⟩
  · exact ⟨shorter, readsShorter, (same ▸ uncut).of_concat (isMark_of_isBlank blank)⟩

theorem IsStretch.of_append_left {lead : Text} (blank : ∀ char ∈ lead, isBlank char = true)
    (isStretch : IsStretch (lead ++ text)) : IsStretch text := by
  induction lead with
  | nil => exact isStretch
  | cons char lead ih =>
      obtain ⟨first, later⟩ := List.forall_mem_cons.mp blank
      exact ih later (isStretch.of_cons first)

theorem IsStretch.of_append_right {tail : Text} (blank : ∀ char ∈ tail, isBlank char = true)
    (isStretch : IsStretch (text ++ tail)) : IsStretch text := by
  induction tail using List.reverseRecOn with
  | nil => rwa [List.append_nil] at isStretch
  | append_singleton tail char ih =>
      rw [← List.append_assoc] at isStretch
      rw [List.forall_mem_append, List.forall_mem_singleton] at blank
      exact ih blank.1 (isStretch.of_concat blank.2)

/-- A stretch stays one without the blanks at its ends. -/
theorem IsStretch.trim (isStretch : IsStretch text) : IsStretch (trim text) := by
  obtain ⟨lead, tail, split, isLead, isTail⟩ := exists_trim text
  rw [split] at isStretch
  exact (isStretch.of_append_left isLead).of_append_right isTail

/-! ## The arguments of a list -/

theorem spell_intercalate (segments : List (List Token)) :
    spell ([Token.mark ','].intercalate segments) = join [','] (segments.map spell) := by
  induction segments with
  | nil => rfl
  | cons first later ih =>
      cases later with
      | nil => simp [join]
      | cons next later =>
          rw [List.intercalate_cons_cons, spell_append, spell_append, ih, List.map_cons, List.map_cons,
            List.map_cons, join, join, List.intercalate_cons_cons]
          rfl

/-- Each stretch between the commas that cut is read by itself. -/
theorem isStretch_of_mem {segments : List (List Token)}
    (reads : Reads NeverCut text ([Token.mark ','].intercalate segments))
    (uncut : ∀ segment ∈ segments, Uncut 0 (marks segment)) :
    ∀ segment ∈ segments, IsStretch (spell segment) := by
  induction segments generalizing text with
  | nil => exact fun segment membership => absurd membership List.not_mem_nil
  | cons first later ih =>
      obtain ⟨uncutFirst, uncutLater⟩ := List.forall_mem_cons.mp uncut
      rw [List.forall_mem_cons]
      cases later with
      | nil =>
          rw [List.intercalate_singleton] at reads
          exact ⟨⟨first, reads.spell_eq ▸ reads, uncutFirst⟩, List.forall_mem_nil _⟩
      | cons next later =>
          rw [List.intercalate_cons_cons, List.append_assoc] at reads
          obtain ⟨readsFirst, readsRest⟩ := reads_of_append reads
          exact ⟨⟨first, readsFirst, uncutFirst⟩, ih (reads_of_append readsRest).2 uncutLater⟩

/-- An argument that is not empty is its own only argument. -/
theorem arguments?_of_trim {segment : Text} (isStretch : IsStretch segment)
    (nonempty : Text.trim segment ≠ []) :
    arguments? (Text.trim segment) = some [Text.trim segment] := by
  have visible : ¬ allBlank (Text.trim segment) := by
    intro blank
    rw [allBlank, List.all_eq_true] at blank
    have nothing : Text.trim (Text.trim segment) = [] := trim_append_blank blank []
    rw [trim_trim] at nothing
    exact nonempty nothing
  rw [arguments?, if_neg visible, isStretch.trim.segments?_eq, Option.map_some, List.map_singleton,
    trim_trim]

/-- A list that is not blank has its tokens.  It has no arguments exactly when its parentheses outside
of string literals do not match.  Otherwise its tokens are stretches with commas between them, and no
comma in a stretch stands outside of parentheses; the arguments are these stretches without the blanks
around them, and each that is not empty has itself as its only argument. -/
theorem arguments?_between_commas (visible : ¬ allBlank text) :
    ∃ tokens, (∀ others, Reads NeverCut text others ↔ others = tokens) ∧
      (arguments? text = none ↔ ¬ Matched (marks tokens)) ∧
      ∀ args, arguments? text = some args → ∃ segments : List (List Token),
        tokens = [Token.mark ','].intercalate segments ∧
          (∀ segment ∈ segments, Uncut 0 (marks segment)) ∧
          args = segments.map (fun segment => trim (spell segment)) ∧
          join [','] (segments.map spell) = text ∧
          ∀ arg ∈ args, arg ≠ [] → arguments? arg = some [arg] := by
  obtain ⟨tokens, reads_iff⟩ := exists_reads_iff sparesQuotes_neverCut text
  refine ⟨tokens, reads_iff, ?_⟩
  have reads := (reads_iff tokens).mpr rfl
  obtain ⟨unmatched_iff, cut⟩ := segments?_of_reads reads
  rw [arguments?, if_neg visible]
  refine ⟨by rw [Option.map_eq_none_iff, unmatched_iff], ?_⟩
  intro args read
  obtain ⟨pieces, readPieces, rfl⟩ := Option.map_eq_some_iff.mp read
  obtain ⟨segments, rfl, uncut, rfl⟩ := cut pieces readPieces
  refine ⟨segments, rfl, uncut, ?_, ?_, ?_⟩
  · rw [List.map_map]
    rfl
  · rw [← spell_intercalate, reads.spell_eq]
  · rw [List.map_map, List.forall_mem_map]
    exact fun segment membership => arguments?_of_trim (isStretch_of_mem reads uncut segment membership)

/-- A comma and a parenthesis in string literals, and a string literal that is not closed. -/
theorem arguments?_between_commas_quoted :
    let text : Text := "x, f(')', y) , 'z\\' "
    let args : List Text := ["x", "f(')', y)", "'z\\'"]
    ¬ allBlank text ∧ arguments? text = some args ∧
      (∃ segments : List (List Token), (∀ segment ∈ segments, Uncut 0 (marks segment)) ∧
        args = segments.map (fun segment => trim (spell segment)) ∧
        join [','] (segments.map spell) = text) ∧
      ∀ arg ∈ args, arguments? arg = some [arg] := by
  intro text args
  have visible : ¬ allBlank text := by decide
  have read : arguments? text = some args := by decide +kernel
  obtain ⟨tokens, -, -, cut⟩ := arguments?_between_commas visible
  obtain ⟨segments, -, uncut, args_eq, joined, again⟩ := cut args read
  exact ⟨visible, read, ⟨segments, uncut, args_eq, joined⟩, fun arg membership =>
    again arg membership ((by decide : ∀ arg ∈ args, arg ≠ []) arg membership)⟩

end Docweave.Call
