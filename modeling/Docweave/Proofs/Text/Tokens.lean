import Docweave.Block.Extent

/-!
# Marks and string literals

A text that may hold string literals is read as a list of tokens: single characters outside of the
literals, and whole literals.  Readers differ in what cuts a literal short, so that is left open here.
Whatever cuts a literal, as long as no quote and no backslash does, every text is read in one way.
-/

namespace Docweave.Text

variable {cuts : Char → Char → Prop} {quote : Char} {text tail rest : Text}

/-- The quotes that open a string literal. -/
inductive Quote : Char → Prop
  | single : Quote '\''
  | double : Quote '"'
  | template : Quote '`'

theorem quote_iff {char : Char} : Quote char ↔ char = '\'' ∨ char = '"' ∨ char = '`' := by
  constructor
  · rintro (_ | _ | _) <;> simp
  · rintro (rfl | rfl | rfl)
    · exact .single
    · exact .double
    · exact .template

instance : DecidablePred Quote := fun _ => decidable_of_iff _ quote_iff.symm

theorem isQuote_iff {char : Char} : Extent.isQuote char = true ↔ Quote char := by
  rw [quote_iff, Extent.isQuote]
  simp [or_assoc]

/-- `tail` is a string literal without the quote that opens it, and `rest` is what follows.  A literal
ends with its own quote, or before a character that cuts it, or with the text; a backslash takes the
character after it along, whatever that is. -/
inductive LiteralTail (quote : Char) (isCut : Char → Prop) : (tail rest : Text) → Prop
  | closed (rest : Text) : LiteralTail quote isCut [quote] rest
  | cut {char : Char} (here : isCut char) (rest : Text) : LiteralTail quote isCut [] (char :: rest)
  | unclosed : LiteralTail quote isCut [] []
  | unclosedEscape : LiteralTail quote isCut ['\\'] []
  | char {char : Char} {tail rest : Text} (noQuote : char ≠ quote) (noEscape : char ≠ '\\')
      (noCut : ¬ isCut char) (more : LiteralTail quote isCut tail rest) :
      LiteralTail quote isCut (char :: tail) rest
  | escaped (char : Char) {tail rest : Text} (more : LiteralTail quote isCut tail rest) :
      LiteralTail quote isCut ('\\' :: char :: tail) rest

/-- A character outside of string literals, or a string literal with its quotes. -/
inductive Token where
  | mark (char : Char)
  | literal (text : Text)

/-- What a token looks like in the text. -/
def Token.written : Token → Text
  | .mark char => [char]
  | .literal text => text

/-- The character outside of string literals that a token is. -/
def Token.mark? : Token → Option Char
  | .mark char => some char
  | .literal _ => none

/-- The text that tokens make up. -/
def spell (tokens : List Token) : Text := tokens.flatMap Token.written

/-- The characters outside of string literals. -/
def marks (tokens : List Token) : Text := tokens.filterMap Token.mark?

/-- A text as tokens, where `cuts quote` are the characters that cut a literal with that quote short. -/
inductive Reads (cuts : Char → Char → Prop) : Text → List Token → Prop
  | nil : Reads cuts [] []
  | mark {char : Char} {text : Text} {tokens : List Token} (noQuote : ¬ Quote char)
      (more : Reads cuts text tokens) : Reads cuts (char :: text) (.mark char :: tokens)
  | literal {quote : Char} {tail rest : Text} {tokens : List Token} (isQuote : Quote quote)
      (isTail : LiteralTail quote (cuts quote) tail rest) (more : Reads cuts rest tokens) :
      Reads cuts (quote :: (tail ++ rest)) (.literal (quote :: tail) :: tokens)

@[simp] theorem spell_nil : spell [] = [] := rfl

@[simp] theorem spell_cons (token : Token) (tokens : List Token) :
    spell (token :: tokens) = token.written ++ spell tokens := rfl

@[simp] theorem spell_append (first second : List Token) :
    spell (first ++ second) = spell first ++ spell second := List.flatMap_append

@[simp] theorem marks_append (first second : List Token) :
    marks (first ++ second) = marks first ++ marks second := List.filterMap_append

@[simp] theorem marks_nil : marks [] = [] := rfl

theorem marks_mark (char : Char) : marks [.mark char] = [char] := rfl

@[simp] theorem marks_cons_mark (char : Char) (tokens : List Token) :
    marks (.mark char :: tokens) = char :: marks tokens := rfl

@[simp] theorem marks_cons_literal (text : Text) (tokens : List Token) :
    marks (.literal text :: tokens) = marks tokens := rfl

theorem Reads.spell_eq {tokens : List Token} (reads : Reads cuts text tokens) :
    spell tokens = text := by
  induction reads with
  | nil => rfl
  | mark _ _ ih => rw [spell_cons, ih]; rfl
  | literal _ _ _ ih => rw [spell_cons, ih]; rfl

/-! ## Every text is read -/

theorem exists_literalTail (quote : Char) (isCut : Char → Prop) :
    ∀ text : Text, ∃ tail rest, text = tail ++ rest ∧ LiteralTail quote isCut tail rest
  | [] => ⟨[], [], rfl, .unclosed⟩
  | first :: text => by
      by_cases ends : first = quote
      · exact ⟨[first], text, rfl, ends ▸ .closed text⟩
      · by_cases stops : isCut first
        · exact ⟨[], first :: text, rfl, .cut stops text⟩
        · by_cases escapes : first = '\\'
          · subst escapes
            cases text with
            | nil => exact ⟨['\\'], [], rfl, .unclosedEscape⟩
            | cons hidden text =>
                obtain ⟨tail, rest, rfl, more⟩ := exists_literalTail quote isCut text
                exact ⟨_, rest, rfl, .escaped hidden more⟩
          · obtain ⟨tail, rest, rfl, more⟩ := exists_literalTail quote isCut text
            exact ⟨_, rest, rfl, .char ends escapes stops more⟩

theorem exists_reads (cuts : Char → Char → Prop) (text : Text) : ∃ tokens, Reads cuts text tokens := by
  cases text with
  | nil => exact ⟨[], .nil⟩
  | cons first text =>
      by_cases isQuote : Quote first
      · obtain ⟨tail, rest, rfl, isTail⟩ := exists_literalTail first (cuts first) text
        obtain ⟨tokens, more⟩ := exists_reads cuts rest
        exact ⟨_, .literal isQuote isTail more⟩
      · obtain ⟨tokens, more⟩ := exists_reads cuts text
        exact ⟨_, .mark isQuote more⟩
termination_by text.length

/-! ## No text is read in two ways -/

/-- Quotes and backslashes cut no literal. -/
def SparesQuotes (cuts : Char → Char → Prop) : Prop :=
  ∀ quote, Quote quote → ¬ cuts quote quote ∧ ¬ cuts quote '\\'

theorem Quote.ne_backslash (isQuote : Quote quote) : quote ≠ '\\' := by
  rintro rfl
  exact absurd isQuote (by decide)

/-- A literal ends in one place. -/
theorem LiteralTail.unique {isCut : Char → Prop} (noQuote : ¬ isCut quote) (noEscape : ¬ isCut '\\')
    (apart : quote ≠ '\\') {otherTail otherRest : Text} (isTail : LiteralTail quote isCut tail rest)
    (isOther : LiteralTail quote isCut otherTail otherRest)
    (same : tail ++ rest = otherTail ++ otherRest) : tail = otherTail := by
  induction isTail generalizing otherTail with
  | closed rest => cases isOther <;> grind
  | cut here rest => cases isOther <;> grind
  | unclosed => cases isOther <;> grind
  | unclosedEscape => cases isOther <;> grind
  | char _ _ _ more ih =>
      cases isOther with
      | char _ _ _ moreOther =>
          simp only [List.cons_append, List.cons.injEq] at same
          rw [same.1, ih moreOther same.2]
      | _ => grind
  | escaped hidden more ih =>
      cases isOther with
      | escaped other moreOther =>
          simp only [List.cons_append, List.cons.injEq] at same
          rw [same.2.1, ih moreOther same.2.2]
      | _ => grind

theorem Reads.unique (spares : SparesQuotes cuts) {tokens others : List Token}
    (reads : Reads cuts text tokens) (readsOther : Reads cuts text others) : others = tokens := by
  induction reads generalizing others with
  | nil =>
      cases readsOther
      rfl
  | mark noQuote more ih =>
      cases readsOther with
      | mark _ moreOther => rw [ih moreOther]
      | literal isQuote => exact absurd isQuote noQuote
  | @literal quote tail rest tokens isQuote isTail more ih =>
      generalize whole_eq : quote :: (tail ++ rest) = whole at readsOther
      cases readsOther with
      | nil => cases whole_eq
      | mark noQuote _ =>
          cases whole_eq
          exact absurd isQuote noQuote
      | literal _ isOther moreOther =>
          obtain ⟨rfl, same⟩ := List.cons.inj whole_eq
          obtain ⟨noQuote, noEscape⟩ := spares quote isQuote
          obtain rfl := isTail.unique noQuote noEscape isQuote.ne_backslash isOther same
          obtain rfl := List.append_cancel_left same
          rw [ih moreOther]

/-- A text has its tokens, and no others. -/
theorem exists_reads_iff (spares : SparesQuotes cuts) (text : Text) :
    ∃ tokens, ∀ others, Reads cuts text others ↔ others = tokens := by
  obtain ⟨tokens, reads⟩ := exists_reads cuts text
  exact ⟨tokens, fun others => ⟨reads.unique spares, fun same => same ▸ reads⟩⟩

end Docweave.Text
