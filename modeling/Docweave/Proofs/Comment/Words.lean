import Docweave.Comment.Section
import Docweave.Proofs.Text.Cut

/-!
# The words of sections

A word is a longest run of characters that are no blanks.  A section is read as the words of its text and
then those of its items, where a section below an item is read in the same way.  Taking an item, going on
with one and taking a row each put what the row says at the end of a section, and settling the text of a
section that opens no literal block keeps its words.
-/

namespace Docweave.Comment

open Text

variable {text row bullet : Text} {part : Section}

/-! ## Words of texts -/

/-- The words of a row. -/
def rowWords (text : Text) : List Text := (text.splitOnP isBlank).filter fun word => !word.isEmpty

theorem rowWords_nil : rowWords [] = [] := rfl

/-- A blank separates words. -/
theorem rowWords_append_cons {char : Char} (blank : isBlank char = true) (before after : Text) :
    rowWords (before ++ char :: after) = rowWords before ++ rowWords after := by
  rw [rowWords, List.splitOnP_append_cons _ _ blank, List.filter_append, rowWords, rowWords]

theorem rowWords_append_of_blank {lead : Text} (blank : ∀ char ∈ lead, isBlank char = true)
    (text : Text) : rowWords (lead ++ text) = rowWords text := by
  induction lead with
  | nil => rfl
  | cons char lead ih =>
      obtain ⟨first, later⟩ := List.forall_mem_cons.mp blank
      have separated := rowWords_append_cons first [] (lead ++ text)
      rw [List.nil_append, rowWords_nil, List.nil_append] at separated
      rw [List.cons_append, separated, ih later]

theorem rowWords_of_blank (blank : ∀ char ∈ text, isBlank char = true) : rowWords text = [] := by
  have whole := rowWords_append_of_blank blank []
  rwa [List.append_nil, rowWords_nil] at whole

theorem rowWords_append_blank {tail : Text} (blank : ∀ char ∈ tail, isBlank char = true)
    (text : Text) : rowWords (text ++ tail) = rowWords text := by
  cases tail with
  | nil => rw [List.append_nil]
  | cons char tail =>
      obtain ⟨first, later⟩ := List.forall_mem_cons.mp blank
      rw [rowWords_append_cons first, rowWords_of_blank later, List.append_nil]

theorem rowWords_trim (text : Text) : rowWords (trim text) = rowWords text := by
  obtain ⟨lead, tail, split, isLead, isTail⟩ := exists_trim text
  conv => rhs; rw [split]
  rw [rowWords_append_of_blank isLead, rowWords_append_blank isTail]

theorem rowWords_join (pieces : List Text) : rowWords (join " " pieces) = pieces.flatMap rowWords := by
  induction pieces with
  | nil => rfl
  | cons piece pieces ih =>
      cases pieces with
      | nil => simp [join]
      | cons next pieces =>
          have joined : join " " (piece :: next :: pieces) =
              piece ++ ' ' :: join " " (next :: pieces) := by
            simp [join, List.intercalate_cons_cons]
          rw [joined, rowWords_append_cons rfl, ih]
          rfl

theorem flatMap_rowWords_dropEmpty (rows : List Text) :
    (rows.dropWhile List.isEmpty).flatMap rowWords = rows.flatMap rowWords := by
  induction rows with
  | nil => rfl
  | cons row rows ih =>
      cases row with
      | nil => exact ih
      | cons char row => rfl

/-- Empty rows hold no words. -/
theorem flatMap_rowWords_trimRows (rows : List Text) :
    (trimRows rows).flatMap rowWords = rows.flatMap rowWords := by
  rw [← flatMap_rowWords_dropEmpty rows, trimRows]
  generalize rows.dropWhile List.isEmpty = kept
  have split : kept = (kept.reverse.dropWhile List.isEmpty).reverse ++
      (kept.reverse.takeWhile List.isEmpty).reverse := by
    rw [← List.reverse_append, List.takeWhile_append_dropWhile, List.reverse_reverse]
  have silent : (kept.reverse.takeWhile List.isEmpty).reverse.flatMap rowWords = [] := by
    refine List.flatMap_eq_nil_iff.mpr fun row membership => ?_
    have empty := List.all_eq_true.mp List.all_takeWhile row (List.mem_reverse.mp membership)
    rw [List.isEmpty_iff.mp empty, rowWords_nil]
  conv => rhs; rw [split]
  rw [List.flatMap_append, silent, List.append_nil]

/-! ## Words of sections -/

mutual

/-- The words of a section: those of its text and then those of its items. -/
def Section.words : Section → List Text
  | .mk head items => rowWords head.text ++ Section.itemWords items

/-- The words of the items of a list, one after the other. -/
def Section.itemWords : List SectionItem → List Text
  | [] => []
  | .text text :: items => rowWords text ++ Section.itemWords items
  | .nested inner :: items => inner.words ++ Section.itemWords items

end

/-- What a row says: what stands after its bullet, and the whole row when it defines a name. -/
def itemText (row : Text) : Text :=
  if isDefinition row then row
  else
    match signBullet? row with
    | some bullet => row.drop bullet.length
    | none => row

namespace Section

theorem itemWords_append (first second : List SectionItem) :
    itemWords (first ++ second) = itemWords first ++ itemWords second := by
  induction first with
  | nil => rw [itemWords]; rfl
  | cons item first ih =>
      cases item with
      | text text => rw [List.cons_append, itemWords, itemWords, ih, List.append_assoc]
      | nested inner => rw [List.cons_append, itemWords, itemWords, ih, List.append_assoc]

/-- The words of a section whose text is not settled yet. -/
def openWords (part : Section) : List Text :=
  part.head.rows.flatMap rowWords ++ itemWords part.items

/-- A section that may still take rows: nothing in it opens a literal block, and it takes items only
once it has a bullet. -/
structure Plain (part : Section) : Prop where
  rows : ∀ row ∈ part.head.rows, opensLiteral row = false
  texts : ∀ text, .text text ∈ part.items → opensLiteral text = false
  items_of_bullet : part.head.bullet = none → part.items = []

theorem plain_ofHead {head : SectionHead} (rows : ∀ row ∈ head.rows, opensLiteral row = false) :
    (ofHead head).Plain where
  rows := rows
  texts _ membership := absurd membership List.not_mem_nil
  items_of_bullet _ := rfl

/-- Settling the text of a section keeps its words. -/
theorem Plain.words_close (plain : part.Plain) (number : Int) :
    (part.close number).words = part.openWords := by
  obtain ⟨head, items⟩ := part
  rw [close, modifyHead, words, openWords]
  refine congrArg (· ++ itemWords items) ?_
  cases rows_eq : head.rows with
  | nil =>
      simp only [rows_eq, Section.head]
      rfl
  | cons row rest =>
      have noLiteral : opensLiteral row = false :=
        plain.rows row (by rw [Section.head, rows_eq]; exact List.mem_cons_self)
      simp only [rows_eq, noLiteral, Section.head]
      rw [if_neg Bool.false_ne_true, rowWords_join, List.flatMap_map]
      simp only [rowWords_trim]
      exact flatMap_rowWords_trimRows _

@[simp] theorem head_mk (head : SectionHead) (items : List SectionItem) :
    (Section.mk head items).head = head := rfl

@[simp] theorem items_mk (head : SectionHead) (items : List SectionItem) :
    (Section.mk head items).items = items := rfl

theorem head_pushItem (item : SectionItem) (part : Section) : (part.pushItem item).head = part.head := by
  cases part
  rfl

theorem items_pushItem (item : SectionItem) (part : Section) :
    (part.pushItem item).items = part.items ++ [item] := by
  cases part
  rfl

theorem openWords_pushItem (item : SectionItem) (part : Section) :
    (part.pushItem item).openWords = part.openWords ++ itemWords [item] := by
  rw [openWords, head_pushItem, items_pushItem, itemWords_append, openWords, List.append_assoc]

theorem Plain.pushItem {item : SectionItem} (plain : part.Plain) (bulleted : part.head.bullet ≠ none)
    (noLiteral : ∀ text, item = .text text → opensLiteral text = false) : (part.pushItem item).Plain where
  rows := by
    rw [head_pushItem]
    exact plain.rows
  texts text membership := by
    rw [items_pushItem, List.mem_append, List.mem_singleton] at membership
    rcases membership with earlier | last
    · exact plain.texts text earlier
    · exact noLiteral text last.symm
  items_of_bullet unbulleted := by
    rw [head_pushItem] at unbulleted
    exact absurd unbulleted bulleted

theorem Plain.pushText (plain : part.Plain) (bulleted : part.head.bullet ≠ none)
    (noLiteral : opensLiteral text = false) :
    (part.pushItem (.text text)).Plain ∧
      (part.pushItem (.text text)).openWords = part.openWords ++ rowWords text := by
  constructor
  · refine plain.pushItem bulleted ?_
    rintro _ ⟨⟩
    exact noLiteral
  · rw [openWords_pushItem, itemWords, itemWords, List.append_nil]

/-! ## Rows -/

theorem opensLiteral_iff : opensLiteral text = true ↔
    ∃ lead rest, text = lead ++ ':' :: ':' :: rest ∧ ∀ char ∈ lead, isBlank char = true := by
  rw [opensLiteral, startsWith_iff]
  constructor
  · rintro ⟨rest, opens⟩
    refine ⟨text.takeWhile isBlank, rest, ?_, fun char membership => mem_takeWhile_inClass membership⟩
    calc text = text.takeWhile isBlank ++ text.dropWhile isBlank :=
          List.takeWhile_append_dropWhile.symm
      _ = _ := congrArg _ opens
  · rintro ⟨lead, rest, rfl, blank⟩
    exact ⟨rest, dropWhile_append_of_outside blank rfl _⟩

theorem opensLiteral_of_trim (opens : opensLiteral (trim text) = true) : opensLiteral text = true := by
  obtain ⟨lead, tail, split, blank, -⟩ := exists_trim text
  obtain ⟨gap, rest, trimmed, blankGap⟩ := opensLiteral_iff.mp opens
  refine opensLiteral_iff.mpr ⟨lead ++ gap, rest ++ tail, ?_, ?_⟩
  · rw [split, trimmed]
    simp
  · exact List.forall_mem_append.mpr ⟨blank, blankGap⟩

/-- A row that is joined to a text opens no literal block when neither of them does. -/
theorem opensLiteral_joined {last : Text} (before : opensLiteral last = false)
    (after : opensLiteral row = false) : opensLiteral (trim last ++ ' ' :: trim row) = false := by
  rw [Bool.eq_false_iff]
  intro opens
  obtain ⟨lead, rest, joined, blank⟩ := opensLiteral_iff.mp opens
  rcases List.append_eq_append_iff.mp joined with ⟨extra, lead_eq, mark_eq⟩ | ⟨extra, last_eq, mark_eq⟩
  · -- The mark stands behind the joint, so it stands in the row.
    rcases extra with _ | ⟨char, extra⟩
    · cases mark_eq
    · obtain ⟨-, row_eq⟩ := List.cons_eq_cons.mp mark_eq
      have blankExtra : ∀ char ∈ extra, isBlank char = true := fun other membership =>
        blank other (by simp [lead_eq, membership])
      have rowOpens := opensLiteral_of_trim (opensLiteral_iff.mpr ⟨extra, rest, row_eq, blankExtra⟩)
      exact Bool.false_ne_true (after.symm.trans rowOpens)
  · -- It starts before the joint, which is no part of it.
    rcases extra with _ | ⟨char, _ | ⟨second, extra⟩⟩
    · cases mark_eq
    · cases mark_eq
    · cases mark_eq
      have lastOpens := opensLiteral_of_trim (opensLiteral_iff.mpr ⟨lead, extra, last_eq, blank⟩)
      exact Bool.false_ne_true (before.symm.trans lastOpens)

/-- The bullet of a list item ends with a blank. -/
theorem exists_blank_of_signBullet? (found : signBullet? row = some bullet) :
    ∃ front last, bullet = front ++ [last] ∧ isBlank last = true := by
  obtain ⟨sign, -, matched⟩ := List.exists_of_findSome?_eq_some found
  split at matched
  · rename_i char rest _
    split at matched
    · rename_i blank
      cases matched
      have nonempty : (char :: rest).takeWhile isBlank ≠ [] := by simp [blank]
      obtain ⟨run, last, run_eq⟩ := (List.eq_nil_or_concat _).resolve_left nonempty
      have isLast : last ∈ (char :: rest).takeWhile isBlank := by simp [run_eq]
      refine ⟨row.takeWhile isBlank ++ sign ++ run, last, ?_, mem_takeWhile_inClass isLast⟩
      rw [run_eq, List.concat_eq_append, List.append_assoc, List.append_assoc, List.append_assoc]
    · cases matched
  · cases matched

/-- A row defines a name, starts an item of a list, or does neither. -/
theorem bullet?_cases (row : Text) :
    (itemText row = row ∧ ∃ indent, bullet? row = some (indent ++ definitionMark)) ∨
      (∃ bullet, bullet? row = some bullet ∧ itemText row = row.drop bullet.length ∧
        endsWith definitionMark bullet = false) ∨
      (bullet? row = none ∧ itemText row = row) := by
  by_cases defines : isDefinition row = true
  · exact .inl ⟨by rw [itemText, if_pos defines], _, by rw [bullet?, if_pos defines]⟩
  · rw [bullet?, if_neg defines, itemText, if_neg defines]
    cases found : signBullet? row with
    | none => exact .inr (.inr ⟨rfl, rfl⟩)
    | some bullet =>
        refine .inr (.inl ⟨bullet, rfl, rfl, ?_⟩)
        obtain ⟨front, last, rfl, blank⟩ := exists_blank_of_signBullet? found
        rw [Bool.eq_false_iff]
        intro ends
        obtain ⟨rest, mark⟩ := startsWith_iff.mp ends
        have reversed : definitionMark.reverse = ':' :: definitionMark.reverse.tail := by decide
        rw [List.reverse_append, reversed] at mark
        obtain ⟨rfl, -⟩ := List.cons_eq_cons.mp mark
        exact absurd blank (by decide)

theorem itemText_of_bullet?_eq_none (unbulleted : bullet? row = none) : itemText row = row := by
  rcases bullet?_cases row with ⟨whole, -⟩ | ⟨bullet, isBullet, -⟩ | ⟨-, whole⟩
  · exact whole
  · rw [unbulleted] at isBullet
    cases isBullet
  · exact whole

theorem bullet?_of_blank (blank : allBlank row = true) : bullet? row = none := by
  have inside := List.all_eq_true.mp blank
  have nothing : row.dropWhile isBlank = [] := by
    rw [← List.append_nil row, List.dropWhile_append_of_pos inside, List.dropWhile_nil]
  have whole : row.takeWhile isBlank = row := by
    simpa [nothing] using List.takeWhile_append_dropWhile (p := isBlank) (l := row)
  have noName : isDefinition row = false := by
    rw [isDefinition, nothing]
  rw [bullet?, noName, if_neg Bool.false_ne_true, signBullet?, List.findSome?_eq_none_iff, whole,
    List.drop_length]
  simp [signs, after?]

/-! ## Items -/

/-- A row that opens no literal block, neither as a whole nor after its bullet. -/
def Ordinary (row : Text) : Prop := opensLiteral row = false ∧ opensLiteral (itemText row) = false

instance (row : Text) : Decidable (Ordinary row) :=
  inferInstanceAs (Decidable (opensLiteral row = false ∧ opensLiteral (itemText row) = false))

theorem opensLiteral_trim_of_ordinary (ordinary : Ordinary row) : opensLiteral (trim row) = false := by
  rw [Bool.eq_false_iff]
  exact fun opens => Bool.false_ne_true (ordinary.1.symm.trans (opensLiteral_of_trim opens))

/-- The item that starts on a row is what the row says, with its bullet when that defines a name. -/
theorem exists_addItem (ordinary : Ordinary row) (found : bullet? row = some bullet)
    (bullet_eq : part.head.bullet = some bullet) :
    ∃ item, part.addItem row = part.pushItem (.text item) ∧
      rowWords item = rowWords (itemText row) ∧ opensLiteral item = false := by
  rcases bullet?_cases row with ⟨whole, indent, isBullet⟩ | ⟨sign, isBullet, after, noName⟩ | ⟨none, -⟩
  · obtain rfl := Option.some.inj (found.symm.trans isBullet)
    have defines : part.isDefinitionList = true := by
      rw [isDefinitionList, bullet_eq]
      exact startsWith_iff.mpr ⟨indent.reverse, List.reverse_append⟩
    exact ⟨trim row, by rw [addItem, if_pos defines], by rw [whole, rowWords_trim],
      opensLiteral_trim_of_ordinary ordinary⟩
  · obtain rfl := Option.some.inj (found.symm.trans isBullet)
    have listed : ¬ part.isDefinitionList = true := by
      simp only [isDefinitionList, bullet_eq, noName]
      exact Bool.false_ne_true
    refine ⟨itemText row, ?_, rfl, ordinary.2⟩
    rw [addItem, if_neg listed, bullet_eq, after, Option.getD_some]
  · rw [found] at none
    cases none

/-- A section takes the item of a row with its bullet as what the row says. -/
theorem Plain.addItem (plain : part.Plain) (ordinary : Ordinary row) (found : bullet? row = some bullet)
    (bullet_eq : part.head.bullet = some bullet) :
    (part.addItem row).Plain ∧ (part.addItem row).openWords = part.openWords ++ rowWords (itemText row) := by
  have bulleted : part.head.bullet ≠ none := by rw [bullet_eq]; exact Option.some_ne_none bullet
  obtain ⟨item, added, words_eq, noLiteral⟩ := exists_addItem ordinary found bullet_eq
  rw [added, ← words_eq]
  exact plain.pushText bulleted noLiteral

/-- A section takes a row that goes on with its last item. -/
theorem Plain.continueItem (plain : part.Plain) (ordinary : Ordinary row)
    (bulleted : part.head.bullet ≠ none) :
    (part.continueItem row).Plain ∧ (part.continueItem row).openWords = part.openWords ++ rowWords row := by
  rw [Section.continueItem]
  split
  · rename_i last isLast
    obtain ⟨earlier, items_eq⟩ := List.getLast?_eq_some_iff.mp isLast
    have lastPlain := plain.texts last (by simp [items_eq])
    rw [items_eq, List.dropLast_concat]
    constructor
    · refine ⟨plain.rows, fun text membership => ?_, fun unbulleted => absurd unbulleted bulleted⟩
      rcases List.mem_append.mp membership with isEarlier | isJoined
      · exact plain.texts text (by simp [items_eq, isEarlier])
      · cases List.mem_singleton.mp isJoined
        exact opensLiteral_joined lastPlain ordinary.1
    · rw [openWords, openWords, items_eq]
      simp only [Section.head, Section.items, itemWords_append, itemWords, rowWords_trim,
        rowWords_append_cons (by rfl : isBlank ' ' = true), List.append_nil, List.append_assoc]
  · rw [← rowWords_trim row]
    exact plain.pushText bulleted (opensLiteral_trim_of_ordinary ordinary)

/-- A section without a bullet takes a row. -/
theorem Plain.addRow (plain : part.Plain) (ordinary : Ordinary row)
    (unbulleted : part.head.bullet = none) :
    (part.addRow row).Plain ∧ (part.addRow row).openWords = part.openWords ++ rowWords row := by
  have noItems := plain.items_of_bullet unbulleted
  obtain ⟨head, items⟩ := part
  obtain rfl : items = [] := noItems
  constructor
  · refine ⟨?_, plain.texts, fun _ => rfl⟩
    exact List.forall_mem_append.mpr ⟨plain.rows, by simpa using ordinary.1⟩
  · simp [Section.addRow, modifyHead, openWords, Section.head, Section.items, itemWords]

end Section

end Docweave.Comment
