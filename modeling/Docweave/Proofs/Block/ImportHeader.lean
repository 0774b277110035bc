import Docweave.Proofs.Block.Header
import Docweave.Text.Space

/-!
# The headers of imports

The two headers by which an import is recognised are patterns of words, names and a quoted path, with
separators between them.  What the recognisers read is the longest match of a pattern at the start of
a text: everything before the path can be read in one way only, and the path reaches to the last quote
of its row.
-/

namespace Docweave.Header

open Text

variable {text rest : Text} {inClass : Char → Bool}

/-! ## Runs of characters -/

/-- Separators, or nothing. -/
def Gap (gap : Text) : Prop := ∀ char ∈ gap, isSeparator char = true

/-- One or more characters of a class. -/
structure Run (inClass : Char → Bool) (run : Text) : Prop where
  nonempty : run ≠ []
  inside : ∀ char ∈ run, inClass char = true

/-- A text that does not start in a class. -/
def Leaves (inClass : Char → Bool) (text : Text) : Prop := ∀ char ∈ text.head?, inClass char = false

theorem leaves_dropWhile (inClass : Char → Bool) (text : Text) :
    Leaves inClass (text.dropWhile inClass) := by
  intro char first
  have outside := List.head?_dropWhile_not inClass text
  rw [Option.mem_def] at first
  simpa [first] using outside

theorem dropWhile_append_of_leaves {run : Text} (inside : ∀ char ∈ run, inClass char = true)
    (leaves : Leaves inClass rest) : (run ++ rest).dropWhile inClass = rest := by
  rw [List.dropWhile_append_of_pos inside]
  cases rest with
  | nil => rfl
  | cons char rest => rw [List.dropWhile_cons_of_neg (by simp [leaves char rfl])]

theorem classes_apart_symm {other : Char → Bool}
    (apart : ∀ char, inClass char = true → other char = false) (char : Char)
    (isOther : other char = true) : inClass char = false := by
  cases inside : inClass char with
  | false => rfl
  | true => rw [apart char inside] at isOther; cases isOther

/-- Where one class ends another may begin. -/
theorem Run.leaves_append {other : Char → Bool} {run : Text} (isRun : Run inClass run)
    (apart : ∀ char, inClass char = true → other char = false) (rest : Text) :
    Leaves other (run ++ rest) := by
  obtain ⟨char, tail, rfl⟩ := List.exists_cons_of_ne_nil isRun.nonempty
  rintro _ ⟨⟩
  exact apart char (isRun.inside char List.mem_cons_self)

/-- Before a text that does not start in a class there may be a run of another one, also an empty run. -/
theorem leaves_append {other : Char → Bool} {run : Text} (inside : ∀ char ∈ run, other char = true)
    (apart : ∀ char, other char = true → inClass char = false)
    (leaves : Leaves inClass rest) : Leaves inClass (run ++ rest) := by
  cases run with
  | nil => exact leaves
  | cons char run =>
      rintro _ ⟨⟩
      exact apart char (inside char List.mem_cons_self)

theorem exists_dropWhile (inClass : Char → Bool) (text : Text) :
    ∃ run, (∀ char ∈ run, inClass char = true) ∧ text = run ++ text.dropWhile inClass :=
  ⟨text.takeWhile inClass, fun _ => mem_takeWhile_inClass, List.takeWhile_append_dropWhile.symm⟩

theorem exists_gap (text : Text) : ∃ gap, Gap gap ∧ text = gap ++ skip text :=
  exists_dropWhile isSeparator text

theorem skip_append {gap : Text} (isGap : Gap gap) (leaves : Leaves isSeparator rest) :
    skip (gap ++ rest) = rest :=
  dropWhile_append_of_leaves isGap leaves

theorem some?_eq_some :
    some? inClass text = some rest ↔ ∃ run, Run inClass run ∧ Leaves inClass rest ∧ text = run ++ rest := by
  constructor
  · intro read
    cases text with
    | nil => cases read
    | cons char tail =>
        rw [some?] at read
        split at read
        · rename_i isIn
          cases read
          refine ⟨char :: tail.takeWhile inClass, ⟨List.cons_ne_nil _ _, ?_⟩,
            leaves_dropWhile inClass tail, ?_⟩
          · rintro other membership
            rcases List.mem_cons.mp membership with rfl | inTail
            · exact isIn
            · exact mem_takeWhile_inClass inTail
          · rw [List.cons_append, List.takeWhile_append_dropWhile]
        · cases read
  · rintro ⟨run, isRun, leaves, rfl⟩
    obtain ⟨char, tail, rfl⟩ := List.exists_cons_of_ne_nil isRun.nonempty
    rw [List.cons_append, some?, if_pos (isRun.inside char List.mem_cons_self),
      dropWhile_append_of_leaves (fun other inTail => isRun.inside other (List.mem_cons_of_mem _ inTail))
        leaves]

/-! ## Words -/

/-- No word starts with another one. -/
def Apart (words : List Text) : Prop := ∀ word ∈ words, ∀ other ∈ words, word <+: other → word = other

instance (words : List Text) : Decidable (Apart words) :=
  inferInstanceAs (Decidable (∀ word ∈ words, ∀ other ∈ words, word <+: other → word = other))

theorem word?_eq_some {words : List Text} (apart : Apart words) :
    word? words text = some rest ↔ ∃ word ∈ words, text = word ++ rest := by
  constructor
  · intro read
    obtain ⟨word, isWord, found⟩ := List.exists_of_findSome?_eq_some read
    exact ⟨word, isWord, after?_eq_some.mp found⟩
  · rintro ⟨word, isWord, rfl⟩
    have isFound : (word? words (word ++ rest)).isSome := by
      rw [word?, List.findSome?_isSome_iff]
      exact ⟨word, isWord, Option.isSome_iff_exists.mpr ⟨rest, after?_eq_some.mpr rfl⟩⟩
    obtain ⟨left, found⟩ := Option.isSome_iff_exists.mp isFound
    obtain ⟨other, isOther, read⟩ := List.exists_of_findSome?_eq_some found
    have split := after?_eq_some.mp read
    have same : word = other := by
      rcases List.prefix_or_prefix_of_prefix (List.prefix_append word rest)
        (split ▸ List.prefix_append other left) with shorter | longer
      · exact apart word isWord other isOther shorter
      · exact (apart other isOther word isWord longer).symm
    subst same
    rw [found, List.append_cancel_left split]

theorem spaced?_eq_some {words : List Text} (apart : Apart words) :
    spaced? words text = some rest ↔
      ∃ word ∈ words, ∃ gap, Run isSeparator gap ∧ Leaves isSeparator rest ∧
        text = word ++ (gap ++ rest) := by
  rw [spaced?, Option.bind_eq_bind, Option.bind_eq_some_iff]
  constructor
  · rintro ⟨left, readWord, readGap⟩
    obtain ⟨word, isWord, rfl⟩ := (word?_eq_some apart).mp readWord
    obtain ⟨gap, isGap, leaves, rfl⟩ := some?_eq_some.mp readGap
    exact ⟨word, isWord, gap, isGap, leaves, rfl⟩
  · rintro ⟨word, isWord, gap, isGap, leaves, rfl⟩
    exact ⟨gap ++ rest, (word?_eq_some apart).mpr ⟨word, isWord, rfl⟩,
      some?_eq_some.mpr ⟨gap, isGap, leaves, rfl⟩⟩

/-! ## Bindings and names -/

theorem isSpace_of_isNameChar {char : Char} (isName : isNameChar char = true) :
    isSpace char = false := by
  change (decide (65 ≤ char.toNat ∧ char.toNat ≤ 90) ||
    (decide (97 ≤ char.toNat) && decide (char.toNat ≤ 122)) ||
    (decide (48 ≤ char.toNat) && decide (char.toNat ≤ 57)) || char == '_' || char == '$') = true at isName
  simp only [Bool.or_eq_true, Bool.and_eq_true, decide_eq_true_eq, beq_iff_eq] at isName
  rcases isName with (inRange | rfl) | rfl
  · simp only [isSpace, Bool.or_eq_false_iff, Bool.and_eq_false_iff, decide_eq_false_iff_not,
      beq_eq_false_iff_ne]
    omega
  · decide
  · decide

theorem isNameChar_of_isSpace {char : Char} (blank : isSpace char = true) : isNameChar char = false :=
  classes_apart_symm (fun _ => isSpace_of_isNameChar) char blank

theorem isNameChar_of_isSeparator {char : Char} (separates : isSeparator char = true) :
    isNameChar char = false := isNameChar_of_isSpace (isSpace_of_isSeparator separates)

theorem isSeparator_of_isNameChar {char : Char} (isName : isNameChar char = true) :
    isSeparator char = false := classes_apart_symm (fun _ => isNameChar_of_isSeparator) char isName

/-- A declarator, a name and the equals sign after it. -/
inductive Binding : Text → Prop
  | intro {lead word gap name before : Text} (isLead : Gap lead) (isWord : word ∈ declarators)
      (isGap : Run isSeparator gap) (isName : Run isNameChar name) (isBefore : Gap before) :
      Binding (lead ++ (word ++ (gap ++ (name ++ (before ++ ['='])))))

theorem leaves_of_declarator {word : Text} (isWord : word ∈ declarators) (rest : Text) :
    Leaves isSeparator (word ++ rest) := by
  simp only [declarators, List.mem_cons, List.not_mem_nil, or_false] at isWord
  rcases isWord with rfl | rfl | rfl <;> rintro _ ⟨⟩ <;> rfl

theorem binding?_eq_some : binding? text = some rest ↔ ∃ front, Binding front ∧ text = front ++ rest := by
  have apart : Apart declarators := by decide
  simp only [binding?, Option.bind_eq_bind, Option.bind_eq_some_iff, spaced?_eq_some apart,
    some?_eq_some, after?_eq_some]
  constructor
  · rintro ⟨named, ⟨word, isWord, gap, isGap, -, read⟩, marked, ⟨name, isName, -, rfl⟩, mark⟩
    obtain ⟨lead, isLead, text_eq⟩ := exists_gap text
    obtain ⟨before, isBefore, marked_eq⟩ := exists_gap marked
    refine ⟨_, .intro isLead isWord isGap isName isBefore, ?_⟩
    rw [text_eq, read, marked_eq, mark]
    simp
  · rintro ⟨_, ⟨isLead, isWord, isGap, isName, isBefore⟩, rfl⟩
    rename_i lead word gap name before
    have marked : Leaves isNameChar (before ++ '=' :: rest) :=
      leaves_append isBefore (fun _ => isNameChar_of_isSeparator) (by rintro _ ⟨⟩; rfl)
    have named := isName.leaves_append (fun _ => isSeparator_of_isNameChar) (before ++ '=' :: rest)
    refine ⟨name ++ (before ++ '=' :: rest), ⟨word, isWord, gap, isGap, named, ?_⟩,
      before ++ '=' :: rest, ⟨name, isName, marked, rfl⟩, ?_⟩
    · simp only [List.append_assoc, List.singleton_append]
      exact skip_append isLead (leaves_of_declarator isWord _)
    · exact skip_append isBefore (by rintro _ ⟨⟩; rfl)

/-- What an import binds: all names under one, a single name, or names in braces. -/
inductive Imported : Text → Prop
  | all {gap next name : Text} (isGap : Run isSeparator gap) (isNext : Run isSeparator next)
      (isName : Run isNameChar name) : Imported ('*' :: (gap ++ ("as".toList ++ (next ++ name))))
  | single {name : Text} (isName : Run isNameChar name) : Imported name
  | braced {inner : Text} (closed : '}' ∉ inner) : Imported ('{' :: (inner ++ ['}']))

theorem importedNames?_of_name {name : Text} (isName : Run isNameChar name) (rest : Text) :
    importedNames? (name ++ rest) = some? isNameChar (name ++ rest) := by
  obtain ⟨char, tail, rfl⟩ := List.exists_cons_of_ne_nil isName.nonempty
  have isFirst := isName.inside char List.mem_cons_self
  rw [List.cons_append, importedNames?]
  · rintro _ same
    cases same
    cases isFirst
  · rintro _ same
    cases same
    cases isFirst

theorem Imported.leaves {names : Text} (imported : Imported names) (rest : Text) :
    Leaves isSeparator (names ++ rest) := by
  cases imported with
  | single isName => exact isName.leaves_append (fun _ => isSeparator_of_isNameChar) rest
  | all | braced =>
      rintro _ ⟨⟩
      rfl

theorem braced_eq_some :
    importedNames? ('{' :: text) = some rest ↔ ∃ inner, '}' ∉ inner ∧ text = inner ++ '}' :: rest := by
  rw [importedNames?]
  constructor
  · intro read
    split at read
    · cases read
    · rename_i closing left found
      cases read
      have closes := not_inClass_of_dropWhile found
      have notIn : '}' ∉ text.takeWhile (decide <| · ≠ '}') := fun membership => by
        simpa using mem_takeWhile_inClass membership
      obtain rfl : closing = '}' := Decidable.not_not.mp (of_decide_eq_false closes)
      exact ⟨_, notIn, found ▸ List.takeWhile_append_dropWhile.symm⟩
  · rintro ⟨inner, closed, rfl⟩
    have inside : ∀ char ∈ inner, decide (char ≠ '}') = true := by
      intro char membership
      rw [decide_eq_true_eq]
      rintro rfl
      exact closed membership
    rw [dropWhile_append_of_outside inside (by decide)]

/-- What is imported and the separators after it. -/
theorem importedNames?_eq_some :
    (∃ named, importedNames? text = some named ∧ some? isSeparator named = some rest) ↔
      ∃ names, Imported names ∧ ∃ gap, Run isSeparator gap ∧ Leaves isSeparator rest ∧
        text = names ++ (gap ++ rest) := by
  have apart : Apart ["as".toList] := by decide
  constructor
  · rintro ⟨named, readNames, readGap⟩
    obtain ⟨gap, isGap, leaves, rfl⟩ := some?_eq_some.mp readGap
    rw [importedNames?.eq_def] at readNames
    split at readNames
    · simp only [Option.bind_eq_bind, Option.bind_eq_some_iff, some?_eq_some,
        spaced?_eq_some apart, List.mem_singleton] at readNames
      obtain ⟨_, ⟨lead, isLead, -, rfl⟩, _, ⟨_, rfl, next, isNext, -, rfl⟩, name, isName, -, rfl⟩ :=
        readNames
      exact ⟨_, .all isLead isNext isName, gap, isGap, leaves, by simp⟩
    · obtain ⟨inner, closed, rfl⟩ := braced_eq_some.mp readNames
      exact ⟨_, .braced closed, gap, isGap, leaves, by simp⟩
    · obtain ⟨name, isName, -, rfl⟩ := some?_eq_some.mp readNames
      exact ⟨name, .single isName, gap, isGap, leaves, rfl⟩
  · rintro ⟨_, imported, gap, isGap, leaves, rfl⟩
    have named := isGap.leaves_append (fun _ => isNameChar_of_isSeparator) rest
    refine ⟨gap ++ rest, ?_, some?_eq_some.mpr ⟨gap, isGap, leaves, rfl⟩⟩
    cases imported with
    | single isName =>
        rw [importedNames?_of_name isName]
        exact some?_eq_some.mpr ⟨_, isName, named, rfl⟩
    | braced closed => exact braced_eq_some.mpr ⟨_, closed, by simp⟩
    | all isLead isNext isName =>
        rename_i lead next name
        rw [List.cons_append, importedNames?]
        simp only [Option.bind_eq_bind, Option.bind_eq_some_iff, some?_eq_some,
          spaced?_eq_some apart, List.mem_singleton, List.append_assoc]
        exact ⟨_, ⟨lead, isLead, by rintro _ ⟨⟩; rfl, rfl⟩, _, ⟨_, rfl, next, isNext,
          isName.leaves_append (fun _ => isSeparator_of_isNameChar) _, rfl⟩, name, isName, named, rfl⟩

/-! ## Quoted paths -/

/-- A quoted path on one row, which holds at least one character. -/
inductive Quoted : Text → Prop
  | intro {opening closing : Char} {inner : Text} (opens : isPathQuote opening = true)
      (nonempty : inner ≠ []) (oneRow : '\n' ∉ inner) (closes : isPathQuote closing = true) :
      Quoted (opening :: (inner ++ [closing]))

theorem Quoted.leaves {path : Text} (quoted : Quoted path) (rest : Text) :
    Leaves isSeparator (path ++ rest) := by
  obtain ⟨opens, -, -, -⟩ := quoted
  rintro _ ⟨⟩
  simp only [isPathQuote, Bool.or_eq_true, beq_iff_eq] at opens
  rcases opens with rfl | rfl <;> rfl

theorem eq_append_of_afterLastQuote? {tail : Text} (found : afterLastQuote? tail text = some rest) :
    ∃ inner closing, '\n' ∉ inner ∧ isPathQuote closing = true ∧
      text = inner ++ closing :: (tail ++ rest) := by
  induction text with
  | nil => cases found
  | cons char text ih =>
      rw [afterLastQuote?] at found
      split at found
      · cases found
      · rename_i onRow
        split at found
        · rename_i later isLater
          cases found
          obtain ⟨inner, closing, oneRow, closes, rfl⟩ := ih isLater
          exact ⟨char :: inner, closing, by simp [Ne.symm onRow, oneRow], closes, rfl⟩
        · split at found
          · rename_i closes
            exact ⟨[], char, List.not_mem_nil, closes, by rw [after?_eq_some.mp found]; rfl⟩
          · cases found

theorem exists_afterLastQuote? (tail rest : Text) {inner : Text} {closing : Char}
    (oneRow : '\n' ∉ inner) (closes : isPathQuote closing = true) :
    ∃ left, afterLastQuote? tail (inner ++ closing :: (tail ++ rest)) = some left ∧
      left.length ≤ rest.length := by
  induction inner with
  | nil =>
      have onRow : closing ≠ '\n' := by
        rintro rfl
        cases closes
      rw [List.nil_append, afterLastQuote?, if_neg onRow]
      cases later : afterLastQuote? tail (tail ++ rest) with
      | none =>
          dsimp only
          rw [if_pos closes]
          exact ⟨rest, after?_eq_some.mpr rfl, Nat.le_refl _⟩
      | some left =>
          obtain ⟨inner, closing, -, -, split⟩ := eq_append_of_afterLastQuote? later
          have lengths := congrArg List.length split
          simp only [List.length_append, List.length_cons] at lengths
          exact ⟨left, rfl, by omega⟩
  | cons char inner ih =>
      rw [List.mem_cons, not_or] at oneRow
      obtain ⟨left, later, shorter⟩ := ih oneRow.2
      rw [List.cons_append, afterLastQuote?, if_neg (Ne.symm oneRow.1), later]
      exact ⟨left, rfl, shorter⟩

/-! ## Statements -/

/-- A recogniser reads the longest match of a pattern at the start of a text. -/
structure ReadsLongest (recogniser : Text → Option Text) (Pattern : Text → Prop) : Prop where
  exists_match : ∀ {text rest}, recogniser text = some rest → ∃ front, Pattern front ∧ text = front ++ rest
  exists_rest : ∀ {front} rest, Pattern front →
    ∃ left, recogniser (front ++ rest) = some left ∧ left.length ≤ rest.length

/-- The longest match of a pattern at the start of a text. -/
structure LongestMatch (Pattern : Text → Prop) (text front : Text) : Prop where
  matched : Pattern front
  isPrefix : front <+: text
  longest : ∀ other, Pattern other → other <+: text → other.length ≤ front.length

theorem ReadsLongest.longestMatch {recogniser : Text → Option Text} {Pattern : Text → Prop}
    (reads : ReadsLongest recogniser Pattern) (found : recogniser text = some rest) :
    ∃ front, text = front ++ rest ∧ LongestMatch Pattern text front := by
  obtain ⟨front, matched, rfl⟩ := reads.exists_match found
  refine ⟨front, rfl, matched, List.prefix_append front rest, ?_⟩
  rintro other otherMatched ⟨more, same⟩
  obtain ⟨left, again, shorter⟩ := reads.exists_rest more otherMatched
  rw [same, found] at again
  cases again
  have lengths := congrArg List.length same
  simp only [List.length_append] at lengths
  omega

theorem readsLongest_modulePath? (tail : Text) :
    ReadsLongest (modulePath? tail) fun text => ∃ path, Quoted path ∧ text = path ++ tail where
  exists_match read := by
    rename_i text rest
    rw [modulePath?.eq_def] at read
    split at read
    · rename_i opening char _
      split at read
      · rename_i opens
        rw [Bool.and_eq_true, bne_iff_ne] at opens
        obtain ⟨inner, closing, oneRow, closes, rfl⟩ := eq_append_of_afterLastQuote? read
        refine ⟨_, ⟨_, .intro opens.1 (List.cons_ne_nil char inner) ?_ closes, rfl⟩, by simp⟩
        simp [Ne.symm opens.2, oneRow]
      · cases read
    · cases read
  exists_rest := by
    rintro _ rest ⟨_, ⟨opens, nonempty, oneRow, closes⟩, rfl⟩
    rename_i opening closing inner
    obtain ⟨char, inner, rfl⟩ := List.exists_cons_of_ne_nil nonempty
    rw [List.mem_cons, not_or] at oneRow
    obtain ⟨left, read, shorter⟩ := exists_afterLastQuote? tail rest oneRow.2 closes
    refine ⟨left, ?_, shorter⟩
    simpa [modulePath?, opens, Ne.symm oneRow.1] using read

/-- A name that is bound to a required module. -/
inductive RequireStatement : Text → Prop
  | intro {front gap path : Text} (binding : Binding front) (isGap : Gap gap) (quoted : Quoted path) :
      RequireStatement (front ++ (gap ++ ("require(".toList ++ (path ++ [')']))))

theorem readsLongest_require? : ReadsLongest require? RequireStatement where
  exists_match read := by
    rename_i text rest
    simp only [require?, Option.bind_eq_bind, Option.bind_eq_some_iff, binding?_eq_some,
      after?_eq_some] at read
    obtain ⟨value, ⟨front, binding, rfl⟩, called, word, readPath⟩ := read
    obtain ⟨gap, isGap, value_eq⟩ := exists_gap value
    obtain ⟨_, ⟨path, quoted, rfl⟩, rfl⟩ := (readsLongest_modulePath? _).exists_match readPath
    refine ⟨_, .intro binding isGap quoted, ?_⟩
    rw [value_eq, word]
    simp
  exists_rest := by
    rintro _ rest ⟨binding, isGap, quoted⟩
    rename_i front gap path
    obtain ⟨left, readPath, shorter⟩ :=
      (readsLongest_modulePath? [')']).exists_rest rest ⟨path, quoted, rfl⟩
    refine ⟨left, ?_, shorter⟩
    simp only [require?, Option.bind_eq_bind, Option.bind_eq_some_iff, binding?_eq_some,
      after?_eq_some]
    refine ⟨_, ⟨front, binding, List.append_assoc _ _ _⟩, _, ?_, readPath⟩
    rw [List.append_assoc, skip_append isGap (by rintro _ ⟨⟩; rfl), List.append_assoc]

theorem apart_import : Apart ["import".toList] := by decide

theorem apart_from : Apart ["from".toList] := by decide

/-- Names that are imported from a module. -/
inductive ImportStatement : Text → Prop
  | intro {lead gap names next last path : Text} (isLead : Gap lead) (isGap : Run isSeparator gap)
      (imported : Imported names) (isNext : Run isSeparator next) (isLast : Run isSeparator last)
      (quoted : Quoted path) :
      ImportStatement
        (lead ++ ("import".toList ++ (gap ++ (names ++ (next ++ ("from".toList ++ (last ++ path)))))))

theorem readsLongest_import? : ReadsLongest import? ImportStatement where
  exists_match read := by
    rename_i text rest
    simp only [import?, Option.bind_eq_bind, Option.bind_eq_some_iff, spaced?_eq_some apart_import,
      spaced?_eq_some apart_from, List.mem_singleton] at read
    obtain ⟨_, ⟨_, rfl, gap, isGap, -, word⟩, named, readNames, _, readGap, _,
      ⟨_, rfl, last, isLast, -, rfl⟩, readPath⟩ := read
    obtain ⟨lead, isLead, text_eq⟩ := exists_gap text
    obtain ⟨names, imported, next, isNext, -, rfl⟩ :=
      importedNames?_eq_some.mp ⟨named, readNames, readGap⟩
    obtain ⟨_, ⟨path, quoted, rfl⟩, rfl⟩ := (readsLongest_modulePath? _).exists_match readPath
    refine ⟨_, .intro isLead isGap imported isNext isLast quoted, ?_⟩
    rw [text_eq, word]
    simp
  exists_rest := by
    rintro _ rest ⟨isLead, isGap, imported, isNext, isLast, quoted⟩
    rename_i lead gap names next last path
    obtain ⟨left, readPath, shorter⟩ :=
      (readsLongest_modulePath? []).exists_rest rest ⟨path, quoted, rfl⟩
    refine ⟨left, ?_, shorter⟩
    rw [List.append_nil] at readPath
    have leaves : Leaves isSeparator ("from".toList ++ (last ++ (path ++ rest))) := by
      rintro _ ⟨⟩
      rfl
    obtain ⟨named, readNames, readGap⟩ := importedNames?_eq_some.mpr
      ⟨names, imported, next, isNext, leaves, rfl⟩
    simp only [import?, Option.bind_eq_bind, Option.bind_eq_some_iff, spaced?_eq_some apart_import,
      spaced?_eq_some apart_from, List.mem_singleton, List.append_assoc]
    refine ⟨_, ⟨_, rfl, gap, isGap, imported.leaves _, ?_⟩, named, readNames, _, readGap, _,
      ⟨_, rfl, last, isLast, quoted.leaves rest, rfl⟩, readPath⟩
    exact skip_append isLead (by rintro _ ⟨⟩; rfl)

end Docweave.Header
