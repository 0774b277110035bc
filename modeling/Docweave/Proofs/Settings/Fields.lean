import Mathlib.Logic.Function.Basic
import Docweave.Proofs.Text.Rows
import Docweave.Proofs.Value.Json
import Docweave.Settings.Basic

/-!
# Fields and their keys

A field is given a value, and all others keep theirs.  A dotted key names the field whose group and
name are its parts once these are in snake case, so a field has many keys.  Whether a field takes a
plain value depends on its shape alone, and it takes back the plain form of any value it has.
-/

namespace Docweave

namespace Group

variable {group : Group} {name : Text}

theorem ofName?_eq_some : ofName? name = some group ↔ group.name = name := by
  constructor
  · intro found
    simpa using List.find?_some found
  · rintro rfl
    cases group <;> rfl

theorem snakeCase_name (group : Group) : Settings.snakeCase group.name = group.name := by
  cases group <;> rfl

end Group

namespace Field

variable {field : Field} {group : Group} {name : Text}

/-- The full key of a field: its group and its name. -/
def key (field : Field) : Text := field.group.name ++ '.' :: field.name

theorem mem_ofGroup : field ∈ ofGroup group ↔ field.group = group := by
  simp [ofGroup, mem_all]

theorem find?_eq_some : find? group name = some field ↔ field.group = group ∧ field.name = name := by
  constructor
  · intro found
    constructor
    · exact mem_ofGroup.mp (List.mem_of_find?_eq_some found)
    · simpa using List.find?_some found
  · rintro ⟨rfl, rfl⟩
    exact find?_name field

theorem snakeCase_name (field : Field) : Settings.snakeCase field.name = field.name := by
  cases field <;> rfl

end Field

/-- A capital letter becomes a small one, which is neither a capital letter nor a dot. -/
theorem toLower_of_isUpper {char : Char} (isUpper : char.isUpper = true) :
    char.toLower.isUpper = false ∧ char.toLower ≠ '.' := by
  have each : ∀ number < 91, (Char.ofNat number).isUpper = true →
      (Char.ofNat number).toLower.isUpper = false ∧ (Char.ofNat number).toLower ≠ '.' := by
    decide
  have bound : char.toNat < 91 := by
    have inRange : 65 ≤ char.val ∧ char.val ≤ 90 := of_decide_eq_true isUpper
    exact Nat.lt_succ_of_le (UInt32.le_iff_toNat_le.mp inRange.2)
  simpa [isUpper] using each char.toNat bound

namespace Settings

variable {settings changed : Settings} {field first second : Field} {key other : Text}
variable {shape : Shape} {value : Value}

/-! ## Spelling of keys -/

theorem snakeCase_snakeCase (key : Text) : snakeCase (snakeCase key) = snakeCase key := by
  induction key with
  | nil => rfl
  | cons char key ih =>
      have append : ∀ left right : Text, snakeCase (left ++ right) = snakeCase left ++ snakeCase right := by
        intro left right
        simp [snakeCase]
      have char_eq : snakeCase (snakeCase [char]) = snakeCase [char] := by
        cases isUpper : char.isUpper with
        | true =>
            have small := toLower_of_isUpper isUpper
            simp [snakeCase, isUpper, small]
        | false => simp [snakeCase, isUpper]
      rw [← List.singleton_append, append, append, char_eq, ih]

theorem splitChar_snakeCase (key : Text) :
    Text.splitChar '.' (snakeCase key) = (Text.splitChar '.' key).map snakeCase := by
  have cons : ∀ (char : Char) (rest : Text), snakeCase (char :: rest) =
      (if char.isUpper then ['_', char.toLower] else [char]) ++ snakeCase rest := fun _ _ => rfl
  induction key with
  | nil => rfl
  | cons char key ih =>
      by_cases isDot : char = '.'
      · subst isDot
        rw [cons, if_neg (by decide), List.singleton_append, Text.splitChar, if_pos rfl, Text.splitChar,
          if_pos rfl, ih]
        rfl
      · obtain ⟨piece, pieces, split⟩ := List.exists_cons_of_ne_nil (Text.splitChar_ne_nil '.' key)
        rw [Text.splitChar_cons isDot, cons]
        split
        · rename_i isUpper
          have small := toLower_of_isUpper isUpper
          rw [List.cons_append, List.singleton_append, Text.splitChar_cons (by decide),
            Text.splitChar_cons small.2, ih, split]
          simp [cons, isUpper]
        · rename_i isUpper
          rw [List.singleton_append, Text.splitChar_cons isDot, ih, split]
          simp [cons, isUpper]

theorem keyParts_eq (key : Text) :
    keyParts key = if (snakeCase key).isEmpty then [] else Text.splitChar '.' (snakeCase key) := by
  cases key with
  | nil => rfl
  | cons char key =>
      have notEmpty : (snakeCase (char :: key)).isEmpty = false := by
        simp only [snakeCase, List.map_cons, List.flatten_cons]
        split <;> rfl
      rw [notEmpty, splitChar_snakeCase]
      rfl

theorem keyParts_congr (same : snakeCase key = snakeCase other) : keyParts key = keyParts other := by
  rw [keyParts_eq, same, keyParts_eq]

theorem fieldOf?_eq_some :
    fieldOf? key = some field ↔ keyParts key = [field.group.name, field.name] := by
  rw [fieldOf?]
  split
  · rename_i group name parts_eq
    rw [parts_eq, Option.bind_eq_some_iff]
    simp only [Group.ofName?_eq_some, Field.find?_eq_some]
    constructor
    · rintro ⟨_, rfl, rfl, rfl⟩
      rfl
    · intro same
      cases same
      exact ⟨_, rfl, rfl, rfl⟩
  · rename_i other
    constructor
    · intro found
      cases found
    · intro parts_eq
      exact absurd parts_eq (other _ _)

theorem fieldOf?_key (field : Field) : fieldOf? field.key = some field := by
  cases field <;> rfl

theorem fieldOf?_congr (same : snakeCase key = snakeCase other) : fieldOf? key = fieldOf? other := by
  rw [fieldOf?, keyParts_congr same, fieldOf?]

/-! ## Giving a field a value -/

theorem value_put (settings : Settings) (field : Field) (value : field.shape.Carrier) :
    (settings.put field value).value = Function.update settings.value field value := by
  funext other
  by_cases same : field = other
  · subst same
    simp [put]
  · rw [Function.update_of_ne (Ne.symm same)]
    simp [put, same]

theorem eq_of_value_eq (same : settings.value = changed.value) : settings = changed := by
  cases settings
  cases changed
  cases same
  rfl

theorem put_self (settings : Settings) (field : Field) :
    settings.put field (settings.value field) = settings := by
  apply eq_of_value_eq
  rw [value_put, Function.update_eq_self]

theorem put_comm (different : first ≠ second) (value : first.shape.Carrier)
    (next : second.shape.Carrier) :
    (settings.put first value).put second next = (settings.put second next).put first value := by
  apply eq_of_value_eq
  rw [value_put, value_put, value_put, value_put, Function.update_comm different]

theorem getField_put_self (value : field.shape.Carrier) :
    (settings.put field value).getField field = plain field.shape value := by
  rw [getField, value_put, Function.update_self]

theorem getField_put_of_ne (different : first ≠ second) (value : second.shape.Carrier) :
    (settings.put second value).getField first = settings.getField first := by
  rw [getField, value_put, Function.update_of_ne different, getField]

/-! ## Plain values -/

/-- Any value but nothing has a text, unless it is too long to be written. -/
theorem coerce_text (key : Text) (something : value ≠ .null) :
    coerce key .text value =
      if value.isTooLong then .error .numberTooLong else .ok value.plainText := by
  rw [coerce]
  exact something

/-- Whether a value is accepted, and as what, does not depend on the key that a complaint would name. -/
theorem toOption_coerce (key other : Text) (shape : Shape) (value : Value) :
    (coerce key shape value).toOption = (coerce other shape value).toOption := by
  cases shape with
  | flag => cases value <;> simp only [coerce, Except.toOption]
  | number => cases value <;> simp only [coerce, Except.toOption]
  | text =>
      by_cases something : value = .null
      · subst something
        rfl
      · rw [coerce_text key something, coerce_text other something]
  | list =>
      cases value with
      | shared mark value =>
          simp only [coerce]
          split <;> simp only [Except.toOption]
      | _ => simp only [coerce, Value.opened, Except.toOption]

theorem coerce_plain (key : Text) (carried : shape.Carrier) :
    coerce key shape (plain shape carried) = .ok carried := by
  cases shape with
  | flag => rfl
  | number => rfl
  | text =>
      have something : Value.text carried ≠ .null := by
        intro same
        cases same
      rw [plain, coerce_text key something, Value.isTooLong_text]
      rfl
  | list => rfl

/-! ## Reading and changing by key -/

theorem get_eq (named : fieldOf? key = some field) : settings.get key = .ok (settings.getField field) := by
  have parts_eq := fieldOf?_eq_some.mp named
  rw [get, parts_eq]
  simp only [named]

theorem withValue_eq (named : fieldOf? key = some field) :
    settings.withValue key value = (coerce key field.shape value).map (settings.put field) := by
  rw [withValue, named]
  rfl

theorem withValue_eq_ok (named : fieldOf? key = some field) :
    settings.withValue key value = .ok changed ↔
      ∃ carried, coerce key field.shape value = .ok carried ∧ settings.put field carried = changed := by
  rw [withValue_eq named]
  cases coerce key field.shape value with
  | error error => simp [Except.map]
  | ok carried => simp [Except.map]

/-- What is changed is a field. -/
theorem exists_fieldOf?_of_withValue (changes : settings.withValue key value = .ok changed) :
    ∃ field, fieldOf? key = some field := by
  cases named : fieldOf? key with
  | none => simp [withValue, named] at changes
  | some field => exact ⟨field, rfl⟩

/-- Two spellings of a key read the same, or neither reads anything. -/
theorem toOption_get (settings : Settings) (same : snakeCase key = snakeCase other) :
    (settings.get key).toOption = (settings.get other).toOption := by
  rw [get, get, keyParts_congr same, fieldOf?_congr same]
  split
  · rfl
  · split <;> rfl
  · split <;> rfl

/-- Two spellings of a key change the same field to the same value, or neither changes anything. -/
theorem toOption_withValue (settings : Settings) (value : Value) (same : snakeCase key = snakeCase other) :
    (settings.withValue key value).toOption = (settings.withValue other value).toOption := by
  cases named : fieldOf? key with
  | none => rw [withValue, withValue, ← fieldOf?_congr same, named]; rfl
  | some field =>
      have accepted := toOption_coerce key other field.shape value
      rw [withValue_eq named, withValue_eq ((fieldOf?_congr same).symm.trans named)]
      cases fromKey : coerce key field.shape value <;> cases fromOther : coerce other field.shape value <;>
        simp_all [Except.map, Except.toOption]

end Settings

end Docweave
