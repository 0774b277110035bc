import Docweave.Value.Basic

/-!
# Plain values of JSON kind

Of all plain values, those that JSON knows: lists are the only sequences, the keys of a mapping are
texts, and nothing is shared.  A copy of such a value, and its inside, is the value itself.
-/

namespace Docweave.Value

variable {value : Value}

/-- A value made up of nothing, truth values, numbers and texts by lists and by mappings whose keys are
texts. -/
inductive IsJson : Value → Prop where
  | null : IsJson .null
  | bool (value : Bool) : IsJson (.bool value)
  | int (value : Int) : IsJson (.int value)
  | double (value : Double) : IsJson (.double value)
  | text (value : Text) : IsJson (.text value)
  | list {items : List Value} (each : ∀ item ∈ items, IsJson item) : IsJson (.list items)
  | mapping {entries : List (Value × Value)} (keys : ∀ entry ∈ entries, ∃ key, entry.1 = .text key)
      (values : ∀ entry ∈ entries, IsJson entry.2) : IsJson (.mapping entries)

theorem isTooLong_text (text : Text) : (Value.text text).isTooLong = false := by
  simp only [isTooLong, holds]

theorem opened_of_isJson (isJson : value.IsJson) : value.opened = value := by
  cases isJson <;> rfl

/-- A mapping with its entries changed or dropped.  Other values stay as they are. -/
def changeEntries (change : Value × Value → Option (Value × Value)) : Value → Value
  | .mapping entries => .mapping (entries.filterMap change)
  | value => value

theorem isJson_changeEntries {change : Value × Value → Option (Value × Value)} (isJson : value.IsJson)
    (changes : ∀ key inner changed, inner.IsJson → change (.text key, inner) = some changed →
      (∃ key, changed.1 = .text key) ∧ changed.2.IsJson) :
    (value.changeEntries change).IsJson := by
  cases isJson with
  | @mapping entries keys values =>
      have each : ∀ changed ∈ entries.filterMap change,
          (∃ key, changed.1 = .text key) ∧ changed.2.IsJson := by
        intro changed membership
        obtain ⟨⟨_, inner⟩, old, changed_eq⟩ := List.mem_filterMap.mp membership
        obtain ⟨key, rfl⟩ := keys _ old
        exact changes key inner changed (values _ old) changed_eq
      constructor
      · intro changed membership
        exact (each changed membership).1
      · intro changed membership
        exact (each changed membership).2
  | _ => constructor <;> assumption

theorem allCopied_eq_map (pairs : Bool) (items : List Value) :
    allCopied pairs items = items.map (copied pairs) := by
  induction items with
  | nil => rfl
  | cons item items ih => rw [allCopied, List.map_cons, ih]

theorem entriesCopied_eq_map (pairs : Bool) (entries : List (Value × Value)) :
    entriesCopied pairs entries = entries.map fun entry => (entry.1, copied pairs entry.2) := by
  induction entries with
  | nil => rfl
  | cons entry entries ih => rw [entriesCopied, List.map_cons, ih]

theorem copied_of_isJson (isJson : value.IsJson) (pairs : Bool) : value.copied pairs = value := by
  induction isJson with
  | null | bool | int | double | text => rfl
  | list each ih =>
      rw [copied, allCopied_eq_map, List.map_congr_left ih, List.map_id']
  | @mapping entries keys values ih =>
      have same : ∀ entry ∈ entries, (entry.1, copied pairs entry.2) = entry := by
        intro entry membership
        rw [ih entry membership]
      rw [copied, entriesCopied_eq_map, List.map_congr_left same, List.map_id']

/-! ## Comparing values -/

theorem eq_of_sameItems {items : List Value} (each : ∀ item ∈ items, ∀ other, same other item → other = item) :
    ∀ others, sameItems others items → others = items := by
  induction items with
  | nil =>
      intro others isSame
      cases others with
      | nil => rfl
      | cons other others => cases isSame
  | cons item items ih =>
      intro others isSame
      obtain ⟨first, rest⟩ := List.forall_mem_cons.mp each
      cases others with
      | nil => cases isSame
      | cons other others =>
          rw [sameItems, Bool.and_eq_true] at isSame
          rw [first other isSame.1, ih rest others isSame.2]

theorem eq_of_sameEntries {entries : List (Value × Value)}
    (keys : ∀ entry ∈ entries, ∃ key, entry.1 = .text key)
    (each : ∀ entry ∈ entries, ∀ other, same other entry.2 → other = entry.2) :
    ∀ others, sameEntries others entries → others = entries := by
  induction entries with
  | nil =>
      intro others isSame
      cases others with
      | nil => rfl
      | cons other others => cases isSame
  | cons entry entries ih =>
      intro others isSame
      obtain ⟨⟨key, isText⟩, otherKeys⟩ := List.forall_mem_cons.mp keys
      obtain ⟨first, rest⟩ := List.forall_mem_cons.mp each
      cases others with
      | nil => cases isSame
      | cons other others =>
          obtain ⟨otherKey, otherValue⟩ := other
          obtain ⟨_, value⟩ := entry
          subst isText
          simp only [sameEntries, Bool.and_eq_true] at isSame
          obtain ⟨⟨sameKey, sameValue⟩, sameRest⟩ := isSame
          cases otherKey with
          | text otherKey =>
              rw [same, beq_iff_eq] at sameKey
              rw [sameKey, first otherValue sameValue, ih otherKeys rest others sameRest]
          | _ => cases sameKey

/-- What compares as the same as a value of JSON kind is equal to it. -/
theorem eq_of_same (isJson : value.IsJson) : ∀ other, same other value → other = value := by
  induction isJson with
  | null | bool | int | double | text =>
      intro other isSame
      cases other <;> simp_all [same]
  | list each ih =>
      intro other isSame
      cases other with
      | list others => rw [eq_of_sameItems ih others isSame]
      | _ => cases isSame
  | mapping keys values ih =>
      intro other isSame
      cases other with
      | mapping others => rw [eq_of_sameEntries keys ih others isSame]
      | _ => cases isSame

end Docweave.Value
