import Docweave.Proofs.Settings.Fields

/-!
# Merging as single changes

Plain data is merged over the defaults group by group.  What comes out is what giving the named
fields their values one after the other gives, in the order in which the data names them, and
merging fails if one of these changes does, or if a group is given anything but a mapping.  The
entries that name a group, its sections, are all that is read of the data: dropping the others, and
spelling a key in another way, leaves the sections as they are up to entries that name no field.
-/

namespace Docweave.Settings

variable {data : Value} {settings merged : Settings} {group : Group}
variable {entries : List (Value × Value)}

/-! ## Sections and leaves -/

/-- The entries that name a group, under that group. -/
def sections (entries : List (Value × Value)) : List (Group × Value) :=
  entries.filterMap fun entry =>
    (Group.ofName? (snakeCase entry.1.plainText)).map fun group => (group, entry.2)

/-- The entries of a group that name a field, under the full key of that field. -/
def groupLeaves (group : Group) (entries : List (Value × Value)) : List (Text × Value) :=
  entries.filterMap fun entry =>
    (Field.find? group (snakeCase entry.1.plainText)).map fun field => (field.key, entry.2)

/-- The leaves of a section.  What is no mapping has none. -/
def sectionLeaves : Group × Value → List (Text × Value)
  | (group, .mapping entries) => groupLeaves group entries
  | _ => []

/-- All entries that name a field of a group that they stand in, in order, under full keys. -/
def leaves (entries : List (Value × Value)) : List (Text × Value) :=
  (sections entries).flatMap sectionLeaves

/-- Give several keys their values, one after the other. -/
def withValues (settings : Settings) (changes : List (Text × Value)) : Except SettingsError Settings :=
  changes.foldlM (fun settings change => settings.withValue change.1 change.2) settings

/-- Merge a section. -/
def mergeSection (settings : Settings) : Group × Value → Except SettingsError Settings
  | (group, .mapping entries) => settings.withValues (groupLeaves group entries)
  | (group, value) => .error (.showing (.notAMapping group.name) value)

theorem withValues_append (settings : Settings) (front back : List (Text × Value)) :
    settings.withValues (front ++ back) =
      settings.withValues front >>= fun changed => changed.withValues back := by
  rw [withValues, List.foldlM_append]
  rfl

theorem withValues_cons_key (settings : Settings) (field : Field) (value : Value)
    (changes : List (Text × Value)) :
    settings.withValues ((field.key, value) :: changes) =
      settings.putPlain field field.key value >>= fun changed => changed.withValues changes := by
  rw [withValues, List.foldlM_cons, withValue, fieldOf?_key]
  rfl

theorem mergeGroup_eq (keys : ∀ entry ∈ entries, ∃ key, entry.1 = .text key) :
    mergeGroup group settings entries = settings.withValues (groupLeaves group entries) := by
  induction entries generalizing settings with
  | nil => rfl
  | cons entry entries ih =>
      obtain ⟨⟨key, isText⟩, others⟩ := List.forall_mem_cons.mp keys
      obtain ⟨_, value⟩ := entry
      subst isText
      rw [mergeGroup, Value.isTooLong_text, groupLeaves, List.filterMap_cons]
      cases found : Field.find? group (snakeCase (Value.text key).plainText) with
      | none => exact ih others
      | some field =>
          obtain ⟨rfl, -⟩ := Field.find?_eq_some.mp found
          rw [Option.map_some, withValues_cons_key, Field.key]
          simp only [Bool.false_eq_true, if_false]
          cases settings.putPlain field (field.group.name ++ '.' :: field.name) value with
          | error error => rfl
          | ok merged => exact ih others

/-- Merging reads the sections, one after the other. -/
theorem mergeEntries_eq (keys : ∀ entry ∈ entries, ∃ key, entry.1 = .text key)
    (values : ∀ entry ∈ entries, entry.2.IsJson) :
    mergeEntries settings entries = (sections entries).foldlM mergeSection settings := by
  induction entries generalizing settings with
  | nil => rfl
  | cons entry entries ih =>
      obtain ⟨⟨key, isText⟩, otherKeys⟩ := List.forall_mem_cons.mp keys
      obtain ⟨isJson, otherValues⟩ := List.forall_mem_cons.mp values
      obtain ⟨_, value⟩ := entry
      subst isText
      rw [mergeEntries, Value.isTooLong_text, sections, List.filterMap_cons,
        Value.opened_of_isJson isJson]
      cases Group.ofName? (snakeCase (Value.text key).plainText) with
      | none => exact ih otherKeys otherValues
      | some group =>
          rw [Option.map_some, List.foldlM_cons]
          cases isJson with
          | mapping inner _ =>
              simp only [Bool.false_eq_true, if_false, mergeGroup_eq inner, mergeSection]
              cases settings.withValues (groupLeaves group _) with
              | error error => rfl
              | ok merged => exact ih otherKeys otherValues
          | _ => rfl

/-- A section is merged if it is a mapping whose leaves can be set. -/
theorem foldlM_mergeSection_eq_ok {sections : List (Group × Value)} :
    sections.foldlM mergeSection settings = .ok merged ↔
      (∀ named ∈ sections, ∃ entries, named.2 = .mapping entries) ∧
        settings.withValues (sections.flatMap sectionLeaves) = .ok merged := by
  induction sections generalizing settings with
  | nil => simp [withValues]
  | cons named sections ih =>
      obtain ⟨group, value⟩ := named
      rw [List.foldlM_cons, List.flatMap_cons, withValues_append, List.forall_mem_cons]
      cases value with
      | mapping entries =>
          rw [mergeSection, sectionLeaves]
          cases settings.withValues (groupLeaves group entries) with
          | error error => simp [bind, Except.bind]
          | ok changed => simpa [bind, Except.bind] using ih
      | _ => simp [mergeSection, bind, Except.bind]

theorem ofValue_mapping (isJson : (Value.mapping entries).IsJson) :
    ofValue (.mapping entries) = (sections entries).foldlM mergeSection default := by
  cases isJson with
  | mapping keys values =>
      rw [ofValue, ← mergeEntries_eq keys values]
      cases entries with
      | nil => rfl
      | cons entry entries => rfl

/-- Data that is no mapping gives settings just if it is empty. -/
theorem ofValue_eq_ok_of_not_mapping (isJson : data.IsJson) (noMapping : ∀ entries, data ≠ .mapping entries) :
    ofValue data = .ok settings ↔ data.isEmpty = true ∧ settings = default := by
  rw [ofValue, Value.opened_of_isJson isJson]
  split
  · rename_i isEmpty
    simp [isEmpty, eq_comm]
  · rename_i notEmpty
    split
    · rename_i entries
      exact absurd rfl (noMapping entries)
    · simp [notEmpty]

/-- Data gives settings just if it is empty, or a mapping whose sections are mappings and whose leaves
can be set one after the other over the defaults. -/
theorem ofValue_eq_ok_iff (isJson : data.IsJson) :
    ofValue data = .ok settings ↔
      data.isEmpty = true ∧ settings = default ∨
        ∃ entries, data = .mapping entries ∧
          (∀ named ∈ sections entries, ∃ inner, named.2 = .mapping inner) ∧
          default.withValues (leaves entries) = .ok settings := by
  by_cases isMapping : ∃ entries, data = .mapping entries
  · obtain ⟨entries, rfl⟩ := isMapping
    rw [ofValue_mapping isJson, foldlM_mergeSection_eq_ok]
    constructor
    · intro merges
      exact .inr ⟨entries, rfl, merges⟩
    · rintro (⟨isEmpty, rfl⟩ | ⟨_, same, merges⟩)
      · obtain rfl := List.isEmpty_iff.mp isEmpty
        exact ⟨List.forall_mem_nil _, rfl⟩
      · cases same
        exact merges
  · rw [not_exists] at isMapping
    rw [ofValue_eq_ok_of_not_mapping isJson isMapping]
    constructor
    · exact .inl
    · rintro (empty | ⟨entries, same, -⟩)
      · exact empty
      · exact absurd same (isMapping entries)

/-- Changing what stands under the groups in a way that merging does not see changes nothing. -/
theorem ofValue_congr {changed : List (Value × Value)} {change : Group → Value → Value}
    (isJson : (Value.mapping entries).IsJson) (changedIsJson : (Value.mapping changed).IsJson)
    (sections_eq : sections changed = (sections entries).map fun named => (named.1, change named.1 named.2))
    (unseen : ∀ settings group value,
      mergeSection settings (group, change group value) = mergeSection settings (group, value)) :
    ofValue (.mapping changed) = ofValue (.mapping entries) := by
  rw [ofValue_mapping changedIsJson, ofValue_mapping isJson, sections_eq, List.foldlM_map]
  congr 1
  funext settings named
  exact unseen settings named.1 named.2

/-! ## Entries that name nothing -/

/-- What stands under a group, without the entries that name no field of it. -/
def knownInGroup (group : Group) : Value → Value :=
  Value.changeEntries fun entry => (Field.find? group (snakeCase entry.1.plainText)).map fun _ => entry

/-- Data without the entries that name no group, or no field of the group that they stand in. -/
def knownPart : Value → Value :=
  Value.changeEntries fun entry =>
    (Group.ofName? (snakeCase entry.1.plainText)).map fun group => (entry.1, knownInGroup group entry.2)

theorem mergeSection_knownInGroup (settings : Settings) (group : Group) (value : Value) :
    settings.mergeSection (group, knownInGroup group value) = settings.mergeSection (group, value) := by
  cases value with
  | mapping entries =>
      rw [knownInGroup, Value.changeEntries, mergeSection, mergeSection, groupLeaves, groupLeaves,
        List.filterMap_filterMap]
      congr 2
      funext entry
      cases named : Field.find? group (snakeCase entry.1.plainText) with
      | none => rfl
      | some field => simp [named]
  | _ => rfl

theorem isJson_knownPart (isJson : data.IsJson) : (knownPart data).IsJson := by
  apply Value.isJson_changeEntries isJson
  intro key inner changed innerIsJson named
  obtain ⟨group, -, rfl⟩ := Option.map_eq_some_iff.mp named
  refine ⟨⟨key, rfl⟩, Value.isJson_changeEntries innerIsJson ?_⟩
  intro key value changed valueIsJson named
  obtain ⟨field, -, rfl⟩ := Option.map_eq_some_iff.mp named
  exact ⟨⟨key, rfl⟩, valueIsJson⟩

/-- Entries that name no group, or no field of the group that they stand in, say nothing. -/
theorem ofValue_knownPart (isJson : data.IsJson) : ofValue (knownPart data) = ofValue data := by
  have known := isJson_knownPart isJson
  cases data with
  | mapping entries =>
      apply ofValue_congr isJson known _ mergeSection_knownInGroup
      rw [sections, sections, List.filterMap_filterMap, List.map_filterMap]
      congr 1
      funext entry
      cases named : Group.ofName? (snakeCase entry.1.plainText) with
      | none => rfl
      | some group => simp [named]
  | _ => rfl

/-! ## Spellings of keys -/

/-- A key in snake case. -/
def respelledKey : Value → Value
  | .text key => .text (snakeCase key)
  | key => key

/-- A mapping with its keys in snake case. -/
def respelledKeys : Value → Value :=
  Value.changeEntries fun entry => some (respelledKey entry.1, entry.2)

/-- Data with the keys of groups and of fields in snake case. -/
def respelled : Value → Value :=
  Value.changeEntries fun entry => some (respelledKey entry.1, respelledKeys entry.2)

theorem snakeCase_respelledKey (key : Value) :
    snakeCase (respelledKey key).plainText = snakeCase key.plainText := by
  cases key with
  | text key => exact snakeCase_snakeCase key
  | _ => rfl

theorem mergeSection_respelledKeys (settings : Settings) (group : Group) (value : Value) :
    settings.mergeSection (group, respelledKeys value) = settings.mergeSection (group, value) := by
  cases value with
  | mapping entries =>
      rw [respelledKeys, Value.changeEntries, mergeSection, mergeSection, groupLeaves, groupLeaves,
        List.filterMap_filterMap]
      simp only [Option.bind_some, snakeCase_respelledKey]
  | _ => rfl

theorem isJson_respelled (isJson : data.IsJson) : (respelled data).IsJson := by
  apply Value.isJson_changeEntries isJson
  rintro key inner _ innerIsJson ⟨⟩
  refine ⟨⟨snakeCase key, rfl⟩, Value.isJson_changeEntries innerIsJson ?_⟩
  rintro key value _ valueIsJson ⟨⟩
  exact ⟨⟨snakeCase key, rfl⟩, valueIsJson⟩

/-- How keys are spelled does not matter. -/
theorem ofValue_respelled (isJson : data.IsJson) : ofValue (respelled data) = ofValue data := by
  have respelledIsJson := isJson_respelled isJson
  cases data with
  | mapping entries =>
      apply ofValue_congr isJson respelledIsJson _ fun settings _ => mergeSection_respelledKeys settings _
      rw [sections, sections, List.filterMap_filterMap, List.map_filterMap]
      simp only [Option.bind_some, snakeCase_respelledKey, Option.map_map]
      rfl
  | _ => rfl

/-! ## Merging and single changes -/

/-- Data gives settings just if it is empty, or a mapping whose sections are mappings and whose leaves
can be set one after the other over the defaults, and it gives the settings that come out then.  Entries
that name nothing are passed over, and keys may be spelled in every way. -/
theorem merging_is_changing (isJson : data.IsJson) :
    (∀ settings, ofValue data = .ok settings ↔
      data.isEmpty = true ∧ settings = default ∨
        ∃ entries, data = .mapping entries ∧
          (∀ named ∈ sections entries, ∃ inner, named.2 = .mapping inner) ∧
          default.withValues (leaves entries) = .ok settings) ∧
      ofValue (knownPart data) = ofValue data ∧
      (∀ other, other.IsJson → respelled other = respelled data → ofValue other = ofValue data) ∧
      ∀ (settings : Settings) (key other : Text), snakeCase key = snakeCase other →
        (settings.get key).toOption = (settings.get other).toOption ∧
          ∀ value, (settings.withValue key value).toOption = (settings.withValue other value).toOption := by
  refine ⟨fun _ => ofValue_eq_ok_iff isJson, ofValue_knownPart isJson, ?_, ?_⟩
  · intro other otherIsJson same
    rw [← ofValue_respelled otherIsJson, same, ofValue_respelled isJson]
  · intro settings key other same
    exact ⟨toOption_get settings same, fun value => toOption_withValue settings value same⟩

theorem merging_is_changing_columns :
    let data : Value := .mapping [(.text "theme", .text "dark"),
      (.text "output", .mapping [(.text "maxColumns", .int 80), (.text "rows", .null)])]
    data.IsJson ∧ ofValue data = .ok (default.put .maxColumns (80 : Int)) ∧
      ofValue (knownPart data) = ofValue data := by
  intro data
  have isJson : data.IsJson := by
    refine .mapping (by simp) (List.forall_mem_cons.mpr ⟨.text _, List.forall_mem_singleton.mpr ?_⟩)
    exact .mapping (by simp) (List.forall_mem_cons.mpr ⟨.int 80, List.forall_mem_singleton.mpr .null⟩)
  obtain ⟨gives, known, -⟩ := merging_is_changing isJson
  refine ⟨isJson, (gives _).mpr (.inr ⟨_, rfl, ?_, rfl⟩), known⟩
  exact List.forall_mem_singleton.mpr ⟨_, rfl⟩

end Docweave.Settings
