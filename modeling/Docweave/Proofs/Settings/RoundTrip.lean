import Docweave.Proofs.Files.Places
import Docweave.Proofs.Settings.Merge
import Docweave.Proofs.Yaml.Written
import Docweave.Settings.File

/-!
# Settings and their plain form

Settings that come about by reading plain data and by single changes hold nothing but plain data of
JSON kind, whatever was turned into it.  Their plain form names every field once, with a value that the
field takes back as it is, so reading it gives the same settings.  A single change is exact: it is seen
under every key of its field and under no other.
-/

namespace Docweave.Settings

variable {settings changed merged : Settings} {field : Field} {shape : Shape} {key : Text} {value : Value}

/-! ## Settings that come about -/

/-- Settings that come from the defaults by reading plain data and by giving keys plain values. -/
inductive Reachable : Settings → Prop where
  | default : Reachable default
  | read {data : Value} {settings : Settings} (isJson : data.IsJson) (reads : ofValue data = .ok settings) :
      Reachable settings
  | change {settings changed : Settings} {key : Text} {value : Value} (reachable : Reachable settings)
      (isJson : value.IsJson) (changes : settings.withValue key value = .ok changed) : Reachable changed

/-- Settings whose fields have plain forms of JSON kind. -/
def HoldsJson (settings : Settings) : Prop := ∀ field, (settings.getField field).IsJson

theorem isJson_of_coerce {carried : shape.Carrier} (isJson : value.IsJson)
    (accepted : coerce key shape value = .ok carried) : (plain shape carried).IsJson := by
  cases shape with
  | flag => exact .bool carried
  | number => exact .int carried
  | text => exact .text carried
  | list =>
      cases isJson with
      | text text =>
          cases accepted
          exact .list (List.forall_mem_singleton.mpr (.text text))
      | list each =>
          cases accepted
          exact .list each
      | _ => simp [coerce, Value.opened] at accepted

theorem holdsJson_default : default.HoldsJson := by
  intro field
  cases field with
  | sectionUnderlines | includeOnly | excludeFiles | includePaths | excludePaths =>
      apply Value.IsJson.list
      simp [default, initial, Value.IsJson.text]
  | _ => constructor

theorem HoldsJson.withValue (holds : settings.HoldsJson) (isJson : value.IsJson)
    (changes : settings.withValue key value = .ok changed) : changed.HoldsJson := by
  obtain ⟨field, named⟩ := exists_fieldOf?_of_withValue changes
  obtain ⟨carried, accepted, rfl⟩ := (withValue_eq_ok named).mp changes
  intro other
  by_cases same : other = field
  · subst same
    rw [getField_put_self]
    exact isJson_of_coerce isJson accepted
  · rw [getField_put_of_ne same]
    exact holds other

theorem HoldsJson.withValues {changes : List (Text × Value)} (holds : settings.HoldsJson)
    (isJson : ∀ change ∈ changes, change.2.IsJson) (changes_eq : settings.withValues changes = .ok changed) :
    changed.HoldsJson := by
  induction changes generalizing settings with
  | nil =>
      cases changes_eq
      exact holds
  | cons change changes ih =>
      obtain ⟨first, others⟩ := List.forall_mem_cons.mp isJson
      rw [withValues, List.foldlM_cons] at changes_eq
      obtain ⟨next, changes, rest⟩ := of_bind_eq_ok changes_eq
      exact ih (holds.withValue first changes) others rest

theorem isJson_of_mem_leaves {entries : List (Value × Value)} (isJson : (Value.mapping entries).IsJson) :
    ∀ leaf ∈ leaves entries, leaf.2.IsJson := by
  intro leaf membership
  obtain ⟨⟨group, value⟩, isSection, inSection⟩ := List.mem_flatMap.mp membership
  obtain ⟨entry, entryMember, named⟩ := List.mem_filterMap.mp isSection
  obtain ⟨_, -, same⟩ := Option.map_eq_some_iff.mp named
  cases same
  cases isJson with
  | mapping _ values =>
      cases value : entry.2 with
      | mapping inner =>
          have innerIsJson := values entry entryMember
          rw [value] at inSection innerIsJson
          obtain ⟨old, oldMember, named⟩ := List.mem_filterMap.mp inSection
          obtain ⟨_, -, rfl⟩ := Option.map_eq_some_iff.mp named
          cases innerIsJson with
          | mapping _ inside => exact inside old oldMember
      | _ =>
          rw [value] at inSection
          cases inSection

theorem Reachable.holdsJson (reachable : settings.Reachable) : settings.HoldsJson := by
  induction reachable with
  | default => exact holdsJson_default
  | read isJson reads =>
      rcases (ofValue_eq_ok_iff isJson).mp reads with ⟨-, rfl⟩ | ⟨entries, rfl, -, changes⟩
      · exact holdsJson_default
      · exact holdsJson_default.withValues (isJson_of_mem_leaves isJson) changes
  | change _ isJson changes ih => exact ih.withValue isJson changes

/-! ## The plain form -/

theorem withValues_fields (settings changed : Settings) (fields : List Field) :
    changed.withValues (fields.map fun field => (field.key, settings.getField field)) =
      .ok (fields.foldl (fun changed field => changed.put field (settings.value field)) changed) := by
  induction fields generalizing changed with
  | nil => rfl
  | cons field fields ih =>
      rw [List.map_cons, withValues_cons_key, putPlain, getField, coerce_plain]
      exact ih _

theorem value_foldl_put (settings changed : Settings) (fields : List Field) (field : Field) :
    (fields.foldl (fun changed field => changed.put field (settings.value field)) changed).value field =
      if field ∈ fields then settings.value field else changed.value field := by
  induction fields generalizing changed with
  | nil => rfl
  | cons first fields ih =>
      rw [List.foldl_cons, ih, value_put]
      by_cases later : field ∈ fields
      · simp [later]
      · by_cases here : field = first
        · subst here
          simp [later]
        · simp [later, here]

/-- The entries of a group in plain form. -/
theorem groupValue_eq (holds : settings.HoldsJson) (group : Group) :
    settings.groupValue group =
      .mapping ((Field.ofGroup group).map fun field => (.text field.name, settings.getField field)) := by
  rw [groupValue]
  congr 2
  funext field
  rw [Value.copied_of_isJson (holds field)]

theorem isJson_groupValue (holds : settings.HoldsJson) (group : Group) : (settings.groupValue group).IsJson := by
  rw [groupValue_eq holds]
  apply Value.IsJson.mapping
  · intro entry membership
    obtain ⟨field, -, rfl⟩ := List.mem_map.mp membership
    exact ⟨_, rfl⟩
  · intro entry membership
    obtain ⟨field, -, rfl⟩ := List.mem_map.mp membership
    exact holds field

theorem isJson_toValue (holds : settings.HoldsJson) : settings.toValue.IsJson := by
  apply Value.IsJson.mapping
  · intro entry membership
    obtain ⟨group, -, rfl⟩ := List.mem_map.mp membership
    exact ⟨_, rfl⟩
  · intro entry membership
    obtain ⟨group, -, rfl⟩ := List.mem_map.mp membership
    exact isJson_groupValue holds group

/-- The leaves of the plain form are the fields in order. -/
theorem leaves_toValue (holds : settings.HoldsJson) :
    leaves (Group.all.map fun group => (.text group.name, settings.groupValue group)) =
      Field.all.map fun field => (field.key, settings.getField field) := by
  have ofGroups : Group.all.flatMap Field.ofGroup = Field.all := by decide
  have sections_eq : sections (Group.all.map fun group => (.text group.name, settings.groupValue group)) =
      Group.all.map fun group => (group, settings.groupValue group) := by
    rw [sections, List.filterMap_map, ← List.filterMap_eq_map]
    congr 1
    funext group
    simp only [Function.comp_apply, Value.plainText, Group.snakeCase_name,
      Group.ofName?_eq_some.mpr rfl, Option.map_some]
  have section_eq : ∀ group, sectionLeaves (group, settings.groupValue group) =
      (Field.ofGroup group).map fun field => (field.key, settings.getField field) := by
    intro group
    rw [groupValue_eq holds, sectionLeaves, groupLeaves, List.filterMap_map, ← List.filterMap_eq_map]
    apply List.filterMap_congr
    intro field membership
    have found := Field.find?_eq_some.mpr ⟨Field.mem_ofGroup.mp membership, rfl⟩
    simp only [Function.comp_apply, Value.plainText, Field.snakeCase_name, found, Option.map_some]
  rw [leaves, sections_eq, List.flatMap_map, ← ofGroups, List.map_flatMap]
  simp only [section_eq]

theorem ofValue_toValue (holds : settings.HoldsJson) : ofValue settings.toValue = .ok settings := by
  rw [ofValue_eq_ok_iff (isJson_toValue holds)]
  refine .inr ⟨_, rfl, ?_, ?_⟩
  · intro named membership
    obtain ⟨entry, entryMember, named_eq⟩ := List.mem_filterMap.mp membership
    obtain ⟨group, -, rfl⟩ := List.mem_map.mp entryMember
    obtain ⟨_, -, rfl⟩ := Option.map_eq_some_iff.mp named_eq
    exact ⟨_, rfl⟩
  · rw [leaves_toValue holds, withValues_fields]
    congr 1
    apply eq_of_value_eq
    funext field
    rw [value_foldl_put, if_pos (Field.mem_all field)]

/-! ## Files -/

/-- An error that is reported in another way is an error. -/
theorem of_mapError_eq_ok {ε ε' α : Type} {done : Except ε α} {report : ε → ε'} {value : α}
    (succeeds : done.mapError report = .ok value) : done = .ok value := by
  cases done with
  | error error => cases succeeds
  | ok result =>
      cases succeeds
      rfl

theorem load_eq {files : Files.Tree} {path text : Text} (found : files.read path = .ok (Utf8.encode text))
    (printable : Yaml.Printable text) : load files path = ofYaml path text := by
  obtain ⟨-, resolved, isFile⟩ := Files.Tree.read_eq_ok.mp found
  have isThere : files.find? path = some (.file (Utf8.encode text)) := by
    rw [Files.Tree.find?, resolved]
    exact isFile
  rw [load, isThere, found]
  simp only [Option.isNone_some, Bool.false_eq_true, if_false, Except.mapError, Yaml.decode_encode printable,
    Yaml.unifyBreaks_of_printable printable, bind, Except.bind, pure]

theorem load_of_save {files saved : Files.Tree} {path : Text} (holds : settings.HoldsJson)
    (saves : settings.save path files = .ok saved)
    (reads : Yaml.read settings.toYaml = .ok settings.toValue) : load saved path = .ok settings := by
  have printable := Yaml.printable_write (isJson_toValue holds)
  have found : saved.read path = .ok (Utf8.encode settings.toYaml) := by
    obtain ⟨made, -, saves⟩ := of_bind_eq_ok saves
    obtain ⟨value, -, saves⟩ := of_bind_eq_ok saves
    split at saves
    · cases saves
    · exact (Files.Tree.of_write (of_mapError_eq_ok saves)).2
  rw [load_eq found printable, ofYaml, reads]
  simp only [ofValue_toValue holds]
  rfl

/-! ## Single changes -/

theorem withValue_getField (named : fieldOf? key = some field) :
    settings.withValue key (settings.getField field) = .ok settings := by
  rw [withValue_eq named, getField, coerce_plain]
  exact congrArg Except.ok (put_self settings field)

theorem withValue_comm {other : Text} {otherField : Field} {next : Value} {result : Settings}
    (named : fieldOf? key = some field) (otherNamed : fieldOf? other = some otherField)
    (different : field ≠ otherField)
    (changes : (settings.withValue key value >>= fun changed => changed.withValue other next) = .ok result) :
    (settings.withValue other next >>= fun changed => changed.withValue key value) = .ok result := by
  obtain ⟨middle, first, second⟩ := of_bind_eq_ok changes
  obtain ⟨carried, accepted, rfl⟩ := (withValue_eq_ok named).mp first
  obtain ⟨otherCarried, otherAccepted, rfl⟩ := (withValue_eq_ok otherNamed).mp second
  have otherFirst : settings.withValue other next = .ok (settings.put otherField otherCarried) :=
    (withValue_eq_ok otherNamed).mpr ⟨otherCarried, otherAccepted, rfl⟩
  rw [otherFirst, put_comm different]
  exact (withValue_eq_ok named).mpr ⟨carried, accepted, rfl⟩

/-! ## Both together -/

/-- Settings that come about from plain data are read back from their plain form, and from the file that
they are saved in if what is written as YAML is read as it was.  A key that names a field gives back what
the field took, no other field changes with it, the field takes back what the key gives, and it does not
matter which of two fields changes first. -/
theorem kept_of_reachable (reachable : settings.Reachable) :
    ofValue settings.toValue = .ok settings ∧
      (∀ path files saved, settings.save path files = .ok saved →
        Yaml.read settings.toYaml = .ok settings.toValue → load saved path = .ok settings) ∧
      ∀ key field, fieldOf? key = some field →
        (∀ value changed, settings.withValue key value = .ok changed →
          (∃ carried, coerce key field.shape value = .ok carried ∧
            changed.get key = .ok (plain field.shape carried)) ∧
          ∀ other otherField, fieldOf? other = some otherField → otherField ≠ field →
            changed.get other = settings.get other) ∧
        (∃ current, settings.get key = .ok current ∧ settings.withValue key current = .ok settings) ∧
        ∀ other otherField, fieldOf? other = some otherField → otherField ≠ field →
          ∀ value next result,
            (settings.withValue key value >>= fun changed => changed.withValue other next) = .ok result ↔
              (settings.withValue other next >>= fun changed => changed.withValue key value) = .ok result := by
  refine ⟨ofValue_toValue reachable.holdsJson, ?_, ?_⟩
  · intro path files saved
    exact load_of_save reachable.holdsJson
  · intro key field named
    refine ⟨?_, ⟨_, get_eq named, withValue_getField named⟩, ?_⟩
    · intro value changed changes
      obtain ⟨carried, accepted, rfl⟩ := (withValue_eq_ok named).mp changes
      refine ⟨⟨carried, accepted, ?_⟩, ?_⟩
      · rw [get_eq named, getField_put_self]
      · intro other otherField otherNamed different
        rw [get_eq otherNamed, get_eq otherNamed, getField_put_of_ne different]
    · intro other otherField otherNamed different value next result
      constructor
      · exact withValue_comm named otherNamed different.symm
      · exact withValue_comm otherNamed named different

theorem kept_of_reachable_underlined :
    let settings := default.put .sectionUnderlines [.text ['=']]
    settings.Reachable ∧
      ∃ saved, settings.save "settings.yaml" .empty = .ok saved ∧
        load saved "settings.yaml" = .ok settings := by
  intro settings
  have changes : default.withValue "output.sectionUnderlines" (.text ['=']) = .ok settings := rfl
  have reachable : settings.Reachable := .change .default (.text ['=']) changes
  have written : (match Yaml.read settings.toYaml with
      | .ok value => value.same settings.toValue
      | .error _ => false) = true := by
    decide +kernel
  have reads : Yaml.read settings.toYaml = .ok settings.toValue := by
    cases found : Yaml.read settings.toYaml with
    | error error =>
        rw [found] at written
        cases written
    | ok value =>
        rw [found] at written
        rw [Value.eq_of_same (isJson_toValue reachable.holdsJson) value written]
  have saves : (settings.save "settings.yaml" .empty).isOk = true := by
    decide +kernel
  cases saved : settings.save "settings.yaml" .empty with
  | error error =>
      rw [saved] at saves
      cases saves
  | ok files => exact ⟨reachable, files, rfl, (kept_of_reachable reachable).2.1 _ _ _ saved reads⟩

end Docweave.Settings
