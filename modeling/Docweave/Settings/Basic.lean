import Docweave.Settings.Field
import Docweave.Value.Numeral

/-!
# Settings

Settings give every field a value of its shape. They are read from plain data, merged over the defaults,
or changed one field at a time; both ways go through the same coercion, which turns a plain value into one
of the shape or says why it cannot. Keys may be written in snake case or camel case.
-/

namespace Docweave

open Text

/-- A value for every field. -/
structure Settings where
  value : (field : Field) → field.shape.Carrier

/-- Why settings cannot be read or changed. -/
inductive SettingsError where
  | notAList (key : Text) (value : Value)
  | notAFlag (key : Text) (value : Value)
  | notANumber (key : Text) (value : Value)
  | notAMapping (key : Text) (value : Value)
  | unknownKey (key : Text)
  | numberTooLong
  | endless
  deriving Repr, Inhabited

namespace SettingsError

/-- What is said about an error. -/
def message : SettingsError → Text
  | .notAList key value => "Expected a list for " ++ key ++ ", got " ++ value.literal
  | .notAFlag key value => "Expected true or false for " ++ key ++ ", got " ++ value.literal
  | .notANumber key value => "Expected an integer for " ++ key ++ ", got " ++ value.literal
  | .notAMapping key value =>
    "Expected a mapping for " ++ (if key.isEmpty then "settings".toList else key) ++ ", got " ++ value.literal
  | .unknownKey key => key
  | .numberTooLong => NumeralError.limitText []
  | .endless => "A value stands inside of itself."

/-- An error that shows a value, unless the value cannot be written. -/
def showing (error : Value → SettingsError) (value : Value) : SettingsError :=
  if value.isTooLong then .numberTooLong else error value

end SettingsError

namespace Settings

/-- Write capital letters as an underscore and a small letter. -/
def snakeCase (key : Text) : Text :=
  (key.map fun char => if char.isUpper then ['_', char.toLower] else [char]).flatten

/-- The values that hold when nothing else is said. -/
def initial : (field : Field) → field.shape.Carrier
  | .fileHeaders => true
  | .fileTitle => true
  | .fileTitleMaxRows => (1 : Int)
  | .fileDescription => true
  | .fileDescriptionMaxRows => (2 : Int)
  | .sectionTitleMaxRows => (1 : Int)
  | .generateIndex => true
  | .generateAliasEntries => true
  | .minColumns => (60 : Int)
  | .maxColumns => (120 : Int)
  | .sectionUnderlines => [.text "**", .text "==", .text "=", .text "~", .text "-"]
  | .outputPath => "docs".toList
  | .baseCodePath => "code".toList
  | .projectName => ([] : Text)
  | .author => ([] : Text)
  | .version => ([] : Text)
  | .main => ([] : Text)
  | .recursive => true
  | .includeOnly => [.text "\\.m?js$"]
  | .excludeFiles => ([] : List Value)
  | .includePaths => ([] : List Value)
  | .excludePaths => [.text "(^|/)node_modules$", .text "(^|/)\\.[^/.]"]

/-- The settings that hold when nothing else is said. -/
def default : Settings := ⟨initial⟩

instance : Inhabited Settings := ⟨default⟩

/-- The plain form of a value of a shape. -/
def plain : (shape : Shape) → shape.Carrier → Value
  | .flag, value => .bool value
  | .number, value => .int value
  | .text, value => .text value
  | .list, value => .list value

/-- Turn a plain value into one of a shape. A single text stands for a list of one, and any value has a
text. -/
def coerce (key : Text) : (shape : Shape) → Value → Except SettingsError shape.Carrier
  | .flag, .bool value => .ok value
  | .flag, value => .error (.showing (.notAFlag key) value)
  | .number, .int value => .ok value
  | .number, value => .error (.showing (.notANumber key) value)
  | .text, .null => .ok ([] : Text)
  | .text, value => if value.isTooLong then .error .numberTooLong else .ok value.plainText
  | .list, .text value => .ok [.text value]
  | .list, .list items => .ok items
  | .list, .pair first second => .ok [first, second]
  | .list, value =>
    match value.opened with
    | .list items => .ok items
    | _ => .error (.showing (.notAList key) value)

/-- Give a field a value. -/
def put (settings : Settings) (field : Field) (value : field.shape.Carrier) : Settings :=
  ⟨fun other => if same : field = other then same ▸ value else settings.value other⟩

/-- Give a field a plain value, under the key that a complaint would name. -/
def putPlain (settings : Settings) (field : Field) (key : Text) (value : Value) :
    Except SettingsError Settings :=
  (coerce key field.shape value).map (settings.put field)

/-- Merge the entries of a group. Entries that name no field are passed over. -/
def mergeGroup (group : Group) (settings : Settings) :
    List (Value × Value) → Except SettingsError Settings
  | [] => .ok settings
  | (key, value) :: entries =>
    if key.isTooLong then .error .numberTooLong else
    match Field.find? group (snakeCase key.plainText) with
    | none => mergeGroup group settings entries
    | some field =>
      match settings.putPlain field (group.name ++ '.' :: field.name) value with
      | .ok merged => mergeGroup group merged entries
      | .error error => .error error

/-- Merge entries that name groups. Entries that name none are passed over. -/
def mergeEntries (settings : Settings) : List (Value × Value) → Except SettingsError Settings
  | [] => .ok settings
  | (key, value) :: entries =>
    if key.isTooLong then .error .numberTooLong else
    match Group.ofName? (snakeCase key.plainText) with
    | none => mergeEntries settings entries
    | some group =>
      match value.opened with
      | .mapping inner =>
        match mergeGroup group settings inner with
        | .ok merged => mergeEntries merged entries
        | .error error => .error error
      | _ => .error (.showing (.notAMapping group.name) value)

/-- Settings that are read from plain data, merged over the defaults. Empty data of any kind says
nothing. -/
def ofValue (data : Value) : Except SettingsError Settings :=
  if data.isEmpty then .ok default
  else
    match data.opened with
    | .mapping entries => mergeEntries default entries
    | _ => .error (.showing (.notAMapping []) data)

/-- The plain form of a field. -/
def getField (settings : Settings) (field : Field) : Value := plain field.shape (settings.value field)

/-- The plain form of a group. -/
def groupValue (settings : Settings) (group : Group) : Value :=
  .mapping ((Field.ofGroup group).map fun field => (.text field.name, (settings.getField field).copied false))

/-- The plain form of all settings. -/
def toValue (settings : Settings) : Value :=
  .mapping (Group.all.map fun group => (.text group.name, settings.groupValue group))

/-- The plain form of settings, if it comes to an end. -/
def ended (value : Value) : Except SettingsError Value := if value.isEndless then .error .endless else .ok value

/-- The parts of a dotted key. -/
def keyParts (key : Text) : List Text :=
  if key.isEmpty then [] else (splitChar '.' key).map snakeCase

/-- The field that a dotted key names. -/
def fieldOf? (key : Text) : Option Field :=
  match keyParts key with
  | [group, name] => (Group.ofName? group).bind fun group => Field.find? group name
  | _ => none

/-- The plain form of what a dotted key names: everything, a group or a field. -/
def get (settings : Settings) (key : Text) : Except SettingsError Value :=
  match keyParts key with
  | [] => ended settings.toValue
  | [name] =>
    match Group.ofName? name with
    | some group => ended (settings.groupValue group)
    | none => .error (.unknownKey key)
  | _ =>
    match fieldOf? key with
    | some field => .ok (settings.getField field)
    | none => .error (.unknownKey key)

/-- Give the field that a dotted key names a plain value. -/
def withValue (settings : Settings) (key : Text) (value : Value) : Except SettingsError Settings :=
  match fieldOf? key with
  | some field => settings.putPlain field key value
  | none => .error (.unknownKey key)

/-- Whether two settings agree on every field. -/
def same (left right : Settings) : Bool :=
  Field.all.all fun field => (left.getField field).copied true == (right.getField field).copied true

end Settings

end Docweave
