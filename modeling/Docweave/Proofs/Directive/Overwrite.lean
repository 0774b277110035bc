import Docweave.Proofs.Directive.Effect

/-!
# Notes that are written twice

A note that is written over another of its kind leaves nothing of it, and notes of different kinds
do not get in each other's way once there is a first one of each.  So writing a list of notes a
second time changes nothing, whatever stands in the list twice.
-/

namespace Docweave

open Text

/-! ## Lists of writes -/

/-- Items are written to slots of a state: in the same slot the last one counts, and a slot that is
in use may be written before or after another. -/
structure Overwrites {α σ κ : Type} (write : α → σ → σ) (slot : α → κ) (InUse : κ → σ → Prop) :
    Prop where
  inUse : ∀ item state, InUse (slot item) (write item state)
  stays : ∀ item key state, InUse key state → InUse key (write item state)
  same : ∀ first second state, slot second = slot first →
    write second (write first state) = write second state
  apart : ∀ first second state, slot second ≠ slot first → InUse (slot first) state →
    write second (write first state) = write first (write second state)

namespace Overwrites

variable {α σ κ : Type} {write : α → σ → σ} {slot : α → κ} {InUse : κ → σ → Prop}
variable {item : α} {items : List α} {state : σ}

theorem inUse_foldl (overwrites : Overwrites write slot InUse) {key : κ} (used : InUse key state) :
    InUse key (items.foldl (fun state item => write item state) state) := by
  induction items generalizing state with
  | nil => exact used
  | cons item items ih => exact ih (overwrites.stays item key state used)

/-- An item in a slot that is written again leaves nothing. -/
theorem foldl_of_mem (overwrites : Overwrites write slot InUse)
    (again : slot item ∈ items.map slot) (used : InUse (slot item) state) :
    items.foldl (fun state item => write item state) (write item state) =
      items.foldl (fun state item => write item state) state := by
  induction items generalizing state with
  | nil => cases again
  | cons next items ih =>
      rw [List.foldl_cons, List.foldl_cons]
      by_cases sameSlot : slot next = slot item
      · rw [overwrites.same item next state sameSlot]
      · rw [List.map_cons, List.mem_cons] at again
        rw [overwrites.apart item next state sameSlot used]
        exact ih (again.resolve_left fun equal => sameSlot equal.symm)
          (overwrites.stays next _ state used)

/-- An item in a slot that is not written again may as well be written last. -/
theorem foldl_of_not_mem (overwrites : Overwrites write slot InUse)
    (once : slot item ∉ items.map slot) (used : InUse (slot item) state) :
    items.foldl (fun state item => write item state) (write item state) =
      write item (items.foldl (fun state item => write item state) state) := by
  induction items generalizing state with
  | nil => rfl
  | cons next items ih =>
      rw [List.map_cons, List.mem_cons, not_or] at once
      rw [List.foldl_cons, List.foldl_cons,
        overwrites.apart item next state (fun equal => once.1 equal.symm) used]
      exact ih once.2 (overwrites.stays next _ state used)

/-- Items that are written a second time change nothing. -/
theorem foldl_twice (overwrites : Overwrites write slot InUse) (items : List α) (state : σ) :
    items.foldl (fun state item => write item state)
        (items.foldl (fun state item => write item state) state) =
      items.foldl (fun state item => write item state) state := by
  induction items generalizing state with
  | nil => rfl
  | cons item items ih =>
      rw [List.foldl_cons, List.foldl_cons]
      have used := overwrites.inUse item state
      by_cases again : slot item ∈ items.map slot
      · rw [overwrites.foldl_of_mem again (overwrites.inUse_foldl used), ih]
      · rw [← overwrites.foldl_of_not_mem again used, overwrites.same item item state rfl, ih]

end Overwrites

/-! ## Entries of a list -/

namespace Value

variable {α : Type} {key other : Text} {value old : α} {entries : List (Text × α)}

theorem mem_keys_putEntry : key ∈ (putEntry (· == ·) key value entries).map Prod.fst := by
  induction entries with
  | nil => simp [putEntry]
  | cons entry entries ih =>
      rw [putEntry]
      split
      · rename_i same
        simp_all
      · exact List.mem_cons_of_mem _ ih

theorem putEntry_same :
    putEntry (· == ·) key value (putEntry (· == ·) key old entries) =
      putEntry (· == ·) key value entries := by
  induction entries with
  | nil => simp [putEntry]
  | cons entry entries ih =>
      obtain ⟨first, held⟩ := entry
      by_cases same : first = key
      · simp [putEntry, same]
      · simp [putEntry, same, ih]

/-- Entries under different keys may be put in either order, when one of the keys is there. -/
theorem putEntry_comm (different : other ≠ key) (present : key ∈ entries.map Prod.fst) :
    putEntry (· == ·) other value (putEntry (· == ·) key old entries) =
      putEntry (· == ·) key old (putEntry (· == ·) other value entries) := by
  induction entries with
  | nil => cases present
  | cons entry entries ih =>
      obtain ⟨first, held⟩ := entry
      by_cases atKey : first = key
      · subst atKey
        simp [putEntry, different.symm]
      · have later : key ∈ entries.map Prod.fst := by
          simpa [Ne.symm atKey] using present
        by_cases atOther : first = other
        · subst atOther
          simp [putEntry, atKey]
        · simp [putEntry, atKey, atOther, ih later]

end Value

/-! ## Notes about blocks -/

/-- What of a block a note is about. -/
inductive BlockNote.Slot where
  | alsoNamed (name : Text)
  | hasField (name : Text)
  | exportedAs

/-- What a note is about. -/
def BlockNote.slot : BlockNote → BlockNote.Slot
  | .alsoNamed name => .alsoNamed name
  | .hasField name _ => .hasField name
  | .exportedAs _ => .exportedAs

/-- A block has a note of the kind. Any exported name is written over, also the missing one. -/
def BlockNote.Slot.InUse : BlockNote.Slot → Entry → Prop
  | .alsoNamed name, entry => name ∈ entry.aliases
  | .hasField name, entry => name ∈ entry.fields.map Prod.fst
  | .exportedAs, _ => True

theorem BlockNote.overwrites :
    Overwrites BlockNote.writeTo BlockNote.slot BlockNote.Slot.InUse where
  inUse note entry := by
    cases note with
    | alsoNamed name =>
        by_cases present : name ∈ entry.aliases <;> simp [slot, Slot.InUse, writeTo, present]
    | hasField name value => exact Value.mem_keys_putEntry
    | exportedAs name => trivial
  stays note key entry used := by
    cases note with
    | alsoNamed name =>
        cases key with
        | alsoNamed other =>
            simp only [Slot.InUse, writeTo] at used ⊢
            split
            · exact used
            · exact List.mem_append_left _ used
        | hasField | exportedAs => exact used
    | hasField name value =>
        cases key with
        | hasField other => exact (Forest.Notes.keys_putEntry name value _).subset used
        | alsoNamed | exportedAs => exact used
    | exportedAs name => cases key <;> exact used
  same first second entry same := by
    cases first <;> cases second <;> cases same
    case alsoNamed name =>
      by_cases present : name ∈ entry.aliases <;> simp [writeTo, present]
    case hasField name old value => simp only [writeTo, Value.putEntry_same]
    case exportedAs => rfl
  apart first second entry different used := by
    cases first with
    | alsoNamed name =>
        -- An alias that is there is written without a change.
        have present : name ∈ entry.aliases := used
        cases second with
        | alsoNamed other =>
            by_cases presentOther : other ∈ entry.aliases <;>
              simp [writeTo, present, presentOther]
        | hasField | exportedAs => simp [writeTo, present]
    | hasField name old =>
        cases second with
        | hasField other value =>
            have otherName : other ≠ name := by
              rintro rfl
              exact different rfl
            simp only [writeTo, Value.putEntry_comm otherName used]
        | alsoNamed | exportedAs => rfl
    | exportedAs name =>
        cases second with
        | exportedAs other => exact absurd rfl different
        | alsoNamed | hasField => rfl

namespace Forest

variable {forest : Forest}

/-- What is noted about a block is what the notes on it say. -/
theorem entry_noteAll {id : BlockId} (has : forest.HasBlock id)
    (notes : List (BlockId × BlockNote)) :
    (forest.noteAll notes).entry id =
      ((notes.filter fun note => note.1 = id).map Prod.snd).foldl
        (fun entry note => note.writeTo entry) (forest.entry id) := by
  induction notes generalizing forest with
  | nil => rfl
  | cons note notes ih =>
      have hasThen : (forest.modifyEntry note.1 note.2.writeTo).HasBlock id :=
        hasBlock_modifyEntry.mpr has
      refine (ih hasThen).trans ?_
      by_cases same : note.1 = id
      · subst same
        rw [entry_modifyEntry_self has]
        simp
      · rw [entry_modifyEntry_of_ne (Ne.symm same)]
        simp [same]

/-- Forests with the same contents and the same entries are the same. -/
theorem eq_of_entry_eq {other : Forest} (size_eq : other.entries.size = forest.entries.size)
    (contents_eq : other.contents = forest.contents)
    (entry_eq : ∀ id, forest.HasBlock id → other.entry id = forest.entry id) : other = forest := by
  obtain ⟨entries, contents⟩ := forest
  obtain ⟨otherEntries, otherContents⟩ := other
  have entries_eq : otherEntries = entries := by
    apply Array.ext size_eq
    intro index early late
    have equal := entry_eq ⟨index⟩ late
    simpa [entry, Array.getElem?_eq_getElem early, Array.getElem?_eq_getElem late] using equal
  rw [entries_eq]
  exact congrArg _ contents_eq

/-- Notes that are written a second time change nothing. -/
theorem noteAll_twice (notes : List (BlockId × BlockNote)) (forest : Forest) :
    (forest.noteAll notes).noteAll notes = forest.noteAll notes := by
  have alike := alike_noteAll notes (forest.noteAll notes)
  apply eq_of_entry_eq alike.size_eq alike.contents_eq
  intro id hasThen
  have has : forest.HasBlock id := by
    rwa [HasBlock, (alike_noteAll notes forest).size_eq] at hasThen
  rw [entry_noteAll hasThen, entry_noteAll has]
  exact BlockNote.overwrites.foldl_twice _ _

end Forest

/-! ## Notes about files -/

/-- What of a file a note is about. -/
inductive FileNote.Slot where
  | exportedAs
  | remark (key : Text)

/-- What a note is about. -/
def FileNote.slot : FileNote → FileNote.Slot
  | .exportedAs _ => .exportedAs
  | .remark key _ => .remark key

/-- A file has a note of the kind. -/
def FileNote.Slot.InUse : FileNote.Slot → SourceFile → Prop
  | .exportedAs, _ => True
  | .remark key, file => key ∈ file.remarks.map Prod.fst

namespace FileNote

theorem overwrites : Overwrites writeTo slot Slot.InUse where
  inUse note file := by
    cases note with
    | exportedAs name => trivial
    | remark key value => exact Value.mem_keys_putEntry
  stays note key file used := by
    cases note with
    | exportedAs name => cases key <;> exact used
    | remark other value =>
        cases key with
        | exportedAs => trivial
        | remark key => exact (Forest.Notes.keys_putEntry other _ _).subset used
  same first second file same := by
    cases first <;> cases second <;> cases same
    case exportedAs => rfl
    case remark => simp only [writeTo, Value.putEntry_same]
  apart first second file different used := by
    cases first with
    | exportedAs name =>
        cases second with
        | exportedAs other => exact absurd rfl different
        | remark => rfl
    | remark key old =>
        cases second with
        | exportedAs => rfl
        | remark other value =>
            have otherKey : other ≠ key := by
              rintro rfl
              exact different rfl
            simp only [writeTo, Value.putEntry_comm otherKey used]

/-- All notes are about one file. -/
theorem writeAll_eq (notes : List FileNote) (file : FileId) (files : Array SourceFile) :
    writeAll notes file files =
      files.modify file.index fun source => notes.foldl (fun source note => note.writeTo source) source := by
  induction notes generalizing files with
  | nil =>
      apply Array.ext_getElem?
      simp [writeAll, Array.getElem?_modify]
  | cons note notes ih =>
      refine (ih (files.modify file.index note.writeTo)).trans ?_
      apply Array.ext_getElem?
      intro index
      simp only [Array.getElem?_modify, List.foldl_cons]
      split
      · rw [Option.map_map]
        rfl
      · rfl

/-- Notes that are written a second time change nothing. -/
theorem writeAll_twice (notes : List FileNote) (file : FileId) (files : Array SourceFile) :
    writeAll notes file (writeAll notes file files) = writeAll notes file files := by
  simp only [writeAll_eq]
  apply Array.ext_getElem?
  intro index
  simp only [Array.getElem?_modify]
  split
  · rw [Option.map_map]
    congr 1
    funext source
    exact overwrites.foldl_twice notes source
  · rfl

end FileNote

end Docweave
