import Mathlib.Logic.Relation
import Docweave.Proofs.Forest.Kept
import Docweave.Proofs.Directive.Noted

/-!
# Moves of a pass

Whatever a pass over directives does to a project comes down to three moves: it notes something,
it opens a body, or it cuts off the last blocks of a content, and then makes the tables of the
file anew if the content is that of the file.  What each move keeps, the whole pass keeps.
-/

namespace Docweave.Project

open Text

/-- What holds of a project whatever was done to it: its forest is sound, and the contents of its
files are contents of the forest, but not bodies in it. -/
structure Sound (project : Project) : Prop where
  forest : project.forest.Sound
  hasContent : ∀ id, project.HasFile id → project.forest.HasContent (project.file id).content
  unowned : ∀ id, project.HasFile id → project.forest.Unowned (project.file id).content

/-- What a pass keeps of a project, its tables apart. -/
structure Keeps (before after : Project) : Prop where
  forest : Forest.Keeps before.forest after.forest
  hasFile : ∀ id, after.HasFile id ↔ before.HasFile id
  content_eq : ∀ id, (after.file id).content = (before.file id).content

namespace Keeps

variable {first second third project : Project}

theorem refl (project : Project) : Keeps project project :=
  ⟨.refl project.forest, fun _ => Iff.rfl, fun _ => rfl⟩

theorem trans (early : Keeps first second) (late : Keeps second third) : Keeps first third where
  forest := early.forest.trans late.forest
  hasFile id := (late.hasFile id).trans (early.hasFile id)
  content_eq id := (late.content_eq id).trans (early.content_eq id)

theorem notes (notes : Notes first second) : Keeps first second :=
  ⟨.notes notes.forest, notes.hasFile, notes.content_eq⟩

theorem modifyForest {change : Forest → Forest}
    (kept : Forest.Keeps project.forest (change project.forest)) :
    Keeps project (project.modifyForest change) :=
  ⟨kept, fun _ => Iff.rfl, fun _ => rfl⟩

theorem rebuildTables (id : FileId) : Keeps project (project.rebuildTables id) where
  forest := .refl project.forest
  hasFile _ := hasFile_modifyFile
  content_eq _ := view_modifyFile SourceFile.content fun _ => rfl

/-- Soundness of a project follows from that of its forest. -/
theorem sound (keeps : Keeps first second) (sound : first.Sound) (forest : second.forest.Sound) :
    second.Sound where
  forest := forest
  hasContent id has := by
    rw [keeps.content_eq]
    exact keeps.forest.hasContent _ (sound.hasContent id ((keeps.hasFile id).mp has))
  unowned id has := by
    have hasFirst := (keeps.hasFile id).mp has
    rw [keeps.content_eq]
    exact keeps.forest.unowned (sound.hasContent id hasFirst) (sound.unowned id hasFirst)

end Keeps

/-- A move of a pass over a file, where `stops` holds of the contents that may be cut. -/
inductive Move (file : FileId) (stops : ContentId → Prop) : Project → Project → Prop
  | note {before after} (notes : Notes before after) : Move file stops before after
  | enter {project} (id : BlockId) : Move file stops project (project.modifyForest (Forest.openBody id))
  | cut {project content} (length : Int) (has : project.forest.HasContent content)
      (stop : stops content) (inside : (project.file file).content ≠ content) :
      Move file stops project (project.modifyForest (Forest.truncate content length))
  | cutFile {project content} (length : Int) (has : project.forest.HasContent content)
      (stop : stops content) (top : (project.file file).content = content) :
      Move file stops project
        ((project.modifyForest (Forest.truncate content length)).rebuildTables file)

/-- Moves, one after the other. -/
abbrev Moves (file : FileId) (stops : ContentId → Prop) : Project → Project → Prop :=
  Relation.ReflTransGen (Move file stops)

section Move

variable {before after : Project} {file : FileId} {stops : ContentId → Prop}

theorem Move.mono {others : ContentId → Prop} (implied : ∀ content, stops content → others content)
    (move : Move file stops before after) : Move file others before after := by
  cases move with
  | note notes => exact .note notes
  | enter id => exact .enter id
  | cut length has stop inside => exact .cut length has (implied _ stop) inside
  | cutFile length has stop top => exact .cutFile length has (implied _ stop) top

theorem Move.keeps (move : Move file stops before after) (placed : before.forest.Placed) :
    Keeps before after := by
  cases move with
  | note notes => exact .notes notes
  | enter id => exact .modifyForest (.openBody placed id)
  | cut length has stop inside => exact .modifyForest (.truncate has length)
  | cutFile length has stop top =>
      exact (Keeps.modifyForest (.truncate has length)).trans (.rebuildTables file)

theorem Move.sound (move : Move file stops before after) (sound : before.Sound) : after.Sound := by
  apply (move.keeps sound.forest.placed).sound sound
  cases move with
  | note notes => exact sound.forest.notes notes.forest
  | enter id => exact sound.forest.openBody id
  | cut length has stop inside => exact sound.forest.truncate has length
  | cutFile length has stop top => exact sound.forest.truncate has length

/-- What was cut has been stopped: a content that may not be cut keeps all of its blocks. -/
theorem Move.members_eq (move : Move file stops before after) {content : ContentId}
    (has : before.forest.HasContent content) (going : ¬ stops content) :
    after.forest.members content = before.forest.members content := by
  cases move with
  | note notes => exact notes.forest.members_eq content
  | enter id => exact Forest.members_openBody has
  | cut length hasCut stop inside | cutFile length hasCut stop top =>
      apply Forest.members_truncate_of_ne hasCut
      rintro rfl
      exact going stop

theorem Moves.mono {others : ContentId → Prop} (implied : ∀ content, stops content → others content)
    (moves : Moves file stops before after) : Moves file others before after :=
  Relation.ReflTransGen.mono (fun _ _ move => Move.mono implied move) _ _ moves

theorem Moves.sound (moves : Moves file stops before after) (sound : before.Sound) :
    after.Sound := by
  induction moves with
  | refl => exact sound
  | tail _ move ih => exact move.sound ih

theorem Moves.keeps (moves : Moves file stops before after) (sound : before.Sound) :
    Keeps before after := by
  induction moves with
  | refl => exact .refl before
  | tail early move ih => exact ih.trans (move.keeps (Moves.sound early sound).forest.placed)

theorem Moves.members_eq (moves : Moves file stops before after) (sound : before.Sound)
    {content : ContentId} (has : before.forest.HasContent content) (going : ¬ stops content) :
    after.forest.members content = before.forest.members content := by
  induction moves with
  | refl => rfl
  | tail early move ih =>
      rw [move.members_eq ((Moves.keeps early sound).forest.hasContent content has) going]
      exact ih

end Move

end Docweave.Project
