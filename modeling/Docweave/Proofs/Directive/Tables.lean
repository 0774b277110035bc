import Mathlib.Data.List.Forall2
import Mathlib.Logic.Function.Iterate
import Docweave.Proofs.Project.Built

/-!
# Tables and passes

The tables of a file are made from its blocks when it is read and when a pass cuts blocks off at
its top.  Between, a pass may cut blocks off in the body of a class.  Then the tables list methods
that are no longer there.  In all else, and in everything as long as no pass stops in the body of
a class, the tables are those of the blocks.
-/

namespace Docweave

open Text

/-! ## Tables that trail -/

/-- The class as it is has at most lost the last of the methods that are listed for it. -/
structure DeclaredClass.Trails (current listed : DeclaredClass) : Prop where
  name_eq : current.name = listed.name
  superclass_eq : current.superclass = listed.superclass
  methods : current.methods <+: listed.methods

/-- The listed tables differ from the current ones at most in methods that are no longer there. -/
structure Tables.Trails (current listed : Tables) : Prop where
  classes : List.Forall₂ DeclaredClass.Trails current.classes listed.classes
  functions_eq : current.functions = listed.functions
  values_eq : current.values = listed.values
  imports_eq : current.imports = listed.imports
  exports_eq : current.exports = listed.exports
  main_eq : current.main = listed.main

namespace DeclaredClass.Trails

variable {first second third : DeclaredClass}

theorem refl (declared : DeclaredClass) : Trails declared declared :=
  ⟨rfl, rfl, List.prefix_refl _⟩

theorem trans (late : Trails first second) (early : Trails second third) : Trails first third :=
  ⟨late.name_eq.trans early.name_eq, late.superclass_eq.trans early.superclass_eq,
    late.methods.trans early.methods⟩

theorem trans_all {first second third : List DeclaredClass} (late : List.Forall₂ Trails first second)
    (early : List.Forall₂ Trails second third) : List.Forall₂ Trails first third := by
  induction late generalizing third with
  | nil => exact early
  | cons head _ ih =>
      cases early with
      | cons headEarly tailEarly => exact .cons (head.trans headEarly) (ih tailEarly)

end DeclaredClass.Trails

namespace Tables.Trails

variable {first second third : Tables}

theorem refl (tables : Tables) : Trails tables tables :=
  ⟨List.forall₂_same.mpr fun declared _ => .refl declared, rfl, rfl, rfl, rfl, rfl⟩

theorem trans (late : Trails first second) (early : Trails second third) : Trails first third where
  classes := DeclaredClass.Trails.trans_all late.classes early.classes
  functions_eq := late.functions_eq.trans early.functions_eq
  values_eq := late.values_eq.trans early.values_eq
  imports_eq := late.imports_eq.trans early.imports_eq
  exports_eq := late.exports_eq.trans early.exports_eq
  main_eq := late.main_eq.trans early.main_eq

theorem eq (trails : Trails first second) (classes_eq : first.classes = second.classes) :
    first = second := by
  cases first
  cases second
  obtain ⟨-, rfl, rfl, rfl, rfl, rfl⟩ := trails
  cases classes_eq
  rfl

end Tables.Trails

/-! ## Tables of a forest that has changed -/

namespace Forest

variable {before after : Forest} {content inner : ContentId} {id : BlockId}

/-- The content is the body of a class that stands in another content. -/
def ClassBody (forest : Forest) (content inner : ContentId) : Prop :=
  ∃ owner ∈ forest.members content, (forest.block owner).kind = .classDecl ∧
    (forest.entry owner).nested = some inner

/-- Classes are open from the start, so the bodies of classes are no others than before. -/
theorem ClassBody.known (body : after.ClassBody content inner) (keeps : Keeps before after)
    (sound : before.Sound) (has : before.HasContent content) : before.ClassBody content inner := by
  obtain ⟨owner, member, kind, nested⟩ := body
  have memberBefore := (keeps.members content has).subset member
  have hasOwner := sound.placed.hasBlock memberBefore
  rw [keeps.block_eq owner hasOwner] at kind
  obtain ⟨known, nestedBefore⟩ := Option.isSome_iff_exists.mp (sound.classes owner hasOwner kind)
  have same := (keeps.nested owner known nestedBefore).symm.trans nested
  cases same
  exact ⟨owner, memberBefore, kind, nestedBefore⟩

theorem declaredMethods_of_class (kind : (before.block id).kind = .classDecl)
    (nested : (before.entry id).nested = some inner) :
    before.declaredMethods id = ((before.members inner).filter fun method =>
      [BlockKind.methodDecl].contains (before.block method).kind).map fun method =>
        ((before.block method).member?, (before.block method).args) := by
  rw [declaredMethods, kind, nested]
  rfl

theorem declaredMethods_of_other (kind : (before.block id).kind ≠ .classDecl) :
    before.declaredMethods id = [] := by
  rw [declaredMethods]
  split
  · contradiction
  · rfl

/-- The methods of a class are read off the blocks that are left of its body. -/
theorem declaredMethods_of_keeps (keeps : Keeps before after) (sound : before.Sound)
    (kind : (before.block id).kind = .classDecl)
    (nested : (before.entry id).nested = some inner) :
    after.declaredMethods id = ((after.members inner).filter fun method =>
      [BlockKind.methodDecl].contains (before.block method).kind).map fun method =>
        ((before.block method).member?, (before.block method).args) := by
  have has := hasBlock_of_eq_some Entry.nested rfl nested
  have block_eq : ∀ method ∈ after.members inner, after.block method = before.block method := by
    intro method member
    apply keeps.block_eq
    apply sound.placed.hasBlock
    exact (keeps.members inner (sound.opened id inner nested).hasContent).subset member
  rw [declaredMethods_of_class (by rwa [keeps.block_eq id has]) (keeps.nested id inner nested),
    List.filter_congr fun method member => by rw [block_eq method member]]
  apply List.map_congr_left
  intro method listed
  rw [block_eq method (List.mem_of_mem_filter listed)]

theorem declaredMethods_isPrefix (keeps : Keeps before after) (sound : before.Sound)
    (has : before.HasBlock id) : after.declaredMethods id <+: before.declaredMethods id := by
  by_cases kind : (before.block id).kind = .classDecl
  · obtain ⟨inner, nested⟩ := Option.isSome_iff_exists.mp (sound.classes id has kind)
    have left := keeps.members inner (sound.opened id inner nested).hasContent
    rw [declaredMethods_of_keeps keeps sound kind nested, declaredMethods_of_class kind nested]
    exact (left.filter _).map _
  · rw [declaredMethods_of_other (by rwa [keeps.block_eq id has])]
    exact List.nil_prefix

theorem declaredMethods_eq (keeps : Keeps before after) (sound : before.Sound)
    (member : id ∈ before.members content)
    (bodies : ∀ inner, before.ClassBody content inner → after.members inner = before.members inner) :
    after.declaredMethods id = before.declaredMethods id := by
  have has := sound.placed.hasBlock member
  by_cases kind : (before.block id).kind = .classDecl
  · obtain ⟨inner, nested⟩ := Option.isSome_iff_exists.mp (sound.classes id has kind)
    rw [declaredMethods_of_keeps keeps sound kind nested, declaredMethods_of_class kind nested,
      bodies inner ⟨id, member, kind, nested⟩]
  · rw [declaredMethods_of_other kind,
      declaredMethods_of_other (by rwa [keeps.block_eq id has])]

end Forest

namespace Tables

open Forest

variable {before after : Forest} {content : ContentId}

theorem infos_eq (keeps : Keeps before after) (sound : before.Sound)
    (members : after.members content = before.members content) :
    (after.members content).map (fun id => (after.block id).info) =
      (before.members content).map (fun id => (before.block id).info) := by
  rw [members]
  apply List.map_congr_left
  intro id member
  rw [keeps.block_eq id (sound.placed.hasBlock member)]

/-- The class that a block declares. -/
def classOf? (forest : Forest) (id : BlockId) : Option DeclaredClass :=
  match (forest.block id).info with
  | .classBody info => some ⟨info.name, info.superclass, forest.declaredMethods id⟩
  | _ => none

theorem classes_ofContent (forest : Forest) (content : ContentId) :
    (ofContent forest content).classes = (forest.members content).filterMap (classOf? forest) := rfl

/-- A content that keeps its blocks keeps its tables, up to methods. -/
theorem trails_ofContent (keeps : Keeps before after) (sound : before.Sound)
    (members : after.members content = before.members content) :
    Trails (ofContent after content) (ofContent before content) := by
  have infos := infos_eq keeps sound members
  have same : List.Forall₂ (fun id other => id = other ∧ id ∈ before.members content)
      (before.members content) (before.members content) :=
    List.forall₂_same.mpr fun id member => ⟨rfl, member⟩
  constructor
  · rw [classes_ofContent, classes_ofContent, members]
    refine List.rel_filterMap ?_ same
    rintro id _ ⟨rfl, member⟩
    have has := sound.placed.hasBlock member
    rw [classOf?, classOf?, keeps.block_eq id has]
    split
    · exact .some ⟨rfl, rfl, declaredMethods_isPrefix keeps sound has⟩
    · exact .none
  · simp only [ofContent, infos]
  · simp only [ofContent, infos]
  · simp only [ofContent, infos]
  · simp only [ofContent, infos]
  · simp only [ofContent, infos]

/-- A content that keeps its blocks and those of its classes keeps its tables. -/
theorem ofContent_eq (keeps : Keeps before after) (sound : before.Sound)
    (members : after.members content = before.members content)
    (bodies : ∀ inner, before.ClassBody content inner → after.members inner = before.members inner) :
    ofContent after content = ofContent before content := by
  apply (trails_ofContent keeps sound members).eq
  rw [classes_ofContent, classes_ofContent, members]
  apply List.filterMap_congr
  intro id member
  rw [classOf?, classOf?, keeps.block_eq id (sound.placed.hasBlock member),
    declaredMethods_eq keeps sound member bodies]

end Tables

/-! ## Passes -/

namespace Project

variable {before after project : Project} {file : FileId} {stops : ContentId → Prop}

/-- The tables of a file are those of its blocks. -/
def Current (file : FileId) (project : Project) : Prop :=
  (project.file file).tables = Tables.ofContent project.forest (project.file file).content

/-- The tables of a file are those of its blocks, up to methods that are no longer there. -/
def Trailing (file : FileId) (project : Project) : Prop :=
  (Tables.ofContent project.forest (project.file file).content).Trails (project.file file).tables

theorem Current.trailing (current : Current file project) : Trailing file project := by
  rw [Trailing, current]
  exact .refl _

theorem tables_rebuildTables (has : project.HasFile file) :
    ((project.rebuildTables file).file file).tables =
      Tables.ofContent project.forest (project.file file).content := by
  rw [rebuildTables, file_modifyFile has, if_pos rfl]

theorem current_rebuildTables (has : project.HasFile file) :
    Current file (project.rebuildTables file) := by
  rw [Current, tables_rebuildTables has, (Keeps.rebuildTables file).content_eq]
  rfl

/-- A move makes the tables anew, or it leaves the tables and the blocks at the top alone. -/
theorem Move.current_or (move : Move file stops before after) (sound : before.Sound)
    (has : before.HasFile file) :
    Current file after ∨
      (after.file file).tables = (before.file file).tables ∧
      after.forest.members (before.file file).content =
        before.forest.members (before.file file).content := by
  cases move with
  | note notes => exact .inr ⟨notes.tables_eq file, notes.forest.members_eq _⟩
  | enter id => exact .inr ⟨rfl, Forest.members_openBody (sound.hasContent file has)⟩
  | cut length hasCut stop inside => exact .inr ⟨rfl, Forest.members_truncate_of_ne hasCut inside⟩
  | cutFile length hasCut stop top => exact .inl (current_rebuildTables has)

theorem Move.trailing (move : Move file stops before after) (sound : before.Sound)
    (has : before.HasFile file) (trailing : Trailing file before) : Trailing file after := by
  have keeps := move.keeps sound.forest.placed
  rcases move.current_or sound has with current | ⟨tables_eq, members_eq⟩
  · exact current.trailing
  · rw [Trailing, keeps.content_eq, tables_eq]
    exact (Tables.trails_ofContent keeps.forest sound.forest members_eq).trans trailing

/-- Tables stay current when no class loses a block of its body. -/
theorem Move.current (move : Move file stops before after) (sound : before.Sound)
    (has : before.HasFile file)
    (whole : ∀ inner, before.forest.ClassBody (before.file file).content inner → ¬ stops inner)
    (current : Current file before) : Current file after := by
  have keeps := move.keeps sound.forest.placed
  rcases move.current_or sound has with anew | ⟨tables_eq, members_eq⟩
  · exact anew
  · rw [Current, tables_eq, current, keeps.content_eq]
    symm
    apply Tables.ofContent_eq keeps.forest sound.forest members_eq
    intro inner body
    have uncut := whole inner body
    obtain ⟨owner, -, -, nested⟩ := body
    exact move.members_eq (sound.forest.opened owner inner nested).hasContent uncut

theorem Moves.trailing (moves : Moves file stops before after) (sound : before.Sound)
    (has : before.HasFile file) (trailing : Trailing file before) : Trailing file after := by
  induction moves with
  | refl => exact trailing
  | tail early move ih =>
      exact move.trailing (Moves.sound early sound)
        (((Moves.keeps early sound).hasFile file).mpr has) ih

theorem Moves.current (moves : Moves file stops before after) (sound : before.Sound)
    (has : before.HasFile file)
    (whole : ∀ inner, before.forest.ClassBody (before.file file).content inner → ¬ stops inner)
    (current : Current file before) : Current file after := by
  induction moves with
  | refl => exact current
  | tail early move ih =>
      have keeps := Moves.keeps early sound
      apply move.current (Moves.sound early sound) ((keeps.hasFile file).mpr has) _ ih
      intro inner body
      rw [keeps.content_eq] at body
      exact whole inner (body.known keeps.forest sound.forest (sound.hasContent file has))

/-- A pass over a file whose tables trail or are current. -/
theorem Sound.exists_runs_tables (sound : project.Sound) (has : project.HasFile file) :
    ∃ handings, Pass.Runs Handler.builtIn file { project } handings
        (Pass.runFile Handler.builtIn file { project }) ∧
      (project.runFile file).1.Sound ∧ (project.runFile file).1.HasFile file ∧
      (Trailing file project → Trailing file (project.runFile file).1) ∧
      ((∀ handing ∈ handings, handing.directive.verb = Pass.stopVerb →
          ∀ inner, project.forest.ClassBody (project.file file).content inner →
            handing.context.comment ∉ project.forest.members inner) →
        Current file project → Current file (project.runFile file).1) := by
  have start : ({ project } : Pass).project.Sound := sound
  obtain ⟨handings, runs⟩ := Pass.exists_runs Handler.allNoting_builtIn start has Bool.false_ne_true
  have moves := runs.moves Handler.allNoting_builtIn sound has
  refine ⟨handings, runs, moves.sound sound, ((moves.keeps sound).hasFile file).mpr has,
    moves.trailing sound has, fun outside => moves.current sound has ?_⟩
  rintro inner body ⟨handing, had, rfl, stops⟩
  apply outside handing had stops _ body
  obtain ⟨owner, -, -, nested⟩ := body
  exact runs.located Handler.allNoting_builtIn sound has handing had
    (.inr (sound.forest.opened owner _ nested).hasContent)

/-- A file is added to a project and passes over it follow.  Making its tables anew then changes
nothing but the methods of classes, and of these it only leaves the last ones out.  It changes
nothing at all if in none of the passes a directive `stop` had its turn in the body of a class at
the top of the file. -/
theorem tables_runFile_iterate {project : Project} (built : project.Built) (text : Text) (row : Int)
    (path name description : Option Text) (times : Nat) :
    let added := project.addFile text row path name description
    let passes (count : Nat) := (fun project => (runFile added.2 project).1)^[count] added.1
    let after := passes times
    Tables.Trails ((after.rebuildTables added.2).file added.2).tables (after.file added.2).tables ∧
      ((∀ count < times, ∀ handings done,
          Pass.Runs Handler.builtIn added.2 { project := passes count } handings done →
          ∀ handing ∈ handings, handing.directive.verb = Pass.stopVerb →
          ∀ inner, (passes count).forest.ClassBody ((passes count).file added.2).content inner →
            handing.context.comment ∉ (passes count).forest.members inner) →
        ((after.rebuildTables added.2).file added.2).tables = (after.file added.2).tables) := by
  intro added passes after
  have next : ∀ count, passes (count + 1) = (runFile added.2 (passes count)).1 :=
    fun count => Function.iterate_succ_apply' _ _ _
  have start : Current added.2 added.1 :=
    current_rebuildTables (hasFile_withFile.mpr (.inr rfl))
  have sound : ∀ count, (passes count).Sound ∧ (passes count).HasFile added.2 := by
    intro count
    induction count with
    | zero => exact ⟨built.sound.addFile text row, hasFile_addFile text row⟩
    | succ count ih =>
        obtain ⟨_, _, soundNext, hasNext, -⟩ := ih.1.exists_runs_tables ih.2
        rw [next]
        exact ⟨soundNext, hasNext⟩
  have trailing : ∀ count, Trailing added.2 (passes count) := by
    intro count
    induction count with
    | zero => exact start.trailing
    | succ count ih =>
        obtain ⟨_, _, _, _, trails, _⟩ := (sound count).1.exists_runs_tables (sound count).2
        rw [next]
        exact trails ih
  have anew := tables_rebuildTables (sound times).2
  refine ⟨by rw [anew]; exact trailing times, fun outside => ?_⟩
  have current : ∀ count ≤ times, Current added.2 (passes count) := by
    intro count
    induction count with
    | zero => exact fun _ => start
    | succ count ih =>
        intro within
        obtain ⟨handings, runs, _, _, _, stays⟩ :=
          (sound count).1.exists_runs_tables (sound count).2
        rw [next]
        exact stays (outside count within handings _ runs) (ih (Nat.le_of_succ_le within))
  rw [anew]
  exact (current times (Nat.le_refl _)).symm

/-- A file with a class, after two passes. -/
theorem tables_runFile_iterate_twice :
    let text : Text := "// @alias B\nclass A \x7b\n  foo() \x7b\x7d\n\x7d\n"
    let added := addFile text 1 none none none {}
    let after := (fun project => (runFile added.2 project).1)^[2] added.1
    Built {} ∧ Tables.Trails ((after.rebuildTables added.2).file added.2).tables
      (after.file added.2).tables :=
  ⟨.empty ['.'], (tables_runFile_iterate (.empty ['.']) _ 1 none none none 2).1⟩

/-- A comment that stops the pass in the body of a class cuts off methods which stay in the tables. -/
theorem tables_changed_by_rebuildTables :
    let text : Text := "/** @parse */\nclass A \x7b\n  /** @stop */\n  foo() \x7b\x7d\n  bar() \x7b\x7d\n\x7d\n"
    let added := addFile text 1 none none none {}
    let after := (runFile added.2 added.1).1
    (after.file added.2).tables.classes =
        [⟨"A", none, [(some "foo", []), (some "bar", [])]⟩] ∧
      ((after.rebuildTables added.2).file added.2).tables.classes = [⟨"A", none, []⟩] := by
  decide +kernel

end Project

end Docweave
