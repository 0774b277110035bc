import Docweave.Proofs.Directive.Walk

/-!
# Effects of directives

What a directive does depends on the blocks, on their places and on the bodies that are open, but
not on what directives have noted before.  So a handler has one and the same effect on passes that
agree in this: it writes the same notes, reports the same issues, and halts both or none.
-/

namespace Docweave

open Text

/-! ## Forests that differ in notes -/

namespace Forest

/-- Two forests that agree in everything but what directives have noted. -/
structure Alike (first second : Forest) : Prop where
  size_eq : second.entries.size = first.entries.size
  contents_eq : second.contents = first.contents
  block_eq : second.block = first.block
  place_eq : ∀ id, (second.entry id).place = (first.entry id).place
  nested_eq : ∀ id, (second.entry id).nested = (first.entry id).nested

namespace Alike

variable {first second third : Forest}

theorem refl (forest : Forest) : Alike forest forest := ⟨rfl, rfl, rfl, fun _ => rfl, fun _ => rfl⟩

theorem symm (alike : Alike first second) : Alike second first where
  size_eq := alike.size_eq.symm
  contents_eq := alike.contents_eq.symm
  block_eq := alike.block_eq.symm
  place_eq id := (alike.place_eq id).symm
  nested_eq id := (alike.nested_eq id).symm

theorem trans (early : Alike first second) (late : Alike second third) : Alike first third where
  size_eq := late.size_eq.trans early.size_eq
  contents_eq := late.contents_eq.trans early.contents_eq
  block_eq := late.block_eq.trans early.block_eq
  place_eq id := (late.place_eq id).trans (early.place_eq id)
  nested_eq id := (late.nested_eq id).trans (early.nested_eq id)

theorem members_eq (alike : Alike first second) : second.members = first.members := by
  funext content
  rw [members, Forest.content, alike.contents_eq, members, Forest.content]

theorem byName?_eq (alike : Alike first second) (content : ContentId) (name : Text) :
    second.byName? content name = first.byName? content name := by
  simp only [byName?, byIdentifier?, byMember?, alike.members_eq, alike.block_eq]

theorem byPath?_eq (alike : Alike first second) (content : ContentId) (path : List Text) :
    second.byPath? content path = first.byPath? content path := by
  fun_induction first.byPath? content path with
  | case1 => rfl
  | case2 content name => exact alike.byName?_eq content name
  | case3 content name next more missing =>
      rw [byPath?, alike.byName?_eq, missing]
  | case4 content name next more id found closed =>
      rw [byPath?, alike.byName?_eq, found]
      simp only [alike.nested_eq, closed]
  | case5 content name more id found inner opened isClass ih =>
      rw [byPath?, alike.byName?_eq, found]
      simp only [alike.nested_eq, opened, alike.block_eq, isClass, if_true, ih]
  | case6 content name next more id found inner opened isClass toStatic ih =>
      rw [byPath?, alike.byName?_eq, found]
      simp only [alike.nested_eq, opened, alike.block_eq, isClass, toStatic, if_true, if_false, ih,
        keepStatic]
  | case7 content name next more id found inner opened notClass ih =>
      rw [byPath?, alike.byName?_eq, found]
      simp only [alike.nested_eq, opened, alike.block_eq, notClass, if_false, ih]

theorem sibling?_eq (alike : Alike first second) (direction : Direction) (id : BlockId) :
    second.sibling? direction id = first.sibling? direction id := by
  rw [sibling?, sibling?, alike.place_eq, alike.members_eq]

theorem walk_eq (alike : Alike first second) (level : Level) (direction : Direction)
    (id : BlockId) : second.walk level direction id = first.walk level direction id := by
  rw [walk, walk, alike.size_eq]
  generalize first.entries.size = fuel
  induction fuel generalizing id with
  | zero => rfl
  | succ fuel ih =>
      rw [walkFrom, walkFrom, step?, step?, alike.sibling?_eq, alike.block_eq]
      split
      · rfl
      · rw [ih]

theorem next?_eq (alike : Alike first second) (level : Level) (direction : Direction)
    (kinds : Option (List BlockKind)) (id : BlockId) :
    second.next? level direction kinds id = first.next? level direction kinds id := by
  have hasKind_eq : second.hasKind kinds = first.hasKind kinds := by
    funext other
    simp only [hasKind, alike.block_eq]
  rw [next?, next?, alike.walk_eq, hasKind_eq]

theorem expand_eq (alike : Alike first second) (args : List Text) (target : Option BlockId) :
    Placeholder.expand second args target true = Placeholder.expand first args target true := by
  simp only [Placeholder.expand, alike.walk_eq, alike.block_eq]

end Alike

end Forest

/-! ## Notes and effects -/

/-- What a directive notes about a block. -/
inductive BlockNote where
  | alsoNamed (name : Text)
  | hasField (name : Text) (value : FieldValue)
  | exportedAs (name : Text)

/-- What a directive notes about a file. -/
inductive FileNote where
  | exportedAs (name : Text)
  | remark (key : Text) (value : Value)

/-- Write a note about a block. -/
def BlockNote.writeTo : BlockNote → Entry → Entry
  | .alsoNamed name, entry =>
    { entry with
      aliases := if entry.aliases.contains name then entry.aliases else entry.aliases ++ [name] }
  | .hasField name value, entry =>
    { entry with fields := Value.putEntry (· == ·) name value entry.fields }
  | .exportedAs name, entry => { entry with exportedName := some name }

/-- Write a note about a file. -/
def FileNote.writeTo : FileNote → SourceFile → SourceFile
  | .exportedAs name, file => { file with exportedName := some name }
  | .remark key value, file => { file with remarks := Value.putEntry (· == ·) key value file.remarks }

/-- Write notes about blocks, one after the other. -/
def Forest.noteAll (notes : List (BlockId × BlockNote)) (forest : Forest) : Forest :=
  notes.foldl (fun forest note => forest.modifyEntry note.1 note.2.writeTo) forest

/-- Write notes about one of several files, one after the other. -/
def FileNote.writeAll (notes : List FileNote) (file : FileId) (files : Array SourceFile) :
    Array SourceFile :=
  notes.foldl (fun files note => files.modify file.index note.writeTo) files

/-- The problem is that no handler knows the verb. -/
def Problem.isUnknownVerb : Problem → Bool
  | .unknownVerb _ => true
  | _ => false

/-- What comes of directives: notes about blocks and about the file, issues, the number of
directives that were applied, and whether the pass is halted. -/
structure Effect where
  onBlocks : List (BlockId × BlockNote) := []
  onFile : List FileNote := []
  issues : List Issue := []
  applied : Nat := 0
  halts : Bool := false

namespace Effect

/-- A pass over a file after an effect. -/
def on (file : FileId) (effect : Effect) (pass : Pass) : Pass :=
  { pass with
    project := { pass.project with
      forest := pass.project.forest.noteAll effect.onBlocks
      files := FileNote.writeAll effect.onFile file pass.project.files
      notices := pass.project.notices ++ effect.issues.map Issue.notice }
    report := { pass.report with
      issues := pass.report.issues ++ effect.issues
      applied := pass.report.applied + effect.applied }
    halted := pass.halted || effect.halts }

/-- The effect is one of a handler: it counts no directive and reports no unknown verb. -/
structure Modest (effect : Effect) : Prop where
  applied_eq : effect.applied = 0
  known : ∀ issue ∈ effect.issues, issue.problem.isUnknownVerb = false

/-- The effect of a problem that is reported. -/
def ofProblem (context : DirectiveContext) (problem : Problem) (pass : Pass) : Effect where
  issues := [⟨problem, (pass.project.file context.file).path,
    (pass.project.forest.block context.comment).row, context.verb⟩]

theorem on_ofProblem (context : DirectiveContext) (problem : Problem) (pass : Pass) :
    (ofProblem context problem pass).on context.file pass = pass.problem context problem := by
  simp [ofProblem, on, Pass.problem, Project.notify, Forest.noteAll, FileNote.writeAll]

/-- One effect and then another. -/
def andThen (first second : Effect) : Effect where
  onBlocks := first.onBlocks ++ second.onBlocks
  onFile := first.onFile ++ second.onFile
  issues := first.issues ++ second.issues
  applied := first.applied + second.applied
  halts := first.halts || second.halts

theorem on_empty (file : FileId) (pass : Pass) : ({} : Effect).on file pass = pass := by
  simp [on, Forest.noteAll, FileNote.writeAll]

theorem on_andThen (file : FileId) (first second : Effect) (pass : Pass) :
    (first.andThen second).on file pass = second.on file (first.on file pass) := by
  simp [on, andThen, Forest.noteAll, FileNote.writeAll, Nat.add_assoc, Bool.or_assoc]

theorem modest_empty : Modest {} := ⟨rfl, by simp⟩

theorem Modest.andThen {first second : Effect} (early : Modest first) (late : Modest second) :
    Modest (first.andThen second) where
  applied_eq := by rw [Effect.andThen, early.applied_eq, late.applied_eq]
  known issue reported := by
    rcases List.mem_append.mp reported with ofFirst | ofSecond
    · exact early.known issue ofFirst
    · exact late.known issue ofSecond

end Effect

/-- Notes about a block leave alone what is read, where it stands and what is open in it. -/
theorem Forest.alike_noteAll (notes : List (BlockId × BlockNote)) (forest : Forest) :
    forest.Alike (forest.noteAll notes) := by
  induction notes generalizing forest with
  | nil => exact .refl forest
  | cons note notes ih =>
      have once : forest.Alike (forest.modifyEntry note.1 note.2.writeTo) := by
        refine ⟨by simp [Forest.modifyEntry], rfl, funext fun id => ?_, fun id => ?_, fun id => ?_⟩
        · exact view_modifyEntry Entry.block fun _ => by cases note.2 <;> rfl
        · exact view_modifyEntry Entry.place fun _ => by cases note.2 <;> rfl
        · exact view_modifyEntry Entry.nested fun _ => by cases note.2 <;> rfl
      exact once.trans (ih _)

/-- Notes about a file leave alone what no note is about. -/
theorem FileNote.view_writeAll {α : Type} (project : Project) (view : SourceFile → α)
    (kept : ∀ note file, view (FileNote.writeTo note file) = view file) (notes : List FileNote)
    (file id : FileId) :
    view (Project.file { project with files := writeAll notes file project.files } id) =
      view (project.file id) := by
  induction notes generalizing project with
  | nil => rfl
  | cons note notes ih =>
      have rest := ih (project.modifyFile file note.writeTo)
      exact rest.trans (Project.view_modifyFile view (kept note))

theorem Effect.content_on (file : FileId) (effect : Effect) (pass : Pass) (id : FileId) :
    ((effect.on file pass).project.file id).content = (pass.project.file id).content :=
  FileNote.view_writeAll pass.project SourceFile.content (fun note _ => by cases note <;> rfl)
    effect.onFile file id

theorem Effect.path_on (file : FileId) (effect : Effect) (pass : Pass) (id : FileId) :
    ((effect.on file pass).project.file id).path = (pass.project.file id).path :=
  FileNote.view_writeAll pass.project SourceFile.path (fun note _ => by cases note <;> rfl)
    effect.onFile file id

/-! ## Actions with one effect -/

namespace Pass

/-- Two passes that agree in everything but what was noted and reported on the way. -/
structure Alike (first second : Pass) : Prop where
  forest : first.project.forest.Alike second.project.forest
  content_eq : ∀ id, (second.project.file id).content = (first.project.file id).content
  path_eq : ∀ id, (second.project.file id).path = (first.project.file id).path
  halted_eq : second.halted = first.halted

theorem Alike.refl (pass : Pass) : Alike pass pass := ⟨.refl _, fun _ => rfl, fun _ => rfl, rfl⟩

theorem Alike.on {first second : Pass} (alike : Alike first second) (file : FileId)
    (effect : Effect) : Alike (effect.on file first) (effect.on file second) where
  forest := (Forest.alike_noteAll _ _).symm.trans
    (alike.forest.trans (Forest.alike_noteAll effect.onBlocks _))
  content_eq id := by rw [Effect.content_on, Effect.content_on, alike.content_eq]
  path_eq id := by rw [Effect.path_on, Effect.path_on, alike.path_eq]
  halted_eq := by
    rw [Effect.on, Effect.on, alike.halted_eq]

/-- Passes that are alike report a problem in the same words. -/
theorem Alike.ofProblem_eq {first second : Pass} (alike : Alike first second)
    (context : DirectiveContext) (problem : Problem) :
    Effect.ofProblem context problem second = Effect.ofProblem context problem first := by
  rw [Effect.ofProblem, alike.path_eq, alike.forest.block_eq, Effect.ofProblem]

/-- The action has one and the same effect on any two passes that are alike, as a handler has. -/
def Repeats (file : FileId) (act : Pass → Pass) : Prop :=
  ∀ first second, Alike first second →
    ∃ effect : Effect, effect.Modest ∧ act first = effect.on file first ∧
      act second = effect.on file second

namespace Repeats

variable {file : FileId} {context : DirectiveContext}

theorem nothing : Repeats file fun pass => pass := by
  intro first second alike
  exact ⟨{}, Effect.modest_empty, (Effect.on_empty file first).symm,
    (Effect.on_empty file second).symm⟩

theorem comp {act next : Pass → Pass} (early : Repeats file act) (late : Repeats file next) :
    Repeats file fun pass => next (act pass) := by
  intro first second alike
  obtain ⟨effect, modest, ofFirst, ofSecond⟩ := early first second alike
  obtain ⟨rest, restModest, restFirst, restSecond⟩ := late _ _ (alike.on file effect)
  refine ⟨effect.andThen rest, modest.andThen restModest, ?_, ?_⟩
  · rw [Effect.on_andThen, ← restFirst, ← ofFirst]
  · rw [Effect.on_andThen, ← restSecond, ← ofSecond]

/-- What is chosen by something in which like passes agree has one effect if every choice has. -/
theorem choose {α : Type} (choice : Pass → α) (act : α → Pass → Pass)
    (same : ∀ first second, Alike first second → choice second = choice first)
    (each : ∀ chosen, Repeats file (act chosen)) :
    Repeats file fun pass => act (choice pass) pass := by
  intro first second alike
  obtain ⟨effect, modest, ofFirst, ofSecond⟩ := each (choice first) first second alike
  rw [← same first second alike] at ofSecond
  exact ⟨effect, modest, ofFirst, ofSecond⟩

theorem either {condition : Prop} [Decidable condition] {act other : Pass → Pass}
    (ifSo : Repeats file act) (ifNot : Repeats file other) :
    Repeats file fun pass => if condition then act pass else other pass := by
  by_cases holds : condition
  · simpa only [if_pos holds] using ifSo
  · simpa only [if_neg holds] using ifNot

theorem foldl {α : Type} {act : α → Pass → Pass} (each : ∀ item, Repeats file (act item))
    (items : List α) : Repeats file fun pass => items.foldl (fun pass item => act item pass) pass := by
  induction items with
  | nil => exact nothing
  | cons item items ih => exact (each item).comp ih

theorem problem {problem : Problem} (known : problem.isUnknownVerb = false) :
    Repeats context.file (Pass.problem context problem) := by
  intro first second alike
  refine ⟨.ofProblem context problem first, ⟨rfl, ?_⟩, ?_, ?_⟩
  · simpa [Effect.ofProblem] using known
  · rw [Effect.on_ofProblem]
  · rw [← alike.ofProblem_eq, Effect.on_ofProblem]

theorem noteBlock {change : Forest → Forest} (id : BlockId) (note : BlockNote)
    (writes : ∀ forest, change forest = forest.modifyEntry id note.writeTo) :
    Repeats file (Pass.modifyForest change) := by
  have effect : ∀ pass : Pass,
      pass.modifyForest change = ({ onBlocks := [(id, note)] } : Effect).on file pass := by
    intro pass
    simp [Pass.modifyForest, Project.modifyForest, Effect.on, Forest.noteAll, FileNote.writeAll,
      writes]
  intro first second alike
  exact ⟨_, ⟨rfl, by simp⟩, effect first, effect second⟩

theorem noteFile (note : FileNote) :
    Repeats context.file (Pass.modifyFile context note.writeTo) := by
  have effect : ∀ pass : Pass, pass.modifyFile context note.writeTo =
      ({ onFile := [note] } : Effect).on context.file pass := by
    intro pass
    simp [Pass.modifyFile, Project.modifyFile, Effect.on, Forest.noteAll, FileNote.writeAll]
  intro first second alike
  exact ⟨_, ⟨rfl, by simp⟩, effect first, effect second⟩

/-- Go on with the block that was found at a path, or report that there is none. -/
def goOnWith (context : DirectiveContext) (path : Text) (next : BlockId → Pass → Pass) :
    Option BlockId → Pass → Pass
  | some id, pass => next id pass
  | none, pass => pass.problem context (.noSuchPath path)

theorem withBlock {path : Text} {next : BlockId → Pass → Pass}
    (each : ∀ id, Repeats context.file (next id)) :
    Repeats context.file (Pass.withBlock context path next) := by
  have chosen : Pass.withBlock context path next =
      fun pass => goOnWith context path next (pass.find? context path) pass := by
    funext pass
    rw [Pass.withBlock]
    cases pass.find? context path <;> rfl
  rw [chosen]
  apply choose (fun pass => pass.find? context path) (goOnWith context path next)
  · intro first second alike
    rw [find?, find?, alike.content_eq, alike.forest.byPath?_eq]
  · intro found
    cases found with
    | some id => exact each id
    | none => exact problem rfl

/-- Halting a pass is an effect too. -/
theorem halting : Repeats file fun pass => { pass with halted := true } := by
  intro first second alike
  refine ⟨{ halts := true }, ⟨rfl, by simp⟩, ?_, ?_⟩
  · simp [Effect.on, Forest.noteAll, FileNote.writeAll]
  · simp [Effect.on, Forest.noteAll, FileNote.writeAll]

/-- Go on with each of the argument lists, or report why there are none. -/
def goOnWithEach (context : DirectiveContext) (args : List Text) (next : List Text → Pass → Pass) :
    Except PlaceholderError (List (List Text)) → Pass → Pass
  | .error error, pass =>
    if error.isTooLarge then { pass with halted := true } else pass.problem context (.placeholder error)
  | .ok [], pass => if Placeholder.inAny args then pass.problem context .nothingExpanded else pass
  | .ok lists, pass => lists.foldl (fun pass list => next list pass) pass

theorem forExpanded {args : List Text} {next : List Text → Pass → Pass}
    (each : ∀ list, Repeats context.file (next list)) :
    Repeats context.file (Pass.forExpanded context args next) := by
  have chosen : Pass.forExpanded context args next = fun pass => goOnWithEach context args next
      (Placeholder.expand pass.project.forest args context.target true) pass := by
    funext pass
    rw [Pass.forExpanded]
    cases Placeholder.expand pass.project.forest args context.target true with
    | error error => rfl
    | ok lists => cases lists <;> rfl
  rw [chosen]
  apply choose (fun pass => Placeholder.expand pass.project.forest args context.target true)
    (goOnWithEach context args next)
  · intro first second alike
    exact alike.forest.expand_eq args context.target
  · intro expanded
    cases expanded with
    | error error => exact either halting (problem rfl)
    | ok lists =>
        cases lists with
        | nil => exact either (problem rfl) nothing
        | cons list lists => exact foldl each (list :: lists)

end Repeats

end Pass

/-! ## Handlers -/

namespace Forest

variable {forest : Forest} {id : BlockId}

/-- Only what a change makes of the entry at hand counts. -/
theorem modifyEntry_congr {change : Entry → Entry} (other : Entry → Entry)
    (same : change (forest.entry id) = other (forest.entry id)) :
    forest.modifyEntry id change = forest.modifyEntry id other := by
  have entries_eq : forest.entries.modify id.index change =
      forest.entries.modify id.index other := by
    apply Array.ext_getElem?
    intro index
    rw [Array.getElem?_modify, Array.getElem?_modify]
    split
    · rename_i atId
      subst atId
      cases found : forest.entries[id.index]? with
      | none => rfl
      | some entry =>
          rw [Forest.entry, found] at same
          exact congrArg some same
    · rfl
  rw [modifyEntry, entries_eq, modifyEntry]

theorem modifyEntry_self : forest.modifyEntry id (fun entry => entry) = forest := by
  have entries_eq : forest.entries.modify id.index (fun entry => entry) = forest.entries := by
    apply Array.ext_getElem?
    simp [Array.getElem?_modify]
  rw [modifyEntry, entries_eq]

/-- An alias that is there is written once more without a change. -/
theorem addAlias_eq (name : Text) :
    (forest.addAlias id name).1 = forest.modifyEntry id (BlockNote.alsoNamed name).writeTo := by
  rw [addAlias]
  split
  · rename_i present
    rw [modifyEntry_congr (fun entry => entry), modifyEntry_self]
    simp only [BlockNote.writeTo, present, if_true]
  · rename_i missing
    apply modifyEntry_congr
    rw [BlockNote.writeTo, if_neg missing]

end Forest

namespace Handler

open Pass

/-- The handler has one effect on passes that are alike. -/
def Repeating (handler : Handler) : Prop :=
  ∀ context args, Repeats context.file (handler context args)

theorem repeating_aliasing : Repeating aliasing := by
  intro context args
  match args with
  | [] => exact .problem rfl
  | [name] =>
      obtain ⟨file, comment, target, verb⟩ := context
      cases target with
      | none => exact @Repeats.problem ⟨file, comment, none, verb⟩ _ rfl
      | some id => exact .noteBlock id (.alsoNamed name) fun _ => Forest.addAlias_eq name
  | [path, name] =>
      apply Repeats.forExpanded
      intro list
      split
      · apply Repeats.withBlock
        intro id
        exact .noteBlock id (.alsoNamed _) fun _ => Forest.addAlias_eq _
      · exact .nothing
  | _ :: _ :: _ :: _ => exact .problem rfl

theorem repeats_assignPath (context : DirectiveContext) (target value : Text) :
    Repeats context.file (assignPath context target value) := by
  apply Repeats.either
  · exact .problem rfl
  · apply Repeats.withBlock
    intro owner
    apply Repeats.withBlock
    intro id
    exact .noteBlock owner (.hasField _ (.block id)) fun _ => rfl

theorem repeating_assigning : Repeating assigning := by
  intro context args
  match args with
  | [] | [_] => exact .problem rfl
  | [path, value] =>
      apply Repeats.forExpanded
      intro list
      split
      · exact repeats_assignPath context _ _
      · exact .nothing
  | _ :: _ :: _ :: _ => exact .problem rfl

theorem repeating_exporting : Repeating exporting := by
  intro context args
  match args with
  | [] => exact .problem rfl
  | [name] =>
      obtain ⟨file, comment, target, verb⟩ := context
      cases target with
      | none => exact @Repeats.noteFile ⟨file, comment, none, verb⟩ (.exportedAs name)
      | some id => exact .noteBlock id (.exportedAs name) fun _ => rfl
  | [path, name] =>
      apply Repeats.forExpanded
      intro list
      split
      · apply Repeats.withBlock
        intro id
        exact .noteBlock id (.exportedAs _) fun _ => rfl
      · exact .nothing
  | _ :: _ :: _ :: _ => exact .problem rfl

theorem repeats_remark (context : DirectiveContext) (key value : Text) :
    Repeats context.file (remark context key value) := .noteFile (.remark key (.text value))

theorem repeating_designPattern : Repeating designPattern := by
  intro context args
  match args with
  | [] => exact .problem rfl
  | name :: rest =>
      have named := repeats_remark context "pattern" name
      apply Repeats.either
      · match rest with
        | [] => exact named.comp (.problem rfl)
        | instanceName :: _ => exact named.comp (repeats_remark context "exportedInstance" _)
      · exact named.comp (.problem rfl)

/-- All verbs have one effect on passes that are alike. -/
def AllRepeating (handlers : List (Text × Handler)) : Prop := ∀ entry ∈ handlers, Repeating entry.2

theorem allRepeating_builtIn : AllRepeating builtIn := by
  intro entry isBuiltIn
  simp only [builtIn, List.mem_cons, List.not_mem_nil, or_false] at isBuiltIn
  rcases isBuiltIn with rfl | rfl | rfl | rfl | rfl | rfl
  · exact repeating_aliasing
  · exact repeating_assigning
  · exact repeating_exporting
  · exact fun _ _ => .nothing
  · exact repeating_designPattern
  · exact fun _ _ => .nothing

end Handler

namespace Pass

/-- There is a handler for the verb. -/
def knows (handlers : List (Text × Handler)) (verb : Text) : Bool :=
  (handlers.find? fun entry => entry.1 == verb).isSome

/-- What comes of one directive: an unknown verb is reported, and a known one is left to its handler
and then counted, unless the pass is halted. -/
inductive DirectiveEffect (handlers : List (Text × Handler)) (context : DirectiveContext)
    (verb : Text) (pass : Pass) : Effect → Prop
  | unknown (missing : ¬ knows handlers verb) :
      DirectiveEffect handlers context verb pass
        (.ofProblem { context with verb } (.unknownVerb verb) pass)
  | halting {effect : Effect} (known : knows handlers verb) (modest : effect.Modest)
      (halts : pass.halted || effect.halts) : DirectiveEffect handlers context verb pass effect
  | counted {effect : Effect} (known : knows handlers verb) (modest : effect.Modest)
      (going : ¬ (pass.halted || effect.halts)) :
      DirectiveEffect handlers context verb pass (effect.andThen { applied := 1 })

theorem exists_effect_applyDirective {handlers : List (Text × Handler)} {first second : Pass}
    (repeating : Handler.AllRepeating handlers) (alike : Alike first second)
    (context : DirectiveContext) (directive : Directive) :
    ∃ effect, DirectiveEffect handlers context directive.verb first effect ∧
      applyDirective handlers context directive first = effect.on context.file first ∧
      applyDirective handlers context directive second = effect.on context.file second := by
  rw [applyDirective, applyDirective]
  cases found : handlers.find? fun entry => entry.1 == directive.verb with
  | none =>
      refine ⟨_, .unknown (by simp [knows, found]), ?_, ?_⟩
      · exact (Effect.on_ofProblem { context with verb := directive.verb } _ first).symm
      · rw [← alike.ofProblem_eq]
        exact (Effect.on_ofProblem { context with verb := directive.verb } _ second).symm
  | some entry =>
      have known : knows handlers directive.verb := by simp [knows, found]
      obtain ⟨effect, modest, ofFirst, ofSecond⟩ := repeating entry (List.mem_of_find?_eq_some found)
        { context with verb := directive.verb } directive.args first second alike
      simp only [Option.map_some, ofFirst, ofSecond]
      have sameHalted := (alike.on context.file effect).halted_eq
      by_cases halts : first.halted || effect.halts
      · refine ⟨effect, .halting known modest halts, ?_, ?_⟩
        · exact andThen_of_halted halts
        · exact andThen_of_halted (sameHalted.trans halts)
      · have counting : ∀ pass : Pass, pass.halted = first.halted →
            ((effect.on context.file pass).andThen fun applied =>
              { applied with report := { applied.report with applied := applied.report.applied + 1 } }) =
            (effect.andThen { applied := 1 }).on context.file pass := by
          intro pass same
          have going : ¬ (effect.on context.file pass).halted := by rwa [Effect.on, same]
          rw [andThen_of_going going, Effect.on_andThen]
          simp [Effect.on, Forest.noteAll, FileNote.writeAll]
        exact ⟨_, .counted known modest halts, counting first rfl, counting second alike.halted_eq⟩

end Pass

end Docweave
