import Docweave.Page.Document
import Docweave.Proofs.Forest.Spoken
import Docweave.Proofs.Project.Built

/-!
# Comments of declarations

The comment of a declaration is looked up backward along links, past other code.  So declarations
that stand together, with neither a comment nor a blank row in between, share the comment before the
first of them, and the page shows it under each.  Other declarations have no comment in common.
-/

namespace Docweave

namespace Forest

variable {forest : Forest} {content : ContentId} {first second comment : BlockId}
variable {before between after earlier : List BlockId}

/-- The block goes on with the code before it: it is no comment, and no blank row stands before it. -/
def Continues (forest : Forest) (id : BlockId) : Prop :=
  (forest.block id).isComment = false ∧ (forest.block id).blankBefore = 0

theorem mem_of_speaking (found : forest.speaking second earlier = some comment) :
    comment ∈ earlier := by
  induction earlier generalizing second with
  | nil => cases found
  | cons previous earlier ih =>
      rw [speaking] at found
      split at found
      · split at found
        · cases found
          exact List.mem_cons_self
        · exact List.mem_cons_of_mem _ (ih found)
      · cases found

/-- Past code that goes on, the look-up comes to the comment of the block where that code starts. -/
theorem speaking_append (code : (forest.block first).isComment = false)
    (close : (forest.block second).blankBefore = 0)
    (joined : ∀ other ∈ between, forest.Continues other) :
    forest.speaking second (between ++ first :: earlier) = forest.speaking first earlier := by
  induction between generalizing second with
  | nil => simp [speaking, close, code]
  | cons previous between ih =>
      obtain ⟨goesOn, others⟩ := List.forall_mem_cons.mp joined
      rw [List.cons_append, speaking, if_pos close, if_neg (by simp [goesOn.1])]
      exact ih goesOn.2 others

/-- Where the code does not go on, the look-up does not come as far as the block behind. -/
theorem mem_of_speaking_append
    (apart : ¬((forest.block second).blankBefore = 0 ∧ ∀ other ∈ between, forest.Continues other))
    (found : forest.speaking second (between ++ first :: earlier) = some comment) :
    comment ∈ between := by
  induction between generalizing second with
  | nil =>
      have blank : (forest.block second).blankBefore ≠ 0 := by simpa using apart
      simp [speaking, blank] at found
  | cons previous between ih =>
      rw [List.cons_append, speaking] at found
      split at found
      · rename_i close
        split at found
        · cases found
          exact List.mem_cons_self
        · rename_i noComment
          apply List.mem_cons_of_mem
          apply ih _ found
          rintro ⟨blank, joined⟩
          have goesOn : forest.Continues previous := ⟨Bool.eq_false_of_not_eq_true noComment, blank⟩
          exact apart ⟨close, List.forall_mem_cons.mpr ⟨goesOn, joined⟩⟩
      · cases found

section Split

variable (placed : forest.Placed)
  (members_eq : forest.members content = before ++ first :: (between ++ second :: after))

include placed members_eq

theorem note?_of_split : forest.note? first = forest.speaking first before.reverse := by
  have atIndex : (forest.members content)[before.length]? = some first := by simp [members_eq]
  rw [note?_eq_speaking placed atIndex, members_eq, List.take_left]

theorem note?_of_split_later :
    forest.note? second = forest.speaking second (between.reverse ++ first :: before.reverse) := by
  have regrouped : forest.members content = (before ++ first :: between) ++ second :: after := by
    simp [members_eq]
  have atIndex : (forest.members content)[(before ++ first :: between).length]? = some second := by
    simp [regrouped]
  rw [note?_eq_speaking placed atIndex, regrouped, List.take_left]
  simp

/-- A block shares its comment with code before it exactly when that has a comment and the code goes on
from there to the block. -/
theorem shared_note_iff (code : (forest.block first).isComment = false) :
    (∃ comment, forest.note? first = some comment ∧ forest.note? second = some comment) ↔
      (forest.note? first).isSome ∧ (forest.block second).blankBefore = 0 ∧
        ∀ other ∈ between, forest.Continues other := by
  constructor
  · rintro ⟨comment, speaksFirst, speaksSecond⟩
    refine ⟨by rw [speaksFirst]; rfl, ?_⟩
    apply Classical.byContradiction
    intro apart
    rw [note?_of_split placed members_eq] at speaksFirst
    rw [note?_of_split_later placed members_eq] at speaksSecond
    have inFront : comment ∈ before := List.mem_reverse.mp (mem_of_speaking speaksFirst)
    have behind : comment ∈ between.reverse := by
      apply mem_of_speaking_append _ speaksSecond
      simpa using apart
    have distinct := placed.nodup content
    rw [members_eq, List.nodup_append] at distinct
    have inRest : comment ∈ first :: (between ++ second :: after) :=
      List.mem_cons_of_mem _ (List.mem_append_left _ (List.mem_reverse.mp behind))
    exact distinct.2.2 comment inFront comment inRest rfl
  · rintro ⟨spoken, close, joined⟩
    obtain ⟨comment, speaks⟩ := Option.isSome_iff_exists.mp spoken
    refine ⟨comment, speaks, ?_⟩
    rw [note?_of_split_later placed members_eq,
      speaking_append code close (by simpa using joined), ← note?_of_split placed members_eq, speaks]

end Split

end Forest

namespace Page

open Forest

variable {settings : Settings} {forest : Forest} {file : SourceFile} {depth : Int}
variable {id member comment : BlockId} {inner : ContentId} {callable : Callable} {exported : Bool}

/-! ## Parts of a page -/

/-- The declarations at the top of a file that have a part of their own on its page. -/
def declarations (forest : Forest) (file : SourceFile) : List BlockId :=
  (forest.members file.content).filter fun id =>
    (forest.block id).kind == .classDecl || (forest.block id).kind == .functionDecl

/-- Whether a block at the top of a file is exported under its name. -/
def isExported (forest : Forest) (file : SourceFile) (id : BlockId) : Bool :=
  match (forest.block id).identifier? with
  | some name => file.tables.exportedNames.contains name
  | none => false

/-- The part of a page that is about a class or function. -/
def declarationElements (forest : Forest) (file : SourceFile) (depth : Int) (id : BlockId) :
    List Element :=
  if (forest.block id).kind == .classDecl then
    classElements forest id (depth + 1) (isExported forest file id)
  else callableElements forest id (depth + 2) (.function (isExported forest file id))

theorem infix_flatMap {α β : Type} (part : α → List β) {item : α} {items : List α}
    (membership : item ∈ items) : part item <:+: items.flatMap part := by
  rw [List.flatMap_def]
  exact List.infix_of_mem_flatten (List.mem_map_of_mem membership)

theorem infix_underHeading (title : Text) (elements : List Element) :
    elements <:+: underHeading depth title elements := by
  rw [underHeading]
  split
  · rename_i empty
    rw [List.isEmpty_iff.mp empty]
  · exact (List.suffix_cons _ _).isInfix

/-- The classes or functions of a file that are exported, or those that are not. -/
def ofKind (forest : Forest) (file : SourceFile) (kind : BlockKind) (wanted : Bool) : List BlockId :=
  (forest.members file.content).filter fun id =>
    (forest.block id).kind == kind && isExported forest file id == wanted

/-- The parts of a page about its classes. -/
def classesPart (forest : Forest) (file : SourceFile) (depth : Int) (wanted : Bool) : List Element :=
  (ofKind forest file .classDecl wanted).flatMap fun id => classElements forest id (depth + 1) wanted

/-- The parts of a page about its functions, under their heading. -/
def functionsPart (forest : Forest) (file : SourceFile) (depth : Int) (wanted : Bool) : List Element :=
  underHeading (depth + 1) (if wanted then "Exported Functions".toList else "Internal Functions".toList)
    ((ofKind forest file .functionDecl wanted).flatMap fun id =>
      callableElements forest id (depth + 2) (.function wanted))

/-- The parts of a page about its variables, under their heading. -/
def variablesPart (settings : Settings) (forest : Forest) (file : SourceFile) (depth : Int) :
    List Element :=
  let groups := variableGroups settings forest file.content
  underHeading (depth + 1) "Variable Declarations"
    (groups.flatMap (groupElements forest file.tables.exportedNames (depth + 2) groups.length))

theorem fileElements_eq :
    fileElements settings forest file depth =
      [fileHeader settings forest file depth, classesPart forest file depth true,
        classesPart forest file depth false, functionsPart forest file depth true,
        functionsPart forest file depth false, variablesPart settings forest file depth].flatten := by
  simp only [List.flatten_cons, List.flatten_nil, List.append_nil, ← List.append_assoc]
  rfl

theorem classesPart_isInfix (wanted : Bool) :
    classesPart forest file depth wanted <:+: fileElements settings forest file depth := by
  rw [fileElements_eq]
  apply List.infix_of_mem_flatten
  cases wanted <;> simp

theorem functionsPart_isInfix (wanted : Bool) :
    functionsPart forest file depth wanted <:+: fileElements settings forest file depth := by
  rw [fileElements_eq]
  apply List.infix_of_mem_flatten
  cases wanted <;> simp

theorem declarationElements_isInfix (declared : id ∈ declarations forest file) :
    declarationElements forest file depth id <:+: fileElements settings forest file depth := by
  obtain ⟨membership, kind⟩ := List.mem_filter.mp declared
  rw [declarationElements]
  split
  · rename_i isClass
    have listed : id ∈ ofKind forest file .classDecl (isExported forest file id) :=
      List.mem_filter.mpr ⟨membership, by simp [isClass]⟩
    exact (infix_flatMap _ listed).trans (classesPart_isInfix _)
  · rename_i noClass
    have isFunction : (forest.block id).kind == .functionDecl := by simpa [noClass] using kind
    have listed : id ∈ ofKind forest file .functionDecl (isExported forest file id) :=
      List.mem_filter.mpr ⟨membership, by simp [isFunction]⟩
    exact ((infix_flatMap _ listed).trans (infix_underHeading _ _)).trans (functionsPart_isInfix _)

/-- A function or method with a comment shows it under its heading. -/
theorem commentElements_infix_callable (speaks : forest.note? id = some comment) :
    commentElements (forest.block comment) <:+: callableElements forest id depth callable := by
  simp only [callableElements, speaks]
  exact ⟨[_], _, rfl⟩

/-- A class with a comment shows it below its base. -/
theorem commentElements_infix_class (speaks : forest.note? id = some comment) :
    commentElements (forest.block comment) <:+: classElements forest id depth exported := by
  simp only [classElements, speaks, List.append_assoc]
  exact ⟨_, _, List.append_assoc _ _ _⟩

theorem commentElements_infix_declaration (speaks : forest.note? id = some comment) :
    commentElements (forest.block comment) <:+: declarationElements forest file depth id := by
  rw [declarationElements]
  split
  · exact commentElements_infix_class speaks
  · exact commentElements_infix_callable speaks

/-- The constructor among the members of a class. -/
def constructor? (forest : Forest) (inner : ContentId) : Option BlockId :=
  forest.byMember? inner "constructor"

/-- The part of a class about its constructor. -/
def constructorPart (forest : Forest) (inner : ContentId) (depth : Int) : List Element :=
  match constructor? forest inner with
  | some member => callableElements forest member (depth + 1) .constructor
  | none => []

/-- The parts of a class about its other methods. -/
def methodParts (forest : Forest) (inner : ContentId) (depth : Int) : List Element :=
  ((forest.ofKinds inner [.methodDecl]).filter fun member => some member ≠ constructor? forest inner).flatMap
    fun member => callableElements forest member (depth + 2) .method

/-- The parts of a class about its other methods, after a paragraph that says whether there are any. -/
def methodsPart (forest : Forest) (inner : ContentId) (depth : Int) : List Element :=
  let parts := methodParts forest inner depth
  if parts.isEmpty then [paragraph "This class does not define any member methods"]
  else paragraph "This class defines the following member methods" :: parts

/-- What a class starts with: its title and its base. -/
def classLead (forest : Forest) (id : BlockId) (depth : Int) (exported : Bool) : List Element :=
  let scope : Text := if exported then "exported class" else "internal only"
  [heading depth ("class " ++ shown (forest.displayName? id) ++ " (" ++ scope ++ ")"),
    paragraph ("**Base class:** " ++ (given? (forest.block id).superclass?).getD "Object")]

/-- The elements of the comment of a block, if it has one. -/
def noteElements (forest : Forest) (id : BlockId) : List Element :=
  match forest.note? id with
  | some note => commentElements (forest.block note)
  | none => []

theorem classElements_eq (opened : (forest.entry id).nested = some inner) (depth : Int) (exported : Bool) :
    classElements forest id depth exported =
      [classLead forest id depth exported, noteElements forest id, constructorPart forest inner depth,
        [heading (depth + 1) "Member methods"], methodsPart forest inner depth,
        (forest.entry id).fields.map fun (name, value) => fieldElement forest name value].flatten := by
  simp only [List.flatten_cons, List.flatten_nil, List.append_nil, ← List.append_assoc]
  rw [classElements, opened]
  rfl

theorem methodParts_isInfix : methodParts forest inner depth <:+: methodsPart forest inner depth := by
  rw [methodsPart]
  split
  · rename_i empty
    rw [List.isEmpty_iff.mp empty]
    exact List.nil_infix
  · exact (List.suffix_cons _ _).isInfix

/-- The constructor of a class has a part of its own, and so has each of its other methods. -/
theorem callableElements_isInfix (depth : Int) (exported : Bool) (opened : (forest.entry id).nested = some inner)
    (membership : member ∈ forest.members inner) (kind : (forest.block member).kind = .methodDecl) :
    ∃ below callable, callableElements forest member below callable <:+:
      classElements forest id depth exported := by
  rw [classElements_eq opened]
  by_cases isConstructor : constructor? forest inner = some member
  · refine ⟨depth + 1, .constructor, ?_⟩
    have part_eq : constructorPart forest inner depth =
        callableElements forest member (depth + 1) .constructor := by
      rw [constructorPart, isConstructor]
    rw [← part_eq]
    exact List.infix_of_mem_flatten (by simp)
  · refine ⟨depth + 2, .method, ?_⟩
    have listed : member ∈ (forest.ofKinds inner [.methodDecl]).filter fun member =>
        some member ≠ constructor? forest inner := by
      simp [ofKinds, membership, kind, Ne.symm isConstructor]
    have inMethods : callableElements forest member (depth + 2) .method <:+:
        methodParts forest inner depth :=
      infix_flatMap (fun member => callableElements forest member (depth + 2) .method) listed
    exact (inMethods.trans methodParts_isInfix).trans (List.infix_of_mem_flatten (by simp))

/-! ## Comments in common -/

/-- Two blocks of code of one content, such as two declarations at the top of a file or two members of
a class, have their comment in common if and only if the earlier one has a comment, and neither a comment
nor a blank row stands between the two.  The page shows each declaration and each method under its comment. -/
theorem comments_of_declarations {project : Project} (built : project.Built) (settings : Settings)
    (id : FileId) (depth : Int) :
    let forest := project.forest
    let file := project.file id
    (∀ content before first between second after,
      forest.members content = before ++ first :: (between ++ second :: after) →
      (forest.block first).isComment = false →
      ((∃ comment, forest.note? first = some comment ∧ forest.note? second = some comment) ↔
        (forest.note? first).isSome ∧ (forest.block second).blankBefore = 0 ∧
          ∀ other ∈ between, forest.Continues other)) ∧
    ∀ declared ∈ declarations forest file,
      declarationElements forest file depth declared <:+: fileElements settings forest file depth ∧
      (∀ comment, forest.note? declared = some comment →
        commentElements (forest.block comment) <:+: declarationElements forest file depth declared) ∧
      ∀ inner, (forest.block declared).kind = .classDecl → (forest.entry declared).nested = some inner →
        ∀ member ∈ forest.members inner, (forest.block member).kind = .methodDecl →
          ∃ below callable,
            callableElements forest member below callable <:+:
              declarationElements forest file depth declared ∧
            ∀ comment, forest.note? member = some comment →
              commentElements (forest.block comment) <:+:
                callableElements forest member below callable := by
  intro forest file
  have placed : forest.Placed := built.sound.forest.placed
  constructor
  · intro content before first between second after members_eq code
    exact shared_note_iff placed members_eq code
  · intro declared isDeclared
    refine ⟨declarationElements_isInfix isDeclared, ?_, ?_⟩
    · intro comment speaks
      exact commentElements_infix_declaration speaks
    · intro inner isClass opened member membership kind
      obtain ⟨below, callable, inClass⟩ := callableElements_isInfix (depth + 1)
        (isExported forest file declared) opened membership kind
      refine ⟨below, callable, ?_, ?_⟩
      · rw [declarationElements, if_pos (by simp [isClass])]
        exact inClass
      · intro comment speaks
        exact commentElements_infix_callable speaks

/-- The second function has no comment in common with the first, since a blank row stands between them,
and the page shows the comment of the first. -/
theorem comments_of_declarations_apart :
    let project := (({} : Project).addFile "// Adds.\nfunction add(a) \x7b\x7d\n\nfunction sub(b) \x7b\x7d\n" 1
      (some "a.js") none none).1
    let forest := project.forest
    let file := project.file ⟨0⟩
    project.Built ∧
      forest.members file.content = [⟨0⟩] ++ ⟨1⟩ :: ([] ++ ⟨2⟩ :: []) ∧
      (forest.block ⟨1⟩).isComment = false ∧ ⟨1⟩ ∈ declarations forest file ∧
      forest.note? ⟨1⟩ = some ⟨0⟩ ∧
      ¬(∃ comment, forest.note? ⟨1⟩ = some comment ∧ forest.note? ⟨2⟩ = some comment) ∧
      commentElements (forest.block ⟨0⟩) <:+: declarationElements forest file 1 ⟨1⟩ := by
  intro project forest file
  have built : project.Built := .addFile (.empty _) _ 1 _ none none
  obtain ⟨members_eq, code, declared, speaks, blank⟩ :
      forest.members file.content = [⟨0⟩] ++ ⟨1⟩ :: ([] ++ ⟨2⟩ :: []) ∧
      (forest.block ⟨1⟩).isComment = false ∧ ⟨1⟩ ∈ declarations forest file ∧
      forest.note? ⟨1⟩ = some ⟨0⟩ ∧ (forest.block ⟨2⟩).blankBefore ≠ 0 := by
    decide +kernel
  obtain ⟨common, shown⟩ := comments_of_declarations built .default ⟨0⟩ 1
  refine ⟨built, members_eq, code, declared, speaks, ?_, (shown ⟨1⟩ declared).2.1 ⟨0⟩ speaks⟩
  rw [common file.content [⟨0⟩] ⟨1⟩ [] ⟨2⟩ [] members_eq code]
  rintro ⟨-, close, -⟩
  exact blank close

/-- The comment on the first function is also that of the second, which stands right below, and the same
holds of two methods.  So the page describes subtractions as additions. -/
theorem comment_shared_of_joined :
    let project := (({} : Project).addFile ("var n = 1\n\n// Adds.\n" ++
      "function add(a) \x7b\x7d\nfunction sub(b) \x7b\x7d\n\n" ++
      "class A \x7b\n  // Adds.\n  add(a) \x7b\x7d\n  sub(b) \x7b\x7d\n\x7d\n") 1 (some "a.js") none none).1
    let forest := project.forest
    let file := project.file ⟨0⟩
    project.Built ∧
      ¬(∀ first ∈ declarations forest file, ∀ second ∈ declarations forest file, first ≠ second →
        ∀ comment, forest.note? first = some comment → forest.note? second ≠ some comment) ∧
      declarationElements forest file 1 ⟨3⟩ = [heading 3 "sub (b)", paragraph "Adds."] ∧
      ⟨4⟩ ∈ declarations forest file ∧ (forest.block ⟨4⟩).kind = .classDecl ∧
      (forest.entry ⟨4⟩).nested = some ⟨1⟩ ∧
      ¬(∀ first ∈ forest.members ⟨1⟩, ∀ second ∈ forest.members ⟨1⟩,
        (forest.block first).kind = .methodDecl → (forest.block second).kind = .methodDecl →
        first ≠ second → ∀ comment, forest.note? first = some comment →
          forest.note? second ≠ some comment) := by
  intro project forest file
  have built : project.Built := .addFile (.empty _) _ 1 _ none none
  obtain ⟨declared, speaksFirst, speaksSecond, elements, isClass⟩ :
      (⟨2⟩ ∈ declarations forest file ∧ ⟨3⟩ ∈ declarations forest file) ∧
      forest.note? ⟨2⟩ = some ⟨1⟩ ∧ forest.note? ⟨3⟩ = some ⟨1⟩ ∧
      declarationElements forest file 1 ⟨3⟩ = [heading 3 "sub (b)", paragraph "Adds."] ∧
      (⟨4⟩ ∈ declarations forest file ∧ (forest.block ⟨4⟩).kind = .classDecl ∧
        (forest.entry ⟨4⟩).nested = some ⟨1⟩) := by
    decide +kernel
  obtain ⟨members, kinds, speaksMember, speaksOther⟩ :
      (⟨6⟩ ∈ forest.members ⟨1⟩ ∧ ⟨7⟩ ∈ forest.members ⟨1⟩) ∧
      ((forest.block ⟨6⟩).kind = .methodDecl ∧ (forest.block ⟨7⟩).kind = .methodDecl) ∧
      forest.note? ⟨6⟩ = some ⟨5⟩ ∧ forest.note? ⟨7⟩ = some ⟨5⟩ := by
    decide +kernel
  refine ⟨built, ?_, elements, isClass.1, isClass.2.1, isClass.2.2, ?_⟩
  · intro unshared
    exact unshared ⟨2⟩ declared.1 ⟨3⟩ declared.2 (by decide) ⟨1⟩ speaksFirst speaksSecond
  · intro unshared
    exact unshared ⟨6⟩ members.1 ⟨7⟩ members.2 kinds.1 kinds.2 (by decide) ⟨5⟩ speaksMember speaksOther

end Page

end Docweave
