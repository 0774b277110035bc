import Docweave.Proofs.Block.Body
import Docweave.Proofs.Block.Braces
import Docweave.Proofs.Block.CallableHeader
import Docweave.Proofs.Block.Classified
import Docweave.Proofs.Outline.Blocks

/-!
# Where functions and methods are cut

A function or a method is recognised by its header, and a brace opens the body after it.  Both its
extent and its body are measured from the first brace of the text.  The two braces are the same exactly
when the parameters hold none; a brace among the parameters is taken for the one that opens the body,
and the block ends in its own header unless that brace stays open through the parameters.
-/

namespace Docweave

open Text

/-! ## Braces in a header -/

namespace Header

open Extent

variable {text parameters header : Text}

theorem Gap.unbraced (isGap : Gap text) : Unbraced text :=
  unbraced_of_inClass isGap rfl rfl

theorem Run.unbraced_separators (isGap : Run isSeparator text) : Unbraced text :=
  unbraced_of_inClass isGap.inside rfl rfl

theorem Run.unbraced_name (isName : Run isNameChar text) : Unbraced text :=
  unbraced_of_inClass isName.inside rfl rfl

theorem Async.unbraced (isMark : Async text) : Unbraced text := by
  cases isMark with
  | absent => decide
  | present isGap => exact unbraced_append.mpr ⟨by decide, isGap.unbraced_separators⟩

theorem Binding.unbraced (binding : Binding text) : Unbraced text := by
  obtain ⟨isLead, isWord, isGap, isName, isBefore⟩ := binding
  have words : ∀ word ∈ declarators, Unbraced word := by decide
  simp only [unbraced_append]
  exact ⟨isLead.unbraced, words _ isWord, isGap.unbraced_separators, isName.unbraced_name,
    isBefore.unbraced, by decide⟩

theorem Modifiers.unbraced (modified : Modifiers text) : Unbraced text := by
  induction modified with
  | nil => decide
  | cons isWord isGap more ih =>
      simp only [unbraced_append]
      exact ⟨(run_of_modifier isWord).unbraced_name, isGap.unbraced_separators, ih⟩

/-- `parameters` stand in `header`, and what stands around them holds no brace. -/
inductive HoldsParameters (parameters : Text) : Text → Prop
  | intro {lead trail : Text} (plainLead : Unbraced lead) (plainTrail : Unbraced trail) :
      HoldsParameters parameters (lead ++ (parameters ++ trail))

theorem HoldsParameters.prepend {front : Text} (plain : Unbraced front)
    (holds : HoldsParameters parameters text) : HoldsParameters parameters (front ++ text) := by
  obtain ⟨plainLead, plainTrail⟩ := holds
  rw [← List.append_assoc]
  exact .intro (unbraced_append.mpr ⟨plain, plainLead⟩) plainTrail

theorem Parenthesised.holdsParameters (isList : Parenthesised parameters text) :
    HoldsParameters parameters text := by
  obtain ⟨isBefore, -, isAfter⟩ := isList
  rename_i before after
  have opening : Unbraced ['('] := by decide
  have closing : Unbraced ([')'] ++ after) := unbraced_append.mpr ⟨by decide, isAfter.unbraced⟩
  simpa using (HoldsParameters.intro opening closing).prepend isBefore.unbraced

theorem FunctionHeader.holdsParameters (isHeader : FunctionHeader parameters header) :
    HoldsParameters parameters header := by
  cases isHeader with
  | bound binding isGap isMark isList =>
      exact (((isList.holdsParameters.prepend (by decide)).prepend isMark.unbraced).prepend
        isGap.unbraced).prepend binding.unbraced
  | named isLead isMark isGap isName isList =>
      exact ((((isList.holdsParameters.prepend isName.unbraced_name).prepend
        isGap.unbraced_separators).prepend (by decide)).prepend isMark.unbraced).prepend isLead.unbraced

theorem MethodHeader.holdsParameters (isHeader : MethodHeader parameters header) :
    HoldsParameters parameters header := by
  obtain ⟨isLead, modified, isName, isList, -⟩ := isHeader
  exact ((isList.holdsParameters.prepend isName.unbraced_name).prepend modified.unbraced).prepend
    isLead.unbraced

end Header

/-! ## Callable blocks -/

open Extent Header

variable {text parameters header head rest : Text} {block : Block}

/-- The header by which a kind of callable block is recognised. -/
inductive CallableHeader (parameters header : Text) : BlockKind → Prop
  | function (isHeader : FunctionHeader parameters header) :
      CallableHeader parameters header .functionDecl
  | method (isHeader : MethodHeader parameters header) : CallableHeader parameters header .methodDecl

theorem CallableHeader.holdsParameters {kind : BlockKind}
    (isHeader : CallableHeader parameters header kind) : HoldsParameters parameters header := by
  cases isHeader with
  | function isHeader => exact isHeader.holdsParameters
  | method isHeader => exact isHeader.holdsParameters

/-- The kinds of block that are called. -/
def BlockKind.IsCallable (kind : BlockKind) : Prop := kind = .functionDecl ∨ kind = .methodDecl

/-- The first block of a text, as the parser cuts it off. -/
structure Block.CutFrom (block : Block) (text : Text) : Prop where
  kind_eq : block.kind = (classify text).kind
  raw_eq : block.raw = text.take (classify text).length

namespace Outline

theorem cutFrom_membersFrom (note : Option Block) (blanks : Nat) (row : Int) (text : Text) :
    ∀ tree ∈ membersFrom text.length note blanks row text,
      ∃ rest, rest <:+ text ∧ tree.block.CutFrom rest := by
  by_cases nonempty : text = []
  · subst nonempty
    intro tree membership
    cases membership
  · have cut := cutBlock_isCut blanks row text
    rw [membersFrom_cut nonempty]
    intro tree membership
    rcases List.mem_cons.mp membership with rfl | later
    · exact ⟨text, List.suffix_refl text, by rw [block_treeOf]; exact ⟨rfl, rfl⟩⟩
    · obtain ⟨rest, within, cutLater⟩ := cutFrom_membersFrom _ _ _ _ tree later
      exact ⟨rest, within.trans ⟨_, cut.append.symm⟩, cutLater⟩
termination_by text.length
decreasing_by exact cut.rest_length_lt nonempty

/-- Every block of a text is cut off what is left of the text where it starts. -/
theorem cutFrom_parse {row : Int} (membership : block ∈ (parse text row).blocks) :
    ∃ rest, rest <:+ text ∧ block.CutFrom rest := by
  obtain ⟨tree, inMembers, rfl⟩ := exists_tree_of_mem_blocks membership
  obtain ⟨rest, within, cut⟩ := cutFrom_membersFrom _ _ _ _ tree inMembers
  exact ⟨rest, within.trans (List.drop_suffix _ _), cut⟩

end Outline

/-- The body of a block is read from right after the brace that follows `head`. -/
def Block.OpensAfter (block : Block) (head : Text) : Prop :=
  ∃ opened, block.raw = head ++ '{' :: opened ∧
    block.body? = some ⟨deindent (Body.dropClosing opened), block.row + head.count '\n'⟩

/-- What is taken for a callable block starts with its header, and the braces measure it. -/
theorem exists_callableHeader (callable : (classify text).kind.IsCallable) :
    (classify text).length = braced text ∧
      ∃ parameters header inner, CallableHeader parameters header (classify text).kind ∧
        text = header ++ '{' :: inner := by
  have nonempty : text ≠ [] := by
    rintro rfl
    rcases callable with isFunction | isMethod
    · cases isFunction
    · cases isMethod
  rcases classify_cases nonempty with ⟨recognised, -⟩ | unknown
  · generalize classify text = result at callable recognised
    cases recognised with
    | functionDecl found =>
        obtain ⟨inner, read⟩ := Option.isSome_iff_exists.mp found
        obtain ⟨parameters, header, isHeader, split⟩ := function?_eq_some.mp read
        exact ⟨rfl, parameters, header, inner, .function isHeader, split⟩
    | methodDecl found =>
        obtain ⟨inner, read⟩ := Option.isSome_iff_exists.mp found
        obtain ⟨parameters, header, isHeader, split⟩ := method?_eq_some.mp read
        exact ⟨rfl, parameters, header, inner, .method isHeader, split⟩
    | _ => simp [BlockKind.IsCallable] at callable
  · simp [BlockKind.IsCallable, unknown, Classified.unknownRow] at callable

theorem body?_of_callable (callable : block.kind.IsCallable) :
    block.body? = some (Body.read block.raw (findChar? '{' block.raw) block.row) := by
  rcases callable with kind | kind
  · simp only [Block.body?, Block.info, kind, BlockInfo.read]
    rfl
  · simp only [Block.body?, Block.info, kind, BlockInfo.read]
    rfl

/-- The body of a callable block is read from its first brace on. -/
theorem opensAfter_first (callable : block.kind.IsCallable) (cut : block.CutFrom (head ++ '{' :: rest))
    (fresh : '{' ∉ head) : block.OpensAfter head := by
  have length_eq := (exists_callableHeader (cut.kind_eq ▸ callable)).1
  have reaches := braced_gt_brace fresh rest
  obtain ⟨extra, past⟩ : ∃ extra, braced (head ++ '{' :: rest) - head.length = extra + 1 :=
    ⟨_, (Nat.succ_pred_eq_of_pos (by omega)).symm⟩
  have raw_eq : block.raw = head ++ '{' :: rest.take extra := by
    rw [cut.raw_eq, length_eq, List.take_append, List.take_of_length_le (by omega), past,
      List.take_succ_cons]
  refine ⟨rest.take extra, raw_eq, ?_⟩
  have brace : findChar? '{' block.raw = some head.length :=
    findChar?_eq_some.mpr ⟨head, rest.take extra, raw_eq, fresh, rfl⟩
  rw [body?_of_callable callable, brace, raw_eq, Body.read_eq]

/-- A callable block reaches past the brace that ends its header, and its body starts right after
that brace, when no brace stands in the parameters.  The first brace in the parameters is taken for
the one that opens the body, and then the block reaches past its header exactly when that brace stays
open up to the end of the parameters. -/
theorem cut_of_callable (cut : block.CutFrom text) (callable : block.kind.IsCallable) :
    (∃ parameters header inner, CallableHeader parameters header block.kind ∧
      text = header ++ '{' :: inner) ∧
    ∀ parameters header inner, CallableHeader parameters header block.kind →
      text = header ++ '{' :: inner →
      ('{' ∉ parameters → header.length < (classify text).length ∧ block.OpensAfter header) ∧
      ∀ before after, parameters = before ++ '{' :: after → '{' ∉ before →
        (header.length < (classify text).length ↔ StaysOpen 1 after) ∧
        ∃ lead, lead ++ parameters <+: header ∧ block.OpensAfter (lead ++ before) := by
  have isCallable : (classify text).kind.IsCallable := cut.kind_eq ▸ callable
  obtain ⟨length_eq, found⟩ := exists_callableHeader isCallable
  refine ⟨cut.kind_eq ▸ found, ?_⟩
  rintro parameters header inner isHeader rfl
  obtain ⟨plainLead, plainTrail⟩ := isHeader.holdsParameters
  rename_i lead trail
  constructor
  · intro plain
    have fresh : '{' ∉ lead ++ (parameters ++ trail) := by
      simp [plain, plainLead.1, plainTrail.1]
    exact ⟨length_eq ▸ braced_gt_brace fresh inner, opensAfter_first callable cut fresh⟩
  · rintro before after rfl isFirst
    have fresh : '{' ∉ lead ++ before := by simp [isFirst, plainLead.1]
    -- The text is split at the brace in the parameters and at the one after the header.
    have text_eq : lead ++ (before ++ '{' :: after ++ trail) ++ '{' :: inner =
        (lead ++ before) ++ '{' :: ((after ++ trail) ++ '{' :: inner) := by simp
    have header_eq : (lead ++ (before ++ '{' :: after ++ trail)).length =
        ((lead ++ before) ++ '{' :: (after ++ trail)).length := by simp
    refine ⟨?_, lead, ⟨trail, by simp⟩, ?_⟩
    · rw [length_eq, text_eq, header_eq, lt_braced_iff fresh,
        staysOpen_append_of_not_mem plainTrail.2]
    · rw [text_eq] at cut
      exact opensAfter_first callable cut fresh

/-- A method with modifiers and parameters without braces. -/
theorem cut_of_callable_method :
    let text : Text := "static async load(url) \x7b\n  return url\n\x7d\n"
    let header : Text := "static async load(url) "
    let block : Block := ⟨.methodDecl, text.take 39, 4, 0, 0, [], []⟩
    block.CutFrom text ∧ block.kind.IsCallable ∧
      CallableHeader "url".toList header block.kind ∧ header.length < (classify text).length ∧
      block.OpensAfter header := by
  intro text header block
  have cut : block.CutFrom text := ⟨by decide +kernel, by decide +kernel⟩
  have callable : block.kind.IsCallable := .inr rfl
  have modified : Modifiers ("static".toList ++ ([' '] ++ ("async".toList ++ ([' '] ++ [])))) :=
    .cons (by decide) (by decide) (.cons (by decide) (by decide) .nil)
  have isList : Parenthesised "url".toList ([] ++ '(' :: ("url".toList ++ ')' :: [' '])) :=
    .intro (by decide) (List.all_eq_true.mp (by decide)) (by decide)
  have isName : Run isNameChar "load".toList := by decide
  have isHeader : CallableHeader "url".toList header block.kind :=
    .method (.intro (show Gap [] by decide) modified isName isList (by decide))
  have reaches := ((cut_of_callable cut callable).2 _ header "\n  return url\n\x7d\n".toList isHeader
    (by decide)).1 (by decide)
  exact ⟨cut, callable, isHeader, reaches⟩

/-- A function is cut off among its parameters when they are taken apart in braces, and its body is
what stands between these. -/
theorem cut_in_parameters_of_braced :
    let text : Text := "function f(\x7ba, b\x7d) \x7b\n  return a\n\x7d\n"
    let header : Text := "function f(\x7ba, b\x7d) "
    let block : Block := ⟨.functionDecl, text.take (classify text).length, 1, 0, 0, [], []⟩
    block.CutFrom text ∧ CallableHeader "\x7ba, b\x7d".toList header block.kind ∧
      (∃ inner, text = header ++ '{' :: inner) ∧ (classify text).length < header.length ∧
      block.body? = some ⟨"a, b".toList, 1⟩ := by
  intro text header block
  have isList : Parenthesised "\x7ba, b\x7d".toList ([] ++ '(' :: ("\x7ba, b\x7d".toList ++ ')' :: [' '])) :=
    .intro (by decide) (List.all_eq_true.mp (by decide)) (by decide)
  have isHeader : CallableHeader "\x7ba, b\x7d".toList header block.kind :=
    .function (.named (show Gap [] by decide) .absent (show Run isSeparator [' '] by decide)
      (show Run isNameChar ['f'] by decide) isList)
  exact ⟨⟨by decide +kernel, rfl⟩, isHeader, ⟨"\n  return a\n\x7d\n".toList, by decide⟩,
    by decide +kernel, by decide +kernel⟩

end Docweave
