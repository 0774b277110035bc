import Docweave.Forest.Basic

/-!
# Links between blocks

Neighbouring blocks of a content are linked on three levels. On the first all are; on the second only
those without a blank row in between; on the third a comment with a blank row after it stands alone. The
links follow from the order of the blocks and their blank rows, so that none is ever stored.
-/

namespace Docweave

/-- A level of links. -/
inductive Level where
  | all
  | adjacent
  | grouped
  deriving DecidableEq, Repr, Inhabited

/-- There is no level of this number. -/
structure UnknownLevel where
  number : Int
  deriving DecidableEq, Repr

/-- What is said about an unknown level. -/
def UnknownLevel.message (error : UnknownLevel) : Text := "Unknown link level: " ++ Text.ofInt error.number

namespace Level

/-- The level of a number. -/
def ofNumber (number : Int) : Except UnknownLevel Level :=
  if number = 0 then .ok .all
  else if number = 1 then .ok .adjacent
  else if number = 2 then .ok .grouped
  else .error ⟨number⟩

/-- Whether two neighbours are linked. -/
def linked : Level → (before after : Block) → Bool
  | .all, _, _ => true
  | .adjacent, _, after => after.blankBefore == 0
  | .grouped, before, after => !before.isIsolatedComment && !after.isIsolatedComment

end Level

/-- A direction in a content. -/
inductive Direction where
  | backward
  | forward
  deriving DecidableEq, Repr, Inhabited

namespace Forest

/-- The neighbour of a block. -/
def sibling? (forest : Forest) (direction : Direction) (id : BlockId) : Option BlockId :=
  match (forest.entry id).place with
  | none => none
  | some place =>
    match direction with
    | .forward => (forest.members place.content)[place.index + 1]?
    | .backward =>
      match place.index with
      | 0 => none
      | index + 1 => (forest.members place.content)[index]?

/-- The neighbour of a block that is linked to it. -/
def step? (forest : Forest) (level : Level) (direction : Direction) (id : BlockId) : Option BlockId :=
  match forest.sibling? direction id with
  | none => none
  | some other =>
    let linked :=
      match direction with
      | .forward => level.linked (forest.block id) (forest.block other)
      | .backward => level.linked (forest.block other) (forest.block id)
    if linked then some other else none

/-- At most `fuel` blocks that are reached link by link, nearest first. -/
def walkFrom (forest : Forest) (level : Level) (direction : Direction) : (fuel : Nat) → BlockId →
    List BlockId
  | 0, _ => []
  | fuel + 1, id =>
    match forest.step? level direction id with
    | none => []
    | some other => other :: walkFrom forest level direction fuel other

/-- The blocks that are reached link by link, nearest first. No walk is longer than the number of
blocks. -/
def walk (forest : Forest) (level : Level) (direction : Direction) (id : BlockId) : List BlockId :=
  forest.walkFrom level direction forest.entries.size id

/-- Whether a block is of one of several kinds, where no list of kinds stands for all. -/
def hasKind (forest : Forest) (kinds : Option (List BlockKind)) (id : BlockId) : Bool :=
  match kinds with
  | none => true
  | some kinds => kinds.contains (forest.block id).kind

/-- The blocks of some kinds that are reached link by link, nearest first. -/
def allFrom (forest : Forest) (level : Level) (direction : Direction) (kinds : Option (List BlockKind))
    (id : BlockId) : List BlockId :=
  (forest.walk level direction id).filter (forest.hasKind kinds)

/-- The first block of some kinds that is reached link by link. -/
def next? (forest : Forest) (level : Level) (direction : Direction) (kinds : Option (List BlockKind))
    (id : BlockId) : Option BlockId :=
  (forest.walk level direction id).find? (forest.hasKind kinds)

/-- The last block that is reached link by link, or the block itself. -/
def farthest (forest : Forest) (level : Level) (direction : Direction) (id : BlockId) : BlockId :=
  ((forest.walk level direction id).getLast?).getD id

/-- The blocks that are linked to a block in either direction and the block itself, in order. -/
def chain (forest : Forest) (level : Level) (kinds : Option (List BlockKind)) (id : BlockId) :
    List BlockId :=
  let first := forest.farthest level .backward id
  (first :: forest.walk level .forward first).filter (forest.hasKind kinds)

/-- The comment kinds. -/
def commentKinds : Option (List BlockKind) := some (BlockKind.all.filter BlockKind.isComment)

/-- The kinds of code. -/
def codeKinds : Option (List BlockKind) := some (BlockKind.all.filter BlockKind.isCode)

/-- The comment that documents a block: the nearest one before it without a blank row in between. -/
def note? (forest : Forest) (id : BlockId) : Option BlockId :=
  forest.next? .adjacent .backward commentKinds id

/-- The level of a number, where an unknown one matters only if there is a neighbour to test it on. -/
def levelFor (forest : Forest) (number : Int) (directions : List Direction) (id : BlockId) :
    Except UnknownLevel Level :=
  match Level.ofNumber number with
  | .ok level => .ok level
  | .error error =>
    if directions.any fun direction => (forest.sibling? direction id).isSome then .error error
    else .ok .all

end Forest

end Docweave
