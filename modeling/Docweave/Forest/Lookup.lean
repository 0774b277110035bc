import Docweave.Forest.Link

/-!
# Finding blocks

Blocks are found by kind, by the name they declare, and by a path of names that leads into bodies. In a
path, `prototype` after a class leads to its members; without it only static members are found.
-/

namespace Docweave.Forest

/-- The blocks of a content that are of one of several kinds. -/
def ofKinds (forest : Forest) (content : ContentId) (kinds : List BlockKind) : List BlockId :=
  (forest.members content).filter fun id => kinds.contains (forest.block id).kind

/-- The first block of a content that declares a name. -/
def byIdentifier? (forest : Forest) (content : ContentId) (name : Text) : Option BlockId :=
  (forest.members content).find? fun id => (forest.block id).identifier? == some name

/-- The first method of a content with a name. -/
def byMember? (forest : Forest) (content : ContentId) (name : Text) : Option BlockId :=
  (forest.members content).find? fun id => (forest.block id).member? == some name

/-- The first block of a content with a name; a declared name comes before that of a method. -/
def byName? (forest : Forest) (content : ContentId) (name : Text) : Option BlockId :=
  forest.byIdentifier? content name <|> forest.byMember? content name

/-- The word that leads from a class to its members. -/
def prototypeName : Text := "prototype"

/-- Keep a block only if it is a static method. -/
def keepStatic (forest : Forest) (found : Option BlockId) : Option BlockId :=
  found.filter fun id => (forest.block id).isStatic

/-- The block at the end of a path of names that starts in a content. -/
def byPath? (forest : Forest) : ContentId → List Text → Option BlockId
  | _, [] => none
  | content, [name] => forest.byName? content name
  | content, name :: next :: more =>
    match forest.byName? content name with
    | none => none
    | some first =>
      match (forest.entry first).nested with
      | none => none
      | some inner =>
        if (forest.block first).kind = .classDecl then
          if next = prototypeName then byPath? forest inner more
          else forest.keepStatic (byPath? forest inner (next :: more))
        else byPath? forest inner (next :: more)

/-- The block at the end of a path of names that starts in the body of a block. -/
def byPathInside? (forest : Forest) (id : BlockId) (path : List Text) : Option BlockId :=
  match (forest.entry id).nested, path with
  | none, _ => none
  | _, [] => none
  | some inner, next :: more =>
    if (forest.block id).kind = .classDecl then
      if next = prototypeName then forest.byPath? inner more
      else forest.keepStatic (forest.byPath? inner (next :: more))
    else forest.byPath? inner (next :: more)

/-- The names of a dotted path. -/
def splitPath (path : Text) : List Text := Text.splitChar '.' path

/-- The methods of a class with their arguments. -/
def declaredMethods (forest : Forest) (id : BlockId) : List (Option Text × List Text) :=
  match (forest.block id).kind, (forest.entry id).nested with
  | .classDecl, some inner =>
    (forest.ofKinds inner [.methodDecl]).map fun method =>
      ((forest.block method).member?, (forest.block method).args)
  | _, _ => []

/-- The documented fields of a content: the name of each block, the field and its value, in order. -/
def fieldsOf (forest : Forest) (content : ContentId) : List (Text × Text × FieldValue) :=
  (forest.members content).flatMap fun id =>
    (forest.entry id).fields.map fun (name, value) => ((forest.displayName? id).getD [], name, value)

/-- The documented fields of a content by dotted path. -/
def fieldList (forest : Forest) (content : ContentId) (lead : List Text) : List (Text × FieldValue) :=
  (forest.fieldsOf content).foldl
    (fun listed (owner, name, value) =>
      Value.putEntry (· == ·) (Text.join ['.'] (lead ++ [owner, name])) value listed) []

/-- The documented fields of a content by the name of the block. -/
def fieldTree (forest : Forest) (content : ContentId) : List (Text × List (Text × FieldValue)) :=
  (forest.fieldsOf content).foldl
    (fun tree (owner, name, value) =>
      let known := ((tree.find? fun branch => branch.1 == owner).map Prod.snd).getD []
      Value.putEntry (· == ·) owner (Value.putEntry (· == ·) name value known) tree) []

/-- The paths of the documented fields of a content. -/
def fieldPaths (forest : Forest) (content : ContentId) (lead : List Text) : List (List Text) :=
  (forest.fieldsOf content).map fun (owner, name, _) => lead ++ [owner, name]

/-- The content of a class and the names that lead to its members. -/
def classMembers? (forest : Forest) (id : BlockId) : Option (ContentId × List Text) :=
  match (forest.block id).kind, (forest.entry id).nested with
  | .classDecl, some inner => some (inner, [(forest.displayName? id).getD [], prototypeName])
  | _, _ => none

end Docweave.Forest
