import Docweave.Terminal.Markup

/-!
# Drawn trees

A tree is drawn with a row for each label, or several when the label does not fit into one. Lines lead from a label
to those below it.
-/

namespace Docweave.Terminal

/-- A label, which holds markup, and the trees below it. -/
inductive Branches where
  | node (label : Text) (below : List Branches)

namespace Branches

/-- Draw a label behind the lines of what is above it: those of its first row, and those of its further rows. -/
def drawLabel (first further label : Text) : Except MarkupError (List Text) := do
  let shown ← Markup.read label
  match Fit.rows .free .fold (screenWidth - first.length) shown with
  | [] => return []
  | row :: rows => return (first ++ row) :: rows.map (further ++ ·)

/-- Draw trees one below the other, behind the lines of what is above them. -/
def drawAll (lines : Text) : List Branches → Except MarkupError (List Text)
  | [] => .ok []
  | .node label below :: rest => do
    let (corner, line) : Text × Text := if rest.isEmpty then ("└── ", "    ") else ("├── ", "│   ")
    let shown ← drawLabel (lines ++ corner) (lines ++ line) label
    return shown ++ (← drawAll (lines ++ line) below) ++ (← drawAll lines rest)

/-- Draw a tree, row by row. -/
def draw : Branches → Except MarkupError (List Text)
  | .node label below => do
    return (← drawLabel [] [] label) ++ (← drawAll [] below)

end Branches

end Docweave.Terminal
