import DiagramOutline.Block
import DiagramOutline.Console.Text
import DiagramOutline.Text.Digit

/-! # Trees on a console

A tree is drawn with one line to a title, each branch behind a guide that ties it to the title
above.

* **`Console.Tree`** — a title with branches.
* **`Console.Tree.draw tree`** — the lines of a tree.
* **`Console.Tree.ofBlocks title blocks`** — the tree of blocks under a title. -/

namespace DiagramOutline.Console

/-- A **title** with branches. -/
structure Tree where
  /-- The title. -/
  title : Text
  /-- The branches in order. -/
  branches : List Tree

namespace Tree

/-- The guide of a branch with others **after it**. -/
def middleGuide : Text := "├── ".toList

/-- The guide of the **last** branch. -/
def lastGuide : Text := "└── ".toList

/-- The guide **past** a branch with others after it. -/
def throughGuide : Text := "│   ".toList

/-- The guide past the last branch, which is **blank**. -/
def blankGuide : Text := "    ".toList

/-- Lines with one text in front of the **first** and another in front of all others. -/
def hang (first others : Text) : List Text → List Text
  | [] => []
  | line :: more => (first ++ line) :: more.map (others ++ ·)

mutual

/-- The lines of a tree, with one text in front of the **first** line and another in front of all
others. -/
def drawBehind (first others : Text) : Tree → List Text
  | ⟨title, branches⟩ => hang first others (displayLines title) ++ drawBranches others branches

/-- The lines of **branches** behind a guide. -/
def drawBranches (guide : Text) : List Tree → List Text
  | [] => []
  | [branch] => drawBehind (guide ++ lastGuide) (guide ++ blankGuide) branch
  | branch :: next :: more =>
    drawBehind (guide ++ middleGuide) (guide ++ throughGuide) branch ++
      drawBranches guide (next :: more)

end

/-- The **lines** of a tree. -/
def draw (tree : Tree) : List Text := drawBehind [] [] tree

/-- The **title** of a block: its name, its lines counted from one, and its label. -/
def blockTitle (name : Text) (startLine endLine : Int) (label : Option Text) : Text :=
  name ++ ' ' :: Text.ofInt (startLine + 1) ++ '-' :: Text.ofInt (endLine + 1) ++
    match label with
    | none => []
    | some [] => []
    | some label => ' ' :: label

mutual

/-- The tree of a **block** and the blocks inside it. -/
def ofBlock : Block → Tree
  | ⟨name, _, startLine, endLine, label, children⟩ =>
    ⟨blockTitle name startLine endLine label, ofChildren children⟩

/-- The trees of the **children** of a block. -/
def ofChildren : Option (List Block) → List Tree
  | none => []
  | some blocks => ofAll blocks

/-- The trees of blocks, in order. -/
def ofAll : List Block → List Tree
  | [] => []
  | block :: more => ofBlock block :: ofAll more

end

/-- The tree of **blocks** under a title. -/
def ofBlocks (title : Text) (blocks : List Block) : Tree := ⟨title, ofAll blocks⟩

end Tree

end DiagramOutline.Console
