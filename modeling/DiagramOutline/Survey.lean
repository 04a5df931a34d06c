import DiagramOutline.Metadata.Parsed
import DiagramOutline.Outline.Parsed

/-! # Surveys

The outline of a source together with the metadata of its blocks.

* **`Survey.Entry`** — a block, its depth, and its metadata.
* **`Survey.ofBlocks grammar blocks`** — the entries of blocks with their depths.
* **`Survey.read grammar depth source`** — the entries of all blocks of a source, a block before its
  children. -/

namespace DiagramOutline.Survey

/-- A block with its **metadata**. -/
structure Entry where
  /-- How many blocks the block stands in. -/
  depth : Nat
  /-- The block. -/
  block : Block
  /-- The metadata of its code. -/
  metadata : Metadata
  deriving Repr

/-- The entries of **blocks** with their depths, in order. -/
def ofBlocks (grammar : Option Grammar) : List (Nat × Block) → Logged (List Entry)
  | [] => .quiet []
  | (depth, block) :: more =>
    let metadata := Metadata.read grammar block.code
    ((ofBlocks grammar more).map fun entries =>
      ⟨depth, block, metadata.value⟩ :: entries).after metadata.notices

/-- The entries of the blocks at the **top** of a source. -/
def readTop (grammar : Option Grammar) (depth : Nat) (source : Text) :
    Option (Logged (List Entry)) :=
  (Outline.read grammar depth source).map fun outline =>
    (ofBlocks grammar (outline.value.map fun block => (0, block))).after outline.notices

/-- The entries of **all** blocks of a source, a block before its children. -/
def read (grammar : Option Grammar) (depth : Nat) (source : Text) : Option (Logged (List Entry)) :=
  (Outline.read grammar depth source).map fun outline =>
    (ofBlocks grammar (Block.preorderAll 0 outline.value)).after outline.notices

end DiagramOutline.Survey
