import DiagramOutline.Keyword
import DiagramOutline.Text.Slice

/-! # Blocks

A block is a named run of lines of a source, with its label and the blocks inside its body. Line
numbers count from zero, and both ends belong to the block.

* **`Block`** — a block with its children.
* **`Block.preorder depth block`** — the block and all blocks inside it, each with its depth.
* **`Block.place offset lines block`** — a block found in an interior, placed in the lines around
  it.
* **`Block.withoutDirectives blocks`** — the blocks whose names are no directives. -/

namespace DiagramOutline

/-- A **block** of a source. -/
structure Block where
  /-- The name of the block. -/
  name : Text
  /-- The lines of the block, as one text. -/
  code : Text
  /-- The number of the first line. -/
  startLine : Int
  /-- The number of the last line. -/
  endLine : Int
  /-- The label, if the block has one. -/
  label : Option Text
  /-- The blocks inside the body, if there are any. -/
  children : Option (List Block)
  deriving Repr

namespace Block

/-! ## Comparing blocks -/

mutual

/-- Whether two blocks are **equal**, children included. -/
def decEq : (first second : Block) → Decidable (first = second)
  | ⟨name, code, startLine, endLine, label, children⟩,
    ⟨name', code', startLine', endLine', label', children'⟩ =>
    match decEqChildren children children' with
    | isFalse hne => isFalse fun heq => hne (Block.mk.inj heq).2.2.2.2.2
    | isTrue hchildren =>
      if h : name = name' ∧ code = code' ∧ startLine = startLine' ∧ endLine = endLine' ∧
          label = label' then
        isTrue (by rw [h.1, h.2.1, h.2.2.1, h.2.2.2.1, h.2.2.2.2, hchildren])
      else isFalse fun heq => h (by cases heq; exact ⟨rfl, rfl, rfl, rfl, rfl⟩)

/-- Whether the children of two blocks are equal. -/
def decEqChildren : (first second : Option (List Block)) → Decidable (first = second)
  | none, none => isTrue rfl
  | none, some _ => isFalse nofun
  | some _, none => isFalse nofun
  | some blocks, some blocks' =>
    match decEqAll blocks blocks' with
    | isTrue heq => isTrue (congrArg some heq)
    | isFalse hne => isFalse fun heq => hne (Option.some.inj heq)

/-- Whether two lists of blocks are equal. -/
def decEqAll : (first second : List Block) → Decidable (first = second)
  | [], [] => isTrue rfl
  | [], _ :: _ => isFalse nofun
  | _ :: _, [] => isFalse nofun
  | block :: more, block' :: more' =>
    match decEq block block' with
    | isFalse hne => isFalse fun heq => hne (List.cons.inj heq).1
    | isTrue hblock =>
      match decEqAll more more' with
      | isTrue hmore => isTrue (by rw [hblock, hmore])
      | isFalse hne => isFalse fun heq => hne (List.cons.inj heq).2

end

instance : DecidableEq Block := decEq

/-! ## Walking the blocks -/

mutual

/-- A block and the blocks inside it, a block before its children, each with its **depth** when the
block itself has the given one. -/
def preorder (depth : Nat) : Block → List (Nat × Block)
  | ⟨name, code, startLine, endLine, label, children⟩ =>
    (depth, ⟨name, code, startLine, endLine, label, children⟩) ::
      preorderChildren (depth + 1) children

/-- The blocks that are the children of a block, and the blocks inside them. -/
def preorderChildren (depth : Nat) : Option (List Block) → List (Nat × Block)
  | none => []
  | some blocks => preorderAll depth blocks

/-- The blocks of a list and the blocks inside them. -/
def preorderAll (depth : Nat) : List Block → List (Nat × Block)
  | [] => []
  | block :: more => preorder depth block ++ preorderAll depth more

end

/-! ## Placing blocks -/

/-- The **lines** from one number up to and with another, as one text. A number below zero counts
from the end. -/
def linesBetween (lines : List Text) (first last : Int) : Text :=
  Text.unlines (slice lines first (last + 1))

mutual

/-- A block found in an interior, **placed** in the lines around it: all its numbers grow by
`offset`, and its code is taken from `lines`, so that it has whole lines also where it shares one
with a brace. -/
def place (offset : Int) (lines : List Text) : Block → Block
  | ⟨name, _, startLine, endLine, label, children⟩ =>
    ⟨name, linesBetween lines (startLine + offset) (endLine + offset), startLine + offset,
      endLine + offset, label, placeChildren offset lines children⟩

/-- The children of a block, placed in the lines around it. -/
def placeChildren (offset : Int) (lines : List Text) : Option (List Block) → Option (List Block)
  | none => none
  | some [] => none
  | some (child :: more) => some (place offset lines child :: placeAll offset lines more)

/-- Blocks, each placed in the lines around it. -/
def placeAll (offset : Int) (lines : List Text) : List Block → List Block
  | [] => []
  | block :: more => place offset lines block :: placeAll offset lines more

end

/-- Placing the blocks of a list places each of them. -/
theorem placeAll_eq_map (offset : Int) (lines : List Text) (blocks : List Block) :
    placeAll offset lines blocks = blocks.map (place offset lines) := by
  induction blocks with
  | nil => rfl
  | cons block more ih => simp [placeAll, ih]

/-- The blocks of an interior as the **children** of a block: placed in the lines around the
interior, and absent where there are none. -/
def adopt (offset : Int) (lines : List Text) : List Block → Option (List Block)
  | [] => none
  | block :: more => some (placeAll offset lines (block :: more))

/-- No block has an empty list of children after it was adopted. -/
theorem adopt_ne_some_nil (offset : Int) (lines : List Text) (blocks : List Block) :
    adopt offset lines blocks ≠ some [] := by
  cases blocks <;> simp [adopt, placeAll]

/-! ## Directives -/

/-- Whether a block is **named by a directive**. -/
def isDirective (block : Block) : Bool := Keyword.isDirective block.name

/-- The blocks that are **not** named by directives. -/
def withoutDirectives (blocks : List Block) : List Block :=
  blocks.filter fun block => !block.isDirective

/-- Exactly the blocks with names other than directives are kept. -/
theorem mem_withoutDirectives {blocks : List Block} {block : Block} :
    block ∈ withoutDirectives blocks ↔ block ∈ blocks ∧ Keyword.isDirective block.name = false := by
  simp [withoutDirectives, isDirective]

end Block

end DiagramOutline
