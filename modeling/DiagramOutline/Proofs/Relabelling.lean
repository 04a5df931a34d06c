import DiagramOutline.Proofs.Forest

/-! # Blocks with other labels

Nothing else of a block depends on its label, so a result about all but the labels of an outline is
one about its blocks with the labels changed, and where a block is placed does not matter to that.

* **`Block.relabel change block`** — `block` with its labels changed at every depth.
* **`Block.relabel_place`**, **`Block.relabelChildren_adopt`** — labels are changed before or after
  blocks are placed and adopted. -/

namespace DiagramOutline.Block

mutual

/-- A block with its labels **changed**: its own and those of all blocks inside it. -/
def relabel (change : Option Text → Option Text) : Block → Block
  | ⟨name, code, startLine, endLine, label, children⟩ =>
    ⟨name, code, startLine, endLine, change label, relabelChildren change children⟩

/-- The children of a block, with their labels changed. -/
def relabelChildren (change : Option Text → Option Text) :
    Option (List Block) → Option (List Block)
  | none => none
  | some blocks => some (relabelAll change blocks)

/-- Blocks, each with its labels changed. -/
def relabelAll (change : Option Text → Option Text) : List Block → List Block
  | [] => []
  | block :: more => relabel change block :: relabelAll change more

end

variable {change : Option Text → Option Text}

/-- Changing the labels of a list of blocks changes those of **each**. -/
theorem relabelAll_eq_map (blocks : List Block) :
    relabelAll change blocks = blocks.map (relabel change) := by
  induction blocks with
  | nil => rfl
  | cons block more ih => rw [relabelAll, ih, List.map_cons]

mutual

/-- Labels that are not changed make **no other block**. -/
theorem relabel_id : (block : Block) → relabel id block = block
  | ⟨name, code, startLine, endLine, label, children⟩ => by
    rw [relabel, relabelChildren_id children]
    rfl

/-- Labels that are not changed make no other children. -/
theorem relabelChildren_id : (children : Option (List Block)) →
    relabelChildren id children = children
  | none => rfl
  | some blocks => congrArg some (relabelAll_id blocks)

/-- Labels that are not changed make no other blocks. -/
theorem relabelAll_id : (blocks : List Block) → relabelAll id blocks = blocks
  | [] => rfl
  | block :: more => by rw [relabelAll, relabel_id block, relabelAll_id more]

end

/-- Labels that are not changed make **no other forest**. -/
theorem map_relabel_id (blocks : List Block) : blocks.map (relabel id) = blocks := by
  rw [← relabelAll_eq_map, relabelAll_id]

section Place

variable (change) (offset : Int) (lines : List Text)

mutual

/-- Labels are changed **before or after** a block is placed. -/
theorem relabel_place : (block : Block) →
    relabel change (place offset lines block) = place offset lines (relabel change block)
  | ⟨name, code, startLine, endLine, label, children⟩ => by
    simp only [place, relabel, relabelChildren_placeChildren children]

/-- Labels are changed before or after children are placed. -/
theorem relabelChildren_placeChildren : (children : Option (List Block)) →
    relabelChildren change (placeChildren offset lines children) =
      placeChildren offset lines (relabelChildren change children)
  | none => rfl
  | some [] => rfl
  | some (child :: more) => by
    simp only [placeChildren, relabelChildren, relabelAll, relabel_place child,
      relabelAll_placeAll more]

/-- Labels are changed before or after blocks are placed. -/
theorem relabelAll_placeAll : (blocks : List Block) →
    relabelAll change (placeAll offset lines blocks) =
      placeAll offset lines (relabelAll change blocks)
  | [] => rfl
  | block :: more => by
    rw [placeAll, relabelAll, relabel_place block, relabelAll_placeAll more, relabelAll, placeAll]

end

end Place

/-- Labels are changed before or after blocks are **adopted**. -/
theorem relabelChildren_adopt (offset : Int) (lines : List Text) (blocks : List Block) :
    relabelChildren change (adopt offset lines blocks) =
      adopt offset lines (blocks.map (relabel change)) := by
  cases blocks with
  | nil => rfl
  | cons block more =>
    rw [adopt, relabelChildren, relabelAll_placeAll, relabelAll_eq_map]
    rfl

/-- Changing labels changes **no name**. -/
@[simp] theorem name_relabel (block : Block) : (block.relabel change).name = block.name := by
  cases block
  rfl

/-- Directives are left out before or after **labels** are changed. -/
theorem withoutDirectives_map_relabel (blocks : List Block) :
    withoutDirectives (blocks.map (relabel change)) =
      (withoutDirectives blocks).map (relabel change) := by
  simp only [withoutDirectives, List.filter_map, Function.comp_def, isDirective, name_relabel]

end DiagramOutline.Block
