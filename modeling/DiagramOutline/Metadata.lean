import DiagramOutline.Keyword

/-! # Metadata of a block

What a search or a badge shows of a block without its code: how many shapes and connections it has,
how deep it nests, and what kind of diagram it is.

* **`Metadata`** — the metadata of one block.
* **`Category.of code shapes connections depth`** — the kind of diagram that some code is, given
  what was counted in it.
* **`Tally`** — what has been counted so far; `Tally.metadata` closes the count. -/

namespace DiagramOutline

/-! ## Categories -/

/-- The **kind** of diagram that a block is. -/
inductive Category where
  /-- Shapes alone. -/
  | component
  /-- Connections, and at least as many as shapes. -/
  | flow
  /-- A sequence diagram. -/
  | sequence
  /-- A grid. -/
  | grid
  /-- Shapes and fewer connections. -/
  | mixed
  /-- Neither shapes nor connections. -/
  | simple
  deriving DecidableEq, Repr

namespace Category

/-- All **categories**. -/
def all : List Category := [component, flow, sequence, grid, mixed, simple]

/-- The **word** for a category. -/
def word : Category → Text
  | component => "component".toList
  | flow => "flow".toList
  | sequence => "sequence".toList
  | grid => "grid".toList
  | mixed => "mixed".toList
  | simple => "simple".toList

/-- The category that a word **means**. -/
def ofWord? (word : Text) : Option Category := all.find? (·.word = word)

/-- The word for a category means that category. -/
@[simp] theorem ofWord?_word (category : Category) : ofWord? category.word = some category := by
  cases category <;> decide

/-- The **category** of code in which shapes and connections were counted. A marker anywhere in the
code decides before the counts do. -/
def of (code : Text) (shapes connections depth : Int) : Category :=
  if Text.occursIn "sequence_diagram".toList code then sequence
  else if Text.occursIn "grid-columns".toList code || Text.occursIn "grid-rows".toList code then
    grid
  else if 0 < connections ∧ shapes ≤ connections then flow
  else if shapes = 0 ∧ connections = 0 then simple
  else if shapes ≤ 3 ∧ depth ≤ 1 ∧ connections = 0 then component
  else if 0 < shapes ∧ 0 < connections then mixed
  else if 0 < shapes then component
  else simple

end Category

/-! ## The metadata -/

/-- The **metadata** of a block. -/
structure Metadata where
  /-- How many shapes stand at the top of the block. -/
  shapeCount : Nat
  /-- How many connections the block has. -/
  connectionCount : Nat
  /-- How many bodies are open at once where most are. -/
  nestingDepth : Nat
  /-- The kind of diagram. -/
  category : Category
  /-- Whether a style is set. -/
  hasStyles : Bool
  /-- Whether a class is used or defined. -/
  hasClasses : Bool
  /-- The names of the first shapes. -/
  topIdentifiers : List Text
  deriving DecidableEq, Repr

/-- The greatest number of **names** in the metadata of a block. -/
def Metadata.maxTopIdentifiers : Nat := 5

/-! ## Counting -/

/-- What has been **counted** so far. -/
structure Tally where
  /-- The shapes, each once, in the order in which they were met. -/
  shapes : List Text := []
  /-- How many connections were met. -/
  connections : Nat := 0
  /-- The greatest depth that was met. -/
  depth : Nat := 0
  /-- Whether a style was met. -/
  hasStyles : Bool := false
  /-- Whether a class was met. -/
  hasClasses : Bool := false
  deriving DecidableEq, Repr

namespace Tally

/-- The tally with one more **shape**. Nothing is counted for the empty name, a directive, or a
shape that was met before. -/
def addShape (tally : Tally) (name : Text) : Tally :=
  if name.isEmpty || tally.shapes.contains name || Keyword.isDirective name then tally
  else { tally with shapes := tally.shapes ++ [name] }

/-- The tally with one more **connection**. -/
def addConnection (tally : Tally) : Tally := { tally with connections := tally.connections + 1 }

/-- The tally after a **depth** was met. -/
def reach (tally : Tally) (depth : Nat) : Tally := { tally with depth := max tally.depth depth }

/-- Whether a key sets a **style**. -/
def isStyleKey (key : Text) : Bool := key == "style".toList || "style.".toList.isPrefixOf key

/-- Whether a key uses or defines **classes**. -/
def isClassKey (key : Text) : Bool := key == "class".toList || key == "classes".toList

/-- The tally after a **key** was met, which matters only if it sets a style or a class. -/
def noteKey (tally : Tally) (key : Text) : Tally :=
  { tally with
    hasStyles := tally.hasStyles || isStyleKey key
    hasClasses := tally.hasClasses || isClassKey key }

/-- The **metadata** of code in which this was counted. -/
def metadata (tally : Tally) (code : Text) : Metadata where
  shapeCount := tally.shapes.length
  connectionCount := tally.connections
  nestingDepth := tally.depth
  category := .of code tally.shapes.length tally.connections tally.depth
  hasStyles := tally.hasStyles
  hasClasses := tally.hasClasses
  topIdentifiers := tally.shapes.take Metadata.maxTopIdentifiers

/-- Exactly the new name joins the shapes, if it counts as one. -/
theorem mem_shapes_addShape {tally : Tally} {name shape : Text} :
    shape ∈ (tally.addShape name).shapes ↔
      shape ∈ tally.shapes ∨
        shape = name ∧ name ≠ [] ∧ Keyword.isDirective name = false := by
  unfold addShape
  split
  · next h =>
    simp only [Bool.or_eq_true, List.isEmpty_iff, List.contains_iff_mem] at h
    constructor
    · exact Or.inl
    · rintro (hold | ⟨rfl, hne, hdirective⟩)
      · exact hold
      · rcases h with (h | h) | h
        · exact absurd h hne
        · exact h
        · rw [h] at hdirective; cases hdirective
  · next h =>
    simp only [Bool.or_eq_true, List.isEmpty_iff, List.contains_iff_mem, not_or,
      Bool.not_eq_true] at h
    simp [h.1.1, h.2]

/-- No shape is counted twice. -/
theorem nodup_shapes_addShape {tally : Tally} (name : Text) (h : tally.shapes.Nodup) :
    (tally.addShape name).shapes.Nodup := by
  unfold addShape
  split
  · exact h
  · next hnew =>
    simp only [Bool.or_eq_true, List.isEmpty_iff, List.contains_iff_mem, not_or] at hnew
    rw [List.nodup_append]
    refine ⟨h, by simp, ?_⟩
    rintro shape hshape other hother rfl
    rw [List.mem_singleton] at hother
    exact hnew.1.2 (hother ▸ hshape)

end Tally

end DiagramOutline
