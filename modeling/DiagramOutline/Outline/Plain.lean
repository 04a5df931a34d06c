import DiagramOutline.Block
import DiagramOutline.Header
import DiagramOutline.Interior
import DiagramOutline.Label
import DiagramOutline.Statement
import DiagramOutline.Text.Digit

/-! # Outlines read off the text

The outline of a source, found by reading its lines and counting its braces. Every statement becomes
a block, the interior of its body is outlined in the same way, and blocks that are named by
directives are left out in the end.

* **`Statement.name statement index`** — the name of a statement, which is the `index`-th one of its
  text; `Statement.placeName` is the name by its place.
* **`Outline.allBlocks source`** — the blocks of all statements, directives included at the top.
* **`Outline.plain source`** — the outline: the blocks that no directive names. -/

namespace DiagramOutline

namespace Statement

/-- The name of a statement **by its place**: by its number among the statements of its text if it
has a body, else by its line, both counted from one. -/
def placeName (statement : Statement) (index : Nat) : Text :=
  if statement.hasBody then "block-".toList ++ Text.ofNat (index + 1)
  else "line-".toList ++ Text.ofNat (statement.line + 1)

section PlaceName

variable {statement : Statement} (index : Nat)

/-- The name by place of a statement **with a body**. -/
theorem placeName_of_hasBody (h : statement.hasBody = true) :
    statement.placeName index = "block-".toList ++ Text.ofNat (index + 1) := if_pos h

/-- The name by place of a statement **without a body**. -/
theorem placeName_of_not_hasBody (h : statement.hasBody = false) :
    statement.placeName index = "line-".toList ++ Text.ofNat (statement.line + 1) := by
  rw [placeName, h, if_neg Bool.false_ne_true]

/-- A name by place is **not empty**. -/
theorem placeName_ne_nil : statement.placeName index ≠ [] := by
  unfold placeName
  split <;> simp

/-- A name by place is made of the **two words** and of digits. -/
theorem of_mem_placeName {index : Nat} {c : Char} (h : c ∈ statement.placeName index) :
    c ∈ "block-".toList ++ "line-".toList ∨ c.isDigit = true := by
  unfold placeName at h
  split at h
  · exact (List.mem_append.1 h).imp (List.mem_append_left _) Text.isDigit_of_mem_ofNat
  · exact (List.mem_append.1 h).imp (List.mem_append_right _) Text.isDigit_of_mem_ofNat

end PlaceName

/-- The **name** of the statement that is number `index` of its text, counted from zero. A statement
whose header has no name is called by its place. -/
def name (statement : Statement) (index : Nat) : Text :=
  match Header.name statement.first with
  | [] => statement.placeName index
  | name => name

/-- A statement whose **header has no name** is called by its place. -/
theorem name_of_eq_nil {statement : Statement} (h : Header.name statement.first = [])
    (index : Nat) : statement.name index = statement.placeName index := by
  rw [name, h]

/-- The **label** of a statement. -/
def label (statement : Statement) : Option Text :=
  if statement.hasBody then Label.ofBody statement.code else Label.ofStatement statement.code

/-- The **interior** of the body of a statement, from its first line with text on. -/
def interior? (statement : Statement) : Option Interior :=
  if statement.hasBody then
    (Interior.ofCode? statement.line statement.code).bind Interior.trimmed?
  else none

/-- An interior is shorter than its statement. -/
theorem length_interior?_lt {statement : Statement} {interior : Interior}
    (h : statement.interior? = some interior) : interior.text.length < statement.code.length := by
  unfold interior? at h
  split at h
  · obtain ⟨whole, hwhole, htrimmed⟩ := Option.bind_eq_some_iff.1 h
    exact Nat.lt_of_le_of_lt (Interior.length_text_le_of_trimmed? htrimmed)
      (Interior.length_text_lt_of_ofCode? hwhole)
  · cases h

/-- The interior of a statement of a source is shorter than the source. -/
theorem length_interior_lt {source : Text} {statement : Statement} {interior : Interior}
    (hmem : statement ∈ statements 0 source.lines) (h : statement.interior? = some interior) :
    interior.text.length < source.length :=
  Nat.lt_of_lt_of_le (length_interior?_lt h) (length_code_le_of_mem_statements hmem)

/-- No statement has an empty name. -/
theorem name_ne_nil (statement : Statement) (index : Nat) : statement.name index ≠ [] := by
  unfold name
  split
  · exact placeName_ne_nil index
  · assumption

end Statement

namespace Outline

/-- The blocks of **all statements** of a source; those named by directives are left out of the
children, but not here. -/
def allBlocks (source : Text) : List Block :=
  (statements 0 source.lines).attach.zipIdx.map fun (⟨statement, _member⟩, index) =>
    { name := statement.name index
      code := statement.code
      startLine := statement.line
      endLine := statement.lastLine
      label := statement.label
      children :=
        match _inside : statement.interior? with
        | none => none
        | some interior =>
          Block.adopt interior.line source.lines
            (Block.withoutDirectives (allBlocks interior.text)) }
termination_by source.length
decreasing_by
  exact Nat.lt_of_lt_of_le (Statement.length_interior?_lt _inside)
    (length_code_le_of_mem_statements _member)

/-- The **outline** of a source, read off its text. -/
def plain (source : Text) : List Block := Block.withoutDirectives (allBlocks source)

/-- The children of the block of a statement of `source`. -/
def childrenOf (source : Text) (statement : Statement) : Option (List Block) :=
  statement.interior?.bind fun interior =>
    Block.adopt interior.line source.lines (plain interior.text)

/-- The block of the statement that is number `index` of `source`. -/
def blockOf (source : Text) (statement : Statement) (index : Nat) : Block :=
  { name := statement.name index
    code := statement.code
    startLine := statement.line
    endLine := statement.lastLine
    label := statement.label
    children := childrenOf source statement }

/-- The blocks of a source are those of its **statements**, one for one and in order. -/
theorem allBlocks_eq (source : Text) :
    allBlocks source =
      (statements 0 source.lines).zipIdx.map fun (statement, index) =>
        blockOf source statement index := by
  have hattach : (statements 0 source.lines).zipIdx =
      (statements 0 source.lines).attach.zipIdx.map fun (statement, index) =>
        (statement.1, index) := by
    calc (statements 0 source.lines).zipIdx
        = ((statements 0 source.lines).attach.map Subtype.val).zipIdx := by
          rw [List.attach_map_subtype_val]
      _ = _ := by rw [List.zipIdx_map]; rfl
  rw [allBlocks, hattach, List.map_map]
  refine List.map_congr_left fun placed _ => ?_
  obtain ⟨⟨statement, hmem⟩, index⟩ := placed
  simp only [Function.comp_apply, blockOf, childrenOf, plain, Block.mk.injEq, true_and]
  split
  · next h => rw [h]; rfl
  · next interior h => rw [h]; rfl

end Outline

end DiagramOutline
