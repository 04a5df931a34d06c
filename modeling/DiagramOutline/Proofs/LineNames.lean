import DiagramOutline.Proofs.Ranges
import DiagramOutline.Proofs.Relocation
import DiagramOutline.Proofs.Reports

/-! # Names that tell a line

A statement without a body whose header has no name is called by the number of its line. The number
is that of the line in the text in which the statement was found. For a statement inside a body this
is the interior of the body, from its first line with text on, and the block is moved to its line in
the source afterwards, but keeps the name. So the name tells the line of the source exactly if no
line stands before the interior.

* **`Outline.StandsFor statement index source offset block`** — `block`, which is in the outline of
  `source` at some depth, stands for `statement`, which was found in a text before which `offset`
  lines of the source stand.
* **`Outline.occursIn_plain_iff`** — every block of an outline stands for a statement.
* **`Statement.IsCalledByLine statement`** — `statement` has no name but that of its line.
* **`Block.TellsLine block`** — the name of `block` tells the line on which it starts.
* **`Outline.tellsLine_iff`** — when the name of such a statement does. -/

namespace DiagramOutline

/-- Numbers that are written **alike** are the same. -/
theorem Text.ofNat_inj {first second : Nat} : ofNat first = ofNat second ↔ first = second := by
  constructor
  · intro h
    rw [← numeralValue_ofNat first, h, numeralValue_ofNat]
  · rintro rfl
    rfl

/-- A statement is **called by its line**: it has no body, and its header has no name. -/
structure Statement.IsCalledByLine (statement : Statement) : Prop where
  /-- The statement has no body. -/
  hasBody : statement.hasBody = false
  /-- The header has no name. -/
  headerName : Header.name statement.first = []

instance (statement : Statement) : Decidable statement.IsCalledByLine :=
  decidable_of_iff (statement.hasBody = false ∧ Header.name statement.first = [])
    ⟨fun h => ⟨h.1, h.2⟩, fun h => ⟨h.hasBody, h.headerName⟩⟩

/-- The name of a block **tells the line** of the source on which the block starts, counted from
one. -/
def Block.TellsLine (block : Block) : Prop :=
  block.name = "line-".toList ++ Text.ofInt (block.startLine + 1)

instance (block : Block) : Decidable block.TellsLine :=
  inferInstanceAs (Decidable (_ = _))

/-- A placed block **keeps its name**. -/
@[simp] theorem Block.name_place (offset : Int) (lines : List Text) (block : Block) :
    (place offset lines block).name = block.name := by
  cases block
  rfl

namespace Outline

/-! ## Blocks and their statements -/

/-- A block in the outline of a source **stands for** a statement: for one of the source, or for one
of the interior of a statement that has a block itself. Before the text in which the statement was
found there are `offset` lines of the source. -/
inductive StandsFor (statement : Statement) (index : Nat) : Text → Int → Block → Prop where
  /-- For the statement of that number in the source. -/
  | top {source : Text} : (statement, index) ∈ (statements 0 source.lines).zipIdx →
    Keyword.isDirective (statement.name index) = false →
      StandsFor statement index source 0 (blockOf source statement index)
  /-- For a statement of an interior, or of an interior in it; the block is placed in the source. -/
  | inside {source : Text} {outer : Statement} {outerIndex : Nat} {interior : Interior}
    {offset : Int} {block : Block} : (outer, outerIndex) ∈ (statements 0 source.lines).zipIdx →
    Keyword.isDirective (outer.name outerIndex) = false → outer.interior? = some interior →
      StandsFor statement index interior.text offset block →
        StandsFor statement index source (interior.line + offset)
          (Block.place interior.line source.lines block)

variable {source : Text} {statement : Statement} {index : Nat} {offset : Int} {block : Block}

/-- The blocks **at the top** of an outline are those of the statements that no directive names. -/
theorem mem_plain_iff :
    block ∈ plain source ↔
      ∃ statement index, (statement, index) ∈ (statements 0 source.lines).zipIdx ∧
        Keyword.isDirective (statement.name index) = false ∧
          block = blockOf source statement index := by
  rw [plain, Block.mem_withoutDirectives, allBlocks_eq, List.mem_map]
  constructor
  · rintro ⟨⟨⟨statement, index⟩, hmem, rfl⟩, hname⟩
    exact ⟨statement, index, hmem, hname, rfl⟩
  · rintro ⟨statement, index, hmem, hname, rfl⟩
    exact ⟨⟨(statement, index), hmem, rfl⟩, hname⟩

/-- **Every block of an outline**, at every depth, stands for a statement, and each that does is in
the outline. -/
theorem occursIn_plain_iff :
    block.OccursIn (plain source) ↔
      ∃ statement index offset, StandsFor statement index source offset block := by
  constructor
  · intro h
    -- what occurs inside a block occurs in the outline of an interior, which is a shorter text
    induction hlength : source.length using Nat.strongRecOn generalizing source block with
    | ind length ih =>
      subst hlength
      cases h with
      | top hmem =>
        obtain ⟨statement, index, hstatement, hname, rfl⟩ := mem_plain_iff.1 hmem
        exact ⟨statement, index, 0, .top hstatement hname⟩
      | inside hparent hchildren hin =>
        obtain ⟨outer, outerIndex, houter, hname, rfl⟩ := mem_plain_iff.1 hparent
        obtain ⟨interior, hinterior, rfl⟩ := exists_interior_of_childrenOf hchildren
        obtain ⟨origin, horigin, rfl⟩ := Block.occursIn_map_place hin
        have hshorter : interior.text.length < source.length :=
          Statement.length_interior_lt (List.fst_mem_of_mem_zipIdx houter) hinterior
        obtain ⟨statement, index, offset, hstands⟩ := ih _ hshorter horigin rfl
        exact ⟨statement, index, _, .inside houter hname hinterior hstands⟩
  · rintro ⟨statement, index, offset, h⟩
    induction h with
    | top hmem hname => exact .top (mem_plain_iff.2 ⟨_, _, hmem, hname, rfl⟩)
    | inside houter hname hinterior _ ih =>
      refine .inside (mem_plain_iff.2 ⟨_, _, houter, hname, rfl⟩) ?_ (ih.map_place _ _)
      rw [blockOf, childrenOf, hinterior, Option.bind_some, Block.adopt_eq_some_iff]
      exact ⟨ih.ne_nil, rfl⟩

/-- A block has the **name** of its statement in the text in which that was found. -/
theorem StandsFor.name_eq (h : StandsFor statement index source offset block) :
    block.name = statement.name index := by
  induction h with
  | top _ _ => rfl
  | inside _ _ _ _ ih => rw [Block.name_place, ih]

/-- A block starts on the **line** of its statement, behind the lines before that text. -/
theorem StandsFor.startLine_eq (h : StandsFor statement index source offset block) :
    block.startLine = statement.line + offset := by
  induction h with
  | top _ _ => exact (Int.add_zero _).symm
  | inside _ _ _ _ ih =>
    rw [Block.startLine_place, ih]
    omega

/-- There are **no fewer than zero** lines before a text. -/
theorem StandsFor.offset_nonneg (h : StandsFor statement index source offset block) :
    0 ≤ offset := by
  induction h with
  | top _ _ => exact Int.le_refl 0
  | inside houter _ hinterior _ ih =>
    have hline := (Statement.line_add_count_le_of_interior?
      (List.fst_mem_of_mem_zipIdx houter) hinterior).1
    omega

/-! ## Names that tell a line -/

/-- A block of a statement that is called by its line has the **number of that line** in the text in
which the statement was found. -/
theorem StandsFor.name_eq_line_iff (h : StandsFor statement index source offset block)
    (hcalled : statement.IsCalledByLine) (number : Nat) :
    block.name = "line-".toList ++ Text.ofNat number ↔
      (number : Int) + offset = block.startLine + 1 := by
  have hname : block.name = "line-".toList ++ Text.ofNat (statement.line + 1) := by
    rw [h.name_eq, Statement.name_of_eq_nil hcalled.headerName,
      Statement.placeName_of_not_hasBody _ hcalled.hasBody]
  rw [hname, List.append_cancel_left_eq, Text.ofNat_inj, h.startLine_eq]
  omega

/-- **When a name tells its line.** Every block of an outline, at every depth, stands for a
statement. If that one has no body and a header without a name, the name of the block is the number
of its line, counted from the first line with text of the interior in which it was found: it is less
than that of the line of the source by the lines before that. So it tells the line of the source
exactly if there are none, as there are none at the top. -/
theorem tellsLine_iff (source : Text) :
    (∀ block : Block, block.OccursIn (plain source) ↔
      ∃ statement index offset, StandsFor statement index source offset block) ∧
    (∀ block ∈ plain source, ∃ statement index, StandsFor statement index source 0 block) ∧
    ∀ statement index offset block, StandsFor statement index source offset block →
      statement.IsCalledByLine →
        0 ≤ offset ∧
        (∀ number : Nat, block.name = "line-".toList ++ Text.ofNat number ↔
          (number : Int) + offset = block.startLine + 1) ∧
        (block.TellsLine ↔ offset = 0) := by
  refine ⟨fun _ => occursIn_plain_iff, ?_, ?_⟩
  · intro block hmem
    obtain ⟨statement, index, hstatement, hname, rfl⟩ := mem_plain_iff.1 hmem
    exact ⟨statement, index, .top hstatement hname⟩
  · intro statement index offset block h hcalled
    refine ⟨h.offset_nonneg, h.name_eq_line_iff hcalled, ?_⟩
    have hstart := h.startLine_eq
    have hoffset := h.offset_nonneg
    have hofInt : Text.ofInt (block.startLine + 1) = Text.ofNat (block.startLine + 1).toNat := by
      rw [Text.ofInt, if_neg (by omega)]
      congr 1
      omega
    rw [Block.TellsLine, hofInt, h.name_eq_line_iff hcalled]
    omega

/-- A source with a line without a name in a body **inside another body**. -/
def deepLineSource : Text := "a \x7b\n\n  b \x7b c\n    \"x\"\n  \x7d\n\x7d".toList

/-- That line is the second one of its interior, before which there are **two** lines of the
source. -/
theorem name_deepLine :
    ∃ statement index offset block, StandsFor statement index deepLineSource offset block ∧
      statement.IsCalledByLine ∧ block.name = "line-2".toList ∧ block.startLine = 3 ∧
        (block.TellsLine ↔ offset = 0) ∧ ¬ block.TellsLine := by
  let outer : Statement := ⟨0, "a \x7b".toList,
    [[], "  b \x7b c".toList, "    \"x\"".toList, "  \x7d".toList, "\x7d".toList]⟩
  let inner : Statement := ⟨0, "  b \x7b c".toList, ["    \"x\"".toList, "  \x7d".toList]⟩
  let statement : Statement := ⟨1, "    \"x\"".toList, []⟩
  have houter : outer.interior? = some ⟨2, "  b \x7b c\n    \"x\"\n  \x7d\n".toList⟩ := by
    decide +kernel
  have hinner : inner.interior? = some ⟨0, " c\n    \"x\"\n  ".toList⟩ := by decide +kernel
  -- each statement is number so-and-so of its text, and no directive
  have htop : (outer, 0) ∈ (statements 0 deepLineSource.lines).zipIdx := by decide +kernel
  have hbody : (inner, 0) ∈
      (statements 0 (Text.lines "  b \x7b c\n    \"x\"\n  \x7d\n".toList)).zipIdx := by
    decide +kernel
  have hline : (statement, 1) ∈
      (statements 0 (Text.lines " c\n    \"x\"\n  ".toList)).zipIdx := by decide +kernel
  have hstands := StandsFor.inside htop (by decide +kernel) houter
    (.inside hbody (by decide +kernel) hinner (.top hline (by decide +kernel)))
  have hcalled : statement.IsCalledByLine := by decide +kernel
  obtain ⟨-, hname, htells⟩ :=
    (tellsLine_iff deepLineSource).2.2 statement 1 _ _ hstands hcalled
  refine ⟨statement, 1, _, _, hstands, hcalled, (hname 2).2 rfl, rfl, htells, ?_⟩
  rw [htells]
  decide

/-- A source with **one line** without a name, in a body. -/
def bodyLineSource : Text := "a \x7b\n  \"x\"\n\x7d".toList

/-- The block of that line starts on the second line of the source, and is **called by the
first**. -/
theorem not_tellsLine_bodyLine :
    ∃ statement index offset block, StandsFor statement index bodyLineSource offset block ∧
      statement.IsCalledByLine ∧ block.name = "line-1".toList ∧ block.startLine = 1 ∧
        ¬ block.TellsLine := by
  let outer : Statement := ⟨0, "a \x7b".toList, ["  \"x\"".toList, "\x7d".toList]⟩
  let statement : Statement := ⟨0, "  \"x\"".toList, []⟩
  have houter : outer.interior? = some ⟨1, "  \"x\"\n".toList⟩ := by decide +kernel
  have htop : (outer, 0) ∈ (statements 0 bodyLineSource.lines).zipIdx := by decide +kernel
  have hline : (statement, 0) ∈ (statements 0 (Text.lines "  \"x\"\n".toList)).zipIdx := by
    decide +kernel
  have hstands :=
    StandsFor.inside htop (by decide +kernel) houter (.top hline (by decide +kernel))
  refine ⟨statement, 0, _, _, hstands, by decide +kernel, ?_, ?_, ?_⟩
  · rw [hstands.name_eq]
    decide +kernel
  · rw [hstands.startLine_eq]
    rfl
  · rw [Block.TellsLine, hstands.name_eq, hstands.startLine_eq]
    decide +kernel

end Outline

end DiagramOutline
