import DiagramOutline.Proofs.Depths
import DiagramOutline.Proofs.Forest
import DiagramOutline.Proofs.QuotedConnections

/-! # Metadata of a text and of its blocks

The blocks of a text part its lines: what is kept of the text is what is kept of its statements, one
after the other. So whatever is counted line by line adds up over the blocks, and the braces of a
block stand together among those of the text.

* **`keptLines_eq_flatMap`**, **`Metadata.keptLines_eq_flatMap_allBlocks`** — the kept lines of a
  text are those of its statements, and of its blocks.
* **`Metadata.connectionCount_eq`**, **`Metadata.hasStyles_eq`**, **`Metadata.hasClasses_eq`** —
  connections, styles and classes of code, read off its kept lines.
* **`Metadata.plain_of_allBlocks`** — the metadata of a text, read off those of its blocks. -/

namespace DiagramOutline

/-- The **kept lines** of a text are those of its statements, one after the other. -/
theorem keptLines_eq_flatMap (line : Nat) (lines : List Text) :
    keptLines lines = (statements line lines).flatMap fun statement =>
      keptLines statement.lines := by
  fun_induction statements line lines with
  | case1 => rfl
  | case2 line first rest hskip ih =>
    rw [← ih, keptLines_cons_of_isSkipped hskip]
  | case3 line first rest hskip ih =>
    rw [List.flatMap_cons, ← ih, ← keptLines_append, Statement.lines, List.cons_append,
      splitStatement_append]

namespace Metadata

/-! ## Connections and flags of kept lines -/

/-- The **connections** of code are those of its kept lines. -/
theorem connectionCount_eq (code : Text) :
    (plain code).connectionCount =
      (keptLines code.lines).countP fun line => Keyword.hasConnection (Text.trim line) := by
  rw [connectionCount_plain, keptLines, List.countP_filter]
  refine List.countP_congr ?_
  intro line _
  rw [connects, Bool.and_comm]

/-- Whether a line sets a **style**. -/
def setsStyle (line : Text) : Bool := (keys (Text.trim line)).any Tally.isStyleKey

/-- Whether a line uses or defines a **class**. -/
def usesClass (line : Text) : Bool := (keys (Text.trim line)).any Tally.isClassKey

/-- A line notes the **styles and classes** of its keys, unless it is skipped. -/
theorem readLine_flags (state : Tally × Nat) (line : Text) :
    (readLine state line).1.hasStyles =
        (state.1.hasStyles || (keptLines [line]).any setsStyle) ∧
      (readLine state line).1.hasClasses =
        (state.1.hasClasses || (keptLines [line]).any usesClass) := by
  by_cases hskip : isSkipped line = true
  · rw [readLine_of_isSkipped hskip, keptLines_cons_of_isSkipped hskip]
    exact ⟨(Bool.or_false _).symm, (Bool.or_false _).symm⟩
  · rw [Bool.not_eq_true] at hskip
    have hkept : keptLines [line] = [line] := keptLines_cons_of_not_isSkipped hskip []
    rw [readLine_of_not_isSkipped hskip, hkept, List.any_cons, List.any_cons, List.any_nil,
      List.any_nil, Bool.or_false, Bool.or_false]
    constructor
    · rw [apply_readStatement Tally.hasStyles Tally.hasStyles_addShape fun _ => rfl,
        foldl_noteKey]
      rfl
    · rw [apply_readStatement Tally.hasClasses Tally.hasClasses_addShape fun _ => rfl,
        foldl_noteKey]
      rfl

/-- Lines note the styles and classes of those that are **kept**. -/
theorem foldl_readLine_flags (state : Tally × Nat) (lines : List Text) :
    (lines.foldl readLine state).1.hasStyles =
        (state.1.hasStyles || (keptLines lines).any setsStyle) ∧
      (lines.foldl readLine state).1.hasClasses =
        (state.1.hasClasses || (keptLines lines).any usesClass) := by
  induction lines generalizing state with
  | nil => exact ⟨(Bool.or_false _).symm, (Bool.or_false _).symm⟩
  | cons line more ih =>
    obtain ⟨hstyles, hclasses⟩ := readLine_flags state line
    obtain ⟨hmore, hmore'⟩ := ih (readLine state line)
    have hkept : keptLines (line :: more) = keptLines [line] ++ keptLines more :=
      keptLines_append [line] more
    rw [List.foldl_cons, hmore, hmore', hstyles, hclasses, hkept, List.any_append, List.any_append,
      Bool.or_assoc, Bool.or_assoc]
    exact ⟨rfl, rfl⟩

/-- Code **sets a style** if one of its kept lines does. -/
theorem hasStyles_eq (code : Text) :
    (plain code).hasStyles = (keptLines code.lines).any setsStyle :=
  (foldl_readLine_flags ({}, 0) code.lines).1

/-- Code **uses a class** if one of its kept lines does. -/
theorem hasClasses_eq (code : Text) :
    (plain code).hasClasses = (keptLines code.lines).any usesClass :=
  (foldl_readLine_flags ({}, 0) code.lines).2

/-! ## A text and its blocks -/

/-- The kept lines of a text are those of **its blocks**, one after the other. -/
theorem keptLines_eq_flatMap_allBlocks (source : Text) :
    keptLines source.lines =
      (Outline.allBlocks source).flatMap fun block => keptLines block.code.lines := by
  have hblocks : (Outline.allBlocks source).map (fun block => keptLines block.code.lines) =
      (statements 0 source.lines).map fun statement => keptLines statement.lines := by
    refine Outline.map_allBlocks ?_
    intro statement hmem index
    rw [Outline.blockOf, Statement.lines_code hmem]
  rw [keptLines_eq_flatMap 0, List.flatMap_def, List.flatMap_def, hblocks]

/-- The braces of a block stand **together** among those of the text. -/
theorem inLines_keptLines_isInfix {source : Text} {block : Block}
    (h : block ∈ Outline.allBlocks source) :
    Braces.inLines (keptLines block.code.lines) <:+:
      Braces.inLines (keptLines source.lines) := by
  obtain ⟨statement, hmem, index, rfl⟩ := Outline.exists_statement_of_mem_allBlocks h
  obtain ⟨before, behind, hlines, -⟩ := exists_eq_append_of_mem_statements hmem
  refine ⟨Braces.inLines (keptLines before), Braces.inLines (keptLines behind), ?_⟩
  rw [hlines, Outline.blockOf, Statement.lines_code hmem, keptLines_append, keptLines_append,
    Braces.inLines_append, Braces.inLines_append]

/-- **The metadata of a text, read off those of its blocks**, directives included.

The text has as many connections as its blocks together. It sets a style, or uses a class, exactly
if one of them does. And it nests no less deep than any of them. -/
theorem plain_of_allBlocks (source : Text) :
    (plain source).connectionCount =
        ((Outline.allBlocks source).map fun block => (plain block.code).connectionCount).sum ∧
      (plain source).hasStyles =
        (Outline.allBlocks source).any (fun block => (plain block.code).hasStyles) ∧
      (plain source).hasClasses =
        (Outline.allBlocks source).any (fun block => (plain block.code).hasClasses) ∧
      ∀ block ∈ Outline.allBlocks source,
        (plain block.code).nestingDepth ≤ (plain source).nestingDepth := by
  simp only [connectionCount_eq, hasStyles_eq, hasClasses_eq, nestingDepth_plain]
  have hlines := keptLines_eq_flatMap_allBlocks source
  refine ⟨?_, ?_, ?_, ?_⟩
  · rw [hlines, List.countP_flatMap]
    rfl
  · rw [hlines, List.any_flatMap]
  · rw [hlines, List.any_flatMap]
  · intro block hmem
    exact deepest_le_of_infix (inLines_keptLines_isInfix hmem) 0

end Metadata

end DiagramOutline
