import DiagramOutline.Proofs.Comments
import DiagramOutline.Proofs.Depths

/-! # Heights of blocks

Each generation of blocks below a block is cut from between two braces of the generation above it.
So the braces of a block nest at least as deep as the blocks inside it, and its nesting depth, which
is found by one counter over all its lines, bounds its height.

* **`Block.height block`** — how many generations of blocks stand below `block`.
* **`Braces.closing?_linesToClosing`** — the lines up to a closing brace do not have it.
* **`Statement.exists_inLines_eq`** — the braces of a statement with a body are parted by those of
  its interior.
* **`Outline.height_blockOf_le`** — the braces of a statement nest as deep as its block is high.
* **`Outline.height_le_nestingDepth`** — no block is higher than its nesting depth. -/

namespace DiagramOutline

namespace Block

/-! ## Heights -/

mutual

/-- The **height** of a block: how many generations of blocks stand below it. -/
def height : Block → Nat
  | ⟨_, _, _, _, _, children⟩ => heightOfChildren children

/-- The height of a block **with these children**. -/
def heightOfChildren : Option (List Block) → Nat
  | none => 0
  | some [] => 0
  | some (child :: more) => max (height child) (heightAll more) + 1

/-- The **greatest** height of some blocks. -/
def heightAll : List Block → Nat
  | [] => 0
  | block :: more => max (height block) (heightAll more)

end

mutual

/-- Placing a block does not change its **height**. -/
theorem height_place (offset : Int) (lines : List Text) :
    (block : Block) → (place offset lines block).height = block.height
  | ⟨_, _, _, _, _, children⟩ => heightOfChildren_placeChildren offset lines children

/-- Placed children give the **same height** as the children. -/
theorem heightOfChildren_placeChildren (offset : Int) (lines : List Text) :
    (children : Option (List Block)) →
      heightOfChildren (placeChildren offset lines children) = heightOfChildren children
  | none => rfl
  | some [] => rfl
  | some (child :: more) => by
    simp only [placeChildren, heightOfChildren, height_place offset lines child,
      heightAll_placeAll offset lines more]

/-- Placed blocks are **as high** as the blocks. -/
theorem heightAll_placeAll (offset : Int) (lines : List Text) :
    (blocks : List Block) → heightAll (placeAll offset lines blocks) = heightAll blocks
  | [] => rfl
  | block :: more => by
    simp only [placeAll, heightAll, height_place offset lines block,
      heightAll_placeAll offset lines more]

end

/-- The greatest height is the **least bound** of the heights. -/
theorem heightAll_le_iff {blocks : List Block} {bound : Nat} :
    heightAll blocks ≤ bound ↔ ∀ block ∈ blocks, block.height ≤ bound := by
  induction blocks with
  | nil => simp [heightAll]
  | cons block more ih => rw [heightAll, Nat.max_le, ih, List.forall_mem_cons]

/-- A block is at most **one higher** than the blocks that it adopts. -/
theorem heightOfChildren_adopt_le {blocks : List Block} {bound : Nat}
    (h : ∀ block ∈ blocks, block.height ≤ bound) (offset : Int) (lines : List Text) :
    heightOfChildren (adopt offset lines blocks) ≤ bound + 1 := by
  cases blocks with
  | nil => exact Nat.zero_le _
  | cons block more =>
    rw [adopt, placeAll, heightOfChildren, height_place, heightAll_placeAll]
    exact Nat.add_le_add_right (heightAll_le_iff.2 h) 1

end Block

/-! ## Skipped lines -/

/-- A line that is skipped is a **comment or blank**. -/
theorem isComment_or_isAllBlank {line : Text} (h : isSkipped line = true) :
    isComment line = true ∨ Text.isAllBlank line = true := by
  unfold isSkipped at h
  cases htrim : Text.trim line with
  | nil => exact .inr (Text.trim_eq_nil_iff.1 htrim)
  | cons c rest =>
    rw [htrim] at h
    left
    rw [isComment, htrim, List.head?_cons, beq_iff_eq.1 h]
    rfl

/-! ## Braces of an interior -/

namespace Braces

/-- What stands **before** a closing brace does not have it. -/
theorem closing?_take {depth offset : Nat} {line : Text}
    (h : closing? depth (ofLine line) = some offset) :
    closing? depth (ofLine (line.take offset)) = none := by
  have hline : ofLine line = ofLine (line.take offset) ++
      scan (Quoting.after .outside (line.take offset)) (0 + (line.take offset).length)
        (line.drop offset) := by
    rw [ofLine, ofLine, ← scan_append, List.take_append_drop]
  cases hfound : closing? depth (ofLine (line.take offset)) with
  | none => rfl
  | some other =>
    -- a brace found before the offset would be the one that is found in the line
    have hother := closing?_append_of_some hfound
      (scan (Quoting.after .outside (line.take offset)) (0 + (line.take offset).length)
        (line.drop offset))
    rw [← hline, h] at hother
    cases hother
    have hlt := offset_lt_of_mem_scan (mem_of_closing?_eq_some hfound)
    rw [List.length_take] at hlt
    dsimp only at hlt
    omega

/-- The lines **up to a closing brace** do not have it. -/
theorem closing?_linesToClosing (depth : Nat) (lines : List Text) :
    closing? depth (ofLines 0 (linesToClosing depth lines)) = none := by
  induction lines generalizing depth with
  | nil => rfl
  | cons line more ih =>
    cases hclosing : closing? depth (ofLine line) with
    | some offset =>
      rw [linesToClosing_of_some hclosing, ofLines, ofLines, List.append_nil]
      exact closing?_take hclosing
    | none =>
      rw [linesToClosing_of_none hclosing, ofLines, ← ofLine, closing?_append_of_none hclosing,
        Nat.add_assoc, ofLines_add, closing?_map_shift, ← delta, ih]
      rfl

/-- The lines up to a closing brace have the **first braces** of the lines. -/
theorem inLines_linesToClosing_isPrefix (depth : Nat) (lines : List Text) :
    inLines (linesToClosing depth lines) <+: inLines lines := by
  induction lines generalizing depth with
  | nil => exact List.prefix_rfl
  | cons line more ih =>
    cases hclosing : closing? depth (ofLine line) with
    | some offset =>
      have hline : (ofLine (line.take offset)).map (·.brace) <+:
          (ofLine line).map (·.brace) := by
        have hwhole := scan_append .outside 0 (line.take offset) (line.drop offset)
        rw [List.take_append_drop] at hwhole
        rw [ofLine, ofLine, hwhole, List.map_append]
        exact List.prefix_append _ _
      have hcut : inLines [line.take offset] = (ofLine (line.take offset)).map (·.brace) :=
        List.append_nil _
      rw [linesToClosing_of_some hclosing, hcut, inLines_cons]
      exact hline.trans (List.prefix_append _ _)
    | none =>
      rw [linesToClosing_of_none hclosing, inLines_cons, inLines_cons]
      exact (List.prefix_append_right_inj _).2 (ih _)

end Braces

namespace Statement

/-- The braces of a statement with a body are parted by those of its **interior**: before them
stands the brace that opens the body, and none of them closes it. -/
theorem exists_inLines_eq {statement : Statement} (h : statement.hasBody = true) :
    ∃ before inside behind,
      Braces.inLines statement.lines =
          before ++ .opening :: (inside.map PlacedBrace.brace ++ behind) ∧
        Braces.closing? 0 inside = none ∧
          inside.map (·.brace) = Braces.inLines statement.innerLines := by
  rw [hasBody_eq_opens] at h
  obtain ⟨before, after, hfirst, hafter, hclosing⟩ := Braces.exists_eq_append_of_opens h
  have hinner : statement.innerLines = Braces.linesToClosing 0 (after :: statement.more) := by
    rw [innerLines, hfirst, Braces.afterOpening_append hafter hclosing]
  obtain ⟨behind, hbehind⟩ :=
    Braces.inLines_linesToClosing_isPrefix 0 (after :: statement.more)
  refine ⟨(Braces.ofLine before).map (·.brace), Braces.ofLines 0 statement.innerLines, behind,
    ?_, ?_, Braces.map_brace_ofLines 0 _⟩
  · rw [Braces.map_brace_ofLines, hinner, hbehind, lines, hfirst, ← Braces.map_brace_ofLines 0,
      Braces.ofLines_append_opening hafter, List.map_append, List.map_cons,
      Braces.map_brace_ofLines]
  · rw [hinner]
    exact Braces.closing?_linesToClosing 0 _

/-- The braces of a statement nest one deeper than those of its **interior**. -/
theorem deepest_interior_lt {source : Text} {statement : Statement} {interior : Interior}
    (hmem : statement ∈ statements 0 source.lines) (h : statement.interior? = some interior) :
    Metadata.deepest 0 (Braces.inLines interior.text.lines) + 1 ≤
      Metadata.deepest 0 (Braces.inLines statement.lines) := by
  have hnewline : ∀ line ∈ statement.lines, '\n' ∉ line := by
    intro line hline
    rw [← lines_code hmem] at hline
    exact Text.newline_notMem_of_mem_lines hline
  rw [interior?_eq hnewline] at h
  split at h
  · next hbody =>
    obtain ⟨before, inside, behind, hlines, hclosing, hinside⟩ := exists_inLines_eq hbody
    obtain ⟨dropped, hdropped, -⟩ := Interior.exists_lines_of_trimmed? h
    rw [Text.lines_unlines statement.innerLines_ne_nil (newline_notMem_innerLines hnewline)]
      at hdropped
    -- the lines of the interior are the last ones between the braces
    have hpart : Braces.inLines interior.text.lines <:+: inside.map (·.brace) := by
      rw [hinside, hdropped, Braces.inLines_append]
      exact (List.suffix_append _ _).isInfix
    calc Metadata.deepest 0 (Braces.inLines interior.text.lines) + 1
        ≤ Metadata.deepest 0 (inside.map (·.brace)) + 1 :=
          Nat.add_le_add_right (Metadata.deepest_le_of_infix hpart 0) 1
      _ ≤ Metadata.deepest 0 (Braces.inLines statement.lines) := by
          rw [hlines]
          exact Metadata.deepest_body hclosing before behind
  · cases h

end Statement

namespace Outline

/-- The braces of a statement nest **as deep as its block is high**, comments included. -/
theorem height_blockOf_le {source : Text} {statement : Statement}
    (h : statement ∈ statements 0 source.lines) (index : Nat) :
    (blockOf source statement index).height ≤
      Metadata.deepest 0 (Braces.inLines statement.lines) := by
  -- the children are the blocks of an interior, which is a shorter text
  induction hlength : source.length using Nat.strongRecOn generalizing source statement index with
  | ind length ih =>
    subst hlength
    show Block.heightOfChildren (childrenOf source statement) ≤ _
    cases hinterior : statement.interior? with
    | none =>
      rw [childrenOf, hinterior]
      exact Nat.zero_le _
    | some interior =>
      have hshorter : interior.text.length < source.length :=
        Statement.length_interior_lt h hinterior
      have hblocks : ∀ block ∈ plain interior.text,
          block.height ≤ Metadata.deepest 0 (Braces.inLines interior.text.lines) := by
        intro block hblock
        obtain ⟨inner, hinner, index, rfl⟩ :=
          exists_statement_of_mem_allBlocks (Block.mem_withoutDirectives.1 hblock).1
        obtain ⟨before, behind, hlines, -⟩ := exists_eq_append_of_mem_statements hinner
        have hpart : Braces.inLines inner.lines <:+: Braces.inLines interior.text.lines := by
          rw [hlines, Braces.inLines_append, Braces.inLines_append]
          exact ⟨_, _, rfl⟩
        exact Nat.le_trans (ih _ hshorter hinner index rfl) (Metadata.deepest_le_of_infix hpart 0)
      rw [childrenOf, hinterior, Option.bind_some]
      exact Nat.le_trans (Block.heightOfChildren_adopt_le hblocks _ _)
        (Statement.deepest_interior_lt h hinterior)

/-- Where comments have no braces, the **kept** lines have all braces. -/
theorem inLines_keptLines {lines : List Text}
    (h : ∀ line ∈ lines, isComment line = true → Braces.ofLine line = []) :
    Braces.inLines (keptLines lines) = Braces.inLines lines := by
  refine Braces.inLines_filter ?_
  intro line hline hkept
  have hskip : isSkipped line = true := by simpa using hkept
  rcases isComment_or_isAllBlank hskip with hcomment | hblank
  · exact h line hline hcomment
  · exact (Braces.Quiet.of_isAllBlank hblank).scan 0

/-- **No block is higher than its nesting depth**, where comments have no braces. -/
theorem height_le_nestingDepth {source : Text}
    (h : ∀ line ∈ source.lines, isComment line = true → Braces.ofLine line = [])
    {block : Block} (hmem : block ∈ plain source) :
    block.height ≤ (Metadata.plain block.code).nestingDepth := by
  obtain ⟨statement, hstatement, index, rfl⟩ :=
    exists_statement_of_mem_allBlocks (Block.mem_withoutDirectives.1 hmem).1
  have hcomments : ∀ line ∈ statement.lines, isComment line = true → Braces.ofLine line = [] := by
    obtain ⟨before, behind, hlines, -⟩ := exists_eq_append_of_mem_statements hstatement
    intro line hline
    refine h line ?_
    rw [hlines]
    exact List.mem_append_left _ (List.mem_append_right _ hline)
  calc (blockOf source statement index).height
      ≤ Metadata.deepest 0 (Braces.inLines statement.lines) := height_blockOf_le hstatement index
    _ = (Metadata.plain statement.code).nestingDepth := by
        rw [Metadata.nestingDepth_plain, Statement.lines_code hstatement,
          inLines_keptLines hcomments]

/-- A source whose bodies open and close on **shared lines**, with literals and a comment that quote
braces. -/
def crowdedSource : Text :=
  "a \x7b b \x7b\n  # \"\x7d\"\n  c: \"\x7b\" \x7b d\n\x7d \x7d \x7d".toList

/-- Its block is three generations high, and nests **no less deep**. -/
theorem height_crowdedSource :
    (∀ line ∈ crowdedSource.lines, isComment line = true → Braces.ofLine line = []) ∧
      ∃ block ∈ plain crowdedSource, block.height = 3 ∧
        block.height ≤ (Metadata.plain block.code).nestingDepth := by
  have hcomments : ∀ line ∈ crowdedSource.lines, isComment line = true →
      Braces.ofLine line = [] := by
    decide +kernel
  have hheights : (plain crowdedSource).map Block.height = [3] := by decide +kernel
  have hthree : 3 ∈ (plain crowdedSource).map Block.height := by
    rw [hheights]
    exact List.mem_cons_self
  obtain ⟨block, hmem, hheight⟩ := List.mem_map.1 hthree
  exact ⟨hcomments, block, hmem, hheight, height_le_nestingDepth hcomments hmem⟩

end Outline

end DiagramOutline
