import DiagramOutline.Proofs.Forest
import DiagramOutline.Proofs.Interiors

/-! # Where blocks stand

The lines of the blocks of a text, at every depth: neighbours follow each other, children stand
inside their parents, and the blocks at the top leave out nothing but blank lines and comments.

* **`Block.InOrder blocks`** — each of `blocks` ends no earlier than it begins, and before the next
  ones begin.
* **`Block.Encloses block`** — the children of `block` are in order and stand inside it.
* **`Statement.line_add_count_le_of_interior?`** — the interior of a statement has its lines among
  those of the statement.
* **`Outline.encloses_of_occursIn_allBlocks`** — every block of a text encloses its children.
* **`Outline.structure_allBlocks`** — all of this in one statement. -/

namespace DiagramOutline

namespace Block

/-- Blocks are **in order**: each ends no earlier than it begins, and before the next ones begin. -/
structure InOrder (blocks : List Block) : Prop where
  /-- No block ends before it begins. -/
  start_le_end : ∀ block ∈ blocks, block.startLine ≤ block.endLine
  /-- Each block ends before the next ones begin. -/
  pairwise : blocks.Pairwise fun first second => first.endLine < second.startLine

/-- A block stands **inside** another one: on some of its lines. -/
def StandsInside (inner outer : Block) : Prop :=
  outer.startLine ≤ inner.startLine ∧ inner.endLine ≤ outer.endLine

/-- A block **encloses** its children: they are in order, and each stands inside it. -/
def Encloses (block : Block) : Prop :=
  ∀ children, block.children = some children →
    InOrder children ∧ ∀ child ∈ children, child.StandsInside block

/-- A block **covers** a line: the line is one of its own. -/
def Covers (block : Block) (line : Nat) : Prop :=
  block.startLine ≤ line ∧ line ≤ block.endLine

/-- **No line is covered twice**: where blocks are in order, those that cover a line are one. -/
theorem InOrder.eq_of_covers {blocks : List Block} (h : InOrder blocks) {first second : Block}
    {line : Nat} (hfirst : first ∈ blocks) (hsecond : second ∈ blocks)
    (hcovers : first.Covers line) (hcovers' : second.Covers line) : first = second := by
  obtain ⟨hstart, hend⟩ := hcovers
  obtain ⟨hstart', hend'⟩ := hcovers'
  have hpairwise := h.pairwise
  clear h
  induction blocks with
  | nil => cases hfirst
  | cons block more ih =>
    obtain ⟨hblock, hmore⟩ := List.pairwise_cons.1 hpairwise
    rw [List.mem_cons] at hfirst hsecond
    -- a block at the front ends before the others begin, so these do not cover its lines
    rcases hfirst with rfl | hfirst <;> rcases hsecond with rfl | hsecond
    · rfl
    · have hlt := hblock second hsecond
      omega
    · have hlt := hblock first hfirst
      omega
    · exact ih hfirst hsecond hmore

/-- Blocks stay in order when some are **left out**. -/
theorem InOrder.sublist {blocks some : List Block} (h : InOrder blocks)
    (hsub : some.Sublist blocks) : InOrder some := by
  constructor
  case start_le_end =>
    intro block hmem
    exact h.start_le_end block (hsub.subset hmem)
  case pairwise => exact h.pairwise.sublist hsub

/-- Placed blocks are in order as the blocks are. -/
theorem InOrder.map_place {blocks : List Block} (h : InOrder blocks) (offset : Int)
    (lines : List Text) : InOrder (blocks.map (place offset lines)) := by
  constructor
  case start_le_end =>
    intro placed hmem
    obtain ⟨block, hblock, rfl⟩ := List.mem_map.1 hmem
    have hle := h.start_le_end block hblock
    rw [startLine_place, endLine_place]
    omega
  case pairwise =>
    rw [List.pairwise_map]
    refine h.pairwise.imp ?_
    intro first second hlt
    rw [endLine_place, startLine_place]
    omega

/-- A placed block **encloses** its children as the block does. -/
theorem Encloses.place {block : Block} (h : block.Encloses) (offset : Int) (lines : List Text) :
    (Block.place offset lines block).Encloses := by
  intro placed hplaced
  rw [children_place] at hplaced
  obtain ⟨children, hchildren, hadopt⟩ := Option.bind_eq_some_iff.1 hplaced
  obtain ⟨-, rfl⟩ := adopt_eq_some_iff.1 hadopt
  obtain ⟨horder, hinside⟩ := h children hchildren
  refine ⟨horder.map_place offset lines, ?_⟩
  intro child hchild
  obtain ⟨origin, horigin, rfl⟩ := List.mem_map.1 hchild
  obtain ⟨hstart, hend⟩ := hinside origin horigin
  rw [StandsInside, startLine_place, startLine_place, endLine_place, endLine_place]
  omega

end Block

/-! ## Interiors among the lines around them -/

namespace Interior

/-- The newlines **before and inside** a body are among those of the code. -/
theorem count_newline_le (code : Text) (opening closing : Nat) :
    (code.take opening).count '\n' + ((code.take closing).drop (opening + 1)).count '\n' ≤
      code.count '\n' := by
  have hsub : ((code.take closing).drop (opening + 1)).Sublist (code.drop opening) := by
    rw [List.drop_take]
    refine (List.take_sublist _ _).trans ?_
    rw [← List.drop_drop]
    exact List.drop_sublist _ _
  have hcount := hsub.count_le '\n'
  calc (code.take opening).count '\n' + ((code.take closing).drop (opening + 1)).count '\n'
      ≤ (code.take opening).count '\n' + (code.drop opening).count '\n' :=
        Nat.add_le_add_left hcount _
    _ = code.count '\n' := by rw [← List.count_append, List.take_append_drop]

/-- The interior of the first body of some code has its **lines** among those of the code. -/
theorem line_add_count_le_of_ofCode? {line : Int} {code : Text} {interior : Interior}
    (h : ofCode? line code = some interior) :
    line ≤ interior.line ∧ interior.line + interior.text.count '\n' ≤ line + code.count '\n' := by
  obtain ⟨⟨opening, closing⟩, -, rfl⟩ := Option.map_eq_some_iff.1 h
  have hcount := count_newline_le code opening closing
  dsimp only
  constructor <;> omega

/-- Dropping blank lines from the start of an interior moves it on by the lines that are dropped. -/
theorem line_add_count_of_trimmed? {interior inner : Interior}
    (h : interior.trimmed? = some inner) :
    interior.line ≤ inner.line ∧
      inner.line + inner.text.count '\n' = interior.line + interior.text.count '\n' := by
  obtain ⟨dropped, hlines, hline⟩ := exists_lines_of_trimmed? h
  -- each line that is dropped is one newline less in the text, and one more before it
  have hlength := congrArg List.length hlines
  rw [List.length_append, Text.length_lines, Text.length_lines] at hlength
  omega

end Interior

namespace Statement

/-- The lines of a statement are the lines of its **code**. -/
theorem count_newline_code {source : Text} {statement : Statement}
    (h : statement ∈ statements 0 source.lines) :
    statement.code.count '\n' = statement.more.length := by
  have hlength := Text.length_lines statement.code
  rw [lines_code h, Statement.lines, List.length_cons] at hlength
  omega

/-- The interior of a statement has its lines **among the lines** of the statement. -/
theorem line_add_count_le_of_interior? {source : Text} {statement : Statement}
    {interior : Interior} (hmem : statement ∈ statements 0 source.lines)
    (h : statement.interior? = some interior) :
    (statement.line : Int) ≤ interior.line ∧
      interior.line + interior.text.count '\n' ≤ statement.lastLine := by
  unfold interior? at h
  split at h
  · obtain ⟨whole, hwhole, htrimmed⟩ := Option.bind_eq_some_iff.1 h
    obtain ⟨hline, hcount⟩ := Interior.line_add_count_le_of_ofCode? hwhole
    obtain ⟨hinner, hkept⟩ := Interior.line_add_count_of_trimmed? htrimmed
    rw [count_newline_code hmem] at hcount
    rw [lastLine]
    omega
  · cases h

end Statement

namespace Outline

/-! ## The blocks of a text -/

/-- The blocks of a text stand on the **lines of its statements**. -/
theorem map_lines_allBlocks (source : Text) :
    (allBlocks source).map (fun block => (block.startLine, block.endLine)) =
      (statements 0 source.lines).map fun statement =>
        ((statement.line : Int), (statement.lastLine : Int)) :=
  map_allBlocks fun _ _ _ => rfl

/-- A text of lines that are all **skipped** has no blocks. -/
theorem plain_eq_nil {source : Text} (h : ∀ line ∈ source.lines, isSkipped line = true) :
    plain source = [] := by
  rw [plain, allBlocks_eq, statements_eq_nil h]
  rfl

/-- The blocks of a text are **in order**. -/
theorem inOrder_allBlocks (source : Text) : Block.InOrder (allBlocks source) := by
  constructor
  case start_le_end =>
    intro block hmem
    obtain ⟨statement, -, index, rfl⟩ := exists_statement_of_mem_allBlocks hmem
    exact Int.ofNat_le.2 (Nat.le_add_right _ _)
  case pairwise =>
    -- the blocks stand on the lines of the statements, and these are in order
    have hstatements : ((statements 0 source.lines).map fun statement =>
        ((statement.line : Int), (statement.lastLine : Int))).Pairwise
          fun first second => first.2 < second.1 := by
      rw [List.pairwise_map]
      refine (pairwise_statements 0 source.lines).imp ?_
      intro first second hlt
      exact Int.ofNat_lt.2 hlt
    rw [← map_lines_allBlocks, List.pairwise_map] at hstatements
    exact hstatements

/-- The blocks of a text stand on **lines of the text**. -/
theorem lines_of_mem_allBlocks {source : Text} {block : Block} (h : block ∈ allBlocks source) :
    0 ≤ block.startLine ∧ block.endLine < source.lines.length := by
  obtain ⟨statement, hmem, index, rfl⟩ := exists_statement_of_mem_allBlocks h
  have hlt := lastLine_lt_of_mem_statements hmem
  dsimp only [blockOf]
  omega

/-- Every statement of a text has a block **on its lines**. -/
theorem exists_mem_allBlocks_of_mem_statements {source : Text} {statement : Statement}
    (h : statement ∈ statements 0 source.lines) :
    ∃ block ∈ allBlocks source, ∀ line, block.Covers line ↔
      statement.line ≤ line ∧ line ≤ statement.lastLine := by
  have hpair : ((statement.line : Int), (statement.lastLine : Int)) ∈
      (allBlocks source).map fun block => (block.startLine, block.endLine) := by
    rw [map_lines_allBlocks]
    exact List.mem_map_of_mem h
  obtain ⟨block, hblock, heq⟩ := List.mem_map.1 hpair
  rw [Prod.mk.injEq] at heq
  refine ⟨block, hblock, ?_⟩
  intro line
  rw [Block.Covers, heq.1, heq.2]
  omega

/-- Each line of a text that is **not skipped** is covered by a block. -/
theorem exists_covers_of_not_isSkipped {source line : Text} {index : Nat}
    (hget : source.lines[index]? = some line) (hskip : isSkipped line = false) :
    ∃ block ∈ allBlocks source, block.Covers index := by
  obtain ⟨statement, hmem, hle, hge⟩ :=
    exists_mem_statements_of_not_isSkipped 0 hget hskip
  obtain ⟨block, hblock, hcovers⟩ := exists_mem_allBlocks_of_mem_statements hmem
  rw [Nat.zero_add] at hle hge
  exact ⟨block, hblock, (hcovers index).2 ⟨hle, hge⟩⟩

/-- Every block of a text, at every depth, **encloses** its children. -/
theorem encloses_of_occursIn_allBlocks {source : Text} {block : Block}
    (h : block.OccursIn (allBlocks source)) : block.Encloses := by
  -- a block inside a body occurs in the outline of an interior, which is a shorter text
  induction hlength : source.length using Nat.strongRecOn generalizing source block with
  | ind length ih =>
    subst hlength
    obtain ⟨statement, hmem, hcases⟩ := occursIn_allBlocks_cases h
    rcases hcases with ⟨index, rfl⟩ | ⟨interior, origin, hinterior, horigin, rfl⟩
    -- at the top the children are the outline of the interior, placed on its lines
    · intro children hchildren
      obtain ⟨interior, hinterior, rfl⟩ := exists_interior_of_childrenOf hchildren
      obtain ⟨hfirst, hlast⟩ := Statement.line_add_count_le_of_interior? hmem hinterior
      have horder : Block.InOrder (plain interior.text) :=
        (inOrder_allBlocks interior.text).sublist List.filter_sublist
      refine ⟨horder.map_place _ _, ?_⟩
      intro child hchild
      obtain ⟨origin, horigin, rfl⟩ := List.mem_map.1 hchild
      obtain ⟨hstart, hend⟩ := lines_of_mem_allBlocks (Block.mem_withoutDirectives.1 horigin).1
      rw [Text.length_lines] at hend
      rw [Block.StandsInside, Block.startLine_place, Block.endLine_place]
      dsimp only [blockOf]
      omega
    -- further inside, placing keeps what holds in the outline of the interior
    · have hshorter : interior.text.length < source.length :=
        Statement.length_interior_lt hmem hinterior
      exact (ih _ hshorter horigin rfl).place _ _

/-- What occurs in a forest whose blocks enclose their children stands **inside** one of the blocks
at the top, and does not end before it begins. -/
theorem exists_standsInside_of_occursIn {block : Block} {blocks : List Block}
    (h : block.OccursIn blocks) (horder : Block.InOrder blocks)
    (hencloses : ∀ other : Block, other.OccursIn blocks → other.Encloses) :
    block.startLine ≤ block.endLine ∧ ∃ top ∈ blocks, block.StandsInside top := by
  induction h with
  | top hmem => exact ⟨horder.start_le_end _ hmem, _, hmem, Int.le_refl _, Int.le_refl _⟩
  | inside hparent hchildren _ ih =>
    obtain ⟨hinside, hstands⟩ := hencloses _ (.top hparent) _ hchildren
    obtain ⟨hle, child, hchild, hstart, hend⟩ :=
      ih hinside fun other hother => hencloses other (.inside hparent hchildren hother)
    obtain ⟨hstart', hend'⟩ := hstands child hchild
    exact ⟨hle, _, hparent, Int.le_trans hstart' hstart, Int.le_trans hend hend'⟩

/-- Every block of a text, at every depth, stands on **lines of the text**. -/
theorem lines_of_occursIn_allBlocks {source : Text} {block : Block}
    (h : block.OccursIn (allBlocks source)) :
    0 ≤ block.startLine ∧ block.startLine ≤ block.endLine ∧
      block.endLine < source.lines.length := by
  obtain ⟨hle, top, hmem, hstart, hend⟩ := exists_standsInside_of_occursIn h
    (inOrder_allBlocks source) fun _ => encloses_of_occursIn_allBlocks
  obtain ⟨hfirst, hlast⟩ := lines_of_mem_allBlocks hmem
  exact ⟨Int.le_trans hfirst hstart, hle, Int.lt_of_le_of_lt hend hlast⟩

/-- A block at the top of a text begins on the first line of a statement. If that line opens a body,
the block **ends** where the body does; otherwise it is one line. -/
theorem exists_endLine_of_mem_allBlocks {source : Text} {block : Block}
    (h : block ∈ allBlocks source) :
    ∃ (first : Nat) (line : Text), block.startLine = first ∧ source.lines[first]? = some line ∧
      block.endLine =
        if Braces.opens line then
          (((Braces.closingLine? source.lines first).getD (source.lines.length - 1) : Nat) : Int)
        else first := by
  obtain ⟨statement, hmem, index, rfl⟩ := exists_statement_of_mem_allBlocks h
  refine ⟨statement.line, statement.first, rfl, Statement.getElem?_line hmem, ?_⟩
  rw [← Statement.hasBody_eq_opens]
  split
  · next hbody => exact congrArg Int.ofNat (Statement.lastLine_eq_of_hasBody hmem hbody)
  · next hbody =>
    rw [Bool.not_eq_true] at hbody
    exact congrArg Int.ofNat (Statement.lastLine_eq_of_not_hasBody hmem hbody)

/-- **The structure of the outline of a text**, directives included at the top.

The blocks at the top, and the children of every block at every depth, are in order. The blocks at
the top stand on lines of the text, and each line that is neither blank nor a comment is covered by
exactly one of them. Children stand inside their parents. A block at the top whose first line opens
a body ends on the first line through which as many bodies were closed as opened, or on the last
line of the text; any other one is one line. -/
theorem structure_allBlocks (source : Text) :
    (Block.InOrder (allBlocks source) ∧
      ∀ (block : Block) children, block.OccursIn (allBlocks source) →
        block.children = some children → Block.InOrder children) ∧
    ((∀ block ∈ allBlocks source, 0 ≤ block.startLine ∧ block.endLine < source.lines.length) ∧
      ∀ index line, source.lines[index]? = some line → isSkipped line = false →
        ∃ block ∈ allBlocks source, block.Covers index ∧
          ∀ other ∈ allBlocks source, other.Covers index → other = block) ∧
    (∀ (block : Block) children, block.OccursIn (allBlocks source) →
      block.children = some children → ∀ child ∈ children, child.StandsInside block) ∧
    ∀ block ∈ allBlocks source, ∃ (first : Nat) (line : Text),
      block.startLine = first ∧ source.lines[first]? = some line ∧
        block.endLine =
          if Braces.opens line then
            (((Braces.closingLine? source.lines first).getD (source.lines.length - 1) : Nat) : Int)
          else first := by
  have horder : Block.InOrder (allBlocks source) := inOrder_allBlocks source
  refine ⟨⟨horder, ?_⟩, ⟨fun _ => lines_of_mem_allBlocks, ?_⟩, ?_,
    fun _ => exists_endLine_of_mem_allBlocks⟩
  · intro block children hin hchildren
    exact (encloses_of_occursIn_allBlocks hin children hchildren).1
  · intro index line hget hskip
    obtain ⟨block, hmem, hcovers⟩ := exists_covers_of_not_isSkipped hget hskip
    refine ⟨block, hmem, hcovers, ?_⟩
    intro other hother hcovers'
    exact horder.eq_of_covers hother hmem hcovers' hcovers
  · intro block children hin hchildren
    exact (encloses_of_occursIn_allBlocks hin children hchildren).2

end Outline

end DiagramOutline
