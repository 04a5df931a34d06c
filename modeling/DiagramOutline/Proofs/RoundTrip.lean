import DiagramOutline.Proofs.Forest

/-! # The code of blocks

The code of a block is, at every depth and whatever the grammar does, the lines of the whole source
that the block's own numbers name. It holds because the blocks at the top are cut from the lines of
the source, and all blocks inside them are placed in those lines last, after any placing in the
interiors between.

* **`Block.StandsIn lines block`** — the block has the code of its lines, and its children were
  placed in the same lines.
* **`Outline.DeclaredBy.standsIn`**, **`Outline.standsIn_of_mem_allBlocks`** — both ways to outline
  a text make such blocks.
* **`Outline.code_of_occursIn_read`** — the code of every block of an outline. -/

namespace DiagramOutline

namespace Block

/-- A block **stands in** lines: it has the code of its lines, and its children were placed in the
same lines. -/
structure StandsIn (lines : List Text) (block : Block) : Prop where
  /-- The code is that of the lines of the block. -/
  code : block.code = linesBetween lines block.startLine block.endLine
  /-- The children were placed in the lines. -/
  children : ∀ children, block.children = some children →
    ∃ offset, ∃ found : List Block, children = found.map (place offset lines)

/-- In a forest of blocks that stand in lines, **every block** has the code of its lines. -/
theorem code_of_occursIn {lines : List Text} {blocks : List Block} {block : Block}
    (htop : ∀ other ∈ blocks, other.StandsIn lines) (h : block.OccursIn blocks) :
    block.code = linesBetween lines block.startLine block.endLine := by
  cases h with
  | top hmem => exact (htop block hmem).code
  | inside hparent hchildren hin =>
    obtain ⟨offset, found, rfl⟩ := (htop _ hparent).children _ hchildren
    obtain ⟨origin, -, rfl⟩ := occursIn_map_place hin
    exact code_place offset lines origin

end Block

/-- The lines of a statement are those **from its first line to its last** one. -/
theorem Statement.code_eq_linesBetween {lines : List Text} {statement : Statement}
    (h : statement ∈ statements 0 lines) :
    statement.code = Block.linesBetween lines statement.line statement.lastLine := by
  obtain ⟨before, after, hlines, hline⟩ := exists_eq_append_of_mem_statements h
  rw [Nat.zero_add] at hline
  have hlength : statement.lines.length = statement.more.length + 1 := List.length_cons
  have hstop : ((statement.lastLine : Int) + 1) = ((statement.lastLine + 1 : Nat) : Int) := rfl
  have hlast : statement.lastLine + 1 = (before ++ statement.lines).length := by
    rw [List.length_append, hlength, Statement.lastLine, hline, Nat.add_assoc]
  rw [Statement.code, Block.linesBetween, hstop, hlast, hline, hlines, slice_append_append]

namespace Outline

/-- The blocks of all statements of a text **stand in** its lines. -/
theorem standsIn_of_mem_allBlocks {source : Text} {block : Block} (h : block ∈ allBlocks source) :
    block.StandsIn source.lines := by
  obtain ⟨statement, hstatement, index, rfl⟩ := exists_statement_of_mem_allBlocks h
  constructor
  case code => exact Statement.code_eq_linesBetween hstatement
  case children =>
    intro children hchildren
    obtain ⟨interior, -, hplaced⟩ := exists_interior_of_childrenOf hchildren
    exact ⟨_, _, hplaced⟩

/-- A block that is declared by a node **stands in** the lines that the rows of the node count. -/
theorem DeclaredBy.standsIn {inner : Text → Result} {source : List UInt8} {lines : List Text}
    {node : SyntaxNode} {block : Block} (h : DeclaredBy inner source lines node block) :
    block.StandsIn lines := by
  constructor
  case code => exact h.code
  case children =>
    intro children hchildren
    obtain ⟨interior, found, -, -, -, hplaced⟩ := h.exists_children hchildren
    exact ⟨_, _, hplaced⟩

/-- The blocks at the top of an outline **stand in** the lines of its source, with a grammar or
without one. -/
theorem standsIn_of_mem_read {grammar : Option Grammar} {depth : Nat} {source : Text}
    {found : Logged (List Block)} {block : Block} (h : read grammar depth source = some found)
    (hmem : block ∈ found.value) : block.StandsIn source.lines := by
  have hplain : ∀ other ∈ plain source, other.StandsIn source.lines := by
    intro other hother
    exact standsIn_of_mem_allBlocks (Block.mem_withoutDirectives.1 hother).1
  cases grammar with
  | none =>
    cases h
    exact hplain block hmem
  | some grammar =>
    obtain hin | ⟨below, root, node, -, -, -, hdeclared, -⟩ := mem_parsed_cases h hmem
    · exact hplain block hin
    · exact hdeclared.standsIn

/-- **The code of every block of an outline is its lines of the source.** Whatever the grammar makes
of the texts it is given, each block at each depth has the code of the lines of the whole source
from its own first line to its own last line. -/
theorem code_of_occursIn_read {grammar : Option Grammar} {depth : Nat} {source : Text}
    {found : Logged (List Block)} {block : Block} (h : read grammar depth source = some found)
    (hin : block.OccursIn found.value) :
    block.code = Block.linesBetween source.lines block.startLine block.endLine :=
  Block.code_of_occursIn (fun _ hmem => standsIn_of_mem_read h hmem) hin

/-- A source in which a body **shares a line** with the body around it. -/
def sharedLineSource : Text := "a \x7b\n\n  b \x7b c \x7d\n\x7d".toList

/-- The grammar that makes the tree of that source, and no tree of any other text. -/
def sharedLineGrammar : Grammar := fun text =>
  if text = sharedLineSource then
    .tree ⟨"source_file", true, 0, 16, ⟨0, 0⟩, ⟨3, 1⟩,
      [⟨"declaration", true, 0, 16, ⟨0, 0⟩, ⟨3, 1⟩,
        [⟨"identifier", true, 0, 1, ⟨0, 0⟩, ⟨0, 1⟩, []⟩,
          ⟨"block", true, 2, 16, ⟨0, 2⟩, ⟨3, 1⟩, []⟩]⟩]⟩
  else .noTree

/-- The innermost block of that source, found in the text of a body whose line it **does not
fill**. -/
def sharedLineBlock : Block :=
  ⟨"c".toList, "  b \x7b c \x7d".toList, 2, 2, none, none⟩

/-- That block has the code of the whole line on which it stands in the source. -/
theorem code_sharedLineBlock :
    ∃ found, read (some sharedLineGrammar) 2 sharedLineSource = some found ∧
      sharedLineBlock.OccursIn found.value ∧
        sharedLineBlock.code = Block.linesBetween sharedLineSource.lines
          sharedLineBlock.startLine sharedLineBlock.endLine := by
  let inner : Block := ⟨"b".toList, "  b \x7b c \x7d".toList, 2, 2, none, some [sharedLineBlock]⟩
  let outer : Block := ⟨"a".toList, sharedLineSource, 0, 3, none, some [inner]⟩
  have hread : (read (some sharedLineGrammar) 2 sharedLineSource).map (·.value) = some [outer] := by
    decide +kernel
  obtain ⟨found, hfound, hvalue⟩ := Option.map_eq_some_iff.1 hread
  have hin : sharedLineBlock.OccursIn found.value := by
    rw [hvalue]
    have houter : sharedLineBlock.OccursIn [inner] :=
      .inside List.mem_cons_self rfl (.top List.mem_cons_self)
    exact .inside List.mem_cons_self rfl houter
  exact ⟨found, hfound, hin, code_of_occursIn_read hfound hin⟩

end Outline

end DiagramOutline
