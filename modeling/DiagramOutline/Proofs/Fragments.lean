import DiagramOutline.Proofs.Relocation

/-! # Blocks as texts of their own

The code of a block is outlined like any other text, and gives the block back. Where a statement
ends, what its body holds and what its label is are all read off its own lines, so nothing that
stood around them is missed. Only the line numbers start again, and with them the names that tell a
place.

* **`splitStatement_splitStatement`** — a statement takes all of its own lines again.
* **`Statement.alone statement`** — `statement` at the start of a text of its own.
* **`Block.NamedAlone block name`** — the name of `block` as the only one of its text.
* **`Outline.plain_code_of_mem_plain`** — the outline of the code of a block. -/

namespace DiagramOutline

/-! ## Moving back -/

namespace Block

mutual

/-- A block that is moved on **and back** is where it was. -/
theorem move_move_neg (distance : Int) :
    (block : Block) → move (-distance) (move distance block) = block
  | ⟨name, code, startLine, endLine, label, children⟩ => by
    rw [move, move, Int.add_neg_cancel_right, Int.add_neg_cancel_right,
      moveChildren_move_neg distance children]

/-- Children that are moved on and back are where they were. -/
theorem moveChildren_move_neg (distance : Int) :
    (children : Option (List Block)) →
      moveChildren (-distance) (moveChildren distance children) = children
  | none => rfl
  | some blocks => congrArg some (moveAll_move_neg distance blocks)

/-- Blocks that are moved on and back are where they were. -/
theorem moveAll_move_neg (distance : Int) :
    (blocks : List Block) → moveAll (-distance) (moveAll distance blocks) = blocks
  | [] => rfl
  | block :: more => by
    rw [moveAll, moveAll, move_move_neg distance block, moveAll_move_neg distance more]

end

/-- A block is **called and moved** in either order. -/
theorem move_called (distance : Int) (name : Text) (block : Block) :
    (block.called name).move distance = (block.move distance).called name := by
  cases block
  rfl

/-- The **last name** is the one that counts. -/
theorem called_called (first second : Text) (block : Block) :
    (block.called first).called second = block.called second := rfl

/-- A block keeps its name when it is **called by it**. -/
theorem called_name (block : Block) : block.called block.name = block := by
  cases block
  rfl

/-- The **name** of a block as the only one of its text. Only a name that tells the place of a
statement whose header has none is another one: the line or the statement is then the first. -/
inductive NamedAlone (block : Block) : Text → Prop where
  /-- The header has a name, and the block keeps it. -/
  | header : Header.name (block.code.lines.headD []) ≠ [] → NamedAlone block block.name
  /-- The block has no body, and its line is the first. -/
  | line {number : Nat} : Header.name (block.code.lines.headD []) = [] →
    Braces.opens (block.code.lines.headD []) = false →
      block.name = "line-".toList ++ Text.ofNat number →
        NamedAlone block ("line-".toList ++ Text.ofNat 1)
  /-- The block has a body, and is the first one itself. -/
  | body {number : Nat} : Header.name (block.code.lines.headD []) = [] →
    Braces.opens (block.code.lines.headD []) = true →
      block.name = "block-".toList ++ Text.ofNat number →
        NamedAlone block ("block-".toList ++ Text.ofNat 1)

end Block

/-! ## The lines of a statement -/

/-- The lines taken for a body are **all taken again**. -/
theorem splitBody_splitBody (depth : Int) (lines : List Text) :
    splitBody depth (splitBody depth lines).1 = ((splitBody depth lines).1, []) := by
  induction lines generalizing depth with
  | nil => rfl
  | cons line rest ih =>
    by_cases hinner : depth + Braces.delta line ≤ 0
    · simp only [splitBody, if_pos hinner]
    · simp only [splitBody, if_neg hinner, ih]

/-- The lines of a statement are **all taken again**. -/
theorem splitStatement_splitStatement (first : Text) (rest : List Text) :
    splitStatement first (splitStatement first rest).1 = ((splitStatement first rest).1, []) := by
  by_cases hopens : (Braces.opens (Text.trim first) && 0 < Braces.delta first) = true
  · simp only [splitStatement, if_pos hopens]
    exact splitBody_splitBody _ rest
  · simp only [splitStatement, if_neg hopens]

namespace Statement

/-- A statement **alone**: at the start of a text of its own. -/
def alone (statement : Statement) : Statement := ⟨0, statement.first, statement.more⟩

/-- A statement alone is moved on to **where it stood**. -/
theorem move_alone (statement : Statement) : statement.alone.move statement.line = statement := by
  rw [move, alone, Nat.zero_add]

/-- The lines of a statement are **that statement** alone. -/
theorem statements_lines {line : Nat} {lines : List Text} {statement : Statement}
    (h : statement ∈ statements line lines) : statements 0 statement.lines = [statement.alone] := by
  have hskip := isSkipped_first_of_mem_statements h
  obtain ⟨before, rest, -, -, hmore⟩ := exists_splitStatement_of_mem_statements h
  have hsplit : splitStatement statement.first statement.more = (statement.more, []) := by
    rw [hmore, splitStatement_splitStatement]
  rw [Statement.lines, statements, hskip, if_neg Bool.false_ne_true, hsplit, statements]
  rfl

end Statement

namespace Outline

variable {source : Text} {statement : Statement}

/-! ## The block of a statement -/

/-- The code of a statement has **one block**, that of the statement alone. -/
theorem allBlocks_code (h : statement ∈ statements 0 source.lines) :
    allBlocks statement.code = [blockOf statement.code statement.alone 0] := by
  rw [allBlocks_eq, Statement.lines_code h, Statement.statements_lines h]
  rfl

/-- The block of a statement is the one that its **code has alone**, moved on and renamed. -/
theorem blockOf_eq_called (h : statement ∈ statements 0 source.lines) (index : Nat) :
    blockOf source statement index =
      ((blockOf statement.code statement.alone 0).move statement.line).called
        (statement.name index) := by
  obtain ⟨before, after, hlines, hline⟩ := exists_eq_append_of_mem_statements h
  rw [Nat.zero_add] at hline
  rw [← Statement.lines_code h] at hlines
  have hmem : (statement.alone, 0) ∈ (statements 0 statement.code.lines).zipIdx := by
    rw [Statement.lines_code h, Statement.statements_lines h]
    exact List.mem_singleton_self _
  have hmoved := blockOf_move hlines hmem index
  rwa [← hline, Statement.move_alone] at hmoved

/-- The **name** that a statement has alone. -/
theorem namedAlone_blockOf (h : statement ∈ statements 0 source.lines) (index : Nat) :
    (blockOf source statement index).NamedAlone (statement.alone.name 0) := by
  have hfirst : (blockOf source statement index).code.lines.headD [] = statement.first := by
    rw [blockOf, Statement.lines_code h]
    rfl
  cases hname : Header.name statement.first with
  | cons c rest =>
    have hkept : statement.alone.name 0 = (blockOf source statement index).name := by
      simp only [blockOf, Statement.name, Statement.alone, hname]
    rw [hkept]
    exact .header (by rw [hfirst, hname]; exact List.cons_ne_nil _ _)
  | nil =>
    have hopens := Statement.hasBody_eq_opens statement
    have hplace : (blockOf source statement index).name = _ := Statement.name_of_eq_nil hname index
    have halone : Header.name statement.alone.first = [] := hname
    have hsame : statement.alone.hasBody = statement.hasBody := rfl
    rw [Statement.name_of_eq_nil halone]
    cases hbody : statement.hasBody with
    | false =>
      rw [hbody] at hsame
      rw [Statement.placeName_of_not_hasBody _ hbody] at hplace
      rw [Statement.placeName_of_not_hasBody _ hsame]
      exact .line (by rw [hfirst, hname]) (by rw [hfirst, ← hopens, hbody]) hplace
    | true =>
      rw [hbody] at hsame
      rw [Statement.placeName_of_hasBody _ hbody] at hplace
      rw [Statement.placeName_of_hasBody _ hsame]
      exact .body (by rw [hfirst, hname]) (by rw [hfirst, ← hopens, hbody]) hplace

/-- A block whose name is no directive has none **alone** either. -/
theorem isDirective_of_namedAlone {block : Block} {name : Text} (h : block.NamedAlone name)
    (hblock : Keyword.isDirective block.name = false) : Keyword.isDirective name = false := by
  cases h with
  | header => exact hblock
  | line => decide
  | body => decide

/-- **A block is the outline of its own code.** The code of a block at the top of an outline, read
as a text, has one block: the same one, its line numbers less by those before it at every depth,
with the same code, label and children. It has the same name too, unless that tells the place of a
statement whose header has none; then it is the name of the first place. -/
theorem plain_code_of_mem_plain {block : Block} (h : block ∈ plain source) :
    ∃ name, block.NamedAlone name ∧
      plain block.code = [(block.move (-block.startLine)).called name] := by
  obtain ⟨hall, hdirective⟩ := Block.mem_withoutDirectives.1 h
  obtain ⟨statement, hmem, index, rfl⟩ := exists_statement_of_mem_allBlocks hall
  have hnamed := namedAlone_blockOf hmem index
  refine ⟨_, hnamed, ?_⟩
  have hback : ((blockOf source statement index).move (-(statement.line : Int))).called
      (statement.alone.name 0) = blockOf statement.code statement.alone 0 := by
    rw [blockOf_eq_called hmem, Block.move_called, Block.move_move_neg, Block.called_called]
    exact Block.called_name (blockOf statement.code statement.alone 0)
  have hkept : (blockOf statement.code statement.alone 0).isDirective = false :=
    isDirective_of_namedAlone hnamed hdirective
  calc plain statement.code
      = Block.withoutDirectives [blockOf statement.code statement.alone 0] := by
        rw [plain, allBlocks_code hmem]
    _ = [blockOf statement.code statement.alone 0] := by
        rw [Block.withoutDirectives, List.filter_cons_of_pos (by rw [hkept]; rfl), List.filter_nil]
    _ = _ := by rw [← hback]; rfl

/-- A text with a closing brace **in front of** an opening one and with a body that is never
closed. -/
def looseSource : Text := "a\n\x7d \x7b b\n\nc \x7b\n  : y\n  d".toList

/-- The second block of that text, which **has no name** of its own. -/
def looseBlock : Block where
  name := "block-2".toList
  code := "\x7d \x7b b".toList
  startLine := 1
  endLine := 1
  label := none
  children := some [⟨"b".toList, "\x7d \x7b b".toList, 1, 1, none, none⟩]

/-- As the only one of its text it is the **first** block there. -/
theorem plain_code_looseBlock :
    looseBlock ∈ plain looseSource ∧
      ∃ name, looseBlock.NamedAlone name ∧
        plain looseBlock.code = [(looseBlock.move (-looseBlock.startLine)).called name] := by
  have hmem : looseBlock ∈ plain looseSource := by decide +kernel
  exact ⟨hmem, plain_code_of_mem_plain hmem⟩

end Outline

end DiagramOutline
