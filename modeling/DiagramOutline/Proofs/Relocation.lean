import DiagramOutline.Proofs.Ranges
import DiagramOutline.Proofs.RoundTrip
import Mathlib.Data.List.Forall2

/-! # Texts in a row

Two texts with a newline between them are outlined one after the other: the blocks of the first stay
as they are, and those of the second are moved on by the lines of the first. Nothing but the line
number and the number of statements is carried from one to the other, and only names that are made
of these numbers change. A body that the first text leaves open would go on into the second, so all
of its bodies have to be closed.

* **`Block.move distance block`** — `block` with all its line numbers moved on, at every depth, and
  nothing else changed.
* **`Outline.Closed source`** — every body that a block at the top of `source` opens is closed in
  `source`.
* **`statements_append`** — the statements of lines in a row.
* **`Outline.allBlocks_append_newline`** — the blocks of two texts in a row.
* **`Outline.plain_append_newline`** — the outline of two texts in a row. -/

namespace DiagramOutline

/-- The **lines** of two texts with a newline between them are those of the one and of the other. -/
theorem Text.lines_append_newline_append (first second : Text) :
    lines (first ++ '\n' :: second) = lines first ++ lines second := by
  induction first with
  | nil => rw [List.nil_append, lines_newline, lines_nil, List.singleton_append]
  | cons c rest ih =>
    by_cases h : c = '\n'
    · rw [h, List.cons_append, lines_newline, lines_newline, ih, List.cons_append]
    · obtain ⟨line, more, hrest, hcons⟩ := lines_cons_of_ne h rest
      obtain ⟨line', more', hrest', hcons'⟩ := lines_cons_of_ne h (rest ++ '\n' :: second)
      rw [ih, hrest, List.cons_append, List.cons.injEq] at hrest'
      rw [List.cons_append, hcons', hcons, ← hrest'.1, ← hrest'.2, List.cons_append]

namespace Block

/-! ## Blocks that are moved on -/

mutual

/-- A block **moved on**: its line numbers and those of all blocks inside it grow by `distance`. -/
def move (distance : Int) : Block → Block
  | ⟨name, code, startLine, endLine, label, children⟩ =>
    ⟨name, code, startLine + distance, endLine + distance, label, moveChildren distance children⟩

/-- The children of a block, moved on. -/
def moveChildren (distance : Int) : Option (List Block) → Option (List Block)
  | none => none
  | some blocks => some (moveAll distance blocks)

/-- Blocks, each moved on. -/
def moveAll (distance : Int) : List Block → List Block
  | [] => []
  | block :: more => move distance block :: moveAll distance more

end

mutual

/-- A block that is moved on by **nothing** stays where it is. -/
theorem move_zero : (block : Block) → move 0 block = block
  | ⟨name, code, startLine, endLine, label, children⟩ => by
    rw [move, Int.add_zero, Int.add_zero, moveChildren_zero children]

/-- Children that are moved on by nothing stay where they are. -/
theorem moveChildren_zero : (children : Option (List Block)) → moveChildren 0 children = children
  | none => rfl
  | some blocks => congrArg some (moveAll_zero blocks)

/-- Blocks that are moved on by nothing stay where they are. -/
theorem moveAll_zero : (blocks : List Block) → moveAll 0 blocks = blocks
  | [] => rfl
  | block :: more => by rw [moveAll, move_zero block, moveAll_zero more]

end

/-- A block **called** by another name. -/
def called (name : Text) (block : Block) : Block := { block with name := name }

/-- A block **keeps its code** when it is moved on and placed in lines: the lines that it is moved
to are those that it has, and it has no empty list of children. -/
structure KeepsCode (distance : Int) (lines : List Text) (block : Block) : Prop where
  /-- The lines that the block is moved to have its code. -/
  code : block.code = linesBetween lines (block.startLine + distance) (block.endLine + distance)
  /-- Where there are no children, there is no list of them. -/
  children : block.children ≠ some []

section KeepsCode

variable {distance : Int} {lines : List Text}

mutual

/-- A block is **moved on** by placing it, if it and all blocks inside it keep their code. -/
theorem place_eq_move :
    (block : Block) → (∀ other : Block, other.OccursIn [block] → other.KeepsCode distance lines) →
      place distance lines block = move distance block
  | ⟨name, code, startLine, endLine, label, children⟩, h => by
    have hmem := List.mem_singleton_self (Block.mk name code startLine endLine label children)
    have hkeeps := h _ (.top hmem)
    have hcode : code = linesBetween lines (startLine + distance) (endLine + distance) :=
      hkeeps.code
    rw [place, move, ← hcode, placeChildren_eq_moveChildren children hkeeps.children
      fun blocks hblocks other hin => h other (.inside hmem hblocks hin)]

/-- Children are moved on by placing them. -/
theorem placeChildren_eq_moveChildren :
    (children : Option (List Block)) → children ≠ some [] →
      (∀ blocks, children = some blocks →
        ∀ other : Block, other.OccursIn blocks → other.KeepsCode distance lines) →
      placeChildren distance lines children = moveChildren distance children
  | none, _, _ => rfl
  | some [], hne, _ => absurd rfl hne
  | some (child :: more), _, h => congrArg some (placeAll_eq_moveAll (child :: more) (h _ rfl))

/-- Blocks are moved on by placing them. -/
theorem placeAll_eq_moveAll :
    (blocks : List Block) →
      (∀ other : Block, other.OccursIn blocks → other.KeepsCode distance lines) →
      placeAll distance lines blocks = moveAll distance blocks
  | [], _ => rfl
  | block :: more, h => by
    have hblock : ∀ other : Block, other.OccursIn [block] → other.KeepsCode distance lines := by
      intro other hin
      exact h other (hin.mono fun _ hmem => List.mem_singleton.1 hmem ▸ List.mem_cons_self)
    have hmore : ∀ other : Block, other.OccursIn more → other.KeepsCode distance lines := by
      intro other hin
      exact h other (hin.mono fun _ => List.mem_cons_of_mem block)
    rw [placeAll, moveAll, place_eq_move block hblock, placeAll_eq_moveAll more hmore]

end

end KeepsCode

/-- Blocks that are adopted **further on** are adopted and then placed there. -/
theorem adopt_add (offset distance : Int) (lines lines' : List Text) (blocks : List Block) :
    adopt (offset + distance) lines' blocks =
      placeChildren distance lines' (adopt offset lines blocks) := by
  cases blocks with
  | nil => rfl
  | cons block more =>
    rw [adopt, adopt, ← placeAll_placeAll offset distance lines lines']
    rfl

/-- Between other lines, the same lines stand **further on**. -/
theorem linesBetween_append (before lines after : List Text) {first last : Int}
    (hfirst : 0 ≤ first) (hle : first ≤ last) (hlast : last < lines.length) :
    linesBetween (before ++ lines ++ after) (first + before.length) (last + before.length) =
      linesBetween lines first last := by
  obtain ⟨first, rfl⟩ := Int.eq_ofNat_of_zero_le hfirst
  obtain ⟨last, rfl⟩ := Int.eq_ofNat_of_zero_le (Int.le_trans hfirst hle)
  have hstart : (first : Int) + before.length = ((before.length + first : Nat) : Int) := by omega
  have hstop : (last : Int) + before.length + 1 = ((before.length + (last + 1) : Nat) : Int) := by
    omega
  have hlength : (before ++ lines ++ after).length =
      before.length + lines.length + after.length := by
    rw [List.length_append, List.length_append]
  have hsmall : ((last : Int) + 1) = ((last + 1 : Nat) : Int) := rfl
  rw [linesBetween, linesBetween, hstart, hstop, hsmall,
    slice_natCast _ (by omega) (by omega), slice_natCast _ (by omega) (by omega),
    List.append_assoc, List.take_length_add_append, List.drop_length_add_append,
    List.take_append_of_le_length (by omega)]

end Block

/-! ## Statements that are moved on -/

/-- An interior **moved on** by lines. -/
def Interior.move (distance : Int) (interior : Interior) : Interior :=
  ⟨interior.line + distance, interior.text⟩

namespace Statement

/-- A statement **moved on** by lines. -/
def move (distance : Nat) (statement : Statement) : Statement :=
  ⟨statement.line + distance, statement.first, statement.more⟩

/-- A statement that is moved on has its **interior** moved on. -/
theorem interior?_move (distance : Nat) (statement : Statement) :
    (statement.move distance).interior? = statement.interior?.map (Interior.move distance) := by
  have htrimmed : ∀ interior : Interior,
      (interior.move distance).trimmed? = interior.trimmed?.map (Interior.move distance) := by
    intro interior
    simp only [Interior.trimmed?, Interior.move]
    split
    · rfl
    · rw [Option.map_some, Option.some.injEq, Interior.mk.injEq]
      exact ⟨Int.add_right_comm _ _ _, rfl⟩
  have hwhole : Interior.ofCode? (statement.move distance).line statement.code =
      (Interior.ofCode? statement.line statement.code).map (Interior.move distance) := by
    rw [Interior.ofCode?, Interior.ofCode?, Option.map_map]
    congr 1
    funext ⟨opening, closing⟩
    rw [Function.comp_apply, Interior.move, Interior.mk.injEq]
    exact ⟨Int.add_right_comm statement.line distance _, rfl⟩
  have hcode : (statement.move distance).code = statement.code := rfl
  have hbody : (statement.move distance).hasBody = statement.hasBody := rfl
  rw [interior?, interior?, hbody, hcode, hwhole]
  split
  · cases Interior.ofCode? statement.line statement.code with
    | none => rfl
    | some whole => exact htrimmed whole
  · rfl

/-- The lines of a statement **balance** as they do through its last line. -/
theorem balanceThrough_lastLine {lines : List Text} {statement : Statement}
    (h : statement ∈ statements 0 lines) :
    Braces.balanceThrough lines statement.line statement.lastLine =
      (statement.lines.map Braces.delta).sum := by
  obtain ⟨before, after, hlines, hline⟩ := exists_eq_append_of_mem_statements h
  rw [Nat.zero_add] at hline
  have hlast : statement.lastLine + 1 = (before ++ statement.lines).length := by
    rw [List.length_append, Statement.lines, List.length_cons, lastLine, hline, Nat.add_assoc]
  rw [Braces.balanceThrough, hlast, hlines, List.take_left, hline, List.drop_left]

end Statement

/-- Statements of lines that stand **further on** are moved on. -/
theorem statements_add (line distance : Nat) (lines : List Text) :
    statements (line + distance) lines =
      (statements line lines).map (Statement.move distance) := by
  fun_induction statements line lines with
  | case1 => rw [statements, List.map_nil]
  | case2 line first rest hskip ih =>
    rw [statements, if_pos hskip, ← ih, Nat.add_right_comm]
  | case3 line first rest hskip ih =>
    have hline : line + distance + 1 + (splitStatement first rest).1.length =
        line + 1 + (splitStatement first rest).1.length + distance := by
      omega
    rw [statements, if_neg hskip, hline, ih, List.map_cons]
    rfl

/-- Lines that **close** the bodies in which they stand are taken whatever follows them. -/
theorem splitBody_append_of_closed {depth : Int} {lines : List Text} (hdepth : 0 < depth)
    (h : depth + ((splitBody depth lines).1.map Braces.delta).sum ≤ 0) (more : List Text) :
    splitBody depth (lines ++ more) =
      ((splitBody depth lines).1, (splitBody depth lines).2 ++ more) := by
  induction lines generalizing depth with
  | nil =>
    rw [splitBody, List.map_nil, List.sum_nil] at h
    omega
  | cons line rest ih =>
    by_cases hinner : depth + Braces.delta line ≤ 0
    · simp only [List.cons_append, splitBody, if_pos hinner]
    · simp only [splitBody, if_neg hinner, List.map_cons, List.sum_cons, ← Int.add_assoc] at h
      simp only [List.cons_append, splitBody, if_neg hinner, ih (Int.not_le.1 hinner) h]

/-- A statement whose lines close its bodies takes the same lines **whatever follows**. -/
theorem splitStatement_append_of_closed {first : Text} {rest : List Text}
    (h : Braces.opens (Text.trim first) = true →
      ((first :: (splitStatement first rest).1).map Braces.delta).sum ≤ 0) (more : List Text) :
    splitStatement first (rest ++ more) =
      ((splitStatement first rest).1, (splitStatement first rest).2 ++ more) := by
  by_cases htakes : (Braces.opens (Text.trim first) && 0 < Braces.delta first) = true
  · simp only [splitStatement, if_pos htakes] at h ⊢
    rw [Bool.and_eq_true, decide_eq_true_eq] at htakes
    exact splitBody_append_of_closed htakes.2 (h htakes.1) more
  · simp only [splitStatement, if_neg htakes]

/-- The statements of **lines in a row** are those of the first lines and those of the others, if
the first lines close all bodies that their statements open. -/
theorem statements_append {line : Nat} {first : List Text}
    (h : ∀ statement ∈ statements line first, statement.hasBody = true →
      (statement.lines.map Braces.delta).sum ≤ 0) (second : List Text) :
    statements line (first ++ second) =
      statements line first ++ statements (line + first.length) second := by
  fun_induction statements line first with
  | case1 => rfl
  | case2 line head rest hskip ih =>
    rw [List.cons_append, statements, if_pos hskip, ih h, List.length_cons]
    congr 2
    omega
  | case3 line head rest hskip ih =>
    obtain ⟨hhead, hmore⟩ := List.forall_mem_cons.1 h
    have hlength := congrArg List.length (splitStatement_append head rest)
    rw [List.length_append] at hlength
    have hline : line + 1 + (splitStatement head rest).1.length +
        (splitStatement head rest).2.length = line + (head :: rest).length := by
      rw [List.length_cons]
      omega
    rw [List.cons_append, statements, if_neg hskip, splitStatement_append_of_closed hhead,
      ih hmore, hline, List.cons_append]

namespace Outline

/-! ## Bodies that are closed -/

/-- A source is **closed**: for each of its blocks that opens a body, some line from the first line
of the block on brings the balance of the braces back to zero or below. -/
def Closed (source : Text) : Prop :=
  ∀ statement ∈ statements 0 source.lines, statement.hasBody = true →
    Braces.closingLine? source.lines statement.line ≠ none

instance (source : Text) : Decidable (Closed source) :=
  inferInstanceAs (Decidable (∀ statement ∈ statements 0 source.lines,
    statement.hasBody = true → Braces.closingLine? source.lines statement.line ≠ none))

/-- The statements of a closed source **close** their bodies. -/
theorem Closed.sum_delta_le {source : Text} (h : Closed source) {statement : Statement}
    (hmem : statement ∈ statements 0 source.lines) (hbody : statement.hasBody = true) :
    (statement.lines.map Braces.delta).sum ≤ 0 := by
  obtain ⟨last, hlast⟩ := Option.ne_none_iff_exists'.1 (h statement hmem hbody)
  have heq := Statement.lastLine_eq_of_hasBody hmem hbody
  rw [hlast, Option.getD_some] at heq
  rw [Braces.closingLine?] at hlast
  have hclosed := List.find?_some hlast
  rwa [decide_eq_true_eq, ← heq, Statement.balanceThrough_lastLine hmem] at hclosed

/-! ## Blocks of texts in a row -/

/-- Every block of a text **keeps its code** where the lines of the text stand between others. -/
theorem keepsCode_of_occursIn_allBlocks {source : Text} {block : Block}
    (h : block.OccursIn (allBlocks source)) (before after : List Text) :
    block.KeepsCode before.length (before ++ source.lines ++ after) := by
  obtain ⟨hfirst, hle, hlast⟩ := lines_of_occursIn_allBlocks h
  constructor
  case code =>
    rw [Block.linesBetween_append before source.lines after hfirst hle hlast]
    exact Block.code_of_occursIn (fun _ => standsIn_of_mem_allBlocks) h
  case children =>
    intro hnil
    obtain ⟨statement, -, hcases⟩ := occursIn_allBlocks_cases h
    -- children are adopted at the top, and adopted again wherever a block is placed
    obtain ⟨index, rfl⟩ | ⟨interior, origin, -, -, rfl⟩ := hcases
    · obtain ⟨interior, -, hadopt⟩ := Option.bind_eq_some_iff.1 hnil
      exact Block.adopt_ne_some_nil _ _ _ hadopt
    · rw [Block.children_place] at hnil
      obtain ⟨children, -, hadopt⟩ := Option.bind_eq_some_iff.1 hnil
      exact Block.adopt_ne_some_nil _ _ _ hadopt

/-- Placing a block of a text **moves it on** where the lines of the text stand between others. -/
theorem place_of_mem_allBlocks {source : Text} {block : Block} (h : block ∈ allBlocks source)
    (before after : List Text) :
    Block.place before.length (before ++ source.lines ++ after) block =
      block.move before.length := by
  refine Block.place_eq_move block ?_
  intro other hin
  exact keepsCode_of_occursIn_allBlocks
    (hin.mono fun _ hmem => List.mem_singleton.1 hmem ▸ h) before after

/-- The block of a statement that is **moved on**, in a text that has the lines of its own text
between others. -/
theorem blockOf_move {source whole : Text} {before after : List Text}
    (hwhole : whole.lines = before ++ source.lines ++ after) {statement : Statement} {index : Nat}
    (h : (statement, index) ∈ (statements 0 source.lines).zipIdx) (number : Nat) :
    blockOf whole (statement.move before.length) number =
      ((blockOf source statement index).move before.length).called
        ((statement.move before.length).name number) := by
  have hmem : blockOf source statement index ∈ allBlocks source := by
    rw [allBlocks_eq]
    exact List.mem_map.2 ⟨(statement, index), h, rfl⟩
  have hchildren : childrenOf whole (statement.move before.length) =
      Block.placeChildren before.length whole.lines (childrenOf source statement) := by
    rw [childrenOf, childrenOf, Statement.interior?_move, Option.bind_map]
    cases statement.interior? with
    | none => rfl
    | some interior => exact Block.adopt_add _ _ _ _ _
  have hplace := place_of_mem_allBlocks hmem before after
  rw [← hwhole] at hplace
  have hfields := congrArg Block.children hplace
  have hlast : (((statement.move before.length).lastLine : Nat) : Int) =
      statement.lastLine + before.length := by
    simp only [Statement.lastLine, Statement.move]
    omega
  rw [blockOf, hchildren, hlast]
  simp only [blockOf, Block.place, Block.move, Block.called] at hfields ⊢
  rw [hfields]
  rfl

/-- The blocks of a source that is read **behind** other `lines` and `count` other statements: they
are moved on, and have the names that their statements have there. -/
def blocksBehind (lines count : Nat) (source : Text) : List Block :=
  (statements 0 source.lines).zipIdx.map fun (statement, index) =>
    ((blockOf source statement index).move lines).called
      ((statement.move lines).name (count + index))

/-- The **blocks of two texts in a row**, the first of which is closed: those of the first, and
those of the second behind them. -/
theorem allBlocks_append_newline {first : Text} (h : Closed first) (second : Text) :
    allBlocks (first ++ '\n' :: second) =
      allBlocks first ++ blocksBehind first.lines.length (allBlocks first).length second := by
  have hlines := Text.lines_append_newline_append first second
  have hcount : (allBlocks first).length = (statements 0 first.lines).length := by
    rw [allBlocks_eq, List.length_map, List.length_zipIdx]
  have hstatements : statements 0 (first ++ '\n' :: second).lines =
      statements 0 first.lines ++
        (statements 0 second.lines).map (Statement.move first.lines.length) := by
    rw [hlines, statements_append (fun _ => h.sum_delta_le), statements_add]
  have hleft : ((statements 0 first.lines).zipIdx.map fun (statement, index) =>
      blockOf (first ++ '\n' :: second) statement index) = allBlocks first := by
    rw [allBlocks_eq]
    refine List.map_congr_left ?_
    rintro ⟨statement, index⟩ hmem
    have hwhole : (first ++ '\n' :: second).lines = [] ++ first.lines ++ second.lines := hlines
    have hmoved := blockOf_move hwhole hmem index
    -- the statements of the first text are moved on by nothing
    rw [List.length_nil, Int.natCast_zero, Block.move_zero] at hmoved
    exact hmoved
  have hright : (((statements 0 second.lines).map (Statement.move first.lines.length)).zipIdx
      (statements 0 first.lines).length).map (fun (statement, index) =>
        blockOf (first ++ '\n' :: second) statement index) =
      blocksBehind first.lines.length (allBlocks first).length second := by
    rw [blocksBehind, List.zipIdx_map, List.zipIdx_eq_map_add, List.map_map, List.map_map]
    refine List.map_congr_left ?_
    rintro ⟨statement, index⟩ hmem
    have hsplit : (first ++ '\n' :: second).lines = first.lines ++ second.lines ++ [] := by
      rw [hlines, List.append_nil]
    rw [hcount]
    exact blockOf_move hsplit hmem ((statements 0 first.lines).length + index)
  rw [allBlocks_eq, hstatements, List.zipIdx_append, Nat.zero_add, List.map_append, hleft,
    hright]

/-! ## Names that tell a place -/

/-- A word that **begins no directive** begins no name that is one. -/
theorem isDirective_append {word : Text} (hword : word.all (· != '.') = true)
    (h : ∀ directive ∈ Keyword.directives, ¬ word <+: directive) (rest : Text) :
    Keyword.isDirective (word ++ rest) = false := by
  rw [Keyword.isDirective, List.takeWhile_append_of_pos (List.all_eq_true.1 hword),
    ← Bool.not_eq_true, List.contains_iff_mem]
  intro hmem
  exact h _ hmem (List.prefix_append word _)

end Outline

namespace Block

/-- A block that was read behind other `lines` and `count` other statements has the **name** that it
has without them. Only a name that tells the place of a statement whose header has none is another
one: the number of its line, or its own number if it has a body, grows with what stands before. -/
inductive Renumbered (lines count : Nat) (block : Block) : Text → Prop where
  /-- The header has a name, and the block keeps it. -/
  | header : Header.name (block.code.lines.headD []) ≠ [] → Renumbered lines count block block.name
  /-- The block has no body, and the number of its line grows. -/
  | line {number : Nat} : Header.name (block.code.lines.headD []) = [] →
    Braces.opens (block.code.lines.headD []) = false →
      block.name = "line-".toList ++ Text.ofNat number →
        Renumbered lines count block ("line-".toList ++ Text.ofNat (number + lines))
  /-- The block has a body, and its number grows. -/
  | body {number : Nat} : Header.name (block.code.lines.headD []) = [] →
    Braces.opens (block.code.lines.headD []) = true →
      block.name = "block-".toList ++ Text.ofNat number →
        Renumbered lines count block ("block-".toList ++ Text.ofNat (number + count))

/-- A block is **continued by** another one, which was read behind other `lines` and `count` other
statements: all line numbers have grown by `lines`, at every depth, and the name is renumbered.
Everything else is the same. -/
structure ContinuedBy (lines count : Nat) (block later : Block) : Prop where
  /-- But for its name, the later block is the block, moved on. -/
  eq_called : later = (block.move lines).called later.name
  /-- The name of the later block is that of the block, renumbered. -/
  renumbered : block.Renumbered lines count later.name

end Block

namespace Outline

/-- A block and the one that **continues** it are directives alike. -/
theorem isDirective_of_continuedBy {lines count : Nat} {block later : Block}
    (h : block.ContinuedBy lines count later) : later.isDirective = block.isDirective := by
  have hline : ∀ rest, Keyword.isDirective ("line-".toList ++ rest) = false :=
    isDirective_append (by decide) (by decide)
  have hbody : ∀ rest, Keyword.isDirective ("block-".toList ++ rest) = false :=
    isDirective_append (by decide) (by decide)
  have hrenumbered := h.renumbered
  rw [Block.isDirective, Block.isDirective]
  generalize later.name = name at hrenumbered
  cases hrenumbered with
  | header => rfl
  | line _ _ hname => rw [hname, hline, hline]
  | body _ _ hname => rw [hname, hbody, hbody]

/-- The name of a statement is **renumbered** behind other lines and statements. -/
theorem renumbered_blockOf {source : Text} {statement : Statement}
    (h : statement ∈ statements 0 source.lines) (index lines count : Nat) :
    (blockOf source statement index).Renumbered lines count
      ((statement.move lines).name (count + index)) := by
  have hfirst : (blockOf source statement index).code.lines.headD [] = statement.first := by
    rw [blockOf, Statement.lines_code h]
    rfl
  cases hname : Header.name statement.first with
  | cons c rest =>
    -- the name is read off the header, which is the same
    have hkept : (statement.move lines).name (count + index) =
        (blockOf source statement index).name := by
      simp only [blockOf, Statement.name, Statement.move, hname]
    rw [hkept]
    exact .header (by rw [hfirst, hname]; exact List.cons_ne_nil _ _)
  | nil =>
    have hopens := Statement.hasBody_eq_opens statement
    have hplace : (blockOf source statement index).name = _ := Statement.name_of_eq_nil hname index
    have hsame : (statement.move lines).hasBody = statement.hasBody := rfl
    have hlater : Header.name (statement.move lines).first = [] := hname
    have hmoved := Statement.name_of_eq_nil hlater (count + index)
    cases hbody : statement.hasBody with
    | false =>
      rw [hbody] at hsame
      rw [Statement.placeName_of_not_hasBody _ hbody] at hplace
      rw [hmoved, Statement.placeName_of_not_hasBody _ hsame, Statement.move, Nat.add_right_comm]
      exact .line (by rw [hfirst, hname]) (by rw [hfirst, ← hopens, hbody]) hplace
    | true =>
      rw [hbody] at hsame
      rw [Statement.placeName_of_hasBody _ hbody] at hplace
      rw [hmoved, Statement.placeName_of_hasBody _ hsame, Nat.add_assoc, Nat.add_comm count]
      exact .body (by rw [hfirst, hname]) (by rw [hfirst, ← hopens, hbody]) hplace

/-- The blocks of a source are **continued by** those that it has behind other lines and statements,
one for one, also where directives are left out. -/
theorem continuedBy_blocksBehind (lines count : Nat) (source : Text) :
    List.Forall₂ (Block.ContinuedBy lines count) (plain source)
      (Block.withoutDirectives (blocksBehind lines count source)) := by
  refine List.rel_filter ?_ ?_
  · intro block later hcontinued
    show (!block.isDirective) = true ↔ (!later.isDirective) = true
    rw [isDirective_of_continuedBy hcontinued]
  · rw [allBlocks_eq, blocksBehind, List.forall₂_map_left_iff, List.forall₂_map_right_iff,
      List.forall₂_same]
    rintro ⟨statement, index⟩ hmem
    exact ⟨rfl, renumbered_blockOf (List.fst_mem_of_mem_zipIdx hmem) index lines count⟩

/-- **The outline of two texts in a row.** If the first text is closed, its blocks come first and
are those of its own outline. The blocks of the second text follow, moved on at every depth by the
lines of the first; a name that tells a place is renumbered by the lines or by the statements of the
first, and nothing else changes. -/
theorem plain_append_newline {first : Text} (h : Closed first) (second : Text) :
    ∃ later, plain (first ++ '\n' :: second) = plain first ++ later ∧
      List.Forall₂ (Block.ContinuedBy first.lines.length (allBlocks first).length)
        (plain second) later := by
  refine ⟨_, ?_, continuedBy_blocksBehind _ _ second⟩
  rw [plain, allBlocks_append_newline h, Block.withoutDirectives, List.filter_append]
  rfl

/-- A closed text with a **body without a name** and a statement without one, and a directive. -/
def unnamedSource : Text := "\x7b\n  b\n\x7d\nlabel: x\n: y".toList

/-- That text **behind itself**: the second time its names are renumbered. -/
theorem plain_unnamedSource_twice :
    Closed unnamedSource ∧
      (plain (unnamedSource ++ '\n' :: unnamedSource)).map (String.ofList ·.name) =
        ["block-1", "line-5", "block-4", "line-10"] ∧
      ∃ later, plain (unnamedSource ++ '\n' :: unnamedSource) = plain unnamedSource ++ later ∧
        List.Forall₂ (Block.ContinuedBy unnamedSource.lines.length
          (allBlocks unnamedSource).length) (plain unnamedSource) later := by
  have hclosed : Closed unnamedSource := by decide +kernel
  exact ⟨hclosed, by decide +kernel, plain_append_newline hclosed unnamedSource⟩

end Outline

end DiagramOutline
