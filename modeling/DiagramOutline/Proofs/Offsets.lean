import DiagramOutline.Proofs.Ranges

/-! # Lines below zero

A block that a node declares is given the rows of the node, and a row below zero spoils the blocks of
all nodes next to it. The blocks inside a body are moved by the row of the body, which nobody looks
at. So the blocks at the top never stand on a line below zero, and those inside bodies do if the rows
of the bodies around them bring them there.

* **`Block.StandsFrom line block`** — `block` neither begins nor ends before `line`.
* **`Outline.Spoils source node`** — `node` stands for a statement and has a row below zero.
* **`Outline.CutsOut grammar depth source interior`** — `interior` is cut out of the outline of
  `source`.
* **`Outline.NestedOutline grammar depth source offset blocks`** — `blocks` is the outline of a text
  that is cut out of `source`, at any depth, and is moved down by `offset` lines.
* **`Outline.standsFrom_step`**, **`Outline.standsFrom_iff`** — where the blocks of an outline stand,
  through one body and through all of them.
* **`Outline.lines_nonneg_iff`** — when no block stands on a line below zero. -/

namespace DiagramOutline

/-- A block **stands from a line on**: it neither begins nor ends before that line. -/
def Block.StandsFrom (line : Int) (block : Block) : Prop :=
  line ≤ block.startLine ∧ line ≤ block.endLine

/-- A placed block stands from a line on if the block stands from the line that is **moved there**. -/
theorem Block.standsFrom_place {line offset : Int} {lines : List Text} {block : Block} :
    (place offset lines block).StandsFrom line ↔ block.StandsFrom (line - offset) := by
  rw [StandsFrom, StandsFrom, startLine_place, endLine_place]
  omega

namespace Outline

/-! ## Rows below zero -/

/-- A node **spoils** the blocks of all nodes next to it: it stands for a statement that has a name,
and has a row below zero. -/
def Spoils (source : List UInt8) (node : SyntaxNode) : Prop :=
  standsForStatement node = true ∧ node.declaredName source ≠ [] ∧
    (node.rows.1 < 0 ∨ node.rows.2 < 0)

/-- Nodes stand for **no blocks at all** exactly if one of them spoils them. -/
theorem value_declared_eq_none_iff {inner : Text → Result} {source : List UInt8}
    {lines : List Text} {nodes : List SyntaxNode} {found : Logged (Option (List Block))}
    (h : declared inner source lines nodes = some found) :
    found.value = none ↔ ∃ node ∈ nodes, Spoils source node := by
  induction nodes generalizing found with
  | nil =>
    cases h
    simp [Logged.quiet]
  | cons node more ih =>
    simp only [List.mem_cons, exists_eq_or_imp]
    unfold declared at h
    split at h
    · next hstands =>
      split at h
      -- a node without a name spoils nothing
      · next hname =>
        have hnot : ¬ Spoils source node := fun hspoils => hspoils.2.1 hname
        rw [ih h, or_iff_right hnot]
      · next c name hname =>
        have hne : node.declaredName source ≠ [] := by
          rw [hname]
          exact List.cons_ne_nil _ _
        split at h
        · cases h
        · split at h
          · next hrows =>
            cases h
            exact iff_of_true rfl (.inl ⟨hstands, hne, hrows⟩)
          · next hrows =>
            obtain ⟨rest, hrest, rfl⟩ := Option.map_eq_some_iff.1 h
            have hnot : ¬ Spoils source node := fun hspoils => hrows hspoils.2.2
            rw [or_iff_right hnot, ← ih hrest]
            exact Option.map_eq_none_iff
    · next hstands =>
      have hnot : ¬ Spoils source node := fun hspoils => hstands hspoils.1
      rw [ih h, or_iff_right hnot]

/-- If a node at the top of the tree of a source spoils its blocks, the outline is the one of the
**text**. -/
theorem value_parsed_of_spoils {grammar : Grammar} {depth : Nat} {source : Text}
    {found : Logged (List Block)} {root node : SyntaxNode}
    (h : parsed grammar depth source = some found) (hroot : grammar source = .tree root)
    (hnode : node ∈ root.children) (hspoils : Spoils (Utf8.encode source) node) :
    found.value = plain source := by
  cases depth with
  | zero => cases h
  | succ depth =>
    rw [parsed, hroot] at h
    obtain ⟨tree, htree, rfl⟩ := Option.map_eq_some_iff.1 h
    have hnone := (value_declared_eq_none_iff htree).2 ⟨node, hnode, hspoils⟩
    rw [hnone]

/-! ## The blocks of a text -/

/-- What occurs in a block of a text begins no earlier than that block. -/
theorem standsFrom_of_occursIn_singleton {source : Text} {parent block : Block} {line : Int}
    (hparent : parent ∈ allBlocks source) (hstands : parent.StandsFrom line)
    (h : block.OccursIn [parent]) : block.StandsFrom line := by
  have horder : Block.InOrder [parent] :=
    (inOrder_allBlocks source).sublist (List.singleton_sublist.2 hparent)
  have hencloses : ∀ other : Block, other.OccursIn [parent] → other.Encloses := by
    intro other hother
    have hin : other.OccursIn (allBlocks source) := by
      refine hother.mono ?_
      intro top htop
      rwa [List.mem_singleton.1 htop]
    exact encloses_of_occursIn_allBlocks hin
  obtain ⟨hle, top, htop, hstart, -⟩ := exists_standsInside_of_occursIn h horder hencloses
  rw [List.mem_singleton.1 htop] at hstart
  have hline : line ≤ block.startLine := Int.le_trans hstands.1 hstart
  exact ⟨hline, Int.le_trans hline hle⟩

/-- No block in the outline of a **text** stands on a line below zero. -/
theorem standsFrom_of_occursIn_plain {source : Text} {block : Block}
    (h : block.OccursIn (plain source)) : block.StandsFrom 0 := by
  obtain ⟨hstart, hle, -⟩ := lines_of_occursIn_allBlocks h.of_withoutDirectives
  exact ⟨hstart, Int.le_trans hstart hle⟩

/-- The blocks **at the top** of an outline do not stand on lines below zero. -/
theorem standsFrom_of_mem_parsed {grammar : Grammar} {depth : Nat} {source : Text}
    {found : Logged (List Block)} {block : Block} (h : parsed grammar depth source = some found)
    (hmem : block ∈ found.value) : block.StandsFrom 0 := by
  obtain hblock | ⟨below, root, node, -, -, -, hdeclared, -⟩ := mem_parsed_cases h hmem
  · exact standsFrom_of_occursIn_plain (.top hblock)
  · exact hdeclared.rows_nonneg

/-! ## Interiors that are cut out -/

/-- An interior is **cut out** of a source: it is the interior of a node at the top of the tree, and
the block of that node is in the outline. -/
def CutsOut (grammar : Grammar) (depth : Nat) (source : Text) (interior : Interior) : Prop :=
  ∃ root node found block, grammar source = .tree root ∧ node ∈ root.children ∧
    parsed grammar (depth + 1) source = some found ∧ block ∈ found.value ∧
      DeclaredBy (parsed grammar depth) (Utf8.encode source) source.lines node block ∧
        node.interior? (Utf8.encode source) = some interior

/-- An interior that is cut out has an **outline**, which is adopted by a block at the top. -/
theorem CutsOut.exists_parent {grammar : Grammar} {depth : Nat} {source : Text}
    {interior : Interior} {found : Logged (List Block)} (h : CutsOut grammar depth source interior)
    (hfound : parsed grammar (depth + 1) source = some found) :
    ∃ parent ∈ found.value, ∃ inside, parsed grammar depth interior.text = some inside ∧
      parent.children = Block.adopt interior.line source.lines inside.value := by
  obtain ⟨root, node, found', parent, -, -, hfound', hparent, hdeclared, hinterior⟩ := h
  rw [hfound'] at hfound
  cases hfound
  obtain ⟨children, hchildren, hvalue⟩ := hdeclared.children
  unfold declaredChildren at hchildren
  rw [hinterior] at hchildren
  obtain ⟨inside, hinside, rfl⟩ := Option.map_eq_some_iff.1 hchildren
  exact ⟨parent, hparent, inside, hinside, hvalue.symm⟩

/-- The children of a block at the top are read off the text, or are the placed outline of an
interior that is **cut out**. -/
theorem exists_cutsOut_of_children {grammar : Grammar} {depth : Nat} {source : Text}
    {found : Logged (List Block)} {parent : Block} {children : List Block}
    (h : parsed grammar (depth + 1) source = some found) (hparent : parent ∈ found.value)
    (hchildren : parent.children = some children) :
    parent ∈ plain source ∨
      ∃ (interior : Interior) (inside : Logged (List Block)),
        CutsOut grammar depth source interior ∧ parsed grammar depth interior.text = some inside ∧
          children = inside.value.map (Block.place interior.line source.lines) := by
  obtain hplain | ⟨below, root, node, hdepth, hroot, hnode, hdeclared, -⟩ :=
    mem_parsed_cases h hparent
  · exact .inl hplain
  · cases hdepth
    obtain ⟨interior, inside, hinterior, hinside, -, hplaced⟩ := hdeclared.exists_children hchildren
    exact .inr ⟨interior, inside,
      ⟨root, node, found, parent, hroot, hnode, h, hparent, hdeclared, hinterior⟩, hinside, hplaced⟩

/-- **One body.** The blocks of an outline stand from a line on exactly if those at the top do, and
those of each interior that is cut out stand from the line that is moved there. -/
theorem standsFrom_step {grammar : Grammar} {depth : Nat} {source : Text}
    {found : Logged (List Block)} (h : parsed grammar (depth + 1) source = some found)
    (line : Int) :
    (∀ block : Block, block.OccursIn found.value → block.StandsFrom line) ↔
      (∀ block ∈ found.value, block.StandsFrom line) ∧
        ∀ (interior : Interior) (inside : Logged (List Block)),
          CutsOut grammar depth source interior → parsed grammar depth interior.text = some inside →
            ∀ block : Block, block.OccursIn inside.value →
              block.StandsFrom (line - interior.line) := by
  constructor
  · intro hall
    refine ⟨fun block hmem => hall block (.top hmem), ?_⟩
    intro interior inside hcuts hinside block hin
    obtain ⟨parent, hparent, inside', hinside', hchildren⟩ := hcuts.exists_parent h
    rw [hinside] at hinside'
    cases hinside'
    have hplaced := hin.map_place interior.line source.lines
    have hadopt : parent.children =
        some (inside.value.map (Block.place interior.line source.lines)) := by
      rw [hchildren, Block.adopt_eq_some_iff]
      exact ⟨hin.ne_nil, rfl⟩
    exact Block.standsFrom_place.1 (hall _ (.inside hparent hadopt hplaced))
  · rintro ⟨htop, hinner⟩ block hin
    cases hin with
    | top hmem => exact htop block hmem
    | inside hparent hchildren hin =>
      obtain hplain | ⟨interior, inside, hcuts, hinside, rfl⟩ :=
        exists_cutsOut_of_children h hparent hchildren
      -- a block of the text holds none that begins before it
      · exact standsFrom_of_occursIn_singleton (Block.mem_withoutDirectives.1 hplain).1
          (htop _ hparent) (.inside List.mem_cons_self hchildren hin)
      · obtain ⟨origin, horigin, rfl⟩ := Block.occursIn_map_place hin
        exact Block.standsFrom_place.2 (hinner interior inside hcuts hinside origin horigin)

/-! ## Outlines inside outlines -/

/-- The outline of a text that is cut out of a source, at any depth, with the **offset** by which its
blocks are moved: the sum of the lines on which the interiors around it start. -/
inductive NestedOutline (grammar : Grammar) : Nat → Text → Int → List Block → Prop where
  /-- The outline of the source itself is not moved. -/
  | top {depth : Nat} {source : Text} {found : Logged (List Block)} :
    parsed grammar depth source = some found → NestedOutline grammar depth source 0 found.value
  /-- An outline that is cut out of an interior is moved by the line of the interior, too. -/
  | inside {depth : Nat} {source : Text} {interior : Interior} {offset : Int}
    {blocks : List Block} :
    CutsOut grammar depth source interior →
      NestedOutline grammar depth interior.text offset blocks →
        NestedOutline grammar (depth + 1) source (interior.line + offset) blocks

/-- **All bodies.** The blocks of an outline stand from a line on exactly if the blocks at the top of
each outline inside it stand from the line that is moved there. -/
theorem standsFrom_iff {grammar : Grammar} {depth : Nat} {source : Text}
    {found : Logged (List Block)} (h : parsed grammar depth source = some found) (line : Int) :
    (∀ block : Block, block.OccursIn found.value → block.StandsFrom line) ↔
      ∀ offset blocks, NestedOutline grammar depth source offset blocks →
        ∀ block ∈ blocks, block.StandsFrom (line - offset) := by
  induction depth generalizing source found line with
  | zero => cases h
  | succ depth ih =>
    rw [standsFrom_step h]
    constructor
    · rintro ⟨htop, hinner⟩ offset blocks hnested
      cases hnested with
      | top hfound =>
        rw [h] at hfound
        cases hfound
        rwa [Int.sub_zero]
      | inside hcuts hnested =>
        obtain ⟨-, -, inside, hinside, -⟩ := hcuts.exists_parent h
        rw [← Int.sub_sub]
        exact (ih hinside _).1 (hinner _ inside hcuts hinside) _ _ hnested
    · intro hall
      constructor
      · have htop := hall 0 found.value (.top h)
        rwa [Int.sub_zero] at htop
      · intro interior inside hcuts hinside
        refine (ih hinside _).2 ?_
        intro offset blocks hnested
        rw [Int.sub_sub]
        exact hall _ blocks (.inside hcuts hnested)

/-- The blocks at the top of an outline inside an outline do not stand on lines below zero, before
they are **moved**. -/
theorem NestedOutline.standsFrom {grammar : Grammar} {depth : Nat} {source : Text} {offset : Int}
    {blocks : List Block} (h : NestedOutline grammar depth source offset blocks) {block : Block}
    (hmem : block ∈ blocks) : block.StandsFrom 0 := by
  induction h with
  | top hfound => exact standsFrom_of_mem_parsed hfound hmem
  | inside _ _ ih => exact ih hmem

/-- In the trees of a grammar **no body starts on a row below zero**. -/
def BodyRowsNonneg (grammar : Grammar) : Prop :=
  ∀ text root, grammar text = .tree root → ∀ node ∈ root.children, ∀ body,
    node.body? = some body → 0 ≤ body.start.row

/-- With such a grammar no outline inside an outline is moved **up**. -/
theorem NestedOutline.offset_nonneg {grammar : Grammar} {depth : Nat} {source : Text}
    {offset : Int} {blocks : List Block} (hrows : BodyRowsNonneg grammar)
    (h : NestedOutline grammar depth source offset blocks) : 0 ≤ offset := by
  induction h with
  | top _ => exact Int.le_refl 0
  | inside hcuts _ ih =>
    obtain ⟨root, node, -, -, hroot, hnode, -, -, -, hinterior⟩ := hcuts
    obtain ⟨body, hbody, htrimmed⟩ := Option.bind_eq_some_iff.1 hinterior
    have hrow := hrows _ root hroot node hnode body hbody
    have hline := (Interior.line_add_count_of_trimmed? htrimmed).1
    exact Int.add_nonneg (Int.le_trans hrow hline) ih

/-! ## Lines below zero -/

/-- **When no block stands on a line below zero.** A block at the top never does; if the tree would
put one there, the outline is read off the text. But a block inside a body is moved by the line of the
body, and then nobody looks. So no block does exactly if none is moved below zero: that is so for the
blocks at the top of each outline inside the outline. It is always so without a grammar, and with one
in whose trees no body starts on a row below zero. -/
theorem lines_nonneg_iff {grammar : Option Grammar} {depth : Nat} {source : Text}
    {found : Logged (List Block)} (h : read grammar depth source = some found) :
    (∀ block ∈ found.value, block.StandsFrom 0) ∧
      (∀ given root node, grammar = some given → given source = .tree root →
        node ∈ root.children → Spoils (Utf8.encode source) node → found.value = plain source) ∧
      ((∀ block : Block, block.OccursIn found.value → block.StandsFrom 0) ↔
        ∀ given offset blocks, grammar = some given →
          NestedOutline given depth source offset blocks →
            ∀ block ∈ blocks, block.StandsFrom (-offset)) ∧
      ((∀ given, grammar = some given → BodyRowsNonneg given) →
        ∀ block : Block, block.OccursIn found.value → block.StandsFrom 0) := by
  cases grammar with
  | none =>
    cases h
    have hall : ∀ block : Block, block.OccursIn (plain source) → block.StandsFrom 0 :=
      fun _ => standsFrom_of_occursIn_plain
    refine ⟨fun block hmem => hall block (.top hmem), nofun, ?_, fun _ => hall⟩
    exact iff_of_true hall nofun
  | some grammar =>
    have hiff := standsFrom_iff h 0
    simp only [Int.zero_sub] at hiff
    simp only [Option.some.injEq]
    refine ⟨fun _ => standsFrom_of_mem_parsed h, ?_, ?_, ?_⟩
    · rintro _ root node rfl hroot hnode hspoils
      exact value_parsed_of_spoils h hroot hnode hspoils
    · rw [hiff]
      constructor
      · rintro hnested _ offset blocks rfl
        exact hnested offset blocks
      · intro hnested offset blocks
        exact hnested grammar offset blocks rfl
    · intro hrows
      refine hiff.2 ?_
      intro offset blocks hnested block hmem
      obtain ⟨hstart, hend⟩ := hnested.standsFrom hmem
      have hoffset := hnested.offset_nonneg (hrows grammar rfl)
      constructor <;> omega

/-- A source with a body around **one line**. -/
def raisedBodySource : Text := "a \x7b\n  b\n\x7d".toList

/-- A grammar that makes a tree of that source in which the body starts **two rows above** the text,
and none of any other text. -/
def raisedBodyGrammar : Grammar := fun text =>
  if text = raisedBodySource then
    .tree ⟨"source_file", true, 0, 9, ⟨0, 0⟩, ⟨2, 1⟩,
      [⟨"declaration", true, 0, 9, ⟨0, 0⟩, ⟨2, 1⟩,
        [⟨"identifier", true, 0, 1, ⟨0, 0⟩, ⟨0, 1⟩, []⟩,
          ⟨"block", true, 2, 9, ⟨-2, 2⟩, ⟨2, 1⟩, []⟩]⟩]⟩
  else .noTree

/-- The outline of that source has a block inside the body on the **line before the first**. -/
theorem read_raisedBody :
    ∃ found, read (some raisedBodyGrammar) 2 raisedBodySource = some found ∧
      ∃ block : Block, block.OccursIn found.value ∧ block.startLine = -1 := by
  let inner : Block := ⟨"b".toList, [], -1, -1, none, none⟩
  let outer : Block := ⟨"a".toList, raisedBodySource, 0, 2, none, some [inner]⟩
  have hread : (read (some raisedBodyGrammar) 2 raisedBodySource).map (·.value) =
      some [outer] := by
    decide +kernel
  obtain ⟨found, hfound, hvalue⟩ := Option.map_eq_some_iff.1 hread
  refine ⟨found, hfound, inner, ?_, rfl⟩
  rw [hvalue]
  exact .inside List.mem_cons_self rfl (.top List.mem_cons_self)

/-- So **not every** block of every outline stands on lines from zero on. -/
theorem not_forall_lines_nonneg :
    ¬ ∀ (grammar : Option Grammar) (depth : Nat) (source : Text) (found : Logged (List Block)),
      read grammar depth source = some found →
        ∀ block : Block, block.OccursIn found.value → 0 ≤ block.startLine ∧ 0 ≤ block.endLine := by
  intro hall
  obtain ⟨found, hfound, block, hin, hline⟩ := read_raisedBody
  have hstart := (hall _ _ _ _ hfound block hin).1
  omega

/-- The block at the top of that outline stands on lines from zero on, and the body is **moved**
below zero. -/
theorem lines_raisedBody :
    ∃ found, read (some raisedBodyGrammar) 2 raisedBodySource = some found ∧
      (∀ block ∈ found.value, block.StandsFrom 0) ∧
        ∃ offset blocks, NestedOutline raisedBodyGrammar 2 raisedBodySource offset blocks ∧
          ∃ block ∈ blocks, ¬ block.StandsFrom (-offset) := by
  obtain ⟨found, hfound, block, hin, hline⟩ := read_raisedBody
  obtain ⟨htop, -, hiff, -⟩ := lines_nonneg_iff hfound
  refine ⟨found, hfound, htop, ?_⟩
  by_contra hnone
  push Not at hnone
  have hall : ∀ block : Block, block.OccursIn found.value → block.StandsFrom 0 := by
    refine hiff.2 ?_
    rintro _ offset blocks ⟨⟩
    exact hnone offset blocks
  have hstart := (hall block hin).1
  omega

end Outline

end DiagramOutline
