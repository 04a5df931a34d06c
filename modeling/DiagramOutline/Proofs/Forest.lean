import DiagramOutline.Outline.Parsed

/-! # Forests of blocks

An outline is a forest: blocks, the blocks inside their bodies, the blocks inside those. Statements
about all blocks of an outline are about the blocks that occur in this forest at any depth.

* **`Block.OccursIn block blocks`** — `block` is one of `blocks`, or occurs among the children of
  one.
* **`Block.occursIn_map_place`** — what occurs in a placed forest is a placed block that occurs in
  the forest.
* **`Outline.occursIn_allBlocks_cases`** — a block in the outline of a text is the block of a
  statement, or a placed block of the outline of a statement's interior. -/

namespace DiagramOutline

namespace Block

/-- A block **occurs** in a forest: at the top, or among the children of a block at the top. -/
inductive OccursIn (block : Block) : List Block → Prop where
  /-- At the top. -/
  | top {blocks : List Block} : block ∈ blocks → OccursIn block blocks
  /-- Among the children of a block at the top. -/
  | inside {blocks children : List Block} {parent : Block} :
    parent ∈ blocks → parent.children = some children → OccursIn block children →
      OccursIn block blocks

/-- What occurs in a forest occurs in every forest that has **more** blocks at the top. -/
theorem OccursIn.mono {block : Block} {blocks more : List Block} (h : block.OccursIn blocks)
    (hsub : ∀ other ∈ blocks, other ∈ more) : block.OccursIn more := by
  cases h with
  | top hmem => exact .top (hsub _ hmem)
  | inside hparent hchildren hin => exact .inside (hsub _ hparent) hchildren hin

/-- **Nothing** occurs in an empty forest. -/
theorem OccursIn.ne_nil {block : Block} {blocks : List Block} (h : block.OccursIn blocks) :
    blocks ≠ [] := by
  rintro rfl
  cases h with
  | top hmem => cases hmem
  | inside hmem => cases hmem

/-- What occurs in a forest without its directives occurs in the forest. -/
theorem OccursIn.of_withoutDirectives {block : Block} {blocks : List Block}
    (h : block.OccursIn (withoutDirectives blocks)) : block.OccursIn blocks := by
  refine h.mono ?_
  intro other hother
  exact (mem_withoutDirectives.1 hother).1

/-! ## Placed blocks -/

/-- Placing moves the **first line** of a block. -/
@[simp] theorem startLine_place (offset : Int) (lines : List Text) (block : Block) :
    (place offset lines block).startLine = block.startLine + offset := by
  cases block
  rfl

/-- Placing moves the **last line** of a block. -/
@[simp] theorem endLine_place (offset : Int) (lines : List Text) (block : Block) :
    (place offset lines block).endLine = block.endLine + offset := by
  cases block
  rfl

/-- The **code** of a placed block is that of the lines it is placed on. -/
theorem code_place (offset : Int) (lines : List Text) (block : Block) :
    (place offset lines block).code =
      linesBetween lines (place offset lines block).startLine
        (place offset lines block).endLine := by
  cases block
  rfl

/-- A placed block **adopts** the children of the block. -/
theorem children_place (offset : Int) (lines : List Text) (block : Block) :
    (place offset lines block).children = block.children.bind (adopt offset lines) := by
  obtain ⟨name, code, startLine, endLine, label, children⟩ := block
  cases children with
  | none => rfl
  | some blocks => cases blocks <;> rfl

/-- Blocks are **adopted** as a forest of placed blocks, unless there are none. -/
theorem adopt_eq_some_iff {offset : Int} {lines : List Text} {blocks children : List Block} :
    adopt offset lines blocks = some children ↔
      blocks ≠ [] ∧ children = blocks.map (place offset lines) := by
  cases blocks with
  | nil => simp [adopt]
  | cons block more =>
    rw [adopt, placeAll_eq_map, Option.some.injEq]
    exact ⟨fun h => ⟨List.cons_ne_nil _ _, h.symm⟩, fun h => h.2.symm⟩

mutual

/-- A block that is placed **twice** is placed once, in the lines it was placed in last. -/
theorem place_place (offset offset' : Int) (lines lines' : List Text) :
    (block : Block) →
      place offset' lines' (place offset lines block) = place (offset + offset') lines' block
  | ⟨name, code, startLine, endLine, label, children⟩ => by
    simp only [place, Int.add_assoc,
      placeChildren_placeChildren offset offset' lines lines' children]

/-- Children that are placed twice are placed once. -/
theorem placeChildren_placeChildren (offset offset' : Int) (lines lines' : List Text) :
    (children : Option (List Block)) →
      placeChildren offset' lines' (placeChildren offset lines children) =
        placeChildren (offset + offset') lines' children
  | none => rfl
  | some [] => rfl
  | some (child :: more) => by
    simp only [placeChildren, place_place offset offset' lines lines' child,
      placeAll_placeAll offset offset' lines lines' more]

/-- The blocks of a list that are placed twice are placed once. -/
theorem placeAll_placeAll (offset offset' : Int) (lines lines' : List Text) :
    (blocks : List Block) →
      placeAll offset' lines' (placeAll offset lines blocks) =
        placeAll (offset + offset') lines' blocks
  | [] => rfl
  | block :: more => by
    simp only [placeAll, place_place offset offset' lines lines' block,
      placeAll_placeAll offset offset' lines lines' more]

end

/-- What occurs in a **placed forest** is a placed block that occurs in the forest. -/
theorem occursIn_map_place {offset : Int} {lines : List Text} {block : Block}
    {blocks : List Block} (h : block.OccursIn (blocks.map (place offset lines))) :
    ∃ origin, origin.OccursIn blocks ∧ block = place offset lines origin := by
  generalize hplaced : blocks.map (place offset lines) = placed at h
  induction h generalizing blocks with
  | top hmem =>
    subst hplaced
    obtain ⟨origin, horigin, rfl⟩ := List.mem_map.1 hmem
    exact ⟨origin, .top horigin, rfl⟩
  | inside hparent hchildren _ ih =>
    subst hplaced
    obtain ⟨parent, hmem, rfl⟩ := List.mem_map.1 hparent
    rw [children_place] at hchildren
    obtain ⟨found, hfound, hadopt⟩ := Option.bind_eq_some_iff.1 hchildren
    obtain ⟨-, rfl⟩ := adopt_eq_some_iff.1 hadopt
    obtain ⟨origin, horigin, rfl⟩ := ih rfl
    exact ⟨origin, .inside hmem hfound horigin, rfl⟩

/-- What occurs in a forest **is placed** with the forest. -/
theorem OccursIn.map_place {block : Block} {blocks : List Block} (h : block.OccursIn blocks)
    (offset : Int) (lines : List Text) :
    (place offset lines block).OccursIn (blocks.map (place offset lines)) := by
  induction h with
  | top hmem => exact .top (List.mem_map_of_mem hmem)
  | inside hparent hchildren hin ih =>
    refine .inside (List.mem_map_of_mem hparent) ?_ ih
    rw [children_place, hchildren, Option.bind_some, adopt_eq_some_iff]
    exact ⟨hin.ne_nil, rfl⟩

end Block

namespace Outline

/-! ## The outline of a text -/

/-- What is read off the blocks of a text is read off its **statements**, one by one. -/
theorem map_allBlocks {α : Type} {source : Text} {read : Block → α} {part : Statement → α}
    (h : ∀ statement ∈ statements 0 source.lines, ∀ index,
      read (blockOf source statement index) = part statement) :
    (allBlocks source).map read = (statements 0 source.lines).map part := by
  have hfst := List.zipIdx_map_fst 0 (statements 0 source.lines)
  calc (allBlocks source).map read
      = (statements 0 source.lines).zipIdx.map fun placed =>
          read (blockOf source placed.1 placed.2) := by
        rw [allBlocks_eq, List.map_map]
        rfl
    _ = (statements 0 source.lines).zipIdx.map fun placed => part placed.1 := by
        refine List.map_congr_left ?_
        intro placed hmem
        exact h placed.1 (List.fst_mem_of_mem_zipIdx hmem) placed.2
    _ = ((statements 0 source.lines).zipIdx.map Prod.fst).map part := by rw [List.map_map]; rfl
    _ = _ := by rw [hfst]

/-- A block in the outline of a text stands for one of its **statements**. -/
theorem exists_statement_of_mem_allBlocks {source : Text} {block : Block}
    (h : block ∈ allBlocks source) :
    ∃ statement ∈ statements 0 source.lines, ∃ index, block = blockOf source statement index := by
  rw [allBlocks_eq] at h
  obtain ⟨⟨statement, index⟩, hmem, rfl⟩ := List.mem_map.1 h
  exact ⟨statement, List.fst_mem_of_mem_zipIdx hmem, index, rfl⟩

/-- The **children** of the block of a statement are the placed outline of its interior. -/
theorem exists_interior_of_childrenOf {source : Text} {statement : Statement}
    {children : List Block} (h : childrenOf source statement = some children) :
    ∃ interior, statement.interior? = some interior ∧
      children = (plain interior.text).map (Block.place interior.line source.lines) := by
  obtain ⟨interior, hinterior, hadopt⟩ := Option.bind_eq_some_iff.1 h
  exact ⟨interior, hinterior, (Block.adopt_eq_some_iff.1 hadopt).2⟩

/-- A block that occurs in the outline of a text is the block of a statement, or a placed block that
occurs in the outline of the **interior** of one. -/
theorem occursIn_allBlocks_cases {source : Text} {block : Block}
    (h : block.OccursIn (allBlocks source)) :
    ∃ statement ∈ statements 0 source.lines,
      (∃ index, block = blockOf source statement index) ∨
        ∃ interior origin, statement.interior? = some interior ∧
          origin.OccursIn (allBlocks interior.text) ∧
            block = Block.place interior.line source.lines origin := by
  cases h with
  | top hmem =>
    obtain ⟨statement, hstatement, index, hblock⟩ := exists_statement_of_mem_allBlocks hmem
    exact ⟨statement, hstatement, .inl ⟨index, hblock⟩⟩
  | inside hparent hchildren hin =>
    obtain ⟨statement, hstatement, index, rfl⟩ := exists_statement_of_mem_allBlocks hparent
    obtain ⟨interior, hinterior, rfl⟩ := exists_interior_of_childrenOf hchildren
    obtain ⟨origin, horigin, rfl⟩ := Block.occursIn_map_place hin
    exact ⟨statement, hstatement,
      .inr ⟨interior, origin, hinterior, horigin.of_withoutDirectives, rfl⟩⟩

/-- A block that occurs in the outline of a text stands for a statement of it, at the top, or is a
placed block that occurs in the outline of the **interior** of one. -/
theorem occursIn_plain_cases {source : Text} {block : Block} (h : block.OccursIn (plain source)) :
    block ∈ plain source ∨
      ∃ statement ∈ statements 0 source.lines, ∃ interior origin,
        statement.interior? = some interior ∧ origin.OccursIn (plain interior.text) ∧
          block = Block.place interior.line source.lines origin := by
  cases h with
  | top hmem => exact .inl hmem
  | inside hparent hchildren hin =>
    right
    obtain ⟨statement, hstatement, index, rfl⟩ :=
      exists_statement_of_mem_allBlocks (Block.mem_withoutDirectives.1 hparent).1
    obtain ⟨interior, hinterior, rfl⟩ := exists_interior_of_childrenOf hchildren
    obtain ⟨origin, horigin, rfl⟩ := Block.occursIn_map_place hin
    exact ⟨statement, hstatement, interior, origin, hinterior, horigin, rfl⟩

/-- What holds of the blocks at the top of every text, and is kept by placing, holds of **every
block** in the outline of a text. -/
theorem forall_occursIn_plain {P : Block → Prop}
    (hplace : ∀ offset lines block, P block → P (Block.place offset lines block))
    (htop : ∀ source, ∀ block ∈ plain source, P block) {source : Text} {block : Block}
    (h : block.OccursIn (plain source)) : P block := by
  -- a block inside a body occurs in the outline of an interior, which is a shorter text
  induction hlength : source.length using Nat.strongRecOn generalizing source block with
  | ind length ih =>
    subst hlength
    obtain hmem | ⟨statement, hstatement, interior, origin, hinterior, horigin, rfl⟩ :=
      occursIn_plain_cases h
    · exact htop source block hmem
    · have hshorter : interior.text.length < source.length :=
        Statement.length_interior_lt hstatement hinterior
      exact hplace _ _ _ (ih _ hshorter horigin rfl)

/-! ## The outline with a grammar -/

/-- A block is **declared by** a node: all that it says is read off the node, and its children are
those of the outline of the node's interior. -/
structure DeclaredBy (inner : Text → Result) (source : List UInt8) (lines : List Text)
    (node : SyntaxNode) (block : Block) : Prop where
  /-- The node has a name. -/
  name_ne_nil : block.name ≠ []
  /-- The block has the name of the node. -/
  name : block.name = node.declaredName source
  /-- The block has the code of its lines. -/
  code : block.code = Block.linesBetween lines block.startLine block.endLine
  /-- The lines of the block are the rows of the node. -/
  rows : (block.startLine, block.endLine) = node.rows
  /-- No row is below zero. -/
  rows_nonneg : 0 ≤ block.startLine ∧ 0 ≤ block.endLine
  /-- The block has the label of the node. -/
  label : block.label = node.label source
  /-- The block has the children of the node. -/
  children : ∃ found, declaredChildren inner source lines node = some found ∧
    found.value = block.children

/-- Each of the blocks that nodes stand for is **declared by one** of the nodes. -/
theorem exists_declaredBy_of_mem_declared {inner : Text → Result} {source : List UInt8}
    {lines : List Text} {nodes : List SyntaxNode} {found : Logged (Option (List Block))}
    {blocks : List Block} {block : Block} (h : declared inner source lines nodes = some found)
    (hblocks : found.value = some blocks) (hmem : block ∈ blocks) :
    ∃ node ∈ nodes, DeclaredBy inner source lines node block := by
  induction nodes generalizing found blocks with
  | nil =>
    cases h
    cases hblocks
    cases hmem
  | cons node more ih =>
    have hmore : ∀ {found : Logged (Option (List Block))} {blocks : List Block},
        declared inner source lines more = some found → found.value = some blocks →
          block ∈ blocks → ∃ other ∈ node :: more, DeclaredBy inner source lines other block := by
      intro found blocks hfound hblocks hmem
      obtain ⟨other, hother, hdeclared⟩ := ih hfound hblocks hmem
      exact ⟨other, List.mem_cons_of_mem _ hother, hdeclared⟩
    unfold declared at h
    split at h
    · split at h
      -- a node without a name stands for no block
      · exact hmore h hblocks hmem
      · next c name hname =>
        split at h
        -- the outline of the interior does not end
        · cases h
        · next children hchildren =>
          split at h
          -- with a row below zero the nodes give no blocks
          · cases h
            cases hblocks
          · next hrows =>
            obtain ⟨rest, hrest, rfl⟩ := Option.map_eq_some_iff.1 h
            obtain ⟨others, hothers, rfl⟩ := Option.map_eq_some_iff.1 hblocks
            rw [List.mem_cons] at hmem
            cases hmem with
            | inl hnew =>
              subst hnew
              refine ⟨node, List.mem_cons_self, ?_⟩
              exact
                { name_ne_nil := List.cons_ne_nil _ _
                  name := hname.symm
                  code := rfl
                  rows := rfl
                  rows_nonneg := by dsimp only; omega
                  label := rfl
                  children := ⟨children, hchildren, rfl⟩ }
            | inr hmem => exact hmore hrest hothers hmem
    · exact hmore h hblocks hmem

/-- The **children** of a declared block are the placed outline of an interior. -/
theorem DeclaredBy.exists_children {inner : Text → Result} {source : List UInt8}
    {lines : List Text} {node : SyntaxNode} {block : Block} {children : List Block}
    (h : DeclaredBy inner source lines node block) (hchildren : block.children = some children) :
    ∃ (interior : Interior) (found : Logged (List Block)),
      node.interior? source = some interior ∧ inner interior.text = some found ∧
        found.value ≠ [] ∧ children = found.value.map (Block.place interior.line lines) := by
  obtain ⟨logged, hlogged, hvalue⟩ := h.children
  rw [hchildren] at hvalue
  unfold declaredChildren at hlogged
  split at hlogged
  · cases hlogged
    cases hvalue
  · next interior hinterior =>
    obtain ⟨found, hfound, rfl⟩ := Option.map_eq_some_iff.1 hlogged
    obtain ⟨hne, hplaced⟩ := Block.adopt_eq_some_iff.1 hvalue
    exact ⟨interior, found, hinterior, hfound, hne, hplaced⟩

/-- A block at the **top** of an outline is read off the text, or declared by a node. -/
theorem mem_parsed_cases {grammar : Grammar} {depth : Nat} {source : Text}
    {found : Logged (List Block)} {block : Block} (h : parsed grammar depth source = some found)
    (hmem : block ∈ found.value) :
    block ∈ plain source ∨
      ∃ below root node, depth = below + 1 ∧ grammar source = .tree root ∧
        node ∈ root.children ∧
          DeclaredBy (parsed grammar below) (Utf8.encode source) source.lines node block ∧
            Keyword.isDirective block.name = false := by
  cases depth with
  | zero => cases h
  | succ below =>
    unfold parsed at h
    split at h
    -- the grammar fails, or makes no tree: the outline is the one of the text
    · cases h
      exact .inl hmem
    · cases h
      exact .inl hmem
    · next root hroot =>
      obtain ⟨tree, htree, rfl⟩ := Option.map_eq_some_iff.1 h
      split at hmem
      · next blocks hblocks =>
        obtain ⟨hblock, hdirective⟩ := Block.mem_withoutDirectives.1 hmem
        obtain ⟨node, hnode, hdeclared⟩ := exists_declaredBy_of_mem_declared htree hblocks hblock
        exact .inr ⟨below, root, node, rfl, hroot, hnode, hdeclared, hdirective⟩
      · exact .inl hmem

/-- What holds of the blocks at the top of every text, and of every declared block that no directive
names, and is kept by placing, holds of **every block** of an outline, with a grammar or without
one. -/
theorem forall_occursIn_read {P : Block → Prop}
    (hplace : ∀ offset lines block, P block → P (Block.place offset lines block))
    (htop : ∀ source, ∀ block ∈ plain source, P block)
    (hnode : ∀ inner source lines node block, DeclaredBy inner source lines node block →
      Keyword.isDirective block.name = false → P block)
    {grammar : Option Grammar} {depth : Nat} {source : Text} {found : Logged (List Block)}
    {block : Block} (h : read grammar depth source = some found)
    (hin : block.OccursIn found.value) : P block := by
  cases grammar with
  | none =>
    cases h
    exact forall_occursIn_plain hplace htop hin
  | some grammar =>
    simp only [read] at h
    induction depth generalizing source found block with
    | zero => cases h
    | succ depth ih =>
      cases hin with
      | top hmem =>
        obtain hplain | ⟨below, root, node, -, -, -, hdeclared, hdirective⟩ :=
          mem_parsed_cases h hmem
        · exact htop source block hplain
        · exact hnode _ _ _ _ _ hdeclared hdirective
      | inside hparent hchildren hbelow =>
        obtain hplain | ⟨below, root, node, hdepth, -, -, hdeclared, -⟩ :=
          mem_parsed_cases h hparent
        · exact forall_occursIn_plain hplace htop (.inside hplain hchildren hbelow)
        · -- the interior is outlined with one level less to follow
          obtain ⟨interior, inside, -, hinside, -, rfl⟩ := hdeclared.exists_children hchildren
          obtain ⟨origin, horigin, rfl⟩ := Block.occursIn_map_place hbelow
          cases hdepth
          exact hplace _ _ _ (ih horigin hinside)

end Outline

end DiagramOutline
