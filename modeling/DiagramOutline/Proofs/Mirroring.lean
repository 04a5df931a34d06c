import DiagramOutline.Proofs.RoundTrip

/-! # Trees that mirror the statements of a text

The outline of a text is read off its statements, or off the nodes of a syntax tree. Where the nodes
agree with the statements one by one, the two outlines agree, provided that they do so on the
interiors of the bodies.

* **`SyntaxNode.Declares source node statement`** — `node` has the name, the rows, the label and
  the interior that are read off `statement`.
* **`Outline.Mirrors source nodes statements`** — those of `nodes` that stand for statements declare
  the `statements`, in order.
* **`Outline.exists_parsed_eq_plain`** — the outline of a tree that mirrors the statements of its
  text is the outline of the text. -/

namespace DiagramOutline

/-- A node **declares** a statement of a source: what an outline needs to know of the statement is
the same whether it is read off the node or off the lines. -/
structure SyntaxNode.Declares (source : Text) (node : SyntaxNode) (statement : Statement) :
    Prop where
  /-- The node stands for a statement. -/
  standsForStatement : Outline.standsForStatement node = true
  /-- The statement has a name of its own. -/
  name_ne_nil : Header.name statement.first ≠ []
  /-- The name is the same. -/
  declaredName : node.declaredName (Utf8.encode source) = Header.name statement.first
  /-- The rows of the node are the lines of the statement. -/
  rows : node.rows = ((statement.line : Int), (statement.lastLine : Int))
  /-- The label is the same. -/
  label : node.label (Utf8.encode source) = statement.label
  /-- The interior of the body is the same. -/
  interior? : node.interior? (Utf8.encode source) = statement.interior?

/-- A statement with a name **of its own** is called by it, wherever it stands. -/
theorem Statement.name_of_ne_nil {statement : Statement}
    (h : Header.name statement.first ≠ []) (index : Nat) :
    statement.name index = Header.name statement.first := by
  unfold name
  split
  · next heq => exact absurd heq h
  · rfl

namespace Outline

/-- Nodes **mirror** statements of a source: those of them that stand for statements declare the
statements, in order. -/
inductive Mirrors (source : Text) : List SyntaxNode → List Statement → Prop where
  /-- No nodes mirror no statements. -/
  | nil : Mirrors source [] []
  /-- A node that stands for no statement is passed over. -/
  | skip {node : SyntaxNode} {nodes : List SyntaxNode} {statements : List Statement} :
    standsForStatement node = false → Mirrors source nodes statements →
      Mirrors source (node :: nodes) statements
  /-- A node that declares the next statement. -/
  | declare {node : SyntaxNode} {nodes : List SyntaxNode} {statement : Statement}
    {statements : List Statement} :
    node.Declares source statement → Mirrors source nodes statements →
      Mirrors source (node :: nodes) (statement :: statements)

/-- Nodes in a row mirror **statements in a row**. -/
theorem Mirrors.append {source : Text} {nodes nodes' : List SyntaxNode}
    {found found' : List Statement} (h : Mirrors source nodes found)
    (h' : Mirrors source nodes' found') : Mirrors source (nodes ++ nodes') (found ++ found') := by
  induction h with
  | nil => exact h'
  | skip hskip _ ih => exact .skip hskip ih
  | declare hdeclares _ ih => exact .declare hdeclares ih

/-- The children of a node that declares a statement are the **children of its block**, where the
interior is outlined like a text. -/
theorem exists_declaredChildren {inner : Text → Result} {source : Text} {node : SyntaxNode}
    {statement : Statement} (h : node.Declares source statement)
    (hinner : ∀ interior, statement.interior? = some interior →
      ∃ notices, inner interior.text = some ⟨plain interior.text, notices⟩) :
    ∃ notices, declaredChildren inner (Utf8.encode source) source.lines node =
      some ⟨childrenOf source statement, notices⟩ := by
  rw [declaredChildren, h.interior?, childrenOf]
  cases hinterior : statement.interior? with
  | none => exact ⟨[], rfl⟩
  | some interior =>
    obtain ⟨notices, hfound⟩ := hinner interior hinterior
    refine ⟨notices, ?_⟩
    dsimp only
    rw [hfound]
    rfl

/-- Nodes that mirror statements of a source **stand for the blocks** of these statements, where the
interiors are outlined like texts. -/
theorem Mirrors.exists_declared {inner : Text → Result} {source : Text} {nodes : List SyntaxNode}
    {found : List Statement} (h : Mirrors source nodes found)
    (hmem : ∀ statement ∈ found, statement ∈ statements 0 source.lines)
    (hinner : ∀ statement ∈ found, ∀ interior, statement.interior? = some interior →
      ∃ notices, inner interior.text = some ⟨plain interior.text, notices⟩) (index : Nat) :
    ∃ notices, declared inner (Utf8.encode source) source.lines nodes =
      some ⟨some ((found.zipIdx index).map fun (statement, index) =>
        blockOf source statement index), notices⟩ := by
  induction h generalizing index with
  | nil => exact ⟨[], rfl⟩
  | skip hskip _ ih =>
    obtain ⟨notices, hrest⟩ := ih hmem hinner index
    refine ⟨notices, ?_⟩
    rw [declared, if_neg (by rw [hskip]; exact Bool.false_ne_true), hrest]
  | @declare node nodes statement found hdeclares _ ih =>
    -- the node gives the block of the statement, and the nodes after it give the other blocks
    obtain ⟨notices, hrest⟩ := ih (fun other hother => hmem other (List.mem_cons_of_mem _ hother))
      (fun other hother => hinner other (List.mem_cons_of_mem _ hother)) (index + 1)
    obtain ⟨told, hchildren⟩ :=
      exists_declaredChildren hdeclares (hinner statement List.mem_cons_self)
    have hcode := Statement.code_eq_linesBetween (hmem statement List.mem_cons_self)
    have hname := Statement.name_of_ne_nil hdeclares.name_ne_nil index
    -- the rows are numbers of lines, and so not below zero
    have hrows : ¬ (node.rows.1 < 0 ∨ node.rows.2 < 0) := by
      rw [hdeclares.rows]
      dsimp only
      omega
    obtain ⟨c, name, heq⟩ := List.exists_cons_of_ne_nil hdeclares.name_ne_nil
    refine ⟨told ++ notices, ?_⟩
    rw [declared, if_pos hdeclares.standsForStatement, hdeclares.declaredName, heq]
    dsimp only
    rw [hchildren]
    dsimp only
    rw [if_neg hrows, hrest, hdeclares.rows, hdeclares.label]
    dsimp only
    rw [← hcode, ← heq, ← hname]
    rfl

/-- **The outline of a tree that mirrors the statements of its text is the outline of the text**,
where this is so for the interiors of the bodies. -/
theorem exists_parsed_eq_plain {grammar : Grammar} {depth : Nat} {source : Text}
    {root : SyntaxNode} (htree : grammar source = .tree root)
    (h : Mirrors source root.children (statements 0 source.lines))
    (hinner : ∀ statement ∈ statements 0 source.lines, ∀ interior,
      statement.interior? = some interior →
        ∃ notices, parsed grammar depth interior.text = some ⟨plain interior.text, notices⟩) :
    ∃ notices, parsed grammar (depth + 1) source = some ⟨plain source, notices⟩ := by
  obtain ⟨notices, hdeclared⟩ := h.exists_declared (fun _ hmem => hmem) hinner 0
  refine ⟨notices, ?_⟩
  rw [parsed, htree]
  dsimp only
  rw [hdeclared, ← allBlocks_eq]
  rfl

end Outline

end DiagramOutline
