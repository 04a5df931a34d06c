import DiagramOutline.Proofs.Diagram.Declarations

/-! # The nodes of a diagram

The nodes of a faithful syntax tree mirror the statements of the text: each item that is a statement
has a node that declares it, and no other node stands for a statement.

* **`Diagram.Stands source place items`** — the lines of `items` stand in `source`, from `place` on.
* **`Diagram.findSome?_nodes`** — the nodes in a body give the same to the label property as the
  items.
* **`Diagram.Item.mirrors`** — the nodes of an item mirror the statement that it is.
* **`Diagram.mirrors_tree`** — the tree of a diagram mirrors its statements. -/

namespace DiagramOutline.Diagram

open SyntaxNode

/-! ## Items at places -/

/-- Items **stand** in a source: the lines of each stand at its place, which is behind the newline
that ends the item before it. -/
def Stands (source : Text) (place : Place) : List Item → Prop
  | [] => True
  | item :: more =>
    place.Holds (Text.unlines item.lines) source ∧
      Stands source (place.after (Text.unlines item.lines ++ ['\n'])) more

/-- Items stand where **their lines** do, also with more lines behind them. -/
theorem stands_of_holds {source : Text} {place : Place} {items : List Item} (rest : List Text)
    (h : place.Holds (Text.unlines (lines items ++ rest)) source) : Stands source place items := by
  induction items generalizing place with
  | nil => trivial
  | cons item more ih =>
    rw [lines, List.append_assoc] at h
    by_cases hlast : lines more ++ rest = []
    · -- then the item is the last one
      have hmore : more = [] := by
        cases more with
        | nil => rfl
        | cons next more =>
          exact absurd (List.append_eq_nil_iff.1 hlast).1 (lines_ne_nil (List.cons_ne_nil _ _))
      rw [hlast, List.append_nil] at h
      rw [hmore]
      exact ⟨h, trivial⟩
    -- otherwise a newline ends the item, and the other ones stand behind it
    · rw [Text.unlines_append item.lines_ne_nil hlast] at h
      refine ⟨h.left, ih ?_⟩
      rw [← List.singleton_append, ← List.append_assoc] at h
      exact h.right

/-- The items of a diagram stand **in its text**, from the start on. -/
theorem stands_text (items : List Item) : Stands (text items) .start items := by
  refine stands_of_holds [] ?_
  rw [List.append_nil]
  exact Place.holds_start (text items)

/-- The text of the lines of a **container** is that of its head and that of what stands behind the
head, from the one brace to the other. -/
theorem unlines_header (indent close : Indent) (head : Head) (inner : List Text) :
    Text.unlines ((indent.text ++ head.text ++ [' ', '{']) :: (inner ++ [close.text ++ ['}']])) =
      indent.text ++
        (head.text ++ ' ' :: '{' :: ('\n' :: Text.unlines (inner ++ [close.text]) ++ ['}'])) := by
  have hbody := Text.unlines_body (indent.text ++ head.text ++ [' ']) close.text inner
  rw [List.append_assoc] at hbody
  refine hbody.trans ?_
  simp only [List.append_assoc, List.cons_append, List.nil_append]

/-- The text of a **container** is that of its head and that of its body. -/
theorem unlines_container (indent close : Indent) (head : Head) (items : List Item) :
    Text.unlines ((indent.text ++ head.text ++ [' ', '{']) ::
        (lines items ++ [close.text ++ ['}']])) =
      indent.text ++ (head.text ++ ' ' :: body items close) :=
  unlines_header indent close head (lines items)

/-- A text without newlines **keeps to its row**. -/
theorem row_after_of_notMem {text : Text} (h : '\n' ∉ text) (place : Place) :
    (place.after text).row = place.row := by
  rw [Place.row_after, List.count_eq_zero.2 h, Nat.add_zero]

/-- A text of lines has **one newline less** than it has lines. -/
theorem count_unlines {all : List Text} (hne : all ≠ []) (h : ∀ line ∈ all, '\n' ∉ line) :
    (Text.unlines all).count '\n' + 1 = all.length := by
  rw [← Text.length_lines, Text.lines_unlines hne h]

/-- The item behind an item stands as many rows below it **as it has lines**. -/
theorem Item.row_after (item : Item) (place : Place) :
    (place.after (Text.unlines item.lines ++ ['\n'])).row = place.row + item.lines.length := by
  have hcount := count_unlines item.lines_ne_nil fun _ => item.newline_notMem_of_mem_lines
  rw [Place.row_after, List.count_append, List.count_singleton_self, hcount]

/-- The **rows** of a node spanning a tight text are those that the text spans. -/
theorem rows_spanning_tight {place : Place} {text : Text} (h : Text.Tight text) {kind : String}
    {isNamed : Bool} {children : List SyntaxNode} :
    (SyntaxNode.spanning place text kind isNamed children).rows =
      ((place.row : Int), ((place.row + text.count '\n' : Nat) : Int)) := by
  obtain ⟨c, hlast⟩ := Option.isSome_iff_exists.1 (List.getLast?_isSome.2 h.ne_nil)
  have hblank := h.last c hlast
  obtain ⟨front, rfl⟩ := List.getLast?_eq_some_iff.1 hlast
  refine rows_spanning ?_
  rintro rfl
  exact absurd hblank (by decide)

/-! ## Bodies -/

section Body

variable {place : Place} {items : List Item} {close : Indent} {inner : List SyntaxNode}
  {source : Text}

/-- The node of a body **is a body**. -/
theorem role_bodyNode : (bodyNode place items close inner).role = .body := by
  rw [bodyNode, role_spanning]
  decide

/-- The children of the node of a body are the nodes inside it, **between its braces**. -/
theorem children_bodyNode : (bodyNode place items close inner).children =
    .spanning place ['{'] "\x7b" false [] ::
      (inner ++
        [.spanning (place.after ('{' :: interior items close)) ['}'] "\x7d" false []]) := rfl

/-- The node of a brace has a role that **nothing looks for**. -/
theorem role_brace (place : Place) (text : Text) (kind : String)
    (hkind : NodeRole.ofKind kind = .other) :
    (SyntaxNode.spanning place text kind false []).role = .other :=
  (role_spanning place text kind false []).trans hkind

/-- The text between the braces stands **behind the first** one. -/
theorem holds_interior (h : place.Holds (body items close) source) :
    (place.after ['{']).Holds (interior items close) source := by
  have hbody : body items close = ['{'] ++ interior items close ++ ['}'] := rfl
  rw [hbody] at h
  exact h.left.right

/-- The items of a body stand **on the lines** between its braces. -/
theorem stands_body (h : place.Holds (body items close) source) :
    Stands source (place.after ['{', '\n']) items := by
  have hinterior : interior items close = ['\n'] ++ Text.unlines (lines items ++ [close.text]) :=
    rfl
  have hplace : place.after ['{', '\n'] = (place.after ['{']).after ['\n'] :=
    Place.after_append place ['{'] ['\n']
  have hholds := holds_interior h
  rw [hinterior] at hholds
  rw [hplace]
  exact stands_of_holds _ hholds.right

/-- The byte behind the first brace of a body is the one **behind its first** byte. -/
theorem startByte_bodyNode :
    ((bodyNode place items close inner).startByte + 1 : Int) = (place.after ['{']).byte := by
  rw [Place.byte_after]
  rfl

/-- The byte of the last brace of a body is the one **before its end**. -/
theorem endByte_bodyNode :
    ((bodyNode place items close inner).endByte - 1 : Int) =
      (place.after ('{' :: interior items close)).byte := by
  have hbody : body items close = '{' :: interior items close ++ ['}'] := rfl
  have hbyte : (bodyNode place items close inner).endByte =
      ((place.after (body items close)).byte : Int) := rfl
  have hlast : (place.after (body items close)).byte =
      (place.after ('{' :: interior items close)).byte + 1 := by
    rw [hbody, Place.after_append, Place.byte_after _ ['}']]
    rfl
  rw [hbyte, hlast]
  omega

/-- The **newlines** of a body stand behind its first brace and behind each line of its items. -/
theorem count_newline_body (items : List Item) (close : Indent) :
    (body items close).count '\n' = (lines items).length + 1 := by
  have hne : items ++ [Item.blank close] ≠ [] :=
    List.append_ne_nil_of_right_ne_nil _ (List.cons_ne_nil _ _)
  have hlines : lines (items ++ [Item.blank close]) = lines items ++ [close.text] :=
    lines_append items [.blank close]
  have hcount := count_unlines (lines_ne_nil hne) fun _ => newline_notMem_of_mem_lines _
  rw [hlines, List.length_append, List.length_singleton] at hcount
  rw [body, interior, List.count_append, List.count_cons_of_ne (by decide), List.count_cons_self]
  exact hcount

/-- The **interior** of a body is the text between its braces. -/
theorem interior?_of_body? {node : SyntaxNode} (h : place.Holds (body items close) source)
    (hnode : node.body? = some (bodyNode place items close inner)) :
    node.interior? (Utf8.encode source) =
      Interior.trimmed? ⟨place.row, interior items close⟩ := by
  have hbody : body items close = '{' :: interior items close ++ ['}'] := rfl
  -- the last byte is that of the closing brace
  have hclosing : slice (Utf8.encode source)
      ((bodyNode place items close inner).endByte - 1)
        (bodyNode place items close inner).endByte = [closingByte] := by
    have hlast : (place.after ('{' :: interior items close)).Holds ['}'] source := by
      rw [hbody] at h
      exact h.right
    have hslice := hlast.slice_encode
    rw [← Place.after_append, ← hbody] at hslice
    rw [endByte_bodyNode]
    exact hslice
  have hinside : slice (Utf8.encode source) ((bodyNode place items close inner).startByte + 1)
      ((bodyNode place items close inner).endByte - 1) =
        Utf8.encode (interior items close) := by
    have hslice := (holds_interior h).slice_encode
    rw [← Place.after_append] at hslice
    rw [startByte_bodyNode, endByte_bodyNode]
    exact hslice
  rw [SyntaxNode.interior?, hnode, Option.bind_some, if_pos hclosing]
  dsimp only
  rw [hinside, Utf8.decodeLossy_encode]
  rfl

end Body

/-! ## Nodes of items -/

/-- The node of a **leaf** is a declaration of its head alone. -/
theorem nodes_leaf (place : Place) (indent : Indent) (head : Head) (alone : head.StandsAlone) :
    Item.nodes place (.leaf indent head alone) =
      [head.declaration (place.after indent.text) (head.text ++ []) []] := by
  rw [Head.declaration, List.append_nil, List.append_nil, Item.nodes]

/-- The node of the **body** of a container that stands at a place. -/
def containerBody (place : Place) (head : Head) (items : List Item) (close : Indent) : SyntaxNode :=
  bodyNode (place.after (head.text ++ [' '])) items close
    (nodes ((place.after (head.text ++ [' '])).after ['{', '\n']) items)

/-- The node of a **container** is a declaration of its head, with the body behind it. -/
theorem nodes_container (place : Place) (indent close : Indent) (head : Head)
    (opens : head.OpensBody) (items : List Item) :
    Item.nodes place (.container indent head opens items close) =
      [head.declaration (place.after indent.text) (head.text ++ ' ' :: body items close)
        [containerBody (place.after indent.text) head items close]] := rfl

/-- Behind the head of a container stands **its body and nothing else**. -/
theorem role_containerBody (place : Place) (head : Head) (items : List Item) (close : Indent) :
    ∀ node ∈ [containerBody place head items close], node.role = .body := by
  intro node hnode
  rw [List.mem_singleton.1 hnode]
  exact role_bodyNode

/-- The body of a container stands **behind its head** and a blank. -/
theorem holds_containerBody {place : Place} {head : Head} {items : List Item} {close : Indent}
    {source : Text} (h : place.Holds (head.text ++ ' ' :: body items close) source) :
    (place.after (head.text ++ [' '])).Holds (body items close) source := by
  rw [← List.singleton_append, ← List.append_assoc] at h
  exact h.right

/-- The **head** of a leaf stands behind its blanks. -/
theorem holds_leaf {place : Place} {indent : Indent} {head : Head} {alone : head.StandsAlone}
    {source : Text}
    (h : place.Holds (Text.unlines (Item.leaf indent head alone).lines) source) :
    (place.after indent.text).Holds (head.text ++ []) source := by
  rw [List.append_nil]
  have hline : place.Holds (indent.text ++ head.text) source := h
  exact hline.right

/-- The head and the body of a **container** stand behind its blanks. -/
theorem holds_container {place : Place} {indent close : Indent} {head : Head}
    {opens : head.OpensBody} {items : List Item} {source : Text}
    (h : place.Holds (Text.unlines (Item.container indent head opens items close).lines) source) :
    (place.after indent.text).Holds (head.text ++ ' ' :: body items close) source := by
  rw [Item.lines, unlines_container] at h
  exact h.right

/-! ## The label property of a body -/

/-- A node that is **no declaration** gives nothing to the label property. -/
theorem isLabelProperty_of_role_ne {node : SyntaxNode} (h : node.role ≠ .declaration)
    (source : List UInt8) : node.isLabelProperty source = false := by
  rw [isLabelProperty, decide_eq_false h, Bool.false_and]

/-- The node of a comment **is a comment**. -/
theorem role_comment (place : Place) (text : Text) :
    (SyntaxNode.spanning place text "comment" true []).role = .comment := by
  rw [role_spanning]
  decide

/-- The nodes of an item give the **same** to the label property as the item. -/
theorem Item.findSome?_nodes {item : Item} (h : item.Outlinable) {place : Place} {source : Text}
    (hplace : place.Holds (Text.unlines item.lines) source) :
    (((item.nodes place).filter (·.isLabelProperty (Utf8.encode source))).findSome?
      headerLabel?).map (·.text (Utf8.encode source)) = item.property? := by
  cases item with
  | blank indent => rfl
  | comment indent remark =>
    have hrole : (SyntaxNode.spanning (place.after indent.text) ('#' :: remark.text) "comment" true
        []).role ≠ .declaration := by
      rw [role_comment]
      intro hrole
      cases hrole
    rw [Item.nodes, List.filter_cons_of_neg
      (by rw [isLabelProperty_of_role_ne hrole]; exact Bool.false_ne_true)]
    rfl
  | leaf indent head alone =>
    rw [nodes_leaf]
    exact head.property?_declaration (by simp) (by simp) (holds_leaf hplace) h.subject
  | container indent head opens items close =>
    rw [nodes_container]
    refine head.property?_declaration (role_containerBody _ head items close) ?_
      (holds_container hplace) h.1.subject
    intro c hc
    cases hc
    decide

/-- The nodes of a diagram give the **same** to the label property as its items. -/
theorem findSome?_nodes {items : List Item} (h : Outlinable items) {place : Place} {source : Text}
    (hplace : Stands source place items) :
    (((nodes place items).filter (·.isLabelProperty (Utf8.encode source))).findSome?
      headerLabel?).map (·.text (Utf8.encode source)) = items.findSome? Item.property? := by
  induction items generalizing place with
  | nil => rfl
  | cons item more ih =>
    rw [nodes, List.filter_append, List.findSome?_append, Option.map_or,
      Item.findSome?_nodes h.1 hplace.1, ih h.2 hplace.2, List.findSome?_cons]
    cases item.property? <;> rfl

/-- A brace gives **nothing** to the label property. -/
theorem isLabelProperty_brace {place : Place} {text : Text} {kind : String}
    (h : NodeRole.ofKind kind = .other) (source : List UInt8) :
    (SyntaxNode.spanning place text kind false []).isLabelProperty source = false := by
  refine isLabelProperty_of_role_ne ?_ source
  rw [role_brace place text kind h]
  intro hrole
  cases hrole

/-- Among nodes **between braces**, the label properties are those of the nodes. -/
theorem filter_isLabelProperty_between (opening closing : Place) (inner : List SyntaxNode)
    (source : List UInt8) :
    (SyntaxNode.spanning opening ['{'] "\x7b" false [] ::
        (inner ++ [.spanning closing ['}'] "\x7d" false []])).filter (·.isLabelProperty source) =
      inner.filter (·.isLabelProperty source) := by
  have hopening : ¬ (SyntaxNode.spanning opening ['{'] "\x7b" false []).isLabelProperty source =
      true := by
    rw [isLabelProperty_brace rfl]
    exact Bool.false_ne_true
  have hclosing : ¬ (SyntaxNode.spanning closing ['}'] "\x7d" false []).isLabelProperty source =
      true := by
    rw [isLabelProperty_brace rfl]
    exact Bool.false_ne_true
  rw [List.filter_cons_of_neg (by exact hopening), List.filter_append,
    List.filter_cons_of_neg (by exact hclosing), List.filter_nil, List.append_nil]

/-- The braces of a body give **nothing** to the label property, so that its nodes give the same to
it as its items. -/
theorem findSome?_bodyNode {items : List Item} (h : Outlinable items) {place : Place}
    {close : Indent} {source : Text} (hplace : place.Holds (body items close) source) :
    ((((bodyNode place items close (nodes (place.after ['{', '\n']) items)).children.filter
      (·.isLabelProperty (Utf8.encode source))).findSome? headerLabel?).bind fun value =>
        Label.clean (value.text (Utf8.encode source))) =
      (items.findSome? Item.property?).bind Label.clean := by
  rw [children_bodyNode, filter_isLabelProperty_between,
    ← findSome?_nodes h (stands_body hplace), Option.bind_map]
  rfl

/-! ## Statements of items -/

/-- A declaration **stands for** a statement. -/
theorem Head.standsForStatement_declaration (head : Head) (place : Place) (whole : Text)
    (tail : List SyntaxNode) :
    Outline.standsForStatement (head.declaration place whole tail) = true := by
  show (true && decide (NodeRole.ofKind "declaration" ≠ .comment)) = true
  decide

/-- The node of a **leaf** declares its statement. -/
theorem declares_leaf {place : Place} {indent : Indent} {head : Head} {alone : head.StandsAlone}
    {source : Text}
    (h : place.Holds (Text.unlines (Item.leaf indent head alone).lines) source) :
    (head.declaration (place.after indent.text) (head.text ++ []) []).Declares source
      ⟨place.row, indent.text ++ head.text, []⟩ := by
  have hname := head.headerName_leaf indent.isAllBlank_text
  have hbody : Statement.hasBody ⟨place.row, indent.text ++ head.text, []⟩ = false :=
    opens_leaf indent head
  have hplace := holds_leaf h
  have hnone : ∀ node ∈ ([] : List SyntaxNode), node.role = .body := by simp
  constructor
  case standsForStatement => exact head.standsForStatement_declaration _ _ _
  case name_ne_nil =>
    rw [hname]
    exact head.name_ne_nil
  case declaredName =>
    rw [hname]
    exact head.declaredName_declaration (by simp) hplace.left
  case rows =>
    have hcount : head.text.count '\n' = 0 := List.count_eq_zero.2 head.newline_notMem_text
    -- a leaf is one line, and so are its rows
    rw [List.append_nil, Head.declaration, rows_spanning_tight head.tight, hcount,
      row_after_of_notMem indent.newline_notMem_text]
    rfl
  case label =>
    have hlabel := head.ofStatement_append indent
    rw [Statement.label, hbody, head.label_declaration hnone hplace.left]
    refine Eq.trans ?_ hlabel.symm
    cases head.value <;> rfl
  case interior? =>
    rw [Statement.interior?, hbody, SyntaxNode.interior?,
      head.body?_declaration hnone]
    rfl

/-- The head and the body of a container, from the one to the other, are **tight**. -/
theorem tight_container (head : Head) (items : List Item) (close : Indent) :
    Text.Tight (head.text ++ ' ' :: body items close) := by
  have hbrace : Text.Tight ['}'] := .singleton rfl
  have hwhole := head.tight.append hbrace (' ' :: '{' :: interior items close)
  rwa [List.append_assoc] at hwhole

/-- The **label** of the node of a container is that of its statement. -/
theorem label_container {place : Place} {close : Indent} {head : Head} {items : List Item}
    {source : Text} (opens : head.OpensBody) (hitems : Outlinable items)
    (h : place.Holds (head.text ++ ' ' :: body items close) source) (indent : Indent) (line : Nat) :
    (head.declaration place (head.text ++ ' ' :: body items close)
      [containerBody place head items close]).label (Utf8.encode source) =
        Statement.label ⟨line, indent.text ++ head.text ++ [' ', '{'],
          lines items ++ [close.text ++ ['}']]⟩ := by
  have hbody : Statement.hasBody ⟨line, indent.text ++ head.text ++ [' ', '{'],
      lines items ++ [close.text ++ ['}']]⟩ = true := opens_container indent head
  have hlabel := ofBody_container indent close head hitems
  have hproperty := findSome?_bodyNode hitems (holds_containerBody h)
  rw [Statement.label, hbody, head.label_declaration (role_containerBody _ _ _ _) h.left]
  refine Eq.trans ?_ hlabel.symm
  cases hvalue : head.value with
  | absent => exact hproperty
  | colon => exact hproperty
  | quoted wording => rfl
  | bare value =>
    -- no bare value stands before a body
    rw [Head.OpensBody, hvalue] at opens
    cases opens

/-- The body of a container opens on the **row** on which the container begins. -/
theorem row_containerBody (place : Place) (indent : Indent) (head : Head) :
    ((place.after indent.text).after (head.text ++ [' '])).row = place.row := by
  have hnotMem : '\n' ∉ head.text ++ [' '] := by
    intro hmem
    cases List.mem_append.1 hmem with
    | inl hhead => exact head.newline_notMem_text hhead
    | inr hblank => exact absurd hblank (by decide)
  rw [row_after_of_notMem hnotMem, row_after_of_notMem indent.newline_notMem_text]

/-- The node of a **container** declares its statement. -/
theorem declares_container {place : Place} {indent close : Indent} {head : Head}
    {opens : head.OpensBody} {items : List Item} {source : Text} (hitems : Outlinable items)
    (h : place.Holds (Text.unlines (Item.container indent head opens items close).lines) source) :
    (head.declaration (place.after indent.text) (head.text ++ ' ' :: body items close)
      [containerBody (place.after indent.text) head items close]).Declares source
        ⟨place.row, indent.text ++ head.text ++ [' ', '{'],
          lines items ++ [close.text ++ ['}']]⟩ := by
  have hname := head.headerName_container indent.isAllBlank_text
  have htail := role_containerBody (place.after indent.text) head items close
  have hplace := holds_container h
  have hinside := holds_containerBody hplace
  constructor
  case standsForStatement => exact head.standsForStatement_declaration _ _ _
  case name_ne_nil =>
    rw [hname]
    exact head.name_ne_nil
  case declaredName =>
    rw [hname]
    exact head.declaredName_declaration htail hplace.left
  case rows =>
    have hcount : (head.text ++ ' ' :: body items close).count '\n' = (lines items).length + 1 := by
      rw [List.count_append, List.count_eq_zero.2 head.newline_notMem_text,
        List.count_cons_of_ne (by decide), count_newline_body, Nat.zero_add]
    rw [Head.declaration, rows_spanning_tight (tight_container head items close), hcount,
      row_after_of_notMem indent.newline_notMem_text, Statement.lastLine, List.length_append,
      List.length_singleton]
  case label => exact label_container opens hitems hplace indent place.row
  case interior? =>
    rw [interior?_container opens hitems, ← row_containerBody place indent head]
    exact interior?_of_body? hinside (head.body?_declaration htail)

/-- The nodes of an item **mirror** the statement that it is. -/
theorem Item.mirrors {item : Item} (h : item.Outlinable) {place : Place} {source : Text}
    (hplace : place.Holds (Text.unlines item.lines) source) :
    Outline.Mirrors source (item.nodes place) (item.statement? place.row).toList := by
  cases item with
  | blank indent => exact .nil
  | comment indent remark =>
    have hskip : Outline.standsForStatement (SyntaxNode.spanning (place.after indent.text)
        ('#' :: remark.text) "comment" true []) = false := by
      show (true && decide (NodeRole.ofKind "comment" ≠ .comment)) = false
      decide
    exact .skip hskip .nil
  | leaf indent head alone =>
    rw [nodes_leaf]
    exact .declare (declares_leaf hplace) .nil
  | container indent head opens items close =>
    rw [nodes_container]
    exact .declare (declares_container h.2 hplace) .nil

/-- The nodes of items **mirror** the statements that they are. -/
theorem mirrors_nodes {items : List Item} (h : Outlinable items) {place : Place} {source : Text}
    (hplace : Stands source place items) :
    Outline.Mirrors source (nodes place items) (statementsOf place.row items) := by
  induction items generalizing place with
  | nil => exact .nil
  | cons item more ih =>
    have hmore := ih h.2 hplace.2
    rw [Item.row_after] at hmore
    exact (Item.mirrors h.1 hplace.1).append hmore

/-- The tree of a diagram **mirrors the statements** of its text. -/
theorem mirrors_tree {items : List Item} (h : Outlinable items) :
    Outline.Mirrors (text items) (tree items).children (statements 0 (text items).lines) := by
  rw [statements_text h]
  exact mirrors_nodes h (stands_text items)

end DiagramOutline.Diagram
