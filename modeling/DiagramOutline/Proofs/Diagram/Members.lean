import DiagramOutline.Proofs.Diagram.Nodes

/-! # Bodies in which bare values stand before braces

A diagram that both readings outline alike has no bare value before a body. The members of a body
are statements that may have one. They have lines and a syntax node as the items of a diagram have.

* **`Diagram.Member`** — a leaf, or a container with members inside its body.
* **`Diagram.Member.text`** — the text of a member.
* **`Diagram.Member.node`** — the syntax node of that text.
* **`Diagram.Member.nested_lines`** — the lines of a member nest.
* **`Diagram.Member.Stand source place members`** — the lines of `members` stand in `source`, from
  `place` on. -/

namespace DiagramOutline.Diagram

/-! ## Members -/

/-- A **member** of a body: a statement on lines of its own. -/
inductive Member where
  /-- A statement without a body. -/
  | leaf (indent : Indent) (head : Head) (alone : head.StandsAlone)
  /-- A statement with a body: its header, the members of the body, and the blanks before the brace
  that closes it. -/
  | container (indent : Indent) (head : Head) (before : head.StandsBefore) (members : List Member)
    (close : Indent)

namespace Member

mutual

/-- The **lines** of a member. -/
def lines : Member → List Text
  | leaf indent head _ => [indent.text ++ head.text]
  | container indent head _ members close =>
    (indent.text ++ head.text ++ [' ', '{']) :: (linesOf members ++ [close.text ++ ['}']])

/-- The **lines** of members. -/
def linesOf : List Member → List Text
  | [] => []
  | member :: more => member.lines ++ linesOf more

end

/-- The **text** of a member. -/
def text (member : Member) : Text := Text.unlines member.lines

/-- The **head** of a member. -/
def head : Member → Head
  | leaf _ head _ => head
  | container _ head _ _ _ => head

/-! ## Lines of members -/

/-- No member is **without lines**. -/
theorem lines_ne_nil (member : Member) : member.lines ≠ [] := by
  cases member <;> exact List.cons_ne_nil _ _

mutual

/-- No line of a member holds a **newline**. -/
theorem newline_notMem_of_mem_lines :
    ∀ (member : Member) {line : Text}, line ∈ member.lines → '\n' ∉ line
  | leaf indent head _, line, h => by
    rw [List.mem_singleton.1 h]
    exact newline_notMem_leaf indent head
  | container indent head _ members close, line, h => by
    rw [lines, List.mem_cons, List.mem_append, List.mem_singleton] at h
    rcases h with rfl | hmembers | rfl
    · exact newline_notMem_header indent head
    · exact newline_notMem_of_mem_linesOf members hmembers
    · exact newline_notMem_closing close

/-- No line of members holds a **newline**. -/
theorem newline_notMem_of_mem_linesOf :
    ∀ (members : List Member) {line : Text}, line ∈ linesOf members → '\n' ∉ line
  | member :: more, line, h => by
    rw [linesOf, List.mem_append] at h
    cases h with
    | inl hmember => exact newline_notMem_of_mem_lines member hmember
    | inr hmore => exact newline_notMem_of_mem_linesOf more hmore

end

mutual

/-- The lines of a member **nest**. -/
theorem nested_lines : ∀ member : Member, Braces.Nested member.lines
  | leaf indent head _ => .line (ofLine_leaf indent head)
  | container indent head _ members close =>
    .body (ofLine_header indent head) (nested_linesOf members) (ofLine_closing close)

/-- The lines of members **nest**. -/
theorem nested_linesOf : ∀ members : List Member, Braces.Nested (linesOf members)
  | [] => .nil
  | member :: more => .append (nested_lines member) (nested_linesOf more)

end

end Member

/-! ## Nodes of members -/

/-- The text **between the braces** of a body, when lines stand in it. -/
def inside (inner : List Text) (close : Indent) : Text :=
  '\n' :: Text.unlines (inner ++ [close.text])

/-- The text of a **block**: a body in which lines stand, with its braces. -/
def block (inner : List Text) (close : Indent) : Text := '{' :: inside inner close ++ ['}']

/-- The node of a **block** that stands at a place, around the nodes of what stands in it. -/
def blockNode (place : Place) (inner : List Text) (close : Indent) (nodes : List SyntaxNode) :
    SyntaxNode :=
  .spanning place (block inner close) "block" true
    (.spanning place ['{'] "\x7b" false [] ::
      (nodes ++ [.spanning (place.after ('{' :: inside inner close)) ['}'] "\x7d" false []]))

/-- The children of the node of a block are the nodes inside it, **between its braces**. -/
theorem children_blockNode {place : Place} {inner : List Text} {close : Indent}
    {nodes : List SyntaxNode} :
    (blockNode place inner close nodes).children =
      .spanning place ['{'] "\x7b" false [] ::
        (nodes ++ [.spanning (place.after ('{' :: inside inner close)) ['}'] "\x7d" false []]) :=
  rfl

/-- The node of a block **is a body**. -/
theorem role_blockNode {place : Place} {inner : List Text} {close : Indent}
    {nodes : List SyntaxNode} : (blockNode place inner close nodes).role = .body := by
  rw [blockNode, role_spanning]
  decide

namespace Member

mutual

/-- The node of a **member** whose first line starts at a place. -/
def node (place : Place) : Member → SyntaxNode
  | leaf indent head _ => head.declaration (place.after indent.text) (head.text ++ []) []
  | container indent head _ members close =>
    let start := place.after indent.text
    -- the brace stands behind a blank, and the members from the line after it on
    let opening := start.after (head.text ++ [' '])
    head.declaration start (head.text ++ ' ' :: block (linesOf members) close)
      [blockNode opening (linesOf members) close (nodesOf (opening.after ['{', '\n']) members)]

/-- The nodes of **members**, the first line of which starts at a place. -/
def nodesOf (place : Place) : List Member → List SyntaxNode
  | [] => []
  | member :: more =>
    member.node place :: nodesOf (place.after (member.text ++ ['\n'])) more

end

/-- Members **stand** in a source: the lines of each stand at its place, which is behind the newline
that ends the member before it. -/
def Stand (source : Text) (place : Place) : List Member → Prop
  | [] => True
  | member :: more =>
    place.Holds member.text source ∧ Stand source (place.after (member.text ++ ['\n'])) more

/-- Members stand where **their lines** do, with one more line behind them. -/
theorem stand_of_holds {source : Text} {place : Place} {members : List Member} (last : Text)
    (h : place.Holds (Text.unlines (linesOf members ++ [last])) source) :
    Stand source place members := by
  induction members generalizing place with
  | nil => trivial
  | cons member more ih =>
    have hmore : linesOf more ++ [last] ≠ [] :=
      List.append_ne_nil_of_right_ne_nil _ (List.cons_ne_nil _ _)
    rw [linesOf, List.append_assoc, Text.unlines_append member.lines_ne_nil hmore] at h
    refine ⟨h.left, ih ?_⟩
    rw [← List.singleton_append, ← List.append_assoc] at h
    exact h.right

/-- The text of a **container** is that of its head and that of its block. -/
theorem text_container (indent close : Indent) {head : Head} (before : head.StandsBefore)
    (members : List Member) :
    (container indent head before members close).text =
      indent.text ++ (head.text ++ ' ' :: block (linesOf members) close) := by
  rw [text, lines]
  exact unlines_header indent close head (linesOf members)

/-- The members of a block stand **on the lines** between its braces. -/
theorem stand_block {source : Text} {place : Place} {members : List Member} {close : Indent}
    (h : place.Holds (block (linesOf members) close) source) :
    Stand source (place.after ['{', '\n']) members := by
  have hblock : block (linesOf members) close =
      ['{', '\n'] ++ Text.unlines (linesOf members ++ [close.text]) ++ ['}'] := rfl
  rw [hblock] at h
  exact stand_of_holds close.text h.left.right

/-- Behind the head of a container stands **its block and nothing else**. -/
theorem role_block {place : Place} {inner : List Text} {close : Indent} {nodes : List SyntaxNode} :
    ∀ node ∈ [blockNode place inner close nodes], node.role = .body := by
  intro node hnode
  rw [List.mem_singleton.1 hnode]
  exact role_blockNode

end Member

end DiagramOutline.Diagram
