import DiagramOutline.Text.Slice
import DiagramOutline.Text.Utf8

/-! # Syntax nodes

The trees that a grammar makes of a text. A node names its kind and says where it stands, in bytes
of the text's UTF-8 form and in rows and columns; nothing ties the two to each other, to the
parent's, or to the text.

* **`SyntaxNode`** — a node with its children.
* **`NodeRole`** — what the kinds of nodes mean to an outline; `SyntaxNode.role` reads it off the
  kind.
* **`SyntaxNode.text node source`** — the text of a node.
* **`SyntaxNode.header node`**, **`SyntaxNode.body? node`** — the children before the first body,
  and that body.
* **`SyntaxNode.rows node`** — the first and the last row of a node.
* **`SyntaxNode.names nodes`** — the outermost names and connections in `nodes`, in order. -/

namespace DiagramOutline

/-- A place in a text by **row** and **column**. -/
structure Position where
  /-- The row, counted from zero. -/
  row : Int
  /-- The column, counted from zero. -/
  column : Int
  deriving DecidableEq, Repr

/-- A **node** of a syntax tree. -/
structure SyntaxNode where
  /-- The name of the node's kind in the grammar. -/
  kind : String
  /-- Whether the grammar has a rule of its own for the node. -/
  isNamed : Bool
  /-- The first byte of the node. -/
  startByte : Int
  /-- The byte after the last one of the node. -/
  endByte : Int
  /-- Where the node starts. -/
  start : Position
  /-- Where the node stops. -/
  stop : Position
  /-- The nodes inside this one, in order. -/
  children : List SyntaxNode
  deriving Repr

/-- What the kind of a node **means** to an outline. -/
inductive NodeRole where
  /-- A comment. -/
  | comment
  /-- The braced body of a statement. -/
  | body
  /-- The name of a shape. -/
  | name
  /-- The text of a label. -/
  | label
  /-- A connection between shapes. -/
  | connection
  /-- A statement that declares something. -/
  | declaration
  /-- Anything else. -/
  | other
  deriving DecidableEq, Repr

namespace NodeRole

/-- The **kinds** of nodes that have a role, in the order of their characters. -/
def kinds : NodeRole → List String
  | comment => ["block_comment", "comment"]
  | body => ["block", "block_definition"]
  | name => ["identifier", "identifier_chain"]
  | label => ["label", "label_codeblock", "string"]
  | connection => ["connection"]
  | declaration => ["declaration"]
  | other => []

/-- The role of a **kind** of nodes. -/
def ofKind (kind : String) : NodeRole :=
  ([comment, body, name, label, connection, declaration].find? (·.kinds.contains kind)).getD other

/-- Each kind that is listed for a role has that role. -/
theorem ofKind_of_mem_kinds {role : NodeRole} {kind : String} (h : kind ∈ role.kinds) :
    ofKind kind = role := by
  cases role <;> simp only [kinds, List.mem_cons, List.not_mem_nil, or_false] at h
  · rcases h with rfl | rfl <;> decide
  · rcases h with rfl | rfl <;> decide
  · rcases h with rfl | rfl <;> decide
  · rcases h with rfl | rfl | rfl <;> decide
  · subst h; decide
  · subst h; decide

end NodeRole

namespace SyntaxNode

/-- The **role** of a node. -/
def role (node : SyntaxNode) : NodeRole := .ofKind node.kind

/-- The **text** of a node in the source whose bytes are given. -/
def text (node : SyntaxNode) (source : List UInt8) : Text :=
  Utf8.decodeLossy (slice source node.startByte node.endByte)

/-- The children of a node **before** its first body. -/
def header (node : SyntaxNode) : List SyntaxNode := node.children.takeWhile (·.role ≠ .body)

/-- The first **body** among the children of a node. -/
def body? (node : SyntaxNode) : Option SyntaxNode := node.children.find? (·.role = .body)

/-- The first and the last **row** of a node. A node that stops at the very start of a row, below
its first row, does not reach into that row. -/
def rows (node : SyntaxNode) : Int × Int :=
  if node.stop.column = 0 ∧ node.start.row < node.stop.row then
    (node.start.row, node.stop.row - 1)
  else (node.start.row, node.stop.row)

mutual

/-- The outermost **names and connections** in nodes, in order. -/
def names : List SyntaxNode → List SyntaxNode
  | [] => []
  | node :: more => node.namesOf ++ names more

/-- The outermost names and connections in one node, which may be the node itself. -/
def namesOf : SyntaxNode → List SyntaxNode
  | ⟨kind, isNamed, startByte, endByte, start, stop, children⟩ =>
    match NodeRole.ofKind kind with
    | .name | .connection => [⟨kind, isNamed, startByte, endByte, start, stop, children⟩]
    | _ => names children

end

end SyntaxNode

end DiagramOutline
