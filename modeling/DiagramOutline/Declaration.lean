import DiagramOutline.Header
import DiagramOutline.Interior
import DiagramOutline.Label
import DiagramOutline.SyntaxNode

/-! # Declarations in a syntax tree

What the node of a statement says about it: its name, its label and the interior of its body. The
source is given by its bytes.

* **`SyntaxNode.declaredName node source`** — the name of a statement; empty if it has none.
* **`SyntaxNode.label node source`** — the label of a statement.
* **`SyntaxNode.interior? node source`** — the interior of the body of a statement. -/

namespace DiagramOutline.SyntaxNode

/-- The **name** of the statement that a node stands for. A statement with a connection in its
header is named by its whole header, any other one by the first name in its header, or by the
identifier that its first line starts with. -/
def declaredName (node : SyntaxNode) (source : List UInt8) : Text :=
  let found := names node.header
  if found.any (·.role = .connection) then
    let stop := (node.header.getLast?.map (·.endByte)).getD node.startByte
    Header.connectionName (Utf8.decodeLossy (slice source node.startByte stop))
  else
    match found with
    | first :: _ => first.text source
    | [] => Keyword.leadingIdentifier (Text.trim ((node.text source).lines.headD []))

/-- The **key** of a declaration inside a body: the first name in its header, or the identifier that
it starts with. -/
def key (node : SyntaxNode) (source : List UInt8) : Text :=
  match node.header.find? (·.role = .name) with
  | some name => name.text source
  | none => Keyword.leadingIdentifier (Text.trimStart (node.text source))

/-- The label in the **header** of a statement. -/
def headerLabel? (node : SyntaxNode) : Option SyntaxNode := node.header.find? (·.role = .label)

/-- Whether a node declares a **label property**. -/
def isLabelProperty (node : SyntaxNode) (source : List UInt8) : Bool :=
  node.role = .declaration && node.key source == Label.property

/-- The **label** of the statement that a node stands for. One in the header counts only if it is
quoted, since a bare value sets a property of the shape, but then the body is not searched. In the
body, the first label property that has a value gives the label. -/
def label (node : SyntaxNode) (source : List UInt8) : Option Text :=
  match node.headerLabel? with
  | some label =>
    match Text.trim (label.text source) with
    | [] => none
    | c :: rest => if Quoting.isQuote c then Label.clean (c :: rest) else none
  | none =>
    node.body?.bind fun body =>
      ((body.children.filter (·.isLabelProperty source)).findSome? headerLabel?).bind fun value =>
        Label.clean (value.text source)

/-- The byte of a **closing brace**. -/
def closingByte : UInt8 := 0x7d

/-- The **interior** of the body of the statement that a node stands for, from its first line with
text on. A body whose last byte is no closing brace is not closed, and its interior goes on to its
end. -/
def interior? (node : SyntaxNode) (source : List UInt8) : Option Interior :=
  node.body?.bind fun body =>
    let stop :=
      if slice source (body.endByte - 1) body.endByte = [closingByte] then body.endByte - 1
      else body.endByte
    Interior.trimmed?
      ⟨body.start.row, Utf8.decodeLossy (slice source (body.startByte + 1) stop)⟩

/-- The label of a statement is a clean one. -/
theorem exists_clean_of_label {node : SyntaxNode} {source : List UInt8} {text : Text}
    (h : node.label source = some text) : ∃ raw, Label.clean raw = some text := by
  unfold label at h
  split at h
  · split at h
    · cases h
    · split at h
      · exact ⟨_, h⟩
      · cases h
  · obtain ⟨body, _, hbody⟩ := Option.bind_eq_some_iff.1 h
    obtain ⟨value, _, hvalue⟩ := Option.bind_eq_some_iff.1 hbody
    exact ⟨_, hvalue⟩

end DiagramOutline.SyntaxNode
