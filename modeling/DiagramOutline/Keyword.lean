import DiagramOutline.Text.WordChar

/-! # Keywords

The words and tokens that give a statement its role.

* **`Keyword.directives`** — the words that set layout or appearance and never name a shape.
* **`Keyword.isDirective word`** — `word` is a directive, or dotted and a directive up to its first
  dot.
* **`Keyword.connectionTokens`** — the arrows and lines that join two endpoints.
* **`Keyword.hasConnection line`** — some connection token stands in `line`.
* **`Keyword.leadingIdentifier line`** — the identifier at the very start of `line`; empty if none
  is there. -/

namespace DiagramOutline.Keyword

/-- The **directives**, in the order of their characters. -/
def directives : List Text :=
  ["3d", "animated", "bold", "border-radius", "class", "classes", "constraint", "direction",
    "double-border", "fill", "filled", "font-color", "font-size", "grid-columns", "grid-gap",
    "grid-rows", "height", "horizontal-gap", "icon", "italic", "label", "left", "link", "multiple",
    "near", "opacity", "shadow", "shape", "source-arrowhead", "stroke", "stroke-dash",
    "stroke-width", "style", "target-arrowhead", "text-transform", "tooltip", "top", "underline",
    "vertical-gap", "width"].map
    String.toList

/-- The **connection tokens**, a longer one before those it begins with. -/
def connectionTokens : List Text := ["<->", "-->", "<--", "->", "<-", "--"].map String.toList

/-- Whether a word is a **directive**: what stands before its first dot, or all of it when it has no
dot, is one. -/
def isDirective (word : Text) : Bool := directives.contains (word.takeWhile (· != '.'))

/-- Whether a **connection token** begins a text. -/
def startsConnection (text : Text) : Bool := connectionTokens.any (·.isPrefixOf text)

/-- Whether a line **holds** a connection token. -/
def hasConnection : Text → Bool
  | [] => false
  | c :: rest => startsConnection (c :: rest) || hasConnection rest

/-- Whether a character may **begin** an identifier: an ASCII letter or the low line. -/
def startsIdentifier (c : Char) : Bool := c.isAlpha || c == '_'

/-- Whether a character may **go on** with an identifier. -/
def continuesIdentifier (c : Char) : Bool := Text.isWordChar c || c == '.' || c == '-'

/-- The **identifier** at the start of a line, the empty text if the line starts with none. -/
def leadingIdentifier : Text → Text
  | [] => []
  | c :: rest => if startsIdentifier c then c :: rest.takeWhile continuesIdentifier else []

/-- A text without characters holds no connection. -/
@[simp] theorem hasConnection_nil : hasConnection [] = false := rfl

end DiagramOutline.Keyword
