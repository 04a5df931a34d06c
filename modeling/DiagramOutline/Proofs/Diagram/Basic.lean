import DiagramOutline.Keyword
import DiagramOutline.Label
import DiagramOutline.Proofs.Place

/-! # Well-formed diagrams

A diagram that is written one item a line, and the two things that are made of it: its text, and
the syntax tree that a faithful grammar makes of that text.

* **`Diagram.Item`** — a blank line, a comment, a leaf, or a container with the items inside its
  body. A diagram is a list of items.
* **`Diagram.Head`** — what a leaf and the header of a container say: a subject, which is a name or
  a connection of names, and the value that it is given.
* **`Diagram.text items`** — the text of a diagram.
* **`Diagram.tree items`** — the syntax tree of that text.
* **`Diagram.Item.Outlinable item`** — the item has no brace in a comment or in the label of a
  connection, and no connection that starts at a shape with the name of the label property. -/

namespace DiagramOutline.Diagram

/-! ## Names and connections -/

/-- Whether a character may stand in a **segment** of a name: an ASCII letter or digit, or the low
line. -/
def isNameChar (c : Char) : Bool := c.isAlphanum || c == '_'

/-- A **segment** of a name. -/
structure Segment where
  /-- The first character, which is no digit. -/
  first : Char
  /-- The characters after it. -/
  rest : Text
  /-- The first character may begin an identifier. -/
  startsIdentifier_first : Keyword.startsIdentifier first = true
  /-- The other characters may stand in a segment. -/
  isNameChar_rest : rest.all isNameChar = true

/-- The **text** of a segment. -/
def Segment.text (segment : Segment) : Text := segment.first :: segment.rest

/-- A **name**: segments with dots between them. -/
structure Name where
  /-- The first segment. -/
  head : Segment
  /-- The segments after it. -/
  tail : List Segment

/-- Segments with a dot before each. -/
def dotted (segments : List Segment) : Text := segments.flatMap fun segment => '.' :: segment.text

/-- The **text** of a name. -/
def Name.text (name : Name) : Text := name.head.text ++ dotted name.tail

/-- A **connection token**. -/
structure Token where
  /-- The characters of the token. -/
  text : Text
  /-- They are one of the tokens. -/
  mem_tokens : text ∈ Keyword.connectionTokens

/-- A **link** of a connection: the token, and the shape it leads to. -/
structure Link where
  /-- The token. -/
  token : Token
  /-- The name of the shape. -/
  target : Name

/-- The **text** of a link, with the blank before it. -/
def Link.text (link : Link) : Text := ' ' :: link.token.text ++ ' ' :: link.target.text

/-- A **connection** of two shapes or more. -/
structure Connection where
  /-- The name of the shape it starts at. -/
  source : Name
  /-- The first link. -/
  link : Link
  /-- The links after it. -/
  more : List Link

/-- The **text** of a connection. -/
def Connection.text (connection : Connection) : Text :=
  connection.source.text ++ (connection.link :: connection.more).flatMap Link.text

/-- The **subject** of a statement. -/
inductive Subject where
  /-- A shape. -/
  | shape (name : Name)
  /-- A connection of shapes. -/
  | connection (joined : Connection)

namespace Subject

/-- The **text** of a subject. -/
def text : Subject → Text
  | shape name => name.text
  | connection joined => joined.text

/-- Whether a subject is a **connection**. -/
def isConnection : Subject → Bool
  | shape _ => false
  | connection _ => true

/-- The **first name** of a subject. -/
def firstName : Subject → Name
  | shape name => name
  | connection joined => joined.source

end Subject

/-! ## Values -/

/-- The **wording** of a quoted label. -/
structure Wording where
  /-- The characters between the quotes. -/
  text : Text
  /-- None of them is a double quote, a backslash or a newline. -/
  plain : ∀ c ∈ text, c ∉ [Quoting.double, Quoting.backslash, '\n']
  /-- They hold no connection token. -/
  hasConnection_text : Keyword.hasConnection text = false

/-- A wording **in quotes**. -/
def Wording.quoted (wording : Wording) : Text :=
  Quoting.double :: wording.text ++ [Quoting.double]

/-- A **bare value**. -/
structure BareValue where
  /-- The characters of the value. -/
  text : Text
  /-- There is one. -/
  text_ne_nil : text ≠ []
  /-- There are no blanks at the ends. -/
  trim_text : Text.trim text = text
  /-- None of them is a quote, a colon, a brace, a newline, a number sign or a semicolon. -/
  plain : ∀ c ∈ text, c ∉ [Quoting.double, Quoting.single, ':', '{', '}', '\n', '#', ';']
  /-- They hold no connection token. -/
  hasConnection_text : Keyword.hasConnection text = false

/-- What a statement says **after its subject**. -/
inductive Value where
  /-- Nothing. -/
  | absent
  /-- A colon alone. -/
  | colon
  /-- A quoted label. -/
  | quoted (wording : Wording)
  /-- A bare value. -/
  | bare (value : BareValue)

namespace Value

/-- The **text** of a value, with the colon before it. -/
def text : Value → Text
  | absent => []
  | colon => [':']
  | quoted wording => ':' :: ' ' :: wording.quoted
  | bare value => ':' :: ' ' :: value.text

end Value

/-- What a **leaf** or the **header** of a container says. -/
structure Head where
  /-- The subject. -/
  subject : Subject
  /-- What is said after it. -/
  value : Value

namespace Head

/-- The **text** of a head. -/
def text (head : Head) : Text := head.subject.text ++ head.value.text

/-- A head that may **stand alone**. No colon ends it, and a bare value stands only after a
shape. -/
def StandsAlone (head : Head) : Prop :=
  match head.value with
  | .absent => True
  | .colon => False
  | .quoted _ => True
  | .bare _ => head.subject.isConnection = false

/-- A head that may stand **before a body**. No bare value stands there, and a colon alone only
after a connection. -/
def OpensBody (head : Head) : Prop :=
  match head.value with
  | .absent => True
  | .colon => head.subject.isConnection = true
  | .quoted _ => True
  | .bare _ => False

end Head

/-! ## Items -/

/-- The blanks **before** an item on its line. -/
structure Indent where
  /-- The blanks. -/
  text : Text
  /-- They are spaces and tabs. -/
  plain : ∀ c ∈ text, c ∈ [' ', '\t']

/-- The text of a **comment** after its number sign. -/
structure Remark where
  /-- The characters. -/
  text : Text
  /-- None of them is a newline. -/
  plain : '\n' ∉ text

/-- An **item** of a diagram. -/
inductive Item where
  /-- A blank line. -/
  | blank (indent : Indent)
  /-- A comment. -/
  | comment (indent : Indent) (remark : Remark)
  /-- A statement without a body. -/
  | leaf (indent : Indent) (head : Head) (alone : head.StandsAlone)
  /-- A statement with a body: its header, the items in the body, and the blanks before the brace
  that closes it. -/
  | container (indent : Indent) (head : Head) (opens : head.OpensBody) (items : List Item)
    (close : Indent)

mutual

/-- The **lines** of an item. -/
def Item.lines : Item → List Text
  | .blank indent => [indent.text]
  | .comment indent remark => [indent.text ++ '#' :: remark.text]
  | .leaf indent head _ => [indent.text ++ head.text]
  | .container indent head _ items close =>
    (indent.text ++ head.text ++ [' ', '{']) :: (lines items ++ [close.text ++ ['}']])

/-- The **lines** of items. -/
def lines : List Item → List Text
  | [] => []
  | item :: more => item.lines ++ lines more

end

/-- The **text** of a diagram. -/
def text (items : List Item) : Text := Text.unlines (lines items)

/-- The text **between the braces** of a container. -/
def interior (items : List Item) (close : Indent) : Text :=
  '\n' :: Text.unlines (lines items ++ [close.text])

/-- The **body** of a container, with its braces. -/
def body (items : List Item) (close : Indent) : Text := '{' :: interior items close ++ ['}']

/-! ## Trees -/

/-- The nodes of segments, of which the first has its **dot** at a place. -/
def segmentNodes (place : Place) : List Segment → List SyntaxNode
  | [] => []
  | segment :: more =>
    .spanning (place.after ['.']) segment.text "identifier" true [] ::
      segmentNodes ((place.after ['.']).after segment.text) more

/-- The node of a **name** that stands at a place: an identifier, or a chain of them. -/
def Name.node (place : Place) (name : Name) : SyntaxNode :=
  match name.tail with
  | [] => .spanning place name.text "identifier" true []
  | segment :: more =>
    .spanning place name.text "identifier_chain" true
      (.spanning place name.head.text "identifier" true [] ::
        segmentNodes (place.after name.head.text) (segment :: more))

/-- The nodes of links, the blank before the first of which stands at a place. -/
def linkNodes (place : Place) : List Link → List SyntaxNode
  | [] => []
  | link :: more =>
    .spanning (place.after [' ']) link.token.text "arrow" true [] ::
      link.target.node (place.after (' ' :: link.token.text ++ [' '])) ::
        linkNodes (place.after link.text) more

/-- The node of a **subject** that stands at a place. -/
def Subject.node (place : Place) : Subject → SyntaxNode
  | .shape name => name.node place
  | .connection joined =>
    .spanning place joined.text "connection" true
      (joined.source.node place ::
        linkNodes (place.after joined.source.text) (joined.link :: joined.more))

/-- The nodes of a **value** whose colon stands at a place. -/
def Value.nodes (place : Place) : Value → List SyntaxNode
  | .absent => []
  | .colon => [.spanning place [':'] ":" false []]
  | .quoted wording =>
    [.spanning place [':'] ":" false [],
      .spanning (place.after [':', ' ']) wording.quoted "label" true []]
  | .bare value =>
    [.spanning place [':'] ":" false [],
      .spanning (place.after [':', ' ']) value.text "label" true []]

/-- The nodes of a **head** that stands at a place. -/
def Head.nodes (place : Place) (head : Head) : List SyntaxNode :=
  head.subject.node place :: head.value.nodes (place.after head.subject.text)

/-- The node of a **body** that stands at a place, around the nodes of its items. -/
def bodyNode (place : Place) (items : List Item) (close : Indent) (nodes : List SyntaxNode) :
    SyntaxNode :=
  .spanning place (body items close) "block" true
    (.spanning place ['{'] "\x7b" false [] ::
      (nodes ++ [.spanning (place.after ('{' :: interior items close)) ['}'] "\x7d" false []]))

mutual

/-- The nodes of an **item** whose first line starts at a place: one, or none for a blank line. -/
def Item.nodes (place : Place) : Item → List SyntaxNode
  | .blank _ => []
  | .comment indent remark =>
    [.spanning (place.after indent.text) ('#' :: remark.text) "comment" true []]
  | .leaf indent head _ =>
    [.spanning (place.after indent.text) head.text "declaration" true
      (head.nodes (place.after indent.text))]
  | .container indent head _ items close =>
    let start := place.after indent.text
    -- the brace stands behind a blank, and the items from the line after it on
    let opening := start.after (head.text ++ [' '])
    [.spanning start (head.text ++ ' ' :: body items close) "declaration" true
      (head.nodes start ++
        [bodyNode opening items close (nodes (opening.after ['{', '\n']) items)])]

/-- The nodes of **items**, the first line of which starts at a place. -/
def nodes (place : Place) : List Item → List SyntaxNode
  | [] => []
  | item :: more =>
    item.nodes place ++ nodes (place.after (Text.unlines item.lines ++ ['\n'])) more

end

/-- The **syntax tree** of a diagram. -/
def tree (items : List Item) : SyntaxNode :=
  .spanning .start (text items) "source_file" true (nodes .start items)

/-! ## Diagrams that both readings outline alike -/

/-- A subject that is no connection **from the label property**. -/
def Subject.Outlinable : Subject → Prop
  | .shape _ => True
  | .connection joined => joined.source.text ≠ Label.property

/-- A value **without a brace** in its label. -/
def Value.Braceless : Value → Prop
  | .quoted wording => ∀ c ∈ wording.text, Brace.ofChar? c = none
  | _ => True

/-- A head that is no connection **from the label property** and no connection with a **brace in its
label**. The name of a connection is cut at a brace even in a label; both readings cut it alike, but
such a name stands for nothing. -/
structure Head.Outlinable (head : Head) : Prop where
  /-- The subject does not start at the label property. -/
  subject : head.subject.Outlinable
  /-- The label of a connection has no brace. -/
  value : head.subject.isConnection = true → head.value.Braceless

mutual

/-- An item without a **brace in a comment** or in the label of a connection, and without a
connection from the label property. -/
def Item.Outlinable : Item → Prop
  | .blank _ => True
  | .comment _ remark => ∀ c ∈ remark.text, Brace.ofChar? c = none
  | .leaf _ head _ => head.Outlinable
  | .container _ head _ items _ => head.Outlinable ∧ Outlinable items

/-- Items without a brace in a comment or in the label of a connection, and without a connection
from the label property. -/
def Outlinable : List Item → Prop
  | [] => True
  | item :: more => item.Outlinable ∧ Outlinable more

end

end DiagramOutline.Diagram
