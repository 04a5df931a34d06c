import DiagramOutline.Text.Digit
import DiagramOutline.Text.Quoted

/-! # JSON values

Values that records are read from and written to, and their text.

* **`Json`** — a value; the members of an object keep their order.
* **`Json.withoutNulls value`** — a value without the members that are null.
* **`Json.render value`** — the text of a value, one member or item to a line, in ASCII. -/

namespace DiagramOutline

/-- A **JSON value** whose numbers are integers. -/
inductive Json where
  /-- The value null. -/
  | null
  /-- A truth value. -/
  | bool (value : Bool)
  /-- A number. -/
  | int (value : Int)
  /-- A text. -/
  | text (value : Text)
  /-- A list of values. -/
  | array (items : List Json)
  /-- Named values in order. -/
  | object (members : List (Text × Json))
  deriving Repr

namespace Json

/-- A list of **texts**. -/
def texts (values : List Text) : Json := array (values.map text)

/-! ## Leaving out nulls -/

mutual

/-- A value **without the members that are null**, at any depth. -/
def withoutNulls : Json → Json
  | null => null
  | bool value => bool value
  | int value => int value
  | text value => text value
  | array items => array (itemsWithoutNulls items)
  | object members => object (membersWithoutNulls members)

/-- Items, each without members that are null. -/
def itemsWithoutNulls : List Json → List Json
  | [] => []
  | item :: more => withoutNulls item :: itemsWithoutNulls more

/-- The members that are **not null**, each without members that are null. -/
def membersWithoutNulls : List (Text × Json) → List (Text × Json)
  | [] => []
  | (_, null) :: more => membersWithoutNulls more
  | (name, value) :: more => (name, withoutNulls value) :: membersWithoutNulls more

end

/-! ## Text -/

/-- One UTF-16 **unit** as an escape. -/
def escapeUnit (unit : Nat) : Text := '\\' :: 'u' :: Text.hex 4 unit

/-- A character as it is **written** between double quotes: printable ASCII as it is, save for the
quote and the backslash, and anything else by an escape, beyond the basic plane by two. -/
def escapeChar (c : Char) : Text :=
  if c = '\x22' || c = '\\' then ['\\', c]
  else if c = '\n' then ['\\', 'n']
  else if c = '\r' then ['\\', 'r']
  else if c = '\t' then ['\\', 't']
  else if c = '\x08' then ['\\', 'b']
  else if c = '\x0c' then ['\\', 'f']
  else if 0x20 ≤ c.toNat && c.toNat < 0x7f then [c]
  else if c.toNat < 0x10000 then escapeUnit c.toNat
  else
    escapeUnit (0xd800 + (c.toNat - 0x10000) / 0x400) ++
      escapeUnit (0xdc00 + (c.toNat - 0x10000) % 0x400)

/-- A text **between double quotes**. -/
def renderText (value : Text) : Text := '\x22' :: value.flatMap escapeChar ++ ['\x22']

/-- A line break, and the indent of the given **depth**. -/
def newline (depth : Nat) : Text := '\n' :: List.replicate (2 * depth) ' '

mutual

/-- The text of a value that stands at the given **depth**. -/
def renderAt (depth : Nat) : Json → Text
  | null => "null".toList
  | bool true => "true".toList
  | bool false => "false".toList
  | int value => Text.ofInt value
  | text value => renderText value
  | array [] => "[]".toList
  | array (item :: more) =>
    '[' :: newline (depth + 1) ++ renderAt (depth + 1) item ++ renderItems (depth + 1) more ++
      newline depth ++ [']']
  | object [] => ['{', '}']
  | object ((name, value) :: more) =>
    '{' :: newline (depth + 1) ++ renderText name ++ ": ".toList ++ renderAt (depth + 1) value ++
      renderMembers (depth + 1) more ++ newline depth ++ ['}']

/-- The text of the items **after the first** one of a list. -/
def renderItems (depth : Nat) : List Json → Text
  | [] => []
  | item :: more => ',' :: newline depth ++ renderAt depth item ++ renderItems depth more

/-- The text of the members **after the first** one of an object. -/
def renderMembers (depth : Nat) : List (Text × Json) → Text
  | [] => []
  | (name, value) :: more =>
    ',' :: newline depth ++ renderText name ++ ": ".toList ++ renderAt depth value ++
      renderMembers depth more

end

/-- The **text** of a value, indented by two spaces for each level. -/
def render (value : Json) : Text := renderAt 0 value

end Json

end DiagramOutline
