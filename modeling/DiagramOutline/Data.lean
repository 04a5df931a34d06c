import DiagramOutline.Json

/-! # Data

What records are read from. It may hold values that are written in no record, such as numbers with a
fraction; these are drawn from a type of their own, so that nothing is said about them here. A record
that was read before stands in data by its members.

* **`Data Foreign`** — data whose values of other kinds come from `Foreign`.
* **`Data.ofJson value`** — a JSON value as data. -/

namespace DiagramOutline

/-- **Data** from which a record may be read. -/
inductive Data (Foreign : Type) where
  /-- The value null. -/
  | null
  /-- A truth value. -/
  | bool (value : Bool)
  /-- An integer. -/
  | int (value : Int)
  /-- A text. -/
  | text (value : Text)
  /-- A single value of another kind. -/
  | foreign (value : Foreign)
  /-- A list of values, or another collection that stands for one. -/
  | array (items : List (Data Foreign))
  /-- Named values in order. -/
  | object (members : List (Text × Data Foreign))

namespace Data

variable {Foreign : Type}

mutual

/-- A JSON value **as data**. -/
def ofJson : Json → Data Foreign
  | .null => null
  | .bool value => bool value
  | .int value => int value
  | .text value => text value
  | .array items => array (ofItems items)
  | .object members => object (ofMembers members)

/-- The items of a list as data. -/
def ofItems : List Json → List (Data Foreign)
  | [] => []
  | item :: more => ofJson item :: ofItems more

/-- The members of an object as data. -/
def ofMembers : List (Text × Json) → List (Text × Data Foreign)
  | [] => []
  | (name, value) :: more => (name, ofJson value) :: ofMembers more

end

/-- Texts in a list are texts **as data** too. -/
@[simp] theorem ofItems_map_text (values : List Text) :
    (ofItems (values.map .text) : List (Data Foreign)) = values.map .text := by
  induction values with
  | nil => rfl
  | cons value more ih => rw [List.map_cons, ofItems, ofJson, ih, List.map_cons]

end Data

end DiagramOutline
