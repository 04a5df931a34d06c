import DiagramOutline.Block
import DiagramOutline.Record

/-! # Blocks as records

* **`Block.toJson block`** — a block as a record, its line numbers counted from zero; the label and
  the children are null where the block has none.
* **`Block.ofData conversion data`** — the block that a record describes, or the faults of the
  record. -/

namespace DiagramOutline.Block

/-! ## Writing -/

/-- A label as a **value**. -/
def labelJson : Option Text → Json
  | none => .null
  | some label => .text label

mutual

/-- A block as a **record**. -/
def toJson : Block → Json
  | ⟨name, code, startLine, endLine, label, children⟩ =>
    .object
      [("name".toList, .text name), ("code".toList, .text code),
        ("startLine".toList, .int startLine), ("endLine".toList, .int endLine),
        ("label".toList, labelJson label), ("children".toList, childrenJson children)]

/-- The children of a block as a value. -/
def childrenJson : Option (List Block) → Json
  | none => .null
  | some blocks => .array (allJson blocks)

/-- Blocks as records, in order. -/
def allJson : List Block → List Json
  | [] => []
  | block :: more => toJson block :: allJson more

end

/-! ## Reading -/

variable {Foreign : Type}

/-- The block that the members of a record describe, where its children were **read already**: the
readings of all members as children stand in `readings`. -/
def ofMembers (conversion : Conversion Foreign) (members : List (Text × Data Foreign))
    (readings : List (Text × Checked (Option (List Block)))) : Checked Block :=
  ((Field.required (.single "name") conversion.text members).map Block.mk)
    |>.apply (Field.required (.single "code") conversion.text members)
    |>.apply
      ((Field.required (.double "startLine" "start_line") (Field.count conversion) members).map
        Int.ofNat)
    |>.apply
      ((Field.required (.double "endLine" "end_line") (Field.count conversion) members).map
        Int.ofNat)
    |>.apply (Field.optional (.single "label") none (Field.nullableText conversion) members)
    |>.apply (Field.optional (.single "children") none id readings)

mutual

/-- The block that a record **describes**, or the faults of the record. -/
def ofData (conversion : Conversion Foreign) : Data Foreign → Checked Block
  | .object members => ofMembers conversion members (readMembers conversion members)
  | _ => .fault .modelType

/-- Each member of a record, read as if it were the children of a block. -/
def readMembers (conversion : Conversion Foreign) :
    List (Text × Data Foreign) → List (Text × Checked (Option (List Block)))
  | [] => []
  | (name, value) :: more => (name, readChildren conversion value) :: readMembers conversion more

/-- The **children** of a block: a list of blocks, or null. -/
def readChildren (conversion : Conversion Foreign) : Data Foreign → Checked (Option (List Block))
  | .null => .ok none
  | .array items => (readItems conversion 0 items).map some
  | _ => .fault .listType

/-- The blocks of a list, the first of them at the given position. -/
def readItems (conversion : Conversion Foreign) (position : Nat) :
    List (Data Foreign) → Checked (List Block)
  | [] => .ok []
  | item :: more =>
    (((ofData conversion item).under (.index position)).map List.cons).apply
      (readItems conversion (position + 1) more)

end

end DiagramOutline.Block
