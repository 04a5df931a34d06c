import DiagramOutline.Metadata
import DiagramOutline.Record

/-! # Metadata as records

* **`Metadata.members metadata`**, **`Metadata.toJson metadata`** — metadata as a record.
* **`Metadata.ofData conversion data`** — the metadata that a record describes, or the faults of the
  record. -/

namespace DiagramOutline.Metadata

variable {Foreign : Type}

/-- Metadata as the **members** of a record. -/
def members (metadata : Metadata) : List (Text × Json) :=
  [("shapeCount".toList, .int metadata.shapeCount),
    ("connectionCount".toList, .int metadata.connectionCount),
    ("nestingDepth".toList, .int metadata.nestingDepth),
    ("category".toList, .text metadata.category.word),
    ("hasStyles".toList, .bool metadata.hasStyles),
    ("hasClasses".toList, .bool metadata.hasClasses),
    ("topIdentifiers".toList, .texts metadata.topIdentifiers)]

/-- Metadata as a **record**. -/
def toJson (metadata : Metadata) : Json := .object metadata.members

/-- The metadata that the members of a record describe. -/
def ofMembers (conversion : Conversion Foreign) (members : List (Text × Data Foreign)) :
    Checked Metadata :=
  ((Field.required (.double "shapeCount" "shape_count") (Field.count conversion) members).map Metadata.mk)
    |>.apply (Field.required (.double "connectionCount" "connection_count") (Field.count conversion) members)
    |>.apply (Field.required (.double "nestingDepth" "nesting_depth") (Field.count conversion) members)
    |>.apply (Field.required (.single "category") (Field.word Category.ofWord?) members)
    |>.apply (Field.required (.double "hasStyles" "has_styles") conversion.bool members)
    |>.apply (Field.required (.double "hasClasses" "has_classes") conversion.bool members)
    |>.apply
      (Field.required (.double "topIdentifiers" "top_identifiers")
        (Field.textsUpTo conversion maxTopIdentifiers) members)

/-- The metadata that a record **describes**, or the faults of the record. -/
def ofData (conversion : Conversion Foreign) : Data Foreign → Checked Metadata
  | .object members => ofMembers conversion members
  | _ => .fault .modelType

end DiagramOutline.Metadata
