import DiagramOutline.Diagnostic
import DiagramOutline.Record

/-! # Spans and diagnostics as records

* **`LineSpan.toJson span`**, **`LineSpan.ofData conversion data`** — the span of a line as a
  record.
* **`Diagnostic.toJson diagnostic`**, **`Diagnostic.ofData conversion data`** — a diagnostic as a
  record. Its severity is always that of an error. -/

namespace DiagramOutline

variable {Foreign : Type}

namespace LineSpan

/-- The span of a line as a **record**. -/
def toJson (span : LineSpan) : Json :=
  .object [("from".toList, .int span.start), ("to".toList, .int span.stop)]

/-- The span that a record **describes**, or the faults of the record. -/
def ofData (conversion : Conversion Foreign) : Data Foreign → Checked LineSpan
  | .object members =>
    ((Field.required (.double "from" "from_") (Field.count conversion) members).map
        fun (start stop : Nat) => LineSpan.mk start stop)
      |>.apply (Field.required (.single "to") (Field.count conversion) members)
  | _ => .fault .modelType

end LineSpan

namespace Diagnostic

/-- The **severity** of every diagnostic. -/
def severity : Text := "error".toList

/-- What the word for the severity means; no other word is **allowed**. -/
def severityOfWord? (word : Text) : Option Unit := if word = severity then some () else none

/-- A diagnostic as a **record**. -/
def toJson (diagnostic : Diagnostic) : Json :=
  .object
    [("from".toList, .int diagnostic.start), ("to".toList, .int diagnostic.stop),
      ("severity".toList, .text severity), ("message".toList, .text diagnostic.message)]

/-- The diagnostic that a record **describes**, or the faults of the record. -/
def ofData (conversion : Conversion Foreign) : Data Foreign → Checked Diagnostic
  | .object members =>
    ((Field.required (.double "from" "from_") (Field.count conversion) members).map
        fun start stop (_ : Unit) message => Diagnostic.mk start stop message)
      |>.apply (Field.required (.single "to") (Field.count conversion) members)
      |>.apply (Field.optional (.single "severity") () (Field.word severityOfWord?) members)
      |>.apply (Field.required (.single "message") conversion.text members)
  | _ => .fault .modelType

end Diagnostic

end DiagramOutline
