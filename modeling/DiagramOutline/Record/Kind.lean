import DiagramOutline.Record.Block
import DiagramOutline.Record.Conversion
import DiagramOutline.Record.Diagnostic
import DiagramOutline.Record.Metadata

/-! # Kinds of records

* **`RecordKind`** — the kinds of records there are.
* **`RecordKind.check kind value`** — a record read with the standard conversion and written again,
  with all its fields; or the faults for which it is refused.
* **`RecordKind.assign kind value field`** — the faults of giving a field another value; there are
  always some, since no record can be changed. -/

namespace DiagramOutline

/-- A **kind** of record. -/
inductive RecordKind where
  /-- A block. -/
  | block
  /-- The metadata of a block. -/
  | metadata
  /-- A diagnostic. -/
  | diagnostic
  /-- The span of a line. -/
  | lineSpan
  deriving DecidableEq, Repr

namespace RecordKind

/-- A record **read and written** again, with all its fields, or its faults. -/
def check : RecordKind → Json → Checked Json
  | block, value => (Block.ofData .standard (.ofJson value)).map Block.toJson
  | metadata, value => (Metadata.ofData .standard (.ofJson value)).map Metadata.toJson
  | diagnostic, value => (Diagnostic.ofData .standard (.ofJson value)).map Diagnostic.toJson
  | lineSpan, value => (LineSpan.ofData .standard (.ofJson value)).map LineSpan.toJson

/-- The faults of giving a **field** of a record another value: those of the record, or else that it
cannot be changed. -/
def assign (kind : RecordKind) (value : Json) (field : Text) : List Fault :=
  match kind.check value with
  | .ok _ => [Fault.frozen field]
  | .refused faults => faults

end RecordKind

end DiagramOutline
