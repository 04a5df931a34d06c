import DiagramOutline.Diagnostic.Entry
import DiagramOutline.Document
import DiagramOutline.Fault

/-! # Diagnostics

Error text of a compiler, anchored in the document that it is about. Each line of it that names a
line of the document gives one diagnostic. A line that names none gives one only if it comes first;
that one covers the first line of the document.

* **`Diagnostic`** — a message and the stretch of the document that it is about.
* **`Diagnostic.ofLine document line`** — the diagnostic of one line of error text that names a line
  of the document.
* **`Diagnostic.ofErrors document errors`** — the diagnostics of some error text. -/

namespace DiagramOutline

/-- A **diagnostic**: a message about a stretch of a document. -/
structure Diagnostic where
  /-- Where the stretch starts. -/
  start : Nat
  /-- Where the stretch stops. -/
  stop : Nat
  /-- The message. -/
  message : Text
  deriving DecidableEq, Repr

/-- Why error text could **not** be anchored. -/
inductive DiagnosticError where
  /-- A number has this many digits, which are too many to be read. -/
  | numeralTooLong (digits : Nat)
  /-- The document has no line to anchor a message in. -/
  | noLines
  /-- The document puts a line at an offset below zero. -/
  | refused (faults : List Fault)
  deriving DecidableEq, Repr

/-- The **wording** of an error; a refusal is told by its faults. -/
def DiagnosticError.message : DiagnosticError → Text
  | numeralTooLong digits =>
    "Exceeds the limit (".toList ++ Text.ofNat Numeral.maxDigits ++
      " digits) for integer string conversion: value has ".toList ++ Text.ofNat digits ++
      " digits; use sys.set_int_max_str_digits() to increase the limit".toList
  | noLines => "Cannot anchor a diagnostic in a document without lines".toList
  | refused _ => []

namespace Diagnostic

/-- The faults of a stretch: an end at an offset **below zero** is one. -/
def stretchFaults (start stop : Int) : List Fault :=
  (if start < 0 then [⟨[.key "from_".toList], .greaterThanEqual⟩] else []) ++
    (if stop < 0 then [⟨[.key "to".toList], .greaterThanEqual⟩] else [])

/-- The diagnostic about a stretch, unless an end of the stretch is **below zero**. -/
def make (start stop : Int) (message : Text) : Except DiagnosticError Diagnostic :=
  match stretchFaults start stop with
  | [] => .ok ⟨start.toNat, stop.toNat, message⟩
  | faults => .error (.refused faults)

/-- A number of error text, with the **error** of one that is too long. -/
def number (digits : Text) : Except DiagnosticError Nat :=
  (Numeral.read digits).mapError .numeralTooLong

/-- Where a **column** of a line is, moved to the nearer end of the line if it lies outside of
it. -/
def columnOffset (span : LineSpan) (column : Nat) : Int :=
  min (max (span.start + column - 1) span.start) span.stop

/-- The diagnostic of an **entry** that names a line of the document; from its column on, to the end
of the line. An entry without a message has the whole line of error text, `line`, for one. -/
def ofEntry (document : Document) (line : Text) (entry : Entry) :
    Except DiagnosticError (Option Diagnostic) := do
  let lineNumber ← number entry.line
  let column ← number entry.column
  match document.line? lineNumber with
  | none => return none
  | some span =>
    let message := if entry.message.isEmpty then line else entry.message
    return some (← make (columnOffset span column) span.stop message)

/-- The diagnostic of a **mention** of a line of the document, with the whole line of error text,
`line`, for a message. -/
def ofMention (document : Document) (line digits : Text) :
    Except DiagnosticError (Option Diagnostic) := do
  match document.line? (← number digits) with
  | none => return none
  | some span => return some (← make span.start span.stop line)

/-- The diagnostic of a trimmed **line of error text** that names a line of the document: by its
first entry, or else by its first mention. -/
def ofLine (document : Document) (line : Text) : Except DiagnosticError (Option Diagnostic) := do
  let byEntry ←
    match Entry.find? line with
    | some entry => ofEntry document line entry
    | none => pure none
  match byEntry with
  | some diagnostic => return some diagnostic
  | none =>
    match Mention.find? line with
    | some digits => ofMention document line digits
    | none => return none

/-- The diagnostic of error text that names **no line**: it covers the first line of the
document. -/
def ofUnplaced (document : Document) (line : Text) : Except DiagnosticError Diagnostic :=
  match document.line? 1 with
  | none => .error .noLines
  | some span => make span.start span.stop line

/-- The diagnostics of trimmed lines of error text that are not empty. Whether any diagnostic came
**before** them decides what becomes of a line that names none of the document's. -/
def ofLines (document : Document) (isFirst : Bool) :
    List Text → Except DiagnosticError (List Diagnostic)
  | [] => .ok []
  | line :: more => do
    match ← ofLine document line with
    | some diagnostic => return diagnostic :: (← ofLines document false more)
    | none =>
      if isFirst then
        return (← ofUnplaced document line) :: (← ofLines document false more)
      else ofLines document isFirst more

/-- The lines of **error text** that say something, trimmed. -/
def errorLines (errors : Text) : List Text :=
  (errors.lines.map Text.trim).filter fun line => !line.isEmpty

/-- The **diagnostics** of error text about a document. -/
def ofErrors (document : Document) (errors : Text) : Except DiagnosticError (List Diagnostic) :=
  ofLines document true (errorLines errors)

/-- A stretch without an end below zero has no faults. -/
theorem stretchFaults_eq_nil_iff {start stop : Int} :
    stretchFaults start stop = [] ↔ 0 ≤ start ∧ 0 ≤ stop := by
  unfold stretchFaults
  split <;> split <;> simp <;> omega

/-- A stretch between offsets that are not below zero makes a diagnostic. -/
theorem make_natCast (start stop : Nat) (message : Text) :
    make start stop message = .ok ⟨start, stop, message⟩ := by
  have h : stretchFaults start stop = [] := stretchFaults_eq_nil_iff.2 ⟨by omega, by omega⟩
  simp [make, h]

end Diagnostic

end DiagramOutline
