import DiagramOutline.Text.Digit

/-! # Documents as lines

What an editor knows of a text: how many lines it has, and where each of them starts and stops.
Lines are numbered from one.

* **`LineSpan`** — where a line starts and stops.
* **`Document`** — the spans of the lines of some text, which need not fit together.
* **`Document.ofText text`** — the spans of the lines of a text.
* **`Document.line document number`** — the span of one line, or why there is none. -/

namespace DiagramOutline

/-- Where a line **starts and stops**; the newline after it is not part of it. -/
structure LineSpan where
  /-- The offset of the first character. -/
  start : Int
  /-- The offset after the last character. -/
  stop : Int
  deriving DecidableEq, Repr

/-- A text as an editor knows it: the **spans** of its lines in order. -/
structure Document where
  /-- The spans of the lines. -/
  spans : List LineSpan
  deriving DecidableEq, Repr

/-- A line that a document does **not have**. -/
structure LineOutOfRange where
  /-- The number that was asked for. -/
  number : Int
  /-- How many lines there are. -/
  count : Nat
  deriving DecidableEq, Repr

/-- The **wording** of the error. -/
def LineOutOfRange.message (error : LineOutOfRange) : Text :=
  "Line ".toList ++ Text.ofInt error.number ++ " out of range 1..".toList ++ Text.ofNat error.count

namespace Document

/-- The spans of lines that follow each other from `offset` on, a newline after each. -/
def spansFrom (offset : Nat) : List Text → List LineSpan
  | [] => []
  | line :: more =>
    ⟨offset, (offset + line.length : Nat)⟩ :: spansFrom (offset + line.length + 1) more

/-- The document of a **text**. -/
def ofText (text : Text) : Document := ⟨spansFrom 0 text.lines⟩

/-- How many **lines** a document has. -/
def lineCount (document : Document) : Nat := document.spans.length

/-- The span of a line, if the document **has** a line of that number. -/
def line? (document : Document) (number : Int) : Option LineSpan :=
  if 1 ≤ number then document.spans[(number - 1).toNat]? else none

/-- The span of a line, or the error that there is **none** of that number. -/
def line (document : Document) (number : Int) : Except LineOutOfRange LineSpan :=
  match document.line? number with
  | some span => .ok span
  | none => .error ⟨number, document.lineCount⟩

/-- As many spans as lines. -/
@[simp] theorem length_spansFrom (offset : Nat) (lines : List Text) :
    (spansFrom offset lines).length = lines.length := by
  induction lines generalizing offset with
  | nil => rfl
  | cons line more ih => simp [spansFrom, ih]

/-- A text has one more line than newlines. -/
theorem lineCount_ofText (text : Text) : (ofText text).lineCount = text.count '\n' + 1 := by
  rw [lineCount, ofText, length_spansFrom, Text.length_lines]

/-- Exactly the lines numbered from one to the line count are there. -/
theorem isSome_line?_iff {document : Document} {number : Int} :
    (document.line? number).isSome = true ↔ 1 ≤ number ∧ number ≤ document.lineCount := by
  unfold line? lineCount
  split
  · next h => rw [Option.isSome_iff_ne_none, ne_eq, List.getElem?_eq_none_iff]; omega
  · next h => simp [h]

end Document

end DiagramOutline
