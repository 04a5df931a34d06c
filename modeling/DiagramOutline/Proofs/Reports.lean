import DiagramOutline.Proofs.Tiling

/-! # Reports of a compiler

A compiler reports what it finds line by line: the source, a line and a column of it, and a message.
What is printed so is read back exactly, whatever the message says: nothing in front of the place
looks like one, and all that follows it is message.

* **`Text.numeralValue_ofNat`** — a number that is written in digits is read back.
* **`Report`** — what a compiler says about a place; `Report.print reports` is its output.
* **`Report.FitsIn report text`** — a report that can be printed and is about a line of `text`.
* **`Report.ofErrors_print`** — the diagnostics of printed reports. -/

namespace DiagramOutline

/-! ## Numbers in digits -/

namespace Text

/-- An ASCII digit has the **value** that it shows. -/
theorem digitValue?_of_isDigit {c : Char} (h : c.isDigit = true) :
    digitValue? c = some (c.toNat - '0'.toNat) := by
  obtain ⟨hlow, hhigh⟩ : 48 ≤ c.toNat ∧ c.toNat ≤ 57 := by
    rw [Char.isDigit, Bool.and_eq_true, decide_eq_true_eq, decide_eq_true_eq] at h
    exact h
  have hfirst : digitZeros.find? (fun first => first ≤ c.toNat && c.toNat < first + 10) =
      some 0x30 := by
    rw [digitZeros, List.find?_cons_of_pos]
    rw [Bool.and_eq_true, decide_eq_true_eq, decide_eq_true_eq]
    omega
  rw [digitValue?, hfirst]
  rfl

/-- Reading ASCII digits goes on **from a value** as it does in the library. -/
theorem foldl_digitValue? {digits : Text} (h : ∀ c ∈ digits, c.isDigit = true) (value : Nat) :
    digits.foldl (fun value c => value * 10 + (digitValue? c).getD 0) value =
      Nat.ofDigitChars 10 digits value := by
  induction digits generalizing value with
  | nil => rfl
  | cons c digits ih =>
    obtain ⟨hc, hdigits⟩ := List.forall_mem_cons.1 h
    rw [List.foldl_cons, ih hdigits, digitValue?_of_isDigit hc, Nat.ofDigitChars_cons,
      Nat.mul_comm value]
    rfl

/-- A number in digits has the **value** of the number. -/
theorem numeralValue_ofNat (n : Nat) : numeralValue (ofNat n) = n := by
  rw [numeralValue, foldl_digitValue? fun _ => isDigit_of_mem_ofNat]
  exact Nat.ofDigitChars_ten_toDigits

/-- A number in digits is a **numeral**. -/
theorem isNumeral_ofNat (n : Nat) : IsNumeral (ofNat n) := by
  refine ⟨Nat.toDigits_ne_nil, ?_⟩
  intro c hc
  rw [isDecimalDigit, digitValue?_of_isDigit (isDigit_of_mem_ofNat hc)]
  rfl

/-- A character other than a digit is in **no number**. -/
theorem notMem_ofNat {c : Char} (h : c.isDigit = false) (n : Nat) : c ∉ ofNat n := by
  intro hmem
  rw [isDigit_of_mem_ofNat hmem] at h
  cases h

end Text

/-! ## Reports -/

/-- A **report**: what a compiler says about a place in a source. -/
structure Report where
  /-- The name of the source. -/
  source : Text
  /-- The number of the line. -/
  line : Nat
  /-- The number of the column; the first one is one. -/
  column : Nat
  /-- What is said. -/
  message : Text
  deriving DecidableEq, Repr

namespace Report

/-- The **line** that is printed for a report. -/
def text (report : Report) : Text :=
  report.source ++ ':' :: (Text.ofNat report.line ++ ':' :: (Text.ofNat report.column ++
    ':' :: ' ' :: report.message))

/-- Reports as they are **printed**, a line for each. -/
def print (reports : List Report) : Text := Text.unlines (reports.map text)

/-- The offset at which a line of a text **starts**: behind the lines before it. -/
def lineStart (text : Text) (number : Nat) : Nat := Text.extent (text.lines.take (number - 1))

/-- The **length** of a line of a text. -/
def lineLength (text : Text) (number : Nat) : Nat := (text.lines[number - 1]?.getD []).length

/-- The **diagnostic** of a report about a text: its message, from its column, or the nearer end of
the line where the line does not have the column, to the end of the line. -/
def diagnosticIn (text : Text) (report : Report) : Diagnostic where
  start := lineStart text report.line + min (report.column - 1) (lineLength text report.line)
  stop := lineStart text report.line + lineLength text report.line
  message := report.message

/-- A report **fits in** a text: its source has a name without blanks and colons, its message is one
line with no blank at its ends, the text has the line, and neither number has too many digits. -/
structure FitsIn (report : Report) (text : Text) : Prop where
  /-- The source has a name. -/
  source_ne_nil : report.source ≠ []
  /-- Neither a blank nor a colon is in it. -/
  source : ∀ c ∈ report.source, Text.isBlank c = false ∧ c ≠ ':'
  /-- The text has the line. -/
  line : 1 ≤ report.line ∧ report.line ≤ text.lines.length
  /-- The number of the line is not too long. -/
  length_line : (Text.ofNat report.line).length ≤ Numeral.maxDigits
  /-- The number of the column is not too long. -/
  length_column : (Text.ofNat report.column).length ≤ Numeral.maxDigits
  /-- The message has characters, and no blank at its ends. -/
  message : Text.Tight report.message
  /-- The message is one line. -/
  newline_notMem : '\n' ∉ report.message

instance (report : Report) (text : Text) : Decidable (report.FitsIn text) :=
  decidable_of_iff (report.source ≠ [] ∧
      report.source.all (fun c => !Text.isBlank c && c != ':') = true ∧
      (1 ≤ report.line ∧ report.line ≤ text.lines.length) ∧
      (Text.ofNat report.line).length ≤ Numeral.maxDigits ∧
      (Text.ofNat report.column).length ≤ Numeral.maxDigits ∧
      Text.Tight report.message ∧ '\n' ∉ report.message) <| by
    simp only [List.all_eq_true, Bool.and_eq_true, Bool.not_eq_true', bne_iff_ne]
    exact ⟨fun ⟨hne, hsource, hline, hrow, hcolumn, hmessage, hnewline⟩ =>
        ⟨hne, hsource, hline, hrow, hcolumn, hmessage, hnewline⟩,
      fun h => ⟨h.source_ne_nil, h.source, h.line, h.length_line, h.length_column, h.message,
        h.newline_notMem⟩⟩

/-- The **entry** that a report is printed as. -/
def entry (report : Report) : Entry :=
  ⟨Text.ofNat report.line, Text.ofNat report.column, report.message⟩

/-- The **anchor** of a report. -/
def anchor (report : Report) : Anchor := ⟨report.line, some report.column, report.message⟩

variable {report : Report} {reports : List Report} {text : Text}

/-- What is printed for a report has no blank at its **ends**. -/
theorem FitsIn.tight (h : report.FitsIn text) : Text.Tight report.text := by
  have hsource : Text.Tight report.source :=
    .of_forall h.source_ne_nil fun c hc => (h.source c hc).1
  have hprinted : report.text = report.source ++ (':' :: (Text.ofNat report.line ++
      ':' :: (Text.ofNat report.column ++ [':', ' ']))) ++ report.message := by
    simp only [Report.text, List.append_assoc, List.cons_append, List.nil_append]
  rw [hprinted]
  exact hsource.append h.message _

/-- What is printed for a report is **one line**. -/
theorem FitsIn.newline_notMem_text (h : report.FitsIn text) : '\n' ∉ report.text := by
  have hsource : '\n' ∉ report.source := by
    intro hmem
    have hblank := (h.source _ hmem).1
    rw [Text.isBlank_newline] at hblank
    cases hblank
  have hnumber (n : Nat) : '\n' ∉ Text.ofNat n := Text.notMem_ofNat (by decide) n
  have hmessage := h.newline_notMem
  simp [Report.text, hsource, hnumber, hmessage]

/-- The entry of a report is the **first** one of its line. -/
theorem FitsIn.isFirst (h : report.FitsIn text) : report.entry.IsFirst report.text := by
  refine .of_source h.source_ne_nil h.source ?_
  exact ⟨Text.isNumeral_ofNat _, Text.isNumeral_ofNat _, h.message.head, [' '], rfl, rfl⟩

/-- The line of a report is **in the document** of its text. -/
theorem FitsIn.hasLine (h : report.FitsIn text) : (Document.ofText text).HasLine report.line := by
  rw [Document.HasLine, Document.lineCount_ofText, ← Text.length_lines]
  exact h.line

/-- The anchor of the entry of a report is that of the **report**. -/
theorem FitsIn.ofEntry_entry (h : report.FitsIn text) (line : Text) :
    Anchor.ofEntry line report.entry = report.anchor := by
  have hmessage : report.message.isEmpty = false := List.isEmpty_eq_false_iff.2 h.message.ne_nil
  simp only [Anchor.ofEntry, entry, anchor, Text.numeralValue_ofNat, hmessage,
    if_neg Bool.false_ne_true]

/-- What is printed for a report **names** its anchor. -/
theorem FitsIn.ofLine? (h : report.FitsIn text) :
    Anchor.ofLine? (.ofText text) report.text = some report.anchor := by
  rw [Anchor.ofLine?_eq_some_iff, ← h.ofEntry_entry report.text]
  refine .entry h.isFirst ?_
  rw [h.ofEntry_entry]
  exact h.hasLine

/-- The numbers that are printed for a report can be **read**. -/
theorem FitsIn.readable (h : report.FitsIn text) :
    Diagnostic.Readable (.ofText text) report.text := by
  have hfound := Entry.find?_eq_some_iff.2 h.isFirst
  constructor
  case entry =>
    intro other hother
    -- there is only one first entry, and it is that of the report
    rw [← Entry.find?_eq_some_iff, hfound] at hother
    cases hother
    exact ⟨h.length_line, h.length_column⟩
  case mention =>
    intro hnot
    refine absurd ?_ (hnot _ h.isFirst)
    rw [h.ofEntry_entry]
    exact h.hasLine

/-- The **span** of the line of a report. -/
theorem FitsIn.line_eq (h : report.FitsIn text) :
    (Document.ofText text).line report.line =
      .ok ⟨lineStart text report.line,
        (lineStart text report.line + lineLength text report.line : Nat)⟩ := by
  obtain ⟨hpos, hle⟩ := h.line
  have hindex : report.line - 1 < text.lines.length := by omega
  rw [Document.line_ofText_iff]
  refine ⟨text.lines.take (report.line - 1), text.lines[report.line - 1],
    text.lines.drop (report.line - 1 + 1), ?_, ?_, ?_⟩
  · rw [← List.drop_eq_getElem_cons hindex, List.take_append_drop]
  · rw [List.length_take_of_le (Nat.le_of_lt hindex)]
    omega
  · rw [lineStart, lineLength, List.getElem?_eq_getElem hindex, Option.getD_some]

/-- The diagnostic of a report is **where its anchor is**. -/
theorem FitsIn.holds (h : report.FitsIn text) :
    report.anchor.Holds (.ofText text) (diagnosticIn text report) := by
  refine ⟨_, h.line_eq, ?_, rfl, rfl⟩
  simp only [diagnosticIn, anchor, Anchor.startIn, Diagnostic.columnOffset]
  omega

/-- The lines of printed reports are those that are **printed for each**. -/
theorem errorLines_print (h : ∀ report ∈ reports, report.FitsIn text) :
    Diagnostic.errorLines (print reports) = reports.map Report.text := by
  cases reports with
  | nil => rfl
  | cons first more =>
    have hlines : (print (first :: more)).lines = (first :: more).map Report.text := by
      refine Text.lines_unlines (List.cons_ne_nil _ _) ?_
      rw [List.forall_mem_map]
      exact fun report hreport => (h report hreport).newline_notMem_text
    have htrim : ((first :: more).map Report.text).map Text.trim =
        (first :: more).map Report.text := by
      rw [List.map_map]
      exact List.map_congr_left fun report hreport => (h report hreport).tight.trim_eq
    rw [Diagnostic.errorLines, hlines, htrim, List.filter_eq_self, List.forall_mem_map]
    intro report hreport
    rw [List.isEmpty_eq_false_iff.2 (h report hreport).tight.ne_nil]
    rfl

/-- Printed reports have **their own anchors**, and no other. -/
theorem ofLines_map_text (h : ∀ report ∈ reports, report.FitsIn text) :
    Anchor.ofLines (.ofText text) (reports.map Report.text) = reports.map anchor := by
  have hplaced : Anchor.unplaced (.ofText text) (reports.map Report.text) = [] := by
    cases reports with
    | nil => rfl
    | cons first more =>
      rw [List.map_cons, Anchor.unplaced, (h first List.mem_cons_self).ofLine?]
      rfl
  rw [Anchor.ofLines, hplaced, List.nil_append, List.filterMap_map, ← List.filterMap_eq_map]
  exact List.filterMap_congr fun report hreport => (h report hreport).ofLine?

/-- **Printed reports are read back exactly.** Reports that fit in a text, printed a line for each,
have one diagnostic each, in order: with the message of the report, from the column of the report,
which is moved to the nearer end of the line where the line does not have it, to the end of the
line. The line is that of the number of the report, in the document as in the text. -/
theorem ofErrors_print (h : ∀ report ∈ reports, report.FitsIn text) :
    Diagnostic.ofErrors (.ofText text) (print reports) = .ok (reports.map (diagnosticIn text)) ∧
      ∀ report ∈ reports, (Document.ofText text).line report.line =
        .ok ⟨lineStart text report.line,
          (lineStart text report.line + lineLength text report.line : Nat)⟩ := by
  refine ⟨?_, fun report hreport => (h report hreport).line_eq⟩
  rw [Diagnostic.ofErrors_eq_ok_iff, errorLines_print h, ofLines_map_text h, List.forall_mem_map,
    List.forall₂_map_left_iff, List.forall₂_map_right_iff, List.forall₂_same]
  exact ⟨fun report hreport => (h report hreport).readable,
    fun report hreport => (h report hreport).holds⟩

/-- Two reports about a text of three lines: a column **before** the line with a message that looks
like a place, and a column **behind** the line. -/
def trickyReports : List Report :=
  [⟨"<stdin>".toList, 3, 0, "x:1:2: line 1:1".toList⟩, ⟨"7".toList, 1, 90, "line 3:4".toList⟩]

/-- Both are **read back**. -/
theorem ofErrors_trickyReports :
    (∀ report ∈ trickyReports, report.FitsIn "ab\n\ncd".toList) ∧
      print trickyReports = "<stdin>:3:0: x:1:2: line 1:1\n7:1:90: line 3:4".toList ∧
      Diagnostic.ofErrors (.ofText "ab\n\ncd".toList) (print trickyReports) =
        .ok [⟨4, 6, "x:1:2: line 1:1".toList⟩, ⟨2, 2, "line 3:4".toList⟩] := by
  have hfits : ∀ report ∈ trickyReports, report.FitsIn "ab\n\ncd".toList := by decide
  have hread : trickyReports.map (diagnosticIn "ab\n\ncd".toList) =
      [⟨4, 6, "x:1:2: line 1:1".toList⟩, ⟨2, 2, "line 3:4".toList⟩] := by decide
  refine ⟨hfits, by decide, ?_⟩
  rw [← hread]
  exact (ofErrors_print hfits).1

end Report

end DiagramOutline
