import DiagramOutline.CommandLine
import DiagramOutline.Proofs.Anchors
import DiagramOutline.Proofs.Nesting

/-! # Diagnostics on the lines of a text

The spans of the lines of a text tile it, so a diagnostic that is where its anchor is stands on the
line that the anchor names, and on no other.

* **`Document.Tiles document text`** — the lines of a document are those of a text, one behind the
  other.
* **`Document.tiles_ofText`** — the document of a text tiles it.
* **`Diagnostic.StandsOn diagnostic text number`** — a diagnostic is about the end of one line.
* **`Diagnostic.standsOn_of_ofErrors`** — each diagnostic of error text stands on the line that the
  error text names, and is printed with its number. -/

namespace DiagramOutline

/-! ## Where lines stand in a text -/

namespace Text

/-- A line stands in its text **behind the lines before it**, a newline after each. -/
theorem exists_unlines_eq {first : List Text} (h : ∀ line ∈ first, '\n' ∉ line) (line : Text)
    (more : List Text) :
    ∃ before behind, unlines (first ++ line :: more) = before ++ line ++ behind ∧
      before.length = extent first ∧ before.count '\n' = first.length := by
  induction first with
  | nil =>
    cases more with
    | nil => exact ⟨[], [], (List.append_nil line).symm, rfl, rfl⟩
    | cons next more => exact ⟨[], '\n' :: unlines (next :: more), rfl, rfl, rfl⟩
  | cons head first ih =>
    rw [List.forall_mem_cons] at h
    obtain ⟨before, behind, htext, hlength, hcount⟩ := ih h.2
    refine ⟨head ++ '\n' :: before, behind, ?_, ?_, ?_⟩
    · have hne : first ++ line :: more ≠ [] :=
        List.append_ne_nil_of_right_ne_nil _ (List.cons_ne_nil _ _)
      rw [List.cons_append, unlines_cons hne, htext]
      simp only [List.append_assoc, List.cons_append]
    · rw [List.length_append, List.length_cons, hlength, extent_cons]
      omega
    · rw [List.count_append, List.count_cons_self, hcount, List.count_eq_zero_of_not_mem h.1,
        List.length_cons, Nat.zero_add]

end Text

namespace Document

/-- The span of a line starts **behind the lines before it**. -/
theorem getElem?_spansFrom (offset : Nat) (lines : List Text) (index : Nat) :
    (spansFrom offset lines)[index]? = lines[index]?.map fun line =>
      ⟨(offset + Text.extent (lines.take index) : Nat),
        (offset + Text.extent (lines.take index) + line.length : Nat)⟩ := by
  induction lines generalizing offset index with
  | nil => rfl
  | cons line more ih =>
    cases index with
    | zero => rfl
    | succ index =>
      rw [spansFrom, List.getElem?_cons_succ, ih, List.getElem?_cons_succ, List.take_succ_cons,
        Text.extent_cons]
      congr 1
      funext other
      congr 1 <;> omega

/-- The span of a line of a text, by **the lines before it**. -/
theorem line_ofText_iff {text : Text} {number : Int} {span : LineSpan} :
    (ofText text).line number = .ok span ↔
      ∃ first line more, text.lines = first ++ line :: more ∧ number = (first.length + 1 : Nat) ∧
        span = ⟨Text.extent first, (Text.extent first + line.length : Nat)⟩ := by
  rw [line_eq_ok_iff, line?, ofText]
  constructor
  · intro h
    split at h
    · next hnumber =>
      rw [getElem?_spansFrom, Option.map_eq_some_iff] at h
      obtain ⟨line, hline, rfl⟩ := h
      obtain ⟨hindex, rfl⟩ := List.getElem?_eq_some_iff.1 hline
      refine ⟨text.lines.take (number - 1).toNat, text.lines[(number - 1).toNat],
        text.lines.drop ((number - 1).toNat + 1), ?_, ?_, ?_⟩
      · rw [← List.drop_eq_getElem_cons hindex, List.take_append_drop]
      · rw [List.length_take_of_le (Nat.le_of_lt hindex)]
        omega
      · rw [Nat.zero_add]
    · cases h
  · rintro ⟨first, line, more, hlines, rfl, rfl⟩
    have hindex : (((first.length + 1 : Nat) : Int) - 1).toNat = first.length := by omega
    rw [if_pos (by omega), hindex, getElem?_spansFrom, hlines, List.getElem?_append_right le_rfl,
      List.take_left, Nat.sub_self, List.getElem?_cons_zero, Option.map_some, Nat.zero_add]

/-- The lines of a document **tile** a text: they are its lines, the first starts where the text
does, each other one behind the newline that ends the one before it, and the last stops with the
text. -/
structure Tiles (document : Document) (text : Text) : Prop where
  /-- There is one more line than newlines. -/
  lineCount_eq : document.lineCount = text.count '\n' + 1
  /-- The lines are those of the numbers from one on. -/
  hasLine : ∀ number : Int, (∃ span, document.line number = .ok span) ↔
    1 ≤ number ∧ number ≤ document.lineCount
  /-- What stands in the span of a line is that line of the text. -/
  slice_eq : ∀ (number : Nat) (span : LineSpan), document.line number = .ok span →
    text.lines[number - 1]? = some (slice text span.start span.stop)
  /-- The first line starts with the text. -/
  start_first : ∀ span, document.line 1 = .ok span → span.start = 0
  /-- Each other line starts behind the newline after the one before it. -/
  start_next : ∀ (number : Int) (span next : LineSpan), document.line number = .ok span →
    document.line (number + 1) = .ok next → next.start = span.stop + 1
  /-- The last line stops with the text. -/
  stop_last : ∀ span, document.line document.lineCount = .ok span → span.stop = text.length

/-- A line of a text stands **in its span**, behind one newline for each line before it. -/
theorem exists_eq_append_of_line {text : Text} {number : Nat} {span : LineSpan}
    (h : (ofText text).line number = .ok span) :
    ∃ before line behind, text = before ++ line ++ behind ∧
      text.lines[number - 1]? = some line ∧ '\n' ∉ line ∧ before.count '\n' + 1 = number ∧
        span = ⟨before.length, (before ++ line).length⟩ := by
  obtain ⟨first, line, more, hlines, hnumber, rfl⟩ := line_ofText_iff.1 h
  obtain rfl : number = first.length + 1 := by omega
  have hmem (other : Text) (hother : other ∈ first ++ line :: more) : '\n' ∉ other :=
    Text.newline_notMem_of_mem_lines (hlines ▸ hother)
  obtain ⟨before, behind, htext, hlength, hcount⟩ := Text.exists_unlines_eq
    (fun other hother => hmem other (List.mem_append_left _ hother)) line more
  refine ⟨before, line, behind, ?_, ?_, ?_, ?_, ?_⟩
  · rw [← htext, ← hlines, Text.unlines_lines]
  · rw [hlines, Nat.add_sub_cancel, List.getElem?_append_right le_rfl, Nat.sub_self,
      List.getElem?_cons_zero]
  · exact hmem line (List.mem_append_right _ List.mem_cons_self)
  · rw [hcount]
  · rw [List.length_append, hlength]

/-- **The document of a text tiles it.** -/
theorem tiles_ofText (text : Text) : (ofText text).Tiles text where
  lineCount_eq := lineCount_ofText text
  hasLine number := by
    simp only [line_eq_ok_iff]
    rw [← isSome_line?_iff, Option.isSome_iff_exists]
  slice_eq number span h := by
    obtain ⟨before, line, behind, htext, hline, -, -, rfl⟩ := exists_eq_append_of_line h
    rw [hline, htext, slice_append_append]
  start_first span h := by
    obtain ⟨first, line, more, hlines, hnumber, rfl⟩ := line_ofText_iff.1 h
    obtain rfl : first = [] := List.eq_nil_of_length_eq_zero (by omega)
    rfl
  start_next number span next h hnext := by
    obtain ⟨first, line, more, hlines, rfl, rfl⟩ := line_ofText_iff.1 h
    obtain ⟨longer, following, rest, hlines', hnumber, rfl⟩ := line_ofText_iff.1 hnext
    have hlonger : (first ++ [line]).length = longer.length := by
      rw [List.length_append, List.length_singleton]
      omega
    have hparted : (first ++ [line]) ++ more = longer ++ following :: rest := by
      rw [← hlines', hlines, List.append_assoc, List.singleton_append]
    obtain ⟨rfl, -⟩ := List.append_inj hparted hlonger
    rw [Text.extent_append, Text.extent_cons, Text.extent_nil]
    dsimp only
    omega
  stop_last span h := by
    obtain ⟨first, line, more, hlines, hnumber, rfl⟩ := line_ofText_iff.1 h
    have hcount : text.lines.length = first.length + 1 := by
      rw [Text.length_lines, ← lineCount_ofText]
      omega
    obtain rfl : more = [] := by
      rw [hlines, List.length_append, List.length_cons] at hcount
      exact List.eq_nil_of_length_eq_zero (by omega)
    have hlength := congrArg List.length (congrArg Text.unlines hlines)
    rw [Text.unlines_lines, Text.length_unlines_concat] at hlength
    rw [hlength]

end Document

/-! ## Diagnostics on lines -/

/-- An anchor starts **on its line**: a column outside of the line is moved to it. -/
theorem Anchor.startIn_mem (anchor : Anchor) (span : LineSpan) (h : span.start ≤ span.stop) :
    span.start ≤ anchor.startIn span ∧ anchor.startIn span ≤ span.stop := by
  unfold startIn Diagnostic.columnOffset
  split <;> omega

namespace Diagnostic

/-- A diagnostic **stands on** a line of a text: it is about an end of that line alone. -/
structure StandsOn (diagnostic : Diagnostic) (text : Text) (number : Nat) : Prop where
  /-- It stops with the line, and does not start before it. -/
  span : ∃ span, (Document.ofText text).line number = .ok span ∧ span.start ≤ diagnostic.start ∧
    (diagnostic.stop : Int) = span.stop
  /-- It does not stop before it starts. -/
  start_le_stop : diagnostic.start ≤ diagnostic.stop
  /-- It stops in the text. -/
  stop_le_length : diagnostic.stop ≤ text.length
  /-- The newlines before it are those that end the lines before. -/
  number_eq : (text.take diagnostic.start).count '\n' + 1 = number

/-- A diagnostic that is where its anchor is **stands on** the line of the anchor. -/
theorem standsOn_of_holds {text : Text} {anchor : Anchor} {diagnostic : Diagnostic}
    (h : anchor.Holds (.ofText text) diagnostic) : diagnostic.StandsOn text anchor.line := by
  obtain ⟨span, hspan, hstart, hstop, -⟩ := h
  obtain ⟨before, line, behind, htext, -, hline, hnumber, rfl⟩ :=
    Document.exists_eq_append_of_line hspan
  have hle : before.length ≤ (before ++ line).length :=
    (List.sublist_append_left before line).length_le
  have hwhole : (before ++ line).length ≤ text.length := by
    rw [htext]
    exact (List.sublist_append_left _ behind).length_le
  have hmem := anchor.startIn_mem ⟨before.length, (before ++ line).length⟩ (Int.ofNat_le.2 hle)
  rw [← hstart] at hmem
  have hlow : before.length ≤ diagnostic.start := Int.ofNat_le.1 hmem.1
  have hhigh : diagnostic.start ≤ (before ++ line).length := Int.ofNat_le.1 hmem.2
  have hstop : diagnostic.stop = (before ++ line).length := Int.ofNat_inj.1 hstop
  refine ⟨⟨_, hspan, hmem.1, congrArg Int.ofNat hstop⟩, hstop ▸ hhigh, hstop ▸ hwhole, ?_⟩
  have hpart : '\n' ∉ line.take (diagnostic.start - before.length) := fun hnewline =>
    hline (List.mem_of_mem_take hnewline)
  rw [htext, List.take_append_of_le_length hhigh, List.take_append,
    List.take_of_length_le hlow, List.count_append, List.count_eq_zero_of_not_mem hpart,
    Nat.add_zero, hnumber]

/-- **Diagnostics stand on the lines that error text names.** The spans of the lines of a text tile
it, and each diagnostic is on the line of its anchor, with whose number it is printed. An anchor is
what a line of the error text names, or the first of those lines, if that one names none. -/
theorem standsOn_of_ofErrors (text : Text) :
    (Document.ofText text).Tiles text ∧
    ∀ errors diagnostics, ofErrors (.ofText text) errors = .ok diagnostics →
      List.Forall₂
        (fun anchor diagnostic => diagnostic.StandsOn text anchor.line ∧
          ∀ path, CommandLine.diagnosticLines path text diagnostic =
            Console.displayLines
              (Diagnostic.severity ++ ' ' :: path.lastName ++ ':' :: Text.ofNat anchor.line ++
                " (".toList ++ Text.ofNat diagnostic.start ++ '-' :: Text.ofNat diagnostic.stop ++
                ") ".toList ++ diagnostic.message))
        (Anchor.ofLines (.ofText text) (errorLines errors)) diagnostics ∧
      ∀ anchor ∈ Anchor.ofLines (.ofText text) (errorLines errors),
        (∃ line ∈ errorLines errors, Anchor.Names (.ofText text) line anchor) ∨
          ∃ line ∈ (errorLines errors).head?, anchor = Anchor.ofUnplaced line ∧
            ∀ other, ¬ Anchor.Names (.ofText text) line other := by
  refine ⟨Document.tiles_ofText text, fun errors diagnostics h => ⟨?_, fun anchor =>
    Anchor.of_mem_ofLines⟩⟩
  refine (ofErrors_eq_ok_iff.1 h).2.imp fun anchor diagnostic hholds => ?_
  have hstands := standsOn_of_holds hholds
  refine ⟨hstands, fun path => ?_⟩
  rw [CommandLine.diagnosticLines, hstands.number_eq]

/-- A text with an empty line between two others and **another one at its end**. -/
def fourLineText : Text := "a b\n\ncd\n".toList

/-- Error text that names no line at first, then a column **before** a line and one **behind** a
line, and then the last line. -/
def fourLineErrors : Text := "far\n<stdin>:1:0: early\n<stdin>:3:9: late\nline 4:1 end".toList

/-- All four diagnostics **stand on** the lines that are named, the first one on the first line. -/
theorem standsOn_fourLines :
    ofErrors (.ofText fourLineText) fourLineErrors =
        .ok [⟨0, 3, "far".toList⟩, ⟨0, 3, "early".toList⟩, ⟨7, 7, "late".toList⟩,
          ⟨8, 8, "line 4:1 end".toList⟩] ∧
      List.Forall₂ (fun number (diagnostic : Diagnostic) => diagnostic.StandsOn fourLineText number)
        [1, 1, 3, 4]
        [⟨0, 3, "far".toList⟩, ⟨0, 3, "early".toList⟩, ⟨7, 7, "late".toList⟩,
          ⟨8, 8, "line 4:1 end".toList⟩] := by
  have h : ofErrors (.ofText fourLineText) fourLineErrors =
      .ok [⟨0, 3, "far".toList⟩, ⟨0, 3, "early".toList⟩, ⟨7, 7, "late".toList⟩,
        ⟨8, 8, "line 4:1 end".toList⟩] := by
    decide +kernel
  have hlines :
      (Anchor.ofLines (.ofText fourLineText) (errorLines fourLineErrors)).map Anchor.line =
        [1, 1, 3, 4] := by
    decide +kernel
  obtain ⟨hstands, -⟩ := (standsOn_of_ofErrors fourLineText).2 _ _ h
  rw [← hlines, List.forall₂_map_left_iff]
  exact ⟨h, hstands.imp fun _ _ hdiagnostic => hdiagnostic.1⟩

end Diagnostic

end DiagramOutline
