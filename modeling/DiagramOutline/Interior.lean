import DiagramOutline.Brace
import DiagramOutline.Text.Blank

/-! # Interiors of bodies

The text between the braces of a body is read as a text of its own. It knows the line on which it
starts, so that what is found in it can be placed in the text around it.

* **`Interior`** — the text of a body and the line on which it starts.
* **`Interior.ofCode? line code`** — the interior of the first body of `code`, which starts on
  `line`.
* **`Interior.trimmed? interior`** — an interior without the blank lines it starts with; nothing
  where all its lines are blank. -/

namespace DiagramOutline

/-- The **interior** of a body. -/
structure Interior where
  /-- The number of the line on which the interior starts. -/
  line : Int
  /-- The text between the braces. -/
  text : Text
  deriving DecidableEq, Repr

namespace Interior

/-- The interior of the **first body** of a text that starts on a line. -/
def ofCode? (line : Int) (code : Text) : Option Interior :=
  (Braces.span? code).map fun (opening, closing) =>
    ⟨line + (code.take opening).count '\n', (code.take closing).drop (opening + 1)⟩

/-- An interior **without the blank lines** that it starts with, if any other line is there. -/
def trimmed? (interior : Interior) : Option Interior :=
  match interior.text.lines.dropWhile Text.isAllBlank with
  | [] => none
  | line :: more =>
    some ⟨interior.line + (interior.text.lines.length - (line :: more).length : Nat),
      Text.unlines (line :: more)⟩

/-- The interior of a body is shorter than the text with the body. -/
theorem length_text_lt_of_ofCode? {line : Int} {code : Text} {interior : Interior}
    (h : ofCode? line code = some interior) : interior.text.length < code.length := by
  obtain ⟨⟨opening, closing⟩, hspan, rfl⟩ := Option.map_eq_some_iff.1 h
  have hpos : 0 < code.length := by
    cases code with
    | nil => simp [Braces.span?, Braces.ofText, Braces.ofLines] at hspan
    | cons c rest => simp
  simp only [List.length_drop, List.length_take]
  omega

/-- Joined lines get no longer when lines at the start are dropped. -/
theorem length_unlines_dropWhile_le (p : Text → Bool) (lines : List Text) :
    (Text.unlines (lines.dropWhile p)).length ≤ (Text.unlines lines).length := by
  induction lines with
  | nil => simp
  | cons line more ih =>
    by_cases h : p line = true
    · rw [List.dropWhile_cons_of_pos h]
      refine Nat.le_trans ih ?_
      cases more with
      | nil => simp [Text.unlines]
      | cons next more =>
        simp only [Text.unlines_cons_cons, List.length_append, List.length_cons]
        omega
    · exact Nat.le_of_eq (congrArg (fun kept => (Text.unlines kept).length)
        (List.dropWhile_cons_of_neg h))

/-- An interior gets no longer when the blank lines at its start are dropped. -/
theorem length_text_le_of_trimmed? {interior inner : Interior}
    (h : interior.trimmed? = some inner) : inner.text.length ≤ interior.text.length := by
  unfold trimmed? at h
  split at h
  · cases h
  · next line more hlines =>
    cases h
    have := length_unlines_dropWhile_le Text.isAllBlank interior.text.lines
    rwa [hlines, Text.unlines_lines] at this

end Interior

end DiagramOutline
