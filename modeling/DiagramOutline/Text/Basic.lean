/-! # Texts and their lines

A text is a list of characters, and every offset into a text counts characters. This file gives the
two views that the rest of the library uses.

* **`Text`** — a list of characters.
* **`Text.lines text`** — the pieces between the newlines of a text; there is always one more piece
  than there are newlines.
* **`Text.unlines lines`** — the text with the given lines; it undoes `Text.lines`
  (`unlines_lines`), and `Text.lines` undoes it on lines that hold no newline (`lines_unlines`).
* **`Text.dropEndWhile p text`** — a text without the longest end whose characters all satisfy
  `p`.
* **`Text.occursIn part text`** — `part` stands somewhere in `text` (`occursIn_iff`). -/

namespace DiagramOutline

/-- A **text**: its characters in order. -/
abbrev Text : Type := List Char

namespace Text

/-! ## Lines -/

/-- The **lines** of a text: the pieces between its newlines, in order. The empty text has one line,
the empty one. -/
def lines : Text → List Text
  | [] => [[]]
  | c :: rest =>
    if c = '\n' then [] :: lines rest
    else
      match lines rest with
      | [] => [[c]]
      | line :: more => (c :: line) :: more

/-- The text with the given **lines**: a newline stands between each two neighbours. -/
def unlines : List Text → Text
  | [] => []
  | [line] => line
  | line :: next :: more => line ++ '\n' :: unlines (next :: more)

/-- The empty text has one empty line. -/
@[simp] theorem lines_nil : lines [] = [[]] := rfl

/-- A newline ends the line before it. -/
@[simp] theorem lines_newline (rest : Text) : lines ('\n' :: rest) = [] :: lines rest := by
  simp [lines]

/-- No text is without lines. -/
theorem lines_ne_nil (text : Text) : lines text ≠ [] := by
  cases text with
  | nil => simp
  | cons c rest =>
    unfold lines
    split
    · simp
    · split <;> simp

/-- A character other than the newline joins the first line of what follows it. -/
theorem lines_cons_of_ne {c : Char} (h : c ≠ '\n') (rest : Text) :
    ∃ line more, lines rest = line :: more ∧ lines (c :: rest) = (c :: line) :: more := by
  cases hr : lines rest with
  | nil => exact absurd hr (lines_ne_nil rest)
  | cons line more => exact ⟨line, more, rfl, by simp [lines, h, hr]⟩

/-- Two lines or more: the first, a newline, and the text of the others. -/
@[simp] theorem unlines_cons_cons (line next : Text) (more : List Text) :
    unlines (line :: next :: more) = line ++ '\n' :: unlines (next :: more) := rfl

/-- One line is its own text. -/
@[simp] theorem unlines_singleton (line : Text) : unlines [line] = line := rfl

/-- A character in front of the first line is a character in front of the text. -/
theorem unlines_cons_line (c : Char) (line : Text) (more : List Text) :
    unlines ((c :: line) :: more) = c :: unlines (line :: more) := by
  cases more <;> simp

/-- The lines of a text, **joined**, are the text again. -/
@[simp] theorem unlines_lines (text : Text) : unlines (lines text) = text := by
  induction text with
  | nil => rfl
  | cons c rest ih =>
    by_cases h : c = '\n'
    · subst h
      rw [lines_newline]
      cases hr : lines rest with
      | nil => exact absurd hr (lines_ne_nil rest)
      | cons line more => rw [hr] at ih; simp [ih]
    · obtain ⟨line, more, hrest, hcons⟩ := lines_cons_of_ne h rest
      rw [hcons, unlines_cons_line, ← hrest, ih]

/-- A text has one more line than it has newlines. -/
theorem length_lines (text : Text) : (lines text).length = text.count '\n' + 1 := by
  induction text with
  | nil => rfl
  | cons c rest ih =>
    by_cases h : c = '\n'
    · subst h; simp [ih]
    · obtain ⟨line, more, hrest, hcons⟩ := lines_cons_of_ne h rest
      rw [hcons, List.count_cons_of_ne h, ← ih, hrest]
      rfl

/-- No line holds a newline. -/
theorem newline_notMem_of_mem_lines {text line : Text} (h : line ∈ lines text) : '\n' ∉ line := by
  induction text generalizing line with
  | nil => simp_all
  | cons c rest ih =>
    by_cases hc : c = '\n'
    · subst hc
      rw [lines_newline, List.mem_cons] at h
      cases h with
      | inl h => simp [h]
      | inr h => exact ih h
    · obtain ⟨first, more, hrest, hcons⟩ := lines_cons_of_ne hc rest
      rw [hcons, List.mem_cons] at h
      cases h with
      | inl h =>
        have hfirst : '\n' ∉ first := ih (by simp [hrest])
        simp [h, hfirst, Ne.symm hc]
      | inr h => exact ih (by simp [hrest, h])

/-- A text without newlines is its own only line. -/
theorem lines_of_newline_notMem {text : Text} (h : '\n' ∉ text) : lines text = [text] := by
  induction text with
  | nil => rfl
  | cons c rest ih =>
    rw [List.mem_cons, not_or] at h
    simp [lines, Ne.symm h.1, ih h.2]

/-- The lines of a line, a newline and a text are the line and the lines of the text. -/
theorem lines_append_newline {line : Text} (h : '\n' ∉ line) (rest : Text) :
    lines (line ++ '\n' :: rest) = line :: lines rest := by
  induction line with
  | nil => simp
  | cons c line ih =>
    rw [List.mem_cons, not_or] at h
    simp [lines, Ne.symm h.1, ih h.2]

/-- The lines of joined lines are **those lines** again, when none of them holds a newline. -/
theorem lines_unlines {all : List Text} (hne : all ≠ []) (h : ∀ line ∈ all, '\n' ∉ line) :
    lines (unlines all) = all := by
  induction all with
  | nil => exact absurd rfl hne
  | cons line more ih =>
    cases more with
    | nil => exact lines_of_newline_notMem (h line (by simp))
    | cons next more =>
      rw [unlines_cons_cons, lines_append_newline (h line (by simp)),
        ih (by simp) (fun other hother => h other (List.mem_cons_of_mem _ hother))]

/-! ## Ends of a text -/

/-- A text without the longest **end** whose characters all satisfy `p`. -/
def dropEndWhile (p : Char → Bool) : Text → Text
  | [] => []
  | c :: rest =>
    match dropEndWhile p rest with
    | [] => if p c then [] else [c]
    | kept => c :: kept

/-- The empty text has nothing to drop. -/
@[simp] theorem dropEndWhile_nil (p : Char → Bool) : dropEndWhile p [] = [] := rfl

/-- What is dropped is an end of the text, and all its characters satisfy `p`. -/
theorem exists_eq_dropEndWhile_append (p : Char → Bool) (text : Text) :
    ∃ dropped : Text, text = dropEndWhile p text ++ dropped ∧ ∀ c ∈ dropped, p c = true := by
  induction text with
  | nil => exact ⟨[], by simp⟩
  | cons c rest ih =>
    obtain ⟨dropped, heq, hall⟩ := ih
    unfold dropEndWhile
    split
    · next hnil =>
      rw [hnil, List.nil_append] at heq
      split
      · next hc => exact ⟨c :: dropped, by simp [heq], by simp_all⟩
      · exact ⟨dropped, by simp [heq], hall⟩
    · exact ⟨dropped, by rw [List.cons_append, ← heq], hall⟩

/-! ## Parts of a text -/

/-- Whether a text is **contained** in another one, as a run of neighbouring characters. -/
def occursIn (part : Text) : Text → Bool
  | [] => part.isEmpty
  | c :: rest => part.isPrefixOf (c :: rest) || occursIn part rest

/-- A text occurs in another one exactly when the other one is **made around** it. -/
theorem occursIn_iff {part text : Text} :
    occursIn part text = true ↔ ∃ before after, text = before ++ part ++ after := by
  induction text with
  | nil =>
    simp only [occursIn, List.isEmpty_iff]
    constructor
    · rintro rfl
      exact ⟨[], [], rfl⟩
    · rintro ⟨before, after, h⟩
      simp_all
  | cons c rest ih =>
    simp only [occursIn, Bool.or_eq_true, List.isPrefixOf_iff_prefix, ih]
    constructor
    · rintro (⟨after, h⟩ | ⟨before, after, h⟩)
      · exact ⟨[], after, by simp [h]⟩
      · exact ⟨c :: before, after, by simp [h]⟩
    · rintro ⟨before, after, h⟩
      cases before with
      | nil => exact Or.inl ⟨after, by simpa using h.symm⟩
      | cons d before =>
        rw [List.cons_append, List.cons_append, List.cons.injEq] at h
        exact Or.inr ⟨before, after, h.2⟩

end Text

end DiagramOutline
