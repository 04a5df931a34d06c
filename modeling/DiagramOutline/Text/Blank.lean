import DiagramOutline.Text.Basic

/-! # Blank characters

Which characters count as white space, and texts without the white space at their ends.

* **`Text.isBlank c`** — `c` is white space: a tab, a line or paragraph break of any kind, one of
  the four separator controls, or a Unicode space separator.
* **`Text.trimStart`**, **`Text.trimEnd`**, **`Text.trim`** — a text without the blanks at its
  start, its end, both.
* **`Text.isAllBlank text`** — nothing but blanks. -/

namespace DiagramOutline.Text

/-- The ranges of **blank** code points, both ends included. -/
def blankRanges : List (Nat × Nat) :=
  [(0x09, 0x0d), (0x1c, 0x20), (0x85, 0x85), (0xa0, 0xa0), (0x1680, 0x1680), (0x2000, 0x200a),
    (0x2028, 0x2029), (0x202f, 0x202f), (0x205f, 0x205f), (0x3000, 0x3000)]

/-- Whether a character is **blank**, that is white space. -/
def isBlank (c : Char) : Bool :=
  blankRanges.any fun range => range.1 ≤ c.toNat && c.toNat ≤ range.2

/-- What is white space in ASCII is blank. -/
theorem isBlank_of_isWhitespace {c : Char} (h : c.isWhitespace = true) : isBlank c = true := by
  simp only [Char.isWhitespace, Bool.or_eq_true, decide_eq_true_eq] at h
  rcases h with ((h | h) | h) | h <;> subst h <;> decide

/-- The newline is blank. -/
@[simp] theorem isBlank_newline : isBlank '\n' = true := by decide

/-- A text without the blanks at its **start**. -/
def trimStart (text : Text) : Text := text.dropWhile isBlank

/-- A text without the blanks at its **end**. -/
def trimEnd (text : Text) : Text := dropEndWhile isBlank text

/-- A text without the blanks at **both** its ends. -/
def trim (text : Text) : Text := trimEnd (trimStart text)

/-- Whether a text holds **nothing but blanks**. -/
def isAllBlank (text : Text) : Bool := text.all isBlank

/-- The empty text is all blank. -/
@[simp] theorem isAllBlank_nil : isAllBlank [] = true := rfl

/-- A text of blanks alone trims to nothing. -/
theorem trim_of_isAllBlank {text : Text} (h : isAllBlank text = true) : trim text = [] := by
  have hstart : trimStart text = [] := by
    induction text with
    | nil => rfl
    | cons c rest ih =>
      simp only [isAllBlank, List.all_cons, Bool.and_eq_true] at h
      rw [trimStart, List.dropWhile_cons_of_pos h.1]
      exact ih h.2
  simp [trim, hstart, trimEnd]

end DiagramOutline.Text
