import DiagramOutline.Proofs.Braces

/-! # String literals

A string literal is a quote, the pieces that it holds, and the same quote again. A piece is one
character, or a backslash with the character that it takes. The scan for braces comes out of a
literal where it went in and finds nothing there. So a line may be split wherever the scan stands
outside literals, and the braces around a literal do not depend on what it says.

* **`Literal`** — a string literal, by its quote and its pieces.
* **`LiteralPiece.scan_flatMap`**, **`LiteralPiece.after_flatMap`** — pieces keep a scan inside.
* **`Literal.quiet`** — a literal nests nothing, and it is closed where it ends.
* **`Braces.ofLine_append_of_after`** — the braces of a line that is split outside its literals.
* **`PlacedBrace.replaced`** — a brace of a line in which one stretch is replaced by another.
* **`Braces.ofLine_around_literals`** — the braces around a literal, and around any other in its
  place. -/

namespace DiagramOutline

namespace Quoting

/-- Inside a literal a **backslash** escapes. -/
theorem next_inside_backslash (quote : Char) : next (inside quote) backslash = escaped quote := by
  rw [next, if_pos rfl]

section IsQuote

variable {quote : Char} (h : isQuote quote = true)

include h

/-- A quote is one of **two characters**. -/
theorem eq_of_isQuote : quote = double ∨ quote = single := by
  rwa [isQuote, Bool.or_eq_true, beq_iff_eq, beq_iff_eq] at h

/-- A quote is **no backslash**. -/
theorem ne_backslash_of_isQuote : quote ≠ backslash := by
  rcases eq_of_isQuote h with rfl | rfl <;> decide

/-- A quote is **no brace**. -/
theorem brace?_of_isQuote : brace? outside quote = none := by
  rcases eq_of_isQuote h with rfl | rfl <;> decide

/-- A quote **opens** a literal. -/
theorem next_outside_of_isQuote : next outside quote = inside quote := if_pos h

/-- The quote that opened a literal **closes** it. -/
theorem next_inside_self : next (inside quote) quote = outside := by
  rw [next, if_neg (ne_backslash_of_isQuote h), if_pos rfl]

end IsQuote

end Quoting

/-- One **piece** of what stands between two quotes. -/
inductive LiteralPiece (quote : Char) where
  /-- A character that neither closes the literal nor escapes the next one. -/
  | plain (c : Char) (ne_quote : c ≠ quote) (ne_backslash : c ≠ Quoting.backslash)
  /-- A backslash and the character that it takes, whichever that is. -/
  | escape (c : Char)

/-- A **string literal**. -/
structure Literal where
  /-- The quote that opens and closes it. -/
  quote : Char
  /-- It is a quote. -/
  isQuote_quote : Quoting.isQuote quote = true
  /-- What stands between the quotes. -/
  pieces : List (LiteralPiece quote)

namespace LiteralPiece

variable {quote : Char}

/-- The **text** of a piece. -/
def text : LiteralPiece quote → Text
  | plain c _ _ => [c]
  | escape c => [Quoting.backslash, c]

/-- A piece of a literal has **no brace**. -/
theorem scan_text (piece : LiteralPiece quote) (offset : Nat) :
    Braces.scan (.inside quote) offset piece.text = [] := by
  cases piece with
  | plain c _ _ => rfl
  | escape c =>
    rw [text, Braces.scan_cons, Quoting.next_inside_backslash]
    rfl

/-- A piece of a literal **does not leave** it. -/
theorem after_text (piece : LiteralPiece quote) :
    Quoting.after (.inside quote) piece.text = .inside quote := by
  cases piece with
  | plain c ne_quote ne_backslash => exact (if_neg ne_backslash).trans (if_neg ne_quote)
  | escape c =>
    rw [text, Quoting.after_cons, Quoting.next_inside_backslash]
    rfl

/-- No pieces of a literal **leave** it. -/
theorem after_flatMap (pieces : List (LiteralPiece quote)) :
    Quoting.after (.inside quote) (pieces.flatMap text) = .inside quote := by
  induction pieces with
  | nil => rfl
  | cons piece more ih => rw [List.flatMap_cons, Quoting.after_append, piece.after_text, ih]

/-- Pieces of a literal have **no braces**. -/
theorem scan_flatMap (pieces : List (LiteralPiece quote)) (offset : Nat) :
    Braces.scan (.inside quote) offset (pieces.flatMap text) = [] := by
  induction pieces generalizing offset with
  | nil => rfl
  | cons piece more ih =>
    rw [List.flatMap_cons, Braces.scan_append, piece.scan_text, piece.after_text, ih]
    rfl

end LiteralPiece

namespace Literal

/-- The **text** of a literal, its quotes included. -/
def text (literal : Literal) : Text :=
  literal.quote :: (literal.pieces.flatMap LiteralPiece.text ++ [literal.quote])

/-- A literal **nests nothing**, and it is closed where it ends. -/
theorem quiet (literal : Literal) : Braces.Quiet literal.text := by
  have hopen := Quoting.next_outside_of_isQuote literal.isQuote_quote
  have hclose := Quoting.next_inside_self literal.isQuote_quote
  have hbrace := Quoting.brace?_of_isQuote literal.isQuote_quote
  constructor
  case scan =>
    intro offset
    rw [text, Braces.scan_cons, hbrace, hopen, Braces.scan_append, LiteralPiece.scan_flatMap,
      LiteralPiece.after_flatMap, Braces.scan_cons, hclose]
    rfl
  case after =>
    rw [text, Quoting.after_cons, hopen, Quoting.after_append, LiteralPiece.after_flatMap,
      Quoting.after_cons, hclose, Quoting.after_nil]

/-- Text without the quote and without backslashes makes a literal **between two quotes**. -/
theorem exists_text_eq {quote : Char} {text : Text} (hquote : Quoting.isQuote quote = true)
    (h : ∀ c ∈ text, c ≠ quote ∧ c ≠ Quoting.backslash) :
    ∃ literal : Literal, literal.text = quote :: text ++ [quote] := by
  have hpieces : ∃ pieces : List (LiteralPiece quote),
      pieces.flatMap LiteralPiece.text = text := by
    induction text with
    | nil => exact ⟨[], rfl⟩
    | cons c rest ih =>
      obtain ⟨⟨hne, hbackslash⟩, hrest⟩ := List.forall_mem_cons.1 h
      obtain ⟨pieces, rfl⟩ := ih hrest
      exact ⟨.plain c hne hbackslash :: pieces, rfl⟩
  obtain ⟨pieces, rfl⟩ := hpieces
  exact ⟨⟨quote, hquote, pieces⟩, rfl⟩

end Literal

/-- A brace of a line in which, from the offset `start` on, `old` characters are **replaced** by
`new` other ones. -/
def PlacedBrace.replaced (start old new : Nat) (placed : PlacedBrace) : PlacedBrace :=
  if placed.offset < start then placed else ⟨placed.offset - old + new, placed.brace⟩

/-- A brace **behind** what is replaced moves by the change in length. -/
theorem PlacedBrace.replaced_shift (start old new : Nat) (placed : PlacedBrace) :
    (placed.shift (start + old)).replaced start old new = placed.shift (start + new) := by
  have hoffset : placed.offset + (start + old) - old + new = placed.offset + (start + new) := by
    omega
  have hnot : ¬ placed.offset + (start + old) < start := by omega
  rw [replaced, shift, if_neg hnot, hoffset]
  rfl

namespace Braces

section Split

variable {front : Text} (h : Quoting.after .outside front = .outside)

include h

/-- A line is **split** where the scan stands outside literals: behind the braces of the front part
stand those that the rest has as a line of its own. -/
theorem ofLine_append_of_after (back : Text) :
    ofLine (front ++ back) = ofLine front ++ (ofLine back).map (·.shift front.length) := by
  rw [ofLine, scan_append, h, Nat.zero_add, scan_outside front.length, ← ofLine]

/-- The braces of the two parts **add up**. -/
theorem delta_append_of_after (back : Text) : delta (front ++ back) = delta front + delta back := by
  rw [delta, ofLine_append_of_after h, balance_append, balance_congr (map_brace_shift _ _), delta,
    delta]

/-- The line opens a body if **one of the parts** does. -/
theorem opens_append_of_after (back : Text) :
    opens (front ++ back) = (opens front || opens back) := by
  rw [opens, ofLine_append_of_after h, List.any_append, List.any_map]
  rfl

/-- A literal in a line is **passed over**: the braces behind it are found further on by its
length, and none are found in it. -/
theorem ofLine_append_literal_append (literal : Literal) (back : Text) :
    ofLine (front ++ literal.text ++ back) =
      ofLine front ++ (ofLine back).map (·.shift (front.length + literal.text.length)) := by
  have hafter : Quoting.after .outside (front ++ literal.text) = .outside := by
    rw [Quoting.after_append, h, literal.quiet.after]
  have hnone : ofLine literal.text = [] := literal.quiet.scan 0
  rw [ofLine_append_of_after hafter, ofLine_append_of_after h, hnone, List.map_nil,
    List.append_nil, List.length_append]

/-- **The braces around a literal.** A line that is split outside its literals has the braces of its
two parts, those of the second one moved on by the length of the first one. No brace stands in a
literal that is put between the parts, and with any other literal in its place the braces are the
same, those behind it moved by the change in length. So neither how many bodies the line opens nor
whether it opens one depends on what the literal says. -/
theorem ofLine_around_literals (back : Text) :
    ofLine (front ++ back) = ofLine front ++ (ofLine back).map (·.shift front.length) ∧
    delta (front ++ back) = delta front + delta back ∧
    opens (front ++ back) = (opens front || opens back) ∧
    ∀ literal other : Literal,
      (∀ placed ∈ ofLine (front ++ literal.text ++ back),
        placed.offset < front.length ∨ front.length + literal.text.length ≤ placed.offset) ∧
      (ofLine (front ++ other.text ++ back)).map (·.brace) =
        (ofLine (front ++ literal.text ++ back)).map (·.brace) ∧
      ofLine (front ++ other.text ++ back) = (ofLine (front ++ literal.text ++ back)).map
        (·.replaced front.length literal.text.length other.text.length) ∧
      delta (front ++ other.text ++ back) = delta (front ++ literal.text ++ back) ∧
      opens (front ++ other.text ++ back) = opens (front ++ literal.text ++ back) := by
  refine ⟨ofLine_append_of_after h back, delta_append_of_after h back,
    opens_append_of_after h back, ?_⟩
  intro literal other
  have hliteral := ofLine_append_literal_append h literal back
  have hother := ofLine_append_literal_append h other back
  have hsame : (ofLine (front ++ other.text ++ back)).map (·.brace) =
      (ofLine (front ++ literal.text ++ back)).map (·.brace) := by
    rw [hliteral, hother, List.map_append, List.map_append, map_brace_shift, map_brace_shift]
  refine ⟨?_, hsame, ?_, balance_congr hsame, opens_congr hsame⟩
  · intro placed hmem
    rw [hliteral, List.mem_append, List.mem_map] at hmem
    rcases hmem with hfront | ⟨behind, -, rfl⟩
    · have hlt := offset_lt_of_mem_scan hfront
      exact .inl (by omega)
    · exact .inr (Nat.le_add_left _ _)
  · have hfront : (ofLine front).map
        (·.replaced front.length literal.text.length other.text.length) = ofLine front := by
      refine (List.map_congr_left ?_).trans (List.map_id _)
      intro placed hmem
      have hlt := offset_lt_of_mem_scan hmem
      exact if_pos (by omega)
    rw [hliteral, hother, List.map_append, hfront, List.map_map]
    refine congrArg _ (List.map_congr_left ?_)
    intro placed _
    exact (placed.replaced_shift _ _ _).symm

end Split

/-- A front part whose literal holds an **escaped quote** and a brace, and that closes a body. -/
def escapedFront : Text := "a: \"\\\"\x7b\" \x7d ".toList

/-- What stands behind it: a body that is opened and one that is closed, a quoted brace between them,
and a literal that is never closed. -/
def openBack : Text := " \x7b '\x7b' \x7d \"\x7d".toList

/-- A literal that ends in an **escaped backslash**. -/
def escapingLiteral : Literal :=
  ⟨Quoting.double, by decide, [.escape Quoting.double, .plain '}' (by decide) (by decide),
    .escape Quoting.backslash]⟩

/-- A literal with the other quote, that holds **one brace**. -/
def braceLiteral : Literal := ⟨Quoting.single, by decide, [.plain '{' (by decide) (by decide)]⟩

/-- The **shorter** literal in the place of the longer one moves the two braces behind it back by
four, and nothing else. -/
theorem ofLine_around_braceLiteral :
    Quoting.after .outside escapedFront = .outside ∧
      ofLine (escapedFront ++ escapingLiteral.text ++ openBack) =
        [⟨9, .closing⟩, ⟨19, .opening⟩, ⟨25, .closing⟩] ∧
      ofLine (escapedFront ++ braceLiteral.text ++ openBack) =
        [⟨9, .closing⟩, ⟨15, .opening⟩, ⟨21, .closing⟩] ∧
      delta (escapedFront ++ braceLiteral.text ++ openBack) =
        delta (escapedFront ++ escapingLiteral.text ++ openBack) := by
  have hafter : Quoting.after .outside escapedFront = .outside := by decide
  have hlonger : ofLine (escapedFront ++ escapingLiteral.text ++ openBack) =
      [⟨9, .closing⟩, ⟨19, .opening⟩, ⟨25, .closing⟩] := by decide
  obtain ⟨-, -, -, hliterals⟩ := ofLine_around_literals hafter openBack
  obtain ⟨-, -, hshorter, hdelta, -⟩ := hliterals escapingLiteral braceLiteral
  rw [hlonger] at hshorter
  exact ⟨hafter, hlonger, hshorter.trans (by decide), hdelta⟩

end Braces

end DiagramOutline
