import DiagramOutline.Declaration
import DiagramOutline.Proofs.Utf8

/-! # Places in a text

A faithful syntax tree says of each node where the text of the node stands: from which byte to which
byte, from which row and column to which. A place holds the three numbers, and it moves on over a
text as the text is written there.

* **`Place`** — byte, row and column; `Place.after place text` is the place behind a text.
* **`Place.Holds place text source`** — `text` stands at `place` in `source`.
* **`SyntaxNode.spanning place text kind isNamed children`** — the node of a text that stands at a
  place.
* **`SyntaxNode.text_spanning`**, **`SyntaxNode.rows_spanning`** — its text is that text, and its
  rows are those that the text spans. -/

namespace DiagramOutline

/-- A **place** in a text, between two characters. -/
structure Place where
  /-- How many bytes stand before the place. -/
  byte : Nat
  /-- How many lines end before the place. -/
  row : Nat
  /-- How many bytes of its own line stand before the place. -/
  column : Nat
  deriving DecidableEq, Repr

namespace Place

/-- The place at the **start** of a text. -/
def start : Place := ⟨0, 0, 0⟩

/-- The place behind **one character**. -/
def next (place : Place) (c : Char) : Place :=
  if c = '\n' then ⟨place.byte + (Utf8.encodeChar c).length, place.row + 1, 0⟩
  else
    ⟨place.byte + (Utf8.encodeChar c).length, place.row,
      place.column + (Utf8.encodeChar c).length⟩

/-- The place **behind a text** that stands at a place. -/
def after (place : Place) (text : Text) : Place := text.foldl next place

/-- The **row and column** of a place. -/
def position (place : Place) : Position := ⟨place.row, place.column⟩

/-- Behind nothing the place is the same. -/
@[simp] theorem after_nil (place : Place) : place.after [] = place := rfl

/-- Behind a character and a text, the place is behind the one and then the other. -/
theorem after_cons (place : Place) (c : Char) (rest : Text) :
    place.after (c :: rest) = (place.next c).after rest := rfl

/-- Behind **two texts**, the place is behind the one and then the other. -/
theorem after_append (place : Place) (first second : Text) :
    place.after (first ++ second) = (place.after first).after second :=
  List.foldl_append

/-- A text moves the **byte** on by its bytes. -/
theorem byte_after (place : Place) (text : Text) :
    (place.after text).byte = place.byte + (Utf8.encode text).length := by
  induction text generalizing place with
  | nil => rfl
  | cons c rest ih =>
    have hnext : (place.next c).byte = place.byte + (Utf8.encodeChar c).length := by
      unfold next
      split <;> rfl
    rw [after_cons, ih, hnext, Utf8.encode_cons, List.length_append, Nat.add_assoc]

/-- A text moves the **row** on by its newlines. -/
theorem row_after (place : Place) (text : Text) :
    (place.after text).row = place.row + text.count '\n' := by
  induction text generalizing place with
  | nil => rfl
  | cons c rest ih =>
    rw [after_cons, ih, next]
    by_cases h : c = '\n'
    · rw [if_pos h, h, List.count_cons_self]
      dsimp only
      omega
    · rw [if_neg h, List.count_cons_of_ne h]

/-- Behind a character other than the newline, the **column** is not the first one. -/
theorem column_after_append_singleton (place : Place) (text : Text) {c : Char} (h : c ≠ '\n') :
    0 < (place.after (text ++ [c])).column := by
  have hpos : 0 < (Utf8.encodeChar c).length := List.length_pos_iff.2 (Utf8.encodeChar_ne_nil c)
  rw [after_append, after_cons, after_nil, next, if_neg h]
  dsimp only
  omega

/-! ## Texts at places -/

/-- A text **stands at a place** of a source: the source begins with what brings the start to that
place, and goes on with the text. -/
def Holds (place : Place) (text source : Text) : Prop :=
  ∃ before behind, source = before ++ text ++ behind ∧ place = start.after before

/-- A source stands at its own **start**. -/
theorem holds_start (source : Text) : start.Holds source source :=
  ⟨[], [], by rw [List.nil_append, List.append_nil], rfl⟩

/-- What stands at a place begins with a text that stands **there**. -/
theorem Holds.left {place : Place} {first second source : Text}
    (h : place.Holds (first ++ second) source) : place.Holds first source := by
  obtain ⟨before, behind, rfl, rfl⟩ := h
  refine ⟨before, second ++ behind, ?_, rfl⟩
  rw [List.append_assoc, List.append_assoc, List.append_assoc]

/-- What follows a text stands **behind** it. -/
theorem Holds.right {place : Place} {first second source : Text}
    (h : place.Holds (first ++ second) source) : (place.after first).Holds second source := by
  obtain ⟨before, behind, rfl, rfl⟩ := h
  refine ⟨before ++ first, behind, ?_, (after_append _ _ _).symm⟩
  rw [← List.append_assoc before]

/-- The **bytes** from a place to behind a text that stands there are those of the text. -/
theorem Holds.slice_encode {place : Place} {text source : Text} (h : place.Holds text source) :
    slice (Utf8.encode source) place.byte (place.after text).byte = Utf8.encode text := by
  obtain ⟨before, behind, rfl, rfl⟩ := h
  -- the place counts the bytes of what stands before it
  have hstart : (start.after before).byte = (Utf8.encode before).length := by
    rw [byte_after]
    exact Nat.zero_add _
  have hstop : ((start.after before).after text).byte =
      (Utf8.encode before ++ Utf8.encode text).length := by
    rw [byte_after, hstart, List.length_append]
  have hbytes : Utf8.encode (before ++ text ++ behind) =
      Utf8.encode before ++ Utf8.encode text ++ Utf8.encode behind := by
    rw [Utf8.encode_append, Utf8.encode_append]
  rw [hstart, hstop, hbytes]
  exact slice_append_append _ _ _

/-- Reading the bytes from a place to behind a text that stands there gives **the text**. -/
theorem Holds.decodeLossy_slice {place : Place} {text source : Text} (h : place.Holds text source) :
    Utf8.decodeLossy (slice (Utf8.encode source) place.byte (place.after text).byte) = text := by
  rw [h.slice_encode, Utf8.decodeLossy_encode]

end Place

namespace SyntaxNode

/-- The node that **spans a text** from a place on. -/
def spanning (place : Place) (text : Text) (kind : String) (isNamed : Bool)
    (children : List SyntaxNode) : SyntaxNode where
  kind := kind
  isNamed := isNamed
  startByte := place.byte
  endByte := (place.after text).byte
  start := place.position
  stop := (place.after text).position
  children := children

variable {place : Place} {text source : Text} {kind : String} {isNamed : Bool}
  {children : List SyntaxNode}

/-- The **text** of a node spanning a text is that text. -/
theorem text_spanning (h : place.Holds text source) :
    (spanning place text kind isNamed children).text (Utf8.encode source) = text :=
  h.decodeLossy_slice

/-- The **rows** of a node spanning a text that does not end in a newline are those that the text
spans. -/
theorem rows_spanning {c : Char} (h : c ≠ '\n') :
    (spanning place (text ++ [c]) kind isNamed children).rows =
      ((place.row : Int), ((place.row + (text ++ [c]).count '\n' : Nat) : Int)) := by
  have hcolumn := place.column_after_append_singleton text h
  rw [rows, if_neg]
  · rw [← Place.row_after]
    rfl
  · rintro ⟨hzero, -⟩
    have hzero : (((place.after (text ++ [c])).column : Nat) : Int) = 0 := hzero
    omega

end SyntaxNode

end DiagramOutline
