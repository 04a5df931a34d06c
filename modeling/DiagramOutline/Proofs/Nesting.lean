import DiagramOutline.Interior
import DiagramOutline.Proofs.Braces
import DiagramOutline.Proofs.Labels
import DiagramOutline.Statement
import Mathlib.Algebra.GroupWithZero.Nat

/-! # Lines with nested bodies

Lines in which every body that is opened is closed again. A reader that counts open bodies passes
over such lines and goes on with the count it came with: the one that looks for the end of a
statement, the one that looks for the brace that closes a body, and the one that looks for a label.

* **`Braces.Nested lines`** — every body that `lines` open is closed in them.
* **`Braces.Nested.splitBody_append`**, **`Braces.Nested.closing?_append`**,
  **`Braces.Nested.ofBodyLines_append`** — the three readers pass over nested lines.
* **`Interior.ofCode?_unlines`** — the interior of a body around nested lines. -/

namespace DiagramOutline

namespace Text

/-- A line in front of others is the line, a newline, and **their text**. -/
theorem unlines_cons {line : Text} {more : List Text} (h : more ≠ []) :
    unlines (line :: more) = line ++ '\n' :: unlines more := by
  obtain ⟨next, more, rfl⟩ := List.exists_cons_of_ne_nil h
  exact unlines_cons_cons line next more

/-- Lines in front of others are their text, a newline, and **the text of the others**. -/
theorem unlines_append {first more : List Text} (hfirst : first ≠ []) (hmore : more ≠ []) :
    unlines (first ++ more) = unlines first ++ '\n' :: unlines more := by
  induction first with
  | nil => exact absurd rfl hfirst
  | cons line first ih =>
    cases first with
    | nil => exact unlines_cons hmore
    | cons next first =>
      rw [List.cons_append, unlines_cons (List.append_ne_nil_of_right_ne_nil _ hmore),
        ih (List.cons_ne_nil _ _), unlines_cons_cons, List.append_assoc, List.cons_append]

/-- A text behind the **last line** is a text behind all lines. -/
theorem unlines_concat_append (lines : List Text) (line after : Text) :
    unlines (lines ++ [line ++ after]) = unlines (lines ++ [line]) ++ after := by
  cases lines with
  | nil => rfl
  | cons first lines =>
    have hne : first :: lines ≠ [] := List.cons_ne_nil _ _
    rw [unlines_append hne (List.cons_ne_nil _ _), unlines_append hne (List.cons_ne_nil _ _),
      List.append_assoc]
    rfl

/-- The text of a **body**: what stands before its brace, and the lines between its braces. -/
theorem unlines_body (before after : Text) (inner : List Text) :
    unlines ((before ++ ['{']) :: (inner ++ [after ++ ['}']])) =
      before ++ '{' :: ('\n' :: unlines (inner ++ [after]) ++ ['}']) := by
  rw [unlines_cons (List.append_ne_nil_of_right_ne_nil _ (List.cons_ne_nil _ _)),
    unlines_concat_append, List.append_assoc]
  rfl

/-- How many characters lines **take up** with the newlines that end them. -/
def extent (lines : List Text) : Nat := (lines.map fun line => line.length + 1).sum

/-- No line takes up nothing. -/
@[simp] theorem extent_nil : extent [] = 0 := rfl

/-- A line takes up one more than its characters. -/
@[simp] theorem extent_cons (line : Text) (more : List Text) :
    extent (line :: more) = line.length + 1 + extent more := by
  rw [extent, List.map_cons, List.sum_cons]
  rfl

/-- Lines in a row take up what **each part** does. -/
@[simp] theorem extent_append (first more : List Text) :
    extent (first ++ more) = extent first + extent more := by
  rw [extent, List.map_append, List.sum_append]
  rfl

/-- The text of lines of which the last one is not ended is as long as the lines and **that
one**. -/
theorem length_unlines_concat (lines : List Text) (line : Text) :
    (unlines (lines ++ [line])).length = extent lines + line.length := by
  induction lines with
  | nil =>
    rw [List.nil_append, unlines_singleton, extent_nil, Nat.zero_add]
  | cons first lines ih =>
    have hne : lines ++ [line] ≠ [] := List.append_ne_nil_of_right_ne_nil _ (List.cons_ne_nil _ _)
    rw [List.cons_append, unlines_cons hne, List.length_append, List.length_cons, ih, extent_cons]
    omega

end Text

namespace Braces

/-! ## Braces of single lines -/

/-- A line that is quiet up to the brace it **ends in** has no other one. -/
theorem ofLine_append_char {text : Text} (h : Quiet text) (brace : Brace) :
    ofLine (text ++ [brace.char]) = [⟨text.length, brace⟩] := by
  have hbrace : Quoting.brace? .outside brace.char = some brace :=
    Brace.ofChar?_eq_some_iff.2 rfl
  rw [ofLine, scan_append, h.scan, h.after, scan_cons, hbrace, List.nil_append, Nat.zero_add]
  rfl

/-- A line whose only brace is known opens **as much** as that one. -/
theorem delta_of_ofLine_eq_singleton {line : Text} {placed : PlacedBrace}
    (h : ofLine line = [placed]) : delta line = placed.brace.weight := by
  rw [delta, h]
  exact Int.add_zero _

/-! ## Nested lines -/

/-- Lines **nest**: each has no brace, or is one of two with a single brace that open and close a
body around nested lines. -/
inductive Nested : List Text → Prop where
  /-- No lines. -/
  | nil : Nested []
  /-- A line without braces. -/
  | line {text : Text} : ofLine text = [] → Nested [text]
  /-- Nested lines after nested lines. -/
  | append {first more : List Text} : Nested first → Nested more → Nested (first ++ more)
  /-- A body around nested lines. -/
  | body {first last : Text} {inner : List Text} {opening closing : Nat} :
    ofLine first = [⟨opening, .opening⟩] → Nested inner → ofLine last = [⟨closing, .closing⟩] →
      Nested (first :: (inner ++ [last]))

namespace Nested

variable {lines : List Text}

/-- Nested lines stand **inside** a body that goes on after them. -/
theorem splitBody_append (h : Nested lines) {depth : Int} (hdepth : 0 < depth)
    (rest : List Text) :
    splitBody depth (lines ++ rest) =
      (lines ++ (splitBody depth rest).1, (splitBody depth rest).2) := by
  induction h generalizing depth rest with
  | nil => rfl
  | line hline =>
    rw [List.singleton_append, splitBody, delta_of_ofLine_eq_nil hline, Int.add_zero,
      if_neg (by omega)]
    rfl
  | append _ _ ihfirst ihmore =>
    rw [List.append_assoc, ihfirst hdepth, ihmore hdepth, List.append_assoc]
  | @body first last inner opening closing hfirst _ hlast ih =>
    -- the inner lines are read one body deeper, and the last line takes that body off again
    have hopening : delta first = 1 := delta_of_ofLine_eq_singleton hfirst
    have hclosing : delta last = -1 := delta_of_ofLine_eq_singleton hlast
    have hlastLine : splitBody (depth + 1) (last :: rest) =
        (last :: (splitBody depth rest).1, (splitBody depth rest).2) := by
      rw [splitBody, hclosing, Int.add_neg_cancel_right, if_neg (by omega)]
    rw [List.cons_append, List.append_assoc, List.singleton_append, splitBody, hopening,
      if_neg (by omega), ih (by omega), hlastLine]
    simp

/-- No brace of nested lines **closes** a body that was open before them. -/
theorem closing?_append (h : Nested lines) (depth offset : Nat) (rest : List Text) :
    closing? depth (ofLines offset (lines ++ rest)) =
      closing? depth (ofLines (offset + Text.extent lines) rest) := by
  induction h generalizing depth offset rest with
  | nil => rfl
  | line hline =>
    rw [List.singleton_append, ofLines, scan_outside, hline, Text.extent_cons, Text.extent_nil]
    rfl
  | append _ _ ihfirst ihmore =>
    rw [List.append_assoc, ihfirst, ihmore, Text.extent_append, Nat.add_assoc]
  | @body first last inner opening closing hfirst _ hlast ih =>
    -- for the inner lines one body more is open, and the brace of the last line closes that one
    calc closing? depth (ofLines offset (first :: (inner ++ [last]) ++ rest))
        = closing? (depth + 1) (ofLines (offset + first.length + 1) (inner ++ (last :: rest))) := by
          rw [List.cons_append, List.append_assoc, ofLines, scan_outside, hfirst]
          rfl
      _ = closing? (depth + 1)
            (ofLines (offset + first.length + 1 + Text.extent inner) (last :: rest)) := ih _ _ _
      _ = closing? depth
            (ofLines (offset + first.length + 1 + Text.extent inner + last.length + 1) rest) := by
          rw [ofLines, scan_outside, hlast]
          rfl
      _ = _ := by
          congr 2
          simp only [Text.extent_cons, Text.extent_append, Text.extent_nil]
          omega

/-- Inside a body that is **not the outermost** one, nested lines hold no label of it. -/
theorem ofBodyLines_append (h : Nested lines) {depth : Int} (hdepth : 1 < depth)
    (rest : List Text) :
    Label.ofBodyLines depth (lines ++ rest) = Label.ofBodyLines depth rest := by
  induction h generalizing depth rest with
  | nil => rfl
  | line hline =>
    have hdelta := delta_of_ofLine_eq_nil hline
    rw [List.singleton_append, Label.ofBodyLines_of_ne (by omega) (by omega), hdelta, Int.add_zero]
  | append _ _ ihfirst ihmore => rw [List.append_assoc, ihfirst hdepth, ihmore hdepth]
  | @body first last inner opening closing hfirst _ hlast ih =>
    -- none of these lines stands directly in the body, so none is asked for a label
    have hopening : delta first = 1 := delta_of_ofLine_eq_singleton hfirst
    have hclosing : delta last = -1 := delta_of_ofLine_eq_singleton hlast
    rw [List.cons_append, List.append_assoc, List.singleton_append,
      Label.ofBodyLines_of_ne (by omega) (by omega), hopening, ih (by omega),
      Label.ofBodyLines_of_ne (by omega) (by omega), hclosing, Int.add_neg_cancel_right]

end Nested

/-! ## A body around nested lines -/

variable {before after : Text} {inner : List Text}

/-- A body around nested lines takes **its lines** and no more. -/
theorem splitStatement_body (hbefore : Quiet before) (hinner : Nested inner) (hafter : Quiet after)
    (rest : List Text) :
    splitStatement (before ++ ['{']) (inner ++ [after ++ ['}']] ++ rest) =
      (inner ++ [after ++ ['}']], rest) := by
  have hfirst := ofLine_append_char hbefore .opening
  have hopens : opens (Text.trim (before ++ ['{'])) = true := by
    rw [opens_trim, opens, show before ++ ['{'] = before ++ [Brace.opening.char] from rfl, hfirst]
    rfl
  have hopening : delta (before ++ ['{']) = 1 := delta_of_ofLine_eq_singleton hfirst
  have hclosing : delta (after ++ ['}']) = -1 :=
    delta_of_ofLine_eq_singleton (ofLine_append_char hafter .closing)
  rw [splitStatement, hopens, hopening, Bool.true_and, if_pos (by decide), List.append_assoc,
    hinner.splitBody_append (by decide), List.singleton_append, splitBody, hclosing]
  rfl

/-- The **span** of a body around nested lines. -/
theorem span?_unlines (hbefore : Quiet before) (hinner : Nested inner) (hafter : Quiet after)
    (hnewline : ∀ line ∈ (before ++ ['{']) :: (inner ++ [after ++ ['}']]), '\n' ∉ line) :
    span? (Text.unlines ((before ++ ['{']) :: (inner ++ [after ++ ['}']]))) =
      some (before.length, before.length + 2 + Text.extent inner + after.length) := by
  have hbraces : ofText (Text.unlines ((before ++ ['{']) :: (inner ++ [after ++ ['}']]))) =
      ⟨before.length, .opening⟩ ::
        ofLines (before.length + 2) (inner ++ [after ++ ['}']]) := by
    rw [ofText, Text.lines_unlines (List.cons_ne_nil _ _) hnewline, ofLines, scan_outside,
      show before ++ ['{'] = before ++ [Brace.opening.char] from rfl,
      ofLine_append_char hbefore .opening, List.length_append]
    simp [PlacedBrace.shift]
  -- the inner lines close none but their own bodies, so the brace behind them is the one
  have hclosing : closing? 0 (ofLines (before.length + 2) (inner ++ [after ++ ['}']])) =
      some (before.length + 2 + Text.extent inner + after.length) := by
    rw [hinner.closing?_append, ofLines, scan_outside,
      show after ++ ['}'] = after ++ [Brace.closing.char] from rfl,
      ofLine_append_char hafter .closing]
    simp [PlacedBrace.shift, closing?, Nat.add_comm]
  rw [span?, hbraces, List.dropWhile_cons_of_neg (by simp)]
  dsimp only
  rw [hclosing]
  rfl

end Braces

/-- The **interior** of a body around nested lines: they, with the end of the line before them and
the start of the line after them. -/
theorem Interior.ofCode?_unlines {before after : Text} {inner : List Text}
    (hbefore : Braces.Quiet before) (hinner : Braces.Nested inner) (hafter : Braces.Quiet after)
    (hnewline : ∀ line ∈ (before ++ ['{']) :: (inner ++ [after ++ ['}']]), '\n' ∉ line)
    (line : Int) :
    ofCode? line (Text.unlines ((before ++ ['{']) :: (inner ++ [after ++ ['}']]))) =
      some ⟨line, '\n' :: Text.unlines (inner ++ [after])⟩ := by
  -- the brace stands on the first line, so the interior begins on the line of the code
  have hbeforeNewline : before.count '\n' = 0 := by
    refine List.count_eq_zero.2 ?_
    intro hmem
    exact hnewline _ List.mem_cons_self (List.mem_append_left _ hmem)
  have hlength : before.length + 2 + Text.extent inner + after.length =
      (before ++ '{' :: '\n' :: Text.unlines (inner ++ [after])).length := by
    rw [List.length_append, List.length_cons, List.length_cons, Text.length_unlines_concat]
    omega
  have htake : (before ++ '{' :: ('\n' :: Text.unlines (inner ++ [after]) ++ ['}'])).take
      (before.length + 2 + Text.extent inner + after.length) =
        before ++ '{' :: '\n' :: Text.unlines (inner ++ [after]) := by
    rw [hlength, ← List.cons_append, ← List.append_assoc, List.take_left]
  rw [ofCode?, Braces.span?_unlines hbefore hinner hafter hnewline, Text.unlines_body,
    Option.map_some]
  dsimp only
  rw [List.take_left, hbeforeNewline, htake, List.drop_length_add_append]
  simp

end DiagramOutline
