import DiagramOutline.Outline.Plain
import DiagramOutline.Proofs.Diagram.Heads
import DiagramOutline.Proofs.Statements

/-! # The lines of a diagram

How the text readers take the lines of a diagram apart: they nest, each item that is no blank line
and no comment is one statement, and the interior of a container is the text of a diagram again.

* **`Diagram.lines_text`** — the lines of the text of a diagram are its lines.
* **`Diagram.nested_lines`** — the lines of a diagram nest.
* **`Diagram.statements_text`** — the statements of a diagram are those of its items.
* **`Diagram.exists_items_of_mem_statementsOf`** — the interior of a statement is the text of a
  diagram. -/

namespace DiagramOutline.Diagram

open Text Keyword

/-! ## Lines of items -/

/-- The blanks before an item are **blank**. -/
theorem Indent.isAllBlank_text (indent : Indent) : isAllBlank indent.text = true := by
  refine isAllBlank_iff.2 ?_
  intro c hc
  have hplain := indent.plain c hc
  rw [List.mem_cons, List.mem_singleton] at hplain
  rcases hplain with rfl | rfl <;> decide

/-- The blanks before an item hold **no newline**. -/
theorem Indent.newline_notMem_text (indent : Indent) : '\n' ∉ indent.text := by
  intro hmem
  exact absurd (indent.plain _ hmem) (by decide)

/-- The line of a leaf holds **no newline**. -/
theorem newline_notMem_leaf (indent : Indent) (head : Head) :
    '\n' ∉ indent.text ++ head.text := by
  intro hmem
  cases List.mem_append.1 hmem with
  | inl hindent => exact indent.newline_notMem_text hindent
  | inr hhead => exact head.newline_notMem_text hhead

/-- The first line of a container holds **no newline**. -/
theorem newline_notMem_header (indent : Indent) (head : Head) :
    '\n' ∉ indent.text ++ head.text ++ [' ', '{'] := by
  intro hmem
  cases List.mem_append.1 hmem with
  | inl hhead => exact newline_notMem_leaf indent head hhead
  | inr hbrace => exact absurd hbrace (by decide)

/-- The last line of a container holds **no newline**. -/
theorem newline_notMem_closing (close : Indent) : '\n' ∉ close.text ++ ['}'] := by
  intro hmem
  cases List.mem_append.1 hmem with
  | inl hclose => exact close.newline_notMem_text hclose
  | inr hbrace => exact absurd hbrace (by decide)

mutual

/-- No line of an item holds a **newline**. -/
theorem Item.newline_notMem_of_mem_lines :
    ∀ (item : Item) {line : Text}, line ∈ item.lines → '\n' ∉ line
  | .blank indent, line, h => by
    rw [List.mem_singleton.1 h]
    exact indent.newline_notMem_text
  | .comment indent remark, line, h => by
    rw [List.mem_singleton.1 h]
    intro hmem
    rw [List.mem_append, List.mem_cons] at hmem
    rcases hmem with hindent | hsign | hremark
    · exact indent.newline_notMem_text hindent
    · exact absurd hsign (by decide)
    · exact remark.plain hremark
  | .leaf indent head _, line, h => by
    rw [List.mem_singleton.1 h]
    exact newline_notMem_leaf indent head
  | .container indent head _ items close, line, h => by
    rw [Item.lines, List.mem_cons, List.mem_append, List.mem_singleton] at h
    rcases h with rfl | hitems | rfl
    · exact newline_notMem_header indent head
    · exact newline_notMem_of_mem_lines items hitems
    · exact newline_notMem_closing close

/-- No line of a diagram holds a **newline**. -/
theorem newline_notMem_of_mem_lines :
    ∀ (items : List Item) {line : Text}, line ∈ lines items → '\n' ∉ line
  | item :: more, line, h => by
    rw [lines, List.mem_append] at h
    cases h with
    | inl hitem => exact item.newline_notMem_of_mem_lines hitem
    | inr hmore => exact newline_notMem_of_mem_lines more hmore

end

/-- No item is **without lines**. -/
theorem Item.lines_ne_nil (item : Item) : item.lines ≠ [] := by
  cases item <;> exact List.cons_ne_nil _ _

/-- Only a diagram without items is **without lines**. -/
theorem lines_ne_nil {items : List Item} (h : items ≠ []) : lines items ≠ [] := by
  obtain ⟨item, more, rfl⟩ := List.exists_cons_of_ne_nil h
  exact List.append_ne_nil_of_left_ne_nil item.lines_ne_nil _

/-- Items in a row have their lines **in a row**. -/
theorem lines_append (items more : List Item) :
    lines (items ++ more) = lines items ++ lines more := by
  induction items with
  | nil => rfl
  | cons item items ih => rw [List.cons_append, lines, lines, ih, List.append_assoc]

/-- The lines of the **text** of a diagram are its lines. -/
theorem lines_text {items : List Item} (h : items ≠ []) : (text items).lines = lines items :=
  Text.lines_unlines (lines_ne_nil h) fun _ => newline_notMem_of_mem_lines items

/-! ## Braces of lines -/

/-- A **blank line** has no brace. -/
theorem ofLine_blank (indent : Indent) : Braces.ofLine indent.text = [] :=
  (Braces.Quiet.of_isAllBlank indent.isAllBlank_text).scan 0

/-- A **comment** without brace characters has no brace. -/
theorem ofLine_comment {indent : Indent} {remark : Remark}
    (h : ∀ c ∈ remark.text, Brace.ofChar? c = none) :
    Braces.ofLine (indent.text ++ '#' :: remark.text) = [] := by
  have hblank : Braces.Quiet indent.text := .of_isAllBlank indent.isAllBlank_text
  have hremark : ∀ c ∈ '#' :: remark.text, Brace.ofChar? c = none :=
    List.forall_mem_cons.2 ⟨by decide, h⟩
  -- the remark may leave a literal open, so it is not quiet
  rw [Braces.ofLine, Braces.scan_append, hblank.scan, hblank.after, Braces.scan_eq_nil hremark]
  rfl

/-- The line of a **leaf** has no brace. -/
theorem ofLine_leaf (indent : Indent) (head : Head) :
    Braces.ofLine (indent.text ++ head.text) = [] :=
  ((Braces.Quiet.of_isAllBlank indent.isAllBlank_text).append head.quiet).scan 0

/-- The first line of a container is quiet **up to its brace**. -/
theorem quiet_header (indent : Indent) (head : Head) :
    Braces.Quiet (indent.text ++ head.text ++ [' ']) :=
  ((Braces.Quiet.of_isAllBlank indent.isAllBlank_text).append head.quiet).append
    (.of_isAllBlank rfl)

/-- The **first line** of a container has the brace that opens the body. -/
theorem ofLine_header (indent : Indent) (head : Head) :
    Braces.ofLine (indent.text ++ head.text ++ [' ', '{']) =
      [⟨(indent.text ++ head.text ++ [' ']).length, .opening⟩] := by
  have hbraces := Braces.ofLine_append_char (quiet_header indent head) .opening
  rwa [List.append_assoc] at hbraces

/-- The **last line** of a container has the brace that closes the body. -/
theorem ofLine_closing (close : Indent) :
    Braces.ofLine (close.text ++ ['}']) = [⟨close.text.length, .closing⟩] :=
  Braces.ofLine_append_char (.of_isAllBlank close.isAllBlank_text) .closing

mutual

/-- The lines of an item **nest**. -/
theorem Item.nested_lines : ∀ {item : Item}, item.Outlinable → Braces.Nested item.lines
  | .blank indent, _ => .line (ofLine_blank indent)
  | .comment _ _, h => .line (ofLine_comment h)
  | .leaf indent head _, _ => .line (ofLine_leaf indent head)
  | .container indent head _ _ close, h =>
    .body (ofLine_header indent head) (nested_lines h.2) (ofLine_closing close)

/-- The lines of a diagram **nest**. -/
theorem nested_lines : ∀ {items : List Item}, Outlinable items → Braces.Nested (lines items)
  | [], _ => .nil
  | _ :: _, h => .append (Item.nested_lines h.1) (nested_lines h.2)

end

/-! ## Statements -/

/-- The **statement** that an item is, when its first line has a number. -/
def Item.statement? (line : Nat) : Item → Option Statement
  | .blank _ => none
  | .comment _ _ => none
  | .leaf indent head _ => some ⟨line, indent.text ++ head.text, []⟩
  | .container indent head _ items close =>
    some ⟨line, indent.text ++ head.text ++ [' ', '{'],
      Diagram.lines items ++ [close.text ++ ['}']]⟩

/-- The **statements** that items are, when the first line has a number. -/
def statementsOf (line : Nat) : List Item → List Statement
  | [] => []
  | item :: more => (item.statement? line).toList ++ statementsOf (line + item.lines.length) more

/-- A **comment** is skipped. -/
theorem isSkipped_comment (indent : Indent) (remark : Remark) :
    isSkipped (indent.text ++ '#' :: remark.text) = true :=
  isSkipped_append indent.isAllBlank_text rfl remark.text

/-- A line that begins with a head is **not skipped**. -/
theorem Head.isSkipped_append (head : Head) (indent : Indent) (after : Text) :
    isSkipped (indent.text ++ head.text ++ after) = false := by
  obtain ⟨c, rest, hhead, hc⟩ := head.exists_text_eq_cons
  rw [hhead, List.append_assoc, List.cons_append,
    DiagramOutline.isSkipped_append indent.isAllBlank_text (isBlank_of_isNameChar hc),
    beq_eq_false_iff_ne]
  exact ne_of_isNameChar hc (by decide)

/-- The line of a **leaf** is not skipped. -/
theorem isSkipped_leaf (indent : Indent) (head : Head) :
    isSkipped (indent.text ++ head.text) = false := by
  have hskip := head.isSkipped_append indent []
  rwa [List.append_nil] at hskip

/-- The **last line** of a container is not skipped. -/
theorem isSkipped_closing (close : Indent) : isSkipped (close.text ++ ['}']) = false :=
  isSkipped_append close.isAllBlank_text rfl []

/-- The line of a leaf opens **no body**. -/
theorem opens_leaf (indent : Indent) (head : Head) :
    Braces.opens (trim (indent.text ++ head.text)) = false := by
  rw [Braces.opens_trim, Braces.opens, ofLine_leaf]
  rfl

/-- The first line of a container **opens** a body. -/
theorem opens_container (indent : Indent) (head : Head) :
    Braces.opens (trim (indent.text ++ head.text ++ [' ', '{'])) = true := by
  rw [Braces.opens_trim, Braces.opens, ofLine_header]
  rfl

/-- The statements of lines that begin with those of an **item**: the statement that the item is,
and those of the other lines. -/
theorem Item.statements_append {item : Item} (h : item.Outlinable) (line : Nat)
    (rest : List Text) :
    statements line (item.lines ++ rest) =
      (item.statement? line).toList ++ statements (line + item.lines.length) rest := by
  cases item with
  | blank indent =>
    rw [Item.lines, List.singleton_append, statements,
      if_pos (isSkipped_of_isAllBlank indent.isAllBlank_text)]
    rfl
  | comment indent remark =>
    rw [Item.lines, List.singleton_append, statements, if_pos (isSkipped_comment indent remark)]
    rfl
  | leaf indent head alone =>
    have hsplit : splitStatement (indent.text ++ head.text) rest = ([], rest) := by
      rw [splitStatement, opens_leaf]
      rfl
    rw [Item.lines, List.singleton_append, statements, isSkipped_leaf, hsplit]
    rfl
  | container indent head opens items close =>
    have hskip := head.isSkipped_append indent [' ', '{']
    -- what is split off are the items and the line that closes the body
    have hsplit := Braces.splitStatement_body (quiet_header indent head)
      (Diagram.nested_lines h.2) (.of_isAllBlank close.isAllBlank_text) rest
    rw [List.append_assoc (indent.text ++ head.text)] at hsplit
    rw [Item.lines, List.cons_append, statements, hskip]
    simp only [Bool.false_eq_true, if_false]
    rw [show [' ', '{'] = [' '] ++ ['{'] from rfl, hsplit, Nat.add_assoc, Nat.add_comm 1]
    rfl

/-- The statements of the lines of a diagram are those **of its items**. -/
theorem statements_lines {items : List Item} (h : Outlinable items) (line : Nat) :
    statements line (lines items) = statementsOf line items := by
  induction items generalizing line with
  | nil =>
    rw [lines, statements]
    rfl
  | cons item more ih => rw [lines, Item.statements_append h.1, ih h.2, statementsOf]

/-- The statements of the **text** of a diagram are those of its items. -/
theorem statements_text {items : List Item} (h : Outlinable items) :
    statements 0 (text items).lines = statementsOf 0 items := by
  cases items with
  | nil =>
    -- the empty text has one line, which is blank
    have hskip : isSkipped [] = true := rfl
    rw [text, lines, Text.unlines, Text.lines_nil, statements, if_pos hskip, statements]
    rfl
  | cons item more => rw [lines_text (List.cons_ne_nil _ _), statements_lines h]

/-! ## Interiors -/

/-- The **interior** of a container is what stands between its braces. -/
theorem interior?_container {line : Nat} {indent close : Indent} {head : Head} {items : List Item}
    (opens : head.OpensBody) (h : Outlinable items) :
    Statement.interior? ⟨line, indent.text ++ head.text ++ [' ', '{'],
        lines items ++ [close.text ++ ['}']]⟩ =
      Interior.trimmed? ⟨line, interior items close⟩ := by
  have hbody : Statement.hasBody ⟨line, indent.text ++ head.text ++ [' ', '{'],
      lines items ++ [close.text ++ ['}']]⟩ = true := opens_container indent head
  have hcode : Statement.code ⟨line, indent.text ++ head.text ++ [' ', '{'],
      lines items ++ [close.text ++ ['}']]⟩ =
        Text.unlines ((indent.text ++ head.text ++ [' '] ++ ['{']) ::
          (lines items ++ [close.text ++ ['}']])) := by
    rw [List.append_assoc (indent.text ++ head.text)]
    rfl
  have hnewline : ∀ line ∈ (indent.text ++ head.text ++ [' '] ++ ['{']) ::
      (lines items ++ [close.text ++ ['}']]), '\n' ∉ line := by
    intro line hline
    rw [List.append_assoc (indent.text ++ head.text)] at hline
    exact (Item.container indent head opens items close).newline_notMem_of_mem_lines hline
  rw [Statement.interior?, if_pos hbody, hcode,
    Interior.ofCode?_unlines (quiet_header indent head) (nested_lines h)
      (.of_isAllBlank close.isAllBlank_text) hnewline]
  rfl

/-- Whether an item is a **blank line**. -/
def Item.isBlank : Item → Bool
  | .blank _ => true
  | _ => false

/-- Dropping the **blank lines** that a diagram starts with drops its blank items. -/
theorem dropWhile_lines (items : List Item) :
    (lines items).dropWhile isAllBlank = lines (items.dropWhile Item.isBlank) := by
  -- a blank line is skipped, and the line of a statement is not
  have hkept : ∀ {line : Text}, isSkipped line = false → ¬ isAllBlank line = true := by
    intro line hskip hblank
    rw [isSkipped_of_isAllBlank hblank] at hskip
    cases hskip
  induction items with
  | nil => rfl
  | cons item more ih =>
    cases item with
    | blank indent =>
      rw [lines, Item.lines, List.singleton_append,
        List.dropWhile_cons_of_pos indent.isAllBlank_text, ih]
      rfl
    | comment indent remark =>
      have hsign : ¬ isAllBlank (indent.text ++ '#' :: remark.text) = true := by
        intro hblank
        have hall := isAllBlank_iff.1 hblank '#' (List.mem_append_right _ List.mem_cons_self)
        exact absurd hall (by decide)
      rw [lines, Item.lines, List.singleton_append, List.dropWhile_cons_of_neg hsign]
      rfl
    | leaf indent head alone =>
      have hleaf := hkept (isSkipped_leaf indent head)
      rw [lines, Item.lines, List.singleton_append, List.dropWhile_cons_of_neg hleaf]
      rfl
    | container indent head opens items close =>
      have hheader := hkept (head.isSkipped_append indent [' ', '{'])
      rw [lines, Item.lines, List.cons_append, List.dropWhile_cons_of_neg hheader]
      rfl

/-- What is said of items is said of those that are **kept**. -/
theorem outlinable_dropWhile {items : List Item} (h : Outlinable items) (p : Item → Bool) :
    Outlinable (items.dropWhile p) := by
  induction items with
  | nil => exact h
  | cons item more ih =>
    rw [List.dropWhile_cons]
    split
    · exact ih h.2
    · exact h

/-- A blank line **after** items makes no difference to what is said of them. -/
theorem outlinable_concat_blank {items : List Item} (h : Outlinable items) (close : Indent) :
    Outlinable (items ++ [.blank close]) := by
  induction items with
  | nil => exact ⟨trivial, trivial⟩
  | cons item more ih => exact ⟨h.1, ih h.2⟩

/-- The **interior** of a container is the text of a diagram, once its blank lines at the start are
dropped. -/
theorem exists_items_of_trimmed? {items : List Item} (h : Outlinable items) {close : Indent}
    {line : Int} {inner : Interior}
    (hinner : Interior.trimmed? ⟨line, interior items close⟩ = some inner) :
    ∃ inside, Outlinable inside ∧ inner.text = text inside := by
  have hlines : (interior items close).lines = [] :: lines (items ++ [Item.blank close]) := by
    have hne : items ++ [Item.blank close] ≠ [] :=
      List.append_ne_nil_of_right_ne_nil _ (List.cons_ne_nil _ _)
    have hall : lines (items ++ [Item.blank close]) = lines items ++ [close.text] :=
      lines_append items [.blank close]
    rw [interior, Text.lines_newline, ← hall]
    exact congrArg _ (lines_text hne)
  -- what stands before the closing brace on its line is left as a blank line
  refine ⟨(items ++ [Item.blank close]).dropWhile Item.isBlank,
    outlinable_dropWhile (outlinable_concat_blank h close) _, ?_⟩
  unfold Interior.trimmed? at hinner
  dsimp only at hinner
  rw [hlines, List.dropWhile_cons_of_pos Text.isAllBlank_nil, dropWhile_lines] at hinner
  split at hinner
  · cases hinner
  · next first rest heq =>
    cases hinner
    rw [text, heq]

/-- The interior of the **statement** of an item is the text of a diagram. -/
theorem exists_items_of_statement? {item : Item} (h : item.Outlinable) {line : Nat}
    {statement : Statement} {inner : Interior} (hstatement : item.statement? line = some statement)
    (hinner : statement.interior? = some inner) :
    ∃ inside, Outlinable inside ∧ inner.text = text inside := by
  cases item with
  | blank indent => cases hstatement
  | comment indent remark => cases hstatement
  | leaf indent head alone =>
    cases hstatement
    -- a leaf has no body, and so no interior
    have hbody : Statement.hasBody ⟨line, indent.text ++ head.text, []⟩ = false :=
      opens_leaf indent head
    rw [Statement.interior?, hbody] at hinner
    cases hinner
  | container indent head opens items close =>
    cases hstatement
    rw [interior?_container opens h.2] at hinner
    exact exists_items_of_trimmed? h.2 hinner

/-- The interior of every **statement of a diagram** is the text of a diagram. -/
theorem exists_items_of_mem_statementsOf {items : List Item} (h : Outlinable items) {line : Nat}
    {statement : Statement} {inner : Interior} (hmem : statement ∈ statementsOf line items)
    (hinner : statement.interior? = some inner) :
    ∃ inside, Outlinable inside ∧ inner.text = text inside := by
  induction items generalizing line with
  | nil => cases hmem
  | cons item more ih =>
    rw [statementsOf, List.mem_append, Option.mem_toList] at hmem
    cases hmem with
    | inl hitem => exact exists_items_of_statement? h.1 hitem hinner
    | inr hmore => exact ih h.2 hmore

end DiagramOutline.Diagram
