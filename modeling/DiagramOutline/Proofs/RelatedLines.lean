import DiagramOutline.Proofs.Interiors
import Mathlib.Data.List.Forall2

/-! # Lines that are related

A relation between lines may keep what an outline reads off a line: whether it is skipped, which
braces it has, which name and which labels it gives. Statements with lines that are related one by
one then have the same names, labels and last lines, and interiors with lines that are related
again.

* **`KeepsForests R`**, **`KeepsOutlines R`** — the relation `R` keeps what an outline reads off a
  line, without labels and with them.
* **`Statement.Related R statement statement'`**, **`Interior.Related R interior interior'`** — two
  statements or interiors start on the same line and have lines that `R` relates.
* **`KeepsForests.statements`**, **`KeepsForests.interior`** — related lines have related
  statements, and those have related interiors.
* **`KeepsOutlines.statementLabel`** — related statements have the same label. -/

namespace DiagramOutline

/-! ## What a relation has to keep -/

/-- A relation between lines **keeps forests**: what an outline reads off related lines is the same,
but for labels, and what it cuts from them is related again. -/
structure KeepsForests (R : Text → Text → Prop) : Prop where
  /-- Related lines are skipped alike. -/
  isSkipped : ∀ {line line'}, R line line' → isSkipped line = isSkipped line'
  /-- Related lines are blank alike. -/
  isAllBlank : ∀ {line line'}, R line line' → Text.isAllBlank line = Text.isAllBlank line'
  /-- Related lines open as many more bodies than they close. -/
  delta : ∀ {line line'}, R line line' → Braces.delta line = Braces.delta line'
  /-- Related lines close a body alike, and are related up to there. -/
  closing : ∀ {line line'}, R line line' → ∀ depth,
    Option.Rel (fun offset offset' => R (line.take offset) (line'.take offset'))
      (Braces.closing? depth (Braces.ofLine line)) (Braces.closing? depth (Braces.ofLine line'))
  /-- Related lines open a body alike. -/
  opens : ∀ {line line'}, R line line' → DiagramOutline.isSkipped line = false →
    Braces.opens line = Braces.opens line'
  /-- Behind the brace that opens it, they are related again. -/
  afterOpening : ∀ {line line'}, R line line' → DiagramOutline.isSkipped line = false →
    R (Braces.afterOpening line) (Braces.afterOpening line')
  /-- Related lines give statements the same name. -/
  name : ∀ {line line'}, R line line' → DiagramOutline.isSkipped line = false →
    Header.name line = Header.name line'

/-- A relation between lines **keeps outlines**: what an outline reads off related lines is the
same, labels too, and what it cuts from them is related again. -/
structure KeepsOutlines (R : Text → Text → Prop) : Prop extends KeepsForests R where
  /-- Related lines give the same label of the body that they stand in. -/
  property : ∀ {line line'}, R line line' →
    (Label.propertyValue? line).map Label.clean = (Label.propertyValue? line').map Label.clean
  /-- Related lines give statements without a body the same label. -/
  ofStatement : ∀ {line line'}, R line line' → DiagramOutline.isSkipped line = false →
    Label.ofStatement line = Label.ofStatement line'
  /-- Related lines give statements with a body the same label. -/
  ofHeader : ∀ {line line'}, R line line' → DiagramOutline.isSkipped line = false →
    (Label.ofHeader? line).map Label.clean = (Label.ofHeader? line').map Label.clean

/-- Two statements are **related**: they start on the same line of their texts, and their lines are
related one by one. -/
structure Statement.Related (R : Text → Text → Prop) (statement statement' : Statement) :
    Prop where
  /-- They start on the same line. -/
  line : statement.line = statement'.line
  /-- The first line is not one to be skipped. -/
  isSkipped : isSkipped statement.first = false
  /-- The first lines are related. -/
  first : R statement.first statement'.first
  /-- The lines after it are related. -/
  more : List.Forall₂ R statement.more statement'.more

/-- Two interiors are **related**: they start on the same line, and their lines are related one by
one. -/
structure Interior.Related (R : Text → Text → Prop) (interior interior' : Interior) : Prop where
  /-- They start on the same line. -/
  line : interior.line = interior'.line
  /-- Their lines are related. -/
  lines : List.Forall₂ R interior.text.lines interior'.text.lines

/-! ## Lines and statements that are related -/

namespace KeepsForests

variable {R : Text → Text → Prop} {lines lines' : List Text}

/-- Related lines are split alike **at the end of a body**. -/
theorem splitBody (h : KeepsForests R) (hlines : List.Forall₂ R lines lines') (depth : Int) :
    List.Forall₂ R (splitBody depth lines).1 (splitBody depth lines').1 ∧
      List.Forall₂ R (splitBody depth lines).2 (splitBody depth lines').2 := by
  induction hlines generalizing depth with
  | nil => exact ⟨.nil, .nil⟩
  | cons hline hmore ih =>
    simp only [DiagramOutline.splitBody, ← h.delta hline]
    split
    · exact ⟨.cons hline .nil, hmore⟩
    · exact ⟨.cons hline (ih _).1, (ih _).2⟩

/-- Related lines are split alike **at the end of a statement**. -/
theorem splitStatement (h : KeepsForests R) {first first' : Text} (hfirst : R first first')
    (hskip : DiagramOutline.isSkipped first = false) (hlines : List.Forall₂ R lines lines') :
    List.Forall₂ R (splitStatement first lines).1 (splitStatement first' lines').1 ∧
      List.Forall₂ R (splitStatement first lines).2 (splitStatement first' lines').2 := by
  simp only [DiagramOutline.splitStatement, Braces.opens_trim, ← h.opens hfirst hskip,
    ← h.delta hfirst]
  split
  · exact h.splitBody hlines _
  · exact ⟨.nil, hlines⟩

/-- Related lines have **related statements**, one for one. -/
theorem statements (h : KeepsForests R) (hlines : List.Forall₂ R lines lines') (line : Nat) :
    List.Forall₂ (Statement.Related R) (statements line lines) (statements line lines') := by
  fun_induction DiagramOutline.statements line lines generalizing lines' with
  | case1 =>
    cases hlines
    rw [DiagramOutline.statements]
    exact .nil
  | case2 line first rest hskip ih =>
    cases hlines with
    | cons hfirst hrest =>
      rw [h.isSkipped hfirst] at hskip
      rw [DiagramOutline.statements, if_pos hskip]
      exact ih hrest
  | case3 line first rest hskip ih =>
    cases hlines with
    | cons hfirst hrest =>
      rw [Bool.not_eq_true] at hskip
      obtain ⟨htaken, hleft⟩ := h.splitStatement hfirst hskip hrest
      have hskip' := h.isSkipped hfirst ▸ hskip
      rw [DiagramOutline.statements, if_neg (by rw [hskip']; exact Bool.false_ne_true),
        ← htaken.length_eq]
      exact .cons ⟨rfl, hskip, hfirst, htaken⟩ (ih hleft)

/-- Related lines are related **up to a closing brace**. -/
theorem linesToClosing (h : KeepsForests R) (hlines : List.Forall₂ R lines lines')
    (depth : Nat) :
    List.Forall₂ R (Braces.linesToClosing depth lines) (Braces.linesToClosing depth lines') := by
  induction hlines generalizing depth with
  | nil => exact .nil
  | @cons line line' more more' hline hmore ih =>
    have hclosing := h.closing hline depth
    simp only [Braces.linesToClosing, ← h.delta hline]
    generalize Braces.closing? depth (Braces.ofLine line) = found at hclosing ⊢
    generalize Braces.closing? depth (Braces.ofLine line') = found' at hclosing ⊢
    cases hclosing with
    | some hcut => exact .cons hcut .nil
    | none => exact .cons hline (ih _)

/-- Related lines are related without the **blank lines** that they start with. -/
theorem dropWhile_isAllBlank (h : KeepsForests R) (hlines : List.Forall₂ R lines lines') :
    List.Forall₂ R (lines.dropWhile Text.isAllBlank) (lines'.dropWhile Text.isAllBlank) := by
  induction hlines with
  | nil => exact .nil
  | cons hline hmore ih =>
    simp only [List.dropWhile_cons, ← h.isAllBlank hline]
    split
    · exact ih
    · exact .cons hline hmore

/-- Interiors with related lines are related from their **first line with text** on. -/
theorem trimmed (h : KeepsForests R) {interior interior' : Interior}
    (hrelated : interior.Related R interior') :
    Option.Rel (Interior.Related R) interior.trimmed? interior'.trimmed? := by
  obtain ⟨hline, hlines⟩ := hrelated
  have hkept := h.dropWhile_isAllBlank hlines
  have hnewline : ∀ {text : Text} {kept : List Text}, text.lines.dropWhile Text.isAllBlank = kept →
      ∀ line ∈ kept, '\n' ∉ line := by
    rintro text kept rfl line hmem
    exact Text.newline_notMem_of_mem_lines ((List.dropWhile_sublist _).subset hmem)
  unfold Interior.trimmed?
  split
  · next hnil =>
    rw [hnil, List.forall₂_nil_left_iff] at hkept
    rw [hkept]
    exact .none
  · next first more hcons =>
    rw [hcons, List.forall₂_cons_left_iff] at hkept
    obtain ⟨first', more', hfirst, hmore, hcons'⟩ := hkept
    rw [hcons']
    refine .some ⟨?_, ?_⟩
    · rw [hline, hlines.length_eq, List.length_cons, List.length_cons, hmore.length_eq]
    · rw [Text.lines_unlines (List.cons_ne_nil _ _) (hnewline hcons),
        Text.lines_unlines (List.cons_ne_nil _ _) (hnewline hcons')]
      exact .cons hfirst hmore

variable {statement statement' : Statement}

/-- Related statements have a body **alike**. -/
theorem hasBody (h : KeepsForests R) (hrelated : statement.Related R statement') :
    statement.hasBody = statement'.hasBody := by
  rw [Statement.hasBody_eq_opens, Statement.hasBody_eq_opens]
  exact h.opens hrelated.first hrelated.isSkipped

/-- Related statements have the same **name**. -/
theorem statementName (h : KeepsForests R) (hrelated : statement.Related R statement')
    (index : Nat) : statement.name index = statement'.name index := by
  rw [Statement.name, Statement.name, Statement.placeName, Statement.placeName,
    h.name hrelated.first hrelated.isSkipped, h.hasBody hrelated, hrelated.line]

/-- Related statements end on the same **last line**. -/
theorem lastLine_eq (hrelated : statement.Related R statement') :
    statement.lastLine = statement'.lastLine := by
  rw [Statement.lastLine, Statement.lastLine, hrelated.line, hrelated.more.length_eq]

/-- Related statements have **related interiors**, or both have none. -/
theorem interior (h : KeepsForests R) (hrelated : statement.Related R statement')
    (hlines : statement.code.lines = statement.lines)
    (hlines' : statement'.code.lines = statement'.lines) :
    Option.Rel (Interior.Related R) statement.interior? statement'.interior? := by
  have hnewline : ∀ line ∈ statement.lines, '\n' ∉ line := by
    rw [← hlines]
    exact fun _ => Text.newline_notMem_of_mem_lines
  have hnewline' : ∀ line ∈ statement'.lines, '\n' ∉ line := by
    rw [← hlines']
    exact fun _ => Text.newline_notMem_of_mem_lines
  rw [Statement.interior?_eq hnewline, Statement.interior?_eq hnewline', h.hasBody hrelated]
  split
  · refine h.trimmed ⟨congrArg Int.ofNat hrelated.line, ?_⟩
    have hinner := Statement.newline_notMem_innerLines hnewline
    have hinner' := Statement.newline_notMem_innerLines hnewline'
    rw [Text.lines_unlines statement.innerLines_ne_nil hinner,
      Text.lines_unlines statement'.innerLines_ne_nil hinner']
    exact h.linesToClosing
      (.cons (h.afterOpening hrelated.first hrelated.isSkipped) hrelated.more) 0
  · exact .none

end KeepsForests

namespace KeepsOutlines

variable {R : Text → Text → Prop} {lines lines' : List Text} {statement statement' : Statement}

/-- In the lines of a body, related lines give **the same label**. -/
theorem ofBodyLines (h : KeepsOutlines R) (hlines : List.Forall₂ R lines lines') (depth : Int) :
    Label.ofBodyLines depth lines = Label.ofBodyLines depth lines' := by
  induction hlines generalizing depth with
  | nil => rfl
  | @cons line line' more more' hline hmore ih =>
    have hproperty := h.property hline
    by_cases hdepth : depth = 1
    · simp only [Label.ofBodyLines, if_pos hdepth, ← h.delta hline]
      generalize Label.propertyValue? line = value at hproperty ⊢
      generalize Label.propertyValue? line' = value' at hproperty ⊢
      cases value <;> cases value' <;> simp_all
    · simp only [Label.ofBodyLines, if_neg hdepth, ← h.delta hline, ih]

/-- Related statements have the same **label**. -/
theorem statementLabel (h : KeepsOutlines R) (hrelated : statement.Related R statement')
    (hlines : statement.code.lines = statement.lines)
    (hlines' : statement'.code.lines = statement'.lines) :
    statement.label = statement'.label := by
  unfold Statement.label
  rw [h.hasBody hrelated]
  split
  · have hheader := h.ofHeader hrelated.first hrelated.isSkipped
    simp only [Label.ofBody, hlines, hlines', Statement.lines]
    generalize Label.ofHeader? statement.first = header at hheader ⊢
    generalize Label.ofHeader? statement'.first = header' at hheader ⊢
    cases header <;> cases header' <;>
      simp_all [h.delta hrelated.first, h.ofBodyLines hrelated.more]
  · have hline := h.ofStatement hrelated.first hrelated.isSkipped
    have hfirst : ∀ {statement : Statement}, statement.code.lines = statement.lines →
        Label.ofStatement statement.code = Label.ofStatement statement.first := by
      intro statement hcode
      have hnewline : '\n' ∉ statement.first :=
        Text.newline_notMem_of_mem_lines (by rw [hcode]; exact List.mem_cons_self)
      rw [Label.ofStatement, Label.ofStatement, hcode, Text.lines_of_newline_notMem hnewline]
      rfl
    rw [hfirst hlines, hfirst hlines', hline]

end KeepsOutlines

end DiagramOutline
