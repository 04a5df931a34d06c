import DiagramOutline.Outline.Plain
import DiagramOutline.Proofs.Nesting
import DiagramOutline.Proofs.Statements

/-! # Interiors by their lines

The interior of a body is cut from a text at two offsets. Read by lines, it is the rest of the line
on which the body opens, the lines after it, and the start of the line on which the body closes.

* **`Braces.closing?_append_of_some`**, **`Braces.closing?_append_of_none`** — the search for a
  closing brace goes on behind braces among which it found none.
* **`Braces.exists_eq_append_of_opens`** — a line that opens a body, parted at its first opening
  brace; `Braces.afterOpening` is what stands behind it.
* **`Braces.linesToClosing depth lines`** — the lines up to the brace that closes a body in which
  `depth` more bodies are open.
* **`Statement.interior?_eq`** — the interior of a statement has the lines
  `Statement.innerLines`. -/

namespace DiagramOutline

namespace Braces

/-! ## The closing brace -/

/-- A closing brace that was found is found also with **more braces behind**. -/
theorem closing?_append_of_some {depth offset : Nat} {first : List PlacedBrace}
    (h : closing? depth first = some offset) (second : List PlacedBrace) :
    closing? depth (first ++ second) = some offset := by
  fun_induction closing? depth first with
  | case1 => cases h
  | case2 depth _ rest ih => exact ih h
  | case3 => exact h
  | case4 depth _ rest ih => exact ih h

/-- Behind braces among which none is the closing one, the search **goes on** with the bodies that
are open there. -/
theorem closing?_append_of_none {depth : Nat} {first : List PlacedBrace}
    (h : closing? depth first = none) (second : List PlacedBrace) :
    closing? depth (first ++ second) = closing? (depth + balance first).toNat second := by
  fun_induction closing? depth first with
  | case1 depth => simp [balance]
  | case2 depth offset rest ih =>
    have hdepth : ((depth + 1 : Nat) : Int) + balance rest =
        depth + balance (⟨offset, .opening⟩ :: rest) := by
      simp only [balance, Brace.weight]
      omega
    rw [List.cons_append, closing?, ih h, hdepth]
  | case3 => cases h
  | case4 depth offset rest ih =>
    have hdepth : (depth : Int) + balance rest =
        (depth + 1 : Nat) + balance (⟨offset, .closing⟩ :: rest) := by
      simp only [balance, Brace.weight]
      omega
    rw [List.cons_append, closing?, ih h, hdepth]

/-- In a body in which **more bodies** are open, no brace is the closing one that was none
before. -/
theorem closing?_add_eq_none {depth : Nat} {braces : List PlacedBrace}
    (h : closing? depth braces = none) (more : Nat) : closing? (depth + more) braces = none := by
  fun_induction closing? depth braces with
  | case1 => rfl
  | case2 depth _ rest ih =>
    rw [closing?, Nat.add_right_comm]
    exact ih h
  | case3 => cases h
  | case4 depth _ rest ih =>
    rw [Nat.succ_add, closing?]
    exact ih h

/-- Among braces that are **moved on**, the closing one is found further on. -/
theorem closing?_map_shift (depth distance : Nat) (braces : List PlacedBrace) :
    closing? depth (braces.map (·.shift distance)) =
      (closing? depth braces).map (· + distance) := by
  fun_induction closing? depth braces with
  | case1 => rfl
  | case2 depth offset rest ih => simpa [PlacedBrace.shift, closing?] using ih
  | case3 => rfl
  | case4 depth offset rest ih => simpa [PlacedBrace.shift, closing?] using ih

/-- The closing brace is **one of** the braces. -/
theorem mem_of_closing?_eq_some {depth offset : Nat} {braces : List PlacedBrace}
    (h : closing? depth braces = some offset) : ⟨offset, .closing⟩ ∈ braces := by
  fun_induction closing? depth braces with
  | case1 => cases h
  | case2 depth _ rest ih => exact List.mem_cons_of_mem _ (ih h)
  | case3 =>
    cases h
    exact List.mem_cons_self
  | case4 depth _ rest ih => exact List.mem_cons_of_mem _ (ih h)

/-- Lines that start **further on** have the same braces, further on. -/
theorem ofLines_add (offset distance : Nat) (lines : List Text) :
    ofLines (offset + distance) lines = (ofLines offset lines).map (·.shift distance) := by
  induction lines generalizing offset with
  | nil => rfl
  | cons line more ih =>
    have hmore : offset + distance + line.length + 1 = offset + line.length + 1 + distance := by
      omega
    rw [ofLines, ofLines, List.map_append, scan_add, hmore, ih]

/-! ## Lines up to the closing brace -/

/-- The lines **up to the brace that closes** a body in which `depth` more bodies are open; all
lines where it is never closed. -/
def linesToClosing (depth : Nat) : List Text → List Text
  | [] => []
  | line :: more =>
    match closing? depth (ofLine line) with
    | some offset => [line.take offset]
    | none => line :: linesToClosing (depth + delta line).toNat more

/-- Where the body closes **on the first line**, that line is cut before the brace. -/
theorem linesToClosing_of_some {depth offset : Nat} {line : Text}
    (h : closing? depth (ofLine line) = some offset) (more : List Text) :
    linesToClosing depth (line :: more) = [line.take offset] := by
  rw [linesToClosing, h]

/-- Where it does not, that line is **kept**. -/
theorem linesToClosing_of_none {depth : Nat} {line : Text}
    (h : closing? depth (ofLine line) = none) (more : List Text) :
    linesToClosing depth (line :: more) =
      line :: linesToClosing (depth + delta line).toNat more := by
  rw [linesToClosing, h]

/-- There is always a **first** line up to the closing brace. -/
theorem linesToClosing_ne_nil (depth : Nat) {lines : List Text} (h : lines ≠ []) :
    linesToClosing depth lines ≠ [] := by
  obtain ⟨line, more, rfl⟩ := List.exists_cons_of_ne_nil h
  rw [linesToClosing]
  split <;> exact List.cons_ne_nil _ _

/-- The lines up to the closing brace hold **no newline** where the lines hold none. -/
theorem newline_notMem_linesToClosing {lines : List Text} (h : ∀ line ∈ lines, '\n' ∉ line)
    (depth : Nat) : ∀ line ∈ linesToClosing depth lines, '\n' ∉ line := by
  induction lines generalizing depth with
  | nil => exact fun _ hmem => absurd hmem List.not_mem_nil
  | cons first more ih =>
    obtain ⟨hfirst, hmore⟩ := List.forall_mem_cons.1 h
    cases hclosing : closing? depth (ofLine first) with
    | some offset =>
      rw [linesToClosing_of_some hclosing, List.forall_mem_singleton]
      exact fun hmem => hfirst (List.mem_of_mem_take hmem)
    | none =>
      rw [linesToClosing_of_none hclosing, List.forall_mem_cons]
      exact ⟨hfirst, ih hmore _⟩

/-- The text of lines, **cut at the closing brace**, is the text of the lines up to it. -/
theorem take_closing?_unlines (depth : Nat) (lines : List Text) :
    (Text.unlines lines).take
        ((closing? depth (ofLines 0 lines)).getD (Text.unlines lines).length) =
      Text.unlines (linesToClosing depth lines) := by
  induction lines generalizing depth with
  | nil => rfl
  | cons line more ih =>
    have hline : ofLines 0 (line :: more) =
        ofLine line ++ ofLines (0 + (line.length + 1)) more := by
      rw [ofLines, ofLine, Nat.add_assoc]
    cases hclosing : closing? depth (ofLine line) with
    | some offset =>
      have hlt : offset < line.length := by
        simpa using offset_lt_of_mem_scan (mem_of_closing?_eq_some hclosing)
      rw [linesToClosing_of_some hclosing, hline, closing?_append_of_some hclosing,
        Option.getD_some, Text.unlines_singleton]
      cases more with
      | nil => rfl
      | cons next more => exact List.take_append_of_le_length (Nat.le_of_lt hlt)
    | none =>
      rw [linesToClosing_of_none hclosing, hline, closing?_append_of_none hclosing, ofLines_add,
        closing?_map_shift, ← delta]
      cases more with
      | nil => exact List.take_length
      | cons next more =>
        have hne : next :: more ≠ [] := List.cons_ne_nil next more
        have hmore := ih (depth + delta line).toNat
        -- what is searched for on the lines after the first one is cut there
        generalize closing? (depth + delta line).toNat (ofLines 0 (next :: more)) = found at hmore ⊢
        rw [Text.unlines_cons hne, Text.unlines_cons (linesToClosing_ne_nil _ hne), ← hmore]
        cases found with
        | none =>
          simp only [Option.map_none, Option.getD_none, List.take_length]
        | some offset =>
          have hsum : offset + (line.length + 1) = line.length + (offset + 1) := by omega
          simp only [Option.map_some, Option.getD_some]
          rw [hsum, List.take_length_add_append, List.take_succ_cons]

/-! ## The opening brace -/

/-- A line that opens a body is parted at its **first opening brace**: it stands outside literals, and
the braces before it close. -/
theorem exists_eq_append_of_opens {line : Text} (h : opens line = true) :
    ∃ before after, line = before ++ '{' :: after ∧ Quoting.after .outside before = .outside ∧
      ∀ placed ∈ ofLine before, placed.brace = .closing := by
  obtain ⟨before, offset, rest, hbraces, hclosing⟩ := exists_eq_append_of_any_opening h
  obtain ⟨front, back, hline, -, rfl, hafter⟩ := exists_eq_append_of_scan hbraces
  exact ⟨front, back, hline, hafter, hclosing⟩

/-- What stands **behind** the first opening brace of a line. -/
def afterOpening (line : Text) : Text :=
  match (ofLine line).find? (·.brace = .opening) with
  | some placed => line.drop (placed.offset + 1)
  | none => []

section Opening

variable {before after : Text} (hafter : Quoting.after .outside before = .outside)
  (hclosing : ∀ placed ∈ ofLine before, placed.brace = .closing)

include hafter

/-- The braces of a line are parted at an **opening brace**. -/
theorem ofLine_append_opening (rest : Text) :
    ofLine (before ++ '{' :: rest) =
      ofLine before ++ ⟨before.length, .opening⟩ :: scan .outside (before.length + 1) rest := by
  have hbrace : Quoting.brace? .outside '{' = some .opening := rfl
  have hnext : Quoting.next .outside '{' = .outside := rfl
  rw [ofLine, scan_append, hafter, scan_cons, hbrace, hnext, Nat.zero_add]
  rfl

/-- The braces of lines are parted at an **opening brace** of the first line. -/
theorem ofLines_append_opening (more : List Text) :
    ofLines 0 ((before ++ '{' :: after) :: more) =
      ofLine before ++
        ⟨before.length, .opening⟩ :: ofLines (0 + (before.length + 1)) (after :: more) := by
  have hlength : 0 + (before ++ '{' :: after).length + 1 =
      0 + (before.length + 1) + after.length + 1 := by
    rw [List.length_append, List.length_cons]
    omega
  rw [ofLines, ofLines, ← ofLine, ofLine_append_opening hafter, hlength, Nat.zero_add,
    List.append_assoc, List.cons_append]

include hclosing

/-- The first opening brace of a line is **found**. -/
theorem find?_opening :
    (ofLine (before ++ '{' :: after)).find? (·.brace = .opening) =
      some ⟨before.length, .opening⟩ := by
  have hnone : (ofLine before).find? (·.brace = .opening) = none := by
    rw [List.find?_eq_none]
    intro placed hmem
    simp [hclosing placed hmem]
  rw [ofLine_append_opening hafter, List.find?_append, hnone, Option.none_or,
    List.find?_cons_of_pos (by simp)]

/-- Behind it stands the **rest** of the line. -/
theorem afterOpening_append : afterOpening (before ++ '{' :: after) = after := by
  rw [afterOpening, find?_opening hafter hclosing]
  simp

/-- The **span** of the body that opens there ends at its closing brace, or with the text. -/
theorem span?_append_opening {more : List Text}
    (hnewline : ∀ line ∈ (before ++ '{' :: after) :: more, '\n' ∉ line) :
    span? (Text.unlines ((before ++ '{' :: after) :: more)) =
      some (before.length, before.length + 1 +
        (closing? 0 (ofLines 0 (after :: more))).getD (Text.unlines (after :: more)).length) := by
  have htext : Text.unlines ((before ++ '{' :: after) :: more) =
      before ++ '{' :: Text.unlines (after :: more) := by
    cases more <;> simp
  have hdrop : (ofText (Text.unlines ((before ++ '{' :: after) :: more))).dropWhile
      (·.brace ≠ .opening) =
        ⟨before.length, .opening⟩ :: ofLines (0 + (before.length + 1)) (after :: more) := by
    rw [ofText, Text.lines_unlines (List.cons_ne_nil _ _) hnewline,
      ofLines_append_opening hafter, List.dropWhile_append_of_pos, List.dropWhile_cons_of_neg]
    · simp
    · intro placed hmem
      simp [hclosing placed hmem]
  rw [span?, hdrop]
  dsimp only
  rw [ofLines_add, closing?_map_shift, htext, List.length_append, List.length_cons]
  cases closing? 0 (ofLines 0 (after :: more)) with
  | none =>
    simp only [Option.map_none, Option.getD_none, Option.some.injEq, Prod.mk.injEq, true_and]
    omega
  | some offset =>
    simp only [Option.map_some, Option.getD_some, Option.some.injEq, Prod.mk.injEq, true_and]
    omega

end Opening

end Braces

/-- The interior of the first body of a text has the **lines up to its closing brace**, the first of
them without what stands before its opening brace. -/
theorem Interior.ofCode?_unlines_of_opens {first : Text} {more : List Text}
    (h : Braces.opens first = true) (hnewline : ∀ line ∈ first :: more, '\n' ∉ line) (line : Int) :
    ofCode? line (Text.unlines (first :: more)) =
      some ⟨line, Text.unlines (Braces.linesToClosing 0 (Braces.afterOpening first :: more))⟩ := by
  obtain ⟨before, after, rfl, hafter, hclosing⟩ := Braces.exists_eq_append_of_opens h
  have htext : Text.unlines ((before ++ '{' :: after) :: more) =
      before ++ '{' :: Text.unlines (after :: more) := by
    cases more <;> simp
  have hcount : before.count '\n' = 0 := by
    refine List.count_eq_zero.2 ?_
    intro hmem
    exact hnewline _ List.mem_cons_self (List.mem_append_left _ hmem)
  rw [ofCode?, Braces.span?_append_opening hafter hclosing hnewline,
    Braces.afterOpening_append hafter hclosing, Option.map_some, htext,
    ← Braces.take_closing?_unlines]
  dsimp only
  rw [List.take_left, hcount, Nat.add_assoc, List.take_length_add_append,
    List.drop_length_add_append, Nat.add_comm 1, List.take_succ_cons]
  simp

/-- An interior **loses lines from its start**, and its number grows by as many. -/
theorem Interior.exists_lines_of_trimmed? {interior inner : Interior}
    (h : interior.trimmed? = some inner) :
    ∃ dropped, interior.text.lines = dropped ++ inner.text.lines ∧
      inner.line = interior.line + (dropped.length : Nat) := by
  unfold trimmed? at h
  split at h
  · cases h
  · next first more hkept =>
    cases h
    have hwhole : interior.text.lines =
        interior.text.lines.takeWhile Text.isAllBlank ++ first :: more := by
      rw [← hkept, List.takeWhile_append_dropWhile]
    have hnewline : ∀ line ∈ first :: more, '\n' ∉ line := by
      intro line hline
      have hmem : line ∈ interior.text.lines := by
        rw [hwhole]
        exact List.mem_append_right _ hline
      exact Text.newline_notMem_of_mem_lines hmem
    refine ⟨interior.text.lines.takeWhile Text.isAllBlank, ?_, ?_⟩
    · rw [Text.lines_unlines (List.cons_ne_nil _ _) hnewline]
      exact hwhole
    · have hlength := congrArg List.length hwhole
      rw [List.length_append] at hlength
      dsimp only
      omega

namespace Statement

/-- The **lines of the interior** of a statement, blank ones at its start included. -/
def innerLines (statement : Statement) : List Text :=
  Braces.linesToClosing 0 (Braces.afterOpening statement.first :: statement.more)

/-- An interior always has a **first** line. -/
theorem innerLines_ne_nil (statement : Statement) : statement.innerLines ≠ [] :=
  Braces.linesToClosing_ne_nil 0 (List.cons_ne_nil _ _)

/-- The **interior** of a statement, from its first line with text on, has these lines. -/
theorem interior?_eq {statement : Statement} (hnewline : ∀ line ∈ statement.lines, '\n' ∉ line) :
    statement.interior? =
      if statement.hasBody then
        Interior.trimmed? ⟨statement.line, Text.unlines statement.innerLines⟩
      else none := by
  unfold interior?
  split
  · next hbody =>
    rw [hasBody_eq_opens] at hbody
    rw [code, lines, Interior.ofCode?_unlines_of_opens hbody hnewline, Option.bind_some]
    rfl
  · rfl

/-- The lines of an interior hold **no newline**. -/
theorem newline_notMem_innerLines {statement : Statement}
    (hnewline : ∀ line ∈ statement.lines, '\n' ∉ line) :
    ∀ line ∈ statement.innerLines, '\n' ∉ line := by
  obtain ⟨hfirst, hmore⟩ := List.forall_mem_cons.1 hnewline
  refine Braces.newline_notMem_linesToClosing (List.forall_mem_cons.2 ⟨?_, hmore⟩) 0
  unfold Braces.afterOpening
  split
  · exact fun hmem => hfirst (List.mem_of_mem_drop hmem)
  · exact List.not_mem_nil

/-- The lines of the interior of a statement are **some of those** between its braces. -/
theorem sublist_innerLines {statement : Statement} {interior : Interior}
    (hnewline : ∀ line ∈ statement.lines, '\n' ∉ line)
    (h : statement.interior? = some interior) :
    interior.text.lines.Sublist statement.innerLines := by
  rw [interior?_eq hnewline] at h
  split at h
  · obtain ⟨dropped, hlines, -⟩ := Interior.exists_lines_of_trimmed? h
    rw [Text.lines_unlines statement.innerLines_ne_nil (newline_notMem_innerLines hnewline)]
      at hlines
    rw [hlines]
    exact List.sublist_append_right dropped _
  · cases h

end Statement

end DiagramOutline
