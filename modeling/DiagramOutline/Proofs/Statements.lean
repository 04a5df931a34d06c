import DiagramOutline.Proofs.Braces
import DiagramOutline.Statement

/-! # How statements divide the lines of a text

The statements of a text stand one after the other, share no line, and leave out only blank lines
and comments. A statement whose first line opens a body goes on to the first line on which as many
braces were closed as opened, or to the end of the text; any other statement is one line.

* **`pairwise_statements`** — statements are in order and disjoint.
* **`exists_mem_statements_of_not_isSkipped`** — each line with text that is no comment belongs to
  one.
* **`Braces.balanceThrough lines first last`** — the balance of the braces on the lines from `first`
  through `last`.
* **`Braces.closingLine? lines first`** — the first line through which this balance is not positive.
* **`Statement.lastLine_eq_of_hasBody`** — a statement with a body ends there. -/

namespace DiagramOutline

/-! ## Skipped lines -/

/-- A line with text behind its blanks is **skipped** only if the text starts with a number
sign. -/
theorem isSkipped_append {before : Text} {c : Char} (hbefore : Text.isAllBlank before = true)
    (hc : Text.isBlank c = false) (rest : Text) : isSkipped (before ++ c :: rest) = (c == '#') := by
  obtain ⟨kept, hkept⟩ := Text.exists_trim_append_cons hbefore hc rest
  rw [isSkipped, hkept]

/-- A **blank** line is skipped. -/
theorem isSkipped_of_isAllBlank {line : Text} (h : Text.isAllBlank line = true) :
    isSkipped line = true := by
  rw [isSkipped, Text.trim_of_isAllBlank h]

/-! ## Order -/

/-- No statement begins **before** the lines it was found in. -/
theorem le_line_of_mem_statements {line : Nat} {lines : List Text} {statement : Statement}
    (h : statement ∈ statements line lines) : line ≤ statement.line := by
  obtain ⟨before, -, -, hline⟩ := exists_eq_append_of_mem_statements h
  rw [hline]
  exact Nat.le_add_right _ _

/-- No statement ends **after** the lines it was found in. -/
theorem lastLine_lt_of_mem_statements {line : Nat} {lines : List Text} {statement : Statement}
    (h : statement ∈ statements line lines) : statement.lastLine < line + lines.length := by
  obtain ⟨before, after, hlines, hline⟩ := exists_eq_append_of_mem_statements h
  have hlength := congrArg List.length hlines
  rw [List.length_append, List.length_append, Statement.lines, List.length_cons] at hlength
  rw [Statement.lastLine, hline, hlength]
  omega

/-- Statements are **in order**, each one ending before the next ones begin. -/
theorem pairwise_statements (line : Nat) (lines : List Text) :
    (statements line lines).Pairwise fun first second => first.lastLine < second.line := by
  fun_induction statements line lines with
  | case1 => exact .nil
  | case2 line first rest _ ih => exact ih
  | case3 line first rest _ ih =>
    refine List.pairwise_cons.2 ⟨?_, ih⟩
    intro later hlater
    have hle := le_line_of_mem_statements hlater
    dsimp only [Statement.lastLine]
    omega

/-- Each line that is **not skipped** belongs to a statement. -/
theorem exists_mem_statements_of_not_isSkipped (line : Nat) {index : Nat} {lines : List Text}
    {text : Text} (hget : lines[index]? = some text) (hskip : isSkipped text = false) :
    ∃ statement ∈ statements line lines,
      statement.line ≤ line + index ∧ line + index ≤ statement.lastLine := by
  fun_induction statements line lines generalizing index with
  | case1 => cases hget
  | case2 line first rest hfirst ih =>
    cases index with
    | zero =>
      -- the line at the front is a skipped one, so it is not ours
      cases hget
      rw [hfirst] at hskip
      cases hskip
    | succ index =>
      obtain ⟨statement, hmem, hle, hge⟩ := ih hget
      exact ⟨statement, hmem, by omega, by omega⟩
  | case3 line first rest _ ih =>
    have hlength := congrArg List.length (splitStatement_append first rest)
    rw [List.length_append] at hlength
    -- the line is one of the statement's own, or it is left for the statements after it
    by_cases hin : index ≤ (splitStatement first rest).1.length
    · refine ⟨_, List.mem_cons_self, Nat.le_add_right _ _, ?_⟩
      exact Nat.add_le_add_left hin line
    · have hafter : (splitStatement first rest).2[index - 1 - (splitStatement first rest).1.length]?
          = some text := by
        obtain ⟨index, rfl⟩ := Nat.exists_eq_succ_of_ne_zero (n := index) (by omega)
        rw [List.getElem?_cons_succ, ← splitStatement_append first rest,
          List.getElem?_append_right (by omega)] at hget
        exact hget
      obtain ⟨statement, hmem, hle, hge⟩ := ih hafter
      exact ⟨statement, List.mem_cons_of_mem _ hmem, by omega, by omega⟩

/-- The code of a statement has the **lines** of the statement. -/
theorem Statement.lines_code {source : Text} {statement : Statement}
    (h : statement ∈ statements 0 source.lines) : statement.code.lines = statement.lines := by
  obtain ⟨before, after, hlines, -⟩ := exists_eq_append_of_mem_statements h
  refine Text.lines_unlines (List.cons_ne_nil _ _) ?_
  intro line hline
  have hsource : line ∈ source.lines := by
    rw [hlines]
    exact List.mem_append_left _ (List.mem_append_right _ hline)
  exact Text.newline_notMem_of_mem_lines hsource

/-! ## Where bodies end -/

namespace Braces

/-- The **balance** of the braces on the lines from `first` through `last`. -/
def balanceThrough (lines : List Text) (first last : Nat) : Int :=
  (((lines.take (last + 1)).drop first).map delta).sum

/-- The line that **closes** the bodies opened on the lines from `first` on: the first one through
which the balance is not positive. -/
def closingLine? (lines : List Text) (first : Nat) : Option Nat :=
  (List.range' first (lines.length - first)).find? fun last => balanceThrough lines first last ≤ 0

/-- A line is the **closing** one, or the last one where there is none, if the balance is positive
through each line before it and the line itself closes the balance or is the last. -/
theorem eq_closingLine?_getD {lines : List Text} {first last : Nat} (hfirst : first ≤ last)
    (hlast : last < lines.length)
    (hopen : ∀ line, first ≤ line → line < last → 0 < balanceThrough lines first line)
    (hclosed : balanceThrough lines first last ≤ 0 ∨ last + 1 = lines.length) :
    last = (closingLine? lines first).getD (lines.length - 1) := by
  by_cases hbalance : balanceThrough lines first last ≤ 0
  -- no line before it closes the balance, so the search stops at this one
  · have hfound : closingLine? lines first = some last := by
      rw [closingLine?, List.find?_range'_eq_some]
      refine ⟨decide_eq_true hbalance, List.mem_range'_1.2 ⟨hfirst, by omega⟩, ?_⟩
      intro line hle hlt
      have hpos := hopen line hle hlt
      rw [Bool.not_eq_true', decide_eq_false_iff_not]
      omega
    rw [hfound, Option.getD_some]
  -- no line closes the balance, so the search finds none
  · have hend : last + 1 = lines.length := hclosed.resolve_left hbalance
    have hnone : closingLine? lines first = none := by
      rw [closingLine?, List.find?_range'_eq_none]
      intro line hle hlt
      rw [Bool.not_eq_true', decide_eq_false_iff_not]
      by_cases hline : line = last
      · rwa [hline]
      · have hpos := hopen line hle (by omega)
        omega
    rw [hnone, Option.getD_none]
    omega

end Braces

/-- Before its **last line** the lines taken for a body leave a body open. -/
theorem splitBody_open {depth : Int} {lines : List Text} {count : Nat}
    (h : count + 1 < (splitBody depth lines).1.length) :
    0 < depth + ((lines.take (count + 1)).map Braces.delta).sum := by
  induction lines generalizing depth count with
  | nil => cases h
  | cons line rest ih =>
    unfold splitBody at h
    dsimp only at h
    split at h
    -- the body is closed on its only line, so there is no line before the last one
    · rw [List.length_singleton] at h
      omega
    · next hinner =>
      rw [List.take_succ_cons, List.map_cons, List.sum_cons, ← Int.add_assoc]
      cases count with
      | zero =>
        rw [List.take_zero, List.map_nil, List.sum_nil]
        omega
      | succ count =>
        rw [List.length_cons] at h
        exact ih (by omega)

/-- The lines taken for a body **close** it, or no line is left. -/
theorem splitBody_closed (depth : Int) (lines : List Text) :
    depth + ((splitBody depth lines).1.map Braces.delta).sum ≤ 0 ∨
      (splitBody depth lines).2 = [] := by
  induction lines generalizing depth with
  | nil => exact .inr rfl
  | cons line rest ih =>
    unfold splitBody
    dsimp only
    split
    · next hinner =>
      left
      rw [List.map_cons, List.sum_cons, List.map_nil, List.sum_nil]
      omega
    · rw [List.map_cons, List.sum_cons, ← Int.add_assoc]
      exact ih (depth + Braces.delta line)

/-- Before its **last line** a statement leaves a body open. -/
theorem splitStatement_open {first : Text} {rest : List Text} {count : Nat}
    (h : count < (splitStatement first rest).1.length) :
    0 < (((first :: rest).take (count + 1)).map Braces.delta).sum := by
  unfold splitStatement at h
  split at h
  · next hopens =>
    rw [Bool.and_eq_true, decide_eq_true_eq] at hopens
    rw [List.take_succ_cons, List.map_cons, List.sum_cons]
    cases count with
    | zero =>
      rw [List.take_zero, List.map_nil, List.sum_nil]
      omega
    | succ count => exact splitBody_open h
  · cases h

/-- A statement with a body **closes** it, or no line is left. -/
theorem splitStatement_closed {first : Text} (h : Braces.opens (Text.trim first) = true)
    (rest : List Text) :
    ((first :: (splitStatement first rest).1).map Braces.delta).sum ≤ 0 ∨
      (splitStatement first rest).2 = [] := by
  rw [List.map_cons, List.sum_cons]
  unfold splitStatement
  split
  · exact splitBody_closed _ rest
  · next hopens =>
    left
    rw [h, Bool.true_and, decide_eq_true_eq] at hopens
    rw [List.map_nil, List.sum_nil]
    omega

/-- The lines taken for a body that are **followed by others** are taken whatever these are. -/
theorem splitBody_append_of_ne_nil {depth : Int} {lines : List Text}
    (h : (splitBody depth lines).2 ≠ []) (other : List Text) :
    splitBody depth ((splitBody depth lines).1 ++ other) = ((splitBody depth lines).1, other) := by
  induction lines generalizing depth with
  | nil => exact absurd rfl h
  | cons line rest ih =>
    by_cases hinner : depth + Braces.delta line ≤ 0
    · simp [splitBody, hinner]
    · have hrest : splitBody depth (line :: rest) =
          (line :: (splitBody (depth + Braces.delta line) rest).1,
            (splitBody (depth + Braces.delta line) rest).2) := by
        rw [splitBody, if_neg hinner]
      rw [hrest] at h ⊢
      rw [List.cons_append, splitBody, if_neg hinner, ih h]

/-- The lines of a statement that are **followed by others** are taken whatever these are. -/
theorem splitStatement_append_of_ne_nil {first : Text} {rest : List Text}
    (h : (splitStatement first rest).2 ≠ []) (other : List Text) :
    splitStatement first ((splitStatement first rest).1 ++ other) =
      ((splitStatement first rest).1, other) := by
  unfold splitStatement at h ⊢
  split
  · next hopens =>
    rw [if_pos hopens] at h
    exact splitBody_append_of_ne_nil h other
  · rfl

/-- The first line of a statement is **not skipped**. -/
theorem isSkipped_first_of_mem_statements {line : Nat} {lines : List Text} {statement : Statement}
    (h : statement ∈ statements line lines) : isSkipped statement.first = false := by
  fun_induction statements line lines with
  | case1 => cases h
  | case2 line first rest _ ih => exact ih h
  | case3 line first rest hskip ih =>
    rw [List.mem_cons] at h
    cases h with
    | inl h =>
      subst h
      exact Bool.eq_false_iff.2 hskip
    | inr h => exact ih h

/-- Lines that are all **skipped** hold no statement. -/
theorem statements_eq_nil {lines : List Text} (h : ∀ line ∈ lines, isSkipped line = true)
    (line : Nat) : statements line lines = [] := by
  induction lines generalizing line with
  | nil => rw [statements]
  | cons first rest ih =>
    obtain ⟨hfirst, hrest⟩ := List.forall_mem_cons.1 h
    rw [statements, if_pos hfirst]
    exact ih hrest (line + 1)

/-- A skipped line that **no statement takes** may be replaced by another one: the statements stay
the same. -/
theorem statements_set {line index : Nat} {lines : List Text} {old new : Text}
    (hget : lines[index]? = some old) (hold : isSkipped old = true) (hnew : isSkipped new = true)
    (h : ∀ statement ∈ statements line lines,
      ¬ (statement.line ≤ line + index ∧ line + index ≤ statement.lastLine)) :
    statements line (lines.set index new) = statements line lines := by
  fun_induction statements line lines generalizing index with
  | case1 => cases hget
  | case2 line first rest hskip ih =>
    cases index with
    | zero => rw [List.set_cons_zero, statements, if_pos hnew]
    | succ index =>
      rw [List.set_cons_succ, statements, if_pos hskip]
      refine ih hget ?_
      intro statement hmem
      have hcovers := h statement hmem
      omega
  | case3 line first rest hskip ih =>
    obtain ⟨hfirst, hmore⟩ := List.forall_mem_cons.1 h
    cases index with
    | zero =>
      cases hget
      exact absurd hold hskip
    | succ index =>
      simp only [Statement.lastLine] at hfirst
      -- the line stands behind those of the first statement
      obtain ⟨behind, rfl⟩ : ∃ behind, index = (splitStatement first rest).1.length + behind :=
        Nat.exists_eq_add_of_le (by omega)
      have hsplit := splitStatement_append first rest
      have hleft : (splitStatement first rest).2[behind]? = some old := by
        rw [List.getElem?_cons_succ] at hget
        have hwhole := congrArg (·[(splitStatement first rest).1.length + behind]?) hsplit
        rwa [List.getElem?_append_right (Nat.le_add_right _ _), Nat.add_sub_cancel_left,
          hget] at hwhole
      have hne : (splitStatement first rest).2 ≠ [] := by
        intro hnil
        rw [hnil] at hleft
        cases hleft
      have hset : rest.set ((splitStatement first rest).1.length + behind) new =
          (splitStatement first rest).1 ++ (splitStatement first rest).2.set behind new := by
        have hwhole := congrArg (·.set ((splitStatement first rest).1.length + behind) new) hsplit
        rw [← hwhole, List.set_append_right _ _ (Nat.le_add_right _ _), Nat.add_sub_cancel_left]
      rw [List.set_cons_succ, hset, statements, if_neg hskip, splitStatement_append_of_ne_nil hne]
      refine congrArg _ (ih hleft ?_)
      intro statement hmem
      have hcovers := hmore statement hmem
      omega

/-- A statement is **split off** the lines from its first one on. -/
theorem exists_splitStatement_of_mem_statements {line : Nat} {lines : List Text}
    {statement : Statement} (h : statement ∈ statements line lines) :
    ∃ before rest, lines = before ++ statement.first :: rest ∧
      statement.line = line + before.length ∧
        statement.more = (splitStatement statement.first rest).1 := by
  fun_induction statements line lines with
  | case1 => cases h
  | case2 line first rest _ ih =>
    obtain ⟨before, left, hrest, hline, hmore⟩ := ih h
    refine ⟨first :: before, left, ?_, ?_, hmore⟩
    · rw [hrest, List.cons_append]
    · rw [hline, List.length_cons]
      omega
  | case3 line first rest _ ih =>
    rw [List.mem_cons] at h
    cases h with
    | inl h =>
      subst h
      exact ⟨[], rest, rfl, rfl, rfl⟩
    | inr h =>
      obtain ⟨before, left, hrest, hline, hmore⟩ := ih h
      refine ⟨first :: (splitStatement first rest).1 ++ before, left, ?_, ?_, hmore⟩
      · rw [List.append_assoc, ← hrest, List.cons_append, splitStatement_append]
      · rw [hline, List.length_append, List.length_cons]
        omega

namespace Statement

/-- A statement has a body exactly when its first line **opens** one. -/
theorem hasBody_eq_opens (statement : Statement) :
    statement.hasBody = Braces.opens statement.first :=
  Braces.opens_trim statement.first

/-- The first line of a statement stands **where its number says**. -/
theorem getElem?_line {lines : List Text} {statement : Statement}
    (h : statement ∈ statements 0 lines) : lines[statement.line]? = some statement.first := by
  obtain ⟨before, rest, hlines, hline, -⟩ := exists_splitStatement_of_mem_statements h
  rw [hlines, hline, Nat.zero_add, List.getElem?_append_right (Nat.le_refl _), Nat.sub_self]
  rfl

/-- A statement **without a body** is one line. -/
theorem lastLine_eq_of_not_hasBody {line : Nat} {lines : List Text} {statement : Statement}
    (h : statement ∈ statements line lines) (hbody : statement.hasBody = false) :
    statement.lastLine = statement.line := by
  obtain ⟨before, rest, -, -, hmore⟩ := exists_splitStatement_of_mem_statements h
  have hsplit : splitStatement statement.first rest = ([], rest) := by
    rw [splitStatement]
    exact if_neg (by rw [show Braces.opens (Text.trim statement.first) = false from hbody]; simp)
  rw [lastLine, hmore, hsplit]
  rfl

/-- A statement **with a body** goes on to the line that closes it, or to the last line where none
does. -/
theorem lastLine_eq_of_hasBody {lines : List Text} {statement : Statement}
    (h : statement ∈ statements 0 lines) (hbody : statement.hasBody = true) :
    statement.lastLine = (Braces.closingLine? lines statement.line).getD (lines.length - 1) := by
  have hlt := lastLine_lt_of_mem_statements h
  rw [Nat.zero_add] at hlt
  obtain ⟨before, rest, hlines, hline, hmore⟩ := exists_splitStatement_of_mem_statements h
  rw [Nat.zero_add] at hline
  -- the balances are sums over the lines from the statement's first one on
  have hbalance : ∀ count, Braces.balanceThrough lines statement.line (statement.line + count) =
      (((statement.first :: rest).take (count + 1)).map Braces.delta).sum := by
    intro count
    rw [Braces.balanceThrough, hlines, hline, Nat.add_assoc, List.take_length_add_append,
      List.drop_left]
  have hsplit := splitStatement_append statement.first rest
  rw [← hmore] at hsplit
  refine Braces.eq_closingLine?_getD (Nat.le_add_right _ _) hlt ?_ ?_
  · intro line hle hless
    obtain ⟨count, rfl⟩ := Nat.exists_eq_add_of_le hle
    rw [hbalance]
    rw [lastLine, hmore] at hless
    exact splitStatement_open (by omega)
  · rw [lastLine, hbalance]
    have hclosed := splitStatement_closed hbody rest
    rw [← hmore] at hclosed
    -- the lines of the statement close its bodies, or they are the last ones of the text
    cases hclosed with
    | inl hsum =>
      left
      rwa [← hsplit, List.take_succ_cons, List.take_left]
    | inr hleft =>
      right
      have hlength := congrArg List.length hsplit
      rw [hleft, List.append_nil] at hlength
      rw [hlines, hline, List.length_append, List.length_cons, hlength]
      omega

end Statement

end DiagramOutline
