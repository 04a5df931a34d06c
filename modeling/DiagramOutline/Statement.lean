import DiagramOutline.Brace
import DiagramOutline.Text.Blank

/-! # Statements of a text

The lines of a text, read from the top, fall into statements: a line that opens no body is a
statement of its own, and a line that opens one takes the lines after it until the braces balance.
Blank lines and comments between statements belong to none.

* **`Statement`** — the lines of a statement and the number of the first one.
* **`isSkipped line`** — `line` is blank or a comment.
* **`splitBody depth lines`** — the lines up to the one on which `depth` open bodies are all closed,
  and the lines after it.
* **`statements line lines`** — the statements of `lines`, of which the first has the number
  `line`. -/

namespace DiagramOutline

/-- A **statement**: its lines, and where they stand. -/
structure Statement where
  /-- The number of the first line, counted from zero. -/
  line : Nat
  /-- The first line. -/
  first : Text
  /-- The lines after the first one. -/
  more : List Text
  deriving DecidableEq, Repr

namespace Statement

/-- All the **lines** of a statement. -/
def lines (statement : Statement) : List Text := statement.first :: statement.more

/-- The **text** of a statement. -/
def code (statement : Statement) : Text := Text.unlines statement.lines

/-- The number of the **last** line. -/
def lastLine (statement : Statement) : Nat := statement.line + statement.more.length

/-- Whether a statement has a **body**: its first line opens one. -/
def hasBody (statement : Statement) : Bool := Braces.opens (Text.trim statement.first)

end Statement

/-- Whether a line is **skipped** between statements: it is blank, or a comment. -/
def isSkipped (line : Text) : Bool :=
  match Text.trim line with
  | [] => true
  | c :: _ => c == '#'

/-- The lines **up to** the one on which `depth` open bodies are all closed, with that line, and the
lines after it; all lines if the bodies are never closed. -/
def splitBody (depth : Int) : List Text → List Text × List Text
  | [] => ([], [])
  | line :: rest =>
    let inner := depth + Braces.delta line
    -- a line that closes more bodies than are open ends the statement too
    if inner ≤ 0 then ([line], rest)
    else ((line :: (splitBody inner rest).1), (splitBody inner rest).2)

/-- Splitting at the end of a body loses no line. -/
theorem splitBody_append (depth : Int) (lines : List Text) :
    (splitBody depth lines).1 ++ (splitBody depth lines).2 = lines := by
  induction lines generalizing depth with
  | nil => rfl
  | cons line rest ih =>
    unfold splitBody
    dsimp only
    split
    · rfl
    · rw [List.cons_append, ih]

/-- The lines that a statement takes **after its first one**, and the lines left: none are taken
unless the first line opens a body and leaves it open. -/
def splitStatement (first : Text) (rest : List Text) : List Text × List Text :=
  if Braces.opens (Text.trim first) && 0 < Braces.delta first then
    splitBody (Braces.delta first) rest
  else ([], rest)

/-- A statement loses no line. -/
theorem splitStatement_append (first : Text) (rest : List Text) :
    (splitStatement first rest).1 ++ (splitStatement first rest).2 = rest := by
  unfold splitStatement
  split
  · exact splitBody_append _ _
  · rfl

/-- No more lines are left than there were. -/
theorem length_splitStatement_le (first : Text) (rest : List Text) :
    (splitStatement first rest).2.length ≤ rest.length := by
  have := congrArg List.length (splitStatement_append first rest)
  rw [List.length_append] at this
  omega

/-- The **statements** of lines, of which the first has the number `line`. -/
def statements (line : Nat) : List Text → List Statement
  | [] => []
  | first :: rest =>
    if isSkipped first then statements (line + 1) rest
    else
      ⟨line, first, (splitStatement first rest).1⟩ ::
        statements (line + 1 + (splitStatement first rest).1.length) (splitStatement first rest).2
termination_by lines => lines.length
decreasing_by
  · simp
  · have := length_splitStatement_le first rest
    simp only [List.length_cons]
    omega

/-- The lines of a statement stand **together** among the lines it was found in, with as many lines
before it as its number says. -/
theorem exists_eq_append_of_mem_statements {line : Nat} {lines : List Text} {statement : Statement}
    (h : statement ∈ statements line lines) :
    ∃ before after, lines = before ++ statement.lines ++ after ∧
      statement.line = line + before.length := by
  fun_induction statements line lines with
  | case1 => cases h
  | case2 line first rest _ ih =>
    obtain ⟨before, after, heq, hline⟩ := ih h
    refine ⟨first :: before, after, by simp [heq], ?_⟩
    rw [hline, List.length_cons]
    omega
  | case3 line first rest _ ih =>
    rw [List.mem_cons] at h
    cases h with
    | inl h =>
      subst h
      exact ⟨[], (splitStatement first rest).2,
        by simp [Statement.lines, splitStatement_append], by simp⟩
    | inr h =>
      obtain ⟨before, after, heq, hline⟩ := ih h
      refine ⟨first :: (splitStatement first rest).1 ++ before, after, ?_, ?_⟩
      · rw [List.cons_append, List.cons_append, List.cons_append, List.append_assoc,
          List.append_assoc, ← List.append_assoc before, ← heq, splitStatement_append]
      · rw [hline, List.length_append, List.length_cons]
        omega

namespace Text

/-- Joined lines are no shorter than the join of **some of them** that stand together. -/
theorem length_unlines_le (before middle after : List Text) :
    (unlines middle).length ≤ (unlines (before ++ middle ++ after)).length := by
  induction before with
  | nil =>
    rw [List.nil_append]
    induction middle with
    | nil => simp [unlines]
    | cons line more ih =>
      cases more with
      | nil => cases after <;> simp
      | cons next more =>
        simp only [List.cons_append, unlines_cons_cons, List.length_append,
          List.length_cons] at ih ⊢
        omega
  | cons line before ih =>
    refine Nat.le_trans ih ?_
    cases h : before ++ middle ++ after with
    | nil => simp [unlines]
    | cons next more =>
      simp only [List.cons_append, h, unlines_cons_cons, List.length_append, List.length_cons]
      omega

end Text

/-- A statement of a text is no longer than the text. -/
theorem length_code_le_of_mem_statements {source : Text} {statement : Statement}
    (h : statement ∈ statements 0 source.lines) : statement.code.length ≤ source.length := by
  obtain ⟨before, after, heq, _⟩ := exists_eq_append_of_mem_statements h
  have := Text.length_unlines_le before statement.lines after
  rwa [← heq, Text.unlines_lines] at this

end DiagramOutline
