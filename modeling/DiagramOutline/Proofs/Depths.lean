import DiagramOutline.Proofs.Interiors
import DiagramOutline.Proofs.Tallies

/-! # How deep braces nest

The nesting depth of code is the greatest value of a counter that every opening brace raises and
every closing one lowers, though never below zero. Comments and blank lines do not take part.

* **`keptLines lines`** — the lines that are not skipped.
* **`Braces.inLines lines`** — the braces of lines in order, without their offsets.
* **`Metadata.deepest_append`**, **`Metadata.deepest_mono`** — braces in a row, and braces inside
  more bodies.
* **`Metadata.deepest_le_of_infix`** — braces nest no deeper than the braces they stand among.
* **`Metadata.deepest_body`** — they nest one body less deep than with a body around them.
* **`Metadata.nestingDepth_plain`** — the nesting depth of code is that of the braces of its kept
  lines. -/

namespace DiagramOutline

/-- The lines that are **not skipped**: neither blank nor comments. -/
def keptLines (lines : List Text) : List Text := lines.filter fun line => !isSkipped line

/-- A line that is **skipped** is not kept. -/
theorem keptLines_cons_of_isSkipped {line : Text} (h : isSkipped line = true)
    (more : List Text) : keptLines (line :: more) = keptLines more := by
  simp [keptLines, h]

/-- Any other line is **kept**. -/
theorem keptLines_cons_of_not_isSkipped {line : Text} (h : isSkipped line = false)
    (more : List Text) : keptLines (line :: more) = line :: keptLines more := by
  simp [keptLines, h]

/-- Lines in a row **keep** what each of them keeps. -/
theorem keptLines_append (first second : List Text) :
    keptLines (first ++ second) = keptLines first ++ keptLines second :=
  List.filter_append first second

namespace Braces

/-- The **braces of lines**, one line after the other. -/
def inLines (lines : List Text) : List Brace :=
  lines.flatMap fun line => (ofLine line).map (·.brace)

/-- The braces of a line and more lines are those of **the line** and then those of the others. -/
theorem inLines_cons (line : Text) (more : List Text) :
    inLines (line :: more) = (ofLine line).map (·.brace) ++ inLines more :=
  List.flatMap_cons

/-- Lines **in a row** have their braces in a row. -/
theorem inLines_append (first second : List Text) :
    inLines (first ++ second) = inLines first ++ inLines second :=
  List.flatMap_append

/-- Lines **without braces** may be left out. -/
theorem inLines_filter {keeps : Text → Bool} {lines : List Text}
    (h : ∀ line ∈ lines, keeps line = false → ofLine line = []) :
    inLines (lines.filter keeps) = inLines lines := by
  induction lines with
  | nil => rfl
  | cons line more ih =>
    obtain ⟨hline, hmore⟩ := List.forall_mem_cons.1 h
    cases hkeeps : keeps line with
    | true => rw [List.filter_cons_of_pos hkeeps, inLines_cons, inLines_cons, ih hmore]
    | false =>
      have hleft : ¬ keeps line = true := ne_true_of_eq_false hkeeps
      rw [List.filter_cons_of_neg hleft, inLines_cons, hline hkeeps, ih hmore]
      rfl

/-- The braces of lines are the same **wherever** the lines start. -/
theorem map_brace_ofLines (offset : Nat) (lines : List Text) :
    (ofLines offset lines).map (·.brace) = inLines lines := by
  induction lines generalizing offset with
  | nil => rfl
  | cons line more ih =>
    rw [ofLines, List.map_append, ih, map_brace_scan, ← ofLine, inLines_cons]

end Braces

namespace Metadata

/-! ## The greatest depth -/

/-- Two stretches of braces change the **depth** one after the other. -/
theorem depthAfter_append (depth : Nat) (first second : List Brace) :
    depthAfter depth (first ++ second) = depthAfter (depthAfter depth first) second :=
  List.foldl_append

/-- Two stretches of braces in a row nest as deep as the **deeper one** of them. -/
theorem deepest_append (depth : Nat) (first second : List Brace) :
    deepest depth (first ++ second) =
      max (deepest depth first) (deepest (depthAfter depth first) second) := by
  induction first generalizing depth with
  | nil => exact (Nat.zero_max _).symm
  | cons brace more ih =>
    cases brace with
    | opening =>
      rw [List.cons_append, deepest, ih, deepest, Nat.max_assoc]
      rfl
    | closing => exact ih (depth - 1)

/-- Inside **more bodies** the same braces nest no less deep. -/
theorem deepest_mono {depth depth' : Nat} (h : depth ≤ depth') (braces : List Brace) :
    deepest depth braces ≤ deepest depth' braces := by
  induction braces generalizing depth depth' with
  | nil => exact Nat.le_refl 0
  | cons brace more ih =>
    cases brace with
    | opening =>
      have hmore := ih (Nat.add_le_add_right h 1)
      rw [deepest, deepest]
      omega
    | closing => exact ih (Nat.sub_le_sub_right h 1)

/-- Braces nest no deeper than the braces they **stand among**. -/
theorem deepest_le_of_infix {part whole : List Brace} (h : part <:+: whole) (depth : Nat) :
    deepest 0 part ≤ deepest depth whole := by
  obtain ⟨before, behind, rfl⟩ := h
  have hpart : deepest 0 part ≤ deepest (depthAfter depth before) part :=
    deepest_mono (Nat.zero_le _) part
  rw [deepest_append, deepest_append]
  omega

/-- Where no brace closes a body that was open before, `more` bodies around the braces make them
nest **deeper by as many**. -/
theorem deepest_add_le {depth : Nat} {braces : List PlacedBrace}
    (h : Braces.closing? depth braces = none) (more : Nat) :
    deepest depth (braces.map (·.brace)) + more ≤
      max (depth + more) (deepest (depth + more) (braces.map (·.brace))) := by
  fun_induction Braces.closing? depth braces with
  | case1 depth =>
    rw [List.map_nil, deepest, Nat.zero_add]
    omega
  | case2 depth offset rest ih =>
    have hrest := ih h
    rw [List.map_cons, deepest, deepest]
    rw [Nat.add_right_comm] at hrest
    omega
  | case3 => cases h
  | case4 depth offset rest ih =>
    have hrest := ih h
    rw [List.map_cons, deepest, deepest, Nat.succ_add, Nat.succ_sub_one, Nat.succ_sub_one]
    omega

/-- The braces of a body nest one body **less deep** than with the brace that opens the body, and
whatever stands around it. -/
theorem deepest_body {inside : List PlacedBrace} (h : Braces.closing? 0 inside = none)
    (before behind : List Brace) :
    deepest 0 (inside.map (·.brace)) + 1 ≤
      deepest 0 (before ++ .opening :: (inside.map (·.brace) ++ behind)) := by
  have hpart : .opening :: (inside.map (·.brace) ++ behind) <:+:
      before ++ .opening :: (inside.map (·.brace) ++ behind) :=
    (List.suffix_append _ _).isInfix
  calc deepest 0 (inside.map (·.brace)) + 1
      ≤ deepest 0 (.opening :: (inside.map (·.brace) ++ behind)) := by
        have hone := deepest_add_le h 1
        rw [deepest, deepest_append]
        omega
    _ ≤ _ := deepest_le_of_infix hpart 0

/-! ## The nesting depth of code -/

/-- A line changes the depths **by its braces**, unless it is skipped. -/
theorem readLine_depths (state : Tally × Nat) (line : Text) :
    (readLine state line).1.depth =
        max state.1.depth (deepest state.2 (Braces.inLines (keptLines [line]))) ∧
      (readLine state line).2 = depthAfter state.2 (Braces.inLines (keptLines [line])) := by
  by_cases hskip : isSkipped line = true
  · rw [readLine_of_isSkipped hskip, keptLines_cons_of_isSkipped hskip]
    exact ⟨(Nat.max_zero _).symm, rfl⟩
  · rw [Bool.not_eq_true] at hskip
    have hbraces : Braces.inLines (keptLines [line]) =
        (Braces.ofLine (Text.trim line)).map (·.brace) := by
      rw [keptLines_cons_of_not_isSkipped hskip, Braces.inLines_cons,
        Braces.map_brace_ofLine_trim]
      exact List.append_nil _
    rw [readLine_of_not_isSkipped hskip, hbraces]
    constructor
    · rw [apply_readStatement Tally.depth Tally.depth_addShape Tally.depth_addConnection,
        foldl_noteKey]
      rfl
    · rw [readStatement_eq (foldl_readBrace _ state)]

/-- Lines change the depths by the braces of those that are **kept**. -/
theorem foldl_readLine_depths (state : Tally × Nat) (lines : List Text) :
    (lines.foldl readLine state).1.depth =
        max state.1.depth (deepest state.2 (Braces.inLines (keptLines lines))) ∧
      (lines.foldl readLine state).2 =
        depthAfter state.2 (Braces.inLines (keptLines lines)) := by
  induction lines generalizing state with
  | nil => exact ⟨(Nat.max_zero _).symm, rfl⟩
  | cons line more ih =>
    obtain ⟨hdepth, hafter⟩ := readLine_depths state line
    obtain ⟨hmore, hmore'⟩ := ih (readLine state line)
    have hkept : keptLines (line :: more) = keptLines [line] ++ keptLines more :=
      keptLines_append [line] more
    rw [List.foldl_cons, hmore, hmore', hdepth, hafter, hkept, Braces.inLines_append,
      deepest_append, depthAfter_append, Nat.max_assoc]
    exact ⟨rfl, rfl⟩

/-- **The nesting depth of code** is that of the braces of its kept lines. -/
theorem nestingDepth_plain (code : Text) :
    (plain code).nestingDepth = deepest 0 (Braces.inLines (keptLines code.lines)) := by
  show (code.lines.foldl readLine ({}, 0)).1.depth = _
  rw [(foldl_readLine_depths ({}, 0) code.lines).1]
  exact Nat.zero_max _

end Metadata

end DiagramOutline
