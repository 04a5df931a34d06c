import DiagramOutline.Proofs.Tallies
import Mathlib.Data.List.Dedup

/-! # Shapes at the top level

The shapes that metadata count are to be those outside all bodies. What is looked at is the depth
behind a line, and whether the line opened a body: a line counts if it ends outside all bodies, or
inside the first one having opened a body itself. This is the depth at its start for lines that are
laid out in the usual way, and for no others.

* **`Metadata.PlacedLine`** — a line that is not skipped, with the depth at which it begins;
  `Metadata.placedLines code` are those of code.
* **`PlacedLine.IsCounted`**, **`PlacedLine.IsTop`** — the line names a shape and counts, or begins
  outside all bodies.
* **`PlacedLine.LaidOut`** — the line is laid out so that the two agree.
* **`Metadata.shapes_foldl_readLine`** — the shapes after lines are the names of those that count.
* **`Metadata.topLevel_shapes_iff`** — the shapes of code, and when they are those at the top. -/

namespace DiagramOutline

open Keyword

/-! ## Names without repetitions -/

namespace Tally

/-- Names with **one more**, unless it is among them. -/
def addNew (names : List Text) (name : Text) : List Text :=
  if names.contains name then names else names ++ [name]

/-- Adding names one after the other adds those that are **new**, each once. -/
theorem foldl_addNew (shapes names : List Text) :
    names.foldl addNew shapes =
      shapes ++ (names.filter fun name => !shapes.contains name).eraseDups := by
  induction names generalizing shapes with
  | nil => simp
  | cons name more ih =>
    rw [List.foldl_cons, ih, addNew]
    by_cases hmem : name ∈ shapes
    · simp [hmem]
    · have hmore : (more.filter fun other => !(shapes ++ [name]).contains other) =
          (more.filter fun other => !shapes.contains other).filter fun other => !other == name := by
        rw [List.filter_filter]
        refine List.filter_congr ?_
        intro other _
        by_cases hother : other = name <;> simp [hother]
      have hcons : ((name :: more).filter fun other => !shapes.contains other) =
          name :: more.filter fun other => !shapes.contains other := by
        simp [hmem]
      rw [hcons, List.eraseDups_cons, ← hmore]
      simp [hmem]

/-- Whether a name is one that **may be counted** as a shape. -/
def isShapeName (name : Text) : Bool := !name.isEmpty && !isDirective name

/-- A shape is **added** to those before it if its name may be counted. -/
theorem shapes_addShape (tally : Tally) (name : Text) :
    (tally.addShape name).shapes =
      if isShapeName name then addNew tally.shapes name else tally.shapes := by
  unfold addShape isShapeName addNew
  cases name.isEmpty <;> cases tally.shapes.contains name <;> cases isDirective name <;> rfl

end Tally

namespace Metadata

/-- Without an **opening** brace no more bodies are open than before. -/
theorem depthAfter_le {braces : List Brace} (h : .opening ∉ braces) (depth : Nat) :
    depthAfter depth braces ≤ depth := by
  induction braces generalizing depth with
  | nil => exact Nat.le_refl depth
  | cons brace more ih =>
    rw [List.mem_cons, not_or] at h
    cases brace with
    | opening => exact absurd rfl h.1
    | closing => exact Nat.le_trans (ih h.2 (depth - 1)) (Nat.sub_le depth 1)

/-! ## Lines and their depths -/

/-- A trimmed line that is not skipped, and the **depth** at which it begins. -/
structure PlacedLine where
  /-- How many bodies are open before the line. -/
  depth : Nat
  /-- The line. -/
  text : Text
  deriving DecidableEq, Repr

namespace PlacedLine

/-- The **braces** of the line. -/
def braces (placed : PlacedLine) : List Brace := (Braces.ofLine placed.text).map (·.brace)

/-- How many bodies are open **behind** the line. -/
def after (placed : PlacedLine) : Nat := depthAfter placed.depth placed.braces

/-- The **identifier** that the line starts with. -/
def name (placed : PlacedLine) : Text := leadingIdentifier placed.text

/-- Whether the line **names a shape**: it is no connection, and starts with an identifier other
than a directive. -/
def namesShape (placed : PlacedLine) : Bool :=
  !hasConnection placed.text && Tally.isShapeName placed.name

/-- The line **counts** as a shape: it ends outside all bodies, or inside the first one having
opened a body itself. -/
def IsCounted (placed : PlacedLine) : Prop :=
  placed.namesShape = true ∧
    (placed.after = 0 ∨ placed.after = 1 ∧ .opening ∈ placed.braces)

instance : DecidablePred IsCounted := fun placed =>
  inferInstanceAs (Decidable (placed.namesShape = true ∧ _))

/-- The line names a shape **at the top**: it begins outside all bodies. -/
def IsTop (placed : PlacedLine) : Prop := placed.namesShape = true ∧ placed.depth = 0

instance : DecidablePred IsTop := fun placed =>
  inferInstanceAs (Decidable (placed.namesShape = true ∧ _))

/-- The line is **laid out** so that its depth can be told from its end. -/
structure LaidOut (placed : PlacedLine) : Prop where
  /-- Outside all bodies, it leaves at most one open. -/
  top : placed.depth = 0 → placed.after ≤ 1
  /-- Inside a body, it leaves one open, and more than one if it opens any. -/
  inside : 0 < placed.depth → 0 < placed.after ∧ (.opening ∈ placed.braces → 1 < placed.after)

/-- A line that names a shape counts **as it should** exactly if it is laid out. -/
theorem isCounted_iff_isTop {placed : PlacedLine} (h : placed.namesShape = true) :
    (placed.IsCounted ↔ placed.IsTop) ↔ placed.LaidOut := by
  simp only [IsCounted, IsTop, h, true_and]
  -- from outside all bodies, a line gets into one only by opening it
  have hopens : placed.depth = 0 → placed.after = 1 → .opening ∈ placed.braces := by
    intro hdepth hafter
    by_contra hnone
    have hle := depthAfter_le hnone placed.depth
    rw [← after] at hle
    omega
  constructor
  · intro hiff
    constructor
    case top =>
      intro hdepth
      rcases hiff.2 hdepth with hafter | ⟨hafter, -⟩ <;> omega
    case inside =>
      intro hdepth
      have hnot : ¬ (placed.after = 0 ∨ placed.after = 1 ∧ .opening ∈ placed.braces) := by
        intro hcounted
        have hzero := hiff.1 hcounted
        omega
      rw [not_or, not_and] at hnot
      refine ⟨by omega, ?_⟩
      intro hopening
      have hne : placed.after ≠ 1 := fun hone => hnot.2 hone hopening
      omega
  · intro hlaid
    constructor
    · intro hcounted
      by_contra hdepth
      obtain ⟨hpos, hmore⟩ := hlaid.inside (Nat.pos_of_ne_zero hdepth)
      rcases hcounted with hafter | ⟨hafter, hopening⟩
      · omega
      · have hlt := hmore hopening
        omega
    · intro hdepth
      have hle := hlaid.top hdepth
      by_cases hafter : placed.after = 0
      · exact .inl hafter
      · have hone : placed.after = 1 := by omega
        exact .inr ⟨hone, hopens hdepth hone⟩

end PlacedLine

/-- The lines that are not skipped, with **the depths at which they begin**, when the first one
begins at the given one. -/
def withDepths (depth : Nat) : List Text → List PlacedLine
  | [] => []
  | line :: more =>
    if isSkipped line then withDepths depth more
    else
      let placed : PlacedLine := ⟨depth, Text.trim line⟩
      placed :: withDepths placed.after more

/-- The lines **of code** that are not skipped, with the depths at which they begin. -/
def placedLines (code : Text) : List PlacedLine := withDepths 0 code.lines

/-- The lines of code that **count** as shapes. -/
def countedLines (code : Text) : List PlacedLine := (placedLines code).filter (·.IsCounted)

/-- The lines of code that name shapes **at the top**. -/
def topLines (code : Text) : List PlacedLine := (placedLines code).filter (·.IsTop)

/-- The **shapes** that lines name, each once, in the order in which they come. -/
def shapeNames (lines : List PlacedLine) : List Text := (lines.map (·.name)).eraseDups

/-! ## Shapes of code -/

/-- What a line that is not skipped does to **shapes and depth**. -/
theorem readStatement_shapes (state : Tally × Nat) (line : Text) :
    (readStatement state line).1.shapes =
        (if (PlacedLine.mk state.2 line).IsCounted then
          Tally.addNew state.1.shapes (leadingIdentifier line) else state.1.shapes) ∧
      (readStatement state line).2 = (PlacedLine.mk state.2 line).after := by
  obtain ⟨reached, hfold⟩ :=
    exists_foldl_readBrace ((Braces.ofLine line).map (·.brace)) state
  generalize hdepth : depthAfter state.2 ((Braces.ofLine line).map (·.brace)) = depth at hfold
  rw [readStatement_eq hfold, foldl_noteKey]
  refine ⟨?_, hdepth.symm⟩
  have hcounted : (PlacedLine.mk state.2 line).IsCounted ↔
      (hasConnection line = false ∧ Tally.isShapeName (leadingIdentifier line) = true) ∧
        (depth = 0 ∨ depth = 1 ∧ .opening ∈ (Braces.ofLine line).map (·.brace)) := by
    have hafter : (PlacedLine.mk state.2 line).after = depth := hdepth
    simp only [PlacedLine.IsCounted, PlacedLine.namesShape, hafter, Bool.and_eq_true,
      Bool.not_eq_true']
    rfl
  rw [if_congr hcounted rfl rfl]
  by_cases htoken : hasConnection line = true
  · simp [htoken, Tally.addConnection]
  · rw [Bool.not_eq_true] at htoken
    by_cases htop : depth = 0 ∨ depth = 1 ∧ .opening ∈ (Braces.ofLine line).map (·.brace)
    · simp only [htoken, htop, Bool.false_eq_true, if_false, if_true, true_and, and_true,
        Tally.shapes_addShape]
    · simp only [htoken, htop, Bool.false_eq_true, if_false, and_false]

/-- **The shapes after lines** are those before and the names of the lines that count, each once. -/
theorem shapes_foldl_readLine (state : Tally × Nat) (lines : List Text) :
    (lines.foldl readLine state).1.shapes =
      (((withDepths state.2 lines).filter (·.IsCounted)).map (·.name)).foldl Tally.addNew
        state.1.shapes := by
  induction lines generalizing state with
  | nil => rfl
  | cons line more ih =>
    rw [List.foldl_cons, ih, withDepths]
    by_cases hskip : isSkipped line = true
    · rw [readLine_of_isSkipped hskip, if_pos hskip]
    · rw [Bool.not_eq_true] at hskip
      obtain ⟨hshapes, hdepth⟩ := readStatement_shapes state (Text.trim line)
      rw [readLine_of_not_isSkipped hskip, hshapes, hdepth, hskip]
      by_cases hcounted : (PlacedLine.mk state.2 (Text.trim line)).IsCounted
      · simp [hcounted, PlacedLine.name]
      · simp [hcounted]

/-- The shapes of code are the names of the lines that **count**. -/
theorem shapes_plain (code : Text) :
    (code.lines.foldl readLine ({}, 0)).1.shapes = shapeNames (countedLines code) := by
  rw [shapes_foldl_readLine, Tally.foldl_addNew]
  simp [shapeNames, countedLines, placedLines]

/-- The lines that count are those at the top exactly if **each line** counts where it begins at the
top, and nowhere else. -/
theorem countedLines_eq_topLines_iff (code : Text) :
    countedLines code = topLines code ↔
      ∀ placed ∈ placedLines code, placed.IsCounted ↔ placed.IsTop := by
  constructor
  · intro h placed hmem
    have hiff : placed ∈ countedLines code ↔ placed ∈ topLines code := by rw [h]
    simpa [countedLines, topLines, hmem] using hiff
  · intro h
    apply List.filter_congr
    intro placed hmem
    simp [h placed hmem]

/-- **The shapes of code, and when they are those at the top.**

The shapes are the names of the lines that count, each once, and the first five of them are listed.
The lines that count are those that begin outside all bodies exactly if each line that names a shape
is laid out: outside all bodies it leaves at most one open, and inside a body it neither closes all
of them nor, having opened one, leaves just one. -/
theorem topLevel_shapes_iff (code : Text) :
    ((plain code).shapeCount = (shapeNames (countedLines code)).length ∧
      (plain code).topIdentifiers = (shapeNames (countedLines code)).take maxTopIdentifiers) ∧
    (countedLines code = topLines code ↔
      ∀ placed ∈ placedLines code, placed.namesShape = true → placed.LaidOut) := by
  refine ⟨?_, ?_⟩
  · rw [← shapes_plain]
    exact ⟨rfl, rfl⟩
  · rw [countedLines_eq_topLines_iff]
    constructor
    · intro h placed hmem hnames
      exact (PlacedLine.isCounted_iff_isTop hnames).1 (h placed hmem)
    · intro h placed hmem
      by_cases hnames : placed.namesShape = true
      · exact (PlacedLine.isCounted_iff_isTop hnames).2 (h placed hmem hnames)
      · simp [PlacedLine.IsCounted, PlacedLine.IsTop, hnames]

/-- A body on a line of its own **inside** another body. -/
def nestedBodySource : Text := "a \x7b\n  b \x7b c \x7d\n\x7d".toList

/-- It **counts** as a shape, though it begins inside a body. -/
theorem nestedBody_counts :
    (plain nestedBodySource).topIdentifiers = ["a".toList, "b".toList] ∧
      shapeNames (topLines nestedBodySource) = ["a".toList] := by
  decide +kernel

end Metadata

end DiagramOutline
