import DiagramOutline.Proofs.Heights
import Mathlib.Data.List.Induction
import Mathlib.Order.Bounds.Basic

/-! # Nesting depth without a counter

The nesting depth of code is found by a counter that never goes below zero. What it finds does not
depend on where such a counter is kept up: it is the greatest surplus of opening braces over closing
ones in any stretch of the braces of the code. A brace that closes nothing only ends the stretches
before it.

* **`surplus braces`** — how many more of `braces` open a body than close one.
* **`exists_suffix_surplus`** — the depth behind braces is the surplus of the last ones of them.
* **`exists_prefix_deepest`** — the greatest depth is the one behind the first ones of them.
* **`isGreatest_surplus`** — the greatest depth is the greatest surplus of a stretch.
* **`Metadata.isGreatest_nestingDepth`** — so is the nesting depth of code, for the braces of the
  lines that are no comments. -/

namespace DiagramOutline

/-- The **surplus** of braces: how many more of them open a body than close one. -/
def surplus (braces : List Brace) : Int := braces.count .opening - braces.count .closing

/-- The surplus of braces in a row is the **sum** of their surpluses. -/
theorem surplus_append (first second : List Brace) :
    surplus (first ++ second) = surplus first + surplus second := by
  simp only [surplus, List.count_append]
  omega

/-- An **opening** brace is one more. -/
@[simp] theorem surplus_cons_opening (braces : List Brace) :
    surplus (.opening :: braces) = 1 + surplus braces :=
  surplus_append [.opening] braces

/-- A **closing** brace is one less. -/
@[simp] theorem surplus_cons_closing (braces : List Brace) :
    surplus (.closing :: braces) = -1 + surplus braces :=
  surplus_append [.closing] braces

namespace Metadata

/-! ## No stretch has a greater surplus -/

/-- A counter that never goes below zero ends **no lower** than one that does. -/
theorem add_surplus_le_depthAfter (depth : Nat) (braces : List Brace) :
    depth + surplus braces ≤ depthAfter depth braces := by
  induction braces generalizing depth with
  | nil => exact Int.le_of_eq (Int.add_zero _)
  | cons brace more ih =>
    cases brace with
    | opening =>
      have hmore : _ ≤ (depthAfter depth (.opening :: more) : Int) := ih (depth + 1)
      rw [surplus_cons_opening]
      omega
    | closing =>
      have hmore : _ ≤ (depthAfter depth (.closing :: more) : Int) := ih (depth - 1)
      rw [surplus_cons_closing]
      omega

/-- Behind braces no more bodies are open than before them or **where most** are. -/
theorem depthAfter_le_max (depth : Nat) (braces : List Brace) :
    depthAfter depth braces ≤ max depth (deepest depth braces) := by
  induction braces generalizing depth with
  | nil => exact Nat.le_max_left _ _
  | cons brace more ih =>
    cases brace with
    | opening =>
      have hmore : depthAfter depth (.opening :: more) ≤ _ := ih (depth + 1)
      rw [deepest]
      omega
    | closing =>
      have hmore : depthAfter depth (.closing :: more) ≤ _ := ih (depth - 1)
      rw [deepest]
      omega

/-- A stretch of braces has a surplus of at most the **greatest depth**. -/
theorem surplus_le_deepest {stretch braces : List Brace} (h : stretch <:+: braces) :
    surplus stretch ≤ deepest 0 braces := by
  have hlow := add_surplus_le_depthAfter 0 stretch
  have hhigh := depthAfter_le_max 0 stretch
  have hwhole := deepest_le_of_infix h 0
  omega

/-! ## Some stretch has that surplus -/

/-- The depth behind braces is the surplus of the **last ones** of them: those behind the last brace
that left the counter at zero. -/
theorem exists_suffix_surplus (braces : List Brace) :
    ∃ last, last <:+ braces ∧ surplus last = depthAfter 0 braces := by
  induction braces using List.reverseRec with
  | nil => exact ⟨[], List.suffix_rfl, rfl⟩
  | append_singleton front brace ih =>
    obtain ⟨last, ⟨before, hlast⟩, hsurplus⟩ := ih
    have hlonger : last ++ [brace] <:+ front ++ [brace] :=
      ⟨before, by rw [← List.append_assoc, hlast]⟩
    rw [depthAfter_append]
    cases brace with
    | opening =>
      refine ⟨last ++ [.opening], hlonger, ?_⟩
      rw [surplus_append, hsurplus]
      rfl
    | closing =>
      cases hdepth : depthAfter 0 front with
      -- the brace closes nothing, and no stretch goes on behind it
      | zero => exact ⟨[], List.nil_suffix, rfl⟩
      | succ depth =>
        refine ⟨last ++ [.closing], hlonger, ?_⟩
        rw [surplus_append, hsurplus, hdepth]
        exact Int.add_neg_cancel_right depth 1

/-- The greatest depth is the one behind the **first ones** of the braces. -/
theorem exists_prefix_deepest (braces : List Brace) :
    ∃ front, front <+: braces ∧ depthAfter 0 front = deepest 0 braces := by
  induction braces using List.reverseRec with
  | nil => exact ⟨[], List.prefix_rfl, rfl⟩
  | append_singleton more brace ih =>
    obtain ⟨front, hfront, hdeepest⟩ := ih
    have hsame : front <+: more ++ [brace] := hfront.trans (List.prefix_append _ _)
    rw [deepest_append, ← hdeepest]
    cases brace with
    | opening =>
      have hnext : deepest (depthAfter 0 more) [.opening] = depthAfter 0 (more ++ [.opening]) := by
        rw [depthAfter_append]
        exact Nat.max_zero _
      rw [hnext]
      by_cases hle : depthAfter 0 (more ++ [.opening]) ≤ depthAfter 0 front
      · exact ⟨front, hsame, (Nat.max_eq_left hle).symm⟩
      · exact ⟨more ++ [.opening], List.prefix_rfl,
          (Nat.max_eq_right (Nat.le_of_not_le hle)).symm⟩
    | closing => exact ⟨front, hsame, (Nat.max_zero _).symm⟩

/-- The greatest depth is the **greatest surplus** of a stretch of the braces, the empty one
included. -/
theorem isGreatest_surplus (braces : List Brace) :
    IsGreatest {height : Int | ∃ stretch, stretch <:+: braces ∧ surplus stretch = height}
      (deepest 0 braces) := by
  constructor
  · obtain ⟨front, hfront, hdeepest⟩ := exists_prefix_deepest braces
    obtain ⟨last, hlast, hsurplus⟩ := exists_suffix_surplus front
    refine ⟨last, hlast.isInfix.trans hfront.isInfix, ?_⟩
    rw [hsurplus, hdeepest]
  · rintro height ⟨stretch, hstretch, rfl⟩
    exact surplus_le_deepest hstretch

/-! ## The nesting depth of code -/

/-- The lines that are **no comments**. -/
def uncommented (lines : List Text) : List Text := lines.filter fun line => !isComment line

/-- The braces of the kept lines are those of the lines that are **no comments**: blank lines have
none. -/
theorem inLines_keptLines_eq (lines : List Text) :
    Braces.inLines (keptLines lines) = Braces.inLines (uncommented lines) := by
  have hkept : keptLines lines = keptLines (uncommented lines) := by
    rw [uncommented, keptLines, keptLines, List.filter_filter]
    refine List.filter_congr ?_
    intro line _
    cases hcomment : isComment line with
    | false => exact (Bool.and_true _).symm
    | true => rw [isSkipped_of_isComment hcomment]; rfl
  rw [hkept]
  refine Outline.inLines_keptLines ?_
  intro line hline hcomment
  have hnot := (List.mem_filter.1 hline).2
  rw [hcomment] at hnot
  cases hnot

/-- **The nesting depth of code** is the greatest surplus of opening braces over closing ones in a
stretch of its braces, comments left out: no stretch has a greater one, and one has just that. A
brace in a literal is none, and no literal goes on past the end of its line. -/
theorem isGreatest_nestingDepth (code : Text) :
    IsGreatest
      {height : Int | ∃ stretch, stretch <:+: Braces.inLines (uncommented code.lines) ∧
        surplus stretch = height}
      (plain code).nestingDepth := by
  rw [nestingDepth_plain, inLines_keptLines_eq]
  exact isGreatest_surplus _

/-- Two braces of this code close nothing, and those of the comment and of the literal are none. -/
example :
    (plain "\x7d a \x7b\n# \x7b \x7b\n\x7d \x7d b \x7b c \x7b \"\x7b\"".toList).nestingDepth =
      2 := by
  decide +kernel

end Metadata

end DiagramOutline
