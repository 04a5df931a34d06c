import DiagramOutline.Proofs.Spans
import Mathlib.Order.Bounds.Basic

/-! # The brace that matches

The span of a body is found line by line, with an offset and a count of open bodies that are carried
from one line to the next. Here the lines are read as one text: a scan that leaves every literal at a
newline finds the braces of all lines, and it may be split at each brace that it finds. So the span
goes from the first opening brace to the first closing one behind it at which the braces between them
balance, and what stands between the two has, as a text of its own, just the braces between them.

* **`Braces.scanText`** — the scan of a whole text; `Braces.ofText_eq_scanText` says that it finds
  the braces of its lines.
* **`Braces.exists_eq_append_of_scanText`** — a text is split at each brace that is found.
* **`Braces.closing?_eq_some_iff`** — what stands before the brace that closes a body.
* **`Braces.BalanceAt text opening closing`** — the braces of `text` balance from one brace to
  another.
* **`Braces.SpansBody text opening closing`** — what is true of a body and the braces around it.
* **`Braces.span?_matching`** — the span of the first body of a text. -/

namespace DiagramOutline

namespace Quoting

/-- Where the scan of a whole text stands **after one more character**: no literal goes on past a
newline. -/
def nextInText (state : Quoting) (c : Char) : Quoting :=
  if c = '\n' then outside else state.next c

/-- A newline is **no brace**, wherever the scan stands. -/
theorem brace?_newline (state : Quoting) : brace? state '\n' = none := by
  cases state <;> rfl

end Quoting

namespace Braces

/-! ## The scan of a whole text -/

/-- The braces of a **whole text** outside literals, when the scan starts in `state` and the text
begins at `offset`. -/
def scanText (state : Quoting) (offset : Nat) : Text → List PlacedBrace
  | [] => []
  | c :: rest =>
    ((state.brace? c).map (PlacedBrace.mk offset)).toList ++
      scanText (state.nextInText c) (offset + 1) rest

/-- The scan of a **whole text** is led on by its characters, and back at each newline. -/
theorem scanText_eq_scanBy (state : Quoting) (offset : Nat) (text : Text) :
    scanText state offset text = scanBy Quoting.nextInText state offset text := by
  induction text generalizing state offset with
  | nil => rfl
  | cons c rest ih => rw [scanText, ih, scanBy]

/-- The scan of a text finds the braces of its first line, from where it starts, and those of the
other lines. -/
theorem scanText_eq_append {text first : Text} {more : List Text}
    (h : text.lines = first :: more) (state : Quoting) (offset : Nat) :
    scanText state offset text =
      scan state offset first ++ ofLines (offset + first.length + 1) more := by
  induction text generalizing state offset first more with
  | nil =>
    cases h
    rfl
  | cons c rest ih =>
    obtain ⟨line, others, hrest⟩ := List.exists_cons_of_ne_nil (Text.lines_ne_nil rest)
    rw [scanText]
    by_cases hc : c = '\n'
    · -- the first line is empty, and the next one starts outside literals
      subst hc
      rw [Text.lines_newline, hrest, List.cons.injEq] at h
      obtain ⟨rfl, rfl⟩ := h
      rw [Quoting.brace?_newline, Quoting.nextInText, if_pos rfl, ih hrest]
      rfl
    · obtain ⟨line', others', hrest', hcons⟩ := Text.lines_cons_of_ne hc rest
      rw [hcons, List.cons.injEq] at h
      obtain ⟨rfl, rfl⟩ := h
      rw [Quoting.nextInText, if_neg hc, ih hrest', scan_cons, List.append_assoc,
        List.length_cons, Nat.add_assoc offset 1, Nat.add_comm 1]

/-- The braces of a text are those that **one scan** of it finds. -/
theorem ofText_eq_scanText (text : Text) : ofText text = scanText .outside 0 text := by
  obtain ⟨first, more, hlines⟩ := List.exists_cons_of_ne_nil (Text.lines_ne_nil text)
  rw [scanText_eq_append hlines, ofText, hlines, ofLines]

/-- A text that starts **further on** has the same braces as a text of its own, further on. -/
theorem scanText_outside (offset : Nat) (text : Text) :
    scanText .outside offset text = (ofText text).map (·.shift offset) := by
  obtain ⟨first, more, hlines⟩ := List.exists_cons_of_ne_nil (Text.lines_ne_nil text)
  rw [scanText_eq_append hlines, ofText, ← ofLines_add, hlines, ofLines, Nat.zero_add]

/-- A text is **split** at each brace that its scan finds: before it stands what has the braces
before, and behind it what has the braces behind. -/
theorem exists_eq_append_of_scanText {state : Quoting} {offset : Nat} {text : Text}
    {before behind : List PlacedBrace} {placed : PlacedBrace}
    (h : scanText state offset text = before ++ placed :: behind) :
    ∃ front back, text = front ++ placed.brace.char :: back ∧
      placed.offset = offset + front.length ∧ scanText state offset front = before ∧
        scanText .outside (placed.offset + 1) back = behind := by
  have hnext : ∀ brace : Brace, Quoting.nextInText .outside brace.char = .outside := by
    rintro (_ | _) <;> decide
  rw [scanText_eq_scanBy] at h
  obtain ⟨front, back, htext, hoffset, hbefore, -, hbehind⟩ := exists_eq_append_of_scanBy hnext h
  rw [← scanText_eq_scanBy] at hbefore hbehind
  exact ⟨front, back, htext, hoffset, hbefore, hbehind⟩

/-- The braces of a scan stand **on the characters** of its text. -/
theorem bounds_of_mem_scanText {state : Quoting} {offset : Nat} {text : Text}
    {placed : PlacedBrace} (h : placed ∈ scanText state offset text) :
    offset ≤ placed.offset ∧ placed.offset < offset + text.length := by
  obtain ⟨before, behind, hsplit⟩ := List.append_of_mem h
  obtain ⟨front, back, rfl, hoffset, -, -⟩ := exists_eq_append_of_scanText hsplit
  rw [List.length_append, List.length_cons]
  omega

section Parted

variable {text : Text} {before behind : List PlacedBrace} {placed : PlacedBrace}
  (h : ofText text = before ++ placed :: behind)

include h

/-- A text is **split** at each of its braces: what stands behind the brace has, as a text of its
own, the braces behind, moved back. -/
theorem exists_eq_append_of_ofText :
    ∃ front back, text = front ++ placed.brace.char :: back ∧ placed.offset = front.length ∧
      ofText front = before ∧ (ofText back).map (·.shift (placed.offset + 1)) = behind := by
  rw [ofText_eq_scanText] at h
  obtain ⟨front, back, htext, hoffset, hbefore, hbehind⟩ := exists_eq_append_of_scanText h
  rw [Nat.zero_add] at hoffset
  rw [← ofText_eq_scanText] at hbefore
  rw [scanText_outside] at hbehind
  exact ⟨front, back, htext, hoffset, hbefore, hbehind⟩

/-- A brace stands **on its character**. -/
theorem getElem?_of_ofText : text[placed.offset]? = some placed.brace.char := by
  obtain ⟨front, back, rfl, hoffset, -, -⟩ := exists_eq_append_of_ofText h
  rw [hoffset, List.getElem?_append_right (Nat.le_refl _), Nat.sub_self]
  rfl

/-- A brace stands **in** its text. -/
theorem offset_lt_length_of_ofText : placed.offset < text.length :=
  (List.getElem?_eq_some_iff.1 (getElem?_of_ofText h)).1

/-- The braces before a brace stand **before** it. -/
theorem offset_lt_of_mem_before : ∀ other ∈ before, other.offset < placed.offset := by
  obtain ⟨front, back, -, hoffset, rfl, -⟩ := exists_eq_append_of_ofText h
  intro other hother
  rw [ofText_eq_scanText] at hother
  have hbounds := bounds_of_mem_scanText hother
  omega

/-- The braces behind a brace stand **behind** it. -/
theorem offset_lt_of_mem_behind : ∀ other ∈ behind, placed.offset < other.offset := by
  obtain ⟨front, back, -, -, -, rfl⟩ := exists_eq_append_of_ofText h
  intro other hother
  obtain ⟨moved, -, rfl⟩ := List.mem_map.1 hother
  exact Nat.lt_of_lt_of_le (Nat.lt_succ_self _) (Nat.le_add_left _ _)

end Parted

/-! ## The brace that closes a body -/

/-- The **closing brace** of a body in which `depth` more are open: the braces before it keep the body
open and close all the others. -/
theorem closing?_eq_some_iff {depth closing : Nat} {braces : List PlacedBrace} :
    closing? depth braces = some closing ↔
      ∃ inside behind, braces = inside ++ ⟨closing, .closing⟩ :: behind ∧
        closing? depth inside = none ∧ (depth : Int) + balance inside = 0 := by
  constructor
  · intro h
    fun_induction closing? depth braces with
    | case1 => cases h
    | case2 depth offset rest ih =>
      obtain ⟨inside, behind, rfl, hnone, hbalance⟩ := ih h
      refine ⟨⟨offset, .opening⟩ :: inside, behind, rfl, hnone, ?_⟩
      rw [balance, Brace.weight]
      omega
    | case3 offset rest =>
      cases h
      exact ⟨[], rest, rfl, rfl, rfl⟩
    | case4 depth offset rest ih =>
      obtain ⟨inside, behind, rfl, hnone, hbalance⟩ := ih h
      refine ⟨⟨offset, .closing⟩ :: inside, behind, rfl, hnone, ?_⟩
      rw [balance, Brace.weight]
      omega
  · rintro ⟨inside, behind, rfl, hnone, hbalance⟩
    rw [closing?_append_of_none hnone, hbalance]
    rfl

/-- A brace that closes as many bodies as are opened before it **closes the body** around them, or
one of the braces before it does. -/
theorem exists_closing?_eq_some {inside : List PlacedBrace} (h : balance inside = 0)
    (offset : Nat) (behind : List PlacedBrace) :
    ∃ closing, closing? 0 (inside ++ ⟨offset, .closing⟩ :: behind) = some closing ∧
      (closing = offset ∨ ⟨closing, .closing⟩ ∈ inside) := by
  cases hinside : closing? 0 inside with
  | none =>
    refine ⟨offset, closing?_eq_some_iff.2 ⟨inside, behind, rfl, hinside, ?_⟩, .inl rfl⟩
    rw [h]
    rfl
  | some closing =>
    exact ⟨closing, closing?_append_of_some hinside _, .inr (mem_of_closing?_eq_some hinside)⟩

/-- The braces of a text **from one offset to another**, both included. -/
def between (text : Text) (first last : Nat) : List PlacedBrace :=
  (ofText text).filter fun placed => first ≤ placed.offset && placed.offset ≤ last

/-- The braces of a text **balance** from the one at `opening` to a closing one behind it. -/
def BalanceAt (text : Text) (opening closing : Nat) : Prop :=
  opening < closing ∧ ⟨closing, .closing⟩ ∈ ofText text ∧
    balance (between text opening closing) = 0

/-- Of braces in a row, those are **kept** that stand neither before nor behind what is kept. -/
theorem filter_eq_middle {keeps : PlacedBrace → Bool} {before kept behind : List PlacedBrace}
    (hbefore : ∀ placed ∈ before, keeps placed = false)
    (hkept : ∀ placed ∈ kept, keeps placed = true)
    (hbehind : ∀ placed ∈ behind, keeps placed = false) :
    (before ++ kept ++ behind).filter keeps = kept := by
  rw [List.filter_append, List.filter_append, List.filter_eq_self.2 hkept,
    List.filter_eq_nil_iff.2 fun placed hmem => ne_true_of_eq_false (hbefore placed hmem),
    List.filter_eq_nil_iff.2 fun placed hmem => ne_true_of_eq_false (hbehind placed hmem),
    List.nil_append, List.append_nil]

section Opened

variable {text : Text} {before inside behind : List PlacedBrace} {opening : Nat}

/-- Of the braces from an opening one on, those **up to** an offset are the first ones. -/
theorem between_eq {last : Nat}
    (h : ofText text = before ++ ⟨opening, .opening⟩ :: (inside ++ behind))
    (hinside : ∀ placed ∈ inside, placed.offset ≤ last)
    (hbehind : ∀ placed ∈ behind, last < placed.offset) (hlast : opening ≤ last) :
    between text opening last = ⟨opening, .opening⟩ :: inside := by
  have hbefore : ∀ placed ∈ before, placed.offset < opening := offset_lt_of_mem_before h
  have hafter : ∀ placed ∈ inside ++ behind, opening < placed.offset := offset_lt_of_mem_behind h
  rw [between, h, ← List.cons_append, ← List.append_assoc]
  refine filter_eq_middle ?_ ?_ ?_
  · intro placed hmem
    have hlt := hbefore placed hmem
    simp only [Bool.and_eq_false_iff, decide_eq_false_iff_not]
    omega
  · rw [List.forall_mem_cons]
    refine ⟨by simp [hlast], ?_⟩
    intro placed hmem
    have hlt := hafter placed (List.mem_append_left _ hmem)
    have hle := hinside placed hmem
    simp only [Bool.and_eq_true, decide_eq_true_eq]
    omega
  · intro placed hmem
    have hlt := hbehind placed hmem
    simp only [Bool.and_eq_false_iff, decide_eq_false_iff_not]
    omega

section Closed

variable {closing : Nat}
  (h : ofText text = before ++ ⟨opening, .opening⟩ :: (inside ++ ⟨closing, .closing⟩ :: behind))

include h

/-- The braces of a text, parted at the **closing** one of two. -/
theorem ofText_eq_append_closing :
    ofText text = (before ++ ⟨opening, .opening⟩ :: inside) ++ ⟨closing, .closing⟩ :: behind := by
  rw [h, List.append_assoc, List.cons_append]

/-- The closing brace stands **behind** the opening one. -/
theorem opening_lt_closing : opening < closing :=
  offset_lt_of_mem_behind h ⟨closing, .closing⟩ (by simp)

/-- The braces inside stand **before the closing one**. -/
theorem offset_lt_closing : ∀ placed ∈ inside, placed.offset < closing := by
  intro placed hmem
  exact offset_lt_of_mem_before (ofText_eq_append_closing h) placed
    (List.mem_append_right _ (List.mem_cons_of_mem _ hmem))

/-- The braces **up to a closing one** are those before it and the closing one itself. -/
theorem between_closing :
    between text opening closing = ⟨opening, .opening⟩ :: (inside ++ [⟨closing, .closing⟩]) := by
  have hsplit : ofText text = before ++
      ⟨opening, .opening⟩ :: ((inside ++ [⟨closing, .closing⟩]) ++ behind) := by
    rw [h, List.append_assoc, List.singleton_append]
  refine between_eq hsplit ?_ (offset_lt_of_mem_behind (ofText_eq_append_closing h))
    (Nat.le_of_lt (opening_lt_closing h))
  intro placed hmem
  rw [List.mem_append, List.mem_singleton] at hmem
  rcases hmem with hmem | rfl
  · exact Nat.le_of_lt (offset_lt_closing h placed hmem)
  · exact Nat.le_refl _

end Closed

/-- A body and its two braces balance as what stands **in the body**. -/
theorem balance_body (opening closing : Nat) (inside : List PlacedBrace) :
    balance (⟨opening, .opening⟩ :: (inside ++ [⟨closing, .closing⟩])) = balance inside := by
  simp only [balance, balance_append, Brace.weight]
  omega

variable {rest : List PlacedBrace} (h : ofText text = before ++ ⟨opening, .opening⟩ :: rest)

include h

/-- The braces balance from the opening one on exactly where a **closing one** comes behind braces
that open as many bodies as they close. -/
theorem balanceAt_iff {closing : Nat} :
    BalanceAt text opening closing ↔
      ∃ inside behind, rest = inside ++ ⟨closing, .closing⟩ :: behind ∧ balance inside = 0 := by
  constructor
  · rintro ⟨hlt, hmem, hbalance⟩
    rw [h, List.mem_append, List.mem_cons] at hmem
    rcases hmem with hmem | heq | hmem
    · have hbefore := offset_lt_of_mem_before h _ hmem
      dsimp only at hbefore
      omega
    · cases heq
    · obtain ⟨inside, behind, rfl⟩ := List.append_of_mem hmem
      rw [between_closing h, balance_body] at hbalance
      exact ⟨inside, behind, rfl, hbalance⟩
  · rintro ⟨inside, behind, rfl, hbalance⟩
    refine ⟨opening_lt_closing h, by simp [h], ?_⟩
    rw [between_closing h, balance_body, hbalance]

/-- The brace that closes the body is the **first** one at which the braces balance. -/
theorem isLeast_balanceAt {closing : Nat} (hclosing : closing? 0 rest = some closing) :
    IsLeast {offset | BalanceAt text opening offset} closing := by
  constructor
  · obtain ⟨inside, behind, hrest, -, hbalance⟩ := closing?_eq_some_iff.1 hclosing
    exact (balanceAt_iff h).2 ⟨inside, behind, hrest, by omega⟩
  · intro offset hoffset
    obtain ⟨inside, behind, rfl, hbalance⟩ := (balanceAt_iff h).1 hoffset
    obtain ⟨found, hfound, hplace⟩ := exists_closing?_eq_some hbalance offset behind
    rw [hclosing] at hfound
    cases hfound
    rcases hplace with rfl | hmem
    · exact Nat.le_refl _
    · exact Nat.le_of_lt (offset_lt_closing h _ hmem)

/-- No brace closes the body exactly where the braces **never balance**. -/
theorem closing?_eq_none_iff_not_balanceAt :
    closing? 0 rest = none ↔ ∀ offset, ¬ BalanceAt text opening offset := by
  constructor
  · intro hnone offset hoffset
    obtain ⟨inside, behind, rfl, hbalance⟩ := (balanceAt_iff h).1 hoffset
    obtain ⟨found, hfound, -⟩ := exists_closing?_eq_some hbalance offset behind
    rw [hnone] at hfound
    cases hfound
  · intro hnever
    cases hclosing : closing? 0 rest with
    | none => rfl
    | some closing => exact absurd (isLeast_balanceAt h hclosing).1 (hnever closing)

/-- Where the **span** ends that begins at the opening brace: at the first brace at which the braces
balance, or with the text. -/
theorem closing?_getD_eq_iff {closing : Nat} :
    (closing? 0 rest).getD text.length = closing ↔
      IsLeast {offset | BalanceAt text opening offset} closing ∨
        (∀ offset, ¬ BalanceAt text opening offset) ∧ closing = text.length := by
  cases hclosing : closing? 0 rest with
  | none =>
    have hnever := (closing?_eq_none_iff_not_balanceAt h).1 hclosing
    rw [Option.getD_none]
    constructor
    · exact fun heq => .inr ⟨hnever, heq.symm⟩
    · rintro (hleast | ⟨-, heq⟩)
      · exact absurd hleast.1 (hnever closing)
      · exact heq.symm
  | some found =>
    have hleast := isLeast_balanceAt h hclosing
    rw [Option.getD_some]
    constructor
    · rintro rfl
      exact .inl hleast
    · rintro (hother | ⟨hnever, -⟩)
      · exact hleast.unique hother
      · exact absurd hleast.1 (hnever found)

end Opened

/-! ## The span of the first body -/

/-- The first opening brace is the one before which all braces **close**. -/
theorem isLeast_opening_iff {text : Text} {opening : Nat} :
    IsLeast {offset | ⟨offset, .opening⟩ ∈ ofText text} opening ↔
      ∃ before rest, ofText text = before ++ ⟨opening, .opening⟩ :: rest ∧
        ∀ placed ∈ before, placed.brace = .closing := by
  constructor
  · rintro ⟨hmem, hleast⟩
    obtain ⟨before, rest, h⟩ := List.append_of_mem hmem
    refine ⟨before, rest, h, ?_⟩
    rintro ⟨offset, brace⟩ hbefore
    cases brace with
    | closing => rfl
    | opening =>
      have hlt := offset_lt_of_mem_before h _ hbefore
      have hin : ⟨offset, .opening⟩ ∈ ofText text := by
        rw [h]
        exact List.mem_append_left _ hbefore
      exact absurd hlt (Nat.not_lt.2 (hleast hin))
  · rintro ⟨before, rest, h, hbefore⟩
    refine ⟨by simp [h], ?_⟩
    intro offset hmem
    rw [Set.mem_ofPred_eq, h, List.mem_append, List.mem_cons] at hmem
    rcases hmem with hmem | heq | hmem
    · cases hbefore _ hmem
    · cases heq
      exact Nat.le_refl _
    · exact Nat.le_of_lt (offset_lt_of_mem_behind h _ hmem)

/-- The span of a text begins at the opening brace **before which all braces close**. -/
theorem span?_of_eq_append {text : Text} {before rest : List PlacedBrace} {opening : Nat}
    (h : ofText text = before ++ ⟨opening, .opening⟩ :: rest)
    (hbefore : ∀ placed ∈ before, placed.brace = .closing) :
    span? text = some (opening, (closing? 0 rest).getD text.length) := by
  have hdrop : (ofText text).dropWhile (·.brace ≠ .opening) = ⟨opening, .opening⟩ :: rest := by
    rw [h, List.dropWhile_append_of_pos, List.dropWhile_cons_of_neg (by simp)]
    intro placed hmem
    simp [hbefore placed hmem]
  rw [span?, hdrop]

/-- A text has no span exactly when it has **no opening brace**. -/
theorem span?_eq_none_iff {text : Text} :
    span? text = none ↔ ∀ offset, ⟨offset, .opening⟩ ∉ ofText text := by
  cases hany : (ofText text).any (·.brace = .opening) with
  | true =>
    obtain ⟨before, opening, rest, h, hbefore⟩ := exists_eq_append_of_any_opening hany
    rw [span?_of_eq_append h hbefore]
    refine iff_of_false (Option.some_ne_none _) ?_
    intro hnone
    refine hnone opening ?_
    rw [h]
    exact List.mem_append_right _ List.mem_cons_self
  | false =>
    have hclosing : ∀ placed ∈ ofText text, placed.brace ≠ .opening := by simpa using hany
    have hdrop : (ofText text).dropWhile (·.brace ≠ .opening) = [] :=
      List.dropWhile_eq_nil_iff.2 (by simpa using hclosing)
    rw [span?, hdrop]
    exact iff_of_true rfl fun offset hmem => hclosing _ hmem rfl

/-- The span of a text begins at an opening brace before which all braces close, and **ends** where
the body that opens there does. -/
theorem span?_eq_some_iff {text : Text} {opening closing : Nat} :
    span? text = some (opening, closing) ↔
      ∃ before rest, ofText text = before ++ ⟨opening, .opening⟩ :: rest ∧
        (∀ placed ∈ before, placed.brace = .closing) ∧
          (closing? 0 rest).getD text.length = closing := by
  constructor
  · intro hspan
    cases hany : (ofText text).any (·.brace = .opening) with
    | true =>
      obtain ⟨before, first, rest, h, hbefore⟩ := exists_eq_append_of_any_opening hany
      rw [span?_of_eq_append h hbefore] at hspan
      cases hspan
      exact ⟨before, rest, h, hbefore, rfl⟩
    | false =>
      have hnone : span? text = none :=
        span?_eq_none_iff.2 fun offset hmem => List.any_eq_false.1 hany _ hmem (by simp)
      rw [hspan] at hnone
      cases hnone
  · rintro ⟨before, rest, h, hbefore, rfl⟩
    exact span?_of_eq_append h hbefore

/-- What is true of a **body** of a text and the braces around it. -/
structure SpansBody (text : Text) (opening closing : Nat) : Prop where
  /-- At the start stands an opening brace. -/
  getElem?_opening : text[opening]? = some '{'
  /-- The end is behind the start. -/
  lt : opening < closing
  /-- The end is not behind the text. -/
  le_length : closing ≤ text.length
  /-- At the end stands a closing brace, unless it is the end of the text. -/
  getElem?_closing : closing < text.length → text[closing]? = some '}'
  /-- The braces from the start on open more bodies than they close in each of their front parts that
  does not reach the end. -/
  balance_pos : ∀ front, front <+: between text opening closing → front ≠ [] →
    front ≠ between text opening closing → 0 < balance front
  /-- Between the two stands a text that has, as a text of its own, the braces between them. -/
  ofText_interior : (ofText ((text.take closing).drop (opening + 1))).map (·.shift (opening + 1)) =
    (ofText text).filter fun placed => opening < placed.offset && placed.offset < closing

section Body

variable {text : Text} {before inside behind : List PlacedBrace} {opening : Nat}

/-- Braces that keep a body open leave **more** bodies open than none, the one around them
included. -/
theorem balance_pos_of_isPrefix (hinside : closing? 0 inside = none) {front : List PlacedBrace}
    (hfront : front <+: ⟨opening, .opening⟩ :: inside) (hne : front ≠ []) : 0 < balance front := by
  obtain rfl | ⟨tail, rfl, htail⟩ := List.prefix_cons_iff.1 hfront
  · exact absurd rfl hne
  · have hle := closing?_eq_none_iff.1 hinside tail htail
    rw [balance, Brace.weight]
    omega

/-- Of the braces of a text, those **strictly between** the two of a body are those in the body. -/
theorem filter_strictly_eq {closing : Nat}
    (h : ofText text = before ++ ⟨opening, .opening⟩ :: (inside ++ behind))
    (hinside : ∀ placed ∈ inside, placed.offset < closing)
    (hbehind : ∀ placed ∈ behind, closing ≤ placed.offset) :
    ((ofText text).filter fun placed => opening < placed.offset && placed.offset < closing) =
      inside := by
  have hbefore : ∀ placed ∈ before, placed.offset < opening := offset_lt_of_mem_before h
  have hafter : ∀ placed ∈ inside ++ behind, opening < placed.offset := offset_lt_of_mem_behind h
  have hsplit : ofText text = (before ++ [⟨opening, .opening⟩]) ++ inside ++ behind := by
    rw [h, List.append_assoc, List.append_assoc, List.singleton_append]
  rw [hsplit]
  refine filter_eq_middle ?_ ?_ ?_
  · intro placed hmem
    have hle : placed.offset ≤ opening := by
      rw [List.mem_append, List.mem_singleton] at hmem
      rcases hmem with hmem | rfl
      · exact Nat.le_of_lt (hbefore placed hmem)
      · exact Nat.le_refl _
    simp only [Bool.and_eq_false_iff, decide_eq_false_iff_not]
    omega
  · intro placed hmem
    have hlt := hafter placed (List.mem_append_left _ hmem)
    have hlt' := hinside placed hmem
    simp only [Bool.and_eq_true, decide_eq_true_eq]
    omega
  · intro placed hmem
    have hle := hbehind placed hmem
    simp only [Bool.and_eq_false_iff, decide_eq_false_iff_not]
    omega

/-- A body that is **never closed** goes on to the end of the text. -/
theorem spansBody_of_open (h : ofText text = before ++ ⟨opening, .opening⟩ :: inside)
    (hinside : closing? 0 inside = none) : SpansBody text opening text.length := by
  have hlt : opening < text.length := offset_lt_length_of_ofText h
  have hsplit : ofText text = before ++ ⟨opening, .opening⟩ :: (inside ++ []) := by
    rw [h, List.append_nil]
  have hends : ∀ placed ∈ inside, placed.offset < text.length := by
    intro placed hmem
    have hin : placed ∈ ofText text := by
      rw [h]
      exact List.mem_append_right _ (List.mem_cons_of_mem _ hmem)
    obtain ⟨first, last, hparted⟩ := List.append_of_mem hin
    exact offset_lt_length_of_ofText hparted
  have hbetween := between_eq hsplit (fun placed hmem => Nat.le_of_lt (hends placed hmem))
    (fun placed hmem => absurd hmem List.not_mem_nil) (Nat.le_of_lt hlt)
  refine ⟨getElem?_of_ofText h, hlt, Nat.le_refl _, fun hend => absurd hend (Nat.lt_irrefl _), ?_, ?_⟩
  · intro front hfront hne _
    rw [hbetween] at hfront
    exact balance_pos_of_isPrefix hinside hfront hne
  · rw [filter_strictly_eq hsplit hends (fun placed hmem => absurd hmem List.not_mem_nil)]
    obtain ⟨front, back, htext, hopening, -, hback⟩ := exists_eq_append_of_ofText h
    dsimp only at hopening hback
    rw [List.take_length, htext, hopening, List.drop_length_add_append, List.drop_succ_cons,
      List.drop_zero, ← hopening, hback]

/-- A body that is closed goes on to the **brace that closes it**. -/
theorem spansBody_of_closed {closing : Nat}
    (h : ofText text = before ++ ⟨opening, .opening⟩ :: (inside ++ ⟨closing, .closing⟩ :: behind))
    (hinside : closing? 0 inside = none) : SpansBody text opening closing := by
  have hparted := ofText_eq_append_closing h
  have hbehind : ∀ placed ∈ ⟨closing, .closing⟩ :: behind, closing ≤ placed.offset := by
    rw [List.forall_mem_cons]
    exact ⟨Nat.le_refl _, fun placed hmem =>
      Nat.le_of_lt (offset_lt_of_mem_behind hparted placed hmem)⟩
  refine ⟨getElem?_of_ofText h, opening_lt_closing h,
    Nat.le_of_lt (offset_lt_length_of_ofText hparted), fun _ => getElem?_of_ofText hparted, ?_, ?_⟩
  · intro front hfront hne hproper
    rw [between_closing h, ← List.cons_append] at hfront hproper
    have hshorter := (List.prefix_concat_iff.1 hfront).resolve_left hproper
    exact balance_pos_of_isPrefix hinside hshorter hne
  · rw [filter_strictly_eq h (offset_lt_closing h) hbehind]
    -- the text behind the opening brace is split once more, at the closing one
    obtain ⟨front, back, htext, hopening, -, hback⟩ := exists_eq_append_of_ofText h
    dsimp only at hopening hback
    rw [← scanText_outside] at hback
    obtain ⟨middle, last, rfl, hclosing, hmiddle, -⟩ := exists_eq_append_of_scanText hback
    dsimp only at hclosing
    have hlength : closing = front.length + (middle.length + 1) := by omega
    rw [htext, hlength, List.take_length_add_append, List.take_succ_cons, List.take_left, hopening,
      List.drop_length_add_append, List.drop_succ_cons, List.drop_zero, ← hopening,
      ← scanText_outside, hmiddle]

end Body

/-- **The braces around the first body.** A text has no span exactly when it has no opening brace.
Otherwise its span goes from the first opening brace to the first closing one behind it at which the
braces from the opening one on balance, or to the end of the text if they never do. On the way there
more bodies are opened than closed, and what stands between the two has, as a text of its own, just
the braces between them. -/
theorem span?_matching (text : Text) :
    (span? text = none ↔ ∀ offset, ⟨offset, .opening⟩ ∉ ofText text) ∧
    ∀ opening closing,
      (span? text = some (opening, closing) ↔
        IsLeast {offset | ⟨offset, .opening⟩ ∈ ofText text} opening ∧
          (IsLeast {offset | BalanceAt text opening offset} closing ∨
            (∀ offset, ¬ BalanceAt text opening offset) ∧ closing = text.length)) ∧
      (span? text = some (opening, closing) → SpansBody text opening closing) := by
  refine ⟨span?_eq_none_iff, ?_⟩
  intro opening closing
  constructor
  · rw [span?_eq_some_iff, isLeast_opening_iff]
    constructor
    · rintro ⟨before, rest, h, hbefore, hclosing⟩
      exact ⟨⟨before, rest, h, hbefore⟩, (closing?_getD_eq_iff h).1 hclosing⟩
    · rintro ⟨⟨before, rest, h, hbefore⟩, hclosing⟩
      exact ⟨before, rest, h, hbefore, (closing?_getD_eq_iff h).2 hclosing⟩
  · intro hspan
    obtain ⟨before, rest, h, -, rfl⟩ := span?_eq_some_iff.1 hspan
    cases hclosing : closing? 0 rest with
    | none => exact spansBody_of_open h hclosing
    | some closing =>
      obtain ⟨inside, behind, rfl, hinside, -⟩ := closing?_eq_some_iff.1 hclosing
      exact spansBody_of_closed h hinside

/-- A text with a closing brace before its first body, a quoted brace, a literal that is left open at
the end of its line, and a second body that is never closed. -/
def strayBraceText : Text :=
  "\x7d x: '\x7b' \x7b\n  \"\x7d\n  b \x7b c \x7d\n\x7d \x7b".toList

/-- Its first body goes from the brace behind the quoted one to the **third** closing brace outside
literals. -/
theorem span?_matching_strayBraceText :
    span? strayBraceText = some (9, 26) ∧
      IsLeast {offset | BalanceAt strayBraceText 9 offset} 26 ∧
        SpansBody strayBraceText 9 26 := by
  have hspan : span? strayBraceText = some (9, 26) := by decide +kernel
  have hlength : strayBraceText.length = 29 := by decide +kernel
  obtain ⟨-, hspans⟩ := span?_matching strayBraceText
  obtain ⟨hiff, hbody⟩ := hspans 9 26
  obtain ⟨-, hleast | ⟨-, hend⟩⟩ := hiff.1 hspan
  · exact ⟨hspan, hleast, hbody hspan⟩
  · rw [hlength] at hend
    cases hend

end Braces

end DiagramOutline
