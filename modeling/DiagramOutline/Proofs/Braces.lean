import DiagramOutline.Brace
import DiagramOutline.Proofs.Trimming
import Mathlib.Algebra.Ring.Int.Defs

/-! # Braces of texts that are put together

The braces of a line depend on where its string literals stand, and on nothing else around them. So
blanks at the ends of a line, which neither quote nor nest, make no difference to them.

* **`PlacedBrace.shift distance placed`** — a brace moved on.
* **`Braces.scanBy next`** — the scan for braces that each character leads on by `next`;
  `Braces.exists_eq_append_of_scanBy` splits a text at each brace that it finds.
* **`Braces.scan_add`** — a scan that starts further on finds the same braces further on.
* **`Braces.Quiet text`** — a text that nests nothing and leaves no literal open.
* **`Braces.opens_trim`** — trimming a line does not change whether it opens a body. -/

namespace DiagramOutline

/-- A brace **moved on** by a distance. -/
def PlacedBrace.shift (distance : Nat) (placed : PlacedBrace) : PlacedBrace :=
  ⟨placed.offset + distance, placed.brace⟩

/-- A brace is found only **outside** literals, on its character. -/
theorem Quoting.of_brace?_eq_some {state : Quoting} {c : Char} {brace : Brace}
    (h : state.brace? c = some brace) : state = outside ∧ c = brace.char := by
  cases state with
  | outside => exact ⟨rfl, Brace.ofChar?_eq_some_iff.1 h⟩
  | inside quote => cases h
  | escaped quote => cases h

namespace Braces

/-! ## Scans -/

/-- The braces that a scan finds when it starts in `state`, the text begins at `offset`, and each
character leads it on by `next`. -/
def scanBy (next : Quoting → Char → Quoting) (state : Quoting) (offset : Nat) :
    Text → List PlacedBrace
  | [] => []
  | c :: rest =>
    ((state.brace? c).map (PlacedBrace.mk offset)).toList ++
      scanBy next (next state c) (offset + 1) rest

/-- The scan of a **line** is led on by the characters of the line. -/
theorem scan_eq_scanBy (state : Quoting) (offset : Nat) (text : Text) :
    scan state offset text = scanBy Quoting.next state offset text := by
  induction text generalizing state offset with
  | nil => rfl
  | cons c rest ih => rw [scan_cons, ih, scanBy]

/-- A text is **split** at each brace that a scan finds, if no brace opens a literal: before it stands
what has the braces before, and behind it, where the scan stands outside literals, what has the braces
behind. -/
theorem exists_eq_append_of_scanBy {next : Quoting → Char → Quoting}
    (hnext : ∀ brace : Brace, next .outside brace.char = .outside) {state : Quoting} {offset : Nat}
    {text : Text} {before behind : List PlacedBrace} {placed : PlacedBrace}
    (h : scanBy next state offset text = before ++ placed :: behind) :
    ∃ front back, text = front ++ placed.brace.char :: back ∧
      placed.offset = offset + front.length ∧ scanBy next state offset front = before ∧
        front.foldl next state = .outside ∧
          scanBy next .outside (placed.offset + 1) back = behind := by
  induction text generalizing state offset before with
  | nil => exact absurd h.symm (List.append_ne_nil_of_right_ne_nil _ (List.cons_ne_nil _ _))
  | cons c rest ih =>
    -- where the brace is found in the rest, the first character joins what stands before it
    have hrest : ∀ later, scanBy next (next state c) (offset + 1) rest =
        later ++ placed :: behind →
          before = ((state.brace? c).map (PlacedBrace.mk offset)).toList ++ later →
            ∃ front back, c :: rest = front ++ placed.brace.char :: back ∧
              placed.offset = offset + front.length ∧ scanBy next state offset front = before ∧
                front.foldl next state = .outside ∧
                  scanBy next .outside (placed.offset + 1) back = behind := by
      intro later hlater hbefore
      obtain ⟨front, back, rfl, hoffset, rfl, hafter, hbehind⟩ := ih hlater
      refine ⟨c :: front, back, rfl, ?_, hbefore.symm, hafter, hbehind⟩
      rw [hoffset, List.length_cons]
      omega
    rw [scanBy] at h
    cases hbrace : state.brace? c with
    | none =>
      rw [hbrace] at h
      exact hrest before h (by rw [hbrace]; rfl)
    | some brace =>
      obtain ⟨rfl, rfl⟩ := Quoting.of_brace?_eq_some hbrace
      rw [hbrace] at h
      cases before with
      | nil =>
        obtain ⟨rfl, hmore⟩ := List.cons.inj h
        rw [hnext] at hmore
        exact ⟨[], rest, rfl, rfl, rfl, rfl, hmore⟩
      | cons first later =>
        obtain ⟨rfl, hmore⟩ := List.cons.inj h
        exact hrest later hmore (by rw [hbrace]; rfl)

/-- A line is **split** at each brace that its scan finds. -/
theorem exists_eq_append_of_scan {state : Quoting} {offset : Nat} {text : Text}
    {before behind : List PlacedBrace} {placed : PlacedBrace}
    (h : scan state offset text = before ++ placed :: behind) :
    ∃ front back, text = front ++ placed.brace.char :: back ∧
      placed.offset = offset + front.length ∧ scan state offset front = before ∧
        state.after front = .outside := by
  have hnext : ∀ brace : Brace, Quoting.next .outside brace.char = .outside := by
    rintro (_ | _) <;> decide
  rw [scan_eq_scanBy] at h
  obtain ⟨front, back, htext, hoffset, hbefore, hafter, -⟩ := exists_eq_append_of_scanBy hnext h
  rw [← scan_eq_scanBy] at hbefore
  exact ⟨front, back, htext, hoffset, hbefore, hafter⟩

/-- The braces of a text stand **on its characters**. -/
theorem offset_lt_of_mem_scan {state : Quoting} {offset : Nat} {text : Text} {placed : PlacedBrace}
    (h : placed ∈ scan state offset text) : placed.offset < offset + text.length := by
  obtain ⟨before, behind, hsplit⟩ := List.append_of_mem h
  obtain ⟨front, back, rfl, hoffset, -⟩ := exists_eq_append_of_scan hsplit
  rw [List.length_append, List.length_cons]
  omega

/-- A scan that starts **further on** finds the same braces, further on. -/
theorem scan_add (state : Quoting) (offset distance : Nat) (text : Text) :
    scan state (offset + distance) text = (scan state offset text).map (·.shift distance) := by
  induction text generalizing state offset with
  | nil => rfl
  | cons c rest ih =>
    rw [scan_cons, scan_cons, List.map_append, Nat.add_right_comm, ih]
    cases state.brace? c <;> rfl

/-- The braces that a scan finds are the **same** wherever the text begins. -/
theorem map_brace_scan (state : Quoting) (offset : Nat) (text : Text) :
    (scan state offset text).map (·.brace) = (scan state 0 text).map (·.brace) := by
  have h := scan_add state 0 offset text
  rw [Nat.zero_add] at h
  rw [h, List.map_map]
  rfl

/-- The balance of braces is the sum of their **weights**. -/
theorem balance_eq_sum (braces : List PlacedBrace) :
    balance braces = (braces.map (·.brace.weight)).sum := by
  induction braces with
  | nil => rfl
  | cons placed more ih => rw [balance, ih, List.map_cons, List.sum_cons]

/-- Only the braces count for a balance, not where they stand. -/
theorem balance_congr {first second : List PlacedBrace}
    (h : first.map (·.brace) = second.map (·.brace)) : balance first = balance second := by
  have hweights := congrArg (List.map Brace.weight) h
  rw [List.map_map, List.map_map] at hweights
  rw [balance_eq_sum, balance_eq_sum]
  exact congrArg List.sum hweights

/-- The braces of a line are found **where the line stands**. -/
theorem scan_outside (offset : Nat) (line : Text) :
    scan .outside offset line = (ofLine line).map (·.shift offset) := by
  rw [ofLine, ← scan_add, Nat.zero_add]

/-- Braces that are moved on are the **same** ones. -/
theorem map_brace_shift (distance : Nat) (braces : List PlacedBrace) :
    (braces.map (·.shift distance)).map (·.brace) = braces.map (·.brace) := by
  rw [List.map_map]
  rfl

/-- Only the braces count for whether a line **opens** a body. -/
theorem opens_congr {line line' : Text}
    (h : (ofLine line).map (·.brace) = (ofLine line').map (·.brace)) : opens line = opens line' := by
  have hany := congrArg (List.any · (· = Brace.opening)) h
  simpa [opens, List.any_map, Function.comp_def] using hany

/-- A line without braces opens **no more** than it closes. -/
theorem delta_of_ofLine_eq_nil {line : Text} (h : ofLine line = []) : delta line = 0 := by
  rw [delta, h]
  rfl

/-- Braces of which some **open** a body are parted at the first such one. -/
theorem exists_eq_append_of_any_opening {braces : List PlacedBrace}
    (h : braces.any (·.brace = .opening) = true) :
    ∃ before offset rest, braces = before ++ ⟨offset, .opening⟩ :: rest ∧
      ∀ placed ∈ before, placed.brace = .closing := by
  induction braces with
  | nil => cases h
  | cons first more ih =>
    obtain ⟨offset, brace⟩ := first
    cases brace with
    | opening => exact ⟨[], offset, more, rfl, fun _ hmem => absurd hmem List.not_mem_nil⟩
    | closing =>
      obtain ⟨before, other, rest, rfl, hbefore⟩ := ih h
      exact ⟨_ :: before, other, rest, rfl, List.forall_mem_cons.2 ⟨rfl, hbefore⟩⟩

/-! ## Texts without braces -/

/-- A character **other than the four** is neither a quote nor a brace. -/
theorem quiet_of_ne {c : Char} (hdouble : c ≠ Quoting.double) (hsingle : c ≠ Quoting.single)
    (hopening : c ≠ '{') (hclosing : c ≠ '}') :
    Quoting.isQuote c = false ∧ Brace.ofChar? c = none := by
  constructor
  · rw [Quoting.isQuote, Bool.or_eq_false_iff, beq_eq_false_iff_ne, beq_eq_false_iff_ne]
    exact ⟨hdouble, hsingle⟩
  · rw [Brace.ofChar?, if_neg hopening, if_neg hclosing]

/-- A text without a **brace character** has no brace, wherever the scan stands. -/
theorem scan_eq_nil {text : Text} (h : ∀ c ∈ text, Brace.ofChar? c = none) (state : Quoting)
    (offset : Nat) : scan state offset text = [] := by
  induction text generalizing state offset with
  | nil => rfl
  | cons c rest ih =>
    have hc : state.brace? c = none := by
      cases state with
      | outside => exact h c List.mem_cons_self
      | inside quote => rfl
      | escaped quote => rfl
    rw [scan_cons, hc, ih fun d hd => h d (List.mem_cons_of_mem c hd)]
    rfl

/-- A text is **quiet**: read from outside all literals it has no brace, and it leaves the scan
there. -/
structure Quiet (text : Text) : Prop where
  /-- There is no brace. -/
  scan : ∀ offset, Braces.scan .outside offset text = []
  /-- No literal is left open. -/
  after : Quoting.after .outside text = .outside

namespace Quiet

/-- The empty text is quiet. -/
theorem nil : Quiet [] := ⟨fun _ => rfl, rfl⟩

/-- Two quiet texts in a row are quiet. -/
theorem append {first second : Text} (hfirst : Quiet first) (hsecond : Quiet second) :
    Quiet (first ++ second) := by
  constructor
  case scan =>
    intro offset
    rw [scan_append, hfirst.scan, hfirst.after, hsecond.scan]
    rfl
  case after => rw [Quoting.after_append, hfirst.after, hsecond.after]

/-- A text is quiet if it has no braces as a **line** of its own and leaves no literal open. -/
theorem of_ofLine_eq_nil {text : Text} (h : ofLine text = [])
    (hafter : Quoting.after .outside text = .outside) : Quiet text := by
  refine ⟨?_, hafter⟩
  intro offset
  have hadd := scan_add .outside 0 offset text
  rwa [Nat.zero_add, show Braces.scan .outside 0 text = [] from h] at hadd

/-- A text with neither quotes nor braces is quiet. -/
theorem of_forall {text : Text}
    (h : ∀ c ∈ text, Quoting.isQuote c = false ∧ Brace.ofChar? c = none) : Quiet text := by
  refine ⟨fun offset => scan_eq_nil (fun c hc => (h c hc).2) _ _, ?_⟩
  induction text with
  | nil => rfl
  | cons c rest ih =>
    have hnext : Quoting.next .outside c = .outside := by
      rw [Quoting.next, (h c List.mem_cons_self).1]
      rfl
    rw [Quoting.after_cons, hnext]
    exact ih fun d hd => h d (List.mem_cons_of_mem c hd)

/-- A character that neither quotes **nor nests** is quiet. -/
theorem singleton {c : Char} (hquote : Quoting.isQuote c = false)
    (hbrace : Brace.ofChar? c = none) : Quiet [c] :=
  .of_forall (List.forall_mem_singleton.2 ⟨hquote, hbrace⟩)

end Quiet

/-! ## Trimmed lines -/

/-- No blank is a quote or a brace. -/
theorem quiet_of_isBlank {c : Char} (h : Text.isBlank c = true) :
    Quoting.isQuote c = false ∧ Brace.ofChar? c = none := by
  have hne : ∀ d : Char, Text.isBlank d = false → c ≠ d := by
    intro d hd heq
    rw [heq, hd] at h
    exact Bool.false_ne_true h
  exact quiet_of_ne (hne _ rfl) (hne _ rfl) (hne _ rfl) (hne _ rfl)

/-- Blanks are quiet. -/
theorem Quiet.of_isAllBlank {text : Text} (h : Text.isAllBlank text = true) : Quiet text :=
  .of_forall fun c hc => quiet_of_isBlank (Text.isAllBlank_iff.1 h c hc)

/-- Trimming a line **keeps its braces**. -/
theorem map_brace_ofLine_trim (line : Text) :
    (ofLine (Text.trim line)).map (·.brace) = (ofLine line).map (·.brace) := by
  obtain ⟨before, after, hline, hbefore, hafter⟩ := Text.exists_eq_append_trim_append line
  have hend : ∀ state offset, scan state offset after = [] :=
    scan_eq_nil fun c hc => (quiet_of_isBlank (Text.isAllBlank_iff.1 hafter c hc)).2
  have hstart : Quiet before := .of_isAllBlank hbefore
  calc (ofLine (Text.trim line)).map (·.brace)
      = (scan .outside (0 + before.length) (Text.trim line)).map (·.brace) :=
        (map_brace_scan _ _ _).symm
    _ = (ofLine (before ++ Text.trim line ++ after)).map (·.brace) := by
        rw [ofLine, scan_append, hend, List.append_nil, scan_append, hstart.scan, hstart.after,
          List.nil_append]
    _ = (ofLine line).map (·.brace) := by rw [← hline]

/-- Trimming a line does not change **whether it opens** a body. -/
theorem opens_trim (line : Text) : opens (Text.trim line) = opens line :=
  opens_congr (map_brace_ofLine_trim line)

end Braces

end DiagramOutline
