import DiagramOutline.Text.Blank
import Mathlib.Data.List.TakeWhile

/-! # Trimmed texts

What trimming takes from a text: blanks at both its ends and nothing else. A text that has other
characters at both its ends stays as it is, and so it does with blanks put around it.

* **`Text.exists_eq_append_trim_append`** — a text is its trimmed text between blanks.
* **`Text.trim_append_left`**, **`Text.trim_append_right`** — blanks at an end of a text make no
  difference to its trimmed text.
* **`Text.Tight text`** — `text` has characters, and those at its ends are not blank.
* **`Text.Tight.trim_append`** — a tight text behind blanks trims to itself. -/

namespace DiagramOutline.Text

/-! ## Dropping an end -/

/-- A text whose characters all go is dropped **altogether**. -/
theorem dropEndWhile_eq_nil {p : Char → Bool} {text : Text} (h : ∀ c ∈ text, p c = true) :
    dropEndWhile p text = [] := by
  induction text with
  | nil => rfl
  | cons c rest ih =>
    have hrest : dropEndWhile p rest = [] := ih fun d hd => h d (List.mem_cons_of_mem c hd)
    have hc : p c = true := h c List.mem_cons_self
    rw [dropEndWhile, hrest]
    exact if_pos hc

/-- An end whose characters all go is dropped **first**. -/
theorem dropEndWhile_append {p : Char → Bool} {after : Text} (h : ∀ c ∈ after, p c = true)
    (text : Text) : dropEndWhile p (text ++ after) = dropEndWhile p text := by
  induction text with
  | nil => exact dropEndWhile_eq_nil h
  | cons c rest ih => rw [List.cons_append, dropEndWhile, ih, dropEndWhile]

/-- Nothing is dropped from a text whose **last** character stays. -/
theorem dropEndWhile_eq_self {p : Char → Bool} {text : Text}
    (h : ∀ c ∈ text.getLast?, p c = false) : dropEndWhile p text = text := by
  induction text with
  | nil => rfl
  | cons c rest ih =>
    cases rest with
    | nil =>
      have hc : p c = false := h c rfl
      rw [dropEndWhile, dropEndWhile_nil]
      exact if_neg (by rw [hc]; exact Bool.false_ne_true)
    | cons d more =>
      have hrest : dropEndWhile p (d :: more) = d :: more := by
        refine ih ?_
        intro e he
        exact h e (by rwa [List.getLast?_cons_cons])
      rw [dropEndWhile, hrest]

/-- A character that stays keeps **all before it**. -/
theorem dropEndWhile_append_cons {p : Char → Bool} {c : Char} (h : p c = false)
    (first rest : Text) :
    dropEndWhile p (first ++ c :: rest) = first ++ c :: dropEndWhile p rest := by
  have hstays : dropEndWhile p (c :: rest) = c :: dropEndWhile p rest := by
    rw [dropEndWhile]
    split
    · next hnil => rw [hnil, if_neg (by rw [h]; exact Bool.false_ne_true)]
    · rfl
  induction first with
  | nil => exact hstays
  | cons d first ih =>
    rw [List.cons_append, dropEndWhile, ih, List.cons_append]
    split
    · next hnil => exact absurd hnil (List.append_ne_nil_of_right_ne_nil _ (List.cons_ne_nil _ _))
    · rfl

/-! ## Blanks at the ends -/

/-- A text is all blank exactly when **each** of its characters is. -/
theorem isAllBlank_iff {text : Text} : isAllBlank text = true ↔ ∀ c ∈ text, isBlank c = true :=
  List.all_eq_true

/-- Two texts in a row are all blank exactly when **both** are. -/
theorem isAllBlank_append (first second : Text) :
    isAllBlank (first ++ second) = (isAllBlank first && isAllBlank second) := List.all_append

/-- Blanks at the **start** of a text are dropped. -/
theorem trimStart_append {before : Text} (h : isAllBlank before = true) (text : Text) :
    trimStart (before ++ text) = trimStart text :=
  List.dropWhile_append_of_pos (isAllBlank_iff.1 h)

/-- Of **blanks alone** nothing is kept. -/
theorem trimStart_of_isAllBlank {text : Text} (h : isAllBlank text = true) :
    trimStart text = [] := by
  have happend := trimStart_append h []
  rwa [List.append_nil] at happend

/-- What stands behind a text that is **not all blank** is not trimmed with its start. -/
theorem trimStart_append_of_not_isAllBlank {text : Text} (h : isAllBlank text = false)
    (more : Text) : trimStart (text ++ more) = trimStart text ++ more := by
  have hkept : (text.dropWhile isBlank).isEmpty = false := by
    rw [← Bool.not_eq_true, List.isEmpty_iff, List.dropWhile_eq_nil_iff]
    intro hall
    rw [isAllBlank_iff.2 hall] at h
    cases h
  rw [trimStart, List.dropWhile_append, hkept]
  rfl

/-- Blanks after a text are still there when it is trimmed at its **start**, unless nothing else is
left of it. -/
theorem exists_trimStart_append_blanks {blanks : Text} (hblanks : isAllBlank blanks = true)
    (text : Text) :
    ∃ more, isAllBlank more = true ∧ trimStart (text ++ blanks) = trimStart text ++ more ∧
      (trimStart text = [] → more = []) := by
  cases htext : isAllBlank text with
  | true =>
    refine ⟨[], isAllBlank_nil, ?_, fun _ => rfl⟩
    rw [trimStart_append htext, trimStart_of_isAllBlank hblanks, trimStart_of_isAllBlank htext,
      List.append_nil]
  | false =>
    refine ⟨blanks, hblanks, trimStart_append_of_not_isAllBlank htext blanks, ?_⟩
    intro hnil
    rw [trimStart, List.dropWhile_eq_nil_iff] at hnil
    rw [isAllBlank_iff.2 hnil] at htext
    cases htext

/-- Blanks **before** a text make no difference to its trimmed text. -/
theorem trim_append_left {before : Text} (h : isAllBlank before = true) (text : Text) :
    trim (before ++ text) = trim text := by
  rw [trim, trimStart_append h, trim]

/-- Blanks **after** a text make no difference to its trimmed text. -/
theorem trim_append_right {after : Text} (h : isAllBlank after = true) (text : Text) :
    trim (text ++ after) = trim text := by
  rw [trim, trim, trimStart, trimStart, List.dropWhile_append]
  -- the text may be all blank itself, and then all of it goes from the start
  split
  · next hempty =>
    have hafter : after.dropWhile isBlank = [] := trimStart_of_isAllBlank h
    rw [hafter, List.isEmpty_iff.1 hempty]
  · exact dropEndWhile_append (isAllBlank_iff.1 h) _

/-- A text is what is left of it **behind blanks**. -/
theorem exists_eq_append_trimStart (text : Text) :
    ∃ before, isAllBlank before = true ∧ text = before ++ trimStart text :=
  ⟨text.takeWhile isBlank, List.all_takeWhile, List.takeWhile_append_dropWhile.symm⟩

/-- A text is its trimmed text **between blanks**. -/
theorem exists_eq_append_trim_append (text : Text) :
    ∃ before after, text = before ++ trim text ++ after ∧ isAllBlank before = true ∧
      isAllBlank after = true := by
  obtain ⟨after, hafter, hblank⟩ := exists_eq_dropEndWhile_append isBlank (trimStart text)
  obtain ⟨before, hbefore, htext⟩ := exists_eq_append_trimStart text
  refine ⟨before, after, ?_, hbefore, isAllBlank_iff.2 hblank⟩
  calc text
      = before ++ trimStart text := htext
    _ = before ++ (trim text ++ after) := by rw [trim, trimEnd, ← hafter]
    _ = before ++ trim text ++ after := (List.append_assoc _ _ _).symm

/-- A trimmed text is **no longer** than the text. -/
theorem length_trim_le (text : Text) : (trim text).length ≤ text.length := by
  obtain ⟨before, after, htext, -, -⟩ := exists_eq_append_trim_append text
  have hlength := congrArg List.length htext
  rw [List.length_append, List.length_append] at hlength
  omega

/-- Nothing is trimmed from the start of a text whose **first** character is not blank. -/
theorem trimStart_eq_self {text : Text} (h : ∀ c ∈ text.head?, isBlank c = false) :
    trimStart text = text := by
  cases text with
  | nil => rfl
  | cons c rest => exact List.dropWhile_cons_of_neg (by rw [h c rfl]; exact Bool.false_ne_true)

/-- A text with no blank at either **end** is trimmed. -/
theorem trim_eq_self {text : Text} (hhead : ∀ c ∈ text.head?, isBlank c = false)
    (hlast : ∀ c ∈ text.getLast?, isBlank c = false) : trim text = text := by
  rw [trim, trimStart_eq_self hhead]
  exact dropEndWhile_eq_self hlast

/-- The first character that is **not blank** comes first in the trimmed text. -/
theorem exists_trim_append_cons {before : Text} {c : Char} (hbefore : isAllBlank before = true)
    (hc : isBlank c = false) (rest : Text) : ∃ kept, trim (before ++ c :: rest) = c :: kept := by
  have hstart : trimStart (c :: rest) = c :: rest :=
    trimStart_eq_self fun d hd => by cases hd; exact hc
  rw [trim_append_left hbefore, trim, hstart, trimEnd, dropEndWhile]
  -- the character stays, whether or not all the rest is dropped
  split
  · exact ⟨[], if_neg (by rw [hc]; exact Bool.false_ne_true)⟩
  · exact ⟨_, rfl⟩

/-- A line trims to nothing exactly when it is **all blank**. -/
theorem trim_eq_nil_iff {text : Text} : trim text = [] ↔ isAllBlank text = true := by
  constructor
  · intro h
    obtain ⟨before, after, htext, hbefore, hafter⟩ := exists_eq_append_trim_append text
    rw [htext, h, List.append_nil, isAllBlank_append, hbefore, hafter, Bool.and_true]
  · exact trim_of_isAllBlank

/-! ## Tight texts -/

/-- A text is **tight**: it has characters, and the first and the last one are not blank. -/
structure Tight (text : Text) : Prop where
  /-- There are characters. -/
  ne_nil : text ≠ []
  /-- The first one is not blank. -/
  head : ∀ c ∈ text.head?, isBlank c = false
  /-- The last one is not blank. -/
  last : ∀ c ∈ text.getLast?, isBlank c = false

instance (text : Text) : Decidable (Tight text) :=
  decidable_of_iff (text ≠ [] ∧ text.head?.all (!isBlank ·) = true ∧
      text.getLast?.all (!isBlank ·) = true) <| by
    simp only [Option.all_eq_true, Bool.not_eq_true']
    exact ⟨fun h => ⟨h.1, h.2.1, h.2.2⟩, fun h => ⟨h.ne_nil, h.head, h.last⟩⟩

namespace Tight

variable {first second text : Text}

/-- A text without any blank is tight, unless it is empty. -/
theorem of_forall (hne : text ≠ []) (h : ∀ c ∈ text, isBlank c = false) : Tight text := by
  refine ⟨hne, ?_, ?_⟩
  · intro c hc
    exact h c (List.mem_of_head? hc)
  · intro c hc
    exact h c (List.mem_of_getLast? hc)

/-- A character that is **not blank** is tight. -/
theorem singleton {c : Char} (h : isBlank c = false) : Tight [c] :=
  .of_forall (List.cons_ne_nil _ _) (List.forall_mem_singleton.2 h)

/-- Whatever stands **between** two tight texts, they make a tight text. -/
theorem append (hfirst : Tight first) (hsecond : Tight second) (between : Text) :
    Tight (first ++ between ++ second) := by
  refine ⟨List.append_ne_nil_of_right_ne_nil _ hsecond.ne_nil, ?_, ?_⟩
  · intro c hc
    rw [List.append_assoc, List.head?_append,
      Option.or_of_isSome (List.isSome_head?.2 hfirst.ne_nil)] at hc
    exact hfirst.head c hc
  · intro c hc
    rw [List.getLast?_append, Option.or_of_isSome (List.getLast?_isSome.2 hsecond.ne_nil)] at hc
    exact hsecond.last c hc

/-- A tight text is **trimmed**. -/
theorem trim_eq (h : Tight text) : trim text = text := trim_eq_self h.head h.last

/-- A tight text behind **blanks** trims to itself. -/
theorem trim_append (h : Tight text) {before : Text} (hbefore : isAllBlank before = true) :
    trim (before ++ text) = text := by
  rw [trim_append_left hbefore, h.trim_eq]

/-- A text that is **trimmed** is tight, unless it is empty. -/
theorem of_trim_eq (hne : text ≠ []) (h : trim text = text) : Tight text := by
  -- a blank at an end would be gone, and the trimmed text shorter
  refine ⟨hne, ?_, ?_⟩
  · intro c hc
    cases hblank : isBlank c with
    | false => rfl
    | true =>
      obtain ⟨rest, rfl⟩ := List.head?_eq_some_iff.1 hc
      have htrim : trim ([c] ++ rest) = trim rest :=
        trim_append_left (by rw [isAllBlank, List.all_cons, hblank]; rfl) rest
      have hle := length_trim_le rest
      rw [← htrim, List.singleton_append, h, List.length_cons] at hle
      omega
  · intro c hc
    cases hblank : isBlank c with
    | false => rfl
    | true =>
      obtain ⟨front, rfl⟩ := List.getLast?_eq_some_iff.1 hc
      have htrim : trim (front ++ [c]) = trim front :=
        trim_append_right (by rw [isAllBlank, List.all_cons, hblank]; rfl) front
      have hle := length_trim_le front
      rw [← htrim, h, List.length_append, List.length_singleton] at hle
      omega

end Tight

end DiagramOutline.Text
