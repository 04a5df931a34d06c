import DiagramOutline.Diagnostic.Entry
import DiagramOutline.Proofs.Trimming
import Mathlib.Data.List.TakeDrop

/-! # The first place that error text names

What the two searches in a line of error text find, said without them: how a place is written, and
that no other one is written further left.

* **`Text.FirstSplit P before rest`** — a text parted as far left as a property of its two parts
  allows.
* **`Entry.WrittenAs entry text`**, **`Entry.IsFirst entry line`** — an entry as it is written, and
  the first one of a line.
* **`Mention.WrittenAs digits text`**, **`Mention.IsFirst digits line`** — the same of a mention.
* **`Entry.find?_eq_some_iff`**, **`Mention.find?_eq_some_iff`** — the searches find the first ones.
-/

namespace DiagramOutline

namespace Text

/-! ## Numerals -/

/-- A **numeral** is one digit or more. -/
structure IsNumeral (digits : Text) : Prop where
  /-- There is a digit. -/
  ne_nil : digits ≠ []
  /-- There is nothing else. -/
  isDecimalDigit : ∀ c ∈ digits, isDecimalDigit c = true

/-- The digits at the start of a text are a **numeral**. -/
theorem eq_append_of_spanDigits? {text digits rest : Text}
    (h : spanDigits? text = some (digits, rest)) : text = digits ++ rest ∧ IsNumeral digits := by
  rw [spanDigits?, List.span_eq_takeWhile_dropWhile] at h
  split at h
  · cases h
  · next c kept left heq =>
    cases h
    obtain ⟨htake, hdrop⟩ := Prod.mk.inj heq
    refine ⟨?_, List.cons_ne_nil c kept, ?_⟩
    · rw [← htake, ← hdrop, List.takeWhile_append_dropWhile]
    · intro d hd
      rw [← htake] at hd
      exact List.all_eq_true.1 List.all_takeWhile d hd

/-- A numeral **behind which no digit** stands is the digits at the start of a text. -/
theorem spanDigits?_append {digits rest : Text} (h : IsNumeral digits)
    (hrest : ∀ c ∈ rest.head?, isDecimalDigit c = false) :
    spanDigits? (digits ++ rest) = some (digits, rest) := by
  obtain ⟨hne, hdigits⟩ := h
  have hstop : rest.takeWhile isDecimalDigit = [] ∧ rest.dropWhile isDecimalDigit = rest := by
    cases rest with
    | nil => exact ⟨rfl, rfl⟩
    | cons c more =>
      have hc : ¬ isDecimalDigit c = true := by simp [hrest c rfl]
      exact ⟨List.takeWhile_cons_of_neg hc, List.dropWhile_cons_of_neg hc⟩
  rw [spanDigits?, List.span_eq_takeWhile_dropWhile, List.takeWhile_append_of_pos hdigits,
    List.dropWhile_append_of_pos hdigits, hstop.1, hstop.2, List.append_nil]
  obtain ⟨c, more, rfl⟩ := List.exists_cons_of_ne_nil hne
  rfl

/-- A text that begins with a digit **begins with a numeral**. -/
theorem isSome_spanDigits?_cons {c : Char} (h : isDecimalDigit c = true) (rest : Text) :
    (spanDigits? (c :: rest)).isSome = true := by
  rw [spanDigits?, List.span_eq_takeWhile_dropWhile, List.takeWhile_cons_of_pos h]
  rfl

/-- No colon is a digit. -/
theorem isDecimalDigit_head?_colon (rest : Text) :
    ∀ c ∈ (':' :: rest).head?, isDecimalDigit c = false := by
  intro c hc
  cases hc
  decide

/-! ## The first place with a property -/

/-- A text is parted **as far left** as a property of its two parts allows. -/
structure FirstSplit (P : Text → Text → Prop) (before rest : Text) : Prop where
  /-- The property holds of the two parts. -/
  holds : P before rest
  /-- It holds of no two parts of which the first is shorter. -/
  first : ∀ before' rest', before' ++ rest' = before ++ rest → P before' rest' →
    before.length ≤ before'.length

/-- A text has a place with a property, and what stands behind the **first** such place is as
described. -/
def AtFirst (P : Text → Text → Prop) (Q : Text → Prop) (text : Text) : Prop :=
  ∃ before rest, text = before ++ rest ∧ Q rest ∧ FirstSplit P before rest

variable {P : Text → Text → Prop} {Q : Text → Prop}

/-- An **empty** text has a place with a property only if the property holds of nothing. -/
theorem not_atFirst_nil (h : ¬ P [] []) : ¬ AtFirst P Q [] := by
  rintro ⟨before, rest, hnil, -, hfirst⟩
  obtain ⟨rfl, rfl⟩ := List.append_eq_nil_iff.1 hnil.symm
  exact h hfirst.holds

/-- Nothing stands further left than the **start** of a text. -/
theorem atFirst_of_holds {text : Text} (h : P [] text) : AtFirst P Q text ↔ Q text := by
  constructor
  · rintro ⟨before, rest, rfl, hrest, hfirst⟩
    have hle := hfirst.first [] (before ++ rest) rfl h
    obtain rfl : before = [] := List.eq_nil_of_length_eq_zero (Nat.le_zero.1 hle)
    exact hrest
  · intro hrest
    exact ⟨[], text, rfl, hrest, h, fun _ _ _ _ => Nat.zero_le _⟩

/-- Where the property does not hold at the start, the first place is that of the **text behind**
the first character. -/
theorem atFirst_cons_iff {c : Char} {text : Text} (h : ¬ P [] (c :: text)) :
    AtFirst P Q (c :: text) ↔ AtFirst (fun front behind => P (c :: front) behind) Q text := by
  constructor
  · rintro ⟨before, rest, heq, hrest, hholds, hfirst⟩
    cases before with
    | nil =>
      rw [List.nil_append] at heq
      rw [← heq] at hholds
      exact absurd hholds h
    | cons d before =>
      obtain ⟨rfl, rfl⟩ := List.cons.inj heq
      refine ⟨before, rest, rfl, hrest, hholds, ?_⟩
      intro front behind heq hfront
      exact Nat.le_of_succ_le_succ (hfirst (c :: front) behind (congrArg (c :: ·) heq) hfront)
  · rintro ⟨before, rest, rfl, hrest, hholds, hfirst⟩
    refine ⟨c :: before, rest, rfl, hrest, hholds, ?_⟩
    intro front behind heq hfront
    cases front with
    | nil =>
      rw [List.nil_append] at heq
      rw [heq] at hfront
      exact absurd hfront h
    | cons d front =>
      obtain ⟨rfl, htail⟩ := List.cons.inj heq
      exact Nat.succ_le_succ (hfirst front behind htail hfront)

end Text

/-! ## Entries -/

namespace Entry

/-- An entry is **written** as a text: a colon, the digits of the line, a colon, the digits of the
column, a colon, and behind any blanks the message, to the end. -/
structure WrittenAs (entry : Entry) (text : Text) : Prop where
  /-- The line number is a numeral. -/
  line : Text.IsNumeral entry.line
  /-- The column number is a numeral. -/
  column : Text.IsNumeral entry.column
  /-- All blanks stand before the message. -/
  message : ∀ c ∈ entry.message.head?, Text.isBlank c = false
  /-- The parts stand one behind the other. -/
  text : ∃ blanks, Text.isAllBlank blanks = true ∧
    text = ':' :: (entry.line ++ ':' :: (entry.column ++ ':' :: (blanks ++ entry.message)))

/-- A text **ends in a source**: in one character or more none of which is blank. -/
def EndsInSource (before : Text) : Prop :=
  ∃ front source, before = front ++ source ∧ source ≠ [] ∧ ∀ c ∈ source, Text.isBlank c = false

/-- The **first entry** of a line is written behind a source, and none is so further left. -/
def IsFirst (entry : Entry) (line : Text) : Prop :=
  Text.AtFirst (fun front behind => EndsInSource front ∧ ∃ other : Entry, other.WrittenAs behind)
    entry.WrittenAs line

/-- The entry at the start of a text is the one that is **written** there. -/
theorem atColon?_eq_some_iff {text : Text} {entry : Entry} :
    atColon? text = some entry ↔ entry.WrittenAs text := by
  constructor
  · intro h
    unfold atColon? at h
    split at h
    · next afterColon =>
      split at h
      · next line afterLine hline =>
        split at h
        · next column rest hcolumn =>
          cases h
          obtain ⟨rfl, hlineNumeral⟩ := Text.eq_append_of_spanDigits? hline
          obtain ⟨rfl, hcolumnNumeral⟩ := Text.eq_append_of_spanDigits? hcolumn
          obtain ⟨blanks, hblanks, hrest⟩ := Text.exists_eq_append_trimStart rest
          refine ⟨hlineNumeral, hcolumnNumeral, ?_, blanks, hblanks, by rw [← hrest]⟩
          intro c hc
          have hhead := List.head?_dropWhile_not Text.isBlank rest
          rwa [show (rest.dropWhile Text.isBlank).head? = some c from hc] at hhead
        · cases h
      · cases h
    · cases h
  · rintro ⟨hline, hcolumn, hmessage, blanks, hblanks, rfl⟩
    simp only [atColon?, Text.spanDigits?_append hline (Text.isDecimalDigit_head?_colon _),
      Text.spanDigits?_append hcolumn (Text.isDecimalDigit_head?_colon _),
      Text.trimStart_append hblanks, Text.trimStart_eq_self hmessage]

/-- Whether a text ends in a source is decided by its **last character**, or, where a search begins
with the text, by what stands before it. -/
def EndsSource (afterSource : Bool) (before : Text) : Prop :=
  (before.getLast?.map fun c => !Text.isBlank c).getD afterSource = true

/-- Behind a **character** it is decided by the character, or by what follows it. -/
theorem endsSource_cons {afterSource : Bool} {c : Char} {before : Text} :
    EndsSource afterSource (c :: before) ↔ EndsSource (!Text.isBlank c) before := by
  cases before with
  | nil => exact Iff.rfl
  | cons d before =>
    obtain ⟨e, hlast⟩ :=
      Option.isSome_iff_exists.1 (List.getLast?_isSome.2 (List.cons_ne_nil d before))
    rw [EndsSource, EndsSource, List.getLast?_cons_cons, hlast]
    exact Iff.rfl

/-- A text at the start of a line ends in a source if its **last character** is not blank. -/
theorem endsSource_false_iff {before : Text} : EndsSource false before ↔ EndsInSource before := by
  constructor
  · intro h
    cases hlast : before.getLast? with
    | none =>
      rw [EndsSource, hlast] at h
      cases h
    | some c =>
      rw [EndsSource, hlast] at h
      obtain ⟨front, rfl⟩ := List.getLast?_eq_some_iff.1 hlast
      refine ⟨front, [c], rfl, List.cons_ne_nil c [], ?_⟩
      rw [List.forall_mem_singleton]
      exact Bool.not_eq_true' _ ▸ h
  · rintro ⟨front, source, rfl, hne, hsource⟩
    obtain ⟨c, hlast⟩ := Option.isSome_iff_exists.1 (List.getLast?_isSome.2 hne)
    rw [EndsSource, List.getLast?_append, hlast, Option.some_or, Option.map_some,
      hsource c (List.mem_of_getLast? hlast)]
    rfl

/-- A search finds the first entry, where the character before the text **may end a source**. -/
theorem findFrom?_eq_some_iff {afterSource : Bool} {text : Text} {entry : Entry} :
    findFrom? afterSource text = some entry ↔
      Text.AtFirst
        (fun front behind => EndsSource afterSource front ∧ ∃ other : Entry, other.WrittenAs behind)
        entry.WrittenAs text := by
  induction text generalizing afterSource with
  | nil =>
    refine iff_of_false nofun (Text.not_atFirst_nil ?_)
    rintro ⟨-, other, hother⟩
    obtain ⟨blanks, -, htext⟩ := hother.text
    cases htext
  | cons c text ih =>
    rw [findFrom?]
    cases hstart : (if afterSource then atColon? (c :: text) else none) with
    | some found =>
      obtain ⟨hafter, hfound⟩ : afterSource = true ∧ atColon? (c :: text) = some found := by
        simpa using hstart
      rw [Text.atFirst_of_holds ⟨hafter, found, atColon?_eq_some_iff.1 hfound⟩,
        ← atColon?_eq_some_iff, hfound]
    | none =>
      have hnone : ¬ (EndsSource afterSource [] ∧
          ∃ other : Entry, other.WrittenAs (c :: text)) := by
        rintro ⟨hafter, other, hother⟩
        rw [show afterSource = true from hafter, if_pos rfl,
          atColon?_eq_some_iff.2 hother] at hstart
        cases hstart
      rw [Text.atFirst_cons_iff hnone]
      simp only [endsSource_cons]
      exact ih

/-- **The search for an entry** finds the first one. -/
theorem find?_eq_some_iff {line : Text} {entry : Entry} :
    find? line = some entry ↔ entry.IsFirst line := by
  simp only [find?, findFrom?_eq_some_iff, endsSource_false_iff]
  rfl

/-- An entry that is written behind a source **without a colon** is the first one: the colon before
its line number is the first of all. -/
theorem IsFirst.of_source {entry : Entry} {source behind : Text} (hne : source ≠ [])
    (hsource : ∀ c ∈ source, Text.isBlank c = false ∧ c ≠ ':') (h : entry.WrittenAs behind) :
    entry.IsFirst (source ++ behind) := by
  have hends : EndsInSource source := ⟨[], source, rfl, hne, fun c hc => (hsource c hc).1⟩
  refine ⟨source, behind, rfl, h, ⟨hends, entry, h⟩, ?_⟩
  rintro front rest heq ⟨-, other, hother⟩
  obtain ⟨blanks, -, hcolon⟩ := hother.text
  -- a place further left would start at a colon in the source
  obtain ⟨between, hparted, hrest⟩ | ⟨between, hfront, -⟩ := List.append_eq_append_iff.1 heq
  · cases between with
    | nil => rw [hparted, List.append_nil]
    | cons c between =>
      rw [hcolon, List.cons_append, List.cons.injEq] at hrest
      have hmem : ':' ∈ source := by
        rw [hparted, hrest.1]
        exact List.mem_append_right _ List.mem_cons_self
      exact absurd rfl (hsource _ hmem).2
  · rw [hfront, List.length_append]
    exact Nat.le_add_right _ _

end Entry

/-! ## Mentions -/

namespace Mention

/-- A text is the **word** "line" in any case. -/
def IsWord (word : Text) : Prop :=
  ∃ l i n e, word = [l, i, n, e] ∧ (l = 'l' ∨ l = 'L') ∧ isLetterI i = true ∧
    (n = 'n' ∨ n = 'N') ∧ (e = 'e' ∨ e = 'E')

/-- A mention of a line is **written** at the start of a text: the word "line" in any case, a space,
the digits of the line, a colon, and a digit. -/
def WrittenAs (digits text : Text) : Prop :=
  ∃ word d rest, IsWord word ∧ Text.IsNumeral digits ∧ Text.isDecimalDigit d = true ∧
    text = word ++ ' ' :: (digits ++ ':' :: d :: rest)

/-- The **first mention** in a line is written in it, and none is so further left. -/
def IsFirst (digits line : Text) : Prop :=
  Text.AtFirst (fun _ behind => ∃ other, WrittenAs other behind) (WrittenAs digits) line

/-- The mention at the start of a text is the one that is **written** there. -/
theorem atWord?_eq_some_iff {text digits : Text} :
    atWord? text = some digits ↔ WrittenAs digits text := by
  constructor
  · intro h
    unfold atWord? at h
    split at h
    · next l i n e rest =>
      split at h
      · next hword =>
        split at h
        · next line afterLine hline =>
          obtain ⟨⟨column, left⟩, hcolumn, rfl⟩ := Option.map_eq_some_iff.1 h
          obtain ⟨rfl, hdigits⟩ := Text.eq_append_of_spanDigits? hline
          obtain ⟨rfl, hnumeral⟩ := Text.eq_append_of_spanDigits? hcolumn
          obtain ⟨d, more, rfl⟩ := List.exists_cons_of_ne_nil hnumeral.ne_nil
          have hd := hnumeral.isDecimalDigit d List.mem_cons_self
          simp only [Bool.and_eq_true, Bool.or_eq_true, beq_iff_eq] at hword
          obtain ⟨⟨⟨hl, hi⟩, hn⟩, he⟩ := hword
          exact ⟨[l, i, n, e], d, more ++ left, ⟨l, i, n, e, rfl, hl, hi, hn, he⟩, hdigits, hd, rfl⟩
        · cases h
      · cases h
    · cases h
  · rintro ⟨word, d, rest, ⟨l, i, n, e, rfl, hl, hi, hn, he⟩, hdigits, hd, rfl⟩
    have hword : ((l == 'l' || l == 'L') && isLetterI i && (n == 'n' || n == 'N') &&
        (e == 'e' || e == 'E')) = true := by
      simp only [Bool.and_eq_true, Bool.or_eq_true, beq_iff_eq]
      exact ⟨⟨⟨hl, hi⟩, hn⟩, he⟩
    have hline := Text.spanDigits?_append hdigits (Text.isDecimalDigit_head?_colon (d :: rest))
    obtain ⟨found, hcolumn⟩ := Option.isSome_iff_exists.1 (Text.isSome_spanDigits?_cons hd rest)
    show atWord? (l :: i :: n :: e :: ' ' :: (digits ++ ':' :: d :: rest)) = some digits
    rw [atWord?, if_pos hword, hline]
    show (Text.spanDigits? (d :: rest)).map _ = some digits
    rw [hcolumn]
    rfl

/-- **The search for a mention** finds the first one. -/
theorem find?_eq_some_iff {line digits : Text} :
    find? line = some digits ↔ IsFirst digits line := by
  induction line with
  | nil =>
    refine iff_of_false nofun (Text.not_atFirst_nil ?_)
    rintro ⟨other, word, d, rest, -, -, -, hnil⟩
    cases word <;> cases hnil
  | cons c line ih =>
    rw [find?, IsFirst]
    cases hstart : atWord? (c :: line) with
    | some found =>
      rw [Text.atFirst_of_holds ⟨found, atWord?_eq_some_iff.1 hstart⟩, ← atWord?_eq_some_iff,
        hstart]
    | none =>
      have hnone : ¬ ∃ other, WrittenAs other (c :: line) := by
        rintro ⟨other, hother⟩
        rw [atWord?_eq_some_iff.2 hother] at hstart
        cases hstart
      rw [Text.atFirst_cons_iff hnone]
      exact ih

end Mention

end DiagramOutline
