import DiagramOutline.Diagnostic
import DiagramOutline.Proofs.Entries
import Mathlib.Data.List.Forall2

/-! # Which lines of error text give diagnostics

The diagnostics of error text, without the searches that find them. A line that names a line of the
document is an anchor for a diagnostic, and the first line with text is one in any case: where it
names no line, it is about the first one of the document.

* **`Anchor`** — a line of a document, and what is said about it.
* **`Anchor.Names document line anchor`** — what a line of error text names; **`Anchor.ofLine?`**
  finds it (`Anchor.ofLine?_eq_some_iff`).
* **`Anchor.ofLines document lines`** — the anchors of error text in order, with that of a first line
  that names none (`Anchor.unplaced`) in front.
* **`Anchor.Holds document anchor diagnostic`** — the diagnostic is where its anchor is.
* **`Diagnostic.Readable document line`** — the numbers that are read in a line can be read.
* **`Diagnostic.ofErrors_closedForm`** — the diagnostics of error text are those of its anchors. -/

namespace DiagramOutline

/-! ## Anchors -/

/-- A document **has a line** of a number. -/
def Document.HasLine (document : Document) (number : Nat) : Prop :=
  1 ≤ number ∧ number ≤ document.lineCount

instance (document : Document) (number : Nat) : Decidable (document.HasLine number) :=
  inferInstanceAs (Decidable (_ ∧ _))

/-- A line of a document, and **what is said** about it. -/
structure Anchor where
  /-- The number of the line. -/
  line : Nat
  /-- The column from which on it is said; without one it is said of the whole line. -/
  column : Option Nat
  /-- What is said. -/
  message : Text
  deriving DecidableEq, Repr

namespace Anchor

/-- The anchor that an **entry** is. Without a message it has the whole line that it is in. -/
def ofEntry (line : Text) (entry : Entry) : Anchor :=
  ⟨Text.numeralValue entry.line, some (Text.numeralValue entry.column),
    if entry.message.isEmpty then line else entry.message⟩

/-- The anchor that a **mention** is, with the line that it is in for a message. -/
def ofMention (line digits : Text) : Anchor := ⟨Text.numeralValue digits, none, line⟩

/-- The anchor of a line that **names none**: it is about the first line of the document. -/
def ofUnplaced (line : Text) : Anchor := ⟨1, none, line⟩

/-- What a trimmed line of error text **names**: the line of its first entry, if the document has
that line, or else the line of its first mention, if the document has that one. -/
inductive Names (document : Document) (line : Text) : Anchor → Prop where
  /-- By its first entry. -/
  | entry {entry : Entry} : entry.IsFirst line → document.HasLine (ofEntry line entry).line →
      Names document line (ofEntry line entry)
  /-- By its first mention. -/
  | mention {digits : Text} :
    (∀ entry : Entry, entry.IsFirst line → ¬ document.HasLine (ofEntry line entry).line) →
      Mention.IsFirst digits line → document.HasLine (ofMention line digits).line →
        Names document line (ofMention line digits)

/-- An anchor, if it is **in** the document. -/
def within? (document : Document) (anchor : Option Anchor) : Option Anchor :=
  anchor.filter fun anchor => document.HasLine anchor.line

/-- The anchor that a trimmed **line** of error text is. -/
def ofLine? (document : Document) (line : Text) : Option Anchor :=
  (within? document ((Entry.find? line).map (ofEntry line))).or
    (within? document ((Mention.find? line).map (ofMention line)))

/-- The anchor of the **first** of trimmed lines of error text, if that one names no line. -/
def unplaced (document : Document) : List Text → List Anchor
  | [] => []
  | line :: _ => if (ofLine? document line).isSome then [] else [ofUnplaced line]

/-- The anchors of trimmed **lines** of error text. -/
def ofLines (document : Document) (lines : List Text) : List Anchor :=
  unplaced document lines ++ lines.filterMap (ofLine? document)

/-- An anchor is in a document that **has its line**. -/
theorem within?_some (document : Document) (anchor : Anchor) :
    within? document (some anchor) =
      if document.HasLine anchor.line then some anchor else none := by
  simp only [within?, Option.filter_some, decide_eq_true_iff]

/-- What is in the document is the anchor that was found, if the document **has its line**. -/
theorem within?_eq_some_iff {document : Document} {found : Option Anchor} {anchor : Anchor} :
    within? document found = some anchor ↔ found = some anchor ∧ document.HasLine anchor.line := by
  rw [within?, Option.filter_eq_some_iff, decide_eq_true_iff]

/-- The first entry of a line is no anchor exactly when the document does **not** have its line. -/
theorem within?_entry_eq_none_iff {document : Document} {line : Text} :
    within? document ((Entry.find? line).map (ofEntry line)) = none ↔
      ∀ entry : Entry, entry.IsFirst line → ¬ document.HasLine (ofEntry line entry).line := by
  simp only [within?, Option.filter_eq_none_iff, Option.map_eq_some_iff, Entry.find?_eq_some_iff,
    decide_eq_true_iff, forall_exists_index, and_imp]
  constructor
  · intro h entry hfirst
    exact h _ entry hfirst rfl
  · rintro h _ entry hfirst rfl
    exact h entry hfirst

/-- **A line of error text is the anchor that it names.** -/
theorem ofLine?_eq_some_iff {document : Document} {line : Text} {anchor : Anchor} :
    ofLine? document line = some anchor ↔ Names document line anchor := by
  rw [ofLine?, Option.or_eq_some_iff, within?_entry_eq_none_iff, within?_eq_some_iff,
    within?_eq_some_iff, Option.map_eq_some_iff, Option.map_eq_some_iff]
  constructor
  · rintro (⟨⟨entry, hfind, rfl⟩, hline⟩ | ⟨hnot, ⟨digits, hfind, rfl⟩, hline⟩)
    · exact .entry (Entry.find?_eq_some_iff.1 hfind) hline
    · exact .mention hnot (Mention.find?_eq_some_iff.1 hfind) hline
  · rintro (⟨hfirst, hline⟩ | ⟨hnot, hfirst, hline⟩)
    · exact .inl ⟨⟨_, Entry.find?_eq_some_iff.2 hfirst, rfl⟩, hline⟩
    · exact .inr ⟨hnot, ⟨_, Mention.find?_eq_some_iff.2 hfirst, rfl⟩, hline⟩

/-- An anchor of lines is what one of them **names**, or is the first of them, which names none. -/
theorem of_mem_ofLines {document : Document} {lines : List Text} {anchor : Anchor}
    (h : anchor ∈ ofLines document lines) :
    (∃ line ∈ lines, Names document line anchor) ∨
      ∃ line ∈ lines.head?, anchor = ofUnplaced line ∧ ∀ other, ¬ Names document line other := by
  cases List.mem_append.1 h with
  | inl hunplaced =>
    right
    cases lines with
    | nil => exact absurd hunplaced List.not_mem_nil
    | cons line more =>
      rw [unplaced] at hunplaced
      split at hunplaced
      · exact absurd hunplaced List.not_mem_nil
      · next hnone =>
        refine ⟨line, rfl, List.mem_singleton.1 hunplaced, fun other hnames => hnone ?_⟩
        rw [ofLine?_eq_some_iff.2 hnames]
        rfl
  | inr hplaced =>
    obtain ⟨line, hline, hnames⟩ := List.mem_filterMap.1 hplaced
    exact .inl ⟨line, hline, ofLine?_eq_some_iff.1 hnames⟩

/-- Where the stretch of an anchor **starts** on the line that has this span. -/
def startIn (anchor : Anchor) (span : LineSpan) : Int :=
  match anchor.column with
  | some column => Diagnostic.columnOffset span column
  | none => span.start

/-- A diagnostic is where its **anchor** is: it says the same, of that line from the column on to
the end. -/
def Holds (document : Document) (anchor : Anchor) (diagnostic : Diagnostic) : Prop :=
  ∃ span, document.line anchor.line = .ok span ∧
    (diagnostic.start : Int) = anchor.startIn span ∧ (diagnostic.stop : Int) = span.stop ∧
      diagnostic.message = anchor.message

end Anchor

/-! ## Diagnostics of anchors -/

/-- A line is there exactly when it has a **span**. -/
theorem Document.line_eq_ok_iff {document : Document} {number : Int} {span : LineSpan} :
    document.line number = .ok span ↔ document.line? number = some span := by
  unfold line
  split <;> simp_all

/-- Only a document that **has a line** has a span of it. -/
theorem Document.line?_eq_none_iff {document : Document} {number : Nat} :
    document.line? number = none ↔ ¬ document.HasLine number := by
  rw [← Option.not_isSome_iff_eq_none, isSome_line?_iff, HasLine]
  omega

namespace Diagnostic

open Anchor

variable {document : Document} {line : Text}

/-- What comes **next** comes of a result. -/
theorem bind_eq_ok_iff {ε α β : Type} {first : Except ε α} {next : α → Except ε β} {result : β} :
    (first >>= next) = .ok result ↔ ∃ value, first = .ok value ∧ next value = .ok result := by
  cases first with
  | error fault => exact iff_of_false nofun (fun ⟨_, herror, _⟩ => nomatch herror)
  | ok value =>
    constructor
    · intro h
      exact ⟨value, rfl, h⟩
    · rintro ⟨_, ⟨⟩, h⟩
      exact h

/-- The diagnostic about a stretch has **the ends** of the stretch. -/
theorem make_eq_ok_iff {start stop : Int} {message : Text} {diagnostic : Diagnostic} :
    make start stop message = .ok diagnostic ↔
      (diagnostic.start : Int) = start ∧ (diagnostic.stop : Int) = stop ∧
        diagnostic.message = message := by
  constructor
  · intro h
    unfold make at h
    split at h
    · next hnil =>
      obtain ⟨hstart, hstop⟩ := stretchFaults_eq_nil_iff.1 hnil
      cases h
      exact ⟨Int.toNat_of_nonneg hstart, Int.toNat_of_nonneg hstop, rfl⟩
    · cases h
  · rintro ⟨rfl, rfl, rfl⟩
    exact make_natCast _ _ _

/-- The numbers that can be read are those that are **short** enough. -/
theorem number_eq_ok_iff {digits : Text} {value : Nat} :
    number digits = .ok value ↔
      digits.length ≤ Numeral.maxDigits ∧ Text.numeralValue digits = value := by
  rw [← Numeral.read_eq_ok_iff, number]
  cases Numeral.read digits with
  | error length => exact iff_of_false nofun nofun
  | ok value => exact Iff.of_eq (by rw [Except.mapError, Except.ok.injEq, Except.ok.injEq])

/-- The stretch of an anchor on **its line** makes the diagnostic that is where the anchor is. -/
theorem make_eq_ok_iff_holds {anchor : Anchor} {span : LineSpan} {diagnostic : Diagnostic}
    (hspan : document.line? anchor.line = some span) :
    make (anchor.startIn span) span.stop anchor.message = .ok diagnostic ↔
      anchor.Holds document diagnostic := by
  rw [make_eq_ok_iff]
  constructor
  · intro hends
    exact ⟨span, Document.line_eq_ok_iff.2 hspan, hends⟩
  · rintro ⟨other, hline, hends⟩
    obtain rfl : span = other :=
      Option.some.inj (hspan.symm.trans (Document.line_eq_ok_iff.1 hline))
    exact hends

/-- The diagnostic **of an anchor**, if it is in the document. -/
def ofAnchor (document : Document) (anchor : Anchor) : Except DiagnosticError (Option Diagnostic) :=
  match document.line? anchor.line with
  | none => return none
  | some span => return some (← make (anchor.startIn span) span.stop anchor.message)

/-- It is where its **anchor** is. -/
theorem ofAnchor_eq_ok_iff {anchor : Anchor} {result : Option Diagnostic} :
    ofAnchor document anchor = .ok result ↔
      Option.Rel (Holds document) (within? document (some anchor)) result := by
  unfold ofAnchor
  cases hspan : document.line? anchor.line with
  | none =>
    have hline : ¬ document.HasLine anchor.line := Document.line?_eq_none_iff.1 hspan
    rw [within?_some, if_neg hline]
    cases result with
    | none => exact iff_of_true rfl .none
    | some diagnostic => exact iff_of_false nofun nofun
  | some span =>
    have hline : document.HasLine anchor.line := by
      by_contra hnot
      rw [Document.line?_eq_none_iff.2 hnot] at hspan
      cases hspan
    rw [within?_some, if_pos hline]
    show (make (anchor.startIn span) span.stop anchor.message >>= (pure ∘ some)) = .ok result ↔ _
    rw [bind_eq_ok_iff]
    constructor
    · rintro ⟨diagnostic, hmake, hresult⟩
      cases hresult
      exact .some ((make_eq_ok_iff_holds hspan).1 hmake)
    · rintro ⟨hholds⟩
      exact ⟨_, (make_eq_ok_iff_holds hspan).2 hholds, rfl⟩

/-- An entry's numbers are both read, **whether or not** the document has its line. -/
theorem ofEntry_eq_ok_iff {entry : Entry} {result : Option Diagnostic} :
    ofEntry document line entry = .ok result ↔
      (entry.line.length ≤ Numeral.maxDigits ∧ entry.column.length ≤ Numeral.maxDigits) ∧
        ofAnchor document (Anchor.ofEntry line entry) = .ok result := by
  rw [ofEntry, bind_eq_ok_iff]
  simp only [bind_eq_ok_iff, number_eq_ok_iff]
  constructor
  · rintro ⟨_, ⟨hline, rfl⟩, _, ⟨hcolumn, rfl⟩, hresult⟩
    exact ⟨⟨hline, hcolumn⟩, hresult⟩
  · rintro ⟨⟨hline, hcolumn⟩, hresult⟩
    exact ⟨_, ⟨hline, rfl⟩, _, ⟨hcolumn, rfl⟩, hresult⟩

/-- Of a mention only the **line number** is read. -/
theorem ofMention_eq_ok_iff {digits : Text} {result : Option Diagnostic} :
    ofMention document line digits = .ok result ↔
      digits.length ≤ Numeral.maxDigits ∧
        ofAnchor document (Anchor.ofMention line digits) = .ok result := by
  rw [ofMention, bind_eq_ok_iff]
  simp only [number_eq_ok_iff]
  constructor
  · rintro ⟨_, ⟨hdigits, rfl⟩, hresult⟩
    exact ⟨hdigits, hresult⟩
  · rintro ⟨hdigits, hresult⟩
    exact ⟨_, ⟨hdigits, rfl⟩, hresult⟩

/-- What a search has **found** gives the diagnostic of its anchor, if its numbers can be read. -/
theorem elim_eq_ok_iff {Place : Type} {found : Option Place} {anchorOf : Place → Anchor}
    {IsShort : Place → Prop} {read : Place → Except DiagnosticError (Option Diagnostic)}
    (hread : ∀ {place result}, read place = .ok result ↔
      IsShort place ∧ ofAnchor document (anchorOf place) = .ok result)
    {result : Option Diagnostic} :
    found.elim (pure none) read = .ok result ↔
      (∀ place, found = some place → IsShort place) ∧
        Option.Rel (Holds document) (within? document (found.map anchorOf)) result := by
  cases found with
  | none =>
    cases result with
    | none => exact iff_of_true rfl ⟨nofun, .none⟩
    | some diagnostic => exact iff_of_false nofun (fun h => nomatch h.2)
  | some place =>
    rw [Option.elim_some, hread, ofAnchor_eq_ok_iff, Option.map_some]
    exact and_congr_left' ⟨fun h _ heq => Option.some.inj heq ▸ h, fun h => h place rfl⟩

/-! ## Lines -/

/-- The numbers that are read in a trimmed line of error text **can be read**. -/
structure Readable (document : Document) (line : Text) : Prop where
  /-- Those of the first entry are. -/
  entry : ∀ entry : Entry, entry.IsFirst line →
    entry.line.length ≤ Numeral.maxDigits ∧ entry.column.length ≤ Numeral.maxDigits
  /-- That of the first mention is, unless the first entry names a line of the document. -/
  mention : (∀ entry : Entry, entry.IsFirst line →
      ¬ document.HasLine (Anchor.ofEntry line entry).line) →
    ∀ digits, Mention.IsFirst digits line → digits.length ≤ Numeral.maxDigits

/-- A line is searched for an entry, and for a mention where that gives **no diagnostic**. -/
theorem ofLine_eq (document : Document) (line : Text) :
    ofLine document line =
      (Entry.find? line).elim (pure none) (ofEntry document line) >>= fun byEntry =>
        byEntry.elim ((Mention.find? line).elim (pure none) (ofMention document line))
          (pure ∘ some) := by
  unfold ofLine
  cases Entry.find? line with
  | none => cases Mention.find? line <;> rfl
  | some entry =>
    refine congrArg (ofEntry document line entry >>= ·) (funext fun byEntry => ?_)
    cases byEntry with
    | none => cases Mention.find? line <;> rfl
    | some diagnostic => rfl

/-- The diagnostic of a line of error text is where the **anchor of the line** is. -/
theorem ofLine_eq_ok_iff {result : Option Diagnostic} :
    ofLine document line = .ok result ↔
      Readable document line ∧
        Option.Rel (Holds document) (Anchor.ofLine? document line) result := by
  rw [ofLine_eq, bind_eq_ok_iff]
  simp only [elim_eq_ok_iff ofEntry_eq_ok_iff, Entry.find?_eq_some_iff]
  have hmention (result : Option Diagnostic) :
      (Mention.find? line).elim (pure none) (ofMention document line) = .ok result ↔ _ :=
    elim_eq_ok_iff ofMention_eq_ok_iff
  simp only [Mention.find?_eq_some_iff] at hmention
  rw [Anchor.ofLine?]
  cases hentry : within? document ((Entry.find? line).map (Anchor.ofEntry line)) with
  | none =>
    have hnot := within?_entry_eq_none_iff.1 hentry
    rw [Option.none_or]
    constructor
    · rintro ⟨_, ⟨hshort, ⟨⟩⟩, hrest⟩
      obtain ⟨hmentionShort, hrel⟩ := (hmention result).1 hrest
      exact ⟨⟨hshort, fun _ => hmentionShort⟩, hrel⟩
    · rintro ⟨hreadable, hrel⟩
      exact ⟨none, ⟨hreadable.entry, .none⟩, (hmention result).2 ⟨hreadable.mention hnot, hrel⟩⟩
  | some anchor =>
    have hnames : ¬ ∀ entry : Entry, entry.IsFirst line →
        ¬ document.HasLine (Anchor.ofEntry line entry).line := by
      rw [← within?_entry_eq_none_iff, hentry]
      nofun
    rw [Option.some_or]
    constructor
    · rintro ⟨_, ⟨hshort, ⟨hholds⟩⟩, hrest⟩
      cases hrest
      exact ⟨⟨hshort, fun hnot => absurd hnot hnames⟩, .some hholds⟩
    · rintro ⟨hreadable, ⟨hholds⟩⟩
      exact ⟨some _, ⟨hreadable.entry, .some hholds⟩, rfl⟩

/-- The diagnostic of a line that names none is **on the first line** of the document. -/
theorem ofUnplaced_eq_ok_iff {diagnostic : Diagnostic} :
    ofUnplaced document line = .ok diagnostic ↔
      (Anchor.ofUnplaced line).Holds document diagnostic := by
  unfold ofUnplaced
  cases hspan : document.line? 1 with
  | none =>
    refine iff_of_false nofun ?_
    rintro ⟨span, hline, -⟩
    rw [Document.line_eq_ok_iff] at hline
    cases hspan.symm.trans hline
  | some span =>
    have hfirst : document.line? (Anchor.ofUnplaced line).line = some span := hspan
    exact make_eq_ok_iff_holds hfirst

/-- What goes with lists in a row is **parted** as they are. -/
theorem forall₂_append_left_iff {α β : Type} {R : α → β → Prop} {first second : List α}
    {both : List β} :
    List.Forall₂ R (first ++ second) both ↔
      ∃ here behind, List.Forall₂ R first here ∧ List.Forall₂ R second behind ∧
        both = here ++ behind := by
  constructor
  · intro h
    induction first generalizing both with
    | nil => exact ⟨[], both, .nil, h, rfl⟩
    | cons head first ih =>
      obtain ⟨partner, rest, hhead, hrest, rfl⟩ := List.forall₂_cons_left_iff.1 h
      obtain ⟨here, behind, hhere, hbehind, rfl⟩ := ih hrest
      exact ⟨partner :: here, behind, .cons hhead hhere, hbehind, rfl⟩
  · rintro ⟨here, behind, hhere, hbehind, rfl⟩
    exact List.rel_append hhere hbehind

/-- **One line** of error text gives the diagnostics of its anchors, and those after it are no
longer first. -/
theorem ofLines_cons_eq_ok_iff {isFirst : Bool} {more : List Text}
    {diagnostics : List Diagnostic} :
    ofLines document isFirst (line :: more) = .ok diagnostics ↔
      Readable document line ∧ ∃ here behind,
        List.Forall₂ (Holds document)
          ((if isFirst then unplaced document [line] else []) ++
            (Anchor.ofLine? document line).toList) here ∧
        ofLines document false more = .ok behind ∧ diagnostics = here ++ behind := by
  rw [ofLines, bind_eq_ok_iff]
  simp only [ofLine_eq_ok_iff]
  cases hanchor : Anchor.ofLine? document line with
  | some anchor =>
    have hplaced : (if isFirst then unplaced document [line] else []) = [] := by
      simp [unplaced, hanchor]
    rw [hplaced, List.nil_append, Option.toList_some]
    constructor
    · rintro ⟨_, ⟨hreadable, ⟨hholds⟩⟩, hrest⟩
      obtain ⟨behind, hbehind, heq⟩ := bind_eq_ok_iff.1 hrest
      cases heq
      exact ⟨hreadable, [_], behind, .cons hholds .nil, hbehind, rfl⟩
    · rintro ⟨hreadable, _, behind, (_ | ⟨hholds, ⟨⟩⟩), hbehind, rfl⟩
      exact ⟨some _, ⟨hreadable, .some hholds⟩, bind_eq_ok_iff.2 ⟨behind, hbehind, rfl⟩⟩
  | none =>
    rw [Option.toList_none, List.append_nil]
    cases isFirst with
    | true =>
      have hunplaced : unplaced document [line] = [Anchor.ofUnplaced line] := by
        simp [unplaced, hanchor]
      rw [if_pos rfl, hunplaced]
      constructor
      · rintro ⟨_, ⟨hreadable, ⟨⟩⟩, hrest⟩
        obtain ⟨diagnostic, hdiagnostic, hrest⟩ := bind_eq_ok_iff.1 hrest
        obtain ⟨behind, hbehind, heq⟩ := bind_eq_ok_iff.1 hrest
        cases heq
        exact ⟨hreadable, [diagnostic], behind, .cons (ofUnplaced_eq_ok_iff.1 hdiagnostic) .nil,
          hbehind, rfl⟩
      · rintro ⟨hreadable, _, behind, (_ | ⟨hholds, ⟨⟩⟩), hbehind, rfl⟩
        exact ⟨none, ⟨hreadable, .none⟩, bind_eq_ok_iff.2
          ⟨_, ofUnplaced_eq_ok_iff.2 hholds, bind_eq_ok_iff.2 ⟨behind, hbehind, rfl⟩⟩⟩
    | false =>
      rw [if_neg Bool.false_ne_true]
      constructor
      · rintro ⟨_, ⟨hreadable, ⟨⟩⟩, hrest⟩
        exact ⟨hreadable, [], diagnostics, .nil, hrest, rfl⟩
      · rintro ⟨hreadable, _, behind, ⟨⟩, hbehind, rfl⟩
        exact ⟨none, ⟨hreadable, .none⟩, hbehind⟩

/-- Lines of error text give the diagnostics of **their anchors**. -/
theorem ofLines_eq_ok_iff {isFirst : Bool} {lines : List Text} {diagnostics : List Diagnostic} :
    ofLines document isFirst lines = .ok diagnostics ↔
      (∀ line ∈ lines, Readable document line) ∧
        List.Forall₂ (Holds document)
          ((if isFirst then unplaced document lines else []) ++
            lines.filterMap (Anchor.ofLine? document)) diagnostics := by
  induction lines generalizing isFirst diagnostics with
  | nil =>
    rw [show unplaced document [] = [] from rfl, ite_self, List.nil_append, List.filterMap_nil,
      List.forall₂_nil_left_iff, ofLines, Except.ok.injEq]
    exact ⟨fun h => ⟨nofun, h.symm⟩, fun h => h.2.symm⟩
  | cons line lines ih =>
    have hparted : (line :: lines).filterMap (Anchor.ofLine? document) =
        (Anchor.ofLine? document line).toList ++ lines.filterMap (Anchor.ofLine? document) := by
      rw [List.filterMap_eq_flatMap_toList, List.flatMap_cons, ← List.filterMap_eq_flatMap_toList]
    rw [ofLines_cons_eq_ok_iff, List.forall_mem_cons, hparted, ← List.append_assoc,
      forall₂_append_left_iff]
    -- the lines after it are not first, and have only the anchors that they name
    simp only [ih, if_neg Bool.false_ne_true, List.nil_append]
    constructor
    · rintro ⟨hline, here, behind, hhere, ⟨hlines, hbehind⟩, rfl⟩
      exact ⟨⟨hline, hlines⟩, here, behind, hhere, hbehind, rfl⟩
    · rintro ⟨⟨hline, hlines⟩, here, behind, hhere, hbehind, rfl⟩
      exact ⟨hline, here, behind, hhere, ⟨hlines, hbehind⟩, rfl⟩

/-- Error text gives the diagnostics of **its anchors**. -/
theorem ofErrors_eq_ok_iff {errors : Text} {diagnostics : List Diagnostic} :
    ofErrors document errors = .ok diagnostics ↔
      (∀ line ∈ errorLines errors, Readable document line) ∧
        List.Forall₂ (Holds document) (Anchor.ofLines document (errorLines errors))
          diagnostics :=
  ofLines_eq_ok_iff

/-- Error text says nothing exactly when all of its lines are **blank**. -/
theorem errorLines_eq_nil_iff {errors : Text} :
    errorLines errors = [] ↔ ∀ line ∈ errors.lines, Text.isAllBlank line = true := by
  simp only [errorLines, List.filter_eq_nil_iff, List.forall_mem_map, Bool.not_eq_true',
    Bool.not_eq_false, List.isEmpty_iff, Text.trim_eq_nil_iff]

/-- Lines have **no anchor** only if there are none: the first one is an anchor in any case. -/
theorem ofLines_eq_nil_iff {lines : List Text} :
    Anchor.ofLines document lines = [] ↔ lines = [] := by
  cases lines with
  | nil => exact iff_of_true rfl rfl
  | cons line lines =>
    refine iff_of_false ?_ (List.cons_ne_nil line lines)
    rw [Anchor.ofLines, List.append_eq_nil_iff, not_and]
    intro hplaced hnone
    have hline := List.filterMap_eq_nil_iff.1 hnone line List.mem_cons_self
    simp [unplaced, hline] at hplaced

/-- **The diagnostics of error text**: one for its first line, if that one names no line of the
document, and then one for each line that does. There are none only where nothing is said. -/
theorem ofErrors_closedForm (document : Document) (errors : Text) :
    (∀ line anchor, Anchor.ofLine? document line = some anchor ↔
      Anchor.Names document line anchor) ∧
    (∀ diagnostics, ofErrors document errors = .ok diagnostics ↔
      (∀ line ∈ errorLines errors, Readable document line) ∧
        List.Forall₂ (Holds document)
          (unplaced document (errorLines errors) ++
            (errorLines errors).filterMap (Anchor.ofLine? document)) diagnostics) ∧
    ∀ diagnostics, ofErrors document errors = .ok diagnostics →
      (diagnostics = [] ↔ ∀ line ∈ errors.lines, Text.isAllBlank line = true) := by
  refine ⟨fun line anchor => Anchor.ofLine?_eq_some_iff, fun diagnostics => ofErrors_eq_ok_iff, ?_⟩
  intro diagnostics h
  have hlength := (ofErrors_eq_ok_iff.1 h).2.length_eq
  rw [← errorLines_eq_nil_iff, ← ofLines_eq_nil_iff, ← List.length_eq_zero_iff,
    ← List.length_eq_zero_iff, hlength]

/-- A text with an **empty line** between two others. -/
def gappedText : Text := "ab\n\ncd".toList

/-- Error text that names no line at first, and then the third line, the second one, and one that is
**not there**. -/
def gappedErrors : Text := "note\n<stdin>:3:9: bad\n\n  at Line 2:1\n<stdin>:4:1: far\n".toList

/-- It has **three** diagnostics; the column of the second is past the end of its line. -/
theorem ofErrors_gappedErrors :
    ofErrors (.ofText gappedText) gappedErrors =
        .ok [⟨0, 2, "note".toList⟩, ⟨6, 6, "bad".toList⟩, ⟨3, 3, "at Line 2:1".toList⟩] ∧
      List.Forall₂ (Holds (.ofText gappedText))
        [⟨1, none, "note".toList⟩, ⟨3, some 9, "bad".toList⟩, ⟨2, none, "at Line 2:1".toList⟩]
        [⟨0, 2, "note".toList⟩, ⟨6, 6, "bad".toList⟩, ⟨3, 3, "at Line 2:1".toList⟩] := by
  have h : ofErrors (.ofText gappedText) gappedErrors =
      .ok [⟨0, 2, "note".toList⟩, ⟨6, 6, "bad".toList⟩, ⟨3, 3, "at Line 2:1".toList⟩] := by
    decide +kernel
  refine ⟨h, ?_⟩
  have hanchors : unplaced (.ofText gappedText) (errorLines gappedErrors) ++
      (errorLines gappedErrors).filterMap (Anchor.ofLine? (.ofText gappedText)) =
        [⟨1, none, "note".toList⟩, ⟨3, some 9, "bad".toList⟩,
          ⟨2, none, "at Line 2:1".toList⟩] := by
    decide +kernel
  rw [← hanchors]
  exact (((ofErrors_closedForm _ _).2.1 _).1 h).2

end Diagnostic

end DiagramOutline
