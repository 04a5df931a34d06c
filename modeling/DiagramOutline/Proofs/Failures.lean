import DiagramOutline.Proofs.Anchors
import DiagramOutline.Proofs.Tiling

/-! # Error text that is not anchored

Error text about the lines of a text always gives diagnostics, except where it has a number with too
many digits to be read in a place where one is read. Such a number does not make its line one that
names no place: it ends the whole reading, and the lines before it give nothing either.

* **`Numeral.TooLong digits`** — `digits` are too many to be read as a number.
* **`Document.Sound document`** — `document` has a line, and no line at an offset below zero; the
  document of a text is such a one (`Document.sound_ofText`).
* **`Diagnostic.FirstTooLong document line digits`** — the first number that is read in a line of
  error text and is too long.
* **`Diagnostic.ofLine_eq_error_iff`**, **`Diagnostic.ofLines_eq_error_iff`** — when one line of
  error text fails, and when all of them do.
* **`Diagnostic.hasCause_of_ofLines`** — why error text fails, in any document.
* **`Diagnostic.anchored_iff`** — when error text about a text gives diagnostics. -/

namespace DiagramOutline

/-- Digits are **too long** to be read as a number. -/
def Numeral.TooLong (digits : Text) : Prop := maxDigits < digits.length

instance (digits : Text) : Decidable (Numeral.TooLong digits) :=
  inferInstanceAs (Decidable (_ < _))

namespace Document

/-- A document is **sound**: it has a line, and none of its lines starts or stops below zero. -/
structure Sound (document : Document) : Prop where
  /-- There is a first line. -/
  hasLine : document.HasLine 1
  /-- No line has an end below zero. -/
  nonneg : ∀ span ∈ document.spans, 0 ≤ span.start ∧ 0 ≤ span.stop

/-- Lines that start **from zero on** have no end below zero. -/
theorem nonneg_of_mem_spansFrom {offset : Nat} {lines : List Text} {span : LineSpan}
    (h : span ∈ spansFrom offset lines) : 0 ≤ span.start ∧ 0 ≤ span.stop := by
  induction lines generalizing offset with
  | nil => cases h
  | cons line more ih =>
    rw [spansFrom, List.mem_cons] at h
    cases h with
    | inl hfirst =>
      subst hfirst
      exact ⟨Int.natCast_nonneg _, Int.natCast_nonneg _⟩
    | inr hmore => exact ih hmore

/-- The document of a **text** is sound. -/
theorem sound_ofText (text : Text) : (ofText text).Sound where
  hasLine := by
    rw [HasLine, lineCount_ofText]
    omega
  nonneg _ := nonneg_of_mem_spansFrom

/-- The span of a line is **one of** the spans of the document. -/
theorem mem_spans_of_line? {document : Document} {number : Int} {span : LineSpan}
    (h : document.line? number = some span) : span ∈ document.spans := by
  unfold line? at h
  split at h
  · exact List.mem_of_getElem? h
  · cases h

end Document

namespace Diagnostic

open Anchor Numeral

variable {document : Document} {line : Text}

/-! ## One step after the other -/

/-- Two steps fail where the **first** one does, or the second one after it. -/
theorem bind_eq_error_iff {ε α β : Type} {first : Except ε α} {next : α → Except ε β} {fault : ε} :
    (first >>= next) = .error fault ↔
      first = .error fault ∨ ∃ value, first = .ok value ∧ next value = .error fault := by
  cases first with
  | error other =>
    constructor
    · intro h
      cases h
      exact .inl rfl
    · rintro (h | ⟨_, ⟨⟩, _⟩)
      cases h
      rfl
  | ok value =>
    constructor
    · intro h
      exact .inr ⟨value, rfl, h⟩
    · rintro (⟨⟨⟩⟩ | ⟨_, ⟨⟩, h⟩)
      exact h

/-- A number is read, unless it is **too long**. -/
theorem number_eq (digits : Text) :
    number digits =
      if TooLong digits then .error (.numeralTooLong digits.length)
      else .ok (Text.numeralValue digits) := by
  unfold number Numeral.read
  by_cases h : TooLong digits
  · have hlong : digits.length > maxDigits := h
    rw [if_pos h, if_pos hlong]
    rfl
  · have hshort : ¬ digits.length > maxDigits := h
    rw [if_neg h, if_neg hshort]
    rfl

/-- The numbers of an **entry** are read one after the other, and then the anchor has its
diagnostic. -/
theorem ofEntry_eq (document : Document) (line : Text) (entry : Entry) :
    ofEntry document line entry =
      if TooLong entry.line then .error (.numeralTooLong entry.line.length)
      else if TooLong entry.column then .error (.numeralTooLong entry.column.length)
      else ofAnchor document (Anchor.ofEntry line entry) := by
  rw [ofEntry, number_eq, number_eq]
  split
  · rfl
  · split <;> rfl

/-- The number of a **mention** is read, and then the anchor has its diagnostic. -/
theorem ofMention_eq (document : Document) (line digits : Text) :
    ofMention document line digits =
      if TooLong digits then .error (.numeralTooLong digits.length)
      else ofAnchor document (Anchor.ofMention line digits) := by
  rw [ofMention, number_eq]
  split <;> rfl

/-! ## Stretches that are refused -/

/-- A line has an end **below zero**. -/
def BelowZero (span : LineSpan) : Prop := span.start < 0 ∨ span.stop < 0

/-- A stretch of a line is refused only if the line has an end **below zero**. -/
theorem belowZero_of_make {anchor : Anchor} {span : LineSpan} {message : Text}
    {error : DiagnosticError}
    (h : make (anchor.startIn span) span.stop message = .error error) :
    BelowZero span ∧ ∃ faults, error = .refused faults := by
  unfold make at h
  split at h
  · cases h
  · next hfaults =>
    cases h
    refine ⟨?_, _, rfl⟩
    by_contra hnonneg
    rw [BelowZero, not_or, Int.not_lt, Int.not_lt] at hnonneg
    have hstart : 0 ≤ anchor.startIn span := by
      unfold startIn columnOffset
      split <;> omega
    exact hfaults (stretchFaults_eq_nil_iff.2 ⟨hstart, hnonneg.2⟩)

/-- The diagnostic of an **anchor** fails only where a line has an end below zero. -/
theorem exists_belowZero_of_ofAnchor {anchor : Anchor} {error : DiagnosticError}
    (h : ofAnchor document anchor = .error error) :
    (∃ span ∈ document.spans, BelowZero span) ∧ ∃ faults, error = .refused faults := by
  unfold ofAnchor at h
  split at h
  · cases h
  · next span hspan =>
    obtain hmake | ⟨_, -, hpure⟩ := bind_eq_error_iff.1 h
    · obtain ⟨hbelow, hfaults⟩ := belowZero_of_make hmake
      exact ⟨⟨span, Document.mem_spans_of_line? hspan, hbelow⟩, hfaults⟩
    · cases hpure

/-- In a **sound** document it does not fail. -/
theorem ofAnchor_ne_error (hsound : document.Sound) (anchor : Anchor) (error : DiagnosticError) :
    ofAnchor document anchor ≠ .error error := by
  intro h
  obtain ⟨⟨span, hmem, hbelow⟩, -⟩ := exists_belowZero_of_ofAnchor h
  obtain ⟨hstart, hstop⟩ := hsound.nonneg span hmem
  cases hbelow with
  | inl hlt => exact absurd hlt (Int.not_lt.2 hstart)
  | inr hlt => exact absurd hlt (Int.not_lt.2 hstop)

/-- In a sound document an anchor in it **has a diagnostic**. -/
theorem exists_holds (hsound : document.Sound) {anchor : Anchor}
    (hline : document.HasLine anchor.line) : ∃ diagnostic, anchor.Holds document diagnostic := by
  cases hfound : ofAnchor document anchor with
  | error error => exact absurd hfound (ofAnchor_ne_error hsound anchor error)
  | ok result =>
    rw [ofAnchor_eq_ok_iff, within?_some, if_pos hline] at hfound
    cases hfound with
    | some hholds => exact ⟨_, hholds⟩

/-! ## Lines that fail -/

/-- The **first number that is read** in a line of error text and is too long: of the first entry,
the line before the column, and of the first mention only where no entry names a line of the
document. -/
inductive FirstTooLong (document : Document) (line : Text) : Text → Prop where
  /-- The line number of the first entry. -/
  | line {entry : Entry} : entry.IsFirst line → TooLong entry.line →
    FirstTooLong document line entry.line
  /-- The column number of the first entry. -/
  | column {entry : Entry} : entry.IsFirst line → ¬ TooLong entry.line → TooLong entry.column →
    FirstTooLong document line entry.column
  /-- The line number of the first mention. -/
  | mention {digits : Text} :
    (∀ entry : Entry, entry.IsFirst line → ¬ TooLong entry.line ∧ ¬ TooLong entry.column ∧
      ¬ document.HasLine (Anchor.ofEntry line entry).line) →
    Mention.IsFirst digits line → TooLong digits → FirstTooLong document line digits

/-- An entry whose numbers are read and that names **no line** of the document leaves its line to
the mentions. -/
theorem ofEntry_eq_ok_none_iff {entry : Entry} :
    ofEntry document line entry = .ok none ↔
      ¬ TooLong entry.line ∧ ¬ TooLong entry.column ∧
        ¬ document.HasLine (Anchor.ofEntry line entry).line := by
  rw [ofEntry_eq_ok_iff, ofAnchor_eq_ok_iff, within?_some, TooLong, TooLong, Nat.not_lt, Nat.not_lt,
    and_assoc]
  refine and_congr_right fun _ => and_congr_right fun _ => ?_
  split
  · next hline => exact iff_of_false nofun (not_not_intro hline)
  · next hline => exact iff_of_true .none hline

/-- An **entry** fails at a number that is too long, or as its anchor does. -/
theorem ofEntry_eq_error_cases {entry : Entry} {error : DiagnosticError} :
    ofEntry document line entry = .error error ↔
      TooLong entry.line ∧ error = .numeralTooLong entry.line.length ∨
      ¬ TooLong entry.line ∧ TooLong entry.column ∧ error = .numeralTooLong entry.column.length ∨
      ¬ TooLong entry.line ∧ ¬ TooLong entry.column ∧
        ofAnchor document (Anchor.ofEntry line entry) = .error error := by
  rw [ofEntry_eq]
  by_cases hline : TooLong entry.line
  · simp [hline, eq_comm]
  · by_cases hcolumn : TooLong entry.column
    · simp [hline, hcolumn, eq_comm]
    · simp [hline, hcolumn]

/-- A **mention** fails if its number is too long, or as its anchor does. -/
theorem ofMention_eq_error_cases {digits : Text} {error : DiagnosticError} :
    ofMention document line digits = .error error ↔
      TooLong digits ∧ error = .numeralTooLong digits.length ∨
      ¬ TooLong digits ∧ ofAnchor document (Anchor.ofMention line digits) = .error error := by
  rw [ofMention_eq]
  by_cases hlong : TooLong digits
  · simp [hlong, eq_comm]
  · simp [hlong]

/-- What a search has **found** fails as its reading does. -/
theorem elim_eq_error_iff {Place : Type} {found : Option Place}
    {read : Place → Except DiagnosticError (Option Diagnostic)} {error : DiagnosticError} :
    found.elim (pure none) read = .error error ↔
      ∃ place, found = some place ∧ read place = .error error := by
  cases found with
  | none => exact iff_of_false nofun nofun
  | some place =>
    rw [Option.elim_some]
    constructor
    · intro h
      exact ⟨place, rfl, h⟩
    · rintro ⟨_, ⟨⟩, h⟩
      exact h

/-- A line fails as its **entry** does, or as its mention does where the entry leaves the line to
it. -/
theorem ofLine_eq_error_cases {error : DiagnosticError} :
    ofLine document line = .error error ↔
      (∃ entry : Entry, entry.IsFirst line ∧ ofEntry document line entry = .error error) ∨
        (∀ entry : Entry, entry.IsFirst line → ofEntry document line entry = .ok none) ∧
          ∃ digits, Mention.IsFirst digits line ∧
            ofMention document line digits = .error error := by
  rw [ofLine_eq, bind_eq_error_iff, elim_eq_error_iff]
  simp only [Entry.find?_eq_some_iff]
  refine or_congr_right ?_
  constructor
  · rintro ⟨byEntry, hentry, hrest⟩
    cases byEntry with
    | some diagnostic => cases hrest
    | none =>
      obtain ⟨digits, hfound, hmention⟩ := elim_eq_error_iff.1 hrest
      refine ⟨?_, digits, Mention.find?_eq_some_iff.1 hfound, hmention⟩
      intro entry hfirst
      rwa [Entry.find?_eq_some_iff.2 hfirst] at hentry
  · rintro ⟨hnone, digits, hfirst, hmention⟩
    refine ⟨none, ?_, elim_eq_error_iff.2 ⟨digits, Mention.find?_eq_some_iff.2 hfirst, hmention⟩⟩
    cases hfound : Entry.find? line with
    | none => rfl
    | some entry => exact hnone entry (Entry.find?_eq_some_iff.1 hfound)

/-- **One line.** In a sound document a line of error text fails exactly at the first number that is
read in it and is too long. -/
theorem ofLine_eq_error_iff (hsound : document.Sound) {error : DiagnosticError} :
    ofLine document line = .error error ↔
      ∃ digits, FirstTooLong document line digits ∧ error = .numeralTooLong digits.length := by
  rw [ofLine_eq_error_cases]
  simp only [ofEntry_eq_ok_none_iff]
  constructor
  · rintro (⟨entry, hfirst, hentry⟩ | ⟨hnot, digits, hfirst, hmention⟩)
    · obtain ⟨hline, rfl⟩ | ⟨hline, hcolumn, rfl⟩ | ⟨-, -, hanchor⟩ :=
        ofEntry_eq_error_cases.1 hentry
      · exact ⟨_, .line hfirst hline, rfl⟩
      · exact ⟨_, .column hfirst hline hcolumn, rfl⟩
      · exact absurd hanchor (ofAnchor_ne_error hsound _ _)
    · obtain ⟨hlong, rfl⟩ | ⟨-, hanchor⟩ := ofMention_eq_error_cases.1 hmention
      · exact ⟨digits, .mention hnot hfirst hlong, rfl⟩
      · exact absurd hanchor (ofAnchor_ne_error hsound _ _)
  · rintro ⟨_, hlong, rfl⟩
    cases hlong with
    | line hfirst hline =>
      exact .inl ⟨_, hfirst, ofEntry_eq_error_cases.2 (.inl ⟨hline, rfl⟩)⟩
    | column hfirst hline hcolumn =>
      exact .inl ⟨_, hfirst, ofEntry_eq_error_cases.2 (.inr (.inl ⟨hline, hcolumn, rfl⟩))⟩
    | mention hnot hfirst hlong =>
      exact .inr ⟨hnot, _, hfirst, ofMention_eq_error_cases.2 (.inl ⟨hlong, rfl⟩)⟩

/-- A line with a number that is too long **cannot be read**. -/
theorem FirstTooLong.not_readable {digits : Text} (h : FirstTooLong document line digits) :
    ¬ Readable document line := by
  intro hreadable
  cases h with
  | line hfirst hlong => exact absurd (hreadable.entry _ hfirst).1 (Nat.not_le_of_lt hlong)
  | column hfirst _ hlong => exact absurd (hreadable.entry _ hfirst).2 (Nat.not_le_of_lt hlong)
  | mention hnot hfirst hlong =>
    have hshort := hreadable.mention (fun entry hentry => (hnot entry hentry).2.2) _ hfirst
    exact absurd hshort (Nat.not_le_of_lt hlong)

/-- Any other line is **done with**. -/
theorem exists_ofLine_eq_ok (hsound : document.Sound) (h : Readable document line) :
    ∃ result, ofLine document line = .ok result := by
  cases hfound : ofLine document line with
  | ok result => exact ⟨result, rfl⟩
  | error error =>
    obtain ⟨digits, hlong, -⟩ := (ofLine_eq_error_iff hsound).1 hfound
    exact absurd h hlong.not_readable

/-! ## Error text that fails -/

/-- The first number that is too long **in lines** of error text: that of the first line that has
one. -/
inductive FirstTooLongIn (document : Document) : List Text → Text → Prop where
  /-- In the first line. -/
  | here {line : Text} {more : List Text} {digits : Text} :
    FirstTooLong document line digits → FirstTooLongIn document (line :: more) digits
  /-- Behind lines that can be read. -/
  | behind {line : Text} {more : List Text} {digits : Text} :
    Readable document line → FirstTooLongIn document more digits →
      FirstTooLongIn document (line :: more) digits

/-- Lines with a number that is too long **cannot all be read**. -/
theorem FirstTooLongIn.not_forall_readable {lines : List Text} {digits : Text}
    (h : FirstTooLongIn document lines digits) : ¬ ∀ line ∈ lines, Readable document line := by
  induction h with
  | here hlong => exact fun hall => hlong.not_readable (hall _ List.mem_cons_self)
  | behind _ _ ih => exact fun hall => ih (List.forall_mem_cons.1 hall).2

/-- Lines of error text fail only as the **first** of them does, as it does unplaced, or as those
behind it do. -/
theorem ofLines_cons_error_cases {isFirst : Bool} {more : List Text} {error : DiagnosticError}
    (h : ofLines document isFirst (line :: more) = .error error) :
    ofLine document line = .error error ∨ ofUnplaced document line = .error error ∨
      (∃ result, ofLine document line = .ok result) ∧
        ofLines document false more = .error error := by
  obtain hline | ⟨result, hline, hrest⟩ := bind_eq_error_iff.1 h
  · exact .inl hline
  · right
    have hbehind : ∀ diagnostic : Diagnostic,
        (ofLines document false more >>= fun behind => pure (diagnostic :: behind)) =
          .error error → ofLines document false more = .error error := by
      intro diagnostic hcons
      obtain hmore | ⟨_, -, hpure⟩ := bind_eq_error_iff.1 hcons
      · exact hmore
      · cases hpure
    cases result with
    | some diagnostic => exact .inr ⟨⟨_, hline⟩, hbehind diagnostic hrest⟩
    | none =>
      cases isFirst with
      | false => exact .inr ⟨⟨_, hline⟩, hrest⟩
      | true =>
        obtain hunplaced | ⟨diagnostic, -, hcons⟩ := bind_eq_error_iff.1 hrest
        · exact .inl hunplaced
        · exact .inr ⟨⟨_, hline⟩, hbehind diagnostic hcons⟩

/-- In a sound document a line that names none **has its diagnostic**. -/
theorem exists_ofUnplaced_eq_ok (hsound : document.Sound) (line : Text) :
    ∃ diagnostic, ofUnplaced document line = .ok diagnostic := by
  have hline : document.HasLine (Anchor.ofUnplaced line).line := hsound.hasLine
  obtain ⟨diagnostic, hholds⟩ := exists_holds hsound hline
  exact ⟨diagnostic, ofUnplaced_eq_ok_iff.2 hholds⟩

/-- In a sound document lines fail exactly as the **first** of them does, or as those behind it
do. -/
theorem ofLines_cons_eq_error_iff (hsound : document.Sound) {isFirst : Bool} {more : List Text}
    {error : DiagnosticError} :
    ofLines document isFirst (line :: more) = .error error ↔
      ofLine document line = .error error ∨
        Readable document line ∧ ofLines document false more = .error error := by
  obtain ⟨unplaced, hunplaced⟩ := exists_ofUnplaced_eq_ok hsound line
  constructor
  · intro h
    obtain hline | hfails | ⟨⟨result, hline⟩, hmore⟩ := ofLines_cons_error_cases h
    · exact .inl hline
    · rw [hunplaced] at hfails
      cases hfails
    · exact .inr ⟨(ofLine_eq_ok_iff.1 hline).1, hmore⟩
  · rintro (hline | ⟨hreadable, hmore⟩)
    · rw [ofLines, hline]
      rfl
    · obtain ⟨result, hline⟩ := exists_ofLine_eq_ok hsound hreadable
      rw [ofLines, hline, hmore, hunplaced]
      cases result with
      | some diagnostic => rfl
      | none => cases isFirst with
        | true => rfl
        | false => exact hmore

/-- **All lines.** In a sound document lines of error text fail exactly at the first number in them
that is too long. -/
theorem ofLines_eq_error_iff (hsound : document.Sound) {isFirst : Bool} {lines : List Text}
    {error : DiagnosticError} :
    ofLines document isFirst lines = .error error ↔
      ∃ digits, FirstTooLongIn document lines digits ∧
        error = .numeralTooLong digits.length := by
  induction lines generalizing isFirst with
  | nil => exact iff_of_false nofun fun ⟨_, hlong, _⟩ => nomatch hlong
  | cons line more ih =>
    rw [ofLines_cons_eq_error_iff hsound, ofLine_eq_error_iff hsound, ih]
    constructor
    · rintro (⟨digits, hlong, rfl⟩ | ⟨hreadable, digits, hlong, rfl⟩)
      · exact ⟨digits, .here hlong, rfl⟩
      · exact ⟨digits, .behind hreadable hlong, rfl⟩
    · rintro ⟨digits, hlong, rfl⟩
      cases hlong with
      | here hlong => exact .inl ⟨digits, hlong, rfl⟩
      | behind hreadable hlong => exact .inr ⟨hreadable, digits, hlong, rfl⟩

/-- In a sound document error text gives diagnostics exactly if **every line** of it can be read. -/
theorem exists_ofErrors_eq_ok_iff (hsound : document.Sound) {errors : Text} :
    (∃ diagnostics, ofErrors document errors = .ok diagnostics) ↔
      ∀ line ∈ errorLines errors, Readable document line := by
  constructor
  · rintro ⟨diagnostics, hok⟩
    exact (ofErrors_eq_ok_iff.1 hok).1
  · intro hall
    cases hfound : ofErrors document errors with
    | ok diagnostics => exact ⟨diagnostics, rfl⟩
    | error error =>
      obtain ⟨digits, hlong, -⟩ := (ofLines_eq_error_iff hsound).1 hfound
      exact absurd hall hlong.not_forall_readable

/-! ## Why error text fails -/

/-- A failure has its **cause** in the error text or in the document: a number is too long, there is
no line, or a line has an end below zero. -/
inductive HasCause (document : Document) : DiagnosticError → Prop where
  /-- A number has too many digits. -/
  | numeral {digits : Text} : TooLong digits → HasCause document (.numeralTooLong digits.length)
  /-- The document has no line. -/
  | noLines : document.lineCount = 0 → HasCause document .noLines
  /-- A line of the document has an end below zero. -/
  | refused {faults : List Fault} {span : LineSpan} : span ∈ document.spans → BelowZero span →
    HasCause document (.refused faults)

variable {error : DiagnosticError}

/-- An **anchor** fails only for a cause. -/
theorem hasCause_of_ofAnchor {anchor : Anchor} (h : ofAnchor document anchor = .error error) :
    HasCause document error := by
  obtain ⟨⟨span, hmem, hbelow⟩, faults, rfl⟩ := exists_belowZero_of_ofAnchor h
  exact .refused hmem hbelow

/-- A **line** fails only for a cause. -/
theorem hasCause_of_ofLine (h : ofLine document line = .error error) :
    HasCause document error := by
  obtain ⟨entry, -, hentry⟩ | ⟨-, digits, -, hmention⟩ := ofLine_eq_error_cases.1 h
  · obtain ⟨hline, rfl⟩ | ⟨-, hcolumn, rfl⟩ | ⟨-, -, hanchor⟩ :=
      ofEntry_eq_error_cases.1 hentry
    · exact .numeral hline
    · exact .numeral hcolumn
    · exact hasCause_of_ofAnchor hanchor
  · obtain ⟨hlong, rfl⟩ | ⟨-, hanchor⟩ := ofMention_eq_error_cases.1 hmention
    · exact .numeral hlong
    · exact hasCause_of_ofAnchor hanchor

/-- A line that names none fails only for a cause: there is **no first line** to put it on, or the
first line has an end below zero. -/
theorem hasCause_of_ofUnplaced (h : ofUnplaced document line = .error error) :
    HasCause document error := by
  unfold ofUnplaced at h
  split at h
  · next hnone =>
    cases h
    refine .noLines ?_
    have hline : ¬ document.HasLine 1 := Document.line?_eq_none_iff.1 hnone
    rw [Document.HasLine] at hline
    omega
  · next span hspan =>
    have hmake : make ((Anchor.ofUnplaced line).startIn span) span.stop line = .error error := h
    obtain ⟨hbelow, faults, rfl⟩ := belowZero_of_make hmake
    exact .refused (Document.mem_spans_of_line? hspan) hbelow

/-- **Lines** fail only for a cause. -/
theorem hasCause_of_ofLines {isFirst : Bool} {lines : List Text}
    (h : ofLines document isFirst lines = .error error) : HasCause document error := by
  induction lines generalizing isFirst with
  | nil => cases h
  | cons line more ih =>
    obtain hline | hunplaced | ⟨-, hmore⟩ := ofLines_cons_error_cases h
    · exact hasCause_of_ofLine hline
    · exact hasCause_of_ofUnplaced hunplaced
    · exact ih hmore

/-- **When error text is anchored.** Error text about a text gives diagnostics exactly if the
numbers that are read in its lines can all be read. It fails exactly at the first number that is too
long, with the count of its digits. And in any document whatsoever it fails only for a number that
is too long, for want of a line, or at a line with an end below zero. -/
theorem anchored_iff (text errors : Text) :
    ((∃ diagnostics, ofErrors (.ofText text) errors = .ok diagnostics) ↔
      ∀ line ∈ errorLines errors, Readable (.ofText text) line) ∧
    (∀ error, ofErrors (.ofText text) errors = .error error ↔
      ∃ digits, FirstTooLongIn (.ofText text) (errorLines errors) digits ∧
        error = .numeralTooLong digits.length) ∧
    ∀ document error, ofErrors document errors = .error error → HasCause document error := by
  have hsound := Document.sound_ofText text
  exact ⟨exists_ofErrors_eq_ok_iff hsound, fun _ => ofLines_eq_error_iff hsound,
    fun _ _ => hasCause_of_ofLines⟩

/-- Error text that names a line by **digits**. -/
def namingErrors (digits : Text) : Text := ['x'] ++ ':' :: (digits ++ ":1: m".toList)

/-- The digits are the line number of the first **entry** in that text. -/
theorem isFirst_namingErrors {digits : Text} (h : Text.IsNumeral digits) :
    Entry.IsFirst ⟨digits, ['1'], ['m']⟩ (namingErrors digits) := by
  have hsource : ∀ c ∈ ['x'], Text.isBlank c = false ∧ c ≠ ':' :=
    List.forall_mem_singleton.2 (by decide)
  have hcolumn : Text.IsNumeral ['1'] :=
    ⟨List.cons_ne_nil _ _, List.forall_mem_singleton.2 (by decide)⟩
  have hmessage : ∀ c ∈ ['m'].head?, Text.isBlank c = false := by
    rintro c ⟨⟩
    decide
  have hwritten : Entry.WrittenAs ⟨digits, ['1'], ['m']⟩ (':' :: (digits ++ ":1: m".toList)) :=
    ⟨h, hcolumn, hmessage, [' '], rfl, rfl⟩
  exact .of_source (List.cons_ne_nil _ _) hsource hwritten

/-- The text is **one line**, with no blank at its ends. -/
theorem errorLines_namingErrors {digits : Text} (h : Text.IsNumeral digits) :
    errorLines (namingErrors digits) = [namingErrors digits] := by
  have hnewline : '\n' ∉ namingErrors digits := by
    simp only [namingErrors, List.mem_append, List.mem_cons, not_or]
    refine ⟨by decide, by decide, fun hdigit => ?_, by decide⟩
    cases h.isDecimalDigit _ hdigit
  have hends : namingErrors digits =
      ['x'] ++ (':' :: (digits ++ [':', '1', ':', ' '])) ++ ['m'] := by
    simp [namingErrors]
  have htight : Text.Tight (namingErrors digits) := by
    rw [hends]
    exact .append (.singleton (by decide)) (.singleton (by decide)) _
  rw [errorLines, Text.lines_of_newline_notMem hnewline, List.map_singleton, htight.trim_eq]
  rfl

/-- If the digits are **too many**, that text is not anchored, whatever text it is about. -/
theorem ofErrors_namingErrors {digits : Text} (h : Text.IsNumeral digits) (hlong : TooLong digits)
    (text : Text) :
    ofErrors (.ofText text) (namingErrors digits) = .error (.numeralTooLong digits.length) := by
  rw [ofErrors, ofLines_eq_error_iff (Document.sound_ofText _), errorLines_namingErrors h]
  exact ⟨digits, .here (.line (isFirst_namingErrors h) hlong), rfl⟩

/-- So error text with **one digit more** than can be read is not anchored, though the text that it
is about has a line. -/
theorem not_anchored_longNumber :
    ofErrors (.ofText "a".toList) (namingErrors (List.replicate 4301 '1')) =
      .error (.numeralTooLong 4301) := by
  have hlength : (List.replicate 4301 '1').length = 4301 := List.length_replicate
  have hnumeral : Text.IsNumeral (List.replicate 4301 '1') := by
    refine ⟨List.ne_nil_of_length_pos (by rw [hlength]; decide), fun c hc => ?_⟩
    rw [List.eq_of_mem_replicate hc]
    decide
  have hlong : TooLong (List.replicate 4301 '1') := by
    rw [TooLong, hlength]
    decide
  rw [ofErrors_namingErrors hnumeral hlong, hlength]

end Diagnostic

end DiagramOutline
