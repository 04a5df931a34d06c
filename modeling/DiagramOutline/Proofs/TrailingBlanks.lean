import DiagramOutline.Proofs.LineByLine
import DiagramOutline.Proofs.Ranges
import DiagramOutline.Proofs.Values

/-! # Trailing blanks

Blanks at the end of a line, a carriage return among them, are read by every part of an outline:
statements and names trim the line, braces and literals are scanned through it, and label properties
take them for text. All of these come to the same, but for one kind of line. A label property with
nothing behind its colon is passed over, and with a blank there it has a blank value, which is no
label and ends the search for one.

* **`PaddedTo line line'`** — `line'` is `line` with blanks after it.
* **`Label.IsBareProperty line`** — `line` is a label property with nothing behind its colon.
* **`keepsForests_paddedTo`** — padding keeps all that an outline reads off a line but labels.
* **`Label.CutShort depth lines lines'`** — the search for a label comes to a bare property that is
  padded, with a label behind it; `Label.ofBodyLines_eq_iff` is why that is the one thing to ask.
* **`Outline.trailing_blanks_iff`** — what padding leaves as it is in every source, and when it
  leaves the labels. -/

namespace DiagramOutline

open Text

/-- A line is **padded** to another one, which is the line with blanks after it. -/
def PaddedTo (line line' : Text) : Prop :=
  ∃ blanks, isAllBlank blanks = true ∧ line' = line ++ blanks

/-- A line is padded to **itself**, with nothing after it. -/
theorem PaddedTo.refl (line : Text) : PaddedTo line line :=
  ⟨[], isAllBlank_nil, (List.append_nil line).symm⟩

instance (line line' : Text) : Decidable (PaddedTo line line') :=
  decidable_of_iff (line <+: line' ∧ isAllBlank (line'.drop line.length) = true) <| by
    constructor
    · rintro ⟨⟨blanks, rfl⟩, hblanks⟩
      rw [List.drop_left] at hblanks
      exact ⟨blanks, hblanks, rfl⟩
    · rintro ⟨blanks, hblanks, rfl⟩
      rw [List.drop_left]
      exact ⟨List.prefix_append line blanks, hblanks⟩

/-! ## Braces of a padded line -/

namespace Braces

variable {blanks : Text} (hblanks : isAllBlank blanks = true)

include hblanks

/-- Blanks after a line have **no braces**, whether or not a literal is open there. -/
theorem ofLine_append_blanks (line : Text) : ofLine (line ++ blanks) = ofLine line := by
  have hnone : ∀ state offset, scan state offset blanks = [] :=
    scan_eq_nil fun c hc => (quiet_of_isBlank (isAllBlank_iff.1 hblanks c hc)).2
  rw [ofLine, scan_append, hnone, List.append_nil, ofLine]

/-- Behind the first opening brace the blanks stand **again**, if the line has one. -/
theorem afterOpening_paddedTo (line : Text) :
    PaddedTo (afterOpening line) (afterOpening (line ++ blanks)) := by
  cases hopens : opens line with
  | true =>
    obtain ⟨before, after, rfl, hafter, hclosing⟩ := exists_eq_append_of_opens hopens
    rw [List.append_assoc, List.cons_append, afterOpening_append hafter hclosing,
      afterOpening_append hafter hclosing]
    exact ⟨blanks, hblanks, rfl⟩
  | false =>
    have hnone : (ofLine line).find? (·.brace = .opening) = none := by
      rw [opens, List.any_eq_false] at hopens
      exact List.find?_eq_none.2 hopens
    rw [afterOpening, afterOpening, ofLine_append_blanks hblanks, hnone]
    exact .refl []

omit hblanks in
/-- A line that is cut where it closes a body **loses the blanks** after it. -/
theorem take_closing?_append {line : Text} {depth offset : Nat}
    (h : closing? depth (ofLine line) = some offset) (blanks : Text) :
    (line ++ blanks).take offset = line.take offset := by
  obtain ⟨front, back, rfl, rfl, -⟩ := exists_eq_append_of_closing? h
  rw [Nat.zero_add, List.append_assoc, List.take_left, List.take_left]

end Braces

/-- A line and the same line padded **close a body alike**, and are cut to the same text there. -/
theorem PaddedTo.closing {R : Text → Text → Prop} (hrefl : ∀ line, R line line)
    {line line' : Text} (h : PaddedTo line line') (depth : Nat) :
    Option.Rel (fun offset offset' => R (line.take offset) (line'.take offset'))
      (Braces.closing? depth (Braces.ofLine line))
      (Braces.closing? depth (Braces.ofLine line')) := by
  obtain ⟨blanks, hblanks, rfl⟩ := h
  rw [Braces.ofLine_append_blanks hblanks]
  cases hclosing : Braces.closing? depth (Braces.ofLine line) with
  | none => exact .none
  | some offset =>
    refine .some ?_
    rw [Braces.take_closing?_append hclosing]
    exact hrefl _

/-- Padding keeps **forests**: the same statements, interiors and names are read off a padded
line. -/
theorem keepsForests_paddedTo : KeepsForests PaddedTo where
  isSkipped := by
    rintro line _ ⟨blanks, hblanks, rfl⟩
    rw [isSkipped, isSkipped, trim_append_right hblanks]
  isAllBlank := by
    rintro line _ ⟨blanks, hblanks, rfl⟩
    rw [isAllBlank_append, hblanks, Bool.and_true]
  delta := by
    rintro line _ ⟨blanks, hblanks, rfl⟩
    rw [Braces.delta, Braces.delta, Braces.ofLine_append_blanks hblanks]
  closing h depth := h.closing .refl depth
  opens := by
    rintro line _ ⟨blanks, hblanks, rfl⟩ -
    rw [Braces.opens, Braces.opens, Braces.ofLine_append_blanks hblanks]
  afterOpening := by
    rintro line _ ⟨blanks, hblanks, rfl⟩ -
    exact Braces.afterOpening_paddedTo hblanks line
  name := by
    rintro line _ ⟨blanks, hblanks, rfl⟩ -
    rw [Header.name, Header.name, Header.head, Header.head, trim_append_right hblanks]

/-! ## Labels of a padded line -/

namespace Label

/-- A line is a **bare property**: the word of a label property and a colon, with nothing behind
it. -/
def IsBareProperty (line : Text) : Prop :=
  ∃ before gap, isAllBlank before = true ∧ isAllBlank gap = true ∧
    line = before ++ property ++ gap ++ [':']

variable {blanks : Text} (hblanks : isAllBlank blanks = true)

include hblanks

/-- A character that is **not blank** does not stand among blanks. -/
theorem notMem_blanks {c : Char} (hc : isBlank c = false) : c ∉ blanks := by
  intro hmem
  rw [isAllBlank_iff.1 hblanks c hmem] at hc
  cases hc

/-- Label text with blanks after it is cleaned to the **same label**. -/
theorem clean_append_blanks (raw : Text) : clean (raw ++ blanks) = clean raw := by
  rw [clean, clean, trim_append_right hblanks]

/-! ### Literals -/

/-- Blanks do not **close** a literal. -/
theorem literalBody?_of_isAllBlank {quote : Char} (hquote : isBlank quote = false) :
    literalBody? quote blanks = none := by
  induction blanks with
  | nil => rfl
  | cons c rest ih =>
    have hbackslash : c ≠ Quoting.backslash := by
      rintro rfl
      exact notMem_blanks hblanks (by decide) List.mem_cons_self
    have hne : c ≠ quote := by
      rintro rfl
      exact notMem_blanks hblanks hquote List.mem_cons_self
    rw [literalBody?_cons hbackslash hne, ih (Bool.and_eq_true_iff.1 hblanks).2]
    rfl

/-- Blanks after a literal are **left** with what follows it. -/
theorem literalBody?_append_blanks {quote : Char} (hquote : isBlank quote = false) (text : Text) :
    literalBody? quote (text ++ blanks) =
      (literalBody? quote text).map fun (read, left) => (read, left ++ blanks) := by
  fun_induction literalBody? quote text with
  | case1 => exact literalBody?_of_isAllBlank hblanks hquote
  | case2 =>
    -- the backslash takes the first blank, if there is one, and the others do not close the literal
    cases blanks with
    | nil => rfl
    | cons c rest =>
      have hnone := literalBody?_of_isAllBlank (Bool.and_eq_true_iff.1 hblanks).2 hquote
      rw [List.singleton_append, literalBody?, if_pos rfl]
      dsimp only
      rw [hnone]
      rfl
  | case3 d more ih =>
    rw [List.cons_append, List.cons_append, literalBody?, if_pos rfl]
    dsimp only
    rw [ih]
    cases literalBody? quote more <;> rfl
  | case4 rest hbackslash =>
    unfold literalBody?
    rw [List.cons_append]
    exact (if_neg hbackslash).trans (if_pos rfl)
  | case5 c rest hbackslash hne ih =>
    rw [List.cons_append, literalBody?_cons hbackslash hne, ih]
    cases literalBody? quote rest <;> rfl

/-- Blanks after a literal are left with what follows it, and blanks alone **begin none**. -/
theorem literal?_append_blanks (text : Text) :
    literal? (text ++ blanks) =
      (literal? text).map fun (literal, left) => (literal, left ++ blanks) := by
  cases text with
  | nil =>
    refine literal?_eq_none ?_
    intro c hc
    exact (Braces.quiet_of_isBlank (isAllBlank_iff.1 hblanks c (List.mem_of_head? hc))).1
  | cons c rest =>
    rw [List.cons_append, literal?, literal?]
    cases hquote : Quoting.isQuote c with
    | false => rfl
    | true =>
      have hblank : isBlank c = false := by
        rw [← Bool.not_eq_true]
        intro hblank
        rw [(Braces.quiet_of_isBlank hblank).1] at hquote
        cases hquote
      rw [if_pos rfl, if_pos rfl, literalBody?_append_blanks hblanks hblank]
      cases literalBody? c rest <;> rfl

/-- Behind the **first colon** of a line the same literal is read if the line is padded, and what
follows it is padded. -/
theorem quoted?_append_blanks (line : Text) :
    ∃ more, isAllBlank more = true ∧
      quoted? (line ++ blanks) =
        (quoted? line).map fun (literal, left) => (literal, left ++ more) := by
  obtain ⟨before, behind, rfl, hpass, hstop⟩ := exists_eq_append_of_first line
  cases behind with
  | nil =>
    -- the search for a colon runs through the whole line, and through the blanks
    have hpadded : ∀ c ∈ before ++ blanks, c ≠ ':' ∧ c ≠ '{' := by
      intro c hc
      rcases List.mem_append.1 hc with hc | hc
      · exact hpass c hc
      · constructor <;> rintro rfl <;> exact notMem_blanks hblanks (by decide) hc
    have hend : ∀ c ∈ ([] : Text).head?, c = '{' := fun _ => nofun
    refine ⟨[], isAllBlank_nil, ?_⟩
    rw [quoted?_eq_none hpass hend, List.append_nil, ← List.append_nil (before ++ blanks),
      quoted?_eq_none hpadded hend]
    rfl
  | cons c rest =>
    rw [List.append_assoc, List.cons_append]
    by_cases hc : c = ':'
    · subst hc
      cases before with
      | nil => exact ⟨[], isAllBlank_nil, rfl⟩
      | cons first line =>
        have hne : first :: line ≠ [] := List.cons_ne_nil _ _
        obtain ⟨more, hmore, hstart, -⟩ := exists_trimStart_append_blanks hblanks rest
        refine ⟨more, hmore, ?_⟩
        rw [quoted?_append_colon hne hpass, quoted?_append_colon hne hpass, hstart,
          literal?_append_blanks hmore]
    · have hbrace : c = '{' := (hstop c rfl).resolve_left hc
      have hhead : ∀ rest : Text, ∀ d ∈ (c :: rest).head?, d = '{' := by
        rintro rest d hd
        cases hd
        exact hbrace
      refine ⟨[], isAllBlank_nil, ?_⟩
      rw [quoted?_eq_none hpass (hhead _), quoted?_eq_none hpass (hhead _)]
      rfl

/-! ### Statements and headers -/

/-- A statement without a body has the **same label** if its first line is padded. -/
theorem ofStatement_append_blanks {code code' line : Text} {lines lines' : List Text}
    (hcode : code.lines = line :: lines) (hcode' : code'.lines = (line ++ blanks) :: lines') :
    ofStatement code' = ofStatement code := by
  obtain ⟨more, hmore, hquoted⟩ := quoted?_append_blanks hblanks line
  rw [ofStatement, ofStatement, hcode, hcode', List.headD_cons, List.headD_cons, hquoted]
  cases quoted? line with
  | none => rfl
  | some found =>
    show (if isAllBlank (found.2 ++ more) then clean found.1 else none) = _
    rw [isAllBlank_append, hmore, Bool.and_true]

/-- A header has the **same literal** before its body if the line is padded. -/
theorem ofHeader?_append_blanks (line : Text) : ofHeader? (line ++ blanks) = ofHeader? line := by
  obtain ⟨more, hmore, hquoted⟩ := quoted?_append_blanks hblanks line
  rw [ofHeader?, ofHeader?, hquoted]
  cases quoted? line with
  | none => rfl
  | some found =>
    obtain ⟨literal, left⟩ := found
    obtain ⟨end', -, hstart, hnil⟩ := exists_trimStart_append_blanks hmore left
    dsimp only [Option.map_some]
    rw [hstart]
    cases hleft : trimStart left with
    | nil => rw [hnil hleft, List.append_nil]
    | cons c rest =>
      rw [List.cons_append]
      by_cases hc : c = '{'
      · subst hc
        rfl
      · split
        · next heq => exact absurd (List.cons.inj heq).1 hc
        · split
          · next heq => exact absurd (List.cons.inj heq).1 hc
          · rfl

/-! ### Label properties -/

/-- A bare value ends at a closing brace in front of blanks, or **takes them in**. -/
theorem exists_takeWhile_append_blanks (text : Text) :
    ∃ more, isAllBlank more = true ∧
      (text ++ blanks).takeWhile (· != '}') = text.takeWhile (· != '}') ++ more ∧
      (text ≠ [] → text.takeWhile (· != '}') = [] → more = []) := by
  have hall : blanks.takeWhile (· != '}') = blanks := by
    rw [List.takeWhile_eq_self_iff]
    intro c hc
    rw [bne_iff_ne]
    rintro rfl
    exact notMem_blanks hblanks (by decide) hc
  rw [List.takeWhile_append, hall]
  split
  · next hlength =>
    have hwhole := (List.takeWhile_prefix (· != '}')).eq_of_length hlength
    exact ⟨blanks, hblanks, by rw [hwhole], fun hne hnil => absurd (hwhole ▸ hnil) hne⟩
  · exact ⟨[], isAllBlank_nil, (List.append_nil _).symm, fun _ _ => rfl⟩

/-- A value is cleaned to the **same label** if its line is padded, unless nothing stands behind the
colon. -/
theorem map_clean_value?_append_blanks {text : Text} (hne : text ≠ []) :
    (value? (text ++ blanks)).map clean = (value? text).map clean := by
  obtain ⟨more, hmore, hstart, hnil⟩ := exists_trimStart_append_blanks hblanks text
  obtain ⟨first, rest, rfl⟩ := List.exists_cons_of_ne_nil hne
  unfold value?
  rw [hstart, literal?_append_blanks hmore]
  cases literal? (trimStart (first :: rest)) with
  | some found => rfl
  | none =>
    dsimp only [Option.map_none]
    generalize trimStart (first :: rest) = start at hnil ⊢
    obtain ⟨after, hafter, htake, hempty⟩ := exists_takeWhile_append_blanks hmore start
    have hempty : start.takeWhile (· != '}') = [] → after = [] := by
      intro hbare
      cases start with
      | nil =>
        rw [hnil rfl] at htake
        exact htake.symm
      | cons d rest => exact hempty (List.cons_ne_nil _ _) hbare
    rw [htake]
    generalize start.takeWhile (· != '}') = bare at hempty ⊢
    cases bare with
    | nil =>
      -- no bare text stands there, and the first blank behind the colon is the same
      rw [hempty rfl]
      rfl
    | cons c bare =>
      exact congrArg some (clean_append_blanks hafter (c :: bare))

omit hblanks in
/-- A line with a value begins with the word of a label property and a **colon**. -/
theorem exists_eq_append_of_propertyValue? {line : Text} (h : propertyValue? line ≠ none) :
    ∃ before gap text, isAllBlank before = true ∧ isAllBlank gap = true ∧
      line = before ++ property ++ gap ++ ':' :: text := by
  obtain ⟨before, hbefore, hline⟩ := exists_eq_append_trimStart line
  unfold propertyValue? at h
  dsimp only at h
  split at h
  · next hprefix =>
    obtain ⟨rest, hrest⟩ := List.isPrefixOf_iff_prefix.1 hprefix
    rw [← hrest, List.drop_left] at h
    split at h
    · next text hcolon =>
      obtain ⟨gap, hgap, htext⟩ := exists_eq_append_trimStart rest
      refine ⟨before, gap, text, hbefore, hgap, ?_⟩
      rw [← hcolon, List.append_assoc, ← htext, List.append_assoc, hrest, ← hline]
    · exact absurd rfl h
  · exact absurd rfl h

omit hblanks in
/-- Behind its colon a label property has its **value**. -/
theorem propertyValue?_append_colon {before gap : Text} (hbefore : isAllBlank before = true)
    (hgap : isAllBlank gap = true) (text : Text) :
    propertyValue? (before ++ property ++ gap ++ ':' :: text) = value? text := by
  have hcolon : trimStart (':' :: text) = ':' :: text :=
    trimStart_eq_self fun c hc => by cases hc; decide
  rw [List.append_assoc, propertyValue?_append_property hbefore, trimStart_append hgap, hcolon]
  rfl

/-- A colon that stands in a padded line stands in the line, **in front of** the blanks. -/
theorem exists_eq_append_colon {line front text : Text}
    (h : line ++ blanks = front ++ ':' :: text) :
    ∃ behind, line = front ++ ':' :: behind := by
  have hcolon : ':' ∉ blanks := notMem_blanks hblanks (by decide)
  rcases List.append_eq_append_iff.1 h with ⟨between, -, hbetween⟩ | ⟨between, hline, hbetween⟩
  · rw [hbetween] at hcolon
    exact absurd (List.mem_append_right _ List.mem_cons_self) hcolon
  · cases between with
    | nil =>
      rw [List.nil_append] at hbetween
      rw [← hbetween] at hcolon
      exact absurd List.mem_cons_self hcolon
    | cons c behind =>
      rw [List.cons_append, List.cons.injEq] at hbetween
      exact ⟨behind, by rw [hline, ← hbetween.1]⟩

/-- A padded line begins with a label property of the **same label**, unless it is a bare one. -/
theorem map_clean_propertyValue?_append_blanks {line : Text} (hbare : ¬ IsBareProperty line) :
    (propertyValue? (line ++ blanks)).map clean = (propertyValue? line).map clean := by
  by_cases hnone : propertyValue? (line ++ blanks) = none ∧ propertyValue? line = none
  · rw [hnone.1, hnone.2]
  · -- one of the two has a value, and so the line has a colon behind the word
    obtain ⟨before, gap, text, hbefore, hgap, rfl⟩ : ∃ before gap text,
        isAllBlank before = true ∧ isAllBlank gap = true ∧
          line = before ++ property ++ gap ++ ':' :: text := by
      rcases not_and_or.1 hnone with hvalue | hvalue
      · obtain ⟨before, gap, text, hbefore, hgap, hline⟩ :=
          exists_eq_append_of_propertyValue? hvalue
        obtain ⟨behind, hbehind⟩ := exists_eq_append_colon hblanks hline
        exact ⟨before, gap, behind, hbefore, hgap, hbehind⟩
      · exact exists_eq_append_of_propertyValue? hvalue
    have hne : text ≠ [] := by
      rintro rfl
      exact hbare ⟨before, gap, hbefore, hgap, rfl⟩
    rw [List.append_assoc, List.cons_append, propertyValue?_append_colon hbefore hgap,
      propertyValue?_append_colon hbefore hgap, map_clean_value?_append_blanks hblanks hne]

omit hblanks in
/-- A bare property has **no value**. -/
theorem IsBareProperty.propertyValue?_eq_none {line : Text} (h : IsBareProperty line) :
    propertyValue? line = none := by
  obtain ⟨before, gap, hbefore, hgap, rfl⟩ := h
  exact propertyValue?_append_colon hbefore hgap []

omit hblanks in
/-- A bare property that is padded has a **blank** value. -/
theorem IsBareProperty.propertyValue?_eq_some {line line' : Text} (h : IsBareProperty line)
    (hpadded : PaddedTo line line') (hne : line' ≠ line) : propertyValue? line' = some [] := by
  obtain ⟨before, gap, hbefore, hgap, rfl⟩ := h
  obtain ⟨blanks, hblanks, rfl⟩ := hpadded
  cases blanks with
  | nil => exact absurd (List.append_nil _) hne
  | cons c rest =>
    have hstart := trimStart_of_isAllBlank hblanks
    have hblank := isAllBlank_iff.1 hblanks c List.mem_cons_self
    rw [List.append_assoc _ [':'], List.singleton_append, propertyValue?_append_colon hbefore hgap]
    unfold value?
    rw [hstart]
    exact if_pos hblank

omit hblanks in
/-- A bare property neither opens nor **closes** a body. -/
theorem IsBareProperty.delta_eq_zero {line : Text} (h : IsBareProperty line) :
    Braces.delta line = 0 := by
  obtain ⟨before, gap, hbefore, hgap, rfl⟩ := h
  have hproperty : Braces.Quiet property := .of_ofLine_eq_nil (by decide) (by decide)
  have hcolon : Braces.Quiet [':'] := .of_ofLine_eq_nil (by decide) (by decide)
  have hquiet := (((Braces.Quiet.of_isAllBlank hbefore).append hproperty).append
    (.of_isAllBlank hgap)).append hcolon
  rw [Braces.delta, Braces.ofLine, hquiet.scan]
  rfl

end Label

/-! ## Labels that are lost -/

namespace Label

/-- The search for a label in the lines of a body is **cut short** in padded lines: it comes to a
bare property that is padded, and there is a label behind it. -/
inductive CutShort : Int → List Text → List Text → Prop where
  /-- The bare property is the next line. -/
  | here {line line' : Text} {more more' : List Text} : IsBareProperty line → line' ≠ line →
    ofBodyLines 1 more ≠ none → CutShort 1 (line :: more) (line' :: more')
  /-- It comes behind a line that has no value and does not end the search. -/
  | behind {depth : Int} {line line' : Text} {more more' : List Text} :
    (depth = 1 → propertyValue? line = none) → 0 < depth + Braces.delta line →
    CutShort (depth + Braces.delta line) more more' →
    CutShort depth (line :: more) (line' :: more')

/-- A line without a value is **passed over**, and ends the search if it closes all bodies. -/
theorem ofBodyLines_pass {depth : Int} {line : Text} (h : depth = 1 → propertyValue? line = none)
    (more : List Text) :
    ofBodyLines depth (line :: more) =
      if depth + Braces.delta line ≤ 0 then none
      else ofBodyLines (depth + Braces.delta line) more := by
  have hnone : (if depth = 1 then propertyValue? line else none) = none := by
    split
    · next hdepth => exact h hdepth
    · rfl
  rw [ofBodyLines, hnone]

/-- A bare property is **passed over**, and the search goes on behind it. -/
theorem IsBareProperty.ofBodyLines_cons {line : Text} (h : IsBareProperty line)
    (more : List Text) : ofBodyLines 1 (line :: more) = ofBodyLines 1 more := by
  have hdelta := h.delta_eq_zero
  rw [ofBodyLines_of_none h.propertyValue?_eq_none (by omega), hdelta]
  rfl

/-- Where the search is cut short there **is a label** to be found. -/
theorem CutShort.ofBodyLines_ne_none {depth : Int} {lines lines' : List Text}
    (h : CutShort depth lines lines') : ofBodyLines depth lines ≠ none := by
  induction h with
  | here hbare _ hlabel =>
    rw [hbare.ofBodyLines_cons]
    exact hlabel
  | behind hnone hopen _ ih =>
    rw [ofBodyLines_pass hnone, if_neg (by omega)]
    exact ih

/-- A line that is padded begins with a label property of the **same label**, unless it is a bare
one and anything is added. -/
theorem map_clean_propertyValue?_of_paddedTo {line line' : Text} (hpadded : PaddedTo line line')
    (h : ¬ (IsBareProperty line ∧ line' ≠ line)) :
    (propertyValue? line').map clean = (propertyValue? line).map clean := by
  by_cases hsame : line' = line
  · rw [hsame]
  · obtain ⟨blanks, hblanks, rfl⟩ := hpadded
    exact map_clean_propertyValue?_append_blanks hblanks fun hbare => h ⟨hbare, hsame⟩

/-- The lines of a body give the **same label** when they are padded, exactly if the search for it
is not cut short. -/
theorem ofBodyLines_eq_iff {lines lines' : List Text} (h : List.Forall₂ PaddedTo lines lines')
    (depth : Int) :
    ofBodyLines depth lines' = ofBodyLines depth lines ↔ ¬ CutShort depth lines lines' := by
  induction h generalizing depth with
  | nil => exact iff_of_true rfl nofun
  | @cons line line' more more' hline hmore ih =>
    by_cases hbare : depth = 1 ∧ IsBareProperty line ∧ line' ≠ line
    · -- the search ends here in the padded lines, and goes on in the others
      obtain ⟨rfl, hproperty, hne⟩ := hbare
      have hnone : ofBodyLines 1 (line' :: more') = none :=
        ofBodyLines_of_some (hproperty.propertyValue?_eq_some hline hne) more'
      rw [hnone, hproperty.ofBodyLines_cons]
      constructor
      · intro hnolabel hcut
        exact hcut.ofBodyLines_ne_none ((hproperty.ofBodyLines_cons more).trans hnolabel.symm)
      · intro hcut
        by_contra hlabel
        exact hcut (.here hproperty hne (Ne.symm hlabel))
    · have hdelta := keepsForests_paddedTo.delta hline
      have hvalue : depth = 1 → (propertyValue? line').map clean = (propertyValue? line).map clean :=
        fun hdepth => map_clean_propertyValue?_of_paddedTo hline fun hboth => hbare ⟨hdepth, hboth⟩
      by_cases hpass : depth = 1 → propertyValue? line = none
      · -- both lines are passed over
        have hpass' : depth = 1 → propertyValue? line' = none := by
          intro hdepth
          have hsame := hvalue hdepth
          rwa [hpass hdepth, Option.map_none, Option.map_eq_none_iff] at hsame
        have hcut : CutShort depth (line :: more) (line' :: more') ↔
            0 < depth + Braces.delta line ∧ CutShort (depth + Braces.delta line) more more' := by
          constructor
          · rintro (⟨hproperty, hne, -⟩ | ⟨-, hopen, hmore⟩)
            · exact absurd ⟨rfl, hproperty, hne⟩ hbare
            · exact ⟨hopen, hmore⟩
          · rintro ⟨hopen, hmore⟩
            exact .behind hpass hopen hmore
        rw [ofBodyLines_pass hpass, ofBodyLines_pass hpass', ← hdelta, hcut]
        split
        · next hclosed => exact iff_of_true rfl fun hopen => absurd hopen.1 (by omega)
        · next hopen => rw [ih, and_iff_right (by omega)]
      · -- both lines have a value
        obtain ⟨rfl, hsome⟩ := Classical.not_imp.1 hpass
        obtain ⟨value, hfound⟩ := Option.ne_none_iff_exists'.1 hsome
        have hsame := hvalue rfl
        rw [hfound, Option.map_some, Option.map_eq_some_iff] at hsame
        obtain ⟨value', hfound', hclean⟩ := hsame
        rw [ofBodyLines_of_some hfound, ofBodyLines_of_some hfound', hclean]
        refine iff_of_true rfl ?_
        rintro (⟨hproperty, hne, -⟩ | ⟨hnone, -, -⟩)
        · exact hbare ⟨rfl, hproperty, hne⟩
        · exact hpass hnone

end Label

/-- A statement **loses its label** to blanks: it has a body and no label in its header, and the
search for the label in its body is cut short. -/
structure Statement.LosesLabel (statement statement' : Statement) : Prop where
  /-- There is a body. -/
  hasBody : statement.hasBody = true
  /-- There is no label in the header. -/
  header : Label.ofHeader? statement.first = none
  /-- The search in the lines behind the first is cut short. -/
  cutShort : Label.CutShort (Braces.delta statement.first) statement.more statement'.more

/-- A statement has the **same label** when its lines are padded, unless it loses it. -/
theorem label_eq_iff_of_paddedTo {statement statement' : Statement}
    (h : statement.Related PaddedTo statement')
    (hlines : statement.code.lines = statement.lines)
    (hlines' : statement'.code.lines = statement'.lines) :
    statement'.label = statement.label ↔ ¬ statement.LosesLabel statement' := by
  have hbody := keepsForests_paddedTo.hasBody h
  have hdelta := keepsForests_paddedTo.delta h.first
  obtain ⟨blanks, hblanks, hfirst⟩ := h.first
  cases hcase : statement.hasBody with
  | false =>
    rw [Statement.lines, hfirst] at hlines'
    rw [Statement.label, Statement.label, ← hbody, hcase, if_neg Bool.false_ne_true,
      if_neg Bool.false_ne_true, Label.ofStatement_append_blanks hblanks hlines hlines']
    refine iff_of_true rfl ?_
    intro hloses
    rw [hloses.hasBody] at hcase
    cases hcase
  | true =>
    have hheader : Label.ofHeader? statement'.first = Label.ofHeader? statement.first := by
      rw [hfirst, Label.ofHeader?_append_blanks hblanks]
    rw [Statement.label, Statement.label, ← hbody, hcase, if_pos rfl, if_pos rfl, Label.ofBody,
      Label.ofBody, hlines, hlines', Statement.lines, Statement.lines]
    dsimp only
    rw [hheader]
    cases hfound : Label.ofHeader? statement.first with
    | some literal =>
      refine iff_of_true rfl ?_
      intro hloses
      rw [hloses.header] at hfound
      cases hfound
    | none =>
      dsimp only
      rw [← hdelta, Label.ofBodyLines_eq_iff h.more]
      exact not_congr ⟨fun hcut => ⟨hcase, hfound, hcut⟩, fun hloses => hloses.cutShort⟩

/-! ## Padded sources -/

/-- The lines of texts with padded lines are **padded** too. -/
theorem paddedTo_lines_unlines {all all' : List Text} (h : List.Forall₂ PaddedTo all all')
    (hnewline : ∀ line ∈ all, '\n' ∉ line) (hnewline' : ∀ line ∈ all', '\n' ∉ line) :
    List.Forall₂ PaddedTo (unlines all).lines (unlines all').lines := by
  cases h with
  | nil => exact .cons (.refl []) .nil
  | cons hfirst hmore =>
    rw [lines_unlines (List.cons_ne_nil _ _) hnewline, lines_unlines (List.cons_ne_nil _ _) hnewline']
    exact .cons hfirst hmore

namespace Block

/-- A block **without labels**, its own and those of all blocks inside it. -/
def unlabelled (block : Block) : Block := block.relabel fun _ => none

/-- The lines of a block's text are padded, each to its own line, if the lines **around** it are. -/
theorem paddedTo_linesBetween {source source' : Text}
    (h : List.Forall₂ PaddedTo source.lines source'.lines) (first last : Int) :
    List.Forall₂ PaddedTo (linesBetween source.lines first last).lines
      (linesBetween source'.lines first last).lines := by
  have hmem : ∀ {text line : Text}, line ∈ slice text.lines first (last + 1) → '\n' ∉ line := by
    intro text line hmem
    exact newline_notMem_of_mem_lines (List.mem_of_mem_take (List.mem_of_mem_drop hmem))
  refine paddedTo_lines_unlines ?_ (fun _ => hmem) (fun _ => hmem)
  rw [slice, slice, h.length_eq]
  exact List.forall₂_drop _ (List.forall₂_take _ h)

end Block

namespace Outline

/-- The outline of one source is that of another **but for labels** and for blanks at the ends of
the lines of the code. -/
structure SameButLabels (source source' : Text) : Prop where
  /-- Names, line numbers and children are the same at every depth. -/
  unlabelled : (plain source').map Block.unlabelled =
    ((plain source).map (Block.onLines source'.lines)).map Block.unlabelled
  /-- The code of every block has its lines padded, and no others. -/
  code : ∀ block : Block, block.OccursIn (plain source) →
    List.Forall₂ PaddedTo block.code.lines (block.onLines source'.lines).code.lines

/-- Sources whose lines are **padded** have the same outline but for labels. -/
theorem sameButLabels_of_paddedTo {source source' : Text}
    (h : List.Forall₂ PaddedTo source.lines source'.lines) : SameButLabels source source' := by
  constructor
  case unlabelled =>
    exact (keepsForests_paddedTo.relabel_plain_eq_iff (fun _ _ _ => iff_of_true rfl trivial)
      (keepsForests_paddedTo.statements h 0)).2 (everywhere_of_forall (fun _ _ => trivial) _ _)
  case code =>
    intro block hin
    have hcode := Block.code_of_occursIn (fun _ => standsIn_of_mem_allBlocks)
      hin.of_withoutDirectives
    rw [Block.code_onLines, hcode]
    exact Block.paddedTo_linesBetween h _ _

/-- **Which trailing blanks are inert.**

Blanks at the ends of its lines change nothing in the outline of a source but its labels and the
ends of lines in the code. The labels stay the same too, and so the whole outline over the new
lines, if and only if everywhere in the source no statement loses its label: in none of the bodies
does the search for the label come to a property with nothing behind its colon that is given a blank,
and with a label behind it. -/
theorem trailing_blanks_iff {source source' : Text}
    (h : List.Forall₂ PaddedTo source.lines source'.lines) :
    SameButLabels source source' ∧
      (plain source' = (plain source).map (Block.onLines source'.lines) ↔
        Everywhere (fun statement statement' => ¬ statement.LosesLabel statement')
          source source') := by
  refine ⟨sameButLabels_of_paddedTo h, ?_⟩
  have hiff : (plain source').map (Block.relabel id) =
        ((plain source).map (Block.onLines source'.lines)).map (Block.relabel id) ↔
      Everywhere (fun statement statement' => ¬ statement.LosesLabel statement')
        source source' :=
    keepsForests_paddedTo.relabel_plain_eq_iff label_eq_iff_of_paddedTo
      (keepsForests_paddedTo.statements h 0)
  rwa [Block.map_relabel_id, Block.map_relabel_id] at hiff

/-- A body with labels at two depths, its lines ended by **newlines**. -/
def newlineSource : Text := "a \x7b\n  b \x7b\n    label: Y\n  \x7d\n  label: X\n\x7d".toList

/-- The same body, its lines ended by a **carriage return** before each newline. -/
def carriageSource : Text :=
  "a \x7b\r\n  b \x7b\r\n    label: Y\r\n  \x7d\r\n  label: X\r\n\x7d".toList

/-- Carriage returns are **inert** in that source. -/
theorem trailing_blanks_carriageSource :
    List.Forall₂ PaddedTo newlineSource.lines carriageSource.lines ∧
      SameButLabels newlineSource carriageSource ∧
      plain carriageSource =
        (plain newlineSource).map (Block.onLines carriageSource.lines) ∧
      Everywhere (fun statement statement' => ¬ statement.LosesLabel statement')
        newlineSource carriageSource := by
  have hpadded : List.Forall₂ PaddedTo newlineSource.lines carriageSource.lines := by
    decide +kernel
  have hsame : plain carriageSource =
      (plain newlineSource).map (Block.onLines carriageSource.lines) := by decide +kernel
  obtain ⟨hbut, hiff⟩ := trailing_blanks_iff hpadded
  exact ⟨hpadded, hbut, hsame, hiff.1 hsame⟩

/-- A body with a **bare property**, and a label behind it. -/
def bareSource : Text := "a \x7b\n  label:\n  label: X\n\x7d".toList

/-- The same body, with a **blank** behind the bare property. -/
def blankSource : Text := "a \x7b\n  label: \n  label: X\n\x7d".toList

/-- That blank is **not inert**: with it the block has no label. -/
theorem label_lost_blankSource :
    List.Forall₂ PaddedTo bareSource.lines blankSource.lines ∧
      (plain bareSource).map (·.label) = [some "X".toList] ∧
      (plain blankSource).map (·.label) = [none] := by
  decide +kernel

end Outline

end DiagramOutline
