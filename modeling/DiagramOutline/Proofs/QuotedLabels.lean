import DiagramOutline.Proofs.Labels
import DiagramOutline.Proofs.Literals

/-! # Lines with quoted labels

A line says a label in quotes when its first colon, which is not its first character, is followed by
blanks and a string literal. The label is the one of a statement without a body if only blanks follow
it, and the one in the header of a body if the brace of the body is the next character that is not
blank. The literals that are read for labels are those that a scan for braces passes over.

* **`Label.Says line literal left`** — `line` says `literal` behind its first colon, and goes on with
  `left`.
* **`Label.quoted?_eq_some_iff`** — what is read behind the first colon of a line.
* **`Label.ofLeaf?`** — the literal that is the label of a line without a body.
* **`Label.quoted_label_iff`** — which lines have a quoted label, alone and before a body. -/

namespace DiagramOutline.Label

open Text

/-- A line **says** a literal behind its first colon, and goes on with `left`: before the colon stands
something, but no brace, and between the colon and the literal stand only blanks. -/
def Says (line : Text) (literal : Literal) (left : Text) : Prop :=
  ∃ before blanks, line = before ++ ':' :: (blanks ++ literal.text ++ left) ∧
    before ≠ [] ∧ (∀ c ∈ before, c ≠ ':' ∧ c ≠ '{') ∧ isAllBlank blanks = true

/-- A line **ends with a label**: only blanks follow the literal that it says. -/
def EndsWith (line : Text) (literal : Literal) : Prop :=
  ∃ blanks, Says line literal blanks ∧ isAllBlank blanks = true

/-- A line **opens a body behind a label**: only blanks stand between the literal that it says and an
opening brace. -/
def OpensBehind (line : Text) (literal : Literal) : Prop :=
  ∃ blanks tail, Says line literal (blanks ++ '{' :: tail) ∧ isAllBlank blanks = true

/-- A literal does not start with a **blank**. -/
theorem isBlank_of_mem_head?_literal {literal : Literal} {left : Text} :
    ∀ c ∈ (literal.text ++ left).head?, isBlank c = false := by
  rintro c hc
  cases hc
  exact (Quoting.of_isQuote literal.isQuote_quote).1

/-- What is read behind the **first colon** of a line is the literal that the line says there. -/
theorem quoted?_eq_some_iff {line read left : Text} :
    quoted? line = some (read, left) ↔
      ∃ literal : Literal, literal.text = read ∧ Says line literal left := by
  constructor
  · intro h
    obtain ⟨before, behind, rfl, hbefore, hbehind⟩ := exists_eq_append_of_first line
    -- at a brace, at the end and at a colon that comes first nothing is read
    have hcolon : before ≠ [] ∧ ∃ rest, behind = ':' :: rest := by
      rcases behind with _ | ⟨c, rest⟩
      · have hend : ∀ c ∈ ([] : Text).head?, c = '{' := fun _ => nofun
        rw [quoted?_eq_none hbefore hend] at h
        cases h
      · obtain rfl | rfl := hbehind c rfl
        · refine ⟨?_, rest, rfl⟩
          rintro rfl
          cases h
        · rw [quoted?_eq_none hbefore fun d hd => by cases hd; rfl] at h
          cases h
    obtain ⟨hne, rest, rfl⟩ := hcolon
    rw [quoted?_append_colon hne hbefore] at h
    obtain ⟨literal, rfl, hliteral⟩ := literal?_eq_some_iff.1 h
    obtain ⟨blanks, hblanks, hrest⟩ := exists_eq_append_trimStart rest
    refine ⟨literal, rfl, before, blanks, ?_, hne, hbefore, hblanks⟩
    rw [List.append_assoc, ← hliteral, ← hrest]
  · rintro ⟨literal, rfl, before, blanks, rfl, hne, hbefore, hblanks⟩
    rw [quoted?_append_colon hne hbefore, List.append_assoc, trimStart_append hblanks,
      trimStart_eq_self isBlank_of_mem_head?_literal, literal?_append]

/-- A line says **one literal** at most, and goes on behind it in one way. -/
theorem Says.unique {line left left' : Text} {literal literal' : Literal}
    (h : Says line literal left) (h' : Says line literal' left') :
    literal.text = literal'.text ∧ left = left' := by
  have hread := quoted?_eq_some_iff.2 ⟨literal, rfl, h⟩
  rw [quoted?_eq_some_iff.2 ⟨literal', rfl, h'⟩, Option.some.injEq, Prod.mk.injEq] at hread
  exact ⟨hread.1.symm, hread.2.symm⟩

/-! ## Lines without a body -/

/-- The literal that is the label of a line **without a body**: the one behind its first colon, if
only blanks follow it. -/
def ofLeaf? (line : Text) : Option Text :=
  match quoted? line with
  | some (literal, left) => if isAllBlank left then some literal else none
  | none => none

/-- The label of a statement without a body is the literal of its **first line**, made ready. -/
theorem ofStatement_eq_bind (code : Text) :
    ofStatement code = (ofLeaf? (code.lines.headD [])).bind clean := by
  rw [ofStatement, ofLeaf?]
  cases quoted? (code.lines.headD []) with
  | none => rfl
  | some found =>
    dsimp only
    split <;> rfl

/-- The label of a line without a body is the literal that it **ends with**. -/
theorem ofLeaf?_eq_some_iff {line read : Text} :
    ofLeaf? line = some read ↔ ∃ literal : Literal, literal.text = read ∧ EndsWith line literal := by
  constructor
  · intro h
    unfold ofLeaf? at h
    split at h
    · next found left hquoted =>
      split at h
      · next hblank =>
        cases h
        obtain ⟨literal, hread, hsays⟩ := quoted?_eq_some_iff.1 hquoted
        exact ⟨literal, hread, left, hsays, hblank⟩
      · cases h
    · cases h
  · rintro ⟨literal, rfl, blanks, hsays, hblanks⟩
    rw [ofLeaf?, quoted?_eq_some_iff.2 ⟨literal, rfl, hsays⟩]
    exact if_pos hblanks

/-! ## Lines before a body -/

/-- The label in the header of a body is the literal **behind which** the line opens the body. -/
theorem ofHeader?_eq_some_iff {line read : Text} :
    ofHeader? line = some read ↔
      ∃ literal : Literal, literal.text = read ∧ OpensBehind line literal := by
  constructor
  · intro h
    unfold ofHeader? at h
    split at h
    · next found left hquoted =>
      split at h
      · next tail htail =>
        cases h
        obtain ⟨literal, hread, hsays⟩ := quoted?_eq_some_iff.1 hquoted
        obtain ⟨blanks, hblanks, hleft⟩ := exists_eq_append_trimStart left
        rw [htail] at hleft
        exact ⟨literal, hread, blanks, tail, hleft ▸ hsays, hblanks⟩
      · cases h
    · cases h
  · rintro ⟨literal, rfl, blanks, tail, hsays, hblanks⟩
    have htail : trimStart (blanks ++ '{' :: tail) = '{' :: tail := by
      rw [trimStart_append hblanks]
      exact trimStart_eq_self fun c hc => by cases hc; decide
    rw [ofHeader?, quoted?_eq_some_iff.2 ⟨literal, rfl, hsays⟩]
    dsimp only
    rw [htail]
    rfl

/-- **Which lines have a quoted label.** The label of a line without a body is the literal that the
line ends with, made ready, and there is none if the line ends with no literal. The label of a body
is the literal behind which its first line opens it, made ready; if there is none, the label is the
one that the lines of the body give. A line says one literal at most, and no literal has a brace. -/
theorem quoted_label_iff {line rest : Text} (hline : '\n' ∉ line)
    (hrest : rest = [] ∨ ∃ more, rest = '\n' :: more) :
    (ofStatement line = (ofLeaf? line).bind clean ∧
      ∀ read, ofLeaf? line = some read ↔
        ∃ literal : Literal, literal.text = read ∧ EndsWith line literal) ∧
    (ofBody (line ++ rest) = (ofHeader? line).elim
        (ofBodyLines (Braces.delta line) (line ++ rest).lines.tail) clean ∧
      ∀ read, ofHeader? line = some read ↔
        ∃ literal : Literal, literal.text = read ∧ OpensBehind line literal) ∧
    (∀ literal literal' left left', Says line literal left → Says line literal' left' →
      literal.text = literal'.text ∧ left = left') ∧
    ∀ literal : Literal, Braces.ofLine literal.text = [] := by
  have hlines : (line ++ rest).lines = line :: (line ++ rest).lines.tail := by
    obtain rfl | ⟨more, rfl⟩ := hrest
    · rw [List.append_nil, lines_of_newline_notMem hline, List.tail_cons]
    · rw [lines_append_newline hline, List.tail_cons]
  refine ⟨⟨?_, fun _ => ofLeaf?_eq_some_iff⟩, ⟨?_, fun _ => ofHeader?_eq_some_iff⟩, ?_, ?_⟩
  · rw [ofStatement_eq_bind, lines_of_newline_notMem hline, List.headD_cons]
  · rw [ofBody, hlines, List.tail_cons]
    dsimp only
    cases ofHeader? line <;> rfl
  · exact fun _ _ _ _ h h' => h.unique h'
  · exact fun literal => literal.quiet.scan 0

/-- A line with a quote before its first colon, a literal with a brace and an **escaped quote**, and
a second literal in the body. -/
def sharedQuoteLine : Text := "it's: \"a \x7b \\\" b\" \x7b c: 'd'".toList

/-- The lines of the body that it opens. -/
def sharedQuoteRest : Text := '\n' :: "  label: X\n\x7d".toList

/-- The first literal is the label of **the body**, and the line alone has none. -/
theorem quoted_label_sharedQuoteLine :
    '\n' ∉ sharedQuoteLine ∧ (sharedQuoteRest = [] ∨ ∃ more, sharedQuoteRest = '\n' :: more) ∧
      (∃ literal : Literal, literal.text = "\"a \x7b \\\" b\"".toList ∧
        OpensBehind sharedQuoteLine literal) ∧
      ofBody (sharedQuoteLine ++ sharedQuoteRest) = some "a \x7b \\\" b".toList ∧
      ofStatement sharedQuoteLine = none := by
  have hline : '\n' ∉ sharedQuoteLine := by decide +kernel
  have hrest : sharedQuoteRest = [] ∨ ∃ more, sharedQuoteRest = '\n' :: more := .inr ⟨_, rfl⟩
  obtain ⟨⟨hleaf, -⟩, ⟨hbody, hheader⟩, -⟩ := quoted_label_iff hline hrest
  have hread : ofHeader? sharedQuoteLine = some "\"a \x7b \\\" b\"".toList := by decide +kernel
  have hnone : ofLeaf? sharedQuoteLine = none := by decide +kernel
  rw [hread, Option.elim_some] at hbody
  rw [hnone, Option.bind_none] at hleaf
  exact ⟨hline, hrest, (hheader _).1 hread, hbody.trans (by decide +kernel), hleaf⟩

end DiagramOutline.Label
