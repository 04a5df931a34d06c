import DiagramOutline.Label
import DiagramOutline.Proofs.Keywords
import DiagramOutline.Proofs.StringLiterals
import Mathlib.Data.List.TakeDrop

/-! # Labels in lines that are put together

What the readers of labels find in a line whose parts are known: words, a colon, a literal or bare
text.

* **`Label.literal?_append`**, **`Label.literal?_eq_some_iff`** — a literal is read up to its end, and
  nothing else is read as one.
* **`Label.quoted?_append_colon`**, **`Label.quoted?_eq_none`** — the first colon of a line.
* **`Label.propertyValue?_append_property`**, **`Label.propertyValue?_append_word`** — a line that
  begins with the label property, and one that begins with another word.
* **`Label.ofBodyLines_of_some`**, **`Label.ofBodyLines_of_none`**, **`Label.ofBodyLines_of_ne`** —
  one line of a body. -/

namespace DiagramOutline.Label

open Text

/-! ## Literals -/

/-- A character that neither escapes the next one nor closes the literal is **kept**. -/
theorem literalBody?_cons {quote c : Char} (hbackslash : c ≠ Quoting.backslash) (hne : c ≠ quote)
    (rest : Text) :
    literalBody? quote (c :: rest) =
      (literalBody? quote rest).map fun (read, left) => (c :: read, left) := by
  conv_lhs => unfold literalBody?
  exact (if_neg hbackslash).trans (if_neg hne)

/-- The pieces of a literal are read up to its **quote**. -/
theorem literalBody?_flatMap_append {quote : Char} (hquote : quote ≠ Quoting.backslash)
    (pieces : List (LiteralPiece quote)) (rest : Text) :
    literalBody? quote (pieces.flatMap LiteralPiece.text ++ quote :: rest) =
      some (pieces.flatMap LiteralPiece.text ++ [quote], rest) := by
  induction pieces with
  | nil =>
    unfold literalBody?
    exact (if_neg hquote).trans (if_pos rfl)
  | cons piece more ih =>
    cases piece with
    | plain c ne_quote ne_backslash =>
      rw [List.flatMap_cons, LiteralPiece.text, List.singleton_append, List.cons_append,
        literalBody?_cons ne_backslash ne_quote, ih]
      rfl
    | escape c =>
      rw [List.flatMap_cons, LiteralPiece.text, List.cons_append, List.singleton_append,
        List.cons_append, List.cons_append, literalBody?, if_pos rfl]
      dsimp only
      rw [ih]
      rfl

/-- A **literal** is read up to its end. -/
theorem literal?_append (literal : Literal) (rest : Text) :
    literal? (literal.text ++ rest) = some (literal.text, rest) := by
  have hquote := Quoting.ne_backslash_of_isQuote literal.isQuote_quote
  rw [Literal.text, List.cons_append, literal?, if_pos literal.isQuote_quote, List.append_assoc,
    List.singleton_append, literalBody?_flatMap_append hquote]
  rfl

/-- What is read of a literal that is closed are **pieces** and its quote. -/
theorem exists_pieces_of_literalBody? {quote : Char} {text read left : Text}
    (h : literalBody? quote text = some (read, left)) :
    ∃ pieces : List (LiteralPiece quote), read = pieces.flatMap LiteralPiece.text ++ [quote] := by
  fun_induction literalBody? quote text generalizing read left with
  | case1 => cases h
  | case2 => cases h
  | case3 d more ih =>
    obtain ⟨⟨read', left'⟩, hbody, heq⟩ := Option.map_eq_some_iff.1 h
    obtain ⟨rfl, rfl⟩ := Prod.mk.inj heq
    obtain ⟨pieces, rfl⟩ := ih hbody
    exact ⟨.escape d :: pieces, rfl⟩
  | case4 =>
    cases h
    exact ⟨[], rfl⟩
  | case5 c rest hbackslash hne ih =>
    obtain ⟨⟨read', left'⟩, hbody, heq⟩ := Option.map_eq_some_iff.1 h
    obtain ⟨rfl, rfl⟩ := Prod.mk.inj heq
    obtain ⟨pieces, rfl⟩ := ih hbody
    exact ⟨.plain c hne hbackslash :: pieces, rfl⟩

/-- What is read at the start of a text are exactly the **literals** that stand there. -/
theorem literal?_eq_some_iff {text read left : Text} :
    literal? text = some (read, left) ↔
      ∃ literal : Literal, literal.text = read ∧ text = literal.text ++ left := by
  constructor
  · intro h
    have htext := eq_append_of_literal? h
    unfold literal? at h
    split at h
    · cases h
    · next c rest =>
      split at h
      · next hquote =>
        obtain ⟨⟨read', left'⟩, hbody, heq⟩ := Option.map_eq_some_iff.1 h
        obtain ⟨rfl, rfl⟩ := Prod.mk.inj heq
        obtain ⟨pieces, rfl⟩ := exists_pieces_of_literalBody? hbody
        exact ⟨⟨c, hquote, pieces⟩, rfl, htext⟩
      · cases h
  · rintro ⟨literal, rfl, rfl⟩
    exact literal?_append literal left

/-- No literal is read where **no quote** comes first. -/
theorem literal?_eq_none {text : Text} (h : ∀ c ∈ text.head?, Quoting.isQuote c = false) :
    literal? text = none := by
  cases text with
  | nil => rfl
  | cons c rest =>
    rw [literal?, h c rfl]
    rfl

/-! ## The first colon -/

/-- A line is parted at its **first colon or brace**, if it has one. -/
theorem exists_eq_append_of_first (line : Text) :
    ∃ before behind, line = before ++ behind ∧ (∀ c ∈ before, c ≠ ':' ∧ c ≠ '{') ∧
      ∀ c ∈ behind.head?, c = ':' ∨ c = '{' := by
  refine ⟨line.takeWhile (fun c => c != ':' && c != '{'),
    line.dropWhile (fun c => c != ':' && c != '{'), List.takeWhile_append_dropWhile.symm, ?_, ?_⟩
  · intro c hc
    have hpassed := List.mem_takeWhile_imp hc
    rwa [Bool.and_eq_true, bne_iff_ne, bne_iff_ne] at hpassed
  · intro c hc
    have hstop := List.head?_dropWhile_not (fun c => c != ':' && c != '{') line
    rw [Option.mem_def.1 hc] at hstop
    by_cases hcolon : c = ':'
    · exact .inl hcolon
    · exact .inr (by simpa [hcolon] using hstop)

/-- After the **first colon** of a line a literal is looked for. -/
theorem quoted?_append_colon {before : Text} (hne : before ≠ [])
    (h : ∀ c ∈ before, c ≠ ':' ∧ c ≠ '{') (rest : Text) :
    quoted? (before ++ ':' :: rest) = literal? (trimStart rest) := by
  have hbefore : ∀ c ∈ before, (c != ':' && c != '{') = true := by
    intro c hc
    rw [Bool.and_eq_true, bne_iff_ne, bne_iff_ne]
    exact h c hc
  have hspan : (before ++ ':' :: rest).span (fun c => c != ':' && c != '{') =
      (before, ':' :: rest) := by
    rw [List.span_eq_takeWhile_dropWhile, List.takeWhile_append_of_pos hbefore,
      List.dropWhile_append_of_pos hbefore, List.takeWhile_cons_of_neg (by decide),
      List.dropWhile_cons_of_neg (by decide), List.append_nil]
  obtain ⟨c, more, rfl⟩ := List.exists_cons_of_ne_nil hne
  rw [quoted?, hspan]
  rfl

/-- A line **without a colon** before its first brace has no literal after one. -/
theorem quoted?_eq_none {before rest : Text} (h : ∀ c ∈ before, c ≠ ':' ∧ c ≠ '{')
    (hrest : ∀ c ∈ rest.head?, c = '{') : quoted? (before ++ rest) = none := by
  have hbefore : ∀ c ∈ before, (c != ':' && c != '{') = true := by
    intro c hc
    rw [Bool.and_eq_true, bne_iff_ne, bne_iff_ne]
    exact h c hc
  -- what the search stops at is a brace or the end of the line, and no colon
  have hstop : ∀ more, rest ≠ ':' :: more := by
    rintro more rfl
    exact absurd (hrest ':' rfl) (by decide)
  have hdrop : rest.dropWhile (fun c => c != ':' && c != '{') = rest := by
    cases rest with
    | nil => rfl
    | cons c more =>
      rw [hrest c rfl]
      exact List.dropWhile_cons_of_neg (by decide)
  rw [quoted?, List.span_eq_takeWhile_dropWhile, List.dropWhile_append_of_pos hbefore, hdrop]
  split
  · next c first more heq => exact absurd (Prod.mk.inj heq).2 (hstop more)
  · rfl

/-! ## The label property -/

/-- A **literal** behind the colon of a property is its value. -/
theorem value?_of_literal? {text literal left : Text}
    (h : literal? (trimStart text) = some (literal, left)) : value? text = some literal := by
  unfold value?
  rw [h]

/-- **Bare text** behind the colon of a property is its value, if no brace cuts it off. -/
theorem value?_of_bare {text bare : Text} (h : trimStart text = bare) (hne : bare ≠ [])
    (hquote : ∀ c ∈ bare.head?, Quoting.isQuote c = false) (hbrace : ∀ c ∈ bare, c ≠ '}') :
    value? text = some bare := by
  have htake : bare.takeWhile (· != '}') = bare := by
    have happend : (bare ++ []).takeWhile (· != '}') = bare ++ [].takeWhile (· != '}') :=
      List.takeWhile_append_of_pos fun c hc => bne_iff_ne.2 (hbrace c hc)
    rwa [List.takeWhile_nil, List.append_nil] at happend
  obtain ⟨c, rest, rfl⟩ := List.exists_cons_of_ne_nil hne
  unfold value?
  rw [h, literal?_eq_none hquote, htake]

/-- A line that begins with the **label property** has the value that stands after its colon. -/
theorem propertyValue?_append_property {before : Text} (h : isAllBlank before = true)
    (rest : Text) :
    propertyValue? (before ++ property ++ rest) =
      match trimStart rest with
      | ':' :: value => value? value
      | _ => none := by
  have hstart : trimStart (before ++ property ++ rest) = property ++ rest := by
    rw [List.append_assoc, trimStart_append h]
    exact trimStart_eq_self fun c hc => by cases hc; decide
  have hprefix : property.isPrefixOf (property ++ rest) = true :=
    List.isPrefixOf_iff_prefix.2 (List.prefix_append property rest)
  unfold propertyValue?
  rw [hstart, if_pos hprefix]
  show (match trimStart ((property ++ rest).drop property.length) with
    | ':' :: value => value? value
    | _ => none) = _
  rw [List.drop_left]

/-- A line that begins with a **character other** than that of the property has no value. -/
theorem propertyValue?_append_cons {before : Text} {c : Char} (h : isAllBlank before = true)
    (hc : isBlank c = false) (hother : property.head? ≠ some c) (rest : Text) :
    propertyValue? (before ++ c :: rest) = none := by
  have hstart : trimStart (before ++ c :: rest) = c :: rest := by
    rw [trimStart_append h]
    exact trimStart_eq_self fun d hd => by cases hd; exact hc
  have hprefix : ¬ property.isPrefixOf (c :: rest) = true := by
    intro hprefix
    obtain ⟨left, hleft⟩ := List.isPrefixOf_iff_prefix.1 hprefix
    exact hother (congrArg some (List.cons.inj hleft).1)
  unfold propertyValue?
  rw [hstart, if_neg hprefix]

/-- A **blank** line has no value. -/
theorem propertyValue?_of_isAllBlank {line : Text} (h : isAllBlank line = true) :
    propertyValue? line = none := by
  unfold propertyValue?
  rw [trimStart_of_isAllBlank h]
  rfl

/-- A line that begins with **another word** has no value. -/
theorem propertyValue?_append_word {before word rest : Text} (h : isAllBlank before = true)
    (hne : word ≠ []) (hword : ∀ c ∈ word, isBlank c = false ∧ c ≠ ':') (hother : word ≠ property)
    (hrest : ∀ c ∈ rest.head?, c ∉ property) :
    propertyValue? (before ++ word ++ rest) = none := by
  have hstart : trimStart (before ++ word ++ rest) = word ++ rest := by
    obtain ⟨c, more, rfl⟩ := List.exists_cons_of_ne_nil hne
    rw [List.append_assoc, trimStart_append h]
    refine trimStart_eq_self ?_
    intro d hd
    cases hd
    exact (hword c List.mem_cons_self).1
  unfold propertyValue?
  rw [hstart]
  by_cases hprefix : property.isPrefixOf (word ++ rest) = true
  · rw [if_pos hprefix]
    -- the property is then a start of the word alone, and what follows it there is no colon
    have hstarts : property <+: word := by
      cases rest with
      | nil => rwa [List.append_nil, List.isPrefixOf_iff_prefix] at hprefix
      | cons c more =>
        rwa [Keyword.isPrefixOf_append_cons (hrest c rfl), List.isPrefixOf_iff_prefix] at hprefix
    obtain ⟨left, rfl⟩ := hstarts
    cases left with
    | nil => exact absurd (List.append_nil _) hother
    | cons c left =>
      obtain ⟨hblank, hcolon⟩ := hword c (List.mem_append_right _ List.mem_cons_self)
      have htrim : trimStart (c :: (left ++ rest)) = c :: (left ++ rest) :=
        trimStart_eq_self fun d hd => by cases hd; exact hblank
      rw [List.append_assoc, List.drop_left, List.cons_append, htrim]
      split
      · next heq => exact absurd (List.cons.inj heq).1 hcolon
      · rfl
  · rw [if_neg hprefix]

/-! ## Lines of a body -/

/-- Directly in a body, a line that has a value of the label property **gives** the label. -/
theorem ofBodyLines_of_some {line value : Text} (h : propertyValue? line = some value)
    (more : List Text) : ofBodyLines 1 (line :: more) = clean value := by
  rw [ofBodyLines, if_pos rfl, h]

/-- Directly in a body, a line without a value is **passed over**, unless it closes the body. -/
theorem ofBodyLines_of_none {line : Text} (h : propertyValue? line = none)
    (hopen : 0 < 1 + Braces.delta line) (more : List Text) :
    ofBodyLines 1 (line :: more) = ofBodyLines (1 + Braces.delta line) more := by
  rw [ofBodyLines, if_pos rfl, h]
  dsimp only
  rw [if_neg (by omega)]

/-- Inside a body in the body, every line is **passed over**, unless it closes all bodies. -/
theorem ofBodyLines_of_ne {depth : Int} {line : Text} (h : depth ≠ 1)
    (hopen : 0 < depth + Braces.delta line) (more : List Text) :
    ofBodyLines depth (line :: more) = ofBodyLines (depth + Braces.delta line) more := by
  rw [ofBodyLines, if_neg h]
  dsimp only
  rw [if_neg (by omega)]

end DiagramOutline.Label
