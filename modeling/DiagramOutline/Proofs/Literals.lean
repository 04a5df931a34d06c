import DiagramOutline.Proofs.Headers
import DiagramOutline.Proofs.Interiors
import DiagramOutline.Proofs.Keywords

/-! # Connection tokens and string literals

The search for a connection token reads the inside of string literals too. Here is the search that
leaves literals out, and what a text keeps that holds a token only inside one: a quote, which no
identifier has.

* **`Keyword.hasConnection_iff`** — a text holds a connection exactly if it is made around a token.
* **`Keyword.hasBareConnection text`** — some token of `text` stands outside its literals;
  `hasBareConnection_iff` says where.
* **`Header.exists_isQuote_connectionName`** — the name of a connection keeps a quote of its
  header. -/

namespace DiagramOutline

namespace Quoting

/-- Without **quotes** a scan stays outside literals. -/
theorem after_outside {text : Text} (h : ∀ c ∈ text, isQuote c = false) :
    after outside text = outside := by
  induction text with
  | nil => rfl
  | cons c rest ih =>
    obtain ⟨hc, hrest⟩ := List.forall_mem_cons.1 h
    have hnext : next outside c = outside := by simp [next, hc]
    rw [after_cons, hnext]
    exact ih hrest

/-- A quote is **neither blank nor a brace nor a colon**. -/
theorem of_isQuote {c : Char} (h : isQuote c = true) :
    Text.isBlank c = false ∧ c ≠ ':' ∧ c ≠ '{' := by
  rw [isQuote, Bool.or_eq_true, beq_iff_eq, beq_iff_eq] at h
  rcases h with rfl | rfl <;> decide

end Quoting

namespace Keyword

/-! ## Tokens anywhere -/

/-- A token **begins** a text exactly if the text is one followed by anything. -/
theorem startsConnection_iff {text : Text} :
    startsConnection text = true ↔
      ∃ token ∈ connectionTokens, ∃ after, text = token ++ after := by
  simp only [startsConnection, List.any_eq_true, List.isPrefixOf_iff_prefix]
  constructor
  · rintro ⟨token, htoken, after, rfl⟩
    exact ⟨token, htoken, after, rfl⟩
  · rintro ⟨token, htoken, after, rfl⟩
    exact ⟨token, htoken, List.prefix_append token after⟩

/-- A text **holds a connection** exactly if it is made around a token. -/
theorem hasConnection_iff {text : Text} :
    hasConnection text = true ↔
      ∃ before, ∃ token ∈ connectionTokens, ∃ after, text = before ++ token ++ after := by
  constructor
  · intro h
    induction text with
    | nil => cases h
    | cons c rest ih =>
      rw [hasConnection, Bool.or_eq_true] at h
      rcases h with hstarts | hrest
      · obtain ⟨token, htoken, after, heq⟩ := startsConnection_iff.1 hstarts
        exact ⟨[], token, htoken, after, heq⟩
      · obtain ⟨before, token, htoken, after, rfl⟩ := ih hrest
        exact ⟨c :: before, token, htoken, after, rfl⟩
  · rintro ⟨before, token, htoken, after, rfl⟩
    exact hasConnection_of_mem_connectionTokens htoken before after

/-- What holds a connection makes **every text around it** hold one. -/
theorem hasConnection_of_isInfix {part text : Text} (h : part <:+: text)
    (hpart : hasConnection part = true) : hasConnection text = true := by
  obtain ⟨first, last, rfl⟩ := h
  obtain ⟨before, token, htoken, after, rfl⟩ := hasConnection_iff.1 hpart
  exact hasConnection_iff.2 ⟨first ++ before, token, htoken, after ++ last, by simp⟩

/-! ## Tokens outside literals -/

/-- Whether a connection token stands **outside the literals** of a text, when the scan starts in
`state`. -/
def hasBareConnectionFrom (state : Quoting) : Text → Bool
  | [] => false
  | c :: rest =>
    (state == .outside && startsConnection (c :: rest)) || hasBareConnectionFrom (state.next c) rest

/-- Whether a connection token stands **outside the literals** of a text. -/
def hasBareConnection (text : Text) : Bool := hasBareConnectionFrom .outside text

/-- Such a token is one **before which the scan stands outside** literals. -/
theorem hasBareConnectionFrom_iff {state : Quoting} {text : Text} :
    hasBareConnectionFrom state text = true ↔
      ∃ before, ∃ token ∈ connectionTokens, ∃ after,
        text = before ++ token ++ after ∧ state.after before = .outside := by
  induction text generalizing state with
  | nil =>
    constructor
    · intro h
      cases h
    · rintro ⟨before, token, htoken, after, heq, -⟩
      obtain ⟨hne, -⟩ := mem_tokenChars_of_mem_connectionTokens token htoken
      simp [hne] at heq
  | cons c rest ih =>
    rw [hasBareConnectionFrom, Bool.or_eq_true, Bool.and_eq_true, beq_iff_eq, ih,
      startsConnection_iff]
    constructor
    · rintro (⟨rfl, token, htoken, after, heq⟩ | ⟨before, token, htoken, after, rfl, hstate⟩)
      · exact ⟨[], token, htoken, after, heq, rfl⟩
      · exact ⟨c :: before, token, htoken, after, rfl, hstate⟩
    · rintro ⟨before, token, htoken, after, heq, hstate⟩
      cases before with
      | nil => exact .inl ⟨hstate, token, htoken, after, heq⟩
      | cons d before =>
        rw [List.cons_append, List.cons_append, List.cons.injEq] at heq
        obtain ⟨rfl, heq⟩ := heq
        exact .inr ⟨before, token, htoken, after, heq, hstate⟩

/-- A text has **no bare connection** exactly if each of its tokens stands inside a literal. -/
theorem hasBareConnection_eq_false_iff {text : Text} :
    hasBareConnection text = false ↔
      ∀ before, ∀ token ∈ connectionTokens, ∀ after,
        text = before ++ token ++ after → Quoting.after .outside before ≠ .outside := by
  rw [← Bool.not_eq_true, hasBareConnection, hasBareConnectionFrom_iff]
  constructor
  · intro h before token htoken after heq hstate
    exact h ⟨before, token, htoken, after, heq, hstate⟩
  · rintro h ⟨before, token, htoken, after, heq, hstate⟩
    exact h before token htoken after heq hstate

/-- A text with a **bare** connection holds a connection. -/
theorem hasConnection_of_hasBareConnection {text : Text} (h : hasBareConnection text = true) :
    hasConnection text = true := by
  obtain ⟨before, token, htoken, after, rfl, -⟩ := hasBareConnectionFrom_iff.1 h
  exact hasConnection_of_mem_connectionTokens htoken before after

/-- A text whose tokens all stand inside literals has a **quote**, if it has a token. -/
theorem exists_isQuote_of_hasConnection {text : Text} (h : hasConnection text = true)
    (hbare : hasBareConnection text = false) : ∃ c ∈ text, Quoting.isQuote c = true := by
  obtain ⟨before, token, htoken, after, rfl⟩ := hasConnection_iff.1 h
  have hstate := hasBareConnection_eq_false_iff.1 hbare before token htoken after rfl
  by_contra hnone
  refine hstate (Quoting.after_outside ?_)
  intro c hc
  rw [← Bool.not_eq_true]
  intro hquote
  exact hnone ⟨c, List.mem_append_left _ (List.mem_append_left _ hc), hquote⟩

/-- An identifier has **no quotes**. -/
theorem isQuote_of_mem_leadingIdentifier {line : Text} {c : Char}
    (h : c ∈ leadingIdentifier line) : Quoting.isQuote c = false := by
  have hdouble : startsIdentifier Quoting.double = false ∧
      continuesIdentifier Quoting.double = false := by decide
  have hsingle : startsIdentifier Quoting.single = false ∧
      continuesIdentifier Quoting.single = false := by decide
  have hword : startsIdentifier c = true ∨ continuesIdentifier c = true := by
    cases line with
    | nil => cases h
    | cons d rest =>
      rw [leadingIdentifier] at h
      split at h
      · next hstarts =>
        rw [List.mem_cons] at h
        rcases h with rfl | h
        · exact .inl hstarts
        · exact .inr (List.all_eq_true.1 (List.all_takeWhile) c h)
      · cases h
  rw [← Bool.not_eq_true, Quoting.isQuote, Bool.or_eq_true, beq_iff_eq, beq_iff_eq]
  rintro (rfl | rfl)
  · simp [hdouble] at hword
  · simp [hsingle] at hword

end Keyword

/-! ## Quotes in headers -/

namespace Text

/-- What is kept of a text from its end on has **every character** that is not dropped. -/
theorem mem_dropEndWhile {p : Char → Bool} {text : Text} {c : Char} (h : c ∈ text)
    (hc : p c = false) : c ∈ dropEndWhile p text := by
  obtain ⟨dropped, heq, hall⟩ := exists_eq_dropEndWhile_append p text
  rw [heq, List.mem_append] at h
  refine h.resolve_right ?_
  intro hdropped
  rw [hall c hdropped] at hc
  cases hc

/-- A trimmed text has **every character** of the text that is not blank. -/
theorem mem_trim {text : Text} {c : Char} (h : c ∈ text) (hc : isBlank c = false) :
    c ∈ trim text := by
  obtain ⟨before, after, heq, hbefore, hafter⟩ := exists_eq_append_trim_append text
  rw [heq, List.mem_append, List.mem_append] at h
  rcases h with (hin | hin) | hin
  · rw [isAllBlank_iff.1 hbefore c hin] at hc
    cases hc
  · exact hin
  · rw [isAllBlank_iff.1 hafter c hin] at hc
    cases hc

end Text

namespace Braces

/-- A line **opens a body** at a brace before which the scan stands outside literals. -/
theorem opens_append_cons {before : Text} (h : Quoting.after .outside before = .outside)
    (rest : Text) : opens (before ++ '{' :: rest) = true := by
  rw [opens, ofLine_append_opening h]
  simp

end Braces

namespace Header

open Text

/-- What stands before the body of a line **opens none** itself. -/
theorem opens_beforeBody (line : Text) : Braces.opens (beforeBody line) = false := by
  by_cases h : Braces.opens line = true
  · obtain ⟨before, after, rfl, hafter, hclosing⟩ := Braces.exists_eq_append_of_opens h
    have hhead : beforeBody (before ++ '{' :: after) = before := by
      rw [beforeBody, Braces.find?_opening hafter hclosing]
      exact List.take_left
    rw [hhead, Braces.opens, List.any_eq_false]
    intro placed hmem
    simp [hclosing placed hmem]
  · rw [Bool.not_eq_true] at h
    rw [beforeBody_of_not_opens h, h]

/-- A text that opens no body keeps its **first quote** without its bodies. -/
theorem exists_isQuote_withoutBodies {text : Text} (hopens : Braces.opens text = false)
    (h : ∃ c ∈ text, Quoting.isQuote c = true) :
    ∃ c ∈ withoutBodies text, Quoting.isQuote c = true := by
  obtain ⟨quote, hquote⟩ := Option.isSome_iff_exists.1 (List.find?_isSome.2 h)
  rw [List.find?_eq_some_iff_append] at hquote
  obtain ⟨hquote, before, rest, rfl, hbefore⟩ := hquote
  obtain ⟨hblank, hcolon, hbrace⟩ := Quoting.of_isQuote hquote
  -- a brace before the first quote would stand outside literals
  have hnone : '{' ∉ before := by
    intro hmem
    obtain ⟨first, last, rfl⟩ := List.append_of_mem hmem
    have hafter : Quoting.after .outside first = .outside := by
      refine Quoting.after_outside ?_
      intro c hc
      simpa using hbefore c (List.mem_append_left _ hc)
    rw [List.append_assoc, List.cons_append, Braces.opens_append_cons hafter] at hopens
    cases hopens
  refine ⟨quote, ?_, hquote⟩
  rw [withoutBodies_append_cons hnone hblank hcolon hbrace]
  simp

/-- The **name of a connection** keeps a quote of its header, if that opens no body. -/
theorem exists_isQuote_connectionName {header : Text} (hopens : Braces.opens header = false)
    (h : ∃ c ∈ header, Quoting.isQuote c = true) :
    ∃ c ∈ connectionName header, Quoting.isQuote c = true := by
  obtain ⟨quote, hmem, hquote⟩ := h
  obtain ⟨hblank, -, -⟩ := Quoting.of_isQuote hquote
  rw [← Braces.opens_trim] at hopens
  obtain ⟨kept, hkept, hkeptQuote⟩ :=
    exists_isQuote_withoutBodies hopens ⟨quote, mem_trim hmem hblank, hquote⟩
  obtain ⟨hblank, hcolon, -⟩ := Quoting.of_isQuote hkeptQuote
  exact ⟨kept, mem_trim (mem_dropEndWhile hkept (by simpa using hcolon)) hblank, hkeptQuote⟩

end Header

end DiagramOutline
