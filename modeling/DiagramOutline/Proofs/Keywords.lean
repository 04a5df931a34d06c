import DiagramOutline.Keyword

/-! # Tokens and identifiers in texts that are put together

A connection token is made of three characters only. So any other character in a text cuts it in
two: a token stands on the one side of it or on the other.

* **`Keyword.hasConnection_append_cons`** — a text that is cut by another character holds a
  connection where one of its two sides does.
* **`Keyword.hasConnection_of_mem_connectionTokens`** — a text that is made around a token holds a
  connection.
* **`Keyword.leadingIdentifier_append`** — the identifier that a text starts with. -/

namespace DiagramOutline.Keyword

/-! ## Connection tokens -/

/-- The **characters** of the connection tokens. -/
def tokenChars : List Char := ['<', '-', '>']

/-- Connection tokens have characters, and **only those** three. -/
theorem mem_tokenChars_of_mem_connectionTokens :
    ∀ token ∈ connectionTokens, token ≠ [] ∧ ∀ c ∈ token, c ∈ tokenChars := by
  intro token htoken
  obtain ⟨word, hword, rfl⟩ := List.mem_map.1 htoken
  simp only [List.mem_cons, List.not_mem_nil, or_false] at hword
  rcases hword with rfl | rfl | rfl | rfl | rfl | rfl <;> simp [tokenChars]

/-- A text begins a text that is **cut** by a character of its own exactly when it begins the first
side. -/
theorem isPrefixOf_append_cons {part : Text} {c : Char} (h : c ∉ part) (first rest : Text) :
    part.isPrefixOf (first ++ c :: rest) = part.isPrefixOf first := by
  induction part generalizing first with
  | nil => rw [List.isPrefixOf_nil_left, List.isPrefixOf_nil_left]
  | cons d more ih =>
    rw [List.mem_cons, not_or] at h
    cases first with
    | nil =>
      have hne : (d == c) = false := beq_eq_false_iff_ne.2 (Ne.symm h.1)
      rw [List.nil_append, List.isPrefixOf_cons_cons, hne, Bool.false_and, List.isPrefixOf_cons_nil]
    | cons e first =>
      rw [List.cons_append, List.isPrefixOf_cons_cons, List.isPrefixOf_cons_cons, ih h.2]

/-- A token begins a text that is cut by another character exactly when it begins the **first
side**. -/
theorem startsConnection_append_cons {c : Char} (h : c ∉ tokenChars) (first rest : Text) :
    startsConnection (first ++ c :: rest) = startsConnection first := by
  have hsame : ∀ token ∈ connectionTokens,
      token.isPrefixOf (first ++ c :: rest) = token.isPrefixOf first := by
    intro token htoken
    refine isPrefixOf_append_cons ?_ first rest
    intro hc
    exact h ((mem_tokenChars_of_mem_connectionTokens token htoken).2 c hc)
  rw [startsConnection, startsConnection, Bool.eq_iff_iff, List.any_eq_true, List.any_eq_true]
  constructor
  · rintro ⟨token, htoken, hprefix⟩
    exact ⟨token, htoken, by rwa [← hsame token htoken]⟩
  · rintro ⟨token, htoken, hprefix⟩
    exact ⟨token, htoken, by rwa [hsame token htoken]⟩

/-- No token begins the **empty** text. -/
theorem startsConnection_nil : startsConnection [] = false := by decide

/-- A text that is **cut** by another character holds a connection where one of its sides does. -/
theorem hasConnection_append_cons {c : Char} (h : c ∉ tokenChars) (first rest : Text) :
    hasConnection (first ++ c :: rest) = (hasConnection first || hasConnection rest) := by
  induction first with
  | nil =>
    have hstarts : startsConnection (c :: rest) = false := by
      rw [← List.nil_append (c :: rest), startsConnection_append_cons h, startsConnection_nil]
    rw [List.nil_append, hasConnection_nil, hasConnection, hstarts]
  | cons d more ih =>
    -- a token that starts here is all on this side of the cut
    have hstarts := startsConnection_append_cons h (d :: more) rest
    rw [List.cons_append] at hstarts
    rw [List.cons_append, hasConnection, hstarts, ih, hasConnection, Bool.or_assoc]

/-- **Characters of other kinds** before a text make no connection. -/
theorem hasConnection_append_of_forall {before : Text} (h : ∀ c ∈ before, c ∉ tokenChars)
    (text : Text) : hasConnection (before ++ text) = hasConnection text := by
  induction before with
  | nil => rfl
  | cons c more ih =>
    have hcut := hasConnection_append_cons (h c List.mem_cons_self) [] (more ++ text)
    rw [List.nil_append, hasConnection_nil, Bool.false_or] at hcut
    rw [List.cons_append, hcut]
    exact ih fun d hd => h d (List.mem_cons_of_mem c hd)

/-- A text that is **made around a token** holds a connection. -/
theorem hasConnection_of_mem_connectionTokens {token : Text} (h : token ∈ connectionTokens)
    (before after : Text) : hasConnection (before ++ token ++ after) = true := by
  induction before with
  | nil =>
    have hstarts : startsConnection (token ++ after) = true := by
      refine List.any_eq_true.2 ⟨token, h, ?_⟩
      exact List.isPrefixOf_iff_prefix.2 (List.prefix_append token after)
    obtain ⟨hne, -⟩ := mem_tokenChars_of_mem_connectionTokens token h
    obtain ⟨c, more, rfl⟩ := List.exists_cons_of_ne_nil hne
    rw [List.cons_append] at hstarts
    rw [List.nil_append, List.cons_append, hasConnection, hstarts, Bool.true_or]
  | cons c more ih =>
    rw [List.cons_append, List.cons_append, hasConnection, ih, Bool.or_true]

/-! ## Identifiers -/

/-- A word is the identifier at the start of a text when the character behind it **ends** an
identifier. -/
theorem leadingIdentifier_append {c : Char} {word rest : Text} (hfirst : startsIdentifier c = true)
    (hword : ∀ d ∈ word, continuesIdentifier d = true)
    (hrest : ∀ d ∈ rest.head?, continuesIdentifier d = false) :
    leadingIdentifier (c :: word ++ rest) = c :: word := by
  have hstop : rest.takeWhile continuesIdentifier = [] := by
    cases rest with
    | nil => rfl
    | cons d more =>
      rw [List.takeWhile_cons_of_neg]
      rw [hrest d rfl]
      exact Bool.false_ne_true
  rw [List.cons_append, leadingIdentifier, if_pos hfirst, List.takeWhile_append_of_pos hword, hstop,
    List.append_nil]

end DiagramOutline.Keyword
