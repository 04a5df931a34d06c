import DiagramOutline.Text.Basic

/-! # Paths of files

A path is spelled with slashes between the names that it goes through. The empty name and the single
dot stay where they are, so a path is held without them, and two spellings of one path are equal
once they are read. Two dots are kept, since where they lead is for the files to say.

* **`Path`** — whether a path starts at the root, and the names that it goes through.
* **`Path.ofText text`** — the path that a text spells; a slash at its end, or a slash and a dot,
  make no difference (`ofText_append_slash`).
* **`Path.text path`** — the shortest spelling of a path; `Path.ofText` undoes it (`ofText_text`).
* **`Path.lastName path`** — the last name that a path goes through. -/

namespace DiagramOutline

namespace Path

/-! ## Pieces between slashes -/

/-- The **pieces** of a text between its slashes. A text without slashes is one piece. -/
def pieces : Text → List Text
  | [] => [[]]
  | c :: rest =>
    if c = '/' then [] :: pieces rest
    else
      match pieces rest with
      | [] => [[c]]
      | piece :: more => (c :: piece) :: more

/-- Names with a slash **between** each two neighbours. -/
def join : List Text → Text
  | [] => []
  | [name] => name
  | name :: next :: more => name ++ '/' :: join (next :: more)

/-- The empty text is one empty piece. -/
@[simp] theorem pieces_nil : pieces [] = [[]] := rfl

/-- A slash ends the piece before it. -/
@[simp] theorem pieces_slash (rest : Text) : pieces ('/' :: rest) = [] :: pieces rest := by
  simp [pieces]

/-- No text is without pieces. -/
theorem pieces_ne_nil (text : Text) : pieces text ≠ [] := by
  cases text with
  | nil => simp
  | cons c rest =>
    unfold pieces
    split
    · simp
    · split <;> simp

/-- A character other than the slash joins the first piece of what follows it. -/
theorem pieces_cons_of_ne {c : Char} (h : c ≠ '/') (rest : Text) :
    ∃ piece more, pieces rest = piece :: more ∧ pieces (c :: rest) = (c :: piece) :: more := by
  cases hr : pieces rest with
  | nil => exact absurd hr (pieces_ne_nil rest)
  | cons piece more => exact ⟨piece, more, rfl, by simp [pieces, h, hr]⟩

/-- No piece holds a slash. -/
theorem slash_notMem_of_mem_pieces {text piece : Text} (h : piece ∈ pieces text) :
    '/' ∉ piece := by
  induction text generalizing piece with
  | nil => simp_all
  | cons c rest ih =>
    by_cases hc : c = '/'
    · subst hc
      rw [pieces_slash, List.mem_cons] at h
      cases h with
      | inl h => simp [h]
      | inr h => exact ih h
    · obtain ⟨first, more, hrest, hcons⟩ := pieces_cons_of_ne hc rest
      rw [hcons, List.mem_cons] at h
      cases h with
      | inl h =>
        have hfirst : '/' ∉ first := ih (by simp [hrest])
        simp [h, hfirst, Ne.symm hc]
      | inr h => exact ih (by simp [hrest, h])

/-- The pieces of two texts with a slash between them are those of the **one and the other**. -/
theorem pieces_append_slash (text rest : Text) :
    pieces (text ++ '/' :: rest) = pieces text ++ pieces rest := by
  induction text with
  | nil => simp
  | cons c text ih =>
    by_cases hc : c = '/'
    · subst hc; simp [ih]
    · obtain ⟨first, more, htext, hcons⟩ := pieces_cons_of_ne hc text
      rw [htext] at ih
      simp [pieces, hc, ih, htext]

/-- A text without slashes is its own only piece. -/
theorem pieces_of_slash_notMem {text : Text} (h : '/' ∉ text) : pieces text = [text] := by
  induction text with
  | nil => rfl
  | cons c rest ih =>
    rw [List.mem_cons, not_or] at h
    simp [pieces, Ne.symm h.1, ih h.2]

/-- The pieces of joined names are **those names** again, when none of them holds a slash. -/
theorem pieces_join {names : List Text} (hne : names ≠ []) (h : ∀ name ∈ names, '/' ∉ name) :
    pieces (join names) = names := by
  induction names with
  | nil => exact absurd rfl hne
  | cons name more ih =>
    have hname := pieces_of_slash_notMem (h name (by simp))
    cases more with
    | nil => exact hname
    | cons next more =>
      have hmore := ih (by simp) fun other hother => h other (List.mem_cons_of_mem _ hother)
      simp [join, pieces_append_slash, hname, hmore]

/-- Whether a piece **leads on**: the empty one and the single dot stay where they are. -/
def leadsOn (piece : Text) : Bool := !piece.isEmpty && piece != ['.']

end Path

/-! ## Paths -/

/-- A **path** of a file. -/
structure Path where
  /-- Whether the path starts at the root. -/
  fromRoot : Bool
  /-- The names that the path goes through, in order. -/
  names : List Text
  /-- Each name leads on and holds no slash. -/
  valid : ∀ name ∈ names, Path.leadsOn name = true ∧ '/' ∉ name
  deriving DecidableEq, Repr

namespace Path

/-- The path that a text **spells**. -/
def ofText (text : Text) : Path where
  fromRoot := text.head? == some '/'
  names := (pieces text).filter leadsOn
  valid := fun _ h =>
    ⟨(List.mem_filter.mp h).2, slash_notMem_of_mem_pieces (List.mem_filter.mp h).1⟩

/-- The shortest **spelling** of a path. The path that goes nowhere is a dot. -/
def text (path : Path) : Text :=
  if path.fromRoot then '/' :: join path.names
  else if path.names.isEmpty then ['.'] else join path.names

/-- The **last name** that a path goes through. -/
def lastName (path : Path) : Text := path.names.getLastD []

/-- Two paths with the same start and the same names are the same. -/
@[ext] theorem eq_of_names {path other : Path} (hroot : path.fromRoot = other.fromRoot)
    (hnames : path.names = other.names) : path = other := by
  cases path; cases other; simp_all

/-- Pieces that stay where they are make **no difference** at the end of a path. -/
theorem ofText_append_slash {text rest : Text} (hne : text ≠ [])
    (hrest : ∀ piece ∈ pieces rest, leadsOn piece = false) :
    ofText (text ++ '/' :: rest) = ofText text := by
  ext1
  · cases text with
    | nil => exact absurd rfl hne
    | cons c text => rfl
  · have hnone : (pieces rest).filter leadsOn = [] := by
      simpa [List.filter_eq_nil_iff] using hrest
    simp [ofText, pieces_append_slash, hnone]

/-- The first name of a path does not start with a slash. -/
theorem head?_join_ne_slash (path : Path) : (join path.names).head? ≠ some '/' := by
  have hvalid := path.valid
  cases hnames : path.names with
  | nil => simp [join]
  | cons name more =>
    have hname := hvalid name (by simp [hnames])
    cases name with
    | nil => simp [leadsOn] at hname
    | cons c name =>
      have hc : c ≠ '/' := by
        intro hc
        simp [hc] at hname
      cases more <;> simp [join, hc]

/-- The spelling of a path spells **that path**. -/
@[simp] theorem ofText_text (path : Path) : ofText path.text = path := by
  have hslash : ∀ name ∈ path.names, '/' ∉ name := fun name h => (path.valid name h).2
  have hkept : path.names.filter leadsOn = path.names :=
    List.filter_eq_self.mpr fun name h => (path.valid name h).1
  have hnames : path.names ≠ [] → (pieces (join path.names)).filter leadsOn = path.names :=
    fun hne => by rw [pieces_join hne hslash, hkept]
  have hhead := head?_join_ne_slash path
  unfold text
  split
  · next hroot =>
    ext1
    · simp [ofText, hroot]
    · by_cases hne : path.names = []
      · simp [ofText, hne, join, leadsOn]
      · simpa [ofText, leadsOn] using hnames hne
  · next hroot =>
    split
    · next hnone =>
      rw [List.isEmpty_iff] at hnone
      ext1
      · simp_all [ofText]
      · simp [ofText, hnone, pieces, leadsOn]
    · next hsome =>
      ext1
      · simp_all [ofText]
      · exact hnames (by simpa using hsome)

end Path

end DiagramOutline
