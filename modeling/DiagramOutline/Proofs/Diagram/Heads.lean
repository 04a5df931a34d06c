import DiagramOutline.Proofs.Diagram.Basic
import DiagramOutline.Proofs.Headers
import DiagramOutline.Proofs.Keywords
import DiagramOutline.Proofs.StringLiterals

/-! # Names, values and heads of a diagram

What the text readers find in the head of a statement, whatever blanks stand around it: no brace, no
open literal, a connection where the head is one, and the name.

* **`Diagram.Head.tight`**, **`Diagram.Head.quiet`** — no head has a blank at an end, a brace or an
  open literal.
* **`Diagram.Head.hasConnection_text`** — a head holds a connection token exactly when it is a
  connection.
* **`Diagram.Head.leadingIdentifier_append`** — a head starts with its first name.
* **`Diagram.Head.name`** — the name that a head gives to its statement. -/

namespace DiagramOutline.Diagram

open Text Keyword

/-! ## Characters -/

/-- A character of a segment is **none that is not**. -/
theorem ne_of_isNameChar {c d : Char} (hc : isNameChar c = true) (hd : isNameChar d = false) :
    c ≠ d := by
  rintro rfl
  rw [hc] at hd
  cases hd

/-- A character that begins an identifier may stand in a segment. -/
theorem isNameChar_of_startsIdentifier {c : Char} (h : startsIdentifier c = true) :
    isNameChar c = true := by
  rw [startsIdentifier, Bool.or_eq_true] at h
  rw [isNameChar, Char.isAlphanum, Bool.or_eq_true, Bool.or_eq_true]
  cases h with
  | inl halpha => exact .inl (.inl halpha)
  | inr hline => exact .inr hline

/-- The characters of a segment are in the **ASCII** range, above the blanks. -/
theorem toNat_of_isNameChar {c : Char} (h : isNameChar c = true) :
    0x30 ≤ c.toNat ∧ c.toNat < 0x80 := by
  change (((decide (c.val ≥ 65 ∧ c.val ≤ 90) || (decide (c.val ≥ 97) && decide (c.val ≤ 122))) ||
    (decide (c.val ≥ 48) && decide (c.val ≤ 57))) || c == '_') = true at h
  simp only [Bool.or_eq_true, Bool.and_eq_true, decide_eq_true_eq, beq_iff_eq,
    UInt32.le_iff_toNat_le, ge_iff_le] at h
  -- the two ranges of letters, that of digits, and the low line between them
  change (((65 ≤ c.toNat ∧ c.toNat ≤ 90) ∨ 97 ≤ c.toNat ∧ c.toNat ≤ 122) ∨
    48 ≤ c.toNat ∧ c.toNat ≤ 57) ∨ c = '_' at h
  rcases h with hrange | rfl
  · omega
  · decide

/-- No character of a segment is **blank**. -/
theorem isBlank_of_isNameChar {c : Char} (h : isNameChar c = true) : isBlank c = false := by
  obtain ⟨hlow, hhigh⟩ := toNat_of_isNameChar h
  simp only [isBlank, blankRanges, List.any_cons, List.any_nil, Bool.or_false, Bool.or_eq_false_iff,
    Bool.and_eq_false_iff, decide_eq_false_iff_not]
  omega

/-- The characters of a segment **go on** with an identifier. -/
theorem continuesIdentifier_of_isNameChar {c : Char} (h : isNameChar c = true) :
    continuesIdentifier c = true := by
  obtain ⟨-, hhigh⟩ := toNat_of_isNameChar h
  have hword : isWordChar c = true := by
    rw [isWordChar, if_pos hhigh]
    exact h
  rw [continuesIdentifier, hword]
  rfl

/-! ## Names -/

namespace Name

/-- The characters of a name are those of its segments, and **dots**. -/
theorem isNameChar_of_mem_text (name : Name) {c : Char} (h : c ∈ name.text) :
    isNameChar c = true ∨ c = '.' := by
  have hsegment : ∀ (segment : Segment), ∀ c ∈ segment.text, isNameChar c = true := by
    intro segment c hc
    cases List.mem_cons.1 hc with
    | inl hfirst =>
      rw [hfirst]
      exact isNameChar_of_startsIdentifier segment.startsIdentifier_first
    | inr hrest => exact List.all_eq_true.1 segment.isNameChar_rest c hrest
  cases List.mem_append.1 h with
  | inl hhead => exact .inl (hsegment name.head c hhead)
  | inr htail =>
    obtain ⟨segment, -, hc⟩ := List.mem_flatMap.1 htail
    cases List.mem_cons.1 hc with
    | inl hdot => exact .inr hdot
    | inr hc => exact .inl (hsegment segment c hc)

/-- A name starts with a character that **begins an identifier**, and goes on with it. -/
theorem exists_text_eq_cons (name : Name) : ∃ c rest, name.text = c :: rest ∧
    startsIdentifier c = true ∧ ∀ d ∈ rest, continuesIdentifier d = true := by
  refine ⟨name.head.first, name.head.rest ++ dotted name.tail, rfl,
    name.head.startsIdentifier_first, ?_⟩
  intro d hd
  cases name.isNameChar_of_mem_text (List.mem_cons_of_mem _ hd) with
  | inl hname => exact continuesIdentifier_of_isNameChar hname
  | inr hdot =>
    rw [hdot]
    decide

/-- No character of a name is **blank**. -/
theorem isBlank_of_mem_text {name : Name} {c : Char} (h : c ∈ name.text) : isBlank c = false := by
  cases name.isNameChar_of_mem_text h with
  | inl hname => exact isBlank_of_isNameChar hname
  | inr hdot =>
    rw [hdot]
    decide

/-- Names are **tight**. -/
theorem tight (name : Name) : Tight name.text := by
  obtain ⟨c, rest, hname, -, -⟩ := name.exists_text_eq_cons
  refine .of_forall ?_ fun c hc => isBlank_of_mem_text hc
  rw [hname]
  exact List.cons_ne_nil c rest

end Name

/-! ## Subjects -/

/-- Whether a character may stand in a **subject**: in a segment, between segments, or between the
names of a connection. -/
def isSubjectChar (c : Char) : Bool := isNameChar c || ['.', ' ', '<', '-', '>'].contains c

/-- A character of a subject is **none that is not**. -/
theorem ne_of_isSubjectChar {c d : Char} (hc : isSubjectChar c = true)
    (hd : isSubjectChar d = false) : c ≠ d := by
  rintro rfl
  rw [hc] at hd
  cases hd

/-- The characters of a name may stand in a subject. -/
theorem Name.isSubjectChar_of_mem_text {name : Name} {c : Char} (h : c ∈ name.text) :
    isSubjectChar c = true := by
  cases name.isNameChar_of_mem_text h with
  | inl hname => rw [isSubjectChar, hname, Bool.true_or]
  | inr hdot =>
    rw [hdot]
    decide

/-- The characters of a link may stand in a subject. -/
theorem Link.isSubjectChar_of_mem_text {link : Link} {c : Char} (h : c ∈ link.text) :
    isSubjectChar c = true := by
  rw [Link.text, List.cons_append, List.mem_cons, List.mem_append, List.mem_cons] at h
  rcases h with rfl | htoken | rfl | htarget
  · decide
  · have hchar := (mem_tokenChars_of_mem_connectionTokens _ link.token.mem_tokens).2 c htoken
    rw [tokenChars, List.mem_cons, List.mem_cons, List.mem_singleton] at hchar
    rcases hchar with rfl | rfl | rfl <;> decide
  · decide
  · exact Name.isSubjectChar_of_mem_text htarget

/-- Links end in the name of a shape, and before it stands a **token** after a blank. -/
theorem exists_flatMap_text_eq (link : Link) (more : List Link) :
    ∃ (between : Text) (target : Name), (link :: more).flatMap Link.text =
      ' ' :: (link.token.text ++ between ++ target.text) := by
  -- the name at the end is that of the last link, so the induction is on the links after the first
  induction more generalizing link with
  | nil =>
    refine ⟨[' '], link.target, ?_⟩
    rw [List.flatMap_cons, List.flatMap_nil, List.append_nil, Link.text, List.append_assoc]
    rfl
  | cons next more ih =>
    obtain ⟨between, target, hmore⟩ := ih next
    refine ⟨' ' :: link.target.text ++ ' ' :: (next.token.text ++ between), target, ?_⟩
    rw [List.flatMap_cons, hmore, Link.text]
    simp

namespace Subject

/-- The characters of a subject are of **few kinds**. -/
theorem isSubjectChar_of_mem_text {subject : Subject} {c : Char} (h : c ∈ subject.text) :
    isSubjectChar c = true := by
  cases subject with
  | shape name => exact Name.isSubjectChar_of_mem_text h
  | connection joined =>
    cases List.mem_append.1 h with
    | inl hsource => exact Name.isSubjectChar_of_mem_text hsource
    | inr hlinks =>
      obtain ⟨link, -, hc⟩ := List.mem_flatMap.1 hlinks
      exact link.isSubjectChar_of_mem_text hc

/-- A subject is its **first name**, or goes on with a blank after it. -/
theorem exists_text_eq_append (subject : Subject) :
    ∃ rest, subject.text = subject.firstName.text ++ rest ∧ ∀ c ∈ rest.head?, c = ' ' := by
  cases subject with
  | shape name => exact ⟨[], (List.append_nil _).symm, by simp⟩
  | connection joined =>
    refine ⟨_, rfl, ?_⟩
    obtain ⟨between, target, hlinks⟩ := exists_flatMap_text_eq joined.link joined.more
    intro c hc
    rw [hlinks] at hc
    cases hc
    rfl

/-- Subjects are **tight**. -/
theorem tight (subject : Subject) : Tight subject.text := by
  cases subject with
  | shape name => exact name.tight
  | connection joined =>
    obtain ⟨between, target, hlinks⟩ := exists_flatMap_text_eq joined.link joined.more
    have htext : text (connection joined) =
        joined.source.text ++ ' ' :: (joined.link.token.text ++ between) ++ target.text := by
      rw [text, Connection.text, hlinks]
      simp
    rw [htext]
    exact joined.source.tight.append target.tight _

/-- Subjects are **quiet**. -/
theorem quiet (subject : Subject) : Braces.Quiet subject.text := by
  refine .of_forall ?_
  intro c hc
  have hne : ∀ d : Char, isSubjectChar d = false → c ≠ d :=
    fun d => ne_of_isSubjectChar (isSubjectChar_of_mem_text hc)
  exact Braces.quiet_of_ne (hne _ rfl) (hne _ rfl) (hne _ rfl) (hne _ rfl)

/-- A text that starts with a subject and **adds no connection** holds one where the subject is
one. -/
theorem hasConnection_append (subject : Subject) {rest : Text} (h : hasConnection rest = false) :
    hasConnection (subject.text ++ rest) = subject.isConnection := by
  cases subject with
  | shape name =>
    -- no character of a name is one of a token
    refine (hasConnection_append_of_forall ?_ rest).trans h
    intro c hc htoken
    rw [tokenChars, List.mem_cons, List.mem_cons, List.mem_singleton] at htoken
    cases name.isNameChar_of_mem_text hc with
    | inl hname => rcases htoken with rfl | rfl | rfl <;> exact absurd hname (by decide)
    | inr hdot =>
      rw [hdot] at htoken
      exact absurd htoken (by decide)
  | connection joined =>
    -- the first token is a connection, whatever the other links and the rest are
    obtain ⟨between, target, hlinks⟩ := exists_flatMap_text_eq joined.link joined.more
    have htext : text (connection joined) ++ rest =
        joined.source.text ++ [' '] ++ joined.link.token.text ++
          (between ++ target.text ++ rest) := by
      rw [text, Connection.text, hlinks]
      simp
    rw [htext]
    exact hasConnection_of_mem_connectionTokens joined.link.token.mem_tokens _ _

end Subject

/-! ## Values -/

/-- A wording in quotes is a **literal**. -/
theorem Wording.exists_literal (wording : Wording) :
    ∃ literal : Literal, literal.text = wording.quoted := by
  have hquote : Quoting.isQuote Quoting.double = true := by decide
  refine Literal.exists_text_eq hquote ?_
  intro c hc
  have hplain := wording.plain c hc
  rw [List.mem_cons, List.mem_cons, not_or, not_or] at hplain
  exact ⟨hplain.1, hplain.2.1⟩

/-- A bare value is **tight**. -/
theorem BareValue.tight (value : BareValue) : Tight value.text :=
  .of_trim_eq value.text_ne_nil value.trim_text

namespace Value

/-- A value is nothing, or starts with its **colon**. -/
theorem head?_text {value : Value} : ∀ c ∈ value.text.head?, c = ':' := by
  cases value <;> rintro c ⟨⟩ <;> rfl

/-- A value that is **something** is tight. -/
theorem tight {value : Value} (h : value ≠ .absent) : Tight value.text := by
  have hcolon : Tight [':'] := .singleton rfl
  cases value with
  | absent => exact absurd rfl h
  | colon => exact hcolon
  | quoted wording =>
    have hquote : Tight [Quoting.double] := .singleton rfl
    exact hcolon.append hquote (' ' :: Quoting.double :: wording.text)
  | bare value => exact hcolon.append value.tight [' ']

/-- Values are **quiet**. -/
theorem quiet (value : Value) : Braces.Quiet value.text := by
  have hcolon : Braces.Quiet [':', ' '] :=
    (Braces.Quiet.singleton rfl rfl).append (.of_isAllBlank rfl)
  cases value with
  | absent => exact .nil
  | colon => exact .singleton rfl rfl
  | quoted wording =>
    obtain ⟨literal, hliteral⟩ := wording.exists_literal
    have hquiet := literal.quiet
    rw [hliteral] at hquiet
    exact hcolon.append hquiet
  | bare value =>
    refine hcolon.append (.of_forall ?_)
    intro c hc
    have hplain := value.plain c hc
    simp only [List.mem_cons, List.not_mem_nil, or_false, not_or] at hplain
    obtain ⟨hdouble, hsingle, -, hopening, hclosing, -⟩ := hplain
    exact Braces.quiet_of_ne hdouble hsingle hopening hclosing

/-- No value holds a **connection** token. -/
theorem hasConnection_text (value : Value) : hasConnection value.text = false := by
  have hcolon : ∀ c ∈ [':', ' '], c ∉ tokenChars := by simp [tokenChars]
  cases value with
  | absent => rfl
  | colon => decide
  | quoted wording =>
    have hquote : Quoting.double ∉ tokenChars := by decide
    calc hasConnection (':' :: ' ' :: wording.quoted)
        = hasConnection ([':', ' ', Quoting.double] ++ (wording.text ++ [Quoting.double])) := rfl
      _ = hasConnection (wording.text ++ Quoting.double :: []) :=
        hasConnection_append_of_forall (by simp [tokenChars, Quoting.double]) _
      _ = false := by
        rw [hasConnection_append_cons hquote, wording.hasConnection_text, hasConnection_nil]
        rfl
  | bare value =>
    exact (hasConnection_append_of_forall hcolon value.text).trans value.hasConnection_text

/-- No value holds a **newline**. -/
theorem newline_notMem_text (value : Value) : '\n' ∉ value.text := by
  cases value with
  | absent => exact List.not_mem_nil
  | colon => decide
  | quoted wording =>
    -- the colon, the blank and the quotes are none, and the wording has none
    intro hmem
    simp only [text, Wording.quoted, List.mem_cons, List.mem_append, List.cons_append,
      List.not_mem_nil, or_false] at hmem
    rcases hmem with hmem | hmem | hmem | hmem | hmem
    · exact absurd hmem (by decide)
    · exact absurd hmem (by decide)
    · exact absurd hmem (by decide)
    · exact wording.plain _ hmem (by decide)
    · exact absurd hmem (by decide)
  | bare value =>
    intro hmem
    simp only [text, List.mem_cons] at hmem
    rcases hmem with hmem | hmem | hmem
    · exact absurd hmem (by decide)
    · exact absurd hmem (by decide)
    · exact value.plain _ hmem (by decide)

end Value

/-! ## Heads -/

namespace Head

/-- Behind the **first name** of a head stands a blank, a colon, or what stands behind the head. -/
theorem exists_append_eq (head : Head) (after : Text) :
    ∃ rest, head.text ++ after = head.subject.firstName.text ++ rest ∧
      ∀ c ∈ rest.head?, c = ' ' ∨ c = ':' ∨ c ∈ after.head? := by
  obtain ⟨more, hsubject, hmore⟩ := head.subject.exists_text_eq_append
  refine ⟨more ++ head.value.text ++ after, ?_, ?_⟩
  · rw [text, hsubject]
    simp only [List.append_assoc]
  · intro c hc
    rw [List.head?_append, List.head?_append, Option.mem_def, Option.or_eq_some_iff,
      Option.or_eq_some_iff] at hc
    rcases hc with (hsubject | ⟨-, hvalue⟩) | ⟨-, hafter⟩
    · exact .inl (hmore c hsubject)
    · exact .inr (.inl (Value.head?_text c hvalue))
    · exact .inr (.inr hafter)

/-- A head starts with a character that may stand in a **segment**. -/
theorem exists_text_eq_cons (head : Head) :
    ∃ c rest, head.text = c :: rest ∧ isNameChar c = true := by
  obtain ⟨more, htext, -⟩ := head.exists_append_eq []
  obtain ⟨c, rest, hname, hfirst, -⟩ := head.subject.firstName.exists_text_eq_cons
  rw [List.append_nil, hname] at htext
  exact ⟨c, rest ++ more, htext, isNameChar_of_startsIdentifier hfirst⟩

/-- Heads are **tight**. -/
theorem tight (head : Head) : Tight head.text := by
  -- the last character is that of the value, if there is one
  by_cases h : head.value = .absent
  · rw [text, h, Value.text, List.append_nil]
    exact head.subject.tight
  · have hwhole := head.subject.tight.append (Value.tight h) []
    rwa [List.append_nil] at hwhole

/-- Heads are **quiet**. -/
theorem quiet (head : Head) : Braces.Quiet head.text := head.subject.quiet.append head.value.quiet

/-- No head holds a **newline**. -/
theorem newline_notMem_text (head : Head) : '\n' ∉ head.text := by
  intro hmem
  cases List.mem_append.1 hmem with
  | inl hsubject =>
    exact absurd (Subject.isSubjectChar_of_mem_text hsubject) (by decide)
  | inr hvalue => exact head.value.newline_notMem_text hvalue

/-- A head holds a connection token exactly when it is a **connection**, also with more behind it
that adds none. -/
theorem hasConnection_text_append (head : Head) {c : Char} (hc : c ∉ tokenChars) {rest : Text}
    (hrest : hasConnection rest = false) :
    hasConnection (head.text ++ c :: rest) = head.subject.isConnection := by
  rw [text, List.append_assoc]
  refine head.subject.hasConnection_append ?_
  rw [hasConnection_append_cons hc, head.value.hasConnection_text, hrest]
  rfl

/-- A head holds a connection token exactly when it is a **connection**. -/
theorem hasConnection_text (head : Head) : hasConnection head.text = head.subject.isConnection :=
  head.subject.hasConnection_append head.value.hasConnection_text

/-- A head **starts with its first name**, also with something behind it that no identifier goes on
with. -/
theorem leadingIdentifier_append (head : Head) (rest : Text)
    (hrest : ∀ c ∈ rest.head?, continuesIdentifier c = false) :
    leadingIdentifier (head.text ++ rest) = head.subject.firstName.text := by
  obtain ⟨more, htext, hmore⟩ := head.exists_append_eq rest
  obtain ⟨c, word, hname, hfirst, hword⟩ := head.subject.firstName.exists_text_eq_cons
  rw [htext, hname]
  refine Keyword.leadingIdentifier_append hfirst hword ?_
  intro d hd
  rcases hmore d hd with rfl | rfl | hd
  · rfl
  · rfl
  · exact hrest d hd

/-- The **name** that a head gives to its statement: that of a connection is made of the whole
head. -/
def name (head : Head) : Text :=
  match head.subject with
  | .shape name => name.text
  | .connection _ => Header.connectionName head.text

/-- No head gives an **empty** name. -/
theorem name_ne_nil (head : Head) : head.name ≠ [] := by
  unfold name
  split
  · next name _ => exact name.tight.ne_nil
  · obtain ⟨c, rest, htext, hchar⟩ := head.exists_text_eq_cons
    have htight := head.tight
    rw [htext] at htight ⊢
    exact Header.connectionName_ne_nil htight (ne_of_isNameChar hchar (by decide))
      (ne_of_isNameChar hchar (by decide))

/-- The name that is read off a header **with nothing but blanks** behind its head. -/
theorem name_eq (head : Head) {after : Text} (hafter : isAllBlank after = true)
    (hconnection : hasConnection (head.text ++ after) = head.subject.isConnection)
    (hrest : ∀ c ∈ after.head?, continuesIdentifier c = false) :
    (if hasConnection (head.text ++ after) then Header.connectionName (head.text ++ after)
      else leadingIdentifier (head.text ++ after)) = head.name := by
  rw [hconnection, Header.connectionName_append hafter, name]
  have hleading := head.leadingIdentifier_append after hrest
  cases hsubject : head.subject with
  | shape name =>
    rw [hsubject] at hleading
    exact hleading
  | connection joined => rfl

/-- The name that is read off the line of a **leaf**. -/
theorem headerName_leaf (head : Head) {before : Text} (hbefore : isAllBlank before = true) :
    Header.name (before ++ head.text) = head.name := by
  have hnil : isAllBlank [] = true := rfl
  have hname := head.name_eq hnil (by rw [List.append_nil, head.hasConnection_text]) (by simp)
  rw [List.append_nil] at hname
  rw [Header.name, Header.head, head.tight.trim_append hbefore,
    Header.beforeBody_of_quiet head.quiet]
  exact hname

/-- A head with the **brace** of its body is tight. -/
theorem tight_append_brace (head : Head) : Tight (head.text ++ [' ', '{']) := by
  have hbrace : Tight ['{'] := .singleton rfl
  have hwhole := head.tight.append hbrace [' ']
  rwa [List.append_assoc] at hwhole

/-- The name that is read off the first line of a **container**. -/
theorem headerName_container (head : Head) {before : Text} (hbefore : isAllBlank before = true) :
    Header.name (before ++ head.text ++ [' ', '{']) = head.name := by
  have hblank : isAllBlank [' '] = true := by decide
  have hrest : ∀ c ∈ [' '].head?, continuesIdentifier c = false := by
    rintro c ⟨⟩
    rfl
  have hname := head.name_eq hblank (head.hasConnection_text_append (by decide) rfl) hrest
  have hquiet : Braces.Quiet (head.text ++ [' ']) := head.quiet.append (.of_isAllBlank rfl)
  have hbody := Header.beforeBody_append_brace hquiet
  rw [List.append_assoc] at hbody
  rw [Header.name, Header.head, List.append_assoc, head.tight_append_brace.trim_append hbefore,
    show head.text ++ [' ', '{'] = head.text ++ ([' '] ++ ['{']) from rfl, hbody]
  exact hname

end Head

end DiagramOutline.Diagram
