import DiagramOutline.Proofs.Diagram.Lines

/-! # Labels in the lines of a diagram

What the readers of labels find in the lines of a diagram: the quoted label of a head, the value
that a head gives to the label property, and the first of these values in a body.

* **`Diagram.Value.quoted?`**, **`Diagram.Head.property?`** — the two kinds of labels, as the
  diagram has them.
* **`Diagram.Head.ofStatement_append`**, **`Diagram.Head.ofHeader?_append`** — the quoted label is
  read off the lines of leaves and of containers.
* **`Diagram.Head.written?`**, **`Diagram.Head.propertyValue?_append`** — what the line of a head
  gives to the label property, and that it is read off that line.
* **`Diagram.ofBody_container`** — the label of a container. -/

namespace DiagramOutline.Diagram

open Text Label

/-! ## Labels of heads -/

namespace Value

/-- The **quoted label** that a value is. -/
def quoted? : Value → Option Text
  | quoted wording => some wording.quoted
  | _ => none

/-- What a value gives to a **property**: the quoted label, or the bare value. -/
def given? : Value → Option Text
  | quoted wording => some wording.quoted
  | bare value => some value.text
  | _ => none

end Value

/-- A wording in quotes is **read** as a literal. -/
theorem Wording.literal?_append (wording : Wording) (rest : Text) :
    literal? (wording.quoted ++ rest) = some (wording.quoted, rest) := by
  obtain ⟨literal, hliteral⟩ := wording.exists_literal
  rw [← hliteral, Label.literal?_append]

/-- A bare value does not **start** with a blank or a quote. -/
theorem BareValue.head?_text {value : BareValue} {c : Char} (h : c ∈ value.text.head?) :
    isBlank c = false ∧ Quoting.isQuote c = false := by
  have hplain := value.plain c (List.mem_of_head? h)
  rw [List.mem_cons, List.mem_cons, not_or, not_or] at hplain
  refine ⟨value.tight.head c h, ?_⟩
  rw [Quoting.isQuote, Bool.or_eq_false_iff, beq_eq_false_iff_ne, beq_eq_false_iff_ne]
  exact ⟨hplain.1, hplain.2.1⟩

/-- What follows a bare value changes nothing about how it **starts**. -/
theorem BareValue.head?_append (value : BareValue) (rest : Text) :
    (value.text ++ rest).head? = value.text.head? := by
  rw [List.head?_append, Option.or_of_isSome (List.isSome_head?.2 value.text_ne_nil)]

/-- The blank before a **quoted label** is trimmed off, and no more. -/
theorem Wording.trimStart_append (wording : Wording) (rest : Text) :
    trimStart (' ' :: wording.quoted ++ rest) = wording.quoted ++ rest := by
  have hblank : isAllBlank [' '] = true := rfl
  refine (Text.trimStart_append hblank (wording.quoted ++ rest)).trans ?_
  refine trimStart_eq_self ?_
  rintro c ⟨⟩
  rfl

/-- The blank before a **bare value** is trimmed off, and no more. -/
theorem BareValue.trimStart_append (value : BareValue) (rest : Text) :
    trimStart (' ' :: value.text ++ rest) = value.text ++ rest := by
  have hblank : isAllBlank [' '] = true := rfl
  refine (Text.trimStart_append hblank (value.text ++ rest)).trans ?_
  refine trimStart_eq_self ?_
  rw [value.head?_append rest]
  exact fun c hc => (BareValue.head?_text hc).1

namespace Head

/-- What stands **before the value** of a head on its line. -/
theorem ne_colon_of_mem (head : Head) (indent : Indent) {c : Char}
    (h : c ∈ indent.text ++ head.subject.text) : c ≠ ':' ∧ c ≠ '{' := by
  cases List.mem_append.1 h with
  | inl hindent =>
    have hblank := isAllBlank_iff.1 indent.isAllBlank_text c hindent
    constructor <;> rintro rfl <;> exact absurd hblank (by decide)
  | inr hsubject =>
    have hchar := Subject.isSubjectChar_of_mem_text hsubject
    exact ⟨ne_of_isSubjectChar hchar (by decide), ne_of_isSubjectChar hchar (by decide)⟩

/-- The literal after the first colon of the line of a head is its **quoted label**. -/
theorem quoted?_append (head : Head) (indent : Indent) {after : Text}
    (hafter : after = [] ∨ after = [' ', '{']) :
    Label.quoted? (indent.text ++ head.text ++ after) =
      head.value.quoted?.map fun literal => (literal, after) := by
  have hne : indent.text ++ head.subject.text ≠ [] :=
    List.append_ne_nil_of_right_ne_nil _ head.subject.tight.ne_nil
  have hbefore : ∀ c ∈ indent.text ++ head.subject.text, c ≠ ':' ∧ c ≠ '{' :=
    fun c hc => head.ne_colon_of_mem indent hc
  have hline : indent.text ++ head.text ++ after =
      indent.text ++ head.subject.text ++ (head.value.text ++ after) := by
    rw [text, ← List.append_assoc, List.append_assoc]
  rw [hline]
  cases hvalue : head.value with
  | absent =>
    -- the search for a colon stops at the brace or at the end of the line
    rcases hafter with rfl | rfl
    · exact quoted?_eq_none hbefore (by simp [Value.text])
    · have hblank : ∀ c ∈ indent.text ++ head.subject.text ++ [' '], c ≠ ':' ∧ c ≠ '{' := by
        intro c hc
        cases List.mem_append.1 hc with
        | inl hc => exact hbefore c hc
        | inr hc =>
          rw [List.mem_singleton.1 hc]
          decide
      have hnone : Label.quoted? (indent.text ++ head.subject.text ++ [' '] ++ ['{']) = none :=
        quoted?_eq_none hblank (by rintro c ⟨⟩; rfl)
      rwa [List.append_assoc] at hnone
  | colon =>
    -- behind the colon stands the brace or nothing, and no literal
    rw [Value.text, List.singleton_append, quoted?_append_colon hne hbefore]
    rcases hafter with rfl | rfl
    · rfl
    · exact literal?_eq_none (by rintro c ⟨⟩; rfl)
  | quoted wording =>
    rw [Value.text, List.cons_append, quoted?_append_colon hne hbefore, wording.trimStart_append,
      wording.literal?_append]
    rfl
  | bare value =>
    rw [Value.text, List.cons_append, quoted?_append_colon hne hbefore, value.trimStart_append]
    -- a bare value does not start with a quote
    refine literal?_eq_none ?_
    rw [value.head?_append after]
    exact fun c hc => (BareValue.head?_text hc).2

/-- The label that is read off the line of a **leaf**. -/
theorem ofStatement_append (head : Head) (indent : Indent) :
    ofStatement (indent.text ++ head.text) = head.value.quoted?.bind clean := by
  have hquoted := head.quoted?_append indent (.inl rfl)
  rw [List.append_nil] at hquoted
  rw [ofStatement, Text.lines_of_newline_notMem (newline_notMem_leaf indent head),
    List.headD_cons, hquoted]
  cases head.value.quoted? <;> rfl

/-- The label that is read off the first line of a **container**. -/
theorem ofHeader?_append (head : Head) (indent : Indent) :
    ofHeader? (indent.text ++ head.text ++ [' ', '{']) = head.value.quoted? := by
  rw [ofHeader?, head.quoted?_append indent (.inr rfl)]
  cases head.value.quoted? <;> rfl

end Head

/-! ## The label property -/

namespace Value

/-- What a value gives to a **property** on a line that goes on behind it: a bare value takes in the
rest of the line. -/
def written? (after : Text) : Value → Option Text
  | quoted wording => some wording.quoted
  | bare value => some (value.text ++ after)
  | _ => none

/-- What follows a value **makes no difference** to what it gives exactly when it is nothing, or the
value is no bare one. -/
theorem written?_eq_given?_iff {value : Value} {after : Text} :
    value.written? after = value.given? ↔ after = [] ∨ ∀ bare, value ≠ .bare bare := by
  cases value with
  | bare value =>
    constructor
    · intro heq
      have htext := Option.some.inj heq
      exact .inl (List.append_right_eq_self.1 htext)
    · rintro (rfl | hne)
      · exact congrArg some (List.append_nil _)
      · exact absurd rfl (hne value)
  | absent => exact iff_of_true rfl (.inr nofun)
  | colon => exact iff_of_true rfl (.inr nofun)
  | quoted wording => exact iff_of_true rfl (.inr nofun)

/-- What is read **behind the name** of the label property is what the value gives to it there. -/
theorem written?_eq {value : Value} {after : Text}
    (hafter : after = [] ∨ after = [' ', '{'] ∧ value ≠ .colon) :
    (match trimStart (value.text ++ after) with
      | ':' :: rest => value? rest
      | _ => none) = value.written? after := by
  have hstart : ∀ rest, trimStart (':' :: rest) = ':' :: rest :=
    fun rest => trimStart_eq_self (by rintro c ⟨⟩; rfl)
  cases value with
  | absent => rcases hafter with rfl | ⟨rfl, -⟩ <;> rfl
  | colon =>
    rcases hafter with rfl | ⟨-, hne⟩
    · rfl
    · exact absurd rfl hne
  | quoted wording =>
    have hliteral := wording.literal?_append after
    rw [← wording.trimStart_append after] at hliteral
    rw [Value.text, List.cons_append, hstart]
    exact value?_of_literal? hliteral
  | bare value =>
    rw [Value.text, List.cons_append, hstart]
    refine value?_of_bare (value.trimStart_append after)
      (List.append_ne_nil_of_left_ne_nil value.text_ne_nil _) ?_ ?_
    · rw [value.head?_append after]
      exact fun c hc => (BareValue.head?_text hc).2
    -- neither the value nor what opens a body is cut at a closing brace
    · intro c hc
      cases List.mem_append.1 hc with
      | inl hvalue =>
        rintro rfl
        exact value.plain _ hvalue (by decide)
      | inr hmem =>
        rcases hafter with rfl | ⟨rfl, -⟩
        · cases hmem
        · rintro rfl
          exact absurd hmem (by decide)

end Value

/-- Behind the name that a connection starts at stand a blank and the first character of a
**token**. -/
theorem Connection.exists_text_eq (joined : Connection) :
    ∃ c rest, joined.text = joined.source.text ++ ' ' :: c :: rest ∧ c ∈ Keyword.tokenChars := by
  obtain ⟨between, target, hlinks⟩ := exists_flatMap_text_eq joined.link joined.more
  obtain ⟨hne, htoken⟩ :=
    Keyword.mem_tokenChars_of_mem_connectionTokens _ joined.link.token.mem_tokens
  obtain ⟨c, token, hcons⟩ := List.exists_cons_of_ne_nil hne
  refine ⟨c, token ++ between ++ target.text, ?_, htoken c (hcons ▸ List.mem_cons_self)⟩
  rw [text, hlinks, hcons]
  simp only [List.cons_append]

/-- A line that begins with a **connection** has no value of the label property, also if the
connection starts at a shape with the name of the property. -/
theorem Connection.propertyValue?_append {joined : Connection} (indent : Indent)
    (hname : joined.source.text = property) (rest : Text) :
    propertyValue? (indent.text ++ joined.text ++ rest) = none := by
  obtain ⟨c, more, htext, hc⟩ := joined.exists_text_eq
  rw [Keyword.tokenChars, List.mem_cons, List.mem_cons, List.mem_singleton] at hc
  have hline : indent.text ++ joined.text ++ rest =
      indent.text ++ property ++ ([' '] ++ c :: (more ++ rest)) := by
    rw [htext, hname]
    simp only [List.append_assoc, List.cons_append, List.nil_append]
  have hstart : trimStart (c :: (more ++ rest)) = c :: (more ++ rest) := by
    refine trimStart_eq_self ?_
    rintro d ⟨⟩
    rcases hc with rfl | rfl | rfl <;> rfl
  rw [hline, propertyValue?_append_property indent.isAllBlank_text,
    Text.trimStart_append (by rfl), hstart]
  -- what follows the name is a token, and no colon
  rcases hc with rfl | rfl | rfl <;> rfl

namespace Head

/-- A head that may stand **before a body, also with a bare value**. A colon alone stands there only
after a connection. -/
def StandsBefore (head : Head) : Prop :=
  head.value = .colon → head.subject.isConnection = true

/-- A head that opens a body may stand **before** it. -/
theorem OpensBody.standsBefore {head : Head} (h : head.OpensBody) : head.StandsBefore := by
  intro hcolon
  rwa [OpensBody, hcolon] at h

/-- A head that opens a body has **no bare value**. -/
theorem OpensBody.ne_bare {head : Head} (h : head.OpensBody) (bare : BareValue) :
    head.value ≠ .bare bare := by
  intro hbare
  rw [OpensBody, hbare] at h
  exact h

/-- The value that a head gives to the **label property**. -/
def property? (head : Head) : Option Text :=
  match head.subject with
  | .shape name => if name.text = property then head.value.given? else none
  | .connection _ => none

/-- What the **line** of a head gives to the label property, with what stands behind the head. -/
def written? (after : Text) (head : Head) : Option Text :=
  match head.subject with
  | .shape name => if name.text = property then head.value.written? after else none
  | .connection _ => none

/-- The line of a head gives what **the head** does when nothing follows it, or no bare value takes
in what follows. -/
theorem written?_eq_property? {head : Head} {after : Text}
    (h : after = [] ∨ ∀ bare, head.value ≠ .bare bare) : head.written? after = head.property? := by
  rw [written?, property?, Value.written?_eq_given?_iff.2 h]

/-- The line of a head with **another name** than that of the label property gives nothing to it. -/
theorem written?_of_ne {head : Head} (h : head.subject.firstName.text ≠ property) (after : Text) :
    head.written? after = none := by
  rw [written?]
  cases hkind : head.subject with
  | connection joined => rfl
  | shape name =>
    rw [hkind] at h
    exact if_neg h

/-- The line of a **connection** gives nothing to the label property. -/
theorem written?_of_isConnection {head : Head} (h : head.subject.isConnection = true)
    (after : Text) : head.written? after = none := by
  obtain ⟨subject, value⟩ := head
  cases subject with
  | shape name => cases h
  | connection joined => rfl

/-- The line of a **shape** with the name of the label property gives what its value does. -/
theorem written?_of_not_isConnection {head : Head}
    (hkind : head.subject.isConnection = false)
    (hname : head.subject.firstName.text = property) (after : Text) :
    head.written? after = head.value.written? after := by
  obtain ⟨subject, value⟩ := head
  cases subject with
  | shape name => exact if_pos hname
  | connection joined => cases hkind

/-- A head whose first name is **another one** than that of the label property gives it no value. -/
theorem propertyValue?_append_ne {head : Head} (indent : Indent) {after : Text}
    (hne : head.subject.firstName.text ≠ property) (hafter : after = [] ∨ after = [' ', '{']) :
    propertyValue? (indent.text ++ head.text ++ after) = none := by
  obtain ⟨rest, htext, hrest⟩ := head.exists_append_eq after
  rw [List.append_assoc, htext, ← List.append_assoc]
  refine propertyValue?_append_word indent.isAllBlank_text head.subject.firstName.tight.ne_nil
    ?_ hne ?_
  · intro c hc
    refine ⟨Name.isBlank_of_mem_text hc, ?_⟩
    exact ne_of_isSubjectChar (Name.isSubjectChar_of_mem_text hc) (by decide)
  · intro c hc
    rcases hrest c hc with rfl | rfl | hc
    · decide
    · decide
    · rcases hafter with rfl | rfl
      · cases hc
      · cases hc
        decide

/-- The value of the label property is **read** off the line of a head as it is written there. -/
theorem propertyValue?_append {head : Head} (indent : Indent) {after : Text}
    (hafter : after = [] ∨ after = [' ', '{'] ∧ head.StandsBefore) :
    propertyValue? (indent.text ++ head.text ++ after) = head.written? after := by
  by_cases hname : head.subject.firstName.text = property
  · rw [written?]
    cases hkind : head.subject with
    | connection joined =>
      rw [hkind] at hname
      rw [text, hkind, ← List.append_assoc, List.append_assoc]
      exact joined.propertyValue?_append indent hname _
    | shape name =>
      rw [hkind] at hname
      have hname : name.text = property := hname
      have hline : indent.text ++ head.text ++ after =
          indent.text ++ property ++ (head.value.text ++ after) := by
        rw [text, hkind, ← hname, Subject.text]
        simp only [List.append_assoc]
      dsimp only
      rw [if_pos hname, hline, propertyValue?_append_property indent.isAllBlank_text]
      refine Value.written?_eq (hafter.imp_right fun hbefore => ⟨hbefore.1, ?_⟩)
      -- a colon alone stands behind no shape
      intro hcolon
      have hconnection := hbefore.2 hcolon
      rw [hkind] at hconnection
      cases hconnection
  · rw [propertyValue?_append_ne indent hname (hafter.imp_right And.left), written?_of_ne hname]

end Head

/-! ## Labels of bodies -/

/-- The value that an item gives to the **label property** of the body that it stands in. -/
def Item.property? : Item → Option Text
  | .blank _ => none
  | .comment _ _ => none
  | .leaf _ head _ => head.property?
  | .container _ head _ _ _ => head.property?

/-- The first line of a container leaves **one body more** open. -/
theorem delta_header (indent : Indent) (head : Head) :
    Braces.delta (indent.text ++ head.text ++ [' ', '{']) = 1 :=
  Braces.delta_of_ofLine_eq_singleton (ofLine_header indent head)

/-- The last line of a container leaves **one body less** open. -/
theorem delta_closing (close : Indent) : Braces.delta (close.text ++ ['}']) = -1 :=
  Braces.delta_of_ofLine_eq_singleton (ofLine_closing close)

/-- Directly in a body, the line of a **leaf** ends the search for the label if it has a value of the
label property, and is passed over if it has none. -/
theorem ofBodyLines_leaf (indent : Indent) (head : Head) (rest : List Text) :
    ofBodyLines 1 ((indent.text ++ head.text) :: rest) =
      match propertyValue? (indent.text ++ head.text) with
      | some value => clean value
      | none => ofBodyLines 1 rest := by
  have hdelta : Braces.delta (indent.text ++ head.text) = 0 :=
    Braces.delta_of_ofLine_eq_nil (ofLine_leaf indent head)
  cases hvalue : propertyValue? (indent.text ++ head.text) with
  | some value => exact ofBodyLines_of_some hvalue rest
  | none =>
    rw [ofBodyLines_of_none hvalue (by omega), hdelta]
    rfl

/-- Directly in a body, the lines of a **container** end the search for the label if the first one
has a value of the label property, and are all passed over if it has none. -/
theorem ofBodyLines_container (indent close : Indent) (head : Head) {inner : List Text}
    (h : Braces.Nested inner) (rest : List Text) :
    ofBodyLines 1 (((indent.text ++ head.text ++ [' ', '{']) ::
        (inner ++ [close.text ++ ['}']])) ++ rest) =
      match propertyValue? (indent.text ++ head.text ++ [' ', '{']) with
      | some value => clean value
      | none => ofBodyLines 1 rest := by
  have hopening := delta_header indent head
  have hclosing := delta_closing close
  rw [List.cons_append, List.append_assoc inner, List.singleton_append]
  cases hvalue : propertyValue? (indent.text ++ head.text ++ [' ', '{']) with
  | some value => exact ofBodyLines_of_some hvalue _
  | none =>
    rw [ofBodyLines_of_none hvalue (by omega), hopening, h.ofBodyLines_append (by decide),
      ofBodyLines_of_ne (by decide) (by omega), hclosing]
    rfl

/-- Directly in a body, an item that gives a value to the label property **ends the search** for the
label, and any other item is passed over. -/
theorem Item.ofBodyLines_append {item : Item} (h : item.Outlinable) (rest : List Text) :
    ofBodyLines 1 (item.lines ++ rest) =
      match item.property? with
      | some value => clean value
      | none => ofBodyLines 1 rest := by
  cases item with
  | blank indent =>
    have hdelta : Braces.delta indent.text = 0 :=
      Braces.delta_of_ofLine_eq_nil (ofLine_blank indent)
    rw [Item.lines, List.singleton_append,
      ofBodyLines_of_none (propertyValue?_of_isAllBlank indent.isAllBlank_text) (by omega), hdelta]
    rfl
  | comment indent remark =>
    have hnone : propertyValue? (indent.text ++ '#' :: remark.text) = none :=
      propertyValue?_append_cons indent.isAllBlank_text (by decide) (by decide) remark.text
    have hdelta : Braces.delta (indent.text ++ '#' :: remark.text) = 0 :=
      Braces.delta_of_ofLine_eq_nil (ofLine_comment h)
    rw [Item.lines, List.singleton_append, ofBodyLines_of_none hnone (by omega), hdelta]
    rfl
  | leaf indent head alone =>
    have hvalue := head.propertyValue?_append indent (.inl rfl)
    rw [List.append_nil, head.written?_eq_property? (.inl rfl)] at hvalue
    rw [Item.lines, List.singleton_append, ofBodyLines_leaf, hvalue]
    rfl
  | container indent head opens items close =>
    have hvalue := head.propertyValue?_append indent (.inr ⟨rfl, opens.standsBefore⟩)
    rw [head.written?_eq_property? (.inr opens.ne_bare)] at hvalue
    rw [Item.lines, ofBodyLines_container indent close head (Diagram.nested_lines h.2), hvalue]
    rfl

/-- Directly in a body, the **first item** that gives a value to the label property gives the
label. -/
theorem ofBodyLines_append {items : List Item} (h : Outlinable items) (rest : List Text) :
    ofBodyLines 1 (lines items ++ rest) =
      match items.findSome? Item.property? with
      | some value => clean value
      | none => ofBodyLines 1 rest := by
  induction items with
  | nil => rfl
  | cons item more ih =>
    rw [lines, List.append_assoc, Item.ofBodyLines_append h.1, List.findSome?_cons]
    cases item.property? with
    | some value => rfl
    | none => exact ih h.2

/-- The label of lines that are those of a **container**: the quoted one in the first line, or else
the one that is searched for in the other lines. -/
theorem ofBody_header (indent close : Indent) (head : Head) {inner : List Text}
    (h : ∀ line ∈ inner, '\n' ∉ line) :
    ofBody (Text.unlines ((indent.text ++ head.text ++ [' ', '{']) ::
        (inner ++ [close.text ++ ['}']]))) =
      match head.value.quoted? with
      | some literal => clean literal
      | none => ofBodyLines 1 (inner ++ [close.text ++ ['}']]) := by
  have hnewline : ∀ line ∈ (indent.text ++ head.text ++ [' ', '{']) ::
      (inner ++ [close.text ++ ['}']]), '\n' ∉ line := by
    refine List.forall_mem_cons.2 ⟨newline_notMem_header indent head, ?_⟩
    exact List.forall_mem_append.2
      ⟨h, List.forall_mem_singleton.2 (newline_notMem_closing close)⟩
  rw [ofBody, Text.lines_unlines (List.cons_ne_nil _ _) hnewline]
  dsimp only
  rewrite [head.ofHeader?_append indent, delta_header]
  cases head.value.quoted? <;> rfl

/-- The **closing brace** ends a body before another line could give a label. -/
theorem ofBodyLines_closing (close : Indent) : ofBodyLines 1 [close.text ++ ['}']] = none := by
  rw [ofBodyLines, if_pos rfl,
    propertyValue?_append_cons close.isAllBlank_text (by decide) (by decide) [], delta_closing]
  rfl

/-- The label of a **container** is the one in its header, or else what the first item in its body
that says so gives to the label property. -/
theorem ofBody_container (indent close : Indent) (head : Head) {items : List Item}
    (h : Outlinable items) :
    ofBody (Text.unlines ((indent.text ++ head.text ++ [' ', '{']) ::
        (lines items ++ [close.text ++ ['}']]))) =
      match head.value.quoted? with
      | some literal => clean literal
      | none => (items.findSome? Item.property?).bind clean := by
  rw [ofBody_header indent close head fun _ => newline_notMem_of_mem_lines items,
    ofBodyLines_append h, ofBodyLines_closing]
  cases items.findSome? Item.property? <;> rfl

end DiagramOutline.Diagram
