import DiagramOutline.Proofs.QuotedConnections

/-! # Names of connections

A connection is named by its whole header, and only the body behind the header is to be left out of
the name. The header ends before the first opening brace outside literals, but the name is then cut
once more, at any opening brace. So a header is its own name exactly if it quotes no opening brace.

* **`Header.opening_notMem_name`** — no name holds an opening brace, quoted or not.
* **`Header.IsConnection header`** — `header` is that of a connection, and no directive.
* **`Header.IsJoint joint`** — `joint` may stand between a header and the brace of its body.
* **`Outline.named_by_header_iff`** — which headers name their blocks. -/

namespace DiagramOutline

namespace Header

open Text Keyword

/-! ## Names without braces -/

/-- A body **opens** at a brace. -/
theorem bodyTail?_opening (rest : Text) :
    bodyTail? ('{' :: rest) = some (rest.dropWhile (· != '\n')) := rfl

/-- No body opens in a text **without an opening brace**. -/
theorem bodyTail?_eq_none {text : Text} (h : '{' ∉ text) : bodyTail? text = none := by
  have hstart : ∀ part : Text, '{' ∉ part → '{' ∉ trimStart part := fun part hpart hmem =>
    hpart ((List.dropWhile_sublist _).subset hmem)
  have hbody : ∀ part rest : Text, '{' ∉ part → part ≠ '{' :: rest := by
    rintro part rest hpart rfl
    exact hpart List.mem_cons_self
  unfold bodyTail?
  dsimp only
  split
  · next rest heq =>
    split at heq
    · next after hafter =>
      have hbehind : '{' ∉ after := by
        intro hmem
        exact hstart text h (hafter ▸ List.mem_cons_of_mem _ hmem)
      exact absurd heq (hbody _ _ (hstart after hbehind))
    · exact absurd heq (hbody _ _ (hstart text h))
  · rfl

/-- Without its bodies a text has **no opening brace**, not even in a literal. -/
theorem opening_notMem_withoutBodies (text : Text) : '{' ∉ withoutBodies text := by
  fun_induction withoutBodies text with
  | case1 => exact List.not_mem_nil
  | case2 c rest tail _ ih => exact ih
  | case3 c rest hnone ih =>
    rw [List.mem_cons, not_or]
    refine ⟨?_, ih⟩
    rintro rfl
    rw [bodyTail?_opening] at hnone
    cases hnone

/-- A text without an opening brace **has no bodies** to lose. -/
theorem withoutBodies_eq_self {text : Text} (h : '{' ∉ text) : withoutBodies text = text := by
  refine withoutBodies_of_forall ?_
  intro rest hsuffix
  exact bodyTail?_eq_none fun hmem => h (hsuffix.subset hmem)

/-- The **name of a connection** has no opening brace. -/
theorem opening_notMem_connectionName (header : Text) : '{' ∉ connectionName header := by
  obtain ⟨before, after, htrim, -, -⟩ :=
    exists_eq_append_trim_append (dropEndWhile (· == ':') (withoutBodies (trim header)))
  obtain ⟨dropped, hdropped, -⟩ :=
    exists_eq_dropEndWhile_append (· == ':') (withoutBodies (trim header))
  intro hmem
  refine opening_notMem_withoutBodies (trim header) ?_
  rw [hdropped, htrim]
  exact List.mem_append_left _ (List.mem_append_left _ (List.mem_append_right _ hmem))

/-- The **identifier** at the start of a line has no opening brace. -/
theorem opening_notMem_leadingIdentifier (line : Text) : '{' ∉ leadingIdentifier line := by
  cases line with
  | nil => exact List.not_mem_nil
  | cons c rest =>
    rw [leadingIdentifier]
    split
    · next hc =>
      rw [List.mem_cons, not_or]
      constructor
      · rintro rfl
        exact absurd hc (by decide)
      · intro hmem
        have hcontinues := List.all_eq_true.1 List.all_takeWhile _ hmem
        exact absurd hcontinues (by decide)
    · exact List.not_mem_nil

/-- **No name** that is read off a line has an opening brace. -/
theorem opening_notMem_name (line : Text) : '{' ∉ name line := by
  rw [name]
  split
  · exact opening_notMem_connectionName _
  · exact opening_notMem_leadingIdentifier _

end Header

/-- The name of a **statement** has no opening brace. -/
theorem Statement.opening_notMem_name (statement : Statement) (index : Nat) :
    '{' ∉ statement.name index := by
  have hwords : '{' ∉ "block-".toList ++ "line-".toList := by decide
  unfold Statement.name
  split
  · intro hmem
    rcases of_mem_placeName hmem with hword | hdigit
    · exact hwords hword
    · cases hdigit
  · exact Header.opening_notMem_name statement.first

namespace Header

open Text Keyword

/-! ## Headers that are names -/

/-- A header is that of a **connection**: a trimmed line with a connection token outside literals,
with no brace outside literals and no literal left open, that does not end in a colon. It begins no
comment, as no letter does, and is no directive. -/
structure IsConnection (header : Text) : Prop where
  /-- There are no blanks at its ends. -/
  tight : Tight header
  /-- It is one line. -/
  newline_notMem : '\n' ∉ header
  /-- It begins no comment. -/
  head?_ne : header.head? ≠ some '#'
  /-- A connection token stands outside its literals. -/
  connects : hasBareConnection header = true
  /-- All its braces stand inside literals, and all its literals are closed. -/
  quiet : Braces.Quiet header
  /-- It does not end in a colon. -/
  getLast?_ne : header.getLast? ≠ some ':'
  /-- It is no directive. -/
  isDirective : Keyword.isDirective header = false

/-- What may stand **between** a header and the brace of its body: blanks, with a colon among them or
without one. -/
inductive IsJoint : Text → Prop where
  /-- Nothing but blanks. -/
  | blanks {gap : Text} : isAllBlank gap = true → '\n' ∉ gap → IsJoint gap
  /-- A colon between blanks. -/
  | colon {gap gap' : Text} : isAllBlank gap = true → '\n' ∉ gap → isAllBlank gap' = true →
    '\n' ∉ gap' → IsJoint (gap ++ ':' :: gap')

variable {header joint : Text}

/-- A joint is **blanks and colons**, on one line. -/
theorem IsJoint.mem_cases (h : IsJoint joint) {c : Char} (hc : c ∈ joint) :
    (isBlank c = true ∨ c = ':') ∧ c ≠ '\n' := by
  cases h with
  | blanks hgap hline => exact ⟨.inl (isAllBlank_iff.1 hgap c hc), fun heq => hline (heq ▸ hc)⟩
  | colon hgap hline hgap' hline' =>
    obtain hc | hc := List.mem_append.1 hc
    · exact ⟨.inl (isAllBlank_iff.1 hgap c hc), fun heq => hline (heq ▸ hc)⟩
    · obtain rfl | hc := List.mem_cons.1 hc
      · exact ⟨.inr rfl, by decide⟩
      · exact ⟨.inl (isAllBlank_iff.1 hgap' c hc), fun heq => hline' (heq ▸ hc)⟩

/-- A joint is **quiet**. -/
theorem IsJoint.quiet (h : IsJoint joint) : Braces.Quiet joint := by
  refine .of_forall ?_
  intro c hc
  obtain hblank | rfl := (h.mem_cases hc).1
  · exact Braces.quiet_of_isBlank hblank
  · decide

/-- A joint has **no brace**. -/
theorem IsJoint.opening_notMem (h : IsJoint joint) : '{' ∉ joint := by
  intro hmem
  obtain hblank | hcolon := (h.mem_cases hmem).1
  · exact absurd hblank (by decide)
  · exact absurd hcolon (by decide)

/-- A header that does not end in a colon is the name of a connection **with any joint** behind it,
if it has no opening brace. -/
theorem connectionName_append_joint (htight : Tight header) (hlast : header.getLast? ≠ some ':')
    (hbrace : '{' ∉ header) (hjoint : IsJoint joint) : connectionName (header ++ joint) = header := by
  have hstays : ∀ c ∈ header.getLast?, (c == ':') = false := by
    intro c hc
    refine beq_eq_false_iff_ne.2 ?_
    rintro rfl
    exact hlast hc
  have hdrop : dropEndWhile (· == ':') header = header := dropEndWhile_eq_self hstays
  cases hjoint with
  | blanks hgap hline =>
    rw [connectionName, trim_append_right hgap, htight.trim_eq, withoutBodies_eq_self hbrace, hdrop,
      htight.trim_eq]
  | @colon gap gap' hgap hline hgap' hline' =>
    have hcolon : Tight (header ++ gap ++ [':']) := htight.append (.singleton (by decide)) gap
    have htrim : trim (header ++ (gap ++ ':' :: gap')) = header ++ gap ++ [':'] := by
      have hsplit : header ++ (gap ++ ':' :: gap') = header ++ gap ++ [':'] ++ gap' := by
        simp only [List.append_assoc, List.cons_append, List.nil_append]
      rw [hsplit, trim_append_right hgap', hcolon.trim_eq]
    have hnone : '{' ∉ header ++ gap ++ [':'] := by
      have hfront : '{' ∉ gap := (IsJoint.blanks hgap hline).opening_notMem
      simp [hbrace, hfront]
    -- the colon goes, and then the blanks that stood before it
    have hkept : dropEndWhile (· == ':') (header ++ gap) = header ++ gap := by
      refine dropEndWhile_eq_self ?_
      intro c hc
      rw [List.getLast?_append] at hc
      cases hgapLast : gap.getLast? with
      | none =>
        rw [hgapLast, Option.none_or] at hc
        exact hstays c hc
      | some d =>
        rw [hgapLast, Option.some_or] at hc
        cases hc
        have hblank := isAllBlank_iff.1 hgap c (List.mem_of_getLast? hgapLast)
        refine beq_eq_false_iff_ne.2 ?_
        rintro rfl
        exact absurd hblank (by decide)
    have hends : ∀ c ∈ [':'], (c == ':') = true := List.forall_mem_singleton.2 rfl
    rw [connectionName, htrim, withoutBodies_eq_self hnone, dropEndWhile_append hends, hkept,
      trim_append_right hgap, htight.trim_eq]

/-- The name of a header **alone**. -/
theorem IsConnection.name_eq (h : IsConnection header) : name header = connectionName header := by
  have hhead : head header = header := by
    rw [head, h.tight.trim_eq, beforeBody_of_quiet h.quiet]
  have hconnection : hasConnection (head header) = true := by
    rw [hhead]
    exact hasConnection_of_hasBareConnection h.connects
  rw [name_of_hasConnection hconnection, hhead]

/-- The name of a header **with a body** is read off what stands before the brace. -/
theorem IsConnection.name_append (h : IsConnection header) (hjoint : IsJoint joint) (tail : Text) :
    name (header ++ joint ++ '{' :: tail) = connectionName (header ++ joint) := by
  have hquiet : Braces.Quiet (header ++ joint) := h.quiet.append hjoint.quiet
  have hstart : trimStart (header ++ joint ++ '{' :: tail) = header ++ joint ++ '{' :: tail := by
    refine trimStart_eq_self ?_
    intro c hc
    rw [List.append_assoc, List.head?_append,
      Option.or_of_isSome (List.isSome_head?.2 h.tight.ne_nil)] at hc
    exact h.tight.head c hc
  have htrim : trim (header ++ joint ++ '{' :: tail) = header ++ joint ++ '{' :: trimEnd tail := by
    rw [trim, hstart, trimEnd, dropEndWhile_append_cons (by decide), trimEnd]
  have hnone : ∀ placed ∈ Braces.ofLine (header ++ joint), placed.brace = .closing := by
    rw [Braces.ofLine, hquiet.scan]
    exact fun _ hmem => absurd hmem List.not_mem_nil
  have hhead : head (header ++ joint ++ '{' :: tail) = header ++ joint := by
    rw [head, htrim, beforeBody, Braces.find?_opening hquiet.after hnone]
    exact List.take_left
  have hconnection : hasConnection (head (header ++ joint ++ '{' :: tail)) = true := by
    rw [hhead]
    exact hasConnection_of_isInfix (List.prefix_append header joint).isInfix
      (hasConnection_of_hasBareConnection h.connects)
  rw [name_of_hasConnection hconnection, hhead]

/-- A line that begins with a header is **not skipped**. -/
theorem IsConnection.isSkipped_append (h : IsConnection header) (rest : Text) :
    isSkipped (header ++ rest) = false := by
  obtain ⟨c, more, rfl⟩ := List.exists_cons_of_ne_nil h.tight.ne_nil
  have hskip := DiagramOutline.isSkipped_append isAllBlank_nil (h.tight.head c rfl) (more ++ rest)
  rw [List.nil_append] at hskip
  rw [List.cons_append, hskip, beq_eq_false_iff_ne]
  rintro rfl
  exact h.head?_ne rfl

end Header

/-- A text that begins with part of a line **has it first** in its first line. -/
theorem Text.exists_lines_append {front : Text} (h : '\n' ∉ front) (rest : Text) :
    ∃ first more, (front ++ rest).lines = (front ++ first) :: more ∧ rest.lines = first :: more := by
  induction front with
  | nil =>
    obtain ⟨first, more, hlines⟩ := List.exists_cons_of_ne_nil (lines_ne_nil rest)
    exact ⟨first, more, hlines, hlines⟩
  | cons c front ih =>
    rw [List.mem_cons, not_or] at h
    obtain ⟨first, more, hfront, hrest⟩ := ih h.2
    obtain ⟨line, others, hlines, hcons⟩ := lines_cons_of_ne (Ne.symm h.1) (front ++ rest)
    rw [hfront, List.cons.injEq] at hlines
    refine ⟨first, more, ?_, hrest⟩
    rw [List.cons_append, hcons, ← hlines.1, ← hlines.2, List.cons_append]

namespace Outline

variable {header : Text}

/-- No block at the top of an outline has a **name with an opening brace**. -/
theorem opening_notMem_name_of_mem_plain {source : Text} {block : Block}
    (h : block ∈ plain source) : '{' ∉ block.name := by
  obtain ⟨statement, -, index, rfl⟩ :=
    exists_statement_of_mem_allBlocks (Block.mem_withoutDirectives.1 h).1
  exact statement.opening_notMem_name index

/-- The outline of a source whose **first line** names a statement that is no directive begins with
the block of that statement. -/
theorem exists_plain_eq_cons {source first : Text} {more : List Text}
    (hlines : source.lines = first :: more) (hskip : isSkipped first = false)
    (hname : Header.name first ≠ []) (hdirective : Keyword.isDirective (Header.name first) = false) :
    ∃ block later, plain source = block :: later ∧ block.name = Header.name first ∧
      (more = [] → later = []) := by
  have hstatement : ∀ statement : Statement, statement.first = first →
      statement.name 0 = Header.name first := by
    rintro statement rfl
    unfold Statement.name
    split
    · next hnil => exact absurd hnil hname
    · rfl
  have hstatements : statements 0 source.lines =
      ⟨0, first, (splitStatement first more).1⟩ ::
        statements (0 + 1 + (splitStatement first more).1.length) (splitStatement first more).2 := by
    rw [hlines, statements, hskip, if_neg Bool.false_ne_true]
  have hall := allBlocks_eq source
  rw [hstatements, List.zipIdx_cons, List.map_cons] at hall
  have hblock : (blockOf source ⟨0, first, (splitStatement first more).1⟩ 0).isDirective = false := by
    rw [Block.isDirective, blockOf, hstatement _ rfl, hdirective]
  rw [plain, hall, Block.withoutDirectives,
    List.filter_cons_of_pos (by rw [hblock]; rfl)]
  refine ⟨_, _, rfl, hstatement _ rfl, ?_⟩
  rintro rfl
  -- no line is left behind the only one
  have hsplit := splitStatement_append first []
  rw [List.append_eq_nil_iff] at hsplit
  rw [hsplit.2, statements]
  rfl

/-- **Which headers name their blocks.** A line that is the header of a connection is one block, and
so is such a header with a body behind it, whatever stands in the body. Either block is the first of
its outline and has exactly the header for a name, quoted text included, if and only if no opening
brace stands in the header, quoted or not. -/
theorem named_by_header_iff (h : Header.IsConnection header) :
    ((∃ block, plain header = [block] ∧ block.name = header) ↔ '{' ∉ header) ∧
    ∀ joint tail : Text, Header.IsJoint joint →
      ((∃ block later, plain (header ++ joint ++ '{' :: tail) = block :: later ∧
        block.name = header) ↔ '{' ∉ header) := by
  constructor
  · constructor
    · rintro ⟨block, hplain, hname⟩
      rw [← hname]
      exact opening_notMem_name_of_mem_plain (hplain ▸ List.mem_cons_self)
    · intro hbrace
      have hname : Header.name header = header := by
        have hjoint : Header.IsJoint [] := .blanks Text.isAllBlank_nil List.not_mem_nil
        have hkept := Header.connectionName_append_joint h.tight h.getLast?_ne hbrace hjoint
        rwa [List.append_nil, ← h.name_eq] at hkept
      have hskip := h.isSkipped_append []
      rw [List.append_nil] at hskip
      obtain ⟨block, later, hplain, hblock, hlater⟩ :=
        exists_plain_eq_cons (Text.lines_of_newline_notMem h.newline_notMem) hskip
          (by rw [hname]; exact h.tight.ne_nil) (by rw [hname]; exact h.isDirective)
      rw [hlater rfl] at hplain
      exact ⟨block, hplain, by rw [hblock, hname]⟩
  · intro joint tail hjoint
    constructor
    · rintro ⟨block, later, hplain, hname⟩
      rw [← hname]
      exact opening_notMem_name_of_mem_plain (hplain ▸ List.mem_cons_self)
    · intro hbrace
      have hfront : '\n' ∉ header ++ joint ++ ['{'] := by
        have hnewline : '\n' ∉ joint := fun hmem => (hjoint.mem_cases hmem).2 rfl
        simp [h.newline_notMem, hnewline]
      obtain ⟨first, more, hlines, -⟩ := Text.exists_lines_append hfront tail
      rw [List.append_assoc _ ['{'], List.append_assoc _ ['{'], List.singleton_append,
        List.singleton_append] at hlines
      have hname : Header.name (header ++ joint ++ '{' :: first) = header := by
        rw [h.name_append hjoint,
          Header.connectionName_append_joint h.tight h.getLast?_ne hbrace hjoint]
      have hskip := h.isSkipped_append (joint ++ '{' :: first)
      rw [← List.append_assoc] at hskip
      obtain ⟨block, later, hplain, hblock, -⟩ :=
        exists_plain_eq_cons hlines hskip
          (by rw [hname]; exact h.tight.ne_nil) (by rw [hname]; exact h.isDirective)
      exact ⟨block, later, hplain, by rw [hblock, hname]⟩

/-- A header that quotes a **closing brace**, a semicolon, a colon and a quote. -/
def quotingHeader : Text := "a.b --> 'c; d': \"up: \\\" \x7d\"".toList

/-- That header **names its blocks**. -/
theorem named_by_quotingHeader :
    Header.IsConnection quotingHeader ∧ '{' ∉ quotingHeader ∧
      (∃ block, plain quotingHeader = [block] ∧ block.name = quotingHeader) ∧
      ∀ joint tail : Text, Header.IsJoint joint →
        ∃ block later, plain (quotingHeader ++ joint ++ '{' :: tail) = block :: later ∧
          block.name = quotingHeader := by
  have hheader : Header.IsConnection quotingHeader :=
    ⟨by decide, by decide, by decide, by decide +kernel,
      .of_ofLine_eq_nil (by decide +kernel) (by decide +kernel), by decide, by decide +kernel⟩
  have hbrace : '{' ∉ quotingHeader := by decide
  obtain ⟨hline, hbody⟩ := named_by_header_iff hheader
  exact ⟨hheader, hbrace, hline.2 hbrace, fun joint tail hjoint => (hbody joint tail hjoint).2 hbrace⟩

/-- A header that quotes an **opening brace**. -/
def cutHeader : Text := "a -> b: \"\x7bx\x7d\"".toList

/-- The name of its block is **cut** there, in the middle of a literal. -/
theorem not_named_by_cutHeader :
    Header.IsConnection cutHeader ∧
      (plain cutHeader).map Block.name = ["a -> b: \"".toList] ∧
      ¬ ∃ block, plain cutHeader = [block] ∧ block.name = cutHeader := by
  have hheader : Header.IsConnection cutHeader :=
    ⟨by decide, by decide, by decide, by decide +kernel,
      .of_ofLine_eq_nil (by decide +kernel) (by decide +kernel), by decide, by decide +kernel⟩
  have hnames : (plain cutHeader).map Block.name = ["a -> b: \"".toList] := by decide +kernel
  refine ⟨hheader, hnames, ?_⟩
  rintro ⟨block, hplain, hname⟩
  rw [hplain, List.map_singleton, hname] at hnames
  exact absurd hnames (by decide)

end Outline

end DiagramOutline
