import DiagramOutline.Proofs.Literals
import DiagramOutline.Proofs.Ranges
import DiagramOutline.Proofs.Tallies
import Mathlib.Data.List.Basic

/-! # Connections inside literals

A connection token that stands inside a string literal is plain text, but names and counts are made
without regard to literals. So a statement whose tokens are all inside literals is read like one
without tokens exactly if it has no tokens at all.

* **`Statement.plainName statement index`** — the name of a statement that is no connection.
* **`Outline.ReadsAsPlain source statement index`** — an outline takes a statement for one that is
  no connection.
* **`Metadata.unquoted code`** — the metadata of code in which a line whose tokens are all inside
  literals is no connection.
* **`Metadata.connectionCount_plain`** — the connections of code are its lines with a token.
* **`Metadata.plain_eq_unquoted_iff`** — when the metadata leave literals out.
* **`quoted_tokens_read_plain_iff`** — when both readers do as they should. -/

namespace DiagramOutline

open Keyword

/-! ## Names -/

/-- A head **opens no body**. -/
theorem Header.opens_head (line : Text) : Braces.opens (head line) = false := opens_beforeBody _

namespace Statement

/-- The name of a statement that is **no connection**: the identifier that it starts with, or its
place where it starts with none. -/
def plainName (statement : Statement) (index : Nat) : Text :=
  if leadingIdentifier (Header.head statement.first) = [] then statement.placeName index
  else leadingIdentifier (Header.head statement.first)

/-- A name by place has **no quotes**. -/
theorem isQuote_of_mem_placeName {statement : Statement} {index : Nat} {c : Char}
    (h : c ∈ statement.placeName index) : Quoting.isQuote c = false := by
  have hall : ("block-".toList ++ "line-".toList).all (fun d => !Quoting.isQuote d) = true := by
    decide
  have hwords : ∀ d ∈ "block-".toList ++ "line-".toList, Quoting.isQuote d = false := by
    simpa only [List.all_eq_true, Bool.not_eq_true'] using hall
  rcases of_mem_placeName h with hword | hdigit
  · exact hwords c hword
  · rw [← Bool.not_eq_true, Quoting.isQuote, Bool.or_eq_true, beq_iff_eq, beq_iff_eq]
    rintro (rfl | rfl) <;> cases hdigit

/-- The name of a statement that is no connection has **no quotes**. -/
theorem isQuote_of_mem_plainName {statement : Statement} {index : Nat} {c : Char}
    (h : c ∈ statement.plainName index) : Quoting.isQuote c = false := by
  rw [plainName] at h
  split at h
  · exact isQuote_of_mem_placeName h
  · exact isQuote_of_mem_leadingIdentifier h

/-- A statement that starts with a **directive** and is no connection is named by it. -/
theorem isDirective_plainName {statement : Statement} {index : Nat}
    (h : isDirective (leadingIdentifier (Header.head statement.first)) = true) :
    isDirective (statement.plainName index) = true := by
  have hne : leadingIdentifier (Header.head statement.first) ≠ [] := by
    intro hnil
    rw [hnil] at h
    cases h
  rwa [plainName, if_neg hne]

/-- A statement without a token in its head is **named as such**. -/
theorem name_eq_plainName {statement : Statement}
    (h : hasConnection (Header.head statement.first) = false) (index : Nat) :
    statement.name index = statement.plainName index := by
  rw [name, Header.name_of_not_hasConnection h, plainName]
  split
  · next hnil => rw [if_pos hnil]
  · next hne => rw [if_neg fun hnil => hne hnil]

/-- A statement with tokens in its head, all inside literals, is **not**: its name has a quote. -/
theorem name_ne_plainName {statement : Statement}
    (h : hasConnection (Header.head statement.first) = true)
    (hbare : hasBareConnection (Header.head statement.first) = false) (index : Nat) :
    statement.name index ≠ statement.plainName index := by
  obtain ⟨quote, hmem, hquote⟩ := Header.exists_isQuote_connectionName
    (Header.opens_head statement.first) (exists_isQuote_of_hasConnection h hbare)
  have hkept : statement.name index = Header.connectionName (Header.head statement.first) := by
    rw [name, Header.name_of_hasConnection h]
    split
    · next hnil =>
      rw [hnil] at hmem
      cases hmem
    · rfl
  intro heq
  rw [← hkept, heq] at hmem
  rw [isQuote_of_mem_plainName hmem] at hquote
  cases hquote

end Statement

namespace Outline

/-! ## Blocks -/

/-- An outline **reads a statement as no connection**: its block has the name of such a statement,
and is left out if that is a directive. -/
structure ReadsAsPlain (source : Text) (statement : Statement) (index : Nat) : Prop where
  /-- The block is named by the identifier, or by its place. -/
  name : (blockOf source statement index).name = statement.plainName index
  /-- With a directive for the identifier, no block of the outline covers the first line. -/
  left_out : isDirective (leadingIdentifier (Header.head statement.first)) = true →
    ∀ block ∈ plain source, ¬ block.Covers statement.line

/-- The block of a statement is one of **all blocks**. -/
theorem blockOf_mem_allBlocks {source : Text} {statement : Statement} {index : Nat}
    (h : (statements 0 source.lines)[index]? = some statement) :
    blockOf source statement index ∈ allBlocks source := by
  rw [allBlocks_eq, List.mem_map]
  exact ⟨(statement, index), List.mem_zipIdx_iff_getElem?.2 h, rfl⟩

/-- A statement whose tokens are all inside literals is read as no connection **exactly if it has no
tokens**. -/
theorem readsAsPlain_iff {source : Text} {statement : Statement} {index : Nat}
    (hget : (statements 0 source.lines)[index]? = some statement)
    (hbare : hasBareConnection (Header.head statement.first) = false) :
    ReadsAsPlain source statement index ↔
      hasConnection (Header.head statement.first) = false := by
  constructor
  · intro h
    rw [← Bool.not_eq_true]
    intro htoken
    exact Statement.name_ne_plainName htoken hbare index h.name
  · intro h
    refine ⟨Statement.name_eq_plainName h index, ?_⟩
    intro hdirective block hblock hcovers
    obtain ⟨hmem, hkept⟩ := Block.mem_withoutDirectives.1 hblock
    -- the block on that line is the one of the statement
    have hfirst : (blockOf source statement index).Covers statement.line :=
      ⟨Int.le_refl _, Int.ofNat_le.2 (Nat.le_add_right _ _)⟩
    have hsame : block = blockOf source statement index :=
      (inOrder_allBlocks source).eq_of_covers hmem (blockOf_mem_allBlocks hget) hcovers hfirst
    have hname : block.name = statement.plainName index := by
      rw [hsame]
      exact Statement.name_eq_plainName h index
    rw [hname, Statement.isDirective_plainName hdirective] at hkept
    cases hkept

/-- A body of statements that start with **directives** and have no tokens has no children. -/
theorem childrenOf_eq_none {source : Text} {statement : Statement} {interior : Interior}
    (hinterior : statement.interior? = some interior)
    (h : ∀ inner ∈ statements 0 interior.text.lines,
      isDirective (leadingIdentifier (Header.head inner.first)) = true ∧
        hasConnection (Header.head inner.first) = false) :
    childrenOf source statement = none := by
  have hplain : plain interior.text = [] := by
    rw [List.eq_nil_iff_forall_not_mem]
    intro block hblock
    obtain ⟨hmem, hkept⟩ := Block.mem_withoutDirectives.1 hblock
    obtain ⟨inner, hinner, index, rfl⟩ := exists_statement_of_mem_allBlocks hmem
    obtain ⟨hdirective, htoken⟩ := h inner hinner
    have hname : (blockOf interior.text inner index).name = inner.plainName index :=
      Statement.name_eq_plainName htoken index
    rw [hname, Statement.isDirective_plainName hdirective] at hkept
    cases hkept
  rw [childrenOf, hinterior, Option.bind_some, hplain]
  rfl

end Outline

/-! ## Counts -/

namespace Braces

/-- The pieces between braces are **parts** of the text, and the first one is a start of it. -/
theorem segmentsFrom_parts (state : Quoting) (text : Text) :
    (∀ first ∈ (segmentsFrom state text).head?, first <+: text) ∧
      ∀ segment ∈ segmentsFrom state text, segment <:+: text := by
  induction text generalizing state with
  | nil => simp [segmentsFrom]
  | cons c rest ih =>
    obtain ⟨hfirst, hall⟩ := ih (state.next c)
    have hmore : ∀ segment ∈ segmentsFrom (state.next c) rest, segment <:+: c :: rest :=
      fun segment hmem => List.infix_cons (hall segment hmem)
    rw [segmentsFrom]
    split
    -- a brace ends the piece before it, which is empty here
    · simp only [List.head?_cons, Option.mem_some_iff, List.forall_mem_cons]
      exact ⟨fun first heq => heq ▸ List.nil_prefix, List.nil_prefix.isInfix, hmore⟩
    · generalize segmentsFrom (state.next c) rest = segments at hfirst hmore
      cases segments with
      | nil =>
        have hsingle : [c] <+: c :: rest := (List.prefix_cons_inj c).2 List.nil_prefix
        simpa using hsingle.isInfix
      | cons segment more =>
        obtain ⟨-, hrest⟩ := List.forall_mem_cons.1 hmore
        have hgrown : c :: segment <+: c :: rest := (List.prefix_cons_inj c).2 (hfirst segment rfl)
        simp only [List.head?_cons, Option.mem_some_iff, List.forall_mem_cons]
        exact ⟨fun first heq => heq ▸ hgrown, hgrown.isInfix, hrest⟩

end Braces

namespace Metadata

/-- The keys of a line that is **no connection**: one for each piece between braces that has
text. -/
def plainKeys (line : Text) : List Text :=
  (((Braces.segments line).map Text.trim).filter fun segment => !segment.isEmpty).map
    leadingIdentifier

/-- The tally and the depth after a trimmed line that is **no connection**. -/
def readPlain (state : Tally × Nat) (line : Text) : Tally × Nat :=
  let braces := (Braces.ofLine line).map (·.brace)
  let (tally, depth) := braces.foldl readBrace state
  let tally := (plainKeys line).foldl Tally.noteKey tally
  if depth = 0 ∨ depth = 1 ∧ .opening ∈ braces then
    (tally.addShape (leadingIdentifier line), depth)
  else (tally, depth)

/-- The tally and the depth after a line, when a line whose tokens are all inside literals is **no
connection**. -/
def readUnquoted (state : Tally × Nat) (line : Text) : Tally × Nat :=
  if isSkipped line then state
  else if hasBareConnection (Text.trim line) then readLine state line
  else readPlain state (Text.trim line)

/-- The **metadata** of code, when a line whose tokens are all inside literals is no connection. -/
def unquoted (code : Text) : Metadata := ((code.lines.foldl readUnquoted ({}, 0)).1).metadata code

/-- A line without tokens has **every key** of its pieces. -/
theorem keys_eq_plainKeys {line : Text} (h : hasConnection line = false) :
    keys line = plainKeys line := by
  rw [keys, plainKeys]
  congr 1
  refine List.filter_congr ?_
  intro segment hmem
  obtain ⟨piece, hpiece, rfl⟩ := List.mem_map.1 hmem
  have hpart : Text.trim piece <:+: line := by
    obtain ⟨before, after, heq, -, -⟩ := Text.exists_eq_append_trim_append piece
    have htrim : Text.trim piece <:+: piece := ⟨before, after, heq.symm⟩
    exact List.IsInfix.trans htrim ((Braces.segmentsFrom_parts .outside line).2 piece hpiece)
  have htoken : hasConnection (Text.trim piece) = false := by
    rw [← Bool.not_eq_true] at h ⊢
    exact fun hpiece => h (hasConnection_of_isInfix hpart hpiece)
  rw [htoken, Bool.not_false, Bool.and_true]

/-- A line without tokens is **read as no connection**. -/
theorem readStatement_eq_readPlain {line : Text} (h : hasConnection line = false)
    (state : Tally × Nat) : readStatement state line = readPlain state line := by
  simp [readStatement, readPlain, h, keys_eq_plainKeys h]

/-! ## Counting connections -/

/-- Whether a line **counts as a connection**: it is not skipped and holds a token. -/
def connects (line : Text) : Bool := !isSkipped line && hasConnection (Text.trim line)

/-- Whether a line holds a token **outside its literals**, and is not skipped. -/
def connectsBare (line : Text) : Bool := !isSkipped line && hasBareConnection (Text.trim line)

/-- A shape makes **no connection**. -/
theorem connections_addShape (tally : Tally) (name : Text) :
    (tally.addShape name).connections = tally.connections := by
  unfold Tally.addShape
  split <;> rfl

/-- A line that is no connection makes **none**. -/
theorem connections_readPlain (state : Tally × Nat) (line : Text) :
    (readPlain state line).1.connections = state.1.connections := by
  obtain ⟨reached, hbraces⟩ :=
    exists_foldl_readBrace ((Braces.ofLine line).map (·.brace)) state
  simp only [readPlain, hbraces, foldl_noteKey]
  split
  · rw [connections_addShape]
  · rfl

/-- A line that holds a token makes **one connection**, and any other line none. -/
theorem connections_readLine (state : Tally × Nat) (line : Text) :
    (readLine state line).1.connections =
      state.1.connections + if connects line then 1 else 0 := by
  by_cases hskip : isSkipped line = true
  · rw [readLine_of_isSkipped hskip, connects, hskip]
    rfl
  · rw [Bool.not_eq_true] at hskip
    rw [readLine_of_not_isSkipped hskip, connects, hskip, Bool.not_false, Bool.true_and]
    by_cases htoken : hasConnection (Text.trim line) = true
    · obtain ⟨reached, hbraces⟩ :=
        exists_foldl_readBrace ((Braces.ofLine (Text.trim line)).map (·.brace)) state
      rw [readStatement_eq hbraces, foldl_noteKey, htoken]
      rfl
    · rw [Bool.not_eq_true] at htoken
      rw [readStatement_eq_readPlain htoken, connections_readPlain, htoken]
      rfl

/-- When literals are left out, a line that holds a **bare** token makes one connection, and any
other line none. -/
theorem connections_readUnquoted (state : Tally × Nat) (line : Text) :
    (readUnquoted state line).1.connections =
      state.1.connections + if connectsBare line then 1 else 0 := by
  by_cases hskip : isSkipped line = true
  · rw [readUnquoted, if_pos hskip, connectsBare, hskip]
    rfl
  · by_cases hbare : hasBareConnection (Text.trim line) = true
    · have htoken : hasConnection (Text.trim line) = true :=
        hasConnection_of_hasBareConnection hbare
      rw [readUnquoted, if_neg hskip, if_pos hbare, connections_readLine, connects, connectsBare,
        htoken, hbare]
    · rw [readUnquoted, if_neg hskip, if_neg hbare, connections_readPlain, connectsBare,
        Bool.eq_false_iff.2 hbare, Bool.and_false]
      rfl

/-- Where each line makes one connection or none, the connections that are **counted in lines** are
the lines that make one. -/
theorem connections_foldl {read : Tally × Nat → Text → Tally × Nat} {counts : Text → Bool}
    (hread : ∀ state line, (read state line).1.connections =
      state.1.connections + if counts line then 1 else 0) (state : Tally × Nat)
    (lines : List Text) :
    (lines.foldl read state).1.connections = state.1.connections + lines.countP counts := by
  induction lines generalizing state with
  | nil => rfl
  | cons line more ih =>
    rw [List.foldl_cons, ih, hread, List.countP_cons, Nat.add_assoc,
      Nat.add_comm (if counts line then 1 else 0)]

/-- The **connection count** of code is the number of its lines with a token. -/
theorem connectionCount_plain (code : Text) :
    (plain code).connectionCount = code.lines.countP connects := by
  show (code.lines.foldl readLine ({}, 0)).1.connections = _
  rw [connections_foldl connections_readLine]
  exact Nat.zero_add _

/-- When literals are left out, it is the number of its lines with a **bare** token. -/
theorem connectionCount_unquoted (code : Text) :
    (unquoted code).connectionCount = code.lines.countP connectsBare := by
  show (code.lines.foldl readUnquoted ({}, 0)).1.connections = _
  rw [connections_foldl connections_readUnquoted]
  exact Nat.zero_add _

/-- If a test that follows from another one holds of **no more** lines than that, the two agree. -/
theorem of_countP_eq {p q : Text → Bool} (himp : ∀ line, q line = true → p line = true)
    {lines : List Text} (h : lines.countP p = lines.countP q) :
    ∀ line ∈ lines, p line = true → q line = true := by
  induction lines with
  | nil => exact fun _ hmem => absurd hmem List.not_mem_nil
  | cons first more ih =>
    have hle : more.countP q ≤ more.countP p := List.countP_mono_left fun line _ => himp line
    rw [List.countP_cons, List.countP_cons] at h
    rw [List.forall_mem_cons]
    constructor
    · intro hp
      by_contra hq
      rw [if_pos hp, if_neg hq] at h
      omega
    · refine ih ?_
      by_cases hq : q first = true
      · rw [if_pos hq, if_pos (himp first hq)] at h
        omega
      · rw [if_neg hq] at h
        omega

/-- A line with a bare token **counts as a connection**. -/
theorem connects_of_connectsBare {line : Text} (h : connectsBare line = true) :
    connects line = true := by
  rw [connectsBare, Bool.and_eq_true] at h
  rw [connects, Bool.and_eq_true]
  exact ⟨h.1, hasConnection_of_hasBareConnection h.2⟩

/-- A line is **read the same** when literals are left out, unless it holds tokens and all of them
are inside literals. -/
theorem readLine_eq_readUnquoted {line : Text}
    (h : isSkipped line = false → hasBareConnection (Text.trim line) = false →
      hasConnection (Text.trim line) = false) (state : Tally × Nat) :
    readLine state line = readUnquoted state line := by
  by_cases hskip : isSkipped line = true
  · rw [readLine_of_isSkipped hskip, readUnquoted, if_pos hskip]
  · by_cases hbare : hasBareConnection (Text.trim line) = true
    · rw [readUnquoted, if_neg hskip, if_pos hbare]
    · rw [readUnquoted, if_neg hskip, if_neg hbare]
      rw [Bool.not_eq_true] at hskip hbare
      rw [readLine_of_not_isSkipped hskip, readStatement_eq_readPlain (h hskip hbare)]

/-- **Metadata leave literals out** exactly if every line whose tokens are all inside literals has
no tokens. -/
theorem plain_eq_unquoted_iff (code : Text) :
    plain code = unquoted code ↔
      ∀ line ∈ code.lines, isSkipped line = false →
        hasBareConnection (Text.trim line) = false → hasConnection (Text.trim line) = false := by
  constructor
  -- a token inside a literal would be counted, and not when literals are left out
  · intro h line hmem hskip hbare
    have hcounts : code.lines.countP connects = code.lines.countP connectsBare := by
      rw [← connectionCount_plain, ← connectionCount_unquoted, h]
    rw [← Bool.not_eq_true]
    intro htoken
    have hconnects := of_countP_eq (fun _ => connects_of_connectsBare) hcounts line hmem
      (by simp [connects, hskip, htoken])
    rw [connectsBare, hbare, Bool.and_false] at hconnects
    cases hconnects
  -- every line is read the same
  · intro h
    have hfold : code.lines.foldl readLine ({}, 0) = code.lines.foldl readUnquoted ({}, 0) := by
      apply List.foldl_ext
      intro state line hmem
      exact readLine_eq_readUnquoted (h line hmem) state
    rw [plain, unquoted, hfold]

end Metadata

/-- **When quoted text makes no connection.**

Take a statement whose connection tokens all stand inside literals. Its block is named by the
identifier at its start, or by its place, and left out for a directive, exactly if its head holds no
token at all. So a body has no children if all its statements start with directives and have heads
without tokens. The metadata of code count no such line as a connection, but its identifier and its
keys, exactly if no such line holds a token. -/
theorem quoted_tokens_read_plain_iff (source : Text) :
    (∀ statement index, (statements 0 source.lines)[index]? = some statement →
      hasBareConnection (Header.head statement.first) = false →
        (Outline.ReadsAsPlain source statement index ↔
          hasConnection (Header.head statement.first) = false)) ∧
    (∀ (statement : Statement) (interior : Interior), statement.interior? = some interior →
      (∀ inner ∈ statements 0 interior.text.lines,
        isDirective (leadingIdentifier (Header.head inner.first)) = true ∧
          hasConnection (Header.head inner.first) = false) →
        Outline.childrenOf source statement = none) ∧
    (Metadata.plain source = Metadata.unquoted source ↔
      ∀ line ∈ source.lines, isSkipped line = false →
        hasBareConnection (Text.trim line) = false → hasConnection (Text.trim line) = false) :=
  ⟨fun _ _ => Outline.readsAsPlain_iff, fun _ _ => Outline.childrenOf_eq_none,
    Metadata.plain_eq_unquoted_iff source⟩

/-- A body with a label that **quotes** an arrow. -/
def quotedArrowSource : Text := "a \x7b\n  label: \"x -> y\"\n\x7d".toList

/-- The label counts as a **connection**, and its statement as a child. -/
theorem quotedArrow_makes_connection :
    hasBareConnection "label: \"x -> y\"".toList = false ∧
      (Outline.plain quotedArrowSource).map (·.children.isSome) = [true] ∧
        (Metadata.plain quotedArrowSource).connectionCount = 1 ∧
          Metadata.plain quotedArrowSource ≠ Metadata.unquoted quotedArrowSource := by
  decide +kernel

end DiagramOutline
