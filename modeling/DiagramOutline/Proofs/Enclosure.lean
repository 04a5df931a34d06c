import DiagramOutline.Proofs.Diagram.Heads
import DiagramOutline.Proofs.Headers
import DiagramOutline.Proofs.Keywords
import DiagramOutline.Proofs.Relocation
import DiagramOutline.Proofs.Spans

/-! # Texts in a body

A text that is put into a body becomes its interior: the blocks of the text are the children of the
one block around it, a line further on. For that neither the lines nor the braces of the text may
close the body in which they stand, and they have to close all bodies of their own. The reader that
counts braces line by line and the one that looks for the closing brace pass over such a text
together.

* **`Braces.splitBody_append_of_keepOpen`**, **`Braces.linesToClosing_append_of_keepOpen`** — the
  two readers pass over lines that keep a body open.
* **`Outline.enclosed name body`** — the text of a body that has a name and holds `body`.
* **`Outline.Encloses body`** — `body` may stand in a body.
* **`Outline.plain_enclosed`** — the outline of a text in a body. -/

namespace DiagramOutline

namespace Keyword

/-- Whether a word is an **identifier**: its first character begins one, and the others go on with
it. -/
def isIdentifier : Text → Bool
  | [] => false
  | c :: rest => startsIdentifier c && rest.all continuesIdentifier

/-- A character of an identifier is **none that no identifier has**. -/
theorem ne_of_mem_identifier {word : Text} (h : isIdentifier word = true) {c d : Char}
    (hc : c ∈ word) (hstarts : startsIdentifier d = false)
    (hcontinues : continuesIdentifier d = false) : c ≠ d := by
  rintro rfl
  cases word with
  | nil => cases hc
  | cons first rest =>
    rw [isIdentifier, Bool.and_eq_true, List.all_eq_true] at h
    obtain rfl | hrest := List.mem_cons.1 hc
    · exact absurd h.1 (by rw [hstarts]; exact Bool.false_ne_true)
    · exact absurd (h.2 c hrest) (by rw [hcontinues]; exact Bool.false_ne_true)

/-- An identifier is **quiet**. -/
theorem quiet_of_isIdentifier {word : Text} (h : isIdentifier word = true) :
    Braces.Quiet word := by
  refine .of_forall ?_
  intro c hc
  have hne : ∀ d, startsIdentifier d = false → continuesIdentifier d = false → c ≠ d :=
    fun _ => ne_of_mem_identifier h hc
  exact Braces.quiet_of_ne (hne _ (by decide) (by decide)) (hne _ (by decide) (by decide))
    (hne _ (by decide) (by decide)) (hne _ (by decide) (by decide))

end Keyword

namespace Braces

/-! ## Lines that keep a body open -/

/-- Lines that keep a body open stand **inside** the statement that opened it. -/
theorem splitBody_append_of_keepOpen {depth : Nat} {lines : List Text}
    (h : closing? depth (ofLines 0 lines) = none) (rest : List Text) :
    splitBody (depth + 1) (lines ++ rest) =
      (lines ++ (splitBody (depth + 1 + (lines.map delta).sum) rest).1,
        (splitBody (depth + 1 + (lines.map delta).sum) rest).2) := by
  induction lines generalizing depth with
  | nil => simp
  | cons line more ih =>
    obtain ⟨hline, hmore⟩ := closing?_cons_eq_none_iff.1 h
    have hnonneg := add_delta_nonneg hline
    have hinner : (depth : Int) + 1 + delta line = ((depth + delta line).toNat : Int) + 1 := by
      omega
    have hsum : (depth : Int) + 1 + (delta line + (more.map delta).sum) =
        ((depth + delta line).toNat : Int) + 1 + (more.map delta).sum := by
      omega
    rw [List.cons_append, splitBody, if_neg (by omega), hinner, ih hmore, List.map_cons,
      List.sum_cons, hsum, List.cons_append]

/-- Lines that keep a body open stand **before** the brace that closes it. -/
theorem linesToClosing_append_of_keepOpen {depth : Nat} {lines : List Text}
    (h : closing? depth (ofLines 0 lines) = none) (rest : List Text) :
    linesToClosing depth (lines ++ rest) =
      lines ++ linesToClosing (depth + (lines.map delta).sum).toNat rest := by
  induction lines generalizing depth with
  | nil => simp
  | cons line more ih =>
    obtain ⟨hline, hmore⟩ := closing?_cons_eq_none_iff.1 h
    have hnonneg := add_delta_nonneg hline
    have hsum : (depth : Int) + (delta line + (more.map delta).sum) =
        ((depth + delta line).toNat : Int) + (more.map delta).sum := by
      omega
    rw [List.cons_append, linesToClosing_of_none hline, ih hmore, List.map_cons, List.sum_cons,
      hsum, List.cons_append]

end Braces

/-- An interior that starts with **one blank line** loses that one. -/
theorem Interior.trimmed?_unlines_cons {blank first : Text} {more : List Text}
    (hblank : Text.isAllBlank blank = true) (hfirst : Text.isAllBlank first = false)
    (hnewline : ∀ line ∈ blank :: first :: more, '\n' ∉ line) (line : Int) :
    trimmed? ⟨line, Text.unlines (blank :: first :: more)⟩ =
      some ⟨line + 1, Text.unlines (first :: more)⟩ := by
  have hdrop : (blank :: first :: more).dropWhile Text.isAllBlank = first :: more := by
    rw [List.dropWhile_cons_of_pos hblank, List.dropWhile_cons_of_neg]
    rw [hfirst]
    exact Bool.false_ne_true
  rw [trimmed?]
  dsimp only
  rw [Text.lines_unlines (List.cons_ne_nil _ _) hnewline, hdrop]
  dsimp only
  rw [List.length_cons, Nat.add_sub_cancel_left]
  rfl

namespace Outline

/-! ## A text in a body -/

/-- The **line** on which a body with a name opens. -/
def openingLine (name : Text) : Text := name ++ [' ', '{']

/-- The text of a **body with a name** that holds another text on lines of its own. -/
def enclosed (name body : Text) : Text := openingLine name ++ '\n' :: (body ++ ['\n', '}'])

/-- The **statement** that a body with a name is. -/
def enclosing (name body : Text) : Statement := ⟨0, openingLine name, body.lines ++ [['}']]⟩

/-- A text may **stand in a body**: its first line is not blank, its braces close no body but those
that they open, and they close all of these. -/
structure Encloses (body : Text) : Prop where
  /-- The first line is not blank. -/
  first : Text.isAllBlank (body.lines.headD []) = false
  /-- The braces keep open the body in which they stand. -/
  keepOpen : Braces.KeepOpen (Braces.ofText body)
  /-- As many braces close a body as open one. -/
  balance : Braces.balance (Braces.ofText body) = 0

/-- The lines of a text that may stand in a body open **as much** as they close. -/
theorem Encloses.sum_delta {body : Text} (h : Encloses body) :
    (body.lines.map Braces.delta).sum = 0 := by
  rw [← Braces.balance_ofLines 0]
  exact h.balance

/-- A text that may stand in a body is **closed**. -/
theorem Encloses.closed {body : Text} (h : Encloses body) : Closed body := by
  intro statement hmem hbody hnone
  obtain ⟨before, after, hlines, hline⟩ := exists_eq_append_of_mem_statements hmem
  rw [Nat.zero_add] at hline
  have hfront : 0 ≤ (before.map Braces.delta).sum := by
    rw [← Braces.balance_ofLines 0]
    refine h.keepOpen _ ?_
    rw [Braces.ofText, hlines, List.append_assoc, Braces.ofLines_append]
    exact List.prefix_append _ _
  have hall := h.sum_delta
  -- the lines before the statement leave no body closed that they do not open, so the others do
  have hlength := congrArg List.length hlines
  rw [List.length_append, List.length_append, Statement.lines, List.length_cons] at hlength
  have hlast : body.lines.length - 1 + 1 = body.lines.length := by omega
  have hbalance : Braces.balanceThrough body.lines statement.line (body.lines.length - 1) ≤ 0 := by
    rw [hlines, List.append_assoc, List.map_append, List.sum_append] at hall
    rw [Braces.balanceThrough, hlast, List.take_length, hlines, List.append_assoc, hline,
      List.drop_left]
    omega
  rw [Braces.closingLine?, List.find?_eq_none] at hnone
  refine hnone (body.lines.length - 1) (List.mem_range'_1.2 (by omega)) ?_
  rw [decide_eq_true_eq]
  exact hbalance

/-- A newline behind a closed text **adds no block**. -/
theorem plain_append_singleton_newline {body : Text} (h : Closed body) :
    plain (body ++ ['\n']) = plain body := by
  have hnone : statements 0 (Text.lines []) = [] :=
    statements_eq_nil (List.forall_mem_singleton.2 rfl) 0
  rw [plain, allBlocks_append_newline h, blocksBehind, hnone, List.zipIdx_nil, List.map_nil,
    List.append_nil, plain]

section OpeningLine

variable {name : Text} (hname : Keyword.isIdentifier name = true)

include hname

/-- What stands before the brace of an opening line is **quiet**. -/
theorem quiet_openingLine : Braces.Quiet (name ++ [' ']) :=
  .append (Keyword.quiet_of_isIdentifier hname) (.singleton (by decide) (by decide))

/-- The only brace of an opening line is its **last** character. -/
theorem ofLine_openingLine :
    Braces.ofLine (openingLine name) = [⟨(name ++ [' ']).length, .opening⟩] := by
  have hlast : openingLine name = name ++ [' '] ++ [Brace.opening.char] := by
    rw [List.append_assoc]
    rfl
  rw [hlast, Braces.ofLine_append_char (quiet_openingLine hname)]

/-- An opening line **opens** a body. -/
theorem opens_openingLine : Braces.opens (openingLine name) = true := by
  rw [Braces.opens, ofLine_openingLine hname]
  rfl

/-- Nothing stands **behind** the brace of an opening line. -/
theorem afterOpening_openingLine : Braces.afterOpening (openingLine name) = [] := by
  have hquiet := quiet_openingLine hname
  have hsplit : openingLine name = (name ++ [' ']) ++ '{' :: [] := by
    rw [List.append_assoc]
    rfl
  have hnone : ∀ placed ∈ Braces.ofLine (name ++ [' ']), placed.brace = .closing := by
    rw [Braces.ofLine, hquiet.scan]
    exact fun _ hmem => absurd hmem List.not_mem_nil
  rw [hsplit, Braces.afterOpening_append hquiet.after hnone]

/-- An opening line starts and ends with **no blank**. -/
theorem tight_openingLine : Text.Tight (openingLine name) := by
  cases name with
  | nil => cases hname
  | cons c rest =>
    rw [Keyword.isIdentifier, Bool.and_eq_true] at hname
    have hblank := Diagram.isBlank_of_isNameChar (Diagram.isNameChar_of_startsIdentifier hname.1)
    have hbrace : Text.Tight ['{'] := .singleton (by decide)
    have hline : openingLine (c :: rest) = [c] ++ (rest ++ [' ']) ++ ['{'] := by
      rw [List.append_assoc, List.append_assoc]
      rfl
    rw [hline]
    exact Text.Tight.append (.singleton hblank) hbrace _

/-- The name in an opening line is the **identifier**, if no connection stands in it. -/
theorem name_openingLine (hconnection : Keyword.hasConnection name = false) :
    Header.name (openingLine name) = name := by
  have hhead : Header.head (openingLine name) = name ++ [' '] := by
    have hsplit : openingLine name = name ++ [' '] ++ ['{'] := by
      rw [List.append_assoc]
      rfl
    rw [Header.head, (tight_openingLine hname).trim_eq, hsplit,
      Header.beforeBody_append_brace (quiet_openingLine hname)]
  have hplain : Keyword.hasConnection (Header.head (openingLine name)) = false := by
    rw [hhead, Keyword.hasConnection_append_cons (by decide), hconnection]
    rfl
  rw [Header.name_of_not_hasConnection hplain, hhead]
  cases name with
  | nil => cases hname
  | cons c rest =>
    rw [Keyword.isIdentifier, Bool.and_eq_true, List.all_eq_true] at hname
    refine Keyword.leadingIdentifier_append hname.1 hname.2 ?_
    rintro d ⟨⟩
    decide

/-- An opening line is **not skipped**. -/
theorem isSkipped_openingLine : isSkipped (openingLine name) = false := by
  rw [isSkipped, (tight_openingLine hname).trim_eq]
  cases name with
  | nil => cases hname
  | cons c rest =>
    rw [Keyword.isIdentifier, Bool.and_eq_true] at hname
    refine beq_eq_false_iff_ne.2 ?_
    rintro rfl
    exact absurd hname.1 (by decide)

/-- The **lines** of a body with a name: the opening line, those of the text, and the brace. -/
theorem lines_enclosed (body : Text) :
    (enclosed name body).lines = openingLine name :: (body.lines ++ [['}']]) := by
  have hnewline : '\n' ∉ openingLine name := by
    intro hmem
    obtain hmem | hmem := List.mem_append.1 hmem
    · exact Keyword.ne_of_mem_identifier hname hmem (by decide) (by decide) rfl
    · exact absurd hmem (by decide)
  have hbehind : body ++ ['\n', '}'] = body ++ '\n' :: ['}'] := rfl
  rw [enclosed, Text.lines_append_newline hnewline, hbehind, Text.lines_append_newline_append]
  rfl

/-- A body with a name is **one statement** of its text. -/
theorem statements_enclosed {body : Text} (h : Encloses body) :
    statements 0 (enclosed name body).lines = [enclosing name body] := by
  have hdelta : Braces.delta (openingLine name) = 1 :=
    Braces.delta_of_ofLine_eq_singleton (ofLine_openingLine hname)
  have hbody := Braces.splitBody_append_of_keepOpen (Braces.keepOpen_iff.1 h.keepOpen) [['}']]
  have hlast : splitBody 1 [['}']] = ([['}']], []) := by decide
  rw [h.sum_delta, Int.natCast_zero, Int.zero_add, Int.add_zero, hlast] at hbody
  have hsplit : splitStatement (openingLine name) (body.lines ++ [['}']]) =
      (body.lines ++ [['}']], []) := by
    rw [splitStatement, Braces.opens_trim, opens_openingLine hname, hdelta]
    exact hbody
  rw [lines_enclosed hname, statements, isSkipped_openingLine hname, if_neg Bool.false_ne_true,
    hsplit, statements]
  rfl

/-- The statement **has a body**. -/
theorem hasBody_enclosing {body : Text} : (enclosing name body).hasBody = true := by
  rw [Statement.hasBody_eq_opens]
  exact opens_openingLine hname

/-- The statement has the **name** in its opening line, if no connection stands there. -/
theorem name_enclosing (hconnection : Keyword.hasConnection name = false) {body : Text} :
    (enclosing name body).name 0 = name := by
  have hheader : Header.name (enclosing name body).first = name :=
    name_openingLine hname hconnection
  cases name with
  | nil => cases hname
  | cons c rest => rw [Statement.name, hheader]

/-- The **lines between the braces** of a body with a name: those of the text, between two that are
empty. -/
theorem innerLines_enclosed {body : Text} (h : Encloses body) :
    (enclosing name body).innerLines = [] :: (body.lines ++ [[]]) := by
  have hsum : (([] :: body.lines).map Braces.delta).sum = 0 := by
    rw [List.map_cons, List.sum_cons, h.sum_delta]
    rfl
  have hopen : Braces.closing? 0 (Braces.ofLines 0 ([] :: body.lines)) = none :=
    Braces.closing?_cons_eq_none_iff.2 ⟨rfl, Braces.keepOpen_iff.1 h.keepOpen⟩
  have hlines := Braces.linesToClosing_append_of_keepOpen hopen [['}']]
  rw [hsum] at hlines
  rw [Statement.innerLines, enclosing, afterOpening_openingLine hname]
  exact hlines

/-- The **interior** of a body with a name is the text in it, with the newline that ends it. -/
theorem interior?_enclosed {body : Text} (h : Encloses body) :
    (enclosing name body).interior? = some ⟨1, body ++ ['\n']⟩ := by
  have hnewline : ∀ line ∈ (enclosing name body).lines, '\n' ∉ line := by
    intro line hmem
    rw [Statement.lines, enclosing, ← lines_enclosed hname] at hmem
    exact Text.newline_notMem_of_mem_lines hmem
  have hinner := Statement.newline_notMem_innerLines hnewline
  have htext : Text.unlines (body.lines ++ [[]]) = body ++ ['\n'] := by
    rw [Text.unlines_append (Text.lines_ne_nil body) (List.cons_ne_nil _ _), Text.unlines_lines]
    rfl
  rw [Statement.interior?_eq hnewline, if_pos (hasBody_enclosing hname)]
  rw [innerLines_enclosed hname h] at hinner ⊢
  have hfirst := h.first
  cases hlines : body.lines with
  | nil => exact absurd hlines (Text.lines_ne_nil body)
  | cons first more =>
    rw [hlines] at hfirst hinner htext
    rw [← htext]
    exact Interior.trimmed?_unlines_cons Text.isAllBlank_nil hfirst hinner 0

/-- The **children** of a body with a name are the blocks of the text in it, a line further on. -/
theorem childrenOf_enclosed {body : Text} (h : Encloses body) :
    childrenOf (enclosed name body) (enclosing name body) =
      if plain body = [] then none else some ((plain body).map (Block.move 1)) := by
  have hplace : (plain body).map (Block.place 1 (enclosed name body).lines) =
      (plain body).map (Block.move 1) := by
    refine List.map_congr_left ?_
    intro block hblock
    rw [lines_enclosed hname]
    exact place_of_mem_allBlocks (Block.mem_withoutDirectives.1 hblock).1 [openingLine name]
      [['}']]
  rw [childrenOf, interior?_enclosed hname h, Option.bind_some,
    plain_append_singleton_newline h.closed, ← hplace, ← Block.placeAll_eq_map]
  cases plain body with
  | nil => rfl
  | cons block more => rfl

/-- **The outline of a text in a body.** A text whose first line is not blank, whose braces close no
body but those that they open, and close all of these, is put into a body with a name that is an
identifier, no directive and no connection. The outline is then one block, which has that name and
all lines. Its children are the blocks of the text itself, each a line further on at every depth and
otherwise unchanged; a text without blocks leaves it without children. -/
theorem plain_enclosed {body : Text} (hdirective : Keyword.isDirective name = false)
    (hconnection : Keyword.hasConnection name = false) (h : Encloses body) :
    plain (enclosed name body) =
      [{ name := name
         code := enclosed name body
         startLine := 0
         endLine := body.lines.length + 1
         label := Label.ofBody (enclosed name body)
         children :=
          if plain body = [] then none else some ((plain body).map (Block.move 1)) }] := by
  have hcode : (enclosing name body).code = enclosed name body := by
    rw [← Text.unlines_lines (enclosed name body), lines_enclosed hname]
    rfl
  have hblock : allBlocks (enclosed name body) =
      [blockOf (enclosed name body) (enclosing name body) 0] := by
    rw [allBlocks_eq, statements_enclosed hname h]
    rfl
  have hlabel : (enclosing name body).label = Label.ofBody (enclosed name body) := by
    rw [Statement.label, hasBody_enclosing hname, if_pos rfl, hcode]
  have hlast : (enclosing name body).lastLine = body.lines.length + 1 := by
    rw [Statement.lastLine, enclosing, List.length_append, Nat.zero_add]
    rfl
  rw [plain, hblock, blockOf, childrenOf_enclosed hname h, name_enclosing hname hconnection, hcode,
    hlabel, hlast, Block.withoutDirectives, List.filter_cons_of_pos, List.filter_nil]
  · rfl
  · rw [Block.isDirective, hdirective]
    rfl

end OpeningLine

/-- A text with a body **inside a body** on one line, with braces in a comment and in a literal, and
with a directive. -/
def heldText : Text :=
  "a: \"x\" \x7b\n  # \x7b \x7d\n  b \x7b c \x7d\n\x7d\nlabel: \"\x7d\"\n\nd".toList

/-- That text **in a body** whose name is dotted: its two blocks are a line further on. -/
theorem plain_enclosed_heldText :
    Keyword.isIdentifier "up.box-1".toList = true ∧
      Keyword.isDirective "up.box-1".toList = false ∧
      Keyword.hasConnection "up.box-1".toList = false ∧ Encloses heldText ∧
      (plain heldText).map (fun block => (block.startLine, block.endLine)) = [(0, 3), (6, 6)] ∧
      plain (enclosed "up.box-1".toList heldText) =
        [{ name := "up.box-1".toList
           code := enclosed "up.box-1".toList heldText
           startLine := 0
           endLine := 8
           label := some "\x7d".toList
           children := some ((plain heldText).map (Block.move 1)) }] := by
  have hname : Keyword.isIdentifier "up.box-1".toList = true := by decide
  have hdirective : Keyword.isDirective "up.box-1".toList = false := by decide
  have hconnection : Keyword.hasConnection "up.box-1".toList = false := by decide
  have hencloses : Encloses heldText :=
    ⟨by decide, Braces.keepOpen_iff.2 (by decide +kernel), by decide +kernel⟩
  have hblocks : plain heldText ≠ [] := by decide +kernel
  have hlabel : Label.ofBody (enclosed "up.box-1".toList heldText) = some "\x7d".toList := by
    decide +kernel
  have houtline := plain_enclosed hname hdirective hconnection hencloses
  rw [hlabel, if_neg hblocks] at houtline
  exact ⟨hname, hdirective, hconnection, hencloses, by decide +kernel, houtline⟩

end Outline

end DiagramOutline
