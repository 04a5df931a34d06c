import DiagramOutline.Proofs.LineByLine
import DiagramOutline.Proofs.Ranges

/-! # Comments

Comments are skipped between statements, but the searches for the end of a statement and for the
brace that closes a body read them like any other line. So a comment in a body is without effect
exactly if its own braces are balanced.

* **`isComment line`** — the first character of `line` that is not blank is a number sign.
* **`Braces.Balanced line`** — the braces of `line` close every body that they open, and no other.
* **`SameOutline`** — two lines are the same, or comments whose braces are balanced; it keeps
  outlines.
* **`Outline.comment_inert_iff`** — which comments may be emptied in every source. -/

namespace DiagramOutline

/-- Whether a line is a **comment**: its first character that is not blank is a number sign. -/
def isComment (line : Text) : Bool := (Text.trim line).head? == some '#'

namespace Braces

/-- The braces of a line are **balanced**: they close every body that they open, and no other. -/
structure Balanced (line : Text) : Prop where
  /-- None of them closes a body that was open before. -/
  closing : closing? 0 (ofLine line) = none
  /-- None of them leaves a body open. -/
  delta : Braces.delta line = 0

instance (line : Text) : Decidable (Balanced line) :=
  decidable_of_iff (closing? 0 (ofLine line) = none ∧ delta line = 0)
    ⟨fun h => ⟨h.1, h.2⟩, fun h => ⟨h.closing, h.delta⟩⟩

/-- Balanced braces close **no body** that was open before, however many there were. -/
theorem Balanced.closing?_eq_none {line : Text} (h : Balanced line) (depth : Nat) :
    closing? depth (ofLine line) = none := by
  have hmore := closing?_add_eq_none h.closing depth
  rwa [Nat.zero_add] at hmore

end Braces

/-! ## What is read off a comment -/

/-- A comment is **blanks**, a number sign and whatever follows it. -/
theorem exists_eq_append_of_isComment {line : Text} (h : isComment line = true) :
    ∃ before rest, line = before ++ '#' :: rest ∧ Text.isAllBlank before = true := by
  obtain ⟨before, after, hline, hbefore, -⟩ := Text.exists_eq_append_trim_append line
  rw [isComment, beq_iff_eq, List.head?_eq_some_iff] at h
  obtain ⟨rest, htrim⟩ := h
  refine ⟨before, rest ++ after, ?_, hbefore⟩
  rw [htrim] at hline
  simpa using hline

/-- A comment is **skipped**. -/
theorem isSkipped_of_isComment {line : Text} (h : isComment line = true) :
    isSkipped line = true := by
  rw [isComment, beq_iff_eq, List.head?_eq_some_iff] at h
  obtain ⟨rest, htrim⟩ := h
  rw [isSkipped, htrim]
  rfl

/-- A comment is **not blank**. -/
theorem isAllBlank_of_isComment {line : Text} (h : isComment line = true) :
    Text.isAllBlank line = false := by
  obtain ⟨before, rest, rfl, -⟩ := exists_eq_append_of_isComment h
  have hsign : Text.isAllBlank ('#' :: rest) = false := rfl
  rw [Text.isAllBlank_append, hsign, Bool.and_false]

/-- A comment gives **no label**. -/
theorem propertyValue?_of_isComment {line : Text} (h : isComment line = true) :
    Label.propertyValue? line = none := by
  obtain ⟨before, rest, rfl, hbefore⟩ := exists_eq_append_of_isComment h
  exact Label.propertyValue?_append_cons hbefore rfl (by decide) rest

/-- A comment that is **cut off** is still skipped. -/
theorem isSkipped_take_of_isComment {line : Text} (h : isComment line = true) (count : Nat) :
    isSkipped (line.take count) = true := by
  obtain ⟨before, rest, rfl, hbefore⟩ := exists_eq_append_of_isComment h
  by_cases hcount : count ≤ before.length
  · have hblank : Text.isAllBlank (before.take count) = true :=
      Text.isAllBlank_iff.2 fun c hc => Text.isAllBlank_iff.1 hbefore c (List.mem_of_mem_take hc)
    rw [List.take_append_of_le_length hcount]
    exact isSkipped_of_isAllBlank hblank
  · obtain ⟨more, rfl⟩ := Nat.exists_eq_add_of_lt (Nat.lt_of_not_le hcount)
    rw [Nat.add_assoc, List.take_length_add_append, List.take_succ_cons]
    exact isSkipped_append hbefore rfl _

/-! ## Comments with balanced braces -/

/-- Two lines **read the same** in an outline: they are the same, or they are comments whose braces
are balanced. -/
inductive SameOutline : Text → Text → Prop where
  /-- A line reads like itself. -/
  | refl {line : Text} : SameOutline line line
  /-- A comment reads like any other one. -/
  | comment {line line' : Text} : isComment line = true → Braces.Balanced line →
    isComment line' = true → Braces.Balanced line' → SameOutline line line'

/-- A comment is **no statement**. -/
theorem SameOutline.eq_of_not_isSkipped {line line' : Text} (h : SameOutline line line')
    (hskip : isSkipped line = false) : line = line' := by
  cases h with
  | refl => rfl
  | comment hcomment => rw [isSkipped_of_isComment hcomment] at hskip; cases hskip

/-- Lines that read the same **keep outlines**. -/
theorem keepsOutlines_sameOutline : KeepsOutlines SameOutline where
  isSkipped h := by
    cases h with
    | refl => rfl
    | comment hline _ hline' _ => rw [isSkipped_of_isComment hline, isSkipped_of_isComment hline']
  isAllBlank h := by
    cases h with
    | refl => rfl
    | comment hline _ hline' _ => rw [isAllBlank_of_isComment hline, isAllBlank_of_isComment hline']
  delta h := by
    cases h with
    | refl => rfl
    | comment _ hline _ hline' => rw [hline.delta, hline'.delta]
  closing {line line'} h depth := by
    cases h with
    | refl =>
      cases Braces.closing? depth (Braces.ofLine line) with
      | none => exact .none
      | some offset => exact .some .refl
    | comment _ hline _ hline' =>
      rw [hline.closing?_eq_none, hline'.closing?_eq_none]
      exact .none
  property h := by
    cases h with
    | refl => rfl
    | comment hline _ hline' _ =>
      rw [propertyValue?_of_isComment hline, propertyValue?_of_isComment hline']
  opens h hskip := by rw [h.eq_of_not_isSkipped hskip]
  afterOpening h hskip := by
    rw [h.eq_of_not_isSkipped hskip]
    exact .refl
  name h hskip := by rw [h.eq_of_not_isSkipped hskip]
  ofStatement h hskip := by rw [h.eq_of_not_isSkipped hskip]
  ofHeader h hskip := by rw [h.eq_of_not_isSkipped hskip]

/-! ## Lines that are replaced -/

namespace Text

/-- A text with another line **in place** of the one of a number. -/
def setLine (text : Text) (index : Nat) (line : Text) : Text := unlines (text.lines.set index line)

/-- The lines of that text are the old ones **but for** the new one. -/
theorem lines_setLine (text : Text) (index : Nat) {line : Text} (h : '\n' ∉ line) :
    (text.setLine index line).lines = text.lines.set index line := by
  refine lines_unlines ?_ ?_
  · rw [ne_eq, List.set_eq_nil_iff]
    exact lines_ne_nil text
  · intro other hmem
    obtain hold | rfl := List.mem_or_eq_of_mem_set hmem
    · exact newline_notMem_of_mem_lines hold
    · exact h

end Text

/-- Lines are related to themselves with **one line replaced**, if that one is. -/
theorem forall₂_set {R : Text → Text → Prop} (hrefl : ∀ line, R line line) {lines : List Text}
    {index : Nat} {line line' : Text} (hget : lines[index]? = some line) (h : R line line') :
    List.Forall₂ R lines (lines.set index line') := by
  induction lines generalizing index with
  | nil => cases hget
  | cons first more ih =>
    have hmore : List.Forall₂ R more more := List.forall₂_same.2 fun other _ => hrefl other
    cases index with
    | zero =>
      cases hget
      exact .cons h hmore
    | succ index => exact .cons (hrefl first) (ih hget)

/-- Replacing a line changes no text of lines that **leave it out**. -/
theorem Block.linesBetween_set {lines : List Text} {index : Nat} {first last : Int}
    (hfirst : 0 ≤ first) (hlast : first ≤ last) (h : ¬ (first ≤ index ∧ index ≤ last))
    (line : Text) :
    linesBetween (lines.set index line) first last = linesBetween lines first last := by
  have hpos : ∀ {bound : Int}, 0 ≤ bound →
      position lines.length bound = min bound.toNat lines.length := by
    intro bound hbound
    rw [position, if_neg (by omega)]
  have hslice : slice (lines.set index line) first (last + 1) = slice lines first (last + 1) := by
    rw [slice, slice, List.length_set, hpos hfirst, hpos (by omega), List.take_set]
    by_cases hbefore : (index : Int) < first
    · -- the line comes before the slice, or behind the last line
      by_cases hlength : index < lines.length
      · exact List.drop_set_of_lt (by omega)
      · rw [List.set_eq_of_length_le (by rw [List.length_take]; omega)]
    · rw [List.set_eq_of_length_le (by rw [List.length_take]; omega)]
  rw [linesBetween, linesBetween, hslice]

namespace Outline

/-! ## Emptying a comment -/

/-- The comment on a line of a source is **inert**: with nothing in it but the number sign, the
outline is the same over the new lines, and only blocks that cover the line have another code. -/
structure InertAt (source : Text) (index : Nat) : Prop where
  /-- Names, labels, line numbers and children stay the same at every depth. -/
  plain_eq : plain (source.setLine index ['#']) =
    (plain source).map (Block.onLines (source.setLine index ['#']).lines)
  /-- The code of a block that does not cover the line stays the same. -/
  code_eq : ∀ block : Block, block.OccursIn (plain source) → ¬ block.Covers index →
    (block.onLines (source.setLine index ['#']).lines).code = block.code

variable {source comment : Text} {index : Nat}

/-- The lines of the source with the comment **emptied**. -/
theorem lines_setLine_bare (source : Text) (index : Nat) :
    (source.setLine index ['#']).lines = source.lines.set index ['#'] :=
  Text.lines_setLine source index (by decide)

/-- The **code** of a block that does not cover a line does not depend on it. -/
theorem code_onLines_setLine {block : Block} (h : block.OccursIn (plain source))
    (hcovers : ¬ block.Covers index) :
    (block.onLines (source.setLine index ['#']).lines).code = block.code := by
  have hall : block.OccursIn (allBlocks source) := h.of_withoutDirectives
  obtain ⟨hstart, hle, -⟩ := lines_of_occursIn_allBlocks hall
  have hcode := Block.code_of_occursIn (fun _ => standsIn_of_mem_allBlocks) hall
  rw [Block.code_onLines, lines_setLine_bare, Block.linesBetween_set hstart hle hcovers, hcode]

/-- A comment with **balanced** braces is inert. -/
theorem inertAt_of_balanced (hget : source.lines[index]? = some comment)
    (hcomment : isComment comment = true) (hbalanced : Braces.Balanced comment) :
    InertAt source index := by
  have hsame : List.Forall₂ SameOutline source.lines (source.setLine index ['#']).lines := by
    rw [lines_setLine_bare]
    exact forall₂_set (fun _ => .refl) hget (.comment hcomment hbalanced (by decide) (by decide))
  exact ⟨keepsOutlines_sameOutline.plain_eq hsame, fun _ => code_onLines_setLine⟩

/-- A comment **between** the blocks at the top is inert, whatever its braces. -/
theorem inertAt_of_not_covers (hget : source.lines[index]? = some comment)
    (hcomment : isComment comment = true)
    (h : ∀ block ∈ allBlocks source, ¬ block.Covers index) : InertAt source index := by
  have hstatements : statements 0 (source.setLine index ['#']).lines =
      statements 0 source.lines := by
    rw [lines_setLine_bare]
    refine statements_set hget (isSkipped_of_isComment hcomment) (by decide) ?_
    intro statement hmem hlines
    obtain ⟨block, hblock, hcovers⟩ := exists_mem_allBlocks_of_mem_statements hmem
    rw [Nat.zero_add] at hlines
    exact h block hblock ((hcovers index).2 hlines)
  have hrelated : List.Forall₂ (Statement.Related SameOutline) (statements 0 source.lines)
      (statements 0 (source.setLine index ['#']).lines) := by
    rw [hstatements, List.forall₂_same]
    intro statement hmem
    exact ⟨rfl, isSkipped_first_of_mem_statements hmem, .refl,
      List.forall₂_same.2 fun _ _ => .refl⟩
  exact ⟨keepsOutlines_sameOutline.plain_eq_of_statements hrelated, fun _ => code_onLines_setLine⟩

/-! ## Comments that are not inert -/

/-- A source with a comment in a **body**, a statement after it, and a statement after the body. -/
def commented (comment : Text) : Text :=
  Text.unlines ["a \x7b".toList, comment, "b".toList, "\x7d".toList, "c".toList]

/-- The **lines** of that source. -/
theorem lines_commented (h : '\n' ∉ comment) :
    (commented comment).lines =
      ["a \x7b".toList, comment, "b".toList, "\x7d".toList, "c".toList] := by
  refine Text.lines_unlines (List.cons_ne_nil _ _) ?_
  simp only [List.forall_mem_cons]
  exact ⟨by decide, h, by decide, by decide, by decide, fun _ hmem => absurd hmem List.not_mem_nil⟩

/-- With a bare comment, the body ends on **its own line** and has a child. -/
theorem exists_children_commented_bare :
    ∃ block ∈ plain (commented ['#']),
      block.startLine = 0 ∧ block.endLine = 3 ∧ block.children ≠ none := by
  decide +kernel

/-- The body takes the lines **through its own end** exactly if the comment closes as many bodies as
it opens. -/
theorem length_splitStatement_commented (comment : Text) :
    (splitStatement "a \x7b".toList
      [comment, "b".toList, "\x7d".toList, "c".toList]).1.length = 3 ↔
        Braces.delta comment = 0 := by
  have hopens : Braces.opens (Text.trim "a \x7b".toList) = true := by decide
  have hfirst : Braces.delta "a \x7b".toList = 1 := by decide
  have hinner : Braces.delta "b".toList = 0 := by decide
  have hend : Braces.delta "\x7d".toList = -1 := by decide
  have hbehind : Braces.delta "c".toList = 0 := by decide
  simp only [splitStatement, splitBody, hopens, hfirst, hinner, hend, hbehind]
  rcases Int.lt_trichotomy (Braces.delta comment) 0 with hneg | hzero | hpos
  -- the comment ends the body
  · rw [if_pos (by decide), if_pos (by omega), List.length_singleton]
    omega
  -- the closing brace ends it
  · rw [hzero]
    exact iff_of_true rfl rfl
  -- no line ends it
  · rw [if_pos (by decide), if_neg (by omega), if_neg (by omega), if_neg (by omega),
      if_neg (by omega)]
    simp only [List.length_cons, List.length_nil]
    omega

/-- If a comment is inert, so that the body is the same with it, **as many bodies** are closed in it
as are opened, and none that was open before. -/
theorem balanced_of_inertAt (hcomment : isComment comment = true) (hnewline : '\n' ∉ comment)
    (h : InertAt (commented comment) 1) : Braces.Balanced comment := by
  have hlines := lines_commented hnewline
  have hbare : (commented comment).setLine 1 ['#'] = commented ['#'] := by
    rw [Text.setLine, hlines]
    rfl
  -- the block of the body is one of those in the outline with the comment as it is
  obtain ⟨block, hblock, hstart, hend, hchildren⟩ := exists_children_commented_bare
  rw [← hbare, h.plain_eq] at hblock
  obtain ⟨origin, horigin, rfl⟩ := List.mem_map.1 hblock
  rw [Block.startLine_onLines] at hstart
  rw [Block.endLine_onLines] at hend
  have hinner : origin.children ≠ none := by
    intro hnone
    refine hchildren ?_
    rw [Block.children_onLines (by simp [hnone]), hnone]
    rfl
  obtain ⟨statement, hmem, number, rfl⟩ :=
    exists_statement_of_mem_allBlocks (Block.mem_withoutDirectives.1 horigin).1
  have hcode := Statement.lines_code hmem
  rw [hlines] at hmem
  obtain ⟨before, rest, heq, hline, hmore⟩ := exists_splitStatement_of_mem_statements hmem
  have hbefore : before = [] := by
    have hzero : (statement.line : Int) = 0 := hstart
    exact List.eq_nil_of_length_eq_zero (by omega)
  rw [hbefore, List.nil_append, List.cons.injEq] at heq
  obtain ⟨hfirst, rfl⟩ := heq
  rw [← hfirst] at hmore
  have hlength : statement.more.length = 3 := by
    have hthree : ((statement.line + statement.more.length : Nat) : Int) = 3 := hend
    have hzero : (statement.line : Int) = 0 := hstart
    omega
  have hdelta : Braces.delta comment = 0 := by
    rwa [hmore, length_splitStatement_commented] at hlength
  refine ⟨?_, hdelta⟩
  -- otherwise the interior is cut off in the comment, and holds no statement
  by_contra hclosing
  obtain ⟨offset, hoffset⟩ := Option.ne_none_iff_exists'.1 hclosing
  obtain ⟨tail, htail⟩ : ∃ tail, statement.more = comment :: tail := by
    have happend := splitStatement_append statement.first
      [comment, "b".toList, "\x7d".toList, "c".toList]
    rw [← hfirst, ← hmore] at happend
    cases hcases : statement.more with
    | nil =>
      rw [hcases] at hlength
      cases hlength
    | cons first tail =>
      rw [hcases, List.cons_append, List.cons.injEq] at happend
      exact ⟨tail, by rw [happend.1]⟩
  have hinnerLines : statement.innerLines = [[], comment.take offset] := by
    have hopening : Braces.afterOpening statement.first = [] := by
      rw [← hfirst]
      decide
    rw [Statement.innerLines, hopening, htail, Braces.linesToClosing_of_none rfl]
    exact congrArg _ (Braces.linesToClosing_of_some hoffset _)
  obtain ⟨children, hsome⟩ := Option.ne_none_iff_exists'.1 hinner
  obtain ⟨interior, hinterior, -⟩ := exists_interior_of_childrenOf hsome
  have hskipped : ∀ line ∈ interior.text.lines, isSkipped line = true := by
    intro line hin
    have hsub := Statement.sublist_innerLines
      (hcode ▸ fun _ => Text.newline_notMem_of_mem_lines) hinterior
    have hor := hsub.subset hin
    rw [hinnerLines] at hor
    simp only [List.mem_cons, List.not_mem_nil, or_false] at hor
    rcases hor with rfl | rfl
    · rfl
    · exact isSkipped_take_of_isComment hcomment offset
  have hnone : (blockOf (commented comment) statement number).children = none := by
    show childrenOf _ _ = none
    rw [childrenOf, hinterior, Option.bind_some, plain_eq_nil hskipped]
    rfl
  exact hinner hnone

/-- **Which comments are inert.**

A comment between the blocks at the top is inert, whatever stands in it. A comment is inert wherever
it stands exactly if its braces are balanced, so that in a body no search for the closing brace
stops or is led on by it. -/
theorem comment_inert_iff {comment : Text} (hcomment : isComment comment = true)
    (hnewline : '\n' ∉ comment) :
    (∀ (source : Text) index, source.lines[index]? = some comment →
      (∀ block ∈ allBlocks source, ¬ block.Covers index) → InertAt source index) ∧
    ((∀ (source : Text) index, source.lines[index]? = some comment → InertAt source index) ↔
      Braces.Balanced comment) := by
  refine ⟨fun source index hget => inertAt_of_not_covers hget hcomment, ?_, ?_⟩
  · intro hall
    have hget : (commented comment).lines[1]? = some comment := by
      rw [lines_commented hnewline]
      rfl
    exact balanced_of_inertAt hcomment hnewline (hall _ _ hget)
  · intro hbalanced source index hget
    exact inertAt_of_balanced hget hcomment hbalanced

/-- A comment with a **body** in it is inert. -/
theorem comment_inert_body :
    isComment "  # x \x7b y \x7d".toList = true ∧
      ∀ (source : Text) index, source.lines[index]? = some "  # x \x7b y \x7d".toList →
        InertAt source index :=
  ⟨by decide, (comment_inert_iff (by decide) (by decide)).2.2 (by decide)⟩

/-- A body with a **closing brace** in its comment. -/
def strayBraceSource : Text := "a \x7b\n  # \x7d\n  b\n\x7d".toList

/-- That comment is **not inert**: it ends the body, and the statement behind it is no child. -/
theorem not_inertAt_strayBrace :
    (∃ comment, strayBraceSource.lines[1]? = some comment ∧ isComment comment = true) ∧
      ¬ InertAt strayBraceSource 1 := by
  refine ⟨⟨"  # \x7d".toList, by decide, by decide⟩, ?_⟩
  intro h
  have hdiffers : plain (strayBraceSource.setLine 1 ['#']) ≠
      (plain strayBraceSource).map (Block.onLines (strayBraceSource.setLine 1 ['#']).lines) := by
    decide +kernel
  exact hdiffers h.plain_eq

end Outline

end DiagramOutline
