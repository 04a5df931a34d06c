import DiagramOutline.Proofs.Ranges

/-! # Where a block ends, and where its body does

The end of a block is found line by line: it is the first line through which no more braces were
opened than closed. The end of its body is found brace by brace. The two agree as long as the body
stays open on every line before the last one. A line that closes the body and opens another one
behind it leaves the count of open bodies positive, so the block goes on where its body does not,
and what stands there belongs to no interior.

* **`Braces.KeepOpen braces`** — none of the braces closes the body in which they stand.
* **`Braces.newline_notMem_drop_iff`** — a closing brace stands on the last line exactly when the
  lines before keep the body open.
* **`Block.FilledByBody source block`** — the body of `block` ends on the last line of `block`, or
  neither ends before `source` does.
* **`Outline.filledByBody_iff`** — which blocks are filled by their bodies. -/

namespace DiagramOutline

namespace Braces

/-- Braces **keep** the body in which they stand **open**: in no front part of them more bodies are
closed than opened. -/
def KeepOpen (braces : List PlacedBrace) : Prop := ∀ front, front <+: braces → 0 ≤ balance front

/-- The front parts of braces are the empty one and those that the **first brace** begins. -/
theorem forall_front_cons {depth : Int} {placed : PlacedBrace} {rest : List PlacedBrace}
    (hdepth : 0 ≤ depth) :
    (∀ front, front <+: placed :: rest → 0 ≤ depth + balance front) ↔
      ∀ front, front <+: rest → 0 ≤ depth + placed.brace.weight + balance front := by
  constructor
  · intro h front hfront
    have hle := h _ (List.cons_prefix_cons.2 ⟨rfl, hfront⟩)
    rw [balance] at hle
    omega
  · intro h front hfront
    obtain rfl | ⟨tail, rfl, htail⟩ := List.prefix_cons_iff.1 hfront
    · rw [balance]
      omega
    · have hle := h tail htail
      rw [balance]
      omega

/-- No brace closes a body in which `depth` more are open exactly when **no front part** of the
braces closes more of them than there are. -/
theorem closing?_eq_none_iff {depth : Nat} {braces : List PlacedBrace} :
    closing? depth braces = none ↔
      ∀ front, front <+: braces → 0 ≤ (depth : Int) + balance front := by
  fun_induction closing? depth braces with
  | case1 depth =>
    refine iff_of_true rfl ?_
    intro front hfront
    rw [List.prefix_nil.1 hfront, balance]
    omega
  | case2 depth offset rest ih =>
    have hdepth : ((depth + 1 : Nat) : Int) = depth + Brace.weight .opening := rfl
    rw [ih, hdepth, forall_front_cons (Int.natCast_nonneg depth)]
  | case3 offset rest =>
    -- the first brace closes the body, so the front part of it alone closes one too many
    refine iff_of_false (Option.some_ne_none offset) ?_
    intro h
    have hle := h [⟨offset, .closing⟩] (List.cons_prefix_cons.2 ⟨rfl, List.nil_prefix⟩)
    simp [balance, Brace.weight] at hle
  | case4 depth offset rest ih =>
    have hdepth : (depth : Int) = (depth + 1 : Nat) + Brace.weight .closing := by
      rw [Brace.weight]
      omega
    rw [ih, hdepth, forall_front_cons (Int.natCast_nonneg (depth + 1))]

/-- Braces keep a body open exactly when none of them is its **closing** one. -/
theorem keepOpen_iff {braces : List PlacedBrace} : KeepOpen braces ↔ closing? 0 braces = none := by
  rw [closing?_eq_none_iff, KeepOpen]
  simp only [Int.natCast_zero, Int.zero_add]

/-- The braces of lines stand **on their characters**. -/
theorem offset_lt_of_mem_ofLines {offset : Nat} {lines : List Text} {placed : PlacedBrace}
    (h : placed ∈ ofLines offset lines) : placed.offset < offset + (Text.unlines lines).length := by
  induction lines generalizing offset with
  | nil => cases h
  | cons line more ih =>
    rw [ofLines, List.mem_append] at h
    cases more with
    | nil => exact offset_lt_of_mem_scan (h.resolve_right List.not_mem_nil)
    | cons next more =>
      rw [Text.unlines_cons_cons, List.length_append, List.length_cons]
      cases h with
      | inl hline =>
        have hlt := offset_lt_of_mem_scan hline
        omega
      | inr hmore =>
        have hlt := ih hmore
        omega

/-- Lines **in a row** have their braces in a row. -/
theorem ofLines_append (offset : Nat) (first more : List Text) :
    ofLines offset (first ++ more) =
      ofLines offset first ++ ofLines (offset + Text.extent first) more := by
  induction first generalizing offset with
  | nil => rfl
  | cons line first ih =>
    rw [List.cons_append, ofLines, ih, ofLines, List.append_assoc, Text.extent_cons,
      Nat.add_assoc offset, Nat.add_assoc offset]

/-- A line and the lines after it **keep** open the body in which `depth` more are open exactly when
the line does, and the others do with the bodies that are open behind it. -/
theorem closing?_cons_eq_none_iff {depth : Nat} {line : Text} {more : List Text} :
    closing? depth (ofLines 0 (line :: more)) = none ↔
      closing? depth (ofLine line) = none ∧
        closing? (depth + delta line).toNat (ofLines 0 more) = none := by
  have hsplit : ofLines 0 (line :: more) =
      ofLine line ++ (ofLines 0 more).map (·.shift (line.length + 1)) := by
    rw [← ofLines_add, ofLines, ofLine, Nat.add_assoc]
  rw [hsplit]
  cases hline : closing? depth (ofLine line) with
  | some offset =>
    rw [closing?_append_of_some hline]
    exact iff_of_false (Option.some_ne_none offset) fun h => Option.some_ne_none offset h.1
  | none =>
    rw [closing?_append_of_none hline, closing?_map_shift, Option.map_eq_none_iff, delta]
    exact (and_iff_right rfl).symm

/-- Behind a line that keeps a body open **no body is missing**. -/
theorem add_delta_nonneg {depth : Nat} {line : Text} (h : closing? depth (ofLine line) = none) :
    0 ≤ (depth : Int) + delta line :=
  closing?_eq_none_iff.1 h _ List.prefix_rfl

/-- Lines that keep a body open do so **without the last** one. -/
theorem closing?_dropLast {depth : Nat} {lines : List Text}
    (h : closing? depth (ofLines 0 lines) = none) :
    closing? depth (ofLines 0 lines.dropLast) = none := by
  rw [closing?_eq_none_iff] at h ⊢
  intro front hfront
  refine h front (hfront.trans ?_)
  obtain rfl | hne := eq_or_ne lines []
  · exact List.prefix_rfl
  · rw [← List.dropLast_concat_getLast hne, ofLines_append]
    simp

/-- A closing brace stands on the **last line** exactly when the lines before that one keep the body
open. -/
theorem newline_notMem_drop_iff {depth offset : Nat} {lines : List Text}
    (hnewline : ∀ line ∈ lines, '\n' ∉ line) (h : closing? depth (ofLines 0 lines) = some offset) :
    '\n' ∉ (Text.unlines lines).drop offset ↔
      closing? depth (ofLines 0 lines.dropLast) = none := by
  induction lines generalizing depth offset with
  | nil => cases h
  | cons line more ih =>
    obtain ⟨hline, hmore⟩ := List.forall_mem_cons.1 hnewline
    cases more with
    | nil =>
      refine iff_of_true ?_ rfl
      exact fun hmem => hline (List.mem_of_mem_drop hmem)
    | cons next more =>
      have hsplit : ∀ others : List Text, ofLines 0 (line :: others) =
          ofLine line ++ (ofLines 0 others).map (·.shift (line.length + 1)) := by
        intro others
        rw [← ofLines_add, ofLines, ofLine, Nat.add_assoc]
      rw [hsplit] at h
      rw [List.dropLast_cons_of_ne_nil (List.cons_ne_nil next more), hsplit]
      cases hclosing : closing? depth (ofLine line) with
      | some first =>
        -- the brace stands on the first line, in front of the newline that ends it
        rw [closing?_append_of_some hclosing, Option.some.injEq] at h
        rw [closing?_append_of_some hclosing]
        have hlt : offset < line.length := by
          simpa [h] using offset_lt_of_mem_scan (mem_of_closing?_eq_some hclosing)
        refine iff_of_false ?_ (Option.some_ne_none first)
        rw [Text.unlines_cons_cons, List.drop_append_of_le_length (Nat.le_of_lt hlt)]
        exact not_not_intro (List.mem_append_right _ List.mem_cons_self)
      | none =>
        rw [closing?_append_of_none hclosing, closing?_map_shift] at h
        obtain ⟨inner, hinner, rfl⟩ := Option.map_eq_some_iff.1 h
        have hsum : inner + (line.length + 1) = line.length + (inner + 1) := by omega
        rw [closing?_append_of_none hclosing, closing?_map_shift, Option.map_eq_none_iff,
          ← ih hmore hinner, Text.unlines_cons_cons, hsum, List.drop_length_add_append,
          List.drop_succ_cons]

end Braces

/-- The braces of lines **balance** as the lines do one by one. -/
theorem Braces.balance_ofLines (offset : Nat) (lines : List Text) :
    balance (ofLines offset lines) = (lines.map delta).sum := by
  induction lines generalizing offset with
  | nil => rfl
  | cons line more ih =>
    rw [ofLines, balance_append, ih, List.map_cons, List.sum_cons, scan_outside,
      balance_congr (map_brace_shift offset _), delta]

/-- A statement with a body goes on to the **last line** of the text, or to one through which its
lines open no more braces than they close. -/
theorem Statement.isLast_or_closed {lines : List Text} {statement : Statement}
    (h : statement ∈ statements 0 lines) (hbody : statement.hasBody = true) :
    statement.lastLine + 1 = lines.length ∨ (statement.lines.map Braces.delta).sum ≤ 0 := by
  obtain ⟨before, rest, hlines, hline, hmore⟩ := exists_splitStatement_of_mem_statements h
  have hsplit := splitStatement_append statement.first rest
  rw [← hmore] at hsplit
  have hclosed := splitStatement_closed hbody rest
  rw [← hmore] at hclosed
  refine hclosed.symm.imp ?_ id
  intro hleft
  rw [hleft, List.append_nil] at hsplit
  rw [lastLine, hline, hlines, ← hsplit, List.length_append, List.length_cons]
  omega

namespace Block

/-- The **lines of the body** of a block whose first line opens one: that line behind the opening
brace, and the lines after it. -/
def bodyLines (block : Block) : List Text :=
  match block.code.lines with
  | [] => []
  | first :: more => Braces.afterOpening first :: more

/-- A block of `source` is **filled by its body**: the body ends at a closing brace on the last line
of the block, or it is never closed and the block goes on to the last line of `source`. -/
def FilledByBody (source : Text) (block : Block) : Prop :=
  ∃ opening closing, Braces.span? block.code = some (opening, closing) ∧
    (⟨closing, .closing⟩ ∈ Braces.ofText block.code ∧ '\n' ∉ block.code.drop closing ∨
      closing = block.code.length ∧ block.endLine + 1 = source.lines.length)

/-- A block is **parted** at the brace that opens its body, which stands behind `before`. -/
structure PartedAt (block : Block) (before : Text) : Prop where
  /-- The code is what stands before the brace, the brace and the lines of the body. -/
  code : block.code = before ++ '{' :: Text.unlines block.bodyLines
  /-- No line of the body holds a newline. -/
  newline : ∀ line ∈ block.bodyLines, '\n' ∉ line
  /-- The braces before the one that opens the body close. -/
  closing : ∀ placed ∈ Braces.ofLine before, placed.brace = .closing
  /-- The braces of the code are those, the opening one and those of the body. -/
  braces : Braces.ofText block.code = Braces.ofLine before ++
    ⟨before.length, .opening⟩ :: Braces.ofLines (0 + (before.length + 1)) block.bodyLines
  /-- The span of the body ends at its closing brace, or with the code. -/
  span : Braces.span? block.code = some (before.length, before.length + 1 +
    (Braces.closing? 0 (Braces.ofLines 0 block.bodyLines)).getD
      (Text.unlines block.bodyLines).length)

/-- A block whose first line opens a body is **parted** there. -/
theorem exists_partedAt {block : Block} (h : block.code.lines.head?.any Braces.opens = true) :
    ∃ before, block.PartedAt before := by
  cases hlines : block.code.lines with
  | nil => exact absurd hlines (Text.lines_ne_nil _)
  | cons first more =>
    rw [hlines] at h
    obtain ⟨before, after, rfl, hafter, hclosing⟩ := Braces.exists_eq_append_of_opens h
    have hbody : block.bodyLines = after :: more := by
      rw [bodyLines, hlines]
      exact congrArg (· :: more) (Braces.afterOpening_append hafter hclosing)
    have hnewline : ∀ line ∈ (before ++ '{' :: after) :: more, '\n' ∉ line := by
      intro line hline
      rw [← hlines] at hline
      exact Text.newline_notMem_of_mem_lines hline
    have hcode : block.code = Text.unlines ((before ++ '{' :: after) :: more) := by
      rw [← hlines, Text.unlines_lines]
    refine ⟨before, ?_, ?_, hclosing, ?_, ?_⟩
    · rw [hcode, hbody]
      cases more <;> simp
    · obtain ⟨hfirst, hmore⟩ := List.forall_mem_cons.1 hnewline
      rw [hbody]
      refine List.forall_mem_cons.2 ⟨?_, hmore⟩
      exact fun hmem => hfirst (List.mem_append_right _ (List.mem_cons_of_mem _ hmem))
    · rw [Braces.ofText, hlines, hbody, Braces.ofLines_append_opening hafter]
    · rw [hcode, hbody, Braces.span?_append_opening hafter hclosing hnewline]

/-- A block is as **long** as what stands before the brace, the brace, and the lines of its body. -/
theorem PartedAt.length_code {block : Block} {before : Text} (h : block.PartedAt before) :
    block.code.length = before.length + 1 + (Text.unlines block.bodyLines).length := by
  rw [h.code, List.length_append, List.length_cons]
  omega

/-- A block whose first line opens a body is **filled** by it exactly when the lines before the last
one keep the body open, and all of them do so only where the block goes on to the last line. -/
theorem filledByBody_iff_keepOpen {source : Text} {block : Block}
    (h : block.code.lines.head?.any Braces.opens = true) :
    block.FilledByBody source ↔
      Braces.KeepOpen (Braces.ofLines 0 block.bodyLines.dropLast) ∧
        (block.endLine + 1 = source.lines.length ∨
          ¬ Braces.KeepOpen (Braces.ofLines 0 block.bodyLines)) := by
  obtain ⟨before, hparted⟩ := exists_partedAt h
  rw [Braces.keepOpen_iff, Braces.keepOpen_iff, FilledByBody, hparted.span]
  cases hclosing : Braces.closing? 0 (Braces.ofLines 0 block.bodyLines) with
  | none =>
    -- the body is never closed, so its span ends with the code, where no brace is
    have hinit := Braces.closing?_dropLast hclosing
    rw [Option.getD_none, ← hparted.length_code]
    constructor
    · rintro ⟨opening, closing, hspan, ⟨hmem, -⟩ | ⟨-, hlast⟩⟩
      · cases hspan
        have hlt := Braces.offset_lt_of_mem_ofLines hmem
        rw [Text.unlines_lines] at hlt
        dsimp only at hlt
        omega
      · exact ⟨hinit, .inl hlast⟩
    · rintro ⟨-, hlast | hopen⟩
      · exact ⟨_, _, rfl, .inr ⟨rfl, hlast⟩⟩
      · exact absurd rfl hopen
  | some offset =>
    have hlt := Braces.offset_lt_of_mem_ofLines (Braces.mem_of_closing?_eq_some hclosing)
    have hmem : ⟨before.length + 1 + offset, .closing⟩ ∈ Braces.ofText block.code := by
      have hplaced := Braces.mem_of_closing?_eq_some hclosing
      rw [hparted.braces, Braces.ofLines_add]
      refine List.mem_append_right _ (List.mem_cons_of_mem _ (List.mem_map.2 ⟨_, hplaced, ?_⟩))
      rw [PlacedBrace.shift, Nat.add_comm]
    have hdrop : block.code.drop (before.length + 1 + offset) =
        (Text.unlines block.bodyLines).drop offset := by
      rw [hparted.code, Nat.add_assoc, List.drop_length_add_append, Nat.add_comm 1,
        List.drop_succ_cons]
    rw [Option.getD_some, ← Braces.newline_notMem_drop_iff hparted.newline hclosing, ← hdrop]
    constructor
    · rintro ⟨opening, closing, hspan, ⟨-, hline⟩ | ⟨hend, -⟩⟩
      · cases hspan
        exact ⟨hline, .inr (Option.some_ne_none offset)⟩
      · cases hspan
        rw [hparted.length_code] at hend
        dsimp only at hlt
        omega
    · rintro ⟨hline, -⟩
      exact ⟨_, _, rfl, .inl ⟨hmem, hline⟩⟩

/-- The interior of a block that is filled by its body **reaches** the last line of the code. -/
theorem FilledByBody.line_add_count {source : Text} {block : Block} {before : Text}
    {interior : Interior} {line : Int} (h : block.FilledByBody source)
    (hparted : block.PartedAt before)
    (hinterior : Interior.ofCode? line block.code = some interior) :
    interior.line + interior.text.count '\n' = line + block.code.count '\n' := by
  obtain ⟨opening, closing, hspan, hcases⟩ := h
  rw [Interior.ofCode?, hspan, Option.map_some, Option.some.injEq] at hinterior
  subst hinterior
  -- what stands behind the body holds no newline
  have hdrop : (block.code.drop closing).count '\n' = 0 := by
    obtain ⟨-, hline⟩ | ⟨rfl, -⟩ := hcases
    · exact List.count_eq_zero.2 hline
    · rw [List.drop_length, List.count_nil]
  rw [hparted.span, Option.some.injEq, Prod.mk.injEq] at hspan
  obtain ⟨rfl, rfl⟩ := hspan
  generalize (Braces.closing? 0 (Braces.ofLines 0 block.bodyLines)).getD
    (Text.unlines block.bodyLines).length = inside at hdrop ⊢
  have hbehind := hparted.code
  generalize Text.unlines block.bodyLines = rest at hbehind
  have hsum : before.length + 1 + inside = before.length + (inside + 1) := by omega
  have hcount : (rest.take inside).count '\n' + (rest.drop inside).count '\n' =
      rest.count '\n' := by
    rw [← List.count_append, List.take_append_drop]
  rw [hbehind, hsum, List.drop_length_add_append, List.drop_succ_cons] at hdrop
  dsimp only
  rw [hbehind, hsum, List.take_left, List.take_length_add_append, List.take_succ_cons,
    List.drop_length_add_append, List.drop_succ_cons, List.drop_zero, List.count_append,
    List.count_cons_of_ne (by decide)]
  omega

end Block

namespace Outline

/-- A block of an outline whose **first brace** opens its body keeps the body open only where it
goes on to the last line. -/
theorem isLast_or_not_keepOpen {source : Text} {block : Block} {before : Text}
    (h : block ∈ allBlocks source) (hopens : block.code.lines.head?.any Braces.opens = true)
    (hparted : block.PartedAt before)
    (hfirst : (Braces.ofText block.code).head?.map (·.brace) = some .opening) :
    block.endLine + 1 = source.lines.length ∨
      ¬ Braces.KeepOpen (Braces.ofLines 0 block.bodyLines) := by
  -- no brace stands before the one that opens the body
  have hbefore : Braces.ofLine before = [] := by
    cases hfront : Braces.ofLine before with
    | nil => rfl
    | cons placed rest =>
      have hclosing := hparted.closing placed (by rw [hfront]; exact List.mem_cons_self)
      rw [hparted.braces, hfront] at hfirst
      simp [hclosing] at hfirst
  obtain ⟨statement, hmem, index, rfl⟩ := exists_statement_of_mem_allBlocks h
  have hlines : (blockOf source statement index).code.lines = statement.lines :=
    Statement.lines_code hmem
  have hbody : statement.hasBody = true := by
    rw [hlines] at hopens
    rw [Statement.hasBody_eq_opens]
    exact hopens
  refine (Statement.isLast_or_closed hmem hbody).imp ?_ ?_
  · intro hlast
    exact congrArg Int.ofNat hlast
  · intro hsum hopen
    -- the braces behind the first one close one more body than they open
    have hbalance := Braces.balance_ofLines 0 statement.lines
    rw [← hlines, ← Braces.ofText, hparted.braces, hbefore, List.nil_append, Braces.balance,
      Braces.balance_ofLines, ← Braces.balance_ofLines 0, Brace.weight] at hbalance
    have hle := hopen _ List.prefix_rfl
    rw [hlines] at hbalance
    omega

/-- **Which blocks are filled by their bodies.** The body of a block at the top of an outline ends
on the last line of the block, or with the source, exactly when each line before the last one keeps
the body open, and the last one closes it unless it is the last of the source. Where the first brace
of the block opens the body, the first condition is enough. In a filled block the interior that is
read for children reaches the last line. -/
theorem filledByBody_iff {source : Text} {block : Block} (h : block ∈ allBlocks source)
    (hopens : block.code.lines.head?.any Braces.opens = true) :
    (block.FilledByBody source ↔
      Braces.KeepOpen (Braces.ofLines 0 block.bodyLines.dropLast) ∧
        (block.endLine + 1 = source.lines.length ∨
          ¬ Braces.KeepOpen (Braces.ofLines 0 block.bodyLines))) ∧
    ((Braces.ofText block.code).head?.map (·.brace) = some .opening →
      (block.FilledByBody source ↔
        Braces.KeepOpen (Braces.ofLines 0 block.bodyLines.dropLast))) ∧
    (block.FilledByBody source → ∀ interior,
      Interior.ofCode? block.startLine block.code = some interior →
        interior.line + interior.text.count '\n' = block.endLine) := by
  obtain ⟨before, hparted⟩ := Block.exists_partedAt hopens
  have hiff : block.FilledByBody source ↔ _ := Block.filledByBody_iff_keepOpen hopens
  refine ⟨hiff, ?_, ?_⟩
  · intro hfirst
    rw [hiff, and_iff_left (isLast_or_not_keepOpen h hopens hparted hfirst)]
  · intro hfilled interior hinterior
    rw [hfilled.line_add_count hparted hinterior]
    obtain ⟨statement, hmem, index, rfl⟩ := exists_statement_of_mem_allBlocks h
    have hcount := Statement.count_newline_code hmem
    show (statement.line : Int) + statement.code.count '\n' = statement.lastLine
    rw [hcount, Statement.lastLine]
    omega

/-- A source in which a body stands **inside a body** that is closed two lines before the end. -/
def nestedBodySource : Text := "a \x7b\n  b \x7b c \x7d\n\x7d\n\nd".toList

/-- The block of the outer body. -/
def nestedBodyBlock : Block :=
  ⟨"a".toList, "a \x7b\n  b \x7b c \x7d\n\x7d".toList, 0, 2, none,
    some [⟨"b".toList, "  b \x7b c \x7d".toList, 1, 1, none,
      some [⟨"c".toList, "  b \x7b c \x7d".toList, 1, 1, none, none⟩]⟩]⟩

/-- That block is **filled** by its body, which the inner one does not close. -/
theorem filledByBody_nestedBody :
    nestedBodyBlock ∈ allBlocks nestedBodySource ∧
      nestedBodyBlock.FilledByBody nestedBodySource := by
  have hmem : nestedBodyBlock ∈ allBlocks nestedBodySource := by decide +kernel
  refine ⟨hmem, ((filledByBody_iff hmem (by decide +kernel)).2.1 (by decide +kernel)).2 ?_⟩
  rw [Braces.keepOpen_iff]
  decide +kernel

/-- A source with a line that **closes** a body and opens another one. -/
def reopenedSource : Text := "a \x7b\n  x\n\x7d; b \x7b\n  c\n\x7d".toList

/-- The only block at the top of its outline. -/
def reopenedBlock : Block :=
  ⟨"a".toList, reopenedSource, 0, 4, none, some [⟨"x".toList, "  x".toList, 1, 1, none, none⟩]⟩

/-- That block is **not filled** by its body: it goes on to the line that closes the second one, and
what stands in that one is in no block of its own. -/
theorem not_filledByBody_reopenedBlock :
    plain reopenedSource = [reopenedBlock] ∧
      reopenedBlock.code.lines.head?.any Braces.opens = true ∧
        ¬ reopenedBlock.FilledByBody reopenedSource := by
  refine ⟨by decide +kernel, by decide +kernel, ?_⟩
  have hspan : Braces.span? reopenedBlock.code = some (2, 8) := by decide +kernel
  rintro ⟨opening, closing, hfound, hcases⟩
  rw [hspan] at hfound
  cases hfound
  obtain ⟨-, hline⟩ | ⟨hend, -⟩ := hcases
  · exact absurd hline (by decide +kernel)
  · exact absurd hend (by decide +kernel)

end Outline

end DiagramOutline
