import DiagramOutline.Proofs.Forest

/-! # Well-formed blocks

Whatever a grammar makes of the texts it is given, the blocks of an outline can be shown: each has a
name that is no directive, a label that fits on one line if it has one, and no empty list of
children.

* **`Label.Fit label`** — `label` has characters, at most sixty of them, and no written line break.
* **`Block.WellFormed block`** — the name, the label and the children of `block` are fit to be
  shown.
* **`Outline.wellFormed_of_occursIn_read`** — every block of an outline is well formed. -/

namespace DiagramOutline

namespace Label

/-- A written **line break**: a backslash and the letter n. -/
def lineBreak : Text := ['\\', 'n']

/-- A label is **fit** to be shown: there is something to show, it is not too long, and it is on one
line. -/
structure Fit (label : Text) : Prop where
  /-- The label has characters. -/
  ne_nil : label ≠ []
  /-- It has at most sixty of them. -/
  length_le : label.length ≤ 60
  /-- No line break is written in it. -/
  lineBreak_not_infix : ¬ lineBreak <:+: label

/-- After written line breaks were replaced, a letter n comes first only where it **came first**. -/
theorem head?_spaceLineBreaks {text : Text} (h : (spaceLineBreaks text).head? = some 'n') :
    text.head? = some 'n' := by
  fun_cases spaceLineBreaks text with
  | case1 rest => simp [spaceLineBreaks] at h
  | case2 c rest hbreak =>
    rw [spaceLineBreaks] at h
    · exact h
    · exact hbreak
  | case3 => exact h

/-- Where written line breaks were replaced, **none is left**, and none has arisen. -/
theorem lineBreak_not_infix_spaceLineBreaks (text : Text) :
    ¬ lineBreak <:+: spaceLineBreaks text := by
  fun_induction spaceLineBreaks text with
  | case1 rest ih =>
    rw [List.infix_cons_iff, not_or]
    exact ⟨by simp [lineBreak], ih⟩
  | case2 c rest hbreak ih =>
    rw [List.infix_cons_iff, not_or]
    refine ⟨?_, ih⟩
    -- a backslash that is kept has no letter n behind it
    rintro ⟨after, hafter⟩
    obtain ⟨rfl, hrest⟩ := List.cons.inj hafter
    have hhead : rest.head? = some 'n' := head?_spaceLineBreaks (by rw [← hrest]; rfl)
    obtain ⟨more, rfl⟩ := List.head?_eq_some_iff.1 hhead
    exact hbreak more rfl rfl
  | case3 => simp [lineBreak]

/-- **Cutting** a text and putting dots behind it writes no line break. -/
theorem lineBreak_not_infix_shorten {text : Text} (h : ¬ lineBreak <:+: text) :
    ¬ lineBreak <:+: shorten text := by
  unfold shorten
  split
  · rintro ⟨before, after, heq⟩
    rw [List.append_assoc, List.append_eq_append_iff] at heq
    obtain ⟨front, htake, hafter⟩ | ⟨dots, hbefore, hdots⟩ := heq
    -- the backslash stands before the dots, so the letter n does, since it is no dot
    · match front, hafter with
      | [], hafter => simp [lineBreak] at hafter
      | [_], hafter => simp [lineBreak] at hafter
      | b :: n :: front, hafter =>
        simp only [lineBreak, List.cons_append, List.nil_append, List.cons.injEq] at hafter
        obtain ⟨rfl, rfl, -⟩ := hafter
        have hpart : lineBreak <:+: text.take (maxLength - 3) :=
          ⟨before, front, by rw [htake]; simp [lineBreak]⟩
        exact h (hpart.trans (List.take_prefix _ text).isInfix)
    · have hmem : '\\' ∈ ['.', '.', '.'] := by rw [hdots]; simp [lineBreak]
      simp at hmem
  · exact h

/-- A **clean** label is fit to be shown. -/
theorem fit_of_clean {raw label : Text} (h : clean raw = some label) : Fit label := by
  refine ⟨ne_nil_of_clean h, length_le_of_clean h, ?_⟩
  rw [← (clean_eq_some_iff.1 h).1]
  exact lineBreak_not_infix_shorten (lineBreak_not_infix_spaceLineBreaks _)

end Label

/-- A block is **well formed**: its name, its label and its children are fit to be shown. -/
structure Block.WellFormed (block : Block) : Prop where
  /-- The block has a name. -/
  name_ne_nil : block.name ≠ []
  /-- The name is no directive. -/
  isDirective_name : Keyword.isDirective block.name = false
  /-- Where there are no children, there is no list of them. -/
  children_ne_nil : block.children ≠ some []
  /-- The label, if there is one, is fit to be shown. -/
  label_fit : ∀ label, block.label = some label → Label.Fit label

/-- Placing a block keeps it **well formed**. -/
theorem Block.WellFormed.place {block : Block} (h : block.WellFormed) (offset : Int)
    (lines : List Text) : (Block.place offset lines block).WellFormed := by
  obtain ⟨name, code, startLine, endLine, label, children⟩ := block
  refine ⟨h.name_ne_nil, h.isDirective_name, ?_, h.label_fit⟩
  rw [children_place]
  intro hnil
  obtain ⟨found, -, hadopt⟩ := Option.bind_eq_some_iff.1 hnil
  exact adopt_ne_some_nil _ _ _ hadopt

/-- The label of a **statement** is a clean one. -/
theorem Statement.exists_clean_of_label {statement : Statement} {text : Text}
    (h : statement.label = some text) : ∃ raw, Label.clean raw = some text := by
  unfold label at h
  split at h
  · exact Label.exists_clean_of_ofBody h
  · exact Label.exists_clean_of_ofStatement h

namespace Outline

/-- The blocks at the top of the outline of a **text** are well formed. -/
theorem wellFormed_of_mem_plain {source : Text} {block : Block} (h : block ∈ plain source) :
    block.WellFormed := by
  obtain ⟨hblock, hdirective⟩ := Block.mem_withoutDirectives.1 h
  obtain ⟨statement, -, index, rfl⟩ := exists_statement_of_mem_allBlocks hblock
  refine ⟨statement.name_ne_nil index, hdirective, ?_, ?_⟩
  · intro hnil
    obtain ⟨interior, -, hadopt⟩ := Option.bind_eq_some_iff.1 hnil
    exact Block.adopt_ne_some_nil _ _ _ hadopt
  · intro label hlabel
    obtain ⟨raw, hclean⟩ := Statement.exists_clean_of_label hlabel
    exact Label.fit_of_clean hclean

/-- A block that a **node** declares is well formed, unless a directive names it. -/
theorem DeclaredBy.wellFormed {inner : Text → Result} {source : List UInt8} {lines : List Text}
    {node : SyntaxNode} {block : Block} (h : DeclaredBy inner source lines node block)
    (hdirective : Keyword.isDirective block.name = false) : block.WellFormed := by
  refine ⟨h.name_ne_nil, hdirective, ?_, ?_⟩
  · intro hnil
    obtain ⟨interior, found, -, -, hne, hplaced⟩ := h.exists_children hnil
    exact hne (List.map_eq_nil_iff.1 hplaced.symm)
  · intro label hlabel
    rw [h.label] at hlabel
    obtain ⟨raw, hclean⟩ := SyntaxNode.exists_clean_of_label hlabel
    exact Label.fit_of_clean hclean

/-- **Every block of an outline is well formed.** Whatever the grammar makes of the texts it is
given, each block at each depth has a name that is no directive, no empty list of children, and no
label that is not fit to be shown. -/
theorem wellFormed_of_occursIn_read {grammar : Option Grammar} {depth : Nat} {source : Text}
    {found : Logged (List Block)} {block : Block} (h : read grammar depth source = some found)
    (hin : block.OccursIn found.value) : block.WellFormed :=
  forall_occursIn_read (fun offset lines _ hblock => hblock.place offset lines)
    (fun _ _ => wellFormed_of_mem_plain) (fun _ _ _ _ _ => DeclaredBy.wellFormed) h hin

/-- A source whose body holds a directive, and a label with a **written line break**. -/
def brokenLabelSource : Text := "a \x7b\n  shape: cloud\n  b: \"x\\ny\"\n\x7d".toList

/-- A grammar that makes a tree of that source in which the row of the body **is not its own**, and
fails on any other text. -/
def brokenLabelGrammar : Grammar := fun text =>
  if text = brokenLabelSource then
    .tree ⟨"source_file", true, 0, 32, ⟨0, 0⟩, ⟨3, 1⟩,
      [⟨"declaration", true, 0, 32, ⟨0, 0⟩, ⟨3, 1⟩,
        [⟨"identifier", true, 0, 1, ⟨0, 0⟩, ⟨0, 1⟩, []⟩,
          ⟨"block", true, 2, 32, ⟨-4, 2⟩, ⟨3, 1⟩, []⟩]⟩]⟩
  else .failure

/-- The block in that body, which is placed by the wrong row, is **well formed**. -/
theorem wellFormed_brokenLabel :
    ∃ found, read (some brokenLabelGrammar) 2 brokenLabelSource = some found ∧
      ∃ block : Block, block.OccursIn found.value ∧ block.label = some "x y".toList ∧
        block.WellFormed := by
  let inner : Block :=
    ⟨"b".toList, "  b: \"x\\ny\"".toList, -2, -2, some "x y".toList, none⟩
  let outer : Block := ⟨"a".toList, brokenLabelSource, 0, 3, none, some [inner]⟩
  have hread : (read (some brokenLabelGrammar) 2 brokenLabelSource).map (·.value) =
      some [outer] := by
    decide +kernel
  obtain ⟨found, hfound, hvalue⟩ := Option.map_eq_some_iff.1 hread
  have hin : inner.OccursIn found.value := by
    rw [hvalue]
    exact .inside List.mem_cons_self rfl (.top List.mem_cons_self)
  exact ⟨found, hfound, inner, hin, rfl, wellFormed_of_occursIn_read hfound hin⟩

end Outline

end DiagramOutline
