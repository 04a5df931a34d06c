import DiagramOutline.Proofs.Diagram.Nodes

/-! # Both readings outline a diagram alike

The outline of a diagram is the same with a grammar and without one, whatever the grammar does with
each of the texts it is given: it fails, makes no tree, or makes the syntax tree of the diagram.

* **`Diagram.Faithful grammar`** — on diagrams `grammar` makes no tree but a faithful one.
* **`Diagram.read_text_eq_plain`** — with a faithful grammar the outline of a diagram is the one
  that is read off its text. -/

namespace DiagramOutline.Diagram

open Outline

/-- A grammar is **faithful** to diagrams: of the text of a diagram it makes the tree of a diagram
with that text, or none, and it may fail. -/
def Faithful (grammar : Grammar) : Prop :=
  ∀ items, Outlinable items →
    grammar (text items) = .failure ∨ grammar (text items) = .noTree ∨
      ∃ other, Outlinable other ∧ text other = text items ∧
        grammar (text items) = .tree (tree other)

/-- With a faithful grammar the outline of a diagram is the one that is **read off its text**, once
more interiors are followed than the text has characters. -/
theorem exists_parsed_text {grammar : Grammar} (hgrammar : Faithful grammar) {depth : Nat}
    {items : List Item} (h : Outlinable items) (hdepth : (text items).length < depth) :
    ∃ notices, parsed grammar depth (text items) = some ⟨plain (text items), notices⟩ := by
  induction depth generalizing items with
  | zero => exact absurd hdepth (Nat.not_lt_zero _)
  | succ depth ih =>
    rcases hgrammar items h with hfailure | hnoTree | ⟨other, hother, htext, htree⟩
    · refine ⟨[.outlineFellBack], ?_⟩
      rw [parsed, hfailure]
    · refine ⟨[.noTree], ?_⟩
      rw [parsed, hnoTree]
    · rw [← htext] at htree hdepth ⊢
      refine exists_parsed_eq_plain htree (mirrors_tree hother) ?_
      -- interiors are shorter texts of diagrams, on which the grammar answers as it likes again
      intro statement hstatement interior hinterior
      have hshorter : interior.text.length < (text other).length :=
        Statement.length_interior_lt hstatement hinterior
      rw [statements_text hother] at hstatement
      obtain ⟨inside, hinside, heq⟩ :=
        exists_items_of_mem_statementsOf hother hstatement hinterior
      rw [heq] at hshorter ⊢
      exact ih hinside (by omega)

/-! ## A grammar of known diagrams -/

/-- The grammar that makes the trees of **known diagrams** and fails on every other text. -/
def knownGrammar (diagrams : List (List Item)) : Grammar := fun source =>
  match diagrams.find? (text · = source) with
  | some items => .tree (tree items)
  | none => .failure

/-- The grammar of known diagrams is **faithful**. -/
theorem faithful_knownGrammar {diagrams : List (List Item)}
    (h : ∀ items ∈ diagrams, Outlinable items) : Faithful (knownGrammar diagrams) := by
  intro items _
  rw [knownGrammar]
  split
  · next other hfind =>
    have hsame : decide (text other = text items) = true := by
      have hfound := List.find?_some hfind
      exact hfound
    have hother := h other (List.mem_of_find?_eq_some hfind)
    exact .inr (.inr ⟨other, hother, of_decide_eq_true hsame, rfl⟩)
  · exact .inl rfl

/-! ## The outline of a diagram -/

/-- **With a faithful grammar and without one, the outline of a diagram is the same.** The grammar
may answer in another way at each level of nesting. -/
theorem read_text_eq_plain {grammar : Grammar} {items : List Item} {depth : Nat}
    (h : Outlinable items) (hgrammar : Faithful grammar) (hdepth : (text items).length < depth) :
    ∃ notices, read (some grammar) depth (text items) = some ⟨plain (text items), notices⟩ ∧
      read none depth (text items) = some ⟨plain (text items), []⟩ := by
  obtain ⟨notices, hparsed⟩ := exists_parsed_text hgrammar h hdepth
  exact ⟨notices, hparsed, rfl⟩

/-- A name of **one letter**. -/
def letterName (c : Char) (h : Keyword.startsIdentifier c = true) : Name := ⟨⟨c, [], h, rfl⟩, []⟩

/-- The name of the **label property**. -/
def labelName : Name := ⟨⟨'l', "abel".toList, by decide, by decide⟩, []⟩

/-- The blanks at a **level** of nesting. -/
def indentOf (level : Nat) : Indent :=
  ⟨List.replicate level ' ', fun _ h => List.eq_of_mem_replicate h ▸ List.mem_cons_self⟩

/-- The **arrow** from one endpoint to the next. -/
def arrow : Token := ⟨"->".toList, by decide⟩

/-- Items with a comment, and a connection **whose body has a label**. -/
def labelledItems : List Item :=
  [.comment (indentOf 1) ⟨" é".toList, by decide⟩,
    .container (indentOf 1)
      ⟨.connection ⟨letterName 'b' rfl, ⟨arrow, letterName 'c' rfl⟩, []⟩, .absent⟩ trivial
      [.leaf (indentOf 2)
        ⟨.shape labelName, .bare ⟨['d'], nofun, rfl, List.forall_mem_singleton.2 (by decide), rfl⟩⟩
        rfl]
      (indentOf 1)]

/-- A container **around** these items. -/
def nestedItems : List Item :=
  [.container (indentOf 0)
    ⟨.shape (letterName 'a' rfl), .quoted ⟨['é'], List.forall_mem_singleton.2 (by decide), rfl⟩⟩
    trivial labelledItems (indentOf 0)]

/-- These items are of the kind that both readings outline alike. -/
theorem outlinable_labelledItems : Outlinable labelledItems := by
  have hremark : ∀ c ∈ " é".toList, Brace.ofChar? c = none := by
    simp [Brace.ofChar?]
  have hsource : (letterName 'b' rfl).text ≠ Label.property := by decide
  exact ⟨hremark, ⟨⟨hsource, fun _ => trivial⟩, ⟨⟨trivial, fun h => absurd h Bool.false_ne_true⟩,
    trivial⟩⟩, trivial⟩

/-- A grammar that knows the container and the items inside it, and fails on the body inside these,
outlines them like the text. -/
theorem read_text_nestedItems :
    ∃ notices, read (some (knownGrammar [nestedItems, labelledItems ++ [.blank (indentOf 0)]])) 100
        (text nestedItems) = some ⟨plain (text nestedItems), notices⟩ ∧
      read none 100 (text nestedItems) = some ⟨plain (text nestedItems), []⟩ := by
  have hnested : Outlinable nestedItems :=
    ⟨⟨⟨trivial, fun h => absurd h Bool.false_ne_true⟩, outlinable_labelledItems⟩, trivial⟩
  have hinside : Outlinable (labelledItems ++ [.blank (indentOf 0)]) :=
    outlinable_concat_blank outlinable_labelledItems (indentOf 0)
  refine read_text_eq_plain hnested (faithful_knownGrammar ?_) (by decide +kernel)
  intro items hitems
  rw [List.mem_cons, List.mem_singleton] at hitems
  rcases hitems with rfl | rfl
  · exact hnested
  · exact hinside

end DiagramOutline.Diagram
