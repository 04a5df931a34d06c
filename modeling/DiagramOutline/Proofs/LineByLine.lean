import DiagramOutline.Proofs.RelatedLines
import DiagramOutline.Proofs.Relabelling
import DiagramOutline.Proofs.RoundTrip

/-! # Sources that are related line by line

Two sources whose lines are related one by one have the same outline, over their own lines, if the
relation keeps what an outline reads off a line. If it keeps all of that but labels, the outlines are
the same exactly if the labels of their statements are, at every depth.

* **`Block.onLines lines block`** — `block` with the code that its lines have among `lines`, at
  every depth; all else stays.
* **`Outline.Everywhere P source source'`** — `P` holds of the statements with blocks that have the
  same places in two sources, at every depth.
* **`KeepsForests.relabel_plain_eq_iff`** — when the outlines of two sources are the same, whatever
  is made of the labels.
* **`KeepsOutlines.plain_eq`** — the outlines of two sources that are related line by line;
  `KeepsOutlines.plain_eq_of_statements` asks this only of their statements. -/

namespace DiagramOutline

/-! ## Blocks over other lines -/

namespace Block

/-- A block **over other lines**: it and all blocks inside it have the code that their lines have
there. -/
def onLines (lines : List Text) (block : Block) : Block := place 0 lines block

/-- Other lines change no **name**. -/
@[simp] theorem name_onLines (lines : List Text) (block : Block) :
    (block.onLines lines).name = block.name := by
  cases block
  rfl

/-- Other lines do not change where a block **starts**. -/
@[simp] theorem startLine_onLines (lines : List Text) (block : Block) :
    (block.onLines lines).startLine = block.startLine := by
  simp [onLines]

/-- Other lines do not change where a block **ends**. -/
@[simp] theorem endLine_onLines (lines : List Text) (block : Block) :
    (block.onLines lines).endLine = block.endLine := by
  simp [onLines]

/-- Over other lines a block has **their** code. -/
@[simp] theorem code_onLines (lines : List Text) (block : Block) :
    (block.onLines lines).code = linesBetween lines block.startLine block.endLine := by
  rw [onLines, code_place]
  simp

/-- Over other lines a block has the same **children**, over them too. -/
theorem children_onLines {block : Block} (h : block.children ≠ some []) (lines : List Text) :
    (block.onLines lines).children = block.children.map (·.map (onLines lines)) := by
  rw [onLines, children_place]
  cases hchildren : block.children with
  | none => rfl
  | some children =>
    rw [Option.bind_some, Option.map_some, adopt_eq_some_iff]
    exact ⟨fun hnil => h (by rw [hchildren, hnil]), rfl⟩

/-- Directives are left out **before or after** lines are changed. -/
theorem withoutDirectives_map_onLines (lines : List Text) (blocks : List Block) :
    withoutDirectives (blocks.map (onLines lines)) =
      (withoutDirectives blocks).map (onLines lines) := by
  simp only [withoutDirectives, List.filter_map, Function.comp_def, isDirective, name_onLines]

/-- Blocks that are adopted over other lines **lose** those again. -/
theorem adopt_map_onLines (offset : Int) (lines lines' : List Text) (blocks : List Block) :
    adopt offset lines (blocks.map (onLines lines')) = adopt offset lines blocks := by
  cases blocks with
  | nil => rfl
  | cons block more =>
    simp only [List.map_cons, adopt, placeAll, placeAll_eq_map, onLines, place_place, List.map_map,
      Function.comp_def, Int.zero_add]

/-- Blocks that are adopted and then put over other lines are **adopted in those**. -/
theorem placeChildren_zero_adopt (offset : Int) (lines lines' : List Text) (blocks : List Block) :
    placeChildren 0 lines' (adopt offset lines blocks) = adopt offset lines' blocks := by
  cases blocks with
  | nil => rfl
  | cons block more =>
    simp only [adopt, placeChildren, placeAll, placeAll_eq_map, place_place, List.map_map,
      Function.comp_def, Int.add_zero]

/-- Blocks that are adopted in the **same place** are the same over any lines. -/
theorem map_onLines_eq_of_adopt_eq {offset : Int} {lines : List Text} {blocks blocks' : List Block}
    (h : adopt offset lines blocks = adopt offset lines blocks') (lines' : List Text) :
    blocks.map (onLines lines') = blocks'.map (onLines lines') := by
  have hplaced : blocks.map (place offset lines) = blocks'.map (place offset lines) := by
    cases blocks <;> cases blocks' <;> simp_all [adopt, placeAll_eq_map]
  -- back from where they were placed
  have hback := congrArg (List.map (place (-offset) lines')) hplaced
  have hround : place (-offset) lines' ∘ place offset lines = onLines lines' := by
    funext block
    rw [Function.comp_apply, place_place, Int.add_right_neg, onLines]
  rwa [List.map_map, List.map_map, hround] at hback

/-- Labels are changed before or after blocks are **put over other lines**. -/
theorem map_relabel_map_onLines (change : Option Text → Option Text) (lines : List Text)
    (blocks : List Block) :
    (blocks.map (onLines lines)).map (relabel change) =
      (blocks.map (relabel change)).map (onLines lines) := by
  simp only [List.map_map, Function.comp_def, onLines, relabel_place]

/-- Adopted blocks are the **same** over other lines, whatever is made of their labels, exactly if
the blocks are, over the lines that the others have already. -/
theorem relabelChildren_adopt_eq_iff (change : Option Text → Option Text) (offset : Int)
    (lines lines' : List Text) {own : List Text} (blocks : List Block) {blocks' : List Block}
    (hown : blocks'.map (onLines own) = blocks') :
    relabelChildren change (adopt offset lines' blocks') =
        relabelChildren change (placeChildren 0 lines' (adopt offset lines blocks)) ↔
      blocks'.map (relabel change) = (blocks.map (onLines own)).map (relabel change) := by
  rw [placeChildren_zero_adopt, relabelChildren_adopt, relabelChildren_adopt]
  constructor
  · intro hadopt
    have hsame := map_onLines_eq_of_adopt_eq hadopt own
    rwa [← map_relabel_map_onLines, ← map_relabel_map_onLines, hown] at hsame
  · intro hsame
    rw [hsame, map_relabel_map_onLines, adopt_map_onLines]

end Block

/-! ## Facing statements -/

namespace Outline

/-- Two statements **face** each other in two sources: they have the same number, and no directive
names them, so that both have blocks in the outlines. -/
structure Facing (source source' : Text) (statement statement' : Statement) (index : Nat) :
    Prop where
  /-- The one is the statement of that number in the first source. -/
  left : (statements 0 source.lines)[index]? = some statement
  /-- The other one is the statement of that number in the second source. -/
  right : (statements 0 source'.lines)[index]? = some statement'
  /-- No directive names them. -/
  isDirective : Keyword.isDirective (statement.name index) = false

/-- **Everywhere** in two sources the statements that face each other satisfy a property: those of
the sources, and everywhere those of their interiors. -/
inductive Everywhere (P : Statement → Statement → Prop) : Text → Text → Prop where
  /-- The statements of the sources satisfy it, and so it is everywhere in their interiors. -/
  | intro {source source' : Text} :
    (∀ {statement statement' index}, Facing source source' statement statement' index →
      P statement statement') →
    (∀ {statement statement' index}, Facing source source' statement statement' index →
      ∀ interior interior', statement.interior? = some interior →
        statement'.interior? = some interior' → Everywhere P interior.text interior'.text) →
    Everywhere P source source'

/-- Everywhere is at the statements of the sources and **everywhere in their interiors**. -/
theorem everywhere_iff {P : Statement → Statement → Prop} {source source' : Text} :
    Everywhere P source source' ↔
      ∀ statement statement' index, Facing source source' statement statement' index →
        P statement statement' ∧
          ∀ interior interior', statement.interior? = some interior →
            statement'.interior? = some interior' →
              Everywhere P interior.text interior'.text := by
  constructor
  · rintro ⟨hhere, hinside⟩ statement statement' index hfacing
    exact ⟨hhere hfacing, hinside hfacing⟩
  · intro hall
    exact ⟨fun hfacing => (hall _ _ _ hfacing).1, fun hfacing => (hall _ _ _ hfacing).2⟩

section Facing

variable {source source' : Text} {statement statement' : Statement} {index : Nat}
  (hfacing : Facing source source' statement statement' index)

include hfacing

/-- A statement that faces another one is **of its source**. -/
theorem Facing.mem : statement ∈ statements 0 source.lines := List.mem_of_getElem? hfacing.left

/-- And so is the other one. -/
theorem Facing.mem' : statement' ∈ statements 0 source'.lines := List.mem_of_getElem? hfacing.right

/-- Facing statements of sources whose statements are related are **related**. -/
theorem Facing.related {R : Text → Text → Prop}
    (h : List.Forall₂ (Statement.Related R) (statements 0 source.lines)
      (statements 0 source'.lines)) : statement.Related R statement' := by
  obtain ⟨hindex, hleft⟩ := List.getElem?_eq_some_iff.1 hfacing.left
  obtain ⟨hindex', hright⟩ := List.getElem?_eq_some_iff.1 hfacing.right
  rw [← hleft, ← hright]
  exact h.get hindex hindex'

/-- The interior of a statement that faces another one is **shorter** than the source. -/
theorem Facing.length_interior_lt {interior : Interior}
    (h : statement.interior? = some interior) : interior.text.length < source.length :=
  Statement.length_interior_lt hfacing.mem h

end Facing

/-- What **all** statements satisfy is so everywhere. -/
theorem everywhere_of_forall {P : Statement → Statement → Prop}
    (h : ∀ statement statement', P statement statement') (source source' : Text) :
    Everywhere P source source' := by
  induction hlength : source.length using Nat.strongRecOn generalizing source source' with
  | ind length ih =>
    subst hlength
    rw [everywhere_iff]
    intro statement statement' index hfacing
    refine ⟨h _ _, ?_⟩
    intro interior interior' hinterior _
    exact ih _ (hfacing.length_interior_lt hinterior) _ _ rfl

/-- Over **its own lines** an outline is the same. -/
theorem map_onLines_plain (source : Text) :
    (plain source).map (Block.onLines source.lines) = plain source := by
  have hsame : ∀ block ∈ plain source, block.onLines source.lines = block := by
    intro block hmem
    obtain ⟨statement, hstatement, index, rfl⟩ :=
      exists_statement_of_mem_allBlocks (Block.mem_withoutDirectives.1 hmem).1
    have hcode := Statement.code_eq_linesBetween hstatement
    have hchildren : Block.placeChildren 0 source.lines (childrenOf source statement) =
        childrenOf source statement := by
      unfold childrenOf
      cases statement.interior? with
      | none => rfl
      | some interior => exact Block.placeChildren_zero_adopt _ _ _ _
    simp only [blockOf, Block.onLines, Block.place, Int.add_zero, ← hcode, hchildren]
  rw [List.map_congr_left hsame, List.map_id']

end Outline

/-- Two lists whose elements are kept **alike** are the same where they are filtered exactly if the
elements that are kept are the same, one for one. -/
theorem filter_eq_filter_iff {α : Type} {p : α → Bool} {items items' : List α}
    (h : List.Forall₂ (fun item item' => p item = p item') items items') :
    items.filter p = items'.filter p ↔
      List.Forall₂ (fun item item' => p item = true → item = item') items items' := by
  induction h with
  | nil => exact ⟨fun _ => .nil, fun _ => rfl⟩
  | @cons item item' more more' hitem _ ih =>
    rw [List.forall₂_cons, ← ih, List.filter_cons, List.filter_cons, ← hitem]
    cases p item with
    | true => simp
    | false => simp

namespace Outline

/-- The block of a number is that of the **statement** of the number. -/
theorem getElem?_allBlocks (source : Text) (index : Nat) :
    (allBlocks source)[index]? =
      (statements 0 source.lines)[index]?.map fun statement => blockOf source statement index := by
  rw [allBlocks_eq, List.getElem?_map, List.getElem?_zipIdx, Option.map_map, Nat.zero_add]
  rfl

/-- The blocks of two sources with as many statements satisfy a relation one for one exactly if those
of **statements of one number** do. -/
theorem forall₂_allBlocks_iff {S : Block → Block → Prop} {source source' : Text}
    (h : (statements 0 source.lines).length = (statements 0 source'.lines).length) :
    List.Forall₂ S (allBlocks source) (allBlocks source') ↔
      ∀ (index : Nat) (statement statement' : Statement),
        (statements 0 source.lines)[index]? = some statement →
          (statements 0 source'.lines)[index]? = some statement' →
            S (blockOf source statement index) (blockOf source' statement' index) := by
  constructor
  · intro hall index statement statement' hleft hright
    have hblock := getElem?_allBlocks source index
    have hblock' := getElem?_allBlocks source' index
    rw [hleft, Option.map_some] at hblock
    rw [hright, Option.map_some] at hblock'
    obtain ⟨hindex, hblock⟩ := List.getElem?_eq_some_iff.1 hblock
    obtain ⟨hindex', hblock'⟩ := List.getElem?_eq_some_iff.1 hblock'
    rw [← hblock, ← hblock']
    exact hall.get hindex hindex'
  · intro hall
    refine List.forall₂_iff_get.2 ⟨?_, ?_⟩
    · simpa only [allBlocks_eq, List.length_map, List.length_zipIdx] using h
    · intro index hindex hindex'
      have hblock := List.getElem?_eq_getElem hindex
      have hblock' := List.getElem?_eq_getElem hindex'
      rw [getElem?_allBlocks, Option.map_eq_some_iff] at hblock hblock'
      obtain ⟨statement, hleft, hblock⟩ := hblock
      obtain ⟨statement', hright, hblock'⟩ := hblock'
      rw [List.get_eq_getElem, List.get_eq_getElem, ← hblock, ← hblock']
      exact hall index statement statement' hleft hright

end Outline

namespace KeepsForests

variable {R : Text → Text → Prop} {P : Statement → Statement → Prop}
  {change : Option Text → Option Text} {source source' : Text} {statement statement' : Statement}

/-- Facing statements of sources with related statements have interiors with **related
statements**. -/
theorem facing_interior (h : KeepsForests R) {index : Nat}
    (hstatements : List.Forall₂ (Statement.Related R) (DiagramOutline.statements 0 source.lines)
      (DiagramOutline.statements 0 source'.lines))
    (hfacing : Outline.Facing source source' statement statement' index) :
    Option.Rel (fun interior interior' => interior.line = interior'.line ∧
        List.Forall₂ (Statement.Related R) (DiagramOutline.statements 0 interior.text.lines)
          (DiagramOutline.statements 0 interior'.text.lines))
      statement.interior? statement'.interior? := by
  have hinterior := h.interior (hfacing.related hstatements) (Statement.lines_code hfacing.mem)
    (Statement.lines_code hfacing.mem')
  generalize statement.interior? = found at hinterior ⊢
  generalize statement'.interior? = found' at hinterior ⊢
  cases hinterior with
  | none => exact .none
  | some hrelated => exact .some ⟨hrelated.line, h.statements hrelated.lines 0⟩

/-- The blocks of facing statements are the **same** over their own lines exactly if their labels
are and the outlines of their interiors are, whatever is made of the labels. -/
theorem relabel_blockOf_eq_iff (h : KeepsForests R) {index : Nat}
    (hstatements : List.Forall₂ (Statement.Related R) (DiagramOutline.statements 0 source.lines)
      (DiagramOutline.statements 0 source'.lines))
    (hfacing : Outline.Facing source source' statement statement' index) :
    (Outline.blockOf source' statement' index).relabel change =
        ((Outline.blockOf source statement index).onLines source'.lines).relabel change ↔
      change statement'.label = change statement.label ∧
        ∀ interior interior', statement.interior? = some interior →
          statement'.interior? = some interior' →
            (Outline.plain interior'.text).map (Block.relabel change) =
              ((Outline.plain interior.text).map (Block.onLines interior'.text.lines)).map
                (Block.relabel change) := by
  have hrelated := hfacing.related hstatements
  have hlast := lastLine_eq hrelated
  have hcode : statement'.code =
      Block.linesBetween source'.lines statement.line statement.lastLine := by
    rw [Statement.code_eq_linesBetween hfacing.mem', ← hrelated.line, ← hlast]
  have hchildren : Block.relabelChildren change (Outline.childrenOf source' statement') =
        Block.relabelChildren change
          (Block.placeChildren 0 source'.lines (Outline.childrenOf source statement)) ↔
      ∀ interior interior', statement.interior? = some interior →
        statement'.interior? = some interior' →
          (Outline.plain interior'.text).map (Block.relabel change) =
            ((Outline.plain interior.text).map (Block.onLines interior'.text.lines)).map
              (Block.relabel change) := by
    have hinterior := h.facing_interior hstatements hfacing
    unfold Outline.childrenOf
    generalize statement.interior? = found at hinterior ⊢
    generalize statement'.interior? = found' at hinterior ⊢
    cases hinterior with
    | none => exact iff_of_true rfl fun _ _ hnone => nomatch hnone
    | @some interior interior' hinterior =>
      rw [Option.bind_some, Option.bind_some, hinterior.1,
        Block.relabelChildren_adopt_eq_iff change interior'.line source.lines source'.lines
          (Outline.plain interior.text) (Outline.map_onLines_plain interior'.text)]
      constructor
      · rintro hsame _ _ ⟨⟩ ⟨⟩
        exact hsame
      · intro hall
        exact hall _ _ rfl rfl
  simp only [Outline.blockOf, Block.onLines, Block.place, Block.relabel, Int.add_zero, hcode,
    hrelated.line, hlast, h.statementName hrelated, Block.mk.injEq, true_and]
  rw [← hchildren]

/-- Outlines are the **same** over their own lines exactly if the blocks of all facing statements
are, whatever is made of their labels. -/
theorem relabel_plain_eq_iff_blockOf (h : KeepsForests R)
    (hstatements : List.Forall₂ (Statement.Related R) (DiagramOutline.statements 0 source.lines)
      (DiagramOutline.statements 0 source'.lines)) :
    (Outline.plain source').map (Block.relabel change) =
        ((Outline.plain source).map (Block.onLines source'.lines)).map (Block.relabel change) ↔
      ∀ statement statement' index, Outline.Facing source source' statement statement' index →
        (Outline.blockOf source' statement' index).relabel change =
          ((Outline.blockOf source statement index).onLines source'.lines).relabel change := by
  have hlength := hstatements.length_eq.symm
  -- statements of one number have blocks of one name, so both or neither are directives
  have hname : ∀ {index : Nat} {statement statement' : Statement},
      (DiagramOutline.statements 0 source'.lines)[index]? = some statement' →
        (DiagramOutline.statements 0 source.lines)[index]? = some statement →
          statement'.name index = statement.name index := by
    intro index statement statement' hright hleft
    obtain ⟨hindex, rfl⟩ := List.getElem?_eq_some_iff.1 hleft
    obtain ⟨hindex', rfl⟩ := List.getElem?_eq_some_iff.1 hright
    exact (h.statementName (hstatements.get hindex hindex') index).symm
  have hnamed : List.Forall₂ (fun block block' => (!Block.isDirective block) = !block'.isDirective)
      ((Outline.allBlocks source').map (Block.relabel change))
      (((Outline.allBlocks source).map (Block.onLines source'.lines)).map
        (Block.relabel change)) := by
    rw [List.forall₂_map_left_iff, List.forall₂_map_right_iff, List.forall₂_map_right_iff,
      Outline.forall₂_allBlocks_iff hlength]
    intro index statement' statement hright hleft
    simp only [Block.isDirective, Block.name_relabel, Block.name_onLines, Outline.blockOf,
      hname hright hleft]
  rw [Outline.plain, Outline.plain, ← Block.withoutDirectives_map_onLines,
    ← Block.withoutDirectives_map_relabel, ← Block.withoutDirectives_map_relabel,
    Block.withoutDirectives, Block.withoutDirectives, filter_eq_filter_iff hnamed,
    List.forall₂_map_left_iff, List.forall₂_map_right_iff, List.forall₂_map_right_iff,
    Outline.forall₂_allBlocks_iff hlength]
  have hkept : ∀ (text : Text) (statement : Statement) (index : Nat),
      (!((Outline.blockOf text statement index).relabel change).isDirective) = true ↔
        Keyword.isDirective (statement.name index) = false := by
    intro text statement index
    rw [Bool.not_eq_true', Block.isDirective, Block.name_relabel, Outline.blockOf]
  constructor
  · intro hall statement statement' index hfacing
    refine hall index statement' statement hfacing.right hfacing.left ((hkept _ _ _).2 ?_)
    rw [hname hfacing.right hfacing.left, hfacing.isDirective]
  · intro hall index statement' statement hright hleft hdirective
    rw [hkept, hname hright hleft] at hdirective
    exact hall statement statement' index ⟨hleft, hright, hdirective⟩

/-- **Sources with related statements have the same outline** over their own lines, whatever is made
of the labels, exactly if facing statements have the same labels everywhere. -/
theorem relabel_plain_eq_iff (h : KeepsForests R)
    (hlabel : ∀ {statement statement' : Statement}, statement.Related R statement' →
      statement.code.lines = statement.lines → statement'.code.lines = statement'.lines →
        (change statement'.label = change statement.label ↔ P statement statement'))
    (hstatements : List.Forall₂ (Statement.Related R) (DiagramOutline.statements 0 source.lines)
      (DiagramOutline.statements 0 source'.lines)) :
    (Outline.plain source').map (Block.relabel change) =
        ((Outline.plain source).map (Block.onLines source'.lines)).map (Block.relabel change) ↔
      Outline.Everywhere P source source' := by
  -- the interiors have related statements too, and the first of them is shorter than its source
  induction hlength : source.length using Nat.strongRecOn generalizing source source' with
  | ind length ih =>
    subst hlength
    rw [relabel_plain_eq_iff_blockOf h hstatements, Outline.everywhere_iff]
    refine forall_congr' fun statement => forall_congr' fun statement' =>
      forall_congr' fun index => forall_congr' fun hfacing => ?_
    have hrelated := hfacing.related hstatements
    rw [relabel_blockOf_eq_iff h hstatements hfacing,
      hlabel hrelated (Statement.lines_code hfacing.mem) (Statement.lines_code hfacing.mem')]
    refine and_congr_right fun _ => forall_congr' fun interior => forall_congr' fun interior' =>
      forall_congr' fun hinterior => forall_congr' fun hinterior' => ?_
    have hinner := h.facing_interior hstatements hfacing
    rw [hinterior, hinterior'] at hinner
    cases hinner with
    | some hinner => exact ih _ (hfacing.length_interior_lt hinterior) hinner.2 rfl

end KeepsForests

namespace KeepsOutlines

variable {R : Text → Text → Prop}

/-- Sources with **related statements** have the same outline, each over its own lines, whatever
stands between the statements. -/
theorem plain_eq_of_statements (h : KeepsOutlines R) {source source' : Text}
    (hstatements : List.Forall₂ (Statement.Related R) (DiagramOutline.statements 0 source.lines)
      (DiagramOutline.statements 0 source'.lines)) :
    Outline.plain source' = (Outline.plain source).map (Block.onLines source'.lines) := by
  have hsame : (Outline.plain source').map (Block.relabel id) =
      ((Outline.plain source).map (Block.onLines source'.lines)).map (Block.relabel id) := by
    refine (h.relabel_plain_eq_iff ?_ hstatements).2
      (Outline.everywhere_of_forall (fun _ _ => trivial) _ _)
    intro statement statement' hrelated hlines hlines'
    exact iff_of_true (h.statementLabel hrelated hlines hlines').symm trivial
  rwa [Block.map_relabel_id, Block.map_relabel_id] at hsame

/-- **Sources that are related line by line have the same outline**, each over its own lines: the
same names, labels, line numbers and children at every depth. -/
theorem plain_eq (h : KeepsOutlines R) {source source' : Text}
    (hlines : List.Forall₂ R source.lines source'.lines) :
    Outline.plain source' = (Outline.plain source).map (Block.onLines source'.lines) :=
  h.plain_eq_of_statements (h.statements hlines 0)

end KeepsOutlines

end DiagramOutline
