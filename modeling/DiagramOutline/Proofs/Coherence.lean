import DiagramOutline.Proofs.Tallies

/-! # Metadata that agree with themselves

Whatever a grammar makes of some code, the parts of its metadata fit together: the names are the
first of the shapes that were counted, and the category follows from the markers in the code and the
two counts, however deep the code nests.

* **`Category.ofCounts shapes connections`** — the category that two counts give.
* **`Category.of_unmarked`** — the category of code without markers is that of its counts.
* **`Tally.ProperShapes shapes`** — the shapes are distinct, have names, and are no directives; every
  step of a count keeps this.
* **`Metadata.Coherent code metadata`** — the parts of the metadata fit together.
* **`Metadata.coherent_read`** — those of every code do, with every grammar. -/

namespace DiagramOutline

namespace Category

/-! ## The category of counts -/

/-- Whether code is marked as a **sequence diagram**. -/
def marksSequence (code : Text) : Bool := Text.occursIn "sequence_diagram".toList code

/-- Whether code is marked as a **grid**. -/
def marksGrid (code : Text) : Bool :=
  Text.occursIn "grid-columns".toList code || Text.occursIn "grid-rows".toList code

/-- The category that **two counts** give. -/
def ofCounts (shapes connections : Nat) : Category :=
  if connections = 0 then if shapes = 0 then simple else component
  else if shapes ≤ connections then flow else mixed

variable {code : Text}

/-- The marker of a **sequence diagram** decides before all else. -/
theorem of_marksSequence (h : marksSequence code = true) (shapes connections depth : Int) :
    of code shapes connections depth = sequence :=
  if_pos h

/-- The markers of a **grid** decide next. -/
theorem of_marksGrid (hsequence : marksSequence code = false) (hgrid : marksGrid code = true)
    (shapes connections depth : Int) : of code shapes connections depth = grid := by
  rw [marksSequence] at hsequence
  rw [marksGrid] at hgrid
  rw [of, hsequence, hgrid]
  rfl

/-- The category of code **without markers** is that of its counts, whatever the depth. -/
theorem of_unmarked (hsequence : marksSequence code = false) (hgrid : marksGrid code = false)
    (shapes connections : Nat) (depth : Int) :
    of code shapes connections depth = ofCounts shapes connections := by
  rw [marksSequence] at hsequence
  rw [marksGrid] at hgrid
  rw [of, ofCounts, hsequence, hgrid, if_neg Bool.false_ne_true, if_neg Bool.false_ne_true]
  by_cases hconnections : connections = 0
  · subst hconnections
    by_cases hshapes : shapes = 0
    · subst hshapes
      rfl
    -- without connections, shapes make a component at every depth
    · have hpos : (0 : Int) < shapes := by omega
      have hmixed : ¬ ((0 : Int) < shapes ∧ (0 : Int) < (0 : Nat)) := by omega
      rw [if_neg (by omega), if_neg (by omega), if_neg hmixed, if_pos hpos, ite_self, if_pos rfl,
        if_neg hshapes]
  · by_cases hle : shapes ≤ connections
    · rw [if_pos (by omega), if_neg hconnections, if_pos hle]
    · rw [if_neg (by omega), if_neg (by omega), if_neg (by omega), if_pos (by omega),
        if_neg hconnections, if_neg hle]

/-- Which counts give **which category**. -/
theorem ofCounts_iff (shapes connections : Nat) :
    (ofCounts shapes connections = simple ↔ shapes = 0 ∧ connections = 0) ∧
      (ofCounts shapes connections = component ↔ connections = 0 ∧ 0 < shapes) ∧
        (ofCounts shapes connections = flow ↔ 0 < connections ∧ shapes ≤ connections) ∧
          (ofCounts shapes connections = mixed ↔ 0 < connections ∧ connections < shapes) := by
  unfold ofCounts
  split
  · split
    · simp only [reduceCtorEq, true_iff, false_iff]
      omega
    · simp only [reduceCtorEq, true_iff, false_iff]
      omega
  · split
    · simp only [reduceCtorEq, true_iff, false_iff]
      omega
    · simp only [reduceCtorEq, true_iff, false_iff]
      omega

end Category

namespace Tally

/-! ## Proper shapes -/

/-- Shapes are **proper**: each is counted once, has a name, and is no directive. -/
structure ProperShapes (shapes : List Text) : Prop where
  /-- Each is counted once. -/
  nodup : shapes.Nodup
  /-- Each has a name. -/
  ne_nil : ∀ shape ∈ shapes, shape ≠ []
  /-- None is a directive. -/
  isDirective : ∀ shape ∈ shapes, Keyword.isDirective shape = false

namespace ProperShapes

/-- Without shapes, all are **proper**. -/
theorem nil : ProperShapes [] :=
  ⟨List.nodup_nil, fun _ hmem => absurd hmem List.not_mem_nil,
    fun _ hmem => absurd hmem List.not_mem_nil⟩

/-- A shape that is **added** keeps shapes proper. -/
theorem addShape {tally : Tally} (h : ProperShapes tally.shapes) (name : Text) :
    ProperShapes (tally.addShape name).shapes := by
  constructor
  case nodup => exact nodup_shapes_addShape name h.nodup
  case ne_nil =>
    intro shape hmem
    rcases mem_shapes_addShape.1 hmem with hold | ⟨rfl, hne, -⟩
    · exact h.ne_nil shape hold
    · exact hne
  case isDirective =>
    intro shape hmem
    rcases mem_shapes_addShape.1 hmem with hold | ⟨rfl, -, hdirective⟩
    · exact h.isDirective shape hold
    · exact hdirective

/-- The **first** shapes are proper if all are. -/
theorem take {shapes : List Text} (h : ProperShapes shapes) (count : Nat) :
    ProperShapes (shapes.take count) := by
  have hsub := List.take_sublist count shapes
  exact ⟨h.nodup.sublist hsub, fun shape hmem => h.ne_nil shape (hsub.subset hmem),
    fun shape hmem => h.isDirective shape (hsub.subset hmem)⟩

/-- A **line** keeps shapes proper. -/
theorem readLine {state : Tally × Nat} (h : ProperShapes state.1.shapes) (line : Text) :
    ProperShapes (Metadata.readLine state line).1.shapes := by
  by_cases hskip : isSkipped line = true
  · rw [Metadata.readLine_of_isSkipped hskip]
    exact h
  · rw [Bool.not_eq_true] at hskip
    rw [Metadata.readLine_of_not_isSkipped hskip,
      Metadata.readStatement_eq (Metadata.foldl_readBrace _ state), Metadata.foldl_noteKey]
    dsimp only
    split
    · exact h
    · split
      · apply addShape
        exact h
      · exact h

/-- **Lines** keep shapes proper. -/
theorem foldl_readLine {state : Tally × Nat} (h : ProperShapes state.1.shapes)
    (lines : List Text) : ProperShapes (lines.foldl Metadata.readLine state).1.shapes := by
  induction lines generalizing state with
  | nil => exact h
  | cons line more ih => exact ih (h.readLine line)

mutual

/-- A **node** keeps shapes proper, whatever it says. -/
theorem visit {tally : Tally} (h : ProperShapes tally.shapes) (source : List UInt8)
    (depth : Nat) : (node : SyntaxNode) → ProperShapes (tally.visit source depth node).shapes
  | ⟨kind, _, startByte, endByte, _, _, children⟩ => by
    have hreach : ProperShapes (tally.reach depth).shapes := h
    rw [Tally.visit]
    dsimp only
    split
    -- a connection is counted, and not walked
    · exact h
    -- a name is a key, or a shape, or neither
    · split
      · exact h
      · split
        · exact addShape hreach _
        · exact h
    · exact visitAll hreach source depth children

/-- The **nodes** of a list keep shapes proper. -/
theorem visitAll {tally : Tally} (h : ProperShapes tally.shapes) (source : List UInt8)
    (depth : Nat) :
    (nodes : List SyntaxNode) → ProperShapes (tally.visitAll source depth nodes).shapes
  | [] => h
  | node :: more => by
    rw [Tally.visitAll]
    exact visitAll (visit h source _ node) source depth more

end

end ProperShapes

end Tally

namespace Metadata

/-! ## Coherent metadata -/

/-- Metadata are **coherent**: their parts fit together, and fit the markers in the code. -/
structure Coherent (code : Text) (metadata : Metadata) : Prop where
  /-- Five names are listed, or as many as there are shapes. -/
  length_topIdentifiers : metadata.topIdentifiers.length = min 5 metadata.shapeCount
  /-- Each name is listed once, is not empty, and is no directive. -/
  topIdentifiers : Tally.ProperShapes metadata.topIdentifiers
  /-- The marker of a sequence diagram decides on the category. -/
  sequence : Category.marksSequence code = true → metadata.category = .sequence
  /-- Without it, the markers of a grid do. -/
  grid : Category.marksSequence code = false → Category.marksGrid code = true →
    metadata.category = .grid
  /-- Without any marker, the two counts do. -/
  counts : Category.marksSequence code = false → Category.marksGrid code = false →
    (metadata.category = .simple ↔ metadata.shapeCount = 0 ∧ metadata.connectionCount = 0) ∧
      (metadata.category = .component ↔
        metadata.connectionCount = 0 ∧ 0 < metadata.shapeCount) ∧
      (metadata.category = .flow ↔
        0 < metadata.connectionCount ∧ metadata.shapeCount ≤ metadata.connectionCount) ∧
      (metadata.category = .mixed ↔
        0 < metadata.connectionCount ∧ metadata.connectionCount < metadata.shapeCount)
  /-- At any other depth the category would be the same. -/
  depth : ∀ depth : Int, metadata.category =
    .of code metadata.shapeCount metadata.connectionCount depth

/-- The category is the same **at every depth**. -/
theorem category_eq_of (tally : Tally) (code : Text) (depth : Int) :
    (tally.metadata code).category =
      .of code (tally.metadata code).shapeCount (tally.metadata code).connectionCount depth := by
  show Category.of code tally.shapes.length tally.connections tally.depth =
    .of code tally.shapes.length tally.connections depth
  cases hsequence : Category.marksSequence code with
  | true => rw [Category.of_marksSequence hsequence, Category.of_marksSequence hsequence]
  | false =>
    cases hgrid : Category.marksGrid code with
    | true => rw [Category.of_marksGrid hsequence hgrid, Category.of_marksGrid hsequence hgrid]
    | false => rw [Category.of_unmarked hsequence hgrid, Category.of_unmarked hsequence hgrid]

/-- A tally with **proper shapes** gives coherent metadata. -/
theorem coherent_metadata {tally : Tally} (h : Tally.ProperShapes tally.shapes) (code : Text) :
    Coherent code (tally.metadata code) := by
  constructor
  case length_topIdentifiers => exact List.length_take
  case topIdentifiers => exact h.take maxTopIdentifiers
  case sequence =>
    intro hsequence
    exact Category.of_marksSequence hsequence _ _ _
  case grid =>
    intro hsequence hgrid
    exact Category.of_marksGrid hsequence hgrid _ _ _
  case counts =>
    intro hsequence hgrid
    have hcategory : (tally.metadata code).category =
        .ofCounts tally.shapes.length tally.connections :=
      Category.of_unmarked hsequence hgrid _ _ _
    rw [hcategory]
    exact Category.ofCounts_iff _ _
  case depth => exact category_eq_of tally code

/-- **The metadata of every code are coherent**, with every grammar and without one. -/
theorem coherent_read (grammar : Option Grammar) (code : Text) :
    Coherent code (read grammar code).value := by
  have hplain : Coherent code (plain code) :=
    coherent_metadata (Tally.ProperShapes.nil.foldl_readLine code.lines) code
  cases grammar with
  | none => exact hplain
  | some grammar =>
    unfold read
    dsimp only
    split
    -- a grammar that fails, or makes no tree, leaves the count to the text
    · exact hplain
    · exact hplain
    · exact coherent_metadata (Tally.ProperShapes.nil.visit _ _ _) code

end Metadata

end DiagramOutline
