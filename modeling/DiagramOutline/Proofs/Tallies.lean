import DiagramOutline.Metadata.Parsed
import DiagramOutline.Proofs.Nesting

/-! # Counting in another order

The metadata of code is counted line by line, or node by node. The two meet the same things in
another order, and with other conditions on what counts. This file has what makes them come out
even: depths may be met before or after names, and what sets a style or a class is no shape anyway.

* **`Tally.reach_eq_self`** — a depth that was reached before changes nothing.
* **`Tally.noteName_eq`** — a style or class key is noted and no shape, any other name the reverse.
* **`Metadata.keys_of_quiet`**, **`Metadata.keys_append_brace`** — the keys of a line without
  braces, and of one that ends in its only brace. -/

namespace DiagramOutline

namespace Tally

/-! ## Depths -/

/-- A depth that **was reached** before changes nothing. -/
theorem reach_eq_self {tally : Tally} {depth : Nat} (h : depth ≤ tally.depth) :
    tally.reach depth = tally := by
  rw [reach, Nat.max_eq_left h]

/-- After a depth was met, it **is reached**. -/
theorem le_depth_reach (tally : Tally) (depth : Nat) : depth ≤ (tally.reach depth).depth :=
  Nat.le_max_right _ _

/-- Meeting a depth makes none **less deep**. -/
theorem depth_le_depth_reach (tally : Tally) (depth : Nat) :
    tally.depth ≤ (tally.reach depth).depth :=
  Nat.le_max_left _ _

/-- A shape changes no **depth**. -/
@[simp] theorem depth_addShape (tally : Tally) (name : Text) :
    (tally.addShape name).depth = tally.depth := by
  unfold addShape
  split <;> rfl

/-- A shape sets no **style**. -/
@[simp] theorem hasStyles_addShape (tally : Tally) (name : Text) :
    (tally.addShape name).hasStyles = tally.hasStyles := by
  unfold addShape
  split <;> rfl

/-- A shape uses no **class**. -/
@[simp] theorem hasClasses_addShape (tally : Tally) (name : Text) :
    (tally.addShape name).hasClasses = tally.hasClasses := by
  unfold addShape
  split <;> rfl

/-- A key changes no **depth**. -/
@[simp] theorem depth_noteKey (tally : Tally) (key : Text) :
    (tally.noteKey key).depth = tally.depth := rfl

/-- A connection changes no **depth**. -/
@[simp] theorem depth_addConnection (tally : Tally) :
    tally.addConnection.depth = tally.depth := rfl

/-- It is all one whether a depth is met **before a shape** or after it. -/
theorem addShape_reach (tally : Tally) (depth : Nat) (name : Text) :
    (tally.reach depth).addShape name = (tally.addShape name).reach depth := by
  unfold addShape
  rw [show (tally.reach depth).shapes = tally.shapes from rfl]
  split <;> rfl

/-! ## Keys -/

/-- What sets a style is a **directive**. -/
theorem isDirective_of_isStyleKey {key : Text} (h : isStyleKey key = true) :
    Keyword.isDirective key = true := by
  rw [isStyleKey, Bool.or_eq_true, beq_iff_eq] at h
  cases h with
  | inl hword =>
    rw [hword]
    decide
  | inr hdotted =>
    obtain ⟨rest, rfl⟩ := List.isPrefixOf_iff_prefix.1 hdotted
    -- the word is taken up to its dot, whatever stands behind it
    have hword : ("style.".toList ++ rest).takeWhile (· != '.') = "style".toList := rfl
    rw [Keyword.isDirective, hword]
    decide

/-- What uses or defines classes is a **directive**. -/
theorem isDirective_of_isClassKey {key : Text} (h : isClassKey key = true) :
    Keyword.isDirective key = true := by
  rw [isClassKey, Bool.or_eq_true, beq_iff_eq, beq_iff_eq] at h
  rcases h with rfl | rfl <;> decide

/-- A **directive** is no shape. -/
theorem addShape_of_isDirective {name : Text} (h : Keyword.isDirective name = true)
    (tally : Tally) : tally.addShape name = tally := by
  rw [addShape, h, Bool.or_true, if_pos rfl]

/-- A key that sets **neither** a style nor a class is not noted. -/
theorem noteKey_eq_self {key : Text} (hstyle : isStyleKey key = false)
    (hclass : isClassKey key = false) (tally : Tally) : tally.noteKey key = tally := by
  rw [noteKey, hstyle, hclass, Bool.or_false, Bool.or_false]

/-- The tally with the **name of a statement** outside all connections: its key is noted, and
outside all bodies it is a shape. -/
def noteName (tally : Tally) (depth : Nat) (name : Text) : Tally :=
  if depth = 0 then (tally.noteKey name).addShape name else tally.noteKey name

/-- To note a name as a key **or else** as a shape is to note it as both: no key of a style or a
class is a shape. -/
theorem noteName_eq (tally : Tally) (depth : Nat) (name : Text) :
    (if isStyleKey name || isClassKey name then tally.noteKey name
      else if depth = 0 then tally.addShape name
      else tally) = tally.noteName depth name := by
  rw [noteName]
  by_cases hkey : (isStyleKey name || isClassKey name) = true
  -- such a key is a directive, and adding it as a shape changes nothing
  · have hdirective : Keyword.isDirective name = true := by
      rw [Bool.or_eq_true] at hkey
      cases hkey with
      | inl hstyle => exact isDirective_of_isStyleKey hstyle
      | inr hclass => exact isDirective_of_isClassKey hclass
    rw [if_pos hkey, addShape_of_isDirective hdirective, ite_self]
  -- any other name is not noted as a key
  · rw [if_neg hkey]
    rw [Bool.not_eq_true, Bool.or_eq_false_iff] at hkey
    rw [noteKey_eq_self hkey.1 hkey.2]

/-- A name changes no **depth**. -/
@[simp] theorem depth_noteName (tally : Tally) (depth : Nat) (name : Text) :
    (tally.noteName depth name).depth = tally.depth := by
  unfold noteName
  split
  · rw [depth_addShape, depth_noteKey]
  · rfl

/-- It is all one whether a depth is met **before a name** or after it. -/
theorem noteName_reach (tally : Tally) (reached depth : Nat) (name : Text) :
    (tally.reach reached).noteName depth name = (tally.noteName depth name).reach reached := by
  have hkey : (tally.reach reached).noteKey name = (tally.noteKey name).reach reached := rfl
  unfold noteName
  rw [hkey]
  split
  · exact addShape_reach _ _ _
  · rfl

/-! ## Nodes -/

/-- The nodes of a list and then those of another one are walked **one after the other**. -/
theorem visitAll_append (source : List UInt8) (depth : Nat) (tally : Tally)
    (first second : List SyntaxNode) :
    visitAll source depth tally (first ++ second) =
      visitAll source depth (visitAll source depth tally first) second := by
  induction first generalizing tally with
  | nil => rfl
  | cons node more ih => rw [List.cons_append, visitAll, visitAll, ih]

/-- A node **without a role** of its own for the count is its children. -/
theorem visit_of_role {node : SyntaxNode} (hname : node.role ≠ .name)
    (hconnection : node.role ≠ .connection) (source : List UInt8) (depth : Nat) (tally : Tally) :
    visit source depth tally node = visitAll source depth (tally.reach depth) node.children := by
  obtain ⟨kind, isNamed, startByte, endByte, start, stop, children⟩ := node
  have hname : NodeRole.ofKind kind ≠ .name := hname
  have hconnection : NodeRole.ofKind kind ≠ .connection := hconnection
  rw [visit]
  cases hrole : NodeRole.ofKind kind with
  | name => exact absurd hrole hname
  | connection => exact absurd hrole hconnection
  | comment => rfl
  | body => rfl
  | label => rfl
  | declaration => rfl
  | other => rfl

/-- A **connection** is counted and not walked. -/
theorem visit_of_connection {node : SyntaxNode} (h : node.role = .connection)
    (source : List UInt8) (depth : Nat) (tally : Tally) :
    visit source depth tally node = (tally.reach depth).addConnection := by
  obtain ⟨kind, isNamed, startByte, endByte, start, stop, children⟩ := node
  have h : NodeRole.ofKind kind = .connection := h
  rw [visit, h]

/-- A **name** is noted. -/
theorem visit_of_name {node : SyntaxNode} (h : node.role = .name) (source : List UInt8)
    (depth : Nat) (tally : Tally) :
    visit source depth tally node = (tally.reach depth).noteName depth (node.text source) := by
  obtain ⟨kind, isNamed, startByte, endByte, start, stop, children⟩ := node
  have h : NodeRole.ofKind kind = .name := h
  rw [visit, h]
  exact noteName_eq _ _ _

end Tally

/-! ## Pieces of a line -/

namespace Braces

/-- A text without braces in front of a line goes in front of the **first piece** of the line. -/
theorem segmentsFrom_append {state : Quoting} {offset : Nat} {first rest segment : Text}
    {more : List Text} (hfirst : scan state offset first = [])
    (hrest : segmentsFrom (state.after first) rest = segment :: more) :
    segmentsFrom state (first ++ rest) = (first ++ segment) :: more := by
  induction first generalizing state offset with
  | nil => exact hrest
  | cons c first ih =>
    -- no piece ends at a character that is no brace
    rw [scan_cons, List.append_eq_nil_iff, Option.toList_eq_nil_iff, Option.map_eq_none_iff]
      at hfirst
    obtain ⟨hbrace, hmore⟩ := hfirst
    rw [List.cons_append, segmentsFrom, hbrace, ih hmore hrest]
    rfl

/-- A **quiet** line is one piece. -/
theorem segments_of_quiet {line : Text} (h : Quiet line) : segments line = [line] := by
  have hrest : segmentsFrom (Quoting.after .outside line) [] = [[]] := rfl
  have hpieces := segmentsFrom_append (h.scan 0) hrest
  rwa [List.append_nil] at hpieces

/-- A line that is quiet up to the brace it **ends in** is one piece, and an empty one behind the
brace. -/
theorem segments_append_char {line : Text} (h : Quiet line) (brace : Brace) :
    segments (line ++ [brace.char]) = [line, []] := by
  have hbrace : Quoting.brace? .outside brace.char = some brace :=
    Brace.ofChar?_eq_some_iff.2 rfl
  have hrest : segmentsFrom (Quoting.after .outside line) [brace.char] = [[], []] := by
    rw [h.after, segmentsFrom, hbrace]
    rfl
  have hpieces := segmentsFrom_append (h.scan 0) hrest
  rwa [List.append_nil] at hpieces

end Braces

namespace Metadata

/-- A line of **one piece** has a key where the piece is no connection, also with an empty piece
behind it. -/
theorem keys_of_segments {line piece text : Text} {more : List Text}
    (hsegments : Braces.segments line = piece :: more) (hmore : more = [] ∨ more = [[]])
    (htrim : Text.trim piece = text) (hne : text ≠ []) :
    keys line = if Keyword.hasConnection text then [] else [Keyword.leadingIdentifier text] := by
  have hempty : text.isEmpty = false := List.isEmpty_eq_false_iff.2 hne
  have hrest : (more.map Text.trim).filter (fun segment =>
      !segment.isEmpty && !Keyword.hasConnection segment) = [] := by
    rcases hmore with rfl | rfl <;> rfl
  rw [keys, hsegments, List.map_cons, htrim, List.filter_cons, hrest, hempty]
  cases Keyword.hasConnection text <;> rfl

/-- A **quiet** line has a key where it is no connection. -/
theorem keys_of_quiet {line : Text} (hquiet : Braces.Quiet line) (htight : Text.Tight line) :
    keys line = if Keyword.hasConnection line then [] else [Keyword.leadingIdentifier line] :=
  keys_of_segments (Braces.segments_of_quiet hquiet) (.inl rfl) htight.trim_eq htight.ne_nil

/-- A quiet line has the same key with the **brace of a body** behind it. -/
theorem keys_append_brace {line : Text} (hquiet : Braces.Quiet line) (htight : Text.Tight line) :
    keys (line ++ [' ', '{']) =
      if Keyword.hasConnection line then [] else [Keyword.leadingIdentifier line] := by
  have hblank : Braces.Quiet (line ++ [' ']) := hquiet.append (.of_isAllBlank rfl)
  have hsegments := Braces.segments_append_char hblank .opening
  have htrim : Text.trim (line ++ [' ']) = line := by
    rw [Text.trim_append_right (by decide), htight.trim_eq]
  rw [List.append_assoc] at hsegments
  exact keys_of_segments hsegments (.inr rfl) htrim htight.ne_nil

/-! ## What lines change -/

/-- How many bodies are open **after braces**. A brace that closes none leaves the number at
zero. -/
def depthAfter (depth : Nat) (braces : List Brace) : Nat :=
  braces.foldl (fun depth brace => match brace with
    | .opening => depth + 1
    | .closing => depth - 1) depth

/-- The **greatest number of bodies** that are open behind an opening brace, when `depth` are open
before the braces; zero if none of them opens a body. -/
def deepest (depth : Nat) : List Brace → Nat
  | [] => 0
  | .opening :: more => max (depth + 1) (deepest (depth + 1) more)
  | .closing :: more => deepest (depth - 1) more

/-- Braces change the depth, and in the tally the **greatest** one. -/
theorem foldl_readBrace (braces : List Brace) (state : Tally × Nat) :
    braces.foldl readBrace state =
      (state.1.reach (deepest state.2 braces), depthAfter state.2 braces) := by
  induction braces generalizing state with
  | nil => rw [deepest, Tally.reach_eq_self (Nat.zero_le _)]; rfl
  | cons brace more ih =>
    rw [List.foldl_cons, ih]
    cases brace with
    | opening => simp [readBrace, deepest, depthAfter, Tally.reach, Nat.max_assoc]
    | closing => rfl

/-- Braces change **nothing else** in the tally than the greatest depth. -/
theorem exists_foldl_readBrace (braces : List Brace) (state : Tally × Nat) :
    ∃ reached, braces.foldl readBrace state =
      ({ state.1 with depth := reached }, depthAfter state.2 braces) :=
  ⟨_, foldl_readBrace braces state⟩

/-- Keys change only whether **styles and classes** were met. -/
theorem foldl_noteKey (keys : List Text) (tally : Tally) :
    keys.foldl Tally.noteKey tally =
      { tally with
        hasStyles := tally.hasStyles || keys.any Tally.isStyleKey
        hasClasses := tally.hasClasses || keys.any Tally.isClassKey } := by
  induction keys generalizing tally with
  | nil => simp
  | cons key more ih =>
    rw [List.foldl_cons, ih]
    simp [Tally.noteKey, Bool.or_assoc]

/-! ## Lines -/

/-- What a line **counts for**, given the tally and the depth after its braces. -/
theorem readStatement_eq {state : Tally × Nat} {line : Text} {tally : Tally} {depth : Nat}
    (h : ((Braces.ofLine line).map (·.brace)).foldl readBrace state = (tally, depth)) :
    readStatement state line =
      (if Keyword.hasConnection line then ((keys line).foldl Tally.noteKey tally).addConnection
        else if depth = 0 ∨ depth = 1 ∧ .opening ∈ (Braces.ofLine line).map (·.brace) then
          ((keys line).foldl Tally.noteKey tally).addShape (Keyword.leadingIdentifier line)
        else (keys line).foldl Tally.noteKey tally, depth) := by
  rw [readStatement, h]
  dsimp only
  split
  · rfl
  · split <;> rfl

/-- What neither a shape nor a connection changes, a line changes by its **braces and keys**. -/
theorem apply_readStatement {α : Type} (part : Tally → α)
    (hshape : ∀ tally name, part (tally.addShape name) = part tally)
    (hconnection : ∀ tally, part tally.addConnection = part tally) (state : Tally × Nat)
    (line : Text) :
    part (readStatement state line).1 =
      part ((keys line).foldl Tally.noteKey
        (state.1.reach (deepest state.2 ((Braces.ofLine line).map (·.brace))))) := by
  rw [readStatement_eq (foldl_readBrace _ state)]
  dsimp only
  split
  · exact hconnection _
  · split
    · exact hshape _ _
    · rfl

/-- A line that is **skipped** between statements counts for nothing. -/
theorem readLine_of_isSkipped {line : Text} (h : isSkipped line = true) (state : Tally × Nat) :
    readLine state line = state := by
  unfold isSkipped at h
  unfold readLine
  cases htrim : Text.trim line with
  | nil => rfl
  | cons c rest =>
    rw [htrim] at h
    exact if_pos (beq_iff_eq.1 h)

/-- Any other line counts as its **trimmed** text. -/
theorem readLine_of_not_isSkipped {line : Text} (h : isSkipped line = false)
    (state : Tally × Nat) : readLine state line = readStatement state (Text.trim line) := by
  unfold isSkipped at h
  unfold readLine
  cases htrim : Text.trim line with
  | nil =>
    rw [htrim] at h
    cases h
  | cons c rest =>
    rw [htrim] at h
    exact if_neg (beq_eq_false_iff_ne.1 h)

end Metadata

end DiagramOutline
