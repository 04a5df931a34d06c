import DiagramOutline.Proofs.Relocation
import DiagramOutline.Proofs.Spans
import DiagramOutline.Proofs.Values

/-! # Labels of a body's own

A label property is the own one of a body when it begins a statement directly in it: behind the brace
that opens the body, behind one that closes a body inside it, or at the start of a line. The label of
a body is read off the lines behind the first one, and the open bodies are counted line by line from
the first line on. So what is read is the first own property where that starts a line; a property that
shares its line with the brace before it is passed over, and where the count is not that of the body
alone, a property of another body may be read in its place.

* **`Label.own?`** — the first own label property of a body, by its interior.
* **`Label.read?`** — the label property that is read for a code.
* **`Label.exists_onLine_iff`** — the own properties that start a line, by the lines of the body.
* **`Label.label_own_iff`** — when the first own property is the one that is read. -/

namespace DiagramOutline

namespace Text

/-! ## Where lines start -/

/-- What the **lines of a text** are hold no newline. -/
theorem newline_notMem_of_lines_eq {text : Text} {all : List Text} (h : lines text = all) :
    ∀ line ∈ all, '\n' ∉ line := by
  rintro line hline
  rw [← h] at hline
  exact newline_notMem_of_mem_lines hline

/-- The text of lines is **one shorter** than what they take up: the last one is not ended. -/
theorem length_unlines_add_one {lines : List Text} (h : lines ≠ []) :
    (unlines lines).length + 1 = extent lines := by
  have hlength := length_unlines_concat lines.dropLast (lines.getLast h)
  rw [List.dropLast_concat_getLast] at hlength
  conv_rhs => rw [← List.dropLast_concat_getLast h]
  rw [hlength, extent_append, extent_cons, extent_nil]
  omega

/-- The lines **before a line** are the front part of a text, with the newline that ends them. -/
theorem take_extent {before : List Text} (hne : before ≠ []) (line : Text) (after : List Text) :
    (unlines (before ++ line :: after)).take (extent before) = unlines before ++ ['\n'] := by
  have hlength : (unlines before ++ ['\n']).length = extent before := by
    rw [List.length_append, ← length_unlines_add_one hne]
    rfl
  rw [unlines_append hne (List.cons_ne_nil _ _), List.append_cons, ← hlength, List.take_left]

/-- Behind the lines **before a line** stands the line with those after it. -/
theorem drop_extent {before : List Text} (hne : before ≠ []) (line : Text) (after : List Text) :
    (unlines (before ++ line :: after)).drop (extent before) = unlines (line :: after) := by
  have hlength : (unlines before ++ ['\n']).length = extent before := by
    rw [List.length_append, ← length_unlines_add_one hne]
    rfl
  rw [unlines_append hne (List.cons_ne_nil _ _), List.append_cons, ← hlength, List.drop_left]

end Text

namespace Braces

/-! ## Lines before a closing brace -/

/-- Braces that all close a body **balance** to less than none by as many as there are. -/
theorem balance_of_closing {braces : List PlacedBrace}
    (h : ∀ placed ∈ braces, placed.brace = .closing) : balance braces = -(braces.length : Int) := by
  induction braces with
  | nil => rfl
  | cons placed more ih =>
    obtain ⟨hplaced, hmore⟩ := List.forall_mem_cons.1 h
    rw [balance, ih hmore, hplaced, Brace.weight, List.length_cons]
    omega

/-- Lines that keep a body open do so **up to each** of them, and none of their bodies is missing
there. -/
theorem closing?_append_eq_none {first more : List Text}
    (h : closing? 0 (ofLines 0 (first ++ more)) = none) :
    closing? 0 (ofLines 0 first) = none ∧ 0 ≤ (first.map delta).sum := by
  rw [← keepOpen_iff] at h
  have hfirst : KeepOpen (ofLines 0 first) := by
    intro front hfront
    rw [ofLines_append] at h
    exact h front (hfront.trans (List.prefix_append _ _))
  refine ⟨keepOpen_iff.1 hfirst, ?_⟩
  rw [← balance_ofLines 0]
  exact hfirst _ List.prefix_rfl

end Braces

namespace Label

open Text

/-! ## Label properties of a body's own -/

/-- The value of a label property, and the **offset** at which the property begins. -/
structure PlacedValue where
  /-- How many characters stand before the property. -/
  offset : Nat
  /-- The value. -/
  value : Text
  deriving DecidableEq, Repr

/-- A value **moved on** by a distance. -/
def PlacedValue.shift (distance : Nat) (placed : PlacedValue) : PlacedValue :=
  ⟨placed.offset + distance, placed.value⟩

/-- A statement of a body **begins** behind the front part of its interior: nothing stands there, or
a newline or a closing brace comes last, and all bodies that were opened there are closed. -/
def Begins (front : Text) : Prop :=
  (front = [] ∨ front.getLast? = some '\n' ∨
    ⟨front.length - 1, .closing⟩ ∈ Braces.ofText front) ∧
  Braces.balance (Braces.ofText front) = 0

instance (front : Text) : Decidable (Begins front) :=
  inferInstanceAs (Decidable ((front = [] ∨ front.getLast? = some '\n' ∨
    ⟨front.length - 1, .closing⟩ ∈ Braces.ofText front) ∧
    Braces.balance (Braces.ofText front) = 0))

/-- The value of the label property that begins a statement of an interior **at an offset**. -/
def ownAt? (interior : Text) (offset : Nat) : Option PlacedValue :=
  if Begins (interior.take offset) then
    (propertyValue? ((lines (interior.drop offset)).headD [])).map (PlacedValue.mk offset)
  else none

/-- The value of the **first** label property that begins a statement of an interior. -/
def own? (interior : Text) : Option PlacedValue :=
  ((List.range interior.length).find? fun offset => (ownAt? interior offset).isSome).bind
    (ownAt? interior)

/-- The label that the **own properties** of a body give. -/
def ofOwn (interior : Text) : Option Text := (own? interior).bind fun placed => clean placed.value

/-- An offset is the start of a **line** behind the first one. -/
def StartsLine (text : Text) (offset : Nat) : Prop := (text.take offset).getLast? = some '\n'

instance (text : Text) (offset : Nat) : Decidable (StartsLine text offset) :=
  inferInstanceAs (Decidable ((text.take offset).getLast? = some '\n'))

/-- The value that is **read** off the lines of a body when `depth` bodies are open before them, and
the offset of its line among them. -/
def readFrom? (depth : Int) : List Text → Option PlacedValue
  | [] => none
  | line :: more =>
    match (if depth = 1 then propertyValue? line else none) with
    | some value => some ⟨0, value⟩
    | none =>
      if depth + Braces.delta line ≤ 0 then none
      else (readFrom? (depth + Braces.delta line) more).map (·.shift (line.length + 1))

/-- The value that is **read** for the label of a statement with a body, and the offset of its line
behind the brace that opens the body. -/
def read? (code : Text) : Option PlacedValue :=
  match code.lines with
  | [] => none
  | first :: more =>
    (readFrom? (Braces.delta first) more).map
      (·.shift ((Braces.afterOpening first).length + 1))

/-- The label of body lines is the value that is **read** off them, made ready. -/
theorem ofBodyLines_eq_bind (depth : Int) (lines : List Text) :
    ofBodyLines depth lines = (readFrom? depth lines).bind fun placed => clean placed.value := by
  induction lines generalizing depth with
  | nil => rfl
  | cons line more ih =>
    rw [ofBodyLines, readFrom?]
    cases (if depth = 1 then propertyValue? line else none) with
    | some value => rfl
    | none =>
      dsimp only
      split
      · rfl
      · rw [ih, Option.bind_map]
        rfl

/-- The label of a statement with a body and **no label in its header** is the value that is read,
made ready. -/
theorem ofBody_eq_bind {code : Text} (h : ofHeader? (code.lines.headD []) = none) :
    ofBody code = (read? code).bind fun placed => clean placed.value := by
  rw [ofBody, read?]
  cases hlines : code.lines with
  | nil => rfl
  | cons first more =>
    rw [hlines] at h
    have hfirst : ofHeader? first = none := h
    dsimp only
    rw [hfirst, Option.bind_map]
    exact ofBodyLines_eq_bind _ _

/-! ## Where lines start -/

section Lines

variable {before after : List Text} {line : Text} (hne : before ≠ [])

include hne

/-- A line other than the first one **starts** behind the lines before it. -/
theorem startsLine_extent : StartsLine (unlines (before ++ line :: after)) (extent before) := by
  rw [StartsLine, take_extent hne line after]
  exact List.getLast?_concat

/-- The braces **before a line** balance as the lines before it do. -/
theorem balance_take_extent (hnewline : ∀ other ∈ before, '\n' ∉ other) :
    Braces.balance (Braces.ofText ((unlines (before ++ line :: after)).take (extent before))) =
      (before.map Braces.delta).sum := by
  have hlines := lines_append_newline_append (unlines before) []
  rw [lines_unlines hne hnewline, lines_nil] at hlines
  rw [take_extent hne, Braces.ofText, hlines, Braces.balance_ofLines, List.map_append,
    List.sum_append]
  exact Int.add_zero _

/-- At the start of a line other than the first one, the label property **begins a statement** where
the lines before close all bodies that they open. -/
theorem ownAt?_extent (hnewline : ∀ other ∈ before ++ line :: after, '\n' ∉ other) :
    ownAt? (unlines (before ++ line :: after)) (extent before) =
      if (before.map Braces.delta).sum = 0 then
        (propertyValue? line).map (PlacedValue.mk (extent before))
      else none := by
  obtain ⟨hbefore, hafter⟩ := List.forall_mem_append.1 hnewline
  have hbegins : Begins ((unlines (before ++ line :: after)).take (extent before)) ↔
      (before.map Braces.delta).sum = 0 := by
    rw [Begins, balance_take_extent hne hbefore]
    exact and_iff_right (.inr (.inl (startsLine_extent hne)))
  rw [ownAt?, drop_extent hne, lines_unlines (List.cons_ne_nil _ _) hafter]
  exact if_congr hbegins rfl rfl

end Lines

/-- What starts a line of a text other than the first one has **lines before it**. -/
theorem exists_of_startsLine {text : Text} {offset : Nat} (h : StartsLine text offset)
    (hle : offset ≤ text.length) :
    ∃ before line after, lines text = before ++ line :: after ∧ before ≠ [] ∧
      offset = extent before := by
  obtain ⟨front, hfront⟩ := List.getLast?_eq_some_iff.1 h
  have htext : text = front ++ '\n' :: text.drop offset := by
    rw [List.append_cons, ← hfront, List.take_append_drop]
  have hlines := congrArg lines htext
  rw [lines_append_newline_append] at hlines
  obtain ⟨line, after, hbehind⟩ := List.exists_cons_of_ne_nil (lines_ne_nil (text.drop offset))
  rw [hbehind] at hlines
  refine ⟨lines front, line, after, hlines, lines_ne_nil front, ?_⟩
  have hlength := congrArg List.length hfront
  rw [List.length_take, List.length_append, Nat.min_eq_left hle] at hlength
  rw [← length_unlines_add_one (lines_ne_nil front), unlines_lines, hlength]
  rfl

/-- A property that begins a statement is found **at its offset**, which is one of the text. -/
theorem offset_of_ownAt? {interior : Text} {offset : Nat} {placed : PlacedValue}
    (h : ownAt? interior offset = some placed) :
    placed.offset = offset ∧ offset < interior.length := by
  unfold ownAt? at h
  split at h
  · obtain ⟨value, hvalue, rfl⟩ := Option.map_eq_some_iff.1 h
    refine ⟨rfl, Nat.not_le.1 ?_⟩
    intro hle
    -- behind the text there is an empty line, and it has no value
    rw [List.drop_of_length_le hle] at hvalue
    cases hvalue
  · cases h

/-- The **first** own property of an interior is at an offset before which there is none. -/
theorem own?_eq_some_iff {interior : Text} {placed : PlacedValue} :
    own? interior = some placed ↔
      ownAt? interior placed.offset = some placed ∧
        ∀ offset < placed.offset, ownAt? interior offset = none := by
  rw [own?, Option.bind_eq_some_iff]
  constructor
  · rintro ⟨offset, hfind, hfound⟩
    rw [(offset_of_ownAt? hfound).1]
    obtain ⟨-, -, hbefore⟩ := List.find?_range_eq_some.1 hfind
    refine ⟨hfound, ?_⟩
    intro other hlt
    simpa using hbefore other hlt
  · rintro ⟨hfound, hbefore⟩
    refine ⟨placed.offset, List.find?_range_eq_some.2 ⟨?_, ?_, ?_⟩, hfound⟩
    · rw [hfound]
      rfl
    · exact List.mem_range.2 (offset_of_ownAt? hfound).2
    · intro other hlt
      rw [hbefore other hlt]
      rfl

/-! ## Lines up to the brace that closes the body -/

/-- The **first line** up to a closing brace has the value that the whole line has. -/
theorem exists_linesToClosing_cons (depth : Nat) (line : Text) (more : List Text) :
    ∃ first rest, Braces.linesToClosing depth (line :: more) = first :: rest ∧
      propertyValue? first = propertyValue? line := by
  cases hclosing : Braces.closing? depth (Braces.ofLine line) with
  | some offset =>
    obtain ⟨front, back, rfl, hoffset, hafter⟩ := Braces.exists_eq_append_of_closing? hclosing
    rw [Nat.zero_add] at hoffset
    refine ⟨front, [], ?_, (propertyValue?_append_closing hafter back).symm⟩
    rw [Braces.linesToClosing_of_some hclosing, hoffset, List.take_left]
  | none => exact ⟨line, _, Braces.linesToClosing_of_none hclosing more, rfl⟩

/-- A line up to a closing brace is **one of the lines**, behind lines that keep the body open, and
has the value that the whole line has. -/
theorem exists_linesToClosing_eq_iff {depth : Nat} {lines before : List Text}
    {value : Option Text} :
    (∃ line after, Braces.linesToClosing depth lines = before ++ line :: after ∧
        propertyValue? line = value) ↔
      ∃ line after, lines = before ++ line :: after ∧
        Braces.closing? depth (Braces.ofLines 0 before) = none ∧ propertyValue? line = value := by
  induction before generalizing depth lines with
  | nil =>
    constructor
    · rintro ⟨line, after, hlines, hvalue⟩
      cases lines with
      | nil => cases hlines
      | cons first more =>
        obtain ⟨cut, rest, hcut, hsame⟩ := exists_linesToClosing_cons depth first more
        rw [hcut, List.nil_append, List.cons.injEq] at hlines
        exact ⟨first, more, rfl, rfl, by rw [← hsame, hlines.1, hvalue]⟩
    · rintro ⟨line, after, rfl, -, hvalue⟩
      obtain ⟨cut, rest, hcut, hsame⟩ := exists_linesToClosing_cons depth line after
      exact ⟨cut, rest, hcut, by rw [hsame, hvalue]⟩
  | cons first before ih =>
    rw [Braces.closing?_cons_eq_none_iff]
    constructor
    · rintro ⟨line, after, hlines, hvalue⟩
      cases lines with
      | nil => cases hlines
      | cons head more =>
        cases hclosing : Braces.closing? depth (Braces.ofLine head) with
        | some offset =>
          rw [Braces.linesToClosing_of_some hclosing, List.cons_append, List.cons.injEq] at hlines
          exact absurd hlines.2.symm (List.append_ne_nil_of_right_ne_nil _ (List.cons_ne_nil _ _))
        | none =>
          rw [Braces.linesToClosing_of_none hclosing, List.cons_append, List.cons.injEq] at hlines
          obtain ⟨rfl, hmore⟩ := hlines
          obtain ⟨line', after', rfl, hopen, hvalue'⟩ := ih.1 ⟨line, after, hmore, hvalue⟩
          exact ⟨line', after', rfl, ⟨hclosing, hopen⟩, hvalue'⟩
    · rintro ⟨line, after, rfl, ⟨hclosing, hopen⟩, hvalue⟩
      obtain ⟨line', after', hmore, hvalue'⟩ := ih.2 ⟨line, after, rfl, hopen, hvalue⟩
      refine ⟨line', after', ?_, hvalue'⟩
      rw [List.cons_append, Braces.linesToClosing_of_none hclosing, hmore, List.cons_append]

/-- A value is given **on a line** of a body, behind the first one and others that keep the body open
and close all bodies that they open. -/
structure OnLine (bodyLines before : List Text) (placed : PlacedValue) : Prop where
  /-- The line stands behind the others, and begins with the property. -/
  split : ∃ line after, bodyLines = before ++ line :: after ∧
    propertyValue? line = some placed.value
  /-- There is a line before it. -/
  ne_nil : before ≠ []
  /-- The lines before it keep the body open. -/
  keepOpen : Braces.closing? 0 (Braces.ofLines 0 before) = none
  /-- They close what they open. -/
  sum_delta : (before.map Braces.delta).sum = 0
  /-- The property is at the start of the line. -/
  offset : placed.offset = extent before

/-- The own properties of a body that **start a line** are those given on its lines behind the first
one. -/
theorem exists_onLine_iff {first : Text} {more : List Text} {placed : PlacedValue}
    (hnewline : ∀ line ∈ first :: more, '\n' ∉ line) :
    (ownAt? (unlines (Braces.linesToClosing 0 (first :: more))) placed.offset = some placed ∧
        StartsLine (unlines (Braces.linesToClosing 0 (first :: more))) placed.offset) ↔
      ∃ before, OnLine (first :: more) before placed := by
  have hinner := Braces.newline_notMem_linesToClosing hnewline 0
  have hne := Braces.linesToClosing_ne_nil 0 (List.cons_ne_nil first more)
  constructor
  · rintro ⟨hown, hstarts⟩
    have hlt := (offset_of_ownAt? hown).2
    obtain ⟨before, line, after, hlines, hbefore, hoffset⟩ :=
      exists_of_startsLine hstarts (Nat.le_of_lt hlt)
    rw [lines_unlines hne hinner] at hlines
    rw [hlines] at hinner
    rw [hlines, hoffset, ownAt?_extent hbefore hinner] at hown
    split at hown
    · next hsum =>
      obtain ⟨value, hvalue, rfl⟩ := Option.map_eq_some_iff.1 hown
      obtain ⟨whole, rest, hsplit, hopen, hwhole⟩ :=
        exists_linesToClosing_eq_iff.1 ⟨line, after, hlines, hvalue⟩
      exact ⟨before, ⟨whole, rest, hsplit, hwhole⟩, hbefore, hopen, hsum, rfl⟩
    · cases hown
  · rintro ⟨before, ⟨whole, rest, hsplit, hwhole⟩, hbefore, hopen, hsum, hoffset⟩
    obtain ⟨line, after, hlines, hvalue⟩ :=
      exists_linesToClosing_eq_iff.2 ⟨whole, rest, hsplit, hopen, hwhole⟩
    rw [hlines] at hinner ⊢
    rw [hoffset, ownAt?_extent hbefore hinner, if_pos hsum, hvalue, Option.map_some, ← hoffset]
    exact ⟨rfl, hoffset ▸ startsLine_extent hbefore⟩

/-! ## The line that is read -/

/-- What is read stands on a line before which **one body** is open. -/
theorem exists_of_readFrom? {depth : Int} {lines : List Text} {placed : PlacedValue}
    (h : readFrom? depth lines = some placed) :
    ∃ before line after, lines = before ++ line :: after ∧
      depth + (before.map Braces.delta).sum = 1 ∧ propertyValue? line = some placed.value ∧
        placed.offset = extent before := by
  induction lines generalizing depth placed with
  | nil => cases h
  | cons line more ih =>
    rw [readFrom?] at h
    split at h
    · next value hvalue =>
      cases h
      split at hvalue
      · next hdepth => exact ⟨[], line, more, rfl, by rw [hdepth]; rfl, hvalue, rfl⟩
      · cases hvalue
    · split at h
      · cases h
      · obtain ⟨found, hfound, rfl⟩ := Option.map_eq_some_iff.1 h
        obtain ⟨before, other, after, rfl, hdepth, hvalue, hoffset⟩ := ih hfound
        refine ⟨line :: before, other, after, rfl, ?_, hvalue, ?_⟩
        · rw [List.map_cons, List.sum_cons, ← Int.add_assoc, hdepth]
        · rw [PlacedValue.shift, extent_cons, hoffset, Nat.add_comm]

/-- The **first** line before which one body is open, and that begins with the property, is read, as
long as the body is not closed before it. -/
theorem readFrom?_append {depth : Int} {before : List Text} {line value : Text}
    (hdepth : depth + (before.map Braces.delta).sum = 1)
    (hvalue : propertyValue? line = some value)
    (hopen : ∀ front, front <+: before → 0 < depth + (front.map Braces.delta).sum)
    (hfirst : ∀ front other rest, before = front ++ other :: rest →
      depth + (front.map Braces.delta).sum = 1 → propertyValue? other = none)
    (after : List Text) :
    readFrom? depth (before ++ line :: after) = some ⟨extent before, value⟩ := by
  induction before generalizing depth with
  | nil =>
    rw [List.map_nil, List.sum_nil, Int.add_zero] at hdepth
    rw [List.nil_append, readFrom?, if_pos hdepth, hvalue]
    rfl
  | cons head before ih =>
    have hnone : (if depth = 1 then propertyValue? head else none) = none := by
      split
      · next hone =>
        refine hfirst [] head before rfl ?_
        rw [List.map_nil, List.sum_nil, hone]
        rfl
      · rfl
    have hpositive := hopen [head] (List.cons_prefix_cons.2 ⟨rfl, List.nil_prefix⟩)
    rw [List.map_singleton, List.sum_singleton] at hpositive
    rw [List.map_cons, List.sum_cons, ← Int.add_assoc] at hdepth
    have hmore := ih hdepth ?_ ?_
    · rw [List.cons_append, readFrom?, hnone]
      dsimp only
      rw [if_neg (by omega), hmore, Option.map_some, PlacedValue.shift, extent_cons, Nat.add_comm]
    · intro front hfront
      have hlonger := hopen (head :: front) (List.cons_prefix_cons.2 ⟨rfl, hfront⟩)
      rwa [List.map_cons, List.sum_cons, ← Int.add_assoc] at hlonger
    · intro front other rest hsplit hone
      refine hfirst (head :: front) other rest (by rw [hsplit, List.cons_append]) ?_
      rw [List.map_cons, List.sum_cons, ← Int.add_assoc, hone]

/-! ## Codes with a body -/

/-- The first brace of a code **opens** a body. -/
def OpensFirst (code : Text) : Prop := (Braces.ofText code).head?.map (·.brace) = some .opening

instance (code : Text) : Decidable (OpensFirst code) :=
  inferInstanceAs (Decidable ((Braces.ofText code).head?.map (·.brace) = some .opening))

/-- The first body of a code **fills** it: no brace closes before the one that opens the body, and no
newline stands behind the one that closes it. -/
structure FilledByBody (code : Text) : Prop where
  /-- The first brace opens the body. -/
  first : OpensFirst code
  /-- The body is closed on the last line, or never. -/
  last : ∀ opening closing, Braces.span? code = some (opening, closing) →
    '\n' ∉ code.drop closing

/-- The lines of a body hold **no newline**. -/
theorem newline_notMem_body {before after code : Text} {more : List Text}
    (hlines : lines code = (before ++ '{' :: after) :: more) :
    ∀ other ∈ after :: more, '\n' ∉ other := by
  obtain ⟨hfirst, hmore⟩ := List.forall_mem_cons.1 (newline_notMem_of_lines_eq hlines)
  refine List.forall_mem_cons.2 ⟨?_, hmore⟩
  exact fun hmem => hfirst (List.mem_append_right _ (List.mem_cons_of_mem _ hmem))

section Parted

variable {before after : Text} {more : List Text} {interior : Interior}
  (hafter : Quoting.after .outside before = .outside)
  (hclosing : ∀ placed ∈ Braces.ofLine before, placed.brace = .closing)

include hafter

/-- A line that opens a body has **one brace more** than what stands before and behind that one. -/
theorem delta_append_opening : Braces.delta (before ++ '{' :: after) =
    Braces.delta before + (1 + Braces.delta after) := by
  have hshift : Braces.balance ((Braces.ofLine after).map (·.shift (before.length + 1))) =
      Braces.delta after :=
    Braces.balance_congr (by rw [List.map_map]; rfl)
  rw [Braces.delta, Braces.ofLine_append_opening hafter, Braces.balance_append, Braces.balance,
    Braces.scan_outside, hshift]
  rfl

include hclosing

/-- The **first brace** of a code opens its body exactly when what stands before it on its line has
no brace. -/
theorem opensFirst_iff {code : Text} (hlines : lines code = (before ++ '{' :: after) :: more) :
    OpensFirst code ↔ Braces.delta before = 0 := by
  rw [OpensFirst, Braces.ofText, hlines, Braces.ofLines_append_opening hafter, Braces.delta,
    Braces.balance_of_closing hclosing]
  cases hfront : Braces.ofLine before with
  | nil => exact iff_of_true rfl rfl
  | cons placed rest =>
    rw [hfront, List.forall_mem_cons] at hclosing
    rw [List.length_cons, List.cons_append, List.head?_cons, Option.map_some, hclosing.1]
    refine iff_of_false (by decide) ?_
    omega

/-- The **interior** of a code has the lines up to the brace that closes its body. -/
theorem text_interior {code : Text} (hlines : lines code = (before ++ '{' :: after) :: more)
    {line : Int} (hinterior : Interior.ofCode? line code = some interior) :
    interior.text = unlines (Braces.linesToClosing 0 (after :: more)) := by
  have hopens : Braces.opens (before ++ '{' :: after) = true := by
    rw [Braces.opens, Braces.ofLine_append_opening hafter, List.any_append, List.any_cons]
    simp
  have hnewline := newline_notMem_of_lines_eq hlines
  have hcode : code = unlines ((before ++ '{' :: after) :: more) := by
    rw [← hlines, unlines_lines]
  rw [hcode, Interior.ofCode?_unlines_of_opens hopens hnewline,
    Braces.afterOpening_append hafter hclosing, Option.some.injEq] at hinterior
  rw [← hinterior]

/-- What is **read** for the label of a code stands on a line behind the first one, before which the
lines of the body close as many bodies more than they open as braces stand before it. -/
theorem exists_of_read? {code : Text} (hlines : lines code = (before ++ '{' :: after) :: more)
    {placed : PlacedValue} (h : read? code = some placed) :
    ∃ lead line rest, more = lead ++ line :: rest ∧
      Braces.delta before + ((after :: lead).map Braces.delta).sum = 0 ∧
        propertyValue? line = some placed.value ∧ placed.offset = extent (after :: lead) := by
  rw [read?, hlines] at h
  obtain ⟨found, hfound, rfl⟩ := Option.map_eq_some_iff.1 h
  obtain ⟨lead, line, rest, hmore, hdepth, hvalue, hoffset⟩ := exists_of_readFrom? hfound
  rw [delta_append_opening hafter] at hdepth
  refine ⟨lead, line, rest, hmore, ?_, hvalue, ?_⟩
  · rw [List.map_cons, List.sum_cons]
    omega
  · rw [PlacedValue.shift, Braces.afterOpening_append hafter hclosing, hoffset, extent_cons,
      Nat.add_comm]

/-- The first own property of a body is **read** where it starts a line and no brace stands before
the one that opens the body. -/
theorem read?_of_onLine {code : Text} (hlines : lines code = (before ++ '{' :: after) :: more)
    (hbefore : Braces.delta before = 0) {lead : List Text} {placed : PlacedValue}
    (h : OnLine (after :: more) lead placed)
    (hnone : ∀ offset < placed.offset,
      ownAt? (unlines (Braces.linesToClosing 0 (after :: more))) offset = none) :
    read? code = some placed := by
  have hnewline := newline_notMem_body hlines
  obtain ⟨⟨line, rest, hsplit, hvalue⟩, hne, hopen, hsum, hoffset⟩ := h
  obtain ⟨head, lead, rfl⟩ := List.exists_cons_of_ne_nil hne
  rw [List.cons_append, List.cons.injEq] at hsplit
  obtain ⟨rfl, rfl⟩ := hsplit
  have hdelta : Braces.delta (before ++ '{' :: after) = 1 + Braces.delta after := by
    rw [delta_append_opening hafter, hbefore, Int.zero_add]
  have hread : readFrom? (Braces.delta (before ++ '{' :: after)) (lead ++ line :: rest) =
      some ⟨extent lead, placed.value⟩ := by
    rw [hdelta]
    refine readFrom?_append ?_ hvalue ?_ ?_ rest
    · rw [List.map_cons, List.sum_cons] at hsum
      omega
    · -- the lines of the body that stand before keep it open
      rintro front ⟨behind, rfl⟩
      rw [← List.cons_append] at hopen
      have hfront := (Braces.closing?_append_eq_none hopen).2
      rw [List.map_cons, List.sum_cons] at hfront
      omega
    · -- a property before it would be the first one
      rintro front other behind rfl hone
      rw [← Option.not_isSome_iff_eq_none, Option.isSome_iff_exists]
      rintro ⟨earlier, hearlier⟩
      rw [← List.cons_append] at hopen
      have honLine : OnLine (after :: (front ++ other :: behind ++ line :: rest))
          (after :: front) ⟨extent (after :: front), earlier⟩ := by
        refine ⟨⟨other, behind ++ line :: rest, by simp, hearlier⟩, List.cons_ne_nil _ _,
          (Braces.closing?_append_eq_none hopen).1, ?_, rfl⟩
        rw [List.map_cons, List.sum_cons]
        omega
      have hown := ((exists_onLine_iff hnewline).2 ⟨_, honLine⟩).1
      rw [hnone] at hown
      · cases hown
      · simp only [hoffset, extent_cons, extent_append]
        omega
  rw [read?, hlines]
  dsimp only
  rw [hread, Option.map_some, PlacedValue.shift, Braces.afterOpening_append hafter hclosing]
  have hplaced : extent lead + (after.length + 1) = placed.offset := by
    rw [hoffset, extent_cons, Nat.add_comm]
  rw [hplaced]

/-- What is read for the label of a code **is an own property** of the body where it is one of the
interior at all: it starts a line there, and no brace stands before the one that opens the body. -/
theorem startsLine_of_read? {code : Text} (hlines : lines code = (before ++ '{' :: after) :: more)
    {placed : PlacedValue} (hread : read? code = some placed)
    (hown : ownAt? (unlines (Braces.linesToClosing 0 (after :: more))) placed.offset =
      some placed) :
    StartsLine (unlines (Braces.linesToClosing 0 (after :: more))) placed.offset ∧
      Braces.delta before = 0 := by
  have hnewline := newline_notMem_body hlines
  obtain ⟨lead, line, rest, rfl, hsum, -, hoffset⟩ := exists_of_read? hafter hclosing hlines hread
  have hlt := (offset_of_ownAt? hown).2
  have hne : after :: lead ≠ [] := List.cons_ne_nil _ _
  -- up to the property the interior is what stands behind the opening brace
  have htake : (unlines (Braces.linesToClosing 0 (after :: (lead ++ line :: rest)))).take
      placed.offset = (unlines (after :: lead ++ line :: rest)).take (extent (after :: lead)) := by
    rw [← Braces.take_closing?_unlines] at hlt ⊢
    rw [List.length_take] at hlt
    rw [List.take_take, ← hoffset, Nat.min_eq_left (by omega)]
    rfl
  have hbegins : Begins ((unlines (Braces.linesToClosing 0 (after :: (lead ++ line :: rest)))).take
      placed.offset) := by
    by_contra hnot
    rw [ownAt?, if_neg hnot] at hown
    cases hown
  rw [htake] at hbegins
  have hbefore : ∀ other ∈ after :: lead, '\n' ∉ other := by
    intro other hmem
    exact hnewline other (List.mem_append_left (line :: rest) hmem)
  have hbalance := hbegins.2
  rw [balance_take_extent hne hbefore] at hbalance
  refine ⟨?_, by omega⟩
  rw [StartsLine, htake]
  exact startsLine_extent hne

/-- In a code that its body fills, the lines **before the last one** keep the body open. -/
theorem closing?_dropLast_of_filledByBody {code : Text}
    (hlines : lines code = (before ++ '{' :: after) :: more) (hfilled : FilledByBody code) :
    Braces.closing? 0 (Braces.ofLines 0 (after :: more).dropLast) = none := by
  have hcode : code = unlines ((before ++ '{' :: after) :: more) := by
    rw [← hlines, unlines_lines]
  have hnewline := newline_notMem_of_lines_eq hlines
  cases hclosed : Braces.closing? 0 (Braces.ofLines 0 (after :: more)) with
  | none => exact Braces.closing?_dropLast hclosed
  | some offset =>
    have hspan := Braces.span?_append_opening hafter hclosing hnewline
    rw [hclosed, Option.getD_some, ← hcode] at hspan
    have hlast := hfilled.last _ _ hspan
    have htext : code = before ++ '{' :: unlines (after :: more) := by
      rw [hcode]
      cases more <;> simp
    rw [htext, Nat.add_assoc, List.drop_length_add_append, Nat.add_comm 1, List.drop_succ_cons]
      at hlast
    exact (Braces.newline_notMem_drop_iff (newline_notMem_body hlines) hclosed).1 hlast

/-- In a code that its body fills, what is read for the label **is an own property** of the body. -/
theorem ownAt?_of_read? {code : Text} (hlines : lines code = (before ++ '{' :: after) :: more)
    (hfilled : FilledByBody code) {placed : PlacedValue} (hread : read? code = some placed) :
    ownAt? (unlines (Braces.linesToClosing 0 (after :: more))) placed.offset = some placed := by
  have hnewline := newline_notMem_body hlines
  have hbefore := (opensFirst_iff hafter hclosing hlines).1 hfilled.first
  obtain ⟨lead, line, rest, rfl, hsum, hvalue, hoffset⟩ :=
    exists_of_read? hafter hclosing hlines hread
  have hopen := closing?_dropLast_of_filledByBody hafter hclosing hlines hfilled
  rw [← List.cons_append, List.dropLast_append_of_ne_nil (List.cons_ne_nil _ _)] at hopen
  refine ((exists_onLine_iff hnewline).2 ⟨after :: lead, ?_⟩).1
  exact ⟨⟨line, rest, rfl, hvalue⟩, List.cons_ne_nil _ _,
    (Braces.closing?_append_eq_none hopen).1, by omega, hoffset⟩

end Parted

/-- **When the label of a body is its own.** For a code whose first line opens a body and has no
label in its header: the first label property that begins a statement directly in the body is the
one that is read exactly when it starts a line behind the first one, and no brace closes before the
one that opens the body. In a code that its body fills nothing else is read, so there is no label
where the body has no such property. Where the first own property is what is read, or neither is
there, the label is the value of that property made ready. -/
theorem label_own_iff {code : Text} {line : Int} {interior : Interior}
    (hopens : (lines code).head?.any Braces.opens = true)
    (hheader : ofHeader? ((lines code).headD []) = none)
    (hinterior : Interior.ofCode? line code = some interior) :
    (∀ placed, own? interior.text = some placed →
      (read? code = some placed ↔
        StartsLine interior.text placed.offset ∧ OpensFirst code)) ∧
    (FilledByBody code → ∀ placed, read? code = some placed →
      ownAt? interior.text placed.offset = some placed) ∧
    (read? code = own? interior.text → ofBody code = ofOwn interior.text) := by
  cases hlines : lines code with
  | nil => exact absurd hlines (lines_ne_nil code)
  | cons first more =>
    rw [hlines] at hopens
    obtain ⟨before, after, rfl, hafter, hclosing⟩ := Braces.exists_eq_append_of_opens hopens
    have hfirst := opensFirst_iff hafter hclosing hlines
    rw [text_interior hafter hclosing hlines hinterior]
    refine ⟨?_, ?_, ?_⟩
    · intro placed hown
      obtain ⟨hat, hnone⟩ := own?_eq_some_iff.1 hown
      rw [hfirst]
      constructor
      · intro hread
        exact startsLine_of_read? hafter hclosing hlines hread hat
      · rintro ⟨hstarts, hbefore⟩
        obtain ⟨lead, honLine⟩ := (exists_onLine_iff (newline_notMem_body hlines)).1 ⟨hat, hstarts⟩
        exact read?_of_onLine hafter hclosing hlines hbefore honLine hnone
    · intro hfilled placed hread
      exact ownAt?_of_read? hafter hclosing hlines hfilled hread
    · intro hsame
      rw [ofBody_eq_bind hheader, hsame, ofOwn]

/-- A code whose body holds **labels of other bodies**, on lines of their own and not, before its
own, which shares its line with the brace that closes the body. -/
def labelledLastCode : Text :=
  ("a: v \x7b\n  b \x7b label: B \x7d\n  c \x7b\n    label: C\n  \x7d\n" ++
    "  label: \"A \x7d\" \x7d").toList

/-- The **interior** of its body. -/
def labelledLastInterior : Interior :=
  ⟨0, ("\n  b \x7b label: B \x7d\n  c \x7b\n    label: C\n  \x7d\n" ++
    "  label: \"A \x7d\" ").toList⟩

/-- The **own** label is the one that is read: it starts a line. -/
theorem label_labelledLastCode :
    (lines labelledLastCode).head?.any Braces.opens = true ∧
      ofHeader? ((lines labelledLastCode).headD []) = none ∧
        Interior.ofCode? 0 labelledLastCode = some labelledLastInterior ∧
          own? labelledLastInterior.text = some ⟨41, "\"A \x7d\"".toList⟩ ∧
            read? labelledLastCode = own? labelledLastInterior.text ∧
              ofBody labelledLastCode = ofOwn labelledLastInterior.text := by
  have hopens : (lines labelledLastCode).head?.any Braces.opens = true := by decide +kernel
  have hheader : ofHeader? ((lines labelledLastCode).headD []) = none := by decide +kernel
  have hinterior : Interior.ofCode? 0 labelledLastCode = some labelledLastInterior := by
    decide +kernel
  have hown : own? labelledLastInterior.text = some ⟨41, "\"A \x7d\"".toList⟩ := by decide +kernel
  obtain ⟨hfirst, -, hlabel⟩ := label_own_iff hopens hheader hinterior
  have hread : read? labelledLastCode = own? labelledLastInterior.text := by
    rw [hown]
    exact (hfirst _ hown).2 (by decide +kernel)
  exact ⟨hopens, hheader, hinterior, hown, hread, hlabel hread⟩

/-- A body on the **line of its header**: its label property is one of its own, but is not read. -/
theorem label_oneLineBody_not_own :
    (lines "a \x7b label: X \x7d".toList).head?.any Braces.opens = true ∧
      ofHeader? ((lines "a \x7b label: X \x7d".toList).headD []) = none ∧
        Interior.ofCode? 0 "a \x7b label: X \x7d".toList = some ⟨0, " label: X ".toList⟩ ∧
          ofOwn " label: X ".toList = some "X".toList ∧
            ofBody "a \x7b label: X \x7d".toList = none := by
  decide +kernel

/-- Where the line that closes a body **opens another one**, the label of that one is read. -/
example :
    Interior.ofCode? 0 "a \x7b\n\x7d; b \x7b\n  label: L\n\x7d".toList = some ⟨0, "\n".toList⟩ ∧
      ofOwn "\n".toList = none ∧
        ofBody "a \x7b\n\x7d; b \x7b\n  label: L\n\x7d".toList = some "L".toList := by
  decide +kernel

end Label

end DiagramOutline
