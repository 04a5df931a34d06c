import DiagramOutline.Proofs.Diagram.Members
import DiagramOutline.Proofs.Diagram.Outlines

/-! # Where the two labels of a container agree

The label of a container is read off its lines or off its node, and the two readings differ in what
they make of a bare value in the header of a container: the first one passes over it and searches
the body, the second one stops at it. In a body, they differ in two kinds of members: the node
of a connection from the label property gives its label, and the line of a container with the name
of the property gives a bare value together with the brace behind it.

* **`Diagram.Member.written?`**, **`Diagram.Member.declared?`** — what the line and what the node of a
  member give to the label property.
* **`Diagram.Member.ofBody_container`**, **`Diagram.Member.label_node_container`** — the label that is
  read off the lines and the one that is read off the node of a container.
* **`Diagram.Member.written?_eq_declared?_iff`** — the line and the node of a member give the same
  to the label property unless it is of one of the two kinds.
* **`Diagram.Member.labelsAgree_iff`** — where the two labels of a container agree. -/

namespace DiagramOutline.Diagram

open SyntaxNode Label

/-! ## What lines give to the label property -/

namespace Member

/-- What stands **behind the head** of a member on its line: nothing, or the brace of its body. -/
def behindHead : Member → Text
  | leaf _ _ _ => []
  | container _ _ _ _ _ => [' ', '{']

/-- What the line of a member gives to the **label property** of the body that it stands in. -/
def written? (member : Member) : Option Text := member.head.written? member.behindHead

/-- Directly in a body, a member whose line gives a value to the label property **ends the search**
for the label, and any other member is passed over. -/
theorem ofBodyLines_append (member : Member) (rest : List Text) :
    ofBodyLines 1 (member.lines ++ rest) =
      match member.written? with
      | some value => clean value
      | none => ofBodyLines 1 rest := by
  cases member with
  | leaf indent head alone =>
    have hvalue := head.propertyValue?_append indent (.inl rfl)
    rw [List.append_nil] at hvalue
    rw [lines, List.singleton_append, ofBodyLines_leaf, hvalue]
    rfl
  | container indent head before members close =>
    have hvalue := head.propertyValue?_append indent (.inr ⟨rfl, before⟩)
    rw [lines, ofBodyLines_container indent close head (nested_linesOf members), hvalue]
    rfl

/-- Directly in a body, the **first member** whose line gives a value to the label property gives
the label. -/
theorem ofBodyLines_linesOf (members : List Member) (rest : List Text) :
    ofBodyLines 1 (linesOf members ++ rest) =
      match members.findSome? written? with
      | some value => clean value
      | none => ofBodyLines 1 rest := by
  induction members with
  | nil => rfl
  | cons member more ih =>
    rw [linesOf, List.append_assoc, ofBodyLines_append, List.findSome?_cons]
    cases member.written? with
    | some value => rfl
    | none => exact ih

/-- The label that is read off the lines of a **container**: the quoted one in its header, or else
what the first member of its body that says so gives to the label property. A bare value in the
header is passed over. -/
theorem ofBody_container (indent close : Indent) {head : Head} (before : head.StandsBefore)
    (members : List Member) :
    ofBody (container indent head before members close).text =
      match head.value.quoted? with
      | some literal => clean literal
      | none => (members.findSome? written?).bind clean := by
  rw [text, lines, ofBody_header indent close head fun _ => newline_notMem_of_mem_linesOf members,
    ofBodyLines_linesOf, ofBodyLines_closing]
  cases members.findSome? written? <;> rfl

/-! ## What nodes give to the label property -/

/-- What the **node** of a member gives to the label property of the body that it stands in. -/
def declared? (member : Member) : Option Text :=
  if member.head.subject.firstName.text = Label.property then member.head.value.given? else none

variable {place : Place} {source : Text}

/-- What the **node** of a member gives to the label property is what is declared there. -/
theorem findSome?_node {member : Member} (h : place.Holds member.text source) :
    (([member.node place].filter (·.isLabelProperty (Utf8.encode source))).findSome?
      headerLabel?).map (·.text (Utf8.encode source)) = member.declared? := by
  cases member with
  | leaf indent head alone =>
    have hline : place.Holds (indent.text ++ (head.text ++ [])) source := by
      rw [List.append_nil]
      exact h
    exact head.given?_declaration (by simp) (by simp) hline.right
  | container indent head before members close =>
    rw [text_container] at h
    refine head.given?_declaration role_block ?_ h.right
    rintro c ⟨⟩
    decide

/-- What the **nodes** of members give to the label property is what the first of them that says so
declares. -/
theorem findSome?_nodesOf {members : List Member} (h : Stand source place members) :
    (((nodesOf place members).filter (·.isLabelProperty (Utf8.encode source))).findSome?
      headerLabel?).map (·.text (Utf8.encode source)) = members.findSome? declared? := by
  induction members generalizing place with
  | nil => rfl
  | cons member more ih =>
    rw [nodesOf, ← List.singleton_append, List.filter_append, List.findSome?_append,
      Option.map_or, findSome?_node h.1, ih h.2, List.findSome?_cons]
    cases member.declared? <;> rfl

/-- The node of a block gives to the label property what the **nodes of its members** give to it. -/
theorem findSome?_blockNode {members : List Member} {close : Indent}
    (h : place.Holds (block (linesOf members) close) source) :
    ((((blockNode place (linesOf members) close
      (nodesOf (place.after ['{', '\n']) members)).children.filter
        (·.isLabelProperty (Utf8.encode source))).findSome? headerLabel?).bind fun value =>
          Label.clean (value.text (Utf8.encode source))) =
      (members.findSome? declared?).bind Label.clean := by
  rw [children_blockNode, filter_isLabelProperty_between,
    ← findSome?_nodesOf (stand_block h), Option.bind_map]
  rfl

/-- The label that is read off the **node** of a container: the quoted one in its header, or else
what the first member of its body that says so declares. A bare value in the header ends the
search. -/
theorem label_node_container {indent close : Indent} {head : Head} {before : head.StandsBefore}
    {members : List Member}
    (h : place.Holds (container indent head before members close).text source) :
    ((container indent head before members close).node place).label (Utf8.encode source) =
      match head.value with
      | .quoted wording => Label.clean wording.quoted
      | .bare _ => none
      | _ => (members.findSome? declared?).bind Label.clean := by
  rw [text_container] at h
  have hhead := h.right
  have hblock : ((place.after indent.text).after (head.text ++ [' '])).Holds
      (block (linesOf members) close) source := by
    rw [← List.singleton_append, ← List.append_assoc] at hhead
    exact hhead.right
  have hbody := findSome?_blockNode hblock
  rw [node, head.label_declaration role_block hhead.left]
  cases head.value with
  | absent => exact hbody
  | colon => exact hbody
  | quoted wording => rfl
  | bare value => rfl

/-! ## Members that are read alike -/

/-- A member that is **read alike** from its line and from its node: it is no connection from the
label property with a label, and no container with the name of the property and a bare value. -/
def ReadAlike (member : Member) : Prop :=
  member.head.subject.firstName.text = Label.property →
    (member.head.subject.isConnection = true → member.head.value.given? = none) ∧
      (member.head.subject.isConnection = false →
        member.behindHead = [] ∨ ∀ bare, member.head.value ≠ .bare bare)

/-- The line and the node of a member give the same to the label property exactly when the member
**is read alike**. -/
theorem written?_eq_declared?_iff (member : Member) :
    member.written? = member.declared? ↔ member.ReadAlike := by
  rw [written?, declared?, ReadAlike]
  by_cases hname : member.head.subject.firstName.text = Label.property
  · rw [if_pos hname]
    cases hkind : member.head.subject.isConnection with
    | true =>
      rw [Head.written?_of_isConnection hkind]
      exact ⟨fun h _ => ⟨fun _ => h.symm, nofun⟩, fun h => ((h hname).1 rfl).symm⟩
    | false =>
      rw [Head.written?_of_not_isConnection hkind hname, Value.written?_eq_given?_iff]
      exact ⟨fun h _ => ⟨nofun, fun _ => h⟩, fun h => (h hname).2 rfl⟩
  · rw [Head.written?_of_ne hname, if_neg hname]
    exact iff_of_true rfl fun h => absurd h hname

/-- The first value that members **declare** is the first one that is written, if they are read
alike. -/
theorem findSome?_declared? {members : List Member} (h : ∀ member ∈ members, member.ReadAlike) :
    members.findSome? declared? = members.findSome? written? := by
  induction members with
  | nil => rfl
  | cons member more ih =>
    obtain ⟨hmember, hmore⟩ := List.forall_mem_cons.1 h
    rw [List.findSome?_cons, List.findSome?_cons, (written?_eq_declared?_iff member).2 hmember,
      ih hmore]

/-! ## Where the labels agree -/

/-- The **labels agree**: the one that is read off the node of a member, which stands at a place of
a source, is the one that is read off its text. -/
def LabelsAgree (member : Member) (place : Place) (source : Text) : Prop :=
  (member.node place).label (Utf8.encode source) = Label.ofBody member.text

/-- The **labels of a container agree** always when there is a quoted label in the header. Behind a
bare value they agree exactly when the lines of the body give no label, and in any other case
exactly when what the nodes in the body declare and what its lines give come to the same. They do
so if the members are read alike, and then only a bare value in the header parts the labels. -/
theorem labelsAgree_iff {place : Place} {source : Text} {indent close : Indent} {head : Head}
    {before : head.StandsBefore} {members : List Member}
    (h : place.Holds (container indent head before members close).text source) :
    ((container indent head before members close).LabelsAgree place source ↔
      match head.value with
      | .quoted _ => True
      | .bare _ => (members.findSome? written?).bind Label.clean = none
      | _ => (members.findSome? declared?).bind Label.clean =
          (members.findSome? written?).bind Label.clean) ∧
    ((∀ member ∈ members, member.ReadAlike) →
      ((container indent head before members close).LabelsAgree place source ↔
        ∀ value, head.value = .bare value →
          (members.findSome? written?).bind Label.clean = none)) := by
  have hnode := label_node_container h
  have htext := ofBody_container indent close before members
  have hagree : (container indent head before members close).LabelsAgree place source ↔
      match head.value with
      | .quoted _ => True
      | .bare _ => (members.findSome? written?).bind Label.clean = none
      | _ => (members.findSome? declared?).bind Label.clean =
          (members.findSome? written?).bind Label.clean := by
    rw [LabelsAgree, hnode, htext]
    cases head.value with
    | absent => exact Iff.rfl
    | colon => exact Iff.rfl
    | quoted wording => exact iff_of_true rfl trivial
    | bare value => exact eq_comm
  refine ⟨hagree, ?_⟩
  intro halike
  have hsame := congrArg (·.bind Label.clean) (findSome?_declared? halike)
  rw [hagree]
  cases head.value with
  | absent => exact iff_of_true hsame nofun
  | colon => exact iff_of_true hsame nofun
  | quoted wording => exact iff_of_true trivial nofun
  | bare value => exact ⟨fun hnone _ _ => hnone, fun hnone => hnone value rfl⟩

end Member

/-! ## Containers with labels -/

/-- The bare value of **one letter**. -/
def letterValue (c : Char) (h : Keyword.startsIdentifier c = true) : BareValue where
  text := [c]
  text_ne_nil := List.cons_ne_nil _ _
  trim_text :=
    (Text.Tight.singleton (isBlank_of_isNameChar (isNameChar_of_startsIdentifier h))).trim_eq
  plain := by
    refine List.forall_mem_singleton.2 ?_
    have hname := isNameChar_of_startsIdentifier h
    intro hmem
    simp only [List.mem_cons, List.not_mem_nil, or_false] at hmem
    rcases hmem with rfl | rfl | rfl | rfl | rfl | rfl | rfl | rfl <;>
      exact absurd hname (by decide)
  hasConnection_text := by
    have hname := isNameChar_of_startsIdentifier h
    refine Keyword.hasConnection_append_of_forall (List.forall_mem_singleton.2 ?_) []
    intro hmem
    rw [Keyword.tokenChars, List.mem_cons, List.mem_cons, List.mem_singleton] at hmem
    rcases hmem with rfl | rfl | rfl <;> exact absurd hname (by decide)

/-- A **label property** of one letter, at a level of nesting. -/
def labelMember (level : Nat) (c : Char) (h : Keyword.startsIdentifier c = true) : Member :=
  .leaf (indentOf level) ⟨.shape labelName, .bare (letterValue c h)⟩ rfl

/-- A **shape with a body** at a level of nesting, with a value before the brace. -/
def shapeMember (level : Nat) (name : Name) (value : Value) (h : value ≠ .colon)
    (members : List Member) : Member :=
  .container (indentOf level) ⟨.shape name, value⟩ (absurd · h) members (indentOf level)

/-- A **connection from the label property** inside the body of a shape. -/
def linkMember (value : Value)
    (h : Head.StandsAlone ⟨.connection ⟨labelName, ⟨arrow, letterName 't' rfl⟩, []⟩, value⟩) :
    Member :=
  .leaf (indentOf 2) ⟨.connection ⟨labelName, ⟨arrow, letterName 't' rfl⟩, []⟩, value⟩ h

/-- Members of which the **last** gives the label: before it stand a shape with a label in its own
body, and a connection that starts at the label property. -/
def labelledLast : List Member :=
  [shapeMember 2 (letterName 't' rfl) .absent nofun [labelMember 4 'Y' rfl],
    linkMember .absent trivial, labelMember 2 'X' rfl]

/-- These members **are read alike**. -/
theorem readAlike_labelledLast : ∀ member ∈ labelledLast, member.ReadAlike := by
  have hname : (letterName 't' rfl).text ≠ Label.property := by decide
  refine List.forall_mem_cons.2 ⟨?_, List.forall_mem_cons.2 ⟨?_, List.forall_mem_singleton.2 ?_⟩⟩
  · exact fun h => absurd h hname
  · exact fun _ => ⟨fun _ => rfl, nofun⟩
  · exact fun _ => ⟨nofun, fun _ => .inl rfl⟩

/-- A **shape with a letter for a name**, which has a value and members in its body. -/
def letterShape (value : Value) (h : value ≠ .colon) (members : List Member) : Member :=
  shapeMember 0 (letterName 's' rfl) value h members

/-- Both labels of a shape with these members are the **last** member's. -/
theorem labelsAgree_labelledLast :
    Place.start.Holds (letterShape .absent nofun labelledLast).text
        (letterShape .absent nofun labelledLast).text ∧
      (∀ member ∈ labelledLast, member.ReadAlike) ∧
      (letterShape .absent nofun labelledLast).LabelsAgree .start
        (letterShape .absent nofun labelledLast).text ∧
      Label.ofBody (letterShape .absent nofun labelledLast).text = some ['X'] := by
  have hplace := Place.holds_start (letterShape .absent nofun labelledLast).text
  refine ⟨hplace, readAlike_labelledLast, ?_, by decide +kernel⟩
  exact ((Member.labelsAgree_iff hplace).2 readAlike_labelledLast).2 nofun

/-- Behind a **bare value** in the header the node gives no label, and the text gives the one in the
body. -/
theorem not_labelsAgree_bareValue :
    (letterShape (.bare (letterValue 'v' rfl)) nofun [labelMember 2 'X' rfl]).text =
        "s: v \x7b\n  label: X\n\x7d".toList ∧
      ¬ (letterShape (.bare (letterValue 'v' rfl)) nofun [labelMember 2 'X' rfl]).LabelsAgree
        .start "s: v \x7b\n  label: X\n\x7d".toList := by
  refine ⟨by decide +kernel, ?_⟩
  rw [Member.LabelsAgree]
  decide +kernel

/-- The label of a **connection** from the label property is the node's, and not the text's. -/
example : ¬ (letterShape .absent nofun [linkMember
    (.quoted ⟨['w'], List.forall_mem_singleton.2 (by decide), rfl⟩) trivial]).LabelsAgree
      .start "s \x7b\n  label -> t: \"w\"\n\x7d".toList := by
  rw [Member.LabelsAgree]
  decide +kernel

/-- The bare value of a **container** with the name of the label property is read off its line with
the brace. -/
example : ¬ (letterShape .absent nofun
    [shapeMember 2 labelName (.bare (letterValue 'v' rfl)) nofun []]).LabelsAgree
      .start "s \x7b\n  label: v \x7b\n  \x7d\n\x7d".toList := by
  rw [Member.LabelsAgree]
  decide +kernel

end DiagramOutline.Diagram
