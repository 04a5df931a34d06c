import DiagramOutline.Proofs.Diagram.Labels
import DiagramOutline.Proofs.Mirroring

/-! # The declarations of a diagram

What an outline reads off the nodes of a faithful syntax tree: the name and the label of a
declaration, and what it gives to the label property.

* **`Diagram.Head.declaration`** — the node of a leaf or a container.
* **`Diagram.Head.declaredName_declaration`**, **`Diagram.Head.headerLabel?_declaration`** — its
  name, and the label in its header.
* **`Diagram.Head.property?_declaration`** — what it gives to the label property.
* **`Diagram.Head.label_declaration`** — its label. -/

namespace DiagramOutline.Diagram

open SyntaxNode

/-! ## Roles -/

/-- The role of a node spanning a text is that of its **kind**. -/
@[simp] theorem role_spanning (place : Place) (text : Text) (kind : String) (isNamed : Bool)
    (children : List SyntaxNode) :
    (SyntaxNode.spanning place text kind isNamed children).role = .ofKind kind := rfl

/-- The node of a name **is a name** over the text of the name. -/
theorem Name.exists_node_eq (place : Place) (name : Name) :
    ∃ kind children, NodeRole.ofKind kind = .name ∧
      name.node place = .spanning place name.text kind true children := by
  unfold Name.node
  split
  · exact ⟨_, _, by decide, rfl⟩
  · exact ⟨_, _, by decide, rfl⟩

namespace Subject

/-- The **role** of the node of a subject. -/
def role (subject : Subject) : NodeRole := if subject.isConnection then .connection else .name

/-- The node of a subject is a name or a connection over **the text of the subject**. -/
theorem exists_node_eq (place : Place) (subject : Subject) :
    ∃ kind children, NodeRole.ofKind kind = subject.role ∧
      subject.node place = .spanning place subject.text kind true children := by
  cases subject with
  | shape name => exact name.exists_node_eq place
  | connection joined =>
    have hkind : NodeRole.ofKind "connection" = .connection := by decide
    exact ⟨_, _, hkind, rfl⟩

/-- The node of a subject has the **role** of the subject. -/
theorem role_node (place : Place) (subject : Subject) :
    (subject.node place).role = subject.role := by
  obtain ⟨kind, children, hrole, hnode⟩ := subject.exists_node_eq place
  rw [hnode, role_spanning, hrole]

/-- The node of a subject is a name or a connection, and has **no other role**. -/
theorem role_node_ne (place : Place) (subject : Subject) {role : NodeRole}
    (hname : .name ≠ role) (hconnection : .connection ≠ role) :
    (subject.node place).role ≠ role := by
  rw [role_node]
  cases subject with
  | shape name => exact hname
  | connection joined => exact hconnection

/-- The **text** of the node of a subject is that of the subject. -/
theorem text_node {place : Place} {subject : Subject} {source : Text}
    (h : place.Holds subject.text source) :
    (subject.node place).text (Utf8.encode source) = subject.text := by
  obtain ⟨kind, children, -, hnode⟩ := subject.exists_node_eq place
  rw [hnode]
  exact text_spanning h

/-- The node of a subject is the only **outermost** name or connection in itself. -/
theorem namesOf_node (place : Place) (subject : Subject) :
    (subject.node place).namesOf = [subject.node place] := by
  obtain ⟨kind, children, hrole, hnode⟩ := subject.exists_node_eq place
  rw [hnode, SyntaxNode.spanning, namesOf, hrole]
  cases subject with
  | shape name => rfl
  | connection joined => rfl

end Subject

namespace Value

/-- The node of the **label** that a value is, when its colon stands at a place. -/
def label? (place : Place) : Value → Option SyntaxNode
  | quoted wording => some (.spanning (place.after [':', ' ']) wording.quoted "label" true [])
  | bare value => some (.spanning (place.after [':', ' ']) value.text "label" true [])
  | _ => none

/-- The nodes of a value are neither names nor connections nor bodies, and have **no children**. -/
theorem role_of_mem_nodes {place : Place} {value : Value} {node : SyntaxNode}
    (h : node ∈ value.nodes place) :
    (node.role = .other ∨ node.role = .label) ∧ node.children = [] := by
  have hcolon : NodeRole.ofKind ":" = .other := by decide
  have hlabel : NodeRole.ofKind "label" = .label := by decide
  cases value with
  | absent => cases h
  | colon =>
    rw [List.mem_singleton.1 h]
    exact ⟨.inl hcolon, rfl⟩
  | quoted wording =>
    rw [nodes, List.mem_cons, List.mem_singleton] at h
    rcases h with rfl | rfl
    · exact ⟨.inl hcolon, rfl⟩
    · exact ⟨.inr hlabel, rfl⟩
  | bare value =>
    rw [nodes, List.mem_cons, List.mem_singleton] at h
    rcases h with rfl | rfl
    · exact ⟨.inl hcolon, rfl⟩
    · exact ⟨.inr hlabel, rfl⟩

/-- The nodes of a value have **no other role** than that of a colon or of a label. -/
theorem role_ne_of_mem_nodes {place : Place} {value : Value} {node : SyntaxNode}
    (h : node ∈ value.nodes place) {role : NodeRole} (hother : .other ≠ role)
    (hlabel : .label ≠ role) : node.role ≠ role := by
  obtain ⟨hrole, -⟩ := role_of_mem_nodes h
  cases hrole with
  | inl hrole => rwa [hrole]
  | inr hrole => rwa [hrole]

/-- No node of a value holds a **name** or a connection. -/
theorem names_nodes (place : Place) (value : Value) : names (value.nodes place) = [] := by
  have hall : ∀ all : List SyntaxNode, (∀ node ∈ all,
      (node.role = .other ∨ node.role = .label) ∧ node.children = []) → names all = [] := by
    intro all h
    induction all with
    | nil => rfl
    | cons node more ih =>
      obtain ⟨hrole, hchildren⟩ := h node List.mem_cons_self
      obtain ⟨kind, isNamed, startByte, endByte, start, stop, children⟩ := node
      have hrole : NodeRole.ofKind kind = .other ∨ NodeRole.ofKind kind = .label := hrole
      have hchildren : children = [] := hchildren
      have hnode : namesOf ⟨kind, isNamed, startByte, endByte, start, stop, children⟩ = [] := by
        rw [namesOf, hchildren]
        rcases hrole with hrole | hrole <;> rw [hrole] <;> rfl
      rw [names, hnode, ih fun other hother => h other (List.mem_cons_of_mem _ hother)]
      rfl
  exact hall _ fun _ => role_of_mem_nodes

/-- The first label among the nodes of a value is the **label** that the value is. -/
theorem find?_label_nodes (place : Place) (value : Value) :
    (value.nodes place).find? (·.role = .label) = value.label? place := by
  have hcolon : ¬ decide (NodeRole.ofKind ":" = .label) = true := by decide
  have hlabel : decide (NodeRole.ofKind "label" = .label) = true := by decide
  cases value with
  | absent => rfl
  | colon =>
    rw [nodes, List.find?_cons_of_neg (by exact hcolon), List.find?_nil]
    rfl
  | quoted wording =>
    rw [nodes, List.find?_cons_of_neg (by exact hcolon), List.find?_cons_of_pos (by exact hlabel)]
    rfl
  | bare value =>
    rw [nodes, List.find?_cons_of_neg (by exact hcolon), List.find?_cons_of_pos (by exact hlabel)]
    rfl

/-- The text of that label is what the value gives to a **property**. -/
theorem map_text_label? {place : Place} {value : Value} {source : Text}
    (h : place.Holds value.text source) :
    (value.label? place).map (·.text (Utf8.encode source)) = value.given? := by
  have hsplit : ∀ given : Text, place.Holds (':' :: ' ' :: given) source →
      (SyntaxNode.spanning (place.after [':', ' ']) given "label" true []).text
        (Utf8.encode source) = given := by
    intro given hgiven
    have hsplit : place.Holds ([':', ' '] ++ given) source := hgiven
    exact text_spanning hsplit.right
  cases value with
  | absent => rfl
  | colon => rfl
  | quoted wording => exact congrArg some (hsplit _ h)
  | bare value => exact congrArg some (hsplit _ h)

end Value

/-! ## Declarations -/

namespace Head

/-- The node of a statement that **begins with a head** at a place, is a whole text, and has more
children after those of the head. -/
def declaration (head : Head) (place : Place) (whole : Text) (tail : List SyntaxNode) :
    SyntaxNode :=
  .spanning place whole "declaration" true (head.nodes place ++ tail)

variable {head : Head} {place : Place} {whole source : Text} {tail : List SyntaxNode}

/-- The node of a statement **is a declaration**. -/
theorem role_declaration : (head.declaration place whole tail).role = .declaration := by
  rw [declaration, role_spanning]
  decide

/-- No node of a head is a **body**. -/
theorem role_ne_body_of_mem_nodes {node : SyntaxNode} (h : node ∈ head.nodes place) :
    node.role ≠ .body := by
  rw [nodes, List.mem_cons] at h
  cases h with
  | inl hsubject =>
    rw [hsubject]
    exact head.subject.role_node_ne place (by decide) (by decide)
  | inr hvalue => exact Value.role_ne_of_mem_nodes hvalue (by decide) (by decide)

/-- The **header** of a declaration has the nodes of the head. -/
theorem header_declaration (h : ∀ node ∈ tail, node.role = .body) :
    (head.declaration place whole tail).header = head.nodes place := by
  have hnodes : ∀ node ∈ head.nodes place, decide (node.role ≠ .body) = true :=
    fun node hnode => decide_eq_true (role_ne_body_of_mem_nodes hnode)
  -- the header ends at the first body, which is the first node behind the head
  have hstop : tail.takeWhile (fun node => decide (node.role ≠ .body)) = [] := by
    cases tail with
    | nil => rfl
    | cons node more =>
      rw [List.takeWhile_cons_of_neg]
      simpa using h node List.mem_cons_self
  calc (head.declaration place whole tail).header
      = (head.nodes place ++ tail).takeWhile (fun node => decide (node.role ≠ .body)) := rfl
    _ = head.nodes place := by
      rw [List.takeWhile_append_of_pos hnodes, hstop, List.append_nil]

/-- The **body** of a declaration is the first node after those of the head. -/
theorem body?_declaration (h : ∀ node ∈ tail, node.role = .body) :
    (head.declaration place whole tail).body? = tail.head? := by
  have hnodes : (head.nodes place).find? (fun node => decide (node.role = .body)) = none := by
    refine List.find?_eq_none.2 ?_
    intro node hnode
    rw [decide_eq_true_eq]
    exact role_ne_body_of_mem_nodes hnode
  calc (head.declaration place whole tail).body?
      = (head.nodes place ++ tail).find? (fun node => decide (node.role = .body)) := rfl
    _ = tail.find? (fun node => decide (node.role = .body)) := by
      rw [List.find?_append, hnodes, Option.none_or]
    _ = tail.head? := by
      cases tail with
      | nil => rfl
      | cons node more =>
        have hbody := decide_eq_true (h node List.mem_cons_self)
        rw [List.find?_cons_of_pos (by exact hbody), List.head?_cons]

/-- The outermost **name or connection** of a head is its subject. -/
theorem names_nodes (place : Place) (head : Head) :
    names (head.nodes place) = [head.subject.node place] := by
  rw [nodes, names, Subject.namesOf_node, Value.names_nodes, List.append_nil]

/-- The last node of a head ends **where the head does**. -/
theorem endByte_getLast? (place : Place) (head : Head) :
    (head.nodes place).getLast?.map (·.endByte) = some ((place.after head.text).byte : Int) := by
  have hsubject : (head.subject.node place).endByte = (place.after head.subject.text).byte := by
    obtain ⟨kind, children, -, hnode⟩ := head.subject.exists_node_eq place
    rw [hnode]
    rfl
  rw [nodes, text, Place.after_append]
  cases head.value with
  | absent => exact congrArg some hsubject
  | colon => rfl
  | quoted wording =>
    have htext : (Value.quoted wording).text = [':', ' '] ++ wording.quoted := rfl
    rw [htext, Place.after_append]
    rfl
  | bare value =>
    have htext : (Value.bare value).text = [':', ' '] ++ value.text := rfl
    rw [htext, Place.after_append]
    rfl

/-- The **name** that is read off a declaration is the one that the head gives. -/
theorem declaredName_declaration (h : ∀ node ∈ tail, node.role = .body)
    (hplace : place.Holds head.text source) :
    (head.declaration place whole tail).declaredName (Utf8.encode source) = head.name := by
  have hsplit : place.Holds (head.subject.text ++ head.value.text) source := hplace
  have hsubject := Subject.text_node hsplit.left
  have hrole := head.subject.role_node place
  rw [declaredName, header_declaration h, names_nodes, endByte_getLast?, name]
  cases hkind : head.subject with
  | shape name =>
    rw [hkind] at hrole hsubject
    have hnone : [(Subject.shape name).node place].any (·.role = .connection) = false := by
      rw [List.any_cons, hrole]
      rfl
    rw [hnone]
    exact hsubject
  | connection joined =>
    -- the name is then read off all the text up to the end of the head
    rw [hkind] at hrole
    have hsome : [(Subject.connection joined).node place].any (·.role = .connection) = true := by
      rw [List.any_cons, hrole]
      rfl
    rw [hsome]
    exact congrArg Header.connectionName hplace.decodeLossy_slice

/-- The **label in the header** of a declaration is that of the value. -/
theorem headerLabel?_declaration (h : ∀ node ∈ tail, node.role = .body) :
    (head.declaration place whole tail).headerLabel? =
      head.value.label? (place.after head.subject.text) := by
  have hsubject : (head.subject.node place).role ≠ .label :=
    head.subject.role_node_ne place (by decide) (by decide)
  rw [headerLabel?, header_declaration h, nodes, List.find?_cons_of_neg (by simpa using hsubject)]
  exact Value.find?_label_nodes _ _

/-- The **key** of a declaration is the first name of the head. -/
theorem key_declaration {rest : Text} (h : ∀ node ∈ tail, node.role = .body)
    (hrest : ∀ c ∈ rest.head?, Keyword.continuesIdentifier c = false)
    (hplace : place.Holds (head.text ++ rest) source) :
    (head.declaration place (head.text ++ rest) tail).key (Utf8.encode source) =
      head.subject.firstName.text := by
  have hleading := head.leadingIdentifier_append rest hrest
  unfold key
  rw [header_declaration h, nodes]
  cases hkind : head.subject with
  | shape name =>
    have hfound : ((Subject.shape name).node place).role = .name := Subject.role_node place _
    rw [List.find?_cons_of_pos (by simpa using hfound)]
    rw [text, hkind, List.append_assoc] at hplace
    exact Subject.text_node hplace.left
  | connection joined =>
    -- the name is inside the connection, so the key is read off the text
    have hfound : ¬ ((Subject.connection joined).node place).role = .name := by
      rw [Subject.role_node]
      intro hrole
      cases hrole
    have hvalue : ∀ node ∈ head.value.nodes (place.after (Subject.connection joined).text),
        ¬ decide (node.role = .name) = true := by
      intro node hnode
      rw [decide_eq_true_eq]
      exact Value.role_ne_of_mem_nodes hnode (by decide) (by decide)
    have htext : (head.declaration place (head.text ++ rest) tail).text (Utf8.encode source) =
        head.text ++ rest := text_spanning hplace
    have hstart : Text.trimStart (head.text ++ rest) = head.text ++ rest := by
      refine Text.trimStart_eq_self ?_
      intro c hc
      rw [List.head?_append, Option.or_of_isSome (List.isSome_head?.2 head.tight.ne_nil)] at hc
      exact head.tight.head c hc
    rw [hkind] at hleading
    rw [List.find?_cons_of_neg (by simpa using hfound), List.find?_eq_none.2 hvalue]
    dsimp only
    rw [htext, hstart]
    exact hleading

/-- A declaration is a **label property** when its first name is that of the property. -/
theorem isLabelProperty_declaration {rest : Text} (h : ∀ node ∈ tail, node.role = .body)
    (hrest : ∀ c ∈ rest.head?, Keyword.continuesIdentifier c = false)
    (hplace : place.Holds (head.text ++ rest) source) :
    (head.declaration place (head.text ++ rest) tail).isLabelProperty (Utf8.encode source) =
      (head.subject.firstName.text == Label.property) := by
  rw [isLabelProperty, role_declaration, key_declaration h hrest hplace]
  rfl

/-- A declaration whose first name is that of the label property gives **its value** to it, and any
other one gives nothing. -/
theorem given?_declaration {rest : Text} (h : ∀ node ∈ tail, node.role = .body)
    (hrest : ∀ c ∈ rest.head?, Keyword.continuesIdentifier c = false)
    (hplace : place.Holds (head.text ++ rest) source) :
    (([head.declaration place (head.text ++ rest) tail].filter
      (·.isLabelProperty (Utf8.encode source))).findSome? headerLabel?).map
        (·.text (Utf8.encode source)) =
      if head.subject.firstName.text = Label.property then head.value.given? else none := by
  have hgiven : (head.value.label? (place.after head.subject.text)).map
      (·.text (Utf8.encode source)) = head.value.given? := by
    refine Value.map_text_label? ?_
    rw [text, List.append_assoc] at hplace
    exact hplace.right.left
  rw [List.filter_cons, isLabelProperty_declaration h hrest hplace]
  by_cases hname : head.subject.firstName.text = Label.property
  · rw [if_pos (by rw [hname, beq_self_eq_true]), if_pos hname, List.filter_nil,
      List.findSome?_cons, headerLabel?_declaration h, ← hgiven]
    cases head.value.label? (place.after head.subject.text) <;> rfl
  · rw [if_neg (by rw [beq_iff_eq]; exact hname), if_neg hname]
    rfl

/-- What a declaration **gives to the label property** is what its head does. -/
theorem property?_declaration {rest : Text} (h : ∀ node ∈ tail, node.role = .body)
    (hrest : ∀ c ∈ rest.head?, Keyword.continuesIdentifier c = false)
    (hplace : place.Holds (head.text ++ rest) source) (houtlinable : head.subject.Outlinable) :
    (([head.declaration place (head.text ++ rest) tail].filter
      (·.isLabelProperty (Utf8.encode source))).findSome? headerLabel?).map
        (·.text (Utf8.encode source)) = head.property? := by
  rw [given?_declaration h hrest hplace, property?]
  cases hkind : head.subject with
  | shape name => rfl
  | connection joined =>
    -- a connection starts at another name, or it would not be outlinable
    rw [hkind] at houtlinable
    exact if_neg houtlinable

/-- The **label** of a declaration is the quoted one of its head. A bare value is none, and only
where no value stands the body is searched. -/
theorem label_declaration (h : ∀ node ∈ tail, node.role = .body)
    (hplace : place.Holds head.text source) :
    (head.declaration place whole tail).label (Utf8.encode source) =
      match head.value with
      | .quoted wording => Label.clean wording.quoted
      | .bare _ => none
      | _ => tail.head?.bind fun body =>
          ((body.children.filter (·.isLabelProperty (Utf8.encode source))).findSome?
            headerLabel?).bind fun value => Label.clean (value.text (Utf8.encode source)) := by
  have hsplit : place.Holds (head.subject.text ++ head.value.text) source := hplace
  have hgiven := Value.map_text_label? hsplit.right
  rw [label, headerLabel?_declaration h, body?_declaration h]
  cases hvalue : head.value with
  | absent => rfl
  | colon => rfl
  | quoted wording =>
    rw [hvalue] at hgiven
    -- the text of the label starts with a quote, also when it is trimmed
    have htext := Option.some.inj hgiven
    have hquote : Text.Tight [Quoting.double] := .singleton rfl
    have htrim : Text.trim wording.quoted = wording.quoted :=
      (hquote.append hquote wording.text).trim_eq
    rw [Value.label?]
    dsimp only at htext ⊢
    rw [htext, htrim]
    rfl
  | bare value =>
    rw [hvalue] at hgiven
    -- the text of the label starts with no quote, and so is no label of the statement
    have htext := Option.some.inj hgiven
    obtain ⟨c, rest, hcons⟩ := List.exists_cons_of_ne_nil value.text_ne_nil
    have hhead : c ∈ value.text.head? := by
      rw [hcons]
      rfl
    have hquote : Quoting.isQuote c = false := (BareValue.head?_text hhead).2
    rw [Value.label?]
    dsimp only at htext ⊢
    rw [htext, value.tight.trim_eq, hcons]
    dsimp only
    rw [hquote]
    rfl

end Head

end DiagramOutline.Diagram
