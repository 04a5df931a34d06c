import DiagramOutline.Proofs.Diagram.Outlines
import DiagramOutline.Proofs.Tallies

/-! # Both readings count a diagram alike

The metadata of a diagram is the same whether it is counted line by line or node by node: both are
the count of its items.

* **`Diagram.count depth tally items`** — the count of items that stand inside `depth` bodies.
* **`Diagram.foldl_readLine_lines`** — the lines of a diagram count as its items.
* **`Diagram.visitAll_nodes`** — the nodes of a diagram count as its items.
* **`Diagram.metadata_text_eq_plain`** — the metadata of a diagram is the same with its syntax tree
  and without it. -/

namespace DiagramOutline.Diagram

open Metadata

/-! ## The count of a diagram -/

/-- The **count** of a head whose statement stands inside `depth` bodies: a connection is one, and a
shape is noted by its name. -/
def Head.count (depth : Nat) (tally : Tally) (head : Head) : Tally :=
  match head.subject with
  | .shape name => tally.noteName depth name.text
  | .connection _ => tally.addConnection

mutual

/-- The **count** of an item that stands inside `depth` bodies. -/
def Item.count (depth : Nat) (tally : Tally) : Item → Tally
  | .blank _ => tally
  | .comment _ _ => tally
  | .leaf _ head _ => head.count depth tally
  | .container _ head _ items _ =>
    count (depth + 1) ((head.count depth tally).reach (depth + 1)) items

/-- The **count** of items that stand inside `depth` bodies. -/
def count (depth : Nat) (tally : Tally) : List Item → Tally
  | [] => tally
  | item :: more => count depth (item.count depth tally) more

end

/-- A head changes no **depth**. -/
theorem Head.depth_count (head : Head) (depth : Nat) (tally : Tally) :
    (head.count depth tally).depth = tally.depth := by
  unfold count
  split
  · exact Tally.depth_noteName _ _ _
  · exact Tally.depth_addConnection _

/-- It is all one whether a depth is met **before a head** or after it. -/
theorem Head.count_reach (head : Head) (reached depth : Nat) (tally : Tally) :
    head.count depth (tally.reach reached) = (head.count depth tally).reach reached := by
  unfold count
  split
  · exact Tally.noteName_reach _ _ _ _
  · rfl

mutual

/-- An item makes no depth **less deep**. -/
theorem Item.depth_le_depth_count : ∀ (item : Item) (depth : Nat) (tally : Tally),
    tally.depth ≤ (item.count depth tally).depth
  | .blank _, _, _ => Nat.le_refl _
  | .comment _ _, _, _ => Nat.le_refl _
  | .leaf _ head _, depth, tally => Nat.le_of_eq (head.depth_count depth tally).symm
  | .container _ head _ items _, depth, tally => by
    have hreach := ((head.count depth tally).depth_le_depth_reach (depth + 1))
    have hitems :=
      depth_le_depth_count items (depth + 1) ((head.count depth tally).reach (depth + 1))
    rw [head.depth_count] at hreach
    exact Nat.le_trans hreach hitems

/-- Items make no depth **less deep**. -/
theorem depth_le_depth_count : ∀ (items : List Item) (depth : Nat) (tally : Tally),
    tally.depth ≤ (count depth tally items).depth
  | [], _, _ => Nat.le_refl _
  | item :: more, depth, tally =>
    Nat.le_trans (item.depth_le_depth_count depth tally)
      (depth_le_depth_count more depth (item.count depth tally))

end

/-! ## Counting lines -/

namespace Head

/-- The key of a head is noted, and the head of a connection is one, while that of a shape is a
shape **outside all bodies**: this is the count of the head. -/
theorem count_eq (head : Head) (depth : Nat) (tally : Tally) :
    (if head.subject.isConnection then
        ((if head.subject.isConnection then [] else [head.subject.firstName.text]).foldl
          Tally.noteKey tally).addConnection
      else if depth = 0 then
        ((if head.subject.isConnection then [] else [head.subject.firstName.text]).foldl
          Tally.noteKey tally).addShape head.subject.firstName.text
      else (if head.subject.isConnection then [] else [head.subject.firstName.text]).foldl
          Tally.noteKey tally) = head.count depth tally := by
  unfold count
  cases head.subject with
  | shape name => rfl
  | connection joined => rfl

/-- The line of a **leaf** counts as its head. -/
theorem readStatement_text (head : Head) (depth : Nat) (tally : Tally) :
    readStatement (tally, depth) head.text = (head.count depth tally, depth) := by
  have hbraces : (Braces.ofLine head.text).map (·.brace) = [] := by
    rw [Braces.ofLine, head.quiet.scan]
    rfl
  have hshape : (depth = 0 ∨ depth = 1 ∧ .opening ∈ (Braces.ofLine head.text).map (·.brace)) ↔
      depth = 0 := by
    rw [hbraces]
    simp
  have hleading := head.leadingIdentifier_append [] (by simp)
  rw [List.append_nil] at hleading
  have hfold : ((Braces.ofLine head.text).map (·.brace)).foldl readBrace (tally, depth) =
      (tally, depth) := by
    rw [hbraces]
    rfl
  rw [readStatement_eq hfold, ← head.count_eq, keys_of_quiet head.quiet head.tight,
    head.hasConnection_text, hleading]
  simp only [hshape]

/-- The **first line of a container** counts as its head, and a body is open after it. -/
theorem readStatement_header (head : Head) (depth : Nat) (tally : Tally) :
    readStatement (tally, depth) (head.text ++ [' ', '{']) =
      ((head.count depth tally).reach (depth + 1), depth + 1) := by
  have hbraces : (Braces.ofLine (head.text ++ [' ', '{'])).map (·.brace) = [.opening] := by
    have hquiet : Braces.Quiet (head.text ++ [' ']) := head.quiet.append (.of_isAllBlank rfl)
    have hline := Braces.ofLine_append_char hquiet .opening
    rw [List.append_assoc] at hline
    exact congrArg (List.map (·.brace)) hline
  -- the line ends inside the first body and opens it, so it stands outside all bodies
  have hshape : (depth + 1 = 0 ∨
      depth + 1 = 1 ∧ .opening ∈ (Braces.ofLine (head.text ++ [' ', '{'])).map (·.brace)) ↔
        depth = 0 := by
    rw [hbraces]
    simp
  have hleading := head.leadingIdentifier_append [] (by simp)
  have hwhole := head.leadingIdentifier_append [' ', '{'] (by rintro c ⟨⟩; rfl)
  rw [List.append_nil] at hleading
  have hfold : ((Braces.ofLine (head.text ++ [' ', '{'])).map (·.brace)).foldl readBrace
      (tally, depth) = (tally.reach (depth + 1), depth + 1) := by
    rw [hbraces]
    rfl
  rw [readStatement_eq hfold, ← head.count_reach, ← head.count_eq,
    keys_append_brace head.quiet head.tight, head.hasConnection_text,
    head.hasConnection_text_append (by decide) rfl, hleading, hwhole]
  simp only [hshape]

end Head

/-- The **last line of a container** closes its body and counts for nothing else. -/
theorem readStatement_closing (depth : Nat) (tally : Tally) :
    readStatement (tally, depth + 1) ['}'] = (tally, depth) := by
  have hkeys : keys ['}'] = [] := by decide
  have hconnection : Keyword.hasConnection ['}'] = false := by decide
  have hleading : Keyword.leadingIdentifier ['}'] = [] := by decide
  have hbraces : (Braces.ofLine ['}']).map (·.brace) = [.closing] := by decide
  have hfold : ((Braces.ofLine ['}']).map (·.brace)).foldl readBrace (tally, depth + 1) =
      (tally, depth) := by
    rw [hbraces]
    rfl
  rw [readStatement_eq hfold, hkeys, hconnection, hleading]
  -- a shape without a name is none
  have hshape : tally.addShape [] = tally := rfl
  rw [List.foldl_nil, hshape, ite_self]
  rfl

mutual

/-- The lines of an item **count as the item**, and leave as many bodies open as there were. -/
theorem Item.foldl_readLine_lines : ∀ (item : Item) (depth : Nat) (tally : Tally),
    item.lines.foldl readLine (tally, depth) = (item.count depth tally, depth)
  | .blank indent, depth, tally =>
    readLine_of_isSkipped (isSkipped_of_isAllBlank indent.isAllBlank_text) (tally, depth)
  | .comment indent remark, depth, tally =>
    readLine_of_isSkipped (isSkipped_comment indent remark) (tally, depth)
  | .leaf indent head _, depth, tally => by
    have hline := readLine_of_not_isSkipped (isSkipped_leaf indent head) (tally, depth)
    rw [head.tight.trim_append indent.isAllBlank_text, head.readStatement_text] at hline
    exact hline
  | .container indent head _ items close, depth, tally => by
    have hheader : readLine (tally, depth) (indent.text ++ head.text ++ [' ', '{']) =
        ((head.count depth tally).reach (depth + 1), depth + 1) := by
      rw [readLine_of_not_isSkipped (head.isSkipped_append indent [' ', '{']), List.append_assoc,
        head.tight_append_brace.trim_append indent.isAllBlank_text, head.readStatement_header]
    have hclosing : ∀ tally : Tally,
        readLine (tally, depth + 1) (close.text ++ ['}']) = (tally, depth) := by
      intro tally
      have hbrace : Text.Tight ['}'] := .singleton rfl
      rw [readLine_of_not_isSkipped (isSkipped_closing close),
        hbrace.trim_append close.isAllBlank_text, readStatement_closing]
    -- one body more is open for the items, and the last line closes it again
    rw [Item.lines, List.foldl_cons, hheader, List.foldl_append, foldl_readLine_lines items,
      List.foldl_cons, hclosing]
    rfl

/-- The lines of items **count as the items**, and leave as many bodies open as there were. -/
theorem foldl_readLine_lines : ∀ (items : List Item) (depth : Nat) (tally : Tally),
    (lines items).foldl readLine (tally, depth) = (count depth tally items, depth)
  | [], _, _ => rfl
  | item :: more, depth, tally => by
    rw [lines, List.foldl_append, item.foldl_readLine_lines depth tally,
      foldl_readLine_lines more depth, count]

end

/-- The metadata that is read off the **text** of a diagram is the count of its items. -/
theorem plain_text (items : List Item) :
    plain (text items) = (count 0 {} items).metadata (text items) := by
  have hlines : (text items).lines.foldl readLine ({}, 0) = (count 0 {} items, 0) := by
    cases items with
    | nil => rfl
    | cons item more => rw [lines_text (List.cons_ne_nil _ _), foldl_readLine_lines]
  rw [plain, hlines]

/-! ## Counting nodes -/

section Nodes

variable {source : Text} {depth : Nat} {tally : Tally}

/-- A node that has no role of its own for the count and **no children** counts for nothing, once
its depth was reached. -/
theorem visitAll_cons_of_role {node : SyntaxNode}
    (hrole : node.role = .other ∨ node.role = .label ∨ node.role = .comment)
    (hchildren : node.children = []) (h : depth ≤ tally.depth) (bytes : List UInt8)
    (more : List SyntaxNode) :
    Tally.visitAll bytes depth tally (node :: more) = Tally.visitAll bytes depth tally more := by
  obtain ⟨hbody, hname, hconnection⟩ :
      node.role ≠ .body ∧ node.role ≠ .name ∧ node.role ≠ .connection := by
    rcases hrole with hrole | hrole | hrole <;> simp [hrole]
  rw [Tally.visitAll, if_neg hbody, Tally.visit_of_role hname hconnection, hchildren,
    Tally.visitAll, Tally.reach_eq_self h]

/-- The nodes of a **value** count for nothing. -/
theorem Value.visitAll_nodes (value : Value) (place : Place) (h : depth ≤ tally.depth)
    (bytes : List UInt8) : Tally.visitAll bytes depth tally (value.nodes place) = tally := by
  have hall : ∀ all : List SyntaxNode, (∀ node ∈ all,
      (node.role = .other ∨ node.role = .label) ∧ node.children = []) →
        Tally.visitAll bytes depth tally all = tally := by
    intro all hnodes
    induction all with
    | nil => rfl
    | cons node more ih =>
      obtain ⟨hrole, hchildren⟩ := hnodes node List.mem_cons_self
      rw [visitAll_cons_of_role (hrole.imp_right .inl) hchildren h]
      exact ih fun other hother => hnodes other (List.mem_cons_of_mem _ hother)
  exact hall _ fun _ => Value.role_of_mem_nodes

/-- The nodes of a **head** count as the head. -/
theorem Head.visitAll_nodes {head : Head} {place : Place} (h : depth ≤ tally.depth)
    (hplace : place.Holds head.text source) :
    Tally.visitAll (Utf8.encode source) depth tally (head.nodes place) =
      head.count depth tally := by
  have hrole := head.subject.role_node place
  have hbody : (head.subject.node place).role ≠ .body :=
    head.subject.role_node_ne place (by decide) (by decide)
  have hdepth : depth ≤ (head.count depth tally).depth := by
    rw [head.depth_count]
    exact h
  have hsubject : Tally.visit (Utf8.encode source) depth tally (head.subject.node place) =
      head.count depth tally := by
    have hsplit : place.Holds (head.subject.text ++ head.value.text) source := hplace
    have htext := Subject.text_node hsplit.left
    unfold count
    -- a connection is counted as one, and the names inside it are not walked
    cases hkind : head.subject with
    | shape name =>
      rw [hkind] at hrole htext
      rw [Tally.visit_of_name hrole, Tally.reach_eq_self h, htext]
      rfl
    | connection joined =>
      rw [hkind] at hrole
      rw [Tally.visit_of_connection hrole, Tally.reach_eq_self h]
  rw [nodes, Tally.visitAll, if_neg hbody, hsubject, Value.visitAll_nodes _ _ hdepth]

/-- A **declaration** counts as the head, and then as the nodes behind the head. -/
theorem Head.visitAll_declaration {head : Head} {place : Place} {whole : Text}
    {tail : List SyntaxNode} (h : depth ≤ tally.depth) (hplace : place.Holds head.text source) :
    Tally.visitAll (Utf8.encode source) depth tally [head.declaration place whole tail] =
      Tally.visitAll (Utf8.encode source) depth (head.count depth tally) tail := by
  have hrole : (head.declaration place whole tail).role = .declaration := role_declaration
  have hname : (head.declaration place whole tail).role ≠ .name := by simp [hrole]
  have hconnection : (head.declaration place whole tail).role ≠ .connection := by simp [hrole]
  have hchildren : (head.declaration place whole tail).children = head.nodes place ++ tail := rfl
  rw [Tally.visitAll, Tally.visitAll, hrole, if_neg (by decide),
    Tally.visit_of_role hname hconnection, hchildren, Tally.reach_eq_self h, Tally.visitAll_append,
    Head.visitAll_nodes h hplace]

/-- A **body** counts as the nodes between its braces, one deeper. -/
theorem visitAll_bodyNode {place : Place} {items : List Item} {close : Indent}
    {inner : List SyntaxNode} {found : Tally}
    (h : Tally.visitAll (Utf8.encode source) (depth + 1) (tally.reach (depth + 1)) inner = found)
    (hfound : depth + 1 ≤ found.depth) :
    Tally.visitAll (Utf8.encode source) depth tally [bodyNode place items close inner] = found := by
  have hrole : (bodyNode place items close inner).role = .body := role_bodyNode
  have hname : (bodyNode place items close inner).role ≠ .name := by simp [hrole]
  have hconnection : (bodyNode place items close inner).role ≠ .connection := by simp [hrole]
  have hreach := tally.le_depth_reach (depth + 1)
  rw [Tally.visitAll, Tally.visitAll, if_pos hrole, Tally.visit_of_role hname hconnection,
    children_bodyNode]
  -- the braces count for nothing, the one before the nodes and the one behind them
  rw [visitAll_cons_of_role (.inl (role_brace _ _ _ rfl)) rfl hreach, Tally.visitAll_append, h,
    visitAll_cons_of_role (.inl (role_brace _ _ _ rfl)) rfl hfound, Tally.visitAll]

mutual

/-- The nodes of an item **count as the item**. -/
theorem Item.visitAll_nodes : ∀ (item : Item) {source : Text} {depth : Nat} {tally : Tally}
    {place : Place}, depth ≤ tally.depth → place.Holds (Text.unlines item.lines) source →
      Tally.visitAll (Utf8.encode source) depth tally (item.nodes place) = item.count depth tally
  | .blank _, _, _, _, _, _, _ => rfl
  | .comment _ _, _, _, _, _, h, _ =>
    visitAll_cons_of_role (.inr (.inr (role_comment _ _))) rfl h _ []
  | .leaf indent head _, source, depth, tally, place, h, hplace => by
    rw [nodes_leaf, Head.visitAll_declaration h (holds_leaf hplace).left]
    rfl
  | .container indent head _ items close, source, depth, tally, place, h, hplace => by
    -- the depth inside the body is met with its node, after the head and before the items
    have hholds := holds_container hplace
    have hreach := (head.count depth tally).le_depth_reach (depth + 1)
    have hitems := visitAll_nodes items hreach (stands_body (holds_containerBody hholds))
    rw [nodes_container, Head.visitAll_declaration h hholds.left, containerBody,
      visitAll_bodyNode hitems (Nat.le_trans hreach (depth_le_depth_count items _ _))]
    rfl

/-- The nodes of items **count as the items**. -/
theorem visitAll_nodes : ∀ (items : List Item) {source : Text} {depth : Nat} {tally : Tally}
    {place : Place}, depth ≤ tally.depth → Stands source place items →
      Tally.visitAll (Utf8.encode source) depth tally (nodes place items) = count depth tally items
  | [], _, _, _, _, _, _ => rfl
  | item :: more, source, depth, tally, place, h, hplace => by
    have hdepth := Nat.le_trans h (item.depth_le_depth_count depth tally)
    rw [nodes, Tally.visitAll_append, item.visitAll_nodes h hplace.1,
      visitAll_nodes more hdepth hplace.2, count]

end

end Nodes

/-- The **tree** of a diagram counts as its items. -/
theorem visit_tree (items : List Item) :
    Tally.visit (Utf8.encode (text items)) 0 {} (tree items) = count 0 {} items := by
  have hrole : (tree items).role = .other := by
    rw [tree, role_spanning]
    decide
  have hname : (tree items).role ≠ .name := by simp [hrole]
  have hconnection : (tree items).role ≠ .connection := by simp [hrole]
  rw [Tally.visit_of_role hname hconnection, Tally.reach_eq_self (Nat.zero_le _)]
  exact visitAll_nodes items (Nat.zero_le _) (stands_text items)

/-- **With its syntax tree and without it, the metadata of a diagram is the same**, in all its
fields. -/
theorem metadata_text_eq_plain {grammar : Grammar} {items : List Item}
    (h : grammar (text items) = .tree (tree items)) :
    Metadata.read (some grammar) (text items) = Metadata.read none (text items) := by
  rw [Metadata.read_none, plain_text, Metadata.read, h]
  dsimp only
  rw [visit_tree]
  rfl

/-- The grammar that knows a diagram with nested bodies finds the metadata that is read off the
text. -/
theorem metadata_text_nestedItems :
    Metadata.read (some (knownGrammar [nestedItems])) (text nestedItems) =
      Metadata.read none (text nestedItems) := by
  have htree : knownGrammar [nestedItems] (text nestedItems) = .tree (tree nestedItems) := by
    rw [knownGrammar, List.find?_cons_of_pos (by exact decide_eq_true rfl)]
  exact metadata_text_eq_plain htree

end DiagramOutline.Diagram
