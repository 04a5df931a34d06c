import DiagramOutline.SyntaxNode

/-! # Grammars

A grammar makes a syntax tree of a text, or fails to. It may be any function; where the trees of
some texts are known beforehand, a table of them is a grammar too.

* **`Reply`** — what comes of a text: a tree, no tree, a failure.
* **`Grammar`** — a reply for each text.
* **`ParseTable`** — the replies for finitely many texts; `ParseTable.grammar` is the grammar that
  makes a tree without children of any other text.
* **`ParseTable.depth table`** — how many texts can be cut from each other, each one but the last
  being in the table, when none of them is met twice. -/

namespace DiagramOutline

/-- What a grammar makes of a **text**. -/
inductive Reply where
  /-- A syntax tree with this root. -/
  | tree (root : SyntaxNode)
  /-- No syntax tree. -/
  | noTree
  /-- A failure of the grammar itself. -/
  | failure

/-- A **grammar**: what is made of each text. The bytes that nodes speak of are those of the text in
UTF-8. -/
abbrev Grammar : Type := Text → Reply

/-- A **table** of texts and what a grammar makes of them. -/
abbrev ParseTable : Type := List (Text × Reply)

namespace ParseTable

/-- The root of a tree **without children**, at the start of a text. -/
def emptyRoot : SyntaxNode := ⟨"source_file", true, 0, 0, ⟨0, 0⟩, ⟨0, 0⟩, []⟩

/-- The grammar of a table: a text that is **not in the table** has a tree without children. -/
def grammar (table : ParseTable) : Grammar := fun text =>
  (List.lookup text table).getD (.tree emptyRoot)

/-- The greatest **depth** at which the texts of a table can nest without meeting one twice. -/
def depth (table : ParseTable) : Nat := table.length + 1

end ParseTable

end DiagramOutline
