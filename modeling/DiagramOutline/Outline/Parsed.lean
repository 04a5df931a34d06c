import DiagramOutline.Declaration
import DiagramOutline.Grammar
import DiagramOutline.Notice
import DiagramOutline.Outline.Plain

/-! # Outlines made with a grammar

The outline of a source, read off the syntax tree that a grammar makes of it. The interior of each
body is given to the grammar as a text of its own. Where the grammar fails, makes no tree, or makes
one that would put a block on a line below zero, the outline is read off the text instead; this is
decided for each interior on its own.

A grammar may cut the same text from itself again, and then there is no outline. So the depth to
which interiors are followed is bounded, and no outline is given where the bound is met.

* **`Outline.declared inner source lines nodes`** — the blocks of nodes, where `inner` outlines an
  interior.
* **`Outline.parsed grammar depth source`** — the outline with a grammar.
* **`Outline.read grammar depth source`** — the outline with a grammar, or without one. -/

namespace DiagramOutline.Outline

/-- An outline with its notices, or nothing where interiors nest **too deep**. -/
abbrev Result : Type := Option (Logged (List Block))

/-- The blocks inside the body of a node, placed in `lines`. -/
def declaredChildren (inner : Text → Result) (source : List UInt8) (lines : List Text)
    (node : SyntaxNode) : Option (Logged (Option (List Block))) :=
  match node.interior? source with
  | none => some (.quiet none)
  | some interior =>
    (inner interior.text).map fun found => found.map (Block.adopt interior.line lines)

/-- Whether a node **stands for** a statement: it is named and no comment. -/
def standsForStatement (node : SyntaxNode) : Bool := node.isNamed && node.role ≠ .comment

/-- The blocks that nodes **stand for**, in order. A node without a name stands for none. One with a
row below zero spoils all of them; what was told before it stays told. -/
def declared (inner : Text → Result) (source : List UInt8) (lines : List Text) :
    List SyntaxNode → Option (Logged (Option (List Block)))
  | [] => some (.quiet (some []))
  | node :: more =>
    if standsForStatement node then
      match node.declaredName source with
      | [] => declared inner source lines more
      | c :: name =>
        match declaredChildren inner source lines node with
        | none => none
        | some children =>
          -- the children come first: what was told about them stays told
          if node.rows.1 < 0 ∨ node.rows.2 < 0 then some ⟨none, children.notices⟩
          else
            (declared inner source lines more).map fun rest =>
              (rest.map fun blocks =>
                blocks.map fun blocks =>
                  { name := c :: name
                    code := Block.linesBetween lines node.rows.1 node.rows.2
                    startLine := node.rows.1
                    endLine := node.rows.2
                    label := node.label source
                    children := children.value } :: blocks).after children.notices
    else declared inner source lines more

/-- The outline of a source **with a grammar**, interiors being followed down to `depth`. -/
def parsed (grammar : Grammar) : Nat → Text → Result
  | 0, _ => none
  | depth + 1, source =>
    match grammar source with
    | .failure => some ⟨plain source, [.outlineFellBack]⟩
    | .noTree => some ⟨plain source, [.noTree]⟩
    | .tree root =>
      (declared (parsed grammar depth) (Utf8.encode source) source.lines root.children).map
        fun found =>
          match found.value with
          | some blocks => ⟨Block.withoutDirectives blocks, found.notices⟩
          | none => ⟨plain source, found.notices ++ [.outlineFellBack]⟩

/-- The **outline** of a source, with a grammar if there is one. -/
def read (grammar : Option Grammar) (depth : Nat) (source : Text) : Result :=
  match grammar with
  | some grammar => parsed grammar depth source
  | none => some (.quiet (plain source))

end DiagramOutline.Outline
