import DiagramOutline.Grammar
import DiagramOutline.Metadata.Plain
import DiagramOutline.Notice

/-! # Metadata read off a syntax tree

The metadata of code, counted in the syntax tree that a grammar makes of it. Where the grammar fails
or makes no tree, the metadata is read off the text instead.

* **`Tally.visit source depth tally node`** — the tally after a node was walked.
* **`Metadata.read grammar code`** — the metadata of code, with a grammar or without one. -/

namespace DiagramOutline

namespace Tally

mutual

/-- The tally after a **node** and all nodes inside it were walked, the node standing inside `depth`
bodies. A connection is counted as one and not walked; a name is a shape outside all bodies, unless
it is the key of a style or a class. -/
def visit (source : List UInt8) (depth : Nat) (tally : Tally) : SyntaxNode → Tally
  | ⟨kind, _, startByte, endByte, _, _, children⟩ =>
    let tally := tally.reach depth
    match NodeRole.ofKind kind with
    | .connection => tally.addConnection
    | .name =>
      let name := Utf8.decodeLossy (slice source startByte endByte)
      if isStyleKey name || isClassKey name then tally.noteKey name
      else if depth = 0 then tally.addShape name
      else tally
    | _ => visitAll source depth tally children

/-- The tally after the **children** of a node were walked, the node standing inside `depth`
bodies. -/
def visitAll (source : List UInt8) (depth : Nat) (tally : Tally) : List SyntaxNode → Tally
  | [] => tally
  | child :: more =>
    visitAll source depth
      (visit source (if child.role = .body then depth + 1 else depth) tally child) more

end

end Tally

namespace Metadata

/-- The **metadata** of code, with a grammar if there is one. -/
def read (grammar : Option Grammar) (code : Text) : Logged Metadata :=
  match grammar with
  | none => .quiet (plain code)
  | some grammar =>
    match grammar code with
    | .failure => ⟨plain code, [.metadataFellBack]⟩
    | .noTree => .quiet (plain code)
    | .tree root => .quiet ((Tally.visit (Utf8.encode code) 0 {} root).metadata code)

/-- Without a grammar the metadata is read off the text. -/
@[simp] theorem read_none (code : Text) : read none code = ⟨plain code, []⟩ := rfl

end Metadata

end DiagramOutline
