import DiagramOutline.Brace
import DiagramOutline.Metadata
import DiagramOutline.Text.Blank

/-! # Metadata read off the text

The metadata of code, counted line by line. Blank lines and comments are passed over. The depth is
the number of bodies that are open; a brace that closes none leaves it at zero.

* **`Braces.segments line`** — the pieces of a line between its braces.
* **`Metadata.keys line`** — the keys of the statements on a line.
* **`Metadata.plain code`** — the metadata of code. -/

namespace DiagramOutline

namespace Braces

/-- The pieces of a text **between** its braces outside literals, when the scan starts in
`state`. -/
def segmentsFrom (state : Quoting) : Text → List Text
  | [] => [[]]
  | c :: rest =>
    match state.brace? c with
    | some _ => [] :: segmentsFrom (state.next c) rest
    | none =>
      match segmentsFrom (state.next c) rest with
      | [] => [[c]]
      | segment :: more => (c :: segment) :: more

/-- The pieces of a line **between** its braces outside literals. -/
def segments (line : Text) : List Text := segmentsFrom .outside line

end Braces

namespace Metadata

/-- The **keys** of the statements on a line, one for each piece between braces that has text and is
no connection. Text inside a literal is never a key. -/
def keys (line : Text) : List Text :=
  (((Braces.segments line).map Text.trim).filter fun segment =>
    !segment.isEmpty && !Keyword.hasConnection segment).map Keyword.leadingIdentifier

/-- The tally and the depth after a **brace**. -/
def readBrace (state : Tally × Nat) (brace : Brace) : Tally × Nat :=
  match brace with
  | .opening => (state.1.reach (state.2 + 1), state.2 + 1)
  | .closing => (state.1, state.2 - 1)

/-- The tally and the depth after a trimmed **line** that is neither blank nor a comment. A line
without a connection counts as a shape if it ends outside all bodies, or inside the first one having
opened a body itself. -/
def readStatement (state : Tally × Nat) (line : Text) : Tally × Nat :=
  let braces := (Braces.ofLine line).map (·.brace)
  let (tally, depth) := braces.foldl readBrace state
  let tally := (keys line).foldl Tally.noteKey tally
  if Keyword.hasConnection line then (tally.addConnection, depth)
  else if depth = 0 ∨ depth = 1 ∧ .opening ∈ braces then
    (tally.addShape (Keyword.leadingIdentifier line), depth)
  else (tally, depth)

/-- The tally and the depth after a **line**. -/
def readLine (state : Tally × Nat) (line : Text) : Tally × Nat :=
  match Text.trim line with
  | [] => state
  | c :: rest => if c = '#' then state else readStatement state (c :: rest)

/-- The **metadata** of code, read off its text. -/
def plain (code : Text) : Metadata := ((code.lines.foldl readLine ({}, 0)).1).metadata code

end Metadata

end DiagramOutline
