import DiagramOutline.Text.Basic

/-! # Text on a console

What a text looks like on a console: a few controls are not shown, and a tab moves on to the next of
the places that stand eight columns apart.

* **`Console.displayLines text`** — the lines of a text as they are shown.
* **`Console.pad width text`** — a text with spaces after it, up to a width. -/

namespace DiagramOutline.Console

/-- How far **tab stops** stand apart. -/
def tabWidth : Nat := 8

/-- Whether a character is **dropped**: the bell, the backspace, the vertical tab, the form feed and
the carriage return are. -/
def isDropped (c : Char) : Bool := [7, 8, 11, 12, 13].contains c.toNat

/-- A line with **spaces for its tabs**, when it starts in the given column. -/
def expandTabs (column : Nat) : Text → Text
  | [] => []
  | c :: rest =>
    if c = '\t' then
      let width := tabWidth - column % tabWidth
      List.replicate width ' ' ++ expandTabs (column + width) rest
    else c :: expandTabs (column + 1) rest

/-- The lines of a text **as they are shown**. -/
def displayLines (text : Text) : List Text :=
  (Text.lines (text.filter fun c => !isDropped c)).map (expandTabs 0)

/-- A text with **spaces after** it, up to a width. -/
def pad (width : Nat) (text : Text) : Text := text ++ List.replicate (width - text.length) ' '

end DiagramOutline.Console
