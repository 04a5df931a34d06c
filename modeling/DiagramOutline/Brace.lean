import DiagramOutline.Text.Basic

/-! # Braces outside string literals

Braces nest the statements of a diagram, but a brace inside a string literal is plain text. A
literal opens at a double or a single quote and closes at the next quote of the same kind; inside it
a backslash takes the next character with it. No literal goes on past the end of its line.

* **`Quoting`** — where a scan stands: outside literals, inside one, or just after a backslash in
  one; `Quoting.next` is one step.
* **`Braces.ofLine line`** — the braces of a line outside its literals, with their offsets.
* **`Braces.delta line`** — how many more braces a line opens than it closes.
* **`Braces.ofText text`** — the braces of all lines of a text, with their offsets in the text.
* **`Braces.span? text`** — the first opening brace of a text and the brace that closes it. -/

namespace DiagramOutline

/-- One of the two **braces**. -/
inductive Brace where
  /-- The brace that opens a body. -/
  | opening
  /-- The brace that closes a body. -/
  | closing
  deriving DecidableEq, Repr

namespace Brace

/-- The **character** of a brace. -/
def char : Brace → Char
  | opening => '{'
  | closing => '}'

/-- The brace that a character **is**, if it is one. -/
def ofChar? (c : Char) : Option Brace :=
  if c = '{' then some opening else if c = '}' then some closing else none

/-- The **weight** of a brace in a count of open bodies. -/
def weight : Brace → Int
  | opening => 1
  | closing => -1

/-- Exactly the character of a brace is that brace. -/
theorem ofChar?_eq_some_iff {c : Char} {brace : Brace} :
    ofChar? c = some brace ↔ c = brace.char := by
  unfold ofChar?
  cases brace <;> by_cases h : c = '{' <;> by_cases h' : c = '}' <;> simp_all [char]

end Brace

/-! ## String literals -/

/-- Where a scan of a line **stands** with regard to string literals. -/
inductive Quoting where
  /-- Outside every literal. -/
  | outside
  /-- Inside a literal that this quote opened. -/
  | inside (quote : Char)
  /-- Inside such a literal, after a backslash that takes the next character. -/
  | escaped (quote : Char)
  deriving DecidableEq, Repr

namespace Quoting

/-- The **double** quote. -/
def double : Char := '\x22'

/-- The **single** quote. -/
def single : Char := '\x27'

/-- The **backslash**. -/
def backslash : Char := '\x5c'

/-- Whether a character is a **quote**. -/
def isQuote (c : Char) : Bool := c == double || c == single

/-- Where a scan stands **after one more character**. -/
def next : Quoting → Char → Quoting
  | outside, c => if isQuote c then inside c else outside
  | inside quote, c =>
    if c = backslash then escaped quote else if c = quote then outside else inside quote
  | escaped quote, _ => inside quote

/-- The brace that a character is **at this place** of a scan: none inside a literal. -/
def brace? : Quoting → Char → Option Brace
  | outside, c => Brace.ofChar? c
  | inside _, _ => none
  | escaped _, _ => none

/-- Where a scan stands **after a text**. -/
def after (state : Quoting) (text : Text) : Quoting := text.foldl next state

/-- Nothing read leaves the scan where it stands. -/
@[simp] theorem after_nil (state : Quoting) : state.after [] = state := rfl

/-- One character read is one step. -/
@[simp] theorem after_cons (state : Quoting) (c : Char) (rest : Text) :
    state.after (c :: rest) = (state.next c).after rest := rfl

/-- Two texts are read one after the other. -/
theorem after_append (state : Quoting) (first second : Text) :
    state.after (first ++ second) = (state.after first).after second := by
  simp [after]

end Quoting

/-! ## Braces of a line -/

/-- A brace and its **offset**. -/
structure PlacedBrace where
  /-- How many characters stand before the brace. -/
  offset : Nat
  /-- The brace. -/
  brace : Brace
  deriving DecidableEq, Repr

namespace Braces

/-- The braces of a text outside literals, when the scan starts in `state` and the text begins at
`offset`. -/
def scan (state : Quoting) (offset : Nat) : Text → List PlacedBrace
  | [] => []
  | c :: rest =>
    match state.brace? c with
    | some brace => ⟨offset, brace⟩ :: scan (state.next c) (offset + 1) rest
    | none => scan (state.next c) (offset + 1) rest

/-- Nothing to scan, no braces. -/
@[simp] theorem scan_nil (state : Quoting) (offset : Nat) : scan state offset [] = [] := rfl

/-- The scan of a first character and a rest. -/
theorem scan_cons (state : Quoting) (offset : Nat) (c : Char) (rest : Text) :
    scan state offset (c :: rest) =
      ((state.brace? c).map (PlacedBrace.mk offset)).toList ++
        scan (state.next c) (offset + 1) rest := by
  cases h : state.brace? c <;> simp [scan, h]

/-- The scan of **two texts in a row** scans the second one from where the first one ends. -/
theorem scan_append (state : Quoting) (offset : Nat) (first second : Text) :
    scan state offset (first ++ second) =
      scan state offset first ++ scan (state.after first) (offset + first.length) second := by
  induction first generalizing state offset with
  | nil => simp
  | cons c rest ih =>
    rw [List.cons_append, scan_cons, scan_cons, ih, Quoting.after_cons, List.append_assoc,
      List.length_cons, Nat.add_assoc, Nat.add_comm 1]

/-- The braces of a **line** outside its literals. -/
def ofLine (line : Text) : List PlacedBrace := scan .outside 0 line

/-- How many more of the braces **open** a body than close one. -/
def balance : List PlacedBrace → Int
  | [] => 0
  | placed :: more => placed.brace.weight + balance more

/-- Balances of braces in a row add up. -/
theorem balance_append (first second : List PlacedBrace) :
    balance (first ++ second) = balance first + balance second := by
  induction first with
  | nil => simp [balance]
  | cons placed more ih => simp only [List.cons_append, balance, ih, Int.add_assoc]

/-- How many more braces a line **opens** than it closes. -/
def delta (line : Text) : Int := balance (ofLine line)

/-- Whether a line has an **opening** brace. -/
def opens (line : Text) : Bool := (ofLine line).any (·.brace = .opening)

/-! ## Braces of a text -/

/-- The braces of lines that follow each other from `offset` on; every line starts outside
literals. -/
def ofLines (offset : Nat) : List Text → List PlacedBrace
  | [] => []
  | line :: more => scan .outside offset line ++ ofLines (offset + line.length + 1) more

/-- The braces of a **text**, with their offsets in it. -/
def ofText (text : Text) : List PlacedBrace := ofLines 0 text.lines

/-- The offset of the brace that **closes** a body in which `depth` more bodies are open. -/
def closing? : Nat → List PlacedBrace → Option Nat
  | _, [] => none
  | depth, ⟨_, .opening⟩ :: rest => closing? (depth + 1) rest
  | 0, ⟨offset, .closing⟩ :: _ => some offset
  | depth + 1, ⟨_, .closing⟩ :: rest => closing? depth rest

/-- The **span** of the first body of a text: the offset of its opening brace and that of its
closing brace, or the length of the text where the body is never closed. A text that opens no body
has none. -/
def span? (text : Text) : Option (Nat × Nat) :=
  match (ofText text).dropWhile (·.brace ≠ .opening) with
  | [] => none
  | first :: rest => some (first.offset, (closing? 0 rest).getD text.length)

end Braces

end DiagramOutline
