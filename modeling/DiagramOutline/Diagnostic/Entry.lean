import DiagramOutline.Text.Blank
import DiagramOutline.Text.Digit

/-! # Places in error text

How a line of error text names a place. Two forms are read: a source, a line and a column before
colons, with the message after them; and the word "line" with a line and a column, anywhere in the
text.

* **`Numeral.read digits`** — the number that digits write, unless there are too many of them.
* **`Entry`** — a place and a message; `Entry.find? line` is the first one in a line of error text.
* **`Mention.find? line`** — the line that the first mention of a place names. -/

namespace DiagramOutline

namespace Numeral

/-- The greatest count of **digits** that are read as a number, leading zeros included. -/
def maxDigits : Nat := 4300

/-- The **number** that digits write; where there are too many of them, their count is the error. -/
def read (digits : Text) : Except Nat Nat :=
  if digits.length > maxDigits then .error digits.length else .ok (Text.numeralValue digits)

/-- A numeral can be read exactly when it is not too long. -/
theorem read_eq_ok_iff {digits : Text} {value : Nat} :
    read digits = .ok value ↔ digits.length ≤ maxDigits ∧ Text.numeralValue digits = value := by
  unfold read
  split
  · next h =>
    simp only [reduceCtorEq, false_iff, not_and]
    intro hle
    omega
  · next h =>
    simp only [Except.ok.injEq]
    exact ⟨fun heq => ⟨by omega, heq⟩, fun heq => heq.2⟩

end Numeral

/-- The **digits** at the start of a text and what follows them; nothing if no digit comes first. -/
def Text.spanDigits? (text : Text) : Option (Text × Text) :=
  match text.span Text.isDecimalDigit with
  | ([], _) => none
  | (c :: digits, rest) => some (c :: digits, rest)

/-! ## Entries -/

/-- A **place** that error text names, with a message. The numbers stand as they were written. -/
structure Entry where
  /-- The digits of the line number. -/
  line : Text
  /-- The digits of the column number. -/
  column : Text
  /-- What is left of the text after the place. -/
  message : Text
  deriving DecidableEq, Repr

namespace Entry

/-- The entry at the **start** of a text: a colon, digits, a colon, digits, a colon, blanks, and the
message. -/
def atColon? : Text → Option Entry
  | ':' :: afterColon =>
    match Text.spanDigits? afterColon with
    | some (line, ':' :: afterLine) =>
      match Text.spanDigits? afterLine with
      | some (column, ':' :: rest) => some ⟨line, column, Text.trimStart rest⟩
      | _ => none
    | _ => none
  | _ => none

/-- The first entry of a text, where the character before the text may be the end of a
**source**. -/
def findFrom? (afterSource : Bool) : Text → Option Entry
  | [] => none
  | c :: rest =>
    match (if afterSource then atColon? (c :: rest) else none) with
    | some entry => some entry
    | none => findFrom? (!Text.isBlank c) rest

/-- The **first entry** of a line of error text. Some character other than a blank stands right
before the colon in front of the line number. -/
def find? (line : Text) : Option Entry := findFrom? false line

end Entry

/-! ## Mentions -/

namespace Mention

/-- Whether a character is the letter i in any **case**, the dotted capital and the dotless small
one included. -/
def isLetterI (c : Char) : Bool :=
  c == 'i' || c == 'I' || c.toNat == 0x130 || c.toNat == 0x131

/-- The digits of the line number in the mention at the **start** of a text: the word "line" in any
case, a space, digits, a colon, and a digit. -/
def atWord? : Text → Option Text
  | l :: i :: n :: e :: ' ' :: rest =>
    if (l == 'l' || l == 'L') && isLetterI i && (n == 'n' || n == 'N') &&
        (e == 'e' || e == 'E') then
      match Text.spanDigits? rest with
      | some (line, ':' :: afterLine) => (Text.spanDigits? afterLine).map fun _ => line
      | _ => none
    else none
  | _ => none

/-- The digits of the line number in the **first mention** of a place in a line of error text. -/
def find? : Text → Option Text
  | [] => none
  | c :: rest =>
    match atWord? (c :: rest) with
    | some line => some line
    | none => find? rest

end Mention

end DiagramOutline
