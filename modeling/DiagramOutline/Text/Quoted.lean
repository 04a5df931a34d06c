import DiagramOutline.Text.Printable

/-! # Quoted texts

A text written between quotes so that it can be read off a line of a log: whatever cannot be shown
is written by its code point.

* **`Text.hex width n`** — a number in lower-case hexadecimal digits, with zeros in front up to
  `width`.
* **`Text.quoted text`** — a text between quotes. -/

namespace DiagramOutline.Text

/-- A number in lower-case **hexadecimal** digits, at least `width` of them. -/
def hex (width n : Nat) : Text :=
  let digits := Nat.toDigits 16 n
  List.replicate (width - digits.length) '0' ++ digits

/-- A character as it is **written between** the given quotes. -/
def quotedChar (quote c : Char) : Text :=
  if c = quote || c = '\\' then ['\\', c]
  else if c = '\n' then ['\\', 'n']
  else if c = '\r' then ['\\', 'r']
  else if c = '\t' then ['\\', 't']
  else if isPrintable c then [c]
  else if c.toNat < 0x100 then '\\' :: 'x' :: hex 2 c.toNat
  else if c.toNat < 0x10000 then '\\' :: 'u' :: hex 4 c.toNat
  else '\\' :: 'U' :: hex 8 c.toNat

/-- The **quote** to put around a text: the single one, unless it stands in the text and the double
one does not. -/
def quoteFor (text : Text) : Char :=
  if text.contains '\x27' && !text.contains '\x22' then '\x22' else '\x27'

/-- A text **between quotes**. -/
def quoted (text : Text) : Text :=
  quoteFor text :: text.flatMap (quotedChar (quoteFor text)) ++ [quoteFor text]

end DiagramOutline.Text
