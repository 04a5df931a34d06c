import DiagramOutline.Record
import DiagramOutline.Text.Blank
import DiagramOutline.Text.Digit

/-! # The standard conversion

Where a record asks for an integer or a truth value, it may be given in another form, if that is
beyond doubt: as a text, as a number without a fraction, or one of the two as the other. Nothing but
a text is read as a text. This is the conversion with which records are checked; reading is defined
for any, and what is proved about it holds for all that are conservative.

* **`Decimal`** — a number with decimal places.
* **`Conversion.standard`** — the conversion by these rules.
* **`Conversion.standard_conservative`** — it leaves alone what is of the kind asked for. -/

namespace DiagramOutline

/-- A number with **decimal places**. -/
structure Decimal where
  /-- The number without its point. -/
  mantissa : Int
  /-- How many of its digits stand behind the point. -/
  places : Nat
  deriving DecidableEq, Repr

/-- The **integer** that a number is, if it has no fraction. -/
def Decimal.toInt? (number : Decimal) : Option Int :=
  let unit : Int := Nat.pow 10 number.places
  if number.mantissa % unit = 0 then some (number.mantissa / unit) else none

namespace Text

/-- The number that **ASCII digits** write. -/
def toNat? (text : Text) : Option Nat :=
  if text ≠ [] && text.all Char.isDigit then some (numeralValue text) else none

/-- The integer that a text **writes**: digits, perhaps behind a sign, with or without blanks around
them. -/
def toInt? (text : Text) : Option Int :=
  match trim text with
  | '-' :: digits => (toNat? digits).map fun number => -number
  | '+' :: digits => (toNat? digits).map Int.ofNat
  | digits => (toNat? digits).map Int.ofNat

end Text

namespace Conversion

/-- The words for **true**, in lower case. -/
def affirmations : List Text := ["1", "on", "t", "true", "y", "yes"].map String.toList

/-- The words for **false**, in lower case. -/
def negations : List Text := ["0", "off", "f", "false", "n", "no"].map String.toList

/-- The truth value that an integer **stands for**. -/
def boolOfInt (value : Int) : Checked Bool :=
  if value = 1 then .ok true else if value = 0 then .ok false else .fault .boolParsing

/-- The truth value that a text **stands for**, in any case. -/
def boolOfText (value : Text) : Checked Bool :=
  let word := value.map Char.toLower
  if affirmations.contains word then .ok true
  else if negations.contains word then .ok false
  else .fault .boolParsing

/-- The **standard** conversion. -/
def standard : Conversion Decimal where
  text
    | .text value => .ok value
    | _ => .fault .stringType
  int
    | .int value => .ok value
    | .bool value => .ok value.toInt
    | .text value => (Text.toInt? value).elim (.fault .intParsing) .ok
    | .foreign number => number.toInt?.elim (.fault .intFromFloat) .ok
    | _ => .fault .intType
  bool
    | .bool value => .ok value
    | .int value => boolOfInt value
    | .text value => boolOfText value
    | .foreign number => number.toInt?.elim (.fault .boolType) boolOfInt
    | _ => .fault .boolType

/-- What is of the kind asked for is **left alone**. -/
theorem standard_conservative : standard.Conservative where
  text _ := rfl
  int _ := rfl
  bool _ := rfl

end Conversion

end DiagramOutline
