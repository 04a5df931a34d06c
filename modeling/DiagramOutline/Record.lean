import DiagramOutline.Data
import DiagramOutline.Fault

/-! # Reading records

How the members of an object are read as the fields of a record. All fields are read, and the faults
of all of them are told, in the order of the fields. What becomes of a value that is not of the kind
a field asks for, such as a text where a number should be, is up to a conversion: records are read
with any.

* **`Checked α`** — a value, or the faults for which it was refused.
* **`Checked.apply`** — a checked function of a checked argument, with the faults of both.
* **`Conversion Foreign`** — how texts, integers and truth values are read.
* **`Conversion.Conservative`** — a conversion leaves alone what is of the kind asked for.
* **`FieldKey`** — the two names under which a field may be given.
* **`Field.required`**, **`Field.optional`** — the value of a field.
* **`Field.count`**, **`Field.word`**, … — what may stand in a field. -/

namespace DiagramOutline

/-- A value that was **checked**. -/
inductive Checked (α : Type) where
  /-- The value is as it should be. -/
  | ok (value : α)
  /-- The value was refused for these faults. -/
  | refused (faults : List Fault)
  deriving Repr

namespace Checked

variable {α β : Type}

/-- One **fault** of the value itself. -/
def fault (kind : FaultKind) : Checked α := .refused [⟨[], kind⟩]

/-- A function of a checked value. -/
def map (f : α → β) : Checked α → Checked β
  | ok value => ok (f value)
  | refused faults => refused faults

/-- A checked function applied to a checked argument, with the **faults of both**. -/
def apply : Checked (α → β) → Checked α → Checked β
  | ok f, ok value => ok (f value)
  | ok _, refused faults => refused faults
  | refused faults, ok _ => refused faults
  | refused faults, refused more => refused (faults ++ more)

/-- The faults of a value as faults of what the value stands **in**. -/
def under (step : PathStep) : Checked α → Checked α
  | ok value => ok value
  | refused faults => refused (faults.map (Fault.under step))

/-- A function of a checked value is without faults exactly when the value is. -/
theorem map_eq_ok_iff {f : α → β} {checked : Checked α} {result : β} :
    checked.map f = ok result ↔ ∃ value, checked = ok value ∧ f value = result := by
  cases checked <;> simp [map]

/-- Both are without faults exactly when their application is. -/
theorem apply_eq_ok_iff {f : Checked (α → β)} {checked : Checked α} {result : β} :
    f.apply checked = ok result ↔ ∃ g value, f = ok g ∧ checked = ok value ∧ g value = result := by
  cases f <;> cases checked <;> simp [apply]

/-- The place of a value does not make it faulty. -/
@[simp] theorem under_eq_ok_iff {step : PathStep} {checked : Checked α} {value : α} :
    checked.under step = ok value ↔ checked = ok value := by
  cases checked <;> simp [under]

end Checked

/-- A **conversion** of single values: what is read where a value of some kind is asked for. -/
structure Conversion (Foreign : Type) where
  /-- The **text** that is read from data. -/
  text : Data Foreign → Checked Text
  /-- The **integer** that is read from data. -/
  int : Data Foreign → Checked Int
  /-- The **truth value** that is read from data. -/
  bool : Data Foreign → Checked Bool

/-- A conversion is **conservative**: data that is of the kind asked for is read as it stands. -/
structure Conversion.Conservative {Foreign : Type} (conversion : Conversion Foreign) : Prop where
  /-- A text stays the text. -/
  text : ∀ value, conversion.text (.text value) = .ok value
  /-- An integer stays the integer. -/
  int : ∀ value, conversion.int (.int value) = .ok value
  /-- A truth value stays the truth value. -/
  bool : ∀ value, conversion.bool (.bool value) = .ok value

/-- The **names** under which a field may be given. -/
structure FieldKey where
  /-- The name that a record is written with. -/
  outer : Text
  /-- The other name. -/
  inner : Text
  deriving DecidableEq, Repr

namespace FieldKey

/-- A key that has **one** name. -/
def single (name : String) : FieldKey := ⟨name.toList, name.toList⟩

/-- A key that has **two** names. -/
def double (outer inner : String) : FieldKey := ⟨outer.toList, inner.toList⟩

variable {α : Type}

/-- The entry of a field, with the name that it was **found under**; the outer name goes before the
other one. -/
def find? (key : FieldKey) (members : List (Text × α)) : Option (Text × α) :=
  match List.lookup key.outer members with
  | some value => some (key.outer, value)
  | none => (List.lookup key.inner members).map fun value => (key.inner, value)

end FieldKey

namespace Field

variable {α β Foreign : Type}

/-! ## Fields -/

/-- The value of a field that **has to be given**. -/
def required (key : FieldKey) (read : α → Checked β) (members : List (Text × α)) : Checked β :=
  match key.find? members with
  | some (name, value) => (read value).under (.key name)
  | none => .refused [⟨[.key key.outer], .missing⟩]

/-- The value of a field that **may be left out**. -/
def optional (key : FieldKey) (standard : β) (read : α → Checked β) (members : List (Text × α)) :
    Checked β :=
  match key.find? members with
  | some (name, value) => (read value).under (.key name)
  | none => .ok standard

/-! ## Values of fields -/

/-- A text or **null**. -/
def nullableText (conversion : Conversion Foreign) : Data Foreign → Checked (Option Text)
  | .null => .ok none
  | data => (conversion.text data).map some

/-- An integer that is **not below zero**. -/
def count (conversion : Conversion Foreign) (data : Data Foreign) : Checked Nat :=
  match conversion.int data with
  | .ok value => if value < 0 then .fault .greaterThanEqual else .ok value.toNat
  | .refused faults => .refused faults

/-- A text that is a **word** for something. It is compared with the words as it stands. -/
def word (ofWord? : Text → Option α) : Data Foreign → Checked α
  | .text value =>
    match ofWord? value with
    | some meaning => .ok meaning
    | none => .fault .literalError
  | _ => .fault .literalError

/-- The **items** of a list, each read on its own, the first of them at the given position. -/
def items (read : β → Checked α) (position : Nat) : List β → Checked (List α)
  | [] => .ok []
  | item :: more =>
    (((read item).under (.index position)).map List.cons).apply (items read (position + 1) more)

/-- A list of at most so many **texts**. Of a longer list the items are not looked at. -/
def textsUpTo (conversion : Conversion Foreign) (limit : Nat) : Data Foreign → Checked (List Text)
  | .array values =>
    if values.length > limit then .fault .tooLong else items conversion.text 0 values
  | _ => .fault .listType

end Field

end DiagramOutline
