import DiagramOutline.Text.Basic

/-! # Faults of records

Why a record is refused: each fault names the place of the value that is at fault, and what is wrong
with it.

* **`Fault`** — one fault.
* **`FaultKind.word kind`** — the word for a kind of fault. -/

namespace DiagramOutline

/-- One step on the way to a value **inside** a record. -/
inductive PathStep where
  /-- To the member of this name. -/
  | key (name : Text)
  /-- To the item at this position, counted from zero. -/
  | index (position : Nat)
  deriving DecidableEq, Repr

/-- What is **wrong** with a value. -/
inductive FaultKind where
  /-- The member is not there. -/
  | missing
  /-- A text was asked for. -/
  | stringType
  /-- An integer was asked for. -/
  | intType
  /-- An integer was asked for, and a text was given that is not read as one. -/
  | intParsing
  /-- An integer was asked for, and a number with a fraction was given. -/
  | intFromFloat
  /-- A truth value was asked for. -/
  | boolType
  /-- A truth value was asked for, and a text or a number was given that is not read as one. -/
  | boolParsing
  /-- The number is too small. -/
  | greaterThanEqual
  /-- A list was asked for. -/
  | listType
  /-- The list has too many items. -/
  | tooLong
  /-- The text is none of those allowed. -/
  | literalError
  /-- A record was asked for. -/
  | modelType
  /-- The record cannot be changed. -/
  | frozenInstance
  deriving DecidableEq, Repr

/-- The **word** for a kind of fault. -/
def FaultKind.word : FaultKind → Text
  | missing => "missing".toList
  | stringType => "string_type".toList
  | intType => "int_type".toList
  | intParsing => "int_parsing".toList
  | intFromFloat => "int_from_float".toList
  | boolType => "bool_type".toList
  | boolParsing => "bool_parsing".toList
  | greaterThanEqual => "greater_than_equal".toList
  | listType => "list_type".toList
  | tooLong => "too_long".toList
  | literalError => "literal_error".toList
  | modelType => "model_type".toList
  | frozenInstance => "frozen_instance".toList

/-- One **fault** of a record. -/
structure Fault where
  /-- The way to the value at fault. -/
  path : List PathStep
  /-- What is wrong with it. -/
  kind : FaultKind
  deriving DecidableEq, Repr

namespace Fault

/-- A fault of a value as a fault of what the value stands **in**. -/
def under (step : PathStep) (fault : Fault) : Fault := ⟨step :: fault.path, fault.kind⟩

/-- The fault of **changing** a member of a record. -/
def frozen (name : Text) : Fault := ⟨[.key name], .frozenInstance⟩

end Fault

end DiagramOutline
