import DiagramOutline.Text.Basic

/-! # UTF-8

Texts as bytes and back. Reading bytes yields a sequence of pieces, each either a character or an
invalid run of bytes; a run is as long as it can be while it still begins some well-formed
character, and it is one byte where even the first byte begins none.

* **`Utf8.encode text`** — the bytes of a text.
* **`Utf8.pieces bytes`** — the characters and the invalid runs that the bytes spell.
* **`Utf8.decodeLossy bytes`** — the text in which each invalid run is one replacement character.
* **`Utf8.decode? bytes`** — the text, where no run is invalid. -/

namespace DiagramOutline.Utf8

/-! ## Writing -/

/-- The bytes of one **character**: one to four of them, by the size of its code point. -/
def encodeChar (c : Char) : List UInt8 :=
  let n := c.toNat
  if n < 0x80 then [UInt8.ofNat n]
  else if n < 0x800 then [UInt8.ofNat (0xc0 + n / 0x40), UInt8.ofNat (0x80 + n % 0x40)]
  else if n < 0x10000 then
    [UInt8.ofNat (0xe0 + n / 0x1000), UInt8.ofNat (0x80 + n / 0x40 % 0x40),
      UInt8.ofNat (0x80 + n % 0x40)]
  else
    [UInt8.ofNat (0xf0 + n / 0x40000), UInt8.ofNat (0x80 + n / 0x1000 % 0x40),
      UInt8.ofNat (0x80 + n / 0x40 % 0x40), UInt8.ofNat (0x80 + n % 0x40)]

/-- The **bytes** of a text. -/
def encode (text : Text) : List UInt8 := text.flatMap encodeChar

/-- The empty text has no bytes. -/
@[simp] theorem encode_nil : encode [] = [] := rfl

/-- The bytes of a text begin with those of its first character. -/
@[simp] theorem encode_cons (c : Char) (rest : Text) :
    encode (c :: rest) = encodeChar c ++ encode rest := by
  simp [encode]

/-- The bytes of two texts in a row are the bytes of each in a row. -/
@[simp] theorem encode_append (first second : Text) :
    encode (first ++ second) = encode first ++ encode second := by
  simp [encode]

/-- Every character has a byte. -/
theorem encodeChar_ne_nil (c : Char) : encodeChar c ≠ [] := by
  unfold encodeChar
  dsimp only
  split
  · simp
  · split
    · simp
    · split <;> simp

/-! ## Reading -/

/-- A character of which some bytes are **still owed**. -/
structure Pending where
  /-- How many bytes follow the next one. -/
  later : Nat
  /-- The least next byte. -/
  low : Nat
  /-- The greatest next byte. -/
  high : Nat
  /-- The bits read so far. -/
  bits : Nat
  deriving DecidableEq, Repr

/-- What a byte **at the start** of a piece begins. -/
inductive Lead where
  /-- A character of one byte. -/
  | whole (c : Char)
  /-- A character of which bytes are owed. -/
  | begun (pending : Pending)
  /-- No character at all. -/
  | invalid
  deriving DecidableEq, Repr

/-- The **lead** that a byte is. The next byte of a character is limited where a longer form of a
smaller code point, a surrogate or a number past the last code point would begin. -/
def lead (byte : UInt8) : Lead :=
  let n := byte.toNat
  if n < 0x80 then .whole (Char.ofNat n)
  -- the later bytes of a character, and leads of two that write an ASCII character
  else if n < 0xc2 then .invalid
  else if n < 0xe0 then .begun ⟨0, 0x80, 0xbf, n - 0xc0⟩
  else if n < 0xf0 then
    .begun ⟨1, if n = 0xe0 then 0xa0 else 0x80, if n = 0xed then 0x9f else 0xbf, n - 0xe0⟩
  else if n < 0xf5 then
    .begun ⟨2, if n = 0xf0 then 0x90 else 0x80, if n = 0xf4 then 0x8f else 0xbf, n - 0xf0⟩
  else .invalid

/-- The **pieces** of bytes after a character was begun, or at a piece's start: characters, and
`none` for an invalid run. A byte that does not go on with the character begun ends an invalid run
and starts the next piece. -/
def piecesFrom : Option Pending → List UInt8 → List (Option Char)
  | none, [] => []
  | some _, [] => [none]
  | none, byte :: rest =>
    match lead byte with
    | .whole c => some c :: piecesFrom none rest
    | .begun pending => piecesFrom (some pending) rest
    | .invalid => none :: piecesFrom none rest
  | some pending, byte :: rest =>
    if pending.low ≤ byte.toNat && byte.toNat ≤ pending.high then
      let bits := pending.bits * 0x40 + (byte.toNat - 0x80)
      match pending.later with
      | 0 => some (Char.ofNat bits) :: piecesFrom none rest
      | later + 1 => piecesFrom (some ⟨later, 0x80, 0xbf, bits⟩) rest
    else
      -- the run that was begun ends before this byte, which is read again as a lead
      match lead byte with
      | .whole c => none :: some c :: piecesFrom none rest
      | .begun next => none :: piecesFrom (some next) rest
      | .invalid => none :: none :: piecesFrom none rest

/-- The **pieces** of bytes: the characters they spell, and `none` for each invalid run. -/
def pieces (bytes : List UInt8) : List (Option Char) := piecesFrom none bytes

/-- The character that **stands for** an invalid run. -/
def replacement : Char := Char.ofNat 0xfffd

/-- The text of bytes, with one **replacement** character for each invalid run. -/
def decodeLossy (bytes : List UInt8) : Text := (pieces bytes).map (·.getD replacement)

/-- The text of bytes that have **no invalid run**. -/
def decode? (bytes : List UInt8) : Option Text := (pieces bytes).mapM id

end DiagramOutline.Utf8
