import DiagramOutline.Text.Utf8

/-! # Reading the bytes of a text

The bytes of a text spell the characters of the text, one after the other, and no invalid run. The
bounds that are put on the byte after a lead let every character through: they only keep out other
ways to write one.

* **`Utf8.piecesFrom_encodeChar_append`** — the bytes of a character are read as that character,
  whatever follows.
* **`Utf8.decodeLossy_encode`** — reading the bytes of a text gives the text.
* **`Utf8.length_decodeLossy_take_encode_le`** — the first bytes of a text are read as no more
  characters than the text has, wherever they are cut off.
* **`Utf8.exists_of_getElem?_encode`** — a byte of an ASCII character is that character. -/

namespace DiagramOutline.Utf8

/-- The number of a byte that was made of a number that **fits**. -/
theorem toNat_ofNat {n : Nat} (h : n < 0x100) : (UInt8.ofNat n).toNat = n := by
  rw [UInt8.toNat_ofNat']
  exact Nat.mod_eq_of_lt h

/-- The last byte that is owed **ends** the character. -/
theorem piecesFrom_last {low high bits n : Nat} (hlow : low ≤ n) (hhigh : n ≤ high) (hn : n < 0x100)
    (rest : List UInt8) :
    piecesFrom (some ⟨0, low, high, bits⟩) (UInt8.ofNat n :: rest) =
      some (Char.ofNat (bits * 0x40 + (n - 0x80))) :: piecesFrom none rest := by
  rw [piecesFrom, toNat_ofNat hn, if_pos (by simp [hlow, hhigh])]

/-- A byte that is owed and not the last one **goes on** with the character. -/
theorem piecesFrom_owed {later low high bits n : Nat} (hlow : low ≤ n) (hhigh : n ≤ high)
    (hn : n < 0x100) (rest : List UInt8) :
    piecesFrom (some ⟨later + 1, low, high, bits⟩) (UInt8.ofNat n :: rest) =
      piecesFrom (some ⟨later, 0x80, 0xbf, bits * 0x40 + (n - 0x80)⟩) rest := by
  rw [piecesFrom, toNat_ofNat hn, if_pos (by simp [hlow, hhigh])]

/-- A lead that **begins** a character leaves its other bytes owed. -/
theorem piecesFrom_begun {byte : UInt8} {pending : Pending} (h : lead byte = .begun pending)
    (rest : List UInt8) :
    piecesFrom none (byte :: rest) = piecesFrom (some pending) rest := by
  rw [piecesFrom, h]

/-- The lead of a character of **two** bytes. -/
theorem lead_two {n : Nat} (hlow : 2 ≤ n) (hhigh : n < 0x20) :
    lead (UInt8.ofNat (0xc0 + n)) = .begun ⟨0, 0x80, 0xbf, n⟩ := by
  have hbits : 0xc0 + n - 0xc0 = n := by omega
  rw [lead, toNat_ofNat (by omega), if_neg (by omega), if_neg (by omega), if_pos (by omega),
    hbits]

/-- The lead of a character of **three** bytes. -/
theorem lead_three {n : Nat} (h : n < 0x10) :
    lead (UInt8.ofNat (0xe0 + n)) =
      .begun ⟨1, if n = 0 then 0xa0 else 0x80, if n = 0xd then 0x9f else 0xbf, n⟩ := by
  have hlow : (0xe0 + n = 0xe0) = (n = 0) := by
    rw [eq_iff_iff]
    omega
  have hhigh : (0xe0 + n = 0xed) = (n = 0xd) := by
    rw [eq_iff_iff]
    omega
  have hbits : 0xe0 + n - 0xe0 = n := by omega
  rw [lead, toNat_ofNat (by omega), if_neg (by omega), if_neg (by omega), if_neg (by omega),
    if_pos (by omega)]
  simp only [hlow, hhigh, hbits]

/-- The lead of a character of **four** bytes. -/
theorem lead_four {n : Nat} (h : n < 5) :
    lead (UInt8.ofNat (0xf0 + n)) =
      .begun ⟨2, if n = 0 then 0x90 else 0x80, if n = 4 then 0x8f else 0xbf, n⟩ := by
  have hlow : (0xf0 + n = 0xf0) = (n = 0) := by
    rw [eq_iff_iff]
    omega
  have hhigh : (0xf0 + n = 0xf4) = (n = 4) := by
    rw [eq_iff_iff]
    omega
  have hbits : 0xf0 + n - 0xf0 = n := by omega
  rw [lead, toNat_ofNat (by omega), if_neg (by omega), if_neg (by omega), if_neg (by omega),
    if_neg (by omega), if_pos (by omega)]
  simp only [hlow, hhigh, hbits]

/-- The numbers of characters stop short of the **surrogates** and of the end of the code. -/
theorem toNat_bounds (c : Char) :
    c.toNat < 0xd800 ∨ 0xdfff < c.toNat ∧ c.toNat < 0x110000 := c.valid

/-- The bytes of a **character** are read as that character, whatever follows. -/
theorem piecesFrom_encodeChar_append (c : Char) (rest : List UInt8) :
    piecesFrom none (encodeChar c ++ rest) = some c :: piecesFrom none rest := by
  have hbounds := toNat_bounds c
  have hchar : Char.ofNat c.toNat = c := Char.ofNat_toNat c
  generalize hn : c.toNat = n at hbounds hchar
  unfold encodeChar
  rw [hn]
  dsimp only
  split
  -- a single byte is the character itself
  · next h =>
    have hlead : lead (UInt8.ofNat n) = .whole c := by
      rw [lead, toNat_ofNat (by omega), if_pos h, hchar]
    rw [List.cons_append, List.nil_append, piecesFrom, hlead]
  -- every byte after the lead adds six bits to the ones before it
  · split
    · have hvalue : n / 0x40 * 0x40 + (0x80 + n % 0x40 - 0x80) = n := by omega
      rw [List.cons_append, List.cons_append, List.nil_append,
        piecesFrom_begun (lead_two (by omega) (by omega)),
        piecesFrom_last (by omega) (by omega) (by omega), hvalue, hchar]
    · split
      · have hvalue : (n / 0x1000 * 0x40 + (0x80 + n / 0x40 % 0x40 - 0x80)) * 0x40 +
            (0x80 + n % 0x40 - 0x80) = n := by omega
        -- a smaller number would be an overlong form, and one in between a surrogate
        rw [List.cons_append, List.cons_append, List.cons_append, List.nil_append,
          piecesFrom_begun (lead_three (by omega)),
          piecesFrom_owed (by split <;> omega) (by split <;> omega) (by omega),
          piecesFrom_last (by omega) (by omega) (by omega), hvalue, hchar]
      · have hvalue : ((n / 0x40000 * 0x40 + (0x80 + n / 0x1000 % 0x40 - 0x80)) * 0x40 +
            (0x80 + n / 0x40 % 0x40 - 0x80)) * 0x40 + (0x80 + n % 0x40 - 0x80) = n := by omega
        rw [List.cons_append, List.cons_append, List.cons_append, List.cons_append,
          List.nil_append, piecesFrom_begun (lead_four (by omega)),
          piecesFrom_owed (by split <;> omega) (by split <;> omega) (by omega),
          piecesFrom_owed (by omega) (by omega) (by omega),
          piecesFrom_last (by omega) (by omega) (by omega), hvalue, hchar]

/-- The pieces of the bytes of a text are its **characters**. -/
theorem pieces_encode (text : Text) : pieces (encode text) = text.map some := by
  induction text with
  | nil => rfl
  | cons c rest ih =>
    rw [encode_cons, pieces, piecesFrom_encodeChar_append, List.map_cons]
    exact congrArg (some c :: ·) ih

/-- Reading the bytes of a text gives **the text**. -/
@[simp] theorem decodeLossy_encode (text : Text) : decodeLossy (encode text) = text := by
  rw [decodeLossy, pieces_encode, List.map_map]
  exact List.map_id text

/-! ## Bytes that are cut off -/

/-- A character that was begun is read as a piece, **whatever follows**. -/
theorem length_piecesFrom_begun_pos (pending : Pending) (bytes : List UInt8) :
    0 < (piecesFrom (some pending) bytes).length := by
  induction bytes generalizing pending with
  | nil => exact Nat.one_pos
  | cons byte rest ih =>
    rw [piecesFrom]
    split
    · cases pending.later with
      | zero => exact Nat.succ_pos _
      | succ later => exact ih _
    · cases lead byte <;> exact Nat.succ_pos _

/-- Bytes are read as **no fewer** pieces when more bytes follow. -/
theorem length_piecesFrom_append_le (begun : Option Pending) (bytes more : List UInt8) :
    (piecesFrom begun bytes).length ≤ (piecesFrom begun (bytes ++ more)).length := by
  induction bytes generalizing begun with
  | nil =>
    cases begun with
    | none => exact Nat.zero_le _
    | some pending => exact length_piecesFrom_begun_pos pending more
  | cons byte rest ih =>
    cases begun with
    | none =>
      rw [List.cons_append, piecesFrom, piecesFrom]
      cases lead byte with
      | whole c => exact Nat.succ_le_succ (ih none)
      | begun pending => exact ih (some pending)
      | invalid => exact Nat.succ_le_succ (ih none)
    | some pending =>
      rw [List.cons_append, piecesFrom, piecesFrom]
      split
      · cases pending.later with
        | zero => exact Nat.succ_le_succ (ih none)
        | succ later => exact ih (some _)
      -- the run ends before this byte, which is read again as a lead
      · cases lead byte with
        | whole c => exact Nat.succ_le_succ (Nat.succ_le_succ (ih none))
        | begun next => exact Nat.succ_le_succ (ih (some next))
        | invalid => exact Nat.succ_le_succ (Nat.succ_le_succ (ih none))

/-- The first bytes of a text are read as **no more characters** than the text has, even if the last
of them is cut off inside a character. -/
theorem length_decodeLossy_take_encode_le (text : Text) (count : Nat) :
    (decodeLossy ((encode text).take count)).length ≤ text.length := by
  have hle := length_piecesFrom_append_le none ((encode text).take count)
    ((encode text).drop count)
  have hwhole : (piecesFrom none (encode text)).length = text.length := by
    rw [← pieces, pieces_encode, List.length_map]
  rwa [List.take_append_drop, hwhole, ← List.length_map (·.getD replacement)] at hle

/-- A byte of a character that is **below** `0x80` is the only one. -/
theorem encodeChar_eq_singleton {c : Char} {byte : UInt8} (hmem : byte ∈ encodeChar c)
    (hbyte : byte.toNat < 0x80) : encodeChar c = [byte] := by
  -- every byte of a longer character is too great
  have hhigh : ∀ n, 0x80 ≤ n → n < 0x100 → byte ≠ UInt8.ofNat n := by
    rintro n hlow hn rfl
    rw [toNat_ofNat hn] at hbyte
    omega
  have hbounds := toNat_bounds c
  unfold encodeChar at hmem ⊢
  dsimp only at hmem ⊢
  by_cases hone : c.toNat < 0x80
  · rw [if_pos hone] at hmem ⊢
    rw [List.mem_singleton.1 hmem]
  · exfalso
    rw [if_neg hone] at hmem
    split at hmem
    · simp only [List.mem_cons, List.not_mem_nil, or_false] at hmem
      rcases hmem with h | h <;> exact hhigh _ (by omega) (by omega) h
    · split at hmem
      · simp only [List.mem_cons, List.not_mem_nil, or_false] at hmem
        rcases hmem with h | h | h <;> exact hhigh _ (by omega) (by omega) h
      · simp only [List.mem_cons, List.not_mem_nil, or_false] at hmem
        rcases hmem with h | h | h | h <;> exact hhigh _ (by omega) (by omega) h

/-- A byte of a text that is below `0x80` **is a character** of the text: before it stand the bytes
of the characters before that one, and behind it those of the others. -/
theorem exists_of_getElem?_encode {text : Text} {index : Nat} {byte : UInt8}
    (hbyte : byte.toNat < 0x80) (h : (encode text)[index]? = some byte) :
    ∃ (before : Text) (c : Char) (behind : Text), text = before ++ c :: behind ∧
      (encode before).length = index ∧ encodeChar c = [byte] := by
  induction text generalizing index with
  | nil => cases h
  | cons c rest ih =>
    rw [encode_cons] at h
    by_cases hindex : index < (encodeChar c).length
    · rw [List.getElem?_append_left hindex] at h
      have hsingle := encodeChar_eq_singleton (List.mem_of_getElem? h) hbyte
      rw [hsingle, List.length_singleton] at hindex
      exact ⟨[], c, rest, rfl, (Nat.lt_one_iff.1 hindex).symm, hsingle⟩
    · rw [List.getElem?_append_right (Nat.le_of_not_lt hindex)] at h
      obtain ⟨before, d, behind, rfl, hlength, hsingle⟩ := ih h
      refine ⟨c :: before, d, behind, rfl, ?_, hsingle⟩
      rw [encode_cons, List.length_append, hlength]
      omega

end DiagramOutline.Utf8
