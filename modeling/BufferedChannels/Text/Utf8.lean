import BufferedChannels.Bytes

/-!
# Text/Utf8 — any bytes read as text

`decode` reads UTF-8.  Bytes that are no part of a character are read as **U+FFFD**: once for a
character that is begun and not finished, and once for each byte that begins none.  Main statement:
`decode_ofText`, the bytes of a text are read as that text.
-/

namespace BufferedChannels.Text

/-- **A character that is begun.** -/
structure Begun where
  /-- The number that its bytes make so far. -/
  value : Nat
  /-- How many bytes follow the next one. -/
  after : Nat
  /-- The least next byte. -/
  low : Nat := 0x80
  /-- The greatest next byte. -/
  high : Nat := 0xbf

/-- What stands for bytes that are no character. -/
def replacement : Char := '\ufffd'

/-- **A byte at the beginning of a character**: what is complete with it and what is begun.  The
range of the next byte keeps out longer spellings, surrogates and numbers past the last code. -/
def beginChar (b : Nat) : List Char × Option Begun :=
  if b < 0x80 then ([Char.ofNat b], none)
  else if b < 0xc2 then ([replacement], none)
  else if b < 0xe0 then ([], some { value := b - 0xc0, after := 0 })
  else if b < 0xf0 then
    ([], some
      { value := b - 0xe0
        after := 1
        low := if b = 0xe0 then 0xa0 else 0x80
        high := if b = 0xed then 0x9f else 0xbf })
  else if b < 0xf5 then
    ([], some
      { value := b - 0xf0
        after := 2
        low := if b = 0xf0 then 0x90 else 0x80
        high := if b = 0xf4 then 0x8f else 0xbf })
  else ([replacement], none)

/-- A byte that goes on with a character. -/
def Begun.extend (s : Begun) (b : Nat) : List Char × Option Begun :=
  let value := s.value * 64 + (b - 0x80)
  match s.after with
  | 0 => ([Char.ofNat value], none)
  | after + 1 => ([], some { value, after })

/-- **One byte**: it goes on with the character that is begun, or breaks it off and begins anew. -/
def readByte : Option Begun → Nat → List Char × Option Begun
  | none, b => beginChar b
  | some s, b =>
    if s.low ≤ b ∧ b ≤ s.high then s.extend b
    else (replacement :: (beginChar b).1, (beginChar b).2)

/-- Reads bytes after those that have begun a character. -/
def decodeFrom : Option Begun → Bytes → List Char
  | none, [] => []
  | some _, [] => [replacement]
  | s, b :: rest => (readByte s b.toNat).1 ++ decodeFrom (readByte s b.toNat).2 rest

/-- **Bytes read as text.** -/
def decode (bytes : Bytes) : List Char := decodeFrom none bytes

/-! ## Reading what a text was written as -/

theorem decodeFrom_cons (s : Option Begun) (b : UInt8) (rest : Bytes) :
    decodeFrom s (b :: rest) =
      (readByte s b.toNat).1 ++ decodeFrom (readByte s b.toNat).2 rest := by
  cases s <;> rfl

theorem toNat_byte {n : Nat} (h : n < 256) : (UInt8.ofNat n).toNat = n := by
  rw [UInt8.toNat_ofNat', Nat.mod_eq_of_lt h]

/-- The last byte of a character completes it. -/
theorem decodeFrom_last {s : Begun} {b : Nat} (after : s.after = 0) (low : s.low ≤ b + 128)
    (high : b + 128 ≤ s.high) (fits : b < 64) (rest : Bytes) :
    decodeFrom (some s) (UInt8.ofNat (b + 128) :: rest) =
      Char.ofNat (s.value * 64 + b) :: decodeFrom none rest := by
  rw [decodeFrom_cons, toNat_byte (by omega), readByte, if_pos ⟨low, high⟩, Begun.extend, after,
    Nat.add_sub_cancel]
  rfl

/-- A byte before the last one adds six bits. -/
theorem decodeFrom_next {s : Begun} {b n : Nat} (after : s.after = n + 1) (low : s.low ≤ b + 128)
    (high : b + 128 ≤ s.high) (fits : b < 64) (rest : Bytes) :
    decodeFrom (some s) (UInt8.ofNat (b + 128) :: rest) =
      decodeFrom (some { value := s.value * 64 + b, after := n }) rest := by
  rw [decodeFrom_cons, toNat_byte (by omega), readByte, if_pos ⟨low, high⟩, Begun.extend, after,
    Nat.add_sub_cancel]
  rfl

/-- **A written character is read back**, whatever follows it. -/
theorem decodeFrom_encodeChar (c : Char) (rest : Bytes) :
    decodeFrom none (String.utf8EncodeChar c ++ rest) = c :: decodeFrom none rest := by
  have valid : c.val.toNat < 0xd800 ∨ 0xdfff < c.val.toNat ∧ c.val.toNat < 0x110000 := c.valid
  have back : Char.ofNat c.val.toNat = c := Char.ofNat_toNat c
  unfold String.utf8EncodeChar
  generalize c.val.toNat = v at valid back
  dsimp only
  split
  · rw [List.cons_append, List.nil_append, decodeFrom_cons, toNat_byte (by omega), readByte,
      beginChar, if_pos (by omega), back]
    rfl
  split
  · rw [List.cons_append, decodeFrom_cons, toNat_byte (by omega), readByte, beginChar,
      if_neg (by omega), if_neg (by omega), if_pos (by omega)]
    simp only [List.cons_append, List.nil_append]
    rw [decodeFrom_last rfl (by dsimp only; omega) (by dsimp only; omega) (by omega),
      show (v / 64 % 32 + 192 - 0xc0) * 64 + v % 64 = v by omega, back]
  split
  · rw [List.cons_append, decodeFrom_cons, toNat_byte (by omega), readByte, beginChar,
      if_neg (by omega), if_neg (by omega), if_neg (by omega), if_pos (by omega)]
    simp only [List.cons_append, List.nil_append]
    rw [decodeFrom_next rfl (by dsimp only; split <;> omega) (by dsimp only; split <;> omega)
        (by omega),
      decodeFrom_last rfl (by dsimp only; omega) (by dsimp only; omega) (by omega),
      show ((v / 4096 % 16 + 224 - 0xe0) * 64 + v / 64 % 64) * 64 + v % 64 = v by omega, back]
  · rw [List.cons_append, decodeFrom_cons, toNat_byte (by omega), readByte, beginChar,
      if_neg (by omega), if_neg (by omega), if_neg (by omega), if_neg (by omega),
      if_pos (by omega)]
    simp only [List.cons_append, List.nil_append]
    rw [decodeFrom_next rfl (by dsimp only; split <;> omega) (by dsimp only; split <;> omega)
        (by omega),
      decodeFrom_next rfl (by dsimp only; omega) (by dsimp only; omega) (by omega),
      decodeFrom_last rfl (by dsimp only; omega) (by dsimp only; omega) (by omega),
      show (((v / 262144 % 8 + 240 - 0xf0) * 64 + v / 4096 % 64) * 64 + v / 64 % 64) * 64 + v % 64
        = v by omega, back]

theorem decode_flatMap_encodeChar (cs : List Char) :
    decode (cs.flatMap String.utf8EncodeChar) = cs := by
  induction cs with
  | nil => rfl
  | cons c cs ih => rw [List.flatMap_cons, decode, decodeFrom_encodeChar, ← decode, ih]

/-- **The bytes of a text are read as that text.** -/
theorem decode_ofText (text : String) : decode (Bytes.ofText text) = text.toList := by
  rw [Bytes.ofText, String.toUTF8, ← String.utf8Encode_toList, List.utf8Encode,
    List.data_toByteArray, decode_flatMap_encodeChar]

end BufferedChannels.Text
