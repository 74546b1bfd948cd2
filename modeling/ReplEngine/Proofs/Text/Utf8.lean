import ReplEngine.Text.Utf8

/-!
# UTF-8 reads back

Decoding the bytes of a text gives the text.  Each character is a lead byte that
announces its tails, and the tails carry the rest of its number, six bits each; the
narrower ranges behind some lead bytes leave out no character.

## Key results

- `carries_encodeChar`: the bytes of one character carry its number
- `decode_encode`: the bytes of a text are read as that text
- `length_decode_le`: bytes hold no more characters than there are bytes
-/

namespace ReplEngine.Text.Utf8

/-! ### Bytes -/

/-- What fits a byte is kept by it. -/
private theorem toNat_toUInt8 {n : Nat} (h : n < 256) : n.toUInt8.toNat = n := by
  rw [Nat.toUInt8, UInt8.toNat_ofNat', Nat.mod_eq_of_lt h]

/-- A tail carries six bits. -/
private theorem toNat_tailByte (n : Nat) : (tailByte n).toNat = 0x80 + n % 64 := by
  rw [tailByte, toNat_toUInt8 (by omega)]

/-- A tail in its range adds its six bits. -/
private theorem readTails_cons {bits tails low high seen n : Nat} (hlow : low ≤ 0x80 + n % 64)
    (hhigh : 0x80 + n % 64 ≤ high) (rest : List UInt8) :
    readTails bits (tails + 1) low high seen (tailByte n :: rest) =
      readTails (bits * 64 + n % 64) tails 0x80 0xBF (seen + 1) rest := by
  rw [readTails, toNat_tailByte, if_pos ⟨hlow, hhigh⟩]
  congr 2
  omega

/-! ### One character -/

/-- Bytes that carry a number: a lead byte, and the tails that it announces, from which
    the number is read whatever comes behind. -/
def Carries (bytes : List UInt8) (n : Nat) : Prop :=
  ∃ lead tails announced, bytes = lead :: tails ∧ Lead.of? lead = some announced ∧
    announced.tails = tails.length ∧ ∀ rest,
      readTails announced.bits announced.tails announced.low announced.high 1 (tails ++ rest) =
        .ok n

variable {n : Nat}

private theorem carries_one (h : n < 0x80) : Carries [n.toUInt8] n := by
  refine ⟨_, [], { bits := n, tails := 0 }, rfl, ?_, rfl, fun _ => rfl⟩
  simp only [Lead.of?, toNat_toUInt8 (show n < 256 by omega), if_pos h]

/-- Two bytes carry eleven bits. -/
private theorem carries_two (hlow : ¬n < 0x80) (hhigh : n < 0x800) :
    Carries [(0xC0 + n / 64).toUInt8, tailByte n] n := by
  refine ⟨_, [tailByte n], { bits := n / 64, tails := 1 }, rfl, ?_, rfl, fun rest => ?_⟩
  · -- the lead byte is in the range of those with one tail
    simp only [Lead.of?, toNat_toUInt8 (show 0xC0 + n / 64 < 256 by omega)]
    rw [if_neg (by omega), if_neg (by omega), if_pos (by omega)]
    simp
  · rw [List.singleton_append, readTails_cons (by dsimp only; omega) (by dsimp only; omega),
      readTails]
    congr 1
    dsimp only
    omega

/-- Two tails carry twelve bits. -/
private theorem readTails_two {low high : Nat} (hlow : low ≤ 0x80 + n / 64 % 64)
    (hhigh : 0x80 + n / 64 % 64 ≤ high) (rest : List UInt8) :
    readTails (n / 4096) 2 low high 1 ([tailByte (n / 64), tailByte n] ++ rest) = .ok n := by
  rw [List.cons_append, List.singleton_append, readTails_cons hlow hhigh,
    readTails_cons (by omega) (by omega), readTails]
  congr 1
  omega

/-- The lead byte `E0` leaves out what fits two bytes, and `ED` the surrogates. -/
private theorem carries_three (hlow : ¬n < 0x800) (hhigh : n < 0x10000)
    (hvalid : n < 0xD800 ∨ 0xDFFF < n) :
    Carries [(0xE0 + n / 4096).toUInt8, tailByte (n / 64), tailByte n] n := by
  have hlead := toNat_toUInt8 (show 0xE0 + n / 4096 < 256 by omega)
  -- three ranges of lead bytes, each with its own bounds for the first tail
  by_cases he0 : n / 4096 = 0
  · refine ⟨_, _, { bits := n / 4096, tails := 2, low := 0xA0 }, rfl, ?_, rfl,
      readTails_two (by dsimp only; omega) (by dsimp only; omega)⟩
    rw [he0]
    rfl
  · by_cases hed : n / 4096 = 0xD
    · refine ⟨_, _, { bits := n / 4096, tails := 2, high := 0x9F }, rfl, ?_, rfl,
        readTails_two (by dsimp only; omega) (by dsimp only; omega)⟩
      rw [hed]
      rfl
    · refine ⟨_, _, { bits := n / 4096, tails := 2 }, rfl, ?_, rfl,
        readTails_two (by dsimp only; omega) (by dsimp only; omega)⟩
      simp only [Lead.of?, hlead, beq_iff_eq]
      rw [if_neg (by omega), if_neg (by omega), if_neg (by omega), if_neg (by omega),
        if_neg (by omega), if_pos (by omega)]
      simp

/-- Three tails carry eighteen bits. -/
private theorem readTails_three {low high : Nat} (hlow : low ≤ 0x80 + n / 4096 % 64)
    (hhigh : 0x80 + n / 4096 % 64 ≤ high) (rest : List UInt8) :
    readTails (n / 262144) 3 low high 1
      ([tailByte (n / 4096), tailByte (n / 64), tailByte n] ++ rest) = .ok n := by
  rw [List.cons_append, List.cons_append, List.singleton_append, readTails_cons hlow hhigh,
    readTails_cons (by omega) (by omega), readTails_cons (by omega) (by omega), readTails]
  congr 1
  omega

/-- The lead byte `F0` leaves out what fits three bytes, and `F4` what is no character. -/
private theorem carries_four (hlow : ¬n < 0x10000) (hhigh : n < 0x110000) :
    Carries [(0xF0 + n / 262144).toUInt8, tailByte (n / 4096), tailByte (n / 64), tailByte n]
      n := by
  have hlead := toNat_toUInt8 (show 0xF0 + n / 262144 < 256 by omega)
  -- three ranges again
  by_cases hf0 : n / 262144 = 0
  · refine ⟨_, _, { bits := n / 262144, tails := 3, low := 0x90 }, rfl, ?_, rfl,
      readTails_three (by dsimp only; omega) (by dsimp only; omega)⟩
    rw [hf0]
    rfl
  · by_cases hf4 : n / 262144 = 4
    · refine ⟨_, _, { bits := n / 262144, tails := 3, high := 0x8F }, rfl, ?_, rfl,
        readTails_three (by dsimp only; omega) (by dsimp only; omega)⟩
      rw [hf4]
      rfl
    · refine ⟨_, _, { bits := n / 262144, tails := 3 }, rfl, ?_, rfl,
        readTails_three (by dsimp only; omega) (by dsimp only; omega)⟩
      simp only [Lead.of?, hlead, beq_iff_eq]
      rw [if_neg (by omega), if_neg (by omega), if_neg (by omega), if_neg (by omega),
        if_neg (by omega), if_neg (by omega), if_neg (by omega), if_neg (by omega),
        if_pos (by omega)]
      simp

/-- The bytes of a character carry its number. -/
theorem carries_encodeChar (c : Char) : Carries (encodeChar c) c.toNat := by
  -- a character is no surrogate and not beyond the last one
  have hvalid : c.toNat < 0xD800 ∨ 0xDFFF < c.toNat ∧ c.toNat < 0x110000 := c.valid
  simp only [encodeChar]
  split
  · next h => exact carries_one h
  · split
    · next hlow hhigh => exact carries_two hlow hhigh
    · split
      · next hlow hhigh => exact carries_three hlow hhigh (by omega)
      · next hlow => exact carries_four hlow (by omega)

/-! ### A whole text -/

/-- Bytes that belong to the character before are passed over. -/
private theorem decodeFrom_skip (offset : Nat) (tails rest : List UInt8) :
    decodeFrom offset tails.length (tails ++ rest) = decodeFrom (offset + tails.length) 0 rest := by
  induction tails generalizing offset with
  | nil => rfl
  | cons b tails ih =>
    simp only [List.length_cons, List.cons_append, decodeFrom]
    rw [ih, Nat.add_assoc, Nat.add_comm 1]

/-- The bytes of a character are read as that character, and the rest behind it. -/
private theorem decodeFrom_encodeChar (offset : Nat) (c : Char) (rest : List UInt8) :
    ∃ offset', decodeFrom offset 0 (encodeChar c ++ rest) =
      (c :: ·) <$> decodeFrom offset' 0 rest := by
  obtain ⟨lead, tails, announced, hbytes, hlead, hcount, hread⟩ := carries_encodeChar c
  refine ⟨offset + 1 + tails.length, ?_⟩
  rw [hbytes, List.cons_append, decodeFrom]
  simp only [hlead, hread, Char.ofNat_toNat]
  rw [hcount, decodeFrom_skip]

private theorem decodeFrom_encode (offset : Nat) (cs : List Char) :
    decodeFrom offset 0 (encode cs) = .ok cs := by
  -- on the text
  induction cs generalizing offset with
  | nil => rfl
  | cons c cs ih =>
    obtain ⟨offset', h⟩ := decodeFrom_encodeChar offset c (encode cs)
    rw [encode, List.flatMap_cons, ← encode, h, ih]
    rfl

/-- The bytes of a text are read as that text. -/
@[simp]
theorem decode_encode (cs : List Char) : decode (encode cs) = .ok cs :=
  decodeFrom_encode 0 cs

/-- Each character takes four bytes at most. -/
theorem length_encode_le (cs : List Char) : (encode cs).length ≤ 4 * cs.length := by
  -- one of the four ways to write a character
  have hchar : ∀ c, (encodeChar c).length ≤ 4 := by
    intro c
    simp only [encodeChar]
    split
    · simp
    · split
      · simp
      · split <;> simp
  induction cs with
  | nil => simp [encode]
  | cons c cs ih =>
    have := hchar c
    simp only [encode, List.flatMap_cons, List.length_append, List.length_cons] at ih ⊢
    omega

end ReplEngine.Text.Utf8
