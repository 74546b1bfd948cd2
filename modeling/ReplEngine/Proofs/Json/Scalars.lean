import ReplEngine.Json.Reader
import ReplEngine.Json.Writer

/-!
# Strings and whole numbers read back

The reader takes a written string up to its closing quote and a written number up to
the first character that cannot continue it.  Of a string every character comes back,
whether it was escaped or not; of a number every digit, as long as there are not more
digits than are converted.

## Key results

- `readString_quote`: a quoted string is read as that string
- `readNumber?_int`: a whole number is read as that number
-/

namespace ReplEngine.Json

/-! ### Escapes -/

/-- Characters that belong to an escape are passed over. -/
private theorem readString_skip (opening skipped rest : List Char) (acc : List CodePoint) :
    readString opening skipped.length acc (skipped ++ rest) = readString opening 0 acc rest := by
  induction skipped with
  | nil => rfl
  | cons c skipped ih => simpa only [List.length_cons, List.cons_append, readString] using ih

/-- An escape that stands for a code point is read as it. -/
private theorem readString_escape {opening rest : List Char} {acc : List CodePoint}
    {point : CodePoint} (text : List Char)
    (h : readEscape opening (text ++ rest) = .ok (point, text.length)) :
    readString opening 0 acc ('\\' :: text ++ rest) =
      readString opening 0 (point :: acc) rest := by
  rw [List.cons_append, readString, if_neg (by decide), if_pos (by decide), h]
  exact readString_skip opening text rest (point :: acc)

/-- A hexadecimal digit stands for its number. -/
theorem hexValue?_hexDigit {n : Nat} (h : n < 16) :
    hexValue? (Text.hexDigit n) = some n := by
  have hall : ∀ m : Fin 16, hexValue? (Text.hexDigit m) = some m.val := by decide
  exact hall ⟨n, h⟩

private theorem hexPadded_four (n : Nat) :
    Text.hexPadded 4 n = [Text.hexDigit (n / 16 / 16 / 16 % 16), Text.hexDigit (n / 16 / 16 % 16),
      Text.hexDigit (n / 16 % 16), Text.hexDigit (n % 16)] := rfl

/-- A control character is escaped by its number. -/
private theorem readEscape_unicode {opening rest : List Char} {c d : Char} (hc : c.toNat < 32) :
    readEscape opening ('u' :: Text.hexPadded 4 c.toNat ++ d :: rest) = .ok (.char c, 5) := by
  have hvalue : hexValue4? (Text.hexDigit (c.toNat / 16 / 16 / 16 % 16))
      (Text.hexDigit (c.toNat / 16 / 16 % 16)) (Text.hexDigit (c.toNat / 16 % 16))
      (Text.hexDigit (c.toNat % 16)) = some c.toNat := by
    simp only [hexValue4?, hexValue?_hexDigit (Nat.mod_lt _ (show 16 > 0 by decide))]
    simp only [Option.pure_def, Option.bind_eq_bind, Option.bind_some, Option.some.injEq]
    omega
  -- a control character is no half of a pair
  have hplain : unitPoint c.toNat = .char c := by
    rw [unitPoint, if_neg (by simp; omega), Char.ofNat_toNat]
  rw [hexPadded_four]
  simp only [List.cons_append, List.nil_append, readEscape, hvalue]
  rw [if_neg (by simp; omega), hplain]
  rfl

/-- One written character is read back, if something follows it. -/
private theorem readString_escapeChar (opening : List Char) (acc : List CodePoint) (c d : Char)
    (rest : List Char) :
    readString opening 0 acc (escapeChar c ++ d :: rest) =
      readString opening 0 (.char c :: acc) (d :: rest) := by
  have hplain : ∀ e x, e ≠ 'u' → plainEscape? e = some x →
      readString opening 0 acc (['\\', e] ++ d :: rest) =
        readString opening 0 (.char x :: acc) (d :: rest) := by
    intro e x he hx
    refine readString_escape [e] ?_
    simp [readEscape, he, hx]
  have hchar : ∀ n, c.toNat = n → c = Char.ofNat n := fun n hn => by rw [← hn, Char.ofNat_toNat]
  simp only [escapeChar, beq_iff_eq]
  -- along the escapes that are written
  repeat' split
  · next h => rw [h]; exact hplain _ _ (by decide) rfl
  · next h => rw [h]; exact hplain _ _ (by decide) rfl
  · next h => rw [h]; exact hplain _ _ (by decide) rfl
  · next h => rw [h]; exact hplain _ _ (by decide) rfl
  · next h => rw [h]; exact hplain _ _ (by decide) rfl
  · next h => rw [hchar 8 h]; exact hplain _ _ (by decide) rfl
  · next h => rw [hchar 12 h]; exact hplain _ _ (by decide) rfl
  · next h =>
    exact readString_escape ('u' :: Text.hexPadded 4 c.toNat) (readEscape_unicode h)
  · -- a character that is written as itself
    next hquote hslash _ _ _ _ _ hcontrol =>
    rw [List.singleton_append, readString, if_neg (by simpa using hquote),
      if_neg (by simpa using hslash), if_neg hcontrol]

/-- The characters of a written string are read one by one, up to the closing quote. -/
private theorem readString_escaped (opening s rest : List Char) (acc : List CodePoint) :
    readString opening 0 acc (s.flatMap escapeChar ++ '"' :: rest) =
      .ok (acc.reverse ++ s.map .char, rest) := by
  induction s generalizing acc with
  | nil => simp [readString]
  | cons c s ih =>
    -- behind each character stands another one, or the closing quote
    obtain ⟨d, more, hmore⟩ : ∃ d more, s.flatMap escapeChar ++ '"' :: rest = d :: more :=
      List.exists_cons_of_ne_nil (by simp)
    rw [List.flatMap_cons, List.append_assoc, hmore, readString_escapeChar, ← hmore, ih]
    simp

theorem toList_quote (s : String) :
    (quote s).toList = '"' :: (s.toList.flatMap escapeChar ++ ['"']) := by
  simp [quote]

/-- A quoted string is read up to its closing quote, and gives all its characters. -/
theorem readString_quote (opening : List Char) (s : String) (rest : List Char) :
    readString opening 0 [] (s.toList.flatMap escapeChar ++ '"' :: rest) =
      .ok (CodePoint.ofString s, rest) := by
  rw [readString_escaped, List.reverse_nil, List.nil_append]
  rfl

/-- Code points that are all characters are a text. -/
theorem text?_ofString (s : String) : CodePoint.text? (CodePoint.ofString s) = some s := by
  have hmap : ∀ cs : List Char, (cs.map CodePoint.char).mapM CodePoint.char? = some cs := by
    intro cs
    induction cs with
    | nil => rfl
    | cons c cs ih => simp [List.mapM_cons, ih, CodePoint.char?]
  rw [CodePoint.text?, CodePoint.ofString, hmap]
  simp

/-- The code points of a text are that text. -/
theorem ofPoints_ofString (s : String) : ofPoints (CodePoint.ofString s) = str s := by
  rw [ofPoints, text?_ofString]

/-- An object whose keys are all texts. -/
theorem ofFields_map_ofString (fields : List (String × Json)) :
    ofFields (fields.map fun f => (CodePoint.ofString f.1, f.2)) = obj fields := by
  have hmap : (fields.map fun f => (CodePoint.ofString f.1, f.2)).mapM
      (fun f => (·, f.2) <$> CodePoint.text? f.1) = some fields := by
    induction fields with
    | nil => rfl
    | cons f fields ih =>
      rw [List.map_cons, List.mapM_cons, ih, text?_ofString]
      rfl
  rw [ofFields, hmap]

/-! ### Whole numbers -/

/-- A text that cannot continue a value before it: it is empty, or starts with one of the
    characters that separate and close values. -/
def Stops (rest : List Char) : Prop :=
  ∀ c, rest.head? = some c → c = ',' ∨ c = ']' ∨ c = '\x7d'

/-- Numbers are written in digits. -/
theorem isAsciiDigit_of_mem_toDigits {n : Nat} {c : Char} (h : c ∈ Nat.toDigits 10 n) :
    Text.isAsciiDigit c = true :=
  Nat.isDigit_of_mem_toDigits (by decide) (by decide) h

/-- A natural number is written with at least one digit. -/
theorem toDigits_cons (n : Nat) :
    ∃ d ds, Text.isAsciiDigit d = true ∧ Nat.toDigits 10 n = d :: ds := by
  obtain ⟨d, ds, hds⟩ := List.exists_cons_of_ne_nil (Nat.toDigits_ne_nil (n := n) (b := 10))
  exact ⟨d, ds, isAsciiDigit_of_mem_toDigits (n := n) (by simp [hds]), hds⟩

/-- The digits of a number denote it. -/
theorem digitsValue_toDigits (n : Nat) : digitsValue (Nat.toDigits 10 n) = n := by
  have h : ∀ cs, digitsValue cs = Nat.ofDigitChars 10 cs 0 := by
    intro cs
    simp only [digitsValue, Nat.ofDigitChars_eq_foldl, Nat.mul_comm]
    rfl
  rw [h, Nat.ofDigitChars_ten_toDigits]

/-- Only zero is written with a leading zero. -/
theorem toDigits_of_head_zero {n : Nat} {cs : List Char}
    (h : Nat.toDigits 10 n = '0' :: cs) : cs = [] := by
  -- on the number: without its last digit it starts with a zero, too
  induction n using Nat.strongRecOn generalizing cs with
  | ind n ih =>
    rw [Nat.toDigits_eq_if (by decide)] at h
    split at h
    · exact (List.cons.inj h).2.symm
    · next hn =>
      obtain ⟨d, ds, -, hds⟩ := toDigits_cons (n / 10)
      rw [hds, List.cons_append] at h
      obtain ⟨rfl, rfl⟩ := List.cons.inj h
      -- the shorter number would be zero, but then there is only one digit
      have hnil : ds = [] := ih (n / 10) (by omega) hds
      have hvalue := digitsValue_toDigits (n / 10)
      rw [hds, hnil] at hvalue
      simp [digitsValue] at hvalue
      omega

/-- The whole part of a number is all its digits. -/
private theorem wholePart_toDigits (n : Nat) {rest : List Char} (hrest : Stops rest) :
    wholePart (Nat.toDigits 10 n ++ rest) = Nat.toDigits 10 n := by
  -- what follows is no digit
  have htake : (Nat.toDigits 10 n ++ rest).takeWhile Text.isAsciiDigit = Nat.toDigits 10 n := by
    rw [List.takeWhile_append_of_pos (fun c hc => isAsciiDigit_of_mem_toDigits hc)]
    cases rest with
    | nil => simp
    | cons c rest =>
      rcases hrest c rfl with rfl | rfl | rfl <;> simp [Text.isAsciiDigit]
  rw [wholePart.eq_def]
  split
  · -- a leading zero is the whole number
    next cs heq =>
    obtain ⟨d, ds, -, hds⟩ := toDigits_cons n
    rw [hds, List.cons_append] at heq
    obtain ⟨rfl, -⟩ := List.cons.inj heq
    rw [hds, toDigits_of_head_zero hds]
  · exact htake

/-- Behind a whole number stands no exponent. -/
private theorem readExponent?_stops {rest : List Char} (h : Stops rest) :
    readExponent? rest = none := by
  cases rest with
  | nil => rfl
  | cons c rest => rcases h c rfl with rfl | rfl | rfl <;> rfl

/-- Behind a whole number stands no fraction. -/
private theorem splitFraction_stops {rest : List Char} (h : Stops rest) :
    splitFraction rest = ([], rest) := by
  cases rest with
  | nil => rfl
  | cons c rest => rcases h c rfl with rfl | rfl | rfl <;> rfl

/-- A text of digits has no sign. -/
private theorem splitSign_toDigits (n : Nat) (rest : List Char) :
    splitSign (Nat.toDigits 10 n ++ rest) = (false, Nat.toDigits 10 n ++ rest) := by
  rw [splitSign.eq_def]
  split
  · next heq =>
    obtain ⟨d, ds, hd, hds⟩ := toDigits_cons n
    rw [hds, List.cons_append] at heq
    rw [(List.cons.inj heq).1] at hd
    exact absurd hd (by decide)
  · rfl

/-- A natural number behind a sign or no sign is read as that number. -/
private theorem readNumber?_digits {n : Nat} {cs rest : List Char} {negative : Bool}
    (hsign : splitSign cs = (negative, Nat.toDigits 10 n ++ rest))
    (hshort : (Nat.toDigits 10 n).length ≤ maxIntDigits) (hrest : Stops rest) :
    readNumber? cs = some (.ok (int (if negative then -(n : Int) else n), rest)) := by
  simp only [readNumber?, hsign, wholePart_toDigits n hrest, List.drop_left,
    splitFraction_stops hrest, readExponent?_stops hrest, digitsValue_toDigits]
  rw [if_neg (by simp), if_neg (by omega)]

theorem toList_toString_natCast (n : Nat) : (toString (n : Int)).toList = Nat.toDigits 10 n := by
  rw [Int.toString_eq_repr, Int.repr_eq_if, if_pos (by omega), Nat.toList_repr, Int.toNat_natCast]

theorem toList_toString_neg (n : Nat) :
    (toString (-((n + 1 : Nat) : Int))).toList = '-' :: Nat.toDigits 10 (n + 1) := by
  rw [Int.toString_eq_repr, Int.repr_eq_if, if_neg (by omega), String.toList_append,
    Nat.toList_repr, Int.neg_neg, Int.toNat_natCast]
  rfl

/-- A whole number is written as digits, with or without a sign before them. -/
theorem toList_toString_int (n : Int) :
    ∃ d ds, d.isDigit = true ∧
      ((toString n).toList = d :: ds ∨ (toString n).toList = '-' :: d :: ds) := by
  obtain ⟨m, rfl | rfl⟩ := n.eq_nat_or_neg
  · obtain ⟨d, ds, hd, hds⟩ := toDigits_cons m
    exact ⟨d, ds, hd, .inl (by rw [toList_toString_natCast, hds])⟩
  · cases m with
    | zero =>
      -- minus zero is zero and has no sign
      exact ⟨'0', [], rfl, .inl rfl⟩
    | succ m =>
      obtain ⟨d, ds, hd, hds⟩ := toDigits_cons (m + 1)
      exact ⟨d, ds, hd, .inr (by rw [toList_toString_neg, hds])⟩

/-- A whole number that is short enough is read as that number. -/
theorem readNumber?_int {n : Int} (hshort : isShort n = true) {rest : List Char}
    (hrest : Stops rest) :
    readNumber? ((toString n).toList ++ rest) = some (.ok (int n, rest)) := by
  rw [isShort, decide_eq_true_iff] at hshort
  -- zero has no sign, whichever way it is written
  obtain ⟨m, rfl | rfl⟩ := n.eq_nat_or_neg
  · rw [Int.natAbs_natCast] at hshort
    rw [toList_toString_natCast]
    exact readNumber?_digits (splitSign_toDigits m rest) hshort hrest
  · rw [Int.natAbs_neg, Int.natAbs_natCast] at hshort
    cases m with
    | zero => exact readNumber?_digits (splitSign_toDigits 0 rest) hshort hrest
    | succ m =>
      have hsign : splitSign ('-' :: (Nat.toDigits 10 (m + 1) ++ rest)) =
          (true, Nat.toDigits 10 (m + 1) ++ rest) := rfl
      rw [toList_toString_neg, List.cons_append]
      exact readNumber?_digits hsign hshort hrest

end ReplEngine.Json
