import Mathlib.Algebra.Group.Nat.Defs
import ReplEngine.Proofs.Json.Scalars
import ReplEngine.Proofs.Text.Cutting
import ReplEngine.Text.Quoted
import ReplEngine.Value.Literal

/-!
# Quoted texts read back

A string or byte string in quotes is read up to its closing quote and gives all its
characters, whether they were escaped or not.  The two kinds of strings escape different
characters, so that what they share is stated of one written character: the reader takes it
whole, and adds the character that it stands for.

## Key results

- `readQuoted?_quoteChar`: a string is read from its literal
- `readQuoted?_quoteByte`: a byte string is read from its literal
- `breaks_quoteChar`, `breaks_quoteByte`: a literal has no line ends inside
-/

namespace ReplEngine.Literal

open Text (quoteChar quoteByte quoteFor hexPadded hexDigit isPrintable isLineBreak)

/-! ### Codes -/

/-- Digits are read one after the other. -/
theorem readHex?_add (a b n : Nat) {cs rest : List Char} {m : Nat}
    (h : readHex? a n cs = some (m, rest)) : readHex? (a + b) n cs = readHex? b m rest := by
  -- on the digits that are read first
  induction a generalizing n cs with
  | zero =>
    obtain ⟨rfl, rfl⟩ := Prod.mk.inj (Option.some.inj h)
    rw [Nat.zero_add]
  | succ a ih =>
    cases cs with
    | nil => simp [readHex?] at h
    | cons c cs =>
      rw [Nat.add_right_comm, readHex?]
      rw [readHex?] at h
      cases hc : Json.hexValue? c with
      | none => simp [hc] at h
      | some d =>
        simp only [hc, Option.bind_eq_bind, Option.bind_some] at h ⊢
        exact ih _ h

/-- The digits of a number are read as that number. -/
theorem readHex?_hexPadded (width n m : Nat) (rest : List Char) :
    readHex? width n (hexPadded width m ++ rest) =
      some (n * 16 ^ width + m % 16 ^ width, rest) := by
  -- on the number of digits
  induction width generalizing m rest with
  | zero => simp [readHex?, hexPadded, Nat.mod_one]
  | succ width ih =>
    -- the last digit is read behind the others, which are those of the number cut by one digit
    rw [hexPadded, List.append_assoc, readHex?_add width 1 n (ih (m / 16) _)]
    have hdigit := Json.hexValue?_hexDigit (Nat.mod_lt m (show 0 < 16 by decide))
    simp only [List.singleton_append, readHex?, hdigit, Option.bind_eq_bind, Option.bind_some]
    rw [Nat.pow_succ, Nat.mul_comm (16 ^ width) 16, Nat.mod_mul, Nat.add_mul, ← Nat.mul_assoc,
      Nat.mul_right_comm n 16, Nat.mul_comm (m / 16 % 16 ^ width) 16]
    congr 2
    omega

/-- A character is read from its code, if there are digits enough. -/
theorem readCode?_hexPadded {width : Nat} {c : Char} (h : c.toNat < 16 ^ width)
    (rest : List Char) :
    readCode? width (hexPadded width c.toNat ++ rest) = some (c, rest) := by
  have hvalid : c.toNat.isValidChar := c.valid
  rw [readCode?, readHex?_hexPadded, Nat.zero_mul, Nat.zero_add, Nat.mod_eq_of_lt h]
  simp only [Option.bind_eq_bind, Option.bind_some, hvalid, if_true, Char.ofNat_toNat]

/-! ### Written characters -/

/-- The text is taken as a whole, and stands for the character. -/
def Writes (isBytes : Bool) (quote : Char) (text : List Char) (c : Char) : Prop :=
  ∀ fuel acc more, readBody isBytes quote (fuel + 1) acc (text ++ more) =
    readBody isBytes quote fuel (c :: acc) more

variable {isBytes : Bool} {quote : Char}

/-- A character that is written as itself. -/
theorem Writes.raw {c : Char} (hquote : c ≠ quote) (hslash : c ≠ '\\')
    (hraw : isRaw isBytes c = true) : Writes isBytes quote [c] c := by
  intro fuel acc more
  rw [List.singleton_append, readBody, if_neg (by simpa using hquote),
    if_neg (by simpa using hslash), if_pos hraw]

/-- A character that is written with a backslash. -/
theorem Writes.escape (hquote : isQuote quote = true) {text : List Char} {c : Char}
    (h : ∀ more, readEscape? isBytes (text ++ more) = some (c, more)) :
    Writes isBytes quote ('\\' :: text) c := by
  intro fuel acc more
  have hne : '\\' ≠ quote := by
    rintro rfl
    simp [isQuote] at hquote
  rw [List.cons_append, readBody, if_neg (by simpa using hne), if_pos (by decide), h]
  rfl

/-- A written character does not start with the quote, which would close the string. -/
theorem Writes.head {text : List Char} {c : Char} (h : Writes isBytes quote text c) :
    ∃ d more, text = d :: more ∧ d ≠ quote := by
  -- without fuel nothing is read, but a quote at the start would be
  cases text with
  | nil =>
    have hread := h 0 [] [quote]
    simp [readBody] at hread
  | cons d more =>
    refine ⟨d, more, rfl, ?_⟩
    rintro rfl
    have hread := h 0 [] []
    simp [readBody] at hread

section Body

variable {α : Type} {f : α → List Char} {g : α → Char} {xs : List α}

/-- Written characters are read up to the closing quote. -/
theorem readBody_flatMap (h : ∀ x ∈ xs, Writes isBytes quote (f x) (g x)) {fuel : Nat}
    (hfuel : xs.length < fuel) (acc rest : List Char) :
    readBody isBytes quote fuel acc (xs.flatMap f ++ quote :: rest) =
      some (acc.reverse ++ xs.map g, rest) := by
  -- on the characters; each takes one step
  induction xs generalizing fuel acc with
  | nil =>
    obtain _ | fuel := fuel
    · omega
    · simp [readBody]
  | cons x xs ih =>
    obtain _ | fuel := fuel
    · omega
    · rw [List.length_cons] at hfuel
      rw [List.flatMap_cons, List.append_assoc, h x List.mem_cons_self fuel acc,
        ih (fun y hy => h y (List.mem_cons_of_mem _ hy)) (by omega)]
      simp

/-- Written characters between quotes are read back.  What follows must not start with the
    quote: behind an empty string, two of them would open another kind of string. -/
theorem readQuoted?_flatMap (h : ∀ x ∈ xs, Writes isBytes quote (f x) (g x)) {rest : List Char}
    (hrest : rest.head? ≠ some quote) :
    readQuoted? isBytes quote (xs.flatMap f ++ quote :: rest) = some (xs.map g, rest) := by
  -- every written character takes a place, so that the length of the text is fuel enough
  have hlength : xs.length ≤ (xs.flatMap f).length := by
    induction xs with
    | nil => simp
    | cons x xs ih =>
      obtain ⟨d, more, hx, -⟩ := (h x List.mem_cons_self).head
      have hxs := ih fun y hy => h y (List.mem_cons_of_mem _ hy)
      rw [List.flatMap_cons, List.length_append, List.length_cons, hx, List.length_cons]
      omega
  -- the string does not start with two more quotes
  have hopen : [quote, quote].isPrefixOf (xs.flatMap f ++ quote :: rest) = false := by
    cases xs with
    | nil =>
      rw [List.flatMap_nil, List.nil_append, List.isPrefixOf_cons_cons, beq_self_eq_true]
      cases rest with
      | nil => rfl
      | cons c rest =>
        have hc : quote ≠ c := fun heq => hrest (by rw [heq]; rfl)
        rw [List.isPrefixOf_cons_cons, beq_false_of_ne hc]
        rfl
    | cons x xs =>
      obtain ⟨d, more, hx, hd⟩ := (h x List.mem_cons_self).head
      rw [List.flatMap_cons, hx, List.cons_append, List.cons_append, List.isPrefixOf_cons_cons,
        beq_false_of_ne hd.symm]
      rfl
  rw [readQuoted?, hopen, if_neg (by simp), readBody_flatMap h]
  · rfl
  · rw [List.length_append, List.length_cons]
    omega

end Body

/-! ### Strings -/

/-- The quote that is chosen for a text is a quote. -/
theorem isQuote_quoteFor (cs : List Char) : isQuote (quoteFor cs) = true := by
  rw [quoteFor]
  split <;> rfl

/-- A backslash and a quote stand for themselves. -/
private theorem readEscape?_mark {c : Char} (h : c = '\\' ∨ isQuote c = true) (more : List Char) :
    readEscape? isBytes (c :: more) = some (c, more) := by
  rw [isQuote, Bool.or_eq_true, beq_iff_eq, beq_iff_eq] at h
  rcases h with rfl | rfl | rfl <;> simp [readEscape?]

/-- A letter and digits stand for the character with that code. -/
private theorem readEscape?_code {width : Nat} {letter c : Char}
    (hread : ∀ more, readEscape? isBytes (letter :: more) = readCode? width more)
    (hc : c.toNat < 16 ^ width) (more : List Char) :
    readEscape? isBytes (letter :: hexPadded width c.toNat ++ more) = some (c, more) := by
  rw [List.cons_append, hread, readCode?_hexPadded hc]

/-- Every character of a string is written. -/
theorem writes_quoteChar (hquote : isQuote quote = true) (c : Char) :
    Writes false quote (quoteChar quote c) c := by
  -- eight digits are enough for every character
  have hbound : c.toNat < 16 ^ 8 := by
    have hvalid : c.toNat.isValidChar := c.valid
    simp only [Nat.isValidChar] at hvalid
    omega
  simp only [quoteChar, Bool.or_eq_true, beq_iff_eq]
  repeat' split
  · next h =>
    refine .escape hquote (readEscape?_mark ?_)
    rcases h with rfl | rfl
    · exact .inr hquote
    · exact .inl rfl
  · next h => exact .escape hquote fun _ => by rw [h]; rfl
  · next h => exact .escape hquote fun _ => by rw [h]; rfl
  · next h => exact .escape hquote fun _ => by rw [h]; rfl
  · -- a printable character, which is neither the quote nor a backslash
    next h _ _ _ hprintable =>
    exact .raw (fun heq => h (.inl heq)) (fun heq => h (.inr heq)) hprintable
  · next h => exact .escape hquote (readEscape?_code (fun _ => rfl) h)
  · next h => exact .escape hquote (readEscape?_code (fun _ => rfl) h)
  · exact .escape hquote (readEscape?_code (fun _ => rfl) hbound)

/-- A byte is the code of a character. -/
theorem toNat_ofNat_byte (b : UInt8) : (Char.ofNat b.toNat).toNat = b.toNat := by
  have hvalid : b.toNat.isValidChar := .inl (Nat.lt_trans b.toNat_lt (by decide))
  rw [Char.ofNat, dif_pos hvalid]
  rfl

/-- Every byte of a byte string is written, as the character with that code. -/
theorem writes_quoteByte (hquote : isQuote quote = true) (b : UInt8) :
    Writes true quote (quoteByte quote b) (Char.ofNat b.toNat) := by
  have hbound : b.toNat < 16 ^ 2 := b.toNat_lt
  have hcode := toNat_ofNat_byte b
  simp only [quoteByte, Bool.or_eq_true, beq_iff_eq]
  repeat' split
  · next h =>
    refine .escape hquote (readEscape?_mark ?_)
    rcases h with h | h
    · exact .inr (h ▸ hquote)
    · exact .inl h
  · next h => exact .escape hquote fun _ => by rw [h]; rfl
  · next h => exact .escape hquote fun _ => by rw [h]; rfl
  · next h => exact .escape hquote fun _ => by rw [h]; rfl
  · next h _ _ _ hraw =>
    refine .raw (fun heq => h (.inl heq)) (fun heq => h (.inr heq)) ?_
    rwa [isRaw, if_pos rfl, hcode]
  · -- any other byte is written by its code
    have hread : ∀ more, readEscape? true ('x' :: hexPadded 2 (Char.ofNat b.toNat).toNat ++ more) =
        some (Char.ofNat b.toNat, more) := readEscape?_code (fun _ => rfl) (by rwa [hcode])
    rw [hcode] at hread
    exact .escape hquote hread

/-- A string is read from its literal. -/
theorem readQuoted?_quoteChar (hquote : isQuote quote = true) (s : List Char) {rest : List Char}
    (hrest : rest.head? ≠ some quote) :
    readQuoted? false quote (s.flatMap (quoteChar quote) ++ quote :: rest) = some (s, rest) := by
  rw [readQuoted?_flatMap (fun c _ => writes_quoteChar hquote c) hrest, List.map_id']

/-- A byte string is read from its literal, as characters. -/
theorem readQuoted?_quoteByte (hquote : isQuote quote = true) (bytes : List UInt8)
    {rest : List Char} (hrest : rest.head? ≠ some quote) :
    readQuoted? true quote (bytes.flatMap (quoteByte quote) ++ quote :: rest) =
      some (bytes.map fun b => Char.ofNat b.toNat, rest) :=
  readQuoted?_flatMap (fun b _ => writes_quoteByte hquote b) hrest

/-! ### Line ends -/

/-- No character that ends a line is written as itself. -/
theorem isLineBreak_eq_false_of_isPrintable {c : Char} (h : isPrintable c = true) :
    isLineBreak c = false := by
  rw [Bool.eq_false_iff]
  intro hbreak
  have hprintable : isPrintable c = false := Text.eq_false_of_covers (by decide +kernel) hbreak
  rw [h] at hprintable
  cases hprintable

/-- A quote ends no line. -/
theorem isLineBreak_quote (hquote : isQuote quote = true) : isLineBreak quote = false := by
  rw [isQuote, Bool.or_eq_true, beq_iff_eq, beq_iff_eq] at hquote
  rcases hquote with rfl | rfl <;> rfl

private theorem breaks_hexPadded {width n : Nat} {d : Char} (h : d ∈ hexPadded width n) :
    isLineBreak d = false := by
  induction width generalizing n with
  | zero => simp [hexPadded] at h
  | succ width ih =>
    rw [hexPadded, List.mem_append, List.mem_singleton] at h
    rcases h with h | rfl
    · exact ih h
    · have hall : ∀ d : Fin 16, isLineBreak (hexDigit d) = false := by decide
      exact hall ⟨n % 16, Nat.mod_lt _ (by decide)⟩

private theorem breaks_code {letter : Char} (hletter : isLineBreak letter = false) {width n : Nat}
    {d : Char} (h : d ∈ '\\' :: letter :: hexPadded width n) : isLineBreak d = false := by
  rw [List.mem_cons, List.mem_cons] at h
  rcases h with rfl | rfl | h
  · rfl
  · exact hletter
  · exact breaks_hexPadded h

/-- A character that ends no line ends none behind a backslash. -/
private theorem breaks_escape {c : Char} (hc : isLineBreak c = false) {d : Char}
    (h : d ∈ ['\\', c]) : isLineBreak d = false := by
  rw [List.mem_cons, List.mem_singleton] at h
  rcases h with rfl | rfl
  · rfl
  · exact hc

/-- A written character of a string ends no line. -/
theorem breaks_quoteChar (hquote : isQuote quote = true) (c : Char) :
    ∀ d ∈ quoteChar quote c, isLineBreak d = false := by
  intro d h
  simp only [quoteChar, Bool.or_eq_true, beq_iff_eq] at h
  -- one case for each way to write a character
  repeat' split at h
  · next hc =>
    refine breaks_escape ?_ h
    rcases hc with rfl | rfl
    · exact isLineBreak_quote hquote
    · rfl
  · exact breaks_escape rfl h
  · exact breaks_escape rfl h
  · exact breaks_escape rfl h
  · next hprintable =>
    rw [List.mem_singleton.mp h]
    exact isLineBreak_eq_false_of_isPrintable hprintable
  · exact breaks_code rfl h
  · exact breaks_code rfl h
  · exact breaks_code rfl h

theorem breaks_quoteByte (hquote : isQuote quote = true) (b : UInt8) :
    ∀ d ∈ quoteByte quote b, isLineBreak d = false := by
  intro d h
  simp only [quoteByte, Bool.or_eq_true, beq_iff_eq] at h
  repeat' split at h
  · next hc =>
    refine breaks_escape ?_ h
    rcases hc with hc | hc
    · rw [hc]
      exact isLineBreak_quote hquote
    · rw [hc]
      rfl
  · exact breaks_escape rfl h
  · exact breaks_escape rfl h
  · exact breaks_escape rfl h
  · next hraw =>
    rw [List.mem_singleton.mp h]
    rw [Bool.and_eq_true, decide_eq_true_eq, decide_eq_true_eq] at hraw
    -- what ends a line lies outside the range of raw bytes
    simp only [isLineBreak, Text.CodeRange.covers, toNat_ofNat_byte, List.any_cons, List.any_nil,
      Bool.or_eq_false_iff, Bool.and_eq_false_iff, decide_eq_false_iff_not, and_true]
    omega
  · exact breaks_code rfl h

end ReplEngine.Literal
