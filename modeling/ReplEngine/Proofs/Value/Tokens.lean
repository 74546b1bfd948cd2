import ReplEngine.Proofs.Text.Cutting
import ReplEngine.Proofs.Value.Quoted

/-!
# Cutting literals into tokens

Which tokens a text has, in front of others.  A value that is one token ends where a mark or the
end of the text follows it, and it shows no line ends; a text put together from such values may
have newlines inside, but none at its end.

## Key results

- `Lexes.blank`, `Lexes.mark`: the tokens of a text, one step at a time
- `Shows.word`, `Shows.int`, `Shows.str`, `Shows.bytes`: the texts of values that are one token
- `Shows.append`, `Shows.display`: texts that are put together from others
-/

namespace ReplEngine.Literal

open Scan (Bracket)
open Text (isLineBreak isWordChar isAsciiDigit quoteFor quoteChar quoteByte)

/-! ### Tokens of a text -/

/-- The text inside `depth` brackets has these tokens. -/
def Lexes (depth : Nat) (text : List Char) (ts : List Token) : Prop :=
  ∀ fuel, text.length < fuel → tokensFrom fuel depth text = some ts

variable {depth : Nat} {rest : List Char} {ts : List Token}

/-- An empty text has no tokens. -/
theorem Lexes.nil (depth : Nat) : Lexes depth [] [] := by
  rintro (_ | fuel) hfuel
  · simp at hfuel
  · rfl

/-- Inside brackets a blank or a newline is passed over. -/
theorem Lexes.blank {c : Char} (hc : c = ' ' ∨ c = '\n') (hdepth : 0 < depth)
    (h : Lexes depth rest ts) : Lexes depth (c :: rest) ts := by
  rintro (_ | fuel) hfuel
  · omega
  · rw [List.length_cons] at hfuel
    rw [tokensFrom, if_pos (by simpa using hc), if_neg (by omega), h fuel (by omega)]

theorem Lexes.blanks (n : Nat) (hdepth : 0 < depth) (h : Lexes depth rest ts) :
    Lexes depth (List.replicate n ' ' ++ rest) ts := by
  -- on their number
  induction n with
  | zero => exact h
  | succ n ih => exact .blank (.inl rfl) hdepth ih

/-- A token, and the tokens behind it. -/
theorem Lexes.token {c : Char} {t : Token} {after : List Char} (hspace : c ≠ ' ')
    (hnewline : c ≠ '\n') (hread : readToken? c rest = some (t, after))
    (hlength : after.length ≤ rest.length) (h : Lexes (t.depthAfter depth) after ts) :
    Lexes depth (c :: rest) (t :: ts) := by
  rintro (_ | fuel) hfuel
  · omega
  · rw [List.length_cons] at hfuel
    rw [tokensFrom, if_neg (by simp [hspace, hnewline]), hread]
    simp only [Option.bind_eq_bind, Option.bind_some, h fuel (by omega)]
    rfl

/-- A mark is a token by itself. -/
theorem Lexes.mark {c : Char} {t : Token} (hmark : mark? c = some t)
    (h : Lexes (t.depthAfter depth) rest ts) : Lexes depth (c :: rest) (t :: ts) := by
  refine .token ?_ ?_ ?_ (Nat.le_refl _) h
  · rintro rfl
    cases hmark
  · rintro rfl
    cases hmark
  · rw [readToken?.eq_def, hmark]

/-! ### Ends of tokens -/

/-- A text that cannot continue a value before it: it is empty, or starts with a mark. -/
def Stops (rest : List Char) : Prop :=
  ∀ c, rest.head? = some c → (mark? c).isSome = true

/-- An empty text continues nothing. -/
theorem Stops.nil : Stops [] := by
  intro c hc
  cases hc

theorem Stops.cons {c : Char} (h : (mark? c).isSome = true) (rest : List Char) :
    Stops (c :: rest) := by
  intro d hd
  rwa [← Option.some.inj hd]

/-- The characters that are tokens by themselves. -/
def marks : List Char :=
  ['(', '[', '\x7b', ')', ']', '\x7d', ',', ':']

theorem mem_marks {c : Char} (h : (mark? c).isSome = true) : c ∈ marks := by
  simp only [mark?, Bracket.ofOpening?, beq_iff_eq] at h
  simp only [marks, List.mem_cons, List.not_mem_nil, or_false]
  grind

/-- What holds of all marks holds of the first character. -/
theorem Stops.of_all {p : Char → Bool} (hmarks : marks.all p = true) (hrest : Stops rest)
    {c : Char} (hc : rest.head? = some c) : p c = true :=
  List.all_eq_true.mp hmarks c (mem_marks (hrest c hc))

/-- A class without marks ends where the value ends. -/
theorem takeWhile_append_of_stops {p : Char → Bool} {w : List Char} (hw : ∀ c ∈ w, p c = true)
    (hmarks : marks.all (fun c => !p c) = true) (hrest : Stops rest) :
    (w ++ rest).takeWhile p = w ∧ (w ++ rest).dropWhile p = rest := by
  apply Text.takeWhile_append_of_ends hw
  intro c hc
  simpa using hrest.of_all hmarks hc

/-! ### Values that are one token -/

/-- In front of a text that cannot continue it, and inside `least` brackets or more, the text has
    these tokens.  It can be cut into lines at newlines only. -/
structure Yields (least : Nat) (text : List Char) (ts : List Token) : Prop where
  lexes : ∀ {depth rest more}, least ≤ depth → Stops rest → Lexes depth rest more →
    Lexes depth (text ++ rest) (ts ++ more)
  breaks : ∀ c ∈ text, isLineBreak c = true → c = '\n'

/-- The text has these tokens and does not end with a newline. -/
structure Shows (least : Nat) (text : List Char) (ts : List Token) : Prop
    extends Yields least text ts where
  ends : text.getLast? ≠ some '\n'

/-- An empty text has no tokens and no lines. -/
theorem Yields.nil (least : Nat) : Yields least [] [] where
  lexes := fun _ _ hmore => hmore
  breaks := fun _ hc => by cases hc

/-- What is read inside some brackets is read inside more. -/
theorem Shows.mono {least least' : Nat} (hle : least ≤ least') {text : List Char}
    (h : Shows least text ts) : Shows least' text ts where
  lexes := fun hdepth => h.lexes (Nat.le_trans hle hdepth)
  breaks := h.breaks
  ends := h.ends

/-- A text that is one token. -/
theorem Shows.single {c : Char} {cs : List Char} {t : Token} (hspace : c ≠ ' ')
    (hbreaks : ∀ d ∈ c :: cs, isLineBreak d = false) (hdepth : ∀ depth, t.depthAfter depth = depth)
    (hread : ∀ rest, Stops rest → readToken? c (cs ++ rest) = some (t, rest)) :
    Shows 0 (c :: cs) [t] where
  lexes := by
    intro depth rest more _ hrest hmore
    -- a newline would end a line
    have hnewline : c ≠ '\n' := by
      rintro rfl
      exact absurd (hbreaks '\n' List.mem_cons_self) (by decide)
    refine .token hspace hnewline (hread rest hrest) (by simp) ?_
    rwa [hdepth]
  breaks := by
    intro d hd hbreak
    rw [hbreaks d hd] at hbreak
    cases hbreak
  ends := by
    intro hlast
    exact absurd (hbreaks '\n' (List.mem_of_getLast? hlast)) (by decide)

/-- Whether a token that starts with the character is a word. -/
def opensWord (c : Char) : Bool :=
  (mark? c).isNone && !isQuote c && !isAsciiDigit c && c != '-' && c != 'b' && c != ' '

/-- A word is read up to a mark. -/
private theorem readToken?_word {c : Char} {cs : List Char} {t : Token}
    (hopens : opensWord c = true) (hword : ∀ d ∈ c :: cs, isWordChar d = true)
    (ht : wordToken? (String.ofList (c :: cs)) = some t) (hrest : Stops rest) :
    readToken? c (cs ++ rest) = some (t, rest) := by
  obtain ⟨htake, hdrop⟩ := takeWhile_append_of_stops hword (by decide) hrest
  rw [List.cons_append] at htake hdrop
  simp only [opensWord, Bool.and_eq_true, Option.isNone_iff_eq_none, Bool.not_eq_true',
    bne_iff_ne] at hopens
  obtain ⟨⟨⟨⟨⟨hmark, hquote⟩, hdigit⟩, hsign⟩, hbytes⟩, -⟩ := hopens
  -- none of the other kinds of token starts like this
  rw [readToken?, hmark]
  · simp only [hquote, hdigit, beq_false_of_ne hsign, Bool.false_eq_true, if_false, htake, hdrop,
      ht]
    rfl
  · exact fun _ hb => absurd hb hbytes
  · exact fun _ hb => absurd hb hbytes

/-- A word is one token. -/
theorem Shows.word {word : String} {t : Token} (h : wordToken? word = some t) :
    Shows 0 word.toList [t] := by
  -- what the words have in common
  have hshows : word.toList.head?.any opensWord = true →
      word.toList.all (fun d => isWordChar d && !isLineBreak d) = true →
      (∀ depth, t.depthAfter depth = depth) → Shows 0 word.toList [t] := by
    intro hopens hword hdepth
    rw [← String.ofList_toList (s := word)] at h
    cases hcs : word.toList with
    | nil => simp [hcs] at hopens
    | cons c cs =>
      rw [hcs] at h hopens hword
      rw [List.head?_cons, Option.any_some] at hopens
      simp only [List.all_eq_true, Bool.and_eq_true, Bool.not_eq_true'] at hword
      have hspace : c ≠ ' ' := by
        rintro rfl
        exact absurd hopens (by decide)
      exact .single hspace (fun d hd => (hword d hd).2) hdepth fun rest hrest =>
        readToken?_word hopens (fun d hd => (hword d hd).1) h hrest
  -- there are five of them
  rw [wordToken?.eq_def] at h
  split at h <;> cases h
  · exact hshows (by decide) (by decide) fun _ => rfl
  · exact hshows (by decide) (by decide) fun _ => rfl
  · exact hshows (by decide) (by decide) fun _ => rfl
  · exact hshows (by decide) (by decide) fun _ => rfl
  · exact hshows (by decide) (by decide) fun _ => rfl

/-! ### Numbers -/

/-- A number is read up to a mark. -/
theorem readNumber?_toDigits (negative : Bool) {n : Nat}
    (hshort : (Nat.toDigits 10 n).length ≤ Json.maxIntDigits) (hrest : Stops rest) :
    readNumber? negative (Nat.toDigits 10 n ++ rest) =
      some (.atom (.int (if negative then -(n : Int) else n)), rest) := by
  have hdigits : ∀ c ∈ Nat.toDigits 10 n, isAsciiDigit c = true :=
    fun _ => Json.isAsciiDigit_of_mem_toDigits
  obtain ⟨htake, hdrop⟩ := takeWhile_append_of_stops hdigits (by decide) hrest
  obtain ⟨d, ds, -, hds⟩ := Json.toDigits_cons n
  have hzero : ((Nat.toDigits 10 n).head? == some '0' && Nat.toDigits 10 n != ['0']) = false := by
    rw [hds, List.head?_cons]
    -- only zero starts with a zero
    by_cases hd : d = '0'
    · subst hd
      rw [Json.toDigits_of_head_zero hds]
      rfl
    · simp [hd]
  have hends : rest.head?.all endsNumber = true := by
    cases rest with
    | nil => rfl
    | cons c rest => exact hrest.of_all (p := endsNumber) (by decide) rfl
  have hempty : (Nat.toDigits 10 n).isEmpty = false := by rw [hds]; rfl
  simp only [readNumber?, htake, hdrop, hzero, hends, hempty, Json.digitsValue_toDigits]
  rw [if_neg (by simp; omega)]

/-- A digit ends no line. -/
theorem isLineBreak_of_isAsciiDigit {c : Char} (h : isAsciiDigit c = true) :
    isLineBreak c = false := by
  have hcode : 48 ≤ c.toNat ∧ c.toNat ≤ 57 := by
    rw [isAsciiDigit, Bool.and_eq_true, decide_eq_true_eq, decide_eq_true_eq] at h
    exact h
  simp only [isLineBreak, Text.CodeRange.covers, List.any_cons, List.any_nil,
    Bool.or_eq_false_iff, Bool.and_eq_false_iff, decide_eq_false_iff_not, and_true]
  omega

/-- What starts with a digit is a number. -/
private theorem readToken?_digit {d : Char} (hd : isAsciiDigit d = true) (rest : List Char) :
    readToken? d rest = readNumber? false (d :: rest) := by
  -- a digit is none of the other signs
  have hne : ∀ c, isAsciiDigit c = false → d ≠ c := by
    rintro c hc rfl
    rw [hd] at hc
    cases hc
  have hmark : mark? d = none := by
    rw [← Option.not_isSome_iff_eq_none]
    intro hsome
    have hall : marks.all (fun c => !isAsciiDigit c) = true := by decide
    have hdigit := List.all_eq_true.mp hall d (mem_marks hsome)
    rw [hd] at hdigit
    cases hdigit
  have hquote : isQuote d = false := by simp [isQuote, hne '\'' rfl, hne '"' rfl]
  rw [readToken?.eq_def, hmark]
  simp only [hquote, hd, beq_false_of_ne (hne '-' rfl), Bool.false_eq_true, if_false, if_true]

/-- A number without a sign is one token. -/
private theorem shows_nat {n : Nat} (hshort : (Nat.toDigits 10 n).length ≤ Json.maxIntDigits) :
    Shows 0 (Nat.toDigits 10 n) [.atom (.int n)] := by
  obtain ⟨d, ds, hd, hds⟩ := Json.toDigits_cons n
  have hread := fun rest (hrest : Stops rest) => readNumber?_toDigits false hshort hrest
  have hbreaks : ∀ c ∈ Nat.toDigits 10 n, isLineBreak c = false :=
    fun c hc => isLineBreak_of_isAsciiDigit (Json.isAsciiDigit_of_mem_toDigits hc)
  rw [hds] at hread hbreaks ⊢
  refine .single ?_ hbreaks (fun _ => rfl) fun rest hrest => ?_
  · rintro rfl
    cases hd
  · rw [readToken?_digit hd]
    exact hread rest hrest

/-- A whole number is one token. -/
theorem Shows.int {n : Int} (h : Json.isShort n = true) :
    Shows 0 (toString n).toList [.atom (.int n)] := by
  rw [Json.isShort, decide_eq_true_iff] at h
  obtain ⟨m, rfl | rfl⟩ := n.eq_nat_or_neg
  · rw [Int.natAbs_natCast] at h
    rw [Json.toList_toString_natCast]
    exact shows_nat h
  · rw [Int.natAbs_neg, Int.natAbs_natCast] at h
    cases m with
    | zero =>
      -- minus zero is zero and has no sign
      exact shows_nat h
    | succ m =>
      -- the sign, and the digits behind it
      rw [Json.toList_toString_neg]
      refine .single (by decide) ?_ (fun _ => rfl) fun rest hrest => ?_
      · intro c hc
        rcases List.mem_cons.mp hc with rfl | hc
        · rfl
        · exact isLineBreak_of_isAsciiDigit (Json.isAsciiDigit_of_mem_toDigits hc)
      · exact readNumber?_toDigits true h hrest

/-! ### Strings -/

variable {quote : Char}

/-- There are two quotes. -/
theorem eq_of_isQuote (hquote : isQuote quote = true) : quote = '\'' ∨ quote = '"' := by
  simpa [isQuote] using hquote

/-- A mark is no quote. -/
theorem Stops.head?_ne (hrest : Stops rest) (hquote : isQuote quote = true) :
    rest.head? ≠ some quote := by
  intro hhead
  have hmark := hrest quote hhead
  rcases eq_of_isQuote hquote with rfl | rfl <;> cases hmark

/-- A string whose characters end no line ends none. -/
private theorem breaks_body (hquote : isQuote quote = true) {α : Type} {f : α → List Char}
    {xs : List α} (h : ∀ x ∈ xs, ∀ c ∈ f x, isLineBreak c = false) :
    ∀ c ∈ quote :: (xs.flatMap f ++ [quote]), isLineBreak c = false := by
  intro c hc
  rw [List.mem_cons, List.mem_append, List.mem_singleton, List.mem_flatMap] at hc
  rcases hc with rfl | ⟨x, hx, hc⟩ | rfl
  · exact isLineBreak_quote hquote
  · exact h x hx c hc
  · exact isLineBreak_quote hquote

/-- A string between its quotes is one token. -/
private theorem shows_quoteChar (hquote : isQuote quote = true) (s : List Char) :
    Shows 0 (quote :: (s.flatMap (quoteChar quote) ++ [quote]))
      [.atom (.str (String.ofList s))] := by
  refine .single ?_ (breaks_body hquote fun c _ => breaks_quoteChar hquote c) (fun _ => rfl)
    fun rest hrest => ?_
  · rintro rfl
    cases hquote
  · have hbody := readQuoted?_quoteChar hquote s (hrest.head?_ne hquote)
    rw [List.append_assoc, List.singleton_append, readToken?.eq_def]
    rcases eq_of_isQuote hquote with rfl | rfl <;> simp only [hbody] <;> rfl

/-- A byte string with its letter is one token. -/
private theorem shows_quoteByte (hquote : isQuote quote = true) (bytes : List UInt8) :
    Shows 0 ('b' :: quote :: (bytes.flatMap (quoteByte quote) ++ [quote]))
      [.atom (.bytes bytes)] := by
  refine .single (by decide) ?_ (fun _ => rfl) fun rest hrest => ?_
  · intro c hc
    rcases List.mem_cons.mp hc with rfl | hc
    · rfl
    · exact breaks_body hquote (fun b _ => breaks_quoteByte hquote b) c hc
  · have hbody := readQuoted?_quoteByte hquote bytes (hrest.head?_ne hquote)
    -- the characters that are read are the bytes again
    have hbytes : (bytes.map fun b => Char.ofNat b.toNat).map (fun c => c.toNat.toUInt8) =
        bytes := by
      rw [List.map_map]
      refine List.map_id'' (fun b => ?_) bytes
      rw [Function.comp_apply, toNat_ofNat_byte]
      exact UInt8.ofNat_toNat
    have htoken : readToken?.bytesToken quote (bytes.flatMap (quoteByte quote) ++ quote :: rest) =
        some (.atom (.bytes bytes), rest) := by
      rw [readToken?.bytesToken, hbody]
      simp only [Option.bind_eq_bind, Option.bind_some, hbytes]
      rfl
    rw [List.cons_append, List.append_assoc, List.singleton_append]
    rcases eq_of_isQuote hquote with rfl | rfl <;> exact htoken

/-- A string is one token. -/
theorem Shows.str (s : String) : Shows 0 (Text.quoteString s).toList [.atom (.str s)] := by
  rw [Text.quoteString, String.toList_ofList]
  have hshows := shows_quoteChar (isQuote_quoteFor s.toList) s.toList
  rwa [String.ofList_toList] at hshows

/-- A byte string is one token. -/
theorem Shows.bytes (bytes : List UInt8) :
    Shows 0 (Text.quoteBytes bytes).toList [.atom (.bytes bytes)] := by
  rw [Text.quoteBytes, String.toList_ofList]
  exact shows_quoteByte (isQuote_quoteFor _) bytes

/-! ### Texts put together -/

/-- A text can go on with a mark. -/
theorem Shows.append {least : Nat} {a cs : List Char} {c : Char} {ts us : List Token}
    (ha : Shows least a ts) (hc : (mark? c).isSome = true) (hb : Shows least (c :: cs) us) :
    Shows least (a ++ c :: cs) (ts ++ us) where
  -- the mark stops the last token of the first text
  lexes := by
    intro depth rest more hdepth hrest hmore
    rw [List.append_assoc, List.append_assoc]
    exact ha.lexes hdepth (.cons hc (cs ++ rest)) (hb.lexes hdepth hrest hmore)
  breaks := by
    intro d hd
    rcases List.mem_append.mp hd with hd | hd
    · exact ha.breaks d hd
    · exact hb.breaks d hd
  ends := by
    rw [List.getLast?_append, List.getLast?_cons, Option.some_or, ← List.getLast?_cons]
    exact hb.ends

/-- A mark ends no line. -/
private theorem isLineBreak_of_mark? {c : Char} {t : Token} (h : mark? c = some t) :
    isLineBreak c = false := by
  have hall : marks.all (fun c => !isLineBreak c) = true := by decide
  have hbreak := List.all_eq_true.mp hall c (mem_marks (by rw [h]; rfl))
  simpa using hbreak

/-- The character that closes a bracket. -/
def closing : Bracket → Char
  | .round => ')'
  | .square => ']'
  | .curly => '\x7d'

theorem mark?_opening (bracket : Bracket) : mark? bracket.opening = some (.opening bracket) := by
  cases bracket <;> rfl

theorem mark?_closing (bracket : Bracket) : mark? (closing bracket) = some (.closing bracket) := by
  cases bracket <;> rfl

/-- A display is its inside between two marks. -/
theorem Shows.display (bracket : Bracket) {inner : List Char} (h : Yields 1 inner ts) :
    Shows 0 (bracket.opening :: (inner ++ [closing bracket]))
      (.opening bracket :: (ts ++ [.closing bracket])) where
  lexes := by
    intro depth rest more _ _ hmore
    simp only [List.cons_append, List.append_assoc, List.nil_append]
    -- the inside is one bracket deeper, and the mark that closes it stops its last token
    refine .mark (mark?_opening bracket) (h.lexes (Nat.le_add_left 1 depth) (.cons ?_ rest) ?_)
    · rw [mark?_closing]
      rfl
    · exact .mark (mark?_closing bracket) hmore
  breaks := by
    intro d hd hbreak
    rw [List.mem_cons, List.mem_append, List.mem_singleton] at hd
    rcases hd with rfl | hd | rfl
    · rw [isLineBreak_of_mark? (mark?_opening bracket)] at hbreak
      cases hbreak
    · exact h.breaks d hd hbreak
    · rw [isLineBreak_of_mark? (mark?_closing bracket)] at hbreak
      cases hbreak
  ends := by
    intro hlast
    rw [← List.cons_append, List.getLast?_concat] at hlast
    have hbreak := isLineBreak_of_mark? (mark?_closing bracket)
    rw [Option.some.inj hlast] at hbreak
    cases hbreak

/-- The name of a class, and what stands in parentheses behind it. -/
theorem Shows.call {word : String} {t : Token} (hword : wordToken? word = some t)
    {inner : List Char} (h : Yields 1 inner ts) :
    Shows 0 (word.toList ++ '(' :: (inner ++ [')']))
      (t :: .opening .round :: (ts ++ [.closing .round])) :=
  (Shows.word hword).append rfl (.display .round h)

end ReplEngine.Literal
