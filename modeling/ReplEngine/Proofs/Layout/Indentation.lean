import ReplEngine.Proofs.Layout.Parts
import ReplEngine.Proofs.Text.Hanging

/-!
# Indentation

A value that does not fit on a line is laid out as a block: a first line that opens brackets, the
parts on lines of their own one step deeper, and a last line that closes the brackets at the level
of the value.  Only the first line of a part is indented by the block that holds it.  Its further
lines are where they belong because the part was laid out for its level, and this is the invariant
here: the lines behind the first of a text for a level are indented by that level at least.

## Key results

- `laid_of_assembled`: a value is laid out if its parts hang by its level and one
- `exists_laid`: every ordinary value is laid out
- `render_indents_lines`: where the lines of its text start
-/

namespace ReplEngine

open Text (isOneLine isLineBreak Hangs)

/-! ### Primitives are on one line -/

namespace Value

/-- Digits are on one line. -/
theorem isOneLine_toDigits (n : Nat) : isOneLine (Nat.toDigits 10 n) = true :=
  Text.isOneLine_of_forall fun _ hc =>
    Literal.isLineBreak_of_isAsciiDigit (Json.isAsciiDigit_of_mem_toDigits hc)

/-- Whole numbers are on one line. -/
theorem isOneLine_toString (n : Int) : isOneLine (toString n).toList = true := by
  obtain ⟨m, rfl | rfl⟩ := n.eq_nat_or_neg
  · rw [Json.toList_toString_natCast, isOneLine_toDigits]
  · -- only zero has no sign here
    cases m with
    | zero => decide
    | succ m =>
      rw [Json.toList_toString_neg, Text.isOneLine_cons, isOneLine_toDigits]
      decide

/-- What is spelled character by character is on one line if no spelling breaks it. -/
theorem isOneLine_flatMap {α : Type} {f : α → List Char} {xs : List α}
    (h : ∀ x ∈ xs, ∀ c ∈ f x, isLineBreak c = false) : isOneLine (xs.flatMap f) = true := by
  apply Text.isOneLine_of_forall
  intro c hc
  obtain ⟨x, hx, hc⟩ := List.mem_flatMap.mp hc
  exact h x hx c hc

/-- A quoted text is on one line, since line ends are escaped in it. -/
theorem isOneLine_quoteString (s : String) : isOneLine (Text.quoteString s).toList = true := by
  have hquote := Literal.isQuote_quoteFor s.toList
  have hbody := isOneLine_flatMap fun c (_ : c ∈ s.toList) => Literal.breaks_quoteChar hquote c
  simp [Text.quoteString, Text.quoted, hbody, Literal.isLineBreak_quote hquote]

theorem isOneLine_quoteBytes (b : List UInt8) : isOneLine (Text.quoteBytes b).toList = true := by
  have hquote := Literal.isQuote_quoteFor (b.map fun x => Char.ofNat x.toNat)
  have hbody := isOneLine_flatMap fun x (_ : x ∈ b) => Literal.breaks_quoteByte hquote x
  have hmark : isLineBreak 'b' = false := by decide
  simp [Text.quoteBytes, hbody, hmark, Literal.isLineBreak_quote hquote]

/-- Zeros are on one line. -/
theorem isOneLine_zeros (n : Nat) : isOneLine (Decimal.zeros n) = true := by
  apply Text.isOneLine_of_forall
  intro c hc
  rw [List.eq_of_mem_replicate hc]
  decide

/-- A decimal number is on one line, whether it has an exponent or not. -/
theorem isOneLine_scaledText (d : Decimal.Scaled) (wholePoint : Bool) :
    isOneLine (d.text wholePoint).toList = true := by
  have hdigits := isOneLine_toDigits d.digits
  have htake : ∀ n, isOneLine ((Nat.toDigits 10 d.digits).take n) = true :=
    fun n => Text.isOneLine_of_sublist (List.take_sublist _ _) hdigits
  have hdrop : ∀ n, isOneLine ((Nat.toDigits 10 d.digits).drop n) = true :=
    fun n => Text.isOneLine_of_sublist (List.drop_sublist _ _) hdigits
  have hpoint : isLineBreak '.' = false := by decide
  have hzero : isLineBreak '0' = false := by decide
  have hmark : isLineBreak 'e' = false := by decide
  -- the exponent always has a sign
  have hsign : ∀ e : Int, isLineBreak (if e < 0 then '-' else '+') = false := by
    intro e
    -- along the forms: zeros before the digits, behind them, or a point among them
    split <;> decide
  rw [Decimal.Scaled.text, String.toList_ofList]
  dsimp only
  split
  · split
    · simp [hpoint, hzero, hdigits, isOneLine_zeros]
    · split
      · cases wholePoint <;> simp [hpoint, hzero, hdigits, isOneLine_zeros]
      · simp [hpoint, htake, hdrop]
  · simp only [Text.isOneLine_append, Text.isOneLine_cons, htake, hmark, hsign, isOneLine_zeros,
      isOneLine_toDigits, Bool.not_false, Bool.and_true, Bool.true_and]
    -- the digits behind the point, if there are any
    split
    · rfl
    · rw [Text.isOneLine_cons, hdrop, hpoint]
      rfl

/-- Floating point numbers are on one line. -/
theorem isOneLine_floatText (x : Float) (wholePoint : Bool) :
    isOneLine (Decimal.floatText x wholePoint).toList = true := by
  -- a sign breaks no line
  have hsigned : ∀ (negative : Bool) {s : String}, isOneLine s.toList = true →
      isOneLine (if negative then "-" ++ s else s).toList = true := by
    intro negative s hs
    cases negative with
    | false => exact hs
    | true =>
      rw [if_pos rfl, Text.isOneLine_toList_append, hs]
      decide
  unfold Decimal.floatText
  split
  · decide
  · exact hsigned _ (by decide)
  · exact hsigned _ (by cases wholePoint <;> decide)
  · exact hsigned _ (isOneLine_scaledText _ _)

/-- Complex numbers are on one line. -/
theorem isOneLine_complexText (re im : Float) : isOneLine (complexText re im).toList = true := by
  have hpart : ∀ x, isOneLine (Decimal.floatText x false).toList = true :=
    fun x => isOneLine_floatText x false
  -- the imaginary part always has a sign
  have hsigned : ∀ x, isOneLine (if (Decimal.floatText x false).toList.head? == some '-' then
      Decimal.floatText x false else "+" ++ Decimal.floatText x false).toList = true := by
    intro x
    split
    · exact hpart x
    · rw [Text.isOneLine_toList_append, hpart]
      decide
  have hmarks : isOneLine "(".toList = true ∧ isOneLine "j".toList = true ∧
      isOneLine "j)".toList = true := by decide
  rw [complexText]
  dsimp only
  split
  · rw [Text.isOneLine_toList_append, hpart, hmarks.2.1]
    rfl
  · rw [Text.isOneLine_toList_append, Text.isOneLine_toList_append, Text.isOneLine_toList_append,
      hpart, hsigned, hmarks.1, hmarks.2.2]
    rfl

/-- Whether a value is data with the names of classes and fields on one line each. -/
def isOrdinary (v : Value) : Bool :=
  v.isData && v.words.all fun word => isOneLine word.toList

/-- Whether a value is ordinary does not depend on its parts. -/
theorem isOrdinary_hollow (v : Value) : v.hollow.isOrdinary = v.isOrdinary := by
  unfold hollow
  fun_cases apart v <;> simp [isOrdinary, isData, words, Function.comp_def]

/-- The names in an ordinary value are on one line. -/
theorem isOneLine_of_mem_words {v : Value} (h : v.isOrdinary = true) {word : String}
    (hword : word ∈ v.words) : isOneLine word.toList = true := by
  rw [isOrdinary, Bool.and_eq_true, List.all_eq_true] at h
  exact h.2 word hword

/-- An owner without fields is on one line. -/
theorem isOneLine_enclose_nil {name : String} (h : isOneLine name.toList = true) :
    isOneLine (enclose (name ++ "(") ")" []).toList = true := by
  have hmarks : isOneLine "(".toList = true ∧ isOneLine ")".toList = true := by decide
  rw [enclose, Text.isOneLine_toList_append, Text.isOneLine_toList_append,
    Text.isOneLine_toList_append, h, hmarks.1, hmarks.2]
  rfl

/-- Data without parts is described on one line. -/
theorem isOneLine_repr {v : Value} {text : String} (hv : v.isOrdinary = true)
    (hparts : v.parts = []) (h : v.repr = .ok text) : isOneLine text.toList = true := by
  have hwords : ∀ word ∈ v.words, isOneLine word.toList = true :=
    fun _ => isOneLine_of_mem_words hv
  -- along the kinds of data; of the collections only the empty ones are left
  cases v <;> simp only [isOrdinary, isData, Bool.false_and, Bool.false_eq_true] at hv
  all_goals
    simp only [parts, apart, List.append_eq_nil_iff, List.map_eq_nil_iff, and_self] at hparts
  all_goals try subst hparts
  all_goals cases h
  case int n => exact isOneLine_toString n
  case float x => exact isOneLine_floatText x true
  case complex re im => exact isOneLine_complexText re im
  case str s => exact isOneLine_quoteString s
  case bytes b => exact isOneLine_quoteBytes b
  case bool b => cases b <;> decide
  case namedTuple name => exact isOneLine_enclose_nil (hwords name (by simp [words]))
  case dataclass name => exact isOneLine_enclose_nil (hwords name (by simp [words]))
  all_goals decide

end Value

namespace Layout

open Value (PartAt)

/-- An ordinary value without parts is shown on one line. -/
theorem isOneLine_leafText {v : Value} {text : String} (hv : v.isOrdinary = true)
    (hparts : v.parts = []) (h : leafText v = .ok text) : isOneLine text.toList = true := by
  apply Value.isOneLine_repr hv hparts
  unfold leafText at h
  split at h
  all_goals first | exact h | simp [Value.isOrdinary, Value.isData] at hv

/-! ### Texts that are laid out -/

/-- The text of a value at a level, with `step` blanks for each level: it is on one line, or there
    are lines one level deeper and a last one, at the level itself, that closes brackets. -/
inductive Laid (step level : Nat) : List Char → Prop where
  | line {cs : List Char} (h : isOneLine cs = true) : Laid step level cs
  | block {head body closing : List Char} (hhead : isOneLine head = true)
    (hbody : Hangs (step * (level + 1)) ('\n' :: body)) (hclosing : closing ≠ [])
    (hbrackets : ∀ c ∈ closing, Scan.isClosing c = true) :
    Laid step level
      (head ++ ('\n' :: body ++ '\n' :: (List.replicate (step * level) ' ' ++ closing)))

section Laid

variable {step level : Nat} {cs : List Char}

/-- A closing bracket ends no line. -/
theorem isLineBreak_of_isClosing {c : Char} (h : Scan.isClosing c = true) :
    isLineBreak c = false := by
  simp only [Scan.isClosing, Bool.or_eq_true, beq_iff_eq] at h
  rcases h with (rfl | rfl) | rfl <;> decide

theorem isOneLine_closing {closing : List Char}
    (h : ∀ c ∈ closing, Scan.isClosing c = true) : isOneLine closing = true :=
  Text.isOneLine_of_forall fun c hc => isLineBreak_of_isClosing (h c hc)

/-- All lines behind the first are indented by the level at least. -/
theorem Laid.hangs (h : Laid step level cs) : Hangs (step * level) cs := by
  cases h with
  | line h => exact Text.hangs_of_isOneLine h
  | block hhead hbody hclosing hbrackets =>
    have hdeeper : step * level ≤ step * (level + 1) := Nat.mul_le_mul_left _ (by omega)
    -- the last line is indented by the level, and the lines before it by more
    have hlast := Text.hangs_newline (m := step * level) hclosing
      (Text.hangs_of_isOneLine (isOneLine_closing hbrackets))
    exact (Text.hangs_of_isOneLine hhead).append ((hbody.mono hdeeper).append hlast)

/-- A lead on one line goes before the first line. -/
theorem Laid.prepend {lead : List Char} (hlead : isOneLine lead = true) (h : Laid step level cs) :
    Laid step level (lead ++ cs) := by
  cases h with
  | line h => exact .line (by simp [hlead, h])
  | block hhead hbody hclosing hbrackets =>
    rw [← List.append_assoc]
    exact .block (by simp [hlead, hhead]) hbody hclosing hbrackets

/-- A bracket closes the last line. -/
theorem Laid.close (h : Laid step level cs) {c : Char} (hc : Scan.isClosing c = true) :
    Laid step level (cs ++ [c]) := by
  cases h with
  | line h => exact .line (by simp [h, isLineBreak_of_isClosing hc])
  | @block head body closing hhead hbody hclosing hbrackets =>
    -- the new bracket joins those of the last line
    have hmore : ∀ d ∈ closing ++ [c], Scan.isClosing d = true := by
      intro d hd
      rcases List.mem_append.mp hd with hd | hd
      · exact hbrackets d hd
      · rwa [List.mem_singleton.mp hd]
    have hblock := Laid.block hhead hbody (List.append_ne_nil_of_left_ne_nil hclosing [c]) hmore
    simpa using hblock

end Laid

section Arranged

variable {opening closing trailing : String} {parts : List String} {c : Char}

/-- Parts joined on one line hang as the parts do. -/
theorem hangs_inline {m : Nat} (hopening : isOneLine opening.toList = true)
    (hclosing : isOneLine closing.toList = true) (htrailing : isOneLine trailing.toList = true)
    (hparts : ∀ p ∈ parts, Hangs m p.toList) :
    Hangs m (opening ++ String.intercalate ", " parts ++ trailing ++ closing).toList := by
  have hjoined : Hangs m (", ".toList.intercalate (parts.map String.toList)) := by
    apply Hangs.intercalate (by decide)
    simpa using hparts
  rw [String.toList_append, String.toList_append, String.toList_append, String.toList_intercalate]
  exact (((Text.hangs_of_isOneLine hopening).append hjoined).append
    (Text.hangs_of_isOneLine htrailing)).append (Text.hangs_of_isOneLine hclosing)

/-- What fits has no newline, and so it is on one line if all its line ends are newlines. -/
theorem isOneLine_of_fits (l : Layout) {level : Int} {m : Nat} {line : String}
    (h : Hangs m line.toList) (hfits : l.fits level line = true) :
    isOneLine line.toList = true := by
  rw [fits, Bool.and_eq_true] at hfits
  exact Text.isOneLine_of_breaks h.breaks (by simpa using hfits.1)

/-- The first line of each part is indented by the block, and the others hang as deep already. -/
theorem laid_block (l : Layout) (level : Nat) (hopening : isOneLine opening.toList = true)
    (hclosing : closing.toList = [c]) (hc : Scan.isClosing c = true) (hne : parts ≠ [])
    (hparts : ∀ p ∈ parts, Hangs (l.step * (level + 1)) p.toList) :
    Laid l.step level (l.block level opening closing parts).toList := by
  -- each part is on lines of its own, with a comma behind it
  have hlines : (parts.map (l.blockPart level)).map String.toList =
      (parts.map fun p => p.toList ++ [',']).map fun p =>
        List.replicate (l.step * (level + 1)) ' ' ++ p := by
    rw [List.map_map, List.map_map]
    apply List.map_congr_left
    intro p hp
    exact l.toList_blockPart level (hparts p hp).breaks (hparts p hp).ends
  -- so the parts hang one level deeper
  have hbody : Hangs (l.step * (level + 1))
      ('\n' :: ['\n'].intercalate ((parts.map (l.blockPart level)).map String.toList)) := by
    rw [hlines]
    apply Text.hangs_intercalate (by simpa using hne)
    intro q hq
    obtain ⟨p, hp, rfl⟩ := List.mem_map.mp hq
    exact ⟨by simp, (hparts p hp).append (Text.hangs_of_isOneLine (by decide))⟩
  have hlast : ∀ d ∈ [c], Scan.isClosing d = true := by
    simpa using hc
  have htext : (l.block level opening closing parts).toList = opening.toList ++
      ('\n' :: ['\n'].intercalate ((parts.map (l.blockPart level)).map String.toList) ++
        '\n' :: (List.replicate (l.step * level) ' ' ++ [c])) := by
    simp [block, indent, Text.spaces, String.toList_intercalate, hclosing]
  rw [htext]
  exact .block hopening hbody (List.cons_ne_nil c []) hlast

/-- Parts that hang by one level more are laid out between brackets. -/
theorem laid_arrange (l : Layout) (level : Nat) (hopening : isOneLine opening.toList = true)
    (hclosing : closing.toList = [c]) (hc : Scan.isClosing c = true)
    (htrailing : isOneLine trailing.toList = true)
    (hparts : ∀ p ∈ parts, Hangs (l.step * (level + 1)) p.toList) :
    Laid l.step level (l.arrange level opening closing trailing parts).toList := by
  have hclose : isOneLine closing.toList = true := by
    simp [hclosing, isLineBreak_of_isClosing hc]
  unfold arrange
  dsimp only
  split
  · -- there are no parts
    exact .line (by simp [hopening, hclose])
  · next hne =>
    split
    · next hfits =>
      have hinline := hangs_inline hopening hclose htrailing hparts
      exact .line (isOneLine_of_fits l hinline hfits)
    · -- what does not fit becomes a block
      exact laid_block l level hopening hclosing hc (by simpa using hne) hparts

end Arranged

/-- A value is laid out if its parts hang by one level more. -/
theorem laid_of_assembled {l : Layout} {level : Nat} {v : Value} {text : String}
    (hv : v.isOrdinary = true)
    (h : Assembled l level (fun part => Hangs (l.step * (level + 1)) part.toList) v text) :
    Laid l.step level text.toList := by
  have hwords : ∀ word ∈ v.words, isOneLine word.toList = true :=
    fun _ => Value.isOneLine_of_mem_words hv
  -- along the ways in which a text is put together
  induction h with
  | leaf hparts htext => exact .line (isOneLine_leafText hv hparts htext)
  | items hmarks htexts =>
    simp only [List.mem_cons, Prod.mk.injEq, List.not_mem_nil, or_false] at hmarks
    rcases hmarks with ⟨rfl, rfl, rfl⟩ | ⟨rfl, rfl, rfl⟩ | ⟨rfl, rfl, rfl⟩ | ⟨rfl, rfl, rfl⟩
    all_goals exact laid_arrange l level (by decide) rfl (by decide) (by decide) htexts
  | entries hpairs =>
    apply laid_arrange l level (by decide) rfl (by decide) (by decide)
    intro part hpart
    obtain ⟨p, hp, rfl⟩ := List.mem_map.mp hpart
    rw [Value.entryText, String.toList_append, String.toList_append]
    exact ((hpairs p hp).1.append (Text.hangs_of_isOneLine (by decide))).append (hpairs p hp).2
  | fields howner hpairs =>
    rw [String.toList_append]
    apply Laid.prepend (hwords _ howner)
    apply laid_arrange l level (by decide) rfl (by decide) (by decide)
    intro part hpart
    obtain ⟨p, hp, rfl⟩ := List.mem_map.mp hpart
    have hname := hwords p.1 (hpairs p hp).1
    rw [String.toList_append, String.toList_append]
    exact ((Text.hangs_of_isOneLine hname).append (Text.hangs_of_isOneLine (by decide))).append
      (hpairs p hp).2
  | noMembers hname =>
    apply Laid.line
    rw [Text.isOneLine_toList_append, hwords _ hname]
    decide
  | wrapped hlead _ ih =>
    rw [String.toList_append, String.toList_append]
    exact (ih.prepend (hwords _ hlead)).close rfl

/-- Ordinary values are laid out, at any level and in any layout. -/
theorem exists_laid (l : Layout) {v : Value} {level : Nat}
    (h : ∀ n x, PartAt n v x → x.isOrdinary = true) :
    ∃ text, l.render level v = .ok text ∧ Laid l.step level text.toList := by
  -- on the parts of the value; the level varies
  induction v using Value.parts_induction generalizing level with
  | h v ih =>
    rw [Value.forall_partAt_iff] at h
    by_cases hlevel : l.maxDepth < level
    · exact ⟨_, render_of_deep l hlevel v, .line (by decide)⟩
    · -- one level down the parts are laid out, so that they hang by that level
      have hparts : ∀ p ∈ v.parts, ∃ text, l.render ((level : Int) + 1) p = .ok text ∧
          Hangs (l.step * (level + 1)) text.toList := by
        intro p hp
        obtain ⟨text, htext, hlaid⟩ := ih p hp (h.2 p hp)
        exact ⟨text, htext, hlaid.hangs⟩
      have hdata : v.isData = true := by
        have hv := h.1
        rw [Value.isOrdinary, Bool.and_eq_true] at hv
        exact hv.1
      obtain ⟨text, htext, hform⟩ :=
        exists_render_of_parts l hlevel (Value.isWhole_of_isData hdata) hparts
          (Value.exists_repr_of_isData hdata)
      refine ⟨text, htext, laid_of_assembled ?_ hform⟩
      rw [Value.isOrdinary_hollow]
      exact h.1

/-! ### The lines of a text -/

/-- Where the lines of a text start that is laid out. -/
theorem Laid.lines {step level : Nat} {cs first last : List Char} {inner : List (List Char)}
    (h : Laid step level cs) (hlines : Text.splitLines cs = first :: (inner ++ [last])) :
    (∀ line ∈ inner, List.replicate (step * (level + 1)) ' ' <+: line) ∧
      ∃ closing, closing ≠ [] ∧ (∀ c ∈ closing, Scan.isClosing c = true) ∧
        last = List.replicate (step * level) ' ' ++ closing := by
  cases h with
  | line h =>
    -- one line has no others behind it
    by_cases hcs : cs = []
    · simp [hcs, Text.splitLines, Text.splitLinesFrom] at hlines
    · rw [Text.splitLines, Text.splitLinesFrom_of_isOneLine h hcs] at hlines
      simp at hlines
  | @block head body closing hhead hbody hclosing hbrackets =>
    have hlast : Text.splitLinesFrom [] (List.replicate (step * level) ' ' ++ closing) =
        [List.replicate (step * level) ' ' ++ closing] := by
      apply Text.splitLinesFrom_of_isOneLine
      · simp [Text.isOneLine_replicate, isOneLine_closing hbrackets]
      · simp [hclosing]
    -- the lines of a block are its head, those of the body, and the closing one
    have hrest : Text.splitLinesFrom [] body = inner ∧
        List.replicate (step * level) ' ' ++ closing = last := by
      rw [Text.splitLines, Text.splitLinesFrom_append [] hhead, List.cons_append,
        Text.splitLinesFrom_newline, List.cons.injEq,
        Text.splitLinesFrom_append_newline [] hbody.2 (.inr (hbody.1 (by decide)).2.1), hlast]
        at hlines
      simpa using List.append_inj' hlines.2 rfl
    have hinner := Text.replicate_isPrefix_of_hangs [] hbody
    rw [Text.splitLinesFrom_newline, List.tail_cons, hrest.1] at hinner
    exact ⟨hinner, closing, hclosing, hbrackets, hrest.2.symm⟩

theorem map_toList_linesOf (text : String) :
    (Text.linesOf text).map String.toList = Text.splitLines text.toList := by
  simp [Text.linesOf, Function.comp_def]

/-- A line that is indented starts with the blanks. -/
theorem startsWith_spaces {m : Nat} {line : String}
    (h : List.replicate m ' ' <+: line.toList) : Text.startsWith (Text.spaces m) line = true := by
  simpa [Text.startsWith, Text.spaces] using h

/-- Where the lines of the text of an ordinary value start, if there are several: all but the first
    at its level at least, those between the first and the last one level deeper at least, and the
    last is exactly at its level and closes brackets. -/
theorem render_indents_lines (l : Layout) (level : Nat) {v : Value}
    (h : ∀ n x, PartAt n v x → x.isOrdinary = true) :
    ∃ text, l.render level v = .ok text ∧
      String.intercalate "\n" (Text.linesOf text) = text ∧
      ∀ first inner last, Text.linesOf text = first :: (inner ++ [last]) →
        (∀ line ∈ inner ++ [last],
          Text.startsWith (Text.spaces (l.step * level)) line = true) ∧
        (∀ line ∈ inner, Text.startsWith (Text.spaces (l.step * (level + 1))) line = true) ∧
        ∃ closing, closing ≠ "" ∧ (∀ c ∈ closing.toList, Scan.isClosing c = true) ∧
          last = Text.spaces (l.step * level) ++ closing := by
  obtain ⟨text, htext, hlaid⟩ := exists_laid l h
  refine ⟨text, htext, ?_, ?_⟩
  · -- all line ends of the text are newlines
    have hjoin := intercalate_splitLinesFrom [] hlaid.hangs.breaks hlaid.hangs.ends
    apply String.toList_inj.mp
    rw [String.toList_intercalate, map_toList_linesOf]
    simpa [Text.splitLines] using hjoin
  · intro first inner last hlines
    have hchars : Text.splitLines text.toList =
        first.toList :: (inner.map String.toList ++ [last.toList]) := by
      rw [← map_toList_linesOf, hlines]
      simp
    -- all lines behind the first hang by the level
    have hbehind := Text.replicate_isPrefix_of_hangs [] hlaid.hangs
    rw [← Text.splitLines, hchars, List.tail_cons] at hbehind
    obtain ⟨hinner, closing, hclosing, hbrackets, hlast⟩ := hlaid.lines hchars
    refine ⟨?_, ?_, String.ofList closing, ?_, ?_, ?_⟩
    · intro line hline
      apply startsWith_spaces
      apply hbehind
      simpa using List.mem_map_of_mem (f := String.toList) hline
    · intro line hline
      exact startsWith_spaces (hinner _ (List.mem_map_of_mem hline))
    · simpa using hclosing
    · simpa using hbrackets
    · apply String.toList_inj.mp
      simpa [Text.spaces] using hlast

/-- A block inside another, behind the name of a field. -/
theorem render_indents_lines_nested :
    ∃ text, ({ indentWidth := 1, width := 9 } : Layout).render 1
        (.record [("rows", .tuple [.str "north", .int 1])]) = .ok text ∧
      ∃ inner last, Text.linesOf text = "namespace(" :: (inner ++ [last]) ∧ inner.length = 4 ∧
        (∀ line ∈ inner, Text.startsWith (Text.spaces 2) line = true) ∧
        ∃ closing, closing ≠ "" ∧ last = Text.spaces 1 ++ closing := by
  have hordinary : ∀ n x, PartAt n (.record [("rows", .tuple [.str "north", .int 1])]) x →
      x.isOrdinary = true := by
    simp only [@Value.forall_partAt_iff _ (.record _), @Value.forall_partAt_iff _ (.tuple _),
      @Value.forall_partAt_iff _ (.str _), @Value.forall_partAt_iff _ (.int _), Value.parts,
      Value.apart, List.map_cons, List.map_nil, List.forall_mem_cons, List.not_mem_nil,
      false_implies, implies_true, and_true]
    decide
  have hvalue : ({ indentWidth := 1, width := 9 } : Layout).render 1
      (.record [("rows", .tuple [.str "north", .int 1])]) =
        .ok "namespace(\n  rows=(\n   'north',\n   1,\n  ),\n )" := by
    decide +kernel
  have hsplit : Text.linesOf "namespace(\n  rows=(\n   'north',\n   1,\n  ),\n )" =
      "namespace(" :: (["  rows=(", "   'north',", "   1,", "  ),"] ++ [" )"]) := by
    decide +kernel
  obtain ⟨text, htext, -, hlines⟩ :=
    render_indents_lines { indentWidth := 1, width := 9 } 1 hordinary
  obtain rfl := Except.ok.inj (hvalue.symm.trans htext)
  obtain ⟨-, hinner, closing, hclosing, -, hlast⟩ := hlines _ _ _ hsplit
  exact ⟨_, hvalue, _, _, hsplit, rfl, hinner, closing, hclosing, hlast⟩

end Layout

end ReplEngine
