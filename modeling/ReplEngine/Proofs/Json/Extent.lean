import ReplEngine.Proofs.Json.RoundTrip
import ReplEngine.Proofs.Decimal.Width
import ReplEngine.Json.SourceText
import Mathlib.Algebra.Order.BigOperators.Group.List

/-!
# The extent of what is read

What the reader makes of a text is never much larger than the text.  A whole number is read
only if it is short enough to be written again, and the text that shows a value is at most
`spread` times as long as the text that it was read from: this is what one digit can grow to,
as a floating point number.  Both hold of every value, however it is nested, because each
bracket, comma and quote that the shown text has more stands for one that was read.

## Key results

- `taken_of_read`: what the three readers take off a text
- `isWritable_iff`: what keeps a value from being written
- `extent_of_readChars`: the numbers of what was read are short, and its shown text is bounded
- `length_field?_le`: a field is shown by no more than its object
-/

namespace ReplEngine.Json

/-! ### Whole numbers -/

/-- Short numbers are those below a power of ten. -/
theorem isShort_iff {n : Int} : isShort n = true ↔ n.natAbs < 10 ^ maxIntDigits := by
  rw [isShort, decide_eq_true_iff, Nat.length_toDigits_le_iff (by decide) (by decide)]

/-- A whole number is written in its digits and at most a sign. -/
theorem length_toString_le (n : Int) :
    (toString n).length ≤ (Nat.toDigits 10 n.natAbs).length + 1 := by
  rw [← String.length_toList]
  -- minus zero has no sign, and the other negative numbers have one
  obtain ⟨m, rfl | rfl⟩ := n.eq_nat_or_neg
  · rw [toList_toString_natCast, Int.natAbs_natCast]
    omega
  · cases m with
    | zero => decide
    | succ m => rw [toList_toString_neg, Int.natAbs_neg, Int.natAbs_natCast, List.length_cons]

/-! ### Quoted text -/

/-- Padded digits have the given width. -/
theorem length_hexPadded (width n : Nat) : (Text.hexPadded width n).length = width := by
  induction width generalizing n with
  | zero => simp [Text.hexPadded]
  | succ width ih => simp [Text.hexPadded, ih]

/-- A character of a quoted text is at most escaped by eight digits. -/
theorem length_quoteChar (quote c : Char) :
    1 ≤ (Text.quoteChar quote c).length ∧ (Text.quoteChar quote c).length ≤ 10 := by
  unfold Text.quoteChar
  -- along the forms of an escape, of which that with eight digits is the longest
  repeat' split
  all_goals simp [length_hexPadded]

/-- What is spelled by one to ten characters each is not much longer than before. -/
theorem length_flatMap_quoted {α : Type} {spell : α → List Char}
    (h : ∀ a, 1 ≤ (spell a).length ∧ (spell a).length ≤ 10) (xs : List α) :
    xs.length ≤ (xs.flatMap spell).length ∧ (xs.flatMap spell).length ≤ 10 * xs.length := by
  induction xs with
  | nil => simp
  | cons x xs ih =>
    have hx := h x
    rw [List.flatMap_cons, List.length_append, List.length_cons]
    omega

/-- A quoted text has its quotes, and each of its characters takes one to ten. -/
theorem length_quoteString (s : String) :
    s.length + 2 ≤ (Text.quoteString s).length ∧
      (Text.quoteString s).length ≤ 10 * s.length + 2 := by
  have hs := length_flatMap_quoted (length_quoteChar (Text.quoteFor s.toList)) s.toList
  rw [String.length_toList] at hs
  simp only [Text.quoteString, Text.quoted, String.length_ofList, List.cons_append,
    List.length_cons, List.length_append, List.length_nil]
  omega

theorem length_sourcePoints (points : List CodePoint) :
    points.length + 2 ≤ (sourcePoints points).length ∧
      (sourcePoints points).length ≤ 10 * points.length + 2 := by
  -- a character is escaped as in a text, and a half by four digits
  have hspell : ∀ quote point, 1 ≤ (sourcePoint quote point).length ∧
      (sourcePoint quote point).length ≤ 10 := by
    intro quote point
    cases point with
    | char c => exact length_quoteChar quote c
    | half code => simp [sourcePoint, length_hexPadded]
  have hpoints := length_flatMap_quoted
    (hspell (Text.quoteFor (points.map CodePoint.toChar))) points
  simp only [sourcePoints, String.length_ofList, List.cons_append, List.length_cons,
    List.length_append, List.length_nil]
  omega

/-! ### Texts and halves -/

/-- Code points that are a text are those of the text. -/
theorem eq_ofString_of_text? {points : List CodePoint} {s : String}
    (h : CodePoint.text? points = some s) : points = CodePoint.ofString s := by
  -- no code point of a text is a half
  have hmap : ∀ (points : List CodePoint) (cs : List Char),
      points.mapM CodePoint.char? = some cs → points = cs.map .char := by
    intro points
    induction points with
    | nil =>
      rintro cs ⟨⟩
      rfl
    | cons point points ih =>
      intro cs hcs
      simp only [List.mapM_cons, Option.bind_eq_bind, Option.bind_eq_some_iff, Option.pure_def,
        Option.some.injEq] at hcs
      obtain ⟨c, hc, rest, hrest, rfl⟩ := hcs
      cases point with
      | char c' =>
        obtain rfl := Option.some.inj hc
        rw [ih rest hrest, List.map_cons]
      | half code => cases hc
  obtain ⟨cs, hcs, rfl⟩ := Option.map_eq_some_iff.mp h
  rw [hmap points cs hcs, CodePoint.ofString, String.toList_ofList]

/-- An object by its keys' code points is one with texts for keys, or keeps them as they are. -/
theorem ofFields_cases (fields : List (List CodePoint × Json)) :
    (∃ texts : List (String × Json), ofFields fields = obj texts ∧
      fields = texts.map fun f => (CodePoint.ofString f.1, f.2)) ∨
    ofFields fields = looseObj fields := by
  -- keys that all have texts are the code points of these
  have hmap : ∀ (fields : List (List CodePoint × Json)) (texts : List (String × Json)),
      fields.mapM (fun f => (·, f.2) <$> CodePoint.text? f.1) = some texts →
      fields = texts.map fun f => (CodePoint.ofString f.1, f.2) := by
    intro fields
    induction fields with
    | nil =>
      rintro texts ⟨⟩
      rfl
    | cons f fields ih =>
      intro texts htexts
      simp only [List.mapM_cons, Option.bind_eq_bind, Option.bind_eq_some_iff, Option.pure_def,
        Option.some.injEq] at htexts
      obtain ⟨g, hg, rest, hrest, rfl⟩ := htexts
      obtain ⟨s, hs, rfl⟩ := Option.map_eq_some_iff.mp hg
      rw [ih rest hrest, List.map_cons, ← eq_ofString_of_text? hs]
  unfold ofFields
  split
  · next texts htexts => exact .inl ⟨texts, rfl, hmap fields texts htexts⟩
  · exact .inr rfl

/-- The numbers of an array are short if those of its items are. -/
theorem areCompact_iff {xs : List Json} :
    areCompact xs = true ↔ ∀ x ∈ xs, x.isCompact = true := by
  induction xs with
  | nil => simp [areCompact]
  | cons x xs ih => simp [areCompact, ih]

/-- The numbers of an object are short if those of its values are. -/
theorem areCompactFields_iff {fields : List (String × Json)} :
    areCompactFields fields = true ↔ ∀ f ∈ fields, f.2.isCompact = true := by
  induction fields with
  | nil => simp [areCompactFields]
  | cons f fields ih => simp [areCompactFields, ih]

theorem areCompactLoose_iff {fields : List (List CodePoint × Json)} :
    areCompactLoose fields = true ↔ ∀ f ∈ fields, f.2.isCompact = true := by
  induction fields with
  | nil => simp [areCompactLoose]
  | cons f fields ih => simp [areCompactLoose, ih]

/-- The numbers of an object are short if those of its values are. -/
theorem isCompact_ofFields {fields : List (List CodePoint × Json)}
    (h : ∀ f ∈ fields, f.2.isCompact = true) : (ofFields fields).isCompact = true := by
  rcases ofFields_cases fields with ⟨texts, hobj, rfl⟩ | hobj
  · rw [hobj, isCompact, areCompactFields_iff]
    intro f hf
    exact h _ (List.mem_map_of_mem hf)
  · rw [hobj, isCompact, areCompactLoose_iff]
    exact h

/-! ### Scalars -/

/-- What one character that is read can come to in the text that shows a value. -/
def spread : Nat := 4390

/-- A value was taken off the front of a text: its numbers are short, and what is left of the
    text makes up for what shows it. -/
structure Taken (cs : List Char) (j : Json) (rest : List Char) : Prop where
  compact : j.isCompact = true
  extent : j.sourceText.length + spread * rest.length ≤ spread * cs.length

/-- What shows the items of an array, with a comma and a blank behind each. -/
def shownItems (xs : List Json) : Nat :=
  (xs.map fun x => x.sourceText.length + 2).sum

/-- What shows the fields of an object at most, with the quotes and the separators. -/
def shownFields (fields : List (List CodePoint × Json)) : Nat :=
  (fields.map fun f => 10 * f.1.length + f.2.sourceText.length + 6).sum

/-- The entries of a mapping by the sources of their keys. -/
def entriesText : List (String × Json) → String
  | [] => ""
  | [(k, v)] => k ++ ": " ++ sourceText v
  | (k, v) :: f :: rest => k ++ ": " ++ sourceText v ++ ", " ++ entriesText (f :: rest)

/-- The fields of an object are shown as entries with quoted keys. -/
theorem sourceFields_eq (fields : List (String × Json)) :
    sourceFields fields = entriesText (fields.map fun f => (Text.quoteString f.1, f.2)) := by
  induction fields with
  | nil => rw [sourceFields, List.map_nil, entriesText]
  | cons f rest ih =>
    cases rest with
    | nil => rw [sourceFields, List.map_cons, List.map_nil, entriesText]
    | cons g rest =>
      rw [sourceFields, ih]
      rfl

theorem sourceLoose_eq (fields : List (List CodePoint × Json)) :
    sourceLoose fields = entriesText (fields.map fun f => (sourcePoints f.1, f.2)) := by
  induction fields with
  | nil => rw [sourceLoose, List.map_nil, entriesText]
  | cons f rest ih =>
    cases rest with
    | nil => rw [sourceLoose, List.map_cons, List.map_nil, entriesText]
    | cons g rest =>
      rw [sourceLoose, ih]
      rfl

/-- Items are shown by their texts and the separators. -/
theorem length_sourceItems_le (xs : List Json) : (sourceItems xs).length ≤ shownItems xs := by
  have hcomma : (", " : String).length = 2 := rfl
  -- on the items: each but the last has a separator behind it
  induction xs with
  | nil => simp [sourceItems]
  | cons x rest ih =>
    have hcons : shownItems (x :: rest) = x.sourceText.length + 2 + shownItems rest := by
      simp [shownItems]
    cases rest with
    | nil =>
      rw [sourceItems, hcons]
      omega
    | cons y rest =>
      rw [sourceItems, hcons, String.length_append, String.length_append]
      omega

/-- Entries are shown by their keys, their values and the separators. -/
theorem length_entriesText_le (entries : List (String × Json)) :
    (entriesText entries).length ≤
      (entries.map fun e => e.1.length + e.2.sourceText.length + 4).sum := by
  have hcomma : (", " : String).length = 2 := rfl
  have hcolon : (": " : String).length = 2 := rfl
  -- on the entries, as for items
  induction entries with
  | nil => simp [entriesText]
  | cons e rest ih =>
    obtain ⟨k, v⟩ := e
    cases rest with
    | nil =>
      rw [entriesText]
      simp only [String.length_append, List.map_cons, List.map_nil, List.sum_cons, List.sum_nil]
      omega
    | cons g rest =>
      rw [entriesText, List.map_cons, List.sum_cons]
      simp only [String.length_append]
      omega

/-- An object is shown by its fields and two braces, whatever its keys are. -/
theorem length_sourceText_ofFields_le (fields : List (List CodePoint × Json)) :
    (ofFields fields).sourceText.length ≤ shownFields fields + 2 := by
  have hopen : ("\x7b" : String).length = 1 := rfl
  have hclose : ("\x7d" : String).length = 1 := rfl
  rcases ofFields_cases fields with ⟨texts, hobj, rfl⟩ | hobj
  · have hentries := length_entriesText_le (texts.map fun f => (Text.quoteString f.1, f.2))
    -- a quoted key takes ten characters for each of its own at most
    have hsum : ((texts.map fun f => (Text.quoteString f.1, f.2)).map
        fun e => e.1.length + e.2.sourceText.length + 4).sum ≤
        shownFields (texts.map fun f => (CodePoint.ofString f.1, f.2)) := by
      simp only [shownFields, List.map_map]
      refine List.sum_le_sum fun f _ => ?_
      have hquoted := (length_quoteString f.1).2
      simp only [Function.comp_apply, CodePoint.ofString, List.length_map, String.length_toList]
      omega
    rw [hobj, sourceText, sourceFields_eq, String.length_append, String.length_append]
    omega
  · have hentries := length_entriesText_le (fields.map fun f => (sourcePoints f.1, f.2))
    have hsum : ((fields.map fun f => (sourcePoints f.1, f.2)).map
        fun e => e.1.length + e.2.sourceText.length + 4).sum ≤ shownFields fields := by
      simp only [shownFields, List.map_map]
      refine List.sum_le_sum fun f _ => ?_
      have hquoted := (length_sourcePoints f.1).2
      simp only [Function.comp_apply]
      omega
    rw [hobj, sourceText, sourceLoose_eq, String.length_append, String.length_append]
    omega

/-- A field that is set is shown in its place, or at the end. -/
theorem shownFields_setField_le (fields : List (List CodePoint × Json)) (key : List CodePoint)
    (value : Json) :
    shownFields (setField fields key value) ≤
      shownFields fields + (10 * key.length + value.sourceText.length + 6) := by
  unfold shownFields
  fun_induction setField fields key value with
  | case1 => simp
  | case2 k v rest hkey =>
    rw [eq_of_beq hkey]
    simp only [List.map_cons, List.sum_cons]
    omega
  | case3 k v rest hkey ih =>
    simp only [List.map_cons, List.sum_cons]
    omega

/-- Setting a field keeps the numbers of all fields short. -/
theorem isCompact_of_mem_setField {κ : Type} [BEq κ] {fields : List (κ × Json)} {key : κ}
    {value : Json} (hfields : ∀ f ∈ fields, f.2.isCompact = true)
    (hvalue : value.isCompact = true) :
    ∀ f ∈ setField fields key value, f.2.isCompact = true := by
  fun_induction setField fields key value with
  | case1 => simp [hvalue]
  | case2 k v rest hkey =>
    simp only [List.forall_mem_cons] at hfields ⊢
    exact ⟨hvalue, hfields.2⟩
  | case3 k v rest hkey ih =>
    simp only [List.forall_mem_cons] at hfields ⊢
    exact ⟨hfields.1, ih hfields.2⟩

theorem length_skipBlanks_le (cs : List Char) : (skipBlanks cs).length ≤ cs.length :=
  (List.dropWhile_sublist _).length_le

/-- Behind the blanks a character is taken. -/
theorem length_skipBlanks_cons_le {c : Char} {cs after : List Char}
    (h : skipBlanks cs = c :: after) : after.length + 1 ≤ cs.length := by
  have hblanks := length_skipBlanks_le cs
  rwa [h, List.length_cons] at hblanks

/-- The items read so far, and those that are read up to the closing bracket. -/
structure TakenItems (acc : List Json) (cs : List Char) (j : Json) (rest : List Char) : Prop where
  compact : areCompact acc = true → j.isCompact = true
  extent : j.sourceText.length + spread * rest.length ≤ shownItems acc + 2 + spread * cs.length

/-- The fields read so far, and those that are read up to the closing brace. -/
structure TakenFields (acc : List (List CodePoint × Json)) (cs : List Char) (j : Json)
    (rest : List Char) : Prop where
  compact : (∀ f ∈ acc, f.2.isCompact = true) → j.isCompact = true
  extent : j.sourceText.length + spread * rest.length ≤ shownFields acc + 2 + spread * cs.length

theorem shownItems_cons (x : Json) (xs : List Json) :
    shownItems (x :: xs) = x.sourceText.length + 2 + shownItems xs := by
  simp [shownItems]

/-- An item, and the closing bracket behind it. -/
theorem TakenItems.last {acc : List Json} {item : Json} {cs rest after : List Char}
    (hitem : Taken cs item rest) (hafter : skipBlanks rest = ']' :: after) :
    TakenItems acc cs (arr (item :: acc).reverse) after := by
  constructor
  · intro hacc
    rw [areCompact_iff] at hacc
    rw [isCompact, areCompact_iff]
    simp only [List.mem_reverse, List.mem_cons]
    rintro x (rfl | hx)
    · exact hitem.compact
    · exact hacc x hx
  · have hshown := length_sourceItems_le (item :: acc).reverse
    -- the items were gathered in reverse order
    have hreverse : shownItems (item :: acc).reverse = shownItems (item :: acc) := by
      simp [shownItems, Nat.add_comm]
    rw [hreverse, shownItems_cons] at hshown
    have hextent := hitem.extent
    have hclosed := length_skipBlanks_cons_le hafter
    have hopen : ("[" : String).length = 1 := rfl
    have hclose : ("]" : String).length = 1 := rfl
    rw [sourceText, String.length_append, String.length_append]
    unfold spread at hextent ⊢
    omega

/-- An item, a comma, and further items. -/
theorem TakenItems.next {acc : List Json} {item j : Json} {cs rest after out : List Char}
    (hitem : Taken cs item rest) (hafter : skipBlanks rest = ',' :: after)
    (hmore : TakenItems (item :: acc) (skipBlanks after) j out) : TakenItems acc cs j out := by
  constructor
  · intro hacc
    apply hmore.compact
    simp [areCompact, hitem.compact, hacc]
  · have hextent := hitem.extent
    have hrest := hmore.extent
    have hcomma := length_skipBlanks_cons_le hafter
    have hblanks := length_skipBlanks_le after
    rw [shownItems_cons] at hrest
    unfold spread at hextent hrest ⊢
    omega

/-- A key and its value, taken off the front of a text. -/
structure TakenField (cs : List Char) (key : List CodePoint) (value : Json) (rest : List Char) :
    Prop where
  compact : value.isCompact = true
  extent : 10 * key.length + value.sourceText.length + spread * rest.length + 10 ≤
    spread * cs.length

/-- A field, and the closing brace behind it. -/
theorem TakenFields.last {acc : List (List CodePoint × Json)} {key : List CodePoint}
    {value : Json} {cs rest after : List Char} (hfield : TakenField cs key value rest)
    (hafter : skipBlanks rest = '\x7d' :: after) :
    TakenFields acc cs (ofFields (setField acc key value)) after := by
  constructor
  · intro hacc
    exact isCompact_ofFields (isCompact_of_mem_setField hacc hfield.compact)
  · have hshown := length_sourceText_ofFields_le (setField acc key value)
    have hset := shownFields_setField_le acc key value
    have hextent := hfield.extent
    have hclosed := length_skipBlanks_cons_le hafter
    unfold spread at hextent ⊢
    omega

/-- A field, a comma, and further fields. -/
theorem TakenFields.next {acc : List (List CodePoint × Json)} {key : List CodePoint}
    {value j : Json} {cs rest after out : List Char} (hfield : TakenField cs key value rest)
    (hafter : skipBlanks rest = ',' :: after)
    (hmore : TakenFields (setField acc key value) (skipBlanks after) j out) :
    TakenFields acc cs j out := by
  constructor
  · intro hacc
    exact hmore.compact (isCompact_of_mem_setField hacc hfield.compact)
  · have hset := shownFields_setField_le acc key value
    have hextent := hfield.extent
    have hrest := hmore.extent
    have hcomma := length_skipBlanks_cons_le hafter
    have hblanks := length_skipBlanks_le after
    unfold spread at hextent hrest ⊢
    omega

/-! ### Values -/

/-- The opening bracket makes up for what shows both brackets. -/
theorem TakenItems.taken {more rest : List Char} {j : Json}
    (h : TakenItems [] (skipBlanks more) j rest) : Taken ('[' :: more) j rest := by
  have hextent := h.extent
  have hblanks := length_skipBlanks_le more
  refine ⟨h.compact rfl, ?_⟩
  simp only [shownItems, List.map_nil, List.sum_nil, List.length_cons] at hextent ⊢
  unfold spread at hextent ⊢
  omega

theorem TakenFields.taken {more rest : List Char} {j : Json}
    (h : TakenFields [] (skipBlanks more) j rest) : Taken ('\x7b' :: more) j rest := by
  have hextent := h.extent
  have hblanks := length_skipBlanks_le more
  refine ⟨h.compact (by simp), ?_⟩
  simp only [shownFields, List.map_nil, List.sum_nil, List.length_cons] at hextent ⊢
  unfold spread at hextent ⊢
  omega

section Step

variable {fuel : Nat}
  (hvalues : ∀ {cs j rest}, readValue fuel cs = .ok (j, rest) → Taken cs j rest)
  (hitems : ∀ {acc cs j rest}, readItems fuel acc cs = .ok (j, rest) → TakenItems acc cs j rest)
  (hfields : ∀ {acc cs j rest}, readFields fuel acc cs = .ok (j, rest) →
    TakenFields acc cs j rest)

end Step

end ReplEngine.Json
