import ReplEngine.Proofs.Json.Scalars

/-!
# JSON reads back

Reading the compact text of a value gives the value, if it holds no floating point
number, no object with a repeated key, no half of a surrogate pair, and no whole number that
is too long to be written.  The reader stops right behind the text of a value, whatever separator or
closing bracket comes there, which is what the induction over nested values needs; its
fuel is never used up, because every call takes at least one character.

## Key results

- `Json.induction`: induction over values, with a hypothesis for every part
- `reads_of_isPlain`: the reader takes the text of a value and nothing else
- `readChars_render`: a whole text that was written is read as its value
-/

namespace ReplEngine.Json

/-! ### Values that can be read back -/

mutual

/-- Whether a value is free of floating point numbers, of objects that repeat a key and of
    strings that are no texts. -/
def isPlain : Json → Bool
  | float _ | loose _ | looseObj _ => false
  | arr xs => arePlain xs
  | obj fields => decide (fields.map Prod.fst).Nodup && arePlainFields fields
  | _ => true

/-- Whether all items are plain. -/
def arePlain : List Json → Bool
  | [] => true
  | x :: rest => isPlain x && arePlain rest

/-- Whether the values of all fields are plain. -/
def arePlainFields : List (String × Json) → Bool
  | [] => true
  | (_, v) :: rest => isPlain v && arePlainFields rest

end

/-- Plain items are plain one by one. -/
theorem arePlain_iff {xs : List Json} : arePlain xs = true ↔ ∀ x ∈ xs, x.isPlain = true := by
  induction xs with
  | nil => simp [arePlain]
  | cons x xs ih => simp [arePlain, ih]

/-- Plain fields have plain values. -/
theorem arePlainFields_iff {fields : List (String × Json)} :
    arePlainFields fields = true ↔ ∀ f ∈ fields, f.2.isPlain = true := by
  induction fields with
  | nil => simp [arePlainFields]
  | cons f fields ih => simp [arePlainFields, ih]

/-- An array can be written if its items can. -/
theorem areWritable_iff {xs : List Json} :
    areWritable xs = true ↔ ∀ x ∈ xs, x.isWritable = true := by
  induction xs with
  | nil => simp [areWritable]
  | cons x xs ih => simp [areWritable, ih]

/-- An object can be written if its values can. -/
theorem areWritableFields_iff {fields : List (String × Json)} :
    areWritableFields fields = true ↔ ∀ f ∈ fields, f.2.isWritable = true := by
  induction fields with
  | nil => simp [areWritableFields]
  | cons f fields ih => simp [areWritableFields, ih]

/-- Induction over values: an array has what its items have, an object what the values of
    its fields have. -/
@[elab_as_elim]
theorem induction {motive : Json → Prop} (null : motive .null) (bool : ∀ b, motive (.bool b))
    (int : ∀ n, motive (.int n)) (float : ∀ x, motive (.float x)) (str : ∀ s, motive (.str s))
    (arr : ∀ xs, (∀ x ∈ xs, motive x) → motive (.arr xs))
    (obj : ∀ fields, (∀ f ∈ fields, motive f.2) → motive (.obj fields))
    (loose : ∀ points, motive (.loose points))
    (looseObj : ∀ fields, (∀ f ∈ fields, motive f.2) → motive (.looseObj fields)) (j : Json) :
    motive j :=
  match j with
  | .null => null
  | .bool b => bool b
  | .int n => int n
  | .float x => float x
  | .str s => str s
  | .arr xs => arr xs fun x _ => induction null bool int float str arr obj loose looseObj x
  | .obj fields =>
    obj fields fun f _ => induction null bool int float str arr obj loose looseObj f.2
  | .loose points => loose points
  | .looseObj fields =>
    looseObj fields fun f _ => induction null bool int float str arr obj loose looseObj f.2
termination_by sizeOf j
decreasing_by
  · next h =>
    have := List.sizeOf_lt_of_mem h
    simp only [Json.arr.sizeOf_spec]
    omega
  · next h =>
    have := List.sizeOf_lt_of_mem h
    obtain ⟨k, v⟩ := f
    simp only [Prod.mk.sizeOf_spec] at this
    simp only [Json.obj.sizeOf_spec]
    omega
  · next h =>
    have := List.sizeOf_lt_of_mem h
    obtain ⟨k, v⟩ := f
    simp only [Prod.mk.sizeOf_spec] at this
    simp only [Json.looseObj.sizeOf_spec]
    omega

/-! ### The first character of a value -/

/-- A text that starts like a value: not with a blank, with a closing bracket or with a byte
    order mark. -/
def Starts (cs : List Char) : Prop :=
  ∃ c rest, cs = c :: rest ∧ isBlankChar c = false ∧ c ≠ ']' ∧ c ≠ '\ufeff'

/-- Before a value there are no blanks to skip. -/
theorem Starts.skipBlanks {cs : List Char} (h : Starts cs) (more : List Char) :
    skipBlanks (cs ++ more) = cs ++ more := by
  obtain ⟨c, rest, rfl, hc, -⟩ := h
  rw [Json.skipBlanks, List.cons_append, List.dropWhile_cons_of_neg (by simp [hc])]

/-- A digit starts a value. -/
private theorem starts_digit {d : Char} (hd : d.isDigit = true) (ds : List Char) :
    Starts (d :: ds) := by
  refine ⟨d, ds, rfl, ?_, ?_, ?_⟩
  · simp only [isBlankChar, Bool.or_eq_false_iff, beq_eq_false_iff_ne]
    refine ⟨⟨⟨?_, ?_⟩, ?_⟩, ?_⟩ <;> rintro rfl <;> exact absurd hd (by decide)
  · rintro rfl
    exact absurd hd (by decide)
  · rintro rfl
    exact absurd hd (by decide)

/-- What is written starts like a value. -/
theorem starts_render {j : Json} (h : j.isPlain = true) : Starts (render j).toList := by
  -- floats and loose texts are not plain
  cases j with
  | null => exact ⟨_, _, rfl, rfl, by decide, by decide⟩
  | bool b => cases b <;> exact ⟨_, _, rfl, rfl, by decide, by decide⟩
  | int n =>
    rw [render]
    obtain ⟨d, ds, hd, htext | htext⟩ := toList_toString_int n
    · rw [htext]
      exact starts_digit hd ds
    · rw [htext]
      exact ⟨_, _, rfl, rfl, by decide, by decide⟩
  | float x => simp [isPlain] at h
  | str s =>
    rw [render, toList_quote]
    exact ⟨_, _, rfl, rfl, by decide, by decide⟩
  | arr xs =>
    rw [render, String.toList_append, String.toList_append]
    exact ⟨_, _, rfl, rfl, by decide, by decide⟩
  | obj fields =>
    rw [render, String.toList_append, String.toList_append]
    exact ⟨_, _, rfl, rfl, by decide, by decide⟩
  | loose points => simp [isPlain] at h
  | looseObj fields => simp [isPlain] at h

/-! ### Reading a value -/

/-- The reader takes the text of a value off the front and stops there, with as much fuel
    as the text has characters. -/
def Reads (j : Json) : Prop :=
  ∀ (fuel : Nat) (rest : List Char), (render j).toList.length ≤ fuel → Stops rest →
    readValue fuel ((render j).toList ++ rest) = .ok (j, rest)

private theorem stops_cons {c : Char} (h : c = ',' ∨ c = ']' ∨ c = '\x7d') (rest : List Char) :
    Stops (c :: rest) := by
  rintro d hd
  cases hd
  exact h

/-- No text of a value is empty, so there is fuel for its first character. -/
private theorem Reads.of_succ {j : Json} {c : Char} {text : List Char}
    (htext : (render j).toList = c :: text)
    (hread : ∀ fuel rest, text.length ≤ fuel → Stops rest →
      readValue (fuel + 1) (c :: (text ++ rest)) = .ok (j, rest)) : Reads j := by
  intro fuel rest hfuel hrest
  rw [htext] at hfuel ⊢
  cases fuel with
  | zero => simp at hfuel
  | succ fuel => exact hread fuel rest (by simpa using hfuel) hrest

theorem reads_null : Reads null :=
  Reads.of_succ rfl fun _ _ _ _ => rfl

/-- The two words for truth values are read back. -/
theorem reads_bool (b : Bool) : Reads (bool b) := by
  cases b with
  | false => exact Reads.of_succ rfl fun _ _ _ _ => rfl
  | true => exact Reads.of_succ rfl fun _ _ _ _ => rfl

/-- No word starts with a digit, and none with a sign and a digit. -/
private theorem readWord?_digit {d : Char} (hd : d.isDigit = true) (rest : List Char) :
    readWord? (d :: rest) = none ∧ readWord? ('-' :: d :: rest) = none := by
  have hne : ∀ c : Char, c.isDigit = false → c ≠ d := fun c hc h => by rw [h, hd] at hc; cases hc
  constructor <;> simp [readWord?, hne]

/-- Whole numbers that are short enough are read back. -/
theorem reads_int {n : Int} (h : isShort n = true) : Reads (int n) := by
  -- the text starts with neither a quote nor a bracket nor a word
  obtain ⟨d, ds, hd, htext⟩ := toList_toString_int n
  have hne : ∀ c : Char, c.isDigit = false → d ≠ c := fun c hc h => by rw [← h, hd] at hc; cases hc
  rcases htext with htext | htext
  · refine Reads.of_succ (by rw [render, htext]) fun fuel rest _ hrest => ?_
    -- without a sign
    have hread := readNumber?_int h hrest
    rw [htext, List.cons_append] at hread
    rw [readValue.eq_def]
    simp [(readWord?_digit hd (ds ++ rest)).1, hread, hne]
  · refine Reads.of_succ (by rw [render, htext]) fun fuel rest _ hrest => ?_
    -- with a sign, which no word starts with either
    have hread := readNumber?_int h hrest
    rw [htext, List.cons_append, List.cons_append] at hread
    rw [readValue.eq_def]
    simp [(readWord?_digit hd (ds ++ rest)).2, hread]

/-- Texts are read back, whatever is escaped in them. -/
theorem reads_str (s : String) : Reads (str s) := by
  refine Reads.of_succ (by rw [render, toList_quote]) fun fuel rest _ _ => ?_
  rw [List.append_assoc, List.singleton_append, readValue.eq_def]
  simp [readString_quote, ofPoints_ofString, bind, Except.bind, pure, Except.pure]

/-! ### Arrays -/

private theorem skipBlanks_mark {c : Char} (h : isBlankChar c = false) (rest : List Char) :
    skipBlanks (c :: rest) = c :: rest := by
  rw [skipBlanks, List.dropWhile_cons_of_neg (by simp [h])]

private theorem toList_render_arr (xs : List Json) :
    (render (arr xs)).toList = '[' :: ((renderItems xs).toList ++ [']']) := by
  rw [render, String.toList_append, String.toList_append]
  rfl

private theorem toList_renderItems (x y : Json) (xs : List Json) :
    (renderItems (x :: y :: xs)).toList =
      (render x).toList ++ ',' :: (renderItems (y :: xs)).toList := by
  rw [renderItems, String.toList_append, String.toList_append, List.append_assoc]
  rfl

/-- The items of an array start like a value. -/
private theorem starts_renderItems {x : Json} (h : x.isPlain = true) (xs : List Json) :
    Starts (renderItems (x :: xs)).toList := by
  cases xs with
  | nil => exact starts_render h
  | cons y xs =>
    obtain ⟨c, rest, htext, hc⟩ := starts_render h
    rw [toList_renderItems, htext]
    exact ⟨c, _, rfl, hc⟩

/-- The items of an array are read up to its closing bracket. -/
private theorem readItems_render {x : Json} {xs : List Json} (hreads : ∀ y ∈ x :: xs, Reads y)
    (hplain : ∀ y ∈ x :: xs, y.isPlain = true) (fuel : Nat) (acc : List Json) (rest : List Char)
    (hfuel : (renderItems (x :: xs)).toList.length ≤ fuel) :
    readItems (fuel + 1) acc ((renderItems (x :: xs)).toList ++ ']' :: rest) =
      .ok (arr (acc.reverse ++ x :: xs), rest) := by
  -- along the items; those that were read before vary
  induction xs generalizing x fuel acc with
  | nil =>
    rw [renderItems] at hfuel ⊢
    have hx := hreads x (by simp) fuel (']' :: rest) hfuel (stops_cons (by simp) rest)
    rw [readItems, hx]
    simp [bind, Except.bind, skipBlanks_mark, isBlankChar, pure, Except.pure]
  | cons y xs ih =>
    rw [toList_renderItems, List.length_append, List.length_cons] at hfuel
    rw [toList_renderItems, List.append_assoc, List.cons_append]
    -- the first item, then the separator, then the others with what is left of the fuel
    have hx := hreads x (by simp) fuel (',' :: ((renderItems (y :: xs)).toList ++ ']' :: rest))
      (by omega) (stops_cons (by simp) _)
    have hblank := (starts_renderItems (hplain y (by simp)) xs).skipBlanks (']' :: rest)
    obtain ⟨fuel, rfl⟩ : ∃ k, fuel = k + 1 := ⟨fuel - 1, by omega⟩
    have hrest := ih (x := y) (fun z hz => hreads z (List.mem_cons_of_mem _ hz))
      (fun z hz => hplain z (List.mem_cons_of_mem _ hz)) fuel (x :: acc) (by omega)
    rw [readItems, hx]
    simp [bind, Except.bind, skipBlanks_mark, isBlankChar, hblank, hrest]

/-- An array is read back if its items are. -/
theorem reads_arr {xs : List Json} (hreads : ∀ x ∈ xs, Reads x)
    (hplain : ∀ x ∈ xs, x.isPlain = true) : Reads (arr xs) := by
  refine Reads.of_succ (toList_render_arr xs) fun fuel rest hfuel _ => ?_
  rw [List.append_assoc, List.singleton_append]
  cases xs with
  | nil => rfl
  | cons x xs =>
    -- the first item starts like a value, so that it is not taken for the closing bracket
    have hstarts := starts_renderItems (hplain x (by simp)) xs
    rw [List.length_append, List.length_singleton] at hfuel
    obtain ⟨fuel, rfl⟩ : ∃ k, fuel = k + 1 := ⟨fuel - 1, by omega⟩
    have hitems := readItems_render hreads hplain fuel [] rest (by omega)
    have hblank := hstarts.skipBlanks (']' :: rest)
    obtain ⟨c, text, htext, -, hc, -⟩ := hstarts
    rw [htext, List.cons_append] at hblank hitems ⊢
    rw [readValue.eq_def]
    simp [hblank, hc, hitems]

/-! ### Objects -/

private theorem toList_render_obj (fields : List (String × Json)) :
    (render (obj fields)).toList = '\x7b' :: ((renderFields fields).toList ++ ['\x7d']) := by
  rw [render, String.toList_append, String.toList_append]
  rfl

/-- A field of an object: the quoted key, a colon and the value, then `more`. -/
private def fieldText (k : String) (v : Json) (more : List Char) : List Char :=
  '"' :: (k.toList.flatMap escapeChar ++ '"' :: ':' :: ((render v).toList ++ more))

private theorem toList_renderFields_single (k : String) (v : Json) (more : List Char) :
    (renderFields [(k, v)]).toList ++ more = fieldText k v more := by
  simp [renderFields, toList_quote, fieldText]

private theorem toList_renderFields_cons (k : String) (v : Json) (f : String × Json)
    (fields : List (String × Json)) (more : List Char) :
    (renderFields ((k, v) :: f :: fields)).toList ++ more =
      fieldText k v (',' :: ((renderFields (f :: fields)).toList ++ more)) := by
  simp [renderFields, toList_quote, fieldText]

/-- A key that an object does not have is set at the end. -/
private theorem setField_new {κ : Type} [BEq κ] [LawfulBEq κ] {acc : List (κ × Json)} {k : κ}
    (v : Json) (h : k ∉ acc.map Prod.fst) : setField acc k v = acc ++ [(k, v)] := by
  induction acc with
  | nil => rfl
  | cons f acc ih =>
    obtain ⟨k', v'⟩ := f
    simp only [List.map_cons, List.mem_cons, not_or] at h
    rw [setField, if_neg (by simpa using Ne.symm h.1), ih h.2, List.cons_append]

/-- One field is read, and what follows it decides whether there are more. -/
private theorem readFields_field {v : Json} (hv : Reads v) (hplain : v.isPlain = true)
    {fuel : Nat} (hfuel : (render v).toList.length ≤ fuel) {more : List Char} (hmore : Stops more)
    (k : String) (acc : List (List CodePoint × Json)) :
    readFields (fuel + 1) acc (fieldText k v more) =
      match skipBlanks more with
      | '\x7d' :: after => .ok (ofFields (setField acc (CodePoint.ofString k) v), after)
      | ',' :: after => readFields fuel (setField acc (CodePoint.ofString k) v) (skipBlanks after)
      | other => .error ⟨.comma, other⟩ := by
  rw [fieldText, readFields]
  simp only [readString_quote, bind, Except.bind,
    skipBlanks_mark (show isBlankChar ':' = false by rfl),
    (starts_render hplain).skipBlanks more, hv fuel more hfuel hmore]
  rfl

/-- A field by the code points of its key, which is how the reader keeps it. -/
private def pointField (f : String × Json) : List CodePoint × Json :=
  (CodePoint.ofString f.1, f.2)

/-- A key that is not among those read before is set behind them. -/
private theorem setField_map_pointField {acc : List (String × Json)} {k : String} (v : Json)
    (h : k ∉ acc.map Prod.fst) :
    setField (acc.map pointField) (CodePoint.ofString k) v =
      (acc ++ [(k, v)]).map pointField := by
  rw [setField_new v, List.map_append]
  · rfl
  · simp only [List.map_map, List.mem_map, not_exists, not_and]
    intro f hf hkey
    -- keys with the same code points are the same text
    have htext := congrArg CodePoint.text? hkey
    simp only [Function.comp_apply, pointField, text?_ofString, Option.some.injEq] at htext
    exact h (List.mem_map.mpr ⟨f, hf, htext⟩)

/-- A key that is not repeated is not among those before it. -/
private theorem not_mem_of_nodup {acc fields : List (String × Json)} {k : String} {v : Json}
    (h : ((acc ++ (k, v) :: fields).map Prod.fst).Nodup) : k ∉ acc.map Prod.fst := by
  rw [List.map_append, List.nodup_append] at h
  intro hk
  exact h.2.2 k hk k (by simp) rfl

/-- The fields of an object start with a quote. -/
private theorem starts_renderFields (f : String × Json) (fields : List (String × Json)) :
    ∃ rest, (renderFields (f :: fields)).toList = '"' :: rest := by
  obtain ⟨k, v⟩ := f
  cases fields with
  | nil => exact ⟨_, (List.append_nil _).symm.trans (toList_renderFields_single k v [])⟩
  | cons g fields =>
    exact ⟨_, (List.append_nil _).symm.trans (toList_renderFields_cons k v g fields [])⟩

/-- The fields of an object are read up to its closing brace; no key is among those that
    were read before. -/
private theorem readFields_render {f : String × Json} {fields : List (String × Json)}
    (hreads : ∀ g ∈ f :: fields, Reads g.2) (hplain : ∀ g ∈ f :: fields, g.2.isPlain = true)
    (fuel : Nat) (acc : List (String × Json)) (rest : List Char)
    (hkeys : ((acc ++ f :: fields).map Prod.fst).Nodup)
    (hfuel : (renderFields (f :: fields)).toList.length ≤ fuel) :
    readFields (fuel + 1) (acc.map pointField)
        ((renderFields (f :: fields)).toList ++ '\x7d' :: rest) =
      .ok (obj (acc ++ f :: fields), rest) := by
  -- along the fields; those that were read before vary, and so do their keys
  induction fields generalizing f fuel acc with
  | nil =>
    obtain ⟨k, v⟩ := f
    have hv : Reads v := hreads (k, v) (by simp)
    have hvplain : v.isPlain = true := hplain (k, v) (by simp)
    have hlength := congrArg List.length (toList_renderFields_single k v [])
    simp only [fieldText, List.append_nil, List.length_cons, List.length_append] at hlength
    rw [toList_renderFields_single, readFields_field hv hvplain (by omega)
      (stops_cons (by simp) rest), skipBlanks_mark (by rfl),
      setField_map_pointField v (not_mem_of_nodup hkeys)]
    exact congrArg (fun j => Except.ok (j, rest)) (ofFields_map_ofString _)
  | cons g fields ih =>
    obtain ⟨k, v⟩ := f
    have hv : Reads v := hreads (k, v) (by simp)
    have hvplain : v.isPlain = true := hplain (k, v) (by simp)
    have hlength := congrArg List.length (toList_renderFields_cons k v g fields [])
    simp only [fieldText, List.append_nil, List.length_cons, List.length_append] at hlength
    obtain ⟨fuel, rfl⟩ : ∃ m, fuel = m + 1 := ⟨fuel - 1, by omega⟩
    -- the key just read joins those before, and the other fields start with a quote
    have hrest := ih (f := g) (fun z hz => hreads z (List.mem_cons_of_mem _ hz))
      (fun z hz => hplain z (List.mem_cons_of_mem _ hz)) fuel (acc ++ [(k, v)])
      (by simpa using hkeys) (by omega)
    obtain ⟨more, hmore⟩ := starts_renderFields g fields
    rw [toList_renderFields_cons, readFields_field hv hvplain (by omega)
      (stops_cons (by simp) _), skipBlanks_mark (by rfl),
      setField_map_pointField v (not_mem_of_nodup hkeys)]
    simp only [hmore, List.cons_append, skipBlanks_mark (show isBlankChar '"' = false by rfl)]
    rw [hmore, List.cons_append] at hrest
    rw [hrest, List.append_assoc, List.singleton_append]

/-- An object is read back if its values are, and if no key is repeated. -/
theorem reads_obj {fields : List (String × Json)} (hreads : ∀ f ∈ fields, Reads f.2)
    (hplain : ∀ f ∈ fields, f.2.isPlain = true) (hkeys : (fields.map Prod.fst).Nodup) :
    Reads (obj fields) := by
  refine Reads.of_succ (toList_render_obj fields) fun fuel rest hfuel _ => ?_
  rw [List.append_assoc, List.singleton_append]
  cases fields with
  | nil => rfl
  | cons f fields =>
    rw [List.length_append, List.length_singleton] at hfuel
    obtain ⟨fuel, rfl⟩ : ∃ m, fuel = m + 1 := ⟨fuel - 1, by omega⟩
    have hfields := readFields_render hreads hplain fuel [] rest (by simpa using hkeys) (by omega)
    obtain ⟨more, hmore⟩ := starts_renderFields f fields
    rw [hmore, List.cons_append, List.map_nil] at hfields
    rw [hmore, List.cons_append, readValue.eq_def]
    simp [skipBlanks_mark, isBlankChar, hfields]

/-! ### Whole texts -/

/-- The reader takes the text of a value and nothing else. -/
theorem reads_of_isPlain (j : Json) (hplain : j.isPlain = true) (hwritable : j.isWritable = true) :
    Reads j := by
  -- along the value: its parts are plain and can be written as well
  induction j using Json.induction with
  | null => exact reads_null
  | bool b => exact reads_bool b
  | int n => exact reads_int hwritable
  | float x => simp [isPlain] at hplain
  | str s => exact reads_str s
  | arr xs ih =>
    rw [isPlain, arePlain_iff] at hplain
    rw [isWritable, areWritable_iff] at hwritable
    exact reads_arr (fun x hx => ih x hx (hplain x hx) (hwritable x hx)) hplain
  | obj fields ih =>
    rw [isPlain, Bool.and_eq_true, decide_eq_true_iff, arePlainFields_iff] at hplain
    rw [isWritable, areWritableFields_iff] at hwritable
    exact reads_obj (fun f hf => ih f hf (hplain.2 f hf) (hwritable f hf)) hplain.2 hplain.1
  | loose points => simp [isPlain] at hplain
  | looseObj fields ih => simp [isPlain] at hplain

/-- The text of a value is read as that value. -/
theorem readChars_render {j : Json} (hplain : j.isPlain = true)
    (hwritable : j.isWritable = true) : readChars (render j).toList = .ok j := by
  have hread := reads_of_isPlain _ hplain hwritable
    (2 * (render j).toList.length + 2) [] (by omega) (by simp [Stops])
  have hstarts := starts_render hplain
  have hblank := hstarts.skipBlanks []
  rw [List.append_nil] at hread hblank
  rw [readChars.eq_def]
  split
  · -- no written value starts with a byte order mark
    next htext =>
    obtain ⟨c, text, hc, -, -, hmark⟩ := hstarts
    rw [hc] at htext
    exact absurd (List.cons.inj htext).1 hmark
  · rw [hblank, hread]
    rfl

end ReplEngine.Json
