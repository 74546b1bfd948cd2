import ReplEngine.Proofs.Value.Arranged

/-!
# Reading displays from tokens

Which tokens spell which value, whatever tokens follow.  The parts of a display are spelled one
by one, so that a display is spelled by the spellings of its parts with commas between them,
and one more comma or none behind the last.

## Key results

- `readParts_joined`: the parts of a display are read one by one
- `Spells.list`, `Spells.tuple`, `Spells.set`, `Spells.frozenset`, `Spells.dict`: the spellings of
  collections
-/

namespace ReplEngine.Literal

open Scan (Bracket)
open Value (areKeys areKeys_iff Differ)

/-! ### Spellings -/

/-- The tokens are read as the value, and no token behind them is touched. -/
def Spells (ts : List Token) (v : Value) : Prop :=
  ∀ fuel rest, 3 * ts.length < fuel → readValue fuel (ts ++ rest) = some (v, rest)

/-- The tokens are read as one part of a display, up to a token that is no colon. -/
def SpellsPart (ts : List Token) (part : Part) : Prop :=
  ∀ fuel rest, 3 * ts.length + 1 < fuel → rest.head? ≠ some .colon →
    readPart fuel (ts ++ rest) = some (part, rest)

/-- A value that is one token. -/
theorem Spells.atom (v : Value) : Spells [.atom v] v := by
  rintro (_ | fuel) rest h
  · simp at h
  · rfl

/-- A value is spelled by one token at least, and the first closes no bracket. -/
theorem Spells.head {ts : List Token} {v : Value} (h : Spells ts v) :
    ∃ t more, ts = t :: more ∧ ∀ b, t ≠ .closing b := by
  -- read with nothing behind, it must still be a value
  have hread := h (3 * ts.length + 1) [] (Nat.lt_succ_self _)
  cases ts with
  | nil => simp [readValue] at hread
  | cons t more =>
    refine ⟨t, more, rfl, ?_⟩
    rintro b rfl
    simp [readValue] at hread

theorem SpellsPart.head {ts : List Token} {part : Part} (h : SpellsPart ts part) :
    ∃ t more, ts = t :: more ∧ ∀ b, t ≠ .closing b := by
  have hread := h (3 * ts.length + 2) [] (Nat.lt_succ_self _) (by simp)
  cases ts with
  | nil => simp [readPart, readValue] at hread
  | cons t more =>
    refine ⟨t, more, rfl, ?_⟩
    rintro b rfl
    simp [readPart, readValue] at hread

/-- A value is a part. -/
theorem Spells.item {ts : List Token} {v : Value} (h : Spells ts v) :
    SpellsPart ts (.item v) := by
  rintro (_ | fuel) rest hfuel hrest
  · omega
  · rw [readPart, h fuel rest (by omega)]
    -- what follows is no colon, so that the part is over
    rcases rest with _ | ⟨t, rest⟩
    · rfl
    · cases t <;> simp_all

/-- Two values with a colon between them are an entry. -/
theorem Spells.entry {ks vs : List Token} {key value : Value} (hkey : Spells ks key)
    (hvalue : Spells vs value) : SpellsPart (ks ++ .colon :: vs) (.entry key value) := by
  rintro (_ | fuel) rest hfuel _
  · omega
  · rw [List.length_append, List.length_cons] at hfuel
    rw [List.append_assoc, List.cons_append, readPart, hkey fuel _ (by omega)]
    simp only [Option.bind_eq_bind, Option.bind_some, hvalue fuel rest (by omega)]
    rfl

/-! ### Parts -/

/-- Spellings with commas between them, and one behind the last or none. -/
def joined : List (List Token) → (comma : Bool) → List Token
  | [], _ => []
  | [ts], comma => if comma then ts ++ [.comma] else ts
  | ts :: more, comma => ts ++ .comma :: joined more comma

theorem joined_cons_cons (ts us : List Token) (more : List (List Token)) (comma : Bool) :
    joined (ts :: us :: more) comma = ts ++ .comma :: joined (us :: more) comma :=
  rfl

/-- The last part, with the bracket right behind it. -/
theorem SpellsPart.readParts_closing {ts : List Token} {part : Part} (h : SpellsPart ts part)
    (bracket : Bracket) {fuel : Nat} (hfuel : 3 * ts.length + 1 < fuel) (rest : List Token) :
    readParts (fuel + 1) bracket (ts ++ .closing bracket :: rest) = some ([part], false, rest) := by
  obtain ⟨t, more, rfl, ht⟩ := h.head
  have hread := h fuel (.closing bracket :: rest) hfuel (by simp)
  rw [List.cons_append] at hread ⊢
  rw [readParts, hread]
  · simp
  · exact fun b _ heq => ht b (List.cons.inj heq).1

/-- A part with a comma behind it, and what is read behind that. -/
theorem SpellsPart.readParts_comma {ts : List Token} {part : Part} (h : SpellsPart ts part)
    {bracket : Bracket} {fuel : Nat} (hfuel : 3 * ts.length + 1 < fuel) {rest rest' : List Token}
    {parts : List Part} {comma : Bool}
    (hmore : readParts fuel bracket rest = some (parts, comma, rest')) :
    readParts (fuel + 1) bracket (ts ++ .comma :: rest) =
      some (part :: parts, comma || parts.isEmpty, rest') := by
  obtain ⟨t, more, rfl, ht⟩ := h.head
  have hread := h fuel (.comma :: rest) hfuel (by simp)
  rw [List.cons_append] at hread ⊢
  rw [readParts, hread]
  · simp [hmore]
  · exact fun b _ heq => ht b (List.cons.inj heq).1

/-- The parts of a display are read one by one, up to the bracket that closes it. -/
theorem readParts_joined {tss : List (List Token)} {parts : List Part}
    (h : List.Forall₂ SpellsPart tss parts) {comma : Bool} (hcomma : parts = [] → comma = false)
    (bracket : Bracket) (fuel : Nat) (rest : List Token)
    (hfuel : 3 * (joined tss comma).length + 2 < fuel) :
    readParts fuel bracket (joined tss comma ++ .closing bracket :: rest) =
      some (parts, comma, rest) := by
  -- on the parts; each needs a step for itself
  induction h generalizing fuel with
  | nil =>
    obtain _ | fuel := fuel
    · omega
    · simp [joined, readParts, hcomma]
  | @cons ts part tss parts hpart hparts ih =>
    obtain _ | fuel := fuel
    · omega
    cases hparts with
    | nil =>
      cases comma with
      | false =>
        rw [joined] at hfuel ⊢
        rw [if_neg (by simp)] at hfuel ⊢
        exact hpart.readParts_closing bracket (by omega) rest
      | true =>
        -- behind the comma there is nothing left to read but the bracket
        rw [joined] at hfuel ⊢
        rw [if_pos rfl] at hfuel ⊢
        rw [List.length_append, List.length_singleton] at hfuel
        rw [List.append_assoc, List.singleton_append]
        have hclose : readParts fuel bracket (.closing bracket :: rest) =
            some ([], false, rest) := by
          obtain _ | fuel := fuel
          · omega
          · simp [readParts]
        exact hpart.readParts_comma (by omega) hclose
    | @cons us part' tss' parts' hpart' hparts' =>
      -- another part follows behind the comma
      rw [joined_cons_cons] at hfuel ⊢
      rw [List.length_append, List.length_cons] at hfuel
      rw [List.append_assoc, List.cons_append,
        hpart.readParts_comma (by omega) (ih (by simp) fuel (by omega))]
      simp

/-! ### Displays -/

/-- A display is spelled by its brackets around the spellings of its parts. -/
theorem Spells.display {bracket : Bracket} {tss : List (List Token)} {parts : List Part}
    (h : List.Forall₂ SpellsPart tss parts) {comma : Bool} (hcomma : parts = [] → comma = false)
    {v : Value} (hv : assemble? bracket parts comma = some v) :
    Spells (.opening bracket :: (joined tss comma ++ [.closing bracket])) v := by
  rintro (_ | fuel) rest hfuel
  · omega
  · rw [List.length_cons, List.length_append, List.length_singleton] at hfuel
    rw [List.cons_append, List.append_assoc, List.singleton_append, readValue,
      readParts_joined h hcomma bracket fuel rest (by omega)]
    simp [hv]

/-- Items are parts that are no entries. -/
private theorem mapM_item? (items : List Value) :
    (items.map Part.item).mapM Part.item? = some items := by
  induction items with
  | nil => rfl
  | cons v items ih => simp [Part.item?, ih]

/-- Entries are parts that are entries. -/
private theorem mapM_entry? (entries : List (Value × Value)) :
    (entries.map fun e => Part.entry e.1 e.2).mapM Part.entry? = some entries := by
  induction entries with
  | nil => rfl
  | cons e entries ih => simp [Part.entry?, ih]

/-- Members of one set are all kept, in their order. -/
theorem foldl_addMember {acc items : List Value} (h : (acc ++ items).Pairwise Differ) :
    items.foldl addMember acc = acc ++ items := by
  -- on the members that are still to be added
  induction items generalizing acc with
  | nil => rw [List.foldl_nil, List.append_nil]
  | cons v items ih =>
    -- the next differs from all before it
    have hnew : acc.any (·.same v) = false := by
      rw [List.any_eq_false]
      intro w hw
      have hdiffer := (List.pairwise_append.mp h).2.2 w hw v (by simp)
      rw [hdiffer.1]
      exact Bool.false_ne_true
    rw [List.append_cons] at h ⊢
    rw [List.foldl_cons, addMember, hnew, if_neg (by simp), ih h]

/-- A new key is added at the end. -/
theorem addEntry_new {entries : List (Value × Value)} {e : Value × Value}
    (h : ∀ f ∈ entries, f.1.same e.1 = false) : addEntry entries e = entries ++ [e] := by
  induction entries with
  | nil => rfl
  | cons f entries ih =>
    obtain ⟨key, value⟩ := f
    have hkey : key.same e.1 = false := h _ List.mem_cons_self
    rw [addEntry, hkey, if_neg (by simp), ih fun f hf => h f (List.mem_cons_of_mem _ hf)]
    rfl

/-- Entries with keys that differ are all kept, in their order. -/
theorem foldl_addEntry {acc entries : List (Value × Value)}
    (h : (acc ++ entries).Pairwise fun e f => Differ e.1 f.1) :
    entries.foldl addEntry acc = acc ++ entries := by
  induction entries generalizing acc with
  | nil => rw [List.foldl_nil, List.append_nil]
  | cons e entries ih =>
    have hnew : addEntry acc e = acc ++ [e] :=
      addEntry_new fun f hf => ((List.pairwise_append.mp h).2.2 f hf e (by simp)).1
    rw [List.append_cons] at h ⊢
    rw [List.foldl_cons, hnew, ih h]

section Collections

variable {tss : List (List Token)} {items : List Value}

/-- Values are spelled as items. -/
private theorem spellsParts_items (h : List.Forall₂ Spells tss items) :
    List.Forall₂ SpellsPart tss (items.map Part.item) := by
  rw [List.forall₂_map_right_iff]
  exact h.imp fun _ _ => Spells.item

/-- Square brackets make a list. -/
theorem Spells.list (h : List.Forall₂ Spells tss items) {comma : Bool}
    (hcomma : items = [] → comma = false) :
    Spells (.opening .square :: (joined tss comma ++ [.closing .square])) (.list items) := by
  refine .display (spellsParts_items h) (fun hnil => hcomma (List.map_eq_nil_iff.mp hnil)) ?_
  rw [assemble?, mapM_item?]
  rfl

/-- The comma behind its one item tells a tuple from a value in parentheses. -/
theorem Spells.tuple (h : List.Forall₂ Spells tss items) {comma : Bool}
    (hcomma : items = [] → comma = false) (hone : items.length = 1 → comma = true) :
    Spells (.opening .round :: (joined tss comma ++ [.closing .round])) (.tuple items) := by
  refine .display (spellsParts_items h) (fun hnil => hcomma (List.map_eq_nil_iff.mp hnil)) ?_
  simp only [assemble?, mapM_item?]
  -- only one item without a comma would be taken out of the parentheses
  match items, comma, hone with
  | [v], true, _ => rfl
  | [v], false, hone => simp at hone
  | [], _, _ => rfl
  | _ :: _ :: _, _, _ => rfl

/-- Items in curly brackets make a set, if they can be its members. -/
theorem Spells.set (h : List.Forall₂ Spells tss items) (hne : items ≠ [])
    (hkeys : areKeys items = true) (comma : Bool) :
    Spells (.opening .curly :: (joined tss comma ++ [.closing .curly])) (.set items) := by
  obtain ⟨hall, hdiffer⟩ := areKeys_iff.mp hkeys
  refine .display (spellsParts_items h)
    (fun hnil => absurd (List.map_eq_nil_iff.mp hnil) hne) ?_
  obtain ⟨v, more, rfl⟩ := List.exists_cons_of_ne_nil hne
  -- no member is dropped as equal to another
  have hfold : (v :: more).foldl addMember [] = v :: more := by
    rw [foldl_addMember, List.nil_append]
    exact hdiffer
  rw [List.map_cons, assemble?, ← List.map_cons, mapM_item?]
  simp only [Option.bind_eq_bind, Option.bind_some, List.all_eq_true.mpr hall, if_true, hfold]
  rfl

/-- Entries in curly brackets make a mapping, and so does nothing at all. -/
theorem Spells.dict {entries : List (Value × Value)}
    (h : List.Forall₂ (fun ts e => SpellsPart ts (.entry e.1 e.2)) tss entries)
    (hkeys : areKeys (entries.map (·.1)) = true) {comma : Bool}
    (hcomma : entries = [] → comma = false) :
    Spells (.opening .curly :: (joined tss comma ++ [.closing .curly])) (.dict entries) := by
  obtain ⟨hall, hdiffer⟩ := areKeys_iff.mp hkeys
  refine .display (List.forall₂_map_right_iff.mpr h)
    (fun hnil => hcomma (List.map_eq_nil_iff.mp hnil)) ?_
  have hall' : entries.all (isKey ·.1) = true := by
    rw [List.all_eq_true]
    exact fun e he => hall _ (List.mem_map_of_mem he)
  have hfold : entries.foldl addEntry [] = entries := by
    rw [foldl_addEntry, List.nil_append]
    exact List.pairwise_map.mp hdiffer
  have hentries := mapM_entry? entries
  -- an empty display is a mapping, and so is one that starts with an entry
  cases entries with
  | nil => rfl
  | cons e entries =>
    rw [List.map_cons] at hentries ⊢
    rw [assemble?, hentries]
    · simp only [Option.bind_eq_bind, Option.bind_some, hall', if_true, hfold]
      rfl
    · exact fun _ _ heq => Part.noConfusion (List.cons.inj heq).1

end Collections

/-- The name of a class with nothing in its parentheses makes an empty set. -/
theorem Spells.className (frozen : Bool) :
    Spells [.className frozen, .opening .round, .closing .round]
      (if frozen then .frozenset [] else .set []) := by
  rintro (_ | fuel) rest hfuel
  · simp at hfuel
  · cases frozen <;> rfl

/-- With a set in its parentheses it makes a frozen set. -/
theorem Spells.frozenset {ts : List Token} {members : List Value} (h : Spells ts (.set members)) :
    Spells (.className true :: .opening .round :: (ts ++ [.closing .round]))
      (.frozenset members) := by
  obtain ⟨t, more, hts, ht⟩ := h.head
  rintro (_ | fuel) rest hfuel
  · omega
  · rw [List.length_cons, List.length_cons, List.length_append] at hfuel
    have hread := h fuel (.closing .round :: rest) (by omega)
    simp only [List.cons_append, List.append_assoc, List.nil_append]
    rw [readValue, hread]
    · rfl
    · -- the parentheses are not empty
      rintro _ heq
      rw [hts] at heq
      exact ht _ (List.cons.inj heq).1

end ReplEngine.Literal
