import Mathlib.Data.Int.Order.Basic
import Mathlib.Data.List.Lex
import Mathlib.Data.List.Nodup
import ReplEngine.Proofs.Value.Sorted

/-!
# Kinds of values with an order

Integers are ordered among themselves, and so are texts, bytes, and tuples of one length whose
components at each place are of one such kind.  A value of such a kind is given a rank, the list
of the numbers that it is compared by: an integer is one number, a text the numbers of its
characters, a tuple what its components are, one after the other.  Since all tuples of a kind have
components of the same lengths, comparing ranks place by place is comparing the values.

## Key results

- `ranked`: values of a kind are compared by their ranks
- `shownOrder_eq_of_perm`: members of a kind are shown in one order, however they are arranged
-/

namespace ReplEngine.Value

/-- A kind of values that have an order. -/
inductive Kind where
  /-- Integers; truth values are among them. -/
  | integer
  | text
  | bytes
  /-- Tuples of one length, with components of one kind at each place. -/
  | tuple (kinds : List Kind)

namespace Kind

mutual

/-- Whether a value is of a kind. -/
def admits : Kind → Value → Bool
  | integer, .int _ | integer, .bool _ | text, .str _ | bytes, .bytes _ => true
  | tuple kinds, .tuple items => admitsAll kinds items
  | _, _ => false

/-- Whether the items of a list are of the given kinds, one by one. -/
def admitsAll : List Kind → List Value → Bool
  | [], [] => true
  | kind :: kinds, v :: items => kind.admits v && admitsAll kinds items
  | _, _ => false

end

mutual

/-- The number of things that a value of a kind is compared by. -/
def places : Kind → Nat
  | tuple kinds => placesAll kinds
  | _ => 1

@[inherit_doc places]
def placesAll : List Kind → Nat
  | [] => 0
  | kind :: kinds => kind.places + placesAll kinds

end

end Kind

mutual

/-- What a value is compared by, for values that are of a kind. -/
def rank : Value → List (List Int)
  | int n => [[n]]
  | bool b => [[if b then 1 else 0]]
  | str s => [s.toList.map fun c => (c.toNat : Int)]
  | bytes b => [b.map fun x => (x.toNat : Int)]
  | tuple items => rankItems items
  | _ => []

@[inherit_doc rank]
def rankItems : List Value → List (List Int)
  | [] => []
  | v :: items => rank v ++ rankItems items

end

/-- The values are compared by their ranks. -/
structure Ranked (a b : Value) : Prop where
  same : a.same b = true ↔ a.rank = b.rank
  less : ∃ before, a.less? b = some before ∧ (before = true ↔ a.rank < b.rank)

/-- The items are compared by their ranks. -/
structure RankedItems (xs ys : List Value) : Prop where
  same : sameItems xs ys = true ↔ rankItems xs = rankItems ys
  less : ∃ before, lessItems? xs ys = some before ∧
    (before = true ↔ rankItems xs < rankItems ys)

/-- Lists that start with parts of one length are compared by these first. -/
theorem append_lt_append_iff {a b c d : List (List Int)} (h : a.length = b.length) :
    a ++ c < b ++ d ↔ a < b ∨ a = b ∧ c < d := by
  -- on the first parts, place by place
  induction a generalizing b with
  | nil =>
    cases b with
    | nil => simp
    | cons y b => simp at h
  | cons x a ih =>
    cases b with
    | nil => simp at h
    | cons y b =>
      simp only [List.cons_append, List.cons_lt_cons_iff, ih (by simpa using h), List.cons.injEq]
      tauto

/-- Texts and bytes are compared by the numbers of their characters. -/
theorem lessBy_iff {α : Type} (f : α → Nat) (xs ys : List α) :
    lessBy (fun c d => f c < f d) xs ys = true ↔
      xs.map (fun c => (f c : Int)) < ys.map fun c => (f c : Int) := by
  -- up to the first place where they differ
  induction xs generalizing ys with
  | nil => cases ys <;> simp [lessBy]
  | cons x xs ih =>
    cases ys with
    | nil => simp [lessBy]
    | cons y ys =>
      simp only [lessBy, List.map_cons, List.cons_lt_cons_iff]
      by_cases hxy : f x < f y
      · simp [hxy]
      · by_cases hyx : f y < f x
        · simp [hxy, hyx]
          omega
        · have heq : f x = f y := by omega
          simp [heq, ih]

/-! ### Integers, texts and bytes -/

theorem less_integers (m n : Int) :
    (Exact.finite m 0).less (.finite n 0) = decide (m < n) := by
  simp [Exact.less, Decimal.binaryPower]

theorem equal_integers (m n : Int) :
    (Exact.finite m 0).equal (.finite n 0) = decide (m = n) := by
  -- equal is what is less in neither way
  rw [Exact.equal, less_integers, less_integers, Bool.eq_iff_iff]
  · simp
    omega
  · simp
  · simp

/-- Numbers are compared by what they stand for. -/
theorem less?_numbers {a b : Value} {x y : Exact} (ha : a.number? = some x)
    (hb : b.number? = some y) : a.less? b = some (x.less y) := by
  -- only numbers stand for anything
  cases a <;> simp only [number?, Option.some.injEq, reduceCtorEq] at ha
  all_goals
    cases b <;> simp only [number?, Option.some.injEq, reduceCtorEq] at hb
    all_goals simp [less?, number?, plain, ha, hb]

@[inherit_doc less?_numbers]
theorem same_numbers {a b : Value} {x y : Exact} (ha : a.number? = some x)
    (hb : b.number? = some y) : a.same b = x.equal y := by
  cases a <;> simp only [number?, Option.some.injEq, reduceCtorEq] at ha
  all_goals
    cases b <;> simp only [number?, Option.some.injEq, reduceCtorEq] at hb
    all_goals simp [same, number?, plain, ha, hb]

/-- An integer or a truth value is a whole number. -/
theorem exists_of_integer {v : Value} (h : Kind.integer.admits v = true) :
    ∃ n, v.number? = some (.finite n 0) ∧ v.rank = [[n]] := by
  cases v <;> simp only [Kind.admits, Bool.false_eq_true] at h
  case bool b => exact ⟨_, rfl, by rw [rank]⟩
  case int n => exact ⟨n, rfl, by rw [rank]⟩

/-- A text is a string. -/
theorem exists_of_text {v : Value} (h : Kind.text.admits v = true) : ∃ s, v = str s := by
  cases v <;> simp [Kind.admits] at h
  exact ⟨_, rfl⟩

/-- Bytes are a byte string. -/
theorem exists_of_bytes {v : Value} (h : Kind.bytes.admits v = true) : ∃ b, v = bytes b := by
  cases v <;> simp [Kind.admits] at h
  exact ⟨_, rfl⟩

/-- A tuple has components of its kinds. -/
theorem exists_of_tuple {kinds : List Kind} {v : Value} (h : (Kind.tuple kinds).admits v = true) :
    ∃ items, v = tuple items ∧ Kind.admitsAll kinds items = true := by
  cases v <;> simp only [Kind.admits, Bool.false_eq_true] at h
  exact ⟨_, rfl, h⟩

/-- Values that are compared by one list of numbers each. -/
theorem Ranked.of_single {a b : Value} {xs ys : List Int} {before : Bool} (ha : a.rank = [xs])
    (hb : b.rank = [ys]) (hsame : a.same b = true ↔ xs = ys) (hless : a.less? b = some before)
    (hbefore : before = true ↔ xs < ys) : Ranked a b := by
  constructor
  · rw [hsame, ha, hb, List.cons.injEq]
    simp
  · refine ⟨before, hless, ?_⟩
    rw [hbefore, ha, hb, List.cons_lt_cons_iff]
    simp

/-- Integers are compared by their ranks. -/
theorem ranked_integers {a b : Value} (ha : Kind.integer.admits a = true)
    (hb : Kind.integer.admits b = true) : Ranked a b := by
  obtain ⟨m, hm, hranka⟩ := exists_of_integer ha
  obtain ⟨n, hn, hrankb⟩ := exists_of_integer hb
  apply Ranked.of_single hranka hrankb _ (less?_numbers hm hn)
  · simp [less_integers, List.cons_lt_cons_iff]
  · simp [same_numbers hm hn, equal_integers]

theorem ranked_texts (s t : String) : Ranked (str s) (str t) := by
  -- characters are told apart by their numbers
  have hcodes : s.toList.map (fun c => (c.toNat : Int)) = t.toList.map (fun c => (c.toNat : Int)) ↔
      s.toList = t.toList :=
    List.map_inj_right fun c d h => Char.toNat_inj.mp (by omega)
  apply Ranked.of_single (by rw [rank]) (by rw [rank]) _ (by rw [less?]; rfl)
    (lessBy_iff Char.toNat s.toList t.toList)
  rw [hcodes, String.toList_inj]
  simp [same, plain]

theorem ranked_bytes (s t : List UInt8) : Ranked (bytes s) (bytes t) := by
  have hcodes : s.map (fun b => (b.toNat : Int)) = t.map (fun b => (b.toNat : Int)) ↔ s = t :=
    List.map_inj_right fun c d h => UInt8.toNat_inj.mp (by omega)
  apply Ranked.of_single (by rw [rank]) (by rw [rank]) _ (by rw [less?]; rfl)
    (lessBy_iff UInt8.toNat s t)
  rw [hcodes]
  simp [same, plain]

/-! ### Tuples -/

/-- Tuples are compared as their components are. -/
theorem ranked_tuples {xs ys : List Value} (h : RankedItems xs ys) :
    Ranked (tuple xs) (tuple ys) := by
  constructor
  · rw [rank, rank, ← h.same, same]
    simp [plain, tupleItems?]
  · rw [rank, rank, less?]
    exact h.less

/-- Without components there is nothing to compare. -/
theorem rankedItems_nil : RankedItems [] [] := by
  constructor
  · simp [sameItems, rankItems]
  · exact ⟨false, by rw [lessItems?]; rfl, by simp [rankItems]⟩

/-- The first items are compared before the others. -/
theorem rankedItems_cons {x y : Value} {xs ys : List Value} (h : Ranked x y)
    (hlength : x.rank.length = y.rank.length) (hitems : RankedItems xs ys) :
    RankedItems (x :: xs) (y :: ys) := by
  constructor
  · rw [sameItems, Bool.and_eq_true, h.same, hitems.same, rankItems, rankItems]
    constructor
    · intro heq
      rw [heq.1, heq.2]
    · exact fun heq => List.append_inj heq hlength
  · rw [lessItems?, rankItems, rankItems, append_lt_append_iff hlength]
    -- equal first items leave the decision to the others
    by_cases hsame : x.same y = true
    · obtain ⟨before, hless, hbefore⟩ := hitems.less
      refine ⟨before, by rw [if_pos hsame, hless], ?_⟩
      rw [hbefore, h.same.mp hsame]
      simp
    · obtain ⟨before, hless, hbefore⟩ := h.less
      refine ⟨before, by rw [if_neg hsame, hless], ?_⟩
      rw [hbefore, ← h.same]
      simp [hsame]

mutual

/-- All values of a kind are compared by equally much. -/
theorem length_rank : ∀ {kind : Kind} {v : Value}, kind.admits v = true →
    v.rank.length = kind.places
  | .integer, v, h => by
    obtain ⟨n, -, hrank⟩ := exists_of_integer h
    simp [hrank, Kind.places]
  | .text, v, h => by
    obtain ⟨s, rfl⟩ := exists_of_text h
    simp [rank, Kind.places]
  | .bytes, v, h => by
    obtain ⟨b, rfl⟩ := exists_of_bytes h
    simp [rank, Kind.places]
  | .tuple kinds, v, h => by
    obtain ⟨items, rfl, hitems⟩ := exists_of_tuple h
    rw [rank, Kind.places]
    exact length_rankItems hitems

theorem length_rankItems : ∀ {kinds : List Kind} {items : List Value},
    Kind.admitsAll kinds items = true → (rankItems items).length = Kind.placesAll kinds
  | [], [], _ => by simp [rankItems, Kind.placesAll]
  | kind :: kinds, v :: items, h => by
    rw [Kind.admitsAll, Bool.and_eq_true] at h
    rw [rankItems, List.length_append, length_rank h.1, length_rankItems h.2, Kind.placesAll]
  | [], _ :: _, h | _ :: _, [], h => by simp [Kind.admitsAll] at h

end

mutual

/-- Values of a kind are compared by their ranks. -/
theorem ranked : ∀ {kind : Kind} {a b : Value}, kind.admits a = true → kind.admits b = true →
    Ranked a b
  | .integer, a, b, ha, hb => ranked_integers ha hb
  | .text, a, b, ha, hb => by
    obtain ⟨s, rfl⟩ := exists_of_text ha
    obtain ⟨t, rfl⟩ := exists_of_text hb
    exact ranked_texts s t
  | .bytes, a, b, ha, hb => by
    obtain ⟨s, rfl⟩ := exists_of_bytes ha
    obtain ⟨t, rfl⟩ := exists_of_bytes hb
    exact ranked_bytes s t
  | .tuple kinds, a, b, ha, hb => by
    obtain ⟨xs, rfl, hxs⟩ := exists_of_tuple ha
    obtain ⟨ys, rfl, hys⟩ := exists_of_tuple hb
    exact ranked_tuples (rankedItems hxs hys)

/-- Items of given kinds are compared by their ranks. -/
theorem rankedItems : ∀ {kinds : List Kind} {xs ys : List Value},
    Kind.admitsAll kinds xs = true → Kind.admitsAll kinds ys = true → RankedItems xs ys
  | [], [], [], _, _ => rankedItems_nil
  | kind :: kinds, x :: xs, y :: ys, hxs, hys => by
    rw [Kind.admitsAll, Bool.and_eq_true] at hxs hys
    have hlength := (length_rank hxs.1).trans (length_rank hys.1).symm
    exact rankedItems_cons (ranked hxs.1 hys.1) hlength (rankedItems hxs.2 hys.2)
  | [], _ :: _, _, h, _ | _ :: _, [], _, h, _ | [], _, _ :: _, _, h | _ :: _, _, [], _, h => by
    simp [Kind.admitsAll] at h

end

/-! ### The order of the members of a set -/

/-- The values of a kind. -/
abbrev OfKind (kind : Kind) := { v : Value // kind.admits v = true }

/-- The comparison of the values of a kind. -/
def lessOfKind? (kind : Kind) (a b : OfKind kind) : Option Bool :=
  a.val.less? b.val

/-- The order of the values of a kind is that of their ranks. -/
theorem notAfter_iff {kind : Kind} (a b : OfKind kind) :
    Sorting.NotAfter (lessOfKind? kind) a b ↔ a.val.rank ≤ b.val.rank := by
  obtain ⟨before, hless, hbefore⟩ := (ranked b.property a.property).less
  rw [Sorting.NotAfter, lessOfKind?, hless, ← not_lt, ← hbefore]
  simp

/-- Every comparison of values of a kind is decided, in the way of an order. -/
theorem decides_lessOfKind? (kind : Kind) : Sorting.Decides (lessOfKind? kind) where
  total a b := by
    obtain ⟨before, hless, -⟩ := (ranked a.property b.property).less
    rw [lessOfKind?, hless]
    cases before <;> simp
  -- the ranks are ordered, and so are the values
  asymm {a b} h := by
    obtain ⟨before, hless, hbefore⟩ := (ranked a.property b.property).less
    rw [lessOfKind?, hless, Option.some.injEq] at h
    rw [notAfter_iff]
    exact le_of_lt (hbefore.mp h)
  trans {a b c} hab hbc := by
    rw [notAfter_iff] at hab hbc ⊢
    exact le_trans hab hbc

/-- Values of a kind are shown in the order in which they are sorted. -/
theorem shownOrder_of_sort? {kind : Kind} {members sorted : List (OfKind kind)}
    (h : Sorting.sort? (lessOfKind? kind) members = some sorted) :
    shownOrder (members.map Subtype.val) = sorted.map Subtype.val := by
  have hvalues : Sorting.sort? less? (members.map Subtype.val) =
      (Sorting.sort? (lessOfKind? kind) members).map (·.map Subtype.val) :=
    Sorting.sort?_map (fun _ _ => rfl) members
  rw [shownOrder, hvalues, h]
  rfl

/-- Members that are told apart by what they are compared by are equal only to themselves. -/
theorem eq_of_rank_eq {kind : Kind} {items : List Value}
    (hkind : ∀ v ∈ items, kind.admits v = true)
    (hapart : items.Pairwise fun a b => a.same b = false) {a b : Value} (ha : a ∈ items)
    (hb : b ∈ items) (h : a.rank = b.rank) : a = b := by
  -- members that are told apart have different ranks
  have hranks : (items.map rank).Nodup := by
    apply List.pairwise_map.mpr
    apply hapart.imp_of_mem
    intro a b ha hb hsame heq
    have hsame' := (ranked (hkind a ha) (hkind b hb)).same.mpr heq
    simp [hsame] at hsame'
  exact List.inj_on_of_nodup_map hranks ha hb h

/-- Members of one kind, no two of them equal, are shown in one order, however they are arranged. -/
theorem shownOrder_eq_of_perm {kind : Kind} {items items' : List Value}
    (hkind : ∀ v ∈ items, kind.admits v = true)
    (hapart : items.Pairwise fun a b => a.same b = false) (hperm : items.Perm items') :
    shownOrder items = shownOrder items' := by
  have hkind' : ∀ v ∈ items', kind.admits v = true := fun v hv => hkind v (hperm.mem_iff.mpr hv)
  have hdecides := decides_lessOfKind? kind
  -- the members together with the knowledge of their kind, where all comparisons are decided
  have hsort : Sorting.sort? (lessOfKind? kind) (items.attachWith _ hkind) =
      Sorting.sort? (lessOfKind? kind) (items'.attachWith _ hkind') := by
    apply Sorting.sort?_eq_of_perm hdecides (hperm.pmap _)
    intro a ha b hb hab hba
    apply Subtype.ext
    apply eq_of_rank_eq hkind hapart
    · exact (List.mem_attachWith hkind a).mp ha
    · exact (List.mem_attachWith hkind b).mp hb
    · exact le_antisymm ((notAfter_iff a b).mp hab) ((notAfter_iff b a).mp hba)
  -- what both are sorted to is what both are shown as
  obtain ⟨sorted, hsorted, -⟩ := Sorting.exists_sort? hdecides (items.attachWith _ hkind)
  have hfirst := shownOrder_of_sort? hsorted
  have hsecond := shownOrder_of_sort? (hsort ▸ hsorted)
  rw [List.attachWith_map_subtype_val] at hfirst hsecond
  rw [hfirst, hsecond]

end ReplEngine.Value
