import Mathlib.Data.List.Basic
import ReplEngine.Proofs.Program.Bindings
import ReplEngine.Proofs.Program.Evaluating

/-!
# Typing on narrows what is offered

Who goes on typing a name loses candidates and never gains one, in a source and in sources in a
row.  Case folding is what could spoil it: the small form of a letter may depend on the letters
behind it.  Letters, digits and underscores have no such forms, so what was typed first folds to
the same text whatever is typed behind it.  A private prefix lists more names, so both prefixes
have to be private, or none.

## Key results

- `Text.lower_append`: folding a plain text does not look ahead
- `completesTo_of_append`: a name that starts with more than a prefix starts with the prefix
- `Source.completions_append`: the longer prefix filters the completions of the shorter one
- `textsOf_nodup`: no text is offered twice
-/

namespace ReplEngine

/-! ### Folding plain texts -/

/-- A letter, a digit or an underscore of ASCII. -/
def isPlainChar (c : Char) : Bool :=
  c.isAlphanum || c == '_'

/-- A text of letters, digits and underscores of ASCII. -/
def isPlain (s : String) : Bool :=
  s.toList.all isPlainChar

namespace Text

/-- Plain characters are characters of ASCII. -/
theorem toNat_lt_of_isPlainChar {c : Char} (h : isPlainChar c = true) : c.toNat < 128 := by
  change (((decide ('A'.val ≤ c.val ∧ c.val ≤ 'Z'.val) ||
    (decide ('a'.val ≤ c.val) && decide (c.val ≤ 'z'.val))) ||
    (decide ('0'.val ≤ c.val) && decide (c.val ≤ '9'.val))) || c == '_') = true at h
  simp only [Bool.or_eq_true, Bool.and_eq_true, decide_eq_true_eq, beq_iff_eq,
    UInt32.le_iff_toNat_le] at h
  show c.val.toNat < 128
  rcases h with h | rfl
  · have hZ : 'Z'.val.toNat = 90 := rfl
    have hz : 'z'.val.toNat = 122 := rfl
    have h9 : '9'.val.toNat = 57 := rfl
    omega
  · decide

/-- The two letters with small forms of more than one kind are not plain, so that a plain text
    folds letter by letter. -/
theorem lowerFrom_append {cs : List Char} (h : ∀ c ∈ cs, isPlainChar c = true)
    (before ds : List Char) :
    lowerFrom before (cs ++ ds) = cs.map lowerChar ++ lowerFrom (cs.reverse ++ before) ds := by
  induction cs generalizing before with
  | nil => rfl
  | cons c cs ih =>
    have hc := toNat_lt_of_isPlainChar (h c (by simp))
    -- the dotted capital and the sigma have codes beyond ASCII
    have hdotted : (c.toNat == 0x130) = false := by simp; omega
    have hsigma : (c.toNat == 0x3a3) = false := by simp; omega
    have ih := ih (fun d hd => h d (List.mem_cons_of_mem _ hd)) (c :: before)
    simp [lowerFrom, hdotted, hsigma, ih]

/-- A plain text folds to the front of what a longer text folds to. -/
theorem lower_append {cs : List Char} (h : ∀ c ∈ cs, isPlainChar c = true) (ds : List Char) :
    lower cs <+: lower (cs ++ ds) := by
  have hcs : lower cs = cs.map lowerChar := by
    simpa [lower, lowerFrom] using lowerFrom_append h [] []
  rw [hcs, lower, lowerFrom_append h]
  exact List.prefix_append _ _

end Text

/-! ### Completing a longer prefix -/

/-- What completes the longer text completes the plain one before it. -/
theorem completesTo_of_append {lead : String} (h : isPlain lead = true) {more name : String}
    {caseSensitive : Bool} (hname : completesTo caseSensitive (lead ++ more) name = true) :
    completesTo caseSensitive lead name = true := by
  have hplain : ∀ c ∈ lead.toList, isPlainChar c = true := List.all_eq_true.mp h
  -- with the case of the letters, or with both texts folded
  cases caseSensitive with
  | true =>
    simp only [completesTo, Text.startsWith, if_true, List.isPrefixOf_iff_prefix,
      String.toList_append] at hname ⊢
    exact (List.prefix_append _ _).trans hname
  | false =>
    simp only [completesTo, Text.startsWith, Bool.false_eq_true, if_false,
      List.isPrefixOf_iff_prefix, Text.lowerString, String.toList_ofList,
      String.toList_append] at hname ⊢
    exact (Text.lower_append hplain _).trans hname

/-- What a prefix finds among what another one finds: both fail alike, or the one finds some of
    what the other does, in the same order. -/
def Narrows (longer shorter : Except Error (List Symbol)) : Prop :=
  (∃ e, longer = .error e ∧ shorter = .error e) ∨
    ∃ few many, longer = .ok few ∧ shorter = .ok many ∧ few.Sublist many

section Prefixes

variable {lead more : String}

/-- The longer prefix filters the completions of the shorter one. -/
theorem Source.completions_append (p : Program) (s : Source) (hlead : isPlain lead = true)
    (hprivate : isPrivate lead = isPrivate (lead ++ more)) :
    s.completions p (lead ++ more) =
      List.filter (fun symbol => completesTo s.isCaseSensitive (lead ++ more) symbol.name) <$>
        s.completions p lead := by
  rw [completions, completions, ← hprivate]
  cases s.symbols p (isPrivate lead) with
  | error e => rfl
  | ok listed =>
    show Except.ok _ = Except.ok _
    rw [List.filter_filter]
    congr 1
    apply List.filter_congr
    intro symbol _
    -- the test of the shorter prefix follows from the test of the longer one
    have himp : completesTo s.isCaseSensitive (lead ++ more) symbol.name = true →
        completesTo s.isCaseSensitive lead symbol.name = true := completesTo_of_append hlead
    grind

/-- Typing on narrows what a source offers. -/
theorem Source.narrows_completions (p : Program) (s : Source) (hlead : isPlain lead = true)
    (hprivate : isPrivate lead = isPrivate (lead ++ more)) :
    Narrows (s.completions p (lead ++ more)) (s.completions p lead) := by
  rw [Source.completions_append p s hlead hprivate]
  cases hfound : s.completions p lead with
  | error e => exact .inl ⟨e, rfl, rfl⟩
  | ok found => exact .inr ⟨_, found, rfl, rfl, List.filter_sublist⟩

/-- The first source is asked first. -/
theorem Sources.completions_cons (p : Program) (lead : String) (s : Source) (rest : Sources) :
    Sources.completions p lead (s :: rest) = do
      let found ← s.completions p lead
      let others ← Sources.completions p lead rest
      return found ++ others := by
  simp [Sources.completions, List.mapM_cons]

/-- Typing on narrows what sources in a row offer. -/
theorem Sources.narrows_completions (p : Program) (sources : Sources)
    (hlead : isPlain lead = true) (hprivate : isPrivate lead = isPrivate (lead ++ more)) :
    Narrows (sources.completions p (lead ++ more)) (sources.completions p lead) := by
  induction sources with
  | nil => exact .inr ⟨[], [], rfl, rfl, .slnil⟩
  | cons s rest ih =>
    rw [Sources.completions_cons, Sources.completions_cons]
    -- a source that fails ends the search for both prefixes
    obtain ⟨e, hlonger, hshorter⟩ | ⟨few, many, hlonger, hshorter, hsub⟩ :=
      s.narrows_completions p hlead hprivate
    · rw [hlonger, hshorter]
      exact .inl ⟨e, rfl, rfl⟩
    · rw [hlonger, hshorter]
      obtain ⟨e, hl, hs⟩ | ⟨fewer, others, hl, hs, hrest⟩ := ih
      · rw [hl, hs]
        exact .inl ⟨e, rfl, rfl⟩
      · rw [hl, hs]
        exact .inr ⟨few ++ fewer, many ++ others, rfl, rfl, hsub.append hrest⟩

end Prefixes

/-! ### No text twice -/

namespace Program

/-- No text is offered twice. -/
theorem textsOf_nodup (symbols : List Symbol) : (textsOf symbols).Nodup :=
  nodup_eraseDups _

/-- What is offered are the texts of the symbols that were found, or nothing if something went
    wrong, in finding them or in telling about them. -/
theorem offer_texts (p : Program) (annotated : Bool) (c : Cursor.Completion) (sources : Sources) :
    (p.offer annotated c sources).texts = [] ∨
      ∃ symbols, sources.completions p c.symbol = .ok symbols ∧
        (p.offer annotated c sources).texts = textsOf symbols := by
  rw [offer]
  cases hsymbols : sources.completions p c.symbol with
  | error e => exact .inl rfl
  | ok symbols =>
    -- only with annotations something can still go wrong
    cases annotated with
    | false => exact .inr ⟨symbols, rfl, rfl⟩
    | true =>
      simp only [bind, Except.bind, if_true]
      cases p.annotationMap symbols with
      | error e => exact .inl rfl
      | ok told => exact .inr ⟨symbols, rfl, rfl⟩

/-- Whatever is offered, no text is there twice. -/
theorem nodup_offer_texts (p : Program) (annotated : Bool) (c : Cursor.Completion)
    (sources : Sources) : (p.offer annotated c sources).texts.Nodup := by
  obtain h | ⟨symbols, -, h⟩ := p.offer_texts annotated c sources
  · rw [h]
    exact .nil
  · rw [h]
    exact textsOf_nodup symbols

/-- Typing on narrows what every source offers, and sources in a row: the longer prefix finds
    nothing that the shorter one does not find, and fails only if that one fails.  Only the
    prefix typed first has to be plain.  What is reported at a position has no text twice. -/
theorem typing_narrows_completions (p : Program) (lead more : String)
    (hlead : isPlain lead = true) (hprivate : isPrivate lead = isPrivate (lead ++ more)) :
    (∀ s : Source, Narrows (s.completions p (lead ++ more)) (s.completions p lead) ∧
      s.completions p (lead ++ more) =
        List.filter (fun symbol => completesTo s.isCaseSensitive (lead ++ more) symbol.name) <$>
          s.completions p lead) ∧
    (∀ sources : Sources,
      Narrows (sources.completions p (lead ++ more)) (sources.completions p lead)) ∧
    ∀ (eval : Option Evaluator) (annotated : Bool) (line : List Char) (position : Int)
      (offer : Offer), p.complete eval annotated line position = some offer →
        offer.texts.Nodup := by
  refine ⟨fun s => ⟨s.narrows_completions p hlead hprivate,
    s.completions_append p hlead hprivate⟩,
    fun sources => sources.narrows_completions p hlead hprivate, ?_⟩
  intro eval annotated line position offer h
  cases hat : Cursor.completionAt line position with
  | none =>
    rw [complete_of_none hat] at h
    cases h
  | some c =>
    rw [complete_of_completionAt hat] at h
    cases h
    exact p.nodup_offer_texts annotated c _

/-- A program with a few names in its scope. -/
def shopProgram : Program :=
  { scope := [("Price", .value (.int 3)), ("printer", .value (.int 4)),
      ("_price", .value (.int 5))] }

theorem typing_narrows_completions_shop :
    isPlain "PR" = true ∧ isPrivate "PR" = isPrivate ("PR" ++ "int") ∧
    textsOf <$> Sources.bareNames.completions shopProgram ("PR" ++ "int") = .ok ["printer"] ∧
    Narrows (Sources.bareNames.completions shopProgram ("PR" ++ "int"))
      (Sources.bareNames.completions shopProgram "PR") ∧
    ∃ offer, shopProgram.complete none true "PR".toList 2 = some offer ∧
      offer.texts = ["Price", "printer"] ∧ offer.texts.Nodup := by
  have hlead : isPlain "PR" = true := by decide
  have hprivate : isPrivate "PR" = isPrivate ("PR" ++ "int") := by decide
  have h := typing_narrows_completions shopProgram "PR" "int" hlead hprivate
  have hshown : (shopProgram.complete none true "PR".toList 2).map (·.texts) =
      some ["Price", "printer"] := by decide +kernel
  obtain ⟨offer, hoffer, htexts⟩ := Option.map_eq_some_iff.mp hshown
  exact ⟨hlead, hprivate, by decide +kernel, h.2.1 _, offer, hoffer, htexts,
    h.2.2 none true _ 2 offer hoffer⟩

end Program

end ReplEngine
