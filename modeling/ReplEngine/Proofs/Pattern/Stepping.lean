import ReplEngine.Pattern.Match

/-!
# Steps of the matcher

What the matcher does at a spot, one equation for each form of pattern that the built-in rules are
made of.  A repetition of one character is where it tries several ways.  A greedy one takes the
whole run of its class first (`run_greedy`), and gives characters back only if what follows can go
on in front of a character of the class.  A lazy one takes one character more whenever what
follows fails (`rounds_lazy`).

## Key results

- `run_inOrder`: patterns in a row hand on to each other
- `run_greedy`, `run_greedy_one`: a greedy run of a class, also one that is not empty
- `run_optional`: an optional pattern is tried first, and then left out
- `run_group`: a group remembers the text it has covered
-/

namespace ReplEngine.Pattern

variable {before after text rest : List Char} {groups : List (Nat × List Char)} {next : Next}
  {p : Char → Bool}

/-! ### Forms of pattern -/

theorem run_char (c : Char) (s : Spot) (next : Next) :
    (Expr.char c false).run s next = (s.advance? (c == ·)).bind next := rfl

/-- A set takes one of its characters. -/
theorem run_set (negated : Bool) (items : List SetItem) (fold ascii : Bool) (s : Spot)
    (next : Next) :
    (Expr.set negated items fold ascii).run s next =
      (s.advance? (inSet negated items fold ascii)).bind next := rfl

theorem run_rep_greedy (e : Expr) (least : Nat) (most : Option Nat) (s : Spot) (next : Next) :
    (Expr.rep e least most .greedy).run s next =
      rounds e.run least most false next (least + s.after.length + 2) 0 none s := rfl

theorem run_rep_lazy (e : Expr) (least : Nat) (most : Option Nat) (s : Spot) (next : Next) :
    (Expr.rep e least most .lazy).run s next =
      rounds e.run least most true next (least + s.after.length + 2) 0 none s := rfl

theorem run_group (index : Nat) (e : Expr) (s : Spot) (next : Next) :
    (Expr.group index e).run s next =
      e.run s fun t => next { t with groups := (index, t.since s) :: t.groups } := rfl

/-! ### Rows of patterns -/

/-- Patterns one after the other, and what is tried behind them. -/
def runAll (parts : List Expr) (next : Next) : Next :=
  parts.foldr (fun part following s => part.run s following) next

@[simp] theorem runAll_nil (next : Next) (s : Spot) : runAll [] next s = next s := rfl

@[simp] theorem runAll_cons (e : Expr) (parts : List Expr) (next : Next) (s : Spot) :
    runAll (e :: parts) next s = e.run s (runAll parts next) := rfl

theorem runAll_singleton (e : Expr) (next : Next) (s : Spot) : runAll [e] next s = e.run s next :=
  rfl

/-- Patterns that are read one after the other are tried in that order. -/
theorem run_foldl_seq (parts : List Expr) (e : Expr) (s : Spot) (next : Next) :
    (parts.foldl Expr.seq e).run s next = e.run s (runAll parts next) := by
  -- on the row; what was read before it varies
  induction parts generalizing e with
  | nil => rfl
  | cons part parts ih =>
    rw [List.foldl_cons, ih]
    rfl

/-- Patterns in a row hand on to each other. -/
theorem run_inOrder (parts : List Expr) (s : Spot) (next : Next) :
    (Expr.inOrder parts).run s next = runAll parts next s :=
  run_foldl_seq parts .empty s next

/-- Two rows are tried behind each other. -/
theorem runAll_append (parts more : List Expr) (next : Next) :
    runAll (parts ++ more) next = runAll parts (runAll more next) :=
  List.foldr_append

/-! ### Single characters -/

/-- A character is passed where it stands. -/
theorem run_char_self (c : Char) :
    (Expr.char c false).run ⟨before, c :: rest, groups⟩ next =
      next ⟨c :: before, rest, groups⟩ := by
  simp [run_char, Spot.advance?]

theorem run_char_ne {c d : Char} (h : c ≠ d) :
    (Expr.char c false).run ⟨before, d :: rest, groups⟩ next = none := by
  simp [run_char, Spot.advance?, h]

theorem run_char_nil (c : Char) : (Expr.char c false).run ⟨before, [], groups⟩ next = none := by
  simp [run_char, Spot.advance?]

/-- A pattern for one character of a class. -/
def TakesOne (e : Expr) (p : Char → Bool) : Prop :=
  ∀ s next, e.run s next = (s.advance? p).bind next

/-- A set takes one character of the class that it stands for. -/
theorem takesOne_set {negated : Bool} {items : List SetItem} {fold ascii : Bool}
    (h : ∀ c, inSet negated items fold ascii c = p c) :
    TakesOne (.set negated items fold ascii) p := by
  intro s next
  rw [run_set, funext h]

/-- The dot takes one character, but no newline. -/
theorem takesOne_any : TakesOne (.any false) (· != '\n') :=
  fun _ _ => rfl

section OneCharacter

variable {e : Expr}

/-- A character of the class is passed. -/
theorem TakesOne.run_pos (he : TakesOne e p) {c : Char} (hc : p c = true) :
    e.run ⟨before, c :: rest, groups⟩ next = next ⟨c :: before, rest, groups⟩ := by
  rw [he]
  simp [Spot.advance?, hc]

theorem TakesOne.run_neg (he : TakesOne e p) {c : Char} (hc : p c = false) :
    e.run ⟨before, c :: rest, groups⟩ next = none := by
  rw [he]
  simp [Spot.advance?, hc]

theorem TakesOne.run_nil (he : TakesOne e p) : e.run ⟨before, [], groups⟩ next = none := by
  rw [he]
  simp [Spot.advance?]

/-! ### Greedy runs -/

/-- Where the whole run of a class has been taken. -/
def Spot.pastRun (p : Char → Bool) (s : Spot) : Spot :=
  ⟨(s.after.takeWhile p).reverse ++ s.before, s.after.dropWhile p, s.groups⟩

theorem pastRun_cons_pos {c : Char} (hc : p c = true) :
    Spot.pastRun p ⟨before, c :: rest, groups⟩ = Spot.pastRun p ⟨c :: before, rest, groups⟩ := by
  simp [Spot.pastRun, hc]

theorem pastRun_cons_neg {c : Char} (hc : p c = false) :
    Spot.pastRun p ⟨before, c :: rest, groups⟩ = ⟨before, c :: rest, groups⟩ := by
  simp [Spot.pastRun, hc]

/-- What is tried behind a run, but not in front of a character of its class. -/
def FailsOn (p : Char → Bool) (next : Next) : Prop :=
  ∀ before c rest groups, p c = true → next ⟨before, c :: rest, groups⟩ = none

/-- If what follows fails behind a run, it fails within the run too. -/
def GivesNothingBack (p : Char → Bool) (next : Next) (stop : Spot) : Prop :=
  next stop = none → ∀ before c rest, p c = true →
    Spot.pastRun p ⟨before, c :: rest, stop.groups⟩ = stop →
    next ⟨before, c :: rest, stop.groups⟩ = none

/-- What fails in front of the class has nothing to win by giving characters back. -/
theorem FailsOn.givesNothingBack (h : FailsOn p next) (stop : Spot) :
    GivesNothingBack p next stop :=
  fun _ before c rest hc _ => h before c rest stop.groups hc

/-- Behind a run that leads to a match nothing is given back. -/
theorem givesNothingBack_of_some {stop result : Spot} (h : next stop = some result) :
    GivesNothingBack p next stop := by
  intro hnone
  rw [h] at hnone
  cases hnone

/-- A greedy repetition takes the run of its class, if nothing is to be won by giving characters
    back. -/
theorem rounds_greedy (he : TakesOne e p) {least fuel count : Nat} {last : Option Nat}
    (hnext : GivesNothingBack p next (Spot.pastRun p ⟨before, after, groups⟩))
    (hcount : least ≤ count) (hfuel : after.length < fuel) (hlast : last ≠ some after.length) :
    rounds e.run least none false next fuel count last ⟨before, after, groups⟩ =
      next (Spot.pastRun p ⟨before, after, groups⟩) := by
  -- induction on the text: each round takes a character, so that the fuel lasts
  induction after generalizing before fuel count last with
  | nil =>
    obtain ⟨fuel, rfl⟩ : ∃ f, fuel = f + 1 := ⟨fuel - 1, by omega⟩
    simp [rounds, Nat.not_lt.mpr hcount, he.run_nil, Spot.pastRun]
  | cons c rest ih =>
    obtain ⟨fuel, rfl⟩ : ∃ f, fuel = f + 1 := ⟨fuel - 1, by omega⟩
    have hlast' : (last != some (rest.length + 1)) = true := by simpa using hlast
    cases hc : p c with
    | false =>
      rw [pastRun_cons_neg hc]
      simp [rounds, Nat.not_lt.mpr hcount, he.run_neg hc]
    | true =>
      have hstop := @pastRun_cons_pos before rest groups _ _ hc
      rw [hstop] at hnext ⊢
      -- behind this character the rest of the run is taken
      have hmore := @ih (c :: before) fuel (count + 1) (some (rest.length + 1)) hnext
        (by omega) (by simpa using hfuel) (by simp)
      simp only [rounds, Nat.not_lt.mpr hcount, if_false, Option.all_none, List.length_cons,
        hlast', Bool.and_self, if_true, he.run_pos hc, hmore]
      cases htaken : next (Spot.pastRun p ⟨c :: before, rest, groups⟩) with
      | some result => rfl
      | none =>
        -- the whole run leads to nothing, and less of it does not either
        have hback : next ⟨before, c :: rest, groups⟩ = none :=
          hnext htaken before c rest hc hstop
        simpa using hback

/-- A greedy repetition takes the whole run of its class. -/
theorem run_greedy (he : TakesOne e p)
    (hnext : GivesNothingBack p next (Spot.pastRun p ⟨before, after, groups⟩)) :
    (Expr.rep e 0 none .greedy).run ⟨before, after, groups⟩ next =
      next (Spot.pastRun p ⟨before, after, groups⟩) :=
  rounds_greedy he hnext (Nat.le_refl 0) (by simp) (by simp)

/-- A run that must not be empty. -/
theorem run_greedy_one (he : TakesOne e p) (hnext : FailsOn p next) :
    (Expr.rep e 1 none .greedy).run ⟨before, after, groups⟩ next =
      if (after.head?.any p) = true then next (Spot.pastRun p ⟨before, after, groups⟩)
      else none := by
  rw [run_rep_greedy]
  cases after with
  | nil => simp [rounds, he.run_nil]
  | cons c rest =>
    cases hc : p c with
    | false => simp [rounds, he.run_neg hc, hc]
    | true =>
      -- the first round has to be, and the others are those of a run that may be empty
      have hmore := @rounds_greedy (c :: before) rest groups next p e he 1 (rest.length + 3) 1 none
        (hnext.givesNothingBack _) (Nat.le_refl 1) (by omega) (by simp)
      rw [pastRun_cons_pos hc, ← hmore]
      have hfuel : 1 + (c :: rest).length + 2 = (rest.length + 3) + 1 := by simp; omega
      simp only [hfuel]
      rw [rounds]
      simp [he.run_pos hc, hc]

/-! ### Lazy runs -/

/-- A lazy repetition takes one character more if what follows fails. -/
theorem rounds_lazy {fuel count : Nat} {last : Option Nat}
    (hlast : last ≠ some after.length) :
    rounds e.run 0 none true next (fuel + 1) count last ⟨before, after, groups⟩ =
      (next ⟨before, after, groups⟩).or
        (e.run ⟨before, after, groups⟩
          (rounds e.run 0 none true next fuel (count + 1) (some after.length))) := by
  have hlast' : (last != some after.length) = true := by simpa using hlast
  simp [rounds, hlast']

end OneCharacter

/-! ### Optional patterns, groups and line ends -/

/-- An optional pattern is tried first, and then left out. -/
theorem run_optional (e : Expr) (s : Spot) (next : Next) :
    (Expr.rep e 0 (some 1) .greedy).run s next = (e.run s next).or (next s) := by
  obtain ⟨fuel, hfuel⟩ : ∃ f, 0 + s.after.length + 2 = f + 2 := ⟨s.after.length, by omega⟩
  -- after one round there is no other
  have honce : rounds e.run 0 (some 1) false next (fuel + 1) 1 (some s.after.length) = next := by
    funext t
    simp [rounds]
  rw [run_rep_greedy]
  simp only [hfuel]
  rw [rounds]
  simp only [Nat.lt_irrefl, if_false, Option.all_some, Nat.zero_lt_one, decide_true, Bool.true_and,
    Nat.zero_add, honce]
  cases e.run s next <;> simp

/-- What was passed since a spot. -/
theorem since_append (before text rest : List Char) (start : List Char)
    (groups groups' : List (Nat × List Char)) :
    Spot.since ⟨text.reverse ++ before, rest, groups⟩ ⟨before, start, groups'⟩ = text := by
  simp [Spot.since]

/-- A text stops at the end of a line or at its own end. -/
def StopsLine (rest : List Char) : Prop :=
  rest = [] ∨ ∃ more, rest = '\n' :: more

theorem run_lineEnd (s : Spot) (next : Next) :
    (Expr.anchor .lineEnd false).run s next =
      if s.after.isEmpty || s.after.head? == some '\n' then next s else none := rfl

/-- Where a line stops, its end is matched. -/
theorem run_lineEnd_of_stops (h : StopsLine rest) :
    (Expr.anchor .lineEnd false).run ⟨before, rest, groups⟩ next =
      next ⟨before, rest, groups⟩ := by
  rw [run_lineEnd]
  rcases h with rfl | ⟨more, rfl⟩ <;> simp

theorem run_lineEnd_cons {c : Char} (h : c ≠ '\n') :
    (Expr.anchor .lineEnd false).run ⟨before, c :: rest, groups⟩ next = none := by
  simp [run_lineEnd, h]

/-- Whether a line starts behind a reversed text. -/
def startsLine (before : List Char) : Bool :=
  before.isEmpty || before.head? == some '\n'

theorem run_lineStart (s : Spot) (next : Next) :
    (Expr.anchor .lineStart false).run s next =
      if startsLine s.before = true then next s else none := rfl

end ReplEngine.Pattern
