import Mathlib.Logic.Function.Iterate
import ReplEngine.Proofs.Session.Controller

/-!
# The end of the input

A session that reads the end of its input does not stop by itself.  It sends the worker the
statement that ends it, as if the statement had been typed, and what comes back decides.  A
worker that exits closes the session, and so does one that is gone.  After any other answer the
session reads again, finds the end of the input again, and sends the statement once more; only
the wish to stop at a failure cuts this short, at the price of sending it a second time.

Nothing is assumed about the worker, so what it answers to the statement, time after time, is
any sequence at all.

## Key results

- `endTurn_take`: what a turn on the end of the input does
- `requests_takeEnd_of_goesOn`: as long as no answer ends it, every turn sends the statement
- `evaluations_run_le_iff`: one request is all that is sent just if its answer closes the session
-/

namespace ReplEngine

/-- The number of requests to evaluate something. -/
def Event.evaluations (events : List Event) : Nat :=
  (Event.requests events).countP fun r => r.1 == "evaluate"

/-- Whether an exchange shows that the worker is gone: it has exited, or no response came back. -/
def Exchange.closes (x : Exchange) : Bool :=
  match x.answer with
  | .ok m => m.status? == some .exited
  | .error _ => true

/-- Whether a session reads on after an exchange about a statement; `stop` is the wish to stop at
    a failure. -/
def Exchange.goesOn (stop : Bool) (x : Exchange) : Bool :=
  x.accepted || (x.status? == some .failed && !stop)

namespace Exchange

variable {x : Exchange}

/-- A worker that has exited is gone. -/
theorem closes_of_exited (h : x.status? = some .exited) : x.closes = true := by
  unfold status? at h
  unfold closes
  split
  · simp_all
  · rfl

theorem closes_of_none (haccepted : x.accepted = false) (h : x.status? = none) :
    x.closes = true := by
  unfold status? at h
  unfold accepted at haccepted
  unfold closes
  -- a response without a status counts as accepted
  split <;> simp_all

/-- If the session reads on, the worker is there. -/
theorem not_closes_of_goesOn {stop : Bool} (h : x.goesOn stop = true) : x.closes = false := by
  unfold goesOn accepted status? at h
  unfold closes
  split <;> simp_all
  cases h <;> simp_all

/-- A failure does not show that it is gone. -/
theorem not_closes_of_failed (h : x.status? = some .failed) : x.closes = false := by
  unfold status? at h
  unfold closes
  split <;> simp_all

end Exchange

namespace Session

variable {σ : Type} {peer : Peer σ} {t u : Session σ} {loop others : List Exchange} {input : Input}

/-! ### One turn -/

/-- The exchange in which a worker is sent the statement that ends it. -/
def farewell (peer : Peer σ) (p : σ) : Exchange :=
  ⟨"evaluate", .str endText, (peer "evaluate" (.str endText) p).result⟩

/-- The state of the worker behind that exchange. -/
def afterFarewell (peer : Peer σ) (p : σ) : σ :=
  (peer "evaluate" (.str endText) p).peer

/-- The exit code of a session that is closed by an exchange. -/
def closingCode (x : Exchange) : Nat :=
  if x.status? = some .exited then 0 else 1

/-- What becomes of a session `t` that reads the end of its input, by what its worker answers. -/
inductive EndTurn (peer : Peer σ) (t u : Session σ) : Prop where
  /-- The worker is gone, and the session is over. -/
  | closed (hcloses : (farewell peer t.peer).closes = true)
    (hrequests : Event.requests u.events = Event.requests t.events ++ [evaluation endText])
    (hending : u.ending = some (.code (closingCode (farewell peer t.peer))))
  /-- The statement has failed, is sent again without regard to the answer, and the session has
      failed. -/
  | stopped (hstatus : (farewell peer t.peer).status? = some .failed)
    (hstop : t.stopOnFailure = true)
    (hrequests : Event.requests u.events =
      Event.requests t.events ++ [evaluation endText, evaluation endText])
    (hending : u.ending = some (.code 1))
  /-- The session reads on. -/
  | reading (hgoesOn : (farewell peer t.peer).goesOn t.stopOnFailure = true)
    (hrequests : Event.requests u.events = Event.requests t.events ++ [evaluation endText])
    (hpeer : u.peer = afterFarewell peer t.peer) (hstop : u.stopOnFailure = t.stopOnFailure)
    (hending : u.ending = none)

/-- The loop over statements sends the statement that ends the worker, and no other. -/
theorem Scanned.loop_eq_farewell (h : t.Scanned peer endText u loop others) :
    loop = [farewell peer t.peer] := by
  have hsent := h.sent
  have hanswers := h.exchanged.answers
  rw [statementsOf_endText] at hsent
  cases loop with
  | nil =>
    -- a loop that was not stopped has sent the statement
    have hlength := (h.loopEnd.of_accepted rfl).1
    simp [statementsOf_endText] at hlength
  | cons x rest =>
    simp only [List.map_cons, List.length_cons, List.take_succ_cons, List.take_nil, List.map_nil,
      List.cons.injEq, List.map_eq_nil_iff] at hsent
    obtain ⟨hrequest, rfl⟩ := hsent
    obtain ⟨method, body, answer⟩ := x
    obtain ⟨rfl, rfl⟩ := Prod.mk.inj hrequest
    have hanswer : (peer "evaluate" (.str endText) t.peer).result = answer := hanswers.1
    rw [farewell, hanswer]

/-- A turn on the end of the input goes one of three ways. -/
theorem endTurn_take (peer : Peer σ) (hopen : t.ending = none) (hread : readOf? input = some none) :
    EndTurn peer t (t.take peer input) := by
  have hkind : kindOf t.buffer input = .scan endText := by
    simp only [kindOf, hread]
  obtain ⟨loop, others, h⟩ := exists_scanned_take peer hopen hkind
  obtain rfl := h.loop_eq_farewell
  have hrequests := h.exchanged.requests
  have hfarewell : (farewell peer t.peer).request = evaluation endText := rfl
  -- if nothing else was sent, the worker is where that exchange has left it
  have hpeer : others = [] → (t.take peer input).peer = afterFarewell peer t.peer := by
    intro hothers
    have hanswers := h.exchanged.answers
    rw [hothers] at hanswers
    exact hanswers.2
  by_cases haccepted : (farewell peer t.peer).accepted = true
  · obtain ⟨-, hothers, hending⟩ := h.loopEnd.of_accepted (by simp [haccepted])
    apply EndTurn.reading
    · simp [Exchange.goesOn, haccepted]
    · simpa [hothers, hfarewell] using hrequests
    · exact hpeer hothers
    · exact h.exchanged.stopOnFailure
    · exact hending.trans hopen
  · have hnot : (farewell peer t.peer).accepted = false := by simpa using haccepted
    -- the four ways in which one statement can end the loop
    obtain ⟨-, hexited | hfailed | hstopped | hgone⟩ :=
      h.loopEnd.of_not_accepted List.mem_cons_self hnot
    · obtain ⟨hstatus, hothers, hending, -⟩ := hexited
      apply EndTurn.closed
      · exact Exchange.closes_of_exited hstatus
      · simpa [hothers, hfarewell] using hrequests
      · rw [hending, closingCode, if_pos hstatus]
    · obtain ⟨hstatus, hstop, hothers, hending⟩ := hfailed
      apply EndTurn.reading
      · simp [Exchange.goesOn, hstatus, hstop]
      · simpa [hothers, hfarewell] using hrequests
      · exact hpeer hothers
      · exact h.exchanged.stopOnFailure
      · exact hending.trans hopen
    · obtain ⟨hstatus, hstop, hending, y, hothers, hy⟩ := hstopped
      apply EndTurn.stopped hstatus hstop
      · simpa [hothers, hfarewell, hy] using hrequests
      · exact hending
    · obtain ⟨hstatus, hothers, hending⟩ := hgone
      apply EndTurn.closed
      · exact Exchange.closes_of_none hnot hstatus
      · simpa [hothers, hfarewell] using hrequests
      · rw [hending, closingCode, if_neg (by simp [hstatus])]

/-! ### Turn after turn -/

/-- The answer that a worker gives to the statement that ends it when it was sent it `k` times
    before. -/
def farewellAt (peer : Peer σ) (p : σ) (k : Nat) : Exchange :=
  farewell peer ((afterFarewell peer)^[k] p)

/-- As long as no answer ends the session, each turn sends the statement that ends the worker. -/
theorem requests_takeEnd_of_goesOn (peer : Peer σ) (hopen : t.ending = none) {n : Nat}
    (h : ∀ k < n, (farewellAt peer t.peer k).goesOn t.stopOnFailure = true) :
    Event.requests (t.takeEnd peer n).events =
        Event.requests t.events ++ List.replicate n (evaluation endText) ∧
      (t.takeEnd peer n).peer = (afterFarewell peer)^[n] t.peer ∧
      (t.takeEnd peer n).stopOnFailure = t.stopOnFailure ∧ (t.takeEnd peer n).ending = none := by
  -- on the number of turns: the first of them leaves a session that is open as before
  induction n generalizing t with
  | zero => simp [takeEnd, hopen]
  | succ n ih =>
    have hfirst : (farewell peer t.peer).goesOn t.stopOnFailure = true := h 0 (by omega)
    have hturn : EndTurn peer t (t.take peer .endOfInput) := endTurn_take peer hopen rfl
    rw [takeEnd, hopen]
    dsimp only
    cases hturn with
    | closed hcloses _ _ => simp [Exchange.not_closes_of_goesOn hfirst] at hcloses
    | stopped hstatus hstop _ _ =>
      simp [Exchange.goesOn, hstatus, hstop, Exchange.accepted_of_status (.inr hstatus)] at hfirst
    | reading _ hrequests hpeer hstop hending =>
      have hlater : ∀ k < n, (farewellAt peer (t.take peer .endOfInput).peer k).goesOn
          (t.take peer .endOfInput).stopOnFailure = true := by
        intro k hk
        rw [hpeer, hstop]
        exact h (k + 1) (by omega)
      obtain ⟨hrest, hrestPeer, hrestStop, hrestEnding⟩ := ih hending hlater
      refine ⟨?_, ?_, hrestStop.trans hstop, hrestEnding⟩
      · rw [hrest, hrequests, List.append_assoc, List.replicate_succ]
        rfl
      · rw [hrestPeer, hpeer]
        rfl

/-! ### What is sent behind the end of the input -/

/-- How many of the later requests are evaluations. -/
theorem evaluations_of_requests {rs : List (String × Json)}
    (h : Event.requests u.events = Event.requests t.events ++ rs) :
    Event.evaluations u.events =
      Event.evaluations t.events + rs.countP fun r => r.1 == "evaluate" := by
  rw [Event.evaluations, h, List.countP_append, Event.evaluations]

/-- A turn on the end of the input sends something to evaluate. -/
theorem EndTurn.evaluations_lt (h : EndTurn peer t u) :
    Event.evaluations t.events < Event.evaluations u.events := by
  -- each of the three sends one at least
  cases h with
  | closed _ hrequests _ =>
    rw [evaluations_of_requests hrequests]
    simp [evaluation]
  | stopped _ _ hrequests _ =>
    rw [evaluations_of_requests hrequests]
    simp [evaluation]
  | reading _ hrequests _ _ _ =>
    rw [evaluations_of_requests hrequests]
    simp [evaluation]

/-- A session that is over after one turn comes to what the turn has left. -/
theorem run_eq_of_ending {s : Session σ} {before : List Input} {code : Nat}
    (h : ((s.takeAll peer before).take peer input).ending = some (.code code))
    (later : List Input) (ends : Nat) :
    s.run peer (before ++ input :: later) ends = (s.takeAll peer before).take peer input ∧
      (s.run peer (before ++ input :: later) ends).exitCode = .ok code := by
  -- nothing is taken behind the turn
  have hrun : s.run peer (before ++ input :: later) ends =
      (s.takeAll peer before).take peer input := by
    rw [run_eq_takeAll, List.append_assoc, takeAll_append]
    exact takeAll_of_ending h _
  refine ⟨hrun, ?_⟩
  rw [hrun, exitCode, h]

section Ended

variable {s : Session σ} {before : List Input}

/-- If one request is all that is sent, in whatever way the input goes on, its answer closes the
    session. -/
theorem closes_of_evaluations_le (hread : readOf? input = some none)
    (hopen : (s.takeAll peer before).ending = none)
    (hbound : ∀ ends, Event.evaluations (s.run peer (before ++ [input]) ends).events ≤
      Event.evaluations (s.takeAll peer before).events + 1) :
    (farewell peer (s.takeAll peer before).peer).closes = true := by
  cases endTurn_take peer hopen hread with
  | closed hcloses _ _ => exact hcloses
  | stopped _ _ hrequests hending =>
    -- two requests in one turn
    have htwo := hbound 0
    rw [(run_eq_of_ending hending [] 0).1, evaluations_of_requests hrequests] at htwo
    simp [evaluation] at htwo
  | reading _ hrequests _ _ hending =>
    -- one request in this turn, and one in the next
    have htwo := hbound 1
    have hrun : s.run peer (before ++ [input]) 1 =
        ((s.takeAll peer before).take peer input).take peer .endOfInput := by
      rw [run_eq_takeAll, takeAll_append, takeAll_append]
      rfl
    have hnext : EndTurn peer ((s.takeAll peer before).take peer input)
        (((s.takeAll peer before).take peer input).take peer .endOfInput) :=
      endTurn_take peer hending rfl
    have hone := evaluations_of_requests hrequests
    have hmore := hnext.evaluations_lt
    rw [hrun] at htwo
    simp only [evaluation, List.countP_singleton, beq_self_eq_true, if_true] at hone
    omega

/-- An answer that closes the session is the last. -/
theorem requests_run_of_closes (hread : readOf? input = some none)
    (hopen : (s.takeAll peer before).ending = none)
    (hcloses : (farewell peer (s.takeAll peer before).peer).closes = true)
    (later : List Input) (ends : Nat) :
    Event.requests (s.run peer (before ++ input :: later) ends).events =
        Event.requests (s.takeAll peer before).events ++ [evaluation endText] ∧
      (s.run peer (before ++ input :: later) ends).exitCode =
        .ok (closingCode (farewell peer (s.takeAll peer before).peer)) := by
  cases endTurn_take peer hopen hread with
  | closed _ hrequests hending =>
    obtain ⟨hrun, hcode⟩ := run_eq_of_ending hending later ends
    exact ⟨hrun ▸ hrequests, hcode⟩
  | stopped hstatus _ _ _ => simp [Exchange.not_closes_of_failed hstatus] at hcloses
  | reading hgoesOn _ _ _ _ => simp [Exchange.not_closes_of_goesOn hgoesOn] at hcloses

/-- A session that stops at a failure sends the statement twice. -/
theorem requests_run_of_failed (hread : readOf? input = some none)
    (hopen : (s.takeAll peer before).ending = none)
    (hfailed : (farewell peer (s.takeAll peer before).peer).status? = some .failed)
    (hstops : (s.takeAll peer before).stopOnFailure = true) (later : List Input) (ends : Nat) :
    Event.requests (s.run peer (before ++ input :: later) ends).events =
        Event.requests (s.takeAll peer before).events ++
          [evaluation endText, evaluation endText] ∧
      (s.run peer (before ++ input :: later) ends).exitCode = .ok 1 := by
  cases endTurn_take peer hopen hread with
  | closed hcloses _ _ => simp [Exchange.not_closes_of_failed hfailed] at hcloses
  | stopped _ _ hrequests hending =>
    obtain ⟨hrun, hcode⟩ := run_eq_of_ending hending later ends
    exact ⟨hrun ▸ hrequests, hcode⟩
  | reading hgoesOn _ _ _ _ =>
    simp [Exchange.goesOn, hfailed, hstops, Exchange.accepted_of_status (.inr hfailed)]
      at hgoesOn

end Ended

/-- When a session has read the end of its input, and reads nothing else from then on, it sends
    at most one further request to evaluate something just if the answer to that one closes the
    session; then it is over with that request.  A failure ends a session that wishes to stop
    there with two requests.  After any other answer it goes on as long as such answers come: it
    sends one request for each time that it reads the end, and is not over. -/
theorem evaluations_run_le_iff (peer : Peer σ) (s : Session σ) (before : List Input)
    (input : Input) (hread : readOf? input = some none)
    (hopen : (s.takeAll peer before).ending = none) :
    ((∀ (later : List Input) (ends : Nat), (∀ i ∈ later, ∀ line, readOf? i ≠ some (some line)) →
        Event.evaluations (s.run peer (before ++ input :: later) ends).events ≤
          Event.evaluations (s.takeAll peer before).events + 1) ↔
      (farewell peer (s.takeAll peer before).peer).closes = true) ∧
    ((farewell peer (s.takeAll peer before).peer).closes = true →
      ∀ (later : List Input) (ends : Nat),
        Event.requests (s.run peer (before ++ input :: later) ends).events =
            Event.requests (s.takeAll peer before).events ++ [evaluation endText] ∧
          (s.run peer (before ++ input :: later) ends).exitCode =
            .ok (closingCode (farewell peer (s.takeAll peer before).peer))) ∧
    ((farewell peer (s.takeAll peer before).peer).status? = some .failed →
      (s.takeAll peer before).stopOnFailure = true → ∀ (later : List Input) (ends : Nat),
        Event.requests (s.run peer (before ++ input :: later) ends).events =
            Event.requests (s.takeAll peer before).events ++
              [evaluation endText, evaluation endText] ∧
          (s.run peer (before ++ input :: later) ends).exitCode = .ok 1) ∧
    ∀ ends, (∀ k < ends, (farewellAt peer (s.takeAll peer before).peer k).goesOn
          (s.takeAll peer before).stopOnFailure = true) →
      Event.requests (s.run peer before ends).events =
          Event.requests (s.takeAll peer before).events ++
            List.replicate ends (evaluation endText) ∧
        (s.run peer before ends).ending = none := by
  refine ⟨⟨fun hbound => ?_, fun hcloses later ends _ => ?_⟩, ?_, ?_, fun ends hgoesOn => ?_⟩
  · -- the bound is needed only for input that ends at once
    exact closes_of_evaluations_le hread hopen fun ends => hbound [] ends (by simp)
  · have hrequests := (requests_run_of_closes hread hopen hcloses later ends).1
    rw [evaluations_of_requests hrequests]
    simp [evaluation]
  · exact requests_run_of_closes hread hopen
  · exact requests_run_of_failed hread hopen
  · obtain ⟨hrequests, -, -, hending⟩ := requests_takeEnd_of_goesOn peer hopen hgoesOn
    exact ⟨hrequests, hending⟩

/-- A worker that fails on the statement that should end it is asked again, and exits then. -/
theorem evaluations_run_le_iff_failing :
    readOf? .endOfInput = some none ∧
      (takeAll prepared { peer := ["failed", "exited"] } []).ending.isNone = true ∧
      (farewell prepared ["failed", "exited"]).closes = false ∧
      ¬ ∀ (later : List Input) (ends : Nat), (∀ i ∈ later, ∀ line, readOf? i ≠ some (some line)) →
        Event.evaluations (run prepared { peer := ["failed", "exited"] }
          (.endOfInput :: later) ends).events ≤ 1 := by
  refine ⟨rfl, rfl, rfl, fun hbound => ?_⟩
  have h := evaluations_run_le_iff prepared { peer := ["failed", "exited"] } [] .endOfInput rfl rfl
  have hcloses := h.1.mp hbound
  cases hcloses

/-- A session whose worker fails on the statement that should end it goes on, and sends the
    statement each time that it reads the end of the input. -/
theorem end_sent_again :
    (run prepared { peer := List.replicate 3 "failed" } [] 3).ending.isNone = true ∧
      ¬ Event.evaluations (run prepared { peer := List.replicate 3 "failed" } [] 3).events ≤ 1 := by
  decide

end Session

end ReplEngine
