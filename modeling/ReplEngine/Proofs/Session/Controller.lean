import ReplEngine.Proofs.Session.Sending

/-!
# Turns of a session

A session takes its input turn by turn.  In a turn it may ask its worker several things, and
what the worker answers decides whether the turn goes on, whether the session does, and what
is kept for the next line.  Nothing is assumed about the worker: it is any peer at all.

A turn is one of three kinds, by its input and what is buffered: a completion, a command, or a
text that is scanned.  The statements of a text are sent in a loop, and each way in which the
loop can end is a case of `LoopEnd`.  All that is said about turns is read off these cases.

## Key results

- `loopEnd_evaluateAll`: how the loop over statements ends
- `exists_turn`: what one turn does
- `run_eq_takeAll`: a run is one turn after the other
- `exists_turn_of_run`: every turn of every run
-/

namespace ReplEngine

/-! ### Exchanges -/

/-- A request and what came back for it: a response, or a complaint about the connection. -/
structure Exchange where
  method : String
  body : Json
  answer : Except String Wire.Message

namespace Exchange

/-- What was asked. -/
def request (x : Exchange) : String × Json :=
  (x.method, x.body)

/-- The status of the response, if one came back. -/
def status? (x : Exchange) : Option Wire.Status :=
  match x.answer with
  | .ok m => m.status?
  | .error _ => none

/-- Whether a response came back that says neither that a statement has exited nor that it has
    failed. -/
def accepted (x : Exchange) : Bool :=
  match x.answer with
  | .ok m => m.status? != some .exited && m.status? != some .failed
  | .error _ => false

/-- A statement that has exited or failed was not accepted. -/
theorem accepted_of_status {x : Exchange}
    (h : x.status? = some .exited ∨ x.status? = some .failed) : x.accepted = false := by
  unfold status? at h
  unfold accepted
  cases hanswer : x.answer with
  | error complaint => rfl
  | ok response =>
    rw [hanswer] at h
    rcases h with h | h <;> dsimp only at h ⊢ <;> rw [h] <;> rfl

theorem accepted_of_answer {x : Exchange} {complaint : String}
    (h : x.answer = .error complaint) : x.accepted = false := by
  rw [accepted, h]

/-- Without an answer there is no status. -/
theorem status?_of_answer {x : Exchange} {complaint : String}
    (h : x.answer = .error complaint) : x.status? = none := by
  rw [status?, h]

end Exchange

/-- The request to evaluate a statement. -/
def evaluation (statement : String) : String × Json :=
  ("evaluate", .str statement)

/-- The requests that were sent, in order. -/
def Event.requests (events : List Event) : List (String × Json) :=
  events.filterMap fun
    | .request method body => some (method, body)
    | _ => none

/-- Requests add up. -/
@[simp] theorem Event.requests_append (events more : List Event) :
    Event.requests (events ++ more) = Event.requests events ++ Event.requests more :=
  List.filterMap_append

/-- Whether the exchanges are what a peer in the state `p` answers, one after the other, and
    leave it in the state `q`. -/
def Peer.Exchanges {σ : Type} (peer : Peer σ) (p : σ) : List Exchange → σ → Prop
  | [], q => q = p
  | x :: rest, q =>
    (peer x.method x.body p).result = x.answer ∧
      Exchanges peer (peer x.method x.body p).peer rest q

/-- Exchanges that follow each other are exchanges. -/
theorem Peer.Exchanges.append {σ : Type} {peer : Peer σ} {p q r : σ} {xs ys : List Exchange}
    (h : peer.Exchanges p xs q) (h' : peer.Exchanges q ys r) : peer.Exchanges p (xs ++ ys) r := by
  -- on the first exchanges; the state of the peer goes along
  induction xs generalizing p with
  | nil =>
    obtain rfl := h
    exact h'
  | cons x xs ih => exact ⟨h.1, ih h.2⟩

namespace Session

variable {σ : Type} {peer : Peer σ} {s t u : Session σ} {xs ys : List Exchange}

/-- The session `t` is `s` after the given exchanges with its worker. -/
structure Exchanged (peer : Peer σ) (s : Session σ) (xs : List Exchange) (t : Session σ) :
    Prop where
  requests : Event.requests t.events = Event.requests s.events ++ xs.map Exchange.request
  answers : peer.Exchanges s.peer xs t.peer
  stopOnFailure : t.stopOnFailure = s.stopOnFailure

theorem Exchanged.refl : s.Exchanged peer [] s :=
  ⟨by simp, rfl, rfl⟩

/-- Exchanges behind others come after them. -/
theorem Exchanged.trans (h : s.Exchanged peer xs t) (h' : t.Exchanged peer ys u) :
    s.Exchanged peer (xs ++ ys) u where
  requests := by rw [h'.requests, h.requests, List.map_append, List.append_assoc]
  answers := h.answers.append h'.answers
  stopOnFailure := h'.stopOnFailure.trans h.stopOnFailure

/-- An event that is no request does not show in the exchanges. -/
theorem Exchanged.log (h : s.Exchanged peer xs t) {e : Event} (he : Event.requests [e] = []) :
    s.Exchanged peer xs (t.log e) where
  requests := by rw [Session.log, Event.requests_append, he, List.append_nil, h.requests]
  answers := h.answers
  stopOnFailure := h.stopOnFailure

theorem Exchanged.print (h : s.Exchanged peer xs t) (text : String) :
    s.Exchanged peer xs (t.print text) := by
  unfold Session.print
  split
  · exact h
  · exact h.log rfl

theorem Exchanged.finish (h : s.Exchanged peer xs t) (ending : SessionEnd) :
    s.Exchanged peer xs (t.finish ending) :=
  ⟨h.requests, h.answers, h.stopOnFailure⟩

theorem Exchanged.fail (h : s.Exchanged peer xs t) (complaint : String) :
    s.Exchanged peer xs (t.fail complaint) :=
  (h.log rfl).finish _

theorem Exchanged.await (h : s.Exchanged peer xs t) : s.Exchanged peer xs t.await := by
  unfold Session.await
  split
  · exact h
  · exact h.log rfl

/-- Asking is one exchange, and leaves what was typed. -/
theorem exists_ask (peer : Peer σ) (s : Session σ) (method : String) (body : Json) :
    ∃ x after, s.ask peer method body = (x.answer, after) ∧ x.request = (method, body) ∧
      s.Exchanged peer [x] after ∧ after.buffer = s.buffer ∧ after.ending = s.ending := by
  -- the request is sent and the peer moves on; what was captured is printed then
  have hsent : s.Exchanged peer [⟨method, body, (peer method body s.peer).result⟩]
      ({ s with peer := (peer method body s.peer).peer }.log (.request method body)) :=
    { requests := Event.requests_append _ _, answers := ⟨rfl, rfl⟩, stopOnFailure := rfl }
  exact ⟨⟨method, body, (peer method body s.peer).result⟩, _, rfl, rfl, hsent.print _,
    buffer_ask peer s method body, ending_print _ _⟩

/-! ### The loop over statements -/

/-- How the loop over statements ends, of which it has sent `loop` and with them everything
    else in `others`.  All but the last of the statements that were sent were accepted. -/
inductive LoopEnd (s u : Session σ) (statements : List String) :
    (loop others : List Exchange) → Prop where
  /-- All statements were sent and accepted. -/
  | finished {loop : List Exchange} (haccepted : loop.all Exchange.accepted = true)
    (hall : loop.length = statements.length) (hending : u.ending = s.ending) :
    LoopEnd s u statements loop []
  /-- A statement has exited. -/
  | exited {loop : List Exchange} {x : Exchange} (haccepted : loop.all Exchange.accepted = true)
    (hstatus : x.status? = some .exited) (hending : u.ending = some (.code 0))
    (hsaved : u.events.getLast? = some .saved) : LoopEnd s u statements (loop ++ [x]) []
  /-- A statement has failed, and the session goes on. -/
  | failed {loop : List Exchange} {x : Exchange} (haccepted : loop.all Exchange.accepted = true)
    (hstatus : x.status? = some .failed) (hstop : s.stopOnFailure = false)
    (hending : u.ending = s.ending) : LoopEnd s u statements (loop ++ [x]) []
  /-- A statement has failed, and the worker is sent the statement that ends it. -/
  | stopped {loop : List Exchange} {x y : Exchange}
    (haccepted : loop.all Exchange.accepted = true) (hstatus : x.status? = some .failed)
    (hstop : s.stopOnFailure = true) (hlast : y.request = evaluation endText)
    (hending : u.ending = some (.code 1)) : LoopEnd s u statements (loop ++ [x]) [y]
  /-- The connection is gone. -/
  | violated {loop : List Exchange} {x : Exchange} {complaint : String}
    (haccepted : loop.all Exchange.accepted = true) (hanswer : x.answer = .error complaint)
    (hending : u.ending = some (.code 1)) : LoopEnd s u statements (loop ++ [x]) []

/-- How the loop ends depends on two things alone that the session was in before. -/
theorem LoopEnd.congr {statements : List String} (h : LoopEnd t u statements xs ys)
    (hending : t.ending = s.ending) (hstop : t.stopOnFailure = s.stopOnFailure) :
    LoopEnd s u statements xs ys := by
  cases h with
  | finished haccepted hall hopen => exact .finished haccepted hall (hopen.trans hending)
  | exited haccepted hstatus hend hsaved => exact .exited haccepted hstatus hend hsaved
  | failed haccepted hstatus hgoes hopen =>
    exact .failed haccepted hstatus (hstop ▸ hgoes) (hopen.trans hending)
  | stopped haccepted hstatus hstops hlast hend =>
    exact .stopped haccepted hstatus (hstop ▸ hstops) hlast hend
  | violated haccepted hanswer hend => exact .violated haccepted hanswer hend

/-- A statement that was accepted before the others changes nothing about how the loop ends. -/
theorem LoopEnd.cons {statement : String} {statements : List String} {x : Exchange}
    (h : LoopEnd s u statements xs ys) (hx : x.accepted = true) :
    LoopEnd s u (statement :: statements) (x :: xs) ys := by
  -- the statements that were accepted stay so
  have hcons : ∀ {loop : List Exchange}, loop.all Exchange.accepted = true →
      (x :: loop).all Exchange.accepted = true := by
    intro loop hloop
    rw [List.all_cons, hx, hloop]
    rfl
  cases h with
  | finished haccepted hall hopen => exact .finished (hcons haccepted) (by simp [hall]) hopen
  | exited haccepted hstatus hend hsaved => exact .exited (hcons haccepted) hstatus hend hsaved
  | failed haccepted hstatus hgoes hopen => exact .failed (hcons haccepted) hstatus hgoes hopen
  | stopped haccepted hstatus hstops hlast hend =>
    exact .stopped (hcons haccepted) hstatus hstops hlast hend
  | violated haccepted hanswer hend => exact .violated (hcons haccepted) hanswer hend

/-- The statement that ends the worker is sent once, and the session has failed whatever the
    answer is. -/
theorem exchanged_abandon (peer : Peer σ) (s : Session σ) :
    ∃ y, y.request = evaluation endText ∧ s.Exchanged peer [y] (s.abandon peer) ∧
      (s.abandon peer).ending = some (.code 1) ∧ (s.abandon peer).buffer = s.buffer := by
  obtain ⟨y, after, hask, hrequest, hasked, hbuffer, -⟩ :=
    exists_ask peer s "evaluate" (.str endText)
  refine ⟨y, hrequest, ?_⟩
  -- the answer only decides whether there is a complaint
  unfold abandon
  rw [← endText, hask]
  cases y.answer with
  | error complaint => exact ⟨hasked.fail complaint, rfl, hbuffer⟩
  | ok response => exact ⟨hasked.finish _, rfl, hbuffer⟩

/-- What the loop over statements has sent, and how it ends.  The buffer is not touched. -/
theorem loopEnd_evaluateAll (peer : Peer σ) (s : Session σ) {statements : List String}
    (hblank : ∀ x ∈ statements, Text.isBlank x.toList = false) :
    ∃ loop others, s.Exchanged peer (loop ++ others) (s.evaluateAll peer statements) ∧
      loop.map Exchange.request = (statements.take loop.length).map evaluation ∧
      (s.evaluateAll peer statements).buffer = s.buffer ∧
      LoopEnd s (s.evaluateAll peer statements) statements loop others := by
  -- on the statements: what the first is answered decides whether there is a second
  induction statements generalizing s with
  | nil => exact ⟨[], [], .refl, rfl, rfl, .finished rfl rfl rfl⟩
  | cons statement rest ih =>
    obtain ⟨x, after, hask, hrequest, hasked, hbuffer, hending⟩ :=
      exists_ask peer s "evaluate" (.str statement)
    have hfirst : [x].map Exchange.request = ((statement :: rest).take 1).map evaluation := by
      simp [hrequest, evaluation]
    rw [evaluateAll, if_neg (by simp [hblank statement (by simp)]), hask]
    cases hanswer : x.answer with
    | error complaint =>
      exact ⟨[] ++ [x], [], hasked.fail complaint, hfirst, hbuffer, .violated rfl hanswer rfl⟩
    | ok response =>
      have hstatus : x.status? = response.status? := by
        rw [Exchange.status?, hanswer]
      dsimp only
      rw [← hstatus]
      split
      · -- the worker has exited: the history is saved
        next hexited =>
        exact ⟨[] ++ [x], [], (hasked.log rfl).finish _, hfirst, hbuffer,
          .exited rfl hexited rfl List.getLast?_concat⟩
      · next hfailed =>
        split
        · -- a failure ends the session, after a last request
          next hstop =>
          obtain ⟨y, hy, habandoned, hended, hkept⟩ := exchanged_abandon peer after
          exact ⟨[] ++ [x], [y], hasked.trans habandoned, hfirst, hkept.trans hbuffer,
            .stopped rfl hfailed (hasked.stopOnFailure ▸ hstop) hy hended⟩
        · -- the session goes on, but not with the other statements
          next hstop =>
          refine ⟨[] ++ [x], [], hasked, hfirst, hbuffer, .failed rfl hfailed ?_ hending⟩
          rw [← hasked.stopOnFailure]
          simpa using hstop
      · next hexited hfailed =>
        -- the statement was accepted, and the loop goes on behind it
        have haccepted : x.accepted = true := by
          rw [hstatus] at hexited hfailed
          simpa [Exchange.accepted, hanswer] using And.intro hexited hfailed
        obtain ⟨loop, others, hlater, hsent, hkept, hend⟩ :=
          ih after fun x hx => hblank x (List.mem_cons_of_mem _ hx)
        refine ⟨x :: loop, others, hasked.trans hlater, ?_, hkept.trans hbuffer,
          (hend.congr hending hasked.stopOnFailure).cons haccepted⟩
        rw [List.map_cons, List.length_cons, List.take_succ_cons, List.map_cons, hsent, hrequest]
        rfl

/-! ### Turns that scan -/

/-- A text was scanned and its statements were sent, and `u` is left of the session `s`. -/
structure Scanned (peer : Peer σ) (s : Session σ) (text : String) (u : Session σ)
    (loop others : List Exchange) : Prop where
  exchanged : s.Exchanged peer (loop ++ others) u
  sent : loop.map Exchange.request = ((Scan.statementsOf text).1.take loop.length).map evaluation
  buffer : u.buffer = keptOf (Scan.statementsOf text).2
  loopEnd : LoopEnd s u (Scan.statementsOf text).1 loop others

/-- A line that is scanned behind the buffer. -/
theorem exists_scanned_scan (peer : Peer σ) (s : Session σ) (line : String) :
    ∃ loop others,
      s.Scanned peer (s.buffer ++ line ++ "\n") (s.scan peer line) loop others := by
  have hblank : ∀ x ∈ (Scan.statementsOf (s.buffer ++ line ++ "\n")).1,
      Text.isBlank x.toList = false := fun x hx => isBlank_of_mem_statementsOf hx
  -- the buffer is cut before the first statement is sent, and no answer changes it later
  obtain ⟨kept, hkept⟩ : ∃ kept : Session σ, kept = { s with
      buffer := keptOf (Scan.statementsOf (s.buffer ++ line ++ "\n")).2
      number := if (Scan.statementsOf (s.buffer ++ line ++ "\n")).1.isEmpty then s.number
        else s.number + 1 } := ⟨_, rfl⟩
  have hscan : s.scan peer line =
      kept.evaluateAll peer (Scan.statementsOf (s.buffer ++ line ++ "\n")).1 := by
    rw [hkept]
    rfl
  have hbefore : s.Exchanged peer [] kept := by
    rw [hkept]
    exact ⟨by simp, rfl, rfl⟩
  have hending : kept.ending = s.ending := by rw [hkept]
  have hbuffer : kept.buffer = keptOf (Scan.statementsOf (s.buffer ++ line ++ "\n")).2 := by
    rw [hkept]
  obtain ⟨loop, others, hexchanged, hsent, hsame, hend⟩ := loopEnd_evaluateAll peer kept hblank
  rw [hscan]
  exact ⟨loop, others, hbefore.trans hexchanged, hsent, hsame.trans hbuffer,
    hend.congr hending hbefore.stopOnFailure⟩

variable {text : String} {loop others : List Exchange}

/-- What was noted before the scan does not show in it. -/
theorem Scanned.behind (h : t.Scanned peer text u loop others) (hbefore : s.Exchanged peer [] t)
    (hending : t.ending = s.ending) : s.Scanned peer text u loop others where
  exchanged := hbefore.trans h.exchanged
  sent := h.sent
  buffer := h.buffer
  loopEnd := h.loopEnd.congr hending hbefore.stopOnFailure

/-- A prompt does not end the session. -/
theorem ending_await (s : Session σ) : s.await.ending = s.ending := by
  unfold await
  split <;> rfl

theorem buffer_await (s : Session σ) : s.await.buffer = s.buffer := by
  unfold await
  split <;> rfl

/-- A session that is over prompts no more. -/
theorem await_of_ending {ending : SessionEnd} (h : s.ending = some ending) : s.await = s := by
  unfold await
  rw [h]

/-- The next prompt does not show in the scan before it. -/
theorem Scanned.await (h : s.Scanned peer text u loop others) :
    s.Scanned peer text u.await loop others where
  exchanged := h.exchanged.await
  sent := h.sent
  buffer := (buffer_await u).trans h.buffer
  -- a session that is open is prompted, one that is over is not
  loopEnd := by
    cases h.loopEnd with
    | finished haccepted hall hopen =>
      exact .finished haccepted hall ((ending_await u).trans hopen)
    | exited haccepted hstatus hend hsaved =>
      rw [await_of_ending hend]
      exact .exited haccepted hstatus hend hsaved
    | failed haccepted hstatus hgoes hopen =>
      exact .failed haccepted hstatus hgoes ((ending_await u).trans hopen)
    | stopped haccepted hstatus hstops hlast hend =>
      exact .stopped haccepted hstatus hstops hlast ((ending_await u).trans hend)
    | violated haccepted hanswer hend =>
      exact .violated haccepted hanswer ((ending_await u).trans hend)

/-- A line is remembered before it is taken, unless it is blank. -/
theorem exists_noted (peer : Peer σ) (s : Session σ) (line : String) :
    ∃ r, r = (if Text.isBlank line.toList then s else s.log (.history line)) ∧
      s.Exchanged peer [] r ∧ r.buffer = s.buffer ∧ r.ending = s.ending := by
  refine ⟨_, rfl, ?_⟩
  split
  · exact ⟨.refl, rfl, rfl⟩
  · exact ⟨Exchanged.refl.log rfl, rfl, rfl⟩

/-- A line that is no command is scanned behind the buffer. -/
theorem exists_scanned_takeLine (peer : Peer σ) (s : Session σ) {line : String}
    (hcommand : (s.buffer.isEmpty && isCommand line) = false) :
    ∃ loop others,
      s.Scanned peer (s.buffer ++ line ++ "\n") (s.takeLine peer (some line)) loop others := by
  obtain ⟨r, hr, hnoted, hbuffer, hending⟩ := exists_noted peer s line
  have htake : s.takeLine peer (some line) = r.scan peer line := by
    simp only [takeLine, ← hr, hbuffer, hcommand, Bool.false_eq_true, if_false]
  obtain ⟨loop, others, hscanned⟩ := exists_scanned_scan peer r line
  rw [hbuffer] at hscanned
  rw [htake]
  exact ⟨loop, others, hscanned.behind hnoted hending⟩

/-- At the end of the input the statement that ends the worker is scanned alone. -/
theorem exists_scanned_takeEnd (peer : Peer σ) (s : Session σ) :
    ∃ loop others, s.Scanned peer endText (s.takeLine peer none) loop others := by
  obtain ⟨loop, others, hscanned⟩ := exists_scanned_scan peer { s with buffer := "" } endStatement
  -- what was typed is dropped
  have htext : "" ++ endStatement ++ "\n" = endText := by decide
  rw [htext] at hscanned
  exact ⟨loop, others, hscanned.behind ⟨by simp, rfl, rfl⟩ rfl⟩

/-- Reading a line only notes it. -/
theorem readLine_noted (peer : Peer σ) (s : Session σ) (line : Option String) :
    s.Exchanged peer [] (s.readLine line) ∧ (s.readLine line).buffer = s.buffer ∧
      (s.readLine line).ending = s.ending := by
  unfold readLine
  dsimp only
  split
  · exact ⟨(Exchanged.refl.log rfl).log rfl, rfl, rfl⟩
  · exact ⟨Exchanged.refl.log rfl, rfl, rfl⟩

/-! ### Turns that do not scan -/

/-- Exchanges of which one that brings no answer is the last, and ends the session. -/
structure Guarded (peer : Peer σ) (s u : Session σ) (others : List Exchange) : Prop where
  exchanged : s.Exchanged peer others u
  violated : ∀ x ∈ others, ∀ complaint, x.answer = .error complaint →
    others.getLast? = some x ∧ u.ending = some (.code 1)

/-- The next prompt changes nothing about that. -/
theorem Guarded.await (h : Guarded peer s u others) : Guarded peer s u.await others where
  exchanged := h.exchanged.await
  violated := fun x hx complaint hanswer =>
    have hlast := h.violated x hx complaint hanswer
    ⟨hlast.1, (ending_await u).trans hlast.2⟩

theorem Guarded.behind (h : Guarded peer t u others) (hbefore : s.Exchanged peer [] t) :
    Guarded peer s u others where
  exchanged := hbefore.trans h.exchanged
  violated := h.violated

/-- Items that are printed are no exchanges, up to the first that cannot be shown. -/
theorem exchanged_printEach (peer : Peer σ) (line : Json → Except Error String) (s : Session σ)
    (items : List Json) : s.Exchanged peer [] (s.printEach line items) := by
  -- on the items
  induction items generalizing s with
  | nil => exact .refl
  | cons item rest ih =>
    unfold printEach
    split
    · exact (Exchanged.refl.print _).trans (ih _)
    · exact Exchanged.refl.finish _

/-- What is no list is not printed. -/
theorem exchanged_printItems (peer : Peer σ) (line : Json → Except Error String) (s : Session σ)
    (body : Json) : s.Exchanged peer [] (s.printItems line body) := by
  unfold printItems
  split
  · exact exchanged_printEach peer line s _
  · exact Exchanged.refl.finish _

/-- A command asks once, and shows what it is told. -/
theorem exists_guarded_asking (s : Session σ) (method : String) (body : Json)
    {next : Session σ → Wire.Message → Session σ}
    (hnext : ∀ (s : Session σ) response, s.Exchanged peer [] (next s response)) :
    ∃ others, Guarded peer s (s.asking peer method body next) others := by
  obtain ⟨x, after, hask, -, hasked, -, -⟩ := exists_ask peer s method body
  refine ⟨[x], ?_⟩
  unfold asking
  rw [hask]
  cases hanswer : x.answer with
  | error complaint =>
    -- no answer: this was the last request
    refine ⟨hasked.fail complaint, fun y hy _ _ => ?_⟩
    rw [List.mem_singleton.mp hy]
    exact ⟨rfl, rfl⟩
  | ok response =>
    refine ⟨hasked.trans (hnext after response), fun y hy complaint hy' => ?_⟩
    rw [List.mem_singleton.mp hy, hanswer] at hy'
    cases hy'

/-- A command asks once at most. -/
theorem exists_guarded_command (peer : Peer σ) (s : Session σ) (line : List Char) :
    ∃ others, Guarded peer s (s.command peer line) others := by
  unfold command
  split
  · exact exists_guarded_asking s _ _ fun s response => Exchanged.refl.print _
  · exact exists_guarded_asking s _ _ fun s response => exchanged_printItems peer _ s _
  · refine exists_guarded_asking s _ _ fun s response => ?_
    split
    · exact exchanged_printItems peer _ s _
    · split
      · exact Exchanged.refl.log rfl
      · exact Exchanged.refl.finish _
  · -- an unknown command is not sent
    exact ⟨[], Exchanged.refl.log rfl, by simp⟩

/-- A line that is a command is carried out. -/
theorem exists_guarded_takeLine (peer : Peer σ) (s : Session σ) {line : String}
    (hcommand : (s.buffer.isEmpty && isCommand line) = true) :
    ∃ others, Guarded peer s (s.takeLine peer (some line)) others := by
  obtain ⟨r, hr, hnoted, hbuffer, -⟩ := exists_noted peer s line
  have htake : s.takeLine peer (some line) =
      r.command peer ((Text.trim line.toList).drop 1) := by
    simp only [takeLine, ← hr, hbuffer, hcommand, if_true]
  obtain ⟨others, hguarded⟩ := exists_guarded_command peer r ((Text.trim line.toList).drop 1)
  rw [htake]
  exact ⟨others, hguarded.behind hnoted⟩

/-- A completion asks once, whatever comes back, and leaves what was typed. -/
theorem exists_exchanged_offer (peer : Peer σ) (s : Session σ) (line : String) (cursor : Int)
    (word : String) :
    ∃ x, s.Exchanged peer [x] (s.offer peer line cursor word) ∧
      (s.offer peer line cursor word).buffer = s.buffer := by
  obtain ⟨x, after, hask, -, hasked, hbuffer, -⟩ := exists_ask peer s "complete"
    (.obj [("line", .str line), ("cursorOffset", .int cursor), ("wordFragment", .str word)])
  -- whatever comes back, the session is the one behind the request
  have hcomplete : ∃ result, s.complete peer line cursor word = (result, after) := by
    unfold complete
    dsimp only
    rw [hask]
    cases x.answer with
    | error complaint => exact ⟨_, rfl⟩
    | ok response =>
      dsimp only
      split <;> exact ⟨_, rfl⟩
  obtain ⟨result, hcomplete⟩ := hcomplete
  refine ⟨x, ?_⟩
  unfold offer
  rw [hcomplete]
  cases result with
  | ok texts => exact ⟨hasked.log rfl, hbuffer⟩
  | error e => exact ⟨hasked.finish _, hbuffer⟩

/-! ### Turns -/

/-- What is read in a turn: a line, or the end of the input. -/
def readOf? : Input → Option (Option String)
  | .line text => some (some text)
  | .cleared line => some line
  | .endOfInput => some none
  | .complete _ _ _ => none

/-- What was typed before and counts in a turn: nothing, if the wish is to drop it. -/
def carriedOf (buffer : String) : Input → String
  | .cleared _ => ""
  | _ => buffer

/-- What a turn is about. -/
inductive TurnKind where
  /-- The completion of a word, while a line is read. -/
  | completion
  | command
  /-- A text that is cut into statements. -/
  | scan (text : String)

/-- What a turn is about, by its input and what was typed before. -/
def kindOf (buffer : String) (input : Input) : TurnKind :=
  match readOf? input with
  | none => .completion
  | some none => .scan endText
  | some (some line) =>
    if (carriedOf buffer input).isEmpty && isCommand line then .command
    else .scan (carriedOf buffer input ++ line ++ "\n")

/-- A turn that reads something takes it behind what was typed before. -/
theorem exists_take_eq (peer : Peer σ) {input : Input} {line : Option String}
    (hopen : t.ending = none) (hread : readOf? input = some line) :
    ∃ r, t.Exchanged peer [] r ∧ r.ending = t.ending ∧ r.buffer = carriedOf t.buffer input ∧
      t.take peer input = (r.takeLine peer line).await := by
  cases input with
  | complete line cursor word => cases hread
  | line line =>
    obtain rfl := Option.some.inj hread
    obtain ⟨hnoted, hbuffer, hending⟩ := readLine_noted peer t (some line)
    exact ⟨t.readLine (some line), hnoted, hending, hbuffer, by simp only [take, hopen]⟩
  -- the buffer is dropped behind the line that was read
  | cleared line =>
    obtain rfl := Option.some.inj hread
    obtain ⟨hnoted, -, hending⟩ := readLine_noted peer t line
    exact ⟨(t.readLine line).clear, ⟨hnoted.requests, hnoted.answers, hnoted.stopOnFailure⟩,
      hending, rfl, by simp only [take, hopen]⟩
  | endOfInput =>
    obtain rfl := Option.some.inj hread
    obtain ⟨hnoted, hbuffer, hending⟩ := readLine_noted peer t none
    exact ⟨t.readLine none, hnoted, hending, hbuffer, by simp only [take, hopen]⟩

/-- A turn that scans a text. -/
theorem exists_scanned_take (peer : Peer σ) {input : Input} (hopen : t.ending = none)
    (hkind : kindOf t.buffer input = .scan text) :
    ∃ loop others, t.Scanned peer text (t.take peer input) loop others := by
  unfold kindOf at hkind
  split at hkind
  · cases hkind
  · -- the end of the input
    next hread =>
    obtain rfl := TurnKind.scan.inj hkind
    obtain ⟨r, hnoted, hending, -, htake⟩ := exists_take_eq peer hopen hread
    obtain ⟨loop, others, hscanned⟩ := exists_scanned_takeEnd peer r
    rw [htake]
    exact ⟨loop, others, (hscanned.behind hnoted hending).await⟩
  · next line hread =>
    split at hkind
    · cases hkind
    · -- a line that is no command here
      next hcommand =>
      obtain rfl := TurnKind.scan.inj hkind
      obtain ⟨r, hnoted, hending, hbuffer, htake⟩ := exists_take_eq peer hopen hread
      rw [← hbuffer] at hcommand ⊢
      obtain ⟨loop, others, hscanned⟩ :=
        exists_scanned_takeLine peer r (Bool.eq_false_iff.mpr hcommand)
      rw [htake]
      exact ⟨loop, others, (hscanned.behind hnoted hending).await⟩

/-- A turn that carries out a command. -/
theorem exists_guarded_take (peer : Peer σ) {input : Input} (hopen : t.ending = none)
    (hkind : kindOf t.buffer input = .command) :
    ∃ others, Guarded peer t (t.take peer input) others := by
  unfold kindOf at hkind
  split at hkind
  · cases hkind
  · cases hkind
  · -- only a line that was read can be a command
    next line hread =>
    split at hkind
    · next hcommand =>
      obtain ⟨r, hnoted, -, hbuffer, htake⟩ := exists_take_eq peer hopen hread
      rw [← hbuffer] at hcommand
      obtain ⟨others, hguarded⟩ := exists_guarded_takeLine peer r hcommand
      rw [htake]
      exact ⟨others, (hguarded.behind hnoted).await⟩
    · cases hkind

/-- Only a completion reads nothing. -/
theorem readOf?_of_kindOf {buffer : String} {input : Input}
    (hkind : kindOf buffer input = .completion) : readOf? input = none := by
  unfold kindOf at hkind
  split at hkind
  · assumption
  · cases hkind
  · split at hkind <;> cases hkind

/-- A turn that completes a word asks once, and leaves what was typed. -/
theorem exists_exchanged_take (peer : Peer σ) {input : Input} (hopen : t.ending = none)
    (hread : readOf? input = none) :
    ∃ x, t.Exchanged peer [x] (t.take peer input) ∧ (t.take peer input).buffer = t.buffer := by
  cases input with
  | complete line cursor word =>
    simp only [take, hopen]
    exact exists_exchanged_offer peer t line cursor word
  | _ => cases hread

/-! ### What the end of a loop says about one of its statements -/

/-- A statement that was not accepted is the last of its loop, and tells how the loop ends. -/
theorem LoopEnd.of_not_accepted {statements : List String} {x : Exchange}
    (h : LoopEnd s u statements loop others) (hx : x ∈ loop) (hnot : x.accepted = false) :
    loop.getLast? = some x ∧
      (x.status? = some .exited ∧ others = [] ∧ u.ending = some (.code 0) ∧
          u.events.getLast? = some .saved ∨
        x.status? = some .failed ∧ s.stopOnFailure = false ∧ others = [] ∧
          u.ending = s.ending ∨
        x.status? = some .failed ∧ s.stopOnFailure = true ∧ u.ending = some (.code 1) ∧
          (∃ y, others = [y] ∧ y.request = evaluation endText) ∨
        x.status? = none ∧ others = [] ∧ u.ending = some (.code 1)) := by
  -- all but the last were accepted
  have hlast : ∀ {xs : List Exchange} {y : Exchange}, xs.all Exchange.accepted = true →
      x ∈ xs ++ [y] → x = y := by
    intro xs y haccepted hmem
    rcases List.mem_append.mp hmem with hxs | hy
    · rw [List.all_eq_true.mp haccepted x hxs] at hnot
      cases hnot
    · exact List.mem_singleton.mp hy
  cases h with
  | finished haccepted hall hopen =>
    rw [List.all_eq_true.mp haccepted x hx] at hnot
    cases hnot
  | exited haccepted hstatus hend hsaved =>
    obtain rfl := hlast haccepted hx
    exact ⟨List.getLast?_concat, .inl ⟨hstatus, rfl, hend, hsaved⟩⟩
  | failed haccepted hstatus hgoes hopen =>
    obtain rfl := hlast haccepted hx
    exact ⟨List.getLast?_concat, .inr (.inl ⟨hstatus, hgoes, rfl, hopen⟩)⟩
  | stopped haccepted hstatus hstops hfarewell hend =>
    obtain rfl := hlast haccepted hx
    exact ⟨List.getLast?_concat, .inr (.inr (.inl ⟨hstatus, hstops, hend, _, rfl, hfarewell⟩))⟩
  | violated haccepted hanswer hend =>
    obtain rfl := hlast haccepted hx
    exact ⟨List.getLast?_concat,
      .inr (.inr (.inr ⟨Exchange.status?_of_answer hanswer, rfl, hend⟩))⟩

/-- If nothing stops the loop, all statements are sent and nothing else. -/
theorem LoopEnd.of_accepted {statements : List String}
    (h : LoopEnd s u statements loop others) (haccepted : loop.all Exchange.accepted = true) :
    loop.length = statements.length ∧ others = [] ∧ u.ending = s.ending := by
  have hlast : ∀ {xs : List Exchange} {y : Exchange},
      (xs ++ [y]).all Exchange.accepted = true → y.accepted = true := fun hall =>
    List.all_eq_true.mp hall _ (by simp)
  -- in every other case the last one was not accepted
  cases h with
  | finished _ hall hopen => exact ⟨hall, rfl, hopen⟩
  | exited _ hstatus _ _ =>
    exact absurd (hlast haccepted) (by simp [Exchange.accepted_of_status (.inl hstatus)])
  | failed _ hstatus _ _ =>
    exact absurd (hlast haccepted) (by simp [Exchange.accepted_of_status (.inr hstatus)])
  | stopped _ hstatus _ _ _ =>
    exact absurd (hlast haccepted) (by simp [Exchange.accepted_of_status (.inr hstatus)])
  | violated _ hanswer _ =>
    exact absurd (hlast haccepted) (by simp [Exchange.accepted_of_answer hanswer])

/-- Whatever is sent besides the statements is the last thing that is sent. -/
theorem LoopEnd.of_mem_others {statements : List String} {x : Exchange}
    (h : LoopEnd s u statements loop others) (hx : x ∈ others) :
    (loop ++ others).getLast? = some x ∧ u.ending = some (.code 1) := by
  cases h with
  | stopped haccepted hstatus hstops hfarewell hend =>
    rw [List.mem_singleton.mp hx]
    exact ⟨List.getLast?_concat, hend⟩
  | _ => cases hx

/-! ### Runs -/

/-- Takes inputs one after the other. -/
def takeAll (peer : Peer σ) (s : Session σ) (inputs : List Input) : Session σ :=
  inputs.foldl (fun s input => s.take peer input) s

/-- A session that is over takes no input. -/
theorem take_of_ending {ending : SessionEnd} (h : s.ending = some ending) (input : Input) :
    s.take peer input = s := by
  unfold take
  rw [h]

/-- A session that is over takes nothing more. -/
theorem takeAll_of_ending {ending : SessionEnd} (h : s.ending = some ending)
    (inputs : List Input) : s.takeAll peer inputs = s := by
  unfold takeAll
  induction inputs with
  | nil => rfl
  | cons input rest ih => rw [List.foldl_cons, take_of_ending h, ih]

/-- The end of the input is taken turn by turn. -/
theorem takeEnd_eq (peer : Peer σ) (s : Session σ) (ends : Nat) :
    s.takeEnd peer ends = s.takeAll peer (List.replicate ends .endOfInput) := by
  -- on the number of times
  induction ends generalizing s with
  | zero => rfl
  | succ ends ih =>
    rw [takeEnd]
    cases hending : s.ending with
    | some ending => rw [takeAll_of_ending hending]
    | none =>
      dsimp only
      rw [ih, List.replicate_succ]
      rfl

/-- A run is one turn after the other, on the input and then on the end of it. -/
theorem run_eq_takeAll (peer : Peer σ) (s : Session σ) (inputs : List Input) (ends : Nat) :
    s.run peer inputs ends = s.takeAll peer (inputs ++ List.replicate ends .endOfInput) := by
  rw [run, takeEnd_eq, takeAll, takeAll, List.foldl_append]

/-- Inputs behind others are taken after them. -/
theorem takeAll_append (peer : Peer σ) (s : Session σ) (inputs more : List Input) :
    s.takeAll peer (inputs ++ more) = (s.takeAll peer inputs).takeAll peer more :=
  List.foldl_append

/-- Completions leave what was typed. -/
theorem buffer_takeAll_completions (peer : Peer σ) (s : Session σ) {completions : List Input}
    (h : ∀ c ∈ completions, readOf? c = none) :
    (s.takeAll peer completions).buffer = s.buffer := by
  -- on the completions, none of which touches the buffer
  induction completions generalizing s with
  | nil => rfl
  | cons input rest ih =>
    have hfirst : (s.take peer input).buffer = s.buffer := by
      cases hending : s.ending with
      | some ending => rw [take_of_ending hending]
      | none =>
        obtain ⟨x, -, hbuffer⟩ := exists_exchanged_take peer hending (h input List.mem_cons_self)
        exact hbuffer
    exact (ih (s.take peer input) fun c hc => h c (List.mem_cons_of_mem _ hc)).trans hfirst

/-! ### Turns of a run -/

/-- The exchange `x` is the last of `asked` and of a run that comes to `final`, of which `u` is
    left after `asked`; the run gives `code`. -/
structure ClosesRun (final u : Session σ) (asked : List Exchange) (x : Exchange) (code : Nat) :
    Prop where
  last : asked.getLast? = some x
  final_eq : final = u
  exitCode : final.exitCode = .ok code

/-- What the turn of the session `t` on an input does, in a run that comes to `final`: it sends
    the statements in `loop`, and everything else that it sends is in `others`. -/
structure Turn (peer : Peer σ) (t : Session σ) (input : Input) (final : Session σ)
    (loop others : List Exchange) : Prop where
  /-- These are the requests of the turn, in order, with the answers of the worker. -/
  exchanged : t.Exchanged peer (loop ++ others) (t.take peer input)
  /-- The loop sends the first statements of the text that is scanned. -/
  sent : ∀ text, kindOf t.buffer input = .scan text →
    loop.map Exchange.request = ((Scan.statementsOf text).1.take loop.length).map evaluation
  /-- It sends all of them, if none of those that were sent stops it. -/
  finished : ∀ text, kindOf t.buffer input = .scan text → loop.all Exchange.accepted = true →
    loop.length = (Scan.statementsOf text).1.length ∧ others = [] ∧
      (t.take peer input).ending = none
  /-- Without a scan there is no loop. -/
  unscanned : (∀ text, kindOf t.buffer input ≠ .scan text) → loop = []
  /-- A statement that has exited is the last request of the run.  The history is saved. -/
  exited : ∀ x ∈ loop, x.status? = some .exited → others = [] ∧
    ClosesRun final (t.take peer input) loop x 0 ∧ final.events.getLast? = some .saved
  /-- A statement that has failed is the last of its scan.  What the scan has left stays in front
      of the next line, whatever is completed in between. -/
  failed : t.stopOnFailure = false → ∀ x ∈ loop, x.status? = some .failed →
    others = [] ∧ loop.getLast? = some x ∧ (t.take peer input).ending = none ∧
      ∀ text, kindOf t.buffer input = .scan text → ∀ completions : List Input,
        (∀ c ∈ completions, readOf? c = none) →
        ((t.take peer input).takeAll peer completions).buffer =
            keptOf (Scan.statementsOf text).2 ∧
          ∀ next, keptOf (Scan.statementsOf text).2 ≠ "" →
            kindOf ((t.take peer input).takeAll peer completions).buffer (.line next) =
              .scan (keptOf (Scan.statementsOf text).2 ++ next ++ "\n")
  /-- With the wish to stop at a failure, one more request follows, and the run has failed. -/
  stopped : t.stopOnFailure = true → ∀ x ∈ loop, x.status? = some .failed →
    loop.getLast? = some x ∧ ∃ y, others = [y] ∧ y.request = evaluation endText ∧
      ClosesRun final (t.take peer input) (loop ++ others) y 1
  /-- A request without an answer is the last of the run, except for those of completions. -/
  violated : kindOf t.buffer input ≠ .completion → ∀ x ∈ loop ++ others, ∀ complaint,
    x.answer = .error complaint → ClosesRun final (t.take peer input) (loop ++ others) x 1
  /-- The wish to drop what was typed drops this and nothing else. -/
  cleared : ∀ line, input = .cleared (some line) →
    kindOf t.buffer input = kindOf "" (.line line) ∧
      (t.echo = false → t.take peer input = t.clear.take peer (.line line))

section Turn

variable {input : Input} {final : Session σ}

/-- What ends a session is the last of every run. -/
theorem closesRun_of_ending {asked : List Exchange} {x : Exchange} {code : Nat}
    {later : List Input} (hlast : asked.getLast? = some x) (hend : u.ending = some (.code code)) :
    ClosesRun (u.takeAll peer later) u asked x code where
  last := hlast
  final_eq := takeAll_of_ending hend later
  exitCode := by rw [takeAll_of_ending hend, exitCode, hend]

/-- Dropping what was typed shows in the buffer, and otherwise at most in the echo of the prompt
    that the line was read with. -/
theorem take_cleared (peer : Peer σ) {line : String} (hopen : t.ending = none) :
    kindOf t.buffer (.cleared (some line)) = kindOf "" (.line line) ∧
      (t.echo = false → t.take peer (.cleared (some line)) = t.clear.take peer (.line line)) := by
  refine ⟨rfl, fun hecho => ?_⟩
  have hread : (t.readLine (some line)).clear = t.clear.readLine (some line) := by
    simp only [readLine, clear, Session.log, hecho]
  have hclear : t.clear.ending = none := hopen
  simp only [take, hopen, hclear, hread]

/-- What a scan leaves stays in front of the next line. -/
theorem Scanned.carried (h : s.Scanned peer text u loop others) {completions : List Input}
    (hcompletions : ∀ c ∈ completions, readOf? c = none) :
    (u.takeAll peer completions).buffer = keptOf (Scan.statementsOf text).2 ∧
      ∀ next, keptOf (Scan.statementsOf text).2 ≠ "" →
        kindOf (u.takeAll peer completions).buffer (.line next) =
          .scan (keptOf (Scan.statementsOf text).2 ++ next ++ "\n") := by
  have hbuffer := (buffer_takeAll_completions peer u hcompletions).trans h.buffer
  refine ⟨hbuffer, fun next hkept => ?_⟩
  -- behind a text no line is a command
  have hnonempty : (keptOf (Scan.statementsOf text).2).isEmpty = false := by
    simpa using hkept
  simp only [hbuffer, kindOf, readOf?, carriedOf, hnonempty, Bool.false_and, Bool.false_eq_true,
    if_false]

/-- A turn that scans does all that is said of turns. -/
theorem Scanned.turn (hopen : t.ending = none) (hkind : kindOf t.buffer input = .scan text)
    (h : t.Scanned peer text (t.take peer input) loop others) (later : List Input) :
    Turn peer t input ((t.take peer input).takeAll peer later) loop others where
  exchanged := h.exchanged
  sent := fun text' hkind' => by
    obtain rfl := TurnKind.scan.inj (hkind.symm.trans hkind')
    exact h.sent
  finished := fun text' hkind' haccepted => by
    obtain rfl := TurnKind.scan.inj (hkind.symm.trans hkind')
    obtain ⟨hall, hothers, hend⟩ := h.loopEnd.of_accepted haccepted
    exact ⟨hall, hothers, hend.trans hopen⟩
  unscanned := fun hnone => absurd hkind (hnone text)
  -- what came back for a statement tells which end of the loop it was
  exited := fun x hx hstatus => by
    have hnot := Exchange.accepted_of_status (.inl hstatus)
    obtain ⟨hlast, ⟨-, hothers, hend, hsaved⟩ | ⟨hs, -⟩ | ⟨hs, -⟩ | ⟨hs, -⟩⟩ :=
      h.loopEnd.of_not_accepted hx hnot
    · refine ⟨hothers, closesRun_of_ending hlast hend, ?_⟩
      rw [takeAll_of_ending hend]
      exact hsaved
    all_goals cases hstatus.symm.trans hs
  failed := fun hstop x hx hstatus => by
    have hnot := Exchange.accepted_of_status (.inr hstatus)
    obtain ⟨hlast, ⟨hs, -⟩ | ⟨-, -, hothers, hend⟩ | ⟨-, hs, -⟩ | ⟨hs, -⟩⟩ :=
      h.loopEnd.of_not_accepted hx hnot
    · cases hstatus.symm.trans hs
    · refine ⟨hothers, hlast, hend.trans hopen, fun text' hkind' completions hcompletions => ?_⟩
      obtain rfl := TurnKind.scan.inj (hkind.symm.trans hkind')
      exact h.carried hcompletions
    · cases hstop.symm.trans hs
    · cases hstatus.symm.trans hs
  stopped := fun hstop x hx hstatus => by
    have hnot := Exchange.accepted_of_status (.inr hstatus)
    obtain ⟨hlast, ⟨hs, -⟩ | ⟨-, hs, -⟩ | ⟨-, -, hend, y, hothers, hy⟩ | ⟨hs, -⟩⟩ :=
      h.loopEnd.of_not_accepted hx hnot
    · cases hstatus.symm.trans hs
    · cases hstop.symm.trans hs
    · refine ⟨hlast, y, hothers, hy, closesRun_of_ending ?_ hend⟩
      rw [hothers, List.getLast?_concat]
    · cases hstatus.symm.trans hs
  violated := fun _ x hx complaint hanswer => by
    -- a statement, or the one that is sent to end the worker
    rcases List.mem_append.mp hx with hx | hx
    · have hnone := Exchange.status?_of_answer hanswer
      obtain ⟨hlast, ⟨hs, -⟩ | ⟨hs, -⟩ | ⟨hs, -⟩ | ⟨-, hothers, hend⟩⟩ :=
        h.loopEnd.of_not_accepted hx (Exchange.accepted_of_answer hanswer)
      · cases hnone.symm.trans hs
      · cases hnone.symm.trans hs
      · cases hnone.symm.trans hs
      · refine closesRun_of_ending ?_ hend
        rw [hothers, List.append_nil, hlast]
    · obtain ⟨hlast, hend⟩ := h.loopEnd.of_mem_others hx
      exact closesRun_of_ending hlast hend
  cleared := fun line hinput => by
    subst hinput
    exact take_cleared peer hopen

/-- A turn that does not scan does all that is said of turns, if a request without an answer
    ends it. -/
theorem Exchanged.turn (hopen : t.ending = none)
    (hkind : ∀ text, kindOf t.buffer input ≠ .scan text)
    (h : t.Exchanged peer others (t.take peer input))
    (hguarded : kindOf t.buffer input ≠ .completion → Guarded peer t (t.take peer input) others)
    (later : List Input) :
    Turn peer t input ((t.take peer input).takeAll peer later) [] others where
  exchanged := h
  -- nothing is scanned, so nothing is said of a loop
  sent := fun text htext => absurd htext (hkind text)
  finished := fun text htext => absurd htext (hkind text)
  unscanned := fun _ => rfl
  exited := fun x hx => by cases hx
  failed := fun _ x hx => by cases hx
  stopped := fun _ x hx => by cases hx
  violated := fun hcompletion x hx complaint hanswer => by
    obtain ⟨hlast, hend⟩ := (hguarded hcompletion).violated x hx complaint hanswer
    exact closesRun_of_ending hlast hend
  cleared := fun line hinput => by
    subst hinput
    exact take_cleared peer hopen

/-- Every turn of a session that goes on does all that is said of turns. -/
theorem exists_turn (peer : Peer σ) (hopen : t.ending = none) (input : Input)
    (later : List Input) :
    ∃ loop others, Turn peer t input ((t.take peer input).takeAll peer later) loop others := by
  -- by what the turn is about
  cases hkind : kindOf t.buffer input with
  | scan text =>
    obtain ⟨loop, others, hscanned⟩ := exists_scanned_take peer hopen hkind
    exact ⟨loop, others, hscanned.turn hopen hkind later⟩
  | command =>
    obtain ⟨others, hguarded⟩ := exists_guarded_take peer hopen hkind
    exact ⟨[], others, hguarded.exchanged.turn hopen (by simp [hkind]) (fun _ => hguarded) later⟩
  | completion =>
    obtain ⟨x, hexchanged, -⟩ := exists_exchanged_take peer hopen (readOf?_of_kindOf hkind)
    exact ⟨[], [x], hexchanged.turn hopen (by simp [hkind]) (absurd hkind) later⟩

end Turn

/-- All that a session does with its worker in some turns are exchanges, one after the other. -/
theorem exists_exchanged_takeAll (peer : Peer σ) (s : Session σ) (inputs : List Input) :
    ∃ asked, s.Exchanged peer asked (s.takeAll peer inputs) := by
  -- turn by turn, until the session is over
  induction inputs generalizing s with
  | nil => exact ⟨[], .refl⟩
  | cons input rest ih =>
    cases hending : s.ending with
    | some ending =>
      rw [takeAll_of_ending hending]
      exact ⟨[], .refl⟩
    | none =>
      obtain ⟨loop, others, hturn⟩ := exists_turn peer hending input rest
      obtain ⟨asked, hasked⟩ := ih (s.take peer input)
      exact ⟨loop ++ others ++ asked, hturn.exchanged.trans hasked⟩

/-- Every turn of every run does all that is said of turns, and a session that is over takes no
    more.  The worker may answer what it likes. -/
theorem exists_turn_of_run (peer : Peer σ) (s : Session σ) (inputs : List Input) (ends : Nat)
    (before later : List Input) (input : Input)
    (hinputs : inputs ++ List.replicate ends .endOfInput = before ++ input :: later) :
    (∃ asked, s.Exchanged peer asked (s.takeAll peer before)) ∧
      s.run peer inputs ends = ((s.takeAll peer before).take peer input).takeAll peer later ∧
      ((s.takeAll peer before).ending ≠ none →
        s.run peer inputs ends = s.takeAll peer before) ∧
      ((s.takeAll peer before).ending = none →
        ∃ loop others,
          Turn peer (s.takeAll peer before) input (s.run peer inputs ends) loop others) := by
  have hrun : s.run peer inputs ends =
      ((s.takeAll peer before).take peer input).takeAll peer later := by
    rw [run_eq_takeAll, hinputs, takeAll_append]
    rfl
  refine ⟨exists_exchanged_takeAll peer s before, hrun, fun hended => ?_, fun hopen => ?_⟩
  · obtain ⟨ending, hending⟩ := Option.ne_none_iff_exists'.mp hended
    rw [hrun, take_of_ending hending, takeAll_of_ending hending]
  · rw [hrun]
    exact exists_turn peer hopen input later

/-- A worker that gives prepared answers, and is gone behind them. -/
def prepared : Peer (List String) := fun method _ statuses =>
  match statuses with
  | [] => { peer := [], result := .error "Socket error: closed" }
  | status :: rest => { peer := rest, result := .ok (.response (.str method) status .null) }

/-- A failure in front of an open bracket, which the next line closes.  The statement in between
    is not sent. -/
theorem exists_turn_of_run_failing :
    kindOf "" (.line "b; c; d = [") = .scan "b; c; d = [\n" ∧
      (∃ loop others,
        Turn prepared (takeAll prepared { peer := ["ok", "failed", "exited"] } [.line "a"])
          (.line "b; c; d = [") (run prepared { peer := ["ok", "failed", "exited"] }
            [.line "a", .line "b; c; d = [", .line "1]"] 1) loop others) ∧
      Event.requests (run prepared { peer := ["ok", "failed", "exited"] }
          [.line "a", .line "b; c; d = [", .line "1]"] 1).events =
        [evaluation "a\n", evaluation "b;", evaluation " d = [\n1]\n"] := by
  have hopen : (takeAll prepared { peer := ["ok", "failed", "exited"] } [.line "a"]).ending =
      none := by
    rfl
  have h := exists_turn_of_run prepared { peer := ["ok", "failed", "exited"] }
    [.line "a", .line "b; c; d = [", .line "1]"] 1 [.line "a"] [.line "1]", .endOfInput]
    (.line "b; c; d = [") rfl
  exact ⟨rfl, h.2.2.2 hopen, rfl⟩

end Session

end ReplEngine
