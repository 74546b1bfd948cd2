import Mathlib.Data.List.Forall2
import ReplEngine.Proofs.Scan.Commentary
import ReplEngine.Session.Basic

/-!
# What a session sends

A session that is fed line by line sends the statements of the whole text, as long as the
worker accepts each of them.  It scans its lines behind what was left of the lines before,
and forgets what is left when all of it is comments and blank lines.  Neither drops,
merges or splits a statement; the most that happens is that a statement is sent without the
comments before it.

What a session sends does not depend on the worker, as long as it accepts: `typed` says it
for the lines alone.  The proof is in two steps, from the session to `typed` and from
`typed` to the scan of the whole text.

## Key results

- `Session.foldl_take_lines`: a session that is fed lines sends what `typed` says
- `Session.evaluated_takeEnd`: at the end of the input only the statement that ends the
  worker is sent
- `forall₂_typed`: what `typed` says are the statements of the whole text
- `exists_bodies_of_lines`: the two together
-/

namespace ReplEngine

/-! ### Sent statements -/

/-- The statements that were sent for evaluation, in order. -/
def Event.evaluated (events : List Event) : List String :=
  events.filterMap fun
    | .request "evaluate" (.str statement) => some statement
    | _ => none

/-- Statements that were sent add up. -/
@[simp] theorem Event.evaluated_append (events more : List Event) :
    Event.evaluated (events ++ more) = Event.evaluated events ++ Event.evaluated more :=
  List.filterMap_append

namespace Peer

variable {σ : Type}

/-- The state of a peer that was asked to evaluate statements one after the other. -/
def after (peer : Peer σ) (p : σ) (statements : List String) : σ :=
  statements.foldl (fun p statement => (peer "evaluate" (.str statement) p).peer) p

/-- Whether a peer in the given state answers each of the statements with `ok`, one after
    the other. -/
def Accepts (peer : Peer σ) (p : σ) : List String → Prop
  | [] => True
  | statement :: rest =>
    (∃ m, (peer "evaluate" (.str statement) p).result = .ok m ∧ m.status? = some .ok) ∧
      Accepts peer (peer "evaluate" (.str statement) p).peer rest

/-- Statements behind others are accepted in the state that those leave. -/
theorem accepts_append {peer : Peer σ} {p : σ} {xs ys : List String} :
    peer.Accepts p (xs ++ ys) ↔ peer.Accepts p xs ∧ peer.Accepts (peer.after p xs) ys := by
  -- on the first statements; the state of the peer goes along
  induction xs generalizing p with
  | nil => simp [Accepts, after]
  | cons x xs ih => simp [Accepts, after, ih, and_assoc]

/-- A peer that answers every request with `ok`. -/
def willing : Peer Unit := fun method _ _ =>
  { peer := (), result := .ok (.response (.str method) "ok" .null) }

theorem accepts_willing (statements : List String) : willing.Accepts () statements := by
  induction statements with
  | nil => trivial
  | cons statement rest ih => exact ⟨⟨_, rfl, rfl⟩, ih⟩

end Peer

namespace Session

variable {σ : Type} {peer : Peer σ} {s t u : Session σ}

/-- The session `t` is `s` after the given statements were sent and accepted. -/
structure Sent (peer : Peer σ) (s : Session σ) (statements : List String) (t : Session σ) :
    Prop where
  evaluated : Event.evaluated t.events = Event.evaluated s.events ++ statements
  peer : t.peer = peer.after s.peer statements
  ending : t.ending = s.ending

/-- Statements behind others are sent after them. -/
theorem Sent.trans {xs ys : List String} (h : s.Sent peer xs t) (h' : t.Sent peer ys u) :
    s.Sent peer (xs ++ ys) u where
  evaluated := by rw [h'.evaluated, h.evaluated, List.append_assoc]
  peer := by rw [h'.peer, h.peer, Peer.after, Peer.after, Peer.after, List.foldl_append]
  ending := h'.ending.trans h.ending

/-- An event that is no request sends nothing. -/
theorem Sent.log {xs : List String} (h : s.Sent peer xs t) {e : Event}
    (he : Event.evaluated [e] = []) : s.Sent peer xs (t.log e) where
  evaluated := by
    rw [Session.log, Event.evaluated_append, he, List.append_nil, h.evaluated]
  peer := h.peer
  ending := h.ending

/-- Without a statement nothing is sent. -/
theorem Sent.refl : s.Sent peer [] s :=
  ⟨(List.append_nil _).symm, rfl, rfl⟩

/-- Printing sends nothing. -/
@[simp] theorem evaluated_print (s : Session σ) (text : String) :
    Event.evaluated (s.print text).events = Event.evaluated s.events := by
  unfold print
  split
  · rfl
  · rw [Session.log, Event.evaluated_append]
    exact List.append_nil _

@[simp] theorem buffer_print (s : Session σ) (text : String) :
    (s.print text).buffer = s.buffer := by
  unfold print
  split <;> rfl

@[simp] theorem peer_print (s : Session σ) (text : String) : (s.print text).peer = s.peer := by
  unfold print
  split <;> rfl

@[simp] theorem ending_print (s : Session σ) (text : String) :
    (s.print text).ending = s.ending := by
  unfold print
  split <;> rfl

/-- Asking for an evaluation sends the statement, whatever the answer is. -/
theorem sent_ask (peer : Peer σ) (s : Session σ) (statement : String) :
    s.Sent peer [statement] (s.ask peer "evaluate" (.str statement)).2 where
  evaluated := by
    rw [ask, evaluated_print, Session.log, Event.evaluated_append]
    rfl
  peer := by
    rw [ask, peer_print]
    rfl
  ending := by
    rw [ask, ending_print]
    rfl

/-- Asking leaves what was typed. -/
theorem buffer_ask (peer : Peer σ) (s : Session σ) (method : String) (body : Json) :
    (s.ask peer method body).2.buffer = s.buffer := by
  rw [ask, buffer_print]
  rfl

/-- Statements that are accepted are all sent. -/
theorem sent_evaluateAll {statements : List String}
    (hblank : ∀ x ∈ statements, Text.isBlank x.toList = false)
    (h : peer.Accepts s.peer statements) :
    s.Sent peer statements (s.evaluateAll peer statements) ∧
      (s.evaluateAll peer statements).buffer = s.buffer := by
  -- on the statements; each is sent behind the one before
  induction statements generalizing s with
  | nil => exact ⟨Sent.refl, rfl⟩
  | cons statement rest ih =>
    obtain ⟨⟨m, hm, hstatus⟩, hrest⟩ := h
    have hsent := sent_ask peer s statement
    -- the answer is `ok`, so that the loop goes on with the session behind it
    have hstep : s.evaluateAll peer (statement :: rest) =
        (s.ask peer "evaluate" (.str statement)).2.evaluateAll peer rest := by
      rw [evaluateAll, if_neg (by simp [hblank statement (by simp)])]
      simp only [ask, hm, hstatus]
    rw [hstep]
    have hnext := ih (s := (s.ask peer "evaluate" (.str statement)).2)
      (fun x hx => hblank x (List.mem_cons_of_mem _ hx)) (by rw [hsent.peer]; exact hrest)
    exact ⟨hsent.trans hnext.1, hnext.2.trans (buffer_ask peer s _ _)⟩

end Session

/-! ### Lines -/

/-- What is kept of the rest of a scan: nothing, if it is all commentary. -/
def keptOf (rest : String) : String :=
  if isCommentary rest then "" else rest

/-- The statements that are sent for lines behind a buffer, if all are accepted, and the
    buffer behind them. -/
def typed (buffer : String) : List String → List String × String
  | [] => ([], buffer)
  | line :: lines =>
    let found := Scan.statementsOf (buffer ++ line ++ "\n")
    let later := typed (keptOf found.2) lines
    (found.1 ++ later.1, later.2)

/-- Whether none of the lines is taken for a command behind a buffer.  One that starts with a
    colon is, but only when nothing is kept before it. -/
def readsNoCommand (buffer : String) : List String → Bool
  | [] => true
  | line :: lines =>
    !(buffer.isEmpty && Session.isCommand line) &&
      readsNoCommand (keptOf (Scan.statementsOf (buffer ++ line ++ "\n")).2) lines

/-- Lines that are no commands are not taken for any. -/
theorem readsNoCommand_of_forall {lines : List String}
    (h : ∀ line ∈ lines, Session.isCommand line = false) (buffer : String) :
    readsNoCommand buffer lines = true := by
  -- on the lines, with whatever is kept before them
  induction lines generalizing buffer with
  | nil => rfl
  | cons line lines ih =>
    rw [readsNoCommand, h line (by simp), ih fun l hl => h l (List.mem_cons_of_mem _ hl)]
    simp

namespace Session

variable {σ : Type} {peer : Peer σ} {s : Session σ}

/-- No statement of a text is blank. -/
theorem isBlank_of_mem_statementsOf {text statement : String}
    (h : statement ∈ (Scan.statementsOf text).1) : Text.isBlank statement.toList = false := by
  rw [Scan.statementsOf_eq, List.mem_map] at h
  obtain ⟨cs, hcs, rfl⟩ := h
  rw [String.toList_ofList]
  exact Scan.isBlank_of_mem_statements hcs

/-- A line that is not taken for a command is scanned behind the buffer, and its statements are
    sent. -/
theorem sent_take_line {line : String} (hending : s.ending = none)
    (hcommand : (s.buffer.isEmpty && isCommand line) = false)
    (h : peer.Accepts s.peer (Scan.statementsOf (s.buffer ++ line ++ "\n")).1) :
    s.Sent peer (Scan.statementsOf (s.buffer ++ line ++ "\n")).1 (s.take peer (.line line)) ∧
      (s.take peer (.line line)).buffer =
        keptOf (Scan.statementsOf (s.buffer ++ line ++ "\n")).2 := by
  -- what is noted before the scan sends nothing and leaves the buffer as it is
  have hread : s.Sent peer [] (s.readLine (some line)) ∧
      (s.readLine (some line)).buffer = s.buffer := by
    unfold readLine
    cases s.echo with
    | true => exact ⟨(Sent.refl.log rfl).log rfl, rfl⟩
    | false => exact ⟨Sent.refl.log rfl, rfl⟩
  obtain ⟨r, hr⟩ : ∃ r, r = if Text.isBlank line.toList then s.readLine (some line)
      else (s.readLine (some line)).log (.history line) := ⟨_, rfl⟩
  have hnoted : s.Sent peer [] r ∧ r.buffer = s.buffer := by
    rw [hr]
    split
    · exact hread
    · exact ⟨hread.1.log rfl, hread.2⟩
  -- the turn is a scan, behind which the session waits
  have htake : s.take peer (.line line) = (r.scan peer line).await := by
    simp only [take, hending, takeLine, ← hr, hnoted.2, hcommand, Bool.false_eq_true, if_false]
  rw [htake, scan, hnoted.2]
  obtain ⟨hsent, hbuffer⟩ := sent_evaluateAll (s := { r with
      buffer := keptOf (Scan.statementsOf (s.buffer ++ line ++ "\n")).2
      number := if (Scan.statementsOf (s.buffer ++ line ++ "\n")).1.isEmpty then r.number
        else r.number + 1 })
    (fun x hx => isBlank_of_mem_statementsOf hx) (by rw [hnoted.1.peer]; exact h)
  have hall := hnoted.1.trans ⟨hsent.evaluated, hsent.peer, hsent.ending⟩
  unfold await
  simp only [keptOf] at hall hbuffer ⊢
  split
  · exact ⟨hall, hbuffer⟩
  · exact ⟨hall.log rfl, hbuffer⟩

/-- A session that is fed lines sends what `typed` says for them, if all of it is accepted. -/
theorem foldl_take_lines {lines : List String} (hending : s.ending = none)
    (hcommand : readsNoCommand s.buffer lines = true)
    (h : peer.Accepts s.peer (typed s.buffer lines).1) :
    s.Sent peer (typed s.buffer lines).1
        ((lines.map Input.line).foldl (fun s input => s.take peer input) s) ∧
      ((lines.map Input.line).foldl (fun s input => s.take peer input) s).buffer =
        (typed s.buffer lines).2 := by
  -- on the lines; the session behind one is the one before the next
  induction lines generalizing s with
  | nil => exact ⟨Sent.refl, rfl⟩
  | cons line lines ih =>
    rw [typed, Peer.accepts_append] at h
    rw [readsNoCommand, Bool.and_eq_true, Bool.not_eq_true'] at hcommand
    obtain ⟨hsent, hbuffer⟩ := sent_take_line hending hcommand.1 h.1
    obtain ⟨hrest, hleft⟩ := ih (s := s.take peer (.line line)) (hsent.ending.trans hending)
      (by rw [hbuffer]; exact hcommand.2) (by rw [hsent.peer, hbuffer]; exact h.2)
    rw [hbuffer] at hrest hleft
    rw [List.map_cons, List.foldl_cons, typed]
    exact ⟨hsent.trans hrest, hleft⟩

/-! ### The end of the input -/

/-- The text by which the end of the input is sent. -/
def endText : String := endStatement ++ "\n"

theorem statementsOf_endText : Scan.statementsOf endText = ([endText], "") := by
  decide

/-- A complaint sends nothing. -/
theorem evaluated_fail (s : Session σ) (complaint : String) :
    Event.evaluated (s.fail complaint).events = Event.evaluated s.events := by
  rw [fail, finish, Session.log, Event.evaluated_append]
  exact List.append_nil _

/-- To give up is to send that statement once more. -/
theorem evaluated_abandon (peer : Peer σ) (s : Session σ) :
    Event.evaluated (s.abandon peer).events = Event.evaluated s.events ++ [endText] := by
  have hsent := (sent_ask peer s endText).evaluated
  unfold abandon
  split
  · next heq =>
    rw [evaluated_fail, ← hsent]
    exact congrArg (fun r => Event.evaluated r.2.events) heq.symm
  · next heq =>
    rw [← hsent]
    exact congrArg (fun r => Event.evaluated r.2.events) heq.symm

/-- The statement that ends the worker is sent once, or twice if it fails and a failure ends
    the session. -/
theorem evaluated_evaluateAll_endText (peer : Peer σ) (s : Session σ) :
    ∃ n, Event.evaluated (s.evaluateAll peer [endText]).events =
      Event.evaluated s.events ++ List.replicate (n + 1) endText := by
  have hsent := (sent_ask peer s endText).evaluated
  rw [evaluateAll, if_neg (by decide)]
  split
  · next heq =>
    rw [heq] at hsent
    exact ⟨0, by rw [evaluated_fail, hsent]; rfl⟩
  · next heq =>
    rw [heq] at hsent
    split
    · refine ⟨0, ?_⟩
      rw [finish, Session.log, Event.evaluated_append, hsent]
      exact List.append_nil _
    · split
      · -- a failure that ends the session
        refine ⟨1, ?_⟩
        rw [evaluated_abandon, hsent, List.append_assoc]
        rfl
      · exact ⟨0, hsent⟩
    · exact ⟨0, hsent⟩

/-- A prompt sends nothing. -/
theorem evaluated_await (s : Session σ) :
    Event.evaluated s.await.events = Event.evaluated s.events := by
  unfold await
  split
  · rfl
  · rw [Session.log, Event.evaluated_append]
    exact List.append_nil _

/-- At the end of the input what was typed is dropped, and nothing is sent but the statement
    that ends the worker. -/
theorem evaluated_take_endOfInput (peer : Peer σ) (hending : s.ending = none) :
    ∃ n, Event.evaluated (s.take peer .endOfInput).events =
      Event.evaluated s.events ++ List.replicate (n + 1) endText := by
  have hread : Event.evaluated (s.readLine none).events = Event.evaluated s.events := by
    unfold readLine
    cases s.echo <;>
    · rw [Session.log, Event.evaluated_append]
      exact List.append_nil _
  have htext : "" ++ endStatement ++ "\n" = endText := by decide
  simp only [take, hending, takeLine, scan, htext, statementsOf_endText, evaluated_await]
  rw [← hread]
  exact evaluated_evaluateAll_endText peer _

/-- However often the end is met, nothing else is sent. -/
theorem evaluated_takeEnd (peer : Peer σ) (hending : s.ending = none) (fuel : Nat) :
    ∃ n, Event.evaluated (s.takeEnd peer (fuel + 1)).events =
      Event.evaluated s.events ++ List.replicate (n + 1) endText := by
  -- on how often the end is met
  induction fuel generalizing s with
  | zero =>
    obtain ⟨n, hn⟩ := evaluated_take_endOfInput peer hending
    refine ⟨n, ?_⟩
    rw [takeEnd, hending]
    exact hn
  | succ fuel ih =>
    obtain ⟨n, hn⟩ := evaluated_take_endOfInput peer hending
    rw [takeEnd, hending]
    -- the session is over, or it meets the end again
    cases hnext : (s.take peer .endOfInput).ending with
    | some e =>
      refine ⟨n, ?_⟩
      simp only
      rw [takeEnd, hnext]
      exact hn
    | none =>
      obtain ⟨m, hm⟩ := ih hnext
      refine ⟨n + 1 + m, ?_⟩
      simp only
      rw [hm, hn, List.append_assoc, ← List.replicate_add]
      rfl

/-- A run on lines sends what `typed` says for them, if all of it is accepted, and then
    nothing but the statement that ends the worker. -/
theorem evaluated_run_lines {lines : List String} (hbuffer : s.buffer = "")
    (hending : s.ending = none) (hcommand : readsNoCommand "" lines = true)
    (h : peer.Accepts s.peer (typed "" lines).1) (ends : Nat) :
    ∃ n, Event.evaluated (s.run peer (lines.map Input.line) (ends + 1)).events =
      Event.evaluated s.events ++ (typed "" lines).1 ++ List.replicate (n + 1) endText := by
  rw [← hbuffer] at hcommand h ⊢
  obtain ⟨hsent, -⟩ := foldl_take_lines hending hcommand h
  obtain ⟨n, hn⟩ := evaluated_takeEnd peer (hsent.ending.trans hending) ends
  exact ⟨n, by rw [run, hn, hsent.evaluated]⟩

end Session

/-! ### The scan of the whole text -/

/-- Lines with their newlines. -/
def textOf (lines : List String) : String :=
  String.join (lines.map (· ++ "\n"))

/-- Whether `sent` is the statement without some of the comments before it: what is missing in
    front are whole lines that are blank or hold only a comment. -/
def LacksPreamble (statement sent : String) : Prop :=
  ∃ p, Scan.IsPreamble p ∧ statement.toList = p ++ sent.toList

theorem textOf_cons (line : String) (lines : List String) :
    textOf (line :: lines) = line ++ "\n" ++ textOf lines := by
  simp [textOf, String.join_cons]

/-- A statement may lack nothing. -/
theorem LacksPreamble.refl (statement : String) : LacksPreamble statement statement :=
  ⟨[], .nil, rfl⟩

/-- A text of lines none of which starts with a decorator does not start with one. -/
theorem trimLeft_textOf {lines : List String}
    (h : ∀ line ∈ lines, (Text.trimLeft line.toList).head? ≠ some '@') :
    (Text.trimLeft (textOf lines).toList).head? ≠ some '@' := by
  -- on the lines; blank ones do not count
  induction lines with
  | nil => simp [textOf, Text.trimLeft]
  | cons line lines ih =>
    have hrest := ih fun l hl => h l (List.mem_cons_of_mem _ hl)
    rw [textOf_cons, String.toList_append, String.toList_append]
    cases hblank : Text.isBlank line.toList with
    | true =>
      have hline : Text.isBlank (line.toList ++ "\n".toList) = true := by
        rw [Text.isBlank, List.all_append, ← Text.isBlank, hblank]
        decide
      rwa [(Scan.blank_append hline _).2]
    | false =>
      rw [List.append_assoc, Scan.trimLeft_append hblank]
      exact h line (by simp)

/-- Statements of a text behind a preamble lack that preamble, and what they lacked before. -/
theorem forall₂_withLead {p t : List Char} (hp : Scan.IsPreamble p) {sent : List String}
    (h : List.Forall₂ LacksPreamble ((Scan.statements t).1.map String.ofList) sent) :
    List.Forall₂ LacksPreamble
      ((Scan.withLead p (Scan.statements t)).1.map String.ofList) sent := by
  unfold Scan.withLead
  split
  · -- no statement: the preamble stays in the rest
    next heq => rwa [heq] at h
  · next heq =>
    rw [heq, List.map_cons] at h
    rw [List.map_cons]
    cases h with
    | cons hfirst hothers =>
      obtain ⟨q, hq, hstatement⟩ := hfirst
      rw [String.toList_ofList] at hstatement
      refine .cons ⟨p ++ q, hp.append hq, ?_⟩ hothers
      rw [String.toList_ofList, hstatement, List.append_assoc]

/-- What is sent for lines behind a buffer without statements are the statements of the
    whole text, each without some of the comments before it. -/
theorem forall₂_typed {buffer : String} {lines : List String}
    (hbuffer : (Scan.statementsOf buffer).1 = [])
    (h : ∀ line ∈ lines, (Text.trimLeft line.toList).head? ≠ some '@') :
    List.Forall₂ LacksPreamble (Scan.statementsOf (buffer ++ textOf lines)).1
      (typed buffer lines).1 := by
  -- on the lines; the buffer is what they have left
  induction lines generalizing buffer with
  | nil =>
    rw [show textOf [] = "" from rfl, String.append_empty, hbuffer]
    exact .nil
  | cons line lines ih =>
    have hnext : ∀ l ∈ lines, (Text.trimLeft l.toList).head? ≠ some '@' :=
      fun l hl => h l (List.mem_cons_of_mem _ hl)
    have hends : Text.endsWith "\n" (buffer ++ line ++ "\n") = true :=
      Scan.endsWith_append (by decide)
    have hlast := Scan.getLast?_of_endsWith hends
    have hwhole : (Scan.statementsOf (buffer ++ textOf (line :: lines))).1 =
        (Scan.statementsOf (buffer ++ line ++ "\n")).1 ++
          (Scan.statementsOf
            ((Scan.statementsOf (buffer ++ line ++ "\n")).2 ++ textOf lines)).1 := by
      rw [textOf_cons, ← String.append_assoc, ← String.append_assoc,
        Scan.statementsOf_append _ hends]
    rw [hwhole, typed]
    refine List.rel_append (List.forall₂_same.mpr fun x _ => LacksPreamble.refl x) ?_
    -- the rest stays in the buffer, or it is commentary and goes with the next statement
    have hrest := Scan.statements_rest (buffer ++ line ++ "\n").toList
    unfold keptOf
    split
    · -- what is dropped is missing in front of the next statement
      next hcommentary =>
      have hpreamble : Scan.IsPreamble (Scan.statements (buffer ++ line ++ "\n").toList).2 := by
        refine Scan.isPreamble_of_all_isNote (Scan.getLast?_rest hlast) ?_
        rw [isCommentary, Scan.statementsOf_eq, String.toList_ofList] at hcommentary
        exact hcommentary
      have hlater : List.Forall₂ LacksPreamble (Scan.statementsOf ("" ++ textOf lines)).1
          (typed "" lines).1 := ih rfl hnext
      rw [String.empty_append] at hlater
      rw [Scan.statementsOf_eq, Scan.statementsOf_eq, String.toList_append, String.toList_ofList,
        Scan.statements_preamble_append hpreamble (trimLeft_textOf hnext)]
      exact forall₂_withLead hpreamble hlater
    · refine ih ?_ hnext
      simp only [Scan.statementsOf_eq, String.toList_ofList, hrest, List.map_nil]

/-- A session that is fed lines sends exactly the statements of the whole text, in order, each
    at most without comments and blank lines before it.  What it sends depends on the lines
    alone: it is the same for every worker that accepts it.  No line may start with a colon,
    which makes it a command, or with the sign of a decorator, whose meaning hangs on what
    stands before it. -/
theorem exists_bodies_of_lines (lines : List String)
    (hcommand : ∀ line ∈ lines, (Text.trimLeft line.toList).head? ≠ some ':')
    (hdecorator : ∀ line ∈ lines, (Text.trimLeft line.toList).head? ≠ some '@') :
    ∃ bodies, List.Forall₂ LacksPreamble (Scan.statementsOf (textOf lines)).1 bodies ∧
      ∀ {σ : Type} (peer : Peer σ) (s : Session σ), s.buffer = "" → s.ending = none →
        peer.Accepts s.peer bodies →
        Event.evaluated ((lines.map Input.line).foldl (fun s input => s.take peer input) s).events =
          Event.evaluated s.events ++ bodies ∧
        ∀ ends, ∃ n, Event.evaluated (s.run peer (lines.map Input.line) (ends + 1)).events =
          Event.evaluated s.events ++ bodies ++ List.replicate (n + 1) Session.endText := by
  refine ⟨(typed "" lines).1, ?_, ?_⟩
  · have h : List.Forall₂ LacksPreamble (Scan.statementsOf ("" ++ textOf lines)).1
        (typed "" lines).1 := forall₂_typed rfl hdecorator
    rwa [String.empty_append] at h
  · intro σ peer s hbuffer hending haccepts
    have hline : ∀ line ∈ lines, Session.isCommand line = false := by
      intro line hline
      simpa [Session.isCommand] using hcommand line hline
    have hreads := readsNoCommand_of_forall hline ""
    refine ⟨?_, fun ends => Session.evaluated_run_lines hbuffer hending hreads haccepts ends⟩
    rw [← hbuffer] at hreads haccepts ⊢
    exact (Session.foldl_take_lines hending hreads haccepts).1.evaluated

/-- Two statements between comments and blank lines, at a worker that accepts all. -/
theorem exists_bodies_of_lines_block :
    ∃ bodies, List.Forall₂ LacksPreamble ["# first\n\nx = 1\n", "if x:\n  y\n\n"] bodies ∧
      ∀ ends, ∃ n, Event.evaluated (Session.run Peer.willing { peer := () }
          (["# first", "", "x = 1", "if x:", "  y", "", "# last"].map Input.line)
          (ends + 1)).events =
        bodies ++ List.replicate (n + 1) Session.endText := by
  have hfound : (Scan.statementsOf
      (textOf ["# first", "", "x = 1", "if x:", "  y", "", "# last"])).1 =
      ["# first\n\nx = 1\n", "if x:\n  y\n\n"] := by
    decide
  rw [← hfound]
  obtain ⟨bodies, hbodies, h⟩ := exists_bodies_of_lines
    ["# first", "", "x = 1", "if x:", "  y", "", "# last"] (by decide) (by decide)
  exact ⟨bodies, hbodies, (h Peer.willing { peer := () } rfl rfl (Peer.accepts_willing _)).2⟩

end ReplEngine
