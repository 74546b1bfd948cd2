import Mathlib.Data.List.Forall2
import ReplEngine.Proofs.Wire.Stream

/-!
# Requests and their responses

Callers issue requests, give up, and wait; the client writes a request or reads a response
whenever it can; the other end answers each request frame with one response frame, in order;
the bytes of the responses arrive in pieces.  A `Conversation` is all of this in one state,
and a `Move` is what can happen next, in any order.

What a conversation keeps, `Conversation.Sound`, is said in terms of `Paired`, a relation that
knows nothing of clients, bytes and moves: which exchanges are over, and which of the
payloads each of them got.

## Key results

- `Client.step_cases`: what one step of the client can do
- `Conversation.Sound.step`: every move keeps a conversation sound
- `Conversation.run_pairs`: in every conversation replies pair with their own requests
-/

namespace ReplEngine.Wire

/-- The frame of an exchange's request, if it can be written. -/
def Exchange.frame (e : Exchange) : Except Error (List UInt8) :=
  e.request >>= pack

/-- What a caller takes of what was read: nothing but a response. -/
def answerOf (outcome : Except Error Message) : Except Error Message :=
  outcome >>= fun m => (·.1) <$> m.asResponse

/-- With distinct keys, the first entry of a key is the only one. -/
private theorem find?_of_nodup {α : Type} {l : List (Nat × α)} (hnodup : (l.map (·.1)).Nodup)
    {n : Nat} {a : α} (h : (n, a) ∈ l) : l.find? (fun o => o.1 == n) = some (n, a) := by
  -- on the entries; one that is passed over has another key
  induction l with
  | nil => simp at h
  | cons o l ih =>
    rw [List.map_cons, List.nodup_cons] at hnodup
    rcases List.mem_cons.mp h with rfl | h
    · exact List.find?_cons_of_pos (beq_self_eq_true _)
    · have hne : o.1 ≠ n := by
        rintro rfl
        exact hnodup.1 (List.mem_map.mpr ⟨_, h, rfl⟩)
      rw [List.find?_cons, beq_false_of_ne hne]
      exact ih hnodup.2 h

/-- What stands in the first part of a list stands in the list. -/
private theorem getElem?_of_take {α : Type} {l : List α} {i n : Nat} {a : α}
    (h : (l.take n)[i]? = some a) : l[i]? = some a := by
  rw [List.getElem?_take] at h
  split at h
  · exact h
  · cases h

/-! ### Moves -/

/-- What can happen next. -/
inductive Move where
  /-- A caller issues a request. -/
  | issue (method : String) (body : Value)
  /-- The caller of a request stops waiting. -/
  | giveUp (number : Nat)
  /-- The client takes a step, if it can. -/
  | work
  /-- The other end reads the next request frame, and answers with a payload. -/
  | answer (payload : List UInt8)
  /-- Some of the bytes that are on their way arrive. -/
  | deliver (count : Nat)

/-- Whether a caller stops waiting. -/
def Move.isGiveUp : Move → Bool
  | .giveUp _ => true
  | _ => false

/-- A client, its callers and the other end. -/
structure Conversation where
  client : Client := {}
  /-- All exchanges, in the order in which they were issued. -/
  issued : List Exchange := []
  /-- The numbers of the callers that have given up. -/
  gaveUp : List Nat := []
  /-- The numbers of the requests that were written, in order. -/
  written : List Nat := []
  /-- The numbers of the requests at whose turn a response was read, in order. -/
  read : List Nat := []
  /-- The request frames that the other end has read, each with the payload it answered. -/
  answered : List (List UInt8 × List UInt8) := []
  /-- The bytes of responses that have not arrived. -/
  transit : List UInt8 := []

namespace Conversation

/-- A conversation after a move.  A payload that no header can announce is not sent. -/
def step (c : Conversation) : Move → Conversation
  | .issue method body =>
    { c with
      client := (c.client.issue method body).2
      issued := c.issued ++ [⟨c.client.issued, method, body⟩] }
  | .giveUp number => { c with gaveUp := number :: c.gaveUp }
  | .work =>
    match c.client.step with
    | none => c
    | some client =>
      let turn := (c.client.queue.take 1).map (·.number)
      { c with
        client
        written := if client.waiting then c.written ++ turn else c.written
        read := if c.client.waiting then c.read ++ turn else c.read }
  | .answer payload =>
    match c.client.sent, header payload.length with
    | frame :: sent, .ok head =>
      { c with
        client := { c.client with sent }
        answered := c.answered ++ [(frame, payload)]
        transit := c.transit ++ (head ++ payload) }
    | _, _ => c
  | .deliver count =>
    { c with
      client := { c.client with buffer := c.client.buffer.push (c.transit.take count) }
      transit := c.transit.drop count }

/-- A conversation from the beginning. -/
def run (moves : List Move) : Conversation :=
  moves.foldl step {}

/-- What the caller of a request has received. -/
def received (c : Conversation) (number : Nat) : Option (Except Error Message) :=
  if number ∈ c.gaveUp then none else c.client.outcome? number

end Conversation

/-! ### Steps of the client -/

namespace Client

variable {k k' : Client}

/-- What a step of a client can do, as long as writing has not failed: refuse the request of the
    oldest exchange, write it, or read its response. -/
theorem step_cases (hintact : k.outlet = .intact) (h : k.step = some k') :
    ∃ e rest, k.queue = e :: rest ∧
      ((k.waiting = false ∧ ∃ x, e.frame = .error x ∧ k' = k.finish e.number (.error x)) ∨
        (k.waiting = false ∧
          ∃ f, e.frame = .ok f ∧ k' = { k with sent := k.sent ++ [f], waiting := true }) ∨
        (k.waiting = true ∧ k.buffer.canReceive = true ∧
          k' = k.receive.2.finish e.number k.receive.1)) := by
  unfold step at h
  split at h
  · cases h
  · next e rest hqueue =>
    refine ⟨e, rest, hqueue, ?_⟩
    cases hwaiting : k.waiting with
    | true =>
      -- the request was written: only a response that has arrived can be read
      rw [if_pos hwaiting] at h
      split at h
      · next hready =>
        exact .inr (.inr ⟨rfl, hready, (Option.some.inj h).symm⟩)
      · cases h
    | false =>
      rw [if_neg (by simp [hwaiting])] at h
      cases hframe : e.frame with
      | error x =>
        -- a request that cannot be written is refused at its turn
        have hsend : k.send e.request = (.error x, k) := by
          rw [Exchange.frame] at hframe
          rw [send, hframe]
        rw [hsend] at h
        exact .inl ⟨rfl, x, rfl, (Option.some.inj h).symm⟩
      | ok f =>
        have hsend : k.send e.request = (.ok f.length, { k with sent := k.sent ++ [f] }) := by
          rw [Exchange.frame] at hframe
          rw [send, hframe, hintact]
        rw [hsend] at h
        exact .inr (.inl ⟨rfl, f, rfl, (Option.some.inj h).symm⟩)

/-- Reading touches nothing of a client but the bytes that have arrived. -/
theorem exact_bytes (hintact : k.outlet = .intact) :
    Exact Client.read (fun c => c.buffer.bytes)
      (fun c => ∃ bytes, c = { k with buffer := { k.buffer with bytes } }) .connectionClosed where
  enough := by
    rintro c n ⟨bytes, rfl⟩ hn
    refine ⟨_, ?_, ?_, bytes.drop n, rfl⟩
    · simp only [Client.read, hintact, Buffer.readExactly, if_pos hn]
    · rfl
  short := by
    rintro c n ⟨bytes, rfl⟩ hn
    refine ⟨{ k with buffer := { k.buffer with bytes := [] } }, ?_⟩
    simp only [Client.read, hintact, Buffer.readExactly, if_neg (Nat.not_le_of_lt hn)]

/-- Reading a response that has arrived takes its frame off the bytes. -/
theorem receive_frame (hintact : k.outlet = .intact) {payload head rest : List UInt8}
    (hhead : header payload.length = .ok head) (hbytes : k.buffer.bytes = head ++ payload ++ rest) :
    k.receive = (decode payload, { k with buffer := { k.buffer with bytes := rest } }) := by
  -- what is left of the bytes is what follows the frame
  obtain ⟨k', hreceive, hrest, bytes, rfl⟩ :=
    (exact_bytes hintact).receiveWith_frame ⟨k.buffer.bytes, rfl⟩ hhead hbytes
  obtain rfl : bytes = rest := hrest
  exact hreceive

end Client

/-- Of one response frame that is under way, the client waits for all of it. -/
theorem canReceive_iff {k : Client} (hended : k.buffer.isEnded = false)
    {payload head transit : List UInt8} (hhead : header payload.length = .ok head)
    (hbytes : k.buffer.bytes ++ transit = head ++ payload) :
    k.buffer.canReceive = true ↔ transit = [] := by
  obtain ⟨hlength, hsize⟩ := bigEndian_header hhead
  have htotal : k.buffer.bytes.length + transit.length = headerSize + payload.length := by
    rw [← List.length_append, hbytes, List.length_append, hlength]
  rw [Buffer.canReceive, hended, Bool.false_or, Bool.and_eq_true, decide_eq_true_eq,
    decide_eq_true_eq, ← List.length_eq_zero_iff]
  -- what has arrived begins with the header, once it is long enough
  have htake : headerSize ≤ k.buffer.bytes.length →
      bigEndian (k.buffer.bytes.take headerSize) = payload.length := by
    intro henough
    have hfirst : (k.buffer.bytes ++ transit).take headerSize = k.buffer.bytes.take headerSize :=
      List.take_append_of_le_length henough
    rw [← hfirst, hbytes, take_header hhead, hsize]
  constructor
  · rintro ⟨henough, hall⟩
    rw [htake henough] at hall
    omega
  · intro hnone
    have henough : headerSize ≤ k.buffer.bytes.length := by omega
    rw [htake henough]
    omega

/-! ### Exchanges that are over -/

/-- `Paired past answered payloads outcomes`: of the exchanges that are over, each was refused
    because its request cannot be written, or it got the next of the payloads.  `answered`
    are the numbers of the latter; outcomes are listed from the latest. -/
inductive Paired : List Exchange → List Nat → List (List UInt8) →
    List (Nat × Except Error Message) → Prop
  | nil : Paired [] [] [] []
  | refused {past : List Exchange} {answered : List Nat} {payloads : List (List UInt8)}
      {outcomes : List (Nat × Except Error Message)} {e : Exchange} {x : Error} :
      Paired past answered payloads outcomes → e.frame = .error x →
      Paired (past ++ [e]) answered payloads ((e.number, .error x) :: outcomes)
  | answered {past : List Exchange} {answered : List Nat} {payloads : List (List UInt8)}
      {outcomes : List (Nat × Except Error Message)} {e : Exchange} {frame payload : List UInt8} :
      Paired past answered payloads outcomes → e.frame = .ok frame →
      Paired (past ++ [e]) (answered ++ [e.number]) (payloads ++ [payload])
        ((e.number, decode payload) :: outcomes)

namespace Paired

variable {past : List Exchange} {answered : List Nat} {payloads : List (List UInt8)}
  {outcomes : List (Nat × Except Error Message)}

/-- There is one payload for each number. -/
theorem length_eq (h : Paired past answered payloads outcomes) :
    answered.length = payloads.length := by
  induction h with
  | nil => rfl
  | refused _ _ ih => exact ih
  | answered _ _ ih => rw [List.length_append, List.length_append, ih]; rfl

/-- The exchanges that got a payload are among those that are over, in their order. -/
theorem sublist (h : Paired past answered payloads outcomes) :
    answered.Sublist (past.map (·.number)) := by
  induction h with
  | nil => exact .slnil
  | refused _ _ ih =>
    rw [List.map_append]
    exact ih.trans (List.sublist_append_left _ _)
  | answered _ _ ih =>
    rw [List.map_append]
    exact ih.append (List.Sublist.refl _)

/-- Every exchange that is over has an outcome. -/
theorem map_outcomes (h : Paired past answered payloads outcomes) :
    outcomes.map (·.1) = (past.map (·.number)).reverse := by
  induction h with
  | nil => rfl
  | refused _ _ ih => rw [List.map_cons, ih, List.map_append, List.reverse_append]; rfl
  | answered _ _ ih => rw [List.map_cons, ih, List.map_append, List.reverse_append]; rfl

/-- What an outcome can be. -/
theorem of_mem (h : Paired past answered payloads outcomes) {n : Nat} {r : Except Error Message}
    (hr : (n, r) ∈ outcomes) :
    (∃ e ∈ past, e.number = n ∧ ∃ x, e.frame = .error x ∧ r = .error x) ∨
      ∃ (i : Nat) (payload : List UInt8), answered[i]? = some n ∧ payloads[i]? = some payload ∧
        r = decode payload := by
  -- on the exchanges that are over; the latest is in front
  induction h with
  | nil => simp at hr
  | @refused past answered payloads outcomes e x _ hframe ih =>
    rcases List.mem_cons.mp hr with heq | hr
    · cases heq
      exact .inl ⟨e, by simp, rfl, x, hframe, rfl⟩
    · refine (ih hr).imp_left ?_
      rintro ⟨e', he', hnumber⟩
      exact ⟨e', List.mem_append_left _ he', hnumber⟩
  | @answered past answered payloads outcomes e frame payload hpaired hframe ih =>
    rcases List.mem_cons.mp hr with heq | hr
    · cases heq
      refine .inr ⟨answered.length, payload, by simp, ?_, rfl⟩
      rw [hpaired.length_eq]
      simp
    · refine (ih hr).imp ?_ ?_
      · rintro ⟨e', he', hnumber⟩
        exact ⟨e', List.mem_append_left _ he', hnumber⟩
      · rintro ⟨i, p, hi, hp, hr⟩
        -- earlier payloads keep their places
        have hilt : i < answered.length := (List.getElem?_eq_some_iff.mp hi).1
        refine ⟨i, p, ?_, ?_, hr⟩
        · rw [List.getElem?_append_left hilt, hi]
        · rw [List.getElem?_append_left (by rwa [← hpaired.length_eq]), hp]

/-- Every exchange that got a payload has its outcome. -/
theorem mem_of_getElem? (h : Paired past answered payloads outcomes) {i n : Nat}
    (hi : answered[i]? = some n) :
    ∃ payload, payloads[i]? = some payload ∧ (n, decode payload) ∈ outcomes := by
  induction h with
  | nil => simp at hi
  | refused _ _ ih =>
    obtain ⟨payload, hp, hmem⟩ := ih hi
    exact ⟨payload, hp, List.mem_cons_of_mem _ hmem⟩
  | @answered past answered payloads outcomes e frame payload hpaired _ ih =>
    rw [List.getElem?_append] at hi
    split at hi
    · next hlt =>
      obtain ⟨p, hp, hmem⟩ := ih hi
      refine ⟨p, ?_, List.mem_cons_of_mem _ hmem⟩
      rw [List.getElem?_append_left (by rwa [← hpaired.length_eq]), hp]
    · next hge =>
      -- the latest
      obtain ⟨hzero, rfl⟩ : i - answered.length = 0 ∧ n = e.number := by
        cases hn : i - answered.length with
        | zero => rw [hn] at hi; exact ⟨rfl, by simpa using hi.symm⟩
        | succ m => rw [hn] at hi; simp at hi
      refine ⟨payload, ?_, List.mem_cons_self⟩
      have hlength := hpaired.length_eq
      rw [List.getElem?_append_right (by omega), show i - payloads.length = 0 by omega]
      rfl

end Paired

/-! ### Sound conversations -/

namespace Conversation

/-- The number of the request that was written and has no response yet, if there is one. -/
def pending (c : Conversation) : List Nat :=
  if c.client.waiting then (c.client.queue.take 1).map (·.number) else []

/-- Whether a frame carries the request of a number. -/
def Carries (c : Conversation) (n : Nat) (frame : List UInt8) : Prop :=
  ∃ e, c.issued[n]? = some e ∧ e.frame = .ok frame

/-- What every conversation keeps, with the exchanges that are over. -/
structure Sound (c : Conversation) (past : List Exchange) : Prop where
  issued : c.issued = past ++ c.client.queue
  numbered : c.issued.map (·.number) = List.range c.issued.length
  count : c.client.issued = c.issued.length
  intact : c.client.outlet = .intact
  notEnded : c.client.buffer.isEnded = false
  /-- While a response is awaited, it is the one to the oldest exchange that is not over. -/
  awaited : c.client.waiting = true → ∃ e rest f, c.client.queue = e :: rest ∧ e.frame = .ok f
  paired : Paired past c.read ((c.answered.take c.read.length).map (·.2)) c.client.outcomes
  written : c.written = c.read ++ c.pending
  carried : List.Forall₂ c.Carries c.written (c.answered.map (·.1) ++ c.client.sent)
  /-- The bytes under way are those of the one response that was not read, if it was sent. -/
  arriving : (c.answered.length = c.read.length ∧ c.client.buffer.bytes ++ c.transit = []) ∨
    ∃ answer head, c.answered.drop c.read.length = [answer] ∧
      header answer.2.length = .ok head ∧ c.client.buffer.bytes ++ c.transit = head ++ answer.2

namespace Sound

variable {c : Conversation} {past : List Exchange}

/-- A conversation that has not begun. -/
theorem start : Sound {} [] where
  issued := rfl
  numbered := rfl
  count := rfl
  intact := rfl
  notEnded := rfl
  awaited h := by cases h
  paired := .nil
  written := rfl
  carried := .nil
  arriving := .inl ⟨rfl, rfl⟩

/-- At most one request waits for its response. -/
theorem length_pending (c : Conversation) : c.pending.length ≤ 1 := by
  unfold pending
  split
  · rw [List.length_map, List.length_take]
    omega
  · exact Nat.zero_le 1

/-- At most one request was written whose response was not read. -/
theorem length_written (h : c.Sound past) : c.written.length ≤ c.read.length + 1 := by
  have hpending := length_pending c
  rw [h.written, List.length_append]
  omega

/-- When the exchange that the turn is at is over too, the others are still to come. -/
theorem issued_turn (h : c.Sound past) {e : Exchange} {rest : List Exchange}
    (hqueue : c.client.queue = e :: rest) :
    c.issued = (past ++ [e]) ++ c.client.queue.tail := by
  rw [h.issued, hqueue, List.append_assoc]
  rfl

/-- An exchange has the number of its place. -/
theorem getElem?_number (h : c.Sound past) {e : Exchange} (he : e ∈ c.issued) :
    c.issued[e.number]? = some e := by
  obtain ⟨i, hlt, hi⟩ := List.mem_iff_getElem.mp he
  have hplace : c.issued[i]? = some e := List.getElem?_eq_some_iff.mpr ⟨hlt, hi⟩
  -- the numbers are the places
  have hnumber : some e.number = some i := by
    have hmap : (c.issued.map (·.number))[i]? = some e.number := by
      rw [List.getElem?_map, hplace]
      rfl
    rw [← hmap, h.numbered, List.getElem?_range hlt]
  rw [Option.some.inj hnumber, hplace]

/-- Issuing a request puts its exchange behind the others. -/
theorem issue (h : c.Sound past) (method : String) (body : Value) :
    (c.step (.issue method body)).Sound past where
  issued := by
    rw [step, Client.issue]
    dsimp only
    rw [h.issued, List.append_assoc]
  -- its number is the count of those before it
  numbered := by
    rw [step]
    dsimp only
    rw [List.map_append, h.numbered, List.length_append, h.count]
    exact List.range_succ.symm
  count := by
    rw [step, Client.issue]
    dsimp only
    rw [h.count, List.length_append]
    rfl
  intact := h.intact
  notEnded := h.notEnded
  awaited hwaiting := by
    obtain ⟨e, rest, f, hqueue, hframe⟩ := h.awaited hwaiting
    refine ⟨e, rest ++ [⟨c.client.issued, method, body⟩], f, ?_, hframe⟩
    rw [step, Client.issue]
    dsimp only
    rw [hqueue, List.cons_append]
  paired := h.paired
  written := by
    rw [step]
    refine h.written.trans (congrArg (c.read ++ ·) ?_)
    -- the queue grows behind the exchange that the turn is at
    unfold pending
    cases hwaiting : c.client.waiting with
    | true =>
      obtain ⟨e, rest, f, hqueue, -⟩ := h.awaited hwaiting
      simp [Client.issue, hwaiting, hqueue]
    | false => simp [Client.issue, hwaiting]
  carried := by
    refine h.carried.imp ?_
    rintro n f ⟨e, he, hframe⟩
    refine ⟨e, ?_, hframe⟩
    rw [step]
    dsimp only
    rw [List.getElem?_append_left (List.getElem?_eq_some_iff.mp he).1, he]
  arriving := h.arriving

/-- Giving up changes nothing that is kept. -/
theorem giveUp (h : c.Sound past) (n : Nat) : (c.step (.giveUp n)).Sound past :=
  ⟨h.issued, h.numbered, h.count, h.intact, h.notEnded, h.awaited, h.paired, h.written, h.carried,
    h.arriving⟩

/-- Bytes that arrive are still under way to the client. -/
theorem deliver (h : c.Sound past) (count : Nat) : (c.step (.deliver count)).Sound past where
  issued := h.issued
  numbered := h.numbered
  count := h.count
  intact := h.intact
  notEnded := h.notEnded
  awaited := h.awaited
  paired := h.paired
  written := h.written
  carried := h.carried
  arriving := by
    -- bytes move from one side to the other, and stay in order
    have hbytes :
        (c.step (.deliver count)).client.buffer.bytes ++ (c.step (.deliver count)).transit =
          c.client.buffer.bytes ++ c.transit := by
      rw [step, Buffer.push]
      dsimp only
      rw [List.append_assoc, List.take_append_drop]
    rw [hbytes]
    exact h.arriving

/-- A request that the other end has not read is the only one without a response. -/
theorem answered_of_sent (h : c.Sound past) {frame : List UInt8} {sent : List (List UInt8)}
    (hsent : c.client.sent = frame :: sent) :
    c.answered.length = c.read.length ∧ c.client.buffer.bytes ++ c.transit = [] := by
  refine h.arriving.resolve_right ?_
  rintro ⟨answer, head, hdrop, -⟩
  -- one request is written and not read at most, so the numbers leave no room for a response
  have hlength := h.carried.length_eq
  have hwritten := h.length_written
  have hone := congrArg List.length hdrop
  rw [List.length_drop, List.length_singleton] at hone
  rw [hsent, List.length_append, List.length_map, List.length_cons] at hlength
  omega

/-- The answer of the other end is to the oldest request that it has not read. -/
theorem answer (h : c.Sound past) (payload : List UInt8) :
    (c.step (.answer payload)).Sound past := by
  rw [step]
  split
  · next frame sent head hsent hhead =>
    -- nothing is under way when the other end answers
    obtain ⟨hlength, hbytes⟩ := h.answered_of_sent hsent
    refine ⟨h.issued, h.numbered, h.count, h.intact, h.notEnded, h.awaited, ?_, h.written, ?_, ?_⟩
    · dsimp only
      rw [← hlength, List.take_left]
      have hpaired := h.paired
      rwa [← hlength, List.take_length] at hpaired
    · have hcarried := h.carried
      rw [hsent] at hcarried
      dsimp only
      rw [List.map_append, List.append_assoc]
      exact hcarried
    · refine .inr ⟨(frame, payload), head, ?_, hhead, ?_⟩
      · dsimp only
        rw [← hlength, List.drop_left]
      · dsimp only
        rw [← List.append_assoc, hbytes, List.nil_append]
  · exact h

/-- Without a request that was written, nothing is awaited. -/
theorem written_eq_read (h : c.Sound past) (hwaiting : c.client.waiting = false) :
    c.written = c.read := by
  have hwritten := h.written
  rwa [pending, if_neg (by simp [hwaiting]), List.append_nil] at hwritten

/-- A request that cannot be written: its exchange is over, and nothing else has changed. -/
private theorem refuse (h : c.Sound past) {e : Exchange} {rest : List Exchange} {x : Error}
    (hqueue : c.client.queue = e :: rest) (hwaiting : c.client.waiting = false)
    (hframe : e.frame = .error x) :
    Sound { c with client := c.client.finish e.number (.error x) } (past ++ [e]) where
  issued := h.issued_turn hqueue
  numbered := h.numbered
  count := h.count
  intact := h.intact
  notEnded := h.notEnded
  awaited hw := by cases hw
  paired := h.paired.refused hframe
  written := (h.written_eq_read hwaiting).trans (List.append_nil _).symm
  carried := h.carried
  arriving := h.arriving

/-- A request that is written: it is the one that waits for its response. -/
private theorem write (h : c.Sound past) {e : Exchange} {rest : List Exchange} {f : List UInt8}
    (hqueue : c.client.queue = e :: rest) (hwaiting : c.client.waiting = false)
    (hframe : e.frame = .ok f) :
    Sound { c with
      client := { c.client with sent := c.client.sent ++ [f], waiting := true }
      written := c.written ++ [e.number] } past where
  issued := h.issued
  numbered := h.numbered
  count := h.count
  intact := h.intact
  notEnded := h.notEnded
  awaited _ := ⟨e, rest, f, hqueue, hframe⟩
  paired := h.paired
  written := by
    rw [h.written_eq_read hwaiting, pending, hqueue]
    rfl
  carried := by
    -- the frame is that of an exchange that was issued
    have hmem : e ∈ c.issued := by rw [h.issued, hqueue]; simp
    rw [← List.append_assoc]
    exact List.rel_append h.carried (.cons ⟨e, h.getElem?_number hmem, hframe⟩ .nil)
  arriving := h.arriving

/-- A response that the client can read is the one that is under way, and all of it has
    arrived. -/
theorem arrived (h : c.Sound past) (hready : c.client.buffer.canReceive = true) :
    ∃ answer head, c.answered.drop c.read.length = [answer] ∧ header answer.2.length = .ok head ∧
      c.client.buffer.bytes = head ++ answer.2 ++ [] ∧ c.transit = [] := by
  -- with no bytes at all nothing could be read
  obtain ⟨answer, head, hdrop, hhead, hbytes⟩ := h.arriving.resolve_left fun ⟨_, hnone⟩ => by
    rw [Buffer.canReceive, h.notEnded, (List.append_eq_nil_iff.mp hnone).1] at hready
    exact absurd hready (by decide)
  have htransit : c.transit = [] := (canReceive_iff h.notEnded hhead hbytes).mp hready
  rw [htransit, List.append_nil] at hbytes
  exact ⟨answer, head, hdrop, hhead, by rw [hbytes, List.append_nil], htransit⟩

/-- A response that is read ends the exchange that has waited for it. -/
private theorem read (h : c.Sound past) {e : Exchange} {rest : List Exchange}
    (hqueue : c.client.queue = e :: rest) (hwaiting : c.client.waiting = true)
    (hready : c.client.buffer.canReceive = true) :
    Sound { c with
      client := c.client.receive.2.finish e.number c.client.receive.1
      read := c.read ++ [e.number] } (past ++ [e]) := by
  obtain ⟨answer, head, hdrop, hhead, hbytes, htransit⟩ := h.arrived hready
  obtain ⟨e', rest', f, hqueue', hframe⟩ := h.awaited hwaiting
  obtain ⟨rfl, -⟩ := List.cons.inj (hqueue.symm.trans hqueue')
  rw [Client.receive_frame h.intact hhead hbytes]
  -- one more of the answers has been read
  have htake : c.answered.take (c.read ++ [e.number]).length =
      c.answered.take c.read.length ++ [answer] := by
    rw [List.length_append, List.length_singleton, List.take_add, hdrop]
    rfl
  refine ⟨h.issued_turn hqueue, h.numbered, h.count, h.intact, h.notEnded, ?_, ?_, ?_, h.carried,
    .inl ⟨?_, ?_⟩⟩
  · intro hw
    cases hw
  · rw [htake, List.map_append]
    exact h.paired.answered hframe
  · have hwritten := h.written
    rw [pending, if_pos hwaiting, hqueue] at hwritten
    exact hwritten.trans (List.append_nil _).symm
  · have hone := congrArg List.length hdrop
    rw [List.length_drop, List.length_singleton] at hone
    rw [List.length_append, List.length_singleton]
    dsimp only
    omega
  · exact htransit

/-- The client takes a step: it refuses, writes or reads. -/
theorem work (h : c.Sound past) : ∃ past', (c.step .work).Sound past' := by
  rw [step]
  split
  · exact ⟨past, h⟩
  · next k hstep =>
    obtain ⟨e, rest, hqueue, hcase⟩ := Client.step_cases h.intact hstep
    have hturn : (c.client.queue.take 1).map (·.number) = [e.number] := by rw [hqueue]; rfl
    rw [hturn]
    -- in each of the three steps the oldest exchange is over, or it waits
    rcases hcase with ⟨hwaiting, x, hframe, rfl⟩ | ⟨hwaiting, f, hframe, rfl⟩ |
      ⟨hwaiting, hready, rfl⟩
    · rw [hwaiting]
      exact ⟨past ++ [e], h.refuse hqueue hwaiting hframe⟩
    · rw [hwaiting]
      exact ⟨past, h.write hqueue hwaiting hframe⟩
    · rw [hwaiting]
      exact ⟨past ++ [e], h.read hqueue hwaiting hready⟩

/-- Every move keeps a conversation sound. -/
theorem step (h : c.Sound past) (move : Move) : ∃ past', (c.step move).Sound past' := by
  cases move with
  | issue method body => exact ⟨past, h.issue method body⟩
  | giveUp n => exact ⟨past, h.giveUp n⟩
  | work => exact h.work
  | answer payload => exact ⟨past, h.answer payload⟩
  | deliver count => exact ⟨past, h.deliver count⟩

end Sound

theorem sound_foldl {c : Conversation} {past : List Exchange} (h : c.Sound past)
    (moves : List Move) : ∃ past', (moves.foldl Conversation.step c).Sound past' := by
  -- move by move
  induction moves generalizing c past with
  | nil => exact ⟨past, h⟩
  | cons move moves ih =>
    obtain ⟨past', h'⟩ := h.step move
    exact ih h'

/-- Every conversation is sound. -/
theorem sound_run (moves : List Move) : ∃ past, (run moves).Sound past :=
  sound_foldl Sound.start moves

/-! ### What callers receive -/

namespace Sound

variable {c : Conversation} {past : List Exchange}

/-- Requests are written in the order in which they were issued. -/
theorem pairwise_written (h : c.Sound past) : c.written.Pairwise (· < ·) := by
  have hpending : c.pending.Sublist (c.client.queue.map (·.number)) := by
    unfold pending
    split
    · exact (List.take_sublist _ _).map _
    · exact List.nil_sublist _
  -- what was written is part of all numbers, in order
  have hsub : c.written.Sublist (List.range c.issued.length) := by
    rw [← h.numbered, h.written]
    nth_rewrite 1 [h.issued]
    rw [List.map_append]
    exact h.paired.sublist.append hpending
  exact List.pairwise_lt_range.sublist hsub

/-- Every exchange has one outcome. -/
theorem find?_outcomes (h : c.Sound past) {n : Nat} {r : Except Error Message}
    (hr : (n, r) ∈ c.client.outcomes) :
    c.client.outcomes.find? (fun o => o.1 == n) = some (n, r) := by
  -- no number is over twice
  have hnodup : (c.client.outcomes.map (·.1)).Nodup := by
    rw [h.paired.map_outcomes, (List.reverse_perm _).nodup_iff]
    have hall := List.nodup_range (n := c.issued.length)
    rw [← h.numbered, h.issued, List.map_append] at hall
    exact (List.nodup_append.mp hall).1
  exact find?_of_nodup hnodup hr

/-- An outcome is the refusal of the caller's own request, or what the response at its turn
    comes to. -/
theorem outcome?_cases (h : c.Sound past) {n : Nat} {r : Except Error Message}
    (hr : c.client.outcome? n = some r) :
    (∃ e x, c.issued[n]? = some e ∧ e.frame = .error x ∧ r = .error x) ∨
      ∃ (i : Nat) (answer : List UInt8 × List UInt8), c.read[i]? = some n ∧
        c.answered[i]? = some answer ∧ r = answerOf (decode answer.2) := by
  rw [Client.outcome?, Option.map_eq_some_iff] at hr
  obtain ⟨⟨n', o⟩, hfind, rfl⟩ := hr
  obtain rfl : n' = n := by simpa using List.find?_some hfind
  -- refused, or answered by the payload of its place
  rcases h.paired.of_mem (List.mem_of_find?_eq_some hfind) with
    ⟨e, he, rfl, x, hframe, rfl⟩ | ⟨i, payload, hi, hpayload, rfl⟩
  · refine .inl ⟨e, x, h.getElem?_number ?_, hframe, rfl⟩
    rw [h.issued]
    exact List.mem_append_left _ he
  · rw [List.getElem?_map, Option.map_eq_some_iff] at hpayload
    obtain ⟨answer, hanswer, rfl⟩ := hpayload
    exact .inr ⟨i, answer, hi, getElem?_of_take hanswer, rfl⟩

/-- The request frame that a response answers is that of the request at whose turn the response
    is read. -/
theorem carries_answer (h : c.Sound past) {i n : Nat} {answer : List UInt8 × List UInt8}
    (hi : c.read[i]? = some n) (hanswer : c.answered[i]? = some answer) : c.Carries n answer.1 := by
  have hread : i < c.read.length := (List.getElem?_eq_some_iff.mp hi).1
  have hlt : i < c.answered.length := (List.getElem?_eq_some_iff.mp hanswer).1
  -- read and written agree up to what is pending, and so do answered and sent frames
  have hwritten : c.written[i]? = some n := by rw [h.written, List.getElem?_append_left hread, hi]
  have hframe : (c.answered.map (·.1) ++ c.client.sent)[i]? = some answer.1 := by
    rw [List.getElem?_append_left (by rwa [List.length_map]), List.getElem?_map, hanswer]
    rfl
  obtain ⟨hw, rfl⟩ := List.getElem?_eq_some_iff.mp hwritten
  obtain ⟨hf, heq⟩ := List.getElem?_eq_some_iff.mp hframe
  rw [← heq]
  exact h.carried.get hw hf

/-- The response that is read at the turn of a request is the outcome of that request. -/
theorem outcome?_of_read (h : c.Sound past) {i n : Nat} (hi : c.read[i]? = some n) :
    ∃ answer, c.answered[i]? = some answer ∧
      c.client.outcome? n = some (answerOf (decode answer.2)) := by
  obtain ⟨payload, hpayload, hmem⟩ := h.paired.mem_of_getElem? hi
  rw [List.getElem?_map, Option.map_eq_some_iff] at hpayload
  obtain ⟨answer, hanswer, rfl⟩ := hpayload
  refine ⟨answer, getElem?_of_take hanswer, ?_⟩
  rw [Client.outcome?, h.find?_outcomes hmem]
  rfl

/-- A response that has arrived is read by the next step of the client. -/
theorem read_work (h : c.Sound past) (hanswered : c.read.length < c.answered.length)
    (htransit : c.transit = []) : (c.step .work).read = c.written := by
  obtain ⟨answer, head, hdrop, hhead, hbytes⟩ := h.arriving.resolve_left fun ⟨heq, _⟩ => by omega
  have hready := (canReceive_iff h.notEnded hhead hbytes).mpr htransit
  -- a response without a request that waits for it would be one too many
  have hwaiting : c.client.waiting = true := by
    by_contra hnot
    have hlength := h.carried.length_eq
    rw [h.written_eq_read (by simpa using hnot), List.length_append, List.length_map] at hlength
    omega
  obtain ⟨e, rest, f, hqueue, -⟩ := h.awaited hwaiting
  rw [h.written, pending, if_pos hwaiting, Conversation.step, Client.step, hqueue]
  simp only [hwaiting, hready, if_true]

end Sound

/-- Giving up changes nothing but that the caller receives nothing. -/
private theorem foldl_giveUp (moves : List Move) (c : Conversation) (gaveUp : List Nat) :
    ((moves.filter (!·.isGiveUp)).foldl step { c with gaveUp }) =
      { moves.foldl step c with gaveUp } := by
  -- no move looks at who has given up
  induction moves generalizing c with
  | nil => rfl
  | cons move moves ih =>
    cases move with
    | giveUp n => exact ih (c.step (.giveUp n))
    | issue method body => exact ih (c.step (.issue method body))
    | deliver count => exact ih (c.step (.deliver count))
    | work =>
      have hstep : ({ c with gaveUp } : Conversation).step .work =
          { c.step .work with gaveUp } := by
        simp only [step]
        split <;> rfl
      rw [List.filter_cons_of_pos rfl, List.foldl_cons, List.foldl_cons, hstep]
      exact ih (c.step .work)
    | answer payload =>
      have hstep : ({ c with gaveUp } : Conversation).step (.answer payload) =
          { c.step (.answer payload) with gaveUp } := by
        simp only [step]
        split <;> rfl
      rw [List.filter_cons_of_pos rfl, List.foldl_cons, List.foldl_cons, hstep]
      exact ih (c.step (.answer payload))

/-- Steps of the client are moves. -/
private theorem exists_work_run (fuel : Nat) (c : Conversation) :
    ∃ n, ((List.replicate n Move.work).foldl step c).client = c.client.run fuel := by
  -- on the steps that the client may take
  induction fuel generalizing c with
  | zero => exact ⟨0, rfl⟩
  | succ fuel ih =>
    rw [Client.run]
    cases hstep : c.client.step with
    | none => exact ⟨0, rfl⟩
    | some k =>
      have hclient : (c.step .work).client = k := by rw [step, hstep]
      obtain ⟨n, hn⟩ := ih (c.step .work)
      refine ⟨n + 1, ?_⟩
      rw [List.replicate_succ, List.foldl_cons, hn, hclient]

/-- Replies never pair with the wrong request, whatever callers, client and the other end do,
    and in whatever order.

    Responses are read for the requests that were written, in that order, and at most one is not
    read; requests are written in the order of issue, and the frames that the other end gets
    are theirs.  What a caller receives is the refusal of its own request, or what the response
    to its own request comes to; and that response, once read, is its outcome.  A response that
    has arrived is read at the next step, whether or not its caller has given up, and giving up
    changes nothing else.  Settling a client is a number of such steps. -/
theorem run_pairs (moves : List Move) :
    (run moves).read <+: (run moves).written ∧
    (run moves).written.length ≤ (run moves).read.length + 1 ∧
    (run moves).written.Pairwise (· < ·) ∧
    List.Forall₂ (run moves).Carries (run moves).written
      ((run moves).answered.map (·.1) ++ (run moves).client.sent) ∧
    (∀ n r, (run moves).received n = some r →
      (∃ e x, (run moves).issued[n]? = some e ∧ e.frame = .error x ∧ r = .error x) ∨
      ∃ (i : Nat) (answer : List UInt8 × List UInt8), (run moves).read[i]? = some n ∧
        (run moves).answered[i]? = some answer ∧ (run moves).Carries n answer.1 ∧
        r = answerOf (decode answer.2)) ∧
    (∀ (i n : Nat), (run moves).read[i]? = some n →
      ∃ answer, (run moves).answered[i]? = some answer ∧
        (run moves).client.outcome? n = some (answerOf (decode answer.2))) ∧
    ((run moves).read.length < (run moves).answered.length → (run moves).transit = [] →
      (run (moves ++ [.work])).read = (run moves).written) ∧
    run (moves.filter (!·.isGiveUp)) = { run moves with gaveUp := [] } ∧
    ∃ n, (run (moves ++ List.replicate n .work)).client = (run moves).client.settle := by
  obtain ⟨past, h⟩ := sound_run moves
  refine ⟨⟨_, h.written.symm⟩, h.length_written, h.pairwise_written, h.carried, ?_,
    fun i n hi => h.outcome?_of_read hi, ?_, foldl_giveUp moves {} [], ?_⟩
  · -- who has not given up receives the outcome
    intro n r hr
    have houtcome : (run moves).client.outcome? n = some r := by
      rw [received] at hr
      split at hr
      · cases hr
      · exact hr
    refine (h.outcome?_cases houtcome).imp_right ?_
    rintro ⟨i, answer, hi, hanswer, hresult⟩
    exact ⟨i, answer, hi, hanswer, h.carries_answer hi hanswer, hresult⟩
  · -- one more step reads the response
    intro hanswered htransit
    rw [run, List.foldl_append]
    exact h.read_work hanswered htransit
  · obtain ⟨n, hn⟩ := exists_work_run (2 * (run moves).client.queue.length) (run moves)
    exact ⟨n, by rw [run, List.foldl_append]; exact hn⟩

/-- A response to an evaluation. -/
def reply : Message :=
  .response (.str "evaluate") "ok" .null

/-- A caller that gives up after its request was written, one whose request cannot be written,
    and one that waits; the responses arrive in pieces. -/
def abandonment : List Move :=
  [.issue "complete" .none, .work, .giveUp 0, .issue "evaluate" (.bytes [1]),
    .issue "evaluate" .none, .answer [93], .deliver 3, .work, .deliver 100, .work, .work, .work,
    .answer (payloadOf reply.toJson), .deliver 100, .work]

/-- The first caller receives nothing, and the last one its own response. -/
theorem run_pairs_abandonment :
    (run abandonment).read = [0, 2] ∧ (run abandonment).received 0 = none ∧
    (run abandonment).received 2 = some (.ok reply) ∧
    ∃ (i : Nat) (answer : List UInt8 × List UInt8), (run abandonment).read[i]? = some 2 ∧
      (run abandonment).answered[i]? = some answer ∧ (run abandonment).Carries 2 answer.1 ∧
      .ok reply = answerOf (decode answer.2) := by
  have hplain : reply.toJson.isPlain = true := by decide
  have hdecode : decode (payloadOf reply.toJson) = .ok reply :=
    decode_payloadOf hplain (by decide) rfl
  have hreceived : (run abandonment).received 2 = some (.ok reply) := by
    have houtcome : (run abandonment).received 2 =
        some (answerOf (decode (payloadOf reply.toJson))) := rfl
    rw [houtcome, hdecode]
    rfl
  refine ⟨rfl, rfl, hreceived, ?_⟩
  obtain ⟨-, -, -, -, hpairs, -⟩ := run_pairs abandonment
  refine (hpairs 2 _ hreceived).resolve_left ?_
  rintro ⟨_, x, -, -, h⟩
  cases h

end Conversation

end ReplEngine.Wire
