import ReplEngine.Proofs.Wire.Frame
import ReplEngine.Wire.Exchange

/-!
# Streams of frames

Where a transport cuts a stream does not show: what repeated reading comes to is a
function of the bytes alone, and it is the same function for both ends, which keep
what has arrived in different ways.  Writing delivers its bytes in order however they
are taken.

## Key results
- `outcomes`: what a stream of bytes holds, frame by frame, up to its end.
- `Exact.receiveAll_eq_outcomes`: a reader of exact sizes reads the outcomes of its bytes.
- `exact_inlet`, `exact_client`: both ends read exact sizes.
- `outcomes_pack`: the outcomes of frames that were packed.
- `flatten_offer`, `exists_offer`: writing delivers all bytes in order.
- `receiveAll_and_write`: all of these together.
-/

namespace ReplEngine.Wire

/-! ### What a stream holds -/

/-- The outcomes of reading the messages of a stream: one for each frame, and `lost` when the
    bytes end. -/
def outcomes (lost : Error) (bytes : List UInt8) : List (Except Error Message) :=
  if bytes.length < headerSize then [.error lost]
  else
    let size := bigEndian (bytes.take headerSize)
    let rest := bytes.drop headerSize
    if rest.length < size then [.error lost]
    else decode (rest.take size) :: outcomes lost (rest.drop size)
termination_by bytes.length
decreasing_by
  simp only [headerSize, List.length_drop] at *
  omega

/-- The outcomes of at most `n` readings; a connection that is gone ends them. -/
def receiveAll {σ : Type} (receive : σ → Except Error Message × σ) :
    Nat → σ → List (Except Error Message)
  | 0, _ => []
  | n + 1, s =>
    match receive s with
    | (.ok m, s) => .ok m :: receiveAll receive n s
    | (.error e, s) =>
      .error e :: if e.kind = .connection then [] else receiveAll receive n s

/-- A frame is one outcome, whatever its payload holds, and what follows it is untouched. -/
theorem outcomes_frame {payload head : List UInt8} (h : header payload.length = .ok head)
    (lost : Error) (rest : List UInt8) :
    outcomes lost (head ++ payload ++ rest) = decode payload :: outcomes lost rest := by
  -- the bytes are long enough for the header and for what it says
  obtain ⟨hlength, hsize⟩ := bigEndian_header h
  rw [List.append_assoc, outcomes, if_neg (by simp only [List.length_append]; omega),
    take_header h, drop_header h, hsize, if_neg (by simp only [List.length_append]; omega),
    List.take_left, List.drop_left]

/-- Packing values one after the other packs the first and then the others. -/
theorem mapM_pack_cons {j : Json} {values : List Json} {frames : List (List UInt8)}
    (h : (j :: values).mapM pack = .ok frames) :
    ∃ frame others, pack j = .ok frame ∧ values.mapM pack = .ok others ∧
      frames = frame :: others := by
  rw [List.mapM_cons] at h
  obtain ⟨frame, hframe, h⟩ := bind_eq_ok_iff.mp h
  obtain ⟨others, hothers, h⟩ := bind_eq_ok_iff.mp h
  exact ⟨frame, others, hframe, hothers, (Except.ok.inj h).symm⟩

/-- The outcomes of frames that were packed are those of decoding each payload by itself. -/
theorem outcomes_pack (lost : Error) {values : List Json} {frames : List (List UInt8)}
    (h : values.mapM pack = .ok frames) :
    outcomes lost frames.flatten =
      values.map (fun j => decode (payloadOf j)) ++ [.error lost] := by
  -- on the values, frame by frame
  induction values generalizing frames with
  | nil =>
    obtain rfl : frames = [] := (Except.ok.inj h).symm
    rw [outcomes]
    rfl
  | cons j values ih =>
    obtain ⟨frame, others, hframe, hothers, rfl⟩ := mapM_pack_cons h
    obtain ⟨-, head, hhead, rfl⟩ := pack_eq_ok hframe
    rw [List.flatten_cons, outcomes_frame hhead, ih hothers, List.map_cons, List.cons_append]

/-! ### Errors of decoding -/

/-- A payload that cannot be read violates the protocol. -/
theorem kind_of_readPayload {payload : List UInt8} {e : Error}
    (h : readPayload payload = .error e) : e.kind = .protocol := by
  unfold readPayload at h
  split at h
  · obtain rfl := Except.error.inj h
    rfl
  · split at h
    · obtain rfl := Except.error.inj h
      rfl
    · cases h

/-- A value that is no message violates it too, or its kind cannot be looked up. -/
theorem kind_of_ofJson {j : Json} {e : Error} (h : Message.ofJson j = .error e) :
    e.kind = .protocol ∨ e.kind = .type := by
  unfold Message.ofJson at h
  split at h
  · split at h
    · cases h
    · cases h
    · obtain rfl := Except.error.inj h
      cases (j.field "type").unhashable? with
      | none => exact .inl rfl
      | some typeName => exact .inr rfl
  · obtain rfl := Except.error.inj h
    exact .inl rfl

/-- Decoding never blames the connection. -/
theorem kind_of_decode {payload : List UInt8} {e : Error} (h : decode payload = .error e) :
    e.kind ≠ .connection := by
  unfold decode at h
  -- the payload cannot be read, or its value is no message
  cases hread : readPayload payload with
  | error fault =>
    rw [hread] at h
    obtain rfl := Except.error.inj h
    simp [kind_of_readPayload hread]
  | ok j =>
    rw [hread] at h
    rcases kind_of_ofJson h with hkind | hkind <;> simp [hkind]

/-! ### Reading exact sizes -/

/-- A reader that gives exactly the bytes that it was asked for, the next ones of those that
    its state holds, or fails with `lost` when they are too few. -/
structure Exact {σ : Type} (read : σ → Nat → Except Error (List UInt8) × σ)
    (bytes : σ → List UInt8) (Live : σ → Prop) (lost : Error) : Prop where
  enough : ∀ s n, Live s → n ≤ (bytes s).length →
    ∃ s', read s n = (.ok ((bytes s).take n), s') ∧ bytes s' = (bytes s).drop n ∧ Live s'
  short : ∀ s n, Live s → (bytes s).length < n → ∃ s', read s n = (.error lost, s')

section

variable {σ : Type} {read : σ → Nat → Except Error (List UInt8) × σ} {bytes : σ → List UInt8}
variable {Live : σ → Prop} {lost : Error}

/-- Reading one message takes the first frame off the bytes, if there is a whole one. -/
theorem Exact.receiveWith_cases (h : Exact read bytes Live lost) {s : σ} (hs : Live s) :
    (∃ s', receiveWith read s = (.error lost, s') ∧ outcomes lost (bytes s) = [.error lost]) ∨
      ∃ payload s', receiveWith read s = (decode payload, s') ∧ Live s' ∧
        outcomes lost (bytes s) = decode payload :: outcomes lost (bytes s') := by
  -- the bytes end within the header, within the payload, or behind the frame
  by_cases hhead : (bytes s).length < headerSize
  · obtain ⟨s', hread⟩ := h.short s headerSize hs hhead
    refine .inl ⟨s', ?_, ?_⟩
    · rw [receiveWith, hread]
    · rw [outcomes, if_pos hhead]
  · obtain ⟨s', hread, hbytes, hs'⟩ := h.enough s headerSize hs (by omega)
    by_cases hpayload : (bytes s').length < bigEndian ((bytes s).take headerSize)
    · obtain ⟨s'', hread'⟩ := h.short s' _ hs' hpayload
      refine .inl ⟨s'', ?_, ?_⟩
      · simp only [receiveWith, hread, hread']
      · rw [outcomes, if_neg hhead]
        simp only [← hbytes, if_pos hpayload]
    · obtain ⟨s'', hread', hbytes', hs''⟩ := h.enough s' _ hs' (Nat.le_of_not_lt hpayload)
      refine .inr ⟨(bytes s').take (bigEndian ((bytes s).take headerSize)), s'', ?_, hs'', ?_⟩
      · simp only [receiveWith, hread, hread']
      · rw [outcomes, if_neg hhead]
        simp only [← hbytes, if_neg hpayload, ← hbytes']

/-- Reading a frame gives what its payload decodes to, and leaves what follows the frame. -/
theorem Exact.receiveWith_frame (h : Exact read bytes Live lost) {s : σ} (hs : Live s)
    {payload head rest : List UInt8} (hhead : header payload.length = .ok head)
    (hframe : bytes s = head ++ payload ++ rest) :
    ∃ s', receiveWith read s = (decode payload, s') ∧ bytes s' = rest ∧ Live s' := by
  obtain ⟨hlength, hsize⟩ := bigEndian_header hhead
  rw [List.append_assoc] at hframe
  -- the header first, then as many bytes as it says
  obtain ⟨s', hread, hbytes, hs'⟩ := h.enough s headerSize hs
    (by rw [hframe, List.length_append]; omega)
  rw [hframe, take_header hhead] at hread
  rw [hframe, drop_header hhead] at hbytes
  obtain ⟨s'', hread', hbytes', hs''⟩ := h.enough s' payload.length hs'
    (by rw [hbytes, List.length_append]; omega)
  rw [hbytes, List.take_left] at hread'
  rw [hbytes, List.drop_left] at hbytes'
  refine ⟨s'', ?_, hbytes', hs''⟩
  simp only [receiveWith, hread, hsize, hread']

/-- Repeated reading comes to the outcomes of the bytes, however the reader keeps them. -/
theorem Exact.receiveAll_eq_outcomes (h : Exact read bytes Live lost)
    (hlost : lost.kind = .connection) (n : Nat) {s : σ} (hs : Live s) :
    receiveAll (receiveWith read) n s = (outcomes lost (bytes s)).take n := by
  induction n generalizing s with
  | zero => rfl
  | succ n ih =>
    rw [receiveAll]
    -- an end stops both sides; a frame is one outcome, which stops neither
    rcases h.receiveWith_cases hs with ⟨s', hreceive, hend⟩ | ⟨payload, s', hreceive, hs', hnext⟩
    · rw [hreceive, hend]
      simp [hlost]
    · rw [hreceive, hnext, List.take_succ_cons, ← ih hs']
      cases hdecode : decode payload with
      | ok m => rfl
      | error e => simp [kind_of_decode hdecode]

end

/-! ### The two ends -/

/-- Gathering takes the next bytes, as many as are wanted, whatever pieces they are in. -/
theorem Inlet.gather_eq (wanted : Nat) (got : List UInt8) (pieces : List (List UInt8)) :
    (gather wanted got pieces).1 = got ++ pieces.flatten.take wanted ∧
      (gather wanted got pieces).2.flatten = pieces.flatten.drop wanted := by
  -- on how the pieces are taken
  fun_induction gather wanted got pieces with
  | case1 wanted got => simp
  | case2 got piece rest => simp
  | case3 wanted got piece rest _ hpiece ih =>
    -- the whole piece is taken
    have hlength : piece.length ≤ wanted := by omega
    rw [ih.1, ih.2, List.flatten_cons, List.take_append, List.drop_append,
      List.take_of_length_le hlength, List.drop_of_length_le hlength, List.append_assoc,
      List.nil_append]
    exact ⟨rfl, rfl⟩
  | case4 wanted got piece rest _ hpiece ih =>
    -- a part of the piece is taken, and the rest of it stays in front
    have hchunk : min wanted chunkSize ≤ wanted := by omega
    have hflat : (piece.drop (min wanted chunkSize) :: rest).flatten =
        (piece :: rest).flatten.drop (min wanted chunkSize) := by
      rw [List.flatten_cons, List.flatten_cons,
        List.drop_append_of_le_length (by omega)]
    have htake : piece.take (min wanted chunkSize) =
        (piece :: rest).flatten.take (min wanted chunkSize) := by
      rw [List.flatten_cons, List.take_append_of_le_length (by omega)]
    rw [ih.1, ih.2, hflat, htake, List.append_assoc, List.drop_drop]
    have hwanted : min wanted chunkSize + (wanted - min wanted chunkSize) = wanted := by omega
    rw [← List.take_add, hwanted]
    exact ⟨rfl, rfl⟩

/-- The error by which an ending shows. -/
def Ending.loss : Ending → Error
  | .reset => .connectionReset
  | _ => .connectionClosed

theorem Ending.kind_loss (ending : Ending) : ending.loss.kind = .connection := by
  cases ending <;> rfl

/-- An end that keeps pieces reads exact sizes. -/
theorem exact_inlet (ending : Ending) :
    Exact Inlet.read Inlet.bytes (fun s => s.ending = ending) ending.loss where
  enough s n hs hn := by
    obtain ⟨hgot, hrest⟩ := Inlet.gather_eq n [] s.pieces
    have hlength : (Inlet.gather n [] s.pieces).1.length = n := by
      rw [hgot, List.nil_append, List.length_take]
      exact Nat.min_eq_left hn
    refine ⟨{ s with pieces := (Inlet.gather n [] s.pieces).2 }, ?_, hrest, hs⟩
    simp only [Inlet.read, if_pos hlength]
    rw [hgot, List.nil_append]
    rfl
  short s n hs hn := by
    -- what was gathered is all that there was
    obtain ⟨hgot, -⟩ := Inlet.gather_eq n [] s.pieces
    have hlength : (Inlet.gather n [] s.pieces).1.length ≠ n := by
      rw [hgot, List.nil_append, List.length_take]
      unfold Inlet.bytes at hn
      omega
    subst hs
    unfold Inlet.read
    simp only [if_neg hlength]
    cases s.ending <;> exact ⟨_, rfl⟩

/-- An end that keeps one buffer reads exact sizes, unless writing to it has failed. -/
theorem exact_client :
    Exact Client.read (fun c => c.buffer.bytes) (fun c => c.outlet ≠ .broken)
      .connectionClosed where
  enough c n hc hn := by
    refine ⟨{ c with buffer := { c.buffer with bytes := c.buffer.bytes.drop n } }, ?_, rfl, hc⟩
    unfold Client.read
    split
    · next hbroken => exact absurd hbroken hc
    · simp only [Buffer.readExactly, if_pos hn]
  short c n hc hn := by
    refine ⟨{ c with buffer := { c.buffer with bytes := [] } }, ?_⟩
    unfold Client.read
    split
    · next hbroken => exact absurd hbroken hc
    · simp only [Buffer.readExactly, if_neg (Nat.not_le_of_lt hn)]

/-! ### Writing -/

/-- How many bytes a transport takes in an attempt, if so many are left. -/
def Attempt.capacity : Attempt → Nat
  | .takes count => count
  | .busy | .broken => 0

/-- How many bytes a transport has room for in all. -/
def room : List Attempt → Nat
  | [] => 0
  | attempt :: rest => attempt.capacity + room rest

/-- What is taken piece by piece are the bytes that were offered. -/
theorem flatten_offer {written total : Nat} {bytes : List UInt8} {attempts : List Attempt}
    {pieces : List (List UInt8)} (h : offer written total bytes attempts = .ok pieces) :
    pieces.flatten = bytes := by
  -- on the attempts; what one does not take is offered to the next
  induction attempts generalizing written bytes pieces with
  | nil =>
    unfold offer at h
    split at h
    · next hempty =>
      obtain rfl := Except.ok.inj h
      rw [List.isEmpty_iff.mp hempty]
      rfl
    · cases h
  | cons attempt rest ih =>
    unfold offer at h
    split at h
    · next hempty =>
      obtain rfl := Except.ok.inj h
      rw [List.isEmpty_iff.mp hempty]
      rfl
    · split at h
      · exact ih h
      · cases h
      · obtain ⟨more, hmore, h⟩ := bind_eq_ok_iff.mp h
        obtain rfl := Except.ok.inj h
        rw [List.flatten_cons, ih hmore, List.take_append_drop]

/-- A transport that does not break and takes enough in total takes everything. -/
theorem exists_offer (written total : Nat) {bytes : List UInt8} {attempts : List Attempt}
    (hbroken : .broken ∉ attempts) (henough : bytes.length ≤ room attempts) :
    ∃ pieces, offer written total bytes attempts = .ok pieces := by
  -- on the attempts
  induction attempts generalizing written bytes with
  | nil =>
    obtain rfl : bytes = [] := List.eq_nil_of_length_eq_zero (Nat.le_zero.mp henough)
    exact ⟨[], rfl⟩
  | cons attempt rest ih =>
    rw [List.mem_cons, not_or] at hbroken
    rw [room] at henough
    unfold offer
    split
    · exact ⟨[], rfl⟩
    · -- the room of this attempt is used up by what it takes
      cases attempt with
      | busy =>
        simp only [Attempt.capacity, Nat.zero_add] at henough
        exact ih written hbroken.2 henough
      | broken => exact absurd rfl hbroken.1
      | takes count =>
        simp only [Attempt.capacity] at henough
        have hleft : (bytes.drop count).length ≤ room rest := by
          rw [List.length_drop]
          omega
        obtain ⟨more, hmore⟩ := ih (written + min count bytes.length) hbroken.2 hleft
        refine ⟨bytes.take count :: more, ?_⟩
        dsimp only
        rw [hmore]
        rfl

/-! ### Fragmentation -/

/-- What was packed can be written. -/
theorem isWritable_of_mapM_pack {values : List Json} {frames : List (List UInt8)}
    (h : values.mapM pack = .ok frames) : ∀ j ∈ values, j.isWritable = true := by
  induction values generalizing frames with
  | nil => simp
  | cons j values ih =>
    obtain ⟨frame, others, hframe, hothers, rfl⟩ := mapM_pack_cons h
    intro k hk
    rcases List.mem_cons.mp hk with rfl | hk
    · exact (pack_eq_ok hframe).1
    · exact ih hothers k hk

/-- The messages of frames that were packed, if they hold no floats. -/
theorem outcomes_messages (lost : Error) {messages : List Message} {frames : List (List UInt8)}
    (hplain : ∀ m ∈ messages, m.toJson.isPlain = true)
    (hkind : ∀ m ∈ messages, Message.ofJson m.toJson = .ok m)
    (h : (messages.map Message.toJson).mapM pack = .ok frames) :
    outcomes lost frames.flatten = messages.map .ok ++ [.error lost] := by
  rw [outcomes_pack lost h, List.map_map]
  congr 1
  apply List.map_congr_left
  intro m hm
  exact decode_payloadOf (hplain m hm) (isWritable_of_mapM_pack h m.toJson
    (List.mem_map_of_mem hm)) (hkind m hm)

/-- Where a stream is cut does not matter.

    Reading: both ends, the one that keeps pieces and the one that keeps a buffer, read the
    outcomes of the bytes alone.  For frames that were packed these are what each payload
    decodes to by itself, which is the message itself if it holds no floats, and then the end.
    A frame is taken off whole, whatever its payload holds.

    Writing: what is taken is what was to be written, in order, and a transport that does not
    break takes all of it as soon as it has room for it. -/
theorem receiveAll_and_write :
    (∀ (pieces : List (List UInt8)) (ending : Ending) (n : Nat),
      receiveAll Inlet.receive n ⟨pieces, ending⟩ =
        (outcomes ending.loss pieces.flatten).take n) ∧
    (∀ (c : Client) (n : Nat), c.outlet ≠ .broken →
      receiveAll Client.receive n c = (outcomes .connectionClosed c.buffer.bytes).take n) ∧
    (∀ (lost : Error) (values : List Json) (frames : List (List UInt8)),
      values.mapM pack = .ok frames →
      outcomes lost frames.flatten =
        values.map (fun j => decode (payloadOf j)) ++ [.error lost]) ∧
    (∀ (lost : Error) (messages : List Message) (frames : List (List UInt8)),
      (∀ m ∈ messages, m.toJson.isPlain = true) →
      (∀ m ∈ messages, Message.ofJson m.toJson = .ok m) →
      (messages.map Message.toJson).mapM pack = .ok frames →
      outcomes lost frames.flatten = messages.map .ok ++ [.error lost]) ∧
    (∀ (s : Inlet) (payload head rest : List UInt8), header payload.length = .ok head →
      s.bytes = head ++ payload ++ rest →
      ∃ s', s.receive = (decode payload, s') ∧ s'.bytes = rest ∧ s'.ending = s.ending) ∧
    (∀ (c : Client) (payload head rest : List UInt8), c.outlet ≠ .broken →
      header payload.length = .ok head → c.buffer.bytes = head ++ payload ++ rest →
      ∃ c', c.receive = (decode payload, c') ∧ c'.buffer.bytes = rest ∧ c'.outlet ≠ .broken) ∧
    (∀ (attempts : List Attempt) (bytes : List UInt8) (pieces : List (List UInt8)),
      write attempts bytes = .ok pieces → pieces.flatten = bytes) ∧
    (∀ (attempts : List Attempt) (bytes : List UInt8), .broken ∉ attempts →
      bytes.length ≤ room attempts →
      ∃ pieces, write attempts bytes = .ok pieces) := by
  refine ⟨?_, ?_, ?_, ?_, ?_, ?_, ?_, ?_⟩
  · -- reading: by both ends, of any bytes and of frames
    intro pieces ending n
    exact (exact_inlet ending).receiveAll_eq_outcomes ending.kind_loss n rfl
  · intro c n hc
    exact exact_client.receiveAll_eq_outcomes rfl n hc
  · intro lost values frames h
    exact outcomes_pack lost h
  · intro lost messages frames hplain hkind h
    exact outcomes_messages lost hplain hkind h
  · intro s payload head rest hhead hbytes
    exact (exact_inlet s.ending).receiveWith_frame rfl hhead hbytes
  · intro c payload head rest hc hhead hbytes
    exact exact_client.receiveWith_frame hc hhead hbytes
  · -- writing
    intro attempts bytes pieces h
    exact flatten_offer h
  · intro attempts bytes hbroken henough
    exact exists_offer 0 bytes.length hbroken henough

/-- A response with nothing in it. -/
def bareResponse : Message :=
  ⟨.response, .obj [("type", .str "response")]⟩

/-- The frame of `bareResponse`. -/
def bareFrame : List UInt8 :=
  [0, 0, 0, 19] ++ payloadOf bareResponse.toJson

/-- Two frames in pieces and in one buffer, a frame that holds no message, and a transport that is
    busy at first. -/
theorem receiveAll_and_write_bare :
    (([bareResponse, bareResponse].map Message.toJson).mapM pack = .ok [bareFrame, bareFrame]) ∧
    receiveAll Inlet.receive 5 ⟨[bareFrame.take 2, bareFrame.drop 2 ++ bareFrame], .closed⟩ =
      [.ok bareResponse, .ok bareResponse, .error .connectionClosed] ∧
    receiveAll Client.receive 5 { buffer := { bytes := bareFrame ++ bareFrame } } =
      [.ok bareResponse, .ok bareResponse, .error .connectionClosed] ∧
    (∃ s', Inlet.receive ⟨[[0, 0], [0, 1, 93], bareFrame], .pending⟩ = (decode [93], s') ∧
      s'.bytes = bareFrame ∧ s'.ending = .pending) ∧
    (∃ c', Client.receive { buffer := { bytes := [0, 0, 0, 1, 93] ++ bareFrame } } =
      (decode [93], c') ∧ c'.buffer.bytes = bareFrame ∧ c'.outlet ≠ .broken) ∧
    ∃ pieces, write [.busy, .takes 2, .takes 30] bareFrame = .ok pieces ∧
      pieces.flatten = bareFrame := by
  obtain ⟨hinlet, hclient, -, hmessages, hinletFrame, hclientFrame, hwrite, hwritten⟩ :=
    receiveAll_and_write
  have hpack : ([bareResponse, bareResponse].map Message.toJson).mapM pack =
      .ok [bareFrame, bareFrame] := by rfl
  have hplain : ∀ m ∈ [bareResponse, bareResponse], m.toJson.isPlain = true := by
    simp only [List.mem_cons, List.not_mem_nil, or_false, or_self, forall_eq]
    decide
  have hkind : ∀ m ∈ [bareResponse, bareResponse], Message.ofJson m.toJson = .ok m := by
    simp only [List.mem_cons, List.not_mem_nil, or_false, or_self, forall_eq]
    rfl
  have houtcomes := hmessages .connectionClosed _ _ hplain hkind hpack
  have hhead : header [93].length = .ok [0, 0, 0, 1] := rfl
  -- both ends read the same, and the frame of one byte is no message
  refine ⟨hpack, ?_, ?_, ?_, ?_, ?_⟩
  · rw [hinlet]
    have hcut : [bareFrame.take 2, bareFrame.drop 2 ++ bareFrame].flatten =
        [bareFrame, bareFrame].flatten := by
      simp [← List.append_assoc]
    rw [hcut, show Ending.closed.loss = .connectionClosed from rfl, houtcomes]
    rfl
  · rw [hclient _ _ (by decide)]
    have hjoin : bareFrame ++ bareFrame = [bareFrame, bareFrame].flatten := by simp
    rw [hjoin, houtcomes]
    rfl
  · exact hinletFrame _ [93] [0, 0, 0, 1] bareFrame hhead (by simp [Inlet.bytes])
  · exact hclientFrame _ [93] [0, 0, 0, 1] bareFrame (by decide) hhead rfl
  · obtain ⟨pieces, hpieces⟩ := hwritten [.busy, .takes 2, .takes 30] bareFrame (by decide)
      (by decide +kernel)
    exact ⟨pieces, hpieces, hwrite _ _ _ hpieces⟩

end ReplEngine.Wire
