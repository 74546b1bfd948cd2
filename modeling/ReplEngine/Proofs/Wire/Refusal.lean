import ReplEngine.Proofs.Wire.Stream

/-!
# What a frame is refused for

Bytes that are no message are refused as a violation of the protocol: bytes that are too
few, a payload that is no text, a text that is no JSON, JSON that is no object, and an object
of another kind.  The same holds for a message that is no response with a known status.

There is one exception to each.  The kind of a message and the status of a response are
looked up among the known ones, and what cannot be looked up, an array or an object, is an
error of another kind, which a caller that waits for violations does not expect.

## Key results

- `unpack_eq_carried`: unpacking reads the value of a frame and then asks for its kind
- `Message.ofJson_cases`, `Message.asResponse_cases`: what each lookup comes to
- `unpack_and_asResponse_iff`: when a violation of the protocol is the only refusal
-/

namespace ReplEngine

/-- Whether a value is made of others.  Such a value cannot be looked up in a table. -/
def Json.isContainer : Json → Bool
  | .arr _ | .obj _ | .looseObj _ => true
  | _ => false

theorem Json.isContainer_eq (j : Json) : j.isContainer = j.unhashable?.isSome := by
  cases j <;> rfl

namespace Wire

/-- The JSON value that a whole frame carries, whatever it is. -/
def carried (frame : List UInt8) : Except Error Json :=
  if frame.length < headerSize then .error .truncatedHeader
  else
    let size := bigEndian (frame.take headerSize)
    let payload := (frame.drop headerSize).take size
    if payload.length = size then readPayload payload
    else .error (.truncatedFrame size payload.length)

/-- Unpacking a frame takes its value for a message. -/
theorem unpack_eq_carried (frame : List UInt8) :
    unpack frame = carried frame >>= Message.ofJson := by
  unfold unpack carried
  split
  · rfl
  · dsimp only
    split
    · rfl
    · rfl

/-- A frame with nothing behind it is decoded from its payload. -/
theorem unpack_whole {payload head : List UInt8} (h : header payload.length = .ok head) :
    unpack (head ++ payload) = decode payload := by
  have hframe := unpack_frame h []
  rwa [List.append_nil] at hframe

/-- A frame without a value is a violation of the protocol. -/
theorem kind_of_carried {frame : List UInt8} {e : Error} (h : carried frame = .error e) :
    e.kind = .protocol := by
  unfold carried at h
  split at h
  · obtain rfl := Except.error.inj h
    rfl
  · dsimp only at h
    split at h
    · -- the payload is whole, and no JSON
      exact kind_of_readPayload h
    · obtain rfl := Except.error.inj h
      rfl

namespace Message

/-- A value whose kind is asked for and cannot be looked up. -/
def KindUnknowable (j : Json) : Prop :=
  j.isObject = true ∧ (j.field "type").isContainer = true

/-- A message that says to be a response and whose status cannot be looked up. -/
def StatusUnknowable (m : Message) : Prop :=
  m.kind = .response ∧ (m.field "status").isContainer = true

/-- A value is a message of one of the two kinds, or no message, or its kind cannot be
    looked up. -/
theorem ofJson_cases (j : Json) :
    (∃ m, ofJson j = .ok m ∧ ¬ KindUnknowable j ∧ m.toJson = j ∧
      (m.field "type" = .str "request" ∨ m.field "type" = .str "response")) ∨
    (∃ e, ofJson j = .error e ∧ e.kind = .protocol ∧ ¬ KindUnknowable j) ∨
    ∃ e, ofJson j = .error e ∧ e.kind = .type ∧ KindUnknowable j := by
  unfold ofJson KindUnknowable
  split
  · next hobject =>
    simp only [hobject, true_and, Json.isContainer_eq]
    split
    · next hkind => exact .inl ⟨_, rfl, by simp [hkind, Json.unhashable?], rfl, .inl hkind⟩
    · next hkind => exact .inl ⟨_, rfl, by simp [hkind, Json.unhashable?], rfl, .inr hkind⟩
    · -- the kind is none of the two, and decides whether it could be looked up
      cases hkind : (j.field "type").unhashable? with
      | none => exact .inr (.inl ⟨_, rfl, rfl, by simp⟩)
      | some typeName => exact .inr (.inr ⟨_, rfl, rfl, rfl⟩)
  · next hobject => exact .inr (.inl ⟨_, rfl, rfl, fun h => hobject h.1⟩)

/-- A known status is the name of one, and can be looked up. -/
theorem unhashable?_of_status? {m : Message} {status : Status} (h : m.status? = some status) :
    (m.field "status").unhashable? = none := by
  unfold status? at h
  cases hfield : m.field "status" with
  | str s => rfl
  | _ =>
    rw [hfield] at h
    cases h

/-- A message is a response with a known status, or it is not, or its status cannot be
    looked up. -/
theorem asResponse_cases (m : Message) :
    (∃ status, m.asResponse = .ok (m, status) ∧ ¬ m.StatusUnknowable) ∨
    (∃ e, m.asResponse = .error e ∧ e.kind = .protocol ∧ ¬ m.StatusUnknowable) ∨
    ∃ e, m.asResponse = .error e ∧ e.kind = .type ∧ m.StatusUnknowable := by
  unfold asResponse StatusUnknowable
  cases hkind : m.kind with
  | request => exact .inr (.inl ⟨_, rfl, rfl, by simp⟩)
  | response =>
    simp only [true_and, Json.isContainer_eq]
    split
    · next status hstatus => exact .inl ⟨status, rfl, by simp [unhashable?_of_status? hstatus]⟩
    · -- the status is none of the known ones
      cases hstatus : (m.field "status").unhashable? with
      | none => exact .inr (.inl ⟨_, rfl, rfl, by simp⟩)
      | some typeName => exact .inr (.inr ⟨_, rfl, rfl, rfl⟩)

end Message

/-- Bytes hold a message, or violate the protocol, or carry a value whose kind cannot be looked
    up. -/
theorem unpack_cases (bytes : List UInt8) :
    (∃ m, unpack bytes = .ok m ∧ (¬ ∃ j, carried bytes = .ok j ∧ Message.KindUnknowable j) ∧
      (m.field "type" = .str "request" ∨ m.field "type" = .str "response")) ∨
    (∃ e, unpack bytes = .error e ∧ e.kind = .protocol ∧
      ¬ ∃ j, carried bytes = .ok j ∧ Message.KindUnknowable j) ∨
    ∃ e, unpack bytes = .error e ∧ e.kind = .type ∧
      ∃ j, carried bytes = .ok j ∧ Message.KindUnknowable j := by
  rw [unpack_eq_carried]
  cases hcarried : carried bytes with
  | error e =>
    refine .inr (.inl ⟨e, rfl, kind_of_carried hcarried, ?_⟩)
    rintro ⟨j, h, -⟩
    cases h
  | ok j =>
    -- the bytes carry one value only
    have hunique : (∃ k, (Except.ok j : Except Error Json) = .ok k ∧ Message.KindUnknowable k) ↔
        Message.KindUnknowable j := by
      refine ⟨?_, fun h => ⟨j, rfl, h⟩⟩
      rintro ⟨k, h, hk⟩
      rwa [Except.ok.inj h]
    simp only [hunique]
    rcases Message.ofJson_cases j with ⟨m, hm, hknown, -, htype⟩ | ⟨e, he⟩ | ⟨e, he⟩
    · exact .inl ⟨m, hm, hknown, htype⟩
    · exact .inr (.inl ⟨e, he⟩)
    · exact .inr (.inr ⟨e, he⟩)

/-- Whatever the bytes are, they unpack to a message of one of the two kinds or are refused as a
    violation of the protocol, if and only if they do not carry an object whose kind cannot be
    looked up.  And whatever message they unpack to, it is taken for a response as it is or refused
    as a violation of the protocol, if and only if it is not a response whose status cannot be
    looked up. -/
theorem unpack_and_asResponse_iff (bytes : List UInt8) :
    (((∃ m, unpack bytes = .ok m ∧
          (m.field "type" = .str "request" ∨ m.field "type" = .str "response")) ∨
        ∃ e, unpack bytes = .error e ∧ e.kind = .protocol) ↔
      ¬ ∃ j, carried bytes = .ok j ∧ Message.KindUnknowable j) ∧
    ∀ m, unpack bytes = .ok m →
      (((∃ status, m.asResponse = .ok (m, status)) ∨
        ∃ e, m.asResponse = .error e ∧ e.kind = .protocol) ↔
      ¬ m.StatusUnknowable) := by
  constructor
  · rcases unpack_cases bytes with ⟨m, hm, hknown, htype⟩ | ⟨e, he, hkind, hknown⟩ |
      ⟨e, he, hkind, hunknowable⟩
    · exact ⟨fun _ => hknown, fun _ => .inl ⟨m, hm, htype⟩⟩
    · exact ⟨fun _ => hknown, fun _ => .inr ⟨e, he, hkind⟩⟩
    · simp [he, hkind, hunknowable]
  · -- the same three cases, for the status
    intro m _
    rcases m.asResponse_cases with ⟨status, hm, hknown⟩ | ⟨e, he, hkind, hknown⟩ |
      ⟨e, he, hkind, hunknowable⟩
    · exact ⟨fun _ => hknown, fun _ => .inl ⟨status, hm⟩⟩
    · exact ⟨fun _ => hknown, fun _ => .inr ⟨e, he, hkind⟩⟩
    · simp [he, hkind, hunknowable]

/-- An object whose kind is an array. -/
def unknowableKind : Json :=
  .obj [("type", .arr [])]

/-- A response whose status is an array. -/
def unknowableStatus : Message :=
  ⟨.response, .obj [("type", .str "response"), ("status", .arr [])]⟩

/-- A frame whose kind is an array, and one with a response whose status is an array: neither is
    refused as a violation of the protocol. -/
theorem unpack_unknowable :
    (∃ e, unpack ([0, 0, 0, 11] ++ payloadOf unknowableKind) = .error e ∧
      e.message = "unhashable type: 'list'" ∧ e.kind ≠ .protocol) ∧
    unpack ([0, 0, 0, 31] ++ payloadOf unknowableStatus.toJson) = .ok unknowableStatus ∧
    ∃ e, unknowableStatus.asResponse = .error e ∧
      e.message = "unhashable type: 'list'" ∧ e.kind ≠ .protocol := by
  have hkind : unpack ([0, 0, 0, 11] ++ payloadOf unknowableKind) =
      .error (.unhashable "list") := by
    have hhead : header (payloadOf unknowableKind).length = .ok [0, 0, 0, 11] := by rfl
    rw [unpack_whole hhead, decode, unknowableKind, readPayload_payloadOf (by decide) (by decide)]
    rfl
  have hstatus : unpack ([0, 0, 0, 31] ++ payloadOf unknowableStatus.toJson) =
      .ok unknowableStatus := by
    have hhead : header (payloadOf unknowableStatus.toJson).length = .ok [0, 0, 0, 31] := by rfl
    rw [unpack_whole hhead]
    exact decode_payloadOf (by decide) (by decide) (by rfl)
  exact ⟨⟨_, hkind, by decide, by decide⟩, hstatus, .unhashable "list", by rfl, by decide,
    by decide⟩

/-- A response without a status is unpacked, and refused as a violation of the protocol. -/
theorem unpack_and_asResponse_iff_bare :
    unpack bareFrame = .ok bareResponse ∧ ¬ bareResponse.StatusUnknowable ∧
    ((∃ status, bareResponse.asResponse = .ok (bareResponse, status)) ∨
      ∃ e, bareResponse.asResponse = .error e ∧ e.kind = .protocol) := by
  have hbare : unpack bareFrame = .ok bareResponse := by
    have hhead : header (payloadOf bareResponse.toJson).length = .ok [0, 0, 0, 19] := by rfl
    rw [bareFrame, unpack_whole hhead]
    exact decode_payloadOf (by decide) (by decide) (by rfl)
  have hknown : ¬ bareResponse.StatusUnknowable := by
    rintro ⟨-, hcontainer⟩
    exact absurd hcontainer (by decide)
  exact ⟨hbare, hknown, ((unpack_and_asResponse_iff bareFrame).2 bareResponse hbare).mpr hknown⟩

end Wire

end ReplEngine
