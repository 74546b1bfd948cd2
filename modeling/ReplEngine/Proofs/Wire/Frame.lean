import ReplEngine.Proofs.Failure
import ReplEngine.Proofs.Json.RoundTrip
import ReplEngine.Proofs.Text.Utf8
import ReplEngine.Wire.Frame

/-!
# Frames are read back

A frame says its own size: what follows it does not matter, and less than the
whole of it is refused.

## Key results
- `unpack_frame`: the payload that a header announces is what is decoded.
- `unpack_cut`: how a frame that is cut short is refused, at every cut.
- `unpack_pack_append_and_cut`: the message of a frame that was packed, whatever
  follows the frame, and the refusal of every part of it.
-/

namespace ReplEngine.Wire

/-! ### Headers -/

/-- A header has four bytes, and they denote the size that it was made for. -/
theorem bigEndian_header {size : Nat} {head : List UInt8} (h : header size = .ok head) :
    head.length = headerSize ∧ bigEndian head = size := by
  unfold header at h
  split at h
  · next hsize =>
    obtain rfl := Except.ok.inj h
    unfold maxPayload at hsize
    refine ⟨rfl, ?_⟩
    -- Horner's rule over the four digits of the size in base 256
    simp only [bigEndian, List.foldl_cons, List.foldl_nil, Nat.toUInt8_eq, UInt8.toNat_ofNat',
      Nat.reducePow]
    omega
  · cases h

/-- A header is what stands first in a frame. -/
theorem take_header {size : Nat} {head : List UInt8} (h : header size = .ok head)
    (rest : List UInt8) : (head ++ rest).take headerSize = head := by
  rw [← (bigEndian_header h).1, List.take_left]

/-- What follows it stands behind its four bytes. -/
theorem drop_header {size : Nat} {head : List UInt8} (h : header size = .ok head)
    (rest : List UInt8) : (head ++ rest).drop headerSize = rest := by
  rw [← (bigEndian_header h).1, List.drop_left]

/-- A frame is a header and the payload that it announces. -/
theorem pack_eq_ok {j : Json} {frame : List UInt8} (h : pack j = .ok frame) :
    j.isWritable = true ∧
      ∃ head, header (payloadOf j).length = .ok head ∧ frame = head ++ payloadOf j := by
  unfold pack at h
  split at h
  · next hwritable =>
    -- a payload that is too long has no header
    cases hhead : header (payloadOf j).length with
    | error e => simp [hhead, Functor.map, Except.map] at h
    | ok head =>
      simp only [hhead, Functor.map, Except.map, Except.ok.injEq] at h
      exact ⟨hwritable, head, rfl, h.symm⟩
  · cases h

/-! ### Whole frames and parts of them -/

/-- What is decoded is the payload that the header announces, whatever follows. -/
theorem unpack_frame {payload head : List UInt8} (h : header payload.length = .ok head)
    (rest : List UInt8) : unpack (head ++ payload ++ rest) = decode payload := by
  obtain ⟨hlength, hsize⟩ := bigEndian_header h
  have hlong : ¬ (head ++ (payload ++ rest)).length < headerSize := by
    simp only [List.length_append, hlength]
    omega
  rw [List.append_assoc]
  unfold unpack
  simp only [if_neg hlong, take_header h, drop_header h, hsize, List.take_left, if_true]

/-- A frame that is cut short is refused: within the header for the header, after it for the
    payload, of which the complaint gives the size that was announced and that found. -/
theorem unpack_cut {payload head part : List UInt8} (h : header payload.length = .ok head)
    (hpart : part <+: head ++ payload) (hne : part ≠ head ++ payload) :
    unpack part =
      if part.length < headerSize then .error .truncatedHeader
      else .error (.truncatedFrame payload.length (part.length - headerSize)) := by
  obtain ⟨hlength, hsize⟩ := bigEndian_header h
  obtain ⟨missing, hmissing⟩ := hpart
  -- something is missing at the end
  have hmore : 0 < missing.length := by
    rw [List.length_pos_iff]
    rintro rfl
    exact hne (by simpa using hmissing)
  have htotal := congrArg List.length hmissing
  simp only [List.length_append, hlength] at htotal
  unfold unpack
  split
  · rfl
  · next hlong =>
    -- the header is whole, so it announces more than what is left
    have htake : part.take headerSize = head := by
      rw [← List.take_append_of_le_length (by omega : headerSize ≤ part.length), hmissing,
        take_header h]
    have hshort : ((part.drop headerSize).take payload.length).length =
        part.length - headerSize := by
      simp only [List.length_take, List.length_drop]
      omega
    simp only [htake, hsize, hshort]
    rw [if_neg (by omega)]

/-! ### Messages -/

/-- The payload of a value without floats holds that value. -/
theorem readPayload_payloadOf {j : Json} (hplain : j.isPlain = true)
    (hwritable : j.isWritable = true) : readPayload (payloadOf j) = .ok j := by
  unfold readPayload payloadOf
  rw [Text.Utf8.decode_encode]
  simp only [Json.readChars_render hplain hwritable]

/-- An object that names one of the two kinds is a message, and the message holds all of it. -/
theorem Message.ofJson_obj {fields : List (String × Json)}
    (hkind : (Json.obj fields).field "type" = .str "request" ∨
      (Json.obj fields).field "type" = .str "response") :
    ∃ m, Message.ofJson (.obj fields) = .ok m ∧ m.toJson = .obj fields := by
  rcases hkind with hkind | hkind
  · exact ⟨⟨.request, .obj fields⟩, by simp [Message.ofJson, Json.isObject, hkind], rfl⟩
  · exact ⟨⟨.response, .obj fields⟩, by simp [Message.ofJson, Json.isObject, hkind], rfl⟩

/-- The payload of a message without floats decodes to that message. -/
theorem decode_payloadOf {j : Json} {m : Message} (hplain : j.isPlain = true)
    (hwritable : j.isWritable = true) (hm : Message.ofJson j = .ok m) :
    decode (payloadOf j) = .ok m := by
  unfold decode
  rw [readPayload_payloadOf hplain hwritable]
  exact hm

/-- A frame that was packed carries its message, whatever bytes follow the frame, and every part
    of it that ends before it does is refused as a violation of the protocol. -/
theorem unpack_pack_append_and_cut {fields : List (String × Json)} {frame : List UInt8}
    (hplain : (Json.obj fields).isPlain = true)
    (hkind : (Json.obj fields).field "type" = .str "request" ∨
      (Json.obj fields).field "type" = .str "response")
    (hpack : pack (.obj fields) = .ok frame) :
    (∃ m, Message.ofJson (.obj fields) = .ok m ∧ m.toJson = .obj fields ∧
      ∀ rest, unpack (frame ++ rest) = .ok m) ∧
    ∀ part, part <+: frame → part ≠ frame →
      ∃ e, unpack part = .error e ∧ e.kind = .protocol := by
  obtain ⟨hwritable, head, hhead, rfl⟩ := pack_eq_ok hpack
  constructor
  · obtain ⟨m, hm, hfields⟩ := Message.ofJson_obj hkind
    refine ⟨m, hm, hfields, fun rest => ?_⟩
    rw [unpack_frame hhead]
    exact decode_payloadOf hplain hwritable hm
  · intro part hpart hne
    -- both complaints are about the protocol
    rw [unpack_cut hhead hpart hne]
    split
    · exact ⟨_, rfl, rfl⟩
    · exact ⟨_, rfl, rfl⟩

/-- A request that nests an array and an object, with an escape, an accent and a negative number. -/
def nestedRequest : List (String × Json) :=
  [("type", .str "request"), ("method", .str "é\n\""),
    ("body", .arr [.null, .bool true, .int (-12), .obj [("a", .arr []), ("😀", .str "")]])]

/-- The frame of `nestedRequest`. -/
def nestedFrame : List UInt8 :=
  [0, 0, 0, 78] ++ payloadOf (.obj nestedRequest)

/-- The request with its escapes comes back from its frame, and from no part of it. -/
theorem unpack_pack_append_and_cut_nested :
    pack (.obj nestedRequest) = .ok nestedFrame ∧
    (∃ m, Message.ofJson (.obj nestedRequest) = .ok m ∧ m.toJson = .obj nestedRequest ∧
      ∀ rest, unpack (nestedFrame ++ rest) = .ok m) ∧
    ∀ part, part <+: nestedFrame → part ≠ nestedFrame →
      ∃ e, unpack part = .error e ∧ e.kind = .protocol :=
  have hpack : pack (.obj nestedRequest) = .ok nestedFrame := by rfl
  ⟨hpack, unpack_pack_append_and_cut (by decide) (.inl rfl) hpack⟩

end ReplEngine.Wire
