import ReplEngine.Text.Quoted

/-!
# UTF-8

Characters as one to four bytes.  Decoding is strict: it refuses overlong forms,
surrogates and numbers beyond the last character, and a refusal names the bytes
from the lead byte up to the first one that cannot follow.
-/

namespace ReplEngine.Text.Utf8

/-- A byte that continues a character, with six bits of its number. -/
def tailByte (n : Nat) : UInt8 :=
  (0x80 + n % 64).toUInt8

/-- The bytes of a character. -/
def encodeChar (c : Char) : List UInt8 :=
  let n := c.toNat
  if n < 0x80 then [n.toUInt8]
  else if n < 0x800 then [(0xC0 + n / 64).toUInt8, tailByte n]
  else if n < 0x10000 then [(0xE0 + n / 4096).toUInt8, tailByte (n / 64), tailByte n]
  else [(0xF0 + n / 262144).toUInt8, tailByte (n / 4096), tailByte (n / 64), tailByte n]

/-- The bytes of a text. -/
def encode (cs : List Char) : List UInt8 :=
  cs.flatMap encodeChar

/-- Why bytes are no text. -/
inductive Reason where
  | startByte
  | continuationByte
  | endOfData
deriving Repr, DecidableEq

/-- The wording of a reason. -/
def Reason.text : Reason → String
  | .startByte => "invalid start byte"
  | .continuationByte => "invalid continuation byte"
  | .endOfData => "unexpected end of data"

/-- Bytes that are no character: the lead byte, its offset, how many bytes are
refused, and why. -/
structure Fault where
  lead : UInt8
  offset : Nat
  size : Nat
  reason : Reason
deriving Repr, DecidableEq

/-- The wording of a fault. -/
def Fault.message (f : Fault) : String :=
  let place :=
    if f.size == 1 then
      "byte 0x" ++ String.ofList (hexPadded 2 f.lead.toNat) ++ " in position " ++ toString f.offset
    else
      "bytes in position " ++ toString f.offset ++ "-" ++ toString (f.offset + f.size - 1)
  "'utf-8' codec can't decode " ++ place ++ ": " ++ f.reason.text

/-- What a lead byte announces: its bits of the number, how many bytes follow, and
the range of the first of them. -/
structure Lead where
  bits : Nat
  tails : Nat
  low : Nat := 0x80
  high : Nat := 0xBF

/-- The announcement of a lead byte.  The narrower ranges leave out overlong forms,
surrogates and numbers that are too large. -/
def Lead.of? (b : UInt8) : Option Lead :=
  let n := b.toNat
  if n < 0x80 then some { bits := n, tails := 0 }
  else if n < 0xC2 then none
  else if n < 0xE0 then some { bits := n - 0xC0, tails := 1 }
  else if n == 0xE0 then some { bits := 0, tails := 2, low := 0xA0 }
  else if n == 0xED then some { bits := 0xD, tails := 2, high := 0x9F }
  else if n < 0xF0 then some { bits := n - 0xE0, tails := 2 }
  else if n == 0xF0 then some { bits := 0, tails := 3, low := 0x90 }
  else if n == 0xF4 then some { bits := 4, tails := 3, high := 0x8F }
  else if n < 0xF4 then some { bits := n - 0xF0, tails := 3 }
  else none

/-- Reads `tails` more bytes onto the bits read so far, the first of them between
`low` and `high`.  `seen` counts the bytes taken, for the size of a fault. -/
def readTails (bits tails low high seen : Nat) (bytes : List UInt8) : Except (Nat × Reason) Nat :=
  match tails, bytes with
  | 0, _ => .ok bits
  | _ + 1, [] => .error (seen, .endOfData)
  | tails + 1, b :: rest =>
    if low ≤ b.toNat ∧ b.toNat ≤ high then
      readTails (bits * 64 + b.toNat % 64) tails 0x80 0xBF (seen + 1) rest
    else .error (seen, .continuationByte)

/-- The characters of bytes that start at `offset`; `skip` bytes belong to the
character before. -/
def decodeFrom (offset skip : Nat) : List UInt8 → Except Fault (List Char)
  | [] => .ok []
  | b :: rest =>
    match skip with
    | skip + 1 => decodeFrom (offset + 1) skip rest
    | 0 =>
      match Lead.of? b with
      | none => .error ⟨b, offset, 1, .startByte⟩
      | some lead =>
        match readTails lead.bits lead.tails lead.low lead.high 1 rest with
        | .error (size, reason) => .error ⟨b, offset, size, reason⟩
        | .ok n => (Char.ofNat n :: ·) <$> decodeFrom (offset + 1) lead.tails rest

/-- The characters of bytes. -/
def decode (bytes : List UInt8) : Except Fault (List Char) :=
  decodeFrom 0 0 bytes

end ReplEngine.Text.Utf8
