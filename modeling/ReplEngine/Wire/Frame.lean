import ReplEngine.Wire.Message
import ReplEngine.Json.Reader
import ReplEngine.Json.Writer
import ReplEngine.Text.Utf8

/-!
# Frames

A frame is a header of four bytes, the size of the payload with the most
significant byte first, and the payload, a JSON text in UTF-8.
-/

namespace ReplEngine.Wire

/-- The bytes of a header. -/
def headerSize : Nat := 4

/-- The largest payload that a header can announce. -/
def maxPayload : Nat := 0xFFFFFFFF

/-- The header of a payload of `size` bytes. -/
def header (size : Nat) : Except Error (List UInt8) :=
  if size ≤ maxPayload then
    .ok [(size / 16777216).toUInt8, (size / 65536).toUInt8, (size / 256).toUInt8, size.toUInt8]
  else .error (.frameTooLong size)

/-- The number that bytes denote, the most significant first. -/
def bigEndian (bytes : List UInt8) : Nat :=
  bytes.foldl (fun n b => n * 256 + b.toNat) 0

/-- The bytes of a JSON value. -/
def payloadOf (j : Json) : List UInt8 :=
  Text.Utf8.encode j.render.toList

/-- The frame of a JSON value, if it can be written and its size fits the header. -/
def pack (j : Json) : Except Error (List UInt8) :=
  if j.isWritable then
    let payload := payloadOf j
    (· ++ payload) <$> header payload.length
  else .error j.obstacle

/-- The JSON value that a payload holds. -/
def readPayload (payload : List UInt8) : Except Error Json :=
  match Text.Utf8.decode payload with
  | .error fault => .error (.malformedFrame fault.message)
  | .ok text =>
    match Json.readChars text with
    | .error halt => .error (.malformedFrame (halt.message text))
    | .ok j => .ok j

/-- The message that a payload holds. -/
def decode (payload : List UInt8) : Except Error Message :=
  readPayload payload >>= Message.ofJson

/-- The message of a whole frame; bytes after it do not matter. -/
def unpack (frame : List UInt8) : Except Error Message :=
  if frame.length < headerSize then .error .truncatedHeader
  else
    let size := bigEndian (frame.take headerSize)
    let payload := (frame.drop headerSize).take size
    if payload.length = size then decode payload
    else .error (.truncatedFrame size payload.length)

end ReplEngine.Wire
