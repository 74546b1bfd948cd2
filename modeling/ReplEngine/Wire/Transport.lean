import ReplEngine.Wire.Frame

/-!
# Byte streams

Bytes arrive in pieces and are accepted in pieces; where the cuts fall is up to the
transport.  Reading gathers pieces until it has the bytes it wants, writing goes on
until all bytes are taken.
-/

namespace ReplEngine.Wire

/-- Reads one message with a reader of exact sizes: the header, and the payload that it
announces.  A payload that is no message is consumed like any other. -/
def receiveWith {σ : Type} (read : σ → Nat → Except Error (List UInt8) × σ) (s : σ) :
    Except Error Message × σ :=
  match read s headerSize with
  | (.error e, s) => (.error e, s)
  | (.ok head, s) =>
    match read s (bigEndian head) with
    | (.error e, s) => (.error e, s)
    | (.ok payload, s) => (decode payload, s)

/-- The byte by which a worker announces that it is ready. -/
def readyByte : UInt8 := 0

/-- Waits for the announcement of a worker with a reader of exact sizes. -/
def waitReadyWith {σ : Type} (read : σ → Nat → Except Error (List UInt8) × σ) (s : σ) :
    Except Error Unit × σ :=
  match read s 1 with
  | (.error e, s) => (.error e, s)
  | (.ok bytes, s) => (if bytes = [readyByte] then .ok () else .error .notReady, s)

/-- What comes after the bytes that have arrived. -/
inductive Ending where
  /-- More may come. -/
  | pending
  /-- The other end is closed. -/
  | closed
  /-- The other end was dropped with bytes unread, which is told once. -/
  | reset
deriving Repr, DecidableEq

/-- The receiving half of a stream: the pieces that have arrived and not been read. -/
structure Inlet where
  pieces : List (List UInt8) := []
  ending : Ending := .pending

namespace Inlet

/-- The bytes that have arrived, without their cuts. -/
def bytes (s : Inlet) : List UInt8 :=
  s.pieces.flatten

/-- A piece arrives. -/
def push (s : Inlet) (piece : List UInt8) : Inlet :=
  if piece.isEmpty then s else { s with pieces := s.pieces ++ [piece] }

/-- The stream ends; an ending that was told before stays. -/
def finish (s : Inlet) (ending : Ending) : Inlet :=
  match s.ending with
  | .pending => { s with ending := ending }
  | _ => s

/-- Whether reading would answer at once, with bytes or with the end. -/
def isReady (s : Inlet) : Bool :=
  !s.bytes.isEmpty || s.ending != .pending

/-- The largest piece that is taken at once. -/
def chunkSize : Nat := 65536

/-- Gathers `wanted` bytes from pieces, no more than a chunk at once, behind the
bytes that were `got`.  When the pieces run out the answer is what was gathered. -/
def gather (wanted : Nat) (got : List UInt8) (pieces : List (List UInt8)) :
    List UInt8 × List (List UInt8) :=
  match pieces with
  | [] => (got, [])
  | piece :: rest =>
    if wanted = 0 then (got, piece :: rest)
    else if piece.length ≤ min wanted chunkSize then
      gather (wanted - piece.length) (got ++ piece) rest
    else
      gather (wanted - min wanted chunkSize) (got ++ piece.take (min wanted chunkSize))
        (piece.drop (min wanted chunkSize) :: rest)
termination_by pieces.flatten.length + pieces.length
decreasing_by
  · simp only [List.flatten_cons, List.length_append, List.length_cons]; omega
  · have : 0 < min wanted chunkSize := by simp only [chunkSize]; omega
    simp only [List.flatten_cons, List.length_append, List.length_cons, List.length_drop]; omega

/-- Reads exactly `n` bytes.  Bytes read before the end of the stream are lost. -/
def read (s : Inlet) (n : Nat) : Except Error (List UInt8) × Inlet :=
  let (got, rest) := gather n [] s.pieces
  if got.length = n then (.ok got, { s with pieces := rest })
  else
    match s.ending with
    | .reset => (.error .connectionReset, { pieces := rest, ending := .closed })
    | _ => (.error .connectionClosed, { s with pieces := rest })

/-- Reads everything that has arrived. -/
def drain (s : Inlet) : List UInt8 × Inlet :=
  (s.bytes, { s with pieces := [] })

/-- Reads one message. -/
def receive (s : Inlet) : Except Error Message × Inlet :=
  receiveWith read s

/-- Reads one message if anything has arrived. -/
def receiveReady (s : Inlet) : Except Error (Option Message) × Inlet :=
  if s.isReady then
    let (result, s) := s.receive
    (some <$> result, s)
  else (.ok none, s)

/-- Waits for the announcement of a worker. -/
def waitReady (s : Inlet) : Except Error Unit × Inlet :=
  waitReadyWith read s

end Inlet

/-- What the transport does with the bytes offered to it. -/
inductive Attempt where
  /-- It takes up to this many. -/
  | takes (count : Nat)
  /-- It takes none now. -/
  | busy
  /-- It is broken. -/
  | broken
deriving Repr, DecidableEq

/-- Offers bytes until all are taken; `written` counts those taken before, of `total`.
The answer is the pieces in the order they were taken. -/
def offer (written total : Nat) (bytes : List UInt8) :
    List Attempt → Except Error (List (List UInt8))
  | [] => if bytes.isEmpty then .ok [] else .error (.shortWrite written total)
  | attempt :: rest =>
    if bytes.isEmpty then .ok []
    else
      match attempt with
      | .busy => offer written total bytes rest
      | .broken => .error (.shortWrite written total)
      | .takes count => do
        let pieces ← offer (written + min count bytes.length) total (bytes.drop count) rest
        return bytes.take count :: pieces

/-- Writes bytes to a transport that behaves as `attempts` say. -/
def write (attempts : List Attempt) (bytes : List UInt8) : Except Error (List (List UInt8)) :=
  offer 0 bytes.length bytes attempts

end ReplEngine.Wire
