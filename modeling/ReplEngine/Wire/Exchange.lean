import ReplEngine.Wire.Transport
import ReplEngine.Value.Message

/-!
# Exchanges

The end that asks keeps what has arrived in one buffer, without the cuts of the
transport, and its exchanges in a queue: a request is sent only when the
response to the one before it has been read.  A caller that gives up leaves its
exchange in the queue, so that the response to it is still taken off the stream and
never answers another request.
-/

namespace ReplEngine.Wire

/-- A request and its number in the order of issue. -/
structure Exchange where
  number : Nat
  method : String
  body : Value

/-- The request of an exchange, if its body can travel. -/
def Exchange.request (e : Exchange) : Except Error Json := do
  return (Message.request (.str e.method) (← e.body.toJson)).toJson

/-- Bytes that have arrived and not been read. -/
structure Buffer where
  bytes : List UInt8 := []
  /-- Whether no more will come. -/
  isEnded : Bool := false

namespace Buffer

/-- Bytes arrive. -/
def push (b : Buffer) (piece : List UInt8) : Buffer :=
  { b with bytes := b.bytes ++ piece }

/-- Takes exactly `n` bytes off the front.  Of a stream that ends before, what is left
is dropped. -/
def readExactly (b : Buffer) (n : Nat) : Except Error (List UInt8) × Buffer :=
  if n ≤ b.bytes.length then (.ok (b.bytes.take n), { b with bytes := b.bytes.drop n })
  else (.error .connectionClosed, { b with bytes := [] })

/-- Whether reading a message would answer without waiting. -/
def canReceive (b : Buffer) : Bool :=
  b.isEnded ||
    (headerSize ≤ b.bytes.length &&
      headerSize + bigEndian (b.bytes.take headerSize) ≤ b.bytes.length)

end Buffer

/-- How far writing to the other end has failed. -/
inductive Outlet where
  | intact
  /-- The other end does not read any more. -/
  | closed
  /-- A write has failed. -/
  | broken
deriving Repr, DecidableEq

/-- The asking end of a connection. -/
structure Client where
  /-- What has arrived. -/
  buffer : Buffer := {}
  /-- What was sent and the other end has not read. -/
  sent : List (List UInt8) := []
  outlet : Outlet := .intact
  /-- The exchanges that are not over, the oldest first. -/
  queue : List Exchange := []
  /-- Whether the request of the oldest exchange was sent. -/
  waiting : Bool := false
  /-- How many exchanges were issued. -/
  issued : Nat := 0
  /-- The outcomes of exchanges that are over, the latest first. -/
  outcomes : List (Nat × Except Error Message) := []

namespace Client

/-- Sends a message, if it can travel; the answer is the size of its frame. -/
def send (c : Client) (message : Except Error Json) : Except Error Nat × Client :=
  match message >>= pack with
  | .error e => (.error e, c)
  | .ok frame =>
    match c.outlet with
    | .intact => (.ok frame.length, { c with sent := c.sent ++ [frame] })
    | .closed => (.error .connectionLost, { c with outlet := .broken })
    | .broken => (.error .brokenPipe, c)

/-- Reads exactly `n` bytes; a write that has failed has broken reading too. -/
def read (c : Client) (n : Nat) : Except Error (List UInt8) × Client :=
  match c.outlet with
  | .broken => (.error .brokenPipe, c)
  | _ =>
    let (result, buffer) := c.buffer.readExactly n
    (result, { c with buffer := buffer })

/-- Reads one message. -/
def receive (c : Client) : Except Error Message × Client :=
  receiveWith read c

/-- Waits for the announcement of a worker. -/
def waitReady (c : Client) : Except Error Unit × Client :=
  waitReadyWith read c

/-- Ends the oldest exchange. -/
def finish (c : Client) (number : Nat) (outcome : Except Error Message) : Client :=
  { c with queue := c.queue.tail, waiting := false, outcomes := (number, outcome) :: c.outcomes }

/-- One step of the oldest exchange: its request is sent, or its response is read.
Nothing happens when there is no exchange or its response has not arrived. -/
def step (c : Client) : Option Client :=
  match c.queue with
  | [] => none
  | exchange :: _ =>
    if c.waiting then
      if c.buffer.canReceive then
        let (outcome, c) := c.receive
        some (c.finish exchange.number outcome)
      else none
    else
      match c.send exchange.request with
      | (.ok _, c) => some { c with waiting := true }
      | (.error e, c) => some (c.finish exchange.number (.error e))

/-- Takes steps until nothing happens; `fuel` bounds them. -/
def run : Nat → Client → Client
  | 0, c => c
  | fuel + 1, c =>
    match c.step with
    | none => c
    | some c => run fuel c

/-- Takes all steps that are possible: at most two for each exchange. -/
def settle (c : Client) : Client :=
  c.run (2 * c.queue.length)

/-- Issues a request; the answer is the number of its exchange. -/
def issue (c : Client) (method : String) (body : Value) : Nat × Client :=
  (c.issued, { c with queue := c.queue ++ [⟨c.issued, method, body⟩], issued := c.issued + 1 })

/-- The outcome of an exchange for its caller, who takes nothing but a response. -/
def outcome? (c : Client) (number : Nat) : Option (Except Error Message) :=
  (c.outcomes.find? fun o => o.1 == number).map fun o => o.2 >>= fun m => (·.1) <$> m.asResponse

end Client

end ReplEngine.Wire
