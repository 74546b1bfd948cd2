import ReplEngine.Wire.Transport

/-!
# Connected ends

Two ends of a connection: what one writes the other reads, until one of them is
closed.
-/

namespace ReplEngine.Wire

/-- The two ends. -/
inductive Side where
  | near
  | far
deriving Repr, DecidableEq

/-- The end opposite to a side. -/
def Side.other : Side → Side
  | .near => .far
  | .far => .near

/-- A connection: what has arrived at either end. -/
structure Pair where
  near : Inlet := {}
  far : Inlet := {}

namespace Pair

/-- What has arrived at a side. -/
def inlet (p : Pair) : Side → Inlet
  | .near => p.near
  | .far => p.far

/-- Replaces what has arrived at a side. -/
def setInlet (p : Pair) (side : Side) (s : Inlet) : Pair :=
  match side with
  | .near => { p with near := s }
  | .far => { p with far := s }

/-- Writes bytes from a side; the answer is how many.  A closed peer takes none. -/
def write (p : Pair) (side : Side) (bytes : List UInt8) : Except Error Nat × Pair :=
  let attempt := match (p.inlet side).ending with
    | .pending => Attempt.takes bytes.length
    | _ => .broken
  match Wire.write [attempt] bytes with
  | .error e => (.error e, p)
  | .ok pieces =>
    (.ok bytes.length, p.setInlet side.other (pieces.foldl Inlet.push (p.inlet side.other)))

/-- Sends a JSON value from a side. -/
def send (p : Pair) (side : Side) (j : Json) : Except Error Nat × Pair :=
  match pack j with
  | .error e => (.error e, p)
  | .ok frame => p.write side frame

/-- Lets a side read. -/
def reading {α : Type} (p : Pair) (side : Side) (act : Inlet → α × Inlet) : α × Pair :=
  let (result, s) := act (p.inlet side)
  (result, p.setInlet side s)

/-- Closes a side; bytes that it leaves unread reset the connection. -/
def close (p : Pair) (side : Side) : Pair :=
  let ending := if (p.inlet side).bytes.isEmpty then Ending.closed else .reset
  (p.setInlet side {}).setInlet side.other ((p.inlet side.other).finish ending)

end Pair

end ReplEngine.Wire
