import ReplEngine.Value.Basic
import ReplEngine.Decimal.FloatText
import ReplEngine.Sorting

/-!
# Equality and order of values

Numbers are equal and ordered by value across their types; texts, bytes and
sequences go item by item.  `Value.less?` is `none` for values without an order.
-/

namespace ReplEngine

/-- A number, exactly: `mantissa · 2^exponent`, or one of the special values. -/
inductive Exact where
  | finite (mantissa : Int) (exponent : Int)
  | positiveInfinity
  | negativeInfinity
  | nan

/-- The exact value of a floating point number. -/
def Exact.ofFloat (x : Float) : Exact :=
  match Decimal.Decoded.ofFloat x with
  | .nan => .nan
  | .infinite negative => if negative then .negativeInfinity else .positiveInfinity
  | .zero _ => .finite 0 0
  | .finite negative m q _ => .finite (if negative then -(m : Int) else m) q

/-- Whether one number is less than another. -/
def Exact.less : Exact → Exact → Bool
  | .nan, _ | _, .nan => false
  | .negativeInfinity, other => match other with
    | .negativeInfinity => false
    | _ => true
  | _, .negativeInfinity => false
  | .positiveInfinity, _ => false
  | _, .positiveInfinity => true
  | .finite m p, .finite n q =>
    let low := min p q
    m * Decimal.binaryPower (p - low).toNat < n * Decimal.binaryPower (q - low).toNat

/-- Whether two numbers are equal. -/
def Exact.equal (a b : Exact) : Bool :=
  match a, b with
  | .nan, _ | _, .nan => false
  | _, _ => !a.less b && !b.less a

namespace Value

/-- The number a value stands for; truth values count as 0 and 1. -/
def number? : Value → Option Exact
  | bool b => some (.finite (if b then 1 else 0) 0)
  | int n => some (.finite n 0)
  | float x => some (.ofFloat x)
  | _ => Option.none

/-- The items of a tuple. -/
def tupleItems? : Value → Option (List Value)
  | tuple items => some items
  | namedTuple _ fields => some (fields.map (·.2))
  | _ => Option.none

mutual

/-- Whether two values are equal. -/
def same (a b : Value) : Bool :=
  match a with
  | extended _ a => a.same b.plain
  | none => match b.plain with
    | none => true
    | _ => false
  | str s => match b.plain with
    | str t => s == t
    | _ => false
  | bytes s => match b.plain with
    | bytes t => s == t
    | _ => false
  | complex re im => match b.plain with
    | complex re' im' => re == re' && im == im'
    | _ => false
  | list xs => match b.plain with
    | list ys => sameItems xs ys
    | _ => false
  | tuple xs => match b.plain.tupleItems? with
    | some ys => sameItems xs ys
    | Option.none => false
  | namedTuple _ xs => match b.plain.tupleItems? with
    | some ys => sameFields xs ys
    | Option.none => false
  | set xs | frozenset xs => match b.plain with
    | set ys | frozenset ys => xs.length == ys.length && allWithin xs ys
    | _ => false
  | dict xs | orderedDict xs => match b.plain with
    | dict ys | orderedDict ys => xs.length == ys.length && entriesWithin xs ys
    | _ => false
  | ellipsis => match b with
    | ellipsis => true
    | _ => false
  | a => match a.number?, b.plain.number? with
    | some x, some y => x.equal y
    | _, _ => false

/-- Whether two lists are equal item by item. -/
def sameItems (xs ys : List Value) : Bool :=
  match xs, ys with
  | [], [] => true
  | x :: xs, y :: ys => x.same y && sameItems xs ys
  | _, _ => false

/-- Whether the values of fields equal the items of a list. -/
def sameFields (xs : List (String × Value)) (ys : List Value) : Bool :=
  match xs, ys with
  | [], [] => true
  | (_, x) :: xs, y :: ys => x.same y && sameFields xs ys
  | _, _ => false

/-- Whether every item of a list occurs in another. -/
def allWithin (xs ys : List Value) : Bool :=
  match xs with
  | [] => true
  | x :: xs => ys.any (x.same ·) && allWithin xs ys

/-- Whether every entry of a mapping occurs in another. -/
def entriesWithin (xs ys : List (Value × Value)) : Bool :=
  match xs with
  | [] => true
  | (k, v) :: xs => ys.any (fun e => k.same e.1 && v.same e.2) && entriesWithin xs ys

end

/-- Whether one list of numbers comes before another, item by item. -/
def lessBy {α : Type} (less : α → α → Bool) : List α → List α → Bool
  | _, [] => false
  | [], _ => true
  | x :: xs, y :: ys => if less x y then true else if less y x then false else lessBy less xs ys

mutual

/-- Whether one value is less than another; `none` if they have no order. -/
def less? (a b : Value) : Option Bool :=
  match a with
  | extended _ a => a.less? b.plain
  | str s => match b.plain with
    | str t => some (lessBy (fun c d => c.toNat < d.toNat) s.toList t.toList)
    | _ => Option.none
  | bytes s => match b.plain with
    | bytes t => some (lessBy (fun c d => c.toNat < d.toNat) s t)
    | _ => Option.none
  | list xs => match b.plain with
    | list ys => lessItems? xs ys
    | _ => Option.none
  | tuple xs => match b.plain.tupleItems? with
    | some ys => lessItems? xs ys
    | Option.none => Option.none
  | namedTuple _ xs => match b.plain.tupleItems? with
    | some ys => lessFields? xs ys
    | Option.none => Option.none
  | set xs | frozenset xs => match b.plain with
    | set ys | frozenset ys => some (xs.length < ys.length && allWithin xs ys)
    | _ => Option.none
  | a => match a.number?, b.plain.number? with
    | some x, some y => some (x.less y)
    | _, _ => Option.none

/-- The order of two sequences: that of the first items that differ, else that of
their lengths. -/
def lessItems? (xs ys : List Value) : Option Bool :=
  match xs, ys with
  | [], ys => some (!ys.isEmpty)
  | _ :: _, [] => some false
  | x :: xs, y :: ys => if x.same y then lessItems? xs ys else x.less? y

/-- The order of the values of fields and a sequence. -/
def lessFields? (xs : List (String × Value)) (ys : List Value) : Option Bool :=
  match xs, ys with
  | [], ys => some (!ys.isEmpty)
  | _ :: _, [] => some false
  | (_, x) :: xs, y :: ys => if x.same y then lessFields? xs ys else x.less? y

end

/-- The order in which the members of a set are shown: sorted, or as they are if
some have no order.  Each member carries something along. -/
def inSetOrder {α : Type} (members : List (Value × α)) : List (Value × α) :=
  (Sorting.sort? (fun a b => a.1.less? b.1) members).getD members

end Value

end ReplEngine
