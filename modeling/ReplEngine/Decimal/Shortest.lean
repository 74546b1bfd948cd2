/-!
# Shortest decimal digits

A finite binary floating point number is `m · 2^q`.  `shortest` finds the
decimal number with the fewest digits that still reads back as that number, and
of several such the one nearest to it.  All comparisons are exact: the number
and the two ends of the interval of reals that round to it are kept as integers
over one common denominator.
-/

namespace ReplEngine.Decimal

/-- A power of two. -/
def binaryPower (n : Nat) : Nat := Nat.pow 2 n

/-- A power of ten. -/
def decimalPower (n : Nat) : Nat := Nat.pow 10 n

/-- A decimal number `digits · 10 ^ exponent`. -/
structure Scaled where
  digits : Nat
  exponent : Int
deriving Repr, DecidableEq

/-- Drops trailing zeros of the digits, at most `fuel` of them. -/
def Scaled.stripZeros (fuel : Nat) (d : Scaled) : Scaled :=
  match fuel with
  | 0 => d
  | fuel + 1 =>
    if d.digits != 0 && d.digits % 10 == 0 then
      Scaled.stripZeros fuel ⟨d.digits / 10, d.exponent + 1⟩
    else d

/-- The interval of reals that round to a number, with the number itself, as
numerators over the common denominator `den`. -/
structure Interval where
  low : Nat
  value : Nat
  high : Nat
  den : Nat
  /-- Whether the ends themselves round to the number. -/
  closed : Bool

/-- The rounding interval of `m · 2^q`.  Below a power of two the neighbour is
half as far away, which `atBinade` says. -/
def Interval.ofBinary (m : Nat) (q : Int) (atBinade : Bool) : Interval :=
  let unit := q - 2
  let up := binaryPower unit.toNat
  { low := (4 * m - if atBinade then 1 else 2) * up
    value := 4 * m * up
    high := (4 * m + 2) * up
    den := binaryPower (-unit).toNat
    closed := m % 2 == 0 }

/-- Whether the point `p · 10^g` lies in the interval. -/
def Interval.holds (i : Interval) (p : Nat) (g : Int) : Bool :=
  let point := p * decimalPower g.toNat * i.den
  let scale := decimalPower (-g).toNat
  let low := i.low * scale
  let high := i.high * scale
  if i.closed then low ≤ point && point ≤ high else low < point && point < high

/-- The greatest point of the grid `10^g` that is not above the value. -/
def Interval.below (i : Interval) (g : Int) : Nat :=
  i.value * decimalPower (-g).toNat / (decimalPower g.toNat * i.den)

/-- Of the neighbours `p · 10^g` and `(p + 1) · 10^g` of the value, whether the
upper one is nearer; in the middle the even one wins. -/
def Interval.upperIsNearer (i : Interval) (p : Nat) (g : Int) : Bool :=
  let twice := 2 * i.value * decimalPower (-g).toNat
  let middle := (2 * p + 1) * decimalPower g.toNat * i.den
  middle < twice || (middle == twice && p % 2 == 1)

/-- The number of zeros between the point and the first digit of `num / den`,
for `num < den`; at most `fuel`. -/
def leadingZeros (fuel num den : Nat) : Nat :=
  match fuel with
  | 0 => 0
  | fuel + 1 => if den ≤ num * 10 then 0 else leadingZeros fuel (num * 10) den + 1

/-- The number of decimal digits before the point of `num / den`; negative or
zero when zeros follow the point. -/
def magnitude (num den : Nat) : Int :=
  if den ≤ num then (Nat.toDigits 10 (num / den)).length
  else -(leadingZeros 400 num den : Int)

/-- Tries grids of `17 - fuel` digits and more; the first grid with a point in
the interval gives the answer. -/
def Interval.search (i : Interval) (size : Int) : Nat → Scaled
  | 0 => ⟨i.below (size - 17), size - 17⟩
  | fuel + 1 =>
    let g := size - (17 - fuel : Int)
    let p := i.below g
    let lowerHit := i.holds p g && p != 0
    let upperHit := i.holds (p + 1) g
    if lowerHit && upperHit then
      if i.upperIsNearer p g then ⟨p + 1, g⟩ else ⟨p, g⟩
    else if lowerHit then ⟨p, g⟩
    else if upperHit then ⟨p + 1, g⟩
    else i.search size fuel

/-- The shortest decimal that reads back as `m · 2^q`, for `0 < m`. -/
def shortest (m : Nat) (q : Int) (atBinade : Bool) : Scaled :=
  let i := Interval.ofBinary m q atBinade
  (i.search (magnitude i.value i.den) 17).stripZeros 20

end ReplEngine.Decimal
