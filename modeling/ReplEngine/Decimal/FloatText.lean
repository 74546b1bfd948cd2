import ReplEngine.Decimal.Shortest

/-!
# Text of floating point numbers

Writes a number with the fewest digits that read back.  Numbers from `1e-4` up
to, but not including, `1e16` are written positionally, all others with an
exponent of at least two digits and a sign.
-/

namespace ReplEngine.Decimal

/-- The class of a floating point number, decoded from its bits. -/
inductive Decoded where
  | nan
  | infinite (negative : Bool)
  | zero (negative : Bool)
  | finite (negative : Bool) (m : Nat) (q : Int) (atBinade : Bool)

/-- Decodes sign, exponent and fraction. -/
def Decoded.ofFloat (x : Float) : Decoded :=
  let bits := x.toBits.toNat
  let negative := bits / binaryPower 63 == 1
  let exponent : Nat := bits / binaryPower 52 % 2048
  let fraction : Nat := bits % binaryPower 52
  if exponent == 2047 then
    if fraction == 0 then .infinite negative else .nan
  else if exponent == 0 then
    if fraction == 0 then .zero negative else .finite negative fraction (-1074) false
  else
    .finite negative (binaryPower 52 + fraction) ((exponent : Int) - 1075)
      (fraction == 0 && exponent != 1)

/-- A run of zeros. -/
def zeros (n : Nat) : List Char :=
  List.replicate n '0'

/-- Writes a positive decimal.  `wholePoint` says whether a number without a
fraction keeps `.0`. -/
def Scaled.text (d : Scaled) (wholePoint : Bool) : String :=
  let digits := Nat.toDigits 10 d.digits
  let size : Int := digits.length + d.exponent
  let positional : List Char :=
    if size ≤ 0 then '0' :: '.' :: zeros (-size).toNat ++ digits
    else if digits.length ≤ size.toNat then
      digits ++ zeros (size.toNat - digits.length) ++ (if wholePoint then ['.', '0'] else [])
    else digits.take size.toNat ++ '.' :: digits.drop size.toNat
  let scientific : List Char :=
    let e := size - 1
    let power := Nat.toDigits 10 e.natAbs
    let fraction := match digits.drop 1 with
      | [] => []
      | rest => '.' :: rest
    digits.take 1 ++ fraction ++ 'e' :: (if e < 0 then '-' else '+')
      :: zeros (2 - power.length) ++ power
  String.ofList (if -4 < size && size ≤ 16 then positional else scientific)

/-- The text of a floating point number. -/
def floatText (x : Float) (wholePoint : Bool) : String :=
  let signed (negative : Bool) (s : String) : String := if negative then "-" ++ s else s
  match Decoded.ofFloat x with
  | .nan => "nan"
  | .infinite negative => signed negative "inf"
  | .zero negative => signed negative (if wholePoint then "0.0" else "0")
  | .finite negative m q atBinade =>
    signed negative ((shortest m q atBinade).text wholePoint)

/-- The text of a floating point number, with `.0` after a whole number. -/
def ofFloat (x : Float) : String :=
  floatText x true

/-- The number nearest to `mantissa · 10^exponent`.  Exponents far outside the
range of a double are answered without computing the power. -/
def toFloat (negative : Bool) (mantissa : Nat) (exponent : Int) : Float :=
  let size : Int := (Nat.toDigits 10 mantissa).length + exponent
  let magnitude : Float :=
    if mantissa == 0 || size < -400 then 0.0
    else if 400 < size then 1.0 / 0.0
    else if exponent < 0 then Float.ofScientific mantissa true exponent.natAbs
    else Float.ofScientific mantissa false exponent.natAbs
  if negative then -magnitude else magnitude

end ReplEngine.Decimal
