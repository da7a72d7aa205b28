import IsisTestbed.Decimal.Shortest
import IsisTestbed.Text.Digits

/-!
The text of a float. The shortest decimal is laid out in full, or with an exponent once the point
would lie far outside its digits; alternatively a fixed number of places is kept.
-/

namespace IsisTestbed.Decimal

/-- How a format spells its floats. -/
structure Style where
  tie : Tie
  /-- Whether numbers far from one are written with an exponent. -/
  exponents : Bool
  /-- Whether a positive exponent has a plus sign. -/
  plusSign : Bool
  /-- Whether whole numbers end in a point and a zero. -/
  pointZero : Bool
  notANumber : String
  infinity : String
  minusInfinity : String

/-- Digits with a point after the first `places` of them; zeros fill the gap where the point lies
outside. -/
def positional (pointZero : Bool) (digits : List Char) (places : Int) : List Char :=
  if places ≤ 0 then
    "0.".toList ++ List.replicate (-places).toNat '0' ++ digits
  else
    let n := places.toNat
    if digits.length ≤ n then
      digits ++ List.replicate (n - digits.length) '0' ++ (if pointZero then ".0".toList else [])
    else
      digits.take n ++ '.' :: digits.drop n

/-- One digit before the point, the others behind it, and the exponent. -/
def scientific (plusSign : Bool) (digits : List Char) (exponent : Int) : List Char :=
  let lead := match digits with
    | [] => []
    | [d] => [d]
    | d :: rest => d :: '.' :: rest
  let sign := if exponent < 0 then ['-'] else if plusSign then ['+'] else []
  lead ++ 'e' :: sign ++ Text.decimal exponent.natAbs

/-- The text of a positive decimal. Where exponents are used, they appear from `10 ^ 16` on and
below `10 ^ -5`. -/
def layOut (style : Style) (s : Shortest) : List Char :=
  let digits := Text.decimal s.digits
  let places := (digits.length : Int) + s.exponent
  if style.exponents && (16 < places || places < -4) then
    scientific style.plusSign digits (places - 1)
  else
    positional style.pointZero digits places

/-- The text of a float, as short as reading it back allows. -/
def text (style : Style) (x : Float) : List Char :=
  let sign := if isNegative x then ['-'] else []
  match kind x with
  | .notANumber => style.notANumber.toList
  | .infinite => (if isNegative x then style.minusInfinity else style.infinity).toList
  | .zero => sign ++ (if style.pointZero then "0.0".toList else ['0'])
  | .finite b => sign ++ layOut style (shortest style.tie b)

/-- Floats in messages: written out in full, whole numbers without a point. -/
def plainStyle : Style where
  tie := .greater
  exponents := false
  plusSign := false
  pointZero := false
  notANumber := "NaN"
  infinity := "inf"
  minusInfinity := "-inf"

/-- The magnitude of a float in units of `10 ^ -places`, a half going to the even neighbour. -/
def scaled (places : Nat) (b : Binary) : Nat :=
  let (num, den) := powerRatio 2 b.exponent
  roundDiv (b.mantissa * num * Nat.pow 10 places) den

/-- The text of a float with a fixed number of places, rounded from its exact value. -/
def fixed (places : Nat) (x : Float) : List Char :=
  let sign := if isNegative x then ['-'] else []
  let units (n : Nat) : List Char :=
    let digits := Text.padLeft (places + 1) '0' (Text.decimal n)
    let whole := digits.length - places
    digits.take whole ++ (if places = 0 then [] else '.' :: digits.drop whole)
  match kind x with
  | .notANumber => plainStyle.notANumber.toList
  | .infinite => sign ++ plainStyle.infinity.toList
  | .zero => sign ++ units 0
  | .finite b => sign ++ units (scaled places b)

end IsisTestbed.Decimal
