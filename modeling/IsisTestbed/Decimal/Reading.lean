import IsisTestbed.Text.Digits

/-!
Decimal text read as a float. A `Numeral` is the exact value of the digits; `Numeral.nearest` is
the float nearest to it.
-/

namespace IsisTestbed.Decimal

/-- An exact decimal `digits * 10 ^ exponent` with a sign. -/
structure Numeral where
  negative : Bool
  digits : Nat
  exponent : Int
  deriving DecidableEq, Repr

/-- The float nearest to a numeral. Numerals of at least `10 ^ 310` are infinite, and those below
`10 ^ -400` vanish. -/
def Numeral.nearest (n : Numeral) : Float :=
  let size : Int := (Text.decimal n.digits).length + n.exponent
  let magnitude : Float :=
    if n.digits = 0 ∨ size < -400 then 0
    else if 310 < size then 1 / 0
    else Float.ofScientific n.digits (n.exponent < 0) n.exponent.natAbs
  if n.negative then -magnitude else magnitude

/-- Splits a text at the first character that is no decimal digit. -/
def takeDigits (cs : List Char) : List Char × List Char :=
  (cs.takeWhile Char.isDigit, cs.dropWhile Char.isDigit)

/-- The part of a text behind its exponent mark: an optional sign and at least one digit. -/
def exponent? (cs : List Char) : Option Int :=
  match cs with
  | '-' :: rest => (Text.ofDigits? 10 rest).map fun n => -(n : Int)
  | '+' :: rest => (Text.ofDigits? 10 rest).map (·)
  | _ => (Text.ofDigits? 10 cs).map (·)

/-- Unsigned decimal text: digits with at most one point among them, at least one digit, and an
optional exponent. -/
def unsigned? (cs : List Char) : Option (Nat × Int) := do
  let (whole, rest) := takeDigits cs
  let (fraction, rest) := match rest with
    | '.' :: tail => takeDigits tail
    | _ => ([], rest)
  let digits ← Text.ofDigits? 10 (whole ++ fraction)
  let exponent ← match rest with
    | [] => some 0
    | 'e' :: tail => exponent? tail
    | 'E' :: tail => exponent? tail
    | _ => none
  some (digits, exponent - fraction.length)

/-- A text without its sign, and whether that was a minus. -/
def splitSign : List Char → Bool × List Char
  | '-' :: rest => (true, rest)
  | '+' :: rest => (false, rest)
  | cs => (false, cs)

/-- Decimal text with an optional sign. -/
def Numeral.ofText? (cs : List Char) : Option Numeral := do
  let (negative, rest) := splitSign cs
  let (digits, exponent) ← unsigned? rest
  some ⟨negative, digits, exponent⟩

/-- The float that a text denotes: a decimal, or in any case of letters the name of infinity or of
the value that is no number. -/
def float? (cs : List Char) : Option Float :=
  let (negative, rest) := splitSign cs
  let name := String.ofList (rest.map Char.toLower)
  if name = "inf" ∨ name = "infinity" then some (if negative then -(1 / 0) else 1 / 0)
  else if name = "nan" then some (if negative then -(0 / 0) else 0 / 0)
  else (Numeral.ofText? cs).map Numeral.nearest

end IsisTestbed.Decimal
