/-!
The value of a 64-bit float as an exact binary fraction. A finite float other than zero is
`mantissa * 2 ^ exponent`, and the reals that round to it form an interval around that value.
-/

namespace IsisTestbed.Decimal

/-- A positive binary fraction `mantissa * 2 ^ exponent`. -/
structure Binary where
  mantissa : Nat
  exponent : Int
  deriving DecidableEq, Repr

/-- What a float stands for. -/
inductive Kind where
  | notANumber
  | infinite
  | zero
  | finite (value : Binary)
  deriving DecidableEq, Repr

/-- Whether the sign of a float is minus; zeros and infinities have a sign too. -/
def isNegative (x : Float) : Bool :=
  x.toBits.toNat / Nat.pow 2 63 == 1

/-- The magnitude of a float, read off its bits. -/
def kind (x : Float) : Kind :=
  let bits := x.toBits.toNat
  let biased : Nat := bits / Nat.pow 2 52 % Nat.pow 2 11
  let fraction : Nat := bits % Nat.pow 2 52
  if biased = 2047 then
    if fraction = 0 then .infinite else .notANumber
  else if biased = 0 then
    if fraction = 0 then .zero else .finite ⟨fraction, -1074⟩
  else
    .finite ⟨Nat.pow 2 52 + fraction, (biased : Int) - 1075⟩

/-- The quotient of two naturals rounded to the nearest natural, a half going to the even one. -/
def roundDiv (num den : Nat) : Nat :=
  let quotient := num / den
  let twice := 2 * (num % den)
  if twice < den then quotient
  else if den < twice then quotient + 1
  else if quotient % 2 = 0 then quotient else quotient + 1

/-- A power of a base as numerator and denominator, for exponents of either sign. -/
def powerRatio (base : Nat) : Int → Nat × Nat
  | .ofNat n => (Nat.pow base n, 1)
  | .negSucc n => (1, Nat.pow base (n + 1))

end IsisTestbed.Decimal
