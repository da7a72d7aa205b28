import IsisTestbed.Decimal.Binary

/-!
The shortest decimal that reads back as a given float. Among the powers of ten the largest one is
taken of which some multiple rounds to the float; of the two multiples around the value the nearer
one is chosen, and a rule decides between two that are equally near.
-/

namespace IsisTestbed.Decimal

/-- A positive decimal `digits * 10 ^ exponent`. -/
structure Shortest where
  digits : Nat
  exponent : Int
  deriving DecidableEq, Repr

/-- Which one of two equally near multiples is chosen. -/
inductive Tie where
  | even
  | greater
  deriving DecidableEq, Repr

/-- The quotient of two naturals rounded to the nearest natural. -/
def Tie.roundDiv (tie : Tie) (num den : Nat) : Nat :=
  match tie with
  | .even => Decimal.roundDiv num den
  | .greater => (2 * num + den) / (2 * den)

/-- The half-gaps below and above a float, in quarters of a unit of its last place. Below a power
of two the floats lie twice as dense, save at the least exponent. -/
def halfGaps (b : Binary) : Nat × Nat :=
  (if b.mantissa = Nat.pow 2 52 ∧ b.exponent ≠ -1074 then 1 else 2, 2)

/-- Whether `n * 10 ^ k` rounds to the float `b`. The ends of the interval belong to it exactly if
the mantissa is even. -/
def roundsTo (b : Binary) (k : Int) (n : Nat) : Bool :=
  let (below, above) := halfGaps b
  let (tenNum, tenDen) := powerRatio 10 k
  let (twoNum, twoDen) := powerRatio 2 (b.exponent - 2)
  let point := n * tenNum * twoDen
  let low := (4 * b.mantissa - below) * twoNum * tenDen
  let high := (4 * b.mantissa + above) * twoNum * tenDen
  if b.mantissa % 2 = 0 then low ≤ point ∧ point ≤ high else low < point ∧ point < high

/-- The multiple of `10 ^ k` that is nearest to the float among those that round to it. -/
def onGrid? (tie : Tie) (b : Binary) (k : Int) : Option Shortest :=
  let (tenNum, tenDen) := powerRatio 10 k
  let (twoNum, twoDen) := powerRatio 2 b.exponent
  let num := b.mantissa * twoNum * tenDen
  let den := twoDen * tenNum
  let nearest := tie.roundDiv num den
  let floor := num / den
  let candidates := [nearest, floor, floor + 1].filter fun n => 0 < n && roundsTo b k n
  candidates.head?.map fun n => ⟨n, k⟩

/-- The first grid with a hit, from `10 ^ (k + fuel)` down to `10 ^ k`. -/
def searchGrid (tie : Tie) (b : Binary) (k : Int) : Nat → Option Shortest
  | 0 => onGrid? tie b k
  | fuel + 1 => (onGrid? tie b (k + (fuel + 1))).orElse fun _ => searchGrid tie b k fuel

/-- The shortest decimal of a positive float. No float needs digits below `10 ^ -345`, and none
reaches `10 ^ 310`. -/
def shortest (tie : Tie) (b : Binary) : Shortest :=
  (searchGrid tie b (-345) 655).getD ⟨b.mantissa, 0⟩

end IsisTestbed.Decimal
