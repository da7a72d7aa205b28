import IsisTestbed.Data.Tree
import IsisTestbed.Decimal.Reading
import IsisTestbed.Toml.Token

/-!
TOML numbers and dates. Their words may be followed by further tokens: a point with a fraction, a
plus sign inside an exponent, the colons of a time.
-/

namespace IsisTestbed.Toml

/-- How far the digits of an integer have been read. -/
structure DigitRun where
  /-- Whether nothing but a sign has been read. -/
  first : Bool := true
  /-- Whether the first digit is a zero. -/
  leadingZero : Bool := false
  /-- Whether the last character is an underscore. -/
  underscore : Bool := false
  deriving Repr, Inhabited

/-- The digits of an integer from one place on, and what follows them. Single underscores may stand
between digits, and unless `zeros` allows it a zero is not followed by digits. -/
def digitsFrom? (zeros : Bool) (base : Nat) (run : DigitRun) (digits : List Char) :
    List Char → Option (List Char × List Char)
  | [] => if run.first || run.underscore then none else some (digits.reverse, [])
  | c :: rest =>
    if c == '0' && run.first then
      digitsFrom? zeros base { first := false, leadingZero := true } (c :: digits) rest
    else if (Text.digit? base c).isSome then
      if !run.first && run.leadingZero && !zeros then none
      else
        digitsFrom? zeros base { run with first := false, underscore := false } (c :: digits) rest
    else if c == '_' && run.first then none
    else if c == '_' && !run.underscore then
      digitsFrom? zeros base { run with underscore := true } digits rest
    else if run.first || run.underscore then none
    else some (digits.reverse, c :: rest)

/-- An optional sign, the digits of an integer, and what follows them. -/
def signedDigits? (zeros : Bool) (cs : List Char) : Option (Bool × List Char × List Char) := do
  let (negative, cs) := Decimal.splitSign cs
  let (digits, rest) ← digitsFrom? zeros 10 {} [] cs
  some (negative, digits, rest)

/-- The value of an integer of 64 bits. -/
def integerValue? (negative : Bool) (magnitude : Nat) : Option Tree :=
  if negative then
    if magnitude ≤ Nat.pow 2 63 then
      some (.typed (if magnitude = 0 then .nat 0 else .negative magnitude))
    else none
  else if magnitude < Nat.pow 2 63 then some (.typed (.nat magnitude))
  else none

/-- An integer in a base with a mark of its own. -/
def basedInteger? (base : Nat) (cs : List Char) : Option Tree := do
  match ← digitsFrom? true base {} [] cs with
  | (digits, []) => integerValue? false (← Text.ofDigits? base digits)
  | _ => none

/-- An integer in decimal digits. -/
def decimalInteger? (cs : List Char) : Option Tree := do
  match ← signedDigits? false cs with
  | (negative, digits, []) => integerValue? negative (← Text.ofDigits? 10 digits)
  | _ => none

/-- The value of a float, which must not be infinite. -/
def floatValue? (negative : Bool) (whole fraction : List Char) (exponent : Int) : Option Tree := do
  let digits ← Text.ofDigits? 10 (whole ++ fraction)
  let x := (Decimal.Numeral.mk negative digits (exponent - fraction.length)).nearest
  if x.isFinite then some (.typed (.float x)) else none

/-- The exponent of a float, if a text behind its digits starts one, and the tokens behind it. -/
def exponent? (suffix : List Char) (ts : List Token) : Option (Int × List Token) :=
  let sized (negative : Bool) (digits : List Char) : Option Int :=
    (Text.ofDigits? 10 digits).map fun n => if negative then -(n : Int) else n
  match suffix with
  | [] => some (0, ts)
  | mark :: rest =>
    if mark == 'e' || mark == 'E' then
      match rest with
      | [] =>
        let ts := match ts with
          | .plus :: ts => ts
          | _ => ts
        match ts with
        | .word s :: ts => do
          match ← digitsFrom? true 10 {} [] s.toList with
          | (digits, []) => some (← sized false digits, ts)
          | _ => none
        | _ => none
      | _ => do
        match ← signedDigits? true rest with
        | (negative, digits, []) => some (← sized negative digits, ts)
        | _ => none
    else none

/-- A float whose word has no point. -/
def exponentFloat? (cs : List Char) (ts : List Token) : Option (Tree × List Token) := do
  let (negative, whole, suffix) ← signedDigits? false cs
  let (exponent, ts) ← exponent? suffix ts
  some (← floatValue? negative whole [] exponent, ts)

/-- A float, given the word before its point and the one behind. -/
def pointFloat? (cs after : List Char) (ts : List Token) : Option (Tree × List Token) := do
  match ← signedDigits? false cs with
  | (negative, whole, []) => do
    let (fraction, suffix) ← digitsFrom? true 10 {} [] after
    let (exponent, ts) ← exponent? suffix ts
    some (← floatValue? negative whole fraction exponent, ts)
  | _ => none

/-- The number that starts with a word, and the tokens behind it. -/
def number? (s : String) (ts : List Token) : Option (Tree × List Token) :=
  match s.toList with
  | '0' :: 'x' :: cs => (basedInteger? 16 cs).map (·, ts)
  | '0' :: 'o' :: cs => (basedInteger? 8 cs).map (·, ts)
  | '0' :: 'b' :: cs => (basedInteger? 2 cs).map (·, ts)
  | cs =>
    if cs.contains 'e' || cs.contains 'E' then exponentFloat? cs ts
    else match ts with
      | .period :: .word after :: ts => pointFloat? cs after.toList ts
      | .period :: _ => none
      | _ =>
        if s = "inf" then some (.typed (.float (1 / 0)), ts)
        else if s = "-inf" then some (.typed (.float (-(1 / 0))), ts)
        else if s = "nan" ∨ s = "-nan" then some (.typed (.float (0 / 0)), ts)
        else (decimalInteger? cs).map (·, ts)

/-! ### Dates -/

/-- A date or time as a value. Like a record without members, it is of no use where a text or a
number is wanted. -/
def dateValue : Tree :=
  .record []

/-- The tokens behind an offset or fraction that starts with a mark. -/
def skipMarked? (mark : Token) (ts : List Token) : Option (List Token) :=
  match ts with
  | t :: rest =>
    if t = mark then
      match rest with
      | .word _ :: rest => some rest
      | _ => none
    else some ts
  | [] => some []

/-- The tokens behind the minutes of a time and what follows them. -/
def skipTime? (ts : List Token) : Option (List Token) :=
  match ts with
  | .word _ :: .colon :: .word _ :: ts => do
    skipMarked? .colon (← skipMarked? .plus (← skipMarked? .period ts))
  | _ => none

/-- The tokens behind a date or time whose first word, and maybe the colon behind it, were taken. A
single space may stand between a date and a time. -/
def skipDate? (colonTaken : Bool) (ts : List Token) : Option (List Token) :=
  let ts := match ts with
    | .blank true :: .word _ :: rest => rest
    | _ => ts
  if colonTaken then skipTime? ts
  else match ts with
    | .colon :: rest => skipTime? rest
    | _ => some ts

/-- Whether a word holds the mark of an exponent with a minus sign. -/
def holdsExponent : List Char → Bool
  | c :: d :: rest => ((c == 'e' || c == 'E') && d == '-') || holdsExponent (d :: rest)
  | _ => false

/-- Whether a word starts a date. -/
def startsDate (cs : List Char) : Bool :=
  cs.contains 'T' || cs.contains 't' || (cs.tail.contains '-' && !holdsExponent cs)

/-- The number or date that starts with a word, and the tokens behind it. -/
def numberOrDate? (s : String) (ts : List Token) : Option (Tree × List Token) :=
  if startsDate s.toList then (skipDate? false ts).map (dateValue, ·)
  else match ts with
    | .colon :: ts => (skipDate? true ts).map (dateValue, ·)
    | _ => number? s ts

end IsisTestbed.Toml
