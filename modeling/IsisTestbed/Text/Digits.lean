/-!
Numbers as text: positional digits in a base, written and read. Reading takes any number of digits
and leaves limits on the value to its callers.
-/

namespace IsisTestbed.Text

/-- The decimal digits of a number, most significant first. -/
def decimal (n : Nat) : List Char :=
  Nat.toDigits 10 n

/-- The hexadecimal digits of a number in lower case, most significant first. -/
def hex (n : Nat) : List Char :=
  Nat.toDigits 16 n

/-- The decimal text of a number. -/
def number (n : Nat) : String :=
  String.ofList (decimal n)

/-- Text filled up on the left to at least `width` characters. -/
def padLeft (width : Nat) (fill : Char) (cs : List Char) : List Char :=
  List.replicate (width - cs.length) fill ++ cs

/-- The hexadecimal text of a number, in at least `width` digits. -/
def hexPadded (width n : Nat) : String :=
  String.ofList (padLeft width '0' (hex n))

/-- The value of a digit in a base of at most sixteen, in either case. -/
def digit? (base : Nat) (c : Char) : Option Nat :=
  let value :=
    if '0' ≤ c ∧ c ≤ '9' then some (c.toNat - '0'.toNat)
    else if 'a' ≤ c ∧ c ≤ 'f' then some (c.toNat - 'a'.toNat + 10)
    else if 'A' ≤ c ∧ c ≤ 'F' then some (c.toNat - 'A'.toNat + 10)
    else none
  value.filter (· < base)

/-- Whether a character is a hexadecimal digit, in either case. -/
def isHexDigit (c : Char) : Bool :=
  (digit? 16 c).isSome

/-- The number that a sequence of digits denotes, when the digits before it denote `value`. -/
def digitsFrom? (base : Nat) (value : Nat) : List Char → Option Nat
  | [] => some value
  | c :: rest => do digitsFrom? base (value * base + (← digit? base c)) rest

/-- The number that a non-empty text of digits denotes. -/
def ofDigits? (base : Nat) : List Char → Option Nat
  | [] => none
  | cs => digitsFrom? base 0 cs

/-- A decimal number of at most `bound`, with an optional plus sign. -/
def boundedNumber? (bound : Nat) (cs : List Char) : Option Nat :=
  let digits := match cs with
    | '+' :: rest => rest
    | _ => cs
  (ofDigits? 10 digits).filter (· ≤ bound)

end IsisTestbed.Text
