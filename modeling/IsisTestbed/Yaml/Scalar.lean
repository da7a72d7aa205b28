import IsisTestbed.Data.Tree
import IsisTestbed.Decimal.Reading
import IsisTestbed.Yaml.Tag

/-!
What YAML scalars read as: null, a truth value, an integer, a float, or else text. It is the text
that tells for bare scalars, and a tag may tell otherwise.
-/

namespace IsisTestbed.Yaml

/-- Whether a text is one of the words for null. -/
def isNull (s : String) : Bool :=
  ["null", "Null", "NULL", "~"].contains s

/-- The truth value that a text names. -/
def bool? (s : String) : Option Bool :=
  if ["true", "True", "TRUE"].contains s then some true
  else if ["false", "False", "FALSE"].contains s then some false
  else none

/-- A text without one sign at its front. -/
def dropSign : List Char → List Char
  | '-' :: rest => rest
  | '+' :: rest => rest
  | cs => cs

/-- Whether a text is a row of digits that is no number, because the first of several is a zero. -/
def isZeroPadded (cs : List Char) : Bool :=
  match dropSign cs with
  | '0' :: rest => !rest.isEmpty && rest.all Char.isDigit
  | _ => false

/-- The magnitude of an integer without a sign: digits behind the mark of a base, or decimal
digits. -/
def magnitude? : List Char → Option Nat
  | '0' :: 'x' :: rest => Text.ofDigits? 16 rest
  | '0' :: 'o' :: rest => Text.ofDigits? 8 rest
  | '0' :: 'b' :: rest => Text.ofDigits? 2 rest
  | cs => if isZeroPadded cs then none else Text.ofDigits? 10 cs

/-- The integer that a text denotes, of at most 128 bits. -/
def integer? (cs : List Char) : Option Scalar :=
  match cs with
  | '-' :: rest => do
    let n ← magnitude? rest
    if n ≤ Nat.pow 2 63 then some (.negative n)
    else if n ≤ Nat.pow 2 127 then some .unusable
    else none
  | _ => do
    let n ← magnitude? (match cs with
      | '+' :: rest => rest
      | _ => cs)
    if n < Nat.pow 2 64 then some (.nat n)
    else if n < Nat.pow 2 128 then some .unusable
    else none

/-- The float that a text denotes. Infinities and the value that is no number have names of their
own. -/
def float? (s : String) : Option Float :=
  if [".inf", ".Inf", ".INF", "+.inf", "+.Inf", "+.INF"].contains s then some (1 / 0)
  else if ["-.inf", "-.Inf", "-.INF"].contains s then some (-(1 / 0))
  else if [".nan", ".NaN", ".NAN"].contains s then some (Float.ofBits 0x7ff8000000000000)
  else ((Decimal.Numeral.ofText? s.toList).map Decimal.Numeral.nearest).filter Float.isFinite

/-- What a bare text reads as. -/
def resolve (s : String) : Scalar :=
  let cs := s.toList
  if cs.isEmpty || isNull s then .null
  else match bool? s with
    | some b => .bool b
    | none =>
      match integer? cs with
      | some v => v
      | none =>
        if isZeroPadded cs then .text s
        else match float? s with
          | some x => .float x
          | none => .text s

/-! ### Scalars with tags -/

/-- What a text with a tag is kept as, given whether it is bare: a standard tag must fit it, and
tags of other kinds make it text. A tag without a name leaves a bare text as it is. -/
def keptAs (tag : Tag) (bare : Bool) (s : String) : Option Scalar :=
  match tag with
  | .null => if isNull s then some .null else none
  | .bool => (bool? s).map .bool
  | .int => (integer? s.toList).bind Scalar.usable?
  | .float => (float? s).map .float
  | .unnamed => if bare then (resolve s).usable? else some (.text s)
  | _ => some (.text s)

/-- What a bare text with a tag reads as. Only the tag of null makes it null. -/
def taggedPlain (tag : Tag) (s : String) : Scalar :=
  match resolve s with
  | .null => if tag = .null && !s.isEmpty then .null else .text s
  | v => v

/-- What a text in a literal block with a tag reads as. -/
def taggedLiteral (tag : Tag) (s : String) : Scalar :=
  match tag with
  | .bool => ((bool? s).map Scalar.bool).getD (.text s)
  | .int => (integer? s.toList).getD (.text s)
  | _ => .text s

end IsisTestbed.Yaml
