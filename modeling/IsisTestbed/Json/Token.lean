import IsisTestbed.Decimal.Reading
import IsisTestbed.Data.Tree

/-!
The tokens of JSON text. Strings and numbers become the scalars that they denote; a string with an
unpaired surrogate and a number beyond all floats are tokens still, but of no use as values.
-/

namespace IsisTestbed.Json

/-- A token. -/
inductive Token where
  | openBrace
  | closeBrace
  | openBracket
  | closeBracket
  | colon
  | comma
  | string (value : Tree)
  /-- A number or one of the three names. -/
  | word (value : Tree)
  deriving Inhabited, Repr

/-! ### Strings -/

/-- The number that four hexadecimal digits denote. -/
def fourDigits? (a b c d : Char) : Option Nat :=
  Text.ofDigits? 16 [a, b, c, d]

/-- The character of a one-letter escape. -/
def simpleEscape? : Char → Option Char
  | '\x22' => some '\x22'
  | '\\' => some '\\'
  | '/' => some '/'
  | 'b' => some '\x08'
  | 'f' => some '\x0c'
  | 'n' => some '\n'
  | 'r' => some '\r'
  | 't' => some '\t'
  | _ => none

/-- A piece of the inside of a string: a code unit from a numeric escape, or a character. -/
inductive Piece where
  | char (c : Char)
  | unit (n : Nat)
  deriving DecidableEq, Repr

/-- The pieces of the inside of a string. Control characters must be escaped. -/
def pieces? : List Char → Option (List Piece)
  | [] => some []
  | '\\' :: 'u' :: a :: b :: c :: d :: rest => do
    some (.unit (← fourDigits? a b c d) :: (← pieces? rest))
  | '\\' :: c :: rest => do some (.char (← simpleEscape? c) :: (← pieces? rest))
  | ['\\'] => none
  | c :: rest => if c.toNat < 0x20 then none else (pieces? rest).map (.char c :: ·)

/-- Whether a code unit is the first half of a pair. -/
def isHigh (n : Nat) : Bool := 0xD800 ≤ n && n < 0xDC00

/-- Whether a code unit is the second half of a pair. -/
def isLow (n : Nat) : Bool := 0xDC00 ≤ n && n < 0xE000

/-- The characters of the pieces. A pair of halves makes one character, and a half alone none. -/
def joinPieces? : List Piece → Option (List Char)
  | [] => some []
  | .char c :: rest => (joinPieces? rest).map (c :: ·)
  | .unit high :: .unit low :: rest =>
    if isHigh high then
      if isLow low then
        (joinPieces? rest).map
          (Char.ofNat (0x10000 + (high - 0xD800) * 0x400 + (low - 0xDC00)) :: ·)
      else none
    else if isLow high then none
    else (joinPieces? (.unit low :: rest)).map (Char.ofNat high :: ·)
  | .unit n :: rest =>
    if isHigh n || isLow n then none else (joinPieces? rest).map (Char.ofNat n :: ·)

/-- The value of a string, given what stands between its quotes. -/
def stringValue? (inside : List Char) : Option Tree :=
  (pieces? inside).map fun pieces =>
    match joinPieces? pieces with
    | some cs => .typed (.text (String.ofList cs))
    | none => .unreadable

/-! ### Numbers -/

/-- The parts of a number. -/
structure NumberText where
  negative : Bool
  whole : List Char
  fraction : Option (List Char)
  /-- Whether the exponent is negative, and its digits. -/
  exponent : Option (Bool × List Char)
  deriving DecidableEq, Repr

/-- An exponent mark with its optional sign and its digits, or nothing. -/
def exponentText? : List Char → Option (Option (Bool × List Char))
  | [] => some none
  | mark :: rest =>
    if mark = 'e' ∨ mark = 'E' then
      let (negative, digits) := Decimal.splitSign rest
      if digits.isEmpty || !digits.all Char.isDigit then none else some (some (negative, digits))
    else none

/-- A text split into the parts of a number. The whole part has no leading zeros. -/
def numberText? (cs : List Char) : Option NumberText := do
  let (negative, rest) := match cs with
    | '-' :: rest => (true, rest)
    | _ => (false, cs)
  let (whole, rest) := Decimal.takeDigits rest
  if whole.isEmpty || (whole.head? == some '0' && 1 < whole.length) then none
  match rest with
  | '.' :: tail =>
    let (fraction, rest) := Decimal.takeDigits tail
    if fraction.isEmpty then none
    some ⟨negative, whole, some fraction, ← exponentText? rest⟩
  | _ => some ⟨negative, whole, none, ← exponentText? rest⟩

/-- The value of a decimal digit. -/
def digitValue (c : Char) : Nat := c.toNat - '0'.toNat

/-- A significand of at most 64 bits extended by digits as long as it stays so, and the number of
digits that were left over. -/
def extend (significand : Nat) : List Char → Nat × Nat
  | [] => (significand, 0)
  | c :: rest =>
    let next := significand * 10 + digitValue c
    if next < UInt64.size then extend next rest else (significand, rest.length + 1)

/-- A float scaled by a power of ten in steps of at most `10 ^ 308`, each rounded; `none` if it
grows too large. -/
def scale (x : Float) (exponent : Int) : Nat → Option Float
  | 0 => some 0
  | steps + 1 =>
    if exponent.natAbs ≤ 308 then
      if 0 ≤ exponent then
        let y := x * Float.ofScientific 1 false exponent.natAbs
        if y.isInf then none else some y
      else some (x / Float.ofScientific 1 false exponent.natAbs)
    else if x == 0 then some x
    else if 0 ≤ exponent then none
    else scale (x / Float.ofScientific 1 false 308) (exponent + 308) steps

/-- The greatest exponent that is taken at its value; beyond it numbers vanish or are too large. -/
def exponentLimit : Nat := Nat.pow 2 31 - 1

/-- The float of a number that is no integer of 64 bits. -/
def NumberText.float? (n : NumberText) : Option Float := do
  let (wholePart, leftOver) := extend 0 n.whole
  let fraction := n.fraction.getD []
  let (significand, dropped) := extend wholePart fraction
  let places : Int := leftOver - (fraction.length - dropped : Nat)
  let sized (x : Float) : Float := if n.negative then -x else x
  let (negative, digits) := n.exponent.getD (false, [])
  let given := (Text.digitsFrom? 10 0 digits).getD 0
  if exponentLimit < given then
    if significand = 0 || negative then some (sized 0) else none
  else
    let shift : Int := if negative then -(given : Int) else given
    let exponent := max (-((Nat.pow 2 31 : Nat) : Int)) (min exponentLimit (places + shift))
    (scale (Float.ofNat significand) exponent 32).map sized

/-- The value of a number. Whole numbers of 64 bits are integers; zero with a minus is a float. -/
def NumberText.value (n : NumberText) : Tree :=
  let float := match n.float? with
    | some x => .typed (.float x)
    | none => .unreadable
  if n.fraction.isSome || n.exponent.isSome then float
  else
    let magnitude := (Text.digitsFrom? 10 0 n.whole).getD 0
    if n.negative then
      if 0 < magnitude && magnitude ≤ Nat.pow 2 63 then .typed (.negative magnitude) else float
    else if magnitude < UInt64.size then .typed (.nat magnitude)
    else float

/-! ### Text to tokens -/

/-- The value of a bare word: a number, or one of the three names. -/
def wordValue? (cs : List Char) : Option Tree :=
  if cs = "null".toList then some (.typed .null)
  else if cs = "true".toList then some (.typed (.bool true))
  else if cs = "false".toList then some (.typed (.bool false))
  else (numberText? cs).map NumberText.value

/-- The token of a single character. -/
def mark? : Char → Option Token
  | '\x7b' => some .openBrace
  | '\x7d' => some .closeBrace
  | '[' => some .openBracket
  | ']' => some .closeBracket
  | ':' => some .colon
  | ',' => some .comma
  | _ => none

/-- The characters that may stand between tokens. -/
def isBlank (c : Char) : Bool :=
  c == ' ' || c == '\t' || c == '\n' || c == '\r'

/-- Where the reading of a text stands; characters read so far come in reverse. -/
inductive Mode where
  | between
  | word (read : List Char)
  | string (read : List Char)
  /-- Inside a string, behind a backslash. -/
  | escape (read : List Char)
  deriving DecidableEq, Repr

/-- The tokens so far, in reverse, with the word that ends here. -/
def endWord? (tokens : List Token) (read : List Char) : Option (List Token) :=
  (wordValue? read.reverse).map fun v => .word v :: tokens

/-- Reads one character that is not part of a token before it. -/
def start (tokens : List Token) (c : Char) : List Token × Mode :=
  match mark? c with
  | some token => (token :: tokens, .between)
  | none =>
    if isBlank c then (tokens, .between)
    else if c == '\x22' then (tokens, .string [])
    else (tokens, .word [c])

/-- The tokens of a text in order, continuing from the given ones (in reverse) and mode. -/
def tokensFrom? (tokens : List Token) : Mode → List Char → Option (List Token)
  | .between, [] => some tokens.reverse
  | .word read, [] => (endWord? tokens read).map List.reverse
  | .string _, [] => none
  | .escape _, [] => none
  | .between, c :: rest =>
    let (tokens, mode) := start tokens c
    tokensFrom? tokens mode rest
  | .word read, c :: rest =>
    if isBlank c || (mark? c).isSome || c == '\x22' then
      match endWord? tokens read with
      | none => none
      | some tokens =>
        let (tokens, mode) := start tokens c
        tokensFrom? tokens mode rest
    else tokensFrom? tokens (.word (c :: read)) rest
  | .string read, c :: rest =>
    if c == '\x22' then
      match stringValue? read.reverse with
      | none => none
      | some v => tokensFrom? (.string v :: tokens) .between rest
    else if c == '\\' then tokensFrom? tokens (.escape (c :: read)) rest
    else tokensFrom? tokens (.string (c :: read)) rest
  | .escape read, c :: rest => tokensFrom? tokens (.string (c :: read)) rest

/-- The tokens of a text. -/
def tokens? (cs : List Char) : Option (List Token) :=
  tokensFrom? [] .between cs

end IsisTestbed.Json
