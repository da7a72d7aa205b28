import IsisTestbed.Data.Value
import IsisTestbed.Decimal.Layout
import IsisTestbed.Yaml.Char
import IsisTestbed.Yaml.Scalar

/-!
YAML text of values, in block style. Text is written bare if it then reads as the same text, in a
literal block if it has several lines, and in quotes otherwise. Lines are never folded.
-/

namespace IsisTestbed.Yaml

/-- Floats keep a point or an exponent; those that are no number have names. -/
def floatStyle : Decimal.Style where
  tie := .even
  exponents := true
  plusSign := false
  pointZero := true
  notANumber := ".nan"
  infinity := ".inf"
  minusInfinity := "-.inf"

/-! ### The form of a text -/

/-- Whether a character is written as it is outside of double quotes. -/
def isPrintable (c : Char) : Bool :=
  let n := c.toNat
  n == 0x0A || (0x20 ≤ n && n ≤ 0x7E) || (0xA0 ≤ n && n ≤ 0xD7FF) ||
    (0xE000 ≤ n && n ≤ 0xFFFD && n != 0xFEFF) || 0x10000 ≤ n

/-- Whether bare text cannot start with a character. -/
def isOpeningMark (c : Char) : Bool :=
  ['#', ',', '[', ']', '\x7b', '\x7d', '&', '*', '!', '|', '>', '\x27', '\x22', '%', '@',
    '\x60'].contains c

/-- Whether the first character of a text makes it a mark, given what follows it. -/
def marksAtStart (c : Char) (rest : List Char) : Bool :=
  isOpeningMark c || ((c == '?' || c == ':' || c == '-') && atSpace rest)

/-- Whether a colon before a separator, or a number sign behind one, occurs in a text that follows
the character `before`. -/
def marksInside (before : Char) : List Char → Bool
  | [] => false
  | c :: rest =>
    (c == ':' && atSpace rest) || (c == '#' && isSpace before) || marksInside c rest

/-- Whether a text contains what bare text must not. -/
def hasMarks : List Char → Bool
  | [] => false
  | c :: rest =>
    ["---".toList, "...".toList].any (· == (c :: rest).take 3) || marksAtStart c rest ||
      marksInside c rest

/-- Whether a character of one class follows directly on one of another. -/
def hasPair (first second : Char → Bool) : List Char → Bool
  | c :: d :: rest => (first c && second d) || hasPair first second (d :: rest)
  | _ => false

/-- Whether a character is a space. -/
def isSpaceChar (c : Char) : Bool :=
  c == ' '

/-- The forms of a text. -/
inductive Form where
  | plain
  | single
  | double
  | literal
  deriving DecidableEq, Repr, Inhabited

/-- Whether a text needs escapes: it has characters that are not printable, or a space before a line
end. -/
def needsEscapes (cs : List Char) : Bool :=
  !cs.all isPrintable || hasPair isSpaceChar isBreak cs

/-- Whether a text can be bare, apart from what it reads as. -/
def allowsPlain (cs : List Char) : Bool :=
  !needsEscapes cs && !hasMarks cs && !cs.any isBreak &&
    !(cs.head?.any isSpaceChar) && !(cs.getLast?.any isSpaceChar)

/-- Whether a text can be in single quotes. -/
def allowsSingle (cs : List Char) : Bool :=
  !needsEscapes cs && !hasPair isBreak isSpaceChar cs

/-- Whether a text can be a literal block. -/
def allowsLiteral (cs : List Char) : Bool :=
  !needsEscapes cs && !(cs.getLast?.any isSpaceChar)

/-- Whether bare text reads as text. -/
def readsAsText (s : String) : Bool :=
  match resolve s with
  | .text _ => !isZeroPadded s.toList
  | _ => false

/-- The form in which a text is written. -/
def formOf (s : String) : Form :=
  let cs := s.toList
  if cs.contains '\n' then if allowsLiteral cs then .literal else .double
  else if readsAsText s && allowsPlain cs then .plain
  else if allowsSingle cs then .single
  else .double

/-! ### Writing a text -/

/-- The escape of a character in double quotes. -/
def escapeDouble (c : Char) : List Char :=
  match c with
  | '\x00' => ['\\', '0']
  | '\x07' => ['\\', 'a']
  | '\x08' => ['\\', 'b']
  | '\t' => ['\\', 't']
  | '\n' => ['\\', 'n']
  | '\x0b' => ['\\', 'v']
  | '\x0c' => ['\\', 'f']
  | '\r' => ['\\', 'r']
  | '\x1b' => ['\\', 'e']
  | '\x22' => ['\\', '\x22']
  | '\\' => ['\\', '\\']
  | '\u0085' => ['\\', 'N']
  | '\u2028' => ['\\', 'L']
  | '\u2029' => ['\\', 'P']
  | _ =>
    if isPrintable c then [c]
    else
      let digits := (Text.hex c.toNat).map Char.toUpper
      if c.toNat < 0x100 then '\\' :: 'x' :: Text.padLeft 2 '0' digits
      else if c.toNat < 0x10000 then '\\' :: 'u' :: Text.padLeft 4 '0' digits
      else '\\' :: 'U' :: Text.padLeft 8 '0' digits

/-- Spaces at the start of a line. -/
def spaces (indent : Nat) : List Char :=
  List.replicate indent ' '

/-- The inside of single quotes. Quotes are doubled, and what follows a line end is indented. -/
def singleInside (indent : Nat) (afterBreak : Bool) : List Char → List Char
  | [] => if afterBreak then spaces indent else []
  | c :: rest =>
    if isBreak c then c :: singleInside indent true rest
    else
      (if afterBreak && c != ' ' then spaces indent else []) ++
        (if c == '\x27' then ['\x27', '\x27'] else [c]) ++
        singleInside indent (afterBreak && c == ' ') rest

/-- The lines of a literal block. Lines that are not empty are indented. -/
def literalLines (indent : Nat) (afterBreak : Bool) : List Char → List Char
  | [] => []
  | c :: rest =>
    if isBreak c then c :: literalLines indent true rest
    else (if afterBreak then spaces indent else []) ++ c :: literalLines indent false rest

/-- The marks behind the start of a literal block: its indentation, if the text starts with a space
or a line end, and what happens to the line ends at its end. -/
def literalHints (cs : List Char) : List Char :=
  let indentation := if cs.head?.any fun c => c == ' ' || isBreak c then ['2'] else []
  let chomp := match cs.reverse with
    | [] => ['-']
    | [c] => if isBreak c then ['+'] else ['-']
    | c :: d :: _ => if isBreak c then (if isBreak d then ['+'] else []) else ['-']
  indentation ++ chomp

/-- A text in its form; further lines have the given indentation. -/
def textIn (indent : Nat) (s : String) : List Char :=
  let cs := s.toList
  match formOf s with
  | .plain => cs
  | .single => '\x27' :: singleInside indent false cs ++ ['\x27']
  | .double => '\x22' :: cs.flatMap escapeDouble ++ ['\x22']
  | .literal => '|' :: literalHints cs ++ '\n' :: literalLines indent true cs

/-- A text with a line feed behind it, unless it ends in a line end already. -/
def endLine (cs : List Char) : List Char :=
  if cs.getLast?.any isBreak then cs else cs ++ ['\n']

/-! ### Writing values -/

/-- The text of a value that fits on the line of its key or dash, except for literal blocks, whose
lines have the given indentation. -/
def inline? (indent : Nat) : Value → Option (List Char)
  | .null => some "null".toList
  | .bool b => some (if b then "true" else "false").toList
  | .nat n => some (Text.decimal n)
  | .float x => some (Decimal.text floatStyle x)
  | .text s => some (textIn indent s)
  | .list [] => some ['[', ']']
  | .record [] => some ['\x7b', '\x7d']
  | _ => none

mutual

/-- The text behind the colon of a field that is indented. -/
def behindKey (indent : Nat) : Value → List Char
  | .list (v :: items) => '\n' :: itemLines indent false (v :: items)
  | .record (f :: fields) => '\n' :: fieldLines (indent + 2) false (f :: fields)
  | v => ' ' :: endLine ((inline? (indent + 2) v).getD [])

/-- The text behind the dash of an item that is indented. -/
def behindDash (indent : Nat) : Value → List Char
  | .list (v :: items) => itemLines (indent + 2) true (v :: items)
  | .record (f :: fields) => fieldLines (indent + 2) true (f :: fields)
  | v => endLine ((inline? (indent + 2) v).getD [])

/-- The lines of fields; the first one may go on with a line that is started. -/
def fieldLines (indent : Nat) (started : Bool) : List (String × Value) → List Char
  | [] => []
  | (name, v) :: rest =>
    (if started then [] else spaces indent) ++ name.toList ++ ':' :: behindKey indent v ++
      fieldLines indent false rest

/-- The lines of items; the first one may go on with a line that is started. -/
def itemLines (indent : Nat) (started : Bool) : List Value → List Char
  | [] => []
  | v :: rest =>
    (if started then [] else spaces indent) ++ '-' :: ' ' :: behindDash indent v ++
      itemLines indent false rest

end

/-- The text of a value. -/
def render (v : Value) : String :=
  String.ofList <| match v with
    | .record (f :: fields) => fieldLines 0 false (f :: fields)
    | .list (item :: items) => itemLines 0 false (item :: items)
    | v => endLine ((inline? 2 v).getD [])

end IsisTestbed.Yaml
