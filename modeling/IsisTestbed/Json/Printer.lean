import IsisTestbed.Data.Value
import IsisTestbed.Decimal.Layout

/-!
JSON text of values: compact on one line, or with one field or item a line and two spaces for each
level.
-/

namespace IsisTestbed.Json

/-- Floats keep a point or an exponent; those that are no number have no JSON form. -/
def floatStyle : Decimal.Style where
  tie := .even
  exponents := true
  plusSign := true
  pointZero := true
  notANumber := "null"
  infinity := "null"
  minusInfinity := "null"

/-- A character inside a string. Quotes, backslashes and control characters are escaped. -/
def escape (c : Char) : List Char :=
  match c with
  | '\x22' => ['\\', '\x22']
  | '\\' => ['\\', '\\']
  | '\x08' => ['\\', 'b']
  | '\x0c' => ['\\', 'f']
  | '\n' => ['\\', 'n']
  | '\r' => ['\\', 'r']
  | '\t' => ['\\', 't']
  | _ => if c.toNat < 0x20 then '\\' :: 'u' :: Text.padLeft 4 '0' (Text.hex c.toNat) else [c]

/-- A string in its quotes. -/
def quoted (s : String) : List Char :=
  '\x22' :: s.toList.flatMap escape ++ ['\x22']

/-- The line break and the indentation that start a line at a level; nothing in compact text. -/
def lineStart (pretty : Bool) (level : Nat) : List Char :=
  if pretty then '\n' :: List.replicate (2 * level) ' ' else []

/-- What stands between a key and its value. -/
def colon (pretty : Bool) : List Char :=
  if pretty then [':', ' '] else [':']

mutual

/-- The text of a value that stands at a level. -/
def render (pretty : Bool) (level : Nat) : Value → List Char
  | .null => "null".toList
  | .bool b => (if b then "true" else "false").toList
  | .nat n => Text.decimal n
  | .float x => Decimal.text floatStyle x
  | .text s => quoted s
  | .list [] => ['[', ']']
  | .list (v :: rest) =>
    '[' :: lineStart pretty (level + 1) ++ render pretty (level + 1) v ++
      renderItems pretty level rest
  | .record [] => ['\x7b', '\x7d']
  | .record ((name, v) :: rest) =>
    '\x7b' :: lineStart pretty (level + 1) ++ quoted name ++ colon pretty ++
      render pretty (level + 1) v ++ renderFields pretty level rest

/-- The items behind the first one of a list, and its end. -/
def renderItems (pretty : Bool) (level : Nat) : List Value → List Char
  | [] => lineStart pretty level ++ [']']
  | v :: rest =>
    ',' :: lineStart pretty (level + 1) ++ render pretty (level + 1) v ++
      renderItems pretty level rest

/-- The fields behind the first one of a record, and its end. -/
def renderFields (pretty : Bool) (level : Nat) : List (String × Value) → List Char
  | [] => lineStart pretty level ++ ['\x7d']
  | (name, v) :: rest =>
    ',' :: lineStart pretty (level + 1) ++ quoted name ++ colon pretty ++
      render pretty (level + 1) v ++ renderFields pretty level rest

end

/-- The text of a value on several lines. -/
def pretty (v : Value) : String :=
  String.ofList (render true 0 v)

/-- The text of a value without any blanks. -/
def compact (v : Value) : String :=
  String.ofList (render false 0 v)

end IsisTestbed.Json
