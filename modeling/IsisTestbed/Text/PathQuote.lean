import IsisTestbed.Text.Digits
import IsisTestbed.Text.Unprinted

/-!
Paths in messages. A path stands in double quotes; quotes, backslashes and what cannot be printed
are escaped.
-/

namespace IsisTestbed.Text

/-- A character inside quotes. -/
def escapePathChar (c : Char) : List Char :=
  match c with
  | '\x22' => ['\\', '\x22']
  | '\\' => ['\\', '\\']
  | '\n' => ['\\', 'n']
  | '\r' => ['\\', 'r']
  | '\t' => ['\\', 't']
  | '\x00' => ['\\', '0']
  | _ =>
    if isUnprinted c then ['\\', 'u', '\x7b'] ++ hex c.toNat ++ ['\x7d']
    else [c]

/-- A path in quotes. -/
def quotePath (path : String) : String :=
  String.ofList ('\x22' :: path.toList.flatMap escapePathChar ++ ['\x22'])

end IsisTestbed.Text
