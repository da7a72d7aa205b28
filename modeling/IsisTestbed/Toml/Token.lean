import IsisTestbed.Text.Digits

/-!
The tokens of TOML text. Strings are decoded; bare keys, numbers and dates all start out as words.
-/

namespace IsisTestbed.Toml

/-- A token. -/
inductive Token where
  /-- Spaces and tabs; whether it is just one space. -/
  | blank (single : Bool)
  | newline
  | comment
  | equals
  | period
  | comma
  | colon
  | plus
  | openBrace
  | closeBrace
  | openBracket
  | closeBracket
  | word (text : String)
  | string (multiline : Bool) (text : String)
  deriving DecidableEq, Repr, Inhabited

/-- Whether a character may be part of a word. -/
def isWord (c : Char) : Bool :=
  c.isAlphanum || c == '-' || c == '_'

/-- Whether a character may stand in a comment. -/
def isCommentChar (c : Char) : Bool :=
  c == '\t' || 0x20 ≤ c.toNat

/-- Whether a character may stand in a string. -/
def isStringChar (c : Char) : Bool :=
  c == '\t' || (0x20 ≤ c.toNat && c.toNat != 0x7f)

/-- A text in which every line ends in a line feed. -/
def foldLineEnds : List Char → List Char
  | [] => []
  | '\r' :: '\n' :: rest => '\n' :: foldLineEnds rest
  | c :: rest => c :: foldLineEnds rest

/-! ### Strings -/

/-- A literal string behind its first quote, and what follows it. -/
def literalLine? (text : List Char) : List Char → Option (List Char × List Char)
  | [] => none
  | '\x27' :: rest => some (text.reverse, rest)
  | c :: rest => if isStringChar c then literalLine? (c :: text) rest else none

/-- The end of a string of several lines: of up to five quotes the first ones belong to it. -/
def closingQuotes? (quote : Char) (text : List Char) (cs : List Char) :
    Option (List Char × List Char) :=
  let n := (cs.takeWhile (· == quote)).length
  if n < 3 then none
  else
    let own := min (n - 3) 2
    some (List.replicate own quote ++ text, cs.drop (3 + own))

/-- A literal string of several lines behind its first quotes, and what follows it. -/
def literalLines? (text : List Char) : List Char → Option (List Char × List Char)
  | [] => none
  | c :: rest =>
    if c == '\x27' then
      match closingQuotes? '\x27' text (c :: rest) with
      | some (text, rest) => some (text.reverse, rest)
      | none => literalLines? (c :: text) rest
    else if c == '\n' || isStringChar c then literalLines? (c :: text) rest
    else none

/-- The character of a one-letter escape. -/
def simpleEscape? : Char → Option Char
  | '\x22' => some '\x22'
  | '\\' => some '\\'
  | 'b' => some '\x08'
  | 'f' => some '\x0c'
  | 'n' => some '\n'
  | 'r' => some '\r'
  | 't' => some '\t'
  | _ => none

/-- The character of a number in hexadecimal digits, unless it is half of a pair or too large. -/
def numberedChar? (digits : List Char) : Option Char :=
  (Text.ofDigits? 16 digits).bind fun n =>
    if n < 0xD800 ∨ (0xDFFF < n ∧ n < 0x110000) then some (Char.ofNat n) else none

/-- A basic string behind its first quote, and what follows it. -/
def basicLine? (text : List Char) : List Char → Option (List Char × List Char)
  | [] => none
  | '\x22' :: rest => some (text.reverse, rest)
  | '\\' :: 'u' :: a :: b :: c :: d :: rest =>
    match numberedChar? [a, b, c, d] with
    | some x => basicLine? (x :: text) rest
    | none => none
  | '\\' :: 'U' :: a :: b :: c :: d :: e :: f :: g :: h :: rest =>
    match numberedChar? [a, b, c, d, e, f, g, h] with
    | some x => basicLine? (x :: text) rest
    | none => none
  | '\\' :: c :: rest =>
    match simpleEscape? c with
    | some x => basicLine? (x :: text) rest
    | none => none
  | c :: rest => if c != '\\' && isStringChar c then basicLine? (c :: text) rest else none

/-- Where the reading of a basic string of several lines stands: in its text, behind a backslash at
the end of a line, or in the blanks and line ends that the backslash removes. -/
inductive Joining where
  | no
  | lineEnd
  | blanks
  deriving DecidableEq, Repr

/-- A basic string of several lines behind its first quotes, and what follows it. -/
def basicLines? (text : List Char) (joining : Joining) :
    List Char → Option (List Char × List Char)
  | [] => none
  | c :: rest =>
    match joining with
    | .lineEnd =>
      if c == '\n' then basicLines? text .blanks rest
      else if c == ' ' || c == '\t' then basicLines? text .lineEnd rest
      else none
    | _ =>
      if joining == .blanks && (c == ' ' || c == '\t' || c == '\n') then
        basicLines? text .blanks rest
      else if c == '\x22' then
        match closingQuotes? '\x22' text (c :: rest) with
        | some (text, rest) => some (text.reverse, rest)
        | none => basicLines? (c :: text) .no rest
      else if c == '\\' then
        match rest with
        | 'u' :: a :: b :: c :: d :: rest =>
          match numberedChar? [a, b, c, d] with
          | some x => basicLines? (x :: text) .no rest
          | none => none
        | 'U' :: a :: b :: c :: d :: e :: f :: g :: h :: rest =>
          match numberedChar? [a, b, c, d, e, f, g, h] with
          | some x => basicLines? (x :: text) .no rest
          | none => none
        | '\n' :: rest => basicLines? text .blanks rest
        | ' ' :: rest => basicLines? text .lineEnd rest
        | '\t' :: rest => basicLines? text .lineEnd rest
        | x :: rest =>
          match simpleEscape? x with
          | some y => basicLines? (y :: text) .no rest
          | none => none
        | [] => none
      else if c == '\n' || isStringChar c then basicLines? (c :: text) .no rest
      else none

/-- A text without a line feed at its front. -/
def dropLineFeed : List Char → List Char
  | '\n' :: rest => rest
  | cs => cs

/-- A string behind its first quote, and what follows it. -/
def string? (quote : Char) (cs : List Char) : Option (Token × List Char) :=
  match cs with
  | x :: y :: rest =>
    if x == quote && y == quote then
      let inside := dropLineFeed rest
      (if quote == '\x22' then basicLines? [] .no inside else literalLines? [] inside).map
        fun (text, rest) => (.string true (String.ofList text), rest)
    else line
  | _ => line
where
  /-- A string on one line. -/
  line : Option (Token × List Char) :=
    (if quote == '\x22' then basicLine? [] cs else literalLine? [] cs).map
      fun (text, rest) => (.string false (String.ofList text), rest)

/-! ### Text to tokens -/

/-- The token of a single character. -/
def mark? : Char → Option Token
  | '\n' => some .newline
  | '=' => some .equals
  | '.' => some .period
  | ',' => some .comma
  | ':' => some .colon
  | '+' => some .plus
  | '\x7b' => some .openBrace
  | '\x7d' => some .closeBrace
  | '[' => some .openBracket
  | ']' => some .closeBracket
  | _ => none

/-- Whether a character is a space or a tab. -/
def isBlank (c : Char) : Bool :=
  c == ' ' || c == '\t'

/-- The first token of a text, and what follows it. -/
def next? (c : Char) (rest : List Char) : Option (Token × List Char) :=
  match mark? c with
  | some t => some (t, rest)
  | none =>
    if isBlank c then
      let more := rest.takeWhile isBlank
      some (.blank (c == ' ' && more.isEmpty), rest.dropWhile isBlank)
    else if c == '#' then some (.comment, rest.dropWhile isCommentChar)
    else if c == '\x22' || c == '\x27' then string? c rest
    else if isWord c then
      some (.word (String.ofList (c :: rest.takeWhile isWord)), rest.dropWhile isWord)
    else none

/-- The tokens of a text, given a bound on the number of its characters. -/
def tokensFrom? (tokens : List Token) : Nat → List Char → Option (List Token)
  | _, [] => some tokens.reverse
  | 0, _ :: _ => none
  | bound + 1, c :: rest =>
    match next? c rest with
    | some (t, rest) => tokensFrom? (t :: tokens) bound rest
    | none => none

/-- The tokens of a text; a byte-order mark in front of it is skipped. -/
def tokens? (text : String) : Option (List Token) :=
  let cs := match text.toList with
    | '\ufeff' :: rest => rest
    | cs => cs
  tokensFrom? [] cs.length (foldLineEnds cs)

end IsisTestbed.Toml
