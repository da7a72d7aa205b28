import IsisTestbed.Text.Digits
import IsisTestbed.Yaml.Char
import IsisTestbed.Yaml.Tag

/-!
The tokens of YAML text, and the reading of those whose extent depends only on their own
characters. A `Cursor` is a place in a text; every reader goes through the characters one by one.
-/

namespace IsisTestbed.Yaml

/-- How a scalar is written. -/
inductive Style where
  | plain
  | quoted
  | literal
  | folded
  deriving DecidableEq, Repr, Inhabited

/-- A token. Block collections have tokens for their start and end, which are read off the
indentation. -/
inductive Token where
  | versionDirective (major minor : Nat)
  | tagDirective (handle : String) (expansion : List UInt8)
  | documentStart
  | documentEnd
  | blockSequenceStart
  | blockMappingStart
  | blockEnd
  | flowSequenceStart
  | flowSequenceEnd
  | flowMappingStart
  | flowMappingEnd
  | blockEntry
  | flowEntry
  | key
  | value
  | alias (name : String)
  | anchor (name : String)
  | tag (handle : String) (suffix : List UInt8)
  | scalar (style : Style) (text : String)
  deriving DecidableEq, Repr, Inhabited

/-- A place in a text: what follows, and how many octets, lines and columns came before. -/
structure Cursor where
  rest : List Char
  index : Nat
  line : Nat
  column : Nat
  deriving Repr, Inhabited

namespace Cursor

/-- The place behind `n` characters of one octet each on the line, where `rest` follows. -/
def advance (c : Cursor) (n : Nat) (rest : List Char) : Cursor :=
  { c with rest, index := c.index + n, column := c.column + n }

/-- The place behind a character of the line, where `rest` follows. -/
def step (c : Cursor) (x : Char) (rest : List Char) : Cursor :=
  { c with rest, index := c.index + x.utf8Size, column := c.column + 1 }

/-- The place behind a line end of `n` octets, where `rest` follows. -/
def newLine (c : Cursor) (n : Nat) (rest : List Char) : Cursor :=
  ⟨rest, c.index + n, c.line + 1, 0⟩

/-- The characters up to the first one outside of a class that has no line ends, and the place
behind them. -/
def takeWhile (c : Cursor) (p : Char → Bool) : List Char × Cursor :=
  let (taken, rest) := c.rest.span p
  let octets := taken.foldl (fun n c => n + c.utf8Size) 0
  (taken, { c with rest, index := c.index + octets, column := c.column + taken.length })

/-- The place behind all spaces and tabs. -/
def skipBlanks (c : Cursor) : Cursor :=
  (c.takeWhile isBlank).2

/-- The place behind a comment, if one starts here. -/
def skipComment (c : Cursor) : Cursor :=
  match c.rest with
  | '#' :: _ => (c.takeWhile fun x => !isBreak x).2
  | _ => c

/-- The place behind a line end, if there is one here. -/
def skipLineEnd (c : Cursor) : Cursor :=
  match c.rest with
  | '\r' :: '\n' :: rest => c.newLine 2 rest
  | x :: rest => if isBreak x then c.newLine x.utf8Size rest else c
  | [] => c

end Cursor

/-! ### Folding lines -/

/-- The end of a piece of text that may go on: blanks behind it, the first line end behind it, and
further line ends. Everything is in reverse. -/
structure Gap where
  blanks : List Char := []
  /-- Whether a line has ended; its line end, unless that was escaped. -/
  lineEnded : Bool := false
  lineEnd : Option Char := none
  emptyLines : List Char := []
  deriving Repr, Inhabited

namespace Gap

/-- The gap with a blank behind it. Blanks at the start of a line do not count. -/
def blank (g : Gap) (c : Char) : Gap :=
  if g.lineEnded then g else { g with blanks := c :: g.blanks }

/-- The gap with a line end behind it. -/
def lineBreak (g : Gap) (c : Char) : Gap :=
  if g.lineEnded then { g with emptyLines := normalBreak c :: g.emptyLines }
  else { blanks := [], lineEnded := true, lineEnd := some (normalBreak c), emptyLines := [] }

/-- A text, in reverse, with the gap behind it. A single line end becomes a blank, and of several
the first one is dropped. -/
def close (g : Gap) (text : List Char) : List Char :=
  if g.lineEnded then
    match g.lineEnd with
    | some '\n' => if g.emptyLines.isEmpty then ' ' :: text else g.emptyLines ++ text
    | some c => g.emptyLines ++ c :: text
    | none => g.emptyLines ++ text
  else g.blanks ++ text

end Gap

/-! ### Plain scalars -/

/-- Whether a character ends a plain scalar inside a flow collection. -/
def isFlowMark (c : Char) : Bool :=
  c == ',' || c == '[' || c == ']' || c == '\x7b' || c == '\x7d'

/-- Reads a plain scalar from a place on. `indent` is the least column of its further lines, and
`fresh` tells whether a gap, or nothing, came just before. The result is the text in reverse, the
place behind the scalar and the gap after it, and whether a line has ended in that gap. -/
def plainFrom (inFlow : Bool) (indent : Nat) (text : List Char) (gap : Gap) (fresh : Bool)
    (c : Cursor) : List Char → Option (List Char × Cursor × Bool)
  | [] => some (text, { c with rest := [] }, gap.lineEnded)
  | '\r' :: '\n' :: rest =>
    plainFrom inFlow indent text (gap.lineBreak '\n') true (c.newLine 2 rest) rest
  | x :: rest =>
    let stop := some (text, { c with rest := x :: rest }, gap.lineEnded)
    if isBreak x then
      plainFrom inFlow indent text (gap.lineBreak x) true (c.newLine x.utf8Size rest) rest
    else if isBlank x then
      if gap.lineEnded && c.column < indent && x == '\t' then none
      else plainFrom inFlow indent text (gap.blank x) true (c.advance 1 rest) rest
    else if fresh && ((!inFlow && c.column < indent) || x == '#' ||
        (c.column == 0 && atDocumentMark (x :: rest))) then stop
    else if x == ':' && atSpace rest then stop
    else if inFlow && x == ':' && (rest.head?.any fun y => isFlowMark y || y == '?') then none
    else if inFlow && isFlowMark x then stop
    else plainFrom inFlow indent (x :: gap.close text) {} false (c.step x rest) rest

/-! ### Quoted scalars -/

/-- Reads the inside of a single-quoted scalar, behind its first quote. -/
def singleFrom (text : List Char) (gap : Gap) (c : Cursor) :
    List Char → Option (List Char × Cursor)
  | [] => none
  | '\r' :: '\n' :: rest => singleFrom text (gap.lineBreak '\n') (c.newLine 2 rest) rest
  | '\x27' :: '\x27' :: rest =>
    singleFrom ('\x27' :: gap.close text) {} (c.advance 2 rest) rest
  | x :: rest =>
    if isBreak x then singleFrom text (gap.lineBreak x) (c.newLine x.utf8Size rest) rest
    else if isBlank x then singleFrom text (gap.blank x) (c.advance 1 rest) rest
    else if c.column == 0 && atDocumentMark (x :: rest) then none
    else if x == '\x27' then some (gap.close text, c.advance 1 rest)
    else singleFrom (x :: gap.close text) {} (c.step x rest) rest

/-- The character of a one-letter escape. -/
def simpleEscape? : Char → Option Char
  | '0' => some '\x00'
  | 'a' => some '\x07'
  | 'b' => some '\x08'
  | 't' => some '\t'
  | '\t' => some '\t'
  | 'n' => some '\n'
  | 'v' => some '\x0b'
  | 'f' => some '\x0c'
  | 'r' => some '\r'
  | 'e' => some '\x1b'
  | ' ' => some ' '
  | '\x22' => some '\x22'
  | '/' => some '/'
  | '\\' => some '\\'
  | 'N' => some '\u0085'
  | '_' => some '\u00a0'
  | 'L' => some '\u2028'
  | 'P' => some '\u2029'
  | _ => none

/-- The character of a number in hexadecimal digits, unless it is half of a pair or too large. -/
def numberedChar? (digits : List Char) : Option Char :=
  (Text.ofDigits? 16 digits).bind fun n =>
    if n < 0xD800 ∨ (0xDFFF < n ∧ n < 0x110000) then some (Char.ofNat n) else none

/-- Reads the inside of a double-quoted scalar, behind its first quote. -/
def doubleFrom (text : List Char) (gap : Gap) (c : Cursor) :
    List Char → Option (List Char × Cursor)
  | [] => none
  | '\r' :: '\n' :: rest => doubleFrom text (gap.lineBreak '\n') (c.newLine 2 rest) rest
  | '\\' :: '\r' :: '\n' :: rest =>
    doubleFrom (gap.close text) { lineEnded := true } ((c.advance 1 rest).newLine 2 rest) rest
  | '\\' :: 'x' :: a :: b :: rest =>
    match numberedChar? [a, b] with
    | some x => doubleFrom (x :: gap.close text) {} (c.advance 4 rest) rest
    | none => none
  | '\\' :: 'u' :: a :: b :: d :: e :: rest =>
    match numberedChar? [a, b, d, e] with
    | some x => doubleFrom (x :: gap.close text) {} (c.advance 6 rest) rest
    | none => none
  | '\\' :: 'U' :: a :: b :: d :: e :: f :: g :: h :: i :: rest =>
    match numberedChar? [a, b, d, e, f, g, h, i] with
    | some x => doubleFrom (x :: gap.close text) {} (c.advance 10 rest) rest
    | none => none
  | '\\' :: x :: rest =>
    if isBreak x then
      doubleFrom (gap.close text) { lineEnded := true }
        ((c.advance 1 rest).newLine x.utf8Size rest) rest
    else match simpleEscape? x with
      | some y => doubleFrom (y :: gap.close text) {} (c.advance 2 rest) rest
      | none => none
  | x :: rest =>
    if isBreak x then doubleFrom text (gap.lineBreak x) (c.newLine x.utf8Size rest) rest
    else if isBlank x then doubleFrom text (gap.blank x) (c.advance 1 rest) rest
    else if c.column == 0 && atDocumentMark (x :: rest) then none
    else if x == '\x22' then some (gap.close text, c.advance 1 rest)
    else doubleFrom (x :: gap.close text) {} (c.step x rest) rest

/-! ### Block scalars -/

/-- What happens to the line ends at the end of a block scalar. -/
inductive Chomp where
  | strip
  | clip
  | keep
  deriving DecidableEq, Repr, Inhabited

/-- The text of a block scalar so far, in reverse, with what may follow it. -/
structure Block where
  text : List Char := []
  lineEnd : Option Char := none
  emptyLines : List Char := []
  /-- Whether the last line started with a blank. -/
  blankStart : Bool := false
  deriving Repr, Inhabited

namespace Block

/-- The block at the start of a further line, which starts with a blank or not. Lines of a folded
block are joined where neither of them starts with a blank. -/
def startLine (b : Block) (folded blankStart : Bool) : Block :=
  let joined := folded && b.lineEnd == some '\n' && !b.blankStart && !blankStart
  let text :=
    if joined then if b.emptyLines.isEmpty then ' ' :: b.text else b.emptyLines ++ b.text
    else b.emptyLines ++ b.lineEnd.toList ++ b.text
  { text, blankStart }

/-- The whole text, in order. -/
def finish (b : Block) (chomp : Chomp) : List Char :=
  (match chomp with
    | .strip => b.text
    | .clip => b.lineEnd.toList ++ b.text
    | .keep => b.emptyLines ++ b.lineEnd.toList ++ b.text).reverse

end Block

/-- Where the reading of a block scalar stands: in front of the first line, whose indentation is not
known yet, in front of a line, or inside of one. -/
inductive BlockMode where
  | first (widest : Nat)
  | margin (indent : Nat)
  | line (indent : Nat)
  deriving DecidableEq, Repr

/-- Reads the lines of a block scalar. `least` is the least indentation that its first line may
have. -/
def blockFrom (folded : Bool) (least : Nat) (b : Block) (mode : BlockMode) (c : Cursor) :
    List Char → Option (Block × Cursor)
  | [] => some (b, { c with rest := [] })
  | '\r' :: '\n' :: rest =>
    match mode with
    | .first widest =>
      blockFrom folded least { b with emptyLines := '\n' :: b.emptyLines }
        (.first (max widest c.column)) (c.newLine 2 rest) rest
    | .margin indent =>
      blockFrom folded least { b with emptyLines := '\n' :: b.emptyLines } (.margin indent)
        (c.newLine 2 rest) rest
    | .line indent =>
      blockFrom folded least { b with lineEnd := some '\n' } (.margin indent)
        (c.newLine 2 rest) rest
  | x :: rest =>
    match mode with
    | .first widest =>
      if x == ' ' then blockFrom folded least b (.first widest) (c.advance 1 rest) rest
      else if x == '\t' then none
      else if isBreak x then
        blockFrom folded least { b with emptyLines := normalBreak x :: b.emptyLines }
          (.first (max widest c.column)) (c.newLine x.utf8Size rest) rest
      else
        let indent := max (max widest c.column) least
        if c.column == indent then
          blockFrom folded least { b.startLine folded false with text := x ::
            (b.startLine folded false).text } (.line indent) (c.step x rest) rest
        else some (b, { c with rest := x :: rest })
    | .margin indent =>
      if x == ' ' && c.column < indent then
        blockFrom folded least b (.margin indent) (c.advance 1 rest) rest
      else if x == '\t' && c.column < indent then none
      else if isBreak x then
        blockFrom folded least { b with emptyLines := normalBreak x :: b.emptyLines }
          (.margin indent) (c.newLine x.utf8Size rest) rest
      else if c.column == indent then
        let started := b.startLine folded (isBlank x)
        blockFrom folded least { started with text := x :: started.text } (.line indent)
          (c.step x rest) rest
      else some (b, { c with rest := x :: rest })
    | .line indent =>
      if isBreak x then
        blockFrom folded least { b with lineEnd := some (normalBreak x) } (.margin indent)
          (c.newLine x.utf8Size rest) rest
      else
        blockFrom folded least { b with text := x :: b.text } (.line indent) (c.step x rest) rest

/-- The digit of an explicit indentation, from 1 to 9. -/
def indentDigit? (c : Char) : Option Nat :=
  if '1' ≤ c ∧ c ≤ '9' then some (c.toNat - '0'.toNat) else none

/-- The mark of what happens to the last line ends. -/
def chompMark? : Char → Option Chomp
  | '+' => some .keep
  | '-' => some .strip
  | _ => none

/-- The explicit indentation, the chomping, and what follows them, behind the mark of a block
scalar. An indentation of zero is refused. -/
def blockHeader? : List Char → Option (Option Nat × Chomp × List Char)
  | x :: y :: rest =>
    match chompMark? x, indentDigit? x with
    | some chomp, _ =>
      match indentDigit? y with
      | some n => some (some n, chomp, rest)
      | none => if y == '0' then none else some (none, chomp, y :: rest)
    | none, some n =>
      match chompMark? y with
      | some chomp => some (some n, chomp, rest)
      | none => some (some n, .clip, y :: rest)
    | none, none => if x == '0' then none else some (none, .clip, x :: y :: rest)
  | [x] =>
    match chompMark? x, indentDigit? x with
    | some chomp, _ => some (none, chomp, [])
    | none, some n => some (some n, .clip, [])
    | none, none => if x == '0' then none else some (none, .clip, [x])
  | [] => some (none, .clip, [])

/-- Reads a block scalar behind its mark. `parent` is the indentation of what it stands in, plus
one. -/
def blockScalar? (folded : Bool) (parent : Nat) (c : Cursor) : Option (List Char × Cursor) := do
  let (explicit, chomp, rest) ← blockHeader? c.rest
  let c := (c.advance (c.rest.length - rest.length) rest).skipBlanks.skipComment
  if !(c.rest.head?.all isBreak) then none
  let c := c.skipLineEnd
  let mode := match explicit with
    | some n => .margin (if parent = 0 then n else parent - 1 + n)
    | none => .first 0
  let (b, c) ← blockFrom folded (max parent 1) {} mode c c.rest
  some (b.finish chomp, c)

/-! ### Names, tags and directives -/

/-- Reads the name of an anchor or alias. -/
def anchorName? (c : Cursor) : Option (String × Cursor) :=
  let (name, c) := c.takeWhile isWord
  let ends := c.rest.head?.all fun x =>
    isSpace x || ['?', ':', ',', ']', '\x7d', '%', '@', '\x60'].contains x
  if name.isEmpty || !ends then none else some (String.ofList name, c)

/-- Whether a character may be part of a tag, given whether flow marks are allowed. -/
def isTagChar (flowMarks : Bool) (c : Char) : Bool :=
  isWord c || [';', '/', '?', ':', '@', '&', '=', '+', '$', '.', '%', '!', '~', '*', '\x27', '(',
    ')'].contains c || (flowMarks && [',', '[', ']'].contains c)

/-- The octet of an escape in a tag. -/
def tagOctet? (a b : Char) : Option UInt8 :=
  (Text.ofDigits? 16 [a, b]).map UInt8.ofNat

/-- The number of octets that must follow an escaped octet, which starts a character. -/
def furtherOctets? (first : UInt8) : Option Nat :=
  if first < 0x80 then some 0
  else if first < 0xC0 then none
  else if first < 0xE0 then some 1
  else if first < 0xF0 then some 2
  else if first < 0xF8 then some 3
  else none

/-- The number of octets that must follow an escaped octet if `due` of them had to follow the one
before it. -/
def octetsDue? (due : Nat) (octet : UInt8) : Option Nat :=
  if due = 0 then furtherOctets? octet
  else if 0x80 ≤ octet ∧ octet < 0xC0 then some (due - 1)
  else none

/-- The octets of a tag, in which characters may be escaped octet by octet. The escapes of one
character come together; `due` is how many are still due. -/
def tagOctets? (due : Nat) : List Char → Option (List UInt8)
  | [] => if due = 0 then some [] else none
  | '%' :: a :: b :: rest => do
    let octet ← tagOctet? a b
    some (octet :: (← tagOctets? (← octetsDue? due octet) rest))
  | x :: rest =>
    if x == '%' || due != 0 then none else (tagOctets? 0 rest).map (x.toUInt8 :: ·)

/-- Reads a part of a tag, which counts up to its first zero octet. There may be no characters only
if `mayEnd` allows it. -/
def tagPart? (flowMarks mayEnd : Bool) (c : Cursor) : Option (List UInt8 × Cursor) := do
  let (part, c) := c.takeWhile (isTagChar flowMarks)
  if part.isEmpty && !mayEnd then none
  some ((← tagOctets? 0 part).takeWhile (· != 0), c)

/-- Reads the handle of a tag, which starts with an exclamation mark and may end in one. -/
def tagHandle? (c : Cursor) : Option (String × Cursor) :=
  match c.rest with
  | '!' :: rest =>
    let (name, c) := (c.advance 1 rest).takeWhile isWord
    match c.rest with
    | '!' :: rest => some (String.ofList ('!' :: name ++ ['!']), c.advance 1 rest)
    | _ => some (String.ofList ('!' :: name), c)
  | _ => none

/-- Reads a tag: verbatim in angle brackets, with a handle, or with the primary handle. A tag that
is a mere exclamation mark has no handle. -/
def tag? (inFlow : Bool) (c : Cursor) : Option (String × List UInt8 × Cursor) := do
  let (handle, suffix, c) ← (match c.rest with
    | '!' :: '<' :: rest => do
      let (suffix, c) ← tagPart? true false (c.advance 2 rest)
      match c.rest with
      | '>' :: rest => some ("", suffix, c.advance 1 rest)
      | _ => none
    | _ => do
      let (handle, c) ← tagHandle? c
      let name := handle.toList
      if 1 < name.length && name.getLast? == some '!' then
        let (suffix, c) ← tagPart? false false c
        some (handle, suffix, c)
      else
        let (more, c) ← tagPart? false true c
        let suffix := name.tail.map Char.toUInt8 ++ more
        if suffix.isEmpty then some ("", [Tag.exclamation], c) else some ("!", suffix, c))
  if atSpace c.rest || (inFlow && c.rest.head? == some ',') then some (handle, suffix, c) else none

/-- Reads a number of at most nine digits. -/
def versionNumber? (c : Cursor) : Option (Nat × Cursor) :=
  let (digits, c) := c.takeWhile Char.isDigit
  if 9 < digits.length then none else (Text.ofDigits? 10 digits).map fun n => (n, c)

/-- Reads the rest of a version directive. -/
def versionDirective? (c : Cursor) : Option (Token × Cursor) := do
  let (major, c) ← versionNumber? c.skipBlanks
  match c.rest with
  | '.' :: rest => do
    let (minor, c) ← versionNumber? (c.advance 1 rest)
    some (.versionDirective major minor, c)
  | _ => none

/-- Reads the rest of a tag directive. -/
def tagDirective? (c : Cursor) : Option (Token × Cursor) := do
  let (handle, c) ← tagHandle? c.skipBlanks
  let name := handle.toList
  if name.getLast? != some '!' then none
  if !(c.rest.head?.any isBlank) then none
  let (expansion, c) ← tagPart? true false c.skipBlanks
  if atSpace c.rest then some (.tagDirective handle expansion, c) else none

/-- Reads a directive behind its mark, with the rest of its line. -/
def directive? (c : Cursor) : Option (Token × Cursor) := do
  let (name, c) := c.takeWhile isWord
  if !atSpace c.rest then none
  let (token, c) ←
    if name = "YAML".toList then versionDirective? c
    else if name = "TAG".toList then tagDirective? c
    else none
  let c := c.skipBlanks.skipComment
  if c.rest.head?.all isBreak then some (token, c.skipLineEnd) else none

end IsisTestbed.Yaml
