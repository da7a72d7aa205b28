import IsisTestbed.Yaml.Token

/-!
From YAML text to its tokens. The start and end of block collections are read off the indentation,
and a key is recognised only at the colon behind it: until then it is a *candidate*, and its tokens
are completed where it started.
-/

namespace IsisTestbed.Yaml

/-- A token or group that is a key if a colon follows it. -/
structure Candidate where
  /-- Whether the indentation leaves no other choice. -/
  required : Bool
  /-- The number of tokens before it. -/
  position : Nat
  index : Nat
  line : Nat
  column : Nat
  deriving DecidableEq, Repr

/-- The state between two tokens. -/
structure Lexing where
  cursor : Cursor
  /-- The columns of the open block collections plus one, the innermost first. -/
  indents : List Nat := []
  /-- The candidate of the innermost flow collection, or of the block around all of them. -/
  candidate : Option Candidate := none
  /-- The candidates of what is around the innermost flow collection. -/
  outer : List (Option Candidate) := []
  /-- Whether a candidate may start here. -/
  keyAllowed : Bool := true
  /-- The tokens so far, in reverse, and their number. -/
  tokens : List Token := []
  count : Nat := 0
  deriving Repr

namespace Lexing

/-- Whether this is inside a flow collection. -/
def inFlow (s : Lexing) : Bool :=
  !s.outer.isEmpty

/-- The column of the innermost block collection plus one, and zero outside of all. -/
def indent (s : Lexing) : Nat :=
  s.indents.head?.getD 0

/-- The state with a token added. -/
def emit (s : Lexing) (t : Token) : Lexing :=
  { s with tokens := t :: s.tokens, count := s.count + 1 }

/-- The state with a token added in front of the one at a position. -/
def emitAt (s : Lexing) (position : Nat) (t : Token) : Lexing :=
  let later := s.count - position
  { s with
    tokens := s.tokens.take later ++ t :: s.tokens.drop later
    count := s.count + 1 }

/-- The state at another place. -/
def moveTo (s : Lexing) (c : Cursor) : Lexing :=
  { s with cursor := c }

/-! ### Indentation -/

/-- Starts a block collection at a column unless one is open there; its token goes to a position. -/
def roll (s : Lexing) (column position : Nat) (t : Token) : Lexing :=
  if s.inFlow || column + 1 ≤ s.indent then s
  else { s.emitAt position t with indents := (column + 1) :: s.indents }

/-- The number of block collections that end when text starts at a column, given as the column plus
one; the text's end counts as zero. -/
def closed (limit : Nat) (indents : List Nat) : Nat :=
  (indents.takeWhile (limit < ·)).length

/-- Ends the block collections that lie right of a column, given as the column plus one. -/
def unroll (s : Lexing) (limit : Nat) : Lexing :=
  if s.inFlow then s
  else
    let n := closed limit s.indents
    { s with
      indents := s.indents.drop n
      tokens := List.replicate n .blockEnd ++ s.tokens
      count := s.count + n }

/-! ### Candidates -/

/-- Gives up the innermost candidate, which fails if it is required. -/
def dropCandidate (s : Lexing) : Option Lexing :=
  if s.candidate.any (·.required) then none else some { s with candidate := none }

/-- Makes what comes next a candidate, if one is allowed here. -/
def startCandidate (s : Lexing) : Option Lexing :=
  if s.keyAllowed then do
    let required := !s.inFlow && s.indent == s.cursor.column + 1
    let c : Candidate := ⟨required, s.count, s.cursor.index, s.cursor.line, s.cursor.column⟩
    some { ← s.dropCandidate with candidate := some c }
  else some s

/-- Whether a candidate is out of reach: keys are on one line and have at most 1024 octets. -/
def isStale (c : Cursor) (k : Candidate) : Bool :=
  k.line < c.line || k.index + 1024 < c.index

/-- The candidate, unless it is out of reach, which fails if it is required. -/
def refresh (c : Cursor) : Option Candidate → Option (Option Candidate)
  | none => some none
  | some k => if isStale c k then (if k.required then none else some none) else some (some k)

/-- Gives up all candidates that are out of reach. -/
def refreshCandidates (s : Lexing) : Option Lexing := do
  some { s with
    candidate := ← refresh s.cursor s.candidate
    outer := ← s.outer.mapM (refresh s.cursor) }

/-! ### Between tokens -/

/-- The place of the next token and whether a candidate may start there. A new line allows one,
except in flow collections, and tabs do not indent. A byte order mark at the start of a line is
skipped, but takes up a column. -/
def nextPlace (inFlow keyAllowed inComment : Bool) (c : Cursor) : List Char → Cursor × Bool
  | [] => ({ c with rest := [] }, keyAllowed)
  | '\r' :: '\n' :: rest =>
    nextPlace inFlow (keyAllowed || !inFlow) false (c.newLine 2 rest) rest
  | x :: rest =>
    if isBreak x then
      nextPlace inFlow (keyAllowed || !inFlow) false (c.newLine x.utf8Size rest) rest
    else if inComment || x == ' ' || (x == '\t' && (inFlow || !keyAllowed)) ||
        (x == '\ufeff' && c.column == 0) then
      nextPlace inFlow keyAllowed inComment (c.step x rest) rest
    else if x == '#' then nextPlace inFlow keyAllowed true (c.advance 1 rest) rest
    else ({ c with rest := x :: rest }, keyAllowed)

/-- The state in front of the next token. -/
def toNext (s : Lexing) : Option Lexing := do
  let (c, keyAllowed) := nextPlace s.inFlow s.keyAllowed false s.cursor s.cursor.rest
  let s ← { s with cursor := c, keyAllowed }.refreshCandidates
  some (s.unroll (c.column + 1))

/-! ### Tokens -/

/-- Takes `n` characters as a token. -/
def takeMark (s : Lexing) (n : Nat) (t : Token) : Lexing :=
  (s.moveTo (s.cursor.advance n (s.cursor.rest.drop n))).emit t

/-- Takes the mark of a document. -/
def documentMark (s : Lexing) (t : Token) : Option Lexing := do
  let s ← (s.unroll 0).dropCandidate
  some ({ s with keyAllowed := false }.takeMark 3 t)

/-- Takes a directive. -/
def directive (s : Lexing) : Option Lexing := do
  let s ← (s.unroll 0).dropCandidate
  let (t, c) ← directive? (s.cursor.advance 1 (s.cursor.rest.drop 1))
  some (({ s with keyAllowed := false }.moveTo c).emit t)

/-- Takes the start of a flow collection. -/
def openFlow (s : Lexing) (t : Token) : Option Lexing := do
  let s ← s.startCandidate
  some ({ s with outer := s.candidate :: s.outer, candidate := none, keyAllowed := true }.takeMark
    1 t)

/-- Takes the end of a flow collection. -/
def closeFlow (s : Lexing) (t : Token) : Option Lexing := do
  let s ← s.dropCandidate
  let s := match s.outer with
    | [] => s
    | k :: outer => { s with candidate := k, outer }
  some ({ s with keyAllowed := false }.takeMark 1 t)

/-- Takes a comma. -/
def flowEntry (s : Lexing) : Option Lexing := do
  let s ← s.dropCandidate
  some ({ s with keyAllowed := true }.takeMark 1 .flowEntry)

/-- Takes the dash of an item. -/
def blockEntry (s : Lexing) : Option Lexing := do
  if !s.inFlow && !s.keyAllowed then none
  let s ← (s.roll s.cursor.column s.count .blockSequenceStart).dropCandidate
  some ({ s with keyAllowed := true }.takeMark 1 .blockEntry)

/-- Takes the question mark of a key. -/
def explicitKey (s : Lexing) : Option Lexing := do
  if !s.inFlow && !s.keyAllowed then none
  let s ← (s.roll s.cursor.column s.count .blockMappingStart).dropCandidate
  some ({ s with keyAllowed := !s.inFlow }.takeMark 1 .key)

/-- Takes the colon of a value. A candidate before it becomes a key. -/
def value (s : Lexing) : Option Lexing :=
  match s.candidate with
  | some k =>
    let s := (s.emitAt k.position .key).roll k.column k.position .blockMappingStart
    some ({ s with candidate := none, keyAllowed := false }.takeMark 1 .value)
  | none => do
    if !s.inFlow && !s.keyAllowed then none
    let s := s.roll s.cursor.column s.count .blockMappingStart
    some ({ s with keyAllowed := !s.inFlow }.takeMark 1 .value)

/-- Takes an anchor or an alias. -/
def anchor (s : Lexing) (make : String → Token) : Option Lexing := do
  let s ← s.startCandidate
  let (name, c) ← anchorName? (s.cursor.advance 1 (s.cursor.rest.drop 1))
  some (({ s with keyAllowed := false }.moveTo c).emit (make name))

/-- Takes a tag. -/
def tag (s : Lexing) : Option Lexing := do
  let s ← s.startCandidate
  let (handle, suffix, c) ← tag? s.inFlow s.cursor
  some (({ s with keyAllowed := false }.moveTo c).emit (.tag handle suffix))

/-- Takes a block scalar. -/
def blockScalar (s : Lexing) (folded : Bool) : Option Lexing := do
  let s ← s.dropCandidate
  let (text, c) ←
    blockScalar? folded s.indent (s.cursor.advance 1 (s.cursor.rest.drop 1))
  let style : Style := if folded then .folded else .literal
  some (({ s with keyAllowed := true }.moveTo c).emit (.scalar style (String.ofList text)))

/-- Takes a quoted scalar. -/
def quoted (s : Lexing) (double : Bool) : Option Lexing := do
  let s ← s.startCandidate
  let inside := s.cursor.rest.drop 1
  let c := s.cursor.advance 1 inside
  let (text, c) ← if double then doubleFrom [] {} c inside else singleFrom [] {} c inside
  some (({ s with keyAllowed := false }.moveTo c).emit
    (.scalar .quoted (String.ofList text.reverse)))

/-- Takes a plain scalar. A line end behind it allows a candidate. -/
def plain (s : Lexing) : Option Lexing := do
  let s ← s.startCandidate
  let (text, c, lineEnded) ←
    plainFrom s.inFlow s.indent [] {} false s.cursor s.cursor.rest
  some (({ s with keyAllowed := lineEnded }.moveTo c).emit
    (.scalar .plain (String.ofList text.reverse)))

/-- The characters that do not start a plain scalar, unless something follows that makes them. -/
def isIndicator (c : Char) : Bool :=
  ['-', '?', ':', ',', '[', ']', '\x7b', '\x7d', '#', '&', '*', '!', '|', '>', '\x27', '\x22',
    '%', '@', '\x60'].contains c

/-- Whether a text starts a plain scalar. -/
def startsPlain (inFlow : Bool) (x : Char) (rest : List Char) : Bool :=
  !(isSpace x || isIndicator x) ||
    (x == '-' && !(rest.head?.any isBlank)) ||
    (!inFlow && (x == '?' || x == ':') && !atSpace rest)

/-- Takes the token that starts with a character at the place of the state. -/
def take (s : Lexing) (x : Char) (rest : List Char) : Option Lexing :=
  let atStart := s.cursor.column == 0
  if atStart && x == '%' then s.directive
  else if atStart && x == '-' && atDocumentMark (x :: rest) then s.documentMark .documentStart
  else if atStart && x == '.' && atDocumentMark (x :: rest) then s.documentMark .documentEnd
  else if x == '[' then s.openFlow .flowSequenceStart
  else if x == '\x7b' then s.openFlow .flowMappingStart
  else if x == ']' then s.closeFlow .flowSequenceEnd
  else if x == '\x7d' then s.closeFlow .flowMappingEnd
  else if x == ',' then s.flowEntry
  else if x == '-' && atSpace rest then s.blockEntry
  else if x == '?' && (s.inFlow || atSpace rest) then s.explicitKey
  else if x == ':' && (s.inFlow || atSpace rest) then s.value
  else if x == '*' then s.anchor .alias
  else if x == '&' then s.anchor .anchor
  else if x == '!' then s.tag
  else if x == '|' && !s.inFlow then s.blockScalar false
  else if x == '>' && !s.inFlow then s.blockScalar true
  else if x == '\x27' then s.quoted false
  else if x == '\x22' then s.quoted true
  else if startsPlain s.inFlow x rest then s.plain
  else none

/-- All tokens, given a bound on the number of characters that are left. -/
def run (s : Lexing) : Nat → Option (List Token)
  | 0 => none
  | bound + 1 => do
    let s ← s.toNext
    match s.cursor.rest with
    | [] => do
      let s ← (s.unroll 0).dropCandidate
      some s.tokens.reverse
    | x :: rest => do (← s.take x rest).run bound

end Lexing

/-- The tokens of a text. -/
def tokens? (cs : List Char) : Option (List Token) :=
  if cs.all isAllowed then
    { cursor := ⟨cs, 0, 0, 0⟩ : Lexing }.run (cs.length + 1)
  else none

end IsisTestbed.Yaml
