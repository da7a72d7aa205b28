import IsisTestbed.Json.Token

/-!
JSON documents. The tokens are taken one by one, with a stack of the open arrays and objects, so
that the depth of a document costs no recursion. Arrays and objects nested too deeply can be skipped
but not used.
-/

namespace IsisTestbed.Json

/-- An array or object that is still open; what it holds so far comes in reverse. -/
inductive Frame where
  | array (items : List Tree)
  | object (members : List (Tree × Tree))
  /-- An object in which the value of a key is due. -/
  | member (members : List (Tree × Tree)) (key : Tree)
  deriving Inhabited, Repr

/-- What may come next. -/
inductive Due where
  | value
  /-- The first item of an array, or its end. -/
  | itemOrEnd
  /-- The first key of an object, or its end. -/
  | keyOrEnd
  | key
  | colon
  /-- A comma, or the end of what is open. -/
  | separator
  deriving DecidableEq, Repr

/-- The state between two tokens: the open arrays and objects, how many they are, what is due next,
and the whole document once it is complete. -/
structure Progress where
  stack : List Frame
  depth : Nat
  due : Due
  document : Option Tree
  deriving Repr

/-- The depth from which on arrays and objects cannot be used. -/
def depthLimit : Nat := 128

/-- The state before the first token. -/
def Progress.initial : Progress := ⟨[], 0, .value, none⟩

/-- Puts a complete value where it belongs. -/
def Progress.complete (p : Progress) (v : Tree) : Option Progress :=
  match p.stack with
  | [] => some { p with due := .separator, document := some v }
  | .array items :: rest => some { p with stack := .array (v :: items) :: rest, due := .separator }
  | .member members key :: rest =>
    some { p with stack := .object ((key, v) :: members) :: rest, due := .separator }
  | .object _ :: _ => none

/-- Closes the innermost array or object, which then is a value. -/
def Progress.close (p : Progress) (v : Tree) (rest : List Frame) : Option Progress :=
  { p with stack := rest, depth := p.depth - 1 }.complete
    (if p.depth < depthLimit then v else .unreadable)

/-- Opens an array or object. -/
def Progress.push (p : Progress) (frame : Frame) (due : Due) : Progress :=
  { p with stack := frame :: p.stack, depth := p.depth + 1, due }

/-- Takes a token that starts a value. -/
def Progress.startValue (p : Progress) : Token → Option Progress
  | .openBracket => some (p.push (.array []) .itemOrEnd)
  | .openBrace => some (p.push (.object []) .keyOrEnd)
  | .string v => p.complete v
  | .word v => p.complete v
  | _ => none

/-- Takes a token that is a key. -/
def Progress.takeKey (p : Progress) (token : Token) : Option Progress :=
  match p.stack, token with
  | .object members :: rest, .string key =>
    some { p with stack := .member members key :: rest, due := .colon }
  | _, _ => none

/-- Takes a comma, or the end of what is open. -/
def Progress.takeSeparator (p : Progress) (token : Token) : Option Progress :=
  match p.stack, token with
  | .array _ :: _, .comma => some { p with due := .value }
  | .array items :: rest, .closeBracket => p.close (.array items.reverse) rest
  | .object _ :: _, .comma => some { p with due := .key }
  | .object members :: rest, .closeBrace => p.close (.record members.reverse) rest
  | _, _ => none

/-- Takes one token. -/
def Progress.take (p : Progress) (token : Token) : Option Progress :=
  match p.due with
  | .value => p.startValue token
  | .itemOrEnd =>
    match token with
    | .closeBracket => p.takeSeparator token
    | _ => p.startValue token
  | .keyOrEnd =>
    match token with
    | .closeBrace => p.takeSeparator token
    | _ => p.takeKey token
  | .key => p.takeKey token
  | .colon =>
    match token with
    | .colon => some { p with due := .value }
    | _ => none
  | .separator => p.takeSeparator token

/-- Takes tokens in order. -/
def Progress.takeAll (p : Progress) : List Token → Option Progress
  | [] => some p
  | token :: rest =>
    match p.take token with
    | none => none
    | some next => next.takeAll rest

/-- The document that a text denotes. -/
def parse? (text : String) : Option Tree := do
  let tokens ← tokens? text.toList
  let progress ← Progress.initial.takeAll tokens
  if progress.stack.isEmpty then progress.document else none

end IsisTestbed.Json
