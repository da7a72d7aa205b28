import IsisTestbed.Yaml.Indentation

/-!
The nodes of a YAML document. The tokens are taken one by one, with a stack of the collections that
are still open, so that the depth of a document costs no recursion.
-/

namespace IsisTestbed.Yaml

/-- A node. Anchors are numbered in the order of their nodes, and an alias refers to a number. -/
inductive Node where
  | scalar (style : Style) (tag : Option Tag) (text : String)
  | sequence (tag : Option Tag) (items : List Node)
  | mapping (tag : Option Tag) (members : List (Node × Node))
  | alias (anchor : Nat)
  | anchored (anchor : Nat) (node : Node)
  deriving Inhabited, Repr

/-- The anchor and the tag in front of a node. -/
structure Properties where
  anchor : Option String := none
  tag : Option Tag := none
  deriving DecidableEq, Repr, Inhabited

/-- What the next node of a mapping is. -/
inductive Slot where
  /-- A key behind its mark. -/
  | key
  /-- A key without a mark, which has no value. -/
  | bareKey
  /-- The value of a key. -/
  | value (key : Node)
  deriving Inhabited, Repr

/-- The head of a collection: the number of its anchor, and its tag. -/
structure Head where
  anchor : Option Nat
  tag : Option Tag
  deriving DecidableEq, Repr, Inhabited

/-- A collection that is still open; what it holds so far comes in reverse. -/
inductive Frame where
  | blockSequence (head : Head) (items : List Node)
  /-- A sequence without an indentation of its own. -/
  | flushSequence (head : Head) (items : List Node)
  | blockMapping (head : Head) (members : List (Node × Node)) (slot : Slot)
  | flowSequence (head : Head) (items : List Node)
  | flowMapping (head : Head) (members : List (Node × Node)) (slot : Slot)
  /-- A mapping of one member that is an item of a flow sequence. -/
  | flowPair (slot : Slot)
  deriving Inhabited, Repr

/-- What may come next. -/
inductive Due where
  /-- Directives, or the first token of the document. -/
  | document (directives : Bool)
  /-- A node, whose properties are known so far. -/
  | node (properties : Properties)
  /-- A mark of the innermost collection, or its end. -/
  | mark
  /-- An item of a flow collection, or its end. -/
  | flowItem
  /-- A comma, or the end of a flow collection. -/
  | flowComma
  /-- The colon behind a key of a pair that has just been marked as empty. -/
  | pairColon
  /-- The end of the text. -/
  | finished (root : Node)
  deriving Inhabited, Repr

/-- The state between two tokens. -/
structure Parsing where
  due : Due := .document false
  stack : List Frame := []
  /-- The handles of tags and what they stand for. -/
  handles : List (String × List UInt8) := []
  hasVersion : Bool := false
  /-- The names of anchors and their numbers. -/
  anchors : List (String × Nat) := []

namespace Parsing

/-! ### Nodes -/

/-- The node that an empty place stands for. -/
def emptyNode : Node :=
  .scalar .plain none ""

/-- A node with its anchor. -/
def wrap (anchor : Option Nat) (n : Node) : Node :=
  match anchor with
  | some a => .anchored a n
  | none => n

/-- Gives an anchor its number, which is the number of names so far. A name that is used again gets
a new number. -/
def define (p : Parsing) (name : Option String) : Parsing × Option Nat :=
  match name with
  | none => (p, none)
  | some s =>
    let number := p.anchors.length
    let others := p.anchors.filter fun a => a.1 != s
    ({ p with anchors := (s, number) :: others }, some number)

/-- The meaning of a tag, given as a handle and a suffix. -/
def resolveTag (p : Parsing) (handle : String) (suffix : List UInt8) : Option Tag :=
  if handle.isEmpty then some (Tag.ofOctets suffix)
  else match p.handles.find? fun h => h.1 == handle with
    | some (_, expansion) => some (Tag.ofOctets (expansion ++ suffix))
    | none =>
      if handle = "!" then some (Tag.ofOctets (Tag.exclamation :: suffix))
      else if handle = "!!" then some (Tag.ofOctets (Tag.standard ++ suffix))
      else none

/-- Puts a complete node where it belongs. -/
def complete (p : Parsing) (n : Node) : Parsing :=
  match p.stack with
  | [] => { p with due := .finished n }
  | .blockSequence h items :: rest =>
    { p with stack := .blockSequence h (n :: items) :: rest, due := .mark }
  | .flushSequence h items :: rest =>
    { p with stack := .flushSequence h (n :: items) :: rest, due := .mark }
  | .blockMapping h members (.value key) :: rest =>
    { p with stack := .blockMapping h ((key, n) :: members) .key :: rest, due := .mark }
  | .blockMapping h members _ :: rest =>
    { p with stack := .blockMapping h members (.value n) :: rest, due := .mark }
  | .flowSequence h items :: rest =>
    { p with stack := .flowSequence h (n :: items) :: rest, due := .flowComma }
  | .flowMapping h members (.value key) :: rest =>
    { p with stack := .flowMapping h ((key, n) :: members) .key :: rest, due := .flowComma }
  | .flowMapping h members .bareKey :: rest =>
    { p with stack := .flowMapping h ((n, emptyNode) :: members) .key :: rest, due := .flowComma }
  | .flowMapping h members .key :: rest =>
    { p with stack := .flowMapping h members (.value n) :: rest, due := .mark }
  | .flowPair (.value key) :: .flowSequence h items :: rest =>
    let pair : Node := .mapping none [(key, n)]
    { p with stack := .flowSequence h (pair :: items) :: rest, due := .flowComma }
  | .flowPair _ :: rest => { p with stack := .flowPair (.value n) :: rest, due := .mark }

/-- Closes the innermost collection, which then is a node. -/
def close (p : Parsing) (h : Head) (n : Node) (rest : List Frame) : Parsing :=
  { p with stack := rest }.complete (wrap h.anchor n)

/-- Whether the node that is due may be empty if a token follows, given the innermost collection. -/
def allowsEmpty (stack : List Frame) (t : Token) : Bool :=
  match stack with
  | [] =>
    match t with
    | .versionDirective _ _ | .tagDirective _ _ | .documentStart | .documentEnd => true
    | _ => false
  | .blockSequence _ _ :: _ => t == .blockEntry || t == .blockEnd
  | .flushSequence _ _ :: _ =>
    t == .blockEntry || t == .key || t == .value || t == .blockEnd
  | .blockMapping _ _ _ :: _ => t == .key || t == .value || t == .blockEnd
  | .flowSequence _ _ :: _ => false
  | .flowMapping _ _ .key :: _ => t == .value || t == .flowEntry || t == .flowMappingEnd
  | .flowMapping _ _ .bareKey :: _ => false
  | .flowMapping _ _ (.value _) :: _ => t == .flowEntry || t == .flowMappingEnd
  | .flowPair (.value _) :: _ => t == .flowEntry || t == .flowSequenceEnd
  | .flowPair _ :: _ => t == .value || t == .flowEntry || t == .flowSequenceEnd

/-- Whether block collections may start in the innermost collection. -/
def allowsBlock : List Frame → Bool
  | [] => true
  | .blockSequence _ _ :: _ => true
  | .flushSequence _ _ :: _ => true
  | .blockMapping _ _ _ :: _ => true
  | _ => false

/-- Whether a sequence without an indentation of its own may start in the innermost collection. -/
def allowsFlush : List Frame → Bool
  | .blockMapping _ _ _ :: _ => true
  | _ => false

/-! ### Marks -/

/-- Takes a comma or the end of a flow collection. -/
def takeFlowComma (p : Parsing) (t : Token) : Option Parsing :=
  match p.stack, t with
  | .flowSequence h items :: rest, .flowSequenceEnd =>
    some (p.close h (.sequence h.tag items.reverse) rest)
  | .flowMapping h members _ :: rest, .flowMappingEnd =>
    some (p.close h (.mapping h.tag members.reverse) rest)
  | .flowSequence _ _ :: _, .flowEntry => some { p with due := .flowItem }
  | .flowMapping _ _ _ :: _, .flowEntry => some { p with due := .flowItem }
  | _, _ => none

/-- Takes the mark of a key, or the end of the innermost block mapping. -/
def takeBlockKey (p : Parsing) (t : Token) : Option Parsing :=
  match p.stack, t with
  | .blockMapping _ _ .key :: _, .key => some { p with due := .node {} }
  | .blockMapping h members .key :: rest, .blockEnd =>
    some (p.close h (.mapping h.tag members.reverse) rest)
  | _, _ => none

/-- Takes the colon behind a key, or a token in front of which the value is empty. -/
def takeColon (p : Parsing) (t : Token) : Option Parsing :=
  match t with
  | .value => some { p with due := .node {} }
  | _ =>
    let next := p.complete emptyNode
    match next.due with
    | .flowComma => next.takeFlowComma t
    | _ => next.takeBlockKey t

/-- Takes a mark of a block mapping. -/
def takeMappingMark (p : Parsing) (t : Token) : Option Parsing :=
  match p.stack with
  | .blockMapping _ _ (.value _) :: _ => p.takeColon t
  | _ => p.takeBlockKey t

/-- Takes a mark of the innermost collection. -/
def takeMark (p : Parsing) (t : Token) : Option Parsing :=
  match p.stack with
  | .blockSequence h items :: rest =>
    match t with
    | .blockEntry => some { p with due := .node {} }
    | .blockEnd => some (p.close h (.sequence h.tag items.reverse) rest)
    | _ => none
  | .flushSequence h items :: rest =>
    match t with
    | .blockEntry => some { p with due := .node {} }
    | _ => (p.close h (.sequence h.tag items.reverse) rest).takeMappingMark t
  | .blockMapping _ _ _ :: _ => p.takeMappingMark t
  | .flowMapping _ _ (.value _) :: _ => p.takeColon t
  | .flowPair (.value _) :: _ => p.takeColon t
  | _ => none

/-- Takes a token behind a complete node. -/
def takeBehind (p : Parsing) (t : Token) : Option Parsing :=
  match p.due with
  | .mark => p.takeMark t
  | .flowComma => p.takeFlowComma t
  | .finished _ => if t == .documentEnd then some p else none
  | _ => none

/-! ### Nodes from tokens -/

/-- Opens a collection. -/
def push (p : Parsing) (properties : Properties) (make : Head → Frame) (due : Due) : Parsing :=
  let (p, number) := p.define properties.anchor
  { p with stack := make ⟨number, properties.tag⟩ :: p.stack, due }

/-- Takes a token where a node is due. -/
def takeNode (p : Parsing) (properties : Properties) (t : Token) : Option Parsing :=
  let bare := properties == {}
  let emptyHere (_ : Unit) : Option Parsing :=
    let (p, number) := p.define properties.anchor
    (p.complete (wrap number (.scalar .plain properties.tag ""))).takeBehind t
  let otherwise (_ : Unit) : Option Parsing := if bare then none else emptyHere ()
  if bare && allowsEmpty p.stack t then
    match p.stack with
    | .flowPair .key :: _ => some { p.complete emptyNode with due := .pairColon }
    | _ => emptyHere ()
  else match t with
    | .alias name =>
      if bare then
        match p.anchors.find? fun a => a.1 == name with
        | some (_, number) => some (p.complete (.alias number))
        | none => none
      else otherwise ()
    | .anchor name =>
      if properties.anchor.isNone then
        some { p with due := .node { properties with anchor := some name } }
      else otherwise ()
    | .tag handle suffix =>
      if properties.tag.isNone then do
        let tag ← p.resolveTag handle suffix
        some { p with due := .node { properties with tag := some tag } }
      else otherwise ()
    | .scalar style text =>
      let (p, number) := p.define properties.anchor
      some (p.complete (wrap number (.scalar style properties.tag text)))
    | .flowSequenceStart => some (p.push properties (.flowSequence · []) .flowItem)
    | .flowMappingStart => some (p.push properties (.flowMapping · [] .key) .flowItem)
    | .blockSequenceStart =>
      if allowsBlock p.stack then some (p.push properties (.blockSequence · []) .mark)
      else otherwise ()
    | .blockMappingStart =>
      if allowsBlock p.stack then some (p.push properties (.blockMapping · [] .key) .mark)
      else otherwise ()
    | .blockEntry =>
      if allowsFlush p.stack then some (p.push properties (.flushSequence · []) (.node {}))
      else otherwise ()
    | _ => otherwise ()

/-- Takes a token where an item of a flow collection is due. -/
def takeFlowItem (p : Parsing) (t : Token) : Option Parsing :=
  match p.stack, t with
  | .flowSequence _ _ :: _, .flowSequenceEnd => p.takeFlowComma t
  | .flowMapping _ _ _ :: _, .flowMappingEnd => p.takeFlowComma t
  | .flowSequence _ _ :: _, .key =>
    some { p with stack := .flowPair .key :: p.stack, due := .node {} }
  | .flowMapping h members _ :: rest, .key =>
    some { p with stack := .flowMapping h members .key :: rest, due := .node {} }
  | .flowSequence _ _ :: _, _ => p.takeNode {} t
  | .flowMapping h members _ :: rest, _ =>
    { p with stack := .flowMapping h members .bareKey :: rest }.takeNode {} t
  | _, _ => none

/-- Takes a token in front of the document. Only one version is accepted twice over: 1.1 and 1.2
read the same. -/
def takeDocument (p : Parsing) (directives : Bool) (t : Token) : Option Parsing :=
  match t with
  | .versionDirective major minor =>
    if p.hasVersion || major != 1 || (minor != 1 && minor != 2) then none
    else some { p with hasVersion := true, due := .document true }
  | .tagDirective handle expansion =>
    if p.handles.any fun h => h.1 == handle then none
    else some { p with handles := (handle, expansion) :: p.handles, due := .document true }
  | .documentStart => some { p with due := .node {} }
  | .documentEnd => none
  | _ => if directives then none else p.takeNode {} t

/-- Takes one token. -/
def take (p : Parsing) (t : Token) : Option Parsing :=
  match p.due with
  | .document directives => p.takeDocument directives t
  | .node properties => p.takeNode properties t
  | .mark => p.takeMark t
  | .flowItem => p.takeFlowItem t
  | .flowComma => p.takeFlowComma t
  | .pairColon => p.takeColon t
  | .finished _ => if t == .documentEnd then some p else none

/-- Takes tokens in order. -/
def takeAll (p : Parsing) : List Token → Option Parsing
  | [] => some p
  | t :: rest =>
    match p.take t with
    | none => none
    | some next => next.takeAll rest

/-- The root of the document at the end of the text; a text may have none. -/
def finish (p : Parsing) : Option (Option Node) :=
  match p.due, p.stack with
  | .document false, _ => some none
  | .node properties, [] =>
    let (_, number) := p.define properties.anchor
    some (some (wrap number (.scalar .plain properties.tag "")))
  | .finished root, _ => some (some root)
  | _, _ => none

end Parsing

/-- The root of the only document of a text, if it has any. -/
def root? (text : String) : Option (Option Node) := do
  let tokens ← tokens? text.toList
  let p ← Parsing.takeAll {} tokens
  p.finish

end IsisTestbed.Yaml
