import IsisTestbed.Data.Outline

/-!
Documents as they are read. A `Tree` is what every format turns its text into, before it is known
what the parts are meant to be. It keeps just as much of the spelling as readers may depend on: a
quoted `12` is text, and a bare `12` in a format without quotes is text or a number, as its reader
wants.
-/

namespace IsisTestbed

/-- What a single scalar may stand for. -/
inductive Scalar where
  | null
  | bool (b : Bool)
  | nat (n : Nat)
  /-- The negative integer `-n`. -/
  | negative (n : Nat)
  /-- A scalar that is of no use except as text, such as an integer of more than 64 bits. -/
  | unusable
  | float (x : Float)
  | text (s : String)
  deriving Inhabited, Repr

/-- A scalar that can be kept while its use is not yet known. -/
def Scalar.usable? : Scalar → Option Scalar
  | .unusable => none
  | v => some v

/-- A scalar with a type mark. -/
structure Marked where
  text : String
  /-- What it reads as. -/
  value : Scalar
  /-- What it is kept as when it is set aside, if its mark fits its text. -/
  kept : Option Scalar
  /-- Whether it may stand where a part may be absent. -/
  mayBeOptional : Bool
  /-- Whether it is an empty place if its text is empty. -/
  bare : Bool
  deriving Inhabited, Repr

/-- A document that was read but not yet interpreted. -/
inductive Tree where
  /-- A scalar whose spelling fixes its type. -/
  | typed (value : Scalar)
  /-- Bare text that also reads as `value`. -/
  | plain (text : String) (value : Scalar)
  | marked (scalar : Marked)
  /-- A scalar that was set aside before its use was known. -/
  | held (value : Scalar)
  /-- A sequence that may also stand for a record, its fields in order. -/
  | array (items : List Tree)
  /-- A sequence that is never a record. -/
  | list (items : List Tree)
  | record (members : List (Tree × Tree))
  /-- A part that carries the name of a variant. -/
  | variant (name : String) (content : Tree)
  /-- A part that may be skipped but not used. -/
  | unreadable
  deriving Inhabited, Repr

namespace Tree

/-! ### Scalars -/

/-- The text of a scalar. Bare text is text whatever else it could be. -/
def text? : Tree → Option String
  | .typed (.text s) => some s
  | .plain s _ => some s
  | .marked m => some m.text
  | .held (.text s) => some s
  | .variant _ t => text? t
  | _ => none

/-- The natural number of a scalar. -/
def nat? : Tree → Option Nat
  | .typed (.nat n) => some n
  | .plain _ (.nat n) => some n
  | .marked ⟨_, .nat n, _, _, _⟩ => some n
  | .held (.nat n) => some n
  | .held (.negative 0) => some 0
  | .variant _ t => nat? t
  | _ => none

/-- The truth value of a scalar. -/
def bool? : Tree → Option Bool
  | .typed (.bool b) => some b
  | .plain _ (.bool b) => some b
  | .marked ⟨_, .bool b, _, _, _⟩ => some b
  | .held (.bool b) => some b
  | .variant _ t => bool? t
  | _ => none

/-- The float of a scalar that was set aside; integers are floats too. A zero that is an integer has
no sign. -/
def float? : Tree → Option Float
  | .held (.float x) => some x
  | .held (.nat n) => some (Float.ofNat n)
  | .held (.negative n) => some (0 - Float.ofNat n)
  | _ => none

/-- The name of a constant: a text, a record with this one name and no value, or the name of a
variant without content. -/
def constant? : Tree → Option String
  | .typed (.text s) => some s
  | .plain s _ => some s
  | .record [(.typed (.text s), .typed .null)] => some s
  | .marked m => some m.text
  | .variant s (.plain _ .null) => some s
  | _ => none

/-! ### Setting aside -/

/-- A scalar kept for later. -/
def holdScalar (v : Scalar) : Option Tree :=
  v.usable?.map .held

mutual

/-- The part as it is kept while its use is not yet known. From then on every scalar has exactly one
type, and sequences may stand for records. -/
def hold : Tree → Option Tree
  | .typed v => holdScalar v
  | .plain _ v => holdScalar v
  | .held v => some (.held v)
  | .array items => (holdItems items).map .array
  | .list items => (holdItems items).map .array
  | .record members => (holdMembers members).map .record
  | .marked m => m.kept.map .held
  | .variant _ _ => none
  | .unreadable => none

/-- Each item of a sequence as it is kept. -/
def holdItems : List Tree → Option (List Tree)
  | [] => some []
  | t :: rest => do some ((← hold t) :: (← holdItems rest))

/-- Each member of a record as it is kept. -/
def holdMembers : List (Tree × Tree) → Option (List (Tree × Tree))
  | [] => some []
  | (key, value) :: rest => do some ((← hold key, ← hold value) :: (← holdMembers rest))

end

/-! ### Sequences and records -/

/-- The items of a sequence. An empty place stands for the empty sequence. -/
def items? : Tree → Option (List Tree)
  | .array items => some items
  | .list items => some items
  | .plain "" _ => some []
  | .marked ⟨"", _, _, _, true⟩ => some []
  | .variant _ t => items? t
  | _ => none

/-- The items of a sequence, each read the same way. -/
def list? {α : Type} (read : Tree → Option α) (t : Tree) : Option (List α) :=
  (items? t).bind (List.mapM read)

/-- A part that may be absent. -/
def optional? {α : Type} (read : Tree → Option α) (t : Tree) : Option (Option α) :=
  match t with
  | .typed .null => some none
  | .held .null => some none
  | .plain _ .null => some none
  | .marked ⟨_, .null, _, _, _⟩ => some none
  | .marked ⟨_, _, _, false, _⟩ => none
  | _ => (read t).map some

/-- A field of a record type. -/
structure Field where
  name : String
  /-- Other names under which the field is accepted. -/
  aliases : List String
  /-- Whether the field may be left off at the end of a record written as a sequence. -/
  mayEnd : Bool
  /-- What is looked at of its value. -/
  outline : Outline
  deriving Repr

/-- How a member of a record refers to a field. -/
inductive Key where
  | name (s : String)
  | index (n : Nat)
  deriving DecidableEq, Repr

/-- The reference that a member's key makes. Only keys that were set aside count positions. -/
def key? : Tree → Option Key
  | .held (.nat n) => some (.index n)
  | t => (text? t).map .name

/-- Whether a key refers to the field at position `index`. -/
def Key.refersTo (index : Nat) (field : Field) : Key → Bool
  | .name s => s == field.name || field.aliases.contains s
  | .index n => n == index

/-- The value that the members give to one field, if any. A field given twice is refused. -/
def memberValue? (members : List (Key × Tree)) (index : Nat) (field : Field) :
    Option (Option Tree) :=
  match members.filter fun m => m.1.refersTo index field with
  | [] => some none
  | [m] => some (some m.2)
  | _ => none

/-- The values of the fields from position `index` on. Members that refer to no field are
skipped. -/
def memberValues? (members : List (Key × Tree)) : Nat → List Field → Option (List (Option Tree))
  | _, [] => some []
  | index, field :: rest => do
    some ((← memberValue? members index field) :: (← memberValues? members (index + 1) rest))

/-- The values of the fields of a record written as a sequence. -/
def positionalValues? : List Field → List Tree → Option (List (Option Tree))
  | [], [] => some []
  | [], _ :: _ => none
  | field :: fields, [] =>
    if field.mayEnd then (positionalValues? fields []).map (none :: ·) else none
  | _ :: fields, t :: rest => (positionalValues? fields rest).map (some t :: ·)

/-- The values that a record gives to its fields. An empty place stands for the empty record. -/
def fieldValues? (fields : List Field) : Tree → Option (List (Option Tree))
  | .record members => do
    let keys ← members.mapM fun m => (key? m.1).map fun k => (k, m.2)
    memberValues? keys 0 fields
  | .array items => positionalValues? fields items
  | .plain "" _ => memberValues? [] 0 fields
  | .marked ⟨"", _, _, _, true⟩ => memberValues? [] 0 fields
  | .variant _ t => fieldValues? fields t
  | _ => none

end Tree

end IsisTestbed
