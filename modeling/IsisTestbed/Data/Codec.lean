import IsisTestbed.Data.Tree
import IsisTestbed.Data.Value

/-!
Codecs: for a type, how its objects are written as values and how they are read from trees. Records
are put together field by field, so that the writer and the reader of a type are one definition.
Choices are records whose member `choice` names the variant.
-/

namespace IsisTestbed

/-- How the objects of a type are written and read, and what reading looks at. -/
structure Codec (α : Type) where
  write : α → Value
  read : Tree → Option α
  outline : Outline

namespace Codec

/-! ### Scalars -/

/-- Texts. -/
def text : Codec String where
  write := .text
  read := Tree.text?
  outline := .scalar

/-- Truth values. -/
def bool : Codec Bool where
  write := .bool
  read := Tree.bool?
  outline := .scalar

/-- Floats. -/
def float : Codec Float where
  write := .float
  read := Tree.float?
  outline := .scalar

/-- Naturals below a bound. -/
def natBelow (bound : Nat) : Codec Nat where
  write := .nat
  read t := t.nat?.filter (· < bound)
  outline := .scalar

/-- Objects that are written like those of another type, if they have a counterpart there. -/
def via {α β : Type} (c : Codec β) (view : α → β) (make : β → Option α) : Codec α where
  write x := c.write (view x)
  read t := (c.read t).bind make
  outline := c.outline

/-- Numbers of 8 bits. -/
def uint8 : Codec UInt8 :=
  (natBelow UInt8.size).via UInt8.toNat fun n => some (UInt8.ofNat n)

/-- Numbers of 16 bits. -/
def uint16 : Codec UInt16 :=
  (natBelow UInt16.size).via UInt16.toNat fun n => some (UInt16.ofNat n)

/-- Numbers of 32 bits. -/
def uint32 : Codec UInt32 :=
  (natBelow UInt32.size).via UInt32.toNat fun n => some (UInt32.ofNat n)

/-- Numbers of 64 bits. -/
def uint64 : Codec UInt64 :=
  (natBelow UInt64.size).via UInt64.toNat fun n => some (UInt64.ofNat n)

/-- Counts and positions; they have at most 64 bits. -/
def count : Codec Nat :=
  natBelow UInt64.size

/-- Constants of a type, each under its name. -/
def constants {α : Type} [BEq α] (names : List (String × α)) : Codec α where
  write x := .text (((names.find? fun c => c.2 == x).map Prod.fst).getD "")
  read t := t.constant?.bind fun s => (names.find? fun c => c.1 == s).map Prod.snd
  outline := .scalar

/-! ### Sequences -/

/-- Sequences of any length. -/
def list {α : Type} (c : Codec α) : Codec (List α) where
  write xs := .list (xs.map c.write)
  read := Tree.list? c.read
  outline := .list c.outline

/-- Sequences of exactly two naturals. -/
def pair {α : Type} (c : Codec α) : Codec (α × α) where
  write x := .list [c.write x.1, c.write x.2]
  read t :=
    match t.items? with
    | some [a, b] => do some (← c.read a, ← c.read b)
    | _ => none
  outline := .list c.outline

end Codec

/-! ### Records -/

/-- The fields of a record type whose values together form a `β`. -/
structure Layout (β : Type) where
  fields : List Tree.Field
  write : β → List (String × Value)
  read : List (Option Tree) → Option β

namespace Layout

/-- No fields. -/
def nil : Layout Unit where
  fields := []
  write _ := []
  read values := if values.isEmpty then some () else none

/-- One field in front of others, given how it is written and how its value is read. -/
def field {α β : Type} (name : String) (aliases : List String) (mayEnd : Bool) (outline : Outline)
    (write : α → Option Value) (read : Option Tree → Option α) (rest : Layout β) :
    Layout (α × β) where
  fields := ⟨name, aliases, mayEnd, outline⟩ :: rest.fields
  write x :=
    match write x.1 with
    | some v => (name, v) :: rest.write x.2
    | none => rest.write x.2
  read values :=
    match values with
    | [] => none
    | v :: more => do some (← read v, ← rest.read more)

/-- A field that is always present. -/
def required {α β : Type} (name : String) (c : Codec α) (rest : Layout β) : Layout (α × β) :=
  field name [] false c.outline (fun x => some (c.write x)) (fun v => v.bind c.read) rest

/-- A field that may be absent, and is then not written. -/
def optional {α β : Type} (name : String) (c : Codec α) (rest : Layout β) :
    Layout (Option α × β) :=
  field name [] false c.outline (fun x => x.map c.write)
    (fun v => match v with
      | none => some none
      | some t => t.optional? c.read)
    rest

/-- A field that may be absent, and is then written as null. -/
def nullable {α β : Type} (name : String) (c : Codec α) (rest : Layout β) :
    Layout (Option α × β) :=
  field name [] false c.outline (fun x => some ((x.map c.write).getD .null))
    (fun v => match v with
      | none => some none
      | some t => t.optional? c.read)
    rest

/-- A field that is always written and has a default when it is read; it may go by other names. -/
def defaulted {α β : Type} (name : String) (aliases : List String) (c : Codec α) (default : α)
    (rest : Layout β) : Layout (α × β) :=
  field name aliases true c.outline (fun x => some (c.write x))
    (fun v => match v with
      | none => some default
      | some t => c.read t)
    rest

/-- A sequence that is not written when it is empty. -/
def listed {α β : Type} (name : String) (c : Codec α) (rest : Layout β) : Layout (List α × β) :=
  field name [] true c.list.outline (fun xs => if xs.isEmpty then none else some (c.list.write xs))
    (fun v => match v with
      | none => some []
      | some t => c.list.read t)
    rest

/-- What is looked at of a record with these fields. -/
def outline {β : Type} (l : Layout β) : Outline :=
  .record (l.fields.map fun f => (f.name :: f.aliases, f.outline))

end Layout

namespace Codec

/-- Records with the given fields. -/
def record {α β : Type} (layout : Layout β) (view : α → β) (make : β → α) : Codec α where
  write x := .record (layout.write (view x))
  read t := ((t.fieldValues? layout.fields).bind layout.read).map make
  outline := layout.outline

end Codec

/-! ### Choices -/

/-- One variant of a choice: which objects it covers, with which fields, and how they are read from
a record without its tag. -/
structure Variant (α : Type) where
  name : String
  write : α → Option (List (String × Value))
  read : Tree → Option α

namespace Variant

/-- A variant with fields. -/
def ofFields {α β : Type} (name : String) (layout : Layout β) (view : α → Option β)
    (make : β → α) : Variant α where
  name := name
  write x := (view x).map layout.write
  read t := ((t.fieldValues? layout.fields).bind layout.read).map make

/-- A variant without fields. Members of its record are skipped. -/
def bare {α : Type} [BEq α] (name : String) (x : α) : Variant α where
  name := name
  write y := if y == x then some [] else none
  read t :=
    match t with
    | .record _ => some x
    | .array [] => some x
    | _ => none

end Variant

namespace Codec

/-- The variant that a tag names. A tag that was set aside may also give the variant's position. -/
def variant? {α : Type} (variants : List (Variant α)) : Tree → Option (Variant α)
  | .held (.nat n) => variants[n]?
  | t => t.text?.bind fun s => variants.find? fun v => v.name == s

/-- Whether a key that was set aside is the name of the tag. -/
def isTag (tag : String) : Tree → Bool
  | .held (.text s) => s == tag
  | _ => false

/-- A tagged part split into its tag and the rest, which is set aside. The tag is one of the members
of a record, or the first item of a sequence. -/
def splitTag? (tag : String) : Tree → Option (Tree × Tree)
  | .record members => do
    let keyed ← members.mapM fun m => m.1.hold.map fun key => (key, m.2)
    match keyed.filter fun m => isTag tag m.1 with
    | [m] => do
      let rest ← Tree.holdMembers (keyed.filter fun m => !isTag tag m.1)
      some (m.2, .record rest)
    | _ => none
  | .array (t :: rest) => (Tree.holdItems rest).map fun held => (t, .array held)
  | .list (t :: rest) => (Tree.holdItems rest).map fun held => (t, .array held)
  | _ => none

/-- Choices between variants, told apart by the member `choice`. Everything is looked at, since
what it is for is known only once the tag is found. -/
def choice {α : Type} (variants : List (Variant α)) : Codec α where
  write x :=
    match variants.findSome? fun v => (v.write x).map fun fields => (v.name, fields) with
    | some (name, fields) => .record (("choice", .text name) :: fields)
    | none => .record []
  read t := do
    let (tag, rest) ← splitTag? "choice" t
    let variant ← variant? variants tag
    variant.read rest
  outline := .whole

end Codec

end IsisTestbed
