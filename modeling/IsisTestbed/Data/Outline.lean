/-!
Outlines: which parts of a document its reader looks at. Everything else is skipped unseen, so that
what is wrong there does not matter.
-/

namespace IsisTestbed

/-- The parts of a document that its reader looks at. -/
inductive Outline where
  /-- One scalar. -/
  | scalar
  /-- The items of a sequence. -/
  | list (items : Outline)
  /-- The members of a record that have one of the given names. -/
  | record (fields : List (List String × Outline))
  /-- All parts, at any depth. -/
  | whole
  deriving Inhabited, Repr

namespace Outline

/-- What is looked at of each item of a sequence; `none` if sequences are not looked into. -/
def items? : Outline → Option Outline
  | .list items => some items
  | .whole => some .whole
  | _ => none

/-- What is looked at of each key of a record; `none` if records are not looked into. -/
def keys? : Outline → Option Outline
  | .record _ => some .scalar
  | .whole => some .whole
  | _ => none

/-- What is looked at of the member of a record with a key, given the text of the key; `none` if the
member is skipped. -/
def member? (o : Outline) (key : Option String) : Option Outline :=
  match o with
  | .record fields => key.bind fun s => (fields.find? fun f => f.1.contains s).map (·.2)
  | .whole => some .whole
  | _ => none

end Outline

end IsisTestbed
