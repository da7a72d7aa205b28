/-!
Values ready to be written. Every object of the library that has a written form is first turned into
a `Value`; the formats then differ only in how they spell one.
-/

namespace IsisTestbed

/-- A value without any spelling. The fields of a record are written in their order. -/
inductive Value where
  | null
  | bool (b : Bool)
  | nat (n : Nat)
  | float (x : Float)
  | text (s : String)
  | list (items : List Value)
  | record (fields : List (String × Value))
  deriving Inhabited, Repr

end IsisTestbed
