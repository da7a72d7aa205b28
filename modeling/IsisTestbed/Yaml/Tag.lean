/-!
What the tags of YAML nodes mean. A tag is a row of octets, which need not be text: each of its
characters may be escaped octet by octet, and the escapes are only checked for their number.
-/

namespace IsisTestbed.Yaml

/-- The meaning of a tag. -/
inductive Tag where
  /-- A local tag: the name of a variant, to which the application gives a meaning. -/
  | variant (name : String)
  /-- A local tag whose octets are no text. -/
  | unnamed
  | null
  | bool
  | int
  | float
  /-- A tag that means nothing here, except that a scalar with it is text. -/
  | other
  deriving DecidableEq, Repr, Inhabited

namespace Tag

/-- The octets of a text. -/
def octets (s : String) : List UInt8 :=
  s.toUTF8.data.toList

/-- What the tags of the standard types start with. -/
def standard : List UInt8 :=
  octets "tag:yaml.org,2002:"

/-- What local tags start with. -/
def exclamation : UInt8 :=
  0x21

/-- The meaning of a tag of a standard type, given the name of the type. -/
def ofTypeName (name : List UInt8) : Tag :=
  if name = octets "null" then .null
  else if name = octets "bool" then .bool
  else if name = octets "int" then .int
  else if name = octets "float" then .float
  else .other

/-- The meaning of a tag, given its octets. -/
def ofOctets (tag : List UInt8) : Tag :=
  match tag with
  | [] => .other
  | first :: name =>
    if first = exclamation then
      match String.fromUTF8? name.toByteArray with
      | some s => .variant s
      | none => .unnamed
    else if standard.isPrefixOf tag then ofTypeName (tag.drop standard.length)
    else .other

/-- The name of the variant that a tag marks. -/
def variant? : Tag → Option String
  | .variant name => some name
  | _ => none

end Tag

end IsisTestbed.Yaml
