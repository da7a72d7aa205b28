import IsisTestbed.Text.Digits

/-!
IPv4 addresses and networks: four octets, their dotted text, and an address with the length of its
network part.
-/

namespace IsisTestbed

/-- An IPv4 address. -/
structure Ipv4 where
  a : UInt8
  b : UInt8
  c : UInt8
  d : UInt8
  deriving DecidableEq, Repr, Inhabited

namespace Ipv4

/-- The dotted text of an address. -/
def text (ip : Ipv4) : String :=
  Text.number ip.a.toNat ++ "." ++ Text.number ip.b.toNat ++ "." ++ Text.number ip.c.toNat ++ "." ++
    Text.number ip.d.toNat

/-- The parts of a text between its dots. -/
def splitDots : List Char → List (List Char)
  | [] => [[]]
  | '.' :: rest => [] :: splitDots rest
  | c :: rest =>
    match splitDots rest with
    | [] => [[c]]
    | part :: parts => (c :: part) :: parts

/-- One octet in at most three digits. A number has no leading zero unless `zeros` allows it. -/
def octet? (zeros : Bool) (cs : List Char) : Option UInt8 :=
  if 3 < cs.length then none
  else if !zeros && cs.head? == some '0' && 1 < cs.length then none
  else (Text.ofDigits? 10 cs).bind fun n => if n < 256 then some (UInt8.ofNat n) else none

/-- The address that four dotted octets denote. -/
def read? (zeros : Bool) (cs : List Char) : Option Ipv4 :=
  match splitDots cs with
  | [a, b, c, d] => do some ⟨← octet? zeros a, ← octet? zeros b, ← octet? zeros c, ← octet? zeros d⟩
  | _ => none

/-- The address that a text denotes; octets have no leading zeros. -/
def ofText? (s : String) : Option Ipv4 :=
  read? false s.toList

end Ipv4

/-- An IPv4 address together with the length of its network part, which is no longer than the
address. -/
structure Ipv4Network where
  address : Ipv4
  prefixLength : UInt8
  prefixLength_le : prefixLength ≤ 32 := by decide
  deriving DecidableEq, Repr

namespace Ipv4Network

/-- The address, a slash and the length. -/
def text (n : Ipv4Network) : String :=
  n.address.text ++ "/" ++ Text.number n.prefixLength.toNat

/-- The network that a text denotes. The length has at most two digits and is at most 32; here
octets may have leading zeros. -/
def ofText? (s : String) : Option Ipv4Network := do
  let cs := s.toList
  let address ← Ipv4.read? true (cs.takeWhile (· ≠ '/'))
  match cs.dropWhile (· ≠ '/') with
  | '/' :: digits =>
    if digits.length ≤ 2 then
      let length ← Text.ofDigits? 10 digits
      if h : UInt8.ofNat length ≤ 32 then some ⟨address, UInt8.ofNat length, h⟩ else none
    else none
  | _ => none

end Ipv4Network

end IsisTestbed
