import IsisTestbed.Address.Ipv4

/-!
IPv6 addresses: eight groups, their compressed text, and the reading of any accepted spelling. In
the text the longest run of at least two zero groups, the first one of several, becomes `::`.
-/

namespace IsisTestbed

/-- An IPv6 address as its eight groups, the most significant first. -/
structure Ipv6 where
  groups : Vector UInt16 8
  deriving DecidableEq, Repr

namespace Ipv6

/-- The number of zero groups at the front. -/
def leadingZeros : List UInt16 → Nat
  | [] => 0
  | g :: rest => if g = 0 then leadingZeros rest + 1 else 0

/-- The position and length of the first longest run of zero groups, at position `index` or
later. -/
def longestRun (index : Nat) : List UInt16 → Nat × Nat
  | [] => (0, 0)
  | g :: rest =>
    let here := leadingZeros (g :: rest)
    let later := longestRun (index + 1) rest
    if later.2 ≤ here then (index, here) else later

/-- Groups in hexadecimal, separated by colons. -/
def colonText : List UInt16 → List Char
  | [] => []
  | [g] => Text.hex g.toNat
  | g :: rest => Text.hex g.toNat ++ ':' :: colonText rest

/-- The last two groups as an IPv4 address. -/
def embedded (high low : UInt16) : Ipv4 :=
  ⟨UInt8.ofNat (high.toNat / 256), UInt8.ofNat (high.toNat % 256), UInt8.ofNat (low.toNat / 256),
    UInt8.ofNat (low.toNat % 256)⟩

/-- The compressed text of an address. An address of the block that stands for IPv4 addresses ends
in the dotted form. -/
def text (ip : Ipv6) : String :=
  let groups := ip.groups.toList
  match groups with
  | [0, 0, 0, 0, 0, 0xffff, high, low] => "::ffff:" ++ (embedded high low).text
  | _ =>
    let (start, length) := longestRun 0 groups
    if 1 < length then
      String.ofList (colonText (groups.take start) ++ [':', ':'] ++
        colonText (groups.drop (start + length)))
    else String.ofList (colonText groups)

/-- One group in at most four hexadecimal digits. -/
def group? (cs : List Char) : Option UInt16 :=
  if 4 < cs.length then none else (Text.ofDigits? 16 cs).map UInt16.ofNat

/-- The parts of a text between its colons. -/
def splitColons : List Char → List (List Char)
  | [] => [[]]
  | ':' :: rest => [] :: splitColons rest
  | c :: rest =>
    match splitColons rest with
    | [] => [[c]]
    | part :: parts => (c :: part) :: parts

/-- The groups of colon-separated parts; the last part may be a dotted IPv4 address and then counts
for two groups. -/
def groups? : List (List Char) → Option (List UInt16)
  | [] => some []
  | [part] =>
    if part.contains '.' then
      (Ipv4.read? false part).map fun ip =>
        [UInt16.ofNat (ip.a.toNat * 256 + ip.b.toNat), UInt16.ofNat (ip.c.toNat * 256 + ip.d.toNat)]
    else (group? part).map ([·])
  | part :: parts => do some ((← group? part) :: (← groups? parts))

/-- The address with exactly these groups. -/
def ofGroups? (groups : List UInt16) : Option Ipv6 :=
  if h : groups.length = 8 then some ⟨⟨groups.toArray, by simpa using h⟩⟩ else none

/-- A text at its first `::`, if it has one. -/
def splitGap : List Char → List Char × Option (List Char)
  | ':' :: ':' :: rest => ([], some rest)
  | [] => ([], none)
  | c :: rest => let (before, after) := splitGap rest; (c :: before, after)

/-- The groups on one side of a gap, where no text means no groups. -/
def side? (dotted : Bool) (cs : List Char) : Option (List UInt16) :=
  if cs.isEmpty then some []
  else if !dotted && cs.contains '.' then none
  else groups? (splitColons cs)

/-- The address that a text denotes. A gap `::` stands for at least one zero group. -/
def read? (cs : List Char) : Option Ipv6 :=
  match splitGap cs with
  | (_, none) => (groups? (splitColons cs)).bind ofGroups?
  | (before, some after) => do
    let front ← side? false before
    let back ← side? true after
    let missing := 8 - (front.length + back.length)
    if missing = 0 then none
    else ofGroups? (front ++ List.replicate missing 0 ++ back)

/-- The address that a text denotes. -/
def ofText? (s : String) : Option Ipv6 :=
  read? s.toList

end Ipv6

end IsisTestbed
