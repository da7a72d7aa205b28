import IsisTestbed.Topology.Builder
import IsisTestbed.Proofs.Address.RoundTrip

/-!
The addresses that are derived for links, routers and routes. IPv6 addresses are assembled as text
with decimal numbers in the place of hexadecimal groups. For the numbers of nodes such a text always
denotes an address, so deriving an address never fails; the definitions here say which address it
is.
-/

namespace IsisTestbed.Topology

/-! ### Numbers as octets and groups -/

theorem octet_eq {n : Nat} (h : n < 256) : octet n = .ok (UInt8.ofNat n) :=
  if_pos h

/-- The group whose hexadecimal digits are the last three decimal digits of a number. -/
def decimalGroup (n : Nat) : UInt16 :=
  UInt16.ofNat (n / 100 % 10 * 256 + n / 10 % 10 * 16 + n % 10)

/-- The decimal text of a number, read as hexadecimal digits. -/
theorem digitsFrom?_hex_decimal {n : Nat} (h : n < 1000) :
    Text.digitsFrom? 16 0 (Text.decimal n) =
      some (n / 100 % 10 * 256 + n / 10 % 10 * 16 + n % 10) := by
  have digit (d : Nat) (hd : d < 10) : Text.digit? 16 d.digitChar = some d :=
    Text.digit?_digitChar (by decide) (by omega)
  unfold Text.decimal
  rw [Nat.toDigits_eq_if (by decide)]
  split
  · next one => simp [Text.digitsFrom?, digit n one]; omega
  · next more =>
    rw [Nat.toDigits_eq_if (by decide)]
    have last := digit (n % 10) (by omega)
    split
    · next two =>
      simp [Text.digitsFrom?, digit (n / 10) two, last]
      omega
    · next three =>
      rw [Nat.toDigits_eq_if (by decide), if_pos (by omega)]
      simp [Text.digitsFrom?, digit (n / 10 / 10) (by omega), digit (n / 10 % 10) (by omega), last]
      omega

/-- A number of at most three decimal digits is read as a group. -/
theorem group?_decimal {n : Nat} (h : n < 1000) :
    Ipv6.group? (Text.decimal n) = some (decimalGroup n) := by
  have short : (Text.decimal n).length ≤ 3 := Text.length_decimal_le (by decide) (by omega)
  unfold Ipv6.group?
  rw [if_neg (by omega), Text.ofDigits?_eq_digitsFrom? (Text.decimal_ne_nil n),
    digitsFrom?_hex_decimal h]
  rfl

theorem mapM_group?_decimal {numbers : List Nat} (h : ∀ n ∈ numbers, n < 1000) :
    (numbers.map Text.decimal).mapM Ipv6.group? = some (numbers.map decimalGroup) := by
  induction numbers with
  | nil => rfl
  | cons n rest ih =>
    have first := group?_decimal (h n (by simp))
    have more := ih fun m hm => h m (List.mem_cons_of_mem _ hm)
    simp [first, more]

/-! ### Assembled addresses -/

/-- A group in hexadecimal, a gap, and decimal numbers denote that group, zeros, and the groups with
the digits of the numbers. -/
theorem read?_decimals (first : UInt16) {numbers : List Nat} (small : ∀ n ∈ numbers, n < 1000)
    (few : numbers.length < 7) :
    Ipv6.read? (Text.hex first.toNat ++ ':' :: ':' :: Ipv6.colonJoined (numbers.map Text.decimal)) =
      Ipv6.ofGroups? (first :: List.replicate (7 - numbers.length) 0 ++
        numbers.map decimalGroup) := by
  have front : [Text.hex first.toNat].mapM Ipv6.group? = some [first] := by
    simp [Ipv6.group?_hex]
  have hfront : ∀ p ∈ [Text.hex first.toNat], Ipv6.IsGroupText p := by
    intro p hp
    rw [List.mem_singleton.mp hp]
    exact Ipv6.isGroupText_hex first.toNat
  have hback : ∀ p ∈ numbers.map Text.decimal, Ipv6.IsGroupText p := by
    intro p hp
    obtain ⟨n, _, rfl⟩ := List.mem_map.mp hp
    exact Ipv6.isGroupText_decimal n
  have read := Ipv6.read?_gap hfront hback front (mapM_group?_decimal small)
    (by simpa using by omega)
  have zeros : 8 - ([first].length + (numbers.map decimalGroup).length) = 7 - numbers.length := by
    simp
    omega
  rw [zeros] at read
  exact read

/-- The IPv6 address at one end of the link between two numbered routers. -/
def linkV6Address (first : UInt16) (a b : UInt8) (side : Nat) : Ipv6 :=
  ⟨#v[first, 0, 0, 0, 0, decimalGroup a.toNat, decimalGroup b.toNat, decimalGroup side]⟩

theorem assembledIpv6_linkV6Text (first : UInt16) (a b : UInt8) {side : Nat} (h : side < 1000) :
    assembledIpv6 (linkV6Text first a b side) = .ok (linkV6Address first a b side) := by
  have small : ∀ n ∈ [a.toNat, b.toNat, side], n < 1000 := by
    have := a.toNat_lt
    have := b.toNat_lt
    simp
    omega
  have text : (linkV6Text first a b side).toList = Text.hex first.toNat ++ ':' :: ':' ::
      Ipv6.colonJoined ([a.toNat, b.toNat, side].map Text.decimal) := by
    simp [linkV6Text, Ipv6.colonJoined]
  unfold assembledIpv6 Ipv6.ofText?
  rw [text, read?_decimals first small (by simp)]
  rfl

/-- The first IPv6 address that a node advertises. -/
def v6RouteAddress (first : UInt16) : Position → Ipv6
  | .cell row col => ⟨#v[first, 0, 0, 0, 0, decimalGroup (row + 1), decimalGroup (col + 1), 0]⟩
  | .station index => ⟨#v[first, 0, 0, 0, 0, 0, decimalGroup (index + 1), 0]⟩

/-- Whether the numbers of a position, counted from one, leave room in an octet. -/
def InRange : Position → Prop
  | .cell row col => row < maxNodes ∧ col < maxNodes
  | .station index => index < maxNodes

/-- Whether the numbers of a position, counted from one, have at most three digits. -/
def HasShortNumbers : Position → Prop
  | .cell row col => row < 999 ∧ col < 999
  | .station index => index < 999

theorem InRange.hasShortNumbers {p : Position} (h : InRange p) : HasShortNumbers p := by
  cases p with
  | cell row col =>
    obtain ⟨hrow, hcol⟩ : row < 254 ∧ col < 254 := h
    exact ⟨by omega, by omega⟩
  | station index =>
    have hindex : index < 254 := h
    exact show index < 999 by omega

theorem assembledIpv6_v6RouteText (first : UInt16) {p : Position} (h : HasShortNumbers p) :
    assembledIpv6 (v6RouteText first p) = .ok (v6RouteAddress first p) := by
  unfold assembledIpv6 Ipv6.ofText?
  cases p with
  | cell row col =>
    obtain ⟨hrow, hcol⟩ : row < 999 ∧ col < 999 := h
    have text : (v6RouteText first (.cell row col)).toList = Text.hex first.toNat ++ ':' :: ':' ::
        Ipv6.colonJoined ([row + 1, col + 1, 0].map Text.decimal) := by
      simp [v6RouteText, Ipv6.colonJoined]
      rfl
    rw [text, read?_decimals first (by simp; omega) (by simp)]
    rfl
  | station index =>
    have hindex : index < 999 := h
    have text : (v6RouteText first (.station index)).toList = Text.hex first.toNat ++ ':' :: ':' ::
        Ipv6.colonJoined ([index + 1, 0].map Text.decimal) := by
      simp [v6RouteText, Ipv6.colonJoined]
      rfl
    rw [text, read?_decimals first (by simp; omega) (by simp)]
    rfl

/-! ### Links -/

/-- The addresses at the two ends of a link in the families in use. -/
def plannedAddresses (addressing : LinkAddressing) (a b : UInt8) :
    Option (Ipv4 × Ipv4) × Option (Ipv6 × Ipv6) :=
  (addressing.v4Octet.map fun first => linkV4 first a b,
    addressing.v6Group.map fun first => (linkV6Address first a b 1, linkV6Address first a b 2))

/-- The addresses of a link are derived without failure, whatever numbers its routers have. -/
theorem linkAddresses_eq (addressing : LinkAddressing) (a b : UInt8) :
    linkAddresses addressing a b = .ok (plannedAddresses addressing a b) := by
  unfold linkAddresses plannedAddresses
  cases addressing.v6Group with
  | none => rfl
  | some first =>
    simp only [linkV6, assembledIpv6_linkV6Text first a b (by decide : 1 < 1000),
      assembledIpv6_linkV6Text first a b (by decide : 2 < 1000)]
    rfl

/-! ### Routers -/

/-- The traffic-engineering router id of a node. -/
def plannedRouterId : Position → Ipv4
  | .cell row col => ⟨10, 10, UInt8.ofNat row, UInt8.ofNat col⟩
  | .station index => ⟨10, 10, 0, UInt8.ofNat index⟩

/-- The first IPv4 address that a node advertises. -/
def plannedV4Route (first : UInt8) : Position → Ipv4
  | .cell row col => ⟨first, UInt8.ofNat (row + 1), UInt8.ofNat (col + 1), 0⟩
  | .station index => ⟨first, 0, UInt8.ofNat (index + 1), 0⟩

theorem teRouterId_eq {p : Position} (h : InRange p) : teRouterId p = .ok (plannedRouterId p) := by
  cases p with
  | cell row col =>
    obtain ⟨hrow, hcol⟩ : row < 254 ∧ col < 254 := h
    simp only [teRouterId, octet_eq (show row < 256 by omega), octet_eq (show col < 256 by omega)]
    rfl
  | station index =>
    have hindex : index < 254 := h
    simp only [teRouterId, octet_eq (show index < 256 by omega)]
    rfl

theorem v4RouteAddress_eq (first : UInt8) {p : Position} (h : InRange p) :
    v4RouteAddress first p = .ok (plannedV4Route first p) := by
  cases p with
  | cell row col =>
    obtain ⟨hrow, hcol⟩ : row < 254 ∧ col < 254 := h
    simp only [v4RouteAddress, octet_eq (show row + 1 < 256 by omega),
      octet_eq (show col + 1 < 256 by omega)]
    rfl
  | station index =>
    have hindex : index < 254 := h
    simp only [v4RouteAddress, octet_eq (show index + 1 < 256 by omega)]
    rfl

/-- The node of a number at a position. -/
def plannedNode (plan : RouterPlan) (index : Nat) (p : Position) : Node :=
  ⟨nodeName plan.systemIdOctet index p,
    nodeSystemId plan.systemIdOctet (UInt8.ofNat (index + 1)), p⟩

/-- The ISIS router of a node. -/
def plannedRouter (plan : RouterPlan) (index : Nat) (p : Position) : Router :=
  let node := plannedNode plan index p
  { name := node.routerName
    systemId := node.systemId
    basics := some
      { teRouterId := some (plannedRouterId p).text, hostname := some node.name,
        wideMetric := some true }
    v4Routes := plan.v4Routes.toList.map fun r =>
      simulatedRoute (node.routerName ++ ".isis.v4routes") (plannedV4Route r.firstOctet p).text
        r.prefixLength r.count
    v6Routes := plan.v6Routes.toList.map fun r =>
      simulatedRoute (node.routerName ++ ".isis.v6routes") (v6RouteAddress r.firstGroup p).text
        r.prefixLength r.count }

/-- The device of a node before it is linked. -/
def plannedDevice (plan : RouterPlan) (index : Nat) (p : Position) : Device :=
  { name := (plannedNode plan index p).name, isis := some (plannedRouter plan index p) }

theorem v4RouteRanges_eq (routes : Option V4Routes) (router : String) {p : Position}
    (h : InRange p) :
    v4RouteRanges routes router p = .ok (routes.toList.map fun r =>
      simulatedRoute (router ++ ".isis.v4routes") (plannedV4Route r.firstOctet p).text
        r.prefixLength r.count) := by
  cases routes with
  | none => rfl
  | some r =>
    simp only [v4RouteRanges, v4RouteAddress_eq r.firstOctet h]
    rfl

theorem v6RouteRanges_eq (routes : Option V6Routes) (router : String) {p : Position}
    (h : HasShortNumbers p) :
    v6RouteRanges routes router p = .ok (routes.toList.map fun r =>
      simulatedRoute (router ++ ".isis.v6routes") (v6RouteAddress r.firstGroup p).text
        r.prefixLength r.count) := by
  cases routes with
  | none => rfl
  | some r =>
    simp only [v6RouteRanges, assembledIpv6_v6RouteText r.firstGroup h]
    rfl

/-- A node with a position in range is made without failure. -/
theorem makeNode_eq (plan : RouterPlan) (index : Nat) {p : Position} (h : InRange p) :
    makeNode plan (UInt8.ofNat (index + 1)) index p =
      .ok (plannedNode plan index p, plannedDevice plan index p) := by
  simp only [makeNode, teRouterId_eq h, v4RouteRanges_eq _ _ h,
    v6RouteRanges_eq _ _ h.hasShortNumbers]
  rfl

end IsisTestbed.Topology
