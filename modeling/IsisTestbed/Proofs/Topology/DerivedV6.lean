import IsisTestbed.Proofs.Address.Networks
import IsisTestbed.Proofs.Topology.LinkNumbers

/-!
The IPv6 addresses that are derived for links and nodes. Each is put together as a text in which
decimal numbers stand in the place of hexadecimal groups. Main statement: every such text denotes an
address, different numbers have different addresses, also of a link and of a node, and what is
written into a configuration denotes the same address again. So neither adding a node nor making a
link fails because of an address.
-/

namespace IsisTestbed.Topology

/-! ### What addresses are derived for -/

/-- What an IPv6 address is derived for: one end of a link between two numbered routers, or the
routes of the node at a position. -/
inductive DerivedV6 where
  | linkEnd (first : UInt16) (a b : UInt8) (side : Nat)
  | routes (first : UInt16) (p : Position)

namespace DerivedV6

/-- The text that is put together. -/
def assembled : DerivedV6 → String
  | .linkEnd first a b side => linkV6Text first a b side
  | .routes first p => v6RouteText first p

/-- The address that the text stands for. -/
def address : DerivedV6 → Ipv6
  | .linkEnd first a b side => linkV6Address first a b side
  | .routes first p => v6RouteAddress first p

/-- Whether a link end has one of the two sides, and a position short numbers. Three decimal digits
are more than the numbers of a topology have. -/
inductive InBounds : DerivedV6 → Prop where
  | linkEnd {first : UInt16} {a b : UInt8} {side : Nat} (hside : side = 1 ∨ side = 2) :
      InBounds (.linkEnd first a b side)
  | routes {first : UInt16} {p : Position} (short : HasShortNumbers p) :
      InBounds (.routes first p)

/-- The group in front of the gap. -/
def first : DerivedV6 → UInt16
  | .linkEnd first _ _ _ => first
  | .routes first _ => first

/-- The numbers in the last three groups. -/
def numbers : DerivedV6 → Nat × Nat × Nat
  | .linkEnd _ a b side => (a.toNat, b.toNat, side)
  | .routes _ (.cell row col) => (row + 1, col + 1, 0)
  | .routes _ (.station index) => (0, index + 1, 0)

/-- What a first group and numbers are derived for. Only the routes of nodes end in zero, and only
those of a ring have a zero in front of their number. -/
def ofNumbers (first : UInt16) : Nat × Nat × Nat → DerivedV6
  | (0, n, 0) => .routes first (.station (n - 1))
  | (m, n, 0) => .routes first (.cell (m - 1) (n - 1))
  | (m, n, side) => .linkEnd first (UInt8.ofNat m) (UInt8.ofNat n) side

variable {x y : DerivedV6}

theorem InBounds.ofNumbers_numbers (h : x.InBounds) : ofNumbers x.first x.numbers = x := by
  cases h with
  | linkEnd hside => rcases hside with rfl | rfl <;> simp [first, numbers, ofNumbers]
  | @routes first p short => cases p <;> rfl

/-- The address consists of the first group, a gap, and the numbers. -/
theorem address_eq_gapped (x : DerivedV6) :
    x.address = Ipv6.gapped x.first (decimalGroup x.numbers.1) (decimalGroup x.numbers.2.1)
      (decimalGroup x.numbers.2.2) := by
  have zero : decimalGroup 0 = 0 := by decide
  cases x with
  | linkEnd first a b side => rfl
  | routes first p =>
    cases p <;> simp only [address, v6RouteAddress, DerivedV6.first, numbers, zero, Ipv6.gapped]

/-! ### The text denotes the address -/

theorem assembledIpv6_assembled (h : x.InBounds) : assembledIpv6 x.assembled = .ok x.address := by
  cases h with
  | @linkEnd first a b side hside =>
    have short : side < 1000 := by omega
    rw [assembled, address, assembledIpv6_linkV6Text first a b short]
  | routes short => rw [assembled, address, assembledIpv6_v6RouteText _ short]

/-- The group for a number is what its decimal digits are as hexadecimal ones. -/
theorem ofDigits?_decimal_eq_decimalGroup {n : Nat} (h : n < 1000) :
    Text.ofDigits? 16 (Text.decimal n) = some (decimalGroup n).toNat := by
  rw [Text.ofDigits?_eq_digitsFrom? (Text.decimal_ne_nil n), digitsFrom?_hex_decimal h,
    decimalGroup, UInt16.toNat_ofNat_of_lt' (show _ < 65536 by omega)]

/-! ### The address tells the numbers -/

theorem InBounds.numbers_lt (h : x.InBounds) :
    x.numbers.1 < 1000 ∧ x.numbers.2.1 < 1000 ∧ x.numbers.2.2 < 1000 := by
  cases h with
  | @linkEnd _ a b side hside =>
    exact ⟨octet_lt_thousand a, octet_lt_thousand b, show side < 1000 by omega⟩
  | @routes _ p short =>
    cases p with
    | cell row col =>
      obtain ⟨hrow, hcol⟩ : row < 999 ∧ col < 999 := short
      exact ⟨Nat.succ_lt_succ hrow, Nat.succ_lt_succ hcol, show 0 < 1000 by decide⟩
    | station index =>
      have hindex : index < 999 := short
      exact ⟨show 0 < 1000 by decide, Nat.succ_lt_succ hindex, show 0 < 1000 by decide⟩

/-- Addresses are equal only if they are derived for the same. -/
theorem address_inj (hx : x.InBounds) (hy : y.InBounds) (h : x.address = y.address) :
    x = y := by
  rw [address_eq_gapped, address_eq_gapped] at h
  obtain ⟨first, one, two, three⟩ := Ipv6.gapped_inj h
  obtain ⟨hx₁, hx₂, hx₃⟩ := hx.numbers_lt
  obtain ⟨hy₁, hy₂, hy₃⟩ := hy.numbers_lt
  have numbers : x.numbers = y.numbers :=
    Prod.ext (decimalGroup_inj hx₁ hy₁ one)
      (Prod.ext (decimalGroup_inj hx₂ hy₂ two) (decimalGroup_inj hx₃ hy₃ three))
  rw [← hx.ofNumbers_numbers, ← hy.ofNumbers_numbers, first, numbers]

end DerivedV6

/-! ### What is written -/

/-- Whether an ethernet has one IPv6 address object, with the texts of two addresses. -/
def HoldsV6 (e : Ethernet) (own gateway : Ipv6) : Prop :=
  ∃ x, e.ipv6 = [x] ∧ x.address = own.text ∧ x.gateway = gateway.text

/-- Whether the last ethernet of the device at a position holds two addresses. -/
def EndsInV6 (c : Config) (i : Nat) (own gateway : Ipv6) : Prop :=
  ∃ d e, c.devices[i]? = some d ∧ d.ethernets.getLast? = some e ∧ HoldsV6 e own gateway

/-- Whether the last device advertises one IPv6 range that starts with the text of an address. -/
def AdvertisesLastV6 (c : Config) (ip : Ipv6) : Prop :=
  ∃ d r range x, c.devices.getLast? = some d ∧ d.isis = some r ∧ r.v6Routes = [range] ∧
    range.addresses = [x] ∧ x.address = ip.text

/-- Whether a link, and the devices at both its ends, have the addresses for two sides. -/
structure IsWrittenV6 (c : Config) (i j : Nat) (link : Link) (near far : DerivedV6) : Prop where
  near_inBounds : near.InBounds
  far_inBounds : far.InBounds
  addresses : link.v6 = some (near.address, far.address)
  first : EndsInV6 c i near.address far.address
  second : EndsInV6 c j far.address near.address

section Written

variable {c c' : Config} {i j a b index : Nat} {addressing : LinkAddressing} {link : Link}
  {first : UInt16} {plan : RouterPlan} {p : Position} {node : Node} {routes : V6Routes}

theorem holdsV6_firstEnd (set : addressing.v6Group = some first) (x y : UInt8) (dA dB : Device) :
    HoldsV6 (firstEnd addressing x y dA dB) (linkV6Address first x y 1)
      (linkV6Address first x y 2) := by
  rw [firstEnd, plannedAddresses, set]
  exact ⟨_, rfl, rfl, rfl⟩

theorem holdsV6_secondEnd (set : addressing.v6Group = some first) (x y : UInt8) (dA dB : Device) :
    HoldsV6 (secondEnd addressing x y dA dB) (linkV6Address first x y 2)
      (linkV6Address first x y 1) := by
  rw [secondEnd, plannedAddresses, set]
  exact ⟨_, rfl, rfl, rfl⟩

/-- A link that has IPv6 addresses is written with them on both sides. -/
theorem isWrittenV6_of_connectDevices (set : addressing.v6Group = some first)
    (linked : connectDevices c i j a b addressing = .ok (c', link)) :
    IsWrittenV6 c' i j link
      (.linkEnd first (UInt8.ofNat (a + 1)) (UInt8.ofNat (b + 1)) 1)
      (.linkEnd first (UInt8.ofNat (a + 1)) (UInt8.ofNat (b + 1)) 2) := by
  obtain ⟨dA, dB, linkable, rfl, rfl⟩ := eq_of_connectDevices linked
  generalize UInt8.ofNat (a + 1) = x, UInt8.ofNat (b + 1) = y at *
  have v6 : (plannedLink addressing x y dA dB).v6 =
      some (linkV6Address first x y 1, linkV6Address first x y 2) := by
    rw [plannedLink, plannedAddresses, set]
    rfl
  exact {
    near_inBounds := .linkEnd (.inl rfl)
    far_inBounds := .linkEnd (.inr rfl)
    addresses := v6
    first := ⟨_, _, linkable.atFirst_linkedConfig, List.getLast?_concat,
      holdsV6_firstEnd set x y dA dB⟩
    second := ⟨_, _, linkable.atSecond_linkedConfig, List.getLast?_concat,
      holdsV6_secondEnd set x y dA dB⟩ }

/-- A node that advertises IPv6 routes is written with their first address. -/
theorem advertisesLastV6_of_addNode (set : plan.v6Routes = some routes)
    (added : addNode plan c index p = .ok (c', node)) :
    (DerivedV6.routes routes.firstGroup p).InBounds ∧
      AdvertisesLastV6 c' (DerivedV6.routes routes.firstGroup p).address := by
  obtain ⟨short, -, rfl⟩ := eq_of_addNode added
  have ranges : (plannedRouter plan index p).v6Routes =
      [simulatedRoute ((plannedNode plan index p).routerName ++ ".isis.v6routes")
        (v6RouteAddress routes.firstGroup p).text routes.prefixLength routes.count] := by
    rw [plannedRouter, set]
    rfl
  exact ⟨.routes short, _, _, _, _, List.getLast?_concat, rfl, ranges, rfl, rfl⟩

end Written

/-! ### Failures -/

/-- Whether a computation does not fail because of an address. -/
def SparesAddresses {α : Type} (x : Except TopologyError α) : Prop :=
  ∀ text, x ≠ .error (.invalidAddress text)

section Failures

variable {α β : Type} {x : Except TopologyError α} {f : α → Except TopologyError β}

theorem sparesAddresses_ok (a : α) : SparesAddresses (.ok a) := by
  intro text failed
  cases failed

/-- What follows a computation matters only if that succeeds. -/
theorem SparesAddresses.bind (hx : SparesAddresses x)
    (hf : ∀ a, x = .ok a → SparesAddresses (f a)) : SparesAddresses (x >>= f) := by
  cases hx' : x with
  | error e =>
    intro text failed
    cases failed
    exact hx text hx'
  | ok a => exact hf a hx'

theorem sparesAddresses_lift (x : Except ConfigError α) :
    SparesAddresses (TopologyError.lift x) := by
  intro text failed
  cases x <;> cases failed

theorem sparesAddresses_octet (n : Nat) : SparesAddresses (octet n) := by
  intro text failed
  unfold octet at failed
  split at failed <;> cases failed

theorem sparesAddresses_requireRouter (d : Device) : SparesAddresses (requireRouter d) := by
  intro text failed
  unfold requireRouter at failed
  split at failed <;> cases failed

theorem sparesAddresses_requireFree (c : Config) (name : String) :
    SparesAddresses (requireFree c name) := by
  intro text failed
  obtain ⟨_, same⟩ := requireFree_eq_error_iff.mp failed
  cases same

theorem sparesAddresses_teRouterId (p : Position) : SparesAddresses (teRouterId p) := by
  cases p with
  | cell row col =>
    exact (sparesAddresses_octet row).bind fun _ _ =>
      (sparesAddresses_octet col).bind fun _ _ => sparesAddresses_ok _
  | station index => exact (sparesAddresses_octet index).bind fun _ _ => sparesAddresses_ok _

theorem sparesAddresses_v4RouteRanges (routes : Option V4Routes) (router : String) (p : Position) :
    SparesAddresses (v4RouteRanges routes router p) := by
  cases routes with
  | none => exact sparesAddresses_ok _
  | some r =>
    refine SparesAddresses.bind ?_ fun _ _ => sparesAddresses_ok _
    cases p with
    | cell row col =>
      exact (sparesAddresses_octet _).bind fun _ _ =>
        (sparesAddresses_octet _).bind fun _ _ => sparesAddresses_ok _
    | station index => exact (sparesAddresses_octet _).bind fun _ _ => sparesAddresses_ok _

theorem sparesAddresses_connectDevices (c : Config) (i j a b : Nat) (addressing : LinkAddressing) :
    SparesAddresses (connectDevices c i j a b addressing) := by
  unfold connectDevices
  cases addressing.isEmpty with
  | true =>
    intro text failed
    cases failed
  | false =>
    refine (sparesAddresses_octet _).bind fun octetA _ => ?_
    refine (sparesAddresses_octet _).bind fun octetB _ => ?_
    refine (sparesAddresses_lift _).bind fun pair _ => ?_
    refine (sparesAddresses_requireRouter _).bind fun _ _ => ?_
    refine (sparesAddresses_requireRouter _).bind fun _ _ => ?_
    rw [linkAddresses_eq]
    refine (sparesAddresses_ok _).bind fun _ _ => ?_
    exact (sparesAddresses_lift _).bind fun _ _ => sparesAddresses_ok _

/-- The numbers of a position are known to be short before an IPv6 address is derived from them. -/
theorem sparesAddresses_addNode (plan : RouterPlan) (c : Config) (index : Nat) (p : Position) :
    SparesAddresses (addNode plan c index p) := by
  refine (sparesAddresses_octet _).bind fun _ _ => ?_
  refine (sparesAddresses_requireFree _ _).bind fun _ _ => ?_
  refine SparesAddresses.bind ?_ fun _ _ => sparesAddresses_ok _
  refine (sparesAddresses_teRouterId p).bind fun _ id => ?_
  refine (sparesAddresses_v4RouteRanges _ _ p).bind fun _ _ => ?_
  rw [v6RouteRanges_eq _ _ (eq_of_teRouterId id).1]
  exact (sparesAddresses_ok _).bind fun _ _ => sparesAddresses_ok _

end Failures

/-! ### All together -/

/-- Every text that is put together for short numbers denotes an address, whose own text denotes it
again, and different numbers have different addresses. A link or a node is written with the own
texts of its addresses, and never refused because of them. -/
theorem derived_v6_addresses :
    (∀ x : DerivedV6, x.InBounds → assembledIpv6 x.assembled = .ok x.address ∧
      x.address.groups.toList = [x.first, 0, 0, 0, 0, decimalGroup x.numbers.1,
        decimalGroup x.numbers.2.1, decimalGroup x.numbers.2.2] ∧
      Ipv6.ofText? x.address.text = some x.address) ∧
    (∀ n < 1000, Text.ofDigits? 16 (Text.decimal n) = some (decimalGroup n).toNat) ∧
    (∀ x y : DerivedV6, x.InBounds → y.InBounds → (x.address = y.address ↔ x = y)) ∧
    (∀ c i j a b addressing c' link first,
      connectDevices c i j a b addressing = .ok (c', link) → addressing.v6Group = some first →
      IsWrittenV6 c' i j link
        (.linkEnd first (UInt8.ofNat (a + 1)) (UInt8.ofNat (b + 1)) 1)
        (.linkEnd first (UInt8.ofNat (a + 1)) (UInt8.ofNat (b + 1)) 2)) ∧
    (∀ plan c index p c' node routes, addNode plan c index p = .ok (c', node) →
      plan.v6Routes = some routes → (DerivedV6.routes routes.firstGroup p).InBounds ∧
        AdvertisesLastV6 c' (DerivedV6.routes routes.firstGroup p).address) ∧
    (∀ c i j a b addressing text,
      connectDevices c i j a b addressing ≠ .error (.invalidAddress text)) ∧
    ∀ plan c index p text, addNode plan c index p ≠ .error (.invalidAddress text) := by
  refine ⟨fun x bounds => ⟨DerivedV6.assembledIpv6_assembled bounds, ?_, Ipv6.ofText?_text _⟩,
    fun n => DerivedV6.ofDigits?_decimal_eq_decimalGroup, fun x y hx hy => ⟨?_, ?_⟩, ?_, ?_, ?_, ?_⟩
  · rw [DerivedV6.address_eq_gapped]
    rfl
  · exact DerivedV6.address_inj hx hy
  · exact congrArg DerivedV6.address
  · intro c i j a b addressing c' link first linked set
    exact isWrittenV6_of_connectDevices set linked
  · intro plan c index p c' node routes added set
    exact advertisesLastV6_of_addNode set added
  · intro c i j a b addressing
    exact sparesAddresses_connectDevices c i j a b addressing
  · intro plan c index p
    exact sparesAddresses_addNode plan c index p

/-- Two devices that run ISIS. -/
def routedPair : Config where
  devices :=
    [{ name := "left", isis := some { name := "left.isis", systemId := "000000000001" } },
      { name := "right", isis := some { name := "right.isis", systemId := "000000000002" } }]

/-- A first group of zero is swallowed by the gap, and the numbers are told apart all the same. -/
theorem derived_v6_addresses_of_zeroGroup :
    assembledIpv6 "0::10:255:1" = .ok ⟨#v[0, 0, 0, 0, 0, 0x10, 0x255, 1]⟩ ∧
      (DerivedV6.linkEnd 0 10 255 1).address ≠ (DerivedV6.routes 0 (.station 254)).address ∧
      (∃ c' link, connectDevices routedPair 0 1 9 254 { v6Group := some 0 } = .ok (c', link) ∧
        link.v6.map (·.1.text) = some "::10:255:1" ∧
        IsWrittenV6 c' 0 1 link (.linkEnd 0 10 255 1) (.linkEnd 0 10 255 2)) ∧
      ∃ c' node, addNode ⟨2, none, some { firstGroup := 0 }⟩ routedPair 9 (.cell 9 253) =
          .ok (c', node) ∧
        AdvertisesLastV6 c' ⟨#v[0, 0, 0, 0, 0, 0x10, 0x254, 0]⟩ := by
  obtain ⟨valid, -, distinct, link, node, -, -⟩ := derived_v6_addresses
  have near : (DerivedV6.linkEnd 0 10 255 1).InBounds := .linkEnd (.inl rfl)
  have station : (DerivedV6.routes 0 (.station 254)).InBounds :=
    .routes (show 254 < 999 by decide)
  have ten : decimalGroup 10 = 0x10 := by decide
  have last : decimalGroup 255 = 0x255 := by decide
  have assembled : (DerivedV6.linkEnd 0 10 255 1).assembled = "0::10:255:1" := by decide +kernel
  have address : (DerivedV6.linkEnd 0 10 255 1).address = ⟨#v[0, 0, 0, 0, 0, 0x10, 0x255, 1]⟩ := by
    rw [DerivedV6.address_eq_gapped, ← ten, ← last]
    rfl
  have cell : (DerivedV6.routes 0 (.cell 9 253)).address = ⟨#v[0, 0, 0, 0, 0, 0x10, 0x254, 0]⟩ := by
    have beforeLast : decimalGroup 254 = 0x254 := by decide
    rw [DerivedV6.address_eq_gapped, ← ten, ← beforeLast]
    rfl
  refine ⟨?_, ?_, ?_, ?_⟩
  · rw [← assembled, ← address]
    exact (valid _ near).1
  · intro same
    cases (distinct _ _ near station).mp same
  · have linkable : Linkable routedPair 0 1 _ _ := ⟨by decide, rfl, rfl, rfl, rfl⟩
    have linked : connectDevices routedPair 0 1 9 254 { v6Group := some 0 } = _ :=
      connectDevices_eq rfl (by decide) (by decide) linkable
    have written := link _ _ _ _ _ _ _ _ _ linked rfl
    refine ⟨_, _, linked, ?_, written⟩
    rw [written.addresses]
    decide +kernel
  · have added : addNode ⟨2, none, some { firstGroup := 0 }⟩ routedPair 9 (.cell 9 253) = _ :=
      addNode_eq (by decide +kernel) (show 9 < 254 by decide)
        (show 9 < 254 ∧ 253 < 254 by decide)
    obtain ⟨-, advertises⟩ := node _ _ _ _ _ _ { firstGroup := 0 } added rfl
    rw [cell] at advertises
    exact ⟨_, _, added, advertises⟩

end IsisTestbed.Topology
