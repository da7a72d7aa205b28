import IsisTestbed.Proofs.Address.Networks
import IsisTestbed.Proofs.Topology.AddressPlan
import IsisTestbed.Proofs.Topology.Session

/-!
The IPv6 networks of a topology. The numbers of nodes are in the last three groups of every address,
and the prefix of 64 bits that is written with it ends before them. So all links of a topology are in
one network, and so are all routes that its nodes advertise by default. Prefixes that end in the last
group, or just before it, would keep links and nodes apart.
-/

namespace IsisTestbed

/-- The networks that the IPv6 addresses of an ethernet are in, if all prefixes have one length. -/
def Ethernet.v6NetworksAt (length : Nat) (e : Ethernet) : List Ipv6 :=
  e.ipv6.filterMap fun x => (Ipv6.ofText? x.address).map (·.network length)

/-- The networks that the IPv6 addresses of an ethernet are in, with the prefixes that it has for
them. -/
def Ethernet.v6Networks (e : Ethernet) : List Ipv6 :=
  e.ipv6.filterMap fun x => (Ipv6.ofText? x.address).map (·.network x.prefixLength.toNat)

/-- The IPv6 networks that a router advertises. -/
def Router.v6Networks (r : Router) : List Ipv6 :=
  (r.v6Routes.flatMap (·.addresses)).filterMap fun x => x.prefixLength.bind fun length =>
    (Ipv6.ofText? x.address).map (·.network length.toNat)

/-- The IPv6 networks that the device of a name advertises. -/
def Config.advertisedV6 (c : Config) (name : String) : List Ipv6 :=
  match c.device name with
  | .ok d => d.isis.toList.flatMap (·.v6Networks)
  | .error _ => []

namespace Topology

/-! ### Ends of links -/

/-- Whether an ethernet is an end of some link. -/
def IsLinkEnd (e : Ethernet) : Prop :=
  ∃ near far v4 v6, IsEnd near far v4 v6 e

/-- Whether the device of a name has no other ethernets than ends of links. -/
def HasLinkEnds (c : Config) (name : String) : Prop :=
  ∃ d, c.device name = .ok d ∧ ∀ e ∈ d.ethernets, IsLinkEnd e

section Ends

variable {c c' : Config} {device near far name nameA nameB : String} {v4 : Option (Ipv4 × Ipv4)}
  {v6 : Option (Ipv6 × Ipv6)} {link : Link} {e : Ethernet} {numbers : Nat × Nat} {mac : String}
  {addressing : LinkAddressing} {group : UInt16} {side : Nat} {v4s : UInt8 → Ipv4}

theorem GainsEnd.hasLinkEnds (gains : GainsEnd c c' name near far v4 v6) (h : HasLinkEnds c name) :
    HasLinkEnds c' name := by
  obtain ⟨d, e, before, _, _, isEnd, after⟩ := gains
  obtain ⟨_, found, ends⟩ := h
  cases before.symm.trans found
  refine ⟨addEnd e d, after, ?_⟩
  intro x member
  rw [ethernets_addEnd] at member
  rcases List.mem_append.mp member with old | new
  · exact ends x old
  · rw [List.mem_singleton.mp new]
    exact ⟨near, far, v4, v6, isEnd⟩

theorem HasLinkEnds.of_linked (h : HasLinkEnds c name) (linked : Linked c c' nameA nameB link) :
    HasLinkEnds c' name := by
  by_cases atA : name = nameA
  · subst atA
    exact linked.first.hasLinkEnds h
  · by_cases atB : name = nameB
    · subst atB
      exact linked.second.hasLinkEnds h
    · obtain ⟨d, found, ends⟩ := h
      exact ⟨d, (linked.others name atA atB).trans found, ends⟩

/-- Every IPv6 address of an end of a link has a prefix of 64 bits. -/
theorem IsLinkEnd.v6Networks_eq (h : IsLinkEnd e) : e.v6Networks = e.v6NetworksAt 64 := by
  obtain ⟨near, far, v4, v6, isEnd⟩ := h
  rw [Ethernet.v6Networks, Ethernet.v6NetworksAt]
  apply List.filterMap_congr
  intro x member
  rw [isEnd.ipv6] at member
  obtain ⟨_, _, rfl⟩ := List.mem_map.mp member
  rfl

/-- The end of a link is in one network, which its numbers tell. -/
theorem IsWritten.v6NetworksAt_eq (set : addressing.v6Group = some group)
    (h : IsWritten addressing v4s (v6End · side numbers) mac e) (length : Nat) :
    e.v6NetworksAt length = [(v6End group side numbers).network length] := by
  have addresses := h.v6
  rw [set] at addresses
  obtain ⟨x, alone, address⟩ : ∃ x, e.ipv6 = [x] ∧ x.address = (v6End group side numbers).text := by
    simpa [List.map_eq_singleton_iff] using addresses
  simp only [Ethernet.v6NetworksAt, alone, List.filterMap_cons, address, Ipv6.ofText?_text,
    Option.map_some, List.filterMap_nil]

end Ends

/-- The ends that are found for a topology are those of its links. -/
theorem forall₂_ends? {t : Topology} {c : Config} {ends : List (Ethernet × Ethernet)}
    (found : t.ends? c = some ends) :
    List.Forall₂ (fun s both => Span.ends? s c = some both) t.spans ends := by
  unfold ends? at found
  generalize t.spans = all at found
  induction all generalizing ends with
  | nil =>
    cases found
    exact .nil
  | cons s rest ih =>
    simp only [List.mapM_cons, bind, Option.bind_eq_some_iff, pure, Option.some.injEq] at found
    obtain ⟨first, atSpan, more, later, rfl⟩ := found
    exact .cons atSpan (ih later)

/-! ### Networks of links -/

/-- Whether links, given by their ends, are networks of their own if all prefixes have one
length. -/
def SeparatesLinks (length : Nat) (ends : List (Ethernet × Ethernet)) : Prop :=
  (∀ both ∈ ends, both.1.v6NetworksAt length = both.2.v6NetworksAt length) ∧
    ends.Pairwise fun both other => both.1.v6NetworksAt length ≠ other.1.v6NetworksAt length

section Links

variable {group : UInt16} {side side' length : Nat} {numbers pair : Nat × Nat}

theorem v6End_eq_gapped (group : UInt16) (side : Nat) (numbers : Nat × Nat) :
    v6End group side numbers = Ipv6.gapped group (decimalGroup (UInt8.ofNat numbers.1).toNat)
      (decimalGroup (UInt8.ofNat numbers.2).toNat) (decimalGroup side) :=
  rfl

/-- A prefix of up to 80 bits tells neither the numbers of a link nor its side. -/
theorem network_v6End_of_le (h : 16 ≤ length) (short : length ≤ 80) :
    (v6End group side numbers).network length = Ipv6.gapped group 0 0 0 := by
  rw [v6End_eq_gapped, Ipv6.network_gapped_of_le short, Ipv6.keepBits_of_le h]

/-- A prefix of 112 to 126 bits tells the numbers of a link, and does not tell its side. -/
theorem network_v6End_of_ge (h : 112 ≤ length) (short : length ≤ 126) (hside : side < 4) :
    (v6End group side numbers).network length =
      Ipv6.gapped group (decimalGroup (UInt8.ofNat numbers.1).toNat)
        (decimalGroup (UInt8.ofNat numbers.2).toNat) 0 := by
  have value : (decimalGroup side).toNat = side := by
    have digit : side / 100 % 10 * 256 + side / 10 % 10 * 16 + side % 10 = side := by omega
    rw [decimalGroup, digit, UInt16.toNat_ofNat_of_lt' (show side < 65536 by omega)]
  have room : (4 : Nat) ≤ Nat.pow 2 (16 - (length - 112)) :=
    Nat.pow_le_pow_right (show 0 < 2 by decide) (show 2 ≤ 16 - (length - 112) by omega)
  rw [v6End_eq_gapped, Ipv6.network_gapped_of_ge h, Ipv6.keepBits_of_lt (by omega)]

theorem network_v6End_inj (small : AreOctets numbers) (small' : AreOctets pair)
    (h : 112 ≤ length) (short : length ≤ 126) (hside : side < 4) (hside' : side' < 4)
    (same : (v6End group side numbers).network length = (v6End group side' pair).network length) :
    numbers = pair := by
  rw [network_v6End_of_ge h short hside, network_v6End_of_ge h short hside'] at same
  obtain ⟨_, first, second, _⟩ := Ipv6.gapped_inj same
  exact eq_of_octets small small' ⟨decimalGroup_octet_inj first, decimalGroup_octet_inj second⟩

variable {t : Topology} {ends : List (Ethernet × Ethernet)}

section Written

variable (written : List.Forall₂ (AreWritten t.addressing) t.linkNumbers ends)
  (set : t.addressing.v6Group = some group)

include written set

/-- Both ends of a link are in the networks of its numbers. -/
theorem exists_v6NetworksAt {both : Ethernet × Ethernet} (member : both ∈ ends) :
    ∃ numbers ∈ t.linkNumbers, ∀ length,
      both.1.v6NetworksAt length = [(v6End group 1 numbers).network length] ∧
        both.2.v6NetworksAt length = [(v6End group 2 numbers).network length] := by
  obtain ⟨numbers, listed, h⟩ := exists_of_mem_right written member
  exact ⟨numbers, listed,
    fun length => ⟨h.first.v6NetworksAt_eq set length, h.second.v6NetworksAt_eq set length⟩⟩

/-- With a short prefix, all ends of links are in one network. -/
theorem v6NetworksAt_eq_of_le (h : 16 ≤ length) (short : length ≤ 80) {e : Ethernet}
    (member : e ∈ bothEnds ends) : e.v6NetworksAt length = [Ipv6.gapped group 0 0 0] := by
  obtain ⟨both, listed, isEnd⟩ := List.mem_flatMap.mp member
  obtain ⟨numbers, _, networks⟩ := exists_v6NetworksAt written set listed
  obtain ⟨near, far⟩ := networks length
  rcases List.mem_pair.mp isEnd with rfl | rfl
  · rw [near, network_v6End_of_le h short]
  · rw [far, network_v6End_of_le h short]

/-- With a long one, the two ends of a link are in one network. -/
theorem v6NetworksAt_together (h : 112 ≤ length) (short : length ≤ 126)
    {both : Ethernet × Ethernet} (member : both ∈ ends) :
    both.1.v6NetworksAt length = both.2.v6NetworksAt length := by
  obtain ⟨numbers, _, networks⟩ := exists_v6NetworksAt written set member
  obtain ⟨near, far⟩ := networks length
  rw [near, far, network_v6End_of_ge h short (by decide), network_v6End_of_ge h short (by decide)]

/-- With a long one, links with different numbers are in different networks. -/
theorem v6NetworksAt_apart (shaped : t.IsShaped) (distinct : t.linkNumbers.Nodup)
    (h : 112 ≤ length) (short : length ≤ 126) :
    ends.Pairwise fun both other => both.1.v6NetworksAt length ≠ other.1.v6NetworksAt length := by
  refine pairwise_ne_of_forall₂ written (f := fun x => [(v6End group 1 x).network length])
    (fun x both h => h.first.v6NetworksAt_eq set length) distinct ?_
  intro x hx y hy same
  exact network_v6End_inj (areOctets_of_mem shaped hx) (areOctets_of_mem shaped hy) h short
    (by decide) (by decide) (List.cons.inj same).1

end Written

end Links

/-! ### Networks of nodes -/

section Routes

variable {first : UInt16} {length i j : Nat} {p : Position} {c : Config} {plan : RouterPlan}
  {routes : V6Routes} {s : Shape}

/-- The groups of the addresses of a node that tell its position. -/
def positionGroups : Position → UInt16 × UInt16
  | .cell row col => (decimalGroup (row + 1), decimalGroup (col + 1))
  | .station index => (0, decimalGroup (index + 1))

theorem v6RouteAddress_eq_gapped (first : UInt16) (p : Position) :
    v6RouteAddress first p = Ipv6.gapped first (positionGroups p).1 (positionGroups p).2 0 := by
  cases p <;> rfl

/-- The groups tell the number of a node of a shape. -/
theorem positionGroups_inj (few : s.size ≤ maxNodes) (hi : i < s.size) (hj : j < s.size)
    (same : positionGroups (s.position i) = positionGroups (s.position j)) : i = j := by
  have few : s.size ≤ 254 := few
  have group {m n : Nat} (hm : m ≤ i ∨ m ≤ j) (hn : n ≤ i ∨ n ≤ j)
      (equal : decimalGroup (m + 1) = decimalGroup (n + 1)) : m = n := by
    have successors := decimalGroup_inj (by omega) (by omega) equal
    omega
  cases s with
  | ring nodes => exact group (.inl (Nat.le_refl i)) (.inr (Nat.le_refl j)) (Prod.mk.inj same).2
  | grid rows cols =>
    obtain ⟨rowGroups, colGroups⟩ := Prod.mk.inj same
    have row := group (.inl (Nat.div_le_self i cols)) (.inr (Nat.div_le_self j cols)) rowGroups
    have col := group (.inl (Nat.mod_le i cols)) (.inr (Nat.mod_le j cols)) colGroups
    rw [← Nat.div_add_mod i cols, ← Nat.div_add_mod j cols, row, col]

/-- A node advertises one network, which its position tells. -/
theorem advertisedV6_of_runsRouter {index : Nat} {name : String}
    (h : RunsRouter c name (plannedRouter plan index p)) (set : plan.v6Routes = some routes) :
    c.advertisedV6 name =
      [(v6RouteAddress routes.firstGroup p).network routes.prefixLength.toNat] := by
  obtain ⟨d, interfaces, found, runs⟩ := h
  simp only [Config.advertisedV6, found, runs, Option.toList_some, List.flatMap_cons,
    List.flatMap_nil, List.append_nil, Router.v6Networks, plannedRouter, set, List.map_cons,
    List.map_nil, simulatedRoute, List.filterMap_cons, List.filterMap_nil, Option.bind_some,
    Ipv6.ofText?_text, Option.map_some]

end Routes

end Topology

namespace Builder

open IsisTestbed.Topology

variable {b : Builder} {c c' : Config} {t : Topology} {group : UInt16} {routes : V6Routes}
  {ends : List (Ethernet × Ethernet)}

/-- Devices of nodes have no other ethernets than ends of links when they are built. -/
theorem hasLinkEnds_of_build (built : b.build c = .ok (c', t)) :
    ∀ n ∈ t.nodes, HasLinkEnds c' n.name := by
  refine forall_nodes_of_build built ?_ ?_
  · intro c name d found none
    exact ⟨d, found, fun e member => absurd (none ▸ member) List.not_mem_nil⟩
  · intro c c' nameA nameB link name linked before
    exact before.of_linked linked

/-- The ends of the links of a topology are ethernets of its nodes when it is built. -/
theorem isLinkEnd_of_build (built : b.build c = .ok (c', t)) (found : t.ends? c' = some ends)
    {e : Ethernet} (member : e ∈ bothEnds ends) : IsLinkEnd e := by
  obtain ⟨_, shaped, bare⟩ := planned_of_build built
  have holds := hasLinkEnds_of_build built
  have onNode {index : Nat} (bound : index < t.shape.size) {ethernet : String} {x : Ethernet}
      (listed : c'.endOf? (t.deviceOf index) ethernet = some x) : IsLinkEnd x := by
    have inside : index < t.nodes.length := by
      rw [← Topology.size, shaped.size]
      exact bound
    have atIndex : t.nodes[index]? = some t.nodes[index] := List.getElem?_eq_getElem inside
    obtain ⟨d, device, isEnd⟩ := holds _ (List.getElem_mem inside)
    rw [deviceOf_eq atIndex] at listed
    obtain ⟨_, k, same, atPlace, _⟩ := Config.endOf?_eq_some_iff.mp listed
    cases device.symm.trans same
    exact isEnd x (List.mem_of_getElem? atPlace)
  obtain ⟨both, listed, isEnd⟩ := List.mem_flatMap.mp member
  obtain ⟨s, hs, atSpan⟩ := exists_of_mem_right (forall₂_ends? found) listed
  rw [spans, bare, List.map_nil, List.append_nil] at hs
  obtain ⟨edge, hedge, rfl⟩ := List.mem_map.mp hs
  have linked : (edge.a, edge.b) ∈ t.shape.edges := by
    rw [← shaped.edges]
    exact List.mem_map.mpr ⟨edge, hedge, rfl⟩
  obtain ⟨boundA, boundB, _⟩ := Shape.mem_edges shaped.large linked
  obtain ⟨foundA, foundB⟩ := Span.ends?_eq_some_iff.mp atSpan
  rcases List.mem_pair.mp isEnd with rfl | rfl
  · exact onNode boundA foundA
  · exact onNode boundB foundB

theorem Added.map_advertisedV6 {octet : UInt8} (h : b.Added octet c c' t)
    (set : b.v6Routes = some routes) : (t.nodes.map fun n => c'.advertisedV6 n.name) =
      (List.range b.shape.size).map fun index => [(v6RouteAddress routes.firstGroup
        (b.shape.position index)).network routes.prefixLength.toNat] := by
  rw [h.nodes, sites, List.map_map, List.map_map]
  apply List.map_congr_left
  intro index member
  exact advertisedV6_of_runsRouter
    (h.routers (index, b.shape.position index) (List.mem_map.mpr ⟨index, member, rfl⟩)) set

/-- The first group alone is the network of all links of a topology, and would be with every prefix of
up to 80 bits; one of 112 to 126 bits would separate the links. In the same way all nodes advertise
the first group of their routes if the prefix has up to 80 bits, as it has by default, and from 112
bits on each one advertises a network of its own. -/
theorem v6_networks_of_build (built : b.build c = .ok (c', t)) :
    ∃ ends, t.ends? c' = some ends ∧ ends.length = t.edges.length ∧
      (∀ group, b.addressing.v6Group = some group →
        (∀ e ∈ bothEnds ends, e.v6Networks = [Ipv6.gapped group 0 0 0]) ∧
        (∀ length, 16 ≤ length → length ≤ 80 →
          ∀ e ∈ bothEnds ends, e.v6NetworksAt length = [Ipv6.gapped group 0 0 0]) ∧
        ∀ length, 112 ≤ length → length ≤ 126 → SeparatesLinks length ends) ∧
      ∀ routes, b.v6Routes = some routes →
        (16 ≤ routes.prefixLength.toNat → routes.prefixLength.toNat ≤ 80 →
          ∀ n ∈ t.nodes, c'.advertisedV6 n.name = [Ipv6.gapped routes.firstGroup 0 0 0]) ∧
        (112 ≤ routes.prefixLength.toNat →
          (t.nodes.map fun n => c'.advertisedV6 n.name).Nodup) := by
  obtain ⟨planned, shaped, bare⟩ := planned_of_build built
  obtain ⟨octet, _, accepts, added⟩ := added_of_build built
  obtain ⟨ends, found, written⟩ := planned.exists_ends
  refine ⟨ends, found, ?_, ?_, ?_⟩
  · rw [← written.length_eq, linkNumbers, bare, List.map_nil, List.append_nil, List.length_map]
  · intro group set
    rw [← added.addressing] at set
    have distinct : t.linkNumbers.Nodup := by
      rw [shaped.nodup_linkNumbers_iff, bare]
      exact List.nodup_nil
    refine ⟨?_, ?_, ?_⟩
    · intro e member
      rw [(isLinkEnd_of_build built found member).v6Networks_eq]
      exact v6NetworksAt_eq_of_le written set (by decide) (by decide) member
    · intro length long short e member
      exact v6NetworksAt_eq_of_le written set long short member
    · intro length long short
      exact ⟨fun both member => v6NetworksAt_together written set long short member,
        v6NetworksAt_apart written set shaped distinct long short⟩
  · intro routes set
    have advertised := added.map_advertisedV6 set
    constructor
    · intro long short n member
      have own := List.mem_map_of_mem (f := fun n => c'.advertisedV6 n.name) member
      rw [advertised] at own
      obtain ⟨index, _, own⟩ := List.mem_map.mp own
      rw [← own, v6RouteAddress_eq_gapped, Ipv6.network_gapped_of_le short,
        Ipv6.keepBits_of_le long]
    · intro long
      rw [advertised]
      refine List.nodup_range.map_on ?_
      intro i hi j hj same
      simp only [v6RouteAddress_eq_gapped, Ipv6.network_gapped_of_ge long, List.cons.injEq,
        and_true] at same
      obtain ⟨_, first, second, _⟩ := Ipv6.gapped_inj same
      exact positionGroups_inj accepts.few (List.mem_range.mp hi) (List.mem_range.mp hj)
        (Prod.ext first second)

/-- The networks of links and nodes of a ring of three, with the routes that are the default. -/
theorem v6_networks_of_build_of_smallRing : ∃ c t ends, Session.smallRing.build {} = .ok (c, t) ∧
    t.ends? c = some ends ∧ ends.length = 3 ∧
    (∀ e ∈ bothEnds ends, e.v6Networks = [Ipv6.gapped 0x20 0 0 0]) ∧ SeparatesLinks 112 ends ∧
    ∀ n ∈ t.nodes, c.advertisedV6 n.name = [Ipv6.gapped 0x10 0 0 0] := by
  have links : ((Session.smallRing.build {}).toOption.map (·.2.edges.length)) = some 3 := by
    decide +kernel
  cases built : Session.smallRing.build {} with
  | error e => simp [built, Except.toOption] at links
  | ok result =>
    obtain ⟨c, t⟩ := result
    simp only [built, Except.toOption, Option.map_some, Option.some.injEq] at links
    obtain ⟨ends, found, count, networks, routes⟩ := v6_networks_of_build built
    obtain ⟨together, _, apart⟩ := networks 0x20 rfl
    exact ⟨c, t, ends, rfl, found, count.trans links, together,
      apart 112 (by decide) (by decide), (routes {} rfl).1 (by decide) (by decide)⟩

/-- Neither different links nor different nodes have networks of their own. -/
theorem not_pairwise_v6_networks :
    (¬ ∀ (b : Builder) (c c' : Config) (t : Topology) (ends : List (Ethernet × Ethernet)),
      b.build c = .ok (c', t) → b.addressing.v6Group.isSome = true → t.ends? c' = some ends →
        ends.Pairwise fun both other => both.1.v6Networks ≠ other.1.v6Networks) ∧
    ¬ ∀ (b : Builder) (c c' : Config) (t : Topology) (routes : V6Routes),
      b.build c = .ok (c', t) → b.v6Routes = some routes →
        routes.prefixLength = ({} : V6Routes).prefixLength →
          (t.nodes.map fun n => c'.advertisedV6 n.name).Nodup := by
  have networks : ((Session.smallRing.build {}).toOption.bind fun result =>
      (result.2.ends? result.1).map fun ends =>
        (ends.map (·.1.v6Networks), result.2.nodes.map fun n => result.1.advertisedV6 n.name)) =
      some (List.replicate 3 [Ipv6.gapped 0x20 0 0 0],
        List.replicate 3 [Ipv6.gapped 0x10 0 0 0]) := by
    decide +kernel
  cases built : Session.smallRing.build {} with
  | error e => simp [built, Except.toOption] at networks
  | ok result =>
    obtain ⟨c, t⟩ := result
    cases found : t.ends? c with
    | none => simp [built, found, Except.toOption] at networks
    | some ends =>
      simp only [built, found, Except.toOption, Option.bind_some, Option.map_some,
        Option.some.injEq, Prod.mk.injEq] at networks
      constructor
      · intro apart
        have separate := apart _ _ _ _ _ built rfl found
        have distinct : (ends.map (·.1.v6Networks)).Nodup := List.pairwise_map.mpr separate
        rw [networks.1] at distinct
        exact absurd distinct (by decide)
      · intro apart
        have distinct := apart _ _ _ _ {} built rfl rfl
        rw [networks.2] at distinct
        exact absurd distinct (by decide)

end Builder

end IsisTestbed
