import IsisTestbed.Proofs.Topology.LinkEnds

/-!
The address plan of a topology and of what is connected to it. The ends of its links hold what is
derived from the numbers of the links, so that no two of them have an address in common unless a node
is connected to twice; MACs are also common to the two links of a ring of two nodes.
-/

namespace IsisTestbed

namespace Topology

/-! ### What the ends have in common -/

/-- The /24 network of each IPv4 address of that length on an ethernet. -/
def networks24 (e : Ethernet) : List (UInt8 × UInt8 × UInt8) :=
  e.ipv4.filterMap fun x =>
    if x.prefixLength = 24 then (Ipv4.ofText? x.address).map fun ip => (ip.a, ip.b, ip.c) else none

/-- All ends, without their pairing. -/
def bothEnds (ends : List (Ethernet × Ethernet)) : List Ethernet :=
  ends.flatMap fun pair => [pair.1, pair.2]

/-- The address plan of links, given by their ends, some of which lead to the nodes that devices are
connected to. -/
structure IsAddressPlan (t : Topology) (ends : List (Ethernet × Ethernet)) (connected : List Nat) :
    Prop where
  v4 : t.addressing.v4Octet.isSome = true → (∀ e ∈ bothEnds ends, e.ipv4.length = 1) ∧
    (((bothEnds ends).flatMap fun e => e.ipv4.map (·.address)).Nodup ↔ connected.Nodup)
  v6 : t.addressing.v6Group.isSome = true → (∀ e ∈ bothEnds ends, e.ipv6.length = 1) ∧
    (((bothEnds ends).flatMap fun e => e.ipv6.map (·.address)).Nodup ↔ connected.Nodup)
  macs : ((bothEnds ends).map (·.mac)).Nodup ↔ connected.Nodup ∧ t.shape ≠ .ring 2
  together : t.addressing.v4Octet.isSome = true →
    ∀ pair ∈ ends, ∃ network, networks24 pair.1 = [network] ∧ networks24 pair.2 = [network]
  apart : t.addressing.v4Octet.isSome = true → connected.Nodup →
    ends.Pairwise fun pair other => ∀ e ∈ [pair.1, pair.2], ∀ e' ∈ [other.1, other.2],
      (networks24 e).Disjoint (networks24 e')

section Whole

variable {t : Topology} {c : Config} {ends : List (Ethernet × Ethernet)} {numbers pair : Nat × Nat}
  {first : UInt8} {group : UInt16}

/-- Values of the ends that follow from the numbers of their links are those of the numbers. -/
theorem flatMap_eq_of_forall₂ {α β γ : Type} {R : α → β → Prop} {f : α → List γ} {g : β → List γ}
    {xs : List α} {ys : List β} (h : List.Forall₂ R xs ys) (same : ∀ x y, R x y → g y = f x) :
    ys.flatMap g = xs.flatMap f := by
  induction h with
  | nil => rfl
  | cons related _ ih => rw [List.flatMap_cons, List.flatMap_cons, ih, same _ _ related]

/-- Values that tell distinct numbers apart are those of different ends. -/
theorem pairwise_ne_of_forall₂ {α β γ : Type} {R : α → β → Prop} {f : α → γ} {g : β → γ}
    {xs : List α} {ys : List β} (h : List.Forall₂ R xs ys) (same : ∀ x y, R x y → g y = f x)
    (distinct : xs.Nodup) (tells : ∀ x ∈ xs, ∀ y ∈ xs, f x = f y → x = y) :
    ys.Pairwise fun y z => g y ≠ g z := by
  have all : ys.map g = xs.map f := by
    rw [List.map_eq_flatMap, List.map_eq_flatMap]
    exact flatMap_eq_of_forall₂ h fun x y related => by rw [same x y related]
  apply List.pairwise_map.mp
  rw [all]
  exact distinct.map_on tells

theorem exists_of_mem_right {α β : Type} {R : α → β → Prop} {xs : List α} {ys : List β} {y : β}
    (h : List.Forall₂ R xs ys) (member : y ∈ ys) : ∃ x ∈ xs, R x y := by
  induction h with
  | nil => exact absurd member List.not_mem_nil
  | cons related _ ih =>
    rcases List.mem_cons.mp member with rfl | later
    · exact ⟨_, List.mem_cons_self, related⟩
    · obtain ⟨x, listed, holds⟩ := ih later
      exact ⟨x, List.mem_cons_of_mem _ listed, holds⟩

/-- If all links are written, their ends are found. -/
theorem IsPlanned.exists_ends (h : t.IsPlanned c) :
    ∃ ends, t.ends? c = some ends ∧ List.Forall₂ (AreWritten t.addressing) t.linkNumbers ends := by
  rw [← numbers_spans, ends?]
  unfold IsPlanned at h
  generalize t.spans = all at h
  induction all with
  | nil => exact ⟨[], rfl, .nil⟩
  | cons s rest ih =>
    obtain ⟨pair, found, written⟩ := h s List.mem_cons_self
    obtain ⟨more, rest, related⟩ := ih fun s' member => h s' (List.mem_cons_of_mem _ member)
    exact ⟨pair :: more, by simp [found, rest], .cons written related⟩

theorem ofNat_inj {m n : Nat} (hm : m < 256) (hn : n < 256) (h : UInt8.ofNat m = UInt8.ofNat n) :
    m = n := by
  have same := congrArg UInt8.toNat h
  rwa [UInt8.toNat_ofNat_of_lt' hm, UInt8.toNat_ofNat_of_lt' hn] at same

/-- Numbers of nodes and of attached devices fit an octet. -/
def AreOctets (numbers : Nat × Nat) : Prop :=
  numbers.1 < 256 ∧ numbers.2 < 256

theorem eq_of_octets (small : AreOctets numbers) (small' : AreOctets pair)
    (h : UInt8.ofNat numbers.1 = UInt8.ofNat pair.1 ∧ UInt8.ofNat numbers.2 = UInt8.ofNat pair.2) :
    numbers = pair :=
  Prod.ext (ofNat_inj small.1 small'.1 h.1) (ofNat_inj small.2 small'.2 h.2)

theorem v4End_inj {side side' : UInt8} (small : AreOctets numbers) (small' : AreOctets pair)
    (h : (v4End first side numbers).text = (v4End first side' pair).text) :
    numbers = pair ∧ side = side' := by
  have same := ipv4_text_inj h
  simp only [v4End, Ipv4.mk.injEq, true_and] at same
  exact ⟨eq_of_octets small small' ⟨same.1, same.2.1⟩, same.2.2⟩

theorem v6End_inj {side side' : Nat} (small : AreOctets numbers) (small' : AreOctets pair)
    (hside : side < 1000) (hside' : side' < 1000)
    (h : (v6End group side numbers).text = (v6End group side' pair).text) :
    numbers = pair ∧ side = side' := by
  obtain ⟨_, sameA, sameB, same⟩ := linkV6Address_inj hside hside' (ipv6_text_inj h)
  exact ⟨eq_of_octets small small' ⟨sameA, sameB⟩, same⟩

theorem macEnd_inj (small : AreOctets numbers) (small' : AreOctets pair)
    (h : macEnd numbers = macEnd pair) : numbers = pair :=
  eq_of_octets small small' (linkMac_inj h)

theorem networks24_of_isWritten {addressing : LinkAddressing} {side : UInt8} {mac : String}
    {v6 : UInt16 → Ipv6} {e : Ethernet} (set : addressing.v4Octet = some first)
    (h : IsWritten addressing (v4End · side numbers) v6 mac e) :
    networks24 e = [(first, UInt8.ofNat numbers.1, UInt8.ofNat numbers.2)] := by
  have addresses := h.v4
  rw [set] at addresses
  obtain ⟨x, alone, same⟩ : ∃ x, e.ipv4 = [x] ∧
      (x.address, x.prefixLength) = ((v4End first side numbers).text, 24) := by
    simpa [List.map_eq_singleton_iff] using addresses
  obtain ⟨address, length⟩ := Prod.mk.inj same
  simp only [networks24, alone, List.filterMap_cons, length, address, Ipv4.ofText?_text, if_pos,
    Option.map_some, List.filterMap_nil, v4End]

/-- If the ends have one address each, which tells the numbers of the link and its side, all of them
are distinct exactly if the numbers are. -/
theorem nodup_addresses_iff {numbers : List (Nat × Nat)} {addresses : Ethernet → List String}
    (near far : Nat × Nat → String) (written : List.Forall₂ (fun pair ends =>
      addresses ends.1 = [near pair] ∧ addresses ends.2 = [far pair]) numbers ends)
    (tellsNear : ∀ x ∈ numbers, ∀ y ∈ numbers, near x = near y → x = y)
    (tellsFar : ∀ x ∈ numbers, ∀ y ∈ numbers, far x = far y → x = y)
    (sides : ∀ x ∈ numbers, ∀ y ∈ numbers, near x ≠ far y) :
    (∀ e ∈ bothEnds ends, (addresses e).length = 1) ∧
      (((bothEnds ends).flatMap addresses).Nodup ↔ numbers.Nodup) := by
  constructor
  · intro e member
    obtain ⟨both, listed, isEnd⟩ := List.mem_flatMap.mp member
    obtain ⟨x, _, nearEnd, farEnd⟩ := exists_of_mem_right written listed
    rcases List.mem_pair.mp isEnd with rfl | rfl
    · rw [nearEnd, List.length_singleton]
    · rw [farEnd, List.length_singleton]
  · have all : (bothEnds ends).flatMap addresses = numbers.flatMap fun x => [near x, far x] := by
      rw [bothEnds, List.flatMap_assoc]
      apply flatMap_eq_of_forall₂ written
      intro x both ⟨nearEnd, farEnd⟩
      simp only [List.flatMap_cons, List.flatMap_nil, nearEnd, farEnd, List.append_nil,
        List.cons_append, List.nil_append]
    rw [all, nodup_flatMap_pair_iff_nodup tellsNear tellsFar sides]

section Shaped

variable (shaped : t.IsShaped)
  (written : List.Forall₂ (AreWritten t.addressing) t.linkNumbers ends)

include shaped in
theorem areOctets_of_mem {x : Nat × Nat} (hx : x ∈ t.linkNumbers) : AreOctets x :=
  ⟨(shaped.linkNumbers_lt hx).1, (shaped.linkNumbers_lt hx).2.1⟩

include shaped written

theorem nodup_v4_iff (set : t.addressing.v4Octet = some first) :
    (∀ e ∈ bothEnds ends, (e.ipv4.map (·.address)).length = 1) ∧
      (((bothEnds ends).flatMap fun e => e.ipv4.map (·.address)).Nodup ↔ t.linkNumbers.Nodup) := by
  have alone {side : UInt8} {x : Nat × Nat} {v6 : UInt16 → Ipv6} {mac : String} {e : Ethernet}
      (h : IsWritten t.addressing (v4End · side x) v6 mac e) :
      e.ipv4.map (·.address) = [(v4End first side x).text] := by
    have addresses := congrArg (List.map Prod.fst) h.v4
    rw [set, List.map_map, List.map_map] at addresses
    exact addresses
  apply nodup_addresses_iff (fun x => (v4End first 1 x).text) fun x => (v4End first 2 x).text
  · exact written.imp fun x ends both => ⟨alone both.first, alone both.second⟩
  · intro x hx y hy same
    exact (v4End_inj (areOctets_of_mem shaped hx) (areOctets_of_mem shaped hy) same).1
  · intro x hx y hy same
    exact (v4End_inj (areOctets_of_mem shaped hx) (areOctets_of_mem shaped hy) same).1
  · intro x hx y hy same
    have sides := (v4End_inj (areOctets_of_mem shaped hx) (areOctets_of_mem shaped hy) same).2
    exact absurd sides (by decide)

theorem nodup_v6_iff (set : t.addressing.v6Group = some group) :
    (∀ e ∈ bothEnds ends, (e.ipv6.map (·.address)).length = 1) ∧
      (((bothEnds ends).flatMap fun e => e.ipv6.map (·.address)).Nodup ↔ t.linkNumbers.Nodup) := by
  have alone {side : Nat} {x : Nat × Nat} {v4 : UInt8 → Ipv4} {mac : String} {e : Ethernet}
      (h : IsWritten t.addressing v4 (v6End · side x) mac e) :
      e.ipv6.map (·.address) = [(v6End group side x).text] := by
    have addresses := h.v6
    rw [set] at addresses
    exact addresses
  have inj {side side' : Nat} (hside : side < 1000) (hside' : side' < 1000) {x y : Nat × Nat}
      (hx : x ∈ t.linkNumbers) (hy : y ∈ t.linkNumbers)
      (same : (v6End group side x).text = (v6End group side' y).text) : x = y ∧ side = side' :=
    v6End_inj (areOctets_of_mem shaped hx) (areOctets_of_mem shaped hy) hside hside' same
  apply nodup_addresses_iff (fun x => (v6End group 1 x).text) fun x => (v6End group 2 x).text
  · exact written.imp fun x ends both => ⟨alone both.first, alone both.second⟩
  · intro x hx y hy same
    exact (inj (by decide) (by decide) hx hy same).1
  · intro x hx y hy same
    exact (inj (by decide) (by decide) hx hy same).1
  · intro x hx y hy same
    exact absurd (inj (by decide) (by decide) hx hy same).2 (by decide)

/-- MACs do not tell the sides of a link, so those of a link and of its reverse are the same. -/
theorem nodup_macs_iff : ((bothEnds ends).map (·.mac)).Nodup ↔
    t.linkNumbers.Nodup ∧ t.shape ≠ .ring 2 := by
  have all : (bothEnds ends).map (·.mac) =
      t.linkNumbers.flatMap fun x => [macEnd x, macEnd x.swap] := by
    rw [bothEnds, List.map_flatMap]
    apply flatMap_eq_of_forall₂ written
    intro x both h
    rw [List.map_cons, List.map_cons, h.first.mac, h.second.mac, List.map_nil]
  have octets {x : Nat × Nat} (hx : x ∈ t.linkNumbers ∨ x.swap ∈ t.linkNumbers) : AreOctets x := by
    rcases hx with hx | hx
    · exact areOctets_of_mem shaped hx
    · exact (areOctets_of_mem shaped hx).symm
  rw [all, nodup_flatMap_swap_iff (fun x y hx hy => macEnd_inj (octets hx) (octets hy))
    fun x hx => (shaped.linkNumbers_lt hx).2.2, ne_eq, ← shaped.exists_swap_mem_linkNumbers_iff]
  simp only [not_exists, not_and]

omit shaped in
theorem networks24_eq (set : t.addressing.v4Octet = some first) {pair : Ethernet × Ethernet}
    (member : pair ∈ ends) : ∃ network, networks24 pair.1 = [network] ∧
      networks24 pair.2 = [network] := by
  obtain ⟨x, _, both⟩ := exists_of_mem_right written member
  exact ⟨_, networks24_of_isWritten set both.first, networks24_of_isWritten set both.second⟩

theorem pairwise_networks24 (set : t.addressing.v4Octet = some first)
    (distinct : t.linkNumbers.Nodup) :
    ends.Pairwise fun pair other => networks24 pair.1 ≠ networks24 other.1 := by
  refine pairwise_ne_of_forall₂ written
    (f := fun x => [(first, UInt8.ofNat x.1, UInt8.ofNat x.2)])
    (fun x both h => networks24_of_isWritten set h.first) distinct ?_
  intro x hx y hy same
  simp only [List.cons.injEq, Prod.mk.injEq, true_and, and_true] at same
  exact eq_of_octets (areOctets_of_mem shaped hx) (areOctets_of_mem shaped hy) same

/-- What the ends of the links of a topology have in common, if all of them are written. -/
theorem isAddressPlan : t.IsAddressPlan ends (t.attachments.map (·.node)) where
  v4 set := by
    obtain ⟨first, set⟩ := Option.isSome_iff_exists.mp set
    have plan := nodup_v4_iff shaped written set
    simp only [List.length_map] at plan
    rw [← shaped.nodup_linkNumbers_iff]
    exact plan
  v6 set := by
    obtain ⟨group, set⟩ := Option.isSome_iff_exists.mp set
    have plan := nodup_v6_iff shaped written set
    simp only [List.length_map] at plan
    rw [← shaped.nodup_linkNumbers_iff]
    exact plan
  macs := by
    rw [← shaped.nodup_linkNumbers_iff]
    exact nodup_macs_iff shaped written
  together set := by
    obtain ⟨first, set⟩ := Option.isSome_iff_exists.mp set
    intro pair member
    exact networks24_eq written set member
  apart set nodes := by
    obtain ⟨first, set⟩ := Option.isSome_iff_exists.mp set
    have distinct := shaped.nodup_linkNumbers_iff.mpr nodes
    refine List.Pairwise.imp_of_mem ?_ (pairwise_networks24 shaped written set distinct)
    intro pair other member member' different e isEnd e' isEnd'
    obtain ⟨network, nearEnd, farEnd⟩ := networks24_eq written set member
    obtain ⟨network', nearEnd', farEnd'⟩ := networks24_eq written set member'
    have own : networks24 e = [network] := by
      rcases List.mem_pair.mp isEnd with rfl | rfl
      · exact nearEnd
      · exact farEnd
    have their : networks24 e' = [network'] := by
      rcases List.mem_pair.mp isEnd' with rfl | rfl
      · exact nearEnd'
      · exact farEnd'
    rw [nearEnd, nearEnd'] at different
    rw [own, their, List.singleton_disjoint, List.mem_singleton]
    rintro rfl
    exact different rfl

end Shaped

end Whole

end Topology

namespace Builder

open IsisTestbed.Topology

variable {b : Builder} {c c' : Config} {t t₀ : Topology} {calls : List (String × Position)}

/-- A topology is linked as its shape has it, and all its links are written, when it is built. -/
theorem planned_of_build (built : b.build c = .ok (c', t)) :
    t.IsPlanned c' ∧ t.IsShaped ∧ t.attachments = [] := by
  obtain ⟨octet, _, accepts, added⟩ := added_of_build built
  have built := build_eq_ok_iff.mp built
  obtain ⟨octet', checked⟩ := exists_buildInPlace_iff.mp ⟨c', t, built⟩
  obtain ⟨c₁, edges, linked, result⟩ := buildInPlace_of_check checked
  rw [built] at result
  cases result
  refine ⟨?_, ⟨accepts.large, added.size_eq, ?_, pairs_of_addEdges linked, ?_⟩, rfl⟩
  · have unlinked : Topology.IsPlanned
        { shape := b.shape, addressing := b.addressing,
          nodes := b.sites.map fun site => plannedNode (b.plan octet') site.1 site.2 }
        (withNodes (b.plan octet') c b.sites) := fun s member => absurd member List.not_mem_nil
    exact IsPlanned.addEdges unlinked linked
  · rw [added.size_eq]
    exact accepts.few
  · intro x member
    exact absurd member List.not_mem_nil

/-- The address plan of every topology, after devices have been connected to it. Each end of a link
is found in the configuration; devices may be any, and connected in any order. -/
theorem address_plan (built : b.build c = .ok (c', t₀))
    {c'' : Config} (connected : t₀.connectAll c' calls = .ok (c'', t)) :
    t.attachments.map (fun x => (x.device, Except.ok x.node)) =
        calls.map (fun call => (call.1, t₀.resolve call.2)) ∧
      t.shape = b.shape ∧ t.addressing = b.addressing ∧ t.edges = t₀.edges ∧
      t.edges.map (fun e => (e.a, e.b)) = b.shape.edges ∧
      ∃ ends, t.ends? c'' = some ends ∧ t.IsAddressPlan ends (t.attachments.map (·.node)) := by
  obtain ⟨planned, shaped, bare⟩ := planned_of_build built
  obtain ⟨octet, _, _, added⟩ := added_of_build built
  obtain ⟨planned, shaped, attached⟩ := connectAll_keeps planned shaped connected
  obtain ⟨ends, found, written⟩ := planned.exists_ends
  have shape := attached.shape.trans added.shape
  have resolved := attached.resolved
  rw [bare] at resolved
  exact ⟨resolved, shape, attached.addressing.trans added.addressing, attached.edges,
    shape ▸ shaped.edges, ends, found, isAddressPlan shaped written⟩

/-- A ring of two nodes, addressed in both families. -/
def twoRing : Builder where
  shape := .ring 2
  systemIdOctet := some 2
  addressing := { v4Octet := some 20, v6Group := some 0x20 }

/-- A router whose port has the name that its second link will get. -/
def crossedConfig : Config where
  ports := [{ name := "p1" }]
  devices :=
    [{ name := "tester"
       ethernets :=
        [{ name := "testereth2", mac := "00:11:22:33:44:55", connection := some (.port "p1") }]
       isis := some { name := "tester.isis", systemId := "AA0000000001" } }]

/-- Both nodes are connected to the same router, and of the four links those between the nodes have
the same MACs. -/
theorem address_plan_of_twoRing : ∃ c t₀ c' t ends, twoRing.build crossedConfig = .ok (c, t₀) ∧
    t₀.connectAll c [("tester", .station 1), ("tester", .station 0)] = .ok (c', t) ∧
    t.ends? c' = some ends ∧ t.IsAddressPlan ends [1, 0] ∧
    (bothEnds ends).map (·.mac) = ["00:00:dd:ee:01:02", "00:00:dd:ee:02:01", "00:00:dd:ee:02:01",
      "00:00:dd:ee:01:02", "00:00:dd:ee:03:02", "00:00:dd:ee:02:03", "00:00:dd:ee:03:01",
      "00:00:dd:ee:01:03"] := by
  have macs : ((twoRing.build crossedConfig).toOption.bind fun (c, t₀) =>
      (t₀.connectAll c [("tester", .station 1), ("tester", .station 0)]).toOption.bind
        fun (c', t) => (t.ends? c').map fun ends => (bothEnds ends).map (·.mac)) =
      some ["00:00:dd:ee:01:02", "00:00:dd:ee:02:01", "00:00:dd:ee:02:01", "00:00:dd:ee:01:02",
        "00:00:dd:ee:03:02", "00:00:dd:ee:02:03", "00:00:dd:ee:03:01", "00:00:dd:ee:01:03"] := by
    decide +kernel
  cases built : twoRing.build crossedConfig with
  | error e => simp [built, Except.toOption] at macs
  | ok first =>
    obtain ⟨c, t₀⟩ := first
    cases connected : t₀.connectAll c [("tester", .station 1), ("tester", .station 0)] with
    | error e => simp [built, connected, Except.toOption] at macs
    | ok second =>
      obtain ⟨c', t⟩ := second
      obtain ⟨resolved, _, _, _, _, ends, found, plan⟩ := address_plan built connected
      have nodes : t.attachments.map (·.node) = [1, 0] := by
        have numbers := congrArg (List.map fun y => y.2.toOption.getD 0) resolved
        rw [List.map_map] at numbers
        exact numbers
      simp only [built, connected, Except.toOption, Option.bind_some, found, Option.map_some,
        Option.some.injEq] at macs
      exact ⟨c, t₀, c', t, ends, rfl, connected, found, nodes ▸ plan, macs⟩

end Builder

end IsisTestbed
