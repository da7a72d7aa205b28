import IsisTestbed.Proofs.Topology.Attaching
import IsisTestbed.Proofs.Topology.LinkNumbers

/-!
The ends of the links of a topology, as they are written in the configuration. They are looked up at
the place that their names tell, since the devices that are connected may have other ethernets of the
same names. Each link writes what is derived from its numbers, and later links leave that alone.
-/

namespace IsisTestbed

/-! ### Ends of links in a configuration -/

namespace Config

/-- The ethernet of a name that a link has added to a device. The device may have other ones of that
name; the end of a link is at the place that its name tells. -/
def endOf? (c : Config) (device ethernet : String) : Option Ethernet :=
  match c.device device with
  | .error _ => none
  | .ok d =>
    (d.ethernets.zipIdx.find? fun (e, k) =>
      e.name == ethernet && ethernet == Topology.ethernetName device (k + 1)).map (·.1)

theorem endOf?_eq_some_iff {c : Config} {device ethernet : String} {e : Ethernet} :
    c.endOf? device ethernet = some e ↔ ∃ d k, c.device device = .ok d ∧
      d.ethernets[k]? = some e ∧ e.name = ethernet ∧
      ethernet = Topology.ethernetName device (k + 1) := by
  unfold endOf?
  cases found : c.device device with
  | error cause => simp
  | ok d =>
    simp only [Option.map_eq_some_iff, Prod.exists, exists_and_right, exists_eq_right,
      Except.ok.injEq]
    constructor
    · rintro ⟨k, first⟩
      have member := List.mem_of_find?_eq_some first
      have holds := List.find?_some first
      simp only [Bool.and_eq_true, beq_iff_eq] at holds
      exact ⟨d, k, rfl, List.mem_zipIdx_iff_getElem?.mp member, holds⟩
    · rintro ⟨_, k, rfl, atPlace, name, place⟩
      -- The name tells the place, so the first candidate is the only one.
      have isSome : (d.ethernets.zipIdx.find? fun (e, k) =>
          e.name == ethernet && ethernet == Topology.ethernetName device (k + 1)).isSome := by
        refine List.find?_isSome.mpr ⟨(e, k), List.mem_zipIdx_iff_getElem?.mpr atPlace, ?_⟩
        simp only [Bool.and_eq_true, beq_iff_eq]
        exact ⟨name, place⟩
      obtain ⟨⟨e', k'⟩, first⟩ := Option.isSome_iff_exists.mp isSome
      have member := List.mem_of_find?_eq_some first
      have holds := List.find?_some first
      simp only [Bool.and_eq_true, beq_iff_eq] at holds
      have same := (Topology.ethernetName_inj (holds.2.symm.trans place)).2
      obtain rfl : k' = k := Nat.succ.inj same
      rw [List.mem_zipIdx_iff_getElem?, atPlace] at member
      cases member
      exact ⟨k', first⟩

end Config

namespace Topology

/-- A link of a topology with the devices at its ends and their numbers. -/
structure Span where
  deviceA : String
  deviceB : String
  numbers : Nat × Nat
  link : Link
  deriving DecidableEq, Repr

/-- The ethernets at the two ends. -/
def Span.ends? (s : Span) (c : Config) : Option (Ethernet × Ethernet) := do
  let endA ← c.endOf? s.deviceA s.link.ethernetA
  let endB ← c.endOf? s.deviceB s.link.ethernetB
  return (endA, endB)

/-- The device of a node. -/
def deviceOf (t : Topology) (index : Nat) : String :=
  t.nodes[index]?.elim "" (·.name)

def edgeSpan (t : Topology) (e : Edge) : Span :=
  ⟨t.deviceOf e.a, t.deviceOf e.b, (e.a + 1, e.b + 1), e.link⟩

def attachmentSpan (t : Topology) (x : Attachment) : Span :=
  ⟨x.device, t.deviceOf x.node, (t.size + 1, x.node + 1), x.link⟩

/-- All links of a topology, those between nodes first. -/
def spans (t : Topology) : List Span :=
  t.edges.map t.edgeSpan ++ t.attachments.map t.attachmentSpan

/-- The two ends of each link. -/
def ends? (t : Topology) (c : Config) : Option (List (Ethernet × Ethernet)) :=
  t.spans.mapM (·.ends? c)

theorem numbers_spans (t : Topology) : t.spans.map (·.numbers) = t.linkNumbers := by
  rw [spans, List.map_append, List.map_map, List.map_map]
  rfl

/-! ### What a link writes -/

/-- An IPv4 address of a link, on one of its sides. -/
def v4End (first side : UInt8) (numbers : Nat × Nat) : Ipv4 :=
  ⟨first, UInt8.ofNat numbers.1, UInt8.ofNat numbers.2, side⟩

/-- An IPv6 address of a link. -/
def v6End (first : UInt16) (side : Nat) (numbers : Nat × Nat) : Ipv6 :=
  linkV6Address first (UInt8.ofNat numbers.1) (UInt8.ofNat numbers.2) side

/-- The MAC at the first end of a link, and with the numbers exchanged that at the second one. -/
def macEnd (numbers : Nat × Nat) : String :=
  linkMac (UInt8.ofNat numbers.1) (UInt8.ofNat numbers.2)

/-- One end of a link has one address in each family in use. -/
structure IsWritten (addressing : LinkAddressing) (v4 : UInt8 → Ipv4) (v6 : UInt16 → Ipv6)
    (mac : String) (e : Ethernet) : Prop where
  v4 : e.ipv4.map (fun x => (x.address, x.prefixLength)) =
    addressing.v4Octet.toList.map fun first => ((v4 first).text, 24)
  v6 : e.ipv6.map (·.address) = addressing.v6Group.toList.map fun first => (v6 first).text
  mac : e.mac = mac

/-- Both ends of a link hold what is derived from its numbers. -/
structure AreWritten (addressing : LinkAddressing) (numbers : Nat × Nat)
    (ends : Ethernet × Ethernet) : Prop where
  first : IsWritten addressing (v4End · 1 numbers) (v6End · 1 numbers) (macEnd numbers) ends.1
  second : IsWritten addressing (v4End · 2 numbers) (v6End · 2 numbers) (macEnd numbers.swap) ends.2

section OneLink

variable {c c' : Config} {i j a b : Nat} {nameA nameB device ethernet : String} {link : Link}
  {addressing : LinkAddressing} {first second : Device} {e : Ethernet} {s : Span}
  {ends : Ethernet × Ethernet}

theorem Span.ends?_eq_some_iff : s.ends? c = some ends ↔
    c.endOf? s.deviceA s.link.ethernetA = some ends.1 ∧
      c.endOf? s.deviceB s.link.ethernetB = some ends.2 := by
  obtain ⟨endA, endB⟩ := ends
  simp only [ends?, bind, Option.bind_eq_some_iff, pure, Option.some.injEq, Prod.mk.injEq]
  constructor
  · rintro ⟨_, foundA, _, foundB, rfl, rfl⟩
    exact ⟨foundA, foundB⟩
  · rintro ⟨foundA, foundB⟩
    exact ⟨endA, foundA, endB, foundB, rfl, rfl⟩

theorem isWritten_firstEnd (numbers : Nat × Nat) :
    IsWritten addressing (v4End · 1 numbers) (v6End · 1 numbers) (macEnd numbers)
      (firstEnd addressing (UInt8.ofNat numbers.1) (UInt8.ofNat numbers.2) first second) where
  v4 := by cases form : addressing.v4Octet <;>
    simp [firstEnd, plannedAddresses, linkEthernet, form, v4End, linkV4]
  v6 := by cases form : addressing.v6Group <;>
    simp [firstEnd, plannedAddresses, linkEthernet, form, v6End]
  mac := rfl

theorem isWritten_secondEnd (numbers : Nat × Nat) :
    IsWritten addressing (v4End · 2 numbers) (v6End · 2 numbers) (macEnd numbers.swap)
      (secondEnd addressing (UInt8.ofNat numbers.1) (UInt8.ofNat numbers.2) first second) where
  v4 := by cases form : addressing.v4Octet <;>
    simp [secondEnd, plannedAddresses, linkEthernet, form, v4End, linkV4]
  v6 := by cases form : addressing.v6Group <;>
    simp [secondEnd, plannedAddresses, linkEthernet, form, v6End]
  mac := rfl

/-- The end that a device has just got is found. -/
theorem endOf?_addEnd (found : c.device device = .ok first)
    (after : c'.device device = .ok (addEnd e first)) (next : e.name = nextEthernet first) :
    c'.endOf? device (nextEthernet first) = some e := by
  have name : first.name = device := Config.name_of_device found
  refine Config.endOf?_eq_some_iff.mpr
    ⟨addEnd e first, first.ethernets.length, after, ?_, next, by rw [nextEthernet, name]⟩
  rw [ethernets_addEnd, List.getElem?_append_right (Nat.le_refl _), Nat.sub_self]
  rfl

/-- The ends of a link that is made are found, and hold what is derived from its numbers. -/
theorem areWritten_of_connectDevices (indexA : c.deviceIndex nameA = .ok i)
    (indexB : c.deviceIndex nameB = .ok j)
    (h : connectDevices c i j a b addressing = .ok (c', link)) :
    ∃ ends, (Span.mk nameA nameB (a + 1, b + 1) link).ends? c' = some ends ∧
      AreWritten addressing (a + 1, b + 1) ends := by
  obtain ⟨first, second, linkable, rfl, rfl⟩ := eq_of_connectDevices h
  have foundA : c.device nameA = .ok first :=
    Config.device_eq_ok_iff.mpr ⟨i, indexA, linkable.atFirst⟩
  have foundB : c.device nameB = .ok second :=
    Config.device_eq_ok_iff.mpr ⟨j, indexB, linkable.atSecond⟩
  refine ⟨(firstEnd addressing _ _ first second, secondEnd addressing _ _ first second),
    Span.ends?_eq_some_iff.mpr ⟨?_, ?_⟩,
    isWritten_firstEnd (a + 1, b + 1), isWritten_secondEnd (a + 1, b + 1)⟩
  · exact endOf?_addEnd foundA (device_linkedConfig_first linkable indexA) rfl
  · exact endOf?_addEnd foundB (device_linkedConfig_second linkable indexB) rfl

theorem GainsEnd.endOf? {near far : String} {v4 : Option (Ipv4 × Ipv4)}
    {v6 : Option (Ipv6 × Ipv6)} (gains : GainsEnd c c' device near far v4 v6)
    (h : c.endOf? device ethernet = some e) : c'.endOf? device ethernet = some e := by
  obtain ⟨d, added, before, _, _, _, after⟩ := gains
  obtain ⟨_, k, found, atPlace, name, place⟩ := Config.endOf?_eq_some_iff.mp h
  rw [before] at found
  cases found
  have bound := (List.getElem?_eq_some_iff.mp atPlace).1
  refine Config.endOf?_eq_some_iff.mpr ⟨addEnd added d, k, after, ?_, name, place⟩
  rw [ethernets_addEnd, List.getElem?_append_left bound, atPlace]

/-- The end of a link stays where it is when other links are made. -/
theorem Linked.endOf? (h : Linked c c' nameA nameB link)
    (found : c.endOf? device ethernet = some e) : c'.endOf? device ethernet = some e := by
  by_cases atA : device = nameA
  · subst atA
    exact h.first.endOf? found
  · by_cases atB : device = nameB
    · subst atB
      exact h.second.endOf? found
    · rw [← found]
      simp only [Config.endOf?, h.others device atA atB]

theorem Linked.ends? (h : Linked c c' nameA nameB link) (found : s.ends? c = some ends) :
    s.ends? c' = some ends := by
  obtain ⟨foundA, foundB⟩ := Span.ends?_eq_some_iff.mp found
  exact Span.ends?_eq_some_iff.mpr ⟨h.endOf? foundA, h.endOf? foundB⟩

end OneLink

/-! ### Along a run -/

/-- All links of a topology are written in a configuration. -/
def IsPlanned (t : Topology) (c : Config) : Prop :=
  ∀ s ∈ t.spans, ∃ ends, s.ends? c = some ends ∧ AreWritten t.addressing s.numbers ends

section Run

variable {t t' : Topology} {c c' : Config} {before : List Edge} {a b index : Nat}
  {device : String} {p : Position} {x : Attachment} {pairs : List (Nat × Nat)}

theorem deviceOf_eq {n : Node} (h : t.nodes[index]? = some n) : t.deviceOf index = n.name := by
  rw [deviceOf, h]
  rfl

/-- Making a link keeps those that are there. -/
theorem IsPlanned.of_linked {nameA nameB : String} {link : Link} (h : t.IsPlanned c)
    (linked : Linked c c' nameA nameB link) (same : t'.addressing = t.addressing)
    (spans : ∀ s ∈ t'.spans, s ∈ t.spans ∨
      ∃ ends, s.ends? c' = some ends ∧ AreWritten t'.addressing s.numbers ends) :
    t'.IsPlanned c' := by
  intro s member
  rcases spans s member with old | new
  · obtain ⟨ends, found, written⟩ := h s old
    exact ⟨ends, linked.ends? found, same ▸ written⟩
  · exact new

theorem IsPlanned.addEdge {edge : Edge} (h : { t with edges := before }.IsPlanned c)
    (added : addEdge t c a b = .ok (c', edge)) :
    { t with edges := before ++ [edge] }.IsPlanned c' := by
  obtain ⟨nodeA, nodeB, i, j, link, atA, atB, indexA, indexB, made, rfl⟩ :=
    addEdge_eq_ok_iff.mp added
  refine h.of_linked (linked_of_connectDevices indexA indexB made) rfl ?_
  intro s member
  simp only [spans, List.map_append, List.mem_append, List.map_cons, List.map_nil,
    List.mem_singleton] at member ⊢
  rcases member with (old | rfl) | attached
  · exact .inl (.inl old)
  · right
    have written := areWritten_of_connectDevices indexA indexB made
    rw [← deviceOf_eq atA, ← deviceOf_eq atB] at written
    exact written
  · exact .inl (.inr attached)

/-- The induction is on the links that are left; each one is added behind those made before. -/
theorem IsPlanned.addEdges {edges : List Edge} (h : { t with edges := before }.IsPlanned c)
    (added : addEdges t c pairs = (c', .ok edges)) :
    { t with edges := before ++ edges }.IsPlanned c' := by
  induction pairs generalizing c before edges with
  | nil =>
    cases added
    rw [List.append_nil]
    exact h
  | cons pair rest ih =>
    obtain ⟨a, b⟩ := pair
    obtain ⟨c₁, edge, more, first, later, rfl⟩ := addEdges_cons_eq_ok_iff.mp added
    have next := ih (h.addEdge first) later
    rw [List.append_assoc] at next
    exact next

theorem pairs_of_addEdges {edges : List Edge} (added : addEdges t c pairs = (c', .ok edges)) :
    edges.map (fun e => (e.a, e.b)) = pairs := by
  induction pairs generalizing c edges with
  | nil =>
    cases added
    rfl
  | cons pair rest ih =>
    obtain ⟨a, b⟩ := pair
    obtain ⟨c₁, edge, more, first, later, rfl⟩ := addEdges_cons_eq_ok_iff.mp added
    obtain ⟨_, _, _, _, sameA, sameB, _⟩ := linked_of_addEdge first
    rw [List.map_cons, ih later, sameA, sameB]

theorem IsPlanned.attach (h : t.IsPlanned c)
    (attached : t.attach c device index = .ok (c', t', x)) : t'.IsPlanned c' := by
  obtain ⟨n, i, j, link, atIndex, indexA, indexB, made, rfl, rfl⟩ := attach_eq_ok_iff.mp attached
  refine h.of_linked (linked_of_connectDevices indexA indexB made) rfl ?_
  intro s member
  simp only [spans, List.map_append, List.mem_append, List.map_cons, List.map_nil,
    List.mem_singleton] at member ⊢
  rcases member with edge | old | rfl
  · exact .inl (.inl edge)
  · exact .inl (.inr old)
  · right
    have written := areWritten_of_connectDevices indexA indexB made
    rw [← deviceOf_eq atIndex] at written
    exact written

theorem IsShaped.attach (h : t.IsShaped) (attached : t.attach c device index = .ok (c', t', x)) :
    t'.IsShaped := by
  obtain ⟨n, atIndex, _, rfl, rfl, _⟩ := linked_of_attach attached
  have bound : x.node < t.size := (List.getElem?_eq_some_iff.mp atIndex).1
  refine ⟨h.large, h.size, h.few, h.edges, ?_⟩
  intro y member
  rcases List.mem_append.mp member with old | new
  · exact h.attachments y old
  · rw [List.mem_singleton.mp new]
    exact bound

/-- Attaches devices one after the other, each to the node at a position. -/
def connectAll (t : Topology) (c : Config) :
    List (String × Position) → Except TopologyError (Config × Topology)
  | [] => .ok (c, t)
  | (device, p) :: rest => do
    let (c, t, _) ← t.connect c device p
    t.connectAll c rest

theorem connectAll_cons_eq_ok_iff {calls : List (String × Position)} {result : Config × Topology} :
    t.connectAll c ((device, p) :: calls) = .ok result ↔
      ∃ c₁ t₁ x, t.connect c device p = .ok (c₁, t₁, x) ∧ t₁.connectAll c₁ calls = .ok result := by
  simp only [connectAll, bind_eq_ok_iff, Prod.exists]

/-- What a topology with devices attached to it has kept, and what it has got. -/
structure Attached (t t' : Topology) (calls : List (String × Position)) : Prop where
  shape : t'.shape = t.shape
  addressing : t'.addressing = t.addressing
  edges : t'.edges = t.edges
  resolved : t'.attachments.map (fun x => (x.device, Except.ok x.node)) =
    t.attachments.map (fun x => (x.device, Except.ok x.node)) ++
      calls.map fun call => (call.1, t.resolve call.2)

/-- The induction is on the devices that are left to be attached. -/
theorem connectAll_keeps {calls : List (String × Position)} (planned : t.IsPlanned c)
    (shaped : t.IsShaped) (connected : t.connectAll c calls = .ok (c', t')) :
    t'.IsPlanned c' ∧ t'.IsShaped ∧ Attached t t' calls := by
  induction calls generalizing t c with
  | nil =>
    cases connected
    exact ⟨planned, shaped, rfl, rfl, rfl, by simp⟩
  | cons call rest ih =>
    obtain ⟨device, p⟩ := call
    obtain ⟨c₁, t₁, x, first, later⟩ := connectAll_cons_eq_ok_iff.mp connected
    obtain ⟨index, resolved, attached⟩ := connect_eq_ok_iff.mp first
    obtain ⟨planned', shaped', more⟩ := ih (planned.attach attached) (shaped.attach attached) later
    obtain ⟨_, _, device', node', rfl, _⟩ := linked_of_attach attached
    refine ⟨planned', shaped', more.shape, more.addressing, more.edges, ?_⟩
    rw [more.resolved, List.map_append, List.append_assoc, List.map_cons, List.map_cons, resolved,
      device', node']
    rfl

end Run

end Topology

end IsisTestbed
