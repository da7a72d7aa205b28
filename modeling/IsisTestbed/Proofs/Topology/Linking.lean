import IsisTestbed.Proofs.Config.Lookup
import IsisTestbed.Proofs.Topology.Addresses

/-!
What linking two devices does. It succeeds exactly for two different devices that both run ISIS, and
then both get one ethernet and one ISIS interface more. Everything else about the devices stays, in
particular their names and whether they run ISIS; so links can be made one after the other.
-/

namespace IsisTestbed.Topology

/-! ### The outcome of a link -/

/-- Two devices, at different positions of a configuration, that both run ISIS. -/
structure Linkable (c : Config) (i j : Nat) (first second : Device) : Prop where
  different : i ≠ j
  atFirst : c.devices[i]? = some first
  atSecond : c.devices[j]? = some second
  firstRuns : first.isis.isSome = true
  secondRuns : second.isis.isSome = true

/-- The ethernet that a link adds to its first device. The devices stand for routers that are
numbered from one. -/
def firstEnd (addressing : LinkAddressing) (a b : UInt8) (first second : Device) : Ethernet :=
  let (v4, v6) := plannedAddresses addressing a b
  linkEthernet (nextEthernet first) (nextEthernet second) (linkMac a b) v4 v6

/-- The ethernet that a link adds to its second device. -/
def secondEnd (addressing : LinkAddressing) (a b : UInt8) (first second : Device) : Ethernet :=
  let (v4, v6) := plannedAddresses addressing a b
  linkEthernet (nextEthernet second) (nextEthernet first) (linkMac b a) (v4.map Prod.swap)
    (v6.map Prod.swap)

/-- A configuration with the ends of a link added to two devices. -/
def linkedConfig (c : Config) (i j : Nat) (endA endB : Ethernet) : Config :=
  (c.modifyDevice i (addEnd endA)).modifyDevice j (addEnd endB)

/-- The link between two devices. -/
def plannedLink (addressing : LinkAddressing) (a b : UInt8) (first second : Device) : Link :=
  let (v4, v6) := plannedAddresses addressing a b
  ⟨nextEthernet first, nextEthernet second, v4, v6⟩

theorem lift_eq_ok_iff {α : Type} {x : Except ConfigError α} {a : α} :
    TopologyError.lift x = .ok a ↔ x = .ok a := by
  cases x <;> simp [TopologyError.lift]

theorem requireRouter_eq_ok_iff {d : Device} {u : Unit} :
    requireRouter d = .ok u ↔ d.isis.isSome = true := by
  unfold requireRouter
  cases d.isis <;> simp

theorem octet_eq_ok_iff {n : Nat} {k : UInt8} :
    octet n = .ok k ↔ n < 256 ∧ k = UInt8.ofNat n := by
  unfold octet
  split
  · next h =>
    have bound : n < 256 := h
    simp [bound, eq_comm]
  · next h =>
    have bound : ¬ n < 256 := h
    simp [bound]

section Outcome

variable {c c' : Config} {i j a b : Nat} {addressing : LinkAddressing} {link : Link}
  {first second : Device}

/-- Linking succeeds if the devices can be linked, the numbers leave room in an octet, and some
family is in use. -/
theorem connectDevices_eq (addressed : addressing.isEmpty = false) (ha : a + 1 < 256)
    (hb : b + 1 < 256) (h : Linkable c i j first second) :
    connectDevices c i j a b addressing =
      .ok (linkedConfig c i j
          (firstEnd addressing (UInt8.ofNat (a + 1)) (UInt8.ofNat (b + 1)) first second)
          (secondEnd addressing (UInt8.ofNat (a + 1)) (UInt8.ofNat (b + 1)) first second),
        plannedLink addressing (UInt8.ofNat (a + 1)) (UInt8.ofNat (b + 1)) first second) := by
  have pair : c.devicePair i j = .ok (first, second) :=
    Config.devicePair_eq_ok_iff.mpr ⟨h.different, h.atFirst, h.atSecond⟩
  have firstRouter : requireRouter first = .ok () := requireRouter_eq_ok_iff.mpr h.firstRuns
  have secondRouter : requireRouter second = .ok () := requireRouter_eq_ok_iff.mpr h.secondRuns
  have update (f g : Device → Device) :
      c.updatePair i j f g = .ok ((c.modifyDevice i f).modifyDevice j g) :=
    Config.updatePair_eq h.different h.atFirst h.atSecond
  simp only [connectDevices, addressed, Bool.false_eq_true, if_false, octet_eq ha, octet_eq hb,
    pair, TopologyError.lift, ok_bind, firstRouter, secondRouter, linkAddresses_eq, update]
  rfl

/-- Linking succeeds only in that case. -/
theorem linkable_of_connectDevices
    (h : connectDevices c i j a b addressing = .ok (c', link)) :
    addressing.isEmpty = false ∧ a + 1 < 256 ∧ b + 1 < 256 ∧
      ∃ first second, Linkable c i j first second := by
  unfold connectDevices at h
  cases addressed : addressing.isEmpty with
  | true =>
    simp only [addressed] at h
    exact nomatch h
  | false =>
    simp only [addressed, Bool.false_eq_true, if_false, bind_eq_ok_iff, octet_eq_ok_iff,
      lift_eq_ok_iff, requireRouter_eq_ok_iff] at h
    obtain ⟨_, ⟨ha, _⟩, _, ⟨hb, _⟩, ⟨first, second⟩, pair, _, runsA, _, runsB, _⟩ := h
    obtain ⟨different, hfirst, hsecond⟩ := Config.devicePair_eq_ok_iff.mp pair
    exact ⟨rfl, ha, hb, first, second, different, hfirst, hsecond, runsA, runsB⟩

/-- What a link has changed, once it is made. -/
theorem eq_of_connectDevices (h : connectDevices c i j a b addressing = .ok (c', link)) :
    ∃ first second, Linkable c i j first second ∧
      c' = linkedConfig c i j
        (firstEnd addressing (UInt8.ofNat (a + 1)) (UInt8.ofNat (b + 1)) first second)
        (secondEnd addressing (UInt8.ofNat (a + 1)) (UInt8.ofNat (b + 1)) first second) ∧
      link = plannedLink addressing (UInt8.ofNat (a + 1)) (UInt8.ofNat (b + 1)) first second := by
  obtain ⟨addressed, ha, hb, first, second, linkable⟩ := linkable_of_connectDevices h
  rw [connectDevices_eq addressed ha hb linkable] at h
  obtain ⟨config, same⟩ := Prod.mk.inj (Except.ok.inj h)
  exact ⟨first, second, linkable, config.symm, same.symm⟩

end Outcome

/-! ### Where the ends are -/

section Ends

variable {c : Config} {i j : Nat} {endA endB : Ethernet} {first second : Device}

/-- The second device is still in its place when the first one has changed. -/
theorem Linkable.atSecond_modifyDevice (h : Linkable c i j first second) {f : Device → Device} :
    (c.modifyDevice i f).devices[j]? = some second :=
  (Config.getElem?_modifyDevice_of_ne h.different).trans h.atSecond

theorem Linkable.atFirst_linkedConfig (h : Linkable c i j first second) :
    (linkedConfig c i j endA endB).devices[i]? = some (addEnd endA first) :=
  (Config.getElem?_modifyDevice_of_ne h.different.symm).trans
    (Config.getElem?_modifyDevice_self h.atFirst)

theorem Linkable.atSecond_linkedConfig (h : Linkable c i j first second) :
    (linkedConfig c i j endA endB).devices[j]? = some (addEnd endB second) :=
  Config.getElem?_modifyDevice_self h.atSecond_modifyDevice

end Ends

/-! ### What a link leaves alone -/

section AddEnd

variable {c : Config} {i j : Nat} {e endA endB : Ethernet} {d : Device} {name : String}

@[simp]
theorem name_addEnd : (addEnd e d).name = d.name :=
  rfl

@[simp]
theorem ethernets_addEnd : (addEnd e d).ethernets = d.ethernets ++ [e] :=
  rfl

@[simp]
theorem isis_addEnd :
    (addEnd e d).isis = d.isis.map fun r => r.addInterface (linkInterface d.name e.name r) :=
  rfl

/-- Whether a name is found in a configuration, and the device that is found runs ISIS. -/
def RunsIsis (c : Config) (name : String) : Prop :=
  ∃ i d, c.deviceIndex name = .ok i ∧ c.devices[i]? = some d ∧ d.isis.isSome = true

theorem RunsIsis.addEnd (h : RunsIsis c name) (i : Nat) (e : Ethernet) :
    RunsIsis (c.modifyDevice i (addEnd e)) name := by
  obtain ⟨k, d, index, found, runs⟩ := h
  have sameIndex : (c.modifyDevice i (Topology.addEnd e)).deviceIndex name = .ok k := by
    rw [Config.deviceIndex_modifyDevice (fun _ _ => name_addEnd), index]
  by_cases hik : i = k
  · subst hik
    exact ⟨i, _, sameIndex, Config.getElem?_modifyDevice_self found, by simpa using runs⟩
  · refine ⟨k, d, sameIndex, ?_, runs⟩
    rw [Config.getElem?_modifyDevice_of_ne hik, found]

/-- After a link the same devices are found, and they run ISIS as before. -/
theorem RunsIsis.linkedConfig (h : RunsIsis c name) :
    RunsIsis (linkedConfig c i j endA endB) name :=
  (h.addEnd i endA).addEnd j endB

/-- Devices of different names that are found and run ISIS can be linked. -/
theorem RunsIsis.linkable {nameA nameB : String} (hA : RunsIsis c nameA) (hB : RunsIsis c nameB)
    (different : nameA ≠ nameB) :
    ∃ i j first second, c.deviceIndex nameA = .ok i ∧ c.deviceIndex nameB = .ok j ∧
      Linkable c i j first second := by
  obtain ⟨i, first, indexA, foundA, runsA⟩ := hA
  obtain ⟨j, second, indexB, foundB, runsB⟩ := hB
  have apart : i ≠ j := by
    rintro rfl
    have nameA := Config.name_of_deviceIndex indexA foundA
    exact different (nameA.symm.trans (Config.name_of_deviceIndex indexB foundA))
  exact ⟨i, j, first, second, indexA, indexB, apart, foundA, foundB, runsA, runsB⟩

end AddEnd

/-! ### Linking the nodes of a topology -/

/-- Two nodes of a topology, by their numbers, whose devices run ISIS in a configuration. -/
structure Joinable (t : Topology) (c : Config) (a b : Nat) : Prop where
  addressed : t.addressing.isEmpty = false
  numberA : a + 1 < 256
  numberB : b + 1 < 256
  nodes : ∃ nodeA nodeB, t.nodes[a]? = some nodeA ∧ t.nodes[b]? = some nodeB ∧
    nodeA.name ≠ nodeB.name ∧ RunsIsis c nodeA.name ∧ RunsIsis c nodeB.name

theorem node_eq_ok_iff {t : Topology} {index : Nat} {n : Node} :
    t.node index = .ok n ↔ t.nodes[index]? = some n := by
  unfold node
  cases t.nodes[index]? <;> simp

/-- Linking two nodes is linking the devices that are found by their names. -/
theorem addEdge_eq_ok_iff {t : Topology} {c c' : Config} {a b : Nat} {edge : Edge} :
    addEdge t c a b = .ok (c', edge) ↔
      ∃ nodeA nodeB i j link, t.nodes[a]? = some nodeA ∧ t.nodes[b]? = some nodeB ∧
        c.deviceIndex nodeA.name = .ok i ∧ c.deviceIndex nodeB.name = .ok j ∧
        connectDevices c i j a b t.addressing = .ok (c', link) ∧ edge = ⟨a, b, link⟩ := by
  simp only [addEdge, bind_eq_ok_iff, node_eq_ok_iff, lift_eq_ok_iff]
  constructor
  · rintro ⟨nodeA, atA, i, indexA, nodeB, atB, j, indexB, ⟨_, link⟩, linked, result⟩
    cases result
    exact ⟨nodeA, nodeB, i, j, link, atA, atB, indexA, indexB, linked, rfl⟩
  · rintro ⟨nodeA, nodeB, i, j, link, atA, atB, indexA, indexB, linked, rfl⟩
    exact ⟨nodeA, atA, i, indexA, nodeB, atB, j, indexB, (c', link), linked, rfl⟩

/-- Attaching a device to a node is linking the devices that are found by their names. -/
theorem attach_eq_ok_iff {t t' : Topology} {c c' : Config} {device : String} {index : Nat}
    {x : Attachment} :
    t.attach c device index = .ok (c', t', x) ↔
      ∃ n i j link, t.nodes[index]? = some n ∧ c.deviceIndex device = .ok i ∧
        c.deviceIndex n.name = .ok j ∧
        connectDevices c i j t.size index t.addressing = .ok (c', link) ∧
        x = ⟨device, index, link⟩ ∧ t' = { t with attachments := t.attachments ++ [x] } := by
  simp only [attach, bind_eq_ok_iff, node_eq_ok_iff, lift_eq_ok_iff]
  constructor
  · rintro ⟨n, atIndex, i, indexA, j, indexB, ⟨_, link⟩, linked, result⟩
    cases result
    exact ⟨n, i, j, link, atIndex, indexA, indexB, linked, rfl, rfl⟩
  · rintro ⟨n, i, j, link, atIndex, indexA, indexB, linked, rfl, rfl⟩
    exact ⟨n, atIndex, i, indexA, j, indexB, (c', link), linked, rfl⟩

theorem connect_eq_ok_iff {t : Topology} {c : Config} {device : String} {p : Position}
    {result : Config × Topology × Attachment} :
    t.connect c device p = .ok result ↔
      ∃ index, t.resolve p = .ok index ∧ t.attach c device index = .ok result := by
  simp only [connect, bind_eq_ok_iff]

/-- What each link between two nodes keeps is kept by all of them, up to the first that fails. -/
theorem addEdges_keeps {t : Topology} {c : Config} {P : Config → Prop} {pairs : List (Nat × Nat)}
    (step : ∀ {c c' a b edge}, P c → addEdge t c a b = .ok (c', edge) → P c') (h : P c) :
    P (addEdges t c pairs).1 := by
  induction pairs generalizing c with
  | nil => exact h
  | cons pair rest ih =>
    obtain ⟨a, b⟩ := pair
    unfold addEdges
    cases first : addEdge t c a b with
    | error e => exact h
    | ok result => exact ih (step h first)

theorem addEdge_ok {t : Topology} {c : Config} {a b : Nat} (h : Joinable t c a b) :
    ∃ c' edge, addEdge t c a b = .ok (c', edge) ∧ ∀ name, RunsIsis c name → RunsIsis c' name := by
  obtain ⟨nodeA, nodeB, atA, atB, different, runsA, runsB⟩ := h.nodes
  obtain ⟨i, j, first, second, indexA, indexB, linkable⟩ := runsA.linkable runsB different
  have linked := connectDevices_eq h.addressed h.numberA h.numberB linkable
  exact ⟨_, _, addEdge_eq_ok_iff.mpr ⟨nodeA, nodeB, i, j, _, atA, atB, indexA, indexB, linked, rfl⟩,
    fun name runs => runs.linkedConfig⟩

/-- Links between joinable nodes are made one after the other without failure. The induction is on
the links that are left; each link keeps the nodes of all others joinable. -/
theorem addEdges_ok {t : Topology} {pairs : List (Nat × Nat)} {c : Config}
    (h : ∀ pair ∈ pairs, Joinable t c pair.1 pair.2) :
    ∃ c' edges, addEdges t c pairs = (c', .ok edges) := by
  induction pairs generalizing c with
  | nil => exact ⟨c, [], rfl⟩
  | cons pair rest ih =>
    obtain ⟨a, b⟩ := pair
    obtain ⟨c₁, edge, first, keeps⟩ := addEdge_ok (h (a, b) (by simp))
    have later : ∀ pair ∈ rest, Joinable t c₁ pair.1 pair.2 := by
      intro pair member
      have joinable := h pair (List.mem_cons_of_mem _ member)
      obtain ⟨nodeA, nodeB, atA, atB, different, runsA, runsB⟩ := joinable.nodes
      exact ⟨joinable.addressed, joinable.numberA, joinable.numberB, nodeA, nodeB, atA, atB,
        different, keeps _ runsA, keeps _ runsB⟩
    obtain ⟨c₂, edges, more⟩ := ih later
    exact ⟨c₂, edge :: edges, by simp [addEdges, first, more, Except.map]⟩

end IsisTestbed.Topology
