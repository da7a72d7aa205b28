import IsisTestbed.Proofs.Topology.Linking

/-!
What a link does to the devices of a configuration, seen through their names. Positions do not occur
in this view: a link gives the devices that two names are found at one end each, and every other
name is found as before. All that is said about simulated routers over whole runs rests on it.
-/

namespace IsisTestbed.Topology

/-- An ethernet at one end of a simulated link. It has an address object in each family in which the
link has addresses; the address is that of its own end and the gateway that of the other one. -/
structure IsEnd (near far : String) (v4 : Option (Ipv4 × Ipv4)) (v6 : Option (Ipv6 × Ipv6))
    (e : Ethernet) : Prop where
  name : e.name = near
  connection : e.connection = some (.simulatedLink far)
  ipv4 : e.ipv4 = v4.toList.map fun (own, other) => ⟨v4Name near, own.text, other.text, 24⟩
  ipv6 : e.ipv6 = v6.toList.map fun (own, other) => ⟨v6Name near, own.text, other.text, 64⟩

/-- The device of a name has got one end of a link, on the next ethernet by its count. -/
def GainsEnd (c c' : Config) (name near far : String) (v4 : Option (Ipv4 × Ipv4))
    (v6 : Option (Ipv6 × Ipv6)) : Prop :=
  ∃ d e, c.device name = .ok d ∧ d.isis.isSome = true ∧ near = nextEthernet d ∧
    IsEnd near far v4 v6 e ∧ c'.device name = .ok (addEnd e d)

/-- The devices of two names have been linked, and no other name is affected. -/
structure Linked (c c' : Config) (nameA nameB : String) (link : Link) : Prop where
  different : nameA ≠ nameB
  names : c'.devices.map (·.name) = c.devices.map (·.name)
  first : GainsEnd c c' nameA link.ethernetA link.ethernetB link.v4 link.v6
  second : GainsEnd c c' nameB link.ethernetB link.ethernetA (link.v4.map Prod.swap)
    (link.v6.map Prod.swap)
  others : ∀ name, name ≠ nameA → name ≠ nameB → c'.device name = c.device name

theorem isEnd_linkEthernet (near far mac : String) (v4 : Option (Ipv4 × Ipv4))
    (v6 : Option (Ipv6 × Ipv6)) : IsEnd near far v4 v6 (linkEthernet near far mac v4 v6) :=
  ⟨rfl, rfl, rfl, rfl⟩

section Effect

variable {c c' : Config} {i j a b : Nat} {nameA nameB name : String} {first second : Device}
  {endA endB : Ethernet} {addressing : LinkAddressing} {link : Link}

theorem device_linkedConfig_first (h : Linkable c i j first second)
    (index : c.deviceIndex nameA = .ok i) :
    (linkedConfig c i j endA endB).device nameA = .ok (addEnd endA first) := by
  have keeps (d : Device) (e : Ethernet) : (addEnd e d).name = d.name := name_addEnd
  have sameIndex : (linkedConfig c i j endA endB).deviceIndex nameA = .ok i := by
    unfold linkedConfig
    rw [Config.deviceIndex_modifyDevice fun d _ => keeps d endB,
      Config.deviceIndex_modifyDevice fun d _ => keeps d endA, index]
  exact Config.device_eq_ok_iff.mpr ⟨i, sameIndex, h.atFirst_linkedConfig⟩

theorem device_linkedConfig_second (h : Linkable c i j first second)
    (index : c.deviceIndex nameB = .ok j) :
    (linkedConfig c i j endA endB).device nameB = .ok (addEnd endB second) := by
  refine Config.device_modifyDevice_self (fun _ _ => name_addEnd) ?_ h.atSecond_modifyDevice
  rw [Config.deviceIndex_modifyDevice fun _ _ => name_addEnd, index]

theorem device_linkedConfig_of_ne (h : Linkable c i j first second) (notFirst : first.name ≠ name)
    (notSecond : second.name ≠ name) :
    (linkedConfig c i j endA endB).device name = c.device name :=
  (Config.device_modifyDevice_of_ne (fun _ _ => name_addEnd) h.atSecond_modifyDevice
    notSecond).trans
      (Config.device_modifyDevice_of_ne (fun _ _ => name_addEnd) h.atFirst notFirst)

theorem names_linkedConfig :
    (linkedConfig c i j endA endB).devices.map (·.name) = c.devices.map (·.name) :=
  (Config.names_modifyDevice (fun _ _ => name_addEnd) j).trans
    (Config.names_modifyDevice (fun _ _ => name_addEnd) i)

/-- Linking the devices at the positions that two names are found at links the devices of these
names. -/
theorem linked_of_connectDevices (indexA : c.deviceIndex nameA = .ok i)
    (indexB : c.deviceIndex nameB = .ok j)
    (h : connectDevices c i j a b addressing = .ok (c', link)) : Linked c c' nameA nameB link := by
  obtain ⟨first, second, linkable, rfl, rfl⟩ := eq_of_connectDevices h
  have foundA : c.device nameA = .ok first :=
    Config.device_eq_ok_iff.mpr ⟨i, indexA, linkable.atFirst⟩
  have foundB : c.device nameB = .ok second :=
    Config.device_eq_ok_iff.mpr ⟨j, indexB, linkable.atSecond⟩
  have different : nameA ≠ nameB := by
    rintro rfl
    exact linkable.different (Except.ok.inj (indexA.symm.trans indexB))
  refine ⟨different, names_linkedConfig, ?_, ?_, ?_⟩
  · exact ⟨first, _, foundA, linkable.firstRuns, rfl, isEnd_linkEthernet _ _ _ _ _,
      device_linkedConfig_first linkable indexA⟩
  · exact ⟨second, _, foundB, linkable.secondRuns, rfl, isEnd_linkEthernet _ _ _ _ _,
      device_linkedConfig_second linkable indexB⟩
  · intro name notFirst notSecond
    rw [← Config.name_of_device foundA] at notFirst
    rw [← Config.name_of_device foundB] at notSecond
    exact device_linkedConfig_of_ne linkable notFirst.symm notSecond.symm

end Effect

/-! ### Links of topologies -/

section Topologies

variable {t t' : Topology} {c c' : Config} {a b index : Nat} {edge : Edge} {device : String}
  {x : Attachment}

theorem linked_of_addEdge (h : addEdge t c a b = .ok (c', edge)) :
    ∃ nodeA nodeB, t.nodes[a]? = some nodeA ∧ t.nodes[b]? = some nodeB ∧ edge.a = a ∧ edge.b = b ∧
      Linked c c' nodeA.name nodeB.name edge.link := by
  obtain ⟨nodeA, nodeB, i, j, link, atA, atB, indexA, indexB, linked, rfl⟩ :=
    addEdge_eq_ok_iff.mp h
  exact ⟨nodeA, nodeB, atA, atB, rfl, rfl, linked_of_connectDevices indexA indexB linked⟩

theorem names_addEdges (t : Topology) (c : Config) (pairs : List (Nat × Nat)) :
    (addEdges t c pairs).1.devices.map (·.name) = c.devices.map (·.name) := by
  refine addEdges_keeps (P := fun c' => c'.devices.map (·.name) = c.devices.map (·.name)) ?_ rfl
  intro c₁ c₂ a b edge same added
  obtain ⟨_, _, _, _, _, _, linked⟩ := linked_of_addEdge added
  exact linked.names.trans same

/-- Attaching a device links it to the device of the node, and records that. -/
theorem linked_of_attach (h : t.attach c device index = .ok (c', t', x)) :
    ∃ node, t.nodes[index]? = some node ∧ x.device = device ∧ x.node = index ∧
      t' = { t with attachments := t.attachments ++ [x] } ∧
      Linked c c' device node.name x.link := by
  obtain ⟨node, i, j, link, atIndex, indexA, indexB, linked, rfl, rfl⟩ := attach_eq_ok_iff.mp h
  exact ⟨node, atIndex, rfl, rfl, rfl, linked_of_connectDevices indexA indexB linked⟩

end Topologies

/-! ### What a link keeps -/

/-- A device that is another one with more ethernets and more interfaces of its router. -/
structure Extends (d d' : Device) : Prop where
  name : d'.name = d.name
  ethernets : d.ethernets ⊆ d'.ethernets
  isis : ∀ r, d.isis = some r → ∃ more, d'.isis = some { r with interfaces := r.interfaces ++ more }

theorem extends_refl (d : Device) : Extends d d where
  name := rfl
  ethernets := List.Subset.refl _
  isis := fun r runs => ⟨[], by simp [runs]⟩

theorem extends_addEnd (e : Ethernet) (d : Device) : Extends d (addEnd e d) where
  name := rfl
  ethernets := List.subset_append_left _ _
  isis := fun r runs => ⟨[linkInterface d.name e.name r], by simp [runs, Router.addInterface]⟩

/-- What a name is found at is kept by a link, up to ends of links that are added to it. -/
theorem Linked.exists_extends {c c' : Config} {nameA nameB name : String} {link : Link} {d : Device}
    (h : Linked c c' nameA nameB link) (found : c.device name = .ok d) :
    ∃ d', c'.device name = .ok d' ∧ Extends d d' := by
  by_cases atA : name = nameA
  · obtain ⟨d₁, e, before, _, _, _, after⟩ := h.first
    rw [atA, before] at found
    cases found
    exact ⟨addEnd e d, atA ▸ after, extends_addEnd e d⟩
  · by_cases atB : name = nameB
    · obtain ⟨d₁, e, before, _, _, _, after⟩ := h.second
      rw [atB, before] at found
      cases found
      exact ⟨addEnd e d, atB ▸ after, extends_addEnd e d⟩
    · exact ⟨d, (h.others name atA atB).trans found, extends_refl d⟩

/-- Whether all that is found by name in a configuration is found in another one, up to ends of links
that were added to it. -/
def KeepsDevices (c c' : Config) : Prop :=
  ∀ name d, c.device name = .ok d → ∃ d', c'.device name = .ok d' ∧ Extends d d'

theorem Linked.keepsDevices {c c' : Config} {nameA nameB : String} {link : Link}
    (h : Linked c c' nameA nameB link) : KeepsDevices c c' :=
  fun _ _ found => h.exists_extends found

end IsisTestbed.Topology
