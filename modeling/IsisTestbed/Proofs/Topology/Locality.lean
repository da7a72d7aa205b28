import IsisTestbed.Proofs.Config.Growth
import IsisTestbed.Proofs.Topology.Building

/-!
Building is local. A topology that can be added to a configuration is put behind what is there, and
what is put there does not depend on the configuration: it is what the builder makes of the empty
one.
-/

namespace IsisTestbed

namespace Config

/-! ### Two configurations in one, by position and by name -/

variable {c x : Config} {i : Nat} {name : String} {d : Device} {f : Device → Device}

theorem getElem?_append_length_add :
    (c.append x).devices[c.devices.length + i]? = x.devices[i]? := by
  rw [append, List.getElem?_append_right (Nat.le_add_right _ _), Nat.add_sub_cancel_left]

theorem modifyDevice_append_length_add :
    (c.append x).modifyDevice (c.devices.length + i) f = c.append (x.modifyDevice i f) := by
  have devices : (c.devices ++ x.devices).modify (c.devices.length + i) f =
      c.devices ++ x.devices.modify i f := by
    apply List.ext_getElem?
    intro k
    rw [List.getElem?_modify]
    rcases Nat.lt_or_ge k c.devices.length with before | behind
    · rw [List.getElem?_append_left before, List.getElem?_append_left before,
        List.getElem?_eq_getElem before]
      simp
      omega
    · rw [List.getElem?_append_right behind, List.getElem?_append_right behind,
        List.getElem?_modify]
      have same : c.devices.length + i = k ↔ i = k - c.devices.length := by omega
      simp only [same]
  simp only [modifyDevice, append, devices]

/-- A name that the first part does not have is found in the second part. -/
theorem deviceIndex_append (free : name ∉ c.devices.map (·.name)) (h : x.deviceIndex name = .ok i) :
    (c.append x).deviceIndex name = .ok (c.devices.length + i) := by
  have unused : c.devices.findIdx? (·.name == name) = none := by simpa using free
  rw [deviceIndex_eq_ok_iff] at h ⊢
  rw [append, List.findIdx?_append, unused, h]
  simp [Nat.add_comm]

theorem deviceIndex_append_of_ok (h : c.deviceIndex name = .ok i) :
    (c.append x).deviceIndex name = .ok i := by
  rw [deviceIndex_eq_ok_iff] at h ⊢
  simp [append, List.findIdx?_append, h]

/-- What is found in the first part is found in both together. -/
theorem device_append_of_ok (h : c.device name = .ok d) : (c.append x).device name = .ok d := by
  rw [device_eq_ok_iff_find?] at h ⊢
  simp [append, h]

theorem device_append_of_not_mem (free : name ∉ c.devices.map (·.name))
    (h : x.device name = .ok d) : (c.append x).device name = .ok d := by
  obtain ⟨i, index, found⟩ := device_eq_ok_iff.mp h
  exact device_eq_ok_iff.mpr
    ⟨_, deviceIndex_append free index, getElem?_append_length_add.trans found⟩

theorem names_append :
    (c.append x).devices.map (·.name) = c.devices.map (·.name) ++ x.devices.map (·.name) := by
  simp [append]

end Config

namespace Topology

/-! ### Links in the second part -/

section Links

variable {c x x' : Config} {i j a b : Nat} {addressing : LinkAddressing} {link : Link}
  {t : Topology} {edge : Edge} {first second : Device}

theorem Linkable.append (h : Linkable x i j first second) :
    Linkable (c.append x) (c.devices.length + i) (c.devices.length + j) first second where
  different := by
    have := h.different
    omega
  atFirst := Config.getElem?_append_length_add.trans h.atFirst
  atSecond := Config.getElem?_append_length_add.trans h.atSecond
  firstRuns := h.firstRuns
  secondRuns := h.secondRuns

theorem connectDevices_append (h : connectDevices x i j a b addressing = .ok (x', link)) :
    connectDevices (c.append x) (c.devices.length + i) (c.devices.length + j) a b addressing =
      .ok (c.append x', link) := by
  obtain ⟨addressed, ha, hb, first, second, linkable⟩ := linkable_of_connectDevices h
  rw [connectDevices_eq addressed ha hb linkable] at h
  cases h
  rw [connectDevices_eq addressed ha hb linkable.append]
  simp only [linkedConfig, Config.modifyDevice_append_length_add]

theorem addEdge_append (free : ∀ n ∈ t.nodes, n.name ∉ c.devices.map (·.name))
    (h : addEdge t x a b = .ok (x', edge)) :
    addEdge t (c.append x) a b = .ok (c.append x', edge) := by
  obtain ⟨nodeA, nodeB, i, j, link, atA, atB, indexA, indexB, linked, rfl⟩ := addEdge_eq_ok_iff.mp h
  exact addEdge_eq_ok_iff.mpr ⟨nodeA, nodeB, _, _, link, atA, atB,
    Config.deviceIndex_append (free nodeA (List.mem_of_getElem? atA)) indexA,
    Config.deviceIndex_append (free nodeB (List.mem_of_getElem? atB)) indexB,
    connectDevices_append linked, rfl⟩

/-- The outcome of adding links one after the other, link by link. -/
theorem addEdges_cons_eq_ok_iff {pairs : List (Nat × Nat)} {edges : List Edge} :
    addEdges t x ((a, b) :: pairs) = (x', .ok edges) ↔
      ∃ x₁ edge rest, addEdge t x a b = .ok (x₁, edge) ∧
        addEdges t x₁ pairs = (x', .ok rest) ∧ edges = edge :: rest := by
  rw [addEdges]
  cases addEdge t x a b with
  | error e => simp
  | ok result =>
    obtain ⟨x₁, edge⟩ := result
    rcases later : addEdges t x₁ pairs with ⟨x₂, e | rest⟩
    · simp [Except.map, later]
    · simp [Except.map, later, eq_comm, and_assoc]

theorem addEdges_append {pairs : List (Nat × Nat)} {edges : List Edge}
    (free : ∀ n ∈ t.nodes, n.name ∉ c.devices.map (·.name))
    (h : addEdges t x pairs = (x', .ok edges)) :
    addEdges t (c.append x) pairs = (c.append x', .ok edges) := by
  induction pairs generalizing x edges with
  | nil =>
    cases h
    rfl
  | cons pair rest ih =>
    obtain ⟨a, b⟩ := pair
    obtain ⟨x₁, edge, more, first, later, rfl⟩ := addEdges_cons_eq_ok_iff.mp h
    exact addEdges_cons_eq_ok_iff.mpr ⟨_, edge, more, addEdge_append free first, ih later, rfl⟩

/-- Links are made on devices alone. -/
theorem ports_and_flows_addEdges (t : Topology) (c : Config) (pairs : List (Nat × Nat)) :
    (addEdges t c pairs).1.ports = c.ports ∧ (addEdges t c pairs).1.flows = c.flows := by
  refine addEdges_keeps (P := fun c' => c'.ports = c.ports ∧ c'.flows = c.flows) ?_ ⟨rfl, rfl⟩
  intro c₁ c₂ a b edge same added
  obtain ⟨_, _, _, _, _, _, _, _, _, linked, _⟩ := addEdge_eq_ok_iff.mp added
  obtain ⟨_, _, _, rfl, _⟩ := eq_of_connectDevices linked
  exact same

end Links

theorem withNodes_eq_append (plan : RouterPlan) (c : Config) (sites : List (Nat × Position)) :
    withNodes plan c sites = c.append (withNodes plan {} sites) := by
  simp [withNodes, Config.append]

theorem names_plannedNodes (plan : RouterPlan) (sites : List (Nat × Position)) :
    (sites.map fun site => plannedNode plan site.1 site.2).map (·.name) =
      sites.map (siteName plan.systemIdOctet) := by
  rw [List.map_map]
  exact List.map_congr_left fun _ _ => rfl

theorem names_withNodes_empty (plan : RouterPlan) (sites : List (Nat × Position)) :
    (withNodes plan {} sites).devices.map (·.name) = sites.map (siteName plan.systemIdOctet) := by
  simp only [withNodes, List.nil_append, List.map_map]
  exact List.map_congr_left fun _ _ => rfl

theorem exists_site_of_mem_withNodes_empty {plan : RouterPlan} {sites : List (Nat × Position)}
    {d : Device} (h : d ∈ (withNodes plan {} sites).devices) :
    ∃ site ∈ sites, d = plannedDevice plan site.1 site.2 := by
  obtain ⟨site, member, rfl⟩ := List.mem_map.mp h
  exact ⟨site, member, rfl⟩

theorem ethernets_withNodes_empty (plan : RouterPlan) (sites : List (Nat × Position)) :
    (withNodes plan {} sites).ethernets = [] := by
  apply List.flatMap_eq_nil_iff.mpr
  intro d member
  obtain ⟨site, _, rfl⟩ := exists_site_of_mem_withNodes_empty member
  rfl

/-- New nodes refer to nothing yet. -/
theorem sound_withNodes_empty (plan : RouterPlan) (sites : List (Nat × Position)) :
    (withNodes plan {} sites).Sound where
  ports := by simp [ethernets_withNodes_empty]
  links := by simp [ethernets_withNodes_empty]
  interfaces := by
    intro d member r runs i hi
    obtain ⟨site, _, rfl⟩ := exists_site_of_mem_withNodes_empty member
    cases runs
    cases hi
  addresses := by simp [ethernets_withNodes_empty]
  flows := by simp [withNodes]

/-- The device of a new node is found by its name. -/
theorem device_withNodes_empty {plan : RouterPlan} {sites : List (Nat × Position)}
    {site : Nat × Position} (distinct : (sites.map (siteName plan.systemIdOctet)).Nodup)
    (member : site ∈ sites) :
    (withNodes plan {} sites).device (siteName plan.systemIdOctet site) =
      .ok (plannedDevice plan site.1 site.2) := by
  have listed : plannedDevice plan site.1 site.2 ∈ (withNodes plan {} sites).devices :=
    List.mem_append_right _ (List.mem_map.mpr ⟨site, member, rfl⟩)
  exact Config.device_of_mem ((names_withNodes_empty plan sites).symm ▸ distinct) listed

end Topology

namespace Builder

open IsisTestbed.Topology

/-! ### Building -/

/-- What a builder adds to the configurations on which it succeeds. -/
def created (b : Builder) : Config :=
  (b.buildInPlace {}).1

variable {b : Builder} {c c' : Config} {t : Topology}

theorem Accepts.empty (h : b.Accepts c) : b.Accepts {} where
  large := h.large
  few := h.few
  octet := h.octet
  addressed := h.addressed
  free := by simp

/-- Building on a configuration makes the same topology as building on the empty one, and puts its
routers behind all devices that are there, none of which has the name of a node. -/
theorem buildInPlace_eq_append (h : b.buildInPlace c = (c', .ok t)) :
    b.buildInPlace {} = (b.created, .ok t) ∧ c' = c.append b.created ∧
      ∀ n ∈ t.nodes, n.name ∉ c.devices.map (·.name) := by
  obtain ⟨octet, checked⟩ := exists_buildInPlace_iff.mp ⟨c', t, h⟩
  obtain ⟨set, accepts⟩ := check_eq_ok_iff.mp checked
  obtain ⟨_, _, linked, result⟩ := buildInPlace_of_check checked
  obtain ⟨x, edges, linkedAlone, resultAlone⟩ :=
    buildInPlace_of_check (check_eq_ok_iff.mpr ⟨set, accepts.empty⟩)
  have free : ∀ n ∈ b.sites.map fun site => plannedNode (b.plan octet) site.1 site.2,
      n.name ∉ c.devices.map (·.name) := by
    intro n member
    obtain ⟨site, hsite, rfl⟩ := List.mem_map.mp member
    exact accepts.free octet set _ (List.mem_map.mpr ⟨site, hsite, rfl⟩)
  rw [withNodes_eq_append, addEdges_append free linkedAlone] at linked
  cases linked
  rw [h] at result
  cases result
  have alone : b.created = x := congrArg Prod.fst resultAlone
  exact ⟨alone ▸ resultAlone, by rw [alone], free⟩

/-- A builder creates nothing but devices. -/
theorem created_eq_devices (h : b.buildInPlace {} = (b.created, .ok t)) :
    b.created = { devices := b.created.devices } := by
  obtain ⟨octet, checked⟩ := exists_buildInPlace_iff.mp ⟨_, _, h⟩
  obtain ⟨x, edges, linked, result⟩ := buildInPlace_of_check checked
  have alone : b.created = x := congrArg Prod.fst result
  obtain ⟨ports, flows⟩ := ports_and_flows_addEdges
    { shape := b.shape, addressing := b.addressing,
      nodes := b.sites.map fun site => plannedNode (b.plan octet) site.1 site.2 }
    (withNodes (b.plan octet) {} b.sites) b.shape.edges
  rw [linked, ← alone] at ports flows
  have noPorts : b.created.ports = [] := ports
  have noFlows : b.created.flows = [] := flows
  calc b.created
      = ⟨b.created.ports, b.created.devices, b.created.flows⟩ := rfl
    _ = { devices := b.created.devices } := by rw [noPorts, noFlows]

end Builder

end IsisTestbed
