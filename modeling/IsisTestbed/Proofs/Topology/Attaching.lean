import IsisTestbed.Proofs.Topology.LinkedDevices
import IsisTestbed.Proofs.Topology.Locality

/-!
When a device can be attached to a topology. The position must be one of its shape, and the device
and that of the node must both run ISIS. Once a topology is built, its nodes do; so a device that
runs ISIS can be attached at every position. Routers are not affected by that, apart from their
interfaces.
-/

namespace IsisTestbed

/-- Whether a shape has a node at a position. -/
def Shape.Contains : Shape → Position → Prop
  | .grid rows cols, .cell row col => row < rows ∧ col < cols
  | .ring _, .cell _ _ => False
  | s, .station index => index < s.size

namespace Topology

section Nodes

variable {t : Topology} {p : Position} {n : Node} {rows cols nodes : Nat}

/-- Each row of the table starts behind the one before it. -/
theorem getElem?_cellNumbers (cols before : Nat) {rows row : Nat} :
    (cellNumbers cols rows before)[row]? =
      if row < rows then some (List.range' (before + row * cols) cols) else none := by
  induction rows generalizing before row with
  | zero => rfl
  | succ rows ih =>
    cases row with
    | zero => simp [cellNumbers]
    | succ row =>
      have start : before + cols + row * cols = before + (row + 1) * cols := by
        rw [Nat.succ_mul]
        omega
      simp only [cellNumbers, List.getElem?_cons_succ, ih, start, Nat.add_lt_add_iff_right]

theorem nodeIndex_grid (grid : t.shape = .grid rows cols) (row col : Nat) :
    t.nodeIndex row col = if row < rows ∧ col < cols then .ok (row * cols + col)
      else .error (.nodeNotFound ("(" ++ Text.number row ++ ", " ++ Text.number col ++ ")")) := by
  simp only [nodeIndex, grid, Shape.cells, getElem?_cellNumbers, Nat.zero_add]
  by_cases inRow : row < rows <;> by_cases inCol : col < cols <;>
    simp [inRow, inCol]

theorem nodeIndex_ring (ring : t.shape = .ring nodes) (row col : Nat) :
    t.nodeIndex row col =
      .error (.nodeNotFound ("(" ++ Text.number row ++ ", " ++ Text.number col ++ ")")) := by
  simp [nodeIndex, ring, Shape.cells]

theorem nodeAt_eq_ok_iff :
    t.nodeAt p = .ok n ↔ ∃ index, t.resolve p = .ok index ∧ t.nodes[index]? = some n := by
  simp only [nodeAt, bind_eq_ok_iff, node_eq_ok_iff]

/-- A position is resolved to the number of a node exactly if the shape contains it. -/
theorem exists_resolve_iff :
    (∃ index, t.resolve p = .ok index ∧ index < t.shape.size) ↔ t.shape.Contains p := by
  cases p with
  | station index =>
    cases t.shape <;> simp [resolve, Shape.Contains]
  | cell row col =>
    cases form : t.shape with
    | ring nodes => simp [resolve, nodeIndex_ring form, Shape.Contains]
    | grid rows cols =>
      simp only [resolve, nodeIndex_grid form, Shape.Contains, Shape.size]
      constructor
      · rintro ⟨index, resolved, _⟩
        by_contra outside
        rw [if_neg outside] at resolved
        cases resolved
      · intro inside
        refine ⟨row * cols + col, if_pos inside, ?_⟩
        have rowsBelow : (row + 1) * cols ≤ rows * cols := Nat.mul_le_mul_right cols inside.1
        rw [Nat.add_mul] at rowsBelow
        omega

end Nodes

/-! ### Attaching -/

section Attaching

variable {t t' : Topology} {c c' x : Config} {p : Position} {device name nameA nameB : String}
  {link : Link} {attachment : Attachment} {r : Router}

/-- Attaching a device to the node at a position succeeds exactly if some family is in use, the
numbers of both fit an octet, and both are found, run ISIS and are different. -/
theorem exists_connect_iff :
    (∃ result, t.connect c device p = .ok result) ↔
      ∃ index n, t.resolve p = .ok index ∧ t.nodes[index]? = some n ∧
        t.addressing.isEmpty = false ∧ (t.size + 1 < 256 ∧ index + 1 < 256) ∧
        device ≠ n.name ∧ RunsIsis c device ∧ RunsIsis c n.name := by
  constructor
  · rintro ⟨⟨c', t', x⟩, connected⟩
    obtain ⟨index, resolved, attached⟩ := connect_eq_ok_iff.mp connected
    obtain ⟨n, i, j, link, atIndex, indexA, indexB, linked, _⟩ := attach_eq_ok_iff.mp attached
    obtain ⟨addressed, last, number, first, second, linkable⟩ := linkable_of_connectDevices linked
    exact ⟨index, n, resolved, atIndex, addressed, ⟨last, number⟩,
      (linked_of_connectDevices indexA indexB linked).different,
      ⟨i, first, indexA, linkable.atFirst, linkable.firstRuns⟩,
      ⟨j, second, indexB, linkable.atSecond, linkable.secondRuns⟩⟩
  · rintro ⟨index, n, resolved, atIndex, addressed, ⟨last, number⟩, different, runsA, runsB⟩
    obtain ⟨i, j, first, second, indexA, indexB, linkable⟩ := runsA.linkable runsB different
    have linked := connectDevices_eq addressed last number linkable
    exact ⟨_, connect_eq_ok_iff.mpr ⟨index, resolved,
      attach_eq_ok_iff.mpr ⟨n, i, j, _, atIndex, indexA, indexB, linked, rfl, rfl⟩⟩⟩

/-- Whether the device of a name runs a router, which may have other interfaces. -/
def RunsRouter (c : Config) (name : String) (r : Router) : Prop :=
  ∃ d interfaces, c.device name = .ok d ∧ d.isis = some { r with interfaces }

theorem RunsRouter.runsIsis (h : RunsRouter c name r) : RunsIsis c name := by
  obtain ⟨d, interfaces, found, runs⟩ := h
  obtain ⟨i, index, atIndex⟩ := Config.device_eq_ok_iff.mp found
  exact ⟨i, d, index, atIndex, by rw [runs]; rfl⟩

theorem RunsRouter.append (h : RunsRouter c name r) : RunsRouter (c.append x) name r := by
  obtain ⟨d, interfaces, found, runs⟩ := h
  exact ⟨d, interfaces, Config.device_append_of_ok found, runs⟩

theorem RunsRouter.of_linked (h : RunsRouter c name r) (linked : Linked c c' nameA nameB link) :
    RunsRouter c' name r := by
  obtain ⟨d, interfaces, found, runs⟩ := h
  obtain ⟨d', found', extended⟩ := linked.exists_extends found
  obtain ⟨more, runs'⟩ := extended.isis _ runs
  exact ⟨d', interfaces ++ more, found', runs'⟩

theorem RunsRouter.addEdges (h : RunsRouter c name r) (t : Topology) (pairs : List (Nat × Nat)) :
    RunsRouter (addEdges t c pairs).1 name r := by
  refine addEdges_keeps (P := fun c => RunsRouter c name r) ?_ h
  intro c₁ c₂ a b edge before added
  obtain ⟨_, _, _, _, _, _, linked⟩ := linked_of_addEdge added
  exact before.of_linked linked

end Attaching

end Topology

namespace Builder

open IsisTestbed.Topology

/-! ### Attaching to what was built -/

/-- Whether the nodes of a builder have been added to a configuration behind what was there, and a
topology shows them. The routers that were there are still there. -/
structure Added (b : Builder) (octet : UInt8) (c c' : Config) (t : Topology) : Prop where
  shape : t.shape = b.shape
  addressing : t.addressing = b.addressing
  nodes : t.nodes = b.sites.map fun site => plannedNode (b.plan octet) site.1 site.2
  names : c'.devices.map (·.name) = c.devices.map (·.name) ++ b.nodeNames octet
  routers : ∀ site ∈ b.sites,
    RunsRouter c' (siteName octet site) (plannedRouter (b.plan octet) site.1 site.2)
  kept : ∀ name r, RunsRouter c name r → RunsRouter c' name r

variable {b : Builder} {octet : UInt8} {c c' : Config} {t t' : Topology} {n : Node} {p : Position}
  {device : String} {x : Attachment}

/-- New nodes are found by their names, before any links are made. -/
theorem Accepts.device_withNodes (accepts : b.Accepts c) (set : b.systemIdOctet = some octet)
    {site : Nat × Position} (member : site ∈ b.sites) :
    (withNodes (b.plan octet) c b.sites).device (siteName octet site) =
      .ok (plannedDevice (b.plan octet) site.1 site.2) := by
  have free : siteName octet site ∉ c.devices.map (·.name) :=
    accepts.free octet set _ (List.mem_map.mpr ⟨site, member, rfl⟩)
  have alone : (withNodes (b.plan octet) {} b.sites).device (siteName octet site) =
      .ok (plannedDevice (b.plan octet) site.1 site.2) :=
    device_withNodes_empty (b.nodeNames_nodup octet) member
  rw [withNodes_eq_append]
  exact Config.device_append_of_not_mem free alone

/-- A build adds the nodes of its builder. -/
theorem added_of_build (h : b.build c = .ok (c', t)) :
    ∃ octet, b.systemIdOctet = some octet ∧ b.Accepts c ∧ b.Added octet c c' t := by
  have built := build_eq_ok_iff.mp h
  obtain ⟨octet, checked⟩ := exists_buildInPlace_iff.mp ⟨c', t, built⟩
  obtain ⟨set, accepts⟩ := check_eq_ok_iff.mp checked
  obtain ⟨c₁, edges, linked, result⟩ := buildInPlace_of_check checked
  have all := names_addEdges
    { shape := b.shape, addressing := b.addressing,
      nodes := b.sites.map fun site => plannedNode (b.plan octet) site.1 site.2 }
    (withNodes (b.plan octet) c b.sites) b.shape.edges
  have keeps {name : String} {r : Router}
      (before : RunsRouter (withNodes (b.plan octet) c b.sites) name r) :
      RunsRouter c₁ name r := by
    have after := before.addEdges
      { shape := b.shape, addressing := b.addressing,
        nodes := b.sites.map fun site => plannedNode (b.plan octet) site.1 site.2 } b.shape.edges
    rw [linked] at after
    exact after
  rw [linked, withNodes_eq_append, Config.names_append, names_withNodes_empty] at all
  rw [built] at result
  cases result
  refine ⟨octet, set, accepts, rfl, rfl, rfl, all, ?_, ?_⟩
  · intro site member
    apply keeps
    exact ⟨plannedDevice (b.plan octet) site.1 site.2, [], accepts.device_withNodes set member, rfl⟩
  · intro name r before
    apply keeps
    rw [withNodes_eq_append]
    exact before.append

theorem exists_build_iff : (∃ result, b.build c = .ok result) ↔ b.Accepts c := by
  constructor
  · rintro ⟨⟨c', t⟩, built⟩
    obtain ⟨_, _, accepts, _⟩ := added_of_build built
    exact accepts
  · intro accepts
    obtain ⟨octet, set⟩ := Option.isSome_iff_exists.mp accepts.octet
    obtain ⟨c', t, built⟩ := exists_buildInPlace_iff.mpr ⟨octet, check_eq_ok_iff.mpr ⟨set, accepts⟩⟩
    exact ⟨(c', t), build_eq_ok_iff.mpr built⟩

namespace Added

theorem node_at (h : b.Added octet c c' t) {index : Nat} (bound : index < b.shape.size) :
    t.nodes[index]? = some (plannedNode (b.plan octet) index (b.shape.position index)) := by
  simp [h.nodes, sites, bound]

theorem size_eq (h : b.Added octet c c' t) : t.size = b.shape.size := by
  simp [Topology.size, h.nodes, sites]

/-- The positions of a topology are those that its shape contains. -/
theorem exists_nodeAt_iff (h : b.Added octet c c' t) :
    (∃ n, t.nodeAt p = .ok n) ↔ b.shape.Contains p := by
  rw [← h.shape, ← exists_resolve_iff, h.shape]
  constructor
  · rintro ⟨n, node⟩
    obtain ⟨index, resolved, atIndex⟩ := nodeAt_eq_ok_iff.mp node
    obtain ⟨bound, _⟩ := List.getElem?_eq_some_iff.mp atIndex
    exact ⟨index, resolved, h.size_eq ▸ bound⟩
  · rintro ⟨index, resolved, bound⟩
    exact ⟨_, nodeAt_eq_ok_iff.mpr ⟨index, resolved, h.node_at bound⟩⟩

/-- Each node is planned from its number, and its device runs the planned router. -/
theorem runsRouter (h : b.Added octet c c' t) (node : t.nodeAt p = .ok n) :
    ∃ index, t.resolve p = .ok index ∧ index < b.shape.size ∧
      n = plannedNode (b.plan octet) index (b.shape.position index) ∧
      RunsRouter c' n.name (plannedRouter (b.plan octet) index (b.shape.position index)) := by
  obtain ⟨index, resolved, atIndex⟩ := nodeAt_eq_ok_iff.mp node
  have bound : index < b.shape.size := h.size_eq ▸ (List.getElem?_eq_some_iff.mp atIndex).1
  have planned := Option.some.inj (atIndex.symm.trans (h.node_at bound))
  have member : (index, b.shape.position index) ∈ b.sites :=
    List.mem_map.mpr ⟨index, List.mem_range.mpr bound, rfl⟩
  have name : n.name = siteName octet (index, b.shape.position index) := by rw [planned]; rfl
  exact ⟨index, resolved, bound, planned, name ▸ h.routers _ member⟩

/-- The name of a node is one of those that are planned. -/
theorem mem_nodeNames (h : b.Added octet c c' t) (node : t.nodeAt p = .ok n) :
    n.name ∈ b.nodeNames octet := by
  obtain ⟨index, _, bound, planned, _⟩ := h.runsRouter node
  have name : n.name = siteName octet (index, b.shape.position index) := by rw [planned]; rfl
  exact List.mem_map.mpr ⟨(index, b.shape.position index),
    List.mem_map.mpr ⟨index, List.mem_range.mpr bound, rfl⟩, name.symm⟩

/-- The nodes are still there after a device is attached. -/
theorem connect (h : b.Added octet c c' t) {c'' : Config}
    (connected : t.connect c' device p = .ok (c'', t', x)) : b.Added octet c c'' t' := by
  obtain ⟨index, _, attached⟩ := connect_eq_ok_iff.mp connected
  obtain ⟨node, _, _, _, rfl, linked⟩ := linked_of_attach attached
  exact ⟨h.shape, h.addressing, h.nodes, linked.names.trans h.names,
    fun site member => (h.routers site member).of_linked linked,
    fun name r before => (h.kept name r before).of_linked linked⟩

end Added

/-- Whether a topology is built on a configuration and a device attached to it at a position. -/
def Attaches (b : Builder) (device : String) (p : Position) (c c' : Config) (t : Topology) : Prop :=
  ∃ c₁ t₁ x, b.build c = .ok (c₁, t₁) ∧ t₁.connect c₁ device p = .ok (c', t, x)

theorem Attaches.added (h : b.Attaches device p c c' t) :
    ∃ octet, b.systemIdOctet = some octet ∧ b.Added octet c c' t := by
  obtain ⟨c₁, t₁, x, built, connected⟩ := h
  obtain ⟨octet, set, _, added⟩ := added_of_build built
  exact ⟨octet, set, added.connect connected⟩

/-- What holds once the nodes are added, and is kept by every link between devices that are found by
their names, holds of what was built. -/
theorem keeps_of_build {P : Config → Prop} (h : b.build c = .ok (c', t))
    (nodes : ∀ octet, b.systemIdOctet = some octet → b.Accepts c →
      P (withNodes (b.plan octet) c b.sites))
    (links : ∀ {c c' i j m n nameA nameB addressing link}, P c → c.deviceIndex nameA = .ok i →
      c.deviceIndex nameB = .ok j → connectDevices c i j m n addressing = .ok (c', link) → P c') :
    P c' := by
  have built := build_eq_ok_iff.mp h
  obtain ⟨octet, checked⟩ := exists_buildInPlace_iff.mp ⟨c', t, built⟩
  obtain ⟨set, accepts⟩ := check_eq_ok_iff.mp checked
  obtain ⟨c₁, edges, linked, result⟩ := buildInPlace_of_check checked
  rw [built] at result
  cases result
  have all := @addEdges_keeps
    { shape := b.shape, addressing := b.addressing,
      nodes := b.sites.map fun site => plannedNode (b.plan octet) site.1 site.2 }
    (withNodes (b.plan octet) c b.sites) P b.shape.edges ?_ (nodes octet set accepts)
  · rw [linked] at all
    exact all
  · intro c₁ c₂ _ _ edge before added
    obtain ⟨_, _, _, _, _, _, _, indexA, indexB, made, _⟩ := addEdge_eq_ok_iff.mp added
    exact links before indexA indexB made

/-- What devices without ethernets have, and keep whatever devices are linked, the nodes have when
they are built. -/
theorem forall_nodes_of_build {P : Config → String → Prop} (h : b.build c = .ok (c', t))
    (bare : ∀ {c name d}, c.device name = .ok d → d.ethernets = [] → P c name)
    (links : ∀ {c c' nameA nameB link name}, Linked c c' nameA nameB link → P c name → P c' name) :
    ∀ n ∈ t.nodes, P c' n.name := by
  obtain ⟨octet, set, _, added⟩ := added_of_build h
  have all : ∀ site ∈ b.sites, P c' (siteName octet site) := by
    refine keeps_of_build (P := fun c => ∀ site ∈ b.sites, P c (siteName octet site)) h ?_ ?_
    · intro octet' set' accepts site member
      cases set.symm.trans set'
      exact bare (accepts.device_withNodes set member) rfl
    · intro _ _ _ _ _ _ _ _ _ _ before indexA indexB made site member
      exact links (linked_of_connectDevices indexA indexB made) (before site member)
  intro n member
  rw [added.nodes] at member
  obtain ⟨site, hsite, rfl⟩ := List.mem_map.mp member
  exact all site hsite

/-- What is kept by the links of a build is kept by the link of an attachment as well. -/
theorem Attaches.keeps {P : Config → Prop} (h : b.Attaches device p c c' t)
    (nodes : ∀ octet, b.systemIdOctet = some octet → b.Accepts c →
      P (withNodes (b.plan octet) c b.sites))
    (links : ∀ {c c' i j m n nameA nameB addressing link}, P c → c.deviceIndex nameA = .ok i →
      c.deviceIndex nameB = .ok j → connectDevices c i j m n addressing = .ok (c', link) → P c') :
    P c' := by
  obtain ⟨c₁, t₁, x, built, connected⟩ := h
  have joined : P c₁ := keeps_of_build built nodes links
  obtain ⟨_, _, attached⟩ := connect_eq_ok_iff.mp connected
  obtain ⟨_, _, _, _, _, indexA, indexB, made, _⟩ := attach_eq_ok_iff.mp attached
  exact links joined indexA indexB made

/-- What can be built and attached to is accepted, and the position is one of its shape. -/
theorem Attaches.accepts (h : b.Attaches device p c c' t) : b.Accepts c ∧ b.shape.Contains p := by
  obtain ⟨c₁, t₁, x, built, connected⟩ := h
  obtain ⟨octet, _, accepts, added⟩ := added_of_build built
  obtain ⟨index, n, resolved, atIndex, _⟩ := exists_connect_iff.mp ⟨_, connected⟩
  exact ⟨accepts, added.exists_nodeAt_iff.mp ⟨n, nodeAt_eq_ok_iff.mpr ⟨index, resolved, atIndex⟩⟩⟩

/-- A device that runs ISIS can be attached to every topology that can be built, at every position
of its shape and at no other one. -/
theorem exists_attaches_iff {r : Router} (runs : RunsRouter c device r) :
    (∃ c' t, b.Attaches device p c c' t) ↔ b.Accepts c ∧ b.shape.Contains p := by
  constructor
  · rintro ⟨c', t, attached⟩
    exact attached.accepts
  · rintro ⟨accepts, inside⟩
    obtain ⟨⟨c₁, t₁⟩, built⟩ := exists_build_iff.mpr accepts
    obtain ⟨octet, set, _, added⟩ := added_of_build built
    obtain ⟨n, node⟩ := added.exists_nodeAt_iff.mpr inside
    obtain ⟨index, resolved, bound, planned, router⟩ := added.runsRouter node
    have atIndex : t₁.nodes[index]? = some n := by rw [planned, added.node_at bound]
    have present : device ∈ c.devices.map (·.name) := by
      obtain ⟨d, _, found, _⟩ := runs
      exact Config.exists_device_iff.mp ⟨d, found⟩
    have different : device ≠ n.name := by
      rintro rfl
      exact accepts.free octet set _ (added.mem_nodeNames node) present
    have few := accepts.few
    obtain ⟨⟨c', t, x⟩, connected⟩ := exists_connect_iff.mpr ⟨index, n, resolved, atIndex,
      added.addressing ▸ isEmpty_eq_false_iff.mpr accepts.addressed,
      ⟨by rw [added.size_eq]; omega, by omega⟩, different, (added.kept _ _ runs).runsIsis,
      router.runsIsis⟩
    exact ⟨c', t, c₁, t₁, x, built, connected⟩

end Builder

end IsisTestbed
