import IsisTestbed.Proofs.Topology.Agreement
import IsisTestbed.Proofs.Topology.AddressPlan
import Mathlib.Logic.Relation

/-!
All routers of a topology are reachable over simulated links from each device that was attached to
it. Every node but the first one has an edge from an earlier node, so the shapes are connected. Each
edge and each attachment is a pair of ethernets that name each other, and nothing that happens later
takes one of them away. On the devices of nodes there are no other ethernets than such ends, so links
between them lead both ways.
-/

namespace IsisTestbed

/-! ### Shapes -/

namespace Shape

variable {s : Shape} {i j index : Nat}

/-- Whether two nodes are linked, in either direction. -/
def Touches (s : Shape) (i j : Nat) : Prop :=
  (i, j) ∈ s.edges ∨ (j, i) ∈ s.edges

theorem mem_edges_of_mem_edgesFrom (bound : i < s.size) (h : (i, j) ∈ s.edgesFrom i) :
    (i, j) ∈ s.edges :=
  List.mem_flatMap.mpr ⟨i, List.mem_range.mpr bound, h⟩

/-- In a row of a grid, each node but the first one is linked to the one on its left. -/
theorem left_mem_edges {rows cols : Nat} (bound : index < rows * cols) (inside : 0 < index % cols) :
    (index - 1, index) ∈ (grid rows cols).edges := by
  have later : 0 < index := Nat.pos_of_ne_zero fun first => by simp [first] at inside
  have wide : 0 < cols := Nat.pos_of_lt_mul_left bound
  have split : cols * (index / cols) + index % cols = index := Nat.div_add_mod index cols
  have col : index % cols < cols := Nat.mod_lt index wide
  have oneLess : (index - 1) % cols = index % cols - 1 := by
    have left : index - 1 = cols * (index / cols) + (index % cols - 1) := by omega
    rw [left, Nat.mul_add_mod, Nat.mod_eq_of_lt (by omega)]
  refine mem_edges_of_mem_edgesFrom (show index - 1 < rows * cols by omega)
    (List.mem_append_left _ ?_)
  rw [if_pos (by omega), Nat.sub_add_cancel later]
  exact List.mem_singleton.mpr rfl

/-- Below the first row of a grid, each node is linked to the one above. -/
theorem above_mem_edges {rows cols : Nat} (bound : index < rows * cols) (below : cols ≤ index) :
    (index - cols, index) ∈ (grid rows cols).edges := by
  have wide : 0 < cols := Nat.pos_of_lt_mul_left bound
  have row : index / cols < rows := Nat.div_lt_of_lt_mul (Nat.mul_comm rows cols ▸ bound)
  have oneLess : index / cols = (index - cols) / cols + 1 := Nat.div_eq_sub_div wide below
  refine mem_edges_of_mem_edgesFrom (show index - cols < rows * cols by omega)
    (List.mem_append_right _ ?_)
  rw [if_pos (oneLess ▸ row), Nat.sub_add_cancel below]
  exact List.mem_singleton.mpr rfl

/-- Around a ring, each node but the first one is linked to the one before it. -/
theorem before_mem_edges {nodes : Nat} (bound : index < nodes) (later : 0 < index) :
    (index - 1, index) ∈ (ring nodes).edges := by
  have next : (index - 1 + 1) % nodes = index := by
    rw [Nat.sub_add_cancel later, Nat.mod_eq_of_lt bound]
  refine mem_edges_of_mem_edgesFrom (show index - 1 < nodes by omega) ?_
  rw [edgesFrom, next]
  exact List.mem_singleton.mpr rfl

/-- Each node but the first one is linked to an earlier one. In a grid that is the node on its left,
or the one above if it is the first one of its row. -/
theorem exists_edge_to (large : s.IsLarge) (later : 0 < index) (bound : index < s.size) :
    ∃ before < index, (before, index) ∈ s.edges := by
  cases s with
  | ring nodes => exact ⟨index - 1, by omega, before_mem_edges bound later⟩
  | grid rows cols =>
    obtain ⟨_, wide⟩ : 2 ≤ rows ∧ 2 ≤ cols := large
    rcases Nat.eq_zero_or_pos (index % cols) with first | inside
    · have below : cols ≤ index := Nat.le_of_dvd later (Nat.dvd_of_mod_eq_zero first)
      exact ⟨index - cols, by omega, above_mem_edges bound below⟩
    · exact ⟨index - 1, by omega, left_mem_edges bound inside⟩

instance (s : Shape) : Std.Symm s.Touches where
  symm := fun _ _ => Or.symm

/-- Shapes are connected. The induction is on the number of the node that is reached. -/
theorem reachable_from_first (large : s.IsLarge) (bound : index < s.size) :
    Relation.ReflTransGen s.Touches 0 index := by
  induction index using Nat.strongRecOn with
  | ind index ih =>
    rcases Nat.eq_zero_or_pos index with rfl | later
    · exact .refl
    · obtain ⟨before, less, edge⟩ := exists_edge_to large later bound
      exact (ih before less (Nat.lt_trans less bound)).tail (.inl edge)

theorem reachable (large : s.IsLarge) (hi : i < s.size) (hj : j < s.size) :
    Relation.ReflTransGen s.Touches i j := by
  have toFirst : Relation.ReflTransGen s.Touches i 0 :=
    Std.Symm.symm _ _ (reachable_from_first large hi)
  exact toFirst.trans (reachable_from_first large hj)

end Shape

/-! ### Adjacent devices -/

/-- Whether a simulated link leads from one device to another one. -/
def Device.AdjacentTo (x y : Device) : Prop :=
  ∃ e ∈ x.ethernets, ∃ f ∈ y.ethernets, e.connection = some (.simulatedLink f.name)

/-- Whether simulated links between devices of a configuration lead from one of them to another one,
over any number of others. -/
def Config.Reaches (c : Config) : Device → Device → Prop :=
  Relation.ReflTransGen fun x y => x ∈ c.devices ∧ y ∈ c.devices ∧ x.AdjacentTo y

namespace Topology

section Ends

variable {c c' x : Config} {name nameA nameB : String} {link : Link} {d d' : Device} {e : Ethernet}

theorem Joins.adjacentTo (h : Joins c nameA nameB link) (foundA : c.device nameA = .ok d)
    (foundB : c.device nameB = .ok d') : d.AdjacentTo d' ∧ d'.AdjacentTo d := by
  obtain ⟨d₁, e, found, member, isEnd⟩ := h.first
  obtain ⟨d₂, f, found', member', isEnd'⟩ := h.second
  cases foundA.symm.trans found
  cases foundB.symm.trans found'
  exact ⟨⟨e, member, f, member', isEnd'.name ▸ isEnd.connection⟩,
    ⟨f, member', e, member, isEnd.name ▸ isEnd'.connection⟩⟩

/-- Whether an ethernet is an end of a link with the name of its device, and so is the ethernet that
it leads to, which leads back. -/
def IsMirrored (c : Config) (name : String) (e : Ethernet) : Prop :=
  ∃ k far j d f, e.name = ethernetName name k ∧ c.device far = .ok d ∧ f ∈ d.ethernets ∧
    f.name = ethernetName far j ∧ e.connection = some (.simulatedLink f.name) ∧
    f.connection = some (.simulatedLink e.name)

/-- Whether the device of a name has no other ethernets than ends of links. -/
def HoldsEnds (c : Config) (name : String) : Prop :=
  ∃ d, c.device name = .ok d ∧ ∀ e ∈ d.ethernets, IsMirrored c name e

/-- The far end stays where it is if each device is found as before, up to more ethernets. -/
theorem IsMirrored.mono (h : IsMirrored c name e)
    (kept : KeepsDevices c c') : IsMirrored c' name e := by
  obtain ⟨k, far, j, d, f, own, found, member, rest⟩ := h
  obtain ⟨d', found', extends_⟩ := kept far d found
  exact ⟨k, far, j, d', f, own, found', extends_.ethernets member, rest⟩

theorem HoldsEnds.append (h : HoldsEnds c name) : HoldsEnds (c.append x) name := by
  obtain ⟨d, found, mirrored⟩ := h
  exact ⟨d, Config.device_append_of_ok found,
    fun e member => (mirrored e member).mono (keepsDevices_append c x)⟩

/-- A device that gets one end of a link, while another one gets the other end, still holds ends
only. -/
theorem GainsEnd.holdsEnds {near far : String} {v4 w4 : Option (Ipv4 × Ipv4)}
    {v6 w6 : Option (Ipv6 × Ipv6)} (gains : GainsEnd c c' nameA near far v4 v6)
    (other : GainsEnd c c' nameB far near w4 w6) (h : HoldsEnds c nameA)
    (kept : KeepsDevices c c') : HoldsEnds c' nameA := by
  obtain ⟨d, e, foundA, _, nextA, isEnd, afterA⟩ := gains
  obtain ⟨d', f, foundB, _, nextB, isEnd', afterB⟩ := other
  obtain ⟨_, found, mirrored⟩ := h
  cases foundA.symm.trans found
  refine ⟨addEnd e d, afterA, ?_⟩
  intro x member
  rw [ethernets_addEnd] at member
  rcases List.mem_append.mp member with old | new
  · exact (mirrored x old).mono kept
  · rw [List.mem_singleton.mp new]
    have nameE : e.name = ethernetName nameA (d.ethernets.length + 1) := by
      rw [isEnd.name, nextA, nextEthernet, Config.name_of_device foundA]
    have nameF : f.name = ethernetName nameB (d'.ethernets.length + 1) := by
      rw [isEnd'.name, nextB, nextEthernet, Config.name_of_device foundB]
    exact ⟨_, nameB, _, addEnd f d', f, nameE, afterB, by simp, nameF,
      isEnd'.name ▸ isEnd.connection, isEnd.name ▸ isEnd'.connection⟩

/-- Every link, whatever devices it links, keeps that a device holds ends only. -/
theorem HoldsEnds.of_linked (h : HoldsEnds c name) (linked : Linked c c' nameA nameB link) :
    HoldsEnds c' name := by
  by_cases atA : name = nameA
  · subst atA
    exact linked.first.holdsEnds linked.second h linked.keepsDevices
  · by_cases atB : name = nameB
    · subst atB
      exact linked.second.holdsEnds linked.first h linked.keepsDevices
    · obtain ⟨d, found, mirrored⟩ := h
      exact ⟨d, (linked.others name atA atB).trans found,
        fun e member => (mirrored e member).mono linked.keepsDevices⟩

/-- Between devices that hold ends only, links lead both ways. -/
theorem HoldsEnds.adjacentTo_symm (h : HoldsEnds c nameA) (h' : HoldsEnds c nameB)
    (foundA : c.device nameA = .ok d) (foundB : c.device nameB = .ok d')
    (adjacent : d.AdjacentTo d') : d'.AdjacentTo d := by
  obtain ⟨_, found, mirrored⟩ := h
  obtain ⟨_, found', mirrored'⟩ := h'
  cases foundA.symm.trans found
  cases foundB.symm.trans found'
  obtain ⟨e, member, f, member', leads⟩ := adjacent
  obtain ⟨_, far, _, d₁, g, _, foundFar, memberG, nameG, leadsG, back⟩ := mirrored e member
  obtain ⟨_, _, _, _, _, nameF, _⟩ := mirrored' f member'
  -- The far end has the name of an ethernet of the other device, so it is on that device.
  have same : f.name = g.name := by
    rw [leads] at leadsG
    exact Connection.simulatedLink.inj (Option.some.inj leadsG)
  obtain ⟨rfl, _⟩ := ethernetName_inj (nameF.symm.trans (same.trans nameG))
  cases foundB.symm.trans foundFar
  exact ⟨g, memberG, e, member, back⟩

end Ends

/-! ### Topologies that are laid out -/

/-- Whether a topology is laid out in a configuration: its nodes have devices of their own that hold
ends of links only, and its edges and attachments are links between devices. -/
structure IsLaid (t : Topology) (c : Config) : Prop where
  shaped : t.IsShaped
  nodes : ∀ n ∈ t.nodes, (c.devices.map (·.name)).count n.name = 1 ∧ HoldsEnds c n.name
  edges : ∀ e ∈ t.edges, ∃ a b, t.nodes[e.a]? = some a ∧ t.nodes[e.b]? = some b ∧
    Joins c a.name b.name e.link
  attachments : ∀ x ∈ t.attachments, ∃ n, t.nodes[x.node]? = some n ∧
    Joins c x.device n.name x.link

namespace IsLaid

variable {t t' : Topology} {c c' y : Config} {device nameA nameB : String} {link : Link}
  {x : Attachment} {n m : Node} {d d' : Device} {i j index : Nat}

/-- Links that are there stay if each device is found as before, up to more ethernets. -/
theorem mono (h : t.IsLaid c) (kept : KeepsDevices c c')
    (nodes : ∀ n ∈ t.nodes, (c'.devices.map (·.name)).count n.name = 1 ∧ HoldsEnds c' n.name) :
    t.IsLaid c' where
  shaped := h.shaped
  nodes := nodes
  edges := by
    intro e member
    obtain ⟨a, b, atA, atB, joins⟩ := h.edges e member
    exact ⟨a, b, atA, atB, joins.mono kept⟩
  attachments := by
    intro x member
    obtain ⟨n, atNode, joins⟩ := h.attachments x member
    exact ⟨n, atNode, joins.mono kept⟩

theorem of_linked (h : t.IsLaid c) (linked : Linked c c' nameA nameB link) : t.IsLaid c' := by
  refine h.mono linked.keepsDevices ?_
  intro n member
  obtain ⟨once, holds⟩ := h.nodes n member
  exact ⟨linked.names ▸ once, holds.of_linked linked⟩

theorem append (h : t.IsLaid c) (other : ∀ name ∈ y.devices.map (·.name),
    name ∉ c.devices.map (·.name)) : t.IsLaid (c.append y) := by
  refine h.mono (keepsDevices_append c y) ?_
  intro n member
  obtain ⟨once, holds⟩ := h.nodes n member
  have listed : n.name ∈ c.devices.map (·.name) := by
    apply List.count_pos_iff.mp
    omega
  have unused : n.name ∉ y.devices.map (·.name) := fun used => other n.name used listed
  refine ⟨?_, holds.append⟩
  rw [Config.names_append, List.count_append, once, List.count_eq_zero_of_not_mem unused]

theorem attach (h : t.IsLaid c) (attached : t.attach c device index = .ok (c', t', x)) :
    t'.IsLaid c' := by
  have shaped := h.shaped.attach attached
  obtain ⟨n, atIndex, rfl, rfl, rfl, linked⟩ := linked_of_attach attached
  have after := h.of_linked linked
  refine ⟨shaped, after.nodes, after.edges, ?_⟩
  intro y member
  rcases List.mem_append.mp member with old | new
  · exact after.attachments y old
  · rw [List.mem_singleton.mp new]
    exact ⟨n, atIndex, linked.joins⟩

/-! ### Ways through a topology -/

theorem exists_device (h : t.IsLaid c) (member : n ∈ t.nodes) : ∃ d, c.device n.name = .ok d := by
  obtain ⟨_, d, found, _⟩ := h.nodes n member
  exact ⟨d, found⟩

/-- The devices of linked nodes are adjacent. -/
theorem adjacentTo (h : t.IsLaid c) (touches : t.shape.Touches i j) (atI : t.nodes[i]? = some n)
    (atJ : t.nodes[j]? = some m) (found : c.device n.name = .ok d)
    (found' : c.device m.name = .ok d') : d.AdjacentTo d' := by
  have linked {i j : Nat} {n m : Node} {d d' : Device} (edge : (i, j) ∈ t.shape.edges)
      (atI : t.nodes[i]? = some n) (atJ : t.nodes[j]? = some m) (found : c.device n.name = .ok d)
      (found' : c.device m.name = .ok d') : d.AdjacentTo d' ∧ d'.AdjacentTo d := by
    rw [← h.shaped.edges] at edge
    obtain ⟨e, member, same⟩ := List.mem_map.mp edge
    obtain ⟨rfl, rfl⟩ := Prod.mk.inj same
    obtain ⟨a, b, atA, atB, joins⟩ := h.edges e member
    cases atI.symm.trans atA
    cases atJ.symm.trans atB
    exact joins.adjacentTo found found'
  rcases touches with forth | back
  · exact (linked forth atI atJ found found').1
  · exact (linked back atJ atI found' found).2

/-- The devices of any two nodes are reachable from each other. The induction is on the way through
the shape. -/
theorem reaches (h : t.IsLaid c) (member : n ∈ t.nodes) (member' : m ∈ t.nodes)
    (found : c.device n.name = .ok d) (found' : c.device m.name = .ok d') : c.Reaches d d' := by
  obtain ⟨i, atI⟩ := List.mem_iff_getElem?.mp member
  obtain ⟨j, atJ⟩ := List.mem_iff_getElem?.mp member'
  have inside {k : Nat} {node : Node} (atK : t.nodes[k]? = some node) : k < t.shape.size :=
    h.shaped.size ▸ (List.getElem?_eq_some_iff.mp atK).1
  have way := Shape.reachable h.shaped.large (inside atI) (inside atJ)
  induction way generalizing m d' with
  | refl =>
    cases atI.symm.trans atJ
    cases found.symm.trans found'
    exact .refl
  | @tail k j _ touches ih =>
    have bound : k < t.nodes.length := by
      have size : t.nodes.length = t.shape.size := h.shaped.size
      rcases touches with forth | back
      · exact size ▸ (Shape.mem_edges h.shaped.large forth).1
      · exact size ▸ (Shape.mem_edges h.shaped.large back).2.1
    have atK : t.nodes[k]? = some t.nodes[k] := List.getElem?_eq_getElem bound
    have memberK := List.getElem_mem bound
    obtain ⟨between, foundK⟩ := h.exists_device memberK
    exact (ih memberK foundK atK).tail ⟨Config.mem_of_device foundK, Config.mem_of_device found',
      h.adjacentTo touches atK atJ foundK found'⟩

/-- From a device that is attached, the devices of all nodes are reachable. -/
theorem reaches_of_attachment (h : t.IsLaid c) (attached : x ∈ t.attachments) :
    ∃ d, c.device x.device = .ok d ∧
      ∀ n ∈ t.nodes, ∃ d', c.device n.name = .ok d' ∧ c.Reaches d d' := by
  obtain ⟨m, atNode, joins⟩ := h.attachments x attached
  obtain ⟨d, _, found, _⟩ := joins.first
  obtain ⟨entry, _, foundEntry, _⟩ := joins.second
  refine ⟨d, found, ?_⟩
  intro n member
  obtain ⟨d', found'⟩ := h.exists_device member
  have inside := h.reaches (List.mem_of_getElem? atNode) member foundEntry found'
  exact ⟨d', found', inside.head ⟨Config.mem_of_device found, Config.mem_of_device foundEntry,
    (joins.adjacentTo found foundEntry).1⟩⟩

end IsLaid

end Topology

namespace Builder

open IsisTestbed.Topology

variable {b : Builder} {c c' : Config} {t : Topology}

/-- New devices have no ethernets, and each link between nodes adds both of its ends. -/
theorem holdsEnds_of_build (built : b.build c = .ok (c', t)) :
    ∀ n ∈ t.nodes, HoldsEnds c' n.name := by
  refine forall_nodes_of_build built ?_ ?_
  · intro c name d found none
    exact ⟨d, found, fun e member => absurd (none ▸ member) List.not_mem_nil⟩
  · intro c c' nameA nameB link name linked before
    exact before.of_linked linked

/-- A topology is laid out when it is built. -/
theorem isLaid_of_build (built : b.build c = .ok (c', t)) : t.IsLaid c' := by
  obtain ⟨_, shaped, _⟩ := planned_of_build built
  have holds := holdsEnds_of_build built
  obtain ⟨alone, rfl, free⟩ := buildInPlace_eq_append (build_eq_ok_iff.mp built)
  obtain ⟨created, bare, _⟩ := agrees_created alone
  have agrees := created.append_right bare free
  refine ⟨shaped, ?_, agrees.edges, agrees.attachments⟩
  intro n member
  obtain ⟨i, atI⟩ := List.mem_iff_getElem?.mp member
  exact ⟨(agrees.nodes i n atI).1, holds n member⟩

end Builder

namespace Session

open IsisTestbed.Topology

variable {s : Session} {t : Topology} {calls : List Call}

/-! ### Runs -/

/-- What is laid out stays so, whatever is built and attached. -/
theorem isLaid_step (h : t.IsLaid s.config) (call : Call) : t.IsLaid (s.step call).config := by
  have becomes := s.becomes_step call
  generalize s.step call = after at becomes ⊢
  cases becomes with
  | same => exact h
  | built _ built =>
    obtain ⟨alone, rfl, free⟩ := Builder.buildInPlace_eq_append built
    obtain ⟨_, _, created, _⟩ := Builder.agrees_created alone
    refine h.append ?_
    intro name member
    rw [created] at member
    obtain ⟨n, hn, rfl⟩ := List.mem_map.mp member
    exact free n hn
  | connected _ _ connected =>
    obtain ⟨_, _, attached⟩ := connect_eq_ok_iff.mp connected
    obtain ⟨_, _, _, _, _, linked⟩ := linked_of_attach attached
    exact h.of_linked linked

theorem isLaid_run (h : t.IsLaid s.config) : t.IsLaid (s.run calls).config := by
  induction calls generalizing s with
  | nil => exact h
  | cons call rest ih => exact ih (isLaid_step h call)

/-- All topologies of a session are laid out in its configuration if they were so before a call. -/
theorem all_isLaid_step (h : ∀ t ∈ s.topologies, t.IsLaid s.config) (call : Call) :
    ∀ t ∈ (s.step call).topologies, t.IsLaid (s.step call).config := by
  have kept (t : Topology) (member : t ∈ s.topologies) := isLaid_step (h t member) call
  have becomes := s.becomes_step call
  generalize s.step call = after at becomes kept ⊢
  cases becomes with
  | same => exact h
  | built _ built =>
    intro t member
    rcases List.mem_append.mp member with old | new
    · exact kept t old
    · rw [List.mem_singleton.mp new]
      exact Builder.isLaid_of_build (Builder.build_eq_ok_iff.mpr built)
  | connected _ atK connected =>
    intro t member
    rcases List.mem_or_eq_of_mem_set member with old | rfl
    · exact kept t old
    · obtain ⟨_, _, attached⟩ := connect_eq_ok_iff.mp connected
      exact (h _ (List.mem_of_getElem? atK)).attach attached

theorem all_isLaid_run (h : ∀ t ∈ s.topologies, t.IsLaid s.config) :
    ∀ t ∈ (s.run calls).topologies, t.IsLaid (s.run calls).config := by
  induction calls generalizing s with
  | nil => exact h
  | cons call rest ih => exact ih (all_isLaid_step h call)

/-- Once a device is attached to any node of a topology, it reaches the devices of all nodes over
simulated links, and adjacency between these devices is symmetric; that stays so after any further
builds and connects. Names are looked up as always, and those of nodes are unique. -/
theorem nodes_reachable_from_attached (c₀ : Config) (earlier later : List Call) (k : Nat)
    (device : String) (p : Position) {t t' : Topology} {c' : Config} {x : Attachment}
    (topology : ((start c₀).run earlier).topologies[k]? = some t)
    (connected : t.connect ((start c₀).run earlier).config device p = .ok (c', t', x)) :
    let c := ((start c₀).run (earlier ++ .connect k device p :: later)).config
    (∃ d, c.device device = .ok d ∧ ∀ n ∈ t.nodes, (c.devices.map (·.name)).count n.name = 1 ∧
      ∃ d', c.device n.name = .ok d' ∧ c.Reaches d d') ∧
    ∀ n ∈ t.nodes, ∀ m ∈ t.nodes, ∀ d d', c.device n.name = .ok d → c.device m.name = .ok d' →
      (d.AdjacentTo d' ↔ d'.AdjacentTo d) := by
  intro c
  have before : t.IsLaid ((start c₀).run earlier).config :=
    all_isLaid_run (fun _ none => absurd none List.not_mem_nil) t (List.mem_of_getElem? topology)
  obtain ⟨index, _, attached⟩ := connect_eq_ok_iff.mp connected
  have after : (((start c₀).run earlier).step (.connect k device p)).config = c' := by
    simp only [step, Session.connect, topology, connected]
  have laid : t'.IsLaid c := by
    have continued : c = ((((start c₀).run earlier).step (.connect k device p)).run later).config :=
      congrArg Session.config (List.foldl_append ..)
    rw [continued]
    apply isLaid_run
    rw [after]
    exact before.attach attached
  obtain ⟨_, _, rfl, _, rfl, _⟩ := linked_of_attach attached
  obtain ⟨d, found, reaches⟩ :=
    laid.reaches_of_attachment (List.mem_append_right _ List.mem_cons_self)
  refine ⟨⟨d, found, fun n member => ⟨(laid.nodes n member).1, reaches n member⟩⟩, ?_⟩
  intro n hn m hm d d' foundN foundM
  have holdsN := (laid.nodes n hn).2
  have holdsM := (laid.nodes m hm).2
  exact ⟨holdsN.adjacentTo_symm holdsM foundN foundM, holdsM.adjacentTo_symm holdsN foundM foundN⟩

/-- The tester is attached to the last node of the grid. Then a ring is built, to which that node is
attached. -/
theorem nodes_reachable_from_attached_of_tester :
    ∃ t c' t' x d, ((start testerConfig).run [.build smallGrid]).topologies[0]? = some t ∧
      t.connect ((start testerConfig).run [.build smallGrid]).config "tester" (.cell 1 1) =
        .ok (c', t', x) ∧
      ((start testerConfig).run (testerCalls.eraseIdx 2)).config.device "tester" = .ok d ∧
      ∀ name ∈ ["T01d1.sim.0.0", "T01d2.sim.0.1", "T01d3.sim.1.0", "T01d4.sim.1.1"],
        ∃ d', ((start testerConfig).run (testerCalls.eraseIdx 2)).config.device name = .ok d' ∧
          ((start testerConfig).run (testerCalls.eraseIdx 2)).config.Reaches d d' := by
  have outcomes : (((start testerConfig).run [.build smallGrid]).topologies[0]?.map fun t =>
      (t.nodes.map (·.name), (t.connect ((start testerConfig).run [.build smallGrid]).config "tester"
        (.cell 1 1)).toOption.isSome)) =
      some (["T01d1.sim.0.0", "T01d2.sim.0.1", "T01d3.sim.1.0", "T01d4.sim.1.1"], true) := by
    decide +kernel
  cases topology : ((start testerConfig).run [.build smallGrid]).topologies[0]? with
  | none => simp [topology] at outcomes
  | some t =>
    simp only [topology, Option.map_some, Option.some.injEq, Prod.mk.injEq] at outcomes
    obtain ⟨names, succeeds⟩ := outcomes
    cases connected : t.connect ((start testerConfig).run [.build smallGrid]).config "tester"
        (.cell 1 1) with
    | error e => simp [connected, Except.toOption] at succeeds
    | ok result =>
      obtain ⟨c', t', x⟩ := result
      obtain ⟨⟨d, found, reaches⟩, _⟩ := nodes_reachable_from_attached testerConfig
        [.build smallGrid] [.build smallRing, .connect 1 "T01d4.sim.1.1" (.station 2)] 0 "tester"
        (.cell 1 1) topology connected
      refine ⟨t, c', t', x, d, rfl, connected, found, ?_⟩
      rw [← names]
      intro name member
      obtain ⟨n, hn, rfl⟩ := List.mem_map.mp member
      exact (reaches n hn).2

end Session

end IsisTestbed
