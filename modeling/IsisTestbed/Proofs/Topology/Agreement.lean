import IsisTestbed.Proofs.Topology.LinkedDevices
import IsisTestbed.Proofs.Topology.Locality
import IsisTestbed.Proofs.Topology.Session

/-!
A topology and the configuration it was generated on are two accounts of the same routers and links.
One is a graph with a list of attachments, the other one a list of devices that are found by name.
`Agrees` says what the two have in common. It holds for a topology that was just generated, and it
is kept by each link, whether the link belongs to the topology or not; so all topologies of a
session agree with its configuration after any run.
-/

namespace IsisTestbed

namespace Topology

/-! ### The relation -/

/-- The number of ends of links and attachments at a node. Parallel links count each by itself. -/
def endsAt (t : Topology) (index : Nat) : Nat :=
  t.edges.countP (fun e => e.a = index ∨ e.b = index) + t.attachments.countP (·.node = index)

/-- A device that stands for a node with a number of ends: it runs the node's router, and it has one
ethernet and one ISIS interface on it for each end, numbered from one. -/
structure IsWired (n : Node) (ends : Nat) (d : Device) : Prop where
  router : ∃ r, d.isis = some r ∧ r.name = n.routerName ∧ r.systemId = n.systemId ∧
    r.lspId = n.lspId ∧
    r.interfaces.map (fun i => (i.name, i.ethernet)) = (List.range ends).map fun j =>
      (interfaceName n.name (j + 1), ethernetName n.name (j + 1))
  ethernets : d.ethernets.map (·.name) = (List.range ends).map fun j => ethernetName n.name (j + 1)

/-- The devices of two names hold the two ends of a link. -/
structure Joins (c : Config) (nameA nameB : String) (link : Link) : Prop where
  first : ∃ d e, c.device nameA = .ok d ∧ e ∈ d.ethernets ∧
    IsEnd link.ethernetA link.ethernetB link.v4 link.v6 e
  second : ∃ d e, c.device nameB = .ok d ∧ e ∈ d.ethernets ∧
    IsEnd link.ethernetB link.ethernetA (link.v4.map Prod.swap) (link.v6.map Prod.swap) e

/-- A topology and a configuration agree: each node stands for exactly one device, which is wired as
the graph says, and each link and each attachment is there with both ends. -/
structure Agrees (t : Topology) (c : Config) : Prop where
  nodes : ∀ i n, t.nodes[i]? = some n → (c.devices.map (·.name)).count n.name = 1 ∧
    ∃ d, c.device n.name = .ok d ∧ IsWired n (t.endsAt i) d
  edges : ∀ e ∈ t.edges, ∃ a b, t.nodes[e.a]? = some a ∧ t.nodes[e.b]? = some b ∧
    Joins c a.name b.name e.link
  attachments : ∀ x ∈ t.attachments, ∃ n, t.nodes[x.node]? = some n ∧
    Joins c x.device n.name x.link

/-! ### One link -/

section OneLink

variable {t t' : Topology} {c c' : Config} {nameA nameB near far name : String} {link : Link}
  {v4 : Option (Ipv4 × Ipv4)} {v6 : Option (Ipv6 × Ipv6)} {n : Node} {ends : Nat}

/-- An end of a link is the next one of the node that it is added to. -/
theorem IsWired.addEnd {d : Device} {e : Ethernet} (h : IsWired n ends d) (same : d.name = n.name)
    (next : e.name = nextEthernet d) : IsWired n (ends + 1) (addEnd e d) := by
  have count : d.ethernets.length = ends := by
    have lengths := congrArg List.length h.ethernets
    simpa using lengths
  have ethernet : e.name = ethernetName n.name (ends + 1) := by
    rw [next, nextEthernet, same, count]
  obtain ⟨r, runs, name, id, lsp, interfaces⟩ := h.router
  have interfaceCount : r.interfaces.length = ends := by
    have lengths := congrArg List.length interfaces
    simpa using lengths
  refine ⟨⟨r.addInterface (linkInterface d.name e.name r), by simp [runs], name, id, lsp, ?_⟩, ?_⟩
  · simp only [Router.addInterface, linkInterface, List.map_append, interfaces, interfaceCount,
      List.range_succ, same, ethernet, List.map_cons, List.map_nil]
  · simp only [ethernets_addEnd, List.map_append, h.ethernets, List.range_succ, List.map_cons,
      List.map_nil, ethernet]

theorem GainsEnd.isWired (gains : GainsEnd c c' n.name near far v4 v6)
    (h : ∃ d, c.device n.name = .ok d ∧ IsWired n ends d) :
    ∃ d, c'.device n.name = .ok d ∧ IsWired n (ends + 1) d := by
  obtain ⟨d, found, wired⟩ := h
  obtain ⟨d', e, found', _, next, isEnd, after⟩ := gains
  rw [found] at found'
  cases found'
  exact ⟨_, after, wired.addEnd (Config.name_of_device found) (isEnd.name.trans next)⟩

/-- A link that was made joins the devices of its two names. -/
theorem Linked.joins (h : Linked c c' nameA nameB link) : Joins c' nameA nameB link where
  first := by
    obtain ⟨d, e, _, _, _, isEnd, after⟩ := h.first
    exact ⟨_, e, after, by simp, isEnd⟩
  second := by
    obtain ⟨d, e, _, _, _, isEnd, after⟩ := h.second
    exact ⟨_, e, after, by simp, isEnd⟩

/-- Devices that are joined stay so if each of them is found as before, up to more ethernets. -/
theorem Joins.mono {nameC nameD : String} {old : Link} (h : Joins c nameC nameD old)
    (kept : KeepsDevices c c') : Joins c' nameC nameD old where
  first := by
    obtain ⟨d, e, found, member, isEnd⟩ := h.first
    obtain ⟨d', found', extends_⟩ := kept nameC d found
    exact ⟨d', e, found', extends_.ethernets member, isEnd⟩
  second := by
    obtain ⟨d, e, found, member, isEnd⟩ := h.second
    obtain ⟨d', found', extends_⟩ := kept nameD d found
    exact ⟨d', e, found', extends_.ethernets member, isEnd⟩

/-- A link keeps agreement with every topology that counts it at those of its nodes that were
linked, and says nothing else that is new but this link. -/
theorem Agrees.of_linked (h : t.Agrees c) (linked : Linked c c' nameA nameB link)
    (nodes : t'.nodes = t.nodes)
    (ends : ∀ i n, t.nodes[i]? = some n →
      t'.endsAt i = t.endsAt i + if n.name = nameA ∨ n.name = nameB then 1 else 0)
    (edges : ∀ e ∈ t'.edges, e ∈ t.edges ∨ ∃ a b, t.nodes[e.a]? = some a ∧
      t.nodes[e.b]? = some b ∧ a.name = nameA ∧ b.name = nameB ∧ e.link = link)
    (attachments : ∀ x ∈ t'.attachments, x ∈ t.attachments ∨ ∃ n, t.nodes[x.node]? = some n ∧
      x.device = nameA ∧ n.name = nameB ∧ x.link = link) : t'.Agrees c' := by
  refine ⟨?_, ?_, ?_⟩
  · rw [nodes, linked.names]
    intro i n atIndex
    obtain ⟨once, wired⟩ := h.nodes i n atIndex
    refine ⟨once, ?_⟩
    rw [ends i n atIndex]
    by_cases atA : n.name = nameA
    · subst atA
      rw [if_pos (.inl rfl)]
      exact linked.first.isWired wired
    · by_cases atB : n.name = nameB
      · subst atB
        rw [if_pos (.inr rfl)]
        exact linked.second.isWired wired
      · rw [if_neg (not_or.mpr ⟨atA, atB⟩), linked.others _ atA atB]
        exact wired
  · rw [nodes]
    intro e member
    rcases edges e member with old | ⟨a, b, atA, atB, rfl, rfl, rfl⟩
    · obtain ⟨a, b, atA, atB, joins⟩ := h.edges e old
      exact ⟨a, b, atA, atB, joins.mono linked.keepsDevices⟩
    · exact ⟨a, b, atA, atB, linked.joins⟩
  · rw [nodes]
    intro x member
    rcases attachments x member with old | ⟨n, atNode, rfl, rfl, rfl⟩
    · obtain ⟨n, atNode, joins⟩ := h.attachments x old
      exact ⟨n, atNode, joins.mono linked.keepsDevices⟩
    · exact ⟨n, atNode, linked.joins⟩

/-- A link between devices that are no nodes of a topology does not matter to it. -/
theorem Agrees.frame (h : t.Agrees c) (linked : Linked c c' nameA nameB link)
    (notA : nameA ∉ t.nodes.map (·.name)) (notB : nameB ∉ t.nodes.map (·.name)) : t.Agrees c' := by
  refine h.of_linked linked rfl ?_ (fun e member => .inl member) fun x member => .inl member
  intro i n atIndex
  have member : n.name ∈ t.nodes.map (·.name) :=
    List.mem_map_of_mem (f := (·.name)) (List.mem_of_getElem? atIndex)
  have other : ¬ (n.name = nameA ∨ n.name = nameB) := by
    rintro (rfl | rfl)
    · exact notA member
    · exact notB member
  rw [if_neg other, Nat.add_zero]

/-- Nodes of distinct names are told apart by their names. -/
theorem name_eq_iff {i k : Nat} {n m : Node} (distinct : (t.nodes.map (·.name)).Nodup)
    (hi : t.nodes[i]? = some n) (hk : t.nodes[k]? = some m) : n.name = m.name ↔ i = k := by
  constructor
  · intro same
    have first : (t.nodes.map (·.name))[i]? = some n.name := by simp [hi]
    have second : (t.nodes.map (·.name))[k]? = some n.name := by simp [hk, same]
    obtain ⟨bound, _⟩ := List.getElem?_eq_some_iff.mp first
    exact (List.getElem?_inj bound distinct).mp (first.trans second.symm)
  · rintro rfl
    rw [hi] at hk
    cases hk
    rfl

/-- Attaching a device that is no node keeps the agreement, with the new attachment counted. -/
theorem Agrees.attach {device : String} {index : Nat} {x : Attachment} (h : t.Agrees c)
    (distinct : (t.nodes.map (·.name)).Nodup) (other : device ∉ t.nodes.map (·.name))
    (attached : t.attach c device index = .ok (c', t', x)) : t'.Agrees c' := by
  obtain ⟨node, atIndex, rfl, rfl, rfl, linked⟩ := linked_of_attach attached
  refine h.of_linked linked rfl ?_ (fun e member => .inl member) ?_
  · intro i n hi
    have notDevice : n.name ≠ x.device := by
      intro same
      exact other (same ▸ List.mem_map_of_mem (f := (·.name)) (List.mem_of_getElem? hi))
    simp only [endsAt, List.countP_append, List.countP_singleton, decide_eq_true_eq, notDevice,
      false_or, name_eq_iff distinct hi atIndex, eq_comm (a := i), Nat.add_assoc]
  · intro y member
    rcases List.mem_append.mp member with old | new
    · exact .inl old
    · rw [List.mem_singleton.mp new]
      exact .inr ⟨node, atIndex, rfl, rfl, rfl⟩

end OneLink

/-! ### The links of a new topology -/

section NewTopology

variable {t : Topology} {c c' : Config} {before : List Edge}

/-- A link between two nodes keeps the agreement, with the new link counted at both. -/
theorem Agrees.addEdge {a b : Nat} {edge : Edge} (h : { t with edges := before }.Agrees c)
    (distinct : (t.nodes.map (·.name)).Nodup) (added : addEdge t c a b = .ok (c', edge)) :
    { t with edges := before ++ [edge] }.Agrees c' := by
  obtain ⟨nodeA, nodeB, atA, atB, rfl, rfl, linked⟩ := linked_of_addEdge added
  refine h.of_linked linked rfl ?_ ?_ fun x member => .inl member
  · intro i n hi
    have hi : t.nodes[i]? = some n := hi
    simp only [endsAt, List.countP_append, List.countP_singleton, decide_eq_true_eq,
      name_eq_iff distinct hi atA, name_eq_iff distinct hi atB, eq_comm (a := i)]
    omega
  · intro e member
    rcases List.mem_append.mp member with old | new
    · exact .inl old
    · rw [List.mem_singleton.mp new]
      exact .inr ⟨nodeA, nodeB, atA, atB, rfl, rfl, rfl⟩

/-- Links between nodes keep the agreement. The induction is on the links that are left; those made
are among the edges already. -/
theorem Agrees.addEdges {pairs : List (Nat × Nat)} {edges : List Edge}
    (h : { t with edges := before }.Agrees c) (distinct : (t.nodes.map (·.name)).Nodup)
    (added : addEdges t c pairs = (c', .ok edges)) :
    { t with edges := before ++ edges }.Agrees c' := by
  induction pairs generalizing c before edges with
  | nil =>
    cases added
    simpa using h
  | cons pair rest ih =>
    obtain ⟨a, b⟩ := pair
    obtain ⟨c₁, edge, more, first, later, rfl⟩ := addEdges_cons_eq_ok_iff.mp added
    have all := ih (h.addEdge distinct first) later
    simpa using all

/-- A new device stands for its node, without ends. -/
theorem isWired_plannedDevice (plan : RouterPlan) (index : Nat) (p : Position) :
    IsWired (plannedNode plan index p) 0 (plannedDevice plan index p) where
  router := ⟨plannedRouter plan index p, rfl, rfl, rfl, rfl, rfl⟩
  ethernets := rfl

/-- The devices of new nodes agree with a topology without links. -/
theorem agrees_withNodes {plan : RouterPlan} {sites : List (Nat × Position)} {shape : Shape}
    {addressing : LinkAddressing} (distinct : (sites.map (siteName plan.systemIdOctet)).Nodup) :
    ({ shape, addressing, nodes := sites.map fun site => plannedNode plan site.1 site.2 } :
      Topology).Agrees (withNodes plan {} sites) := by
  refine ⟨?_, by simp, by simp⟩
  intro i n atIndex
  obtain ⟨site, member, rfl⟩ := List.mem_map.mp (List.mem_of_getElem? atIndex)
  refine ⟨?_, _, device_withNodes_empty distinct member, isWired_plannedDevice plan site.1 site.2⟩
  rw [names_withNodes_empty]
  exact List.count_eq_one_of_mem distinct (List.mem_map_of_mem (f := siteName _) member)

end NewTopology

/-! ### Two configurations in one -/

section Append

variable {t : Topology} {c x : Config}

/-- More devices behind those that are there do not change what is found. -/
theorem keepsDevices_append (c x : Config) : KeepsDevices c (c.append x) :=
  fun _ d found => ⟨d, Config.device_append_of_ok found, extends_refl d⟩

/-- More devices do not matter to a topology if they have other names than its nodes. -/
theorem Agrees.append_left (h : t.Agrees c)
    (other : ∀ n ∈ t.nodes, n.name ∉ x.devices.map (·.name)) : t.Agrees (c.append x) where
  nodes := by
    intro i n atIndex
    obtain ⟨once, d, found, wired⟩ := h.nodes i n atIndex
    refine ⟨?_, d, Config.device_append_of_ok found, wired⟩
    rw [Config.names_append, List.count_append, once,
      List.count_eq_zero_of_not_mem (other n (List.mem_of_getElem? atIndex))]
  edges := by
    intro e member
    obtain ⟨a, b, atA, atB, joins⟩ := h.edges e member
    exact ⟨a, b, atA, atB, joins.mono (keepsDevices_append c x)⟩
  attachments := by
    intro y member
    obtain ⟨n, atNode, joins⟩ := h.attachments y member
    exact ⟨n, atNode, joins.mono (keepsDevices_append c x)⟩

/-- A topology without attachments agrees with devices also if others are in front of them. -/
theorem Agrees.append_right (h : t.Agrees x) (bare : t.attachments = [])
    (other : ∀ n ∈ t.nodes, n.name ∉ c.devices.map (·.name)) : t.Agrees (c.append x) where
  nodes := by
    intro i n atIndex
    obtain ⟨once, d, found, wired⟩ := h.nodes i n atIndex
    have new := other n (List.mem_of_getElem? atIndex)
    refine ⟨?_, d, Config.device_append_of_not_mem new found, wired⟩
    rw [Config.names_append, List.count_append, once, List.count_eq_zero_of_not_mem new]
  edges := by
    intro e member
    obtain ⟨a, b, atA, atB, ⟨d, e₁, found, member₁, isEnd₁⟩, d', e₂, found', member₂, isEnd₂⟩ :=
      h.edges e member
    exact ⟨a, b, atA, atB,
      ⟨d, e₁, Config.device_append_of_not_mem (other a (List.mem_of_getElem? atA)) found, member₁,
        isEnd₁⟩,
      d', e₂, Config.device_append_of_not_mem (other b (List.mem_of_getElem? atB)) found', member₂,
        isEnd₂⟩
  attachments := by
    intro y member
    rw [bare] at member
    cases member

end Append

end Topology

namespace Builder

open IsisTestbed.Topology

variable {b : Builder} {c c' : Config} {t : Topology}

/-- What a builder creates agrees with its topology; the nodes stand for the devices in order. -/
theorem agrees_created (h : b.buildInPlace {} = (b.created, .ok t)) :
    t.Agrees b.created ∧ t.attachments = [] ∧
      b.created.devices.map (·.name) = t.nodes.map (·.name) ∧ (t.nodes.map (·.name)).Nodup := by
  obtain ⟨octet, checked⟩ := exists_buildInPlace_iff.mp ⟨b.created, t, h⟩
  obtain ⟨x, edges, linked, result⟩ := buildInPlace_of_check checked
  rw [h] at result
  have distinct : (b.sites.map (siteName octet)).Nodup := b.nodeNames_nodup octet
  have nodeNames := names_plannedNodes (b.plan octet) b.sites
  have deviceNames : x.devices.map (·.name) = b.sites.map (siteName octet) := by
    have kept := names_addEdges
      { shape := b.shape, addressing := b.addressing,
        nodes := b.sites.map fun site => plannedNode (b.plan octet) site.1 site.2 }
      (withNodes (b.plan octet) {} b.sites) b.shape.edges
    rw [linked] at kept
    exact kept.trans (names_withNodes_empty (b.plan octet) b.sites)
  have bare : Topology.Agrees
      { shape := b.shape, addressing := b.addressing,
        nodes := b.sites.map fun site => plannedNode (b.plan octet) site.1 site.2 }
      (withNodes (b.plan octet) {} b.sites) := agrees_withNodes distinct
  have agrees := Agrees.addEdges bare (nodeNames ▸ distinct) linked
  cases result
  exact ⟨agrees, rfl, deviceNames.trans nodeNames.symm, nodeNames ▸ distinct⟩

end Builder

namespace Session

open IsisTestbed.Topology

/-! ### Runs -/

/-- The names of the devices of all nodes of a session. -/
def nodeNames (s : Session) : List String :=
  s.topologies.flatMap fun t => t.nodes.map (·.name)

/-- All topologies of a session agree with its configuration, and the devices of the configuration
are those of the beginning and those of the nodes, none of which share a name. -/
structure Agreeing (c₀ : Config) (s : Session) : Prop where
  names : s.config.devices.map (·.name) = c₀.devices.map (·.name) ++ s.nodeNames
  distinct : s.nodeNames.Nodup
  apart : ∀ name ∈ s.nodeNames, name ∉ c₀.devices.map (·.name)
  agrees : ∀ t ∈ s.topologies, t.Agrees s.config

variable {c₀ : Config} {s : Session}

/-- Entries at different positions of a list have nothing in common if what is collected from the
list is distinct. -/
theorem disjoint_of_nodup_flatMap {α β : Type} {l : List α} {f : α → List β} {i k : Nat} {x y : α}
    (distinct : (l.flatMap f).Nodup) (hi : l[i]? = some x) (hk : l[k]? = some y) (other : i ≠ k) :
    (f x).Disjoint (f y) := by
  obtain ⟨boundI, rfl⟩ := List.getElem?_eq_some_iff.mp hi
  obtain ⟨boundK, rfl⟩ := List.getElem?_eq_some_iff.mp hk
  have pairs := List.pairwise_iff_getElem.mp (List.nodup_flatMap.mp distinct).2
  rcases Nat.lt_or_gt_of_ne other with before | behind
  · exact pairs i k boundI boundK before
  · exact fun _ inX inY => pairs k i boundK boundI behind inY inX

/-- What is collected from a list stays if an entry is replaced by one that gives the same. -/
theorem flatMap_set_eq {α β : Type} {l : List α} {f : α → List β} {k : Nat} {x y : α}
    (hk : l[k]? = some x) (same : f y = f x) : (l.set k y).flatMap f = l.flatMap f := by
  obtain ⟨bound, rfl⟩ := List.getElem?_eq_some_iff.mp hk
  have unchanged : (l.map f).set k (f l[k]) = l.map f := by
    rw [← List.map_set, List.set_getElem_self]
  rw [List.flatMap_def, List.flatMap_def, List.map_set, same, unchanged]

theorem Agreeing.start (c₀ : Config) : Agreeing c₀ (start c₀) where
  names := by simp [Session.start, nodeNames]
  distinct := by simp [Session.start, nodeNames]
  apart := by simp [Session.start, nodeNames]
  agrees := by simp [Session.start]

/-- A build keeps the agreement: new nodes have new names. -/
theorem Agreeing.build {b : Builder} {c : Config} {t : Topology} (h : Agreeing c₀ s)
    (built : b.buildInPlace s.config = (c, .ok t)) : Agreeing c₀ ⟨c, s.topologies ++ [t]⟩ := by
  obtain ⟨alone, rfl, free⟩ := Builder.buildInPlace_eq_append built
  obtain ⟨agrees, bare, created, distinct⟩ := Builder.agrees_created alone
  have nodes : nodeNames ⟨s.config.append b.created, s.topologies ++ [t]⟩ =
      s.nodeNames ++ t.nodes.map (·.name) := by
    simp [nodeNames]
  have new : ∀ name ∈ t.nodes.map (·.name), name ∉ c₀.devices.map (·.name) ++ s.nodeNames := by
    intro name member
    obtain ⟨n, hn, rfl⟩ := List.mem_map.mp member
    exact h.names ▸ free n hn
  refine ⟨?_, ?_, ?_, ?_⟩
  · rw [nodes, Config.names_append, h.names, created, List.append_assoc]
  · rw [nodes, List.nodup_append]
    refine ⟨h.distinct, distinct, ?_⟩
    rintro name old _ member rfl
    exact new name member (List.mem_append_right _ old)
  · rw [nodes]
    intro name member
    rcases List.mem_append.mp member with old | added
    · exact h.apart name old
    · exact fun first => new name added (List.mem_append_left _ first)
  · intro u member
    rcases List.mem_append.mp member with old | added
    · refine (h.agrees u old).append_left ?_
      intro n hn used
      have listed : n.name ∈ s.nodeNames :=
        List.mem_flatMap.mpr ⟨u, old, List.mem_map_of_mem (f := (·.name)) hn⟩
      exact new n.name (created ▸ used) (List.mem_append_right _ listed)
    · rw [List.mem_singleton.mp added]
      exact agrees.append_right bare free

/-- Attaching a device of the beginning keeps the agreement: the link is counted where it is, and
the other topologies have other nodes. -/
theorem Agreeing.connect {device : String} {k : Nat} {p : Position} {t t' : Topology} {c : Config}
    {x : Attachment} (h : Agreeing c₀ s) (emulated : device ∈ c₀.devices.map (·.name))
    (atK : s.topologies[k]? = some t)
    (connected : t.connect s.config device p = .ok (c, t', x)) :
    Agreeing c₀ ⟨c, s.topologies.set k t'⟩ := by
  obtain ⟨index, _, attached⟩ := connect_eq_ok_iff.mp connected
  obtain ⟨node, atIndex, device_, _, topology, linked⟩ := linked_of_attach attached
  have nodes : t'.nodes = t.nodes := by rw [topology]
  have listed (u : Topology) (member : u ∈ s.topologies) (n : Node) (hn : n ∈ u.nodes) :
      n.name ∈ s.nodeNames :=
    List.mem_flatMap.mpr ⟨u, member, List.mem_map_of_mem (f := (·.name)) hn⟩
  have notNode (u : Topology) (member : u ∈ s.topologies) :
      device ∉ u.nodes.map (·.name) := by
    intro used
    obtain ⟨n, hn, same⟩ := List.mem_map.mp used
    exact h.apart n.name (listed u member n hn) (same ▸ emulated)
  have sameNames : nodeNames ⟨c, s.topologies.set k t'⟩ = s.nodeNames :=
    flatMap_set_eq atK (by rw [nodes])
  refine ⟨?_, sameNames ▸ h.distinct, sameNames ▸ h.apart, ?_⟩
  · rw [sameNames, linked.names, h.names]
  · intro u member
    have member : u ∈ s.topologies.set k t' := member
    have tAgrees := h.agrees t (List.mem_of_getElem? atK)
    have tDistinct := (List.nodup_flatMap.mp h.distinct).1 t (List.mem_of_getElem? atK)
    obtain ⟨m, atM⟩ := List.mem_iff_getElem?.mp member
    by_cases same : k = m
    · obtain ⟨bound, _⟩ := List.getElem?_eq_some_iff.mp atK
      rw [same, List.getElem?_set_self (same ▸ bound)] at atM
      cases atM
      exact tAgrees.attach tDistinct (notNode t (List.mem_of_getElem? atK)) attached
    · rw [List.getElem?_set_ne same] at atM
      have old := List.mem_of_getElem? atM
      refine (h.agrees u old).frame linked (notNode u old) ?_
      exact disjoint_of_nodup_flatMap h.distinct atK atM same
        (List.mem_map_of_mem (f := (·.name)) (List.mem_of_getElem? atIndex))

/-- A call that attaches a device attaches one of these. -/
def AttachesOnly (devices : List String) (call : Call) : Prop :=
  ∀ k device p, call = .connect k device p → device ∈ devices

theorem Agreeing.step {call : Call} (h : Agreeing c₀ s)
    (emulated : AttachesOnly (c₀.devices.map (·.name)) call) : Agreeing c₀ (s.step call) := by
  have becomes := s.becomes_step call
  generalize s.step call = after at becomes ⊢
  cases becomes with
  | same => exact h
  | built _ built => exact h.build built
  | connected asked atK connected => exact h.connect (emulated _ _ _ asked) atK connected

/-- Agreement is kept by every run. The induction is on the calls. -/
theorem Agreeing.run {calls : List Call} (h : Agreeing c₀ s)
    (emulated : ∀ call ∈ calls, AttachesOnly (c₀.devices.map (·.name)) call) :
    Agreeing c₀ (s.run calls) := by
  induction calls generalizing s with
  | nil => exact h
  | cons call rest ih =>
    exact ih (h.step (emulated call List.mem_cons_self))
      fun other member => emulated other (List.mem_cons_of_mem _ member)

/-- After any sequence of builds and connects, whichever of them succeed, each topology agrees with
the configuration, if only devices of the beginning are attached. -/
theorem topologies_agree (c₀ : Config) (calls : List Call)
    (emulated : ∀ call ∈ calls, AttachesOnly (c₀.devices.map (·.name)) call) :
    ∀ t ∈ ((Session.start c₀).run calls).topologies,
      t.Agrees ((Session.start c₀).run calls).config :=
  ((Agreeing.start c₀).run emulated).agrees

/-- A grid and a ring to which the tester is attached, twice to the grid; the second build of the
grid fails. -/
def attachingCalls : List Call :=
  [.build smallGrid, .connect 0 "tester" (.cell 1 1), .build smallGrid, .build smallRing,
    .connect 1 "tester" (.station 2), .connect 0 "tester" (.cell 0 0)]

theorem topologies_agree_of_attachingCalls :
    (((Session.start testerConfig).run attachingCalls).topologies.map fun t =>
        (List.range t.size).map t.endsAt) = [[3, 2, 2, 3], [2, 2, 3]] ∧
      ∀ t ∈ ((Session.start testerConfig).run attachingCalls).topologies,
        t.Agrees ((Session.start testerConfig).run attachingCalls).config := by
  refine ⟨by decide +kernel, topologies_agree testerConfig attachingCalls ?_⟩
  intro call member k device p same
  subst same
  simp only [attachingCalls, List.mem_cons, reduceCtorEq, Call.connect.injEq, List.not_mem_nil,
    or_false, false_or] at member
  rcases member with ⟨_, rfl, _⟩ | ⟨_, rfl, _⟩ | ⟨_, rfl, _⟩ <;> decide

end Session

end IsisTestbed
