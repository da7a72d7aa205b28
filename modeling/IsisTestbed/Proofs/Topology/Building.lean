import IsisTestbed.Proofs.Topology.Linking
import IsisTestbed.Proofs.Topology.Naming
import Mathlib.Data.List.Nodup

/-!
Building a topology is all or nothing. A builder refuses a configuration for one of six reasons, each
of which is found before anything is added. Once nothing speaks against it, every router and every
link is added without failure: their numbers and positions leave room in an octet, their names are
new and different from each other, and the two ends of each link are different devices that run ISIS.
-/

namespace IsisTestbed

/-! ### Shapes -/

namespace Shape

/-- Whether a shape has enough nodes in each direction. -/
def IsLarge : Shape → Prop
  | .grid rows cols => 2 ≤ rows ∧ 2 ≤ cols
  | .ring nodes => 2 ≤ nodes

/-- The number of nodes that is reported when they are too many. -/
def reportedSize : Shape → Nat
  | .grid rows cols => min (rows * cols) (2 ^ 64 - 1)
  | .ring nodes => nodes

/-- The failure of a shape that does not have enough nodes. -/
def tooSmall : Shape → TopologyError
  | .grid rows cols => .gridTooSmall rows cols
  | .ring nodes => .ringTooSmall nodes

section Check

variable {s : Shape}

theorem check_of_small (h : ¬ s.IsLarge) : s.check = .error s.tooSmall := by
  cases s with
  | grid rows cols =>
    have small : ¬ (2 ≤ rows ∧ 2 ≤ cols) := h
    exact if_pos (by omega)
  | ring nodes =>
    have small : ¬ 2 ≤ nodes := h
    exact if_pos (by omega)

theorem check_of_many (h : s.IsLarge) (many : 254 < s.size) :
    s.check = .error (.tooManyNodes s.reportedSize) := by
  cases s with
  | grid rows cols =>
    have large : 2 ≤ rows ∧ 2 ≤ cols := h
    exact (if_neg (show ¬ (rows < 2 ∨ cols < 2) by omega)).trans (if_pos many)
  | ring nodes =>
    have large : 2 ≤ nodes := h
    exact (if_neg (show ¬ nodes < 2 by omega)).trans (if_pos many)

theorem check_of_few (h : s.IsLarge) (few : s.size ≤ 254) : s.check = .ok () := by
  cases s with
  | grid rows cols =>
    have large : 2 ≤ rows ∧ 2 ≤ cols := h
    exact (if_neg (show ¬ (rows < 2 ∨ cols < 2) by omega)).trans (if_neg (Nat.not_lt.mpr few))
  | ring nodes =>
    have large : 2 ≤ nodes := h
    exact (if_neg (show ¬ nodes < 2 by omega)).trans (if_neg (Nat.not_lt.mpr few))

/-- A shape with enough nodes, but not too many, passes the check; every other one fails it. -/
theorem check_eq_ok_iff {u : Unit} : s.check = .ok u ↔ s.IsLarge ∧ s.size ≤ 254 := by
  by_cases large : s.IsLarge
  · rcases Nat.lt_or_ge 254 s.size with many | few
    · simp [check_of_many large many, many]
    · simp [check_of_few large few, large, few]
  · simp [check_of_small large, large]

theorem check_eq_error_iff {e : TopologyError} :
    s.check = .error e ↔ (¬ s.IsLarge ∧ e = s.tooSmall) ∨
      (s.IsLarge ∧ 254 < s.size ∧ e = .tooManyNodes s.reportedSize) := by
  by_cases large : s.IsLarge
  · rcases Nat.lt_or_ge 254 s.size with many | few
    · simp [check_of_many large many, large, many, eq_comm]
    · simp [check_of_few large few, large, Nat.not_lt.mpr few]
  · simp [check_of_small large, large, eq_comm]

end Check

theorem position_inRange {s : Shape} {index : Nat} (few : s.size ≤ maxNodes)
    (h : index < s.size) : Topology.InRange (s.position index) := by
  cases s with
  | grid rows cols =>
    have row : index / cols ≤ index := Nat.div_le_self index cols
    have col : index % cols ≤ index := Nat.mod_le index cols
    exact ⟨by omega, by omega⟩
  | ring nodes => exact Nat.lt_of_lt_of_le h few

/-- Every edge leads to another node. -/
theorem mem_edges {s : Shape} (large : s.IsLarge) {pair : Nat × Nat} (h : pair ∈ s.edges) :
    pair.1 < s.size ∧ pair.2 < s.size ∧ pair.1 ≠ pair.2 := by
  obtain ⟨index, member, h⟩ := List.mem_flatMap.mp h
  have bound : index < s.size := List.mem_range.mp member
  cases s with
  | grid rows cols =>
    obtain ⟨_, hcols⟩ : 2 ≤ rows ∧ 2 ≤ cols := large
    have bound : index < rows * cols := bound
    have place : cols * (index / cols) + index % cols = index := Nat.div_add_mod index cols
    have row : index / cols < rows := (Nat.div_lt_iff_lt_mul (by omega)).mpr bound
    have rowsBelow (k : Nat) (hk : k ≤ rows) : cols * k ≤ rows * cols := by
      rw [Nat.mul_comm rows cols]
      exact Nat.mul_le_mul_left cols hk
    rcases List.mem_append.mp h with right | down
    · split at right
      · next inside =>
        cases List.mem_singleton.mp right
        have end_ := rowsBelow (index / cols + 1) row
        rw [Nat.mul_add] at end_
        exact ⟨bound, show index + 1 < rows * cols by omega, by simp⟩
      · cases right
    · split at down
      · next inside =>
        cases List.mem_singleton.mp down
        have end_ := rowsBelow (index / cols + 1 + 1) inside
        rw [Nat.mul_add, Nat.mul_add] at end_
        have column : index % cols < cols := Nat.mod_lt index (by omega)
        exact ⟨bound, show index + cols < rows * cols by omega, by simp; omega⟩
      · cases down
  | ring nodes =>
    have hnodes : 2 ≤ nodes := large
    have bound : index < nodes := bound
    cases List.mem_singleton.mp h
    refine ⟨bound, Nat.mod_lt (index + 1) (by omega), ?_⟩
    show index ≠ (index + 1) % nodes
    rcases Nat.lt_or_ge (index + 1) nodes with inside | last
    · rw [Nat.mod_eq_of_lt inside]
      omega
    · rw [show index + 1 = nodes by omega, Nat.mod_self]
      omega

end Shape

namespace Topology

/-! ### Adding nodes -/

theorem requireFree_eq_ok_iff {c : Config} {name : String} {u : Unit} :
    requireFree c name = .ok u ↔ name ∉ c.devices.map (·.name) := by
  rw [← Config.exists_deviceIndex_iff]
  unfold requireFree
  cases c.deviceIndex name <;> simp

theorem requireFree_eq_error_iff {c : Config} {name : String} {e : TopologyError} :
    requireFree c name = .error e ↔ name ∈ c.devices.map (·.name) ∧ e = .nameInUse name := by
  rw [← Config.exists_deviceIndex_iff]
  unfold requireFree
  cases c.deviceIndex name <;> simp [eq_comm]

/-- A site of a node: its number and position. -/
def siteName (octet : UInt8) (site : Nat × Position) : String :=
  nodeName octet site.1 site.2

/-- A configuration with the devices of nodes at its end. -/
def withNodes (plan : RouterPlan) (c : Config) (sites : List (Nat × Position)) : Config :=
  { c with devices := c.devices ++ sites.map fun site => plannedDevice plan site.1 site.2 }

theorem addNode_eq {plan : RouterPlan} {c : Config} {index : Nat} {p : Position}
    (free : nodeName plan.systemIdOctet index p ∉ c.devices.map (·.name))
    (hindex : index < maxNodes) (h : InRange p) :
    addNode plan c index p =
      .ok (c.addDevice (plannedDevice plan index p), plannedNode plan index p) := by
  have number : index + 1 < 256 := by
    have : index < 254 := hindex
    omega
  have unused : requireFree c (nodeName plan.systemIdOctet index p) = .ok () :=
    requireFree_eq_ok_iff.mpr free
  simp only [addNode, octet_eq number, unused, ok_bind, makeNode_eq plan index h]
  rfl

theorem eq_of_teRouterId {p : Position} {ip : Ipv4} (h : teRouterId p = .ok ip) :
    HasShortNumbers p ∧ ip = plannedRouterId p := by
  cases p with
  | cell row col =>
    simp only [teRouterId, bind_eq_ok_iff, octet_eq_ok_iff] at h
    obtain ⟨_, ⟨hrow, rfl⟩, _, ⟨hcol, rfl⟩, result⟩ := h
    cases result
    exact ⟨⟨by omega, by omega⟩, rfl⟩
  | station index =>
    simp only [teRouterId, bind_eq_ok_iff, octet_eq_ok_iff] at h
    obtain ⟨_, ⟨hindex, rfl⟩, result⟩ := h
    cases result
    exact ⟨show index < 999 by omega, rfl⟩

theorem eq_of_v4RouteAddress {first : UInt8} {p : Position} {ip : Ipv4}
    (h : v4RouteAddress first p = .ok ip) : ip = plannedV4Route first p := by
  cases p with
  | cell row col =>
    simp only [v4RouteAddress, bind_eq_ok_iff, octet_eq_ok_iff] at h
    obtain ⟨_, ⟨_, rfl⟩, _, ⟨_, rfl⟩, result⟩ := h
    cases result
    rfl
  | station index =>
    simp only [v4RouteAddress, bind_eq_ok_iff, octet_eq_ok_iff] at h
    obtain ⟨_, ⟨_, rfl⟩, result⟩ := h
    cases result
    rfl

theorem eq_of_v4RouteRanges {routes : Option V4Routes} {router : String} {p : Position}
    {ranges : List RouteRange} (h : v4RouteRanges routes router p = .ok ranges) :
    ranges = routes.toList.map fun r =>
      simulatedRoute (router ++ ".isis.v4routes") (plannedV4Route r.firstOctet p).text
        r.prefixLength r.count := by
  cases routes with
  | none =>
    cases h
    rfl
  | some r =>
    obtain ⟨_, address, result⟩ := bind_eq_ok_iff.mp h
    obtain rfl := eq_of_v4RouteAddress address
    cases result
    rfl

/-- A node that can be made, with whatever numbers, is the planned one. -/
theorem eq_of_makeNode {plan : RouterPlan} {index : Nat} {p : Position} {node : Node} {d : Device}
    (h : makeNode plan (UInt8.ofNat (index + 1)) index p = .ok (node, d)) :
    HasShortNumbers p ∧ node = plannedNode plan index p ∧ d = plannedDevice plan index p := by
  simp only [makeNode, bind_eq_ok_iff] at h
  obtain ⟨_, id, _, v4, _, v6, result⟩ := h
  obtain ⟨short, rfl⟩ := eq_of_teRouterId id
  obtain rfl := eq_of_v4RouteRanges v4
  rw [v6RouteRanges_eq _ _ short] at v6
  cases v6
  cases result
  exact ⟨short, rfl, rfl⟩

theorem eq_of_addNode {plan : RouterPlan} {c c' : Config} {index : Nat} {p : Position} {node : Node}
    (h : addNode plan c index p = .ok (c', node)) :
    HasShortNumbers p ∧ node = plannedNode plan index p ∧
      c' = c.addDevice (plannedDevice plan index p) := by
  simp only [addNode, bind_eq_ok_iff, octet_eq_ok_iff] at h
  obtain ⟨_, ⟨_, rfl⟩, _, _, ⟨_, _⟩, made, result⟩ := h
  cases result
  obtain ⟨short, rfl, rfl⟩ := eq_of_makeNode made
  exact ⟨short, rfl, rfl⟩

/-- Nodes with new and different names are added one after the other without failure. The induction
is on the nodes that are left; the names of those added are no longer free, but no later node has
one of them. -/
theorem addNodes_eq {plan : RouterPlan} {sites : List (Nat × Position)} {c : Config}
    (inRange : ∀ site ∈ sites, site.1 < maxNodes ∧ InRange site.2)
    (distinct : (sites.map (siteName plan.systemIdOctet)).Nodup)
    (free : ∀ site ∈ sites, siteName plan.systemIdOctet site ∉ c.devices.map (·.name)) :
    addNodes plan c sites =
      (withNodes plan c sites, .ok (sites.map fun site => plannedNode plan site.1 site.2)) := by
  induction sites generalizing c with
  | nil => simp [addNodes, withNodes]
  | cons site rest ih =>
    obtain ⟨index, p⟩ := site
    obtain ⟨hindex, hp⟩ := inRange (index, p) (by simp)
    obtain ⟨once, others⟩ := List.nodup_cons.mp distinct
    have added := addNode_eq (free (index, p) (by simp)) hindex hp
    have later : ∀ site ∈ rest, siteName plan.systemIdOctet site ∉
        (c.addDevice (plannedDevice plan index p)).devices.map (·.name) := by
      intro site member used
      rw [show (c.addDevice (plannedDevice plan index p)).devices =
        c.devices ++ [plannedDevice plan index p] from rfl, List.map_append] at used
      rcases List.mem_append.mp used with old | new
      · exact free site (List.mem_cons_of_mem _ member) old
      · exact once (List.mem_map.mpr ⟨site, member, List.mem_singleton.mp new⟩)
    have more := ih (fun site member => inRange site (List.mem_cons_of_mem _ member)) others later
    dsimp only at added
    rw [addNodes, added]
    dsimp only
    rw [more]
    simp [withNodes, Config.addDevice, Except.map]

/-- The nodes that were added run ISIS: no device that was there before has their name. -/
theorem runsIsis_withNodes {plan : RouterPlan} {sites : List (Nat × Position)} {c : Config}
    {name : String} (member : name ∈ sites.map (siteName plan.systemIdOctet))
    (free : name ∉ c.devices.map (·.name)) : RunsIsis (withNodes plan c sites) name := by
  obtain ⟨site, hsite, rfl⟩ := List.mem_map.mp member
  have present : siteName plan.systemIdOctet site ∈
      (withNodes plan c sites).devices.map (·.name) := by
    refine List.mem_map.mpr ⟨plannedDevice plan site.1 site.2, ?_, rfl⟩
    exact List.mem_append_right _ (List.mem_map.mpr ⟨site, hsite, rfl⟩)
  obtain ⟨i, index⟩ := Config.exists_deviceIndex_iff.mpr present
  obtain ⟨d, found, same⟩ := Config.exists_of_deviceIndex index
  refine ⟨i, d, index, found, ?_⟩
  rcases List.mem_append.mp (List.mem_of_getElem? found) with old | new
  · exact absurd (List.mem_map.mpr ⟨d, old, same⟩) free
  · obtain ⟨_, _, rfl⟩ := List.mem_map.mp new
    rfl

end Topology

namespace Builder

open IsisTestbed.Topology

/-! ### Acceptance and refusal -/

/-- The names of the devices to be created, in the order of their creation. -/
def nodeNames (b : Builder) (systemIdOctet : UInt8) : List String :=
  b.sites.map (siteName systemIdOctet)

/-- The conditions under which a topology can be added to a configuration. -/
structure Accepts (b : Builder) (c : Config) : Prop where
  large : b.shape.IsLarge
  few : b.shape.size ≤ 254
  octet : b.systemIdOctet.isSome = true
  addressed : b.addressing.v4Octet.isSome = true ∨ b.addressing.v6Group.isSome = true
  free : ∀ octet, b.systemIdOctet = some octet →
    ∀ name ∈ b.nodeNames octet, name ∉ c.devices.map (·.name)

/-- Why a topology cannot be added to a configuration: the first condition that fails. The last
reason names the first node, in the order of creation, whose name is in use. -/
inductive Refuses (b : Builder) (c : Config) : TopologyError → Prop where
  | gridTooSmall {rows cols : Nat} (shape : b.shape = .grid rows cols)
      (small : rows < 2 ∨ cols < 2) : Refuses b c (.gridTooSmall rows cols)
  | ringTooSmall {nodes : Nat} (shape : b.shape = .ring nodes) (small : nodes < 2) :
      Refuses b c (.ringTooSmall nodes)
  | tooManyNodes (large : b.shape.IsLarge) (many : 254 < b.shape.size) :
      Refuses b c (.tooManyNodes b.shape.reportedSize)
  | missingSystemId (large : b.shape.IsLarge) (few : b.shape.size ≤ 254)
      (unset : b.systemIdOctet = none) : Refuses b c .missingSystemId
  | noLinkAddressing (large : b.shape.IsLarge) (few : b.shape.size ≤ 254)
      (octet : b.systemIdOctet.isSome = true)
      (unset : b.addressing.v4Octet = none ∧ b.addressing.v6Group = none) :
      Refuses b c .noLinkAddressing
  | nameInUse (large : b.shape.IsLarge) (few : b.shape.size ≤ 254) {octet : UInt8}
      (set : b.systemIdOctet = some octet)
      (addressed : b.addressing.v4Octet.isSome = true ∨ b.addressing.v6Group.isSome = true)
      {before after : List String} {name : String}
      (names : b.nodeNames octet = before ++ name :: after)
      (free : ∀ earlier ∈ before, earlier ∉ c.devices.map (·.name))
      (used : name ∈ c.devices.map (·.name)) : Refuses b c (.nameInUse name)

variable {b : Builder} {c : Config} {octet : UInt8}

/-- The nodes of a topology have numbers and positions in range. -/
theorem sites_inRange (few : b.shape.size ≤ maxNodes) :
    ∀ site ∈ b.sites, site.1 < maxNodes ∧ InRange site.2 := by
  intro site member
  obtain ⟨index, hindex, rfl⟩ := List.mem_map.mp member
  have bound : index < b.shape.size := List.mem_range.mp hindex
  exact ⟨Nat.lt_of_lt_of_le bound few, Shape.position_inRange few bound⟩

/-- The nodes of a topology have different names. -/
theorem nodeNames_nodup (b : Builder) (octet : UInt8) : (b.nodeNames octet).Nodup := by
  unfold nodeNames sites
  rw [List.map_map]
  refine List.Nodup.map ?_ List.nodup_range
  intro index index' same
  exact (nodeName_inj same).2.1

/-! ### The checks -/

/-- The check of the names stops at the first one in use. -/
theorem checkNames_eq_find (sites : List (Nat × Position)) :
    checkNames c octet sites =
      ((sites.map (siteName octet)).find? fun name => c.devices.any (·.name == name)).elim
        (.ok ()) fun name => .error (.nameInUse name) := by
  have used_iff (name : String) :
      c.devices.any (·.name == name) = true ↔ name ∈ c.devices.map (·.name) := by
    simp
  induction sites with
  | nil => rfl
  | cons site rest ih =>
    obtain ⟨index, p⟩ := site
    have name : siteName octet (index, p) = nodeName octet index p := rfl
    rw [checkNames, List.map_cons, List.find?_cons, name]
    by_cases used : nodeName octet index p ∈ c.devices.map (·.name)
    · rw [requireFree_eq_error_iff.mpr ⟨used, rfl⟩, (used_iff _).mpr used]
      rfl
    · have unused : requireFree c (nodeName octet index p) = .ok () :=
        requireFree_eq_ok_iff.mpr used
      rw [unused, ok_bind, ih, Bool.eq_false_iff.mpr (mt (used_iff _).mp used)]

theorem checkNames_eq_error_iff {sites : List (Nat × Position)} {e : TopologyError} :
    checkNames c octet sites = .error e ↔
      ∃ before name after, sites.map (siteName octet) = before ++ name :: after ∧
        (∀ earlier ∈ before, earlier ∉ c.devices.map (·.name)) ∧
        name ∈ c.devices.map (·.name) ∧ e = .nameInUse name := by
  rw [checkNames_eq_find]
  constructor
  · intro h
    cases found : (sites.map (siteName octet)).find? fun name =>
        c.devices.any (·.name == name) with
    | none =>
      rw [found] at h
      cases h
    | some name =>
      rw [found] at h
      cases h
      obtain ⟨used, before, after, order, free⟩ := List.find?_eq_some_iff_append.mp found
      exact ⟨before, name, after, order, fun earlier member => by simpa using free earlier member,
        by simpa using used, rfl⟩
  · rintro ⟨before, name, after, order, free, used, rfl⟩
    have found : ((sites.map (siteName octet)).find? fun name =>
        c.devices.any (·.name == name)) = some name := by
      apply List.find?_eq_some_iff_append.mpr
      exact ⟨by simpa using used, before, after, order,
        fun earlier member => by simpa using free earlier member⟩
    rw [found]
    rfl

theorem checkNames_eq_ok_iff {sites : List (Nat × Position)} {u : Unit} :
    checkNames c octet sites = .ok u ↔
      ∀ name ∈ sites.map (siteName octet), name ∉ c.devices.map (·.name) := by
  induction sites with
  | nil => simp [checkNames]
  | cons site rest ih =>
    obtain ⟨index, p⟩ := site
    simp only [checkNames, bind_eq_ok_iff, requireFree_eq_ok_iff, ih, List.map_cons,
      List.forall_mem_cons]
    exact ⟨fun ⟨_, free, later⟩ => ⟨free, later⟩, fun ⟨free, later⟩ => ⟨(), free, later⟩⟩

theorem isEmpty_eq_true_iff {a : LinkAddressing} :
    a.isEmpty = true ↔ a.v4Octet = none ∧ a.v6Group = none := by
  simp [LinkAddressing.isEmpty]

theorem isEmpty_eq_false_iff {a : LinkAddressing} :
    a.isEmpty = false ↔ a.v4Octet.isSome = true ∨ a.v6Group.isSome = true := by
  unfold LinkAddressing.isEmpty
  cases a.v4Octet <;> cases a.v6Group <;> simp

theorem check_of_shape {e : TopologyError} (shape : b.shape.check = .error e) :
    b.check c = .error e := by
  rw [check, shape]
  rfl

theorem check_of_unset (shape : b.shape.check = .ok ()) (unset : b.systemIdOctet = none) :
    b.check c = .error .missingSystemId := by
  rw [check, shape, ok_bind, unset]
  rfl

theorem check_of_unaddressed (shape : b.shape.check = .ok ()) (set : b.systemIdOctet = some octet)
    (unaddressed : b.addressing.isEmpty = true) : b.check c = .error .noLinkAddressing := by
  rw [check, shape, ok_bind, set]
  simp only [unaddressed]
  rfl

/-- When everything else is in order, the names decide. -/
theorem check_of_names (shape : b.shape.check = .ok ()) (set : b.systemIdOctet = some octet)
    (addressed : b.addressing.isEmpty = false) :
    b.check c = (checkNames c octet b.sites).map fun _ => octet := by
  rw [check, shape, ok_bind, set]
  simp only [addressed, Bool.false_eq_true, if_false]
  rfl

/-- The checks fail with the first condition that does not hold. -/
theorem check_of_refuses {e : TopologyError} (h : b.Refuses c e) : b.check c = .error e := by
  cases h with
  | @gridTooSmall rows cols form small =>
    have notLarge : ¬ b.shape.IsLarge := by
      intro large
      rw [form] at large
      have enough : 2 ≤ rows ∧ 2 ≤ cols := large
      omega
    have shape := Shape.check_of_small notLarge
    rw [form] at shape
    exact check_of_shape (form ▸ shape)
  | @ringTooSmall nodes form small =>
    have notLarge : ¬ b.shape.IsLarge := by
      rw [form]
      exact Nat.not_le.mpr small
    have shape := Shape.check_of_small notLarge
    rw [form] at shape
    exact check_of_shape (form ▸ shape)
  | tooManyNodes large many => exact check_of_shape (Shape.check_of_many large many)
  | missingSystemId large few unset => exact check_of_unset (Shape.check_of_few large few) unset
  | noLinkAddressing large few set unset =>
    obtain ⟨octet, set⟩ := Option.isSome_iff_exists.mp set
    exact check_of_unaddressed (Shape.check_of_few large few) set (isEmpty_eq_true_iff.mpr unset)
  | nameInUse large few set addressed order free used =>
    have names := checkNames_eq_error_iff.mpr ⟨_, _, _, order, free, used, rfl⟩
    rw [check_of_names (Shape.check_of_few large few) set (isEmpty_eq_false_iff.mpr addressed),
      names]
    rfl

/-- The checks pass for a configuration that the builder accepts. -/
theorem check_of_accepts (set : b.systemIdOctet = some octet) (h : b.Accepts c) :
    b.check c = .ok octet := by
  have names : checkNames c octet b.sites = .ok () := checkNames_eq_ok_iff.mpr (h.free octet set)
  rw [check_of_names (Shape.check_of_few h.large h.few) set (isEmpty_eq_false_iff.mpr h.addressed),
    names]
  rfl

/-- A shape that fails its check is a reason to refuse. -/
theorem refuses_of_shape {e : TopologyError} (shape : b.shape.check = .error e) :
    b.Refuses c e := by
  rcases Shape.check_eq_error_iff.mp shape with ⟨small, rfl⟩ | ⟨large, many, rfl⟩
  · cases form : b.shape with
    | grid rows cols =>
      rw [form] at small
      have small : ¬ (2 ≤ rows ∧ 2 ≤ cols) := small
      exact .gridTooSmall form (by omega)
    | ring nodes =>
      rw [form] at small
      have small : ¬ 2 ≤ nodes := small
      exact .ringTooSmall form (by omega)
  · exact .tooManyNodes large many

/-- Every builder either accepts a configuration or has a reason to refuse it. The cases are the
checks in their order. -/
theorem accepts_or_refuses (b : Builder) (c : Config) :
    (∃ octet, b.systemIdOctet = some octet ∧ b.Accepts c) ∨ ∃ e, b.Refuses c e := by
  cases shape : b.shape.check with
  | error e => exact .inr ⟨e, refuses_of_shape shape⟩
  | ok _ =>
    obtain ⟨large, few⟩ := Shape.check_eq_ok_iff.mp shape
    cases set : b.systemIdOctet with
    | none => exact .inr ⟨_, .missingSystemId large few set⟩
    | some octet =>
      have isSet : b.systemIdOctet.isSome = true := by simp [set]
      cases empty : b.addressing.isEmpty with
      | true =>
        exact .inr ⟨_, .noLinkAddressing large few isSet (isEmpty_eq_true_iff.mp empty)⟩
      | false =>
        have addressed := isEmpty_eq_false_iff.mp empty
        cases names : checkNames c octet b.sites with
        | error e =>
          obtain ⟨before, name, after, order, free, used, _⟩ := checkNames_eq_error_iff.mp names
          exact .inr ⟨_, .nameInUse large few set addressed order free used⟩
        | ok _ =>
          refine .inl ⟨octet, rfl, large, few, isSet, addressed, ?_⟩
          intro octet' same
          cases set.symm.trans same
          exact checkNames_eq_ok_iff.mp names

/-- The checks pass exactly for the configurations that the builder accepts. -/
theorem check_eq_ok_iff :
    b.check c = .ok octet ↔ b.systemIdOctet = some octet ∧ b.Accepts c := by
  constructor
  · intro passed
    rcases b.accepts_or_refuses c with ⟨octet', set, accepts⟩ | ⟨e, refuses⟩
    · cases passed.symm.trans (check_of_accepts set accepts)
      exact ⟨set, accepts⟩
    · cases passed.symm.trans (check_of_refuses refuses)
  · rintro ⟨set, accepts⟩
    exact check_of_accepts set accepts

/-- The checks fail exactly with the reasons to refuse. -/
theorem check_eq_error_iff {e : TopologyError} : b.check c = .error e ↔ b.Refuses c e := by
  constructor
  · intro failed
    rcases b.accepts_or_refuses c with ⟨octet, set, accepts⟩ | ⟨e', refuses⟩
    · cases failed.symm.trans (check_of_accepts set accepts)
    · cases failed.symm.trans (check_of_refuses refuses)
      exact refuses
  · exact check_of_refuses

/-! ### Building -/

/-- What an accepted builder does: all nodes are added, and then all links without failure. -/
theorem buildInPlace_of_check (h : b.check c = .ok octet) :
    ∃ c' edges,
      addEdges
          { shape := b.shape, addressing := b.addressing,
            nodes := b.sites.map fun site => plannedNode (b.plan octet) site.1 site.2 }
          (withNodes (b.plan octet) c b.sites) b.shape.edges = (c', .ok edges) ∧
        b.buildInPlace c = (c', .ok
          { shape := b.shape, addressing := b.addressing,
            nodes := b.sites.map fun site => plannedNode (b.plan octet) site.1 site.2, edges }) := by
  obtain ⟨set, accepts⟩ := check_eq_ok_iff.mp h
  have added := @addNodes_eq (b.plan octet) b.sites c (sites_inRange accepts.few)
    (b.nodeNames_nodup octet)
    fun site member => accepts.free octet set _ (List.mem_map.mpr ⟨site, member, rfl⟩)
  let bare : Topology :=
    { shape := b.shape, addressing := b.addressing,
      nodes := b.sites.map fun site => plannedNode (b.plan octet) site.1 site.2 }
  have atIndex (index : Nat) (hindex : index < b.shape.size) :
      bare.nodes[index]? = some (plannedNode (b.plan octet) index (b.shape.position index)) := by
    simp [bare, sites, hindex]
  have runs (index : Nat) (hindex : index < b.shape.size) :
      RunsIsis (withNodes (b.plan octet) c b.sites)
        (plannedNode (b.plan octet) index (b.shape.position index)).name := by
    have member : nodeName octet index (b.shape.position index) ∈ b.nodeNames octet :=
      List.mem_map.mpr ⟨(index, b.shape.position index),
        List.mem_map.mpr ⟨index, List.mem_range.mpr hindex, rfl⟩, rfl⟩
    exact runsIsis_withNodes member (accepts.free octet set _ member)
  have joinable : ∀ pair ∈ b.shape.edges,
      Joinable bare (withNodes (b.plan octet) c b.sites) pair.1 pair.2 := by
    intro pair member
    obtain ⟨first, second, different⟩ := Shape.mem_edges accepts.large member
    have few := accepts.few
    refine ⟨isEmpty_eq_false_iff.mpr accepts.addressed, by omega, by omega, _, _,
      atIndex pair.1 first, atIndex pair.2 second, ?_, runs pair.1 first, runs pair.2 second⟩
    intro same
    exact different (nodeName_inj same).2.1
  obtain ⟨c', edges, linked⟩ := addEdges_ok joinable
  refine ⟨c', edges, linked, ?_⟩
  simp only [buildInPlace, h, added, bare] at linked ⊢
  rw [linked]
  rfl

/-- Building fails exactly if the checks fail, and then it leaves the configuration as it was. -/
theorem buildInPlace_eq_error_iff {c' : Config} {e : TopologyError} :
    b.buildInPlace c = (c', .error e) ↔ c' = c ∧ b.check c = .error e := by
  cases checked : b.check c with
  | error reason =>
    simp only [buildInPlace, checked, Prod.mk.injEq, Except.error.injEq]
    exact ⟨fun ⟨same, reason⟩ => ⟨same.symm, reason⟩, fun ⟨same, reason⟩ => ⟨same.symm, reason⟩⟩
  | ok octet =>
    obtain ⟨built, edges, _, result⟩ := buildInPlace_of_check checked
    rw [result]
    constructor
    · intro h
      cases h
    · rintro ⟨_, h⟩
      cases h

theorem exists_buildInPlace_iff :
    (∃ c' t, b.buildInPlace c = (c', .ok t)) ↔ ∃ octet, b.check c = .ok octet := by
  constructor
  · rintro ⟨c', t, built⟩
    cases checked : b.check c with
    | error reason =>
      rw [buildInPlace_eq_error_iff.mpr ⟨rfl, checked⟩] at built
      cases built
    | ok octet => exact ⟨octet, rfl⟩
  · rintro ⟨octet, checked⟩
    obtain ⟨c', edges, _, built⟩ := buildInPlace_of_check checked
    exact ⟨c', _, built⟩

theorem build_eq_ok_iff {c' : Config} {t : Topology} :
    b.build c = .ok (c', t) ↔ b.buildInPlace c = (c', .ok t) := by
  unfold build
  rcases b.buildInPlace c with ⟨c₁, e | t₁⟩ <;> simp [Except.map]

/-- Building is all or nothing. It succeeds exactly for the configurations that the builder accepts.
For all others it fails with the first reason to refuse them, and the configuration that is left
behind is the one from before. Nothing that could go wrong while nodes and links are added ever does,
whatever the configuration and the parameters are. -/
theorem builds_or_refuses (b : Builder) (c : Config) :
    ((∃ c' t, b.buildInPlace c = (c', .ok t)) ↔ b.Accepts c) ∧
    (∀ c' e, b.buildInPlace c = (c', .error e) ↔ c' = c ∧ b.Refuses c e) ∧
    ((∃ result, b.build c = .ok result) ↔ b.Accepts c) ∧
    (∀ e, b.build c = .error e ↔ b.Refuses c e) ∧
    ∀ e, b.build c = .error e →
      (∀ index, e ≠ .addressSpaceExhausted index) ∧ (∀ text, e ≠ .invalidAddress text) ∧
        (∀ device, e ≠ .noIsisRouter device) ∧ (∀ node, e ≠ .nodeNotFound node) ∧
        ∀ cause, e ≠ .config cause := by
  have succeeds : (∃ c' t, b.buildInPlace c = (c', .ok t)) ↔ b.Accepts c := by
    rw [exists_buildInPlace_iff]
    constructor
    · rintro ⟨octet, checked⟩
      exact (check_eq_ok_iff.mp checked).2
    · intro accepts
      obtain ⟨octet, set⟩ := Option.isSome_iff_exists.mp accepts.octet
      exact ⟨octet, check_eq_ok_iff.mpr ⟨set, accepts⟩⟩
  have fails (c' : Config) (e : TopologyError) :
      b.buildInPlace c = (c', .error e) ↔ c' = c ∧ b.Refuses c e := by
    rw [buildInPlace_eq_error_iff, check_eq_error_iff]
  have outcome : (∃ result, b.build c = .ok result) ↔
      ∃ c' t, b.buildInPlace c = (c', .ok t) := by
    unfold build
    rcases b.buildInPlace c with ⟨c', e | t⟩ <;> simp [Except.map]
  have reason (e : TopologyError) : b.build c = .error e ↔ b.Refuses c e := by
    have left : b.build c = .error e ↔ ∃ c', b.buildInPlace c = (c', .error e) := by
      unfold build
      rcases b.buildInPlace c with ⟨c', e | t⟩ <;> simp [Except.map]
    rw [left]
    simp only [fails, exists_eq_left]
  refine ⟨succeeds, fails, outcome.trans succeeds, reason, ?_⟩
  intro e failed
  cases (reason e).mp failed <;> simp

end Builder

end IsisTestbed
