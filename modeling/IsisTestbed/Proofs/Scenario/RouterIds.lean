import IsisTestbed.Proofs.Scenario.Success
import IsisTestbed.Proofs.Topology.AddressPlan
import IsisTestbed.Proofs.Topology.Validity

/-!
The ids of the simulated routers of a scenario. System ids begin with an octet of their topology, so
they are distinct if the octets are. Traffic-engineering ids tell the position only, and a ring is
written like the first row of a grid: they are distinct inside each topology, but routers of the
ring share them with those in the first row of the grid.
-/

namespace IsisTestbed

open IsisTestbed.Topology

/-! ### Ids of positions -/

namespace Topology

variable {p p' : Position}

/-- The row and the column of a position, where a ring is the first row. -/
def rowAndColumn : Position → Nat × Nat
  | .cell row col => (row, col)
  | .station index => (0, index)

theorem plannedRouterId_eq (p : Position) : plannedRouterId p =
    ⟨10, 10, UInt8.ofNat (rowAndColumn p).1, UInt8.ofNat (rowAndColumn p).2⟩ := by
  cases p <;> rfl

theorem rowAndColumn_lt (h : InRange p) : (rowAndColumn p).1 < 254 ∧ (rowAndColumn p).2 < 254 := by
  cases p with
  | cell row col => exact h
  | station index => exact ⟨Nat.zero_lt_succ 253, h⟩

theorem text_plannedRouterId (h : InRange p) : (plannedRouterId p).text =
    "10.10." ++ Text.number (rowAndColumn p).1 ++ "." ++ Text.number (rowAndColumn p).2 := by
  obtain ⟨row, col⟩ := rowAndColumn_lt h
  have first : Text.number (UInt8.toNat 10) ++ "." ++ Text.number (UInt8.toNat 10) ++ "." =
      "10.10." := rfl
  rw [plannedRouterId_eq, Ipv4.text, first, UInt8.toNat_ofNat_of_lt' (by simp [UInt8.size]; omega),
    UInt8.toNat_ofNat_of_lt' (by simp [UInt8.size]; omega)]

/-- Positions have the same id exactly if they are in the same row and column. -/
theorem text_plannedRouterId_inj (h : InRange p) (h' : InRange p') :
    (plannedRouterId p).text = (plannedRouterId p').text ↔ rowAndColumn p = rowAndColumn p' := by
  constructor
  · intro same
    have octets := ipv4_text_inj same
    simp only [plannedRouterId_eq, Ipv4.mk.injEq, true_and] at octets
    obtain ⟨row, col⟩ := rowAndColumn_lt h
    obtain ⟨row', col'⟩ := rowAndColumn_lt h'
    exact Prod.ext (ofNat_inj (by omega) (by omega) octets.1)
      (ofNat_inj (by omega) (by omega) octets.2)
  · intro same
    rw [plannedRouterId_eq, plannedRouterId_eq, same]

/-- A router of a ring is in the row and column of one of a grid that is in the first row. -/
theorem rowAndColumn_cell_eq_station_iff {row col index : Nat} :
    rowAndColumn (.cell row col) = rowAndColumn (.station index) ↔
      ∃ k, Position.cell row col = .cell 0 k ∧ Position.station index = .station k := by
  simp [rowAndColumn]

/-- The row and the column tell the number of a node. -/
theorem rowAndColumn_position_inj {s : Shape} {i j : Nat}
    (same : rowAndColumn (s.position i) = rowAndColumn (s.position j)) : i = j := by
  cases s with
  | ring nodes => exact (Prod.mk.inj same).2
  | grid rows cols =>
    obtain ⟨row, col⟩ := Prod.mk.inj same
    rw [← Nat.div_add_mod i cols, ← Nat.div_add_mod j cols, row, col]

end Topology

/-! ### Routers by name -/

namespace Config

/-- The router on the device of a name. -/
def router? (c : Config) (name : String) : Option Router :=
  (c.device name).toOption.bind (·.isis)

/-- The traffic-engineering id of the router on the device of a name. -/
def teRouterId? (c : Config) (name : String) : Option String :=
  (c.router? name).bind fun r => r.basics.bind (·.teRouterId)

/-- The system id of the router on the device of a name. -/
def systemId? (c : Config) (name : String) : Option String :=
  (c.router? name).map (·.systemId)

end Config

namespace Builder

/-- The node of a number. -/
def node (b : Builder) (octet : UInt8) (index : Nat) : Node :=
  plannedNode (b.plan octet) index (b.shape.position index)

theorem name_node (b : Builder) (octet : UInt8) (index : Nat) :
    (b.node octet index).name = siteName octet (index, b.shape.position index) :=
  rfl

/-- Whether a topology shows the nodes of a builder, and their devices run the planned routers. -/
structure Runs (b : Builder) (octet : UInt8) (c : Config) (t : Topology) : Prop where
  few : b.shape.size ≤ maxNodes
  nodes : t.nodes = (List.range b.shape.size).map (b.node octet)
  routers : ∀ index < b.shape.size, RunsRouter c (b.node octet index).name
    (plannedRouter (b.plan octet) index (b.shape.position index))

namespace Runs

variable {b b' : Builder} {octet octet' : UInt8} {c : Config} {t t' : Topology} {i j : Nat}

theorem router?_eq (h : b.Runs octet c t) (bound : i < b.shape.size) :
    ∃ interfaces, c.router? (b.node octet i).name = some
      { plannedRouter (b.plan octet) i (b.shape.position i) with interfaces } := by
  obtain ⟨d, interfaces, found, runs⟩ := h.routers i bound
  refine ⟨interfaces, ?_⟩
  rw [Config.router?, found]
  exact runs

theorem teRouterId?_eq (h : b.Runs octet c t) (bound : i < b.shape.size) :
    c.teRouterId? (b.node octet i).name = some (plannedRouterId (b.shape.position i)).text := by
  obtain ⟨_, router⟩ := h.router?_eq bound
  rw [Config.teRouterId?, router]
  rfl

theorem systemId?_eq (h : b.Runs octet c t) (bound : i < b.shape.size) :
    c.systemId? (b.node octet i).name = some (nodeSystemId octet (UInt8.ofNat (i + 1))) := by
  obtain ⟨_, router⟩ := h.router?_eq bound
  rw [Config.systemId?, router]
  rfl

theorem exists_index (h : b.Runs octet c t) {n : Node} (member : n ∈ t.nodes) :
    ∃ index < b.shape.size, n = b.node octet index := by
  rw [h.nodes] at member
  obtain ⟨index, bound, rfl⟩ := List.mem_map.mp member
  exact ⟨index, List.mem_range.mp bound, rfl⟩

/-- What tells the number of a node is distinct for all nodes. -/
theorem nodup_map {α : Type} {f : Node → α} (h : b.Runs octet c t)
    (inj : ∀ i < b.shape.size, ∀ j < b.shape.size,
      f (b.node octet i) = f (b.node octet j) → i = j) :
    (t.nodes.map f).Nodup := by
  rw [h.nodes, List.map_map]
  refine List.Nodup.map_on ?_ List.nodup_range
  intro i hi j hj same
  exact inj i (List.mem_range.mp hi) j (List.mem_range.mp hj) same

/-- Two nodes, of the same topology or not, have the same traffic-engineering id exactly if they are
in the same row and column. -/
theorem teRouterId?_eq_iff (h : b.Runs octet c t) (h' : b'.Runs octet' c t') (hi : i < b.shape.size)
    (hj : j < b'.shape.size) :
    c.teRouterId? (b.node octet i).name = c.teRouterId? (b'.node octet' j).name ↔
      rowAndColumn (b.shape.position i) = rowAndColumn (b'.shape.position j) := by
  rw [h.teRouterId?_eq hi, h'.teRouterId?_eq hj, Option.some.injEq]
  exact text_plannedRouterId_inj (Shape.position_inRange h.few hi)
    (Shape.position_inRange h'.few hj)

/-- Two nodes, of the same topology or not, have the same system id exactly if they have the same
octet and the same number. -/
theorem systemId?_eq_iff (h : b.Runs octet c t) (h' : b'.Runs octet' c t') (hi : i < b.shape.size)
    (hj : j < b'.shape.size) :
    c.systemId? (b.node octet i).name = c.systemId? (b'.node octet' j).name ↔
      octet = octet' ∧ i = j := by
  have few : b.shape.size ≤ 254 := h.few
  have few' : b'.shape.size ≤ 254 := h'.few
  rw [h.systemId?_eq hi, h'.systemId?_eq hj, Option.some.injEq]
  constructor
  · intro same
    obtain ⟨octets, numbers⟩ := nodeSystemId_inj same
    exact ⟨octets, Nat.succ_inj.mp (ofNat_inj (by omega) (by omega) numbers)⟩
  · rintro ⟨rfl, rfl⟩
    rfl

theorem nodup_teRouterIds (h : b.Runs octet c t) :
    (t.nodes.map fun n => c.teRouterId? n.name).Nodup :=
  h.nodup_map fun _ hi _ hj same =>
    rowAndColumn_position_inj ((h.teRouterId?_eq_iff h hi hj).mp same)

theorem nodup_systemIds (h : b.Runs octet c t) :
    (t.nodes.map fun n => c.systemId? n.name).Nodup :=
  h.nodup_map fun _ hi _ hj same => ((h.systemId?_eq_iff h hi hj).mp same).2

/-- The nodes of two topologies with different octets have different system ids. -/
theorem nodup_systemIds_append (h : b.Runs octet c t) (h' : b'.Runs octet' c t')
    (different : octet ≠ octet') :
    ((t.nodes ++ t'.nodes).map fun n => c.systemId? n.name).Nodup := by
  rw [List.map_append, List.nodup_append]
  refine ⟨h.nodup_systemIds, h'.nodup_systemIds, ?_⟩
  intro id member id' member' same
  obtain ⟨n, hn, rfl⟩ := List.mem_map.mp member
  obtain ⟨n', hn', rfl⟩ := List.mem_map.mp member'
  obtain ⟨i, hi, rfl⟩ := h.exists_index hn
  obtain ⟨j, hj, rfl⟩ := h'.exists_index hn'
  exact different ((h.systemId?_eq_iff h' hi hj).mp same).1

/-- Flows do not matter. -/
theorem addFlow (h : b.Runs octet c t) (f : Flow) : b.Runs octet (c.addFlow f) t :=
  ⟨h.few, h.nodes, h.routers⟩

end Runs

namespace Added

variable {b : Builder} {octet : UInt8} {c c' : Config} {t : Topology}

theorem nodes_eq (h : b.Added octet c c' t) :
    t.nodes = (List.range b.shape.size).map (b.node octet) := by
  rw [h.nodes, sites, List.map_map]
  rfl

/-- What was added runs as long as its routers are there. -/
theorem runs {c'' : Config} (h : b.Added octet c c' t) (accepts : b.Accepts c)
    (kept : ∀ name r, name ∈ b.nodeNames octet → RunsRouter c' name r → RunsRouter c'' name r) :
    b.Runs octet c'' t := by
  refine ⟨accepts.few, h.nodes_eq, fun index bound => ?_⟩
  have site : (index, b.shape.position index) ∈ b.sites :=
    List.mem_map.mpr ⟨index, List.mem_range.mpr bound, rfl⟩
  rw [name_node]
  exact kept _ _ (List.mem_map_of_mem site) (h.routers _ site)

end Added

end Builder

/-! ### Scenarios -/

namespace Scenario

variable {p : Parameters} {result : Result}

namespace Wiring

theorem gridRuns (w : Wiring p) :
    p.grid.builder.Runs p.grid.systemIdOctet w.ringAttached w.grid :=
  w.gridAdded.runs w.attachesGrid.accepts.1 fun _ _ => w.kept_gridNode

theorem ringRuns (w : Wiring p) :
    p.ring.builder.Runs p.ring.systemIdOctet w.ringAttached w.ring :=
  w.ringAdded.runs w.attachesRing.accepts.1 fun _ _ _ => id

end Wiring

/-- The traffic-engineering ids of the simulated routers of a scenario are those of their rows and
columns, or of their numbers in the ring. Inside each topology they are distinct. A router of the
grid has the id of one in the ring exactly if it is in the first row, in the column of that number.
System ids are distinct for all of them. -/
theorem routerIds_of_build (built : p.build = .ok result)
    (octets : p.grid.systemIdOctet ≠ p.ring.systemIdOctet) :
    (∀ n ∈ result.grid.nodes, ∃ row col, n.position = .cell row col ∧
      result.config.teRouterId? n.name =
        some ("10.10." ++ Text.number row ++ "." ++ Text.number col)) ∧
    (∀ n ∈ result.ring.nodes, ∃ index, n.position = .station index ∧
      result.config.teRouterId? n.name = some ("10.10.0." ++ Text.number index)) ∧
    (result.grid.nodes.map fun n => result.config.teRouterId? n.name).Nodup ∧
    (result.ring.nodes.map fun n => result.config.teRouterId? n.name).Nodup ∧
    (∀ n ∈ result.grid.nodes, ∀ m ∈ result.ring.nodes,
      result.config.teRouterId? n.name = result.config.teRouterId? m.name ↔
        ∃ k, n.position = .cell 0 k ∧ m.position = .station k) ∧
    ((result.grid.nodes ++ result.ring.nodes).map fun n =>
      result.config.systemId? n.name).Nodup := by
  obtain ⟨s, rfl⟩ := build_eq_ok_iff.mp built
  have grid : p.grid.builder.Runs p.grid.systemIdOctet s.result.config s.result.grid :=
    s.gridRuns.addFlow _
  have ring : p.ring.builder.Runs p.ring.systemIdOctet s.result.config s.result.ring :=
    s.ringRuns.addFlow _
  refine ⟨?_, ?_, grid.nodup_teRouterIds, ring.nodup_teRouterIds, ?_,
    grid.nodup_systemIds_append ring octets⟩
  · intro n member
    obtain ⟨i, hi, rfl⟩ := grid.exists_index member
    refine ⟨i / p.grid.cols, i % p.grid.cols, rfl, ?_⟩
    rw [grid.teRouterId?_eq hi, text_plannedRouterId (Shape.position_inRange grid.few hi)]
    rfl
  · intro n member
    obtain ⟨i, hi, rfl⟩ := ring.exists_index member
    have firstRow : "10.10." ++ Text.number 0 ++ "." = "10.10.0." := rfl
    refine ⟨i, rfl, ?_⟩
    rw [ring.teRouterId?_eq hi, text_plannedRouterId (Shape.position_inRange ring.few hi),
      ← firstRow]
    rfl
  · intro n hn m hm
    obtain ⟨i, hi, rfl⟩ := grid.exists_index hn
    obtain ⟨j, hj, rfl⟩ := ring.exists_index hm
    rw [grid.teRouterId?_eq_iff ring hi hj]
    exact rowAndColumn_cell_eq_station_iff

theorem routerIds_of_build_reference :
    ∃ result, ({} : Parameters).build = .ok result ∧
      ∃ n ∈ result.grid.nodes, ∃ m ∈ result.ring.nodes, n.position = .cell 0 2 ∧
        m.position = .station 2 ∧
        result.config.teRouterId? n.name = result.config.teRouterId? m.name ∧
        result.config.systemId? n.name ≠ result.config.systemId? m.name := by
  have placed : ({} : Parameters).build.toOption.any (fun result =>
      result.grid.nodes.any (fun n => n.position = .cell 0 2) &&
        result.ring.nodes.any (fun m => m.position = .station 2)) = true := by
    decide +kernel
  have octets : ({} : Parameters).grid.systemIdOctet ≠ ({} : Parameters).ring.systemIdOctet := by
    decide
  cases built : ({} : Parameters).build with
  | error e => simp [built, Except.toOption] at placed
  | ok result =>
    obtain ⟨⟨n, hn, first⟩, m, hm, second⟩ :
        (∃ n ∈ result.grid.nodes, n.position = .cell 0 2) ∧
          ∃ m ∈ result.ring.nodes, m.position = .station 2 := by
      simpa [built, Except.toOption] using placed
    obtain ⟨_, _, _, _, shared, systemIds⟩ := routerIds_of_build built octets
    rw [List.map_append, List.nodup_append] at systemIds
    exact ⟨result, rfl, n, hn, m, hm, first, second, (shared n hn m hm).mpr ⟨2, first, second⟩,
      systemIds.2.2 _ (List.mem_map_of_mem hn) _ (List.mem_map_of_mem hm)⟩

/-- Different octets do not make the traffic-engineering ids of all simulated routers distinct: in
the reference setup the ring shares them with the first row of the grid. -/
theorem not_nodup_teRouterIds :
    ¬ ∀ (p : Parameters) (result : Result), p.build = .ok result →
      p.grid.systemIdOctet ≠ p.ring.systemIdOctet →
      ((result.grid.nodes ++ result.ring.nodes).map fun n =>
        result.config.teRouterId? n.name).Nodup := by
  intro distinct
  have repeated : ({} : Parameters).build.toOption.all (fun result =>
      decide ((result.grid.nodes ++ result.ring.nodes).map fun n =>
        result.config.teRouterId? n.name).Nodup) = false := by
    decide +kernel
  cases built : ({} : Parameters).build with
  | error e => simp [built, Except.toOption] at repeated
  | ok result =>
    have ids := distinct {} result built (by decide)
    simp only [built, Except.toOption, Option.all_some, ids, decide_true, reduceCtorEq] at repeated

end Scenario

end IsisTestbed
