import IsisTestbed.Proofs.Topology.Attaching
import IsisTestbed.Scenario.Build

/-!
When a scenario can be built. Both topologies must be possible and have the positions that the
parameters refer to, both must advertise IPv4 routes, and no node may have the name of a device at a
test port. Nothing else can fail: the nodes of the grid and of the ring never share a name, and the
emulated routers are there when the topologies are attached to them.
-/

namespace IsisTestbed.Scenario

open IsisTestbed.Topology

theorem liftTopology_eq_ok_iff {α : Type} {x : Except TopologyError α} {a : α} :
    liftTopology x = .ok a ↔ x = .ok a := by
  cases x <;> simp [liftTopology]

theorem liftConfig_eq_ok_iff {α : Type} {x : Except ConfigError α} {a : α} :
    liftConfig x = .ok a ↔ x = .ok a := by
  cases x <;> simp [liftConfig]

/-! ### Emulated routers -/

section Emulated

variable {i : EmulatedIsis} {host : PortDevice} {c c' : Config} {name : String} {r : Router}

/-- A router is put onto the device that is found by name. -/
theorem addTo_eq_ok_iff :
    i.addTo c host = .ok c' ↔ ∃ k, c.deviceIndex host.name = .ok k ∧
      c' = c.modifyDevice k fun d => d.withRouter (some (i.router host)) := by
  simp only [EmulatedIsis.addTo, Config.updateDevice, bind_eq_ok_iff]
  constructor
  · rintro ⟨k, index, result⟩
    cases result
    exact ⟨k, index, rfl⟩
  · rintro ⟨k, index, rfl⟩
    exact ⟨k, index, rfl⟩

theorem exists_addTo_iff :
    (∃ c', i.addTo c host = .ok c') ↔ host.name ∈ c.devices.map (·.name) := by
  rw [← Config.exists_deviceIndex_iff]
  constructor
  · rintro ⟨c', added⟩
    obtain ⟨k, index, _⟩ := addTo_eq_ok_iff.mp added
    exact ⟨k, index⟩
  · rintro ⟨k, index⟩
    exact ⟨_, addTo_eq_ok_iff.mpr ⟨k, index, rfl⟩⟩

theorem names_addTo (h : i.addTo c host = .ok c') :
    c'.devices.map (·.name) = c.devices.map (·.name) := by
  obtain ⟨k, _, rfl⟩ := addTo_eq_ok_iff.mp h
  exact Config.names_modifyDevice (fun d _ => Device.name_withRouter d _) k

/-- The device that gets a router runs it. -/
theorem runsRouter_addTo (h : i.addTo c host = .ok c') :
    RunsRouter c' host.name (i.router host) := by
  obtain ⟨k, index, rfl⟩ := addTo_eq_ok_iff.mp h
  obtain ⟨d, atK, _⟩ := Config.exists_of_deviceIndex index
  exact ⟨d.withRouter (some (i.router host)), _,
    Config.device_modifyDevice_self (fun d _ => Device.name_withRouter d _) index atK, rfl⟩

/-- All other devices run the routers that they did before. -/
theorem runsRouter_addTo_of_ne (h : i.addTo c host = .ok c') (other : name ≠ host.name)
    (before : RunsRouter c name r) : RunsRouter c' name r := by
  obtain ⟨k, index, rfl⟩ := addTo_eq_ok_iff.mp h
  obtain ⟨e, atK, own⟩ := Config.exists_of_deviceIndex index
  obtain ⟨d, interfaces, found, runs⟩ := before
  have different : e.name ≠ name := fun same => other (same.symm.trans own)
  have kept := Config.device_modifyDevice_of_ne
    (fun d _ => Device.name_withRouter d (some (i.router host))) atK different
  exact ⟨d, interfaces, kept.trans found, runs⟩

end Emulated

/-- The names of the devices at the test ports. -/
def Parameters.hostNames (p : Parameters) : List String :=
  [p.tx.port.name, p.rx.port.name]

/-- The test ports and the devices on them, before they run ISIS. -/
def Parameters.hosts (p : Parameters) : Config :=
  p.rx.port.addTo (p.tx.port.addTo {})

/-! ### Flows -/

/-- The first IPv4 route of a planned router is there exactly if routes are requested. -/
theorem firstV4Route_eq_ok_iff {b : Builder} {octet : UInt8} {index : Nat} {position : Position}
    {c : Config} {name : String} {route : String × String}
    (h : RunsRouter c name (plannedRouter (b.plan octet) index position)) :
    firstV4Route c name = .ok route ↔ ∃ routes, b.v4Routes = some routes ∧
      route = ((plannedNode (b.plan octet) index position).routerName ++ ".isis.v4routes",
        (plannedV4Route routes.firstOctet position).text) := by
  obtain ⟨d, interfaces, found, runs⟩ := h
  have plan : (b.plan octet).v4Routes = b.v4Routes := rfl
  cases requested : b.v4Routes with
  | none =>
    rw [requested] at plan
    simp [firstV4Route, found, liftConfig, ok_bind, runs, plannedRouter, plan]
  | some requested =>
    rw [requested] at plan
    simp [firstV4Route, found, liftConfig, ok_bind, runs, plannedRouter, plan, simulatedRoute,
      RouteRange.firstAddress?, pure, Except.pure, eq_comm]

/-- A planned router has a first IPv4 route exactly if routes are requested. -/
theorem exists_firstV4Route_iff {b : Builder} {octet : UInt8} {index : Nat} {position : Position}
    {c : Config} {name : String}
    (h : RunsRouter c name (plannedRouter (b.plan octet) index position)) :
    (∃ route, firstV4Route c name = .ok route) ↔ b.v4Routes.isSome = true := by
  simp only [firstV4Route_eq_ok_iff h, Option.isSome_iff_exists]
  constructor
  · rintro ⟨_, routes, requested, _⟩
    exact ⟨routes, requested⟩
  · rintro ⟨routes, requested⟩
    exact ⟨_, routes, requested, rfl⟩

/-! ### The steps -/

/-- The steps that put the routers and topologies together, with the configurations they give. -/
structure Wiring (p : Parameters) where
  /-- The hosts, with the router of the sending one. -/
  sending : Config
  gridAttached : Config
  grid : Topology
  /-- As before, with the router of the receiving host. -/
  receiving : Config
  ringAttached : Config
  ring : Topology
  sends : p.tx.isis.addTo p.hosts p.tx.port = .ok sending
  attachesGrid : p.grid.builder.Attaches p.grid.attachTo
    (.cell p.grid.attachAt.1 p.grid.attachAt.2) sending gridAttached grid
  receives : p.rx.isis.addTo gridAttached p.rx.port = .ok receiving
  attachesRing : p.ring.builder.Attaches p.ring.attachTo (.station p.ring.attachAt) receiving
    ringAttached ring

/-- All steps of a scenario that is built: after the wiring, the flow and what is expected are read
off the nodes. -/
structure Steps (p : Parameters) extends Wiring p where
  source : Node
  target : Node
  sourceRoute : String × String
  targetRoute : String × String
  gridProbe : Node
  ringProbe : Node
  atSource : grid.nodeAt (.cell p.flow.source.1 p.flow.source.2) = .ok source
  atTarget : ring.nodeAt (.station p.flow.target) = .ok target
  fromSource : firstV4Route ringAttached source.name = .ok sourceRoute
  toTarget : firstV4Route ringAttached target.name = .ok targetRoute
  atGridProbe : grid.nodeAt (.cell p.grid.probe.1 p.grid.probe.2) = .ok gridProbe
  atRingProbe : ring.nodeAt (.station p.ring.probe) = .ok ringProbe

section Steps

variable {p : Parameters}

/-- The name of the flow. -/
def Steps.flowName (s : Steps p) : String :=
  "IPv4 " ++ s.source.name ++ "-> " ++ s.target.name

/-- The flow is added last. -/
def Steps.result (s : Steps p) : Result where
  config := s.ringAttached.addFlow (makeFlow p s.flowName s.sourceRoute s.targetRoute)
  grid := s.grid
  ring := s.ring
  flow := s.flowName
  expectedLspIds := [s.gridProbe.lspId, s.ringProbe.lspId]

/-- Building a scenario is making all its steps. -/
theorem build_eq_ok_iff {result : Result} :
    p.build = .ok result ↔ ∃ s : Steps p, result = s.result := by
  simp only [Parameters.build, bind_eq_ok_iff, liftTopology_eq_ok_iff, liftConfig_eq_ok_iff]
  constructor
  · rintro ⟨c₁, sends, ⟨c₂, bareGrid⟩, builtGrid, ⟨c₃, grid, x⟩, joinsGrid, c₄, receives,
      ⟨c₅, bareRing⟩, builtRing, ⟨c₆, ring, y⟩, joinsRing, source, atSource, target, atTarget,
      sourceRoute, fromSource, targetRoute, toTarget, gridProbe, atGridProbe, ringProbe,
      atRingProbe, made⟩
    cases made
    let wiring : Wiring p := ⟨c₁, c₃, grid, c₄, c₆, ring, sends, ⟨c₂, bareGrid, x, builtGrid,
      joinsGrid⟩, receives, ⟨c₅, bareRing, y, builtRing, joinsRing⟩⟩
    exact ⟨⟨wiring, source, target, sourceRoute, targetRoute, gridProbe, ringProbe, atSource,
      atTarget, fromSource, toTarget, atGridProbe, atRingProbe⟩, rfl⟩
  · rintro ⟨s, rfl⟩
    obtain ⟨c₂, bareGrid, x, builtGrid, joinsGrid⟩ := s.attachesGrid
    obtain ⟨c₅, bareRing, y, builtRing, joinsRing⟩ := s.attachesRing
    exact ⟨_, s.sends, _, builtGrid, _, joinsGrid, _, s.receives, _, builtRing, _, joinsRing, _,
      s.atSource, _, s.atTarget, _, s.fromSource, _, s.toTarget, _, s.atGridProbe, _, s.atRingProbe,
      rfl⟩

namespace Wiring

variable (w : Wiring p)

theorem names_sending : w.sending.devices.map (·.name) = p.hostNames :=
  names_addTo w.sends

theorem gridAdded :
    p.grid.builder.Added p.grid.systemIdOctet w.sending w.gridAttached w.grid := by
  obtain ⟨octet, set, added⟩ := w.attachesGrid.added
  cases set
  exact added

theorem ringAdded :
    p.ring.builder.Added p.ring.systemIdOctet w.receiving w.ringAttached w.ring := by
  obtain ⟨octet, set, added⟩ := w.attachesRing.added
  cases set
  exact added

theorem names_receiving : w.receiving.devices.map (·.name) =
    p.hostNames ++ p.grid.builder.nodeNames p.grid.systemIdOctet := by
  rw [names_addTo w.receives, w.gridAdded.names, w.names_sending]

/-- The routers of the grid are there to the end: none of them is on the receiving host. -/
theorem kept_gridNode {name : String} {r : Router}
    (node : name ∈ p.grid.builder.nodeNames p.grid.systemIdOctet)
    (before : RunsRouter w.gridAttached name r) : RunsRouter w.ringAttached name r := by
  have free := w.attachesGrid.accepts.1.free _ rfl name node
  rw [w.names_sending] at free
  have other : name ≠ p.rx.port.name := by
    rintro rfl
    exact free (List.mem_cons_of_mem _ List.mem_cons_self)
  exact w.ringAdded.kept _ _ (runsRouter_addTo_of_ne w.receives other before)

/-- What is known of a node of the grid at the end. -/
theorem runsRouter_gridNode {position : Position} {n : Node}
    (node : w.grid.nodeAt position = .ok n) :
    ∃ index, w.grid.resolve position = .ok index ∧ index < p.grid.builder.shape.size ∧
      n = plannedNode (p.grid.builder.plan p.grid.systemIdOctet) index
        (p.grid.builder.shape.position index) ∧
      RunsRouter w.ringAttached n.name (plannedRouter (p.grid.builder.plan p.grid.systemIdOctet)
        index (p.grid.builder.shape.position index)) := by
  obtain ⟨index, resolved, bound, same, planned⟩ := w.gridAdded.runsRouter node
  exact ⟨index, resolved, bound, same,
    w.kept_gridNode (w.gridAdded.mem_nodeNames node) planned⟩

/-- Reading nodes and routes off a wired scenario succeeds exactly if the nodes are there and routes
are requested. -/
theorem exists_steps_iff : (∃ s : Steps p, s.toWiring = w) ↔
    (p.grid.builder.shape.Contains (.cell p.flow.source.1 p.flow.source.2) ∧
      p.ring.builder.shape.Contains (.station p.flow.target)) ∧
    (p.grid.v4Routes.isSome = true ∧ p.ring.v4Routes.isSome = true) ∧
    p.grid.builder.shape.Contains (.cell p.grid.probe.1 p.grid.probe.2) ∧
      p.ring.builder.shape.Contains (.station p.ring.probe) := by
  simp only [← w.gridAdded.exists_nodeAt_iff, ← w.ringAdded.exists_nodeAt_iff]
  constructor
  · rintro ⟨s, rfl⟩
    obtain ⟨_, _, _, _, fromGrid⟩ := s.runsRouter_gridNode s.atSource
    obtain ⟨_, _, _, _, fromRing⟩ := s.ringAdded.runsRouter s.atTarget
    exact ⟨⟨⟨_, s.atSource⟩, _, s.atTarget⟩,
      ⟨(exists_firstV4Route_iff fromGrid).mp ⟨_, s.fromSource⟩,
        (exists_firstV4Route_iff fromRing).mp ⟨_, s.toTarget⟩⟩,
      ⟨_, s.atGridProbe⟩, _, s.atRingProbe⟩
  · rintro ⟨⟨⟨source, atSource⟩, target, atTarget⟩, ⟨gridRoutes, ringRoutes⟩,
      ⟨gridProbe, atGridProbe⟩, ringProbe, atRingProbe⟩
    obtain ⟨_, _, _, _, fromGrid⟩ := w.runsRouter_gridNode atSource
    obtain ⟨_, _, _, _, fromRing⟩ := w.ringAdded.runsRouter atTarget
    obtain ⟨sourceRoute, fromSource⟩ := (exists_firstV4Route_iff fromGrid).mpr gridRoutes
    obtain ⟨targetRoute, toTarget⟩ := (exists_firstV4Route_iff fromRing).mpr ringRoutes
    exact ⟨⟨w, source, target, sourceRoute, targetRoute, gridProbe, ringProbe, atSource, atTarget,
      fromSource, toTarget, atGridProbe, atRingProbe⟩, rfl⟩

end Wiring

end Steps

/-! ### Parameters that fit -/

/-- Whether a cell is one of the grid. -/
def GridSection.Contains (s : GridSection) (cell : Nat × Nat) : Prop :=
  cell.1 < s.rows ∧ cell.2 < s.cols

/-- Whether a grid can be built beside devices of the given names, has the cells that are referred
to, and advertises IPv4 routes. -/
structure GridSection.Fits (s : GridSection) (taken : List String) : Prop where
  rows : 2 ≤ s.rows
  cols : 2 ≤ s.cols
  few : s.rows * s.cols ≤ 254
  addressed : s.v4Octet.isSome = true ∨ s.v6Group.isSome = true
  names : ∀ name ∈ s.builder.nodeNames s.systemIdOctet, name ∉ taken
  attachAt : s.Contains s.attachAt
  probe : s.Contains s.probe
  routes : s.v4Routes.isSome = true

/-- Whether a ring can be built beside devices of the given names, has the routers that are referred
to, and advertises IPv4 routes. -/
structure RingSection.Fits (s : RingSection) (taken : List String) : Prop where
  large : 2 ≤ s.nodes
  few : s.nodes ≤ 254
  addressed : s.v4Octet.isSome = true ∨ s.v6Group.isSome = true
  names : ∀ name ∈ s.builder.nodeNames s.systemIdOctet, name ∉ taken
  attachAt : s.attachAt < s.nodes
  probe : s.probe < s.nodes
  routes : s.v4Routes.isSome = true

/-- Whether both topologies fit in beside the hosts, and have the routers at the ends of the flow.
-/
structure Parameters.Fits (p : Parameters) : Prop where
  grid : p.grid.Fits p.hostNames
  ring : p.ring.Fits p.hostNames
  source : p.grid.Contains p.flow.source
  target : p.flow.target < p.ring.nodes

section Fits

variable {p : Parameters}

/-- Positions in a grid and in a ring are written differently. -/
theorem not_mem_gridNames (p : Parameters) :
    ∀ name ∈ p.ring.builder.nodeNames p.ring.systemIdOctet,
      name ∉ p.grid.builder.nodeNames p.grid.systemIdOctet := by
  intro name inRing inGrid
  obtain ⟨ringSite, hring, rfl⟩ := List.mem_map.mp inRing
  obtain ⟨gridSite, hgrid, same⟩ := List.mem_map.mp inGrid
  obtain ⟨k, _, rfl⟩ := List.mem_map.mp hring
  obtain ⟨l, _, rfl⟩ := List.mem_map.mp hgrid
  exact nomatch (nodeName_inj same).2.2

/-- Whatever is attached where, parameters of a scenario that is built fit. -/
theorem Steps.fits (s : Steps p) : p.Fits := by
  obtain ⟨⟨source, target⟩, ⟨gridRoutes, ringRoutes⟩, gridProbe, ringProbe⟩ :=
    s.toWiring.exists_steps_iff.mp ⟨s, rfl⟩
  obtain ⟨grid, gridAt⟩ := s.attachesGrid.accepts
  obtain ⟨ring, ringAt⟩ := s.attachesRing.accepts
  have gridNames := grid.free _ rfl
  have ringNames := ring.free _ rfl
  rw [s.names_sending] at gridNames
  rw [s.names_receiving] at ringNames
  exact
    { grid := ⟨grid.large.1, grid.large.2, grid.few, grid.addressed, gridNames, gridAt, gridProbe,
        gridRoutes⟩
      ring := ⟨ring.large, ring.few, ring.addressed,
        fun name member taken => ringNames name member (List.mem_append_left _ taken), ringAt,
        ringProbe, ringRoutes⟩
      source, target }

theorem GridSection.Fits.accepts {s : GridSection} {taken : List String} {c : Config}
    (h : s.Fits taken)
    (free : ∀ name ∈ s.builder.nodeNames s.systemIdOctet, name ∉ c.devices.map (·.name)) :
    s.builder.Accepts c := by
  refine ⟨⟨h.rows, h.cols⟩, h.few, rfl, h.addressed, ?_⟩
  intro octet set
  cases set
  exact free

theorem RingSection.Fits.accepts {s : RingSection} {taken : List String} {c : Config}
    (h : s.Fits taken)
    (free : ∀ name ∈ s.builder.nodeNames s.systemIdOctet, name ∉ c.devices.map (·.name)) :
    s.builder.Accepts c := by
  refine ⟨h.large, h.few, rfl, h.addressed, ?_⟩
  intro octet set
  cases set
  exact free

/-- If the grid is attached to the sending host and the ring to the receiving one, a scenario can be
wired from parameters that fit. -/
theorem exists_wiring (grid : p.grid.attachTo = p.tx.port.name)
    (ring : p.ring.attachTo = p.rx.port.name) (h : p.Fits) : Nonempty (Wiring p) := by
  obtain ⟨c₁, sends⟩ : ∃ c₁, p.tx.isis.addTo p.hosts p.tx.port = .ok c₁ :=
    exists_addTo_iff.mpr List.mem_cons_self
  have names₁ : c₁.devices.map (·.name) = p.hostNames := names_addTo sends
  have gridAccepts : p.grid.builder.Accepts c₁ := h.grid.accepts (names₁ ▸ h.grid.names)
  obtain ⟨c₂, t, attachesGrid⟩ : ∃ c₂ t, p.grid.builder.Attaches p.tx.port.name
      (.cell p.grid.attachAt.1 p.grid.attachAt.2) c₁ c₂ t :=
    (Builder.exists_attaches_iff (runsRouter_addTo sends)).mpr ⟨gridAccepts, h.grid.attachAt⟩
  obtain ⟨octet, set, gridAdded⟩ := attachesGrid.added
  cases set
  have names₂ := gridAdded.names
  rw [names₁] at names₂
  obtain ⟨c₃, receives⟩ : ∃ c₃, p.rx.isis.addTo c₂ p.rx.port = .ok c₃ := by
    refine exists_addTo_iff.mpr (names₂ ▸ List.mem_append_left _ ?_)
    exact List.mem_cons_of_mem _ List.mem_cons_self
  have ringAccepts : p.ring.builder.Accepts c₃ := by
    refine h.ring.accepts fun name member used => ?_
    rw [names_addTo receives, names₂] at used
    rcases List.mem_append.mp used with host | node
    · exact h.ring.names name member host
    · exact not_mem_gridNames p name member node
  obtain ⟨c₄, u, attachesRing⟩ : ∃ c₄ u, p.ring.builder.Attaches p.rx.port.name
      (.station p.ring.attachAt) c₃ c₄ u :=
    (Builder.exists_attaches_iff (runsRouter_addTo receives)).mpr ⟨ringAccepts, h.ring.attachAt⟩
  exact ⟨⟨c₁, c₂, t, c₃, c₄, u, sends, grid.symm ▸ attachesGrid, receives,
    ring.symm ▸ attachesRing⟩⟩

/-- When building succeeds. -/
theorem exists_build_iff (grid : p.grid.attachTo = p.tx.port.name)
    (ring : p.ring.attachTo = p.rx.port.name) : (∃ result, p.build = .ok result) ↔ p.Fits := by
  constructor
  · rintro ⟨result, built⟩
    obtain ⟨s, _⟩ := build_eq_ok_iff.mp built
    exact s.fits
  · intro h
    obtain ⟨w⟩ := exists_wiring grid ring h
    obtain ⟨s, _⟩ := w.exists_steps_iff.mpr ⟨⟨h.source, h.target⟩, ⟨h.grid.routes, h.ring.routes⟩,
      h.grid.probe, h.ring.probe⟩
    exact ⟨s.result, build_eq_ok_iff.mpr ⟨s, rfl⟩⟩

end Fits

end IsisTestbed.Scenario
