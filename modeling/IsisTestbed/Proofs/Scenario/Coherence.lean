import IsisTestbed.Proofs.Scenario.Faults
import IsisTestbed.Proofs.Telemetry.Emulation

/-!
What a scenario says of its configuration. The flow goes between the routes that its two nodes
advertise there, the expected LSPs are those of the routers that it has for the probes, and the
emulated routers are those at the test ports. A report in which both have learned the LSPs of all
nodes therefore passes the check.
-/

namespace IsisTestbed.Scenario

open IsisTestbed.Topology IsisTestbed.Telemetry

/-! ### Emulated routers -/

/-- Whether the first two devices are emulated, with routers of the given names, and all others are
simulated. -/
def StartsWithHosts (c : Config) (sending receiving : Option String) : Prop :=
  ∃ simulated : List (Option String),
    c.kinds = (true, sending) :: (true, receiving) :: simulated.map fun name => (false, name)

section Hosts

variable {p : Parameters} {c c' : Config} {i : EmulatedIsis} {host : PortDevice}
  {sending receiving : Option String} {first second : String} {later : List String}

theorem emulatedRouters_of_startsWithHosts
    (h : StartsWithHosts c (some first) (some second)) : emulatedRouters c = [first, second] := by
  obtain ⟨simulated, kinds⟩ := h
  simp [emulatedRouters_eq, kinds, filter_simulated]

/-- Changing one entry of a list changes one entry of its image. -/
theorem map_modify_eq_modify_map {α β : Type} {l : List α} {f : α → β} {g : α → α} {h : β → β}
    (same : ∀ x, f (g x) = h (f x)) (k : Nat) : (l.modify k g).map f = (l.map f).modify k h := by
  apply List.ext_getElem?
  intro j
  by_cases atK : k = j
  · cases entry : l[j]? <;> simp [atK, entry, same]
  · cases entry : l[j]? <;> simp [atK, entry]

/-- A router that is put onto a device does not change whether it is emulated. -/
theorem kinds_addTo (h : i.addTo c host = .ok c') :
    ∃ k, (c.devices.map (·.name)).findIdx? (· == host.name) = some k ∧
      c'.kinds = c.kinds.modify k fun kind => (kind.1, some i.name) := by
  obtain ⟨k, index, rfl⟩ := addTo_eq_ok_iff.mp h
  refine ⟨k, ?_, ?_⟩
  · rw [List.findIdx?_map]
    exact Config.deviceIndex_eq_ok_iff.mp index
  · simp only [Config.kinds, Config.devices_modifyDevice]
    refine map_modify_eq_modify_map ?_ k
    intro d
    rfl

theorem StartsWithHosts.addTo_first (h : StartsWithHosts c sending receiving)
    (names : c.devices.map (·.name) = host.name :: later) (added : i.addTo c host = .ok c') :
    StartsWithHosts c' (some i.name) receiving := by
  obtain ⟨simulated, kinds⟩ := h
  obtain ⟨k, index, changed⟩ := kinds_addTo added
  obtain rfl : 0 = k := by simpa [names, List.findIdx?_cons] using index
  exact ⟨simulated, by rw [changed, kinds]; rfl⟩

theorem StartsWithHosts.addTo_second (h : StartsWithHosts c sending receiving)
    (names : c.devices.map (·.name) = first :: host.name :: later) (other : first ≠ host.name)
    (added : i.addTo c host = .ok c') : StartsWithHosts c' sending (some i.name) := by
  obtain ⟨simulated, kinds⟩ := h
  obtain ⟨k, index, changed⟩ := kinds_addTo added
  obtain rfl : 1 = k := by simpa [names, List.findIdx?_cons, other] using index
  exact ⟨simulated, by rw [changed, kinds]; rfl⟩

/-- Topologies come behind the hosts, and attaching them to any device does not make it a host. -/
theorem StartsWithHosts.attaches {b : Builder} {device : String} {position : Position}
    {t : Topology} (h : StartsWithHosts c sending receiving)
    (attached : b.Attaches device position c c' t) : StartsWithHosts c' sending receiving := by
  apply attached.keeps (P := fun c => StartsWithHosts c sending receiving)
  · intro octet _ _
    obtain ⟨simulated, kinds⟩ := h
    rw [StartsWithHosts, kinds_withNodes, kinds, List.cons_append, List.cons_append,
      ← List.map_append]
    exact ⟨_, rfl⟩
  · intro c c' i j m n nameA nameB addressing link before _ _ made
    rw [StartsWithHosts, kinds_of_connectDevices made]
    exact before

/-- The emulated routers of a wired scenario are those at its test ports. -/
theorem Wiring.emulatedRouters_eq (w : Wiring p) (hosts : p.tx.port.name ≠ p.rx.port.name) :
    emulatedRouters w.ringAttached = [p.tx.isis.name, p.rx.isis.name] := by
  have start : StartsWithHosts p.hosts none none := ⟨[], rfl⟩
  have sending : StartsWithHosts w.sending (some p.tx.isis.name) none :=
    start.addTo_first rfl w.sends
  have names : w.gridAttached.devices.map (·.name) = p.tx.port.name :: p.rx.port.name ::
      p.grid.builder.nodeNames p.grid.systemIdOctet := by
    rw [w.gridAdded.names, w.names_sending]
    rfl
  have receiving : StartsWithHosts w.receiving (some p.tx.isis.name) (some p.rx.isis.name) :=
    (sending.attaches w.attachesGrid).addTo_second names hosts w.receives
  exact emulatedRouters_of_startsWithHosts (receiving.attaches w.attachesRing)

end Hosts

/-! ### Routes and probes -/

section Nodes

variable {t : Topology} {row col rows cols nodes station index : Nat} {first : UInt8}

/-- The node that is found at a cell was placed there. -/
theorem position_of_resolve_cell (h : t.resolve (.cell row col) = .ok index) :
    t.shape.position index = .cell row col := by
  cases shape : t.shape with
  | ring nodes =>
    rw [Topology.resolve, Topology.nodeIndex_ring shape] at h
    cases h
  | grid rows cols =>
    rw [Topology.resolve, Topology.nodeIndex_grid shape] at h
    by_cases inside : row < rows ∧ col < cols
    · rw [if_pos inside] at h
      cases h
      have quotient : (row * cols + col) / cols = row := by
        rw [Nat.add_comm, Nat.add_mul_div_right _ _ (by omega), Nat.div_eq_of_lt inside.2]
        omega
      have remainder : (row * cols + col) % cols = col := by
        rw [Nat.add_comm, Nat.add_mul_mod_self_right, Nat.mod_eq_of_lt inside.2]
      rw [Shape.position, quotient, remainder]
    · rw [if_neg inside] at h
      cases h

theorem text_v4Route_cell (h : InRange (.cell row col)) :
    (plannedV4Route first (.cell row col)).text = Text.number first.toNat ++ "." ++
      Text.number (row + 1) ++ "." ++ Text.number (col + 1) ++ ".0" := by
  obtain ⟨rowBound, colBound⟩ : row < 254 ∧ col < 254 := h
  have rowOctet : (UInt8.ofNat (row + 1)).toNat = row + 1 :=
    UInt8.toNat_ofNat_of_lt' (by simp [UInt8.size]; omega)
  have colOctet : (UInt8.ofNat (col + 1)).toNat = col + 1 :=
    UInt8.toNat_ofNat_of_lt' (by simp [UInt8.size]; omega)
  have zero : Text.number (UInt8.toNat 0) = "0" := rfl
  have last : "." ++ "0" = ".0" := rfl
  simp only [plannedV4Route, Ipv4.text, rowOctet, colOctet, zero, String.append_assoc, last]

theorem text_v4Route_station (h : InRange (.station station)) :
    (plannedV4Route first (.station station)).text = Text.number first.toNat ++ ".0." ++
      Text.number (station + 1) ++ ".0" := by
  have bound : station < 254 := h
  have octet : (UInt8.ofNat (station + 1)).toNat = station + 1 :=
    UInt8.toNat_ofNat_of_lt' (by simp [UInt8.size]; omega)
  have zero : Text.number (UInt8.toNat 0) = "0" := rfl
  have last : "." ++ "0" = ".0" := rfl
  have middle (rest : String) : ".0" ++ ("." ++ rest) = ".0." ++ rest := by
    rw [← String.append_assoc]
    rfl
  simp only [plannedV4Route, Ipv4.text, octet, zero, String.append_assoc, last, middle]

end Nodes

/-- Whether the device of a node advertises a single range of IPv4 routes. -/
def AdvertisesOnly (c : Config) (n : Node) (range : RouteRange) : Prop :=
  ∃ d r, c.device n.name = .ok d ∧ d.isis = some r ∧ r.v4Routes = [range]

/-- Whether an LSP id is that of the router on the device of a node. -/
def OriginatesLsp (c : Config) (n : Node) (id : String) : Prop :=
  ∃ d r, c.device n.name = .ok d ∧ d.isis = some r ∧ r.lspId = id

/-- Whether a flow goes from the routes of a node of the grid to those of a node of the ring, from
and to their first addresses. -/
structure Parameters.Sends (p : Parameters) (c : Config) (source target : Node) (flow : Flow) :
    Prop where
  routes : ∃ gridRoutes ringRoutes sourceRange targetRange,
    p.grid.v4Routes = some gridRoutes ∧ p.ring.v4Routes = some ringRoutes ∧
    AdvertisesOnly c source sourceRange ∧ AdvertisesOnly c target targetRange ∧
    flow.endpoints = .devices [sourceRange.name] [targetRange.name] ∧
    sourceRange.firstAddress? = some (Text.number gridRoutes.firstOctet.toNat ++ "." ++
      Text.number (p.flow.source.1 + 1) ++ "." ++ Text.number (p.flow.source.2 + 1) ++ ".0") ∧
    targetRange.firstAddress? = some (Text.number ringRoutes.firstOctet.toNat ++ ".0." ++
      Text.number (p.flow.target + 1) ++ ".0") ∧
    flow.packet.filter (·.protocol = .ipv4) =
      [⟨.ipv4, sourceRange.firstAddress?.map .value, targetRange.firstAddress?.map .value⟩]

/-- Whether what a result says of its configuration is so: its only flow, the expected LSPs, and the
routers that must learn them. -/
structure Parameters.Describes (p : Parameters) (result : Result) : Prop where
  flow : ∃ source target flow,
    result.grid.nodeAt (.cell p.flow.source.1 p.flow.source.2) = .ok source ∧
    result.ring.nodeAt (.station p.flow.target) = .ok target ∧
    result.config.flows = [flow] ∧ result.config.flow? result.flow = some flow ∧
    p.Sends result.config source target flow
  probes : ∃ gridProbe ringProbe gridId ringId,
    result.grid.nodeAt (.cell p.grid.probe.1 p.grid.probe.2) = .ok gridProbe ∧
    result.ring.nodeAt (.station p.ring.probe) = .ok ringProbe ∧
    OriginatesLsp result.config gridProbe gridId ∧ OriginatesLsp result.config ringProbe ringId ∧
    result.expectedLspIds = [gridId, ringId]
  emulated : emulatedRouters result.config = [p.tx.isis.name, p.rx.isis.name]
  learned : ∀ m : Metrics, (∀ name ∈ [p.tx.isis.name, p.rx.isis.name], ∃ state,
      m.lsps? name = some state ∧ ∀ id ∈ result.grid.lspIds ++ result.ring.lspIds,
        id ∈ state.lspIds) →
    checkLsps result.config m result.expectedLspIds = []

section Whole

variable {p : Parameters} {c : Config} {result : Result} {n : Node} {b : Builder} {octet : UInt8}
  {index : Nat} {position : Position} {route : String × String}

theorem originatesLsp_of_runsRouter (planned : n = plannedNode (b.plan octet) index position)
    (h : RunsRouter c n.name (plannedRouter (b.plan octet) index position)) :
    OriginatesLsp c n n.lspId := by
  obtain ⟨d, interfaces, found, runs⟩ := h
  exact ⟨d, _, found, runs, by rw [planned]; rfl⟩

/-- The first route of a planned router is its only one. -/
theorem advertisesOnly_of_firstV4Route
    (h : RunsRouter c n.name (plannedRouter (b.plan octet) index position))
    (first : firstV4Route c n.name = .ok route) : ∃ routes range, b.v4Routes = some routes ∧
      AdvertisesOnly c n range ∧ range.name = route.1 ∧ range.firstAddress? = some route.2 ∧
      route.2 = (plannedV4Route routes.firstOctet position).text := by
  obtain ⟨routes, requested, rfl⟩ := (firstV4Route_eq_ok_iff h).mp first
  obtain ⟨d, interfaces, found, runs⟩ := h
  have plan : (b.plan octet).v4Routes = some routes := requested
  let range := simulatedRoute ((plannedNode (b.plan octet) index position).routerName ++
    ".isis.v4routes") (plannedV4Route routes.firstOctet position).text routes.prefixLength
    routes.count
  have sole : (plannedRouter (b.plan octet) index position).v4Routes = [range] := by
    simp only [plannedRouter, plan, Option.toList_some, List.map_cons, List.map_nil, range]
  exact ⟨routes, range, requested, ⟨d, _, found, runs, sole⟩, rfl, rfl, rfl⟩

theorem lspId_mem_lspIds {t : Topology} (node : t.nodeAt position = .ok n) :
    n.lspId ∈ t.lspIds := by
  obtain ⟨index, _, atIndex⟩ := nodeAt_eq_ok_iff.mp node
  exact List.mem_map.mpr ⟨n, List.mem_of_getElem? atIndex, rfl⟩

/-- Routers that have learned all of some LSPs pass the check for any of them. -/
theorem checkLsps_eq_nil {m : Metrics} {routers expected all : List String}
    (emulated : emulatedRouters c = routers) (listed : expected ⊆ all)
    (learned : ∀ name ∈ routers, ∃ state, m.lsps? name = some state ∧
      ∀ id ∈ all, id ∈ state.lspIds) : checkLsps c m expected = [] := by
  rw [checkLsps, emulated, List.flatMap_eq_nil_iff]
  intro name member
  obtain ⟨state, reported, known⟩ := learned name member
  have nothing : (expected.filter fun lsp => !state.lspIds.contains lsp) = [] := by
    rw [List.filter_eq_nil_iff]
    intro id wanted
    simpa using known id (listed wanted)
  simp only [lspFindings, reported, checkLspIds, nothing, List.map_nil]

namespace Steps

variable (s : Steps p)

/-- What is known of a node of the grid at the end. -/
theorem gridNode {row col : Nat} (node : s.grid.nodeAt (.cell row col) = .ok n) :
    ∃ index, InRange (.cell row col) ∧
      n = plannedNode (p.grid.builder.plan p.grid.systemIdOctet) index (.cell row col) ∧
      RunsRouter s.ringAttached n.name
        (plannedRouter (p.grid.builder.plan p.grid.systemIdOctet) index (.cell row col)) := by
  obtain ⟨index, resolved, bound, planned, router⟩ := s.runsRouter_gridNode node
  have position := position_of_resolve_cell resolved
  rw [s.gridAdded.shape] at position
  have inRange := Shape.position_inRange s.attachesGrid.accepts.1.few bound
  rw [position] at planned router inRange
  exact ⟨index, inRange, planned, router⟩

/-- What is known of a node of the ring at the end. -/
theorem ringNode {station : Nat} (node : s.ring.nodeAt (.station station) = .ok n) :
    ∃ index, InRange (.station station) ∧
      n = plannedNode (p.ring.builder.plan p.ring.systemIdOctet) index (.station station) ∧
      RunsRouter s.ringAttached n.name
        (plannedRouter (p.ring.builder.plan p.ring.systemIdOctet) index (.station station)) := by
  obtain ⟨index, resolved, bound, planned, router⟩ := s.ringAdded.runsRouter node
  cases resolved
  exact ⟨station, Shape.position_inRange s.attachesRing.accepts.1.few bound, planned, router⟩

/-- The flow goes between the routes of its two nodes. -/
theorem sends_flow : p.Sends s.result.config s.source s.target
    (makeFlow p s.flowName s.sourceRoute s.targetRoute) := by
  obtain ⟨_, sourceInRange, _, sourceRouter⟩ := s.gridNode s.atSource
  obtain ⟨_, targetInRange, _, targetRouter⟩ := s.ringNode s.atTarget
  obtain ⟨gridRoutes, sourceRange, gridSet, fromSource, sourceName, sourceFirst, sourceText⟩ :=
    advertisesOnly_of_firstV4Route sourceRouter s.fromSource
  obtain ⟨ringRoutes, targetRange, ringSet, toTarget, targetName, targetFirst, targetText⟩ :=
    advertisesOnly_of_firstV4Route targetRouter s.toTarget
  rw [text_v4Route_cell sourceInRange] at sourceText
  rw [text_v4Route_station targetInRange] at targetText
  refine ⟨gridRoutes, ringRoutes, sourceRange, targetRange, gridSet, ringSet, fromSource, toTarget,
    ?_, ?_, ?_, ?_⟩
  · rw [sourceName, targetName]
    rfl
  · rw [sourceFirst, sourceText]
  · rw [targetFirst, targetText]
  · rw [sourceFirst, targetFirst]
    rfl

end Steps

/-- Whatever the parameters of a scenario are, as long as its two hosts have different names, what
the result says of its configuration is so. The names of the emulated routers need not differ. -/
theorem build_describes (built : p.build = .ok result)
    (hosts : p.tx.port.name ≠ p.rx.port.name) : p.Describes result := by
  obtain ⟨s, rfl⟩ := build_eq_ok_iff.mp built
  obtain ⟨_, _, gridPlanned, gridRouter⟩ := s.gridNode s.atGridProbe
  obtain ⟨_, _, ringPlanned, ringRouter⟩ := s.ringNode s.atRingProbe
  have flows := s.flows_result
  have found : s.result.config.flow? s.result.flow =
      some (makeFlow p s.flowName s.sourceRoute s.targetRoute) := by
    rw [Config.flow?, flows]
    exact List.find?_cons_of_pos (by simp [makeFlow, Steps.result])
  have emulated : emulatedRouters s.result.config = [p.tx.isis.name, p.rx.isis.name] :=
    s.emulatedRouters_eq hosts
  have listed : s.result.expectedLspIds ⊆ s.result.grid.lspIds ++ s.result.ring.lspIds :=
    List.cons_subset.mpr ⟨List.mem_append_left _ (lspId_mem_lspIds s.atGridProbe),
      List.cons_subset.mpr ⟨List.mem_append_right _ (lspId_mem_lspIds s.atRingProbe),
        List.nil_subset _⟩⟩
  exact
    { flow := ⟨s.source, s.target, _, s.atSource, s.atTarget, flows,
        found, s.sends_flow⟩
      probes := ⟨s.gridProbe, s.ringProbe, _, _, s.atGridProbe, s.atRingProbe,
        originatesLsp_of_runsRouter gridPlanned gridRouter,
        originatesLsp_of_runsRouter ringPlanned ringRouter, rfl⟩
      emulated
      learned := fun m learned => checkLsps_eq_nil emulated listed learned }

/-- The reference setup, but with the ring attached to a router of the grid. -/
def chainedParameters : Parameters where
  ring := { defaultRing with attachTo := "T66d1.sim.0.0" }

/-- A router of the grid that is linked to the ring does not count as emulated. -/
theorem build_describes_of_chained :
    chainedParameters.tx.port.name ≠ chainedParameters.rx.port.name ∧
      ∃ result, chainedParameters.build = .ok result ∧ chainedParameters.Describes result := by
  have hosts : chainedParameters.tx.port.name ≠ chainedParameters.rx.port.name := by decide
  have succeeds : chainedParameters.build.toOption.isSome = true := by decide +kernel
  cases built : chainedParameters.build with
  | error e => simp [built, Except.toOption] at succeeds
  | ok result => exact ⟨hosts, result, rfl, build_describes built hosts⟩

end Whole

end IsisTestbed.Scenario
