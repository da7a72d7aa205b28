import IsisTestbed.Scenario.Parameters

/-!
The configuration of the back-to-back scenario.
-/

namespace IsisTestbed.Scenario

/-- Why a scenario cannot be read or built. -/
inductive ScenarioError where
  /-- TOML text cannot be read as parameters. -/
  | toml
  /-- A file cannot be read. -/
  | file
  /-- A simulated router at an end of the flow does not advertise IPv4 routes. -/
  | noRoutes (router : String)
  | topology (cause : TopologyError)
  | config (cause : ConfigError)
  deriving DecidableEq, Repr, Inhabited

/-- The message of a failure, unless its cause has none. -/
def ScenarioError.message? : ScenarioError → Option String
  | .toml => none
  | .file => none
  | .noRoutes router =>
    some ("Simulated router " ++ router ++ " does not advertise any IPv4 route")
  | .topology cause => cause.message?
  | .config cause => cause.message?

/-- Failures of topologies are failures of the scenario. -/
def liftTopology {α : Type} : Except TopologyError α → Except ScenarioError α
  | .ok x => .ok x
  | .error cause => .error (.topology cause)

/-- Failures of configurations are failures of the scenario. -/
def liftConfig {α : Type} : Except ConfigError α → Except ScenarioError α
  | .ok x => .ok x
  | .error cause => .error (.config cause)

/-! ### Emulated routers -/

/-- The name of the ethernet of a device at a test port. -/
def PortDevice.ethernetName (p : PortDevice) : String :=
  p.name ++ ".Eth"

/-- The name of the address object of a device at a test port. -/
def PortDevice.addressName (p : PortDevice) : String :=
  p.name ++ ".IPv4"

/-- The device without its router. -/
def PortDevice.device (p : PortDevice) : Device where
  name := p.name
  ethernets :=
    [{ name := p.ethernetName
       mac := p.mac
       connection := some (.port p.port)
       ipv4 := [⟨p.addressName, p.network.address.text, p.gateway.text, p.network.prefixLength⟩] }]

/-- Adds the test port and the device. -/
def PortDevice.addTo (p : PortDevice) (c : Config) : Config :=
  (c.addPort { name := p.port }).addDevice p.device

/-- The router of a device at a test port, running on its ethernet. -/
def EmulatedIsis.router (i : EmulatedIsis) (p : PortDevice) : Router where
  name := i.name
  systemId := i.systemId
  basics := some
    { teRouterId := some p.network.address.text
      hostname := some i.name
      wideMetric := some true
      learnedLspFilter := some true }
  advanced := some
    { areaAddresses := [i.areaAddress]
      lspRefreshRate := some i.lspRefreshRate
      attachedBit := some false }
  interfaces :=
    [{ name := i.interface
       ethernet := p.ethernetName
       metric := some i.metric
       networkType := some .pointToPoint
       levelType := some .level12
       trafficEngineering := [⟨none, some {}⟩]
       advanced := some ⟨some true, some true, some true⟩ }]
  v4Routes :=
    [{ name := i.routeName
       addresses :=
         [{ address := i.route.address.text
            prefixLength := some i.route.prefixLength
            count := some i.routeCount
            step := some 1 }]
       metric := some i.metric }]

/-- Puts the router onto the first device of the name. -/
def EmulatedIsis.addTo (i : EmulatedIsis) (c : Config) (p : PortDevice) :
    Except ConfigError Config :=
  c.updateDevice p.name fun d => d.withRouter (some (i.router p))

/-! ### The scenario -/

/-- A complete scenario. -/
structure Result where
  config : Config
  grid : Topology
  ring : Topology
  /-- The name of the flow. -/
  flow : String
  /-- The LSP ids that the emulated routers must learn. -/
  expectedLspIds : List String

/-- The name and the first address of the first IPv4 route range of a device. -/
def firstV4Route (c : Config) (device : String) : Except ScenarioError (String × String) := do
  let d ← liftConfig (c.device device)
  let found := do
    let router ← d.isis
    let range ← router.v4Routes.head?
    some (range.name, ← range.firstAddress?)
  match found with
  | some route => return route
  | none => throw (.noRoutes device)

/-- The flow between two route ranges, given with their first addresses. -/
def makeFlow (p : Parameters) (name : String) (source target : String × String) : Flow where
  name := name
  endpoints := .devices [source.1] [target.1]
  packet :=
    [⟨.ethernet, some (.value p.tx.port.mac), some .auto⟩,
      ⟨.ipv4, some (.value source.2), some (.value target.2)⟩]
  rate := some (.packetsPerSecond p.flow.pps)
  duration := some { packets := p.flow.packets }
  metrics := some { enable := true }

/-- Builds the configuration: both ports, then each emulated router with the topology behind it, and
last the flow. -/
def Parameters.build (p : Parameters) : Except ScenarioError Result := do
  let c := p.rx.port.addTo (p.tx.port.addTo {})
  let c ← liftConfig (p.tx.isis.addTo c p.tx.port)
  let (c, grid) ← liftTopology (p.grid.builder.build c)
  let (c, grid, _) ← liftTopology
    (grid.connect c p.grid.attachTo (.cell p.grid.attachAt.1 p.grid.attachAt.2))
  let c ← liftConfig (p.rx.isis.addTo c p.rx.port)
  let (c, ring) ← liftTopology (p.ring.builder.build c)
  let (c, ring, _) ← liftTopology (ring.connect c p.ring.attachTo (.station p.ring.attachAt))
  let source ← liftTopology (grid.nodeAt (.cell p.flow.source.1 p.flow.source.2))
  let target ← liftTopology (ring.nodeAt (.station p.flow.target))
  let sourceRoute ← firstV4Route c source.name
  let targetRoute ← firstV4Route c target.name
  let name := "IPv4 " ++ source.name ++ "-> " ++ target.name
  let c := c.addFlow (makeFlow p name sourceRoute targetRoute)
  let gridProbe ← liftTopology (grid.nodeAt (.cell p.grid.probe.1 p.grid.probe.2))
  let ringProbe ← liftTopology (ring.nodeAt (.station p.ring.probe))
  return { config := c, grid, ring, flow := name
           expectedLspIds := [gridProbe.lspId, ringProbe.lspId] }

end IsisTestbed.Scenario
