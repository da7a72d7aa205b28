import IsisTestbed.Topology.Wiring

/-!
Generating a topology. A builder holds its parameters; `Builder.build` adds all routers and links to
a configuration. They are added one by one and nothing is taken back, so what is left behind after a
failure is part of the outcome of `Builder.buildInPlace`.
-/

namespace IsisTestbed

/-- The parameters of a topology. Routes of a family are advertised only if they are set. -/
structure Builder where
  shape : Shape
  systemIdOctet : Option UInt8 := none
  addressing : LinkAddressing := {}
  v4Routes : Option V4Routes := none
  v6Routes : Option V6Routes := none
  deriving DecidableEq, Repr, Inhabited

namespace Shape

/-- The number of nodes. -/
def size : Shape → Nat
  | .grid rows cols => rows * cols
  | .ring nodes => nodes

/-- Where the node of a number stands. -/
def position : Shape → Nat → Position
  | .grid _ cols, index => .cell (index / cols) (index % cols)
  | .ring _, index => .station index

/-- The nodes to which a node is linked at its creation, as pairs of numbers. -/
def edgesFrom : Shape → Nat → List (Nat × Nat)
  | .grid rows cols, index =>
    (if index % cols + 1 < cols then [(index, index + 1)] else []) ++
      (if index / cols + 1 < rows then [(index, index + cols)] else [])
  | .ring nodes, index => [(index, (index + 1) % nodes)]

/-- All pairs of linked nodes, in the order of their creation. -/
def edges (s : Shape) : List (Nat × Nat) :=
  (List.range s.size).flatMap s.edgesFrom

/-- Fails for a shape with too few or too many nodes. The reported number of nodes has at most 64
bits. -/
def check : Shape → Except TopologyError Unit
  | .grid rows cols =>
    if rows < 2 ∨ cols < 2 then .error (.gridTooSmall rows cols)
    else if maxNodes < rows * cols then
      .error (.tooManyNodes (min (rows * cols) (UInt64.size - 1)))
    else .ok ()
  | .ring nodes =>
    if nodes < 2 then .error (.ringTooSmall nodes)
    else if maxNodes < nodes then .error (.tooManyNodes nodes)
    else .ok ()

end Shape

namespace Topology

/-! ### Routers -/

/-- What the routers of a topology have in common. -/
structure RouterPlan where
  systemIdOctet : UInt8
  v4Routes : Option V4Routes
  v6Routes : Option V6Routes
  deriving DecidableEq, Repr, Inhabited

/-- The text of a position in the names of devices. -/
def positionText : Position → String
  | .cell row col => Text.number row ++ "." ++ Text.number col
  | .station index => Text.number index

/-- The name of the device of a node. -/
def nodeName (systemIdOctet : UInt8) (index : Nat) (p : Position) : String :=
  "T" ++ Text.hexPadded 2 systemIdOctet.toNat ++ "d" ++ Text.number (index + 1) ++ ".sim." ++
    positionText p

/-- The system id of a node, given its number from 1. -/
def nodeSystemId (systemIdOctet k : UInt8) : String :=
  Text.hexPadded 2 systemIdOctet.toNat ++ "00000000" ++ Text.hexPadded 2 k.toNat

/-- The traffic-engineering router id of a node. -/
def teRouterId : Position → Except TopologyError Ipv4
  | .cell row col => do return ⟨10, 10, ← octet row, ← octet col⟩
  | .station index => do return ⟨10, 10, 0, ← octet index⟩

/-- The first IPv4 address that a node advertises. -/
def v4RouteAddress (first : UInt8) : Position → Except TopologyError Ipv4
  | .cell row col => do return ⟨first, ← octet (row + 1), ← octet (col + 1), 0⟩
  | .station index => do return ⟨first, 0, ← octet (index + 1), 0⟩

/-- The text from which the first IPv6 address of a node is read; the position is written in
decimal. -/
def v6RouteText (first : UInt16) : Position → String
  | .cell row col =>
    String.ofList (Text.hex first.toNat) ++ "::" ++ Text.number (row + 1) ++ ":" ++
      Text.number (col + 1) ++ ":0"
  | .station index =>
    String.ofList (Text.hex first.toNat) ++ "::" ++ Text.number (index + 1) ++ ":0"

/-- A route range of a simulated router. -/
def simulatedRoute (name address : String) (prefixLength : UInt8) (count : UInt32) :
    RouteRange where
  name := name
  addresses := [{ address, prefixLength := some prefixLength, count := some count }]
  metric := some 10
  origin := some .internal

/-- The IPv4 routes of a node. -/
def v4RouteRanges (routes : Option V4Routes) (router : String) (p : Position) :
    Except TopologyError (List RouteRange) :=
  match routes with
  | none => .ok []
  | some r => do
    let address ← v4RouteAddress r.firstOctet p
    return [simulatedRoute (router ++ ".isis.v4routes") address.text r.prefixLength r.count]

/-- The IPv6 routes of a node. -/
def v6RouteRanges (routes : Option V6Routes) (router : String) (p : Position) :
    Except TopologyError (List RouteRange) :=
  match routes with
  | none => .ok []
  | some r => do
    let address ← assembledIpv6 (v6RouteText r.firstGroup p)
    return [simulatedRoute (router ++ ".isis.v6routes") address.text r.prefixLength r.count]

/-- The node of a number at a position, and its device without links. The octet holds the number
from 1. -/
def makeNode (plan : RouterPlan) (k : UInt8) (index : Nat) (p : Position) :
    Except TopologyError (Node × Device) := do
  let node : Node := ⟨nodeName plan.systemIdOctet index p, nodeSystemId plan.systemIdOctet k, p⟩
  let id ← teRouterId p
  let v4Routes ← v4RouteRanges plan.v4Routes node.routerName p
  let v6Routes ← v6RouteRanges plan.v6Routes node.routerName p
  let router : Router :=
    { name := node.routerName
      systemId := node.systemId
      basics := some
        { teRouterId := some id.text, hostname := some node.name, wideMetric := some true }
      v4Routes
      v6Routes }
  return (node, { name := node.name, isis := some router })

/-- Fails if a device of the configuration has the name. -/
def requireFree (c : Config) (name : String) : Except TopologyError Unit :=
  match c.deviceIndex name with
  | .ok _ => .error (.nameInUse name)
  | .error _ => .ok ()

/-- Adds the device of a node. -/
def addNode (plan : RouterPlan) (c : Config) (index : Nat) (p : Position) :
    Except TopologyError (Config × Node) := do
  let k ← octet (index + 1)
  requireFree c (nodeName plan.systemIdOctet index p)
  let (node, device) ← makeNode plan k index p
  return (c.addDevice device, node)

/-- Adds the devices of nodes in order. Those added before a failure stay. -/
def addNodes (plan : RouterPlan) (c : Config) :
    List (Nat × Position) → Config × Except TopologyError (List Node)
  | [] => (c, .ok [])
  | (index, p) :: rest =>
    match addNode plan c index p with
    | .error e => (c, .error e)
    | .ok (c, node) =>
      let (c, nodes) := addNodes plan c rest
      (c, nodes.map (node :: ·))

/-! ### Links -/

/-- Links two nodes of a topology. -/
def addEdge (t : Topology) (c : Config) (a b : Nat) : Except TopologyError (Config × Edge) := do
  let deviceA ← TopologyError.lift (c.deviceIndex (← t.node a).name)
  let deviceB ← TopologyError.lift (c.deviceIndex (← t.node b).name)
  let (c, link) ← connectDevices c deviceA deviceB a b t.addressing
  return (c, ⟨a, b, link⟩)

/-- Links pairs of nodes in order. Links made before a failure stay. -/
def addEdges (t : Topology) (c : Config) :
    List (Nat × Nat) → Config × Except TopologyError (List Edge)
  | [] => (c, .ok [])
  | (a, b) :: rest =>
    match addEdge t c a b with
    | .error e => (c, .error e)
    | .ok (c, edge) =>
      let (c, edges) := addEdges t c rest
      (c, edges.map (edge :: ·))

end Topology

namespace Builder

open IsisTestbed.Topology

/-- The nodes to be created, each with its position. -/
def sites (b : Builder) : List (Nat × Position) :=
  (List.range b.shape.size).map fun index => (index, b.shape.position index)

/-- The plan of the routers. -/
def plan (b : Builder) (systemIdOctet : UInt8) : RouterPlan :=
  ⟨systemIdOctet, b.v4Routes, b.v6Routes⟩

/-- Fails at the first node whose name is in use. -/
def checkNames (c : Config) (systemIdOctet : UInt8) :
    List (Nat × Position) → Except TopologyError Unit
  | [] => .ok ()
  | (index, p) :: rest => do
    requireFree c (nodeName systemIdOctet index p)
    checkNames c systemIdOctet rest

/-- What is checked before anything is added. Gives the first octet of the system ids. -/
def check (b : Builder) (c : Config) : Except TopologyError UInt8 := do
  b.shape.check
  let some systemIdOctet := b.systemIdOctet | throw .missingSystemId
  if b.addressing.isEmpty then throw .noLinkAddressing
  checkNames c systemIdOctet b.sites
  return systemIdOctet

/-- Adds the routers and links of a topology to a configuration. Gives the configuration that is
left behind, after a failure too, and the topology. -/
def buildInPlace (b : Builder) (c : Config) : Config × Except TopologyError Topology :=
  match b.check c with
  | .error e => (c, .error e)
  | .ok systemIdOctet =>
    match addNodes (b.plan systemIdOctet) c b.sites with
    | (c, .error e) => (c, .error e)
    | (c, .ok nodes) =>
      let bare : Topology := { shape := b.shape, addressing := b.addressing, nodes }
      let (c, edges) := addEdges bare c b.shape.edges
      (c, edges.map fun edges => { bare with edges })

/-- The configuration with the routers and links of a topology, and the topology. -/
def build (b : Builder) (c : Config) : Except TopologyError (Config × Topology) :=
  let (c, outcome) := b.buildInPlace c
  outcome.map fun t => (c, t)

end Builder

end IsisTestbed
