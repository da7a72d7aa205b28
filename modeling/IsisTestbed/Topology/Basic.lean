import IsisTestbed.Address.Ipv6
import IsisTestbed.Config.Assembly

/-!
Simulated topologies as they were generated: the routers, the links between them, and the emulated
routers that were attached later. The routers of a grid are numbered row by row, those of a ring
around it.
-/

namespace IsisTestbed

/-! ### Parameters -/

/-- How the links of a topology are addressed. In each family the two ends of the link between the
routers numbered `a` and `b` from 1 get addresses that hold the first octet or group and both
numbers. -/
structure LinkAddressing where
  v4Octet : Option UInt8 := none
  v6Group : Option UInt16 := none
  deriving DecidableEq, Repr, Inhabited

/-- Whether no family is addressed. -/
def LinkAddressing.isEmpty (a : LinkAddressing) : Bool :=
  a.v4Octet.isNone && a.v6Group.isNone

/-- IPv4 routes that every router of a topology advertises. -/
structure V4Routes where
  firstOctet : UInt8 := 10
  prefixLength : UInt8 := 32
  count : UInt32 := 1
  deriving DecidableEq, Repr, Inhabited

/-- IPv6 routes that every router of a topology advertises. -/
structure V6Routes where
  firstGroup : UInt16 := 0x10
  prefixLength : UInt8 := 64
  count : UInt32 := 1
  deriving DecidableEq, Repr, Inhabited

/-- The arrangement of the routers. -/
inductive Shape where
  /-- Each router is linked to its right neighbour and to the one below. -/
  | grid (rows cols : Nat)
  /-- Each router is linked to the next one, and the last one to the first. -/
  | ring (nodes : Nat)
  deriving DecidableEq, Repr, Inhabited

/-- Where a router stands, counted from zero. -/
inductive Position where
  | cell (row col : Nat)
  | station (index : Nat)
  deriving DecidableEq, Repr, Inhabited

/-- The numbers of the nodes at the cells of some rows, with as many nodes before them. Nodes are
created row by row, and each gets the number of nodes before it. -/
def cellNumbers (cols : Nat) : (rows before : Nat) → List (List Nat)
  | 0, _ => []
  | rows + 1, before => List.range' before cols :: cellNumbers cols rows (before + cols)

/-- The table of the numbers of the nodes at the cells; only a grid has cells. -/
def Shape.cells : Shape → List (List Nat)
  | .grid rows cols => cellNumbers cols rows 0
  | .ring _ => []

/-! ### Generated objects -/

/-- A simulated router. -/
structure Node where
  /-- The name of its device. -/
  name : String
  systemId : String
  position : Position
  deriving DecidableEq, Repr, Inhabited

namespace Node

/-- The name of the ISIS router on the node's device. -/
def routerName (n : Node) : String :=
  n.name ++ ".isis"

/-- The id of the first LSP that the node originates. -/
def lspId (n : Node) : String :=
  IsisTestbed.lspId n.systemId

end Node

/-- A simulated link: the ethernets at its two ends and their addresses. -/
structure Link where
  ethernetA : String
  ethernetB : String
  v4 : Option (Ipv4 × Ipv4)
  v6 : Option (Ipv6 × Ipv6)
  deriving DecidableEq, Repr

/-- An emulated router linked to a node of a topology. -/
structure Attachment where
  device : String
  node : Nat
  link : Link
  deriving DecidableEq, Repr

/-- A link between two nodes, given by their numbers. -/
structure Edge where
  a : Nat
  b : Nat
  link : Link
  deriving DecidableEq, Repr

/-- A generated topology. Nodes, links and attachments come in the order of their creation. -/
structure Topology where
  shape : Shape
  addressing : LinkAddressing
  nodes : List Node := []
  edges : List Edge := []
  attachments : List Attachment := []
  deriving DecidableEq, Repr

/-! ### Failures -/

/-- Why a topology cannot be generated or extended. -/
inductive TopologyError where
  | gridTooSmall (rows cols : Nat)
  | ringTooSmall (nodes : Nat)
  | tooManyNodes (nodes : Nat)
  /-- The first octet of the system ids is not set. -/
  | missingSystemId
  /-- No family is set for the addresses of the links. -/
  | noLinkAddressing
  /-- A number does not fit into an octet of an address. -/
  | addressSpaceExhausted (index : Nat)
  | invalidAddress (text : String)
  /-- A device to be created already exists. -/
  | nameInUse (name : String)
  /-- A device to be linked does not run ISIS. -/
  | noIsisRouter (device : String)
  | nodeNotFound (node : String)
  /-- A device of the configuration is not accessible. -/
  | config (cause : ConfigError)
  deriving DecidableEq, Repr, Inhabited

/-- The greatest number of nodes. Node numbers fill one octet of an address, and one number is left
for attached routers. -/
def maxNodes : Nat := 254

/-- The message of a failure, unless its cause has none. -/
def TopologyError.message? : TopologyError → Option String
  | .gridTooSmall rows cols =>
    some ("A grid needs at least two rows and two columns, got " ++ Text.number rows ++ "x" ++
      Text.number cols)
  | .ringTooSmall nodes =>
    some ("A ring needs at least two nodes, got " ++ Text.number nodes)
  | .tooManyNodes nodes =>
    some ("The topology would have " ++ Text.number nodes ++ " nodes, but at most " ++
      Text.number maxNodes ++ " are supported")
  | .missingSystemId => some "The first octet of the system id must be configured"
  | .noLinkAddressing =>
    some "Either the IPv4 or the IPv6 link addressing must be configured"
  | .addressSpaceExhausted index =>
    some ("Index " ++ Text.number index ++ " exceeds the address space of the topology")
  | .invalidAddress text => some ("Derived an invalid address: " ++ text)
  | .nameInUse name =>
    some ("A device named " ++ name ++ " already exists in the configuration")
  | .noIsisRouter device => some ("Device " ++ device ++ " has no ISIS router configured")
  | .nodeNotFound node => some ("Node " ++ node ++ " does not exist in the topology")
  | .config cause => cause.message?

/-- Causes in the configuration are failures of the topology. -/
def TopologyError.lift {α : Type} : Except ConfigError α → Except TopologyError α
  | .ok x => .ok x
  | .error cause => .error (.config cause)

namespace Topology

/-! ### Views -/

/-- The number of nodes. -/
def size (t : Topology) : Nat :=
  t.nodes.length

/-- The node of a number. -/
def node (t : Topology) (index : Nat) : Except TopologyError Node :=
  match t.nodes[index]? with
  | some n => .ok n
  | none => .error (.nodeNotFound (Text.number index))

/-- The number of the node at a cell of a grid. -/
def nodeIndex (t : Topology) (row col : Nat) : Except TopologyError Nat :=
  match t.shape.cells[row]?.bind (·[col]?) with
  | some index => .ok index
  | none => .error (.nodeNotFound ("(" ++ Text.number row ++ ", " ++ Text.number col ++ ")"))

/-- The number of the node at a position. A ring has a node at each number; whether the number is
in range is left to `node`. -/
def resolve (t : Topology) : Position → Except TopologyError Nat
  | .cell row col => t.nodeIndex row col
  | .station index => .ok index

/-- The node at a position. -/
def nodeAt (t : Topology) (p : Position) : Except TopologyError Node := do
  t.node (← t.resolve p)

/-- The node at the other end of an edge, for each edge of a node. -/
def partners (t : Topology) (index : Nat) : List Nat :=
  t.edges.flatMap fun e =>
    (if e.a = index then [e.b] else []) ++ (if e.b = index then [e.a] else [])

/-- The nodes that share a link with a node, in increasing order and without repetition. -/
def neighbors (t : Topology) (index : Nat) : List Nat :=
  if index < t.size then (t.partners index).mergeSort.eraseReps else []

/-- The LSP ids of all nodes. -/
def lspIds (t : Topology) : List String :=
  t.nodes.map Node.lspId

end Topology

end IsisTestbed
