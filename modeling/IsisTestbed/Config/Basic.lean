/-!
Traffic-generator configurations: test ports, devices with their ethernet interfaces and ISIS
routers, and traffic flows. A device with an ethernet that is not on a simulated link is *emulated*;
the others are *simulated* and exist only inside the generator.
-/

namespace IsisTestbed

/-- A test port of the traffic generator. -/
structure Port where
  name : String
  location : Option String := none
  deriving DecidableEq, Repr, Inhabited

/-! ### Ethernet interfaces -/

/-- What an ethernet interface is connected to. -/
inductive Connection where
  /-- A test port. -/
  | port (name : String)
  /-- The ethernet `remote` of another device, over a link inside the generator. -/
  | simulatedLink (remote : String)
  deriving DecidableEq, Repr, Inhabited

/-- An address object of an ethernet interface, in either family. -/
structure InterfaceAddress where
  name : String
  address : String
  gateway : String
  prefixLength : UInt8
  deriving DecidableEq, Repr, Inhabited

/-- An ethernet interface of a device. -/
structure Ethernet where
  name : String
  mac : String
  mtu : Option UInt16 := none
  connection : Option Connection := none
  ipv4 : List InterfaceAddress := []
  ipv6 : List InterfaceAddress := []
  deriving DecidableEq, Repr, Inhabited

namespace Ethernet

/-- The remote ethernet, if the interface is on a simulated link. -/
def remote? (e : Ethernet) : Option String :=
  match e.connection with
  | some (.simulatedLink remote) => some remote
  | _ => none

/-- The test port, if the interface is connected to one. -/
def port? (e : Ethernet) : Option String :=
  match e.connection with
  | some (.port name) => some name
  | _ => none

/-- Whether the interface is on a simulated link. -/
def isSimulated (e : Ethernet) : Bool :=
  e.remote?.isSome

end Ethernet

/-! ### ISIS routers -/

/-- Basic parameters of an ISIS router. -/
structure RouterBasics where
  teRouterId : Option String := none
  hostname : Option String := none
  wideMetric : Option Bool := none
  learnedLspFilter : Option Bool := none
  deriving DecidableEq, Repr, Inhabited

/-- Advanced parameters of an ISIS router. -/
structure RouterAdvanced where
  helloPadding : Option Bool := none
  areaAddresses : List String := []
  lspRefreshRate : Option UInt32 := none
  lspLifetime : Option UInt32 := none
  attachedBit : Option Bool := none
  deriving DecidableEq, Repr, Inhabited

/-- The network type of an ISIS interface. -/
inductive NetworkType where
  | broadcast
  | pointToPoint
  deriving DecidableEq, Repr, Inhabited

/-- The levels at which an ISIS interface runs. -/
inductive LevelType where
  | level1
  | level2
  | level12
  deriving DecidableEq, Repr, Inhabited

/-- The unreserved bandwidth of a link for each of the eight priorities, in bytes per second. -/
structure PriorityBandwidths where
  pb0 : UInt64 := 125000000
  pb1 : UInt64 := 125000000
  pb2 : UInt64 := 125000000
  pb3 : UInt64 := 125000000
  pb4 : UInt64 := 125000000
  pb5 : UInt64 := 125000000
  pb6 : UInt64 := 125000000
  pb7 : UInt64 := 125000000
  deriving DecidableEq, Repr, Inhabited

/-- Traffic-engineering attributes of a link. -/
structure LinkState where
  metric : Option UInt32 := none
  bandwidths : Option PriorityBandwidths := none
  deriving DecidableEq, Repr, Inhabited

/-- Parameters that an ISIS interface adjusts to those of its neighbour. -/
structure InterfaceAdvanced where
  adjustMtu : Option Bool := none
  adjustArea : Option Bool := none
  adjustSupportedProtocols : Option Bool := none
  deriving DecidableEq, Repr, Inhabited

/-- An ISIS interface, bound to an ethernet of its device. -/
structure IsisInterface where
  name : String
  ethernet : String
  metric : Option UInt32 := none
  networkType : Option NetworkType := none
  levelType : Option LevelType := none
  trafficEngineering : List LinkState := []
  advanced : Option InterfaceAdvanced := none
  deriving DecidableEq, Repr, Inhabited

/-- Where an advertised route comes from. -/
inductive RouteOrigin where
  | internal
  | external
  deriving DecidableEq, Repr, Inhabited

/-- A block of prefixes that starts at an address. -/
structure RouteAddress where
  address : String
  prefixLength : Option UInt8 := none
  count : Option UInt32 := none
  step : Option UInt32 := none
  deriving DecidableEq, Repr, Inhabited

/-- A range of routes that an ISIS router advertises. Flows use its name as an endpoint. -/
structure RouteRange where
  name : String
  addresses : List RouteAddress := []
  metric : Option UInt32 := none
  origin : Option RouteOrigin := none
  deriving DecidableEq, Repr, Inhabited

/-- The first address of a range. -/
def RouteRange.firstAddress? (r : RouteRange) : Option String :=
  r.addresses.head?.map (·.address)

/-- An ISIS router of a device. The system id is written in 12 hexadecimal digits. -/
structure Router where
  name : String
  systemId : String
  basics : Option RouterBasics := none
  advanced : Option RouterAdvanced := none
  interfaces : List IsisInterface := []
  v4Routes : List RouteRange := []
  v6Routes : List RouteRange := []
  deriving DecidableEq, Repr, Inhabited

/-- The id of the first LSP that a router with this system id originates. -/
def lspId (systemId : String) : String :=
  systemId ++ "-0-0"

/-- The id of the first LSP that the router originates. -/
def Router.lspId (r : Router) : String :=
  IsisTestbed.lspId r.systemId

/-- The route ranges of a router, those of IPv4 first. -/
def Router.routes (r : Router) : List RouteRange :=
  r.v4Routes ++ r.v6Routes

/-! ### Devices -/

/-- A device of the traffic generator. -/
structure Device where
  name : String
  ethernets : List Ethernet := []
  isis : Option Router := none
  deriving DecidableEq, Repr, Inhabited

namespace Device

/-- The first ethernet of a name. -/
def ethernet? (d : Device) (name : String) : Option Ethernet :=
  d.ethernets.find? (·.name == name)

/-- Whether the device is reachable through a test port. -/
def isEmulated (d : Device) : Bool :=
  d.ethernets.any fun e => !e.isSimulated

end Device

/-! ### Flows -/

/-- The two sides of a flow. -/
inductive Endpoints where
  /-- Raw traffic from a test port to others. -/
  | ports (tx : String) (rx : List String)
  /-- Traffic between address objects or route ranges. -/
  | devices (tx rx : List String)
  deriving DecidableEq, Repr, Inhabited

namespace Endpoints

/-- All endpoints, those that transmit first. -/
def names : Endpoints → List String
  | .ports tx rx => tx :: rx
  | .devices tx rx => tx ++ rx

end Endpoints

/-- The value of a header field. -/
inductive Pattern where
  /-- The generator fills in the value. -/
  | auto
  | value (v : String)
  /-- The values are used in turn. -/
  | values (vs : List String)
  deriving DecidableEq, Repr, Inhabited

/-- The protocol of a packet header. -/
inductive Protocol where
  | ethernet
  | ipv4
  | ipv6
  deriving DecidableEq, Repr, Inhabited

/-- A packet header with its source and destination. -/
structure Header where
  protocol : Protocol
  src : Option Pattern := none
  dst : Option Pattern := none
  deriving DecidableEq, Repr, Inhabited

/-- The transmission rate of a flow. -/
inductive Rate where
  | packetsPerSecond (pps : UInt64)
  /-- A share of the line rate. -/
  | percentage (share : Float)
  deriving BEq, Repr, Inhabited

/-- How long a flow transmits: a number of packets with a least gap between them, in bytes. -/
structure FixedPackets where
  packets : UInt64
  gap : Option UInt32 := none
  deriving DecidableEq, Repr, Inhabited

/-- Which metrics are collected for a flow. -/
structure FlowMetrics where
  enable : Bool
  loss : Option Bool := none
  deriving DecidableEq, Repr, Inhabited

/-- A traffic flow. The packet headers go from the outermost to the innermost. -/
structure Flow where
  name : String
  endpoints : Endpoints
  packet : List Header := []
  rate : Option Rate := none
  duration : Option FixedPackets := none
  metrics : Option FlowMetrics := none
  deriving BEq, Repr, Inhabited

/-- A flow between address objects or route ranges. -/
def Flow.between (name : String) (tx rx : List String) : Flow :=
  { name, endpoints := .devices tx rx }

/-! ### Configurations -/

/-- A configuration of the traffic generator. -/
structure Config where
  ports : List Port := []
  devices : List Device := []
  flows : List Flow := []
  deriving BEq, Repr, Inhabited

namespace Config

/-- All ethernets in the order of the document. -/
def ethernets (c : Config) : List Ethernet :=
  c.devices.flatMap (·.ethernets)

/-- All ISIS routers in the order of the document. -/
def routers (c : Config) : List Router :=
  c.devices.filterMap (·.isis)

end Config

end IsisTestbed
