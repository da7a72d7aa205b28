import IsisTestbed.Data.Codec
import IsisTestbed.Topology.Builder

/-!
The parameters of the back-to-back scenario: two emulated ISIS routers at test ports, a grid of
simulated routers behind the first one, a ring behind the second one, and a flow from the grid to
the ring. The defaults are those of the reference setup.
-/

namespace IsisTestbed.Scenario

open Layout (required nullable defaulted)

/-- A device that is connected to a test port. -/
structure PortDevice where
  name : String
  port : String
  mac : String
  network : Ipv4Network
  gateway : Ipv4
  deriving DecidableEq, Repr

/-- An ISIS router on a device that is connected to a test port. -/
structure EmulatedIsis where
  name : String
  systemId : String
  areaAddress : String
  lspRefreshRate : UInt32
  /-- The name of the ISIS interface. -/
  interface : String
  metric : UInt32
  /-- The name of the advertised route range. -/
  routeName : String
  /-- The first advertised route. -/
  route : Ipv4Network
  routeCount : UInt32
  deriving DecidableEq, Repr

/-- An emulated router: a device at a test port that runs ISIS. -/
structure EmulatedRouter where
  port : PortDevice
  isis : EmulatedIsis
  deriving DecidableEq, Repr

/-- The grid behind one of the emulated routers. -/
structure GridSection where
  rows : Nat
  cols : Nat
  systemIdOctet : UInt8
  v4Octet : Option UInt8
  v6Group : Option UInt16
  /-- The emulated device that is linked to the grid, and the cell where it is. -/
  attachTo : String
  attachAt : Nat × Nat
  /-- The cell of the router whose LSP must be learned. -/
  probe : Nat × Nat
  v4Routes : Option V4Routes
  v6Routes : Option V6Routes
  deriving DecidableEq, Repr

/-- The ring behind one of the emulated routers. -/
structure RingSection where
  nodes : Nat
  systemIdOctet : UInt8
  v4Octet : Option UInt8
  v6Group : Option UInt16
  /-- The emulated device that is linked to the ring, and the node where it is. -/
  attachTo : String
  attachAt : Nat
  /-- The router whose LSP must be learned. -/
  probe : Nat
  v4Routes : Option V4Routes
  v6Routes : Option V6Routes
  deriving DecidableEq, Repr

/-- The flow from a router of the grid to one of the ring. -/
structure FlowSection where
  source : Nat × Nat
  target : Nat
  packets : UInt64
  pps : UInt64
  deriving DecidableEq, Repr

/-- The builder of the grid. -/
def GridSection.builder (s : GridSection) : Builder where
  shape := .grid s.rows s.cols
  systemIdOctet := some s.systemIdOctet
  addressing := ⟨s.v4Octet, s.v6Group⟩
  v4Routes := s.v4Routes
  v6Routes := s.v6Routes

/-- The builder of the ring. -/
def RingSection.builder (s : RingSection) : Builder where
  shape := .ring s.nodes
  systemIdOctet := some s.systemIdOctet
  addressing := ⟨s.v4Octet, s.v6Group⟩
  v4Routes := s.v4Routes
  v6Routes := s.v6Routes

/-! ### Defaults -/

/-- The sending router of the reference setup. -/
def defaultTx : EmulatedRouter where
  port :=
    { name := "atePort1", port := "port1", mac := "02:00:01:01:01:01"
      network := { address := ⟨192, 0, 2, 2⟩, prefixLength := 24 }, gateway := ⟨192, 0, 2, 1⟩ }
  isis :=
    { name := "dtxIsis", systemId := "640000000001", areaAddress := "490001"
      lspRefreshRate := 900, interface := "dtxIsisInt", metric := 10, routeName := "dtxIsisRr4"
      route := { address := ⟨100, 1, 1, 1⟩, prefixLength := 32 }, routeCount := 5 }

/-- The receiving router of the reference setup. -/
def defaultRx : EmulatedRouter where
  port :=
    { name := "atePort2", port := "port2", mac := "02:00:02:01:01:01"
      network := { address := ⟨192, 0, 2, 1⟩, prefixLength := 24 }, gateway := ⟨192, 0, 2, 2⟩ }
  isis :=
    { name := "drxIsis", systemId := "650000000001", areaAddress := "490001"
      lspRefreshRate := 900, interface := "drxIsisInt", metric := 10, routeName := "drxIsisRr4"
      route := { address := ⟨200, 1, 1, 1⟩, prefixLength := 32 }, routeCount := 5 }

/-- The grid of the reference setup. -/
def defaultGrid : GridSection where
  rows := 3
  cols := 3
  systemIdOctet := 0x66
  v4Octet := some 20
  v6Group := none
  attachTo := defaultTx.port.name
  attachAt := (0, 1)
  probe := (1, 1)
  v4Routes := some { firstOctet := 30 }
  v6Routes := none

/-- The ring of the reference setup. -/
def defaultRing : RingSection where
  nodes := 3
  systemIdOctet := 0x67
  v4Octet := some 30
  v6Group := none
  attachTo := defaultRx.port.name
  attachAt := 1
  probe := 0
  v4Routes := some { firstOctet := 40 }
  v6Routes := none

/-- The flow of the reference setup. -/
def defaultFlow : FlowSection where
  source := (2, 2)
  target := 2
  packets := 1000
  pps := 200

/-- All parameters of the scenario. -/
structure Parameters where
  tx : EmulatedRouter := defaultTx
  rx : EmulatedRouter := defaultRx
  grid : GridSection := defaultGrid
  ring : RingSection := defaultRing
  flow : FlowSection := defaultFlow
  deriving DecidableEq, Repr

/-! ### Written form -/

/-- Networks, as an address with a length. -/
def networkCodec : Codec Ipv4Network :=
  Codec.text.via Ipv4Network.text Ipv4Network.ofText?

/-- IPv4 addresses in dotted form. -/
def addressCodec : Codec Ipv4 :=
  Codec.text.via Ipv4.text Ipv4.ofText?

/-- IPv4 routes; every field has a default. -/
def v4RoutesCodec : Codec V4Routes :=
  .record
    (defaulted "first_octet" [] .uint8 10 <| defaulted "prefix" [] .uint8 32 <|
      defaulted "count" [] .uint32 1 .nil)
    (fun r => (r.firstOctet, r.prefixLength, r.count, ()))
    fun (firstOctet, prefixLength, count, ()) => { firstOctet, prefixLength, count }

/-- IPv6 routes; every field has a default. -/
def v6RoutesCodec : Codec V6Routes :=
  .record
    (defaulted "first_group" [] .uint16 0x10 <| defaulted "prefix" [] .uint8 64 <|
      defaulted "count" [] .uint32 1 .nil)
    (fun r => (r.firstGroup, r.prefixLength, r.count, ()))
    fun (firstGroup, prefixLength, count, ()) => { firstGroup, prefixLength, count }

/-- Devices at test ports. -/
def PortDevice.codec : Codec PortDevice :=
  .record
    (required "name" .text <| required "port" .text <| required "mac" .text <|
      required "ipv4" networkCodec <| required "gateway" addressCodec .nil)
    (fun p => (p.name, p.port, p.mac, p.network, p.gateway, ()))
    fun (name, port, mac, network, gateway, ()) => { name, port, mac, network, gateway }

/-- ISIS routers of devices at test ports. -/
def EmulatedIsis.codec : Codec EmulatedIsis :=
  .record
    (required "name" .text <| required "system_id" .text <| required "area_address" .text <|
      required "lsp_refresh_rate" .uint32 <| required "interface" .text <|
      required "metric" .uint32 <| required "route_name" .text <|
      required "route" networkCodec <| required "route_count" .uint32 .nil)
    (fun i => (i.name, i.systemId, i.areaAddress, i.lspRefreshRate, i.interface, i.metric,
      i.routeName, i.route, i.routeCount, ()))
    fun (name, systemId, areaAddress, lspRefreshRate, interface, metric, routeName, route,
        routeCount, ()) =>
      { name, systemId, areaAddress, lspRefreshRate, interface, metric, routeName, route
        routeCount }

/-- Emulated routers. -/
def EmulatedRouter.codec : Codec EmulatedRouter :=
  .record (required "port" PortDevice.codec <| required "isis" EmulatedIsis.codec .nil)
    (fun r => (r.port, r.isis, ()))
    fun (port, isis, ()) => { port, isis }

/-- The section of the grid. -/
def GridSection.codec : Codec GridSection :=
  .record
    (required "rows" .count <| required "cols" .count <|
      required "system_id_first_octet" .uint8 <|
      nullable "link_ipv4_first_octet" .uint8 <| nullable "link_ipv6_first_group" .uint16 <|
      required "attach_to" .text <| required "attach_at" Codec.count.pair <|
      required "probe" Codec.count.pair <| nullable "v4_routes" v4RoutesCodec <|
      nullable "v6_routes" v6RoutesCodec .nil)
    (fun s => (s.rows, s.cols, s.systemIdOctet, s.v4Octet, s.v6Group, s.attachTo, s.attachAt,
      s.probe, s.v4Routes, s.v6Routes, ()))
    fun (rows, cols, systemIdOctet, v4Octet, v6Group, attachTo, attachAt, probe, v4Routes,
        v6Routes, ()) =>
      { rows, cols, systemIdOctet, v4Octet, v6Group, attachTo, attachAt, probe, v4Routes
        v6Routes }

/-- The section of the ring. -/
def RingSection.codec : Codec RingSection :=
  .record
    (required "nodes" .count <| required "system_id_first_octet" .uint8 <|
      nullable "link_ipv4_first_octet" .uint8 <| nullable "link_ipv6_first_group" .uint16 <|
      required "attach_to" .text <| required "attach_at" .count <| required "probe" .count <|
      nullable "v4_routes" v4RoutesCodec <| nullable "v6_routes" v6RoutesCodec .nil)
    (fun s => (s.nodes, s.systemIdOctet, s.v4Octet, s.v6Group, s.attachTo, s.attachAt, s.probe,
      s.v4Routes, s.v6Routes, ()))
    fun (nodes, systemIdOctet, v4Octet, v6Group, attachTo, attachAt, probe, v4Routes, v6Routes,
        ()) =>
      { nodes, systemIdOctet, v4Octet, v6Group, attachTo, attachAt, probe, v4Routes, v6Routes }

/-- The section of the flow. -/
def FlowSection.codec : Codec FlowSection :=
  .record
    (required "from" Codec.count.pair <| required "to" .count <| required "packets" .uint64 <|
      required "pps" .uint64 .nil)
    (fun s => (s.source, s.target, s.packets, s.pps, ()))
    fun (source, target, packets, pps, ()) => { source, target, packets, pps }

/-- All parameters. A section that is left out has its default as a whole. -/
def Parameters.codec : Codec Parameters :=
  .record
    (defaulted "tx" [] EmulatedRouter.codec defaultTx <|
      defaulted "rx" [] EmulatedRouter.codec defaultRx <|
      defaulted "grid" [] GridSection.codec defaultGrid <|
      defaulted "ring" [] RingSection.codec defaultRing <|
      defaulted "flow" [] FlowSection.codec defaultFlow .nil)
    (fun p => (p.tx, p.rx, p.grid, p.ring, p.flow, ()))
    fun (tx, rx, grid, ring, flow, ()) => { tx, rx, grid, ring, flow }

end IsisTestbed.Scenario
