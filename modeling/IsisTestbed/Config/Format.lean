import IsisTestbed.Config.Basic
import IsisTestbed.Data.Codec

/-!
The written form of configurations: the names, order and defaults of all fields, and the tags of all
choices. Options that are unset and most lists that are empty are not written.
-/

namespace IsisTestbed

open Layout (required optional defaulted listed)

/-- Test ports. -/
def Port.codec : Codec Port :=
  .record
    (required "name" .text <| optional "location" .text .nil)
    (fun p => (p.name, p.location, ()))
    fun (name, location, ()) => { name, location }

/-! ### Ethernet interfaces -/

/-- The far end of a simulated link. -/
def Connection.remoteCodec : Codec String :=
  .record (required "remote_simulated_link" .text .nil) (fun r => (r, ())) fun (r, ()) => r

/-- Connections of ethernet interfaces. -/
def Connection.codec : Codec Connection :=
  .choice [
    .ofFields "port_name" (required "port_name" .text .nil)
      (fun | .port name => some (name, ()) | _ => none)
      (fun (name, ()) => .port name),
    .ofFields "simulated_link" (required "simulated_link" remoteCodec .nil)
      (fun | .simulatedLink remote => some (remote, ()) | _ => none)
      (fun (remote, ()) => .simulatedLink remote)]

/-- Address objects of a family with the given default length of the prefix. -/
def InterfaceAddress.codec (defaultPrefix : UInt8) : Codec InterfaceAddress :=
  .record
    (required "name" .text <| required "address" .text <| required "gateway" .text <|
      defaulted "prefix" [] .uint8 defaultPrefix .nil)
    (fun a => (a.name, a.address, a.gateway, a.prefixLength, ()))
    fun (name, address, gateway, prefixLength, ()) => { name, address, gateway, prefixLength }

/-- Ethernet interfaces. -/
def Ethernet.codec : Codec Ethernet :=
  .record
    (required "name" .text <| required "mac" .text <| optional "mtu" .uint16 <|
      optional "connection" Connection.codec <|
      listed "ipv4_addresses" (InterfaceAddress.codec 24) <|
      listed "ipv6_addresses" (InterfaceAddress.codec 64) .nil)
    (fun e => (e.name, e.mac, e.mtu, e.connection, e.ipv4, e.ipv6, ()))
    fun (name, mac, mtu, connection, ipv4, ipv6, ()) => { name, mac, mtu, connection, ipv4, ipv6 }

/-! ### ISIS routers -/

/-- Basic parameters of ISIS routers. -/
def RouterBasics.codec : Codec RouterBasics :=
  .record
    (optional "ipv4_te_router_id" .text <| optional "hostname" .text <|
      optional "enable_wide_metric" .bool <| optional "learned_lsp_filter" .bool .nil)
    (fun b => (b.teRouterId, b.hostname, b.wideMetric, b.learnedLspFilter, ()))
    fun (teRouterId, hostname, wideMetric, learnedLspFilter, ()) =>
      { teRouterId, hostname, wideMetric, learnedLspFilter }

/-- Advanced parameters of ISIS routers. -/
def RouterAdvanced.codec : Codec RouterAdvanced :=
  .record
    (optional "enable_hello_padding" .bool <| listed "area_addresses" .text <|
      optional "lsp_refresh_rate" .uint32 <| optional "lsp_lifetime" .uint32 <|
      optional "enable_attached_bit" .bool .nil)
    (fun a => (a.helloPadding, a.areaAddresses, a.lspRefreshRate, a.lspLifetime, a.attachedBit, ()))
    fun (helloPadding, areaAddresses, lspRefreshRate, lspLifetime, attachedBit, ()) =>
      { helloPadding, areaAddresses, lspRefreshRate, lspLifetime, attachedBit }

/-- Network types of ISIS interfaces. -/
def NetworkType.codec : Codec NetworkType :=
  .constants [("broadcast", .broadcast), ("point_to_point", .pointToPoint)]

/-- Levels of ISIS interfaces. -/
def LevelType.codec : Codec LevelType :=
  .constants [("level_1", .level1), ("level_2", .level2), ("level_1_2", .level12)]

/-- Bandwidths per priority. -/
def PriorityBandwidths.codec : Codec PriorityBandwidths :=
  .record
    (required "pb0" .uint64 <| required "pb1" .uint64 <| required "pb2" .uint64 <|
      required "pb3" .uint64 <| required "pb4" .uint64 <| required "pb5" .uint64 <|
      required "pb6" .uint64 <| required "pb7" .uint64 .nil)
    (fun b => (b.pb0, b.pb1, b.pb2, b.pb3, b.pb4, b.pb5, b.pb6, b.pb7, ()))
    fun (pb0, pb1, pb2, pb3, pb4, pb5, pb6, pb7, ()) =>
      { pb0, pb1, pb2, pb3, pb4, pb5, pb6, pb7 }

/-- Traffic-engineering attributes of links. -/
def LinkState.codec : Codec LinkState :=
  .record
    (optional "metric_level" .uint32 <|
      optional "priority_bandwidths" PriorityBandwidths.codec .nil)
    (fun l => (l.metric, l.bandwidths, ()))
    fun (metric, bandwidths, ()) => { metric, bandwidths }

/-- Adjustments of ISIS interfaces. -/
def InterfaceAdvanced.codec : Codec InterfaceAdvanced :=
  .record
    (optional "auto_adjust_mtu" .bool <| optional "auto_adjust_area" .bool <|
      optional "auto_adjust_supported_protocols" .bool .nil)
    (fun a => (a.adjustMtu, a.adjustArea, a.adjustSupportedProtocols, ()))
    fun (adjustMtu, adjustArea, adjustSupportedProtocols, ()) =>
      { adjustMtu, adjustArea, adjustSupportedProtocols }

/-- ISIS interfaces. -/
def IsisInterface.codec : Codec IsisInterface :=
  .record
    (required "name" .text <| required "eth_name" .text <| optional "metric" .uint32 <|
      optional "network_type" NetworkType.codec <| optional "level_type" LevelType.codec <|
      listed "traffic_engineering" LinkState.codec <|
      optional "advanced" InterfaceAdvanced.codec .nil)
    (fun i => (i.name, i.ethernet, i.metric, i.networkType, i.levelType, i.trafficEngineering,
      i.advanced, ()))
    fun (name, ethernet, metric, networkType, levelType, trafficEngineering, advanced, ()) =>
      { name, ethernet, metric, networkType, levelType, trafficEngineering, advanced }

/-- Origins of routes. -/
def RouteOrigin.codec : Codec RouteOrigin :=
  .constants [("internal", .internal), ("external", .external)]

/-- Blocks of prefixes. -/
def RouteAddress.codec : Codec RouteAddress :=
  .record
    (required "address" .text <| optional "prefix" .uint8 <| optional "count" .uint32 <|
      optional "step" .uint32 .nil)
    (fun a => (a.address, a.prefixLength, a.count, a.step, ()))
    fun (address, prefixLength, count, step, ()) => { address, prefixLength, count, step }

/-- Route ranges. Their list of blocks is written even if it is empty. -/
def RouteRange.codec : Codec RouteRange :=
  .record
    (required "name" .text <| defaulted "addresses" [] RouteAddress.codec.list [] <|
      optional "link_metric" .uint32 <| optional "origin_type" RouteOrigin.codec .nil)
    (fun r => (r.name, r.addresses, r.metric, r.origin, ()))
    fun (name, addresses, metric, origin, ()) => { name, addresses, metric, origin }

/-- ISIS routers. -/
def Router.codec : Codec Router :=
  .record
    (required "name" .text <| required "system_id" .text <|
      optional "basic" RouterBasics.codec <| optional "advanced" RouterAdvanced.codec <|
      listed "interfaces" IsisInterface.codec <| listed "v4_routes" RouteRange.codec <|
      listed "v6_routes" RouteRange.codec .nil)
    (fun r => (r.name, r.systemId, r.basics, r.advanced, r.interfaces, r.v4Routes, r.v6Routes, ()))
    fun (name, systemId, basics, advanced, interfaces, v4Routes, v6Routes, ()) =>
      { name, systemId, basics, advanced, interfaces, v4Routes, v6Routes }

/-- Devices. -/
def Device.codec : Codec Device :=
  .record
    (required "name" .text <| listed "ethernets" Ethernet.codec <|
      optional "isis" Router.codec .nil)
    (fun d => (d.name, d.ethernets, d.isis, ()))
    fun (name, ethernets, isis, ()) => { name, ethernets, isis }

/-! ### Flows -/

/-- The two sides of flows between ports. Their receivers are written even if there are none. -/
def Endpoints.portsCodec : Codec (String × List String) :=
  .record (required "tx_name" .text <| defaulted "rx_names" [] Codec.text.list [] .nil)
    (fun (tx, rx) => (tx, rx, ()))
    fun (tx, rx, ()) => (tx, rx)

/-- The two sides of flows between devices. -/
def Endpoints.devicesCodec : Codec (List String × List String) :=
  .record (required "tx_names" Codec.text.list <| required "rx_names" Codec.text.list .nil)
    (fun (tx, rx) => (tx, rx, ()))
    fun (tx, rx, ()) => (tx, rx)

/-- The two sides of flows. -/
def Endpoints.codec : Codec Endpoints :=
  .choice [
    .ofFields "port" (required "port" portsCodec .nil)
      (fun | .ports tx rx => some ((tx, rx), ()) | _ => none)
      (fun ((tx, rx), ()) => .ports tx rx),
    .ofFields "device" (required "device" devicesCodec .nil)
      (fun | .devices tx rx => some ((tx, rx), ()) | _ => none)
      (fun ((tx, rx), ()) => .devices tx rx)]

/-- Values of header fields. -/
def Pattern.codec : Codec Pattern :=
  .choice [
    .bare "auto" .auto,
    .ofFields "value" (required "value" .text .nil)
      (fun | .value v => some (v, ()) | _ => none)
      (fun (v, ()) => .value v),
    .ofFields "values" (required "values" Codec.text.list .nil)
      (fun | .values vs => some (vs, ()) | _ => none)
      (fun (vs, ()) => .values vs)]

/-- The source and the destination of a header. -/
def Header.fieldsCodec : Codec (Option Pattern × Option Pattern) :=
  .record (optional "src" Pattern.codec <| optional "dst" Pattern.codec .nil)
    (fun (src, dst) => (src, dst, ()))
    fun (src, dst, ()) => (src, dst)

/-- The variant for the headers of one protocol. -/
def Header.variant (protocol : Protocol) (name : String) : Variant Header :=
  .ofFields name (required name fieldsCodec .nil)
    (fun h => if h.protocol = protocol then some ((h.src, h.dst), ()) else none)
    (fun ((src, dst), ()) => { protocol, src, dst })

/-- Packet headers. -/
def Header.codec : Codec Header :=
  .choice [variant .ethernet "ethernet", variant .ipv4 "ipv4", variant .ipv6 "ipv6"]

/-- Transmission rates. -/
def Rate.codec : Codec Rate :=
  .choice [
    .ofFields "pps" (required "pps" .uint64 .nil)
      (fun | .packetsPerSecond pps => some (pps, ()) | _ => none)
      (fun (pps, ()) => .packetsPerSecond pps),
    .ofFields "percentage" (required "percentage" .float .nil)
      (fun | .percentage share => some (share, ()) | _ => none)
      (fun (share, ()) => .percentage share)]

/-- Numbers of packets. -/
def FixedPackets.fieldsCodec : Codec FixedPackets :=
  .record (required "packets" .uint64 <| optional "gap" .uint32 .nil)
    (fun p => (p.packets, p.gap, ()))
    fun (packets, gap, ()) => { packets, gap }

/-- Durations of flows. -/
def FixedPackets.codec : Codec FixedPackets :=
  .choice [
    .ofFields "fixed_packets" (required "fixed_packets" fieldsCodec .nil)
      (fun p => some (p, ()))
      (fun (p, ()) => p)]

/-- Metrics of flows. -/
def FlowMetrics.codec : Codec FlowMetrics :=
  .record (required "enable" .bool <| optional "loss" .bool .nil)
    (fun m => (m.enable, m.loss, ()))
    fun (enable, loss, ()) => { enable, loss }

/-- Flows. -/
def Flow.codec : Codec Flow :=
  .record
    (required "name" .text <| required "tx_rx" Endpoints.codec <|
      listed "packet" Header.codec <| optional "rate" Rate.codec <|
      optional "duration" FixedPackets.codec <| optional "metrics" FlowMetrics.codec .nil)
    (fun f => (f.name, f.endpoints, f.packet, f.rate, f.duration, f.metrics, ()))
    fun (name, endpoints, packet, rate, duration, metrics, ()) =>
      { name, endpoints, packet, rate, duration, metrics }

/-- Configurations. -/
def Config.codec : Codec Config :=
  .record
    (listed "ports" Port.codec <| listed "devices" Device.codec <| listed "flows" Flow.codec .nil)
    (fun c => (c.ports, c.devices, c.flows, ()))
    fun (ports, devices, flows, ()) => { ports, devices, flows }

end IsisTestbed
