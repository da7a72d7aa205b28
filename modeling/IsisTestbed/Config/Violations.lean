import IsisTestbed.Address.Ipv6
import IsisTestbed.Config.Basic

/-!
What makes a configuration inconsistent. `Config.violations` lists every violation in the order of
the checks: names, connections, ISIS routers, addresses, flows.
-/

namespace IsisTestbed

/-- The kinds of named objects. -/
inductive ObjectKind where
  | port
  | device
  | ethernet
  | ipv4
  | ipv6
  | router
  | isisInterface
  | routeRange
  | flow
  deriving DecidableEq, Repr, Inhabited

/-- The kind in messages. -/
def ObjectKind.text : ObjectKind → String
  | .port => "port"
  | .device => "device"
  | .ethernet => "ethernet"
  | .ipv4 => "IPv4 address"
  | .ipv6 => "IPv6 address"
  | .router => "ISIS router"
  | .isisInterface => "ISIS interface"
  | .routeRange => "route range"
  | .flow => "flow"

/-- A single violation of consistency. -/
inductive Violation where
  /-- Two objects share a name. -/
  | duplicateName (name : String) (first second : ObjectKind)
  /-- An ethernet is connected to a port that does not exist. -/
  | unknownPort (ethernet port : String)
  /-- A simulated link points to an ethernet that does not exist. -/
  | unknownRemoteLink (ethernet remote : String)
  /-- The far end of a simulated link does not point back. -/
  | asymmetricLink (ethernet remote : String)
  /-- An ISIS interface is bound to an ethernet that its device does not have. -/
  | unknownIsisEthernet (device isisInterface ethernet : String)
  | invalidMac (ethernet mac : String)
  | invalidSystemId (router systemId : String)
  /-- Two ISIS routers share a system id. -/
  | duplicateSystemId (systemId first second : String)
  /-- An address or the length of its prefix is malformed. -/
  | invalidAddress (name address : String) (prefixLength : UInt8)
  /-- A flow endpoint refers to nothing. -/
  | unknownFlowEndpoint (flow endpoint : String)
  /-- A flow does not transmit or does not receive. -/
  | emptyFlowEndpoints (flow : String)
  deriving DecidableEq, Repr, Inhabited

/-- The message of a violation. -/
def Violation.message : Violation → String
  | .duplicateName name first second =>
    "Name " ++ name ++ " is used by a " ++ first.text ++ " and by a " ++ second.text
  | .unknownPort ethernet port =>
    "Ethernet " ++ ethernet ++ " is connected to unknown port " ++ port
  | .unknownRemoteLink ethernet remote =>
    "Ethernet " ++ ethernet ++ " has a simulated link to unknown ethernet " ++ remote
  | .asymmetricLink ethernet remote =>
    "Simulated link " ++ ethernet ++ " -> " ++ remote ++ " is not mirrored by " ++ remote
  | .unknownIsisEthernet device isisInterface ethernet =>
    "ISIS interface " ++ isisInterface ++ " refers to unknown ethernet " ++ ethernet ++
      " of device " ++ device
  | .invalidMac ethernet mac => "Ethernet " ++ ethernet ++ " has an invalid MAC address " ++ mac
  | .invalidSystemId router systemId =>
    "ISIS router " ++ router ++ " has an invalid system id " ++ systemId
  | .duplicateSystemId systemId first second =>
    "System id " ++ systemId ++ " is used by ISIS routers " ++ first ++ " and " ++ second
  | .invalidAddress name address prefixLength =>
    name ++ " has an invalid address " ++ address ++ "/" ++ Text.number prefixLength.toNat
  | .unknownFlowEndpoint flow endpoint =>
    "Flow " ++ flow ++ " refers to unknown endpoint " ++ endpoint
  | .emptyFlowEndpoints flow => "Flow " ++ flow ++ " has no transmit or receive endpoint"

/-! ### Names -/

/-- The named objects of an ethernet, itself first. -/
def Ethernet.named (e : Ethernet) : List (String × ObjectKind) :=
  (e.name, .ethernet) :: (e.ipv4.map fun a => (a.name, .ipv4)) ++
    e.ipv6.map fun a => (a.name, .ipv6)

/-- The named objects of a router, itself first. -/
def Router.named (r : Router) : List (String × ObjectKind) :=
  (r.name, .router) :: (r.interfaces.map fun i => (i.name, .isisInterface)) ++
    r.routes.map fun route => (route.name, .routeRange)

/-- The named objects of a device, itself first. -/
def Device.named (d : Device) : List (String × ObjectKind) :=
  (d.name, .device) :: d.ethernets.flatMap Ethernet.named ++
    d.isis.toList.flatMap Router.named

namespace Config

/-- All named objects in the order of the document. -/
def named (c : Config) : List (String × ObjectKind) :=
  (c.ports.map fun p => (p.name, .port)) ++ c.devices.flatMap Device.named ++
    c.flows.map fun f => (f.name, .flow)

end Config

/-- One violation for each object whose name is among those seen before it, given with the kind of
their first users. -/
def duplicateNames (seen : List (String × ObjectKind)) :
    List (String × ObjectKind) → List Violation
  | [] => []
  | (name, kind) :: rest =>
    match seen.find? fun o => o.1 == name with
    | some (_, first) => .duplicateName name first kind :: duplicateNames seen rest
    | none => duplicateNames ((name, kind) :: seen) rest

/-! ### Connections -/

/-- Whether a text is a MAC address: six pairs of hexadecimal digits, separated by colons. -/
def isMac (s : String) : Bool :=
  match s.toList with
  | [a, b, ':', c, d, ':', e, f, ':', g, h, ':', i, j, ':', k, l] =>
    [a, b, c, d, e, f, g, h, i, j, k, l].all Text.isHexDigit
  | _ => false

/-- The last ethernet of a name. -/
def lastEthernet? (ethernets : List Ethernet) (name : String) : Option Ethernet :=
  ethernets.reverse.find? (·.name == name)

/-- What is wrong with the connection of an ethernet. -/
def connectionViolations (ports : List String) (ethernets : List Ethernet) (e : Ethernet) :
    List Violation :=
  match e.connection with
  | none => []
  | some (.port port) => if ports.contains port then [] else [.unknownPort e.name port]
  | some (.simulatedLink remote) =>
    match lastEthernet? ethernets remote with
    | none => [.unknownRemoteLink e.name remote]
    | some far => if far.remote? = some e.name then [] else [.asymmetricLink e.name remote]

/-- What is wrong with the MAC address and the connection of an ethernet. -/
def ethernetViolations (ports : List String) (ethernets : List Ethernet) (e : Ethernet) :
    List Violation :=
  (if isMac e.mac then [] else [.invalidMac e.name e.mac]) ++
    connectionViolations ports ethernets e

/-! ### ISIS routers -/

/-- Whether a text is a system id: twelve hexadecimal digits. -/
def isSystemId (s : String) : Bool :=
  s.toList.length == 12 && s.toList.all Text.isHexDigit

/-- A system id without regard to the case of its digits. -/
def foldCase (systemId : String) : List Char :=
  systemId.toList.map Char.toLower

/-- What is wrong with a route address, in a family with the given reader and longest prefix. -/
def routeAddressViolations (isAddress : String → Bool) (longest : UInt8) (route : String)
    (a : RouteAddress) : List Violation :=
  let prefixLength := a.prefixLength.getD longest
  if isAddress a.address && prefixLength ≤ longest then []
  else [.invalidAddress route a.address prefixLength]

/-- Whether a text is an IPv4 address. -/
def isIpv4 (s : String) : Bool := (Ipv4.ofText? s).isSome

/-- Whether a text is an IPv6 address. -/
def isIpv6 (s : String) : Bool := (Ipv6.ofText? s).isSome

/-- What is wrong with the interfaces and routes of a device's router. -/
def routerViolations (d : Device) (r : Router) : List Violation :=
  (r.interfaces.filter fun i => (d.ethernet? i.ethernet).isNone).map
      (fun i => .unknownIsisEthernet d.name i.name i.ethernet) ++
    (r.v4Routes.flatMap fun route =>
      route.addresses.flatMap (routeAddressViolations isIpv4 32 route.name)) ++
    r.v6Routes.flatMap fun route =>
      route.addresses.flatMap (routeAddressViolations isIpv6 128 route.name)

/-- What is wrong with the routers of devices, given the well-formed system ids before them and
their first users. -/
def isisViolations (seen : List (List Char × String)) : List Device → List Violation
  | [] => []
  | d :: rest =>
    match d.isis with
    | none => isisViolations seen rest
    | some r =>
      if isSystemId r.systemId then
        match seen.find? fun s => s.1 == foldCase r.systemId with
        | some (_, first) =>
          .duplicateSystemId r.systemId first r.name :: routerViolations d r ++
            isisViolations seen rest
        | none =>
          routerViolations d r ++ isisViolations ((foldCase r.systemId, r.name) :: seen) rest
      else
        .invalidSystemId r.name r.systemId :: routerViolations d r ++ isisViolations seen rest

/-! ### Addresses -/

/-- What is wrong with an address object, in a family with the given reader and longest prefix. -/
def interfaceAddressViolations (isAddress : String → Bool) (longest : UInt8)
    (a : InterfaceAddress) : List Violation :=
  if isAddress a.address && isAddress a.gateway && a.prefixLength ≤ longest then []
  else [.invalidAddress a.name a.address a.prefixLength]

/-- What is wrong with the address objects of an ethernet. -/
def addressViolations (e : Ethernet) : List Violation :=
  e.ipv4.flatMap (interfaceAddressViolations isIpv4 32) ++
    e.ipv6.flatMap (interfaceAddressViolations isIpv6 128)

/-! ### Flows -/

/-- The names of the address objects and route ranges of a device. -/
def Device.endpoints (d : Device) : List String :=
  (d.ethernets.flatMap fun e => e.ipv4.map (·.name) ++ e.ipv6.map (·.name)) ++
    d.isis.toList.flatMap fun r => r.routes.map (·.name)

/-- Whether a side of a flow that needs endpoints has none. -/
def Endpoints.isIncomplete : Endpoints → Bool
  | .ports _ rx => rx.isEmpty
  | .devices tx rx => tx.isEmpty || rx.isEmpty

/-- What is wrong with the endpoints of a flow, given the names of the ports and of the endpoints on
devices. -/
def flowViolations (ports endpoints : List String) (f : Flow) : List Violation :=
  let known := match f.endpoints with
    | .ports _ _ => ports
    | .devices _ _ => endpoints
  (if f.endpoints.isIncomplete then [.emptyFlowEndpoints f.name] else []) ++
    (f.endpoints.names.filter fun name => !known.contains name).map (.unknownFlowEndpoint f.name)

namespace Config

/-- Every violation of a configuration. -/
def violations (c : Config) : List Violation :=
  let ports := c.ports.map (·.name)
  duplicateNames [] c.named ++
    c.ethernets.flatMap (ethernetViolations ports c.ethernets) ++
    isisViolations [] c.devices ++
    c.ethernets.flatMap addressViolations ++
    c.flows.flatMap (flowViolations ports (c.devices.flatMap Device.endpoints))

end Config

end IsisTestbed
