import IsisTestbed.Config.Lookup

/-!
Putting configurations together part by part. New parts go to the end of their list, so what is
already there keeps its position.
-/

namespace IsisTestbed

/-! ### Ethernet interfaces -/

namespace Ethernet

/-- The interface with an IPv4 address object at the end. -/
def addV4 (e : Ethernet) (a : InterfaceAddress) : Ethernet :=
  { e with ipv4 := e.ipv4 ++ [a] }

/-- The interface with an IPv6 address object at the end. -/
def addV6 (e : Ethernet) (a : InterfaceAddress) : Ethernet :=
  { e with ipv6 := e.ipv6 ++ [a] }

/-- The interface with another maximum size of its packets. -/
def withMtu (e : Ethernet) (mtu : UInt16) : Ethernet :=
  { e with mtu := some mtu }

end Ethernet

/-! ### ISIS routers -/

namespace Router

/-- The router with an ISIS interface at the end. -/
def addInterface (r : Router) (i : IsisInterface) : Router :=
  { r with interfaces := r.interfaces ++ [i] }

/-- The router with a range of IPv4 routes at the end. -/
def addV4Routes (r : Router) (range : RouteRange) : Router :=
  { r with v4Routes := r.v4Routes ++ [range] }

/-- The router with a range of IPv6 routes at the end. -/
def addV6Routes (r : Router) (range : RouteRange) : Router :=
  { r with v6Routes := r.v6Routes ++ [range] }

end Router

/-! ### Devices -/

namespace Device

/-- The device with an ethernet at the end. -/
def addEthernet (d : Device) (e : Ethernet) : Device :=
  { d with ethernets := d.ethernets ++ [e] }

/-- The device with the ethernet at a position changed. -/
def modifyEthernet (d : Device) (index : Nat) (f : Ethernet → Ethernet) : Device :=
  { d with ethernets := d.ethernets.modify index f }

/-- The device with all its ethernets changed. -/
def mapEthernets (d : Device) (f : Ethernet → Ethernet) : Device :=
  { d with ethernets := d.ethernets.map f }

/-- The device with another router, or with none. -/
def withRouter (d : Device) (r : Option Router) : Device :=
  { d with isis := r }

/-- The device with its router changed, if it has one. -/
def modifyRouter (d : Device) (f : Router → Router) : Device :=
  { d with isis := d.isis.map f }

end Device

/-! ### Configurations -/

namespace Config

/-- The configuration with a port at the end. -/
def addPort (c : Config) (p : Port) : Config :=
  { c with ports := c.ports ++ [p] }

/-- The configuration without its last port. -/
def dropPort (c : Config) : Config :=
  { c with ports := c.ports.dropLast }

/-- The configuration with a device at the end. -/
def addDevice (c : Config) (d : Device) : Config :=
  { c with devices := c.devices ++ [d] }

/-- The configuration without the first device of a name. -/
def removeDevice (c : Config) (name : String) : Except ConfigError Config := do
  return { c with devices := c.devices.eraseIdx (← c.deviceIndex name) }

/-- The configuration with a flow at the end. -/
def addFlow (c : Config) (f : Flow) : Config :=
  { c with flows := c.flows ++ [f] }

end Config

end IsisTestbed
