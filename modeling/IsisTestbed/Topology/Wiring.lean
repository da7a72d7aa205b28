import IsisTestbed.Topology.Basic

/-!
Linking two devices of a configuration. Both get an ethernet with addresses of the link and an ISIS
interface on it; nothing is changed if the link cannot be made.
-/

namespace IsisTestbed.Topology

/-- A number as an octet of an address. -/
def octet (n : Nat) : Except TopologyError UInt8 :=
  if n < UInt8.size then .ok (UInt8.ofNat n) else .error (.addressSpaceExhausted n)

/-- The IPv6 address that an assembled text denotes. -/
def assembledIpv6 (text : String) : Except TopologyError Ipv6 :=
  match Ipv6.ofText? text with
  | some ip => .ok ip
  | none => .error (.invalidAddress text)

/-! ### Derived names -/

/-- The name of the ethernet of a number on a device. -/
def ethernetName (device : String) (n : Nat) : String :=
  device ++ "eth" ++ Text.number n

/-- The name of the IPv4 address object of an ethernet. -/
def v4Name (ethernet : String) : String :=
  ethernet ++ "ip4"

/-- The name of the IPv6 address object of an ethernet. -/
def v6Name (ethernet : String) : String :=
  ethernet ++ "ip6"

/-- The name of the ISIS interface of a number on a device. -/
def interfaceName (device : String) (n : Nat) : String :=
  device ++ "Isisinf" ++ Text.number n

/-- The MAC address at the near end of a link. -/
def linkMac (near far : UInt8) : String :=
  "00:00:dd:ee:" ++ Text.hexPadded 2 near.toNat ++ ":" ++ Text.hexPadded 2 far.toNat

/-! ### Derived addresses -/

/-- The IPv4 addresses at the two ends of a link. -/
def linkV4 (first a b : UInt8) : Ipv4 × Ipv4 :=
  (⟨first, a, b, 1⟩, ⟨first, a, b, 2⟩)

/-- The text of the IPv6 address at one end of a link; the numbers of its routers are written in
decimal. -/
def linkV6Text (first : UInt16) (a b : UInt8) (side : Nat) : String :=
  String.ofList (Text.hex first.toNat) ++ "::" ++ Text.number a.toNat ++ ":" ++
    Text.number b.toNat ++ ":" ++ Text.number side

/-- The IPv6 addresses at the two ends of a link. -/
def linkV6 (first : UInt16) (a b : UInt8) : Except TopologyError (Ipv6 × Ipv6) := do
  return (← assembledIpv6 (linkV6Text first a b 1), ← assembledIpv6 (linkV6Text first a b 2))

/-- The addresses of a link in the families in use. -/
def linkAddresses (addressing : LinkAddressing) (a b : UInt8) :
    Except TopologyError (Option (Ipv4 × Ipv4) × Option (Ipv6 × Ipv6)) := do
  let v4 := addressing.v4Octet.map fun first => linkV4 first a b
  match addressing.v6Group with
  | none => return (v4, none)
  | some first => return (v4, some (← linkV6 first a b))

/-! ### Linking -/

/-- The ethernet at the near end of a link. -/
def linkEthernet (near far mac : String) (v4 : Option (Ipv4 × Ipv4)) (v6 : Option (Ipv6 × Ipv6)) :
    Ethernet where
  name := near
  mac := mac
  connection := some (.simulatedLink far)
  ipv4 := v4.toList.map fun (own, other) => ⟨v4Name near, own.text, other.text, 24⟩
  ipv6 := v6.toList.map fun (own, other) => ⟨v6Name near, own.text, other.text, 64⟩

/-- The next ISIS interface of a device's router, on an ethernet. -/
def linkInterface (device ethernet : String) (r : Router) : IsisInterface where
  name := interfaceName device (r.interfaces.length + 1)
  ethernet := ethernet
  trafficEngineering := [⟨none, some {}⟩]

/-- The device with one end of a link added. -/
def addEnd (e : Ethernet) (d : Device) : Device :=
  (d.addEthernet e).modifyRouter fun r => r.addInterface (linkInterface d.name e.name r)

/-- The name of the next ethernet of a device. -/
def nextEthernet (d : Device) : String :=
  ethernetName d.name (d.ethernets.length + 1)

/-- Fails for a device that does not run ISIS. -/
def requireRouter (d : Device) : Except TopologyError Unit :=
  if d.isis.isNone then .error (.noIsisRouter d.name) else .ok ()

/-- Links the devices at two positions of a configuration, which stand for the routers numbered
`indexA` and `indexB` from zero. -/
def connectDevices (c : Config) (deviceA deviceB indexA indexB : Nat)
    (addressing : LinkAddressing) : Except TopologyError (Config × Link) := do
  if addressing.isEmpty then throw .noLinkAddressing
  let a ← octet (indexA + 1)
  let b ← octet (indexB + 1)
  let (first, second) ← TopologyError.lift (c.devicePair deviceA deviceB)
  requireRouter first
  requireRouter second
  let nameA := nextEthernet first
  let nameB := nextEthernet second
  let (v4, v6) ← linkAddresses addressing a b
  let endA := linkEthernet nameA nameB (linkMac a b) v4 v6
  let endB := linkEthernet nameB nameA (linkMac b a) (v4.map Prod.swap) (v6.map Prod.swap)
  let linked ← TopologyError.lift (c.updatePair deviceA deviceB (addEnd endA) (addEnd endB))
  return (linked, ⟨nameA, nameB, v4, v6⟩)

/-- Links an emulated router to a node. The emulated side is numbered after all nodes. -/
def attach (t : Topology) (c : Config) (device : String) (index : Nat) :
    Except TopologyError (Config × Topology × Attachment) := do
  let node ← t.node index
  let emulated ← TopologyError.lift (c.deviceIndex device)
  let simulated ← TopologyError.lift (c.deviceIndex node.name)
  let (c, link) ← connectDevices c emulated simulated t.size index t.addressing
  let attachment : Attachment := ⟨device, index, link⟩
  return (c, { t with attachments := t.attachments ++ [attachment] }, attachment)

/-- Links an emulated router to the node at a position. -/
def connect (t : Topology) (c : Config) (device : String) (p : Position) :
    Except TopologyError (Config × Topology × Attachment) := do
  t.attach c device (← t.resolve p)

end IsisTestbed.Topology
