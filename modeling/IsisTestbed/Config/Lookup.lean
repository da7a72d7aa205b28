import IsisTestbed.Config.Error

/-!
Finding and changing the parts of a configuration. Devices are found by name, the first one of
several, or by position.
-/

namespace IsisTestbed.Config

/-- The position of the first device of a name. -/
def deviceIndex (c : Config) (name : String) : Except ConfigError Nat :=
  match c.devices.findIdx? (·.name == name) with
  | some i => .ok i
  | none => .error (.deviceNotFound name)

/-- The device at a position. -/
def deviceAt (c : Config) (index : Nat) : Except ConfigError Device :=
  match c.devices[index]? with
  | some d => .ok d
  | none => .error (.noDeviceAt index)

/-- The first device of a name. -/
def device (c : Config) (name : String) : Except ConfigError Device := do
  c.deviceAt (← c.deviceIndex name)

/-- The configuration with the device at a position changed. -/
def modifyDevice (c : Config) (index : Nat) (f : Device → Device) : Config :=
  { c with devices := c.devices.modify index f }

/-- The configuration with the first device of a name changed. -/
def updateDevice (c : Config) (name : String) (f : Device → Device) :
    Except ConfigError Config := do
  return c.modifyDevice (← c.deviceIndex name) f

/-- Two devices at different positions. -/
def devicePair (c : Config) (a b : Nat) : Except ConfigError (Device × Device) := do
  if a = b then
    .error (.sameDevice (← c.deviceAt a).name)
  else
    return (← c.deviceAt a, ← c.deviceAt b)

/-- The configuration with the devices at two different positions changed. -/
def updatePair (c : Config) (a b : Nat) (f g : Device → Device) : Except ConfigError Config := do
  let _ ← c.devicePair a b
  return (c.modifyDevice a f).modifyDevice b g

/-- The first flow of a name. -/
def flow? (c : Config) (name : String) : Option Flow :=
  c.flows.find? (·.name == name)

end IsisTestbed.Config
