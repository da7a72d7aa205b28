import IsisTestbed.Proofs.Topology.Attaching
import IsisTestbed.Telemetry.Check

/-!
Which devices are emulated while topologies are built and attached. The kind of a device is whether
it is emulated, and the name of its router. Links inside the generator leave the kinds of their
devices as they are, and nodes are simulated, so neither adds to the emulated routers.
-/

namespace IsisTestbed

/-- Whether each device is emulated, and the name of its router. -/
def Config.kinds (c : Config) : List (Bool × Option String) :=
  c.devices.map fun d => (d.isEmulated, d.isis.map (·.name))

namespace Telemetry

/-- The emulated routers are told by the kinds of the devices. -/
theorem emulatedRouters_eq (c : Config) :
    emulatedRouters c = (c.kinds.filter (·.1)).filterMap (·.2) := by
  simp only [emulatedRouters, Config.kinds, List.filter_map, List.filterMap_map]
  rfl

/-- Simulated devices have no part in that. -/
theorem filter_simulated (routers : List (Option String)) :
    (routers.map fun r => (false, r)).filter (·.1) = [] := by
  simp [List.filter_eq_nil_iff]

end Telemetry

namespace Topology

variable {c c' : Config} {i j a b : Nat} {e : Ethernet} {addressing : LinkAddressing} {link : Link}

/-- An end of a link leaves the kinds of all devices as they are. -/
theorem kinds_modifyDevice_addEnd (simulated : e.isSimulated = true) :
    (c.modifyDevice i (addEnd e)).kinds = c.kinds := by
  refine Config.map_modify_eq (fun d _ => ?_) i
  have emulated : (addEnd e d).isEmulated = d.isEmulated := by
    simp [Device.isEmulated, ethernets_addEnd, simulated]
  have router : (addEnd e d).isis.map (·.name) = d.isis.map (·.name) := by
    cases runs : d.isis <;> simp [isis_addEnd, runs, Router.addInterface]
  rw [emulated, router]

/-- A link leaves the kinds of all devices as they are. -/
theorem kinds_of_connectDevices (h : connectDevices c i j a b addressing = .ok (c', link)) :
    c'.kinds = c.kinds := by
  obtain ⟨first, second, _, rfl, _⟩ := eq_of_connectDevices h
  rw [linkedConfig, kinds_modifyDevice_addEnd rfl, kinds_modifyDevice_addEnd rfl]

/-- Nodes are simulated. -/
theorem kinds_withNodes (plan : RouterPlan) (c : Config) (sites : List (Nat × Position)) :
    (withNodes plan c sites).kinds = c.kinds ++
      (sites.map fun site => some (plannedNode plan site.1 site.2).routerName).map
        fun name => (false, name) := by
  simp only [Config.kinds, withNodes, List.map_append, List.map_map]
  rfl

end Topology

end IsisTestbed
