import IsisTestbed.Proofs.Scenario.Success
import IsisTestbed.Proofs.Topology.Placement
import IsisTestbed.Proofs.Topology.Validity

/-!
What can be wrong with a scenario that is built. Names, MAC addresses, system ids and prefixes are
taken from the parameters as they are, and only these can be reported: each step keeps all
references sound, and each violation of the result is the fault of a parameter. This holds for all
parameters, also if both hosts have one name, or topologies are attached to simulated routers.
-/

namespace IsisTestbed.Scenario

open IsisTestbed.Topology

/-- The emulated routers, the sending one first. -/
def Parameters.emulated (p : Parameters) : List EmulatedRouter :=
  [p.tx, p.rx]

/-- The builders of both topologies. -/
def Parameters.builders (p : Parameters) : List Builder :=
  [p.grid.builder, p.ring.builder]

/-- The violations for which the parameters are to blame: names and system ids that are used twice,
a malformed MAC address or system id of an emulated router, and prefixes that are too long for the
routes of the simulated ones. -/
inductive Parameters.Blames (p : Parameters) : Violation → Prop where
  | duplicateName (name : String) (first second : ObjectKind) :
      Blames p (.duplicateName name first second)
  | duplicateSystemId (systemId first second : String) :
      Blames p (.duplicateSystemId systemId first second)
  | invalidMac {x : EmulatedRouter} (emulated : x ∈ p.emulated) (malformed : ¬ IsMac x.port.mac) :
      Blames p (.invalidMac x.port.ethernetName x.port.mac)
  | invalidSystemId {x : EmulatedRouter} (emulated : x ∈ p.emulated)
      (malformed : ¬ IsSystemId x.isis.systemId) :
      Blames p (.invalidSystemId x.isis.name x.isis.systemId)
  | longV4Prefix {b : Builder} {octet : UInt8} {node address : String} {routes : V4Routes}
      (configured : b ∈ p.builders) (set : b.systemIdOctet = some octet)
      (member : node ∈ b.nodeNames octet) (requested : b.v4Routes = some routes)
      (long : 32 < routes.prefixLength) :
      Blames p (.invalidAddress (node ++ ".isis" ++ ".isis.v4routes") address routes.prefixLength)
  | longV6Prefix {b : Builder} {octet : UInt8} {node address : String} {routes : V6Routes}
      (configured : b ∈ p.builders) (set : b.systemIdOctet = some octet)
      (member : node ∈ b.nodeNames octet) (requested : b.v6Routes = some routes)
      (long : 128 < routes.prefixLength) :
      Blames p (.invalidAddress (node ++ ".isis" ++ ".isis.v6routes") address routes.prefixLength)

/-- What holds after each step: references are sound, ends of links have names of their own, all
flaws are the fault of parameters, and the hosts have the ethernets on which their routers are to
run. -/
structure Parameters.Explains (p : Parameters) (c : Config) : Prop where
  sound : c.Sound
  placed : EndsArePlaced c
  flaws : ∀ v, c.Flaw v → p.Blames v
  hosts : ∀ x ∈ p.emulated, ∃ d, c.device x.port.name = .ok d ∧
    ∃ e ∈ d.ethernets, e.name = x.port.ethernetName
  flowless : c.flows = []

/-! ### The flaws of new routers -/

/-- The network of an emulated route has a possible prefix, so only the system id is left to go
wrong. -/
theorem flaw_router {i : EmulatedIsis} {host : PortDevice} {v : Violation}
    (h : (i.router host).Flaw v) :
    ¬ IsSystemId i.systemId ∧ v = .invalidSystemId i.name i.systemId := by
  cases h with
  | invalidSystemId malformed => exact ⟨malformed, rfl⟩
  | invalidV4Route hroute ha invalid =>
    cases List.mem_singleton.mp hroute
    cases List.mem_singleton.mp ha
    refine absurd ⟨isIpv4_text i.route.address, ?_⟩ invalid
    rintro length ⟨⟩
    exact i.route.prefixLength_le
  | invalidV6Route hroute => cases hroute

/-- A new simulated router is well-formed, but for the prefixes of its routes. -/
theorem flaw_plannedRouter {p : Parameters} {b : Builder} {octet : UInt8} {v : Violation}
    (configured : b ∈ p.builders) (set : b.systemIdOctet = some octet) {site : Nat × Position}
    (member : site ∈ b.sites) (h : (plannedRouter (b.plan octet) site.1 site.2).Flaw v) :
    p.Blames v := by
  have listed : siteName octet site ∈ b.nodeNames octet := List.mem_map.mpr ⟨site, member, rfl⟩
  cases h with
  | invalidSystemId malformed => exact absurd (isSystemId_nodeSystemId _ _) malformed
  | invalidV4Route hroute ha invalid =>
    obtain ⟨routes, requested, rfl⟩ := List.mem_map.mp hroute
    cases List.mem_singleton.mp ha
    refine .longV4Prefix configured set listed (Option.mem_toList.mp requested) ?_
    refine UInt8.not_le.mp fun short => invalid ⟨isIpv4_text _, ?_⟩
    rintro length ⟨⟩
    exact short
  | invalidV6Route hroute ha invalid =>
    obtain ⟨routes, requested, rfl⟩ := List.mem_map.mp hroute
    cases List.mem_singleton.mp ha
    refine .longV6Prefix configured set listed (Option.mem_toList.mp requested) ?_
    refine UInt8.not_le.mp fun short => invalid ⟨isIpv6_text _, ?_⟩
    rintro length ⟨⟩
    exact short

/-- New nodes together have no flaws but these, and duplicates. -/
theorem blames_of_flaw_withNodes {p : Parameters} {b : Builder} {octet : UInt8} {v : Violation}
    (configured : b ∈ p.builders) (set : b.systemIdOctet = some octet)
    (h : (withNodes (b.plan octet) {} b.sites).Flaw v) : p.Blames v := by
  cases h with
  | duplicateName name first second => exact .duplicateName name first second
  | duplicateSystemId id first second => exact .duplicateSystemId id first second
  | invalidMac member =>
    rw [ethernets_withNodes_empty] at member
    cases member
  | router member own =>
    obtain ⟨d, hd, runs⟩ := List.mem_filterMap.mp member
    obtain ⟨site, hsite, rfl⟩ := exists_site_of_mem_withNodes_empty hd
    cases runs
    exact flaw_plannedRouter configured set hsite own

/-! ### What each step keeps -/

section Keeping

variable {p : Parameters} {c c' : Config}

theorem exists_host_of_mem_devices {d : Device} (h : d ∈ p.hosts.devices) :
    ∃ x ∈ p.emulated, d = x.port.device := by
  have devices : p.hosts.devices = p.emulated.map fun x => x.port.device := rfl
  rw [devices] at h
  obtain ⟨x, hx, rfl⟩ := List.mem_map.mp h
  exact ⟨x, hx, rfl⟩

theorem exists_host_of_mem_ethernets {e : Ethernet} (h : e ∈ p.hosts.ethernets) :
    ∃ x ∈ p.emulated, e ∈ x.port.device.ethernets := by
  obtain ⟨d, hd, he⟩ := List.mem_flatMap.mp h
  obtain ⟨x, hx, rfl⟩ := exists_host_of_mem_devices hd
  exact ⟨x, hx, he⟩

theorem sound_hosts (p : Parameters) : p.hosts.Sound where
  ports := by
    intro e member port connected
    obtain ⟨x, hx, own⟩ := exists_host_of_mem_ethernets member
    cases List.mem_singleton.mp own
    cases connected
    have listed : x.port.port ∈ p.emulated.map fun y => y.port.port :=
      List.mem_map.mpr ⟨x, hx, rfl⟩
    exact listed
  links := by
    intro e member remote connected
    obtain ⟨x, _, own⟩ := exists_host_of_mem_ethernets member
    cases List.mem_singleton.mp own
    cases connected
  interfaces := by
    intro d member r runs
    obtain ⟨x, _, rfl⟩ := exists_host_of_mem_devices member
    cases runs
  addresses := by
    intro e member
    obtain ⟨x, _, own⟩ := exists_host_of_mem_ethernets member
    cases List.mem_singleton.mp own
    constructor
    · intro a ha
      cases List.mem_singleton.mp ha
      exact ⟨isIpv4_text _, isIpv4_text _, x.port.network.prefixLength_le⟩
    · intro a ha
      cases ha
  flows := by
    intro f member
    cases member

theorem Parameters.Explains.start (p : Parameters) : p.Explains p.hosts where
  sound := sound_hosts p
  placed := by
    intro i d k e atI atK
    obtain ⟨x, _, rfl⟩ := exists_host_of_mem_devices (List.mem_of_getElem? atI)
    cases List.mem_singleton.mp (List.mem_of_getElem? atK)
    have text : ".Eth".toList = ['.', 'E', 't'] ++ ['h'] := rfl
    refine .apart ?_ (ne_ethernetName text (by decide))
    intro remote connected
    cases connected
  flaws := by
    intro v h
    cases h with
    | duplicateName name first second => exact .duplicateName name first second
    | duplicateSystemId id first second => exact .duplicateSystemId id first second
    | invalidMac member malformed =>
      obtain ⟨x, hx, own⟩ := exists_host_of_mem_ethernets member
      cases List.mem_singleton.mp own
      exact .invalidMac hx malformed
    | router member => cases member
  hosts := by
    intro x hx
    have listed : x.port.name ∈ p.emulated.map fun y => y.port.name :=
      List.mem_map.mpr ⟨x, hx, rfl⟩
    obtain ⟨d, found⟩ : ∃ d, p.hosts.device x.port.name = .ok d :=
      Config.exists_device_iff.mpr listed
    -- The first host of the name need not be this one, but its ethernet has the same name.
    obtain ⟨y, _, rfl⟩ := exists_host_of_mem_devices (Config.mem_of_device found)
    have same : y.port.name = x.port.name := Config.name_of_device found
    refine ⟨_, found, _, List.mem_singleton_self _, ?_⟩
    show y.port.name ++ ".Eth" = x.port.name ++ ".Eth"
    rw [same]
  flowless := rfl

/-- A router is put onto a device that has the ethernet for it. -/
theorem Parameters.Explains.addTo {x : EmulatedRouter} (h : p.Explains c)
    (emulated : x ∈ p.emulated) (added : x.isis.addTo c x.port = .ok c') : p.Explains c' := by
  obtain ⟨k, index, rfl⟩ := addTo_eq_ok_iff.mp added
  obtain ⟨d, found, e, he, bound⟩ := h.hosts x emulated
  obtain ⟨_, index', atK⟩ := Config.device_eq_ok_iff.mp found
  cases index.symm.trans index'
  have names (d' : Device) (_ : d' ∈ c.devices) :
      (d'.withRouter (some (x.isis.router x.port))).name = d'.name := rfl
  refine ⟨h.sound.withRouter h.flowless atK ?_, h.placed.modifyDevice names ?_, ?_, ?_, h.flowless⟩
  · intro i hi
    cases List.mem_singleton.mp hi
    exact ⟨e, he, bound⟩
  · intro d' atD j e' atJ
    exact (h.placed k d' j e' atD atJ).mono rfl fun index => index
  · intro v flaw
    rcases Config.Flaw.of_withRouter flaw with old | own
    · exact h.flaws v old
    · obtain ⟨malformed, rfl⟩ := flaw_router own
      exact .invalidSystemId emulated malformed
  · intro y hy
    obtain ⟨d', found', e', he', same⟩ := h.hosts y hy
    by_cases here : y.port.name = x.port.name
    · rw [here, found] at found'
      cases found'
      refine ⟨d.withRouter (some (x.isis.router x.port)), ?_, e', he', same⟩
      rw [here]
      exact Config.device_modifyDevice_self names index atK
    · refine ⟨d', ?_, e', he', same⟩
      rw [Config.device_modifyDevice_of_ne names atK, found']
      exact fun own => here (own.symm.trans (Config.name_of_device found))

/-- New nodes have no links yet, and only the prefixes of their routes can be wrong. -/
theorem Parameters.Explains.withNodes {b : Builder} {octet : UInt8} (h : p.Explains c)
    (configured : b ∈ p.builders) (set : b.systemIdOctet = some octet) (accepts : b.Accepts c) :
    p.Explains (withNodes (b.plan octet) c b.sites) := by
  rw [withNodes_eq_append]
  refine ⟨h.sound.append (sound_withNodes_empty _ _), h.placed.append ?_ ?_, ?_, ?_, ?_⟩
  · intro i d k e atI atK
    obtain ⟨site, _, rfl⟩ := exists_site_of_mem_withNodes_empty (List.mem_of_getElem? atI)
    cases List.mem_of_getElem? atK
  · intro d member
    obtain ⟨site, hsite, rfl⟩ := exists_site_of_mem_withNodes_empty member
    exact accepts.free octet set _ (List.mem_map.mpr ⟨site, hsite, rfl⟩)
  · intro v flaw
    rcases Config.Flaw.of_append flaw with old | new
    · exact h.flaws v old
    · exact blames_of_flaw_withNodes configured set new
  · intro x hx
    obtain ⟨d, found, bound⟩ := h.hosts x hx
    exact ⟨d, Config.device_append_of_ok found, bound⟩
  · simp [Config.append, h.flowless, Topology.withNodes]

/-- Both ends of a link are new and lead to each other. -/
theorem Parameters.Explains.link {i j m n : Nat} {nameA nameB : String}
    {addressing : LinkAddressing} {link : Link} (h : p.Explains c) (indexA : c.deviceIndex nameA = .ok i)
    (indexB : c.deviceIndex nameB = .ok j)
    (made : connectDevices c i j m n addressing = .ok (c', link)) : p.Explains c' := by
  have linked := linked_of_connectDevices indexA indexB made
  obtain ⟨first, second, linkable, rfl, _⟩ := eq_of_connectDevices made
  have leadsA :=
    leadsTo_firstEnd addressing (UInt8.ofNat (m + 1)) (UInt8.ofNat (n + 1)) first second
  have leadsB :=
    leadsTo_secondEnd addressing (UInt8.ofNat (m + 1)) (UInt8.ofNat (n + 1)) first second
  refine ⟨Sound.linkedConfig h.sound linkable leadsA leadsB,
    h.placed.linkedConfig linkable indexA indexB rfl rfl, ?_, ?_, h.flowless⟩
  · intro v flaw
    exact h.flaws v (Flaw.of_linkedConfig linkable leadsA.mac leadsB.mac flaw)
  · intro x hx
    obtain ⟨d, found, e, he, bound⟩ := h.hosts x hx
    obtain ⟨d', found', extended⟩ := linked.exists_extends found
    exact ⟨d', found', e, extended.ethernets he, bound⟩

theorem Parameters.Explains.attaches {b : Builder} {device : String} {position : Position}
    {t : Topology} (h : p.Explains c) (configured : b ∈ p.builders)
    (attached : b.Attaches device position c c' t) : p.Explains c' :=
  attached.keeps (fun _ set accepts => h.withNodes configured set accepts)
    fun before indexA indexB made => before.link indexA indexB made

end Keeping

/-! ### The whole scenario -/

section Whole

variable {p : Parameters} {c : Config} {result : Result} {v : Violation}

/-- What all steps keep holds in the end. -/
theorem Wiring.explains (w : Wiring p) : p.Explains w.ringAttached := by
  have sending := (Parameters.Explains.start p).addTo List.mem_cons_self w.sends
  have gridAttached := sending.attaches List.mem_cons_self w.attachesGrid
  have receiving := gridAttached.addTo (List.mem_cons_of_mem _ List.mem_cons_self) w.receives
  exact receiving.attaches (List.mem_cons_of_mem _ List.mem_cons_self) w.attachesRing

/-- There are no flows until the last step adds one. -/
theorem Steps.flows_result (s : Steps p) :
    s.result.config.flows = [makeFlow p s.flowName s.sourceRoute s.targetRoute] := by
  rw [Steps.result, Config.addFlow, s.explains.flowless]
  rfl

/-- The route at an end of the flow is one of the endpoints. -/
theorem mem_endpointNames_of_firstV4Route {device : String} {route : String × String}
    (h : firstV4Route c device = .ok route) : route.1 ∈ c.endpointNames := by
  simp only [firstV4Route, bind_eq_ok_iff, liftConfig_eq_ok_iff] at h
  obtain ⟨d, found, h⟩ := h
  split at h
  · next first =>
    cases h
    simp only [Option.bind_eq_bind, Option.bind_eq_some_iff, Option.some.injEq] at first
    obtain ⟨r, runs, range, head, address, _, rfl⟩ := first
    have listed : r ∈ c.routers := List.mem_filterMap.mpr ⟨d, Config.mem_of_device found, runs⟩
    refine List.mem_append_left _ (List.mem_append_right _ (List.mem_map.mpr ⟨range, ?_, rfl⟩))
    exact List.mem_flatMap.mpr ⟨r, listed, List.mem_of_head? head⟩
  · cases h

/-- Every violation of a scenario that is built is the fault of a parameter. -/
theorem blames_of_build (built : p.build = .ok result) (reported : v ∈ result.config.violations) :
    p.Blames v := by
  obtain ⟨s, rfl⟩ := build_eq_ok_iff.mp built
  have explained := s.explains
  have known : (makeFlow p s.flowName s.sourceRoute s.targetRoute).endpoints.AreKnown
      (s.ringAttached.ports.map (·.name)) s.ringAttached.endpointNames := by
    refine ⟨⟨List.cons_ne_nil _ _, List.cons_ne_nil _ _⟩, ?_, ?_⟩
    · intro name member
      rw [List.mem_singleton.mp member]
      exact mem_endpointNames_of_firstV4Route s.fromSource
    · intro name member
      rw [List.mem_singleton.mp member]
      exact mem_endpointNames_of_firstV4Route s.toTarget
  have flaw := (explained.sound.addFlow known).flaw explained.placed.unique reported
  exact explained.flaws v flaw.of_addFlow

/-- A scenario whose topologies are attached to the emulated routers before them is built exactly
from the parameters that fit. However a scenario comes to be built, no port, link, interface,
address object or endpoint of it is ever reported, and whatever is reported is the fault of a
parameter. -/
theorem builds_iff_fits_and_blames (p : Parameters) :
    (p.grid.attachTo = p.tx.port.name → p.ring.attachTo = p.rx.port.name →
      ((∃ result, p.build = .ok result) ↔ p.Fits)) ∧
    ∀ result, p.build = .ok result → ∀ v ∈ result.config.violations, p.Blames v :=
  ⟨exists_build_iff, fun _ built _ reported => blames_of_build built reported⟩

/-- The reference setup with a truncated MAC address, and routes of the grid with too long a prefix.
-/
def faultyParameters : Parameters where
  tx := { defaultTx with port := { defaultTx.port with mac := "02:00:01:01:01" } }
  grid := { defaultGrid with v4Routes := some { firstOctet := 30, prefixLength := 33 } }

theorem builds_iff_fits_and_blames_of_faulty :
    faultyParameters.Fits ∧ ∃ result, faultyParameters.build = .ok result ∧
      result.config.violations ≠ [] ∧
      ∀ v ∈ result.config.violations, faultyParameters.Blames v := by
  obtain ⟨succeeds, blames⟩ := builds_iff_fits_and_blames faultyParameters
  have malformed : faultyParameters.build.toOption.map
      (fun result => result.config.ethernets.all fun e => isMac e.mac) = some false := by
    decide +kernel
  cases built : faultyParameters.build with
  | error e => simp [built, Except.toOption] at malformed
  | ok result =>
    simp only [built, Except.toOption, Option.map_some, Option.some.injEq,
      List.all_eq_false] at malformed
    obtain ⟨e, member, notMac⟩ := malformed
    refine ⟨(succeeds rfl rfl).mp ⟨result, built⟩, result, rfl, fun none => ?_, blames result built⟩
    exact notMac (isMac_iff.mpr (((Config.violations_eq_nil_iff _).mp none).macs e member))

end Whole

end IsisTestbed.Scenario
