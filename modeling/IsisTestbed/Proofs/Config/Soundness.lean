import IsisTestbed.Proofs.Config.Consistency

/-!
Configurations whose references are sound: whatever is referred to exists, links are mirrored, and
the addresses of ethernets can be read. That leaves names, MAC addresses, system ids and routes to
go wrong. If no end of a simulated link shares its name with another ethernet, the checker reports
nothing else.
-/

namespace IsisTestbed

/-- What can be wrong with a router, apart from its interfaces. -/
inductive Router.Flaw (r : Router) : Violation → Prop where
  | invalidSystemId (malformed : ¬ IsSystemId r.systemId) :
      Flaw r (.invalidSystemId r.name r.systemId)
  | invalidV4Route {route : RouteRange} {a : RouteAddress} (hroute : route ∈ r.v4Routes)
      (ha : a ∈ route.addresses) (invalid : ¬ a.IsValid isIpv4 32) :
      Flaw r (.invalidAddress route.name a.address (a.prefixLength.getD 32))
  | invalidV6Route {route : RouteRange} {a : RouteAddress} (hroute : route ∈ r.v6Routes)
      (ha : a ∈ route.addresses) (invalid : ¬ a.IsValid isIpv6 128) :
      Flaw r (.invalidAddress route.name a.address (a.prefixLength.getD 128))

namespace Config

/-- Whether all references of a configuration are sound. Names may be used twice, and MAC addresses,
system ids and routes may be malformed. -/
structure Sound (c : Config) : Prop where
  ports : ∀ e ∈ c.ethernets, ∀ port, e.connection = some (.port port) →
    port ∈ c.ports.map (·.name)
  links : ∀ e ∈ c.ethernets, ∀ remote, e.connection = some (.simulatedLink remote) →
    ∃ far ∈ c.ethernets, far.name = remote ∧ far.connection = some (.simulatedLink e.name)
  interfaces : ∀ d ∈ c.devices, d.InterfacesAreBound
  addresses : ∀ e ∈ c.ethernets, e.AddressesAreValid
  flows : ∀ f ∈ c.flows, f.endpoints.AreKnown (c.ports.map (·.name)) c.endpointNames

/-- Whether each end of a simulated link is the only ethernet of its name. -/
def EndsAreUnique (c : Config) : Prop :=
  ∀ far ∈ c.ethernets, ∀ remote, far.connection = some (.simulatedLink remote) →
    ∀ other ∈ c.ethernets, other.name = far.name → other = far

/-- What can be wrong with a configuration whose references are sound. -/
inductive Flaw (c : Config) : Violation → Prop where
  | duplicateName (name : String) (first second : ObjectKind) :
      Flaw c (.duplicateName name first second)
  | duplicateSystemId (systemId first second : String) :
      Flaw c (.duplicateSystemId systemId first second)
  | invalidMac {e : Ethernet} (member : e ∈ c.ethernets) (malformed : ¬ IsMac e.mac) :
      Flaw c (.invalidMac e.name e.mac)
  | router {r : Router} {v : Violation} (member : r ∈ c.routers) (own : r.Flaw v) : Flaw c v

variable {c : Config} {v : Violation}

theorem Consistent.sound (h : c.Consistent) : c.Sound where
  ports := h.ports
  links := h.links
  interfaces := h.interfaces
  addresses := h.addresses
  flows := h.flows

/-- Consistency is soundness of the references and order of all the rest. -/
theorem Consistent.of_sound (h : c.Sound) (names : c.objectNames.Nodup)
    (macs : ∀ e ∈ c.ethernets, IsMac e.mac) (systemIds : ∀ r ∈ c.routers, IsSystemId r.systemId)
    (distinctSystemIds : (c.routers.map fun r => foldCase r.systemId).Nodup)
    (routes : ∀ r ∈ c.routers, r.RoutesAreValid) : c.Consistent where
  names := names
  ports := h.ports
  links := h.links
  interfaces := h.interfaces
  macs := macs
  systemIds := systemIds
  distinctSystemIds := distinctSystemIds
  addresses := h.addresses
  routes := routes
  flows := h.flows

/-! ### What each check can report -/

theorem exists_of_mem_duplicateNames {seen objects : List (String × ObjectKind)}
    (h : v ∈ duplicateNames seen objects) :
    ∃ name first second, v = .duplicateName name first second := by
  induction objects generalizing seen with
  | nil => cases h
  | cons o rest ih =>
    obtain ⟨name, kind⟩ := o
    unfold duplicateNames at h
    split at h
    · next _ first _ =>
      rcases List.mem_cons.mp h with rfl | later
      · exact ⟨name, first, kind, rfl⟩
      · exact ih later
    · exact ih h

theorem mem_routeAddressViolations {isAddress : String → Bool} {longest : UInt8} {route : String}
    {a : RouteAddress} (h : v ∈ routeAddressViolations isAddress longest route a) :
    ¬ a.IsValid isAddress longest ∧
      v = .invalidAddress route a.address (a.prefixLength.getD longest) := by
  refine ⟨fun valid => ?_, ?_⟩
  · rw [routeAddressViolations_eq_nil_iff.mpr valid] at h
    cases h
  · simp only [routeAddressViolations] at h
    split at h
    · cases h
    · exact List.mem_singleton.mp h

/-- If its interfaces are bound, only the routes of a router are left to go wrong. -/
theorem flaw_of_routerViolations {d : Device} {r : Router} (bound : d.InterfacesAreBound)
    (runs : d.isis = some r) (h : v ∈ routerViolations d r) : r.Flaw v := by
  rcases List.mem_append.mp h with front | v6
  · rcases List.mem_append.mp front with unbound | v4
    · obtain ⟨i, missing, _⟩ := List.mem_map.mp unbound
      obtain ⟨hi, none⟩ := List.mem_filter.mp missing
      have some := ethernet?_isSome_iff.mpr (bound r runs i hi)
      rw [Option.isNone_iff_eq_none.mp none] at some
      cases some
    · obtain ⟨route, hroute, h⟩ := List.mem_flatMap.mp v4
      obtain ⟨a, ha, h⟩ := List.mem_flatMap.mp h
      obtain ⟨invalid, rfl⟩ := mem_routeAddressViolations h
      exact .invalidV4Route hroute ha invalid
  · obtain ⟨route, hroute, h⟩ := List.mem_flatMap.mp v6
    obtain ⟨a, ha, h⟩ := List.mem_flatMap.mp h
    obtain ⟨invalid, rfl⟩ := mem_routeAddressViolations h
    exact .invalidV6Route hroute ha invalid

/-- The induction is on the devices that are left to be checked. -/
theorem Flaw.of_isisViolations {seen : List (List Char × String)} {devices : List Device}
    (bound : ∀ d ∈ devices, d.InterfacesAreBound) (among : devices ⊆ c.devices)
    (h : v ∈ isisViolations seen devices) : c.Flaw v := by
  induction devices generalizing seen with
  | nil => cases h
  | cons d rest ih =>
    have later {seen : List (List Char × String)} (h : v ∈ isisViolations seen rest) : c.Flaw v :=
      ih (fun d' member => bound d' (List.mem_cons_of_mem _ member))
        (fun d' member => among (List.mem_cons_of_mem _ member)) h
    unfold isisViolations at h
    cases runs : d.isis with
    | none =>
      rw [runs] at h
      exact later h
    | some r =>
      have listed : r ∈ c.routers :=
        List.mem_filterMap.mpr ⟨d, among List.mem_cons_self, runs⟩
      have own (h : v ∈ routerViolations d r) : c.Flaw v :=
        .router listed (flaw_of_routerViolations (bound d List.mem_cons_self) runs h)
      simp only [runs] at h
      split at h
      · split at h
        · rcases List.mem_append.mp h with front | rest
          · rcases List.mem_cons.mp front with rfl | routes
            · exact .duplicateSystemId _ _ _
            · exact own routes
          · exact later rest
        · rcases List.mem_append.mp h with routes | rest
          · exact own routes
          · exact later rest
      · next malformed =>
        rcases List.mem_append.mp h with front | rest
        · rcases List.mem_cons.mp front with rfl | routes
          · exact .router listed
              (.invalidSystemId fun wellFormed => malformed (isSystemId_iff.mpr wellFormed))
          · exact own routes
        · exact later rest

/-- Connections are in order if ports are known and links are mirrored by ethernets that are found
by their names. -/
theorem Sound.connectionViolations_eq_nil (h : c.Sound) (unique : c.EndsAreUnique) {e : Ethernet}
    (member : e ∈ c.ethernets) :
    connectionViolations (c.ports.map (·.name)) c.ethernets e = [] := by
  unfold connectionViolations
  split
  · rfl
  · next port connected =>
    rw [if_pos (List.contains_iff_mem.mpr (h.ports e member port connected))]
  · next remote connected =>
    obtain ⟨far, hfar, rfl, back⟩ := h.links e member remote connected
    simp [lastEthernet?_of_unique hfar (unique far hfar e.name back),
      remote?_eq_some_iff.mpr back]

/-- The checker reports nothing but flaws about a configuration whose references are sound. -/
theorem Sound.flaw (h : c.Sound) (unique : c.EndsAreUnique) (reported : v ∈ c.violations) :
    c.Flaw v := by
  simp only [violations, List.mem_append] at reported
  rcases reported with (((names | ethernets) | routers) | addresses) | flows
  · obtain ⟨name, first, second, rfl⟩ := exists_of_mem_duplicateNames names
    exact .duplicateName name first second
  · obtain ⟨e, member, own⟩ := List.mem_flatMap.mp ethernets
    rw [ethernetViolations, h.connectionViolations_eq_nil unique member, List.append_nil] at own
    split at own
    · cases own
    · next malformed =>
      rw [List.mem_singleton.mp own]
      exact .invalidMac member fun wellFormed => malformed (isMac_iff.mpr wellFormed)
  · exact .of_isisViolations h.interfaces (List.Subset.refl _) routers
  · obtain ⟨e, member, own⟩ := List.mem_flatMap.mp addresses
    rw [addressViolations_eq_nil_iff.mpr (h.addresses e member)] at own
    cases own
  · obtain ⟨f, member, own⟩ := List.mem_flatMap.mp flows
    have known := areKnown_endpoints_iff.mpr (h.flows f member)
    rw [flowViolations_eq_nil_iff.mpr known] at own
    cases own

end Config

end IsisTestbed
