import IsisTestbed.Proofs.Config.Lookup
import IsisTestbed.Proofs.Config.Soundness

/-!
How configurations grow. References stay sound when two configurations are put together, and when a
device gets another router or a flow is added between known endpoints; two consistent configurations
that share no names and no system ids are consistent together. None of these steps adds a flaw that
was not in one of its parts.
-/

namespace IsisTestbed

/-- The names of all objects of a device, itself first. -/
def Device.objectNames (d : Device) : List String :=
  d.named.map Prod.fst

/-- Changing one entry of a list adds to what is collected from the list what it adds to what is
collected from the entry. -/
theorem flatMap_modify_perm {α β : Type} {l : List α} {g : α → α} {f : α → List β}
    {extra : List β} {i : Nat} {x : α} (hx : l[i]? = some x)
    (h : (f (g x)).Perm (extra ++ f x)) : ((l.modify i g).flatMap f).Perm (extra ++ l.flatMap f) := by
  obtain ⟨hi, rfl⟩ := List.getElem?_eq_some_iff.mp hx
  have parts : l.flatMap f =
      (l.take i).flatMap f ++ (f l[i] ++ (l.drop (i + 1)).flatMap f) := by
    rw [← List.flatMap_cons, ← List.flatMap_append]
    simp
  have changed : (l.modify i g).flatMap f =
      (l.take i).flatMap f ++ (f (g l[i]) ++ (l.drop (i + 1)).flatMap f) := by
    rw [List.modify_eq_take_cons_drop hi, List.flatMap_append, List.flatMap_cons]
  have around : ((l.take i).flatMap f ++ (f (g l[i]) ++ (l.drop (i + 1)).flatMap f)).Perm
      ((l.take i).flatMap f ++ (extra ++ (f l[i] ++ (l.drop (i + 1)).flatMap f))) := by
    rw [← List.append_assoc extra]
    exact .append_left _ (.append_right _ h)
  rw [changed, parts]
  exact around.trans (List.perm_append_comm_assoc _ _ _)

namespace Config

/-! ### Names, device by device -/

theorem objectNames_perm (c : Config) :
    c.objectNames.Perm (c.ports.map (·.name) ++ c.devices.flatMap Device.objectNames ++
      c.flows.map (·.name)) := by
  refine c.map_named.symm.trans (.of_eq ?_)
  simp only [named, List.map_append, List.map_map, List.map_flatMap]
  rfl

/-- A device at the end comes with its own names. -/
theorem objectNames_addDevice (c : Config) (d : Device) :
    (c.addDevice d).objectNames.Perm (c.objectNames ++ d.objectNames) := by
  apply List.perm_iff_count.mpr
  intro name
  have before := c.objectNames_perm.count_eq name
  have after := (c.addDevice d).objectNames_perm.count_eq name
  simp [addDevice, List.count_append] at before after ⊢
  omega

/-- Distinct names of all objects are distinct names of all devices. -/
theorem nodup_deviceNames {c : Config} (h : c.objectNames.Nodup) :
    (c.devices.map (·.name)).Nodup := by
  simp only [objectNames, List.nodup_append] at h
  tauto

/-- If names are distinct, each device is the one that is found by its name. -/
theorem device_of_mem {c : Config} {d : Device} (distinct : (c.devices.map (·.name)).Nodup)
    (member : d ∈ c.devices) : c.device d.name = .ok d := by
  obtain ⟨found, hfound⟩ := exists_device_iff.mpr (List.mem_map_of_mem (f := (·.name)) member)
  rw [hfound, List.inj_on_of_nodup_map distinct (mem_of_device hfound) member (name_of_device hfound)]

/-! ### Two configurations in one -/

/-- The ports, devices and flows of two configurations, those of the first one first. -/
def append (c c' : Config) : Config where
  ports := c.ports ++ c'.ports
  devices := c.devices ++ c'.devices
  flows := c.flows ++ c'.flows

theorem ethernets_append (c c' : Config) :
    (c.append c').ethernets = c.ethernets ++ c'.ethernets := by
  simp [append, ethernets]

theorem routers_append (c c' : Config) : (c.append c').routers = c.routers ++ c'.routers := by
  simp [append, routers]

theorem mem_ethernets_append {c c' : Config} {e : Ethernet} :
    e ∈ (c.append c').ethernets ↔ e ∈ c.ethernets ∨ e ∈ c'.ethernets := by
  rw [ethernets_append, List.mem_append]

theorem mem_routers_append {c c' : Config} {r : Router} :
    r ∈ (c.append c').routers ↔ r ∈ c.routers ∨ r ∈ c'.routers := by
  rw [routers_append, List.mem_append]

theorem objectNames_append_perm (c c' : Config) :
    (c.append c').objectNames.Perm (c.objectNames ++ c'.objectNames) := by
  apply List.perm_iff_count.mpr
  intro name
  simp only [objectNames, ethernets_append, routers_append, List.flatMap_append, List.map_append,
    List.count_append]
  simp only [append, List.map_append, List.count_append]
  omega

theorem mem_endpointNames_append {c c' : Config} {name : String} :
    name ∈ (c.append c').endpointNames ↔ name ∈ c.endpointNames ∨ name ∈ c'.endpointNames := by
  simp only [endpointNames, ethernets_append, routers_append, List.flatMap_append, List.map_append,
    List.mem_append]
  tauto

end Config

/-- What is known stays known when there are more ports and endpoints. -/
theorem Endpoints.AreKnown.mono {ports ports' endpoints endpoints' : List String} {e : Endpoints}
    (h : e.AreKnown ports endpoints) (hports : ports ⊆ ports')
    (hendpoints : endpoints ⊆ endpoints') : e.AreKnown ports' endpoints' := by
  cases e with
  | ports tx rx =>
    obtain ⟨some, known, all⟩ := h
    exact ⟨some, hports known, fun name member => hports (all name member)⟩
  | devices tx rx =>
    obtain ⟨some, sends, receives⟩ := h
    exact ⟨some, fun name member => hendpoints (sends name member),
      fun name member => hendpoints (receives name member)⟩

namespace Config

/-- Configurations whose references are sound are so together, whatever their names are. -/
theorem Sound.append {c c' : Config} (h : c.Sound) (h' : c'.Sound) : (c.append c').Sound where
  ports := by
    intro e member port connected
    show port ∈ (c.ports ++ c'.ports).map (·.name)
    rw [List.map_append]
    rcases mem_ethernets_append.mp member with old | new
    · exact List.mem_append_left _ (h.ports e old port connected)
    · exact List.mem_append_right _ (h'.ports e new port connected)
  links := by
    intro e member remote connected
    rcases mem_ethernets_append.mp member with old | new
    · obtain ⟨far, hfar, back⟩ := h.links e old remote connected
      exact ⟨far, mem_ethernets_append.mpr (.inl hfar), back⟩
    · obtain ⟨far, hfar, back⟩ := h'.links e new remote connected
      exact ⟨far, mem_ethernets_append.mpr (.inr hfar), back⟩
  interfaces := by
    intro d member
    rcases List.mem_append.mp member with old | new
    · exact h.interfaces d old
    · exact h'.interfaces d new
  addresses := by
    intro e member
    rcases mem_ethernets_append.mp member with old | new
    · exact h.addresses e old
    · exact h'.addresses e new
  flows := by
    intro f member
    have ports : (c.append c').ports.map (·.name) =
        c.ports.map (·.name) ++ c'.ports.map (·.name) := List.map_append
    rw [ports]
    rcases List.mem_append.mp member with old | new
    · exact (h.flows f old).mono (List.subset_append_left _ _)
        fun name known => mem_endpointNames_append.mpr (.inl known)
    · exact (h'.flows f new).mono (List.subset_append_right _ _)
        fun name known => mem_endpointNames_append.mpr (.inr known)

/-- Two configurations together have the flaws of each. -/
theorem Flaw.of_append {c c' : Config} {v : Violation} (h : (c.append c').Flaw v) :
    c.Flaw v ∨ c'.Flaw v := by
  cases h with
  | duplicateName name first second => exact .inl (.duplicateName name first second)
  | duplicateSystemId id first second => exact .inl (.duplicateSystemId id first second)
  | invalidMac member malformed =>
    rcases mem_ethernets_append.mp member with old | new
    · exact .inl (.invalidMac old malformed)
    · exact .inr (.invalidMac new malformed)
  | router member own =>
    rcases mem_routers_append.mp member with old | new
    · exact .inl (.router old own)
    · exact .inr (.router new own)

/-- A flow between known endpoints keeps references sound. -/
theorem Sound.addFlow {c : Config} {f : Flow} (h : c.Sound)
    (known : f.endpoints.AreKnown (c.ports.map (·.name)) c.endpointNames) :
    (c.addFlow f).Sound where
  ports := h.ports
  links := h.links
  interfaces := h.interfaces
  addresses := h.addresses
  flows := by
    intro g member
    rcases List.mem_append.mp member with old | new
    · exact h.flows g old
    · rw [List.mem_singleton.mp new]
      exact known

/-- Flows have no flaws of their own. -/
theorem Flaw.of_addFlow {c : Config} {f : Flow} {v : Violation} (h : (c.addFlow f).Flaw v) :
    c.Flaw v := by
  cases h with
  | duplicateName name first second => exact .duplicateName name first second
  | duplicateSystemId id first second => exact .duplicateSystemId id first second
  | invalidMac member malformed => exact .invalidMac member malformed
  | router member own => exact .router member own

/-- Consistent configurations that share no name and no system id are consistent together. -/
theorem Consistent.append {c c' : Config} (h : c.Consistent) (h' : c'.Consistent)
    (names : ∀ name ∈ c.objectNames, name ∉ c'.objectNames)
    (ids : ∀ r ∈ c.routers, ∀ r' ∈ c'.routers, foldCase r.systemId ≠ foldCase r'.systemId) :
    (c.append c').Consistent := by
  refine .of_sound (h.sound.append h'.sound) ?_ ?_ ?_ ?_ ?_
  · rw [(objectNames_append_perm c c').nodup_iff, List.nodup_append]
    refine ⟨h.names, h'.names, ?_⟩
    rintro name member _ member' rfl
    exact names name member member'
  · intro e member
    rcases mem_ethernets_append.mp member with old | new
    · exact h.macs e old
    · exact h'.macs e new
  · intro r member
    rcases mem_routers_append.mp member with old | new
    · exact h.systemIds r old
    · exact h'.systemIds r new
  · rw [routers_append, List.map_append, List.nodup_append]
    refine ⟨h.distinctSystemIds, h'.distinctSystemIds, ?_⟩
    intro id member id' member' same
    obtain ⟨r, hr, rfl⟩ := List.mem_map.mp member
    obtain ⟨r', hr', rfl⟩ := List.mem_map.mp member'
    exact ids r hr r' hr' same
  · intro r member
    rcases mem_routers_append.mp member with old | new
    · exact h.routes r old
    · exact h'.routes r new

/-- If two configurations are consistent together, they share no name. -/
theorem Consistent.names_apart {c c' : Config} (h : (c.append c').Consistent) :
    ∀ name ∈ c.objectNames, name ∉ c'.objectNames := by
  have distinct := (objectNames_append_perm c c').nodup_iff.mp h.names
  intro name member member'
  exact (List.nodup_append.mp distinct).2.2 name member name member' rfl

/-- If two configurations are consistent together, they share no system id. -/
theorem Consistent.systemIds_apart {c c' : Config} (h : (c.append c').Consistent) :
    ∀ r ∈ c.routers, ∀ r' ∈ c'.routers, foldCase r.systemId ≠ foldCase r'.systemId := by
  have distinct := h.distinctSystemIds
  rw [routers_append, List.map_append] at distinct
  intro r member r' member'
  exact (List.nodup_append.mp distinct).2.2 _ (List.mem_map_of_mem member) _
    (List.mem_map_of_mem member')

/-- Two configurations without violations have none together exactly if they share no name and no
system id, where the case of the latter does not matter. -/
theorem append_keeps_validity_iff (c c' : Config) (valid : c.violations = [])
    (valid' : c'.violations = []) :
    (c.append c').violations = [] ↔
      (∀ name ∈ c.objectNames, name ∉ c'.objectNames) ∧
      ∀ r ∈ c.routers, ∀ r' ∈ c'.routers, foldCase r.systemId ≠ foldCase r'.systemId := by
  rw [violations_eq_nil_iff] at valid valid' ⊢
  constructor
  · intro together
    exact ⟨together.names_apart, together.systemIds_apart⟩
  · rintro ⟨names, ids⟩
    exact valid.append valid' names ids

/-- A tester on a port, with a router whose neighbour it is inside the generator and which it sends
to. All names and both system ids begin with the same text. -/
def testerWithRouter (start : String) : Config where
  ports := [{ name := start ++ ".port" }]
  devices :=
    [{ name := start ++ ".tester"
       ethernets :=
        [{ name := start ++ ".tester.port", mac := "00:11:22:33:44:55"
           connection := some (.port (start ++ ".port"))
           ipv4 := [⟨start ++ ".tester.v4", "192.0.2.1", "192.0.2.2", 24⟩] },
         { name := start ++ ".tester.link", mac := "00:11:22:33:44:56"
           connection := some (.simulatedLink (start ++ ".router.link")) }]
       isis := some
        { name := start ++ ".tester.isis", systemId := start ++ "00000000001"
          interfaces := [{ name := start ++ ".i1", ethernet := start ++ ".tester.link" }] } },
     { name := start ++ ".router"
       ethernets :=
        [{ name := start ++ ".router.link", mac := "00:11:22:33:44:57"
           connection := some (.simulatedLink (start ++ ".tester.link")) }]
       isis := some
        { name := start ++ ".router.isis", systemId := start ++ "00000000002"
          interfaces := [{ name := start ++ ".i2", ethernet := start ++ ".router.link" }]
          v6Routes :=
            [{ name := start ++ ".routes"
               addresses := [{ address := "2001:db8::", prefixLength := some 64 }] }] } }]
  flows := [.between (start ++ ".flow") [start ++ ".tester.v4"] [start ++ ".routes"]]

theorem append_keeps_validity_iff_of_testers :
    ((testerWithRouter "a").append (testerWithRouter "b")).violations = [] ∧
      (∀ name ∈ (testerWithRouter "a").objectNames,
        name ∉ (testerWithRouter "A").objectNames) ∧
      ((testerWithRouter "a").append (testerWithRouter "A")).violations ≠ [] := by
  have validA : (testerWithRouter "a").violations = [] := by decide +kernel
  have validB : (testerWithRouter "b").violations = [] := by decide +kernel
  have validUpper : (testerWithRouter "A").violations = [] := by decide +kernel
  refine ⟨(append_keeps_validity_iff _ _ validA validB).mpr ⟨?_, ?_⟩, ?_, ?_⟩
  · decide +kernel
  · decide +kernel
  · decide +kernel
  · intro none
    obtain ⟨_, ids⟩ := (append_keeps_validity_iff _ _ validA validUpper).mp none
    -- The routers of the testers have the same system id, in a different case.
    exact ids _ List.mem_cons_self _ List.mem_cons_self (by decide +kernel)

end Config

/-! ### Another router -/

namespace Config

variable {c : Config} {i : Nat} {d : Device} {r : Router}

theorem mem_routers_withRouter {r' : Router}
    (h : r' ∈ (c.modifyDevice i fun d => d.withRouter (some r)).routers) :
    r' ∈ c.routers ∨ r' = r := by
  obtain ⟨d', member, runs⟩ := List.mem_filterMap.mp h
  rcases mem_modify member with old | ⟨_, _, rfl⟩
  · exact .inl (List.mem_filterMap.mpr ⟨d', old, runs⟩)
  · exact .inr (Option.some.inj runs).symm

theorem ethernets_withRouter (c : Config) (i : Nat) (r : Router) :
    (c.modifyDevice i fun d => d.withRouter (some r)).ethernets = c.ethernets :=
  ethernets_modifyDevice fun d _ => d.ethernets_withRouter (some r)

/-- A router whose interfaces are on ethernets of its device keeps references sound, as long as
there are no flows that might refer to the routes of the one before. -/
theorem Sound.withRouter (h : c.Sound) (flowless : c.flows = []) (found : c.devices[i]? = some d)
    (bound : ∀ interface ∈ r.interfaces, ∃ e ∈ d.ethernets, e.name = interface.ethernet) :
    (c.modifyDevice i fun d => d.withRouter (some r)).Sound where
  ports := ethernets_withRouter c i r ▸ h.ports
  links := ethernets_withRouter c i r ▸ h.links
  interfaces := by
    intro d' member r' runs interface hinterface
    rcases mem_modify member with old | ⟨x, atI, rfl⟩
    · exact h.interfaces d' old r' runs interface hinterface
    · cases Option.some.inj (found.symm.trans atI)
      cases runs
      exact bound interface hinterface
  addresses := ethernets_withRouter c i r ▸ h.addresses
  flows := by
    intro f member
    have member : f ∈ c.flows := member
    rw [flowless] at member
    cases member

/-- Another router has its own flaws, and the rest has those from before. -/
theorem Flaw.of_withRouter {v : Violation}
    (h : (c.modifyDevice i fun d => d.withRouter (some r)).Flaw v) : c.Flaw v ∨ r.Flaw v := by
  cases h with
  | duplicateName name first second => exact .inl (.duplicateName name first second)
  | duplicateSystemId id first second => exact .inl (.duplicateSystemId id first second)
  | invalidMac member malformed =>
    exact .inl (.invalidMac (ethernets_withRouter c i r ▸ member) malformed)
  | router member own =>
    rcases mem_routers_withRouter member with old | rfl
    · exact .inl (.router old own)
    · exact .inr own

end Config

end IsisTestbed
