import IsisTestbed.Config.Violations
import Mathlib.Data.List.Perm.Basic
import Mathlib.Data.List.Nodup

/-!
What consistency of a configuration means. `Config.Consistent` states it about the objects of the
configuration, without an order of checks and without look-ups. The checker finds no violation
exactly in the consistent configurations.
-/

namespace IsisTestbed

/-! ### Texts -/

/-- Whether a character is a hexadecimal digit, in either case. -/
def IsHexDigit (c : Char) : Prop :=
  ('0' ≤ c ∧ c ≤ '9') ∨ ('a' ≤ c ∧ c ≤ 'f') ∨ ('A' ≤ c ∧ c ≤ 'F')

/-- Whether a text is six pairs of hexadecimal digits with colons between them. -/
def IsMac (s : String) : Prop :=
  ∃ pairs : List (Char × Char), pairs.length = 6 ∧
    (∀ p ∈ pairs, IsHexDigit p.1 ∧ IsHexDigit p.2) ∧
    s.toList = [':'].intercalate (pairs.map fun p => [p.1, p.2])

/-- Whether a text is exactly twelve hexadecimal digits. -/
def IsSystemId (s : String) : Prop :=
  s.toList.length = 12 ∧ ∀ c ∈ s.toList, IsHexDigit c

/-! ### Parts of configurations -/

/-- Whether both addresses of an address object can be read, and its prefix is not too long. -/
def InterfaceAddress.IsValid (isAddress : String → Bool) (longest : UInt8)
    (a : InterfaceAddress) : Prop :=
  isAddress a.address = true ∧ isAddress a.gateway = true ∧ a.prefixLength ≤ longest

/-- Whether the address of a block can be read, and its prefix is absent or not too long. -/
def RouteAddress.IsValid (isAddress : String → Bool) (longest : UInt8) (a : RouteAddress) : Prop :=
  isAddress a.address = true ∧ ∀ length, a.prefixLength = some length → length ≤ longest

/-- Whether all blocks of the routes of a router are valid in their family. -/
structure Router.RoutesAreValid (r : Router) : Prop where
  v4 : ∀ route ∈ r.v4Routes, ∀ a ∈ route.addresses, a.IsValid isIpv4 32
  v6 : ∀ route ∈ r.v6Routes, ∀ a ∈ route.addresses, a.IsValid isIpv6 128

/-- Whether all address objects of an ethernet are valid in their family. -/
structure Ethernet.AddressesAreValid (e : Ethernet) : Prop where
  v4 : ∀ a ∈ e.ipv4, a.IsValid isIpv4 32
  v6 : ∀ a ∈ e.ipv6, a.IsValid isIpv6 128

/-- Whether each ISIS interface of a device is on one of its ethernets. -/
def Device.InterfacesAreBound (d : Device) : Prop :=
  ∀ r, d.isis = some r → ∀ i ∈ r.interfaces, ∃ e ∈ d.ethernets, e.name = i.ethernet

/-- Whether a flow transmits and receives, and only between existing ports or between existing
endpoints on devices. -/
def Endpoints.AreKnown (ports endpoints : List String) : Endpoints → Prop
  | .ports tx rx => rx ≠ [] ∧ tx ∈ ports ∧ ∀ name ∈ rx, name ∈ ports
  | .devices tx rx =>
      (tx ≠ [] ∧ rx ≠ []) ∧ (∀ name ∈ tx, name ∈ endpoints) ∧ ∀ name ∈ rx, name ∈ endpoints

namespace Config

/-- The names of all objects, kind by kind. -/
def objectNames (c : Config) : List String :=
  c.ports.map (·.name) ++ c.devices.map (·.name) ++ c.ethernets.map (·.name) ++
    (c.ethernets.flatMap (·.ipv4)).map (·.name) ++ (c.ethernets.flatMap (·.ipv6)).map (·.name) ++
    c.routers.map (·.name) ++ (c.routers.flatMap (·.interfaces)).map (·.name) ++
    (c.routers.flatMap (·.v4Routes)).map (·.name) ++
    (c.routers.flatMap (·.v6Routes)).map (·.name) ++ c.flows.map (·.name)

/-- The names of the address objects and route ranges of all devices. -/
def endpointNames (c : Config) : List String :=
  (c.ethernets.flatMap (·.ipv4)).map (·.name) ++ (c.ethernets.flatMap (·.ipv6)).map (·.name) ++
    (c.routers.flatMap (·.v4Routes)).map (·.name) ++ (c.routers.flatMap (·.v6Routes)).map (·.name)

/-- Consistency of a configuration. -/
structure Consistent (c : Config) : Prop where
  /-- No name is used twice, over all kinds of objects. -/
  names : c.objectNames.Nodup
  /-- Connections to ports lead to existing ports. -/
  ports : ∀ e ∈ c.ethernets, ∀ port, e.connection = some (.port port) →
    port ∈ c.ports.map (·.name)
  /-- Each simulated link leads to an ethernet on a simulated link that leads back. -/
  links : ∀ e ∈ c.ethernets, ∀ remote, e.connection = some (.simulatedLink remote) →
    ∃ far ∈ c.ethernets, far.name = remote ∧ far.connection = some (.simulatedLink e.name)
  /-- Each ISIS interface is on an ethernet of its own device. -/
  interfaces : ∀ d ∈ c.devices, d.InterfacesAreBound
  macs : ∀ e ∈ c.ethernets, IsMac e.mac
  systemIds : ∀ r ∈ c.routers, IsSystemId r.systemId
  /-- No system id is used twice, in whatever case its digits are written. -/
  distinctSystemIds : (c.routers.map fun r => foldCase r.systemId).Nodup
  addresses : ∀ e ∈ c.ethernets, e.AddressesAreValid
  routes : ∀ r ∈ c.routers, r.RoutesAreValid
  flows : ∀ f ∈ c.flows, f.endpoints.AreKnown (c.ports.map (·.name)) c.endpointNames

end Config

/-! ### Reading texts -/

theorem isHexDigit_iff {c : Char} : Text.isHexDigit c = true ↔ IsHexDigit c := by
  have low {a b : Char} (h : a ≤ b) : a.toNat ≤ b.toNat := h
  unfold Text.isHexDigit Text.digit? IsHexDigit
  split
  · next h =>
    have := low h.2
    simp only [Char.reduceToNat] at this
    simp [h, Option.filter]
    omega
  · next h0 =>
    split
    · next h =>
      have := low h.2
      simp only [Char.reduceToNat] at this
      simp [h, Option.filter]
      omega
    · next ha =>
      split
      · next h =>
        have := low h.2
        simp only [Char.reduceToNat] at this
        simp [h, Option.filter]
        omega
      · next hA => simp [h0, ha, hA]

theorem isSystemId_iff {s : String} : isSystemId s = true ↔ IsSystemId s := by
  simp [isSystemId, IsSystemId, isHexDigit_iff]

theorem isMac_iff {s : String} : isMac s = true ↔ IsMac s := by
  unfold isMac IsMac
  constructor
  · intro h
    split at h
    · next a b c d e f g h' i j k l heq =>
      refine ⟨[(a, b), (c, d), (e, f), (g, h'), (i, j), (k, l)], rfl, ?_, heq⟩
      simpa [isHexDigit_iff, and_assoc] using h
    · exact absurd h (by decide)
  · rintro ⟨pairs, hlength, hdigits, htext⟩
    match pairs, hlength with
    | [p, q, r, s, t, u], _ =>
      have text : String.toList _ = [p.1, p.2, ':', q.1, q.2, ':', r.1, r.2, ':', s.1, s.2, ':',
        t.1, t.2, ':', u.1, u.2] := htext
      rw [text]
      simpa [isHexDigit_iff, and_assoc] using hdigits

/-! ### What was seen before -/

section Seen

variable {α β : Type} [BEq α] [LawfulBEq α] {seen : List (α × β)} {key : α}

theorem mem_keys_of_find? {first : α × β} (found : seen.find? (·.1 == key) = some first) :
    key ∈ seen.map Prod.fst := by
  have same := List.find?_some found
  exact List.mem_map.mpr ⟨first, List.mem_of_find?_eq_some found, by simpa using same⟩

theorem not_mem_keys_of_find? (unused : seen.find? (·.1 == key) = none) :
    key ∉ seen.map Prod.fst := by
  intro used
  obtain ⟨entry, member, same⟩ := List.mem_map.mp used
  exact List.find?_eq_none.mp unused entry member (by simpa using same)

end Seen

/-! ### Names -/

/-- The checker finds no duplicate exactly if the names are distinct, and not among those seen. -/
theorem duplicateNames_eq_nil_iff (seen objects : List (String × ObjectKind)) :
    duplicateNames seen objects = [] ↔
      (objects.map Prod.fst).Nodup ∧ ∀ o ∈ objects, o.1 ∉ seen.map Prod.fst := by
  induction objects generalizing seen with
  | nil => simp [duplicateNames]
  | cons o rest ih =>
    obtain ⟨name, kind⟩ := o
    unfold duplicateNames
    split
    · next first kind' found =>
      simp only [reduceCtorEq, false_iff, not_and]
      intro _ fresh
      exact fresh (name, kind) (by simp) (mem_keys_of_find? found)
    · next unused =>
      have fresh : name ∉ seen.map Prod.fst := not_mem_keys_of_find? unused
      rw [ih]
      simp only [List.map_cons, List.nodup_cons, List.mem_cons, forall_eq_or_imp]
      constructor
      · rintro ⟨distinct, new⟩
        refine ⟨⟨?_, distinct⟩, fresh, fun o ho => (not_or.mp (new o ho)).2⟩
        intro again
        obtain ⟨o, ho, same⟩ := List.mem_map.mp again
        exact (not_or.mp (new o ho)).1 same
      · rintro ⟨⟨once, distinct⟩, _, new⟩
        refine ⟨distinct, fun o ho => not_or.mpr ⟨?_, new o ho⟩⟩
        intro same
        exact once (List.mem_map.mpr ⟨o, ho, same⟩)

theorem map_named_ethernets (ethernets : List Ethernet) :
    ((ethernets.flatMap Ethernet.named).map Prod.fst).Perm
      (ethernets.map (·.name) ++ (ethernets.flatMap (·.ipv4)).map (·.name) ++
        (ethernets.flatMap (·.ipv6)).map (·.name)) := by
  induction ethernets with
  | nil => exact .refl _
  | cons e rest ih =>
    apply List.perm_iff_count.mpr
    intro name
    have := ih.count_eq name
    simp only [List.flatMap_cons, Ethernet.named, List.map_append, List.map_cons, List.map_map,
      List.count_append, List.count_cons, List.cons_append, Function.comp_def] at this ⊢
    omega

/-- The objects of the document, taken kind by kind. -/
theorem map_named_devices (devices : List Device) :
    ((devices.flatMap Device.named).map Prod.fst).Perm
      (devices.map (·.name) ++ (devices.flatMap (·.ethernets)).map (·.name) ++
        ((devices.flatMap (·.ethernets)).flatMap (·.ipv4)).map (·.name) ++
        ((devices.flatMap (·.ethernets)).flatMap (·.ipv6)).map (·.name) ++
        (devices.filterMap (·.isis)).map (·.name) ++
        ((devices.filterMap (·.isis)).flatMap (·.interfaces)).map (·.name) ++
        ((devices.filterMap (·.isis)).flatMap (·.v4Routes)).map (·.name) ++
        ((devices.filterMap (·.isis)).flatMap (·.v6Routes)).map (·.name)) := by
  induction devices with
  | nil => exact .refl _
  | cons d rest ih =>
    apply List.perm_iff_count.mpr
    intro name
    have later := ih.count_eq name
    have own := (map_named_ethernets d.ethernets).count_eq name
    cases hr : d.isis with
    | none =>
      have same : (d :: rest).filterMap (·.isis) = rest.filterMap (·.isis) :=
        List.filterMap_cons_none hr
      simp only [List.flatMap_cons, Device.named, hr, same, Option.toList,
        List.flatMap_nil, List.map_append, List.map_cons, List.flatMap_append, List.count_append,
        List.count_cons, List.cons_append, List.map_nil, List.count_nil] at later own ⊢
      omega
    | some r =>
      have one : (d :: rest).filterMap (·.isis) = r :: rest.filterMap (·.isis) :=
        List.filterMap_cons_some hr
      simp only [List.flatMap_cons, Device.named, Router.named, Router.routes, hr, one,
        Option.toList, List.flatMap_nil, List.map_append, List.map_cons, List.map_map,
        List.flatMap_append, List.count_append, List.count_cons, List.cons_append,
        List.append_nil, Function.comp_def] at later own ⊢
      omega

namespace Config

theorem map_named (c : Config) : (c.named.map Prod.fst).Perm c.objectNames := by
  apply List.perm_iff_count.mpr
  intro name
  have inner := (map_named_devices c.devices).count_eq name
  simp only [named, objectNames, ethernets, routers, List.map_append, List.map_map,
    List.count_append, Function.comp_def] at inner ⊢
  omega

theorem duplicateNames_named_iff (c : Config) :
    duplicateNames [] c.named = [] ↔ c.objectNames.Nodup := by
  simp [duplicateNames_eq_nil_iff, c.map_named.nodup_iff]

/-- Distinct names of all objects are distinct names of all ethernets. -/
theorem nodup_ethernets {c : Config} (h : c.objectNames.Nodup) :
    (c.ethernets.map (·.name)).Nodup := by
  simp only [objectNames, List.nodup_append] at h
  tauto

end Config

/-! ### Connections -/

theorem remote?_eq_some_iff {e : Ethernet} {remote : String} :
    e.remote? = some remote ↔ e.connection = some (.simulatedLink remote) := by
  unfold Ethernet.remote?
  split <;> simp_all

theorem lastEthernet?_eq_some {ethernets : List Ethernet} {name : String} {e : Ethernet}
    (h : lastEthernet? ethernets name = some e) : e ∈ ethernets ∧ e.name = name := by
  have same := List.find?_some h
  exact ⟨List.mem_reverse.mp (List.mem_of_find?_eq_some h), by simpa using same⟩

/-- If only one ethernet has a name, it is the last one of that name. -/
theorem lastEthernet?_of_unique {ethernets : List Ethernet} {e : Ethernet} (h : e ∈ ethernets)
    (unique : ∀ other ∈ ethernets, other.name = e.name → other = e) :
    lastEthernet? ethernets e.name = some e := by
  have found : (lastEthernet? ethernets e.name).isSome = true :=
    List.find?_isSome.mpr ⟨e, List.mem_reverse.mpr h, by simp⟩
  obtain ⟨last, hlast⟩ := Option.isSome_iff_exists.mp found
  obtain ⟨member, same⟩ := lastEthernet?_eq_some hlast
  rw [hlast, unique last member same]

/-- If names are distinct, the last ethernet of a name is the one that has it. -/
theorem lastEthernet?_of_mem {ethernets : List Ethernet} {e : Ethernet}
    (distinct : (ethernets.map (·.name)).Nodup) (h : e ∈ ethernets) :
    lastEthernet? ethernets e.name = some e :=
  lastEthernet?_of_unique h fun _ member same => List.inj_on_of_nodup_map distinct member h same

/-- The check of one connection, when the names of ethernets are distinct. -/
theorem connectionViolations_eq_nil_iff {ports : List String} {ethernets : List Ethernet}
    (distinct : (ethernets.map (·.name)).Nodup) (e : Ethernet) :
    connectionViolations ports ethernets e = [] ↔
      (∀ port, e.connection = some (.port port) → port ∈ ports) ∧
        ∀ remote, e.connection = some (.simulatedLink remote) →
          ∃ far ∈ ethernets, far.name = remote ∧ far.connection = some (.simulatedLink e.name) := by
  unfold connectionViolations
  split
  · next h => simp [h]
  · next port h => simp [h]
  · next remote h =>
    simp only [h, Option.some.injEq, reduceCtorEq, false_implies, implies_true, true_and,
      Connection.simulatedLink.injEq, forall_eq']
    constructor
    · intro none
      split at none
      · exact absurd none (by simp)
      · next far hfar =>
        obtain ⟨member, same⟩ := lastEthernet?_eq_some hfar
        refine ⟨far, member, same, remote?_eq_some_iff.mp ?_⟩
        by_contra other
        simp [other] at none
    · rintro ⟨far, member, rfl, back⟩
      rw [lastEthernet?_of_mem distinct member]
      simp [remote?_eq_some_iff.mpr back]

theorem ethernetViolations_eq_nil_iff {ports : List String} {ethernets : List Ethernet}
    (e : Ethernet) :
    ethernetViolations ports ethernets e = [] ↔
      IsMac e.mac ∧ connectionViolations ports ethernets e = [] := by
  unfold ethernetViolations
  rw [List.append_eq_nil_iff, ← isMac_iff]
  cases isMac e.mac <;> simp

/-! ### Addresses -/

theorem routeAddressViolations_eq_nil_iff {isAddress : String → Bool} {longest : UInt8}
    {route : String} {a : RouteAddress} :
    routeAddressViolations isAddress longest route a = [] ↔ a.IsValid isAddress longest := by
  unfold routeAddressViolations RouteAddress.IsValid
  cases a.prefixLength <;> simp

theorem interfaceAddressViolations_eq_nil_iff {isAddress : String → Bool} {longest : UInt8}
    {a : InterfaceAddress} :
    interfaceAddressViolations isAddress longest a = [] ↔ a.IsValid isAddress longest := by
  simp [interfaceAddressViolations, InterfaceAddress.IsValid, and_assoc]

theorem addressViolations_eq_nil_iff {e : Ethernet} :
    addressViolations e = [] ↔ e.AddressesAreValid := by
  simp only [addressViolations, List.append_eq_nil_iff, List.flatMap_eq_nil_iff,
    interfaceAddressViolations_eq_nil_iff]
  exact ⟨fun ⟨v4, v6⟩ => ⟨v4, v6⟩, fun ⟨v4, v6⟩ => ⟨v4, v6⟩⟩

/-! ### ISIS routers -/

theorem ethernet?_isSome_iff {d : Device} {name : String} :
    (d.ethernet? name).isSome = true ↔ ∃ e ∈ d.ethernets, e.name = name := by
  simp [Device.ethernet?]

theorem routerViolations_eq_nil_iff {d : Device} {r : Router} :
    routerViolations d r = [] ↔
      (∀ i ∈ r.interfaces, ∃ e ∈ d.ethernets, e.name = i.ethernet) ∧ r.RoutesAreValid := by
  simp only [routerViolations, List.append_eq_nil_iff, List.map_eq_nil_iff, List.filter_eq_nil_iff,
    List.flatMap_eq_nil_iff, routeAddressViolations_eq_nil_iff, ← ethernet?_isSome_iff]
  constructor
  · rintro ⟨⟨bound, v4⟩, v6⟩
    exact ⟨fun i hi => by simpa [Option.isSome_iff_ne_none] using bound i hi, v4, v6⟩
  · rintro ⟨bound, v4, v6⟩
    exact ⟨⟨fun i hi => by simpa [Option.isSome_iff_ne_none] using bound i hi, v4⟩, v6⟩

/-- The check of all routers. Besides being well-formed, the system ids are distinct, and not among
those seen before. -/
theorem isisViolations_eq_nil_iff (seen : List (List Char × String)) (devices : List Device) :
    isisViolations seen devices = [] ↔
      (∀ d ∈ devices, ∀ r, d.isis = some r → IsSystemId r.systemId ∧ routerViolations d r = [] ∧
        foldCase r.systemId ∉ seen.map Prod.fst) ∧
      ((devices.filterMap (·.isis)).map fun r => foldCase r.systemId).Nodup := by
  induction devices generalizing seen with
  | nil => simp [isisViolations]
  | cons d rest ih =>
    unfold isisViolations
    cases hr : d.isis with
    | none =>
      have same : (d :: rest).filterMap (·.isis) = rest.filterMap (·.isis) :=
        List.filterMap_cons_none hr
      simp [ih, same, hr]
    | some r =>
      have one : (d :: rest).filterMap (·.isis) = r :: rest.filterMap (·.isis) :=
        List.filterMap_cons_some hr
      dsimp only
      by_cases hid : isSystemId r.systemId = true
      · rw [if_pos hid]
        cases found : seen.find? fun s => s.1 == foldCase r.systemId with
        | some first =>
          simp only [List.cons_append, reduceCtorEq, false_iff, not_and]
          intro all
          exact absurd (mem_keys_of_find? found) (all d (by simp) r hr).2.2
        | none =>
          have fresh : foldCase r.systemId ∉ seen.map Prod.fst := not_mem_keys_of_find? found
          rw [List.append_eq_nil_iff, ih, one]
          simp only [List.map_cons, List.nodup_cons, List.mem_cons, forall_eq_or_imp, hr,
            Option.some.injEq, forall_eq']
          constructor
          · rintro ⟨own, later, distinct⟩
            refine ⟨⟨⟨isSystemId_iff.mp hid, own, fresh⟩, ?_⟩, ?_, distinct⟩
            · intro d' hd' r' hr'
              obtain ⟨id, none, new⟩ := later d' hd' r' hr'
              exact ⟨id, none, (not_or.mp new).2⟩
            · intro again
              obtain ⟨r', hr', same⟩ := List.mem_map.mp again
              obtain ⟨d', hd', isis⟩ := List.mem_filterMap.mp hr'
              exact (not_or.mp (later d' hd' r' isis).2.2).1 same
          · rintro ⟨⟨⟨_, own, _⟩, later⟩, once, distinct⟩
            refine ⟨own, ?_, distinct⟩
            intro d' hd' r' hr'
            obtain ⟨id, none, new⟩ := later d' hd' r' hr'
            refine ⟨id, none, not_or.mpr ⟨?_, new⟩⟩
            intro same
            exact once (List.mem_map.mpr ⟨r', List.mem_filterMap.mpr ⟨d', hd', hr'⟩, same⟩)
      · rw [if_neg hid]
        simp only [List.cons_append, reduceCtorEq, false_iff, not_and]
        intro all
        exact absurd (isSystemId_iff.mpr (all d (by simp) r hr).1) hid

/-! ### Flows -/

theorem flowViolations_eq_nil_iff {ports endpoints : List String} {f : Flow} :
    flowViolations ports endpoints f = [] ↔ f.endpoints.AreKnown ports endpoints := by
  unfold flowViolations Endpoints.AreKnown
  cases f.endpoints with
  | ports tx rx => simp [Endpoints.isIncomplete, Endpoints.names]
  | devices tx rx => simp [Endpoints.isIncomplete, Endpoints.names]

/-! ### Whole configurations -/

namespace Config

/-- The endpoints of all devices, taken device by device or kind by kind. -/
theorem mem_endpointNames {c : Config} {name : String} :
    name ∈ c.devices.flatMap Device.endpoints ↔ name ∈ c.endpointNames := by
  have routes (r : Router) :
      (∃ a ∈ r.routes, a.name = name) ↔
        (∃ a ∈ r.v4Routes, a.name = name) ∨ ∃ a ∈ r.v6Routes, a.name = name := by
    simp [Router.routes, or_and_right, exists_or]
  simp only [Device.endpoints, endpointNames, ethernets, Config.routers, List.mem_flatMap,
    List.mem_append, List.mem_map, Option.mem_toList, List.mem_filterMap, routes]
  constructor
  · rintro ⟨d, hd, ⟨e, he, ⟨a, ha, rfl⟩ | ⟨a, ha, rfl⟩⟩ |
      ⟨r, hr, ⟨a, ha, rfl⟩ | ⟨a, ha, rfl⟩⟩⟩
    · exact .inl (.inl (.inl ⟨a, ⟨e, ⟨d, hd, he⟩, ha⟩, rfl⟩))
    · exact .inl (.inl (.inr ⟨a, ⟨e, ⟨d, hd, he⟩, ha⟩, rfl⟩))
    · exact .inl (.inr ⟨a, ⟨r, ⟨d, hd, hr⟩, ha⟩, rfl⟩)
    · exact .inr ⟨a, ⟨r, ⟨d, hd, hr⟩, ha⟩, rfl⟩
  · rintro (((⟨a, ⟨e, ⟨d, hd, he⟩, ha⟩, rfl⟩ | ⟨a, ⟨e, ⟨d, hd, he⟩, ha⟩, rfl⟩) |
      ⟨a, ⟨r, ⟨d, hd, hr⟩, ha⟩, rfl⟩) | ⟨a, ⟨r, ⟨d, hd, hr⟩, ha⟩, rfl⟩)
    · exact ⟨d, hd, .inl ⟨e, he, .inl ⟨a, ha, rfl⟩⟩⟩
    · exact ⟨d, hd, .inl ⟨e, he, .inr ⟨a, ha, rfl⟩⟩⟩
    · exact ⟨d, hd, .inr ⟨r, hr, .inl ⟨a, ha, rfl⟩⟩⟩
    · exact ⟨d, hd, .inr ⟨r, hr, .inr ⟨a, ha, rfl⟩⟩⟩

/-- The endpoints of a flow are known device by device if they are kind by kind. -/
theorem areKnown_endpoints_iff {c : Config} {ports : List String} {e : Endpoints} :
    e.AreKnown ports (c.devices.flatMap Device.endpoints) ↔ e.AreKnown ports c.endpointNames := by
  cases e <;> simp only [Endpoints.AreKnown, mem_endpointNames]

/-- The checks of the routers find nothing exactly if system ids are well-formed and distinct,
interfaces are bound and routes are valid. -/
theorem isisViolations_devices_iff (c : Config) :
    isisViolations [] c.devices = [] ↔
      ((∀ d ∈ c.devices, d.InterfacesAreBound) ∧ (∀ r ∈ c.routers, IsSystemId r.systemId)) ∧
        (∀ r ∈ c.routers, r.RoutesAreValid) ∧
        (c.routers.map fun r => foldCase r.systemId).Nodup := by
  rw [isisViolations_eq_nil_iff]
  simp only [routerViolations_eq_nil_iff, List.map_nil, List.not_mem_nil, not_false_eq_true,
    and_true, routers, List.mem_filterMap, forall_exists_index, and_imp]
  constructor
  · rintro ⟨each, distinct⟩
    exact ⟨⟨fun d hd r hr => (each d hd r hr).2.1, fun r d hd hr => (each d hd r hr).1⟩,
      fun r d hd hr => (each d hd r hr).2.2, distinct⟩
  · rintro ⟨⟨bound, ids⟩, routes, distinct⟩
    exact ⟨fun d hd r hr => ⟨ids r d hd hr, bound d hd r hr, routes r d hd hr⟩, distinct⟩

/-- The checker finds nothing exactly in the consistent configurations. -/
theorem violations_eq_nil_iff (c : Config) : c.violations = [] ↔ c.Consistent := by
  simp only [violations, List.append_eq_nil_iff, List.flatMap_eq_nil_iff,
    duplicateNames_named_iff, ethernetViolations_eq_nil_iff, isisViolations_devices_iff,
    addressViolations_eq_nil_iff, flowViolations_eq_nil_iff, areKnown_endpoints_iff]
  constructor
  · rintro ⟨⟨⟨⟨names, ethernets⟩, ⟨interfaces, systemIds⟩, routes, distinct⟩, addresses⟩, flows⟩
    have connection (e : Ethernet) (he : e ∈ c.ethernets) :=
      (connectionViolations_eq_nil_iff (nodup_ethernets names) e).mp (ethernets e he).2
    exact
      { names, interfaces, systemIds, routes, addresses, flows
        ports := fun e he => (connection e he).1
        links := fun e he => (connection e he).2
        macs := fun e he => (ethernets e he).1
        distinctSystemIds := distinct }
  · intro h
    refine ⟨⟨⟨⟨h.names, fun e he => ⟨h.macs e he, ?_⟩⟩, ⟨h.interfaces, h.systemIds⟩, h.routes,
      h.distinctSystemIds⟩, h.addresses⟩, h.flows⟩
    exact (connectionViolations_eq_nil_iff (nodup_ethernets h.names) e).mpr
      ⟨h.ports e he, h.links e he⟩

/-- The checks are sound and complete: none of the passes reports anything exactly if all conditions
of consistency hold, whatever the configuration contains. -/
theorem no_violations_iff (c : Config) :
    c.violations = [] ↔
      c.objectNames.Nodup ∧
      (∀ e ∈ c.ethernets, ∀ port, e.connection = some (.port port) →
        port ∈ c.ports.map (·.name)) ∧
      (∀ e ∈ c.ethernets, ∀ remote, e.connection = some (.simulatedLink remote) →
        ∃ far ∈ c.ethernets,
          far.name = remote ∧ far.connection = some (.simulatedLink e.name)) ∧
      (∀ d ∈ c.devices, ∀ r, d.isis = some r → ∀ i ∈ r.interfaces,
        ∃ e ∈ d.ethernets, e.name = i.ethernet) ∧
      (∀ e ∈ c.ethernets, IsMac e.mac) ∧
      ((∀ r ∈ c.routers, IsSystemId r.systemId) ∧
        (c.routers.map fun r => foldCase r.systemId).Nodup) ∧
      ((∀ e ∈ c.ethernets, e.AddressesAreValid) ∧ ∀ r ∈ c.routers, r.RoutesAreValid) ∧
      ∀ f ∈ c.flows, f.endpoints.AreKnown (c.ports.map (·.name)) c.endpointNames := by
  rw [violations_eq_nil_iff]
  constructor
  · intro h
    exact ⟨h.names, h.ports, h.links, h.interfaces, h.macs, ⟨h.systemIds, h.distinctSystemIds⟩,
      ⟨h.addresses, h.routes⟩, h.flows⟩
  · rintro ⟨names, ports, links, interfaces, macs, ⟨systemIds, distinctSystemIds⟩,
      ⟨addresses, routes⟩, flows⟩
    exact
      { names, ports, links, interfaces, macs, systemIds, distinctSystemIds, addresses, routes,
        flows }

end Config

end IsisTestbed
