import IsisTestbed.Proofs.Config.Growth
import IsisTestbed.Proofs.Topology.Linking

/-!
A link keeps a configuration consistent if the names it creates are new. One end alone does not: its
link is not mirrored until the other end is added too. So the effect of one end is stated part by
part, and consistency only for both ends together.
-/

namespace IsisTestbed.Topology

/-! ### The effect of one end -/

/-- The names that an end of a link adds to its device. -/
def endNames (e : Ethernet) (d : Device) (r : Router) : List String :=
  e.named.map Prod.fst ++ [interfaceName d.name (r.interfaces.length + 1)]

section OneEnd

variable {c : Config} {i : Nat} {d : Device} {r : Router} {e : Ethernet}

theorem objectNames_addEnd (runs : d.isis = some r) :
    (addEnd e d).objectNames.Perm (endNames e d r ++ d.objectNames) := by
  apply List.perm_iff_count.mpr
  intro name
  simp [Device.objectNames, Device.named, endNames, runs, Router.named, Router.addInterface,
    Router.routes, linkInterface, List.count_cons]
  omega

theorem objectNames_modifyDevice_addEnd (found : c.devices[i]? = some d) (runs : d.isis = some r) :
    (c.modifyDevice i (addEnd e)).objectNames.Perm (endNames e d r ++ c.objectNames) := by
  have inner : (c.modifyDevice i (addEnd e)).devices.flatMap Device.objectNames |>.Perm
      (endNames e d r ++ c.devices.flatMap Device.objectNames) :=
    flatMap_modify_perm found (objectNames_addEnd runs)
  apply List.perm_iff_count.mpr
  intro name
  have before := c.objectNames_perm.count_eq name
  have after := (c.modifyDevice i (addEnd e)).objectNames_perm.count_eq name
  have changed := inner.count_eq name
  simp only [List.count_append] at before after changed ⊢
  have ports : (c.modifyDevice i (addEnd e)).ports = c.ports := rfl
  have flows : (c.modifyDevice i (addEnd e)).flows = c.flows := rfl
  rw [ports, flows] at after
  omega

theorem ethernets_modifyDevice_addEnd (found : c.devices[i]? = some d) :
    (c.modifyDevice i (addEnd e)).ethernets.Perm (e :: c.ethernets) := by
  have last : (addEnd e d).ethernets.Perm ([e] ++ d.ethernets) := by
    rw [ethernets_addEnd]
    exact List.perm_append_comm
  exact flatMap_modify_perm found last

/-- A router without its interfaces, which is what a link leaves alone. -/
def withoutInterfaces (r : Router) : Router :=
  { r with interfaces := [] }

/-- What does not depend on their interfaces is the same for all routers. -/
theorem map_routers_modifyDevice_addEnd {α : Type} {f : Router → α}
    (h : ∀ r i, f (Router.addInterface r i) = f r) :
    (c.modifyDevice i (addEnd e)).routers.map f = c.routers.map f := by
  have collect (l : List Device) :
      (l.filterMap (·.isis)).map f = (l.map fun d => d.isis.map f).filterMap id := by
    rw [List.map_filterMap, List.filterMap_map]
    rfl
  have same : ∀ d ∈ c.devices, (addEnd e d).isis.map f = d.isis.map f := by
    intro d _
    cases hr : d.isis <;> simp [hr, h]
  unfold Config.routers
  rw [collect, collect, Config.devices_modifyDevice, Config.map_modify_eq same]

theorem endpointNames_subset_modifyDevice_addEnd (found : c.devices[i]? = some d) :
    c.endpointNames ⊆ (c.modifyDevice i (addEnd e)).endpointNames := by
  have more : (addEnd e d).endpoints.Perm
      ((e.ipv4.map (·.name) ++ e.ipv6.map (·.name)) ++ d.endpoints) := by
    apply List.perm_iff_count.mpr
    intro name
    cases hr : d.isis <;>
    · simp [Device.endpoints, hr, Router.addInterface, Router.routes]
      omega
  intro name known
  have all := flatMap_modify_perm found more
  exact Config.mem_endpointNames.mp (all.mem_iff.mpr
    (List.mem_append_right _ (Config.mem_endpointNames.mpr known)))

theorem interfacesAreBound_modifyDevice_addEnd
    (h : ∀ d ∈ c.devices, d.InterfacesAreBound) :
    ∀ d ∈ (c.modifyDevice i (addEnd e)).devices, d.InterfacesAreBound := by
  intro d' member
  rcases Config.mem_modify member with old | ⟨d, found, rfl⟩
  · exact h d' old
  · intro r' running interface hinterface
    obtain ⟨r, hr, rfl⟩ := Option.map_eq_some_iff.mp running
    rcases List.mem_append.mp hinterface with before | new
    · obtain ⟨bound, hbound, same⟩ := h d (List.mem_of_getElem? found) r hr interface before
      exact ⟨bound, List.mem_append_left _ hbound, same⟩
    · rw [List.mem_singleton.mp new]
      exact ⟨e, List.mem_append_right _ (List.mem_singleton.mpr rfl), rfl⟩

end OneEnd

/-! ### Both ends -/

section BothEnds

variable {c : Config} {i j : Nat} {first second : Device} {ra rb : Router} {endA endB : Ethernet}

theorem ethernets_linkedConfig (h : Linkable c i j first second) :
    (linkedConfig c i j endA endB).ethernets.Perm (endB :: endA :: c.ethernets) :=
  (ethernets_modifyDevice_addEnd h.atSecond_modifyDevice).trans
    ((ethernets_modifyDevice_addEnd h.atFirst).cons endB)

theorem objectNames_linkedConfig (h : Linkable c i j first second) (runsA : first.isis = some ra)
    (runsB : second.isis = some rb) :
    (linkedConfig c i j endA endB).objectNames.Perm
      (endNames endB second rb ++ (endNames endA first ra ++ c.objectNames)) :=
  (objectNames_modifyDevice_addEnd h.atSecond_modifyDevice runsB).trans
    (.append_left _ (objectNames_modifyDevice_addEnd h.atFirst runsA))

theorem map_routers_linkedConfig {α : Type} {f : Router → α}
    (h : ∀ r i, f (Router.addInterface r i) = f r) :
    (linkedConfig c i j endA endB).routers.map f = c.routers.map f := by
  unfold linkedConfig
  rw [map_routers_modifyDevice_addEnd h, map_routers_modifyDevice_addEnd h]

/-- Each router after a link is one from before, apart from its interfaces. -/
theorem exists_router_of_linkedConfig {r : Router}
    (member : r ∈ (linkedConfig c i j endA endB).routers) :
    ∃ old ∈ c.routers, old.systemId = r.systemId ∧ old.v4Routes = r.v4Routes ∧
      old.v6Routes = r.v6Routes := by
  have parts : (linkedConfig c i j endA endB).routers.map withoutInterfaces =
      c.routers.map withoutInterfaces := map_routers_linkedConfig fun _ _ => rfl
  have listed : withoutInterfaces r ∈ c.routers.map withoutInterfaces :=
    parts ▸ List.mem_map_of_mem member
  obtain ⟨old, hold, same⟩ := List.mem_map.mp listed
  simp only [withoutInterfaces, Router.mk.injEq] at same
  obtain ⟨_, id, _, _, _, v4, v6⟩ := same
  exact ⟨old, hold, id, v4, v6⟩

/-- Whether an ethernet is well-formed and on a simulated link to another one. -/
structure LeadsTo (e : Ethernet) (remote : String) : Prop where
  connection : e.connection = some (.simulatedLink remote)
  mac : IsMac e.mac
  addresses : e.AddressesAreValid

theorem mem_ethernets_linkedConfig (h : Linkable c i j first second) {e : Ethernet} :
    e ∈ (linkedConfig c i j endA endB).ethernets ↔ e = endB ∨ e = endA ∨ e ∈ c.ethernets := by
  rw [(ethernets_linkedConfig h).mem_iff, List.mem_cons, List.mem_cons]

/-- Two ends that lead to each other keep references sound, whatever the names are. -/
theorem Sound.linkedConfig (h : c.Sound) (linkable : Linkable c i j first second)
    (leadsA : LeadsTo endA endB.name) (leadsB : LeadsTo endB endA.name) :
    (linkedConfig c i j endA endB).Sound where
  ports := by
    intro e member port connected
    rcases (mem_ethernets_linkedConfig linkable).mp member with rfl | rfl | old
    · rw [leadsB.connection] at connected
      cases connected
    · rw [leadsA.connection] at connected
      cases connected
    · exact h.ports e old port connected
  links := by
    intro e member remote connected
    rcases (mem_ethernets_linkedConfig linkable).mp member with rfl | rfl | old
    · rw [leadsB.connection] at connected
      cases connected
      exact ⟨endA, (mem_ethernets_linkedConfig linkable).mpr (.inr (.inl rfl)), rfl,
        leadsA.connection⟩
    · rw [leadsA.connection] at connected
      cases connected
      exact ⟨endB, (mem_ethernets_linkedConfig linkable).mpr (.inl rfl), rfl, leadsB.connection⟩
    · obtain ⟨far, hfar, back⟩ := h.links e old remote connected
      exact ⟨far, (mem_ethernets_linkedConfig linkable).mpr (.inr (.inr hfar)), back⟩
  interfaces := interfacesAreBound_modifyDevice_addEnd
    (interfacesAreBound_modifyDevice_addEnd h.interfaces)
  addresses := by
    intro e member
    rcases (mem_ethernets_linkedConfig linkable).mp member with rfl | rfl | old
    · exact leadsB.addresses
    · exact leadsA.addresses
    · exact h.addresses e old
  flows := by
    intro f member
    exact (h.flows f member).mono (List.Subset.refl _)
      (List.Subset.trans (endpointNames_subset_modifyDevice_addEnd linkable.atFirst)
        (endpointNames_subset_modifyDevice_addEnd linkable.atSecond_modifyDevice))

/-- Interfaces do not matter to the flaws of a router. -/
theorem flaw_addInterface (r : Router) (i : IsisInterface) :
    (Router.addInterface r i).Flaw = r.Flaw := by
  funext v
  apply propext
  constructor <;>
  · rintro (malformed | ⟨hroute, ha, invalid⟩ | ⟨hroute, ha, invalid⟩)
    · exact .invalidSystemId malformed
    · exact .invalidV4Route hroute ha invalid
    · exact .invalidV6Route hroute ha invalid

/-- Two well-formed ends have no flaws, and routers keep theirs. -/
theorem Flaw.of_linkedConfig {v : Violation} (linkable : Linkable c i j first second)
    (macA : IsMac endA.mac) (macB : IsMac endB.mac)
    (h : (linkedConfig c i j endA endB).Flaw v) : c.Flaw v := by
  cases h with
  | duplicateName name first second => exact .duplicateName name first second
  | duplicateSystemId id first second => exact .duplicateSystemId id first second
  | invalidMac member malformed =>
    rcases (mem_ethernets_linkedConfig linkable).mp member with rfl | rfl | old
    · exact absurd macB malformed
    · exact absurd macA malformed
    · exact .invalidMac old malformed
  | @router r _ member own =>
    have parts : (linkedConfig c i j endA endB).routers.map Router.Flaw = c.routers.map Router.Flaw :=
      map_routers_linkedConfig flaw_addInterface
    have listed : r.Flaw ∈ c.routers.map Router.Flaw := parts ▸ List.mem_map_of_mem member
    obtain ⟨old, hold, same⟩ := List.mem_map.mp listed
    exact .router hold (same ▸ own)

/-- Two well-formed ends that lead to each other keep a configuration consistent if all names stay
distinct. -/
theorem Consistent.linkedConfig (h : c.Consistent) (linkable : Linkable c i j first second)
    (runsA : first.isis = some ra) (runsB : second.isis = some rb)
    (leadsA : LeadsTo endA endB.name) (leadsB : LeadsTo endB endA.name)
    (names : (endNames endB second rb ++ (endNames endA first ra ++ c.objectNames)).Nodup) :
    (linkedConfig c i j endA endB).Consistent := by
  refine .of_sound (Sound.linkedConfig h.sound linkable leadsA leadsB)
    ((objectNames_linkedConfig linkable runsA runsB).nodup_iff.mpr names) ?_ ?_ ?_ ?_
  · intro e member
    rcases (mem_ethernets_linkedConfig linkable).mp member with rfl | rfl | old
    · exact leadsB.mac
    · exact leadsA.mac
    · exact h.macs e old
  · intro r member
    obtain ⟨old, hold, id, _⟩ := exists_router_of_linkedConfig member
    exact id ▸ h.systemIds old hold
  · rw [map_routers_linkedConfig fun _ _ => rfl]
    exact h.distinctSystemIds
  · intro r member
    obtain ⟨old, hold, _, v4, v6⟩ := exists_router_of_linkedConfig member
    have valid := h.routes old hold
    exact ⟨v4 ▸ valid.v4, v6 ▸ valid.v6⟩

end BothEnds

/-! ### The ends that are derived for a link -/

/-- The text of two octets at the end of a fixed prefix is a MAC address. -/
theorem isMac_linkMac (near far : UInt8) : IsMac (linkMac near far) := by
  have hex (k : UInt8) : ∃ p : Char × Char, (Text.hexPadded 2 k.toNat).toList = [p.1, p.2] ∧
      IsHexDigit p.1 ∧ IsHexDigit p.2 := by
    obtain ⟨high, low, digits⟩ := List.length_eq_two.mp
      (Text.length_hexPadded (by decide : 0 < 2) k.toNat_lt)
    have isHex (c : Char) (h : c ∈ (Text.hexPadded 2 k.toNat).toList) : IsHexDigit c :=
      isHexDigit_iff.mp (Text.isHexDigit_of_mem_hexPadded h)
    exact ⟨(high, low), digits, isHex high (by simp [digits]), isHex low (by simp [digits])⟩
  obtain ⟨p, nearDigits, hp⟩ := hex near
  obtain ⟨q, farDigits, hq⟩ := hex far
  refine ⟨[('0', '0'), ('0', '0'), ('d', 'd'), ('e', 'e'), p, q], rfl, ?_, ?_⟩
  · have fixed : IsHexDigit '0' ∧ IsHexDigit 'd' ∧ IsHexDigit 'e' := by
      unfold IsHexDigit
      decide
    simp [hp, hq, fixed]
  · unfold linkMac
    rw [String.toList_append, String.toList_append, String.toList_append, nearDigits, farDigits]
    rfl

theorem isIpv4_text (ip : Ipv4) : isIpv4 ip.text = true := by
  simp [isIpv4, Ipv4.ofText?_text]

theorem isIpv6_text (ip : Ipv6) : isIpv6 ip.text = true := by
  simp [isIpv6, Ipv6.ofText?_text]

/-- A derived end is well-formed, whatever its names and addresses are. -/
theorem leadsTo_linkEthernet (near far : String) (a b : UInt8) (v4 : Option (Ipv4 × Ipv4))
    (v6 : Option (Ipv6 × Ipv6)) : LeadsTo (linkEthernet near far (linkMac a b) v4 v6) far where
  connection := rfl
  mac := isMac_linkMac a b
  addresses := by
    constructor
    · intro address member
      obtain ⟨⟨own, other⟩, _, rfl⟩ := List.mem_map.mp member
      exact ⟨isIpv4_text own, isIpv4_text other, (by decide : (24 : UInt8) ≤ 32)⟩
    · intro address member
      obtain ⟨⟨own, other⟩, _, rfl⟩ := List.mem_map.mp member
      exact ⟨isIpv6_text own, isIpv6_text other, (by decide : (64 : UInt8) ≤ 128)⟩

/-- The two ends that are derived for a link lead to each other. -/
theorem leadsTo_firstEnd (addressing : LinkAddressing) (a b : UInt8) (first second : Device) :
    LeadsTo (firstEnd addressing a b first second) (secondEnd addressing a b first second).name :=
  leadsTo_linkEthernet _ _ a b _ _

theorem leadsTo_secondEnd (addressing : LinkAddressing) (a b : UInt8) (first second : Device) :
    LeadsTo (secondEnd addressing a b first second) (firstEnd addressing a b first second).name :=
  leadsTo_linkEthernet _ _ b a _ _

end IsisTestbed.Topology
