import IsisTestbed.Proofs.Topology.Building
import IsisTestbed.Proofs.Topology.Freshness

/-!
Nodes and links keep a configuration consistent. The invariant `Grown` says where everything in the
configuration comes from; it is kept by every single node and every single link, so also by what a
failed call leaves behind.
-/

namespace IsisTestbed.Topology

/-! ### System ids -/

/-- The case of a digit does not change its value. -/
theorem digit?_toLower (c : Char) : Text.digit? 16 c.toLower = Text.digit? 16 c := by
  have table : ∀ n < 26, Text.digit? 16 (Char.ofNat (65 + n)).toLower =
      Text.digit? 16 (Char.ofNat (65 + n)) := by decide
  by_cases upper : 65 ≤ c.toNat ∧ c.toNat ≤ 90
  · have same : Char.ofNat (65 + (c.toNat - 65)) = c := by
      rw [Nat.add_sub_cancel' upper.1, Char.ofNat_toNat]
    have value := table (c.toNat - 65) (by omega)
    rwa [same] at value
  · have same : c.toLower = c := by
      unfold Char.toLower
      exact dif_neg upper
    rw [same]

theorem ofDigits?_foldCase (cs : List Char) :
    Text.ofDigits? 16 (cs.map Char.toLower) = Text.ofDigits? 16 cs := by
  have from_ (value : Nat) (cs : List Char) :
      Text.digitsFrom? 16 value (cs.map Char.toLower) = Text.digitsFrom? 16 value cs := by
    induction cs generalizing value with
    | nil => rfl
    | cons c rest ih => simp [Text.digitsFrom?, digit?_toLower, ih]
  cases cs with
  | nil => rfl
  | cons c rest => exact from_ 0 (c :: rest)

theorem toList_nodeSystemId (octet k : UInt8) :
    (nodeSystemId octet k).toList = (Text.hexPadded 2 octet.toNat).toList ++
      (List.replicate 8 '0' ++ (Text.hexPadded 2 k.toNat).toList) := by
  simp [nodeSystemId, List.replicate]

theorem isSystemId_nodeSystemId (octet k : UInt8) : IsSystemId (nodeSystemId octet k) := by
  unfold IsSystemId
  rw [toList_nodeSystemId]
  constructor
  · simp only [List.length_append, length_hexPadded_octet, List.length_replicate]
  · intro c member
    apply isHexDigit_iff.mp
    rcases List.mem_append.mp member with first | rest
    · exact Text.isHexDigit_of_mem_hexPadded first
    · rcases List.mem_append.mp rest with zero | last
      · rw [List.eq_of_mem_replicate zero]
        decide
      · exact Text.isHexDigit_of_mem_hexPadded last

/-- The system id of a node is written in lower case. -/
theorem foldCase_nodeSystemId (octet k : UInt8) :
    foldCase (nodeSystemId octet k) = (nodeSystemId octet k).toList := by
  unfold foldCase
  rw [toList_nodeSystemId]
  have lower : ∀ c ∈ (Text.hexPadded 2 octet.toNat).toList ++
      (List.replicate 8 '0' ++ (Text.hexPadded 2 k.toNat).toList), c.toLower = c := by
    intro c member
    rcases List.mem_append.mp member with first | rest
    · exact Text.toLower_of_mem_hexPadded first
    · rcases List.mem_append.mp rest with zero | last
      · rw [List.eq_of_mem_replicate zero]
        decide
      · exact Text.toLower_of_mem_hexPadded last
  exact (List.map_congr_left lower).trans (List.map_id' _)

/-- The first octet of a system id, if it starts with two hexadecimal digits. -/
def firstOctet? (systemId : String) : Option Nat :=
  Text.ofDigits? 16 (systemId.toList.take 2)

theorem firstOctet?_nodeSystemId (octet k : UInt8) :
    firstOctet? (nodeSystemId octet k) = some octet.toNat := by
  unfold firstOctet?
  have two := length_hexPadded_octet octet
  rw [toList_nodeSystemId, List.take_append_of_le_length (by omega),
    List.take_of_length_le (by omega), Text.ofDigits?_hexPadded]

/-- System ids that differ at most in the case of their digits have the same first octet. -/
theorem firstOctet?_eq_of_foldCase {s t : String} (h : foldCase s = foldCase t) :
    firstOctet? s = firstOctet? t := by
  unfold firstOctet?
  rw [← ofDigits?_foldCase (s.toList.take 2), ← ofDigits?_foldCase (t.toList.take 2),
    List.map_take, List.map_take]
  exact congrArg (fun cs => Text.ofDigits? 16 (cs.take 2)) h

theorem nodeSystemId_inj {octet octet' k k' : UInt8}
    (h : nodeSystemId octet k = nodeSystemId octet' k') : octet = octet' ∧ k = k' := by
  have texts := congrArg String.toList h
  rw [toList_nodeSystemId, toList_nodeSystemId] at texts
  obtain ⟨first, rest⟩ := List.append_inj texts (by
    rw [length_hexPadded_octet, length_hexPadded_octet])
  have last := List.append_cancel_left rest
  exact ⟨UInt8.toNat_inj.mp (Text.hexPadded_injective (String.toList_inj.mp first)),
    UInt8.toNat_inj.mp (Text.hexPadded_injective (String.toList_inj.mp last))⟩

/-! ### The invariant -/

/-- A consistent configuration to which nodes and links were added. Besides the names, the system
ids tell their origin: each is from the beginning or belongs to one of the nodes in `taken`. -/
structure Grown (c₀ : Config) (taken : List (UInt8 × Nat)) (c : Config) : Prop where
  named : Named c₀ taken c
  consistent : c.Consistent
  systemIds : ∀ r ∈ c.routers, (∃ r₀ ∈ c₀.routers, r₀.systemId = r.systemId) ∨
    ∃ n ∈ taken, n.2 < maxNodes ∧ r.systemId = nodeSystemId n.1 (UInt8.ofNat (n.2 + 1))

theorem Grown.start {c : Config} (h : c.Consistent) : Grown c [] c where
  named := .start h.names
  consistent := h
  systemIds := fun r member => .inl ⟨r, member, rfl⟩

/-- More nodes may be counted as taken. -/
theorem Grown.mono {c₀ c : Config} {taken taken' : List (UInt8 × Nat)} (h : Grown c₀ taken c)
    (more : taken ⊆ taken') : Grown c₀ taken' c where
  named :=
    { distinct := h.named.distinct
      origin := by
        intro name member
        rcases h.named.origin name member with first | ⟨n, hn, node⟩ | numbered
        · exact .inl first
        · exact .inr (.inl ⟨n, more hn, node⟩)
        · exact .inr (.inr numbered)
      devices := by
        intro d member
        rcases h.named.devices d member with first | ⟨n, hn, node⟩
        · exact .inl first
        · exact .inr ⟨n, more hn, node⟩ }
  consistent := h.consistent
  systemIds := by
    intro r member
    rcases h.systemIds r member with first | ⟨n, hn, id⟩
    · exact .inl first
    · exact .inr ⟨n, more hn, id⟩

/-! ### Links -/

/-- The names of a derived end are among the next names on its device. -/
theorem endNames_linkEthernet_sublist (d : Device) (r : Router) (far mac : String)
    (v4 : Option (Ipv4 × Ipv4)) (v6 : Option (Ipv6 × Ipv6)) :
    (endNames (linkEthernet (nextEthernet d) far mac v4 v6) d r).Sublist (nextNames d r) := by
  cases v4 <;> cases v6 <;>
    simp [endNames, linkEthernet, Ethernet.named, nextNames, List.sublist_cons_iff]

section Links

variable {c₀ c c' : Config} {taken : List (UInt8 × Nat)} {i j a b : Nat}
  {addressing : LinkAddressing} {link : Link}

/-- A link keeps the invariant, whichever devices it is between. -/
theorem Grown.connectDevices (h : Grown c₀ taken c) (room : LeavesRoom c₀)
    (linked : connectDevices c i j a b addressing = .ok (c', link)) : Grown c₀ taken c' := by
  obtain ⟨first, second, linkable, rfl, _⟩ := eq_of_connectDevices linked
  obtain ⟨ra, runsA⟩ := Option.isSome_iff_exists.mp linkable.firstRuns
  obtain ⟨rb, runsB⟩ := Option.isSome_iff_exists.mp linkable.secondRuns
  generalize UInt8.ofNat (a + 1) = x, UInt8.ofNat (b + 1) = y
  have nextFirst : (endNames (firstEnd addressing x y first second) first ra).Sublist
      (nextNames first ra) := endNames_linkEthernet_sublist first ra _ _ _ _
  have nextSecond : (endNames (secondEnd addressing x y first second) second rb).Sublist
      (nextNames second rb) := endNames_linkEthernet_sublist second rb _ _ _ _
  have named := (h.named.addEnd room linkable.atFirst runsA nextFirst).addEnd room
    linkable.atSecond_modifyDevice runsB nextSecond
  refine ⟨named, ?_, ?_⟩
  · refine Consistent.linkedConfig h.consistent linkable runsA runsB
      (leadsTo_firstEnd _ _ _ _ _) (leadsTo_secondEnd _ _ _ _ _) ?_
    exact (objectNames_linkedConfig linkable runsA runsB).nodup_iff.mp named.distinct
  · intro r member
    obtain ⟨old, hold, id, _⟩ := exists_router_of_linkedConfig member
    rw [← id]
    exact h.systemIds old hold

/-- Links keep the invariant, up to the first one that fails. -/
theorem Grown.addEdges (h : Grown c₀ taken c) (room : LeavesRoom c₀) (t : Topology)
    (pairs : List (Nat × Nat)) : Grown c₀ taken (addEdges t c pairs).1 := by
  refine addEdges_keeps ?_ h
  intro c c' a b edge before added
  obtain ⟨_, _, _, _, _, _, _, _, _, linked, _⟩ := addEdge_eq_ok_iff.mp added
  exact before.connectDevices room linked

/-- Attaching an emulated router keeps the invariant. -/
theorem Grown.connect {t t' : Topology} {device : String} {p : Position} {x : Attachment}
    (h : Grown c₀ taken c) (room : LeavesRoom c₀)
    (connected : t.connect c device p = .ok (c', t', x)) : Grown c₀ taken c' := by
  obtain ⟨_, _, attached⟩ := connect_eq_ok_iff.mp connected
  obtain ⟨_, _, _, _, _, _, _, linked, _⟩ := attach_eq_ok_iff.mp attached
  exact h.connectDevices room linked

end Links

/-! ### Nodes -/

/-- Whether the prefixes of the advertised routes are no longer than the addresses. -/
structure PrefixesFit (v4 : Option V4Routes) (v6 : Option V6Routes) : Prop where
  v4 : ∀ routes, v4 = some routes → routes.prefixLength ≤ 32
  v6 : ∀ routes, v6 = some routes → routes.prefixLength ≤ 128

section Nodes

variable {c₀ c : Config} {taken : List (UInt8 × Nat)} {plan : RouterPlan} {index : Nat}
  {p : Position}

theorem objectNames_plannedDevice (plan : RouterPlan) (index : Nat) (p : Position) :
    (plannedDevice plan index p).objectNames.Sublist
      [nodeName plan.systemIdOctet index p, nodeName plan.systemIdOctet index p ++ ".isis",
        nodeName plan.systemIdOctet index p ++ ".isis" ++ ".isis.v4routes",
        nodeName plan.systemIdOctet index p ++ ".isis" ++ ".isis.v6routes"] := by
  unfold plannedDevice plannedRouter
  cases plan.v4Routes <;> cases plan.v6Routes <;>
    simp [Device.objectNames, Device.named, Router.named, Router.routes, plannedNode,
      Node.routerName, simulatedRoute, List.sublist_cons_iff]

theorem isNodeName_of_mem_plannedDevice :
    ∀ name ∈ (plannedDevice plan index p).objectNames,
      IsNodeName plan.systemIdOctet index name := by
  intro name member
  have device := isNodeName_nodeName plan.systemIdOctet index p
  have router : IsNodeName plan.systemIdOctet index
      (nodeName plan.systemIdOctet index p ++ ".isis") := device.append lastLetter?_routerName
  have listed := (objectNames_plannedDevice plan index p).subset member
  simp only [List.mem_cons, List.not_mem_nil, or_false] at listed
  rcases listed with rfl | rfl | rfl | rfl
  · exact device
  · exact router
  · exact router.append lastLetter?_v4routes
  · exact router.append lastLetter?_v6routes

theorem nodup_plannedDevice (plan : RouterPlan) (index : Nat) (p : Position) :
    (plannedDevice plan index p).objectNames.Nodup := by
  apply (objectNames_plannedDevice plan index p).nodup
  generalize nodeName plan.systemIdOctet index p = name
  have apart {s t : String} (h : s.toList.length ≠ t.toList.length) : s ≠ t :=
    fun same => h (congrArg (fun s => s.toList.length) same)
  have families : name ++ ".isis" ++ ".isis.v4routes" ≠ name ++ ".isis" ++ ".isis.v6routes" := by
    intro same
    have texts := congrArg String.toList same
    simp at texts
  simp only [List.nodup_cons, List.mem_cons, List.not_mem_nil, or_false, not_or,
    not_false_eq_true, List.nodup_nil, and_true]
  refine ⟨⟨apart ?_, apart ?_, apart ?_⟩, ⟨apart ?_, apart ?_⟩, families⟩ <;> simp

/-- The routes of a new node are valid if their prefixes are. -/
theorem routesAreValid_plannedRouter (fits : PrefixesFit plan.v4Routes plan.v6Routes) :
    (plannedRouter plan index p).RoutesAreValid := by
  constructor
  · intro range hrange address haddress
    obtain ⟨routes, set, rfl⟩ := List.mem_map.mp hrange
    rw [List.mem_singleton.mp haddress]
    refine ⟨isIpv4_text _, ?_⟩
    rintro length ⟨⟩
    exact fits.v4 routes (Option.mem_toList.mp set)
  · intro range hrange address haddress
    obtain ⟨routes, set, rfl⟩ := List.mem_map.mp hrange
    rw [List.mem_singleton.mp haddress]
    refine ⟨isIpv6_text _, ?_⟩
    rintro length ⟨⟩
    exact fits.v6 routes (Option.mem_toList.mp set)

/-- A new node is consistent by itself. -/
theorem consistent_plannedDevice (fits : PrefixesFit plan.v4Routes plan.v6Routes) :
    ({ devices := [plannedDevice plan index p] } : Config).Consistent := by
  have routers : ({ devices := [plannedDevice plan index p] } : Config).routers =
      [plannedRouter plan index p] := rfl
  have ethernets : ({ devices := [plannedDevice plan index p] } : Config).ethernets = [] := rfl
  refine
    { names := ?_
      ports := by simp [ethernets]
      links := by simp [ethernets]
      interfaces := ?_
      macs := by simp [ethernets]
      systemIds := ?_
      distinctSystemIds := by simp [routers]
      addresses := by simp [ethernets]
      routes := ?_
      flows := by simp }
  · apply (Config.objectNames_perm _).nodup_iff.mpr
    simpa using nodup_plannedDevice plan index p
  · intro d member r runs interface bound
    rw [List.mem_singleton.mp member] at runs
    cases runs
    cases bound
  · intro r member
    rw [routers] at member
    rw [List.mem_singleton.mp member]
    exact isSystemId_nodeSystemId _ _
  · intro r member
    rw [routers] at member
    rw [List.mem_singleton.mp member]
    exact routesAreValid_plannedRouter fits

/-- The system id of a new node is not in use, in whatever case its digits are written. -/
theorem Grown.foldCase_ne (h : Grown c₀ taken c) (new : (plan.systemIdOctet, index) ∉ taken)
    (inRange : index < maxNodes)
    (octet : ∀ r ∈ c₀.routers, firstOctet? r.systemId ≠ some plan.systemIdOctet.toNat) :
    ∀ r ∈ c.routers, foldCase r.systemId ≠
      foldCase (nodeSystemId plan.systemIdOctet (UInt8.ofNat (index + 1))) := by
  intro r member same
  have sameOctet := (firstOctet?_eq_of_foldCase same).trans
    (firstOctet?_nodeSystemId plan.systemIdOctet (UInt8.ofNat (index + 1)))
  rcases h.systemIds r member with ⟨r₀, hr₀, id⟩ | ⟨n, hn, bound, id⟩
  · exact octet r₀ hr₀ (id ▸ sameOctet)
  · have ids : nodeSystemId n.1 (UInt8.ofNat (n.2 + 1)) =
        nodeSystemId plan.systemIdOctet (UInt8.ofNat (index + 1)) := by
      rw [id, foldCase_nodeSystemId, foldCase_nodeSystemId] at same
      exact String.toList_inj.mp same
    obtain ⟨octets, numbers⟩ := nodeSystemId_inj ids
    -- Numbers below the greatest number of nodes are not changed by the step to an octet.
    have indices : n.2 = index := by
      have values := congrArg UInt8.toNat numbers
      have first : n.2 < 254 := bound
      have second : index < 254 := inRange
      simp only [UInt8.toNat_ofNat'] at values
      omega
    apply new
    rw [← octets, ← indices]
    exact hn

/-- A new node keeps the invariant. -/
theorem Grown.addNode (h : Grown c₀ taken c) (room : LeavesRoom c₀)
    (new : (plan.systemIdOctet, index) ∉ taken) (inRange : index < maxNodes)
    (octet : ∀ r ∈ c₀.routers, firstOctet? r.systemId ≠ some plan.systemIdOctet.toNat)
    (fits : PrefixesFit plan.v4Routes plan.v6Routes) :
    Grown c₀ ((plan.systemIdOctet, index) :: taken) (c.addDevice (plannedDevice plan index p)) := by
  obtain ⟨named, apart⟩ := h.named.addDevice room new (nodup_plannedDevice plan index p)
    isNodeName_of_mem_plannedDevice
  have appended : c.addDevice (plannedDevice plan index p) =
      c.append { devices := [plannedDevice plan index p] } := by
    simp [Config.addDevice, Config.append]
  refine ⟨named, ?_, ?_⟩
  · rw [appended]
    refine h.consistent.append (consistent_plannedDevice fits) ?_ ?_
    · intro name old added
      apply apart name old
      simpa using (Config.objectNames_perm _).mem_iff.mp added
    · intro r member r' member'
      obtain rfl : r' = plannedRouter plan index p := List.mem_singleton.mp member'
      exact h.foldCase_ne new inRange octet r member
  · intro r member
    rw [appended] at member
    rcases Config.mem_routers_append.mp member with old | added
    · rcases h.systemIds r old with first | ⟨n, hn, id⟩
      · exact .inl first
      · exact .inr ⟨n, List.mem_cons_of_mem _ hn, id⟩
    · obtain rfl : r = plannedRouter plan index p := List.mem_singleton.mp added
      exact .inr ⟨_, List.mem_cons_self, inRange, rfl⟩

/-- New nodes of one topology keep the invariant. The induction is on the nodes; each adds its number
to those that are taken. -/
theorem Grown.withNodes {sites : List (Nat × Position)} (h : Grown c₀ taken c)
    (room : LeavesRoom c₀) (new : ∀ site ∈ sites, (plan.systemIdOctet, site.1) ∉ taken)
    (distinct : (sites.map Prod.fst).Nodup) (inRange : ∀ site ∈ sites, site.1 < maxNodes)
    (octet : ∀ r ∈ c₀.routers, firstOctet? r.systemId ≠ some plan.systemIdOctet.toNat)
    (fits : PrefixesFit plan.v4Routes plan.v6Routes) :
    Grown c₀ (sites.map (fun site => (plan.systemIdOctet, site.1)) ++ taken)
      (withNodes plan c sites) := by
  induction sites generalizing c taken with
  | nil => simpa [Topology.withNodes] using h
  | cons site rest ih =>
    obtain ⟨index, p⟩ := site
    obtain ⟨once, others⟩ := List.nodup_cons.mp distinct
    have first : Grown c₀ ((plan.systemIdOctet, index) :: taken)
        (c.addDevice (plannedDevice plan index p)) :=
      h.addNode room (new (index, p) (by simp)) (inRange (index, p) (by simp)) octet fits
    have later : ∀ site ∈ rest,
        (plan.systemIdOctet, site.1) ∉ (plan.systemIdOctet, index) :: taken := by
      intro site member used
      rcases List.mem_cons.mp used with same | old
      · exact once (List.mem_map.mpr ⟨site, member, (Prod.mk.inj same).2⟩)
      · exact new site (List.mem_cons_of_mem _ member) old
    have all := ih first later others fun site member => inRange site (List.mem_cons_of_mem _ member)
    have step : Topology.withNodes plan c ((index, p) :: rest) =
        Topology.withNodes plan (c.addDevice (plannedDevice plan index p)) rest := by
      simp [Topology.withNodes, Config.addDevice]
    rw [step]
    apply all.mono
    intro n member
    simp only [List.mem_append, List.mem_cons, List.map_cons] at member ⊢
    tauto

end Nodes

/-! ### Building -/

section Building

variable {c₀ c c' : Config} {taken : List (UInt8 × Nat)} {b : Builder} {t : Topology} {octet : UInt8}

/-- Building a topology whose octet is new keeps the invariant; only nodes of that octet become
taken. -/
theorem Grown.build (h : Grown c₀ taken c) (room : LeavesRoom c₀)
    (built : b.buildInPlace c = (c', .ok t)) (set : b.systemIdOctet = some octet)
    (new : ∀ n ∈ taken, n.1 ≠ octet)
    (other : ∀ r ∈ c₀.routers, firstOctet? r.systemId ≠ some octet.toNat)
    (fits : PrefixesFit b.v4Routes b.v6Routes) :
    ∃ added, (∀ n ∈ added, n.1 = octet) ∧ Grown c₀ (added ++ taken) c' := by
  obtain ⟨octet', checked⟩ := Builder.exists_buildInPlace_iff.mp ⟨c', t, built⟩
  obtain ⟨set', accepts⟩ := Builder.check_eq_ok_iff.mp checked
  rw [set] at set'
  cases set'
  obtain ⟨c'', edges, linked, result⟩ := Builder.buildInPlace_of_check checked
  rw [built] at result
  cases result
  have numbers : (b.sites.map Prod.fst).Nodup := by
    have same : b.sites.map Prod.fst = List.range b.shape.size := by
      simp [Builder.sites, Function.comp_def]
    exact same ▸ List.nodup_range
  have nodes : Grown c₀ (b.sites.map (fun site => (octet, site.1)) ++ taken)
      (Topology.withNodes (b.plan octet) c b.sites) :=
    @Grown.withNodes c₀ c taken (b.plan octet) b.sites h room (fun _ _ used => new _ used rfl) numbers
      (fun site member => (Builder.sites_inRange accepts.few site member).1) other fits
  refine ⟨b.sites.map fun site => (octet, site.1), ?_, ?_⟩
  · intro n member
    obtain ⟨site, _, rfl⟩ := List.mem_map.mp member
    rfl
  · have links := nodes.addEdges room
      { shape := b.shape, addressing := b.addressing,
        nodes := b.sites.map fun site => plannedNode (b.plan octet) site.1 site.2 } b.shape.edges
    rw [linked] at links
    exact links

end Building

end IsisTestbed.Topology
