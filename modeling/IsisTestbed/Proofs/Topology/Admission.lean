import IsisTestbed.Proofs.Topology.LinkedDevices
import IsisTestbed.Proofs.Topology.Locality
import IsisTestbed.Proofs.Topology.Session

/-!
When a build or a connect keeps a configuration consistent, exactly. Both add objects and change
none of those that are there, so the result is consistent as soon as the new names and system ids
are new. The builder itself only asks for new names of devices, and a connect asks for none; all
other clashes are left to the checks.
-/

namespace IsisTestbed

open IsisTestbed.Topology

theorem Shape.size_pos {s : Shape} (large : s.IsLarge) : 0 < s.size := by
  cases s with
  | grid rows cols =>
    obtain ⟨hrows, hcols⟩ : 2 ≤ rows ∧ 2 ≤ cols := large
    exact Nat.mul_pos (by omega) (by omega)
  | ring nodes =>
    have hnodes : 2 ≤ nodes := large
    exact Nat.lt_of_lt_of_le (by decide) hnodes

theorem Config.consistent_empty : ({} : Config).Consistent := by
  apply (Config.violations_eq_nil_iff {}).mp
  decide

/-! ### Building -/

namespace Topology

/-- What does not depend on their interfaces is the same for all routers after any number of links.
-/
theorem map_routers_addEdges {α : Type} {f : Router → α}
    (h : ∀ r i, f (Router.addInterface r i) = f r) (t : Topology) (c : Config)
    (pairs : List (Nat × Nat)) : (addEdges t c pairs).1.routers.map f = c.routers.map f := by
  refine addEdges_keeps (P := fun c' => c'.routers.map f = c.routers.map f) ?_ rfl
  intro c₁ c₂ a b edge same added
  obtain ⟨_, _, _, _, _, _, _, _, _, linked, _⟩ := addEdge_eq_ok_iff.mp added
  obtain ⟨_, _, _, rfl, _⟩ := eq_of_connectDevices linked
  exact (map_routers_linkedConfig h).trans same

end Topology

namespace Builder

variable {b : Builder} {c c' : Config} {t : Topology} {octet : UInt8}

/-- Each node has a router that advertises the planned routes. -/
theorem exists_router_created (h : b.check {} = .ok octet) {site : Nat × Position}
    (member : site ∈ b.sites) : ∃ r ∈ b.created.routers,
      r.v4Routes = (plannedRouter (b.plan octet) site.1 site.2).v4Routes ∧
      r.v6Routes = (plannedRouter (b.plan octet) site.1 site.2).v6Routes := by
  obtain ⟨x, edges, linked, result⟩ := buildInPlace_of_check h
  have alone : b.created = x := congrArg Prod.fst result
  have parts := map_routers_addEdges (f := fun r : Router => (r.v4Routes, r.v6Routes))
    (fun _ _ => rfl)
    { shape := b.shape, addressing := b.addressing,
      nodes := b.sites.map fun site => plannedNode (b.plan octet) site.1 site.2 }
    (withNodes (b.plan octet) {} b.sites) b.shape.edges
  rw [linked, ← alone] at parts
  have planned : plannedRouter (b.plan octet) site.1 site.2 ∈
      (withNodes (b.plan octet) {} b.sites).routers := by
    refine List.mem_filterMap.mpr ⟨plannedDevice (b.plan octet) site.1 site.2, ?_, rfl⟩
    exact List.mem_append_right _ (List.mem_map.mpr ⟨site, member, rfl⟩)
  have listed := parts ▸ List.mem_map_of_mem (f := fun r : Router => (r.v4Routes, r.v6Routes)) planned
  obtain ⟨r, hr, same⟩ := List.mem_map.mp listed
  obtain ⟨v4, v6⟩ := Prod.mk.inj same
  exact ⟨r, hr, v4, v6⟩

/-- Created routers are valid only if the prefixes of their routes are no longer than the addresses:
there is a first node, and it advertises what is requested. -/
theorem prefixesFit_of_routes (h : b.buildInPlace {} = (b.created, .ok t))
    (valid : ∀ r ∈ b.created.routers, r.RoutesAreValid) : PrefixesFit b.v4Routes b.v6Routes := by
  obtain ⟨octet, checked⟩ := exists_buildInPlace_iff.mp ⟨_, _, h⟩
  obtain ⟨_, accepts⟩ := check_eq_ok_iff.mp checked
  have first : (0, b.shape.position 0) ∈ b.sites :=
    List.mem_map.mpr ⟨0, List.mem_range.mpr (Shape.size_pos accepts.large), rfl⟩
  obtain ⟨r, hr, v4, v6⟩ := exists_router_created checked first
  constructor
  · intro routes requested
    have requested : (b.plan octet).v4Routes = some routes := requested
    simp only [plannedRouter, requested, Option.toList, List.map_cons, List.map_nil] at v4
    exact ((valid r hr).v4 _ (v4 ▸ List.mem_cons_self) _ List.mem_cons_self).2 _ rfl
  · intro routes requested
    have requested : (b.plan octet).v6Routes = some routes := requested
    simp only [plannedRouter, requested, Option.toList, List.map_cons, List.map_nil] at v6
    exact ((valid r hr).v6 _ (v6 ▸ List.mem_cons_self) _ List.mem_cons_self).2 _ rfl

/-- If they are, the created devices are consistent by themselves. -/
theorem consistent_created (h : b.buildInPlace {} = (b.created, .ok t))
    (fits : PrefixesFit b.v4Routes b.v6Routes) : b.created.Consistent := by
  obtain ⟨octet, checked⟩ := exists_buildInPlace_iff.mp ⟨_, _, h⟩
  have room : LeavesRoom {} := by
    constructor
    · intro name member
      cases member
    · intro d member
      cases member
  have none : ∀ r ∈ ({} : Config).routers, firstOctet? r.systemId ≠ some octet.toNat := by
    intro r member
    cases member
  have untaken : ∀ n ∈ ([] : List (UInt8 × Nat)), n.1 ≠ octet := by
    intro n member
    cases member
  obtain ⟨set, _⟩ := check_eq_ok_iff.mp checked
  obtain ⟨_, _, grown⟩ :=
    (Grown.start Config.consistent_empty).build room h set untaken none fits
  exact grown.consistent

theorem violations_created_eq_nil_iff (h : b.buildInPlace {} = (b.created, .ok t)) :
    b.created.violations = [] ↔ PrefixesFit b.v4Routes b.v6Routes := by
  rw [Config.violations_eq_nil_iff]
  constructor
  · intro consistent
    exact prefixesFit_of_routes h consistent.routes
  · exact consistent_created h

theorem flows_created (h : b.buildInPlace {} = (b.created, .ok t)) : b.created.flows = [] := by
  rw [created_eq_devices h]

/-- A build that succeeds on a valid configuration puts what it creates behind all that is there.
The result is valid exactly if the prefixes of the routes are possible, and neither the names of the
created objects nor the system ids of the created routers were in use. -/
theorem build_keeps_validity_iff (valid : c.violations = []) (built : b.build c = .ok (c', t)) :
    c' = c.append b.created ∧
    (c'.violations = [] ↔ PrefixesFit b.v4Routes b.v6Routes ∧
      (∀ name ∈ b.created.objectNames, name ∉ c.objectNames) ∧
      ∀ r ∈ c.routers, ∀ new ∈ b.created.routers, foldCase r.systemId ≠ foldCase new.systemId) := by
  obtain ⟨alone, rfl, _⟩ := buildInPlace_eq_append (build_eq_ok_iff.mp built)
  refine ⟨rfl, ?_⟩
  rw [Config.violations_eq_nil_iff] at valid ⊢
  constructor
  · intro all
    have names := (Config.objectNames_append_perm c b.created).nodup_iff.mp all.names
    have ids := all.distinctSystemIds
    rw [Config.routers_append, List.map_append] at ids
    refine ⟨prefixesFit_of_routes alone fun r new => ?_, ?_, ?_⟩
    · exact all.routes r (Config.mem_routers_append.mpr (.inr new))
    · intro name new old
      exact (List.nodup_append.mp names).2.2 name old name new rfl
    · intro r old r' new
      exact (List.nodup_append.mp ids).2.2 _ (List.mem_map_of_mem old) _ (List.mem_map_of_mem new)
  · rintro ⟨fits, names, ids⟩
    refine valid.append (consistent_created alone fits) ?_ ids
    exact fun name old new => names name new old

/-- A port with the name of the IPv4 address object on the second ethernet of the second node. -/
def clashingConfig : Config where
  ports := [{ name := "T01d2.sim.0.1eth2ip4" }]

theorem build_keeps_validity_iff_of_clash :
    clashingConfig.violations = [] ∧ ∃ c' t, Session.smallGrid.build clashingConfig = .ok (c', t) ∧
      c' = clashingConfig.append Session.smallGrid.created ∧ c'.violations ≠ [] := by
  have valid : clashingConfig.violations = [] := by decide
  have succeeds : (Session.smallGrid.build clashingConfig).toOption.isSome = true := by decide +kernel
  have used : "T01d2.sim.0.1eth2ip4" ∈ Session.smallGrid.created.objectNames := by decide +kernel
  cases built : Session.smallGrid.build clashingConfig with
  | error e => simp [built, Except.toOption] at succeeds
  | ok result =>
    obtain ⟨c', t⟩ := result
    obtain ⟨appended, kept⟩ := build_keeps_validity_iff valid built
    refine ⟨valid, c', t, rfl, appended, fun none => ?_⟩
    exact (kept.mp none).2.1 _ used (by decide)

end Builder

/-! ### Connecting -/

namespace Topology

/-- The names that a link creates on one of its devices, with the next numbers of an ethernet and of
an ISIS interface; those of address objects in the families in use. -/
def createdNames (addressing : LinkAddressing) (d : Device) : List String :=
  let ethernet := ethernetName d.name (d.ethernets.length + 1)
  let interfaces := d.isis.elim 0 fun r => r.interfaces.length
  [ethernet, interfaceName d.name (interfaces + 1)] ++
    (if addressing.v4Octet.isSome then [v4Name ethernet] else []) ++
    if addressing.v6Group.isSome then [v6Name ethernet] else []

section Connect

variable {c c' : Config} {t t' : Topology} {device : String} {p : Position} {x : Attachment}
  {addressing : LinkAddressing} {a b : UInt8} {d first second : Device} {r ra rb : Router}
  {name : String}

/-- The created names are those of a derived end in the families of the link. -/
theorem endNames_perm_createdNames (runs : d.isis = some r) (far mac : String)
    {v4 : Option (Ipv4 × Ipv4)} {v6 : Option (Ipv6 × Ipv6)}
    (inV4 : v4.isSome = addressing.v4Octet.isSome) (inV6 : v6.isSome = addressing.v6Group.isSome) :
    (endNames (linkEthernet (nextEthernet d) far mac v4 v6) d r).Perm
      (createdNames addressing d) := by
  apply List.perm_iff_count.mpr
  intro name
  unfold createdNames
  rw [← inV4, ← inV6]
  cases v4 <;> cases v6 <;>
  · simp [endNames, linkEthernet, Ethernet.named, nextEthernet, runs, List.count_cons]
    try omega

/-- The next names on two devices of different names have nothing in common. -/
theorem nextNames_disjoint (runsA : first.isis = some ra) (runsB : second.isis = some rb)
    (different : first.name ≠ second.name) :
    (nextNames first ra).Disjoint (nextNames second rb) := by
  intro name inFirst inSecond
  -- Once an end is added to the first device, its next names are numbered on it.
  have numbered := isNumbered_of_mem_nextNames inFirst runsA default
  exact numbered.not_mem_nextNames runsB (fun same => absurd same different) inSecond

/-- A link keeps a consistent configuration consistent exactly if the names it creates are new. -/
theorem consistent_linkedConfig_iff (h : c.Consistent) {i j : Nat}
    (linkable : Linkable c i j first second) (different : first.name ≠ second.name) :
    (linkedConfig c i j (firstEnd addressing a b first second)
      (secondEnd addressing a b first second)).Consistent ↔
    ∀ name ∈ createdNames addressing first ++ createdNames addressing second,
      name ∉ c.objectNames := by
  obtain ⟨ra, runsA⟩ := Option.isSome_iff_exists.mp linkable.firstRuns
  obtain ⟨rb, runsB⟩ := Option.isSome_iff_exists.mp linkable.secondRuns
  have createdA : (endNames (firstEnd addressing a b first second) first ra).Perm
      (createdNames addressing first) :=
    endNames_perm_createdNames runsA _ _ (by simp) (by simp)
  have createdB : (endNames (secondEnd addressing a b first second) second rb).Perm
      (createdNames addressing second) :=
    endNames_perm_createdNames runsB _ _ (by simp) (by simp)
  have all : (linkedConfig c i j (firstEnd addressing a b first second)
      (secondEnd addressing a b first second)).objectNames.Perm
        (endNames (secondEnd addressing a b first second) second rb ++
          (endNames (firstEnd addressing a b first second) first ra ++ c.objectNames)) :=
    objectNames_linkedConfig linkable runsA runsB
  constructor
  · intro consistent name created old
    have names := all.nodup_iff.mp consistent.names
    rw [← List.append_assoc] at names
    refine (List.nodup_append.mp names).2.2 name ?_ name old rfl
    rcases List.mem_append.mp created with atA | atB
    · exact List.mem_append_right _ (createdA.mem_iff.mpr atA)
    · exact List.mem_append_left _ (createdB.mem_iff.mpr atB)
  · intro new
    have nextA : (endNames (firstEnd addressing a b first second) first ra).Sublist
        (nextNames first ra) := endNames_linkEthernet_sublist first ra _ _ _ _
    have nextB : (endNames (secondEnd addressing a b first second) second rb).Sublist
        (nextNames second rb) := endNames_linkEthernet_sublist second rb _ _ _ _
    refine Consistent.linkedConfig h linkable runsA runsB (leadsTo_firstEnd _ _ _ _ _)
      (leadsTo_secondEnd _ _ _ _ _) ?_
    rw [List.nodup_append, List.nodup_append]
    refine ⟨nextB.nodup (nextNames_nodup second rb),
      ⟨nextA.nodup (nextNames_nodup first ra), h.names, ?_⟩, ?_⟩
    · rintro name created _ old rfl
      exact new name (List.mem_append_left _ (createdA.mem_iff.mp created)) old
    · rintro name created _ other rfl
      rcases List.mem_append.mp other with atA | old
      · exact nextNames_disjoint runsA runsB different (nextA.subset atA) (nextB.subset created)
      · exact new name (List.mem_append_right _ (createdB.mem_iff.mp created)) old

/-- The outcome of attaching a device to the node at a position, by the devices that are found. -/
theorem exists_linkable_of_connect (h : t.connect c device p = .ok (c', t', x)) :
    ∃ n i j first second a b, t.nodeAt p = .ok n ∧ c.device device = .ok first ∧
      c.device n.name = .ok second ∧ Linkable c i j first second ∧ first.name ≠ second.name ∧
      c' = linkedConfig c i j (firstEnd t.addressing a b first second)
        (secondEnd t.addressing a b first second) := by
  obtain ⟨index, resolved, attached⟩ := connect_eq_ok_iff.mp h
  obtain ⟨n, i, j, link, atIndex, indexA, indexB, linked, _⟩ := attach_eq_ok_iff.mp attached
  have different := (linked_of_connectDevices indexA indexB linked).different
  obtain ⟨first, second, linkable, same, _⟩ := eq_of_connectDevices linked
  have foundA : c.device device = .ok first :=
    Config.device_eq_ok_iff.mpr ⟨i, indexA, linkable.atFirst⟩
  have foundB : c.device n.name = .ok second :=
    Config.device_eq_ok_iff.mpr ⟨j, indexB, linkable.atSecond⟩
  refine ⟨n, i, j, first, second, _, _, ?_, foundA, foundB, linkable, ?_, same⟩
  · simp only [nodeAt, resolved, ok_bind, node_eq_ok_iff, atIndex]
  · rw [Config.name_of_device foundA, Config.name_of_device foundB]
    exact different

/-- A connect that succeeds on a valid configuration gives a valid one exactly if none of the names
it creates on the two devices is in use, whatever the devices and the topology are. -/
theorem connect_keeps_validity_iff (valid : c.violations = [])
    (connected : t.connect c device p = .ok (c', t', x)) :
    ∃ n first second, t.nodeAt p = .ok n ∧ c.device device = .ok first ∧
      c.device n.name = .ok second ∧
      (c'.violations = [] ↔
        ∀ name ∈ createdNames t.addressing first ++ createdNames t.addressing second,
          name ∉ c.objectNames) := by
  obtain ⟨n, i, j, first, second, a, b, node, foundA, foundB, linkable, different, rfl⟩ :=
    exists_linkable_of_connect connected
  refine ⟨n, first, second, node, foundA, foundB, ?_⟩
  rw [Config.violations_eq_nil_iff] at valid ⊢
  exact consistent_linkedConfig_iff valid linkable different

/-- The tester, beside a port with the name of its second ethernet. -/
def clashingTester : Config :=
  Session.testerConfig.addPort { name := "testereth2" }

theorem connect_keeps_validity_iff_of_clash :
    ∃ c t c' t' x, Session.smallGrid.build clashingTester = .ok (c, t) ∧ c.violations = [] ∧
      t.connect c "tester" (.cell 0 1) = .ok (c', t', x) ∧ c'.violations ≠ [] := by
  have succeeds : (Session.smallGrid.build clashingTester).toOption.bind (fun built =>
      (built.2.connect built.1 "tester" (.cell 0 1)).toOption.map fun _ =>
        (built.1.violations, built.1.device "tester", built.1.objectNames.contains "testereth2")) =
      some ([], clashingTester.device "tester", true) := by
    decide +kernel
  cases built : Session.smallGrid.build clashingTester with
  | error e => simp [built, Except.toOption] at succeeds
  | ok result =>
    obtain ⟨c, t⟩ := result
    cases connected : t.connect c "tester" (.cell 0 1) with
    | error e => simp [built, connected, Except.toOption] at succeeds
    | ok result =>
      obtain ⟨c', t', x⟩ := result
      simp only [built, connected, Except.toOption, Option.bind_some, Option.map_some,
        Option.some.injEq, Prod.mk.injEq, List.contains_iff_mem] at succeeds
      obtain ⟨valid, tester, used⟩ := succeeds
      obtain ⟨n, first, second, _, found, _, kept⟩ := connect_keeps_validity_iff valid connected
      refine ⟨c, t, c', t', x, rfl, valid, connected, fun none => ?_⟩
      have name : "testereth2" ∈ createdNames t.addressing first := by
        rw [found] at tester
        cases tester
        exact List.mem_append_left _ (List.mem_append_left _ (by decide))
      exact kept.mp none _ (List.mem_append_left _ name) used

end Connect

end Topology

end IsisTestbed
