import IsisTestbed.Proofs.Topology.AddressPlan
import IsisTestbed.Proofs.Topology.InPlace
import IsisTestbed.Proofs.Topology.Session

/-!
When a device can be attached to a topology that was built, in whatever state the configuration is
by then, and what changes. A connect declines for one of six reasons, the first one that applies, and
then nothing has changed. Otherwise both devices get one ethernet and one ISIS interface, the topology
gets one attachment, and that is all.
-/

namespace IsisTestbed

/-- How a position is written in the report that no node is there. -/
def Position.label : Position → String
  | .cell row col => "(" ++ Text.number row ++ ", " ++ Text.number col ++ ")"
  | .station index => Text.number index

namespace Topology

/-! ### Topologies that were built -/

/-- Whether a topology was returned by a builder, and devices have been attached to it since, each in
some configuration. -/
inductive IsBuilt : Topology → Prop where
  | build {b : Builder} {c c' : Config} {t : Topology} (built : b.build c = .ok (c', t)) : IsBuilt t
  | connect {t t' : Topology} {c c' : Config} {device : String} {p : Position} {x : Attachment}
      (before : IsBuilt t) (connected : t.connect c device p = .ok (c', t', x)) : IsBuilt t'

theorem IsBuilt.isShaped {t : Topology} (h : t.IsBuilt) : t.IsShaped := by
  induction h with
  | build built => exact (Builder.planned_of_build built).2.1
  | connect _ connected shaped =>
    obtain ⟨index, _, attached⟩ := connect_eq_ok_iff.mp connected
    exact shaped.attach attached

theorem IsBuilt.addressed {t : Topology} (h : t.IsBuilt) : t.addressing.isEmpty = false := by
  induction h with
  | build built =>
    obtain ⟨_, _, accepts, added⟩ := Builder.added_of_build built
    rw [added.addressing]
    exact Builder.isEmpty_eq_false_iff.mpr accepts.addressed
  | connect _ connected addressed =>
    obtain ⟨index, _, attached⟩ := connect_eq_ok_iff.mp connected
    obtain ⟨_, _, _, _, rfl, _⟩ := linked_of_attach attached
    exact addressed

/-! ### Reasons to decline -/

/-- The node at a position, and where its device and the one to be attached to it are found. -/
structure Finds (t : Topology) (c : Config) (device : String) (p : Position) (n : Node)
    (i j : Nat) : Prop where
  node : t.nodeAt p = .ok n
  emulated : c.deviceIndex device = .ok i
  simulated : c.deviceIndex n.name = .ok j

/-- Why a device cannot be attached to the node at a position: the first reason that applies. -/
inductive Declines (t : Topology) (c : Config) (device : String) (p : Position) :
    TopologyError → Prop where
  | nodeNotFound (outside : ¬ t.shape.Contains p) : Declines t c device p (.nodeNotFound p.label)
  | deviceNotFound {n : Node} (node : t.nodeAt p = .ok n)
      (missing : device ∉ c.devices.map (·.name)) :
      Declines t c device p (.config (.deviceNotFound device))
  | nodeDeviceNotFound {n : Node} (node : t.nodeAt p = .ok n)
      (present : device ∈ c.devices.map (·.name)) (missing : n.name ∉ c.devices.map (·.name)) :
      Declines t c device p (.config (.deviceNotFound n.name))
  | sameDevice {n : Node} {i : Nat} (found : t.Finds c device p n i i) :
      Declines t c device p (.config (.sameDevice device))
  | noIsisRouter {n : Node} {i j : Nat} {first : Device} (found : t.Finds c device p n i j)
      (different : i ≠ j) (atFirst : c.devices[i]? = some first) (none : first.isis = none) :
      Declines t c device p (.noIsisRouter device)
  | noIsisRouterOnNode {n : Node} {i j : Nat} {first second : Device}
      (found : t.Finds c device p n i j) (different : i ≠ j)
      (atFirst : c.devices[i]? = some first) (runs : first.isis.isSome = true)
      (atSecond : c.devices[j]? = some second) (none : second.isis = none) :
      Declines t c device p (.noIsisRouter n.name)

/-- Whether a device is another one with one more end of a link: an ethernet, and an ISIS interface
on it, behind those that it had. -/
def GrowsTo (d d' : Device) (near far : String) : Prop :=
  ∃ r e i, d.isis = some r ∧ e.name = near ∧ e.connection = some (.simulatedLink far) ∧
    i.ethernet = near ∧
    d' = { d with
      ethernets := d.ethernets ++ [e]
      isis := some { r with interfaces := r.interfaces ++ [i] } }

/-- Whether a device is attached to a node, and nothing else has changed. -/
structure Connects (t t' : Topology) (c c' : Config) (device : String) (p : Position)
    (x : Attachment) : Prop where
  resolved : t.resolve p = .ok x.node
  ofDevice : x.device = device
  topology : t' = { t with attachments := t.attachments ++ [x] }
  ports : c'.ports = c.ports
  flows : c'.flows = c.flows
  devices : ∃ n i j first second first' second', t.Finds c device p n i j ∧ i ≠ j ∧
    c.devices[i]? = some first ∧ c.devices[j]? = some second ∧
    GrowsTo first first' x.link.ethernetA x.link.ethernetB ∧
    GrowsTo second second' x.link.ethernetB x.link.ethernetA ∧
    c'.devices = (c.devices.set i first').set j second'

section Outcome

variable {t t' : Topology} {c c' : Config} {device : String} {p : Position} {n : Node}
  {i j a b index : Nat} {addressing : LinkAddressing} {first second : Device} {x : Attachment}
  {e : TopologyError}

/-! ### Links between what is found -/

/-- Fails unless the devices at two positions are different ones that both run ISIS. -/
def requireLinkable (c : Config) (i j : Nat) : Except TopologyError Unit := do
  let pair ← TopologyError.lift (c.devicePair i j)
  requireRouter pair.1
  requireRouter pair.2

/-- If some family is in use and the numbers fit an octet, the two devices alone decide whether a link
can be made. -/
theorem connectDevices_eq_error_iff (addressed : addressing.isEmpty = false) (ha : a + 1 < 256)
    (hb : b + 1 < 256) :
    connectDevices c i j a b addressing = .error e ↔ requireLinkable c i j = .error e := by
  simp only [connectDevices, requireLinkable, addressed, Bool.false_eq_true, if_false, octet_eq ha,
    octet_eq hb, ok_bind, linkAddresses_eq]
  cases found : c.devicePair i j with
  | error cause => simp only [TopologyError.lift, error_bind, Except.error.injEq]
  | ok pair =>
    obtain ⟨first, second⟩ := pair
    obtain ⟨different, atFirst, atSecond⟩ := Config.devicePair_eq_ok_iff.mp found
    simp only [TopologyError.lift, ok_bind, Config.updatePair_eq different atFirst atSecond]
    cases requireRouter first with
    | error cause => simp only [error_bind, Except.error.injEq]
    | ok _ =>
      simp only [ok_bind]
      cases requireRouter second with
      | error cause => simp only [error_bind, Except.error.injEq]
      | ok _ => simp [ok_bind, pure, Except.pure]

theorem requireRouter_of_none (none : first.isis = none) :
    requireRouter first = .error (.noIsisRouter first.name) := by
  rw [requireRouter, none]
  rfl

theorem requireLinkable_self (atFirst : c.devices[i]? = some first) :
    requireLinkable c i i = .error (.config (.sameDevice first.name)) := by
  rw [requireLinkable, Config.devicePair, if_pos rfl, Config.deviceAt_eq_ok_iff.mpr atFirst]
  rfl

theorem requireLinkable_eq (different : i ≠ j) (atFirst : c.devices[i]? = some first)
    (atSecond : c.devices[j]? = some second) :
    requireLinkable c i j = requireRouter first >>= fun _ => requireRouter second := by
  rw [requireLinkable, Config.devicePair_eq_ok_iff.mpr ⟨different, atFirst, atSecond⟩]
  rfl

/-! ### Declining -/

theorem nodeAt_of_not_contains (h : t.IsShaped) (outside : ¬ t.shape.Contains p) :
    t.nodeAt p = .error (.nodeNotFound p.label) := by
  cases p with
  | cell row col =>
    have missing : t.nodeIndex row col = .error (.nodeNotFound (Position.label (.cell row col))) := by
      cases form : t.shape with
      | ring nodes => rw [nodeIndex_ring form, Position.label]
      | grid rows cols =>
        rw [form] at outside
        have outside : ¬ (row < rows ∧ col < cols) := outside
        rw [nodeIndex_grid form, if_neg outside, Position.label]
    rw [nodeAt, resolve, missing]
    rfl
  | station index =>
    have outside : ¬ index < t.shape.size := by
      cases form : t.shape <;> simpa [form, Shape.Contains] using outside
    have unset : t.nodes[index]? = none := by
      apply List.getElem?_eq_none
      have size : t.nodes.length = t.shape.size := h.size
      omega
    rw [nodeAt, resolve, ok_bind, node, unset]
    rfl

theorem connect_eq_bind : t.connect c device p = (do
    let n ← t.nodeAt p
    let i ← TopologyError.lift (c.deviceIndex device)
    let j ← TopologyError.lift (c.deviceIndex n.name)
    let index ← t.resolve p
    let (c', link) ← connectDevices c i j t.size index t.addressing
    return (c', { t with attachments := t.attachments ++ [⟨device, index, link⟩] },
      ⟨device, index, link⟩)) := by
  unfold connect nodeAt attach
  cases t.resolve p with
  | error e => rfl
  | ok index => rfl

/-- Once all is found, attaching a device fails exactly if the two devices cannot be linked. -/
theorem Finds.connect_eq_error_iff (found : t.Finds c device p n i j) (shaped : t.IsShaped)
    (addressed : t.addressing.isEmpty = false) :
    t.connect c device p = .error e ↔ requireLinkable c i j = .error e := by
  obtain ⟨index, resolved, atIndex⟩ := nodeAt_eq_ok_iff.mp found.node
  have bound : index < t.size := (List.getElem?_eq_some_iff.mp atIndex).1
  have few := shaped.few
  rw [← connectDevices_eq_error_iff (a := t.size) (b := index) addressed (by omega) (by omega),
    connect_eq_bind, found.node, ok_bind, found.emulated, TopologyError.lift, ok_bind,
    found.simulated, TopologyError.lift, ok_bind, resolved, ok_bind]
  cases connectDevices c i j t.size index t.addressing with
  | error cause => simp only [error_bind, Except.error.injEq]
  | ok result => simp [ok_bind, pure, Except.pure]

theorem connect_of_declines (shaped : t.IsShaped) (addressed : t.addressing.isEmpty = false)
    (declines : t.Declines c device p e) : t.connect c device p = .error e := by
  cases declines with
  | nodeNotFound outside =>
    rw [connect_eq_bind, nodeAt_of_not_contains shaped outside]
    rfl
  | deviceNotFound node missing =>
    rw [connect_eq_bind, node, ok_bind, Config.deviceIndex_of_not_mem missing]
    rfl
  | nodeDeviceNotFound node present missing =>
    obtain ⟨i, emulated⟩ := Config.exists_deviceIndex_iff.mpr present
    rw [connect_eq_bind, node, ok_bind, emulated, TopologyError.lift, ok_bind,
      Config.deviceIndex_of_not_mem missing]
    rfl
  | sameDevice found =>
    obtain ⟨d, atI, name⟩ := Config.exists_of_deviceIndex found.emulated
    rw [found.connect_eq_error_iff shaped addressed, requireLinkable_self atI, name]
  | noIsisRouter found different atFirst none =>
    obtain ⟨second, atSecond, _⟩ := Config.exists_of_deviceIndex found.simulated
    rw [found.connect_eq_error_iff shaped addressed, requireLinkable_eq different atFirst atSecond,
      requireRouter_of_none none, Config.name_of_deviceIndex found.emulated atFirst, error_bind]
  | noIsisRouterOnNode found different atFirst runs atSecond none =>
    rw [found.connect_eq_error_iff shaped addressed, requireLinkable_eq different atFirst atSecond,
      (requireRouter_eq_ok_iff (u := ())).mpr runs, ok_bind, requireRouter_of_none none,
      Config.name_of_deviceIndex found.simulated atSecond]

/-- Once all is found, a device is attached or one of the last three reasons applies. -/
theorem Finds.connects_or_declines (found : t.Finds c device p n i j) (shaped : t.IsShaped)
    (addressed : t.addressing.isEmpty = false) :
    (∃ result, t.connect c device p = .ok result) ∨ ∃ e, t.Declines c device p e := by
  obtain ⟨first, atFirst, _⟩ := Config.exists_of_deviceIndex found.emulated
  obtain ⟨second, atSecond, _⟩ := Config.exists_of_deviceIndex found.simulated
  by_cases same : i = j
  · subst same
    exact .inr ⟨_, .sameDevice found⟩
  · cases runs : first.isis with
    | none => exact .inr ⟨_, .noIsisRouter found same atFirst runs⟩
    | some r =>
      have firstRuns : first.isis.isSome = true := by rw [runs]; rfl
      cases runsToo : second.isis with
      | none => exact .inr ⟨_, .noIsisRouterOnNode found same atFirst firstRuns atSecond runsToo⟩
      | some r' =>
        have secondRuns : second.isis.isSome = true := by rw [runsToo]; rfl
        obtain ⟨index, resolved, atIndex⟩ := nodeAt_eq_ok_iff.mp found.node
        have bound : index < t.size := (List.getElem?_eq_some_iff.mp atIndex).1
        have few := shaped.few
        have different : device ≠ n.name := by
          rintro rfl
          exact same (Except.ok.inj (found.emulated.symm.trans found.simulated))
        exact .inl (exists_connect_iff.mpr ⟨index, n, resolved, atIndex, addressed,
          ⟨by omega, by omega⟩, different, ⟨i, first, found.emulated, atFirst, firstRuns⟩,
          ⟨j, second, found.simulated, atSecond, secondRuns⟩⟩)

/-- Every device is attached or there is a reason to decline. The cases are the checks in their
order. -/
theorem connects_or_declines (shaped : t.IsShaped) (addressed : t.addressing.isEmpty = false)
    (c : Config) (device : String) (p : Position) :
    (∃ result, t.connect c device p = .ok result) ∨ ∃ e, t.Declines c device p e := by
  by_cases inside : t.shape.Contains p
  · obtain ⟨index, resolved, bound⟩ := exists_resolve_iff.mpr inside
    rw [← shaped.size] at bound
    obtain ⟨n, atIndex⟩ : ∃ n, t.nodes[index]? = some n :=
      ⟨_, List.getElem?_eq_getElem bound⟩
    have node : t.nodeAt p = .ok n := nodeAt_eq_ok_iff.mpr ⟨index, resolved, atIndex⟩
    by_cases present : device ∈ c.devices.map (·.name)
    · by_cases onNode : n.name ∈ c.devices.map (·.name)
      · obtain ⟨i, emulated⟩ := Config.exists_deviceIndex_iff.mpr present
        obtain ⟨j, simulated⟩ := Config.exists_deviceIndex_iff.mpr onNode
        exact Finds.connects_or_declines ⟨node, emulated, simulated⟩ shaped addressed
      · exact .inr ⟨_, .nodeDeviceNotFound node present onNode⟩
    · exact .inr ⟨_, .deviceNotFound node present⟩
  · exact .inr ⟨_, .nodeNotFound inside⟩

theorem connect_eq_error_iff (shaped : t.IsShaped) (addressed : t.addressing.isEmpty = false) :
    t.connect c device p = .error e ↔ t.Declines c device p e := by
  constructor
  · intro failed
    rcases connects_or_declines shaped addressed c device p with ⟨result, connected⟩ | ⟨e', declines⟩
    · cases failed.symm.trans connected
    · cases failed.symm.trans (connect_of_declines shaped addressed declines)
      exact declines
  · exact connect_of_declines shaped addressed

/-! ### Attaching -/

theorem growsTo_addEnd {near far : String} {v4 : Option (Ipv4 × Ipv4)} {v6 : Option (Ipv6 × Ipv6)}
    {added : Ethernet} (runs : first.isis.isSome = true) (isEnd : IsEnd near far v4 v6 added) :
    GrowsTo first (addEnd added first) near far := by
  obtain ⟨r, isis⟩ := Option.isSome_iff_exists.mp runs
  refine ⟨r, added, linkInterface first.name added.name r, isis, isEnd.name, isEnd.connection,
    isEnd.name, ?_⟩
  rw [addEnd, Device.modifyRouter, Device.addEthernet, isis]
  rfl

theorem devices_linkedConfig {endA endB : Ethernet} (h : Linkable c i j first second) :
    (linkedConfig c i j endA endB).devices =
      (c.devices.set i (addEnd endA first)).set j (addEnd endB second) := by
  have atSecond : (c.devices.set i (addEnd endA first))[j]? = some second := by
    rw [List.getElem?_set_ne h.different, h.atSecond]
  have setFirst : c.devices.modify i (addEnd endA) = c.devices.set i (addEnd endA first) := by
    rw [List.modify_eq_set_getElem?, h.atFirst]
    rfl
  rw [linkedConfig, Config.devices_modifyDevice, Config.devices_modifyDevice, setFirst,
    List.modify_eq_set_getElem?, atSecond]
  rfl

/-- What attaching a device changes. -/
theorem connects_of_connect (connected : t.connect c device p = .ok (c', t', x)) :
    Connects t t' c c' device p x := by
  obtain ⟨index, resolved, attached⟩ := connect_eq_ok_iff.mp connected
  obtain ⟨n, i, j, link, atIndex, emulated, simulated, linked, rfl, rfl⟩ :=
    attach_eq_ok_iff.mp attached
  obtain ⟨first, second, linkable, rfl, rfl⟩ := eq_of_connectDevices linked
  have found : t.Finds c device p n i j :=
    ⟨nodeAt_eq_ok_iff.mpr ⟨index, resolved, atIndex⟩, emulated, simulated⟩
  exact ⟨resolved, rfl, rfl, rfl, rfl, n, i, j, first, second, _, _, found, linkable.different,
    linkable.atFirst, linkable.atSecond,
    growsTo_addEnd linkable.firstRuns (isEnd_linkEthernet _ _ _ _ _),
    growsTo_addEnd linkable.secondRuns (isEnd_linkEthernet _ _ _ _ _),
    devices_linkedConfig linkable⟩

/-- Attaching a device to a topology that was built, whatever has become of the configuration: it
fails exactly for the first reason that applies, and then all is as before, also if it is done in
place. No reason has to do with numbers or addresses. Otherwise nothing but the two devices and the
list of attachments has changed. -/
theorem connect_succeeds_or_keeps_all (built : t.IsBuilt) (c : Config) (device : String)
    (p : Position) :
    (∀ e, t.connect c device p = .error e ↔ t.Declines c device p e) ∧
    (∀ e s, (connectInPlace device p).runOn (c, t) = (.error e, s) ↔
      t.Declines c device p e ∧ s = (c, t)) ∧
    (∀ e, t.Declines c device p e → (∀ index, e ≠ .addressSpaceExhausted index) ∧
      (∀ text, e ≠ .invalidAddress text) ∧ e ≠ .noLinkAddressing ∧
      ∀ index, e ≠ .config (.noDeviceAt index)) ∧
    (∀ c' t' x, (connectInPlace device p).runOn (c, t) = (.ok x, c', t') ↔
      t.connect c device p = .ok (c', t', x)) ∧
    (∀ c' t' x, t.connect c device p = .ok (c', t', x) → Connects t t' c c' device p x) := by
  have fails (e : TopologyError) : t.connect c device p = .error e ↔ t.Declines c device p e :=
    connect_eq_error_iff built.isShaped built.addressed
  refine ⟨fails, ?_, ?_, fun _ _ _ => runOn_connectInPlace_eq_ok_iff,
    fun _ _ _ => connects_of_connect⟩
  · intro e s
    rw [runOn_connectInPlace_eq_error_iff, fails]
  · intro e declines
    cases declines <;> simp

end Outcome

/-- The tester is attached to the last node of the grid, but not if the nodes have been removed. -/
theorem connect_succeeds_or_keeps_all_of_smallGrid :
    ∃ c t, Session.smallGrid.build Session.testerConfig = .ok (c, t) ∧
      (connectInPlace "tester" (.cell 1 1)).runOn (Session.testerConfig, t) =
        (.error (.config (.deviceNotFound "T01d4.sim.1.1")), Session.testerConfig, t) ∧
      ∃ c' t' x, (connectInPlace "tester" (.cell 1 1)).runOn (c, t) = (.ok x, c', t') ∧
        Connects t t' c c' "tester" (.cell 1 1) x := by
  have outcomes : (Session.smallGrid.build Session.testerConfig).toOption.map (fun built =>
      ((built.2.nodeAt (.cell 1 1)).toOption.map (·.name),
        (built.2.connect built.1 "tester" (.cell 1 1)).toOption.isSome)) =
      some (some "T01d4.sim.1.1", true) := by decide +kernel
  cases built : Session.smallGrid.build Session.testerConfig with
  | error e => simp [built, Except.toOption] at outcomes
  | ok result =>
    obtain ⟨c, t⟩ := result
    simp only [built, Except.toOption, Option.map_some, Option.some.injEq, Prod.mk.injEq] at outcomes
    obtain ⟨_, declines, _⟩ :=
      connect_succeeds_or_keeps_all (.build built) Session.testerConfig "tester" (.cell 1 1)
    obtain ⟨_, _, _, inPlace, connects⟩ :=
      connect_succeeds_or_keeps_all (.build built) c "tester" (.cell 1 1)
    refine ⟨c, t, rfl, ?_, ?_⟩
    · cases node : t.nodeAt (.cell 1 1) with
      | error e => simp [node] at outcomes
      | ok n =>
        have name : n.name = "T01d4.sim.1.1" := by simpa [node] using outcomes.1
        refine (declines _ _).mpr ⟨name ▸ .nodeDeviceNotFound node (by decide) ?_, rfl⟩
        rw [name]
        decide
    · cases connected : t.connect c "tester" (.cell 1 1) with
      | error e => simp [connected] at outcomes
      | ok result =>
        obtain ⟨c', t', x⟩ := result
        exact ⟨c', t', x, (inPlace c' t' x).mpr connected, connects c' t' x connected⟩

end Topology

end IsisTestbed
