import IsisTestbed.Proofs.Topology.Linking

/-!
Attaching a device, done in place. Here the configuration and the topology are changed part by part,
and a failure on the way leaves behind what was changed until then. Everything that can fail comes
before the first change, so the outcome is that of `Topology.connect`, and a failure leaves both as
they were.
-/

namespace IsisTestbed.Topology

/-! ### Changes in place -/

/-- A computation on a configuration and a topology, which it changes in place. What it has changed
before it fails stays changed. -/
abbrev InPlace (α : Type) : Type :=
  ExceptT TopologyError (StateM (Config × Topology)) α

namespace InPlace

variable {α β γ : Type} {s : Config × Topology}

/-- The outcome on a state, and the state that is left behind. -/
def runOn (x : InPlace α) (s : Config × Topology) : Except TopologyError α × Config × Topology :=
  x.run.run s

/-- A computation that may fail, but changes nothing. -/
def attempt (x : Except TopologyError α) : InPlace α :=
  ExceptT.mk (pure x)

/-- Changes the device at a position. -/
def changeDevice (index : Nat) (f : Device → Device) : InPlace Unit :=
  modify fun s => (s.1.modifyDevice index f, s.2)

/-- Adds an attachment. -/
def addAttachment (x : Attachment) : InPlace Unit :=
  modify fun s => (s.1, { s.2 with attachments := s.2.attachments ++ [x] })

/-- What a computation leaves behind that changes all at once, or nothing if it fails. -/
def settled (s : Config × Topology) :
    Except TopologyError (α × Config × Topology) → Except TopologyError α × Config × Topology
  | .ok (a, after) => (.ok a, after)
  | .error e => (.error e, s)

theorem runOn_bind (x : InPlace α) (f : α → InPlace β) :
    (x >>= f).runOn s = match x.runOn s with
      | (.ok a, after) => (f a).runOn after
      | (.error e, after) => (.error e, after) := by
  have step : (x >>= f).runOn s =
      (ExceptT.bindCont f (x.runOn s).1).run (x.runOn s).2 := rfl
  rw [step]
  rcases x.runOn s with ⟨_ | _, after⟩ <;> rfl

theorem runOn_get_bind (f : Config × Topology → InPlace α) :
    ((get : InPlace (Config × Topology)) >>= f).runOn s = (f s).runOn s :=
  rfl

/-- A step that changes nothing settles if what follows does, whatever the step has given. -/
theorem runOn_attempt_bind {x : Except TopologyError α} {f : α → InPlace β}
    {g : α → Except TopologyError γ} {h : γ → β × Config × Topology}
    (next : ∀ a, x = .ok a → (f a).runOn s = settled s ((g a).map h)) :
    (attempt x >>= f).runOn s = settled s ((x >>= g).map h) := by
  rw [runOn_bind]
  cases x with
  | error e => rfl
  | ok a => exact next a rfl

end InPlace

open InPlace

/-! ### Attaching in place -/

/-- Adds one end of a link to the device at a position: the ethernet, and then an ISIS interface on
it. -/
def addEndInPlace (index : Nat) (e : Ethernet) : InPlace Unit := do
  changeDevice index fun d => d.addEthernet e
  changeDevice index fun d => d.modifyRouter fun r =>
    r.addInterface (linkInterface d.name e.name r)

/-- Links the devices at two positions. -/
def linkInPlace (deviceA deviceB indexA indexB : Nat) (addressing : LinkAddressing) :
    InPlace Link := do
  if addressing.isEmpty then throw .noLinkAddressing
  let a ← attempt (octet (indexA + 1))
  let b ← attempt (octet (indexB + 1))
  let s ← get
  let (first, second) ← attempt (TopologyError.lift (s.1.devicePair deviceA deviceB))
  attempt (requireRouter first)
  attempt (requireRouter second)
  let nameA := nextEthernet first
  let nameB := nextEthernet second
  let (v4, v6) ← attempt (linkAddresses addressing a b)
  addEndInPlace deviceA (linkEthernet nameA nameB (linkMac a b) v4 v6)
  addEndInPlace deviceB
    (linkEthernet nameB nameA (linkMac b a) (v4.map Prod.swap) (v6.map Prod.swap))
  return ⟨nameA, nameB, v4, v6⟩

/-- Attaches a device to the node at a position. -/
def connectInPlace (device : String) (p : Position) : InPlace Attachment := do
  let s ← get
  let index ← attempt (s.2.resolve p)
  let node ← attempt (s.2.node index)
  let emulated ← attempt (TopologyError.lift (s.1.deviceIndex device))
  let simulated ← attempt (TopologyError.lift (s.1.deviceIndex node.name))
  let link ← linkInPlace emulated simulated s.2.size index s.2.addressing
  addAttachment ⟨device, index, link⟩
  return ⟨device, index, link⟩

section Agreement

variable {c : Config} {t : Topology} {i j a b : Nat} {addressing : LinkAddressing}

theorem runOn_addEndInPlace (e : Ethernet) :
    (addEndInPlace i e).runOn (c, t) = (.ok (), c.modifyDevice i (addEnd e), t) := by
  have twice : (c.devices.modify i fun d => d.addEthernet e).modify i (fun d =>
      d.modifyRouter fun r => r.addInterface (linkInterface d.name e.name r)) =
        c.devices.modify i (addEnd e) := by
    rw [List.modify_modify_eq]
    rfl
  have result : (addEndInPlace i e).runOn (c, t) =
      (.ok (), { c with devices := (c.devices.modify i fun d => d.addEthernet e).modify i (fun d =>
        d.modifyRouter fun r => r.addInterface (linkInterface d.name e.name r)) }, t) := rfl
  rw [result, twice]
  rfl

/-- A link is made as a whole or not at all. -/
theorem runOn_linkInPlace :
    (linkInPlace i j a b addressing).runOn (c, t) =
      settled (c, t) ((connectDevices c i j a b addressing).map fun (c', link) => (link, c', t)) := by
  unfold linkInPlace connectDevices
  cases addressing.isEmpty with
  | true => rfl
  | false =>
    refine runOn_attempt_bind fun octetA _ => runOn_attempt_bind fun octetB _ => ?_
    rw [runOn_get_bind]
    refine runOn_attempt_bind fun pair found => ?_
    obtain ⟨first, second⟩ := pair
    obtain ⟨different, atFirst, atSecond⟩ :=
      Config.devicePair_eq_ok_iff.mp (lift_eq_ok_iff.mp found)
    refine runOn_attempt_bind fun _ _ => runOn_attempt_bind fun _ _ => ?_
    refine runOn_attempt_bind fun addresses _ => ?_
    obtain ⟨v4, v6⟩ := addresses
    -- From here on nothing can fail: the two devices have been found.
    simp only [runOn_bind, runOn_addEndInPlace, Config.updatePair_eq different atFirst atSecond]
    rfl

/-- A device is attached as a whole or not at all: the outcome is that of `Topology.connect`, and a
failure leaves the configuration and the topology behind as they were. -/
theorem runOn_connectInPlace (device : String) (p : Position) :
    (connectInPlace device p).runOn (c, t) =
      settled (c, t) ((t.connect c device p).map fun (c', t', x) => (x, c', t')) := by
  unfold connectInPlace connect attach
  rw [runOn_get_bind]
  refine runOn_attempt_bind fun index _ => runOn_attempt_bind fun node _ => ?_
  refine runOn_attempt_bind fun emulated _ => runOn_attempt_bind fun simulated _ => ?_
  rw [runOn_bind, runOn_linkInPlace]
  cases connectDevices c emulated simulated t.size index t.addressing with
  | error e => rfl
  | ok result => rfl

theorem runOn_connectInPlace_eq_error_iff {device : String} {p : Position} {e : TopologyError}
    {s : Config × Topology} :
    (connectInPlace device p).runOn (c, t) = (.error e, s) ↔
      t.connect c device p = .error e ∧ s = (c, t) := by
  rw [runOn_connectInPlace]
  cases t.connect c device p with
  | error cause => simp [Except.map, settled, eq_comm]
  | ok result => simp [Except.map, settled]

theorem runOn_connectInPlace_eq_ok_iff {device : String} {p : Position} {c' : Config}
    {t' : Topology} {x : Attachment} :
    (connectInPlace device p).runOn (c, t) = (.ok x, c', t') ↔
      t.connect c device p = .ok (c', t', x) := by
  rw [runOn_connectInPlace]
  cases t.connect c device p with
  | error cause => simp [Except.map, settled]
  | ok result =>
    obtain ⟨c₁, t₁, y⟩ := result
    simp only [Except.map, settled, Prod.mk.injEq, Except.ok.injEq]
    rw [and_comm, and_assoc]

end Agreement

end IsisTestbed.Topology
