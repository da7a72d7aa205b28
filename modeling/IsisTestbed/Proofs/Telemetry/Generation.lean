import IsisTestbed.Proofs.Telemetry.Emulation
import IsisTestbed.Proofs.Topology.InPlace
import IsisTestbed.Proofs.Topology.Session

/-!
What is checked while topologies are generated. Whatever a call of a session does, it adds simulated
devices or none, and leaves the flows and the kinds of all other devices as they are; names do not
matter here, so devices may share them. Hence the checks of reported metrics have the same outcome
before and after any number of calls. This holds for attachments that are made part by part as well,
where a failure could leave something behind.
-/

namespace IsisTestbed

open IsisTestbed.Telemetry IsisTestbed.Topology

/-! ### Simulated devices -/

/-- Whether a configuration has the flows of another one, and devices of the same kinds with
simulated ones behind them. -/
structure Config.AddsSimulated (c c' : Config) : Prop where
  flows : c'.flows = c.flows
  kinds : ∃ routers : List (Option String), c'.kinds = c.kinds ++ routers.map fun r => (false, r)

namespace Config.AddsSimulated

variable {c c' c'' : Config}

theorem of_kinds (flows : c'.flows = c.flows) (kinds : c'.kinds = c.kinds) : c.AddsSimulated c' :=
  ⟨flows, [], by simp [kinds]⟩

theorem refl (c : Config) : c.AddsSimulated c :=
  of_kinds rfl rfl

theorem trans (h : c.AddsSimulated c') (h' : c'.AddsSimulated c'') : c.AddsSimulated c'' := by
  obtain ⟨first, hfirst⟩ := h.kinds
  obtain ⟨second, hsecond⟩ := h'.kinds
  refine ⟨h'.flows.trans h.flows, first ++ second, ?_⟩
  rw [hsecond, hfirst, List.append_assoc, List.map_append]

theorem emulatedRouters_eq (h : c.AddsSimulated c') : emulatedRouters c' = emulatedRouters c := by
  obtain ⟨routers, kinds⟩ := h.kinds
  rw [Telemetry.emulatedRouters_eq, Telemetry.emulatedRouters_eq, kinds, List.filter_append,
    filter_simulated, List.append_nil]

theorem checkSessions_eq (h : c.AddsSimulated c') (m : Metrics) (expected : UInt64) :
    checkSessions c' m expected = checkSessions c m expected := by
  rw [checkSessions, h.emulatedRouters_eq, checkSessions]

theorem checkLsps_eq (h : c.AddsSimulated c') (m : Metrics) (expected : List String) :
    checkLsps c' m expected = checkLsps c m expected := by
  rw [checkLsps, h.emulatedRouters_eq, checkLsps]

theorem checkFlows_eq (h : c.AddsSimulated c') (m : Metrics) (expected : LossExpectation)
    (tolerance : Tolerance) :
    checkFlows c' m expected tolerance = checkFlows c m expected tolerance := by
  rw [checkFlows, h.flows, checkFlows]

theorem flowsWarnings_eq (h : c.AddsSimulated c') (m : Metrics) (expected : LossExpectation)
    (tolerance : Tolerance) :
    flowsWarnings c' m expected tolerance = flowsWarnings c m expected tolerance := by
  rw [flowsWarnings, h.flows, flowsWarnings]

end Config.AddsSimulated

/-! ### Builds and connects -/

section Actions

variable {c c' : Config} {i j a b : Nat} {addressing : LinkAddressing} {link : Link}

theorem Topology.addsSimulated_of_connectDevices
    (h : connectDevices c i j a b addressing = .ok (c', link)) : c.AddsSimulated c' := by
  refine .of_kinds ?_ (kinds_of_connectDevices h)
  obtain ⟨_, _, _, rfl, _⟩ := eq_of_connectDevices h
  rfl

theorem Topology.addsSimulated_withNodes (plan : RouterPlan) (c : Config)
    (sites : List (Nat × Position)) : c.AddsSimulated (withNodes plan c sites) :=
  ⟨rfl, _, kinds_withNodes plan c sites⟩

/-- The device that is attached may be emulated or simulated, and even a node of the same topology.
-/
theorem Topology.addsSimulated_of_connect {t t' : Topology} {device : String} {p : Position}
    {x : Attachment} (h : t.connect c device p = .ok (c', t', x)) : c.AddsSimulated c' := by
  obtain ⟨_, _, attached⟩ := connect_eq_ok_iff.mp h
  obtain ⟨_, _, _, _, _, _, _, linked, _⟩ := attach_eq_ok_iff.mp attached
  exact addsSimulated_of_connectDevices linked

theorem Builder.addsSimulated_of_build {b : Builder} {t : Topology} (h : b.build c = .ok (c', t)) :
    c.AddsSimulated c' := by
  refine keeps_of_build (P := c.AddsSimulated) h ?_ ?_
  · intro octet _ _
    exact addsSimulated_withNodes (b.plan octet) c b.sites
  · intro _ _ _ _ _ _ _ _ _ _ before _ _ linked
    exact before.trans (addsSimulated_of_connectDevices linked)

end Actions

/-! ### Runs -/

namespace Session

/-- The session after a device was asked to be attached in place. What an attempt that fails has
changed until then stays changed. -/
def connectInPlace (s : Session) (k : Nat) (device : String) (p : Position) : Session :=
  match s.topologies[k]? with
  | none => s
  | some t =>
    let (_, c, t) := (Topology.connectInPlace device p).runOn (s.config, t)
    ⟨c, s.topologies.set k t⟩

/-- The session after a call that is done in place. -/
def stepInPlace (s : Session) : Call → Session
  | .build b => s.build b
  | .connect k device p => s.connectInPlace k device p

/-- The session after a sequence of calls that are done in place. -/
def runInPlace (s : Session) (calls : List Call) : Session :=
  calls.foldl stepInPlace s

/-- A failure leaves nothing behind, so it does not matter how devices are attached. -/
theorem stepInPlace_eq (s : Session) (call : Call) : s.stepInPlace call = s.step call := by
  cases call with
  | build b => rfl
  | connect k device p =>
    simp only [stepInPlace, connectInPlace, step, connect]
    cases atK : s.topologies[k]? with
    | none => rfl
    | some t =>
      have unchanged : s.topologies.set k t = s.topologies := by
        obtain ⟨bound, rfl⟩ := List.getElem?_eq_some_iff.mp atK
        exact List.set_getElem_self bound
      simp only [runOn_connectInPlace]
      cases t.connect s.config device p with
      | ok result => rfl
      | error e => simp only [Except.map, InPlace.settled, unchanged]

theorem runInPlace_eq (s : Session) (calls : List Call) : s.runInPlace calls = s.run calls := by
  have steps : stepInPlace = step := funext fun s => funext s.stepInPlace_eq
  rw [runInPlace, steps, run]

theorem addsSimulated_step (s : Session) (call : Call) :
    s.config.AddsSimulated (s.step call).config := by
  have becomes := s.becomes_step call
  generalize s.step call = after at becomes ⊢
  cases becomes with
  | same => exact .refl s.config
  | built _ built => exact Builder.addsSimulated_of_build (Builder.build_eq_ok_iff.mpr built)
  | connected _ _ connected => exact addsSimulated_of_connect connected

/-- The induction is on the calls; each starts from whatever the ones before have made. -/
theorem addsSimulated_run (s : Session) (calls : List Call) :
    s.config.AddsSimulated (s.run calls).config := by
  induction calls generalizing s with
  | nil => exact .refl s.config
  | cons call rest ih => exact (s.addsSimulated_step call).trans (ih (s.step call))

/-- Builds and connects, whether they succeed or fail, leave the emulated routers as they are, and
with them the outcome of every check. This needs nothing of the configuration or of the topologies
that are there at the beginning. -/
theorem run_keeps_findings (s : Session) (calls : List Call) :
    emulatedRouters (s.runInPlace calls).config = emulatedRouters s.config ∧
      (∀ m expected, checkSessions (s.runInPlace calls).config m expected =
        checkSessions s.config m expected) ∧
      (∀ m expected, checkLsps (s.runInPlace calls).config m expected =
        checkLsps s.config m expected) ∧
      ∀ m expected tolerance,
        checkFlows (s.runInPlace calls).config m expected tolerance =
          checkFlows s.config m expected tolerance ∧
        flowsWarnings (s.runInPlace calls).config m expected tolerance =
          flowsWarnings s.config m expected tolerance := by
  rw [runInPlace_eq]
  have adds := s.addsSimulated_run calls
  exact ⟨adds.emulatedRouters_eq, adds.checkSessions_eq, adds.checkLsps_eq,
    fun m expected tolerance =>
      ⟨adds.checkFlows_eq m expected tolerance, adds.flowsWarnings_eq m expected tolerance⟩⟩

end Session

end IsisTestbed
