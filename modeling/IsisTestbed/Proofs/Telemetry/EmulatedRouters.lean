import IsisTestbed.Proofs.Config.Consistency
import IsisTestbed.Telemetry.Check

/-!
Which routers are checked, and how often. There is one entry for each emulated device that runs ISIS,
in the order of the devices. A router name that several of these devices share is listed as often, and
then the checks of sessions and LSPs can report the same thing twice. In a configuration without
violations names are not shared, so that every router is checked once.
-/

namespace IsisTestbed

/-- Whether a device is emulated and runs a router of a name. -/
def Device.Emulates (d : Device) (name : String) : Prop :=
  (∃ e ∈ d.ethernets, ∀ remote, e.connection ≠ some (.simulatedLink remote)) ∧
    ∃ r, d.isis = some r ∧ r.name = name

/-- The name of the router of a device, if the device is emulated. -/
def Device.emulatedRouter? (d : Device) : Option String :=
  if d.isEmulated then d.isis.map (·.name) else none

theorem Device.isEmulated_iff {d : Device} : d.isEmulated = true ↔
    ∃ e ∈ d.ethernets, ∀ remote, e.connection ≠ some (.simulatedLink remote) := by
  have outside (e : Ethernet) : (!e.isSimulated) = true ↔
      ∀ remote, e.connection ≠ some (.simulatedLink remote) := by
    rw [Bool.not_eq_true', Ethernet.isSimulated, Option.isSome_eq_false_iff,
      Option.isNone_iff_eq_none, Option.eq_none_iff_forall_ne_some]
    simp only [ne_eq, remote?_eq_some_iff]
  rw [isEmulated, List.any_eq_true]
  simp only [outside]

theorem Device.emulates_iff {d : Device} {name : String} :
    d.Emulates name ↔ d.emulatedRouter? = some name := by
  unfold Emulates emulatedRouter?
  rw [← isEmulated_iff]
  split
  · next emulated => simp [emulated]
  · next simulated => simp [simulated]

instance (d : Device) (name : String) : Decidable (d.Emulates name) :=
  decidable_of_iff _ Device.emulates_iff.symm

namespace Telemetry

variable {c : Config} {m : Metrics} {n : UInt64} {expected : List String} {x y name router : String}
  {finding : Finding}

/-! ### The list of routers -/

theorem emulatedRouters_eq_filterMap (c : Config) :
    emulatedRouters c = c.devices.filterMap Device.emulatedRouter? := by
  rw [emulatedRouters, List.filterMap_filter]
  rfl

theorem mem_emulatedRouters :
    name ∈ emulatedRouters c ↔ ∃ d ∈ c.devices, d.Emulates name := by
  rw [emulatedRouters_eq_filterMap, List.mem_filterMap]
  simp only [Device.emulates_iff]

/-- A router is listed once for each emulated device that runs one of its name. -/
theorem count_emulatedRouters (c : Config) (name : String) :
    (emulatedRouters c).count name = c.devices.countP fun d => decide (d.Emulates name) := by
  rw [emulatedRouters_eq_filterMap, List.count_filterMap]
  congr 1
  funext d
  rw [Bool.eq_iff_iff, beq_iff_eq, decide_eq_true_iff, Device.emulates_iff]

/-- What is listed of some entries comes in the order of the first entry that it is listed for. -/
theorem idxOf_filterMap_lt_iff {α : Type} {f : α → Option String} {l : List α}
    (hx : x ∈ l.filterMap f) (hy : y ∈ l.filterMap f) :
    (l.filterMap f).idxOf x < (l.filterMap f).idxOf y ↔
      l.findIdx (f · == some x) < l.findIdx (f · == some y) := by
  induction l with
  | nil => exact absurd hx List.not_mem_nil
  | cons a rest ih =>
    cases listed : f a with
    | none =>
      rw [List.filterMap_cons_none listed] at hx hy ⊢
      simp only [List.findIdx_cons, listed, Option.none_beq_some, cond_false,
        Nat.add_lt_add_iff_right]
      exact ih hx hy
    | some z =>
      rw [List.filterMap_cons_some listed] at hx hy ⊢
      simp only [List.idxOf_cons, List.findIdx_cons, listed, Option.some_beq_some]
      -- The first entry decides, unless it is listed as another one.
      cases atX : z == x with
      | true => cases z == y <;> simp
      | false =>
        cases atY : z == y with
        | true => simp
        | false =>
          have laterX := (List.mem_cons.mp hx).resolve_left (Ne.symm (beq_eq_false_iff_ne.mp atX))
          have laterY := (List.mem_cons.mp hy).resolve_left (Ne.symm (beq_eq_false_iff_ne.mp atY))
          simp only [cond_false, Nat.add_lt_add_iff_right]
          exact ih laterX laterY

/-- The routers come in the order of the first emulated device that runs each of them. -/
theorem idxOf_emulatedRouters_lt_iff (hx : x ∈ emulatedRouters c) (hy : y ∈ emulatedRouters c) :
    (emulatedRouters c).idxOf x < (emulatedRouters c).idxOf y ↔
      c.devices.findIdx (fun d => decide (d.Emulates x)) <
        c.devices.findIdx fun d => decide (d.Emulates y) := by
  have decided (name : String) : (fun d : Device => decide (d.Emulates name)) =
      fun d => d.emulatedRouter? == some name := by
    funext d
    rw [Bool.eq_iff_iff, beq_iff_eq, decide_eq_true_iff, Device.emulates_iff]
  rw [decided, decided, emulatedRouters_eq_filterMap]
  rw [emulatedRouters_eq_filterMap] at hx hy
  exact idxOf_filterMap_lt_iff hx hy

/-- Distinct names of all objects are distinct names of the routers that are listed. -/
theorem nodup_emulatedRouters (distinct : c.objectNames.Nodup) : (emulatedRouters c).Nodup := by
  have routers : (c.routers.map (·.name)).Nodup := by
    simp only [Config.objectNames, List.nodup_append] at distinct
    tauto
  have listed : c.routers.map (·.name) = c.devices.filterMap fun d => d.isis.map (·.name) := by
    rw [Config.routers, List.map_filterMap]
  rw [listed] at routers
  exact routers.sublist (List.filter_sublist.filterMap _)

/-! ### The findings about a router -/

/-- The flow or router that a finding is about. -/
def Finding.subject : Finding → String
  | .excessiveLoss flow _ _ => flow
  | .unexpectedDelivery flow _ _ => flow
  | .missingFlowMetric flow => flow
  | .missingIsisMetric router => router
  | .sessionsDown router _ _ _ => router
  | .missingLspState router => router
  | .missingLsp router _ => router

theorem subject_of_mem_sessionFindings (h : finding ∈ sessionFindings m n router) :
    finding.subject = router := by
  unfold sessionFindings at h
  split at h
  · rw [List.mem_singleton.mp h]
    rfl
  · obtain ⟨⟨level, up⟩, _, failed⟩ := List.mem_filterMap.mp h
    obtain ⟨_, same⟩ := Option.ite_none_left_eq_some.mp failed
    cases same
    rfl

theorem subject_of_mem_lspFindings (h : finding ∈ lspFindings m expected router) :
    finding.subject = router := by
  unfold lspFindings at h
  split at h
  · rw [List.mem_singleton.mp h]
    rfl
  · obtain ⟨lsp, _, rfl⟩ := List.mem_map.mp h
    rfl

theorem nodup_sessionFindings (m : Metrics) (n : UInt64) (router : String) :
    (sessionFindings m n router).Nodup := by
  unfold sessionFindings
  split
  · exact List.nodup_singleton _
  · next metric _ =>
    refine List.Nodup.filterMap ?_ (?_ : [(1, metric.l1Up), (2, metric.l2Up)].Nodup)
    · intro (level, up) (level', up') finding failed failed'
      obtain ⟨_, same⟩ := Option.ite_none_left_eq_some.mp failed
      obtain ⟨_, same'⟩ := Option.ite_none_left_eq_some.mp failed'
      cases same
      cases same'
      rfl
    · simp

theorem nodup_lspFindings (m : Metrics) (router : String) (distinct : expected.Nodup) :
    (lspFindings m expected router).Nodup := by
  unfold lspFindings
  split
  · exact List.nodup_singleton _
  · refine List.Nodup.map ?_ (distinct.filter _)
    intro lsp lsp' same
    exact (Finding.missingLsp.inj same).2

/-- Findings about distinct routers are distinct if those about each router are. -/
theorem nodup_flatMap_findings {f : String → List Finding} {routers : List String}
    (distinct : routers.Nodup) (each : ∀ router, (f router).Nodup)
    (subject : ∀ router, ∀ finding ∈ f router, finding.subject = router) :
    (routers.flatMap f).Nodup := by
  refine List.nodup_flatMap.mpr ⟨fun router _ => each router, distinct.imp ?_⟩
  intro router other different finding about about'
  exact different ((subject router finding about).symm.trans (subject other finding about'))

/-! ### How often each router is checked -/

/-- Without reports, every entry of the list is a finding. -/
theorem checkSessions_empty (c : Config) (n : UInt64) :
    checkSessions c {} n = (emulatedRouters c).map .missingIsisMetric := by
  rw [List.map_eq_flatMap]
  rfl

theorem checkLsps_empty (c : Config) (expected : List String) :
    checkLsps c {} expected = (emulatedRouters c).map .missingLspState := by
  rw [List.map_eq_flatMap]
  rfl

theorem nodup_checkSessions_iff (c : Config) :
    (∀ m n, (checkSessions c m n).Nodup) ↔ (emulatedRouters c).Nodup := by
  constructor
  · intro all
    have unreported := all {} 0
    rw [checkSessions_empty] at unreported
    exact unreported.of_map _
  · intro distinct m n
    exact nodup_flatMap_findings distinct (nodup_sessionFindings m n)
      fun router finding => subject_of_mem_sessionFindings

theorem nodup_checkLsps_iff (c : Config) :
    (∀ m expected, expected.Nodup → (checkLsps c m expected).Nodup) ↔
      (emulatedRouters c).Nodup := by
  constructor
  · intro all
    have unreported := all {} [] List.nodup_nil
    rw [checkLsps_empty] at unreported
    exact unreported.of_map _
  · intro distinct m expected once
    exact nodup_flatMap_findings distinct (fun router => nodup_lspFindings m router once)
      fun router finding => subject_of_mem_lspFindings

/-- The routers that are listed are those of emulated devices, as often as such devices run them and
in the order of the first of these. No check repeats a finding, whatever is reported and expected,
exactly if no two emulated devices share the name of their router, as in every configuration without
violations. -/
theorem emulatedRouters_listing (c : Config) :
    (∀ name, name ∈ emulatedRouters c ↔ ∃ d ∈ c.devices, d.Emulates name) ∧
    (∀ name, (emulatedRouters c).count name =
      c.devices.countP fun d => decide (d.Emulates name)) ∧
    (∀ x ∈ emulatedRouters c, ∀ y ∈ emulatedRouters c,
      ((emulatedRouters c).idxOf x < (emulatedRouters c).idxOf y ↔
        c.devices.findIdx (fun d => decide (d.Emulates x)) <
          c.devices.findIdx fun d => decide (d.Emulates y))) ∧
    ((emulatedRouters c).Nodup ↔
      ∀ name, (c.devices.countP fun d => decide (d.Emulates name)) ≤ 1) ∧
    ((∀ m n, (checkSessions c m n).Nodup) ↔ (emulatedRouters c).Nodup) ∧
    ((∀ m expected, expected.Nodup → (checkLsps c m expected).Nodup) ↔ (emulatedRouters c).Nodup) ∧
    (c.violations = [] → (emulatedRouters c).Nodup) := by
  refine ⟨fun name => mem_emulatedRouters, count_emulatedRouters c, ?_, ?_,
    nodup_checkSessions_iff c, nodup_checkLsps_iff c, ?_⟩
  · intro x hx y hy
    exact idxOf_emulatedRouters_lt_iff hx hy
  · rw [List.nodup_iff_count_le_one]
    simp only [count_emulatedRouters]
  · intro valid
    exact nodup_emulatedRouters ((Config.violations_eq_nil_iff c).mp valid).names

/-- Three testers, two of which run routers of the same name. -/
def sharedRouterConfig : Config where
  devices :=
    [{ name := "left"
       ethernets := [{ name := "left.1", mac := "00:00:00:00:00:01" }]
       isis := some { name := "core", systemId := "000000000001" } },
     { name := "middle"
       ethernets := [{ name := "middle.1", mac := "00:00:00:00:00:02" }]
       isis := some { name := "edge", systemId := "000000000002" } },
     { name := "right"
       ethernets := [{ name := "right.1", mac := "00:00:00:00:00:03" }]
       isis := some { name := "core", systemId := "000000000003" } }]

/-- The shared name is listed twice. Without the last tester there are no violations, each router is
listed once, and no LSP is reported missing twice. -/
theorem emulatedRouters_listing_of_sharedRouterConfig :
    (emulatedRouters sharedRouterConfig).count "core" = 2 ∧
      sharedRouterConfig.devices.findIdx (fun d => decide (d.Emulates "core")) <
        sharedRouterConfig.devices.findIdx (fun d => decide (d.Emulates "edge")) ∧
      { sharedRouterConfig with devices := sharedRouterConfig.devices.take 2 }.violations = [] ∧
      (checkLsps { sharedRouterConfig with devices := sharedRouterConfig.devices.take 2 } {}
        ["000000000009-0-0"]).Nodup := by
  obtain ⟨_, count, order, _⟩ := emulatedRouters_listing sharedRouterConfig
  obtain ⟨_, _, _, _, _, lsps, valid⟩ := emulatedRouters_listing
    { sharedRouterConfig with devices := sharedRouterConfig.devices.take 2 }
  have consistent :
      { sharedRouterConfig with devices := sharedRouterConfig.devices.take 2 }.violations = [] := by
    decide
  refine ⟨(count "core").trans (by decide), ?_, consistent, ?_⟩
  · exact (order "core" (by decide) "edge" (by decide)).mp (by decide)
  · exact lsps.mpr (valid consistent) {} ["000000000009-0-0"] (List.nodup_singleton _)

/-- That every emulated router is listed once, and checked once, is not so: nothing keeps a name from
being listed again. -/
theorem not_nodup_emulatedRouters :
    ¬ (∀ c : Config, (emulatedRouters c).Nodup) ∧
      ¬ (∀ (c : Config) (m : Metrics) (n : UInt64), (checkSessions c m n).Nodup) ∧
      ¬ ∀ (c : Config) (m : Metrics) (expected : List String), expected.Nodup →
        (checkLsps c m expected).Nodup := by
  have repeated : ¬ (emulatedRouters sharedRouterConfig).Nodup := by decide
  refine ⟨fun all => repeated (all _), fun all => repeated ?_, fun all => repeated ?_⟩
  · exact (nodup_checkSessions_iff _).mp (all sharedRouterConfig)
  · exact (nodup_checkLsps_iff _).mp (all sharedRouterConfig)

end Telemetry

end IsisTestbed
