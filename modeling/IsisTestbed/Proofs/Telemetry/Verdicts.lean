import IsisTestbed.Proofs.Telemetry.EmulatedRouters
import Mathlib.Data.List.Flatten
import Mathlib.Data.List.Forall2

/-!
When the checks of a report find nothing, and what the findings depend on. Each check asks for the
first entry of a name. If the names of a report are distinct, neither the order of its entries nor
entries of other names matter, and of learned LSPs only matters which ones there are; further ones
only ever take findings away.
-/

namespace IsisTestbed.Telemetry

/-! ### First entries -/

/-- Whether an entry is the first one of a name. -/
def IsFirst {α : Type} (name : α → String) (entries : List α) (key : String) (x : α) : Prop :=
  ∃ before after, entries = before ++ x :: after ∧ name x = key ∧ ∀ y ∈ before, name y ≠ key

/-- Whether a list holds the entries of another one, in any order, and among them further ones, but
none of the names that are looked for. -/
def Rearranges {α : Type} (name : α → String) (sought : List String) (entries entries' : List α) :
    Prop :=
  ∃ others, (∀ x ∈ others, name x ∉ sought) ∧ entries'.Perm (entries ++ others)

section Entries

variable {α : Type} {name : α → String} {sought : List String} {entries entries' : List α}
  {key : String} {x : α}

theorem find?_eq_some_iff_isFirst :
    entries.find? (name · == key) = some x ↔ IsFirst name entries key x := by
  rw [List.find?_eq_some_iff_append]
  simp only [beq_iff_eq, Bool.not_eq_true', beq_eq_false_iff_ne, IsFirst]
  constructor
  · rintro ⟨named, before, after, split, earlier⟩
    exact ⟨before, after, split, named, earlier⟩
  · rintro ⟨before, after, split, named, earlier⟩
    exact ⟨named, before, after, split, earlier⟩

theorem name_of_find? (found : entries.find? (name · == key) = some x) : name x = key := by
  have named := List.find?_some found
  exact beq_iff_eq.mp named

/-- Among distinct names, the entry of a name is found in any order and among any others. -/
theorem find?_eq_of_rearranges (distinct : (entries.map name).Nodup)
    (rearranged : Rearranges name sought entries entries') (hkey : key ∈ sought) :
    entries'.find? (name · == key) = entries.find? (name · == key) := by
  obtain ⟨others, foreign, perm⟩ := rearranged
  have among (y : α) (named : name y = key) : y ∈ entries' ↔ y ∈ entries := by
    rw [perm.mem_iff, List.mem_append, or_iff_left_iff_imp]
    intro other
    exact absurd (named ▸ hkey) (foreign y other)
  cases found : entries.find? (name · == key) with
  | none =>
    rw [List.find?_eq_none] at found ⊢
    intro y member named
    exact found y ((among y (beq_iff_eq.mp named)).mp member) named
  | some x =>
    have named := name_of_find? found
    have member : x ∈ entries' := (among x named).mpr (List.mem_of_find?_eq_some found)
    have isSome : (entries'.find? (name · == key)).isSome :=
      List.find?_isSome.mpr ⟨x, member, beq_iff_eq.mpr named⟩
    obtain ⟨y, found'⟩ := Option.isSome_iff_exists.mp isSome
    have named' := name_of_find? found'
    have member' : y ∈ entries := (among y named').mp (List.mem_of_find?_eq_some found')
    rw [found', List.inj_on_of_nodup_map distinct member' (List.mem_of_find?_eq_some found)
      (named'.trans named.symm)]

/-- Entries that are related one by one, and have the same names, are found together. -/
theorem find?_rel {R : α → α → Prop} (related : List.Forall₂ R entries entries')
    (named : ∀ x y, R x y → name x = name y) (key : String) :
    Option.Rel R (entries.find? (name · == key)) (entries'.find? (name · == key)) := by
  induction related with
  | nil => exact .none
  | @cons x y _ _ first _ ih =>
    rw [List.find?_cons, List.find?_cons, named x y first]
    cases name y == key with
    | true => exact .some first
    | false => exact ih

theorem names_eq_of_forall₂ {R : α → α → Prop} (related : List.Forall₂ R entries entries')
    (named : ∀ x y, R x y → name x = name y) : entries'.map name = entries.map name := by
  induction related with
  | nil => rfl
  | @cons x y _ _ first _ ih => rw [List.map_cons, List.map_cons, named x y first, ih]

end Entries

/-! ### Empty verdicts -/

section Verdicts

variable {c : Config} {m m' : Metrics} {n : UInt64} {expected : List String} {router : String}
  {loss : LossExpectation} {tolerance : Tolerance}

theorem sessionFindings_eq_nil_iff : sessionFindings m n router = [] ↔
    ∃ metric, m.isis? router = some metric ∧ metric.l1Up = n ∧ metric.l2Up = n := by
  unfold sessionFindings
  split
  · next missing => simp [missing]
  · next metric found => simp [found, List.filterMap_eq_nil_iff]

theorem checkLspIds_eq_nil_iff {learned : List String} :
    checkLspIds router expected learned = [] ↔ ∀ lsp ∈ expected, lsp ∈ learned := by
  simp [checkLspIds]

theorem lspFindings_eq_nil_iff : lspFindings m expected router = [] ↔
    ∃ state, m.lsps? router = some state ∧ ∀ lsp ∈ expected, lsp ∈ state.lspIds := by
  unfold lspFindings
  split
  · next missing => simp [missing]
  · next state found => simp [found, checkLspIds_eq_nil_iff]

/-- The finding about a flow, if there is one. -/
def flowFinding? (m : Metrics) (loss : LossExpectation) (tolerance : Tolerance) (flow : String) :
    Option Finding :=
  match m.flow? flow with
  | none => some (.missingFlowMetric flow)
  | some metric =>
    match checkFlow metric loss tolerance with
    | .ok _ => none
    | .error finding => some finding

theorem checkFlows_eq (c : Config) (m : Metrics) (loss : LossExpectation) (tolerance : Tolerance) :
    checkFlows c m loss tolerance =
      c.flows.filterMap fun f => flowFinding? m loss tolerance f.name :=
  rfl

theorem flowFinding?_eq_none_iff {flow : String} : flowFinding? m loss tolerance flow = none ↔
    ∃ metric, m.flow? flow = some metric ∧
      ∃ percent, checkFlow metric loss tolerance = .ok percent := by
  unfold flowFinding?
  split
  · next missing => simp [missing]
  · next metric found =>
    cases checked : checkFlow metric loss tolerance <;> simp [found, checked]

/-- What is found about each router of a list depends only on the routers that are listed. -/
theorem flatMap_emulatedRouters_eq_nil_iff {f : String → List Finding} :
    (emulatedRouters c).flatMap f = [] ↔
      ∀ d ∈ c.devices, ∀ router, d.Emulates router → f router = [] := by
  rw [List.flatMap_eq_nil_iff]
  constructor
  · intro all d member router emulates
    exact all router (mem_emulatedRouters.mpr ⟨d, member, emulates⟩)
  · intro all router listed
    obtain ⟨d, member, emulates⟩ := mem_emulatedRouters.mp listed
    exact all d member router emulates

theorem checkSessions_eq_nil_iff : checkSessions c m n = [] ↔
    ∀ d ∈ c.devices, ∀ router, d.Emulates router →
      ∃ metric, IsFirst IsisMetric.name m.isis router metric ∧ metric.l1Up = n ∧
        metric.l2Up = n := by
  rw [checkSessions, flatMap_emulatedRouters_eq_nil_iff]
  simp only [sessionFindings_eq_nil_iff, Metrics.isis?, find?_eq_some_iff_isFirst]

theorem checkLsps_eq_nil_iff : checkLsps c m expected = [] ↔
    ∀ d ∈ c.devices, ∀ router, d.Emulates router →
      ∃ state, IsFirst LspState.name m.lsps router state ∧
        ∀ lsp ∈ expected, lsp ∈ state.lspIds := by
  rw [checkLsps, flatMap_emulatedRouters_eq_nil_iff]
  simp only [lspFindings_eq_nil_iff, Metrics.lsps?, find?_eq_some_iff_isFirst]

theorem checkFlows_eq_nil_iff : checkFlows c m loss tolerance = [] ↔
    ∀ f ∈ c.flows, ∃ metric, IsFirst FlowMetric.name m.flows f.name metric ∧
      ∃ percent, checkFlow metric loss tolerance = .ok percent := by
  rw [checkFlows_eq, List.filterMap_eq_nil_iff]
  simp only [flowFinding?_eq_none_iff, Metrics.flow?, find?_eq_some_iff_isFirst]

/-! ### Reports that say the same -/

/-- Whether every name of a report has one entry of each kind. -/
structure HasDistinctNames (m : Metrics) : Prop where
  flows : (m.flows.map (·.name)).Nodup
  isis : (m.isis.map (·.name)).Nodup
  lsps : (m.lsps.map (·.name)).Nodup

/-- Whether the same LSPs have been learned, in any order and any number of times. -/
def LearnedSame (s s' : LspState) : Prop :=
  s.name = s'.name ∧ ∀ lsp, lsp ∈ s.lspIds ↔ lsp ∈ s'.lspIds

/-- Whether the same LSPs have been learned, and maybe others. -/
def LearnedMore (s s' : LspState) : Prop :=
  s.name = s'.name ∧ s.lspIds ⊆ s'.lspIds

/-- Whether a report says the same as another one about the flows and the emulated routers of a
configuration. The entries may be in another order, those of other names are arbitrary, and the ids of
learned LSPs may be in another order and repeated. -/
structure Restates (c : Config) (m m' : Metrics) : Prop where
  flows : Rearranges FlowMetric.name (c.flows.map (·.name)) m.flows m'.flows
  isis : Rearranges IsisMetric.name (emulatedRouters c) m.isis m'.isis
  lsps : ∃ states, List.Forall₂ LearnedSame m.lsps states ∧
    Rearranges LspState.name (emulatedRouters c) states m'.lsps

/-- Which LSPs are missing depends on those that were learned only through membership. -/
theorem lspFindings_eq_of_rel (h : Option.Rel LearnedSame (m.lsps? router) (m'.lsps? router)) :
    lspFindings m' expected router = lspFindings m expected router := by
  unfold lspFindings
  generalize m.lsps? router = found at h ⊢
  generalize m'.lsps? router = found' at h ⊢
  cases h with
  | none => rfl
  | @some s s' same =>
    obtain ⟨_, learned⟩ := same
    simp only [checkLspIds]
    congr 1
    apply List.filter_congr
    intro lsp _
    rw [Bool.not_inj_iff, Bool.eq_iff_iff, List.contains_iff_mem, List.contains_iff_mem]
    exact (learned lsp).symm

theorem lspFindings_sublist_of_rel
    (h : Option.Rel LearnedMore (m.lsps? router) (m'.lsps? router)) :
    (lspFindings m' expected router).Sublist (lspFindings m expected router) := by
  unfold lspFindings
  generalize m.lsps? router = found at h ⊢
  generalize m'.lsps? router = found' at h ⊢
  cases h with
  | none => exact List.Sublist.refl _
  | @some s s' more =>
    obtain ⟨_, learned⟩ := more
    apply List.Sublist.map
    apply List.monotone_filter_right
    intro lsp missing
    rw [Bool.not_eq_true', List.contains_eq_mem, decide_eq_false_iff_not] at missing ⊢
    exact fun member => missing (learned member)

theorem checkFlows_eq_of_restates (distinct : HasDistinctNames m) (same : Restates c m m') :
    checkFlows c m' loss tolerance = checkFlows c m loss tolerance := by
  rw [checkFlows_eq, checkFlows_eq]
  apply List.filterMap_congr
  intro f member
  have found : m'.flow? f.name = m.flow? f.name :=
    find?_eq_of_rearranges distinct.flows same.flows (List.mem_map_of_mem member)
  rw [flowFinding?, flowFinding?, found]

theorem checkSessions_eq_of_restates (distinct : HasDistinctNames m) (same : Restates c m m') :
    checkSessions c m' n = checkSessions c m n := by
  apply List.flatMap_congr
  intro router listed
  have found : m'.isis? router = m.isis? router :=
    find?_eq_of_rearranges distinct.isis same.isis listed
  rw [sessionFindings, sessionFindings, found]

theorem checkLsps_eq_of_restates (distinct : HasDistinctNames m) (same : Restates c m m') :
    checkLsps c m' expected = checkLsps c m expected := by
  obtain ⟨states, learned, rearranged⟩ := same.lsps
  have names : states.map (·.name) = m.lsps.map (·.name) :=
    names_eq_of_forall₂ learned fun _ _ same => same.1
  apply List.flatMap_congr
  intro router listed
  apply lspFindings_eq_of_rel
  have found : m'.lsps? router = states.find? (·.name == router) :=
    find?_eq_of_rearranges (names ▸ distinct.lsps) rearranged listed
  rw [found]
  exact find?_rel learned (fun _ _ same => same.1) router

theorem checkLsps_sublist (more : List.Forall₂ LearnedMore m.lsps m'.lsps) :
    (checkLsps c m' expected).Sublist (checkLsps c m expected) := by
  apply List.Sublist.flatMap_right
  intro router _
  exact lspFindings_sublist_of_rel (find?_rel more (fun _ _ same => same.1) router)

/-- A check finds nothing exactly if the first entry of each emulated router, or of each flow, is as
expected. If the names of a report are distinct, every report that restates it leads to the same
findings in the same order; and when more LSPs are learned no finding is added. -/
theorem verdicts_of_report (c : Config) (m : Metrics) (n : UInt64) (expected : List String)
    (loss : LossExpectation) (tolerance : Tolerance) :
    (checkSessions c m n = [] ↔ ∀ d ∈ c.devices, ∀ router, d.Emulates router →
      ∃ metric, IsFirst IsisMetric.name m.isis router metric ∧ metric.l1Up = n ∧
        metric.l2Up = n) ∧
    (checkLsps c m expected = [] ↔ ∀ d ∈ c.devices, ∀ router, d.Emulates router →
      ∃ state, IsFirst LspState.name m.lsps router state ∧
        ∀ lsp ∈ expected, lsp ∈ state.lspIds) ∧
    (checkFlows c m loss tolerance = [] ↔ ∀ f ∈ c.flows,
      ∃ metric, IsFirst FlowMetric.name m.flows f.name metric ∧
        ∃ percent, checkFlow metric loss tolerance = .ok percent) ∧
    (HasDistinctNames m → ∀ m', Restates c m m' →
      checkSessions c m' n = checkSessions c m n ∧
        checkLsps c m' expected = checkLsps c m expected ∧
        checkFlows c m' loss tolerance = checkFlows c m loss tolerance) ∧
    ∀ m', List.Forall₂ LearnedMore m.lsps m'.lsps →
      (checkLsps c m' expected).Sublist (checkLsps c m expected) := by
  refine ⟨checkSessions_eq_nil_iff, checkLsps_eq_nil_iff, checkFlows_eq_nil_iff, ?_, ?_⟩
  · intro distinct m' same
    exact ⟨checkSessions_eq_of_restates distinct same, checkLsps_eq_of_restates distinct same,
      checkFlows_eq_of_restates distinct same⟩
  · intro m' more
    exact checkLsps_sublist more

end Verdicts

/-- Two testers and a flow between them. -/
def twoTesters : Config where
  devices := sharedRouterConfig.devices.take 2
  flows := [{ name := "traffic", endpoints := .devices ["left"] ["middle"] }]

/-- A report in which one LSP of the second tester is missing. -/
def orderlyReport : Metrics where
  flows := [⟨"traffic", 100, 100⟩]
  isis := [⟨"core", 1, 1, 0, 0⟩, ⟨"edge", 1, 1, 0, 2⟩]
  lsps := [⟨"core", ["01-0-0", "02-0-0"]⟩, ⟨"edge", ["01-0-0"]⟩]

/-- The same in another order, with a repeated LSP and with a router and a flow of other names. -/
def rearrangedReport : Metrics where
  flows := [⟨"background", 7, 0⟩, ⟨"traffic", 100, 100⟩, ⟨"background", 9, 0⟩]
  isis := [⟨"edge", 1, 1, 0, 2⟩, ⟨"stranger", 0, 0, 0, 0⟩, ⟨"core", 1, 1, 0, 0⟩]
  lsps := [⟨"edge", ["01-0-0", "01-0-0"]⟩, ⟨"core", ["02-0-0", "01-0-0", "02-0-0"]⟩]

theorem verdicts_of_report_of_rearrangedReport :
    HasDistinctNames orderlyReport ∧ Restates twoTesters orderlyReport rearrangedReport ∧
      checkSessions twoTesters rearrangedReport 1 = [] ∧
      checkLsps twoTesters rearrangedReport ["01-0-0", "02-0-0"] = [.missingLsp "edge" "02-0-0"] ∧
      checkFlows twoTesters rearrangedReport .noLoss {} =
        checkFlows twoTesters orderlyReport .noLoss {} ∧
      (checkLsps twoTesters orderlyReport ["01-0-0", "02-0-0"]).Sublist
        (checkLsps twoTesters { orderlyReport with lsps := [⟨"core", ["02-0-0"]⟩, ⟨"edge", []⟩] }
          ["01-0-0", "02-0-0"]) := by
  have distinct : HasDistinctNames orderlyReport := ⟨by decide, by decide, by decide⟩
  have same : Restates twoTesters orderlyReport rearrangedReport := by
    refine ⟨⟨[⟨"background", 7, 0⟩, ⟨"background", 9, 0⟩], by decide, by decide⟩,
      ⟨[⟨"stranger", 0, 0, 0, 0⟩], by decide, by decide⟩,
      [⟨"core", ["02-0-0", "01-0-0", "02-0-0"]⟩, ⟨"edge", ["01-0-0", "01-0-0"]⟩], ?_,
      [], by decide, by decide⟩
    refine .cons ⟨rfl, ?_⟩ (.cons ⟨rfl, ?_⟩ .nil)
    · intro lsp
      simp only [List.mem_cons, List.not_mem_nil, or_false]
      tauto
    · intro lsp
      simp only [List.mem_cons, List.not_mem_nil, or_false, or_self]
  obtain ⟨_, _, _, unchanged, _⟩ := verdicts_of_report twoTesters orderlyReport 1
    ["01-0-0", "02-0-0"] .noLoss {}
  obtain ⟨sessions, lsps, flows⟩ := unchanged distinct rearrangedReport same
  obtain ⟨_, _, _, _, fewer⟩ := verdicts_of_report twoTesters
    { orderlyReport with lsps := [⟨"core", ["02-0-0"]⟩, ⟨"edge", []⟩] } 1 ["01-0-0", "02-0-0"]
    .noLoss {}
  refine ⟨distinct, same, sessions.trans rfl, lsps.trans rfl, flows, fewer orderlyReport ?_⟩
  exact .cons ⟨rfl, by decide⟩ (.cons ⟨rfl, by decide⟩ .nil)

end IsisTestbed.Telemetry
