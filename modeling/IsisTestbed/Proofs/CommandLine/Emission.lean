import IsisTestbed.CommandLine.Run
import IsisTestbed.Proofs.Scenario.Faults
import IsisTestbed.Proofs.Store.FreshPaths
import IsisTestbed.Proofs.Store.Writing
import IsisTestbed.Proofs.Topology.Admission

/-!
What the commands that generate configurations leave behind. A configuration is generated, checked
and then printed or written, in this order; whichever of these steps fails, there is no output and
no file has changed. What is printed or written is consistent, and it is read back as it was
generated, so the check of it finds nothing.
-/

namespace IsisTestbed.CommandLine

open IsisTestbed.Topology

/-! ### Generating -/

/-- The configurations that a command generates, from what the store holds. -/
inductive Command.Generates (s : FileStore) : Command → Config → Prop where
  | topology {shape : Shape} {arguments : TopologyArguments} {c : Config} {t : Topology}
      (built : (arguments.builder shape).build {} = .ok (c, t)) :
      Generates s (.topology shape arguments) c
  | defaultScenario {output outputPrefix : Option String} {result : Scenario.Result}
      (built : ({} : Scenario.Parameters).build = .ok result) :
      Generates s (.scenario none output outputPrefix) result.config
  | scenario {path : String} {output outputPrefix : Option String} {p : Scenario.Parameters}
      {result : Scenario.Result} (read : s.readScenario path = .ok p)
      (built : p.build = .ok result) :
      Generates s (.scenario (some path) output outputPrefix) result.config

/-- A command generates at most one configuration. -/
theorem Command.Generates.unique {s : FileStore} {command : Command} {c c' : Config}
    (h : command.Generates s c) (h' : command.Generates s c') : c' = c := by
  cases h with
  | topology built =>
    cases h' with
    | topology built' => exact (Prod.mk.inj (Except.ok.inj (built'.symm.trans built))).1
  | defaultScenario built =>
    cases h' with
    | defaultScenario built' => exact congrArg _ (Except.ok.inj (built'.symm.trans built))
  | scenario read built =>
    cases h' with
    | scenario read' built' =>
      have same := Except.ok.inj (read'.symm.trans read)
      subst same
      exact congrArg _ (Except.ok.inj (built'.symm.trans built))

/-- Generated flows have fixed rates, and only those are read back from any text. -/
theorem Command.Generates.rates {s : FileStore} {command : Command} {c : Config}
    (h : command.Generates s c) : ∀ f ∈ c.flows, ∀ share, f.rate ≠ some (.percentage share) := by
  have ofScenario {p : Scenario.Parameters} {result : Scenario.Result}
      (built : p.build = .ok result) :
      ∀ f ∈ result.config.flows, ∀ share, f.rate ≠ some (.percentage share) := by
    obtain ⟨steps, rfl⟩ := Scenario.build_eq_ok_iff.mp built
    intro f member share
    rw [steps.flows_result, List.mem_singleton] at member
    subst member
    simp [Scenario.makeFlow]
  cases h with
  | topology built =>
    obtain ⟨alone, rfl, _⟩ := Builder.buildInPlace_eq_append (Builder.build_eq_ok_iff.mp built)
    intro f member
    rw [Config.append, Builder.flows_created alone] at member
    cases member
  | defaultScenario built => exact ofScenario built
  | scenario _ built => exact ofScenario built

/-! ### Where a configuration goes -/

/-- Where a command puts the configuration that it generates. -/
inductive Destination where
  | terminal
  | file (path : String)
  /-- A new file, whose path starts with the stem. -/
  | newFile (stem : String)

/-- The destination of what a command generates. -/
def Command.destination : Command → Destination
  | .scenario _ _ (some stem) => .newFile stem
  | .scenario _ (some path) none => .file path
  | .topology _ arguments => arguments.output.elim .terminal .file
  | _ => .terminal

/-- Whether a configuration can be put there. -/
def Destination.Accepts (s : FileStore) (timestamp : String) (c : Config) : Destination → Prop
  | .terminal => True
  | .file path => s.AcceptsConfig path c
  | .newFile stem => s.AcceptsConfig (s.timestampedPath stem timestamp) c

/-- The words that check a file. -/
def checkWords (path : String) : List String :=
  ["validate", "--", path]

/-- What is left if a configuration is printed. -/
structure Printed (s : FileStore) (c : Config) (o : Outcome) : Prop where
  output : o.output = c.toJson ++ "\n"
  files : o.files = s
  reads : Config.ofJson o.output = .ok c
  /-- A file with that output, wherever it is, passes the check. -/
  passes : ∀ (t : FileStore) path timestamp, ConfigFormat.ofPath path = .ok .json →
    t.read? path = some o.output →
    run t timestamp (checkWords path) = .success t [path ++ " is valid"]

/-- What is left if a configuration is written to a file. -/
structure Stored (s : FileStore) (path : String) (c : Config) (s' : FileStore) : Prop where
  /-- The file has the format of its extension, and no other one has changed. -/
  wrote : ∃ format, ConfigFormat.ofPath path = .ok format ∧
    s.Wrote path (FileStore.configText format c) s'
  reads : s'.readConfig path = .ok c
  passes : ∀ timestamp, run s' timestamp (checkWords path) = .success s' [path ++ " is valid"]

/-- What is left if a configuration reaches a destination. -/
def Delivered (s : FileStore) (timestamp : String) (c : Config) (o : Outcome) : Destination → Prop
  | .terminal => Printed s c o
  | .file path => Stored s path c o.files ∧ o.lines = []
  | .newFile stem =>
    let path := s.timestampedPath stem timestamp
    s.exists? path = false ∧ ConfigFormat.ofPath path = .ok .json ∧ Stored s path c o.files ∧
      o.lines = [path]

section Delivering

variable {s s' : FileStore} {c : Config} {path timestamp : String} {output : Option String}

theorem ofWords?_checkWords (named : path ≠ "") :
    Command.ofWords? (checkWords path) = some (.validate path) := by
  have closing : Word.ofText [] "--" = .closing := rfl
  have given : path? path = some path := if_neg (by simpa using named)
  have subcommand : Command.ofWords? (checkWords path) = validate? ["--", path] := rfl
  simp [subcommand, validate?, sort?, closing, given]

theorem passes_of_readConfig (read : s.readConfig path = .ok c) (valid : c.violations = [])
    (named : path ≠ "") (timestamp : String) :
    run s timestamp (checkWords path) = .success s [path ++ " is valid"] := by
  simp only [run, ofWords?_checkWords named, Command.run, runValidate, read, valid]

/-- A path of no characters leads to no file. -/
theorem ne_empty_of_read? {content : String} (h : s.read? path = some content) : path ≠ "" := by
  rintro rfl
  simp [FileStore.read?, FileStore.namesDirectory] at h

/-- A configuration that is exported passes the check where it has been written to. -/
theorem stored_of_exportConfig (rates : ∀ f ∈ c.flows, ∀ share, f.rate ≠ some (.percentage share))
    (exported : s.exportConfig path c = .ok s') : c.violations = [] ∧ Stored s path c s' := by
  obtain ⟨valid, format, known, written⟩ := FileStore.exportConfig_eq_ok_iff.mp exported
  have wrote := FileStore.wrote_of_write? written
  have reads := FileStore.readConfig_of_read? rates known wrote.read
  exact ⟨valid, ⟨format, known, wrote⟩, reads,
    passes_of_readConfig reads valid (ne_empty_of_read? wrote.read)⟩

theorem printed_of_valid (rates : ∀ f ∈ c.flows, ∀ share, f.rate ≠ some (.percentage share))
    (valid : c.violations = []) : Printed s c (.success s [c.toJson]) := by
  have output : (Outcome.success s [c.toJson]).output = c.toJson ++ "\n" := by
    simp [Outcome.output, Outcome.success]
  have reads := Config.read_toJson_line rates
  refine ⟨output, rfl, output ▸ reads, ?_⟩
  intro t path timestamp known read
  refine passes_of_readConfig ?_ valid (ne_empty_of_read? read) timestamp
  rw [output] at read
  simp only [FileStore.readConfig, known, ok_bind, read]
  exact reads

/-! ### Running -/

theorem emit_terminal (s : FileStore) (c : Config) :
    emit s c none = if c.violations = [] then .success s [c.toJson] else .failure s [] := by
  unfold emit
  cases valid : c.validate with
  | ok u => rw [if_pos (FileStore.validate_eq_ok_iff.mp valid)]
  | error e =>
    rw [if_neg]
    intro none
    have consistent : c.validate = .ok () := FileStore.validate_eq_ok_iff.mpr none
    rw [consistent] at valid
    cases valid

theorem not_accepted_of_error {generated : Config → Prop} {e : ConfigError}
    (unique : ∀ c', generated c' → c' = c) (failed : s.exportConfig path c = .error e) :
    ∀ c', generated c' → c'.violations = [] → ¬ s.AcceptsConfig path c' := by
  intro c' other valid accepted
  rw [unique c' other] at valid accepted
  obtain ⟨written, exported⟩ := FileStore.exists_exportConfig_iff.mpr ⟨valid, accepted⟩
  rw [failed] at exported
  cases exported

/-- How a run may end: with a failure that changes nothing, if there is no consistent configuration
that the destination accepts, or with the delivery of one. -/
inductive Concludes (s : FileStore) (timestamp : String) (generated : Config → Prop)
    (destination : Destination) : Outcome → Prop where
  | failed (cause : ∀ c, generated c → c.violations = [] → ¬ destination.Accepts s timestamp c) :
      Concludes s timestamp generated destination (.failure s [])
  | delivered {c : Config} {o : Outcome} (origin : generated c) (succeeded : o.exitCode = 0)
      (valid : c.violations = []) (accepted : destination.Accepts s timestamp c)
      (delivered : Delivered s timestamp c o destination) :
      Concludes s timestamp generated destination o

section Conclusions

variable {generated : Config → Prop} {destination : Destination} {o : Outcome}

theorem Concludes.succeeds_iff (h : Concludes s timestamp generated destination o) :
    o.exitCode = 0 ↔
      ∃ c, generated c ∧ c.violations = [] ∧ destination.Accepts s timestamp c := by
  cases h with
  | failed cause =>
    constructor
    · intro succeeded
      cases succeeded
    · rintro ⟨c, origin, valid, accepted⟩
      exact absurd accepted (cause c origin valid)
  | delivered origin succeeded valid accepted _ =>
    exact iff_of_true succeeded ⟨_, origin, valid, accepted⟩

theorem Concludes.exists_delivered (h : Concludes s timestamp generated destination o)
    (succeeded : o.exitCode = 0) :
    ∃ c, generated c ∧ c.violations = [] ∧ Delivered s timestamp c o destination := by
  cases h with
  | failed => cases succeeded
  | delivered origin _ valid _ delivered => exact ⟨_, origin, valid, delivered⟩

theorem Concludes.unchanged (h : Concludes s timestamp generated destination o)
    (failed : o.exitCode ≠ 0) : o.lines = [] ∧ o.files = s := by
  cases h with
  | failed => exact ⟨rfl, rfl⟩
  | delivered _ succeeded _ _ _ => exact absurd succeeded failed

end Conclusions

variable {generated : Config → Prop}

theorem concludes_emit (origin : generated c) (unique : ∀ c', generated c' → c' = c)
    (rates : ∀ f ∈ c.flows, ∀ share, f.rate ≠ some (.percentage share)) :
    Concludes s timestamp generated (output.elim .terminal .file) (emit s c output) := by
  cases output with
  | none =>
    rw [emit_terminal]
    by_cases valid : c.violations = []
    · rw [if_pos valid]
      exact .delivered origin rfl valid trivial (printed_of_valid rates valid)
    · rw [if_neg valid]
      refine .failed fun c' other valid' _ => ?_
      exact valid (unique c' other ▸ valid')
  | some path =>
    rcases called : s.exportConfigInPlace path c with ⟨last, e | _⟩
    · obtain ⟨rfl, refused⟩ := FileStore.exportConfigInPlace_eq_error_iff.mp called
      simp only [emit, called]
      exact .failed (not_accepted_of_error unique refused)
    · have exported := FileStore.exportConfigInPlace_eq_ok_iff.mp called
      obtain ⟨valid, stored⟩ := stored_of_exportConfig rates exported
      obtain ⟨_, accepted⟩ := FileStore.exists_exportConfig_iff.mp ⟨last, exported⟩
      simp only [emit, called]
      exact .delivered origin rfl valid accepted ⟨stored, rfl⟩

theorem concludes_runTopology (shape : Shape) (arguments : TopologyArguments) :
    Concludes s timestamp ((Command.topology shape arguments).Generates s)
      (Command.topology shape arguments).destination (runTopology s shape arguments) := by
  cases built : (arguments.builder shape).build {} with
  | error e =>
    simp only [runTopology, built]
    refine .failed fun c origin _ _ => ?_
    cases origin with
    | topology succeeded =>
      rw [built] at succeeded
      cases succeeded
  | ok result =>
    obtain ⟨c, t⟩ := result
    have origin : (Command.topology shape arguments).Generates s c := .topology built
    simp only [runTopology, built]
    exact concludes_emit origin (fun _ other => origin.unique other) origin.rates

/-- The parameters of a scenario: those in a file, or the defaults. -/
def chosenParameters (s : FileStore) :
    Option String → Except Scenario.ScenarioError Scenario.Parameters
  | some path => s.readScenario path
  | none => .ok {}

theorem generates_scenario_iff {parameters output outputPrefix : Option String} :
    (Command.scenario parameters output outputPrefix).Generates s c ↔
      ∃ p result, chosenParameters s parameters = .ok p ∧ p.build = .ok result ∧
        c = result.config := by
  constructor
  · intro origin
    cases origin with
    | defaultScenario built => exact ⟨_, _, rfl, built, rfl⟩
    | scenario read built => exact ⟨_, _, read, built, rfl⟩
  · rintro ⟨p, result, chosen, built, rfl⟩
    cases parameters with
    | none =>
      cases chosen
      exact .defaultScenario built
    | some path => exact .scenario chosen built

/-- The end of a run that has built a scenario. -/
def deliverScenario (s : FileStore) (timestamp : String) (c : Config) (output : Option String) :
    Option String → Outcome
  | none => emit s c output
  | some stem =>
    match s.exportTimestampedInPlace stem timestamp c with
    | (s, .ok path) => .success s [path]
    | (s, .error _) => .failure s []

theorem runScenario_eq (s : FileStore) (timestamp : String)
    (parameters output outputPrefix : Option String) :
    runScenario s timestamp parameters output outputPrefix =
      match (chosenParameters s parameters).bind Scenario.Parameters.build with
      | .error _ => .failure s []
      | .ok result => deliverScenario s timestamp result.config output outputPrefix := by
  unfold runScenario chosenParameters
  cases parameters <;>
  · simp only
    generalize Except.bind _ Scenario.Parameters.build = built
    cases built <;> cases outputPrefix <;> rfl

theorem concludes_deliverScenario {parameters outputPrefix : Option String} (origin : generated c)
    (unique : ∀ c', generated c' → c' = c)
    (rates : ∀ f ∈ c.flows, ∀ share, f.rate ≠ some (.percentage share)) :
    Concludes s timestamp generated (Command.scenario parameters output outputPrefix).destination
      (deliverScenario s timestamp c output outputPrefix) := by
  cases outputPrefix with
  | none =>
    have emitted : Concludes s timestamp generated (output.elim .terminal .file) (emit s c output) :=
      concludes_emit origin unique rates
    cases output <;> exact emitted
  | some stem =>
    rcases called : s.exportTimestampedInPlace stem timestamp c with ⟨last, e | path⟩
    · obtain ⟨rfl, refused⟩ := FileStore.exportTimestampedInPlace_eq_error_iff.mp called
      rw [FileStore.exportTimestamped_eq_error_iff] at refused
      simp only [deliverScenario, called]
      exact .failed (not_accepted_of_error unique refused)
    · obtain ⟨exported, rfl⟩ := FileStore.exportTimestamped_eq_ok_iff.mp
        (FileStore.exportTimestampedInPlace_eq_ok_iff.mp called)
      obtain ⟨valid, stored⟩ := stored_of_exportConfig rates exported
      obtain ⟨_, accepted⟩ := FileStore.exists_exportConfig_iff.mp ⟨last, exported⟩
      obtain ⟨format, known, _⟩ := stored.wrote
      have json : format = .json := FileStore.format_of_numberedPath known
      have free := FileStore.exists?_timestampedPath s stem timestamp
      simp only [deliverScenario, called]
      exact .delivered origin rfl valid accepted ⟨free, json ▸ known, stored, rfl⟩

theorem concludes_runScenario (parameters output outputPrefix : Option String) :
    Concludes s timestamp ((Command.scenario parameters output outputPrefix).Generates s)
      (Command.scenario parameters output outputPrefix).destination
      (runScenario s timestamp parameters output outputPrefix) := by
  rw [runScenario_eq]
  cases built : (chosenParameters s parameters).bind Scenario.Parameters.build with
  | error e =>
    refine .failed fun c origin _ _ => ?_
    obtain ⟨p, result, chosen, succeeded, _⟩ := generates_scenario_iff.mp origin
    rw [chosen, Except.bind, succeeded] at built
    cases built
  | ok result =>
    obtain ⟨p, chosen, built⟩ := bind_eq_ok_iff.mp built
    have origin :
        (Command.scenario parameters output outputPrefix).Generates s result.config :=
      generates_scenario_iff.mpr ⟨p, result, chosen, built, rfl⟩
    exact concludes_deliverScenario origin (fun _ other => origin.unique other) origin.rates

end Delivering

/-! ### When a topology is printed -/

section Topologies

variable {s : FileStore} {shape : Shape} {a : TopologyArguments}

theorem accepts_builder_iff : (a.builder shape).Accepts {} ↔ shape.IsLarge ∧ shape.size ≤ 254 ∧
    (a.addressing.v4Octet.isSome = true ∨ a.addressing.v6Group.isSome = true) := by
  constructor
  · intro accepts
    exact ⟨accepts.large, accepts.few, accepts.addressed⟩
  · rintro ⟨large, few, addressed⟩
    exact ⟨large, few, rfl, addressed, fun _ _ _ _ => List.not_mem_nil⟩

/-- Only the prefixes of IPv4 routes can be chosen. -/
theorem prefixesFit_builder_iff :
    PrefixesFit (a.builder shape).v4Routes (a.builder shape).v6Routes ↔
      (a.v4Routes.isSome = true → a.routePrefixLength ≤ 32) := by
  constructor
  · intro fits given
    obtain ⟨first, set⟩ := Option.isSome_iff_exists.mp given
    have requested : (a.builder shape).v4Routes =
        some ⟨first, a.routePrefixLength, a.routeCount⟩ := by
      rw [TopologyArguments.builder, set]
      rfl
    exact fits.v4 _ requested
  · intro fits
    constructor
    · intro routes requested
      obtain ⟨first, set, rfl⟩ := Option.map_eq_some_iff.mp requested
      exact fits (by rw [set]; rfl)
    · intro routes requested
      obtain ⟨first, _, rfl⟩ := Option.map_eq_some_iff.mp requested
      exact (by decide : (64 : UInt8) ≤ 128)

theorem runTopology_succeeds_iff (printed : a.output = none) :
    (runTopology s shape a).exitCode = 0 ↔ shape.IsLarge ∧ shape.size ≤ 254 ∧
      (a.addressing.v4Octet.isSome = true ∨ a.addressing.v6Group.isSome = true) ∧
      (a.v4Routes.isSome = true → a.routePrefixLength ≤ 32) := by
  have whole : (shape.IsLarge ∧ shape.size ≤ 254 ∧
      (a.addressing.v4Octet.isSome = true ∨ a.addressing.v6Group.isSome = true) ∧
      (a.v4Routes.isSome = true → a.routePrefixLength ≤ 32)) ↔ (a.builder shape).Accepts {} ∧
        PrefixesFit (a.builder shape).v4Routes (a.builder shape).v6Routes := by
    rw [accepts_builder_iff, prefixesFit_builder_iff, and_assoc, and_assoc]
  rw [whole]
  cases built : (a.builder shape).build {} with
  | error e =>
    have refused : ¬ (a.builder shape).Accepts {} := by
      intro accepts
      obtain ⟨result, succeeded⟩ := Builder.exists_build_iff.mpr accepts
      rw [built] at succeeded
      cases succeeded
    simp only [runTopology, built]
    exact iff_of_false Nat.one_ne_zero fun both => refused both.1
  | ok result =>
    obtain ⟨c, t⟩ := result
    have accepts : (a.builder shape).Accepts {} := Builder.exists_build_iff.mp ⟨_, built⟩
    have alone := (Builder.buildInPlace_eq_append (Builder.build_eq_ok_iff.mp built)).1
    have same : c = (a.builder shape).created :=
      congrArg Prod.fst ((Builder.build_eq_ok_iff.mp built).symm.trans alone)
    rw [← Builder.violations_created_eq_nil_iff alone, ← same]
    simp only [runTopology, built, printed, emit_terminal]
    by_cases valid : c.violations = []
    · rw [if_pos valid]
      exact iff_of_true rfl ⟨accepts, valid⟩
    · rw [if_neg valid]
      exact iff_of_false Nat.one_ne_zero fun both => valid both.2

end Topologies

/-! ### Words of a call -/

section Words

variable {words : List String} {command : Command}

theorem exists_of_grid? (h : grid? words = some command) :
    ∃ rows cols a, command = .topology (.grid rows cols) a := by
  simp only [grid?, Option.bind_eq_bind, Option.bind_eq_some_iff, Option.some.injEq] at h
  obtain ⟨_, _, rows, _, cols, _, a, _, rfl⟩ := h
  exact ⟨rows, cols, a, rfl⟩

theorem exists_of_ring? (h : ring? words = some command) :
    ∃ nodes a, command = .topology (.ring nodes) a := by
  simp only [ring?, Option.bind_eq_bind, Option.bind_eq_some_iff, Option.some.injEq] at h
  obtain ⟨_, _, nodes, _, a, _, rfl⟩ := h
  exact ⟨nodes, a, rfl⟩

theorem exists_of_scenario? (h : scenario? words = some command) :
    ∃ parameters output outputPrefix, command = .scenario parameters output outputPrefix := by
  simp only [scenario?, Option.bind_eq_bind, Option.bind_eq_some_iff] at h
  obtain ⟨sorted, _, h⟩ := h
  split at h
  · cases h
  · obtain ⟨parameters, _, h⟩ := Option.bind_eq_some_iff.mp h
    obtain ⟨output, _, h⟩ := Option.bind_eq_some_iff.mp h
    split at h
    · cases h
    · exact ⟨parameters, output, sorted.value? "output-prefix", (Option.some.inj h).symm⟩

/-- The subcommands that generate configurations. -/
def generators : List String :=
  ["grid", "ring", "scenario"]

variable {subcommand : String} {s : FileStore} {timestamp : String}

theorem concludes_run (generator : subcommand ∈ generators)
    (parsed : Command.ofWords? (subcommand :: words) = some command) :
    Concludes s timestamp (command.Generates s) command.destination
      (run s timestamp (subcommand :: words)) := by
  simp only [run, parsed]
  simp only [generators, List.mem_cons, List.not_mem_nil, or_false] at generator
  rcases generator with rfl | rfl | rfl
  · obtain ⟨rows, cols, a, rfl⟩ := exists_of_grid? parsed
    exact concludes_runTopology _ a
  · obtain ⟨nodes, a, rfl⟩ := exists_of_ring? parsed
    exact concludes_runTopology _ a
  · obtain ⟨parameters, output, outputPrefix, rfl⟩ := exists_of_scenario? parsed
    exact concludes_runScenario parameters output outputPrefix

/-- Whatever the arguments of a subcommand for generating and the content of the files are: a run
succeeds exactly if it generates a consistent configuration that its destination accepts. Then it
has delivered that one, where it is read back and passes the check; otherwise it has printed nothing
and changed no file. A grid or ring is printed exactly if it is large enough but not too large, has
links with addresses, and the prefixes of its IPv4 routes are possible. -/
theorem generators_emit_only_valid (generator : subcommand ∈ generators)
    (parsed : Command.ofWords? (subcommand :: words) = some command) :
    let o := run s timestamp (subcommand :: words)
    (o.exitCode = 0 ↔ ∃ c, command.Generates s c ∧ c.violations = [] ∧
      command.destination.Accepts s timestamp c) ∧
    (o.exitCode = 0 → ∃ c, command.Generates s c ∧ c.violations = [] ∧
      Delivered s timestamp c o command.destination) ∧
    (o.exitCode ≠ 0 → o.lines = [] ∧ o.files = s) ∧
    (subcommand = "grid" → ∃ rows cols a, command = .topology (.grid rows cols) a ∧
      (a.output = none → (o.exitCode = 0 ↔ 2 ≤ rows ∧ 2 ≤ cols ∧ rows * cols ≤ 254 ∧
        (a.addressing.v4Octet.isSome = true ∨ a.addressing.v6Group.isSome = true) ∧
        (a.v4Routes.isSome = true → a.routePrefixLength ≤ 32)))) ∧
    (subcommand = "ring" → ∃ nodes a, command = .topology (.ring nodes) a ∧
      (a.output = none → (o.exitCode = 0 ↔ 2 ≤ nodes ∧ nodes ≤ 254 ∧
        (a.addressing.v4Octet.isSome = true ∨ a.addressing.v6Group.isSome = true) ∧
        (a.v4Routes.isSome = true → a.routePrefixLength ≤ 32)))) := by
  intro o
  have concluded : Concludes s timestamp (command.Generates s) command.destination o :=
    concludes_run generator parsed
  have ran : o = command.run s timestamp := by simp only [o, run, parsed]
  refine ⟨concluded.succeeds_iff, concluded.exists_delivered, concluded.unchanged, ?_, ?_⟩
  · rintro rfl
    obtain ⟨rows, cols, a, rfl⟩ := exists_of_grid? parsed
    refine ⟨rows, cols, a, rfl, fun printed => ?_⟩
    rw [ran, Command.run, runTopology_succeeds_iff printed, Shape.IsLarge, and_assoc, Shape.size]
  · rintro rfl
    obtain ⟨nodes, a, rfl⟩ := exists_of_ring? parsed
    refine ⟨nodes, a, rfl, fun printed => ?_⟩
    rw [ran, Command.run, runTopology_succeeds_iff printed, Shape.IsLarge, Shape.size]

/-- A call for a grid of four routers with IPv4 links. -/
def smallGridWords : List String :=
  ["--rows", "2", "--cols", "2", "--system-id", "0x1f", "--link-ipv4", "10"]

theorem generators_emit_only_valid_of_smallGrid :
    ∃ c, Printed {} c (run {} "2023-11-19_15-31-02" ("grid" :: smallGridWords)) ∧
      c.violations = [] := by
  have parsed : Command.ofWords? ("grid" :: smallGridWords) =
      some (.topology (.grid 2 2) ⟨31, ⟨some 10, none⟩, none, none, 32, 1, none⟩) := by
    rfl
  have generator : "grid" ∈ generators := List.mem_cons_self
  obtain ⟨_, succeeds, _, printed, _⟩ := @generators_emit_only_valid smallGridWords _ "grid" {}
    "2023-11-19_15-31-02" generator parsed
  obtain ⟨rows, cols, a, same, printed⟩ := printed rfl
  cases same
  obtain ⟨c, _, valid, delivered⟩ := succeeds ((printed rfl).mpr (by decide))
  exact ⟨c, delivered, valid⟩

end Words

end IsisTestbed.CommandLine
