import IsisTestbed.CommandLine.Arguments
import IsisTestbed.Store.Files
import IsisTestbed.Telemetry.Check

/-!
Running a command. A run takes a store of files and leaves one, with lines of output and an exit
code: 0 for success, 1 for a failure, 2 for words that make no command.
-/

namespace IsisTestbed.CommandLine

/-- What a run leaves. -/
structure Outcome where
  exitCode : Nat
  lines : List String
  files : FileStore
  deriving DecidableEq, Repr, Inhabited

namespace Outcome

/-- A success that leaves a store behind. -/
def success (s : FileStore) (lines : List String) : Outcome :=
  ⟨0, lines, s⟩

/-- A failure that leaves a store behind. -/
def failure (s : FileStore) (lines : List String) : Outcome :=
  ⟨1, lines, s⟩

/-- All output as one text. -/
def output (o : Outcome) : String :=
  String.join (o.lines.map (· ++ "\n"))

end Outcome

/-- The builder of a topology. -/
def TopologyArguments.builder (shape : Shape) (a : TopologyArguments) : Builder where
  shape := shape
  systemIdOctet := some a.systemIdOctet
  addressing := a.addressing
  v4Routes := a.v4Routes.map fun first =>
    { firstOctet := first, prefixLength := a.routePrefixLength, count := a.routeCount }
  v6Routes := a.v6Routes.map fun first => { firstGroup := first, count := a.routeCount }

/-- Writes a consistent configuration to a file, or prints it. -/
def emit (s : FileStore) (c : Config) (output : Option String) : Outcome :=
  match output with
  | some path =>
    match s.exportConfigInPlace path c with
    | (s, .ok _) => .success s []
    | (s, .error _) => .failure s []
  | none =>
    match c.validate with
    | .ok _ => .success s [c.toJson]
    | .error _ => .failure s []

/-- Generates a topology. -/
def runTopology (s : FileStore) (shape : Shape) (a : TopologyArguments) : Outcome :=
  match (a.builder shape).build {} with
  | .ok (c, _) => emit s c a.output
  | .error _ => .failure s []

/-- Generates the scenario with the given parameters or the defaults. -/
def runScenario (s : FileStore) (timestamp : String)
    (parameters output outputPrefix : Option String) : Outcome :=
  let parameters := match parameters with
    | some path => s.readScenario path
    | none => .ok {}
  match parameters.bind Scenario.Parameters.build with
  | .error _ => .failure s []
  | .ok scenario =>
    match outputPrefix with
    | none => emit s scenario.config output
    | some stem =>
      match s.exportTimestampedInPlace stem timestamp scenario.config with
      | (s, .ok path) => .success s [path]
      | (s, .error _) => .failure s []

/-- Lists what is wrong with a configuration. -/
def runValidate (s : FileStore) (file : String) : Outcome :=
  match s.readConfig file with
  | .error _ => .failure s []
  | .ok c =>
    match c.violations with
    | [] => .success s [file ++ " is valid"]
    | violations => .failure s (violations.map Violation.message)

/-- The configuration and the metrics in two files. -/
def readBoth? (s : FileStore) (config metrics : String) : Option (Config × Telemetry.Metrics) := do
  let c ← (s.readConfig config).toOption
  let m ← (s.readMetrics metrics).toOption
  some (c, m)

/-- Checks the loss of all flows. -/
def runVerifyFlows (s : FileStore) (config metrics : String) (expectLoss : Bool)
    (tolerance : Float) : Outcome :=
  match readBoth? s config metrics with
  | none => .failure s []
  | some (c, m) =>
    let expected : Telemetry.LossExpectation := if expectLoss then .fullLoss else .noLoss
    match Telemetry.checkFlows c m expected { percent := tolerance } with
    | [] => .success s ["All " ++ Text.number c.flows.length ++ " flows passed"]
    | findings => .failure s (findings.map Telemetry.Finding.message)

/-- Checks the sessions of all emulated routers, and their LSPs if any are expected. -/
def runVerifyIsis (s : FileStore) (config metrics : String) (sessions : UInt64)
    (expectedLsps : List String) : Outcome :=
  match readBoth? s config metrics with
  | none => .failure s []
  | some (c, m) =>
    let lsps := if expectedLsps.isEmpty then [] else Telemetry.checkLsps c m expectedLsps
    match Telemetry.checkSessions c m sessions ++ lsps with
    | [] => .success s []
    | findings => .failure s (findings.map Telemetry.Finding.message)

/-- Runs a command. -/
def Command.run (s : FileStore) (timestamp : String) : Command → Outcome
  | .topology shape arguments => runTopology s shape arguments
  | .scenario parameters output outputPrefix =>
    runScenario s timestamp parameters output outputPrefix
  | .validate file => runValidate s file
  | .verifyFlows config metrics expectLoss tolerance =>
    runVerifyFlows s config metrics expectLoss tolerance
  | .verifyIsis config metrics sessions expectedLsps =>
    runVerifyIsis s config metrics sessions expectedLsps

/-- Runs the command that some words make. -/
def run (s : FileStore) (timestamp : String) (words : List String) : Outcome :=
  match Command.ofWords? words with
  | some command => command.run s timestamp
  | none => ⟨2, [], s⟩

end IsisTestbed.CommandLine
