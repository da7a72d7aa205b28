import IsisTestbed.Config.Documents
import IsisTestbed.Scenario.Documents
import IsisTestbed.Store.Path
import IsisTestbed.Telemetry.Metrics

/-!
A store of files. A directory exists if a file lies below it, or if it is listed; writing creates no
directories. Configurations, scenarios and metrics are read from it and written to it. A call that
writes has the store that it leaves behind as a part of its outcome, also after a failure; the calls
without that store are defined by it.
-/

namespace IsisTestbed

/-- A store: the content of each file under the steps that lead to it, directories that exist even
if they are empty, and the directory where relative paths start. -/
structure FileStore where
  files : List (List String × String) := []
  directories : List (List String) := []
  current : List String := []
  deriving DecidableEq, Repr, Inhabited

namespace FileStore

/-! ### Places -/

/-- Whether there is a directory at the end of some steps. -/
def hasDirectory (s : FileStore) (steps : List String) : Bool :=
  steps.isEmpty || s.directories.contains steps ||
    s.files.any fun f => steps.length < f.1.length && f.1.take steps.length == steps

/-- The content of the file at the end of some steps. -/
def content? (s : FileStore) (steps : List String) : Option String :=
  (s.files.find? fun f => f.1 == steps).map (·.2)

/-- The place to which further steps lead from a directory. A step upwards leads out of a directory
that exists, and not out of the store. -/
def follow? (s : FileStore) (place : List String) : List String → Option (List String)
  | [] => some place
  | ".." :: rest =>
    if place.isEmpty || !s.hasDirectory place then none else s.follow? place.dropLast rest
  | step :: rest => s.follow? (place ++ [step]) rest

/-- Whether a path can only lead to a directory. -/
def namesDirectory (path : String) : Bool :=
  match path.toList.reverse with
  | [] => true
  | '/' :: _ => true
  | ['.'] => true
  | '.' :: '/' :: _ => true
  | _ => false

/-- The place where a path starts. Absolute paths start at a place that is called by the slash. -/
def start (s : FileStore) (path : String) : List String :=
  if path.toList.head? == some '/' then ["/"] else s.current

/-- The place to which a path leads. -/
def place? (s : FileStore) (path : String) : Option (List String) :=
  if Store.isUsable path then s.follow? (s.start path) (Store.steps path) else none

/-- Whether there is a file or directory at the end of a path. -/
def exists? (s : FileStore) (path : String) : Bool :=
  match s.place? path with
  | none => false
  | some place =>
    (s.hasDirectory place && !path.isEmpty) ||
      ((s.content? place).isSome && !namesDirectory path)

/-! ### Content -/

/-- The content of the file at the end of a path. -/
def read? (s : FileStore) (path : String) : Option String := do
  let place ← s.place? path
  if namesDirectory path then none else s.content? place

/-- The store with a file at some steps, new or overwritten. -/
def put (s : FileStore) (steps : List String) (content : String) : FileStore :=
  if (s.content? steps).isSome then
    { s with files := s.files.map fun f => if f.1 == steps then (steps, content) else f }
  else { s with files := s.files ++ [(steps, content)] }

/-- The store with a file at the end of a path, and with all directories on the way there. -/
def supply (s : FileStore) (path content : String) : FileStore :=
  let steps := Store.steps path
  let directories := s.directories ++ Store.way (s.start path) steps.dropLast
  match { s with directories }.follow? (s.start path) steps with
  | some place => { s with directories }.put place content
  | none => s

/-- The store with a file written to the end of a path. Its directory must exist, and it must not be
a directory itself. -/
def write? (s : FileStore) (path content : String) : Option FileStore := do
  let place ← s.place? path
  if namesDirectory path || s.hasDirectory place || !s.hasDirectory place.dropLast then none
  else some (s.put place content)

/-! ### Configurations, scenarios and metrics -/

/-- The configuration in a file, in the format of its extension. -/
def readConfig (s : FileStore) (path : String) : Except ConfigError Config := do
  let format ← ConfigFormat.ofPath path
  match s.read? path with
  | none => .error .file
  | some text =>
    match format with
    | .json => Config.ofJson text
    | .yaml => Config.ofYaml text

/-- The text of a configuration in a format. -/
def configText (format : ConfigFormat) (c : Config) : String :=
  match format with
  | .json => c.toJson
  | .yaml => c.toYaml

/-- Writes a configuration to a file, in the format of its extension. Gives the store that is left
behind, after a failure too. -/
def writeConfigInPlace (s : FileStore) (path : String) (c : Config) :
    FileStore × Except ConfigError Unit :=
  match ConfigFormat.ofPath path with
  | .error e => (s, .error e)
  | .ok format =>
    match s.write? path (configText format c) with
    | none => (s, .error .file)
    | some s => (s, .ok ())

/-- The store with a configuration written to a file, in the format of its extension. -/
def writeConfig (s : FileStore) (path : String) (c : Config) : Except ConfigError FileStore :=
  let (s, outcome) := s.writeConfigInPlace path c
  outcome.map fun _ => s

/-- The scenario parameters in a file. -/
def readScenario (s : FileStore) (path : String) :
    Except Scenario.ScenarioError Scenario.Parameters :=
  match s.read? path with
  | some text => Scenario.Parameters.ofToml text
  | none => .error .file

/-- Why metrics cannot be read. -/
inductive MetricsError where
  | json
  | file
  deriving DecidableEq, Repr, Inhabited

/-- The metrics in a file. -/
def readMetrics (s : FileStore) (path : String) : Except MetricsError Telemetry.Metrics :=
  match s.read? path with
  | none => .error .file
  | some text =>
    match Telemetry.Metrics.ofJson? text with
    | some m => .ok m
    | none => .error .json

/-! ### Export -/

/-- Writes a consistent configuration to a file. Gives the store that is left behind, after a failure
too. -/
def exportConfigInPlace (s : FileStore) (path : String) (c : Config) :
    FileStore × Except ConfigError Unit :=
  match c.validate with
  | .error e => (s, .error e)
  | .ok _ => s.writeConfigInPlace path c

/-- The store with a consistent configuration written to a file. -/
def exportConfig (s : FileStore) (path : String) (c : Config) : Except ConfigError FileStore :=
  let (s, outcome) := s.exportConfigInPlace path c
  outcome.map fun _ => s

/-- The path for a prefix, a timestamp and a number; the first path has none. -/
def numberedPath (stem timestamp : String) (n : Nat) : String :=
  if n = 0 then stem ++ "_" ++ timestamp ++ ".json"
  else stem ++ "_" ++ timestamp ++ "_" ++ Text.number n ++ ".json"

/-- The first number of at least `n`, and below `n + bound`, whose path is free; else the last. -/
def firstFree (s : FileStore) (stem timestamp : String) (n : Nat) : Nat → Nat
  | 0 => n
  | bound + 1 =>
    if s.exists? (numberedPath stem timestamp n) then s.firstFree stem timestamp (n + 1) bound
    else n

/-- The first path for a prefix and a timestamp at which there is nothing. Of one path more than
there are files and directories, one is free. -/
def timestampedPath (s : FileStore) (stem timestamp : String) : String :=
  let bound := s.files.foldl (fun n f => n + f.1.length) 0 + s.directories.length + 1
  numberedPath stem timestamp (s.firstFree stem timestamp 0 bound)

/-- Writes a consistent configuration to a new file. Gives the store that is left behind, after a
failure too, and the path of that file. -/
def exportTimestampedInPlace (s : FileStore) (stem timestamp : String) (c : Config) :
    FileStore × Except ConfigError String :=
  let path := s.timestampedPath stem timestamp
  let (s, outcome) := s.exportConfigInPlace path c
  (s, outcome.map fun _ => path)

/-- The store with a consistent configuration written to a new file, and the path of that file. -/
def exportTimestamped (s : FileStore) (stem timestamp : String) (c : Config) :
    Except ConfigError (FileStore × String) :=
  let (s, outcome) := s.exportTimestampedInPlace stem timestamp c
  outcome.map fun path => (s, path)

end FileStore

end IsisTestbed
