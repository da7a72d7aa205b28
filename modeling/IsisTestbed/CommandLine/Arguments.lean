import IsisTestbed.Decimal.Reading
import IsisTestbed.Topology.Basic

/-!
The arguments of the command line. Each subcommand has a table of its options; the words of a call
are first sorted by that table and then read as what the options hold.
-/

namespace IsisTestbed.CommandLine

/-! ### Sorting words -/

/-- An option: its names, and how often and with what it may be given. -/
structure OptionSpec where
  long : String
  short : Option Char := none
  /-- Whether a value follows. -/
  takesValue : Bool := true
  /-- Whether it may be given more than once. -/
  repeats : Bool := false
  deriving Repr, Inhabited

/-- The words of a call, sorted: the values of options under their long names, and the others. -/
structure Sorted where
  options : List (String × String) := []
  positional : List String := []
  deriving Repr, Inhabited

/-- Whether a word cannot be a separate value, because it looks like an option. -/
def looksLikeOption (word : String) : Bool :=
  match word.toList with
  | '-' :: _ :: _ => true
  | _ => false

/-- A word split at its first equals sign. -/
def splitEquals (cs : List Char) : List Char × Option (List Char) :=
  match cs.dropWhile (· ≠ '=') with
  | [] => (cs, none)
  | _ :: value => (cs.takeWhile (· ≠ '='), some value)

/-- The sorted words with an option added, unless it must not be repeated. -/
def Sorted.add (s : Sorted) (o : OptionSpec) (value : String) : Option Sorted :=
  if !o.repeats && s.options.any (·.1 == o.long) then none
  else some { s with options := s.options ++ [(o.long, value)] }

/-- What a word is before the word after it is seen. -/
inductive Word where
  /-- A word that no option takes. -/
  | plain
  /-- The mark after which no word is an option. -/
  | closing
  /-- An option with all it needs. -/
  | complete (option : OptionSpec) (value : String)
  /-- An option whose value is the next word. -/
  | awaiting (option : OptionSpec)
  /-- An unknown option, or a value for an option that takes none. -/
  | senseless
  deriving Repr, Inhabited

/-- An option with the value attached to its name, if there is one. -/
def Word.ofOption (o : OptionSpec) : Option (List Char) → Word
  | none => if o.takesValue then .awaiting o else .complete o ""
  | some value => if o.takesValue then .complete o (String.ofList value) else .senseless

/-- The word that a text is. -/
def Word.ofText (specs : List OptionSpec) (text : String) : Word :=
  match text.toList with
  | ['-', '-'] => .closing
  | '-' :: '-' :: name =>
    let (name, attached) := splitEquals name
    match specs.find? (·.long == String.ofList name) with
    | none => .senseless
    | some o => .ofOption o attached
  | '-' :: letter :: attached =>
    match specs.find? (·.short == some letter), attached with
    | none, _ => .senseless
    | some o, [] => .ofOption o none
    | some o, '=' :: value => .ofOption o (some value)
    | some o, value => .ofOption o (some value)
  | _ => .plain

/-- Sorts the words of a call; `none` stands for words that make no sense. -/
def sort? (specs : List OptionSpec) (s : Sorted) : List String → Option Sorted
  | [] => some s
  | word :: rest =>
    match Word.ofText specs word, rest with
    | .plain, rest => sort? specs { s with positional := s.positional ++ [word] } rest
    | .closing, rest => some { s with positional := s.positional ++ rest }
    | .complete o value, rest => (s.add o value).bind fun s => sort? specs s rest
    | .awaiting o, value :: rest =>
      if looksLikeOption value then none
      else (s.add o value).bind fun s => sort? specs s rest
    | .awaiting _, [] => none
    | .senseless, _ => none

namespace Sorted

/-- The value of an option, if it is given. -/
def value? (s : Sorted) (name : String) : Option String :=
  (s.options.find? (·.1 == name)).map (·.2)

/-- All values of an option. -/
def values (s : Sorted) (name : String) : List String :=
  (s.options.filter (·.1 == name)).map (·.2)

/-- The value of an option that must be given. -/
def required? {α : Type} (s : Sorted) (name : String) (read : String → Option α) : Option α :=
  (s.value? name).bind read

/-- The value of an option that may be left out. -/
def optional? {α : Type} (s : Sorted) (name : String) (read : String → Option α) :
    Option (Option α) :=
  match s.value? name with
  | none => some none
  | some text => (read text).map some

/-- The value of an option with a default. -/
def defaulted? {α : Type} (s : Sorted) (name : String) (read : String → Option α) (default : α) :
    Option α :=
  match s.value? name with
  | none => some default
  | some text => read text

end Sorted

/-! ### Values -/

/-- A number of at most 64 bits. -/
def count? (text : String) : Option Nat :=
  Text.boundedNumber? (UInt64.size - 1) text.toList

/-- A number of at most 64 bits. -/
def uint64? (text : String) : Option UInt64 :=
  (count? text).map UInt64.ofNat

/-- A number of at most 32 bits; zeros may have a minus sign. -/
def uint32? (text : String) : Option UInt32 :=
  match text.toList with
  | '-' :: digits => ((Text.ofDigits? 10 digits).filter (· = 0)).map fun _ => 0
  | cs => (Text.boundedNumber? (UInt32.size - 1) cs).map UInt32.ofNat

/-- A number of at most 8 bits; zeros may have a minus sign. -/
def uint8? (text : String) : Option UInt8 :=
  match text.toList with
  | '-' :: digits => ((Text.ofDigits? 10 digits).filter (· = 0)).map fun _ => 0
  | cs => (Text.boundedNumber? (UInt8.size - 1) cs).map UInt8.ofNat

/-- A text without the marks of the hexadecimal base at its front. -/
def dropHexMarks : List Char → List Char
  | '0' :: 'x' :: rest => dropHexMarks rest
  | cs => cs

/-- A hexadecimal number below a bound, with any number of marks of its base and an optional plus
sign. -/
def hexBelow? (bound : Nat) (text : String) : Option Nat :=
  let digits := match dropHexMarks text.toList with
    | '+' :: rest => rest
    | cs => cs
  (Text.ofDigits? 16 digits).filter (· < bound)

/-- A hexadecimal number of at most 8 bits. -/
def hexUInt8? (text : String) : Option UInt8 :=
  (hexBelow? UInt8.size text).map UInt8.ofNat

/-- A hexadecimal number of at most 16 bits. -/
def hexUInt16? (text : String) : Option UInt16 :=
  (hexBelow? UInt16.size text).map UInt16.ofNat

/-- A float. -/
def float? (text : String) : Option Float :=
  Decimal.float? text.toList

/-- A path, which is not empty. -/
def path? (text : String) : Option String :=
  if text.isEmpty then none else some text

/-! ### Commands -/

/-- What the subcommands for topologies have in common. -/
structure TopologyArguments where
  systemIdOctet : UInt8
  addressing : LinkAddressing
  v4Routes : Option UInt8
  v6Routes : Option UInt16
  routePrefixLength : UInt8
  routeCount : UInt32
  output : Option String
  deriving DecidableEq, Repr

/-- A command. -/
inductive Command where
  /-- Generate a topology and print it or write it to a file. -/
  | topology (shape : Shape) (arguments : TopologyArguments)
  /-- Generate the back-to-back scenario. -/
  | scenario (parameters output outputPrefix : Option String)
  /-- List what is wrong with a configuration. -/
  | validate (file : String)
  /-- Check the loss of all flows. -/
  | verifyFlows (config metrics : String) (expectLoss : Bool) (tolerance : Float)
  /-- Check the sessions and LSPs of all emulated routers. -/
  | verifyIsis (config metrics : String) (sessions : UInt64) (expectedLsps : List String)
  deriving Repr

/-- The paths of the files that a command reads or writes, apart from one whose name has a
timestamp. -/
def Command.paths : Command → List String
  | .topology _ arguments => arguments.output.toList
  | .scenario parameters output _ => parameters.toList ++ output.toList
  | .validate file => [file]
  | .verifyFlows config metrics _ _ => [config, metrics]
  | .verifyIsis config metrics _ _ => [config, metrics]

/-- The start of the path of the file whose name has a timestamp. -/
def Command.stem? : Command → Option String
  | .scenario _ _ outputPrefix => outputPrefix
  | _ => none

/-- The options of the subcommands for topologies. -/
def topologyOptions : List OptionSpec :=
  [{ long := "system-id" }, { long := "link-ipv4" }, { long := "link-ipv6" },
    { long := "v4-routes" }, { long := "v6-routes" }, { long := "route-prefix-len" },
    { long := "route-count" }, { long := "output", short := some 'o' }]

/-- The arguments that the subcommands for topologies have in common. -/
def topologyArguments? (s : Sorted) : Option TopologyArguments := do
  if !s.positional.isEmpty then none
  some
    { systemIdOctet := ← s.required? "system-id" hexUInt8?
      addressing :=
        ⟨← s.optional? "link-ipv4" uint8?, ← s.optional? "link-ipv6" hexUInt16?⟩
      v4Routes := ← s.optional? "v4-routes" uint8?
      v6Routes := ← s.optional? "v6-routes" hexUInt16?
      routePrefixLength := ← s.defaulted? "route-prefix-len" uint8? 32
      routeCount := ← s.defaulted? "route-count" uint32? 1
      output := ← s.optional? "output" path? }

/-- The arguments of the subcommand for grids. -/
def grid? (words : List String) : Option Command := do
  let s ← sort? ([{ long := "rows" }, { long := "cols" }] ++ topologyOptions) {} words
  let rows ← s.required? "rows" count?
  let cols ← s.required? "cols" count?
  some (.topology (.grid rows cols) (← topologyArguments? s))

/-- The arguments of the subcommand for rings. -/
def ring? (words : List String) : Option Command := do
  let s ← sort? ([{ long := "nodes" }] ++ topologyOptions) {} words
  let nodes ← s.required? "nodes" count?
  some (.topology (.ring nodes) (← topologyArguments? s))

/-- The arguments of the subcommand for scenarios; only one kind of output is possible. -/
def scenario? (words : List String) : Option Command := do
  let s ← sort?
    [{ long := "config", short := some 'c' }, { long := "output", short := some 'o' },
      { long := "output-prefix" }] {} words
  if !s.positional.isEmpty then none
  let parameters ← s.optional? "config" path?
  let output ← s.optional? "output" path?
  let outputPrefix := s.value? "output-prefix"
  if output.isSome && outputPrefix.isSome then none
  some (.scenario parameters output outputPrefix)

/-- The argument of the subcommand that lists violations. -/
def validate? (words : List String) : Option Command := do
  let s ← sort? [] {} words
  match s.positional with
  | [file] => some (.validate (← path? file))
  | _ => none

/-- The arguments of the subcommand that checks flows. -/
def verifyFlows? (words : List String) : Option Command := do
  let s ← sort?
    [{ long := "config", short := some 'c' }, { long := "metrics", short := some 'm' },
      { long := "expect-loss", takesValue := false }, { long := "tolerance" }] {} words
  if !s.positional.isEmpty then none
  some (.verifyFlows (← s.required? "config" path?) (← s.required? "metrics" path?)
    (s.value? "expect-loss").isSome (← s.defaulted? "tolerance" float? 2))

/-- The arguments of the subcommand that checks routers. -/
def verifyIsis? (words : List String) : Option Command := do
  let s ← sort?
    [{ long := "config", short := some 'c' }, { long := "metrics", short := some 'm' },
      { long := "sessions" }, { long := "expected-lsp", repeats := true }] {} words
  if !s.positional.isEmpty then none
  some (.verifyIsis (← s.required? "config" path?) (← s.required? "metrics" path?)
    (← s.defaulted? "sessions" uint64? 1) (s.values "expected-lsp"))

/-- The command of a call. -/
def Command.ofWords? : List String → Option Command
  | "grid" :: words => grid? words
  | "ring" :: words => ring? words
  | "scenario" :: words => scenario? words
  | "validate" :: words => validate? words
  | "verify-flows" :: words => verifyFlows? words
  | "verify-isis" :: words => verifyIsis? words
  | _ => none

end IsisTestbed.CommandLine
