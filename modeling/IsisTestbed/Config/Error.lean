import IsisTestbed.Config.Violations
import IsisTestbed.Text.PathQuote

/-!
Why an operation on configurations fails.
-/

namespace IsisTestbed

/-- The causes of failure. -/
inductive ConfigError where
  /-- No device has the name. -/
  | deviceNotFound (name : String)
  /-- Both ends of a pair are the same device. -/
  | sameDevice (name : String)
  /-- There is no device at the position. -/
  | noDeviceAt (index : Nat)
  /-- The name of a file does not tell its format. -/
  | unknownFormat (path : String)
  /-- JSON text cannot be read as what it should be. -/
  | json
  /-- YAML text cannot be read as what it should be. -/
  | yaml
  /-- A file cannot be read or written. -/
  | file
  /-- The configuration is inconsistent. -/
  | invalid (violations : List Violation)
  deriving DecidableEq, Repr, Inhabited

/-- The message of a cause; what is wrong inside a text or with a file is not told. -/
def ConfigError.message? : ConfigError → Option String
  | .deviceNotFound name => some ("Device " ++ name ++ " does not exist")
  | .sameDevice name => some ("Cannot borrow device " ++ name ++ " twice")
  | .noDeviceAt _ => none
  | .unknownFormat path =>
    some ("Cannot determine the format of " ++ Text.quotePath path ++
      " (expected .json, .yaml or .yml)")
  | .json => none
  | .yaml => none
  | .file => none
  | .invalid violations =>
    some ("Invalid configuration:\n  " ++ "\n  ".intercalate (violations.map Violation.message))

namespace Config

/-- Succeeds exactly if the configuration is consistent. -/
def validate (c : Config) : Except ConfigError Unit :=
  match c.violations with
  | [] => .ok ()
  | violations => .error (.invalid violations)

end Config

end IsisTestbed
