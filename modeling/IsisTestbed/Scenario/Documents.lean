import IsisTestbed.Scenario.Build
import IsisTestbed.Toml.Document

/-!
Scenario parameters as TOML documents.
-/

namespace IsisTestbed.Scenario.Parameters

/-- The parameters that a TOML text describes. Unknown keys are skipped. -/
def ofToml (text : String) : Except ScenarioError Parameters :=
  match (Toml.parse? text).bind codec.read with
  | some p => .ok p
  | none => .error .toml

end IsisTestbed.Scenario.Parameters
