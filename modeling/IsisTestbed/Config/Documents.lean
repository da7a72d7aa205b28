import IsisTestbed.Config.Error
import IsisTestbed.Config.Format
import IsisTestbed.Json.Document
import IsisTestbed.Json.Printer
import IsisTestbed.Yaml.Document
import IsisTestbed.Yaml.Printer

/-!
Configurations as JSON and YAML documents.
-/

namespace IsisTestbed.Config

/-- The configuration that a JSON text describes. -/
def ofJson (text : String) : Except ConfigError Config :=
  match (Json.parse? text).bind codec.read with
  | some c => .ok c
  | none => .error .json

/-- The configuration as JSON text on several lines. -/
def toJson (c : Config) : String :=
  Json.pretty (codec.write c)

/-- The configuration that a YAML text describes. -/
def ofYaml (text : String) : Except ConfigError Config :=
  match (Yaml.parse? codec.outline text).bind codec.read with
  | some c => .ok c
  | none => .error .yaml

/-- The configuration as YAML text. -/
def toYaml (c : Config) : String :=
  Yaml.render (codec.write c)

end IsisTestbed.Config
