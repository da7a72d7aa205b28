import IsisTestbed.Data.Codec
import IsisTestbed.Json.Document
import IsisTestbed.Json.Printer

/-!
The metrics that a traffic generator reports: counters of flows, sessions of ISIS routers, and the
LSPs that they have learned.
-/

namespace IsisTestbed.Telemetry

open Layout (required defaulted)

/-- The counters of a flow. -/
structure FlowMetric where
  name : String
  framesTx : UInt64 := 0
  framesRx : UInt64 := 0
  deriving DecidableEq, Repr, Inhabited

/-- The sessions of an ISIS router. -/
structure IsisMetric where
  name : String
  l1Up : UInt64 := 0
  l2Up : UInt64 := 0
  l1Flaps : UInt64 := 0
  l2Flaps : UInt64 := 0
  deriving DecidableEq, Repr, Inhabited

/-- The ids of the LSPs that an ISIS router has learned. -/
structure LspState where
  name : String
  lspIds : List String := []
  deriving DecidableEq, Repr, Inhabited

/-- A report of the traffic generator. -/
structure Metrics where
  flows : List FlowMetric := []
  isis : List IsisMetric := []
  lsps : List LspState := []
  deriving DecidableEq, Repr, Inhabited

/-! ### Written form -/

/-- Counters of flows. -/
def FlowMetric.codec : Codec FlowMetric :=
  .record
    (required "name" .text <| defaulted "frames_tx" [] .uint64 0 <|
      defaulted "frames_rx" [] .uint64 0 .nil)
    (fun m => (m.name, m.framesTx, m.framesRx, ()))
    fun (name, framesTx, framesRx, ()) => { name, framesTx, framesRx }

/-- Sessions of ISIS routers. The counters of flaps have a second name. -/
def IsisMetric.codec : Codec IsisMetric :=
  .record
    (required "name" .text <| defaulted "l1_sessions_up" [] .uint64 0 <|
      defaulted "l2_sessions_up" [] .uint64 0 <|
      defaulted "l1_sessions_flap" ["l1_session_flap"] .uint64 0 <|
      defaulted "l2_sessions_flap" ["l2_session_flap"] .uint64 0 .nil)
    (fun m => (m.name, m.l1Up, m.l2Up, m.l1Flaps, m.l2Flaps, ()))
    fun (name, l1Up, l2Up, l1Flaps, l2Flaps, ()) => { name, l1Up, l2Up, l1Flaps, l2Flaps }

/-- Learned LSPs. -/
def LspState.codec : Codec LspState :=
  .record (required "name" .text <| defaulted "lsp_ids" [] Codec.text.list [] .nil)
    (fun s => (s.name, s.lspIds, ()))
    fun (name, lspIds, ()) => { name, lspIds }

/-- Reports. -/
def Metrics.codec : Codec Metrics :=
  .record
    (defaulted "flow_metrics" [] FlowMetric.codec.list [] <|
      defaulted "isis_metrics" [] IsisMetric.codec.list [] <|
      defaulted "isis_lsps" [] LspState.codec.list [] .nil)
    (fun m => (m.flows, m.isis, m.lsps, ()))
    fun (flows, isis, lsps, ()) => { flows, isis, lsps }

namespace Metrics

/-- The report that a JSON text describes. -/
def ofJson? (text : String) : Option Metrics :=
  (Json.parse? text).bind codec.read

/-- The first counters of a flow. -/
def flow? (m : Metrics) (name : String) : Option FlowMetric :=
  m.flows.find? (·.name == name)

/-- The first sessions of an ISIS router. -/
def isis? (m : Metrics) (name : String) : Option IsisMetric :=
  m.isis.find? (·.name == name)

/-- The first learned LSPs of an ISIS router. -/
def lsps? (m : Metrics) (name : String) : Option LspState :=
  m.lsps.find? (·.name == name)

end Metrics

end IsisTestbed.Telemetry
