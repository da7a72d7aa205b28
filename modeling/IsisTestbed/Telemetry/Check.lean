import IsisTestbed.Config.Basic
import IsisTestbed.Decimal.Layout
import IsisTestbed.Telemetry.Metrics

/-!
Checks of reported metrics against a configuration and what is expected of it.
-/

namespace IsisTestbed.Telemetry

/-- The expected outcome of a flow. -/
inductive LossExpectation where
  /-- All packets arrive. -/
  | noLoss
  /-- No packet arrives. -/
  | fullLoss
  deriving DecidableEq, Repr, Inhabited

/-- How far the loss of a flow may be off. -/
structure Tolerance where
  /-- The tolerated deviation in percent. -/
  percent : Float := 2
  /-- The number of lost packets above which there is a warning. -/
  packets : UInt64 := 50
  deriving Repr, Inhabited

/-- A failed check. -/
inductive Finding where
  /-- A flow lost more packets than tolerated. -/
  | excessiveLoss (flow : String) (loss limit : Float)
  /-- A flow that should have been dropped delivered packets. -/
  | unexpectedDelivery (flow : String) (loss limit : Float)
  | missingFlowMetric (flow : String)
  | missingIsisMetric (router : String)
  /-- An ISIS router does not have the expected number of sessions. -/
  | sessionsDown (router : String) (level : Nat) (up expected : UInt64)
  | missingLspState (router : String)
  /-- An ISIS router has not learned an LSP. -/
  | missingLsp (router lsp : String)
  deriving BEq, Repr, Inhabited

/-- The message of a failed check. Losses have two places, limits as many as they need. -/
def Finding.message : Finding → String
  | .excessiveLoss flow loss limit =>
    "Flow " ++ flow ++ " lost " ++ String.ofList (Decimal.fixed 2 loss) ++
      "% of its packets, but at most " ++
      String.ofList (Decimal.text Decimal.plainStyle limit) ++ "% are tolerated"
  | .unexpectedDelivery flow loss limit =>
    "Flow " ++ flow ++ " lost only " ++ String.ofList (Decimal.fixed 2 loss) ++
      "% of its packets, but at least " ++
      String.ofList (Decimal.text Decimal.plainStyle limit) ++ "% are expected"
  | .missingFlowMetric flow => "No metrics reported for flow " ++ flow
  | .missingIsisMetric router => "No metrics reported for ISIS router " ++ router
  | .sessionsDown router level up expected =>
    "ISIS router " ++ router ++ " has " ++ Text.number up.toNat ++ " level " ++
      Text.number level ++ " sessions up, but " ++ Text.number expected.toNat ++ " are expected"
  | .missingLspState router => "No LSP states reported for ISIS router " ++ router
  | .missingLsp router lsp => "ISIS router " ++ router ++ " has not learned LSP " ++ lsp

/-! ### Flows -/

/-- The number of lost packets of a flow. -/
def FlowMetric.lost (m : FlowMetric) : Float :=
  m.framesTx.toFloat - m.framesRx.toFloat

/-- The share of lost packets of a flow that transmitted some, in percent. -/
def FlowMetric.lossPercent (m : FlowMetric) : Float :=
  m.lost * 100 / m.framesTx.toFloat

/-- The loss of a flow in percent, or why it is off. A flow that did not transmit has no loss. -/
def checkFlow (m : FlowMetric) (expected : LossExpectation) (tolerance : Tolerance) :
    Except Finding Float :=
  if m.framesTx = 0 then .ok 0
  else
    let loss := m.lossPercent
    match expected with
    | .noLoss =>
      if tolerance.percent < loss then .error (.excessiveLoss m.name loss tolerance.percent)
      else .ok loss
    | .fullLoss =>
      let limit := 100 - tolerance.percent
      if loss < limit then .error (.unexpectedDelivery m.name loss limit) else .ok loss

/-- What is worth a warning about a flow, whether its check fails or not. -/
def flowWarnings (m : FlowMetric) (expected : LossExpectation) (tolerance : Tolerance) :
    List String :=
  if m.framesTx = 0 then ["Flow " ++ m.name ++ " did not transmit any packet"]
  else if expected = .noLoss ∧ tolerance.packets.toFloat < m.lost then
    ["Packets received not matching packets sent for flow " ++ m.name ++ ". Sent: " ++
      Text.number m.framesTx.toNat ++ ", Received: " ++ Text.number m.framesRx.toNat]
  else []

/-- The failed checks of all flows. -/
def checkFlows (c : Config) (m : Metrics) (expected : LossExpectation) (tolerance : Tolerance) :
    List Finding :=
  c.flows.filterMap fun f =>
    match m.flow? f.name with
    | none => some (.missingFlowMetric f.name)
    | some metric =>
      match checkFlow metric expected tolerance with
      | .ok _ => none
      | .error finding => some finding

/-- The warnings about all flows. -/
def flowsWarnings (c : Config) (m : Metrics) (expected : LossExpectation)
    (tolerance : Tolerance) : List String :=
  c.flows.flatMap fun f =>
    (m.flow? f.name).toList.flatMap fun metric => flowWarnings metric expected tolerance

/-! ### ISIS routers -/

/-- The names of the ISIS routers on emulated devices, in the order of the devices. -/
def emulatedRouters (c : Config) : List String :=
  (c.devices.filter Device.isEmulated).filterMap fun d => d.isis.map (·.name)

/-- The failed checks of the sessions of a router. -/
def sessionFindings (m : Metrics) (expected : UInt64) (router : String) : List Finding :=
  match m.isis? router with
  | none => [.missingIsisMetric router]
  | some metric =>
    [(1, metric.l1Up), (2, metric.l2Up)].filterMap fun (level, up) =>
      if up = expected then none else some (.sessionsDown router level up expected)

/-- The failed checks of the sessions of all emulated routers. -/
def checkSessions (c : Config) (m : Metrics) (expected : UInt64) : List Finding :=
  (emulatedRouters c).flatMap (sessionFindings m expected)

/-- One failed check for each expected LSP that is not among those learned. -/
def checkLspIds (router : String) (expected learned : List String) : List Finding :=
  (expected.filter fun lsp => !learned.contains lsp).map (.missingLsp router)

/-- The failed checks of the LSPs of a router. -/
def lspFindings (m : Metrics) (expected : List String) (router : String) : List Finding :=
  match m.lsps? router with
  | none => [.missingLspState router]
  | some state => checkLspIds router expected state.lspIds

/-- The failed checks of the LSPs of all emulated routers. -/
def checkLsps (c : Config) (m : Metrics) (expected : List String) : List Finding :=
  (emulatedRouters c).flatMap (lspFindings m expected)

end IsisTestbed.Telemetry
