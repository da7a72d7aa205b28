import IsisTestbed.Main
import IsisTestbed.Proofs.Text.Digits
import IsisTestbed.Topology.Report
import IsisTestbed.Proofs.Address.RoundTrip
import IsisTestbed.Proofs.Config.Consistency
import IsisTestbed.Proofs.Data.Spelling
import IsisTestbed.Proofs.Json.RoundTrip
import IsisTestbed.Proofs.Data.ReadBack
import IsisTestbed.Proofs.Config.ReadBack
import IsisTestbed.Proofs.Config.JsonRoundTrip
import IsisTestbed.Proofs.Config.Lookup
import IsisTestbed.Proofs.Topology.Addresses
import IsisTestbed.Proofs.Topology.Naming
import IsisTestbed.Proofs.Topology.Linking
import IsisTestbed.Proofs.Topology.Building
import IsisTestbed.Proofs.Config.Growth
import IsisTestbed.Proofs.Topology.LinkConsistency
import IsisTestbed.Proofs.Topology.Freshness
import IsisTestbed.Proofs.Topology.Validity
import IsisTestbed.Proofs.Topology.LinkedDevices
import IsisTestbed.Proofs.Topology.Session
import IsisTestbed.Proofs.Topology.Agreement
import IsisTestbed.Proofs.Topology.Admission
import IsisTestbed.Proofs.Config.Soundness
import IsisTestbed.Proofs.Topology.Placement
import IsisTestbed.Proofs.Topology.Attaching
import IsisTestbed.Proofs.Scenario.Success
import IsisTestbed.Proofs.Scenario.Faults
import IsisTestbed.Proofs.Telemetry.Emulation
import IsisTestbed.Proofs.Scenario.Coherence
import IsisTestbed.Proofs.Topology.LinkNumbers
import IsisTestbed.Proofs.Topology.LinkEnds
import IsisTestbed.Proofs.Topology.AddressPlan
import IsisTestbed.Proofs.Yaml.Scalars
import IsisTestbed.Proofs.Yaml.Scanning
import IsisTestbed.Proofs.Yaml.Characters
import IsisTestbed.Proofs.Yaml.LiteralBlocks
import IsisTestbed.Proofs.Yaml.Lexing
import IsisTestbed.Proofs.Yaml.Tokens
import IsisTestbed.Proofs.Yaml.RoundTrip
import IsisTestbed.Proofs.Config.YamlRoundTrip
import IsisTestbed.Proofs.Store.Writing
import IsisTestbed.Proofs.Store.FreshPaths
import IsisTestbed.Proofs.CommandLine.Emission
import IsisTestbed.Proofs.Config.SimulatedLinks
import IsisTestbed.Proofs.Topology.Commutation
import IsisTestbed.Proofs.Topology.InPlace
import IsisTestbed.Proofs.Topology.Connecting
import IsisTestbed.Proofs.Topology.Reachability
import IsisTestbed.Proofs.Telemetry.EmulatedRouters
import IsisTestbed.Proofs.Telemetry.Verdicts
import IsisTestbed.Proofs.Topology.Graph
import IsisTestbed.Proofs.Address.Networks
import IsisTestbed.Proofs.Topology.V6Networks
import IsisTestbed.Proofs.Config.Duplicates
import IsisTestbed.Proofs.Telemetry.Generation
import IsisTestbed.Proofs.Scenario.RouterIds
import IsisTestbed.Proofs.Topology.Independence
import IsisTestbed.Proofs.Store.Exporting
import IsisTestbed.Proofs.Topology.Indentation
import IsisTestbed.Proofs.Data.Members
import IsisTestbed.Proofs.Data.Rearranging
import IsisTestbed.Proofs.Config.FieldOrder
import IsisTestbed.Proofs.Config.PairUpdate
import IsisTestbed.Proofs.Topology.DerivedNames
import IsisTestbed.Proofs.Topology.DerivedV6
