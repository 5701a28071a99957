import HakoniwaBridge.Lib.Machine
import HakoniwaBridge.Policy
import HakoniwaBridge.Connection
import HakoniwaBridge.Core
import HakoniwaBridge.Ownership
import HakoniwaBridge.Builder
import HakoniwaBridge.Json
import HakoniwaBridge.Runtime
import HakoniwaBridge.Monitor
import HakoniwaBridge.ControlHandler
import HakoniwaBridge.System
import HakoniwaBridge.Run
import HakoniwaBridge.AtomicFrame
import HakoniwaBridge.EpochGate
import HakoniwaBridge.NotRunning
import HakoniwaBridge.Pause
import HakoniwaBridge.Lifetime
import HakoniwaBridge.Ledger
import HakoniwaBridge.Observer
import HakoniwaBridge.ReadOnly
import HakoniwaBridge.Link
import HakoniwaBridge.StaleTraffic
import HakoniwaBridge.FrameDelivery
import HakoniwaBridge.ControlPlane
import HakoniwaBridge.Accounted
import HakoniwaBridge.Disconnect
import HakoniwaBridge.Statics
import HakoniwaBridge.MonitorCli
import HakoniwaBridge.ClientViews
import HakoniwaBridge.ControlSchema
import HakoniwaBridge.Plan
import HakoniwaBridge.Independence
import HakoniwaBridge.Conformance
import HakoniwaBridge.SubscribeGrammar
import HakoniwaBridge.FailedBuild
import HakoniwaBridge.References
import HakoniwaBridge.FanOut
import HakoniwaBridge.Cascade
import HakoniwaBridge.CascadeEnds
import HakoniwaBridge.MonitorClient
import HakoniwaBridge.AttachSteps
import HakoniwaBridge.NothingLeft
import HakoniwaBridge.BridgeJson
import HakoniwaBridge.BridgeSchema
import HakoniwaBridge.Expressible
import HakoniwaBridge.Gate
import HakoniwaBridge.Payload
import HakoniwaBridge.Readiness
import HakoniwaBridge.Throttle
import HakoniwaBridge.Ticker
import HakoniwaBridge.Traffic
import HakoniwaBridge.LatestValue
import HakoniwaBridge.GroupOfOne
import HakoniwaBridge.Intervals
import HakoniwaBridge.SubscribedPolicy
import HakoniwaBridge.PduViews
import HakoniwaBridge.SessionPdus
import HakoniwaBridge.PduAgreement
import HakoniwaBridge.Lib.PosixPath
import HakoniwaBridge.WebBridgeArgs
import HakoniwaBridge.ArgGrammar
import HakoniwaBridge.OptionOrder
import HakoniwaBridge.Lib.Offside
import HakoniwaBridge.Lib.NestedMap
import HakoniwaBridge.Lib.NestedSpine
import HakoniwaBridge.Lib.PyString
import HakoniwaBridge.Lib.PyText
import HakoniwaBridge.Lib.JsonString
import HakoniwaBridge.Manifest
import HakoniwaBridge.ManifestNesting
import HakoniwaBridge.ManifestQuotes
import HakoniwaBridge.ManifestDump
import HakoniwaBridge.ManifestRoundTrip
import HakoniwaBridge.ConfigMerge
import HakoniwaBridge.BuildConfig
import HakoniwaBridge.Lib.Simulation
import HakoniwaBridge.Lib.FirstMatch
import HakoniwaBridge.Lib.Cut
import HakoniwaBridge.ConnectionControl
import HakoniwaBridge.LineFilter
import HakoniwaBridge.DaemonBridge
import HakoniwaBridge.Daemon
import HakoniwaBridge.WebDaemon
import HakoniwaBridge.Lib.Script
import HakoniwaBridge.MonitorCommands
import HakoniwaBridge.MonitorProcess
import HakoniwaBridge.MonitorScreen
import HakoniwaBridge.MonitorTail
import HakoniwaBridge.CheckedConfig
import HakoniwaBridge.ConfigCheck
import HakoniwaBridge.Receipt
import HakoniwaBridge.ReceiptReader
import HakoniwaBridge.ReceiptRoundTrip
