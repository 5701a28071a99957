import Mathlib.Data.List.AList

/-!
# The data types of the bridge

The record types of `bridge_types.hpp` under their own names, with the key and error types of the
endpoint library that they mention.

* `PduKey` / `PduResolvedKey` — the endpoint's two key forms (`hakoniwa::pdu`), by PDU name and
  by channel; `BridgePduKey` — the configured key `hakoniwa::pdu::bridge::PduKey`.
* `EndpointRef` — what a `shared_ptr<Endpoint>` points to: an endpoint of the container, or the
  endpoint of an accepted control session.
* `BridgeConfig` and its parts — the decoded `bridge.json`.
* the on-demand monitor records (`MonitorSpec`, `MonitorSessionInfo`, the view records).

An `unordered_map` or `map` is an association list without duplicate keys (`AList`), so a map
that holds a key twice cannot be built. Record fields that no modelled function reads
(`nodes`, `wireLinks`, `endpoints_config_path`, `version`) are left out of `BridgeConfig`.
-/

namespace HakoniwaBridge

/-- The raw bytes of a PDU. -/
abbrev Bytes := List UInt8

/-- Source: `hakoniwa::pdu::PduKey` (endpoint library): robot and PDU name. -/
structure PduKey where
  robot : String
  pdu : String
  deriving DecidableEq

/-- Source: `hakoniwa::pdu::PduResolvedKey` (endpoint library): robot and channel. -/
structure PduResolvedKey where
  robot : String
  channelId : Int
  deriving DecidableEq

/-- The endpoint API takes either key form. -/
inductive ApiKey
  | named (key : PduKey)
  | resolved (key : PduResolvedKey)
  deriving DecidableEq

/-- The object behind a `shared_ptr<Endpoint>`: an endpoint of the container (by id) or a control
session endpoint accepted by the multiplexer (by name). -/
inductive EndpointRef
  | container (id : String)
  | session (name : String)
  deriving DecidableEq

/-- The `HakoPduErrorType` codes that the bridge names; `other` stands for the rest. -/
inductive HakoPduErrorType
  | ok
  | invalidArgument
  | invalidConfig
  | invalidJson
  | noEntry
  | unsupported
  | busy
  | other (code : Nat)
  deriving DecidableEq

/-! ## The configuration -/

/-- Source: `bridge_types.hpp`, `TransferPolicy`. -/
structure TransferPolicy where
  type : String
  intervalMs : Option Int
  atomic : Option Bool

/-- Source: `bridge_types.hpp`, `PduKey`. -/
structure BridgePduKey where
  id : String
  robotName : String
  pduName : String
  deriving DecidableEq

/-- The endpoint key of a configured key. -/
def BridgePduKey.endpointKey (k : BridgePduKey) : PduKey := ⟨k.robotName, k.pduName⟩

/-- Source: `bridge_types.hpp`, `TransferPduConfig`. -/
structure TransferPduConfig where
  pduKeyGroupId : String
  policyId : String

/-- Source: `bridge_types.hpp`, `Connection`; `source` and `destinations` hold endpoint ids. -/
structure Connection where
  id : String
  nodeId : String
  source : String
  destinations : List String
  transferPdus : List TransferPduConfig
  epochValidation : Option Bool

/-- Source: `bridge_types.hpp`, `BridgeConfig`, the fields that `build` reads. -/
structure BridgeConfig where
  transferPolicies : AList (fun _ : String => TransferPolicy)
  pduKeyGroups : AList (fun _ : String => List BridgePduKey)
  connections : List Connection

/-! ## On-demand monitor records -/

/-- Source: `bridge_types.hpp`, `MonitorFilter`. -/
structure MonitorFilter where
  robot : String
  channelId : Option Int
  pduName : Option String
  deriving DecidableEq

/-- Source: `bridge_types.hpp`, `MonitorPolicy`; `intervalMs` is an `int`. -/
structure MonitorPolicy where
  type : String
  intervalMs : Int
  deriving DecidableEq

/-- Source: `bridge_types.hpp`, `MonitorSessionSpec`; a null destination is `none`. -/
structure MonitorSessionSpec where
  connectionId : String
  filters : List MonitorFilter
  policy : MonitorPolicy
  destinationEndpoint : Option EndpointRef

/-- Source: `bridge_types.hpp`, `MonitorSessionState`. -/
inductive MonitorSessionState
  | created
  | active
  | draining
  | closed
  deriving DecidableEq

/-- Source: `bridge_types.hpp`, `MonitorSessionInfo`. -/
structure MonitorSessionInfo where
  sessionId : String
  connectionId : String
  filters : List MonitorFilter
  policy : MonitorPolicy
  state : MonitorSessionState
  deriving DecidableEq

/-- Source: `bridge_types.hpp`, `BridgeHealthDto`. -/
structure BridgeHealthDto where
  running : Bool
  uptimeUsec : UInt64
  lastError : String

/-- Source: `bridge_types.hpp`, `ConnectionStateDto`. -/
structure ConnectionStateDto where
  connectionId : String
  nodeId : String
  active : Bool
  epoch : UInt8
  epochValidation : Bool

/-- Source: `bridge_types.hpp`, `PduStateDto`. -/
structure PduStateDto where
  connectionId : String
  robot : String
  pduName : String
  channelId : Option Int

/-- Source: `bridge_monitor_core.hpp`, `ResolvedMonitorSelection`. -/
structure ResolvedMonitorSelection where
  keys : List BridgePduKey
  filters : List MonitorFilter

end HakoniwaBridge
