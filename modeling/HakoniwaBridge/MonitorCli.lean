import HakoniwaBridge.Json

/-!
# The decoders of the monitor client

`monitor_cli_utils.cpp`: from an answer of the control plane to the rows that the client shows.

The typed access of `nlohmann::json` (`value` with a default, `get<T>`) throws where a value has
another type; a decoder ends with that exception. `toInt` is `get<int>()` of any number: an
integer of 64 bits keeps its low 32 bits, and what becomes of a number that is kept as a `double`
is the parameter `cast` (the conversion of a `double` to `int`, by the number's text).
-/

namespace HakoniwaBridge

/-- Source: `nlohmann::json::type_error`, by its number: 302 for a value of another type, 306 for
`value` on something that is not an object. -/
inductive JsonException
  | typeError (id : Nat)
  deriving DecidableEq

namespace Json

/-- Source: `get<bool>()`. -/
def toBool : Json → Except JsonException Bool
  | bool b => .ok b
  | _ => .error (.typeError 302)

/-- Source: `get<std::string>()`. -/
def toStr : Json → Except JsonException String
  | str s => .ok s
  | _ => .error (.typeError 302)

/-- Source: `get<int>()` of an integer as written. -/
def narrow (cast : String → Int) (n : Int) : Int :=
  if FitsInt64 n then getInt n else cast (toString n)

/-- Source: `get<int>()`. -/
def toInt (cast : String → Int) : Json → Except JsonException Int
  | int n => .ok (narrow cast n)
  | float text => .ok (cast text)
  | bool b => .ok (if b then 1 else 0)
  | _ => .error (.typeError 302)

/-- Source: `json::value`: the member converted to the type of the default, or the default. -/
def value {α : Type} (get : Json → Except JsonException α) (j : Json) (name : String)
    (default : α) : Except JsonException α :=
  if j.isObject then
    match j.get? name with
    | some v => get v
    | none => .ok default
  else .error (.typeError 306)

/-- A 32-bit integer survives `get<int>()`. -/
theorem getInt_of_bounds {n : Int} (hlow : -2 ^ 31 ≤ n) (hhigh : n < 2 ^ 31) : getInt n = n :=
  Int.bmod_eq_of_le (by omega) (by omega)

/-- An integer of 64 bits is narrowed to its low 32 bits. -/
theorem narrow_of_fits (cast : String → Int) {n : Int} (h : FitsInt64 n) :
    narrow cast n = getInt n :=
  if_pos h

/-- A 32-bit integer is not changed. -/
theorem narrow_of_bounds (cast : String → Int) {n : Int} (hlow : -2 ^ 31 ≤ n) (hhigh : n < 2 ^ 31) :
    narrow cast n = n :=
  (narrow_of_fits cast ⟨by omega, by omega⟩).trans (getInt_of_bounds hlow hhigh)

end Json

/-! ## The views -/

/-- Source: `monitor_cli_utils.hpp`, `HealthView`; `uptime_usec` is an `int64_t`. -/
structure HealthView where
  running : Bool
  uptimeUsec : Int
  lastError : String
  deriving DecidableEq

/-- Source: `monitor_cli_utils.hpp`, `ConnectionView`. -/
structure ConnectionView where
  connectionId : String
  nodeId : String
  active : Bool
  epoch : Int
  epochValidation : Bool
  deriving DecidableEq

/-- Source: `monitor_cli_utils.hpp`, `SessionView`. -/
structure SessionView where
  sessionId : String
  connectionId : String
  policyType : String
  state : String
  deriving DecidableEq

/-- Source: `monitor_cli_utils.hpp`, `PduView`. -/
structure PduView where
  connectionId : String
  robot : String
  pduName : String
  channelId : Int
  deriving DecidableEq

namespace MonitorCli

/-- Source: `monitor_cli_utils.cpp`, `is_error_response`. -/
def isErrorResponse (res : Json) : Bool := decide (res.getString? "type" = some "error")

/-- Source: `monitor_cli_utils.cpp`, `parse_health`. The default of the uptime is an `int`, and so
is what is read. -/
def parseHealth (cast : String → Int) (res : Json) : Except JsonException (Option HealthView) :=
  match res.get? "health" with
  | some (.obj members) => do
    let h := Json.obj members
    let running ← h.value Json.toBool "running" false
    let uptimeUsec ← h.value (Json.toInt cast) "uptime_usec" 0
    let lastError ← h.value Json.toStr "last_error" ""
    return some { running := running, uptimeUsec := uptimeUsec, lastError := lastError }
  | _ => return none

/-- Source: `parse_connections`, the body of the loop. -/
def connectionRow (cast : String → Int) (c : Json) : Except JsonException ConnectionView := do
  let connectionId ← c.value Json.toStr "connection_id" ""
  let nodeId ← c.value Json.toStr "node_id" ""
  let active ← c.value Json.toBool "active" false
  let epoch ← c.value (Json.toInt cast) "epoch" (-1)
  let epochValidation ← c.value Json.toBool "epoch_validation" false
  return { connectionId := connectionId, nodeId := nodeId, active := active, epoch := epoch
           epochValidation := epochValidation }

/-- Source: `monitor_cli_utils.cpp`, `parse_connections`. -/
def parseConnections (cast : String → Int) (res : Json) :
    Except JsonException (Option (List ConnectionView)) :=
  match res.get? "connections" with
  | some (.arr rows) => do return some (← rows.mapM (connectionRow cast))
  | _ => return none

/-- Source: `parse_sessions`, the body of the loop. -/
def sessionRow (s : Json) : Except JsonException SessionView := do
  let sessionId ← s.value Json.toStr "session_id" ""
  let connectionId ← s.value Json.toStr "connection_id" ""
  let policyType ←
    match s.get? "policy" with
    | some (.obj members) => (Json.obj members).value Json.toStr "type" "N/A"
    | _ => pure "N/A"
  let state ← s.value Json.toStr "state" ""
  return { sessionId := sessionId, connectionId := connectionId, policyType := policyType
           state := state }

/-- Source: `monitor_cli_utils.cpp`, `parse_sessions`. -/
def parseSessions (res : Json) : Except JsonException (Option (List SessionView)) :=
  match res.get? "sessions" with
  | some (.arr rows) => do return some (← rows.mapM sessionRow)
  | _ => return none

/-- Source: `parse_pdus`, the body of the loop. -/
def pduRow (cast : String → Int) (connectionId : String) (p : Json) :
    Except JsonException PduView := do
  let robot ← p.value Json.toStr "robot" ""
  let pduName ← p.value Json.toStr "pdu_name" ""
  let channelId ← p.value (Json.toInt cast) "channel_id" (-1)
  return { connectionId := connectionId, robot := robot, pduName := pduName
           channelId := channelId }

/-- Source: `monitor_cli_utils.cpp`, `parse_pdus`. -/
def parsePdus (cast : String → Int) (res : Json) : Except JsonException (Option (List PduView)) :=
  match res.get? "connection_id", res.get? "pdus" with
  | some _, some (.arr rows) => do
    let connectionId ← res.value Json.toStr "connection_id" ""
    return some (← rows.mapM (pduRow cast connectionId))
  | _, _ => return none

end MonitorCli

end HakoniwaBridge
