import HakoniwaBridge.Monitor
import HakoniwaBridge.Json

/-!
# The on-demand control handler

`OnDemandControlHandler::handle_request` of `ondemand_control_handler.cpp` and the control
callback of `process_control_plane_once`.

The handler is split where the source goes over from checking a request to serving it:

* `decodeRequest` — all checks of the request, in the order of the source, down to a `Request` or
  the error answer;
* `Bridge.serve` — the calls of the runtime and the answer.

A request whose `runtime_` is null is not modelled: the handler is made with the runtime itself.
-/

namespace HakoniwaBridge

variable {ε : Type}

/-- Source: `ondemand_control_handler.hpp`, the authorizer hook. -/
abbrev Authorizer := Json → Option EndpointRef → Bool

/-- What a well-formed request asks for. -/
inductive Request
  | health
  | listSessions
  | listConnections
  | listPdus (connectionId : String)
  | unsubscribe (sessionId : String)
  | subscribe (spec : MonitorSessionSpec)

/-- The members of an answer followed by the echo of a string `request_id`. -/
def withRequestId (req : Json) (members : List (String × Json)) : Json :=
  match req.getString? "request_id" with
  | some id => .obj (members ++ [("request_id", .str id)])
  | none => .obj members

theorem isObject_withRequestId (req : Json) (members : List (String × Json)) :
    (withRequestId req members).isObject = true := by
  unfold withRequestId
  split <;> rfl

/-- The echo hides no member of the answer. -/
theorem get?_withRequestId (req : Json) (members : List (String × Json)) {name : String}
    (hname : name ≠ "request_id") :
    (withRequestId req members).get? name = (Json.obj members).get? name := by
  unfold withRequestId
  cases req.getString? "request_id" with
  | none => rfl
  | some id =>
    have hecho : (("request_id" : String) == name) = false := by simpa using hname.symm
    simp [Json.get?, List.find?_append, hecho]

/-- **Echo.** An answer without a `request_id` of its own carries that of the request. -/
theorem get?_requestId_withRequestId (req : Json) {members : List (String × Json)}
    (hmembers : ∀ m ∈ members, m.1 ≠ "request_id") :
    (withRequestId req members).get? "request_id" = (req.getString? "request_id").map .str := by
  have hnone : members.find? (fun m => m.1 == "request_id") = none := by
    refine List.find?_eq_none.2 fun m hm => ?_
    simpa using hmembers m hm
  unfold withRequestId
  cases req.getString? "request_id" with
  | none => simp [Json.get?, hnone]
  | some id => simp [Json.get?, List.find?_append, hnone]

/-- Source: `ondemand_control_handler.cpp`, `make_error_`; without a `hako_error` argument the
source passes -1. -/
def makeError (E : Env ε) (req : Json) (code message : String)
    (hakoError : Option HakoPduErrorType) : Json :=
  let members : List (String × Json) :=
    [("type", .str "error"), ("code", .str code), ("message", .str message)]
  let hako : List (String × Json) :=
    match hakoError with
    | some err => if E.errorCode err ≥ 0 then [("hako_error", .int (E.errorCode err))] else []
    | none => []
  match withRequestId req members with
  | .obj all => .obj (all ++ hako)
  | other => other

/-- An error answer is its echoed members, and a code of the endpoint library after them if that
is not negative. -/
theorem makeError_cases (E : Env ε) (req : Json) (code message : String)
    (err : Option HakoPduErrorType) :
    ∃ all, withRequestId req [("type", .str "error"), ("code", .str code),
        ("message", .str message)] = .obj all ∧
      (makeError E req code message err = .obj all ∨
        ∃ n ≥ 0, makeError E req code message err = .obj (all ++ [("hako_error", .int n)])) := by
  obtain ⟨all, hall⟩ : ∃ all, withRequestId req [("type", .str "error"), ("code", .str code),
      ("message", .str message)] = .obj all := by
    unfold withRequestId
    split <;> exact ⟨_, rfl⟩
  refine ⟨all, hall, ?_⟩
  simp only [makeError, hall]
  cases err with
  | none => exact Or.inl (by rw [List.append_nil])
  | some err =>
    by_cases hpos : E.errorCode err ≥ 0
    · exact Or.inr ⟨E.errorCode err, hpos, by simp only [if_pos hpos]⟩
    · exact Or.inl (by simp only [if_neg hpos, List.append_nil])

/-- An error answer echoes too. -/
theorem get?_requestId_makeError (E : Env ε) (req : Json) (code message : String)
    (err : Option HakoPduErrorType) :
    (makeError E req code message err).get? "request_id" =
      (req.getString? "request_id").map .str := by
  obtain ⟨all, hall, heq⟩ := makeError_cases E req code message err
  have hecho : (Json.obj all).get? "request_id" = (req.getString? "request_id").map .str := by
    rw [← hall]
    exact get?_requestId_withRequestId req (by simp)
  rcases heq with heq | ⟨n, -, heq⟩
  · rw [heq, hecho]
  · rw [heq, Json.get?_append, hecho, if_neg (by decide), Option.or_none]

/-- Source: `ondemand_control_handler.cpp`, `to_state_string_`. -/
def toStateString : MonitorSessionState → String
  | .created => "Created"
  | .active => "Active"
  | .draining => "Draining"
  | .closed => "Closed"

/-- Source: `handle_request`, the decoding of the `policy` member of a subscription. -/
def decodePolicy (req : Json) : MonitorPolicy :=
  match req.get? "policy" with
  | some (.obj members) =>
    let p := Json.obj members
    { type := (p.getString? "type").getD ""
      intervalMs :=
        match (p.get? "interval_ms").bind Json.integer? with
        | some n => Json.getInt n
        | none => 0 }
  | _ => { type := "", intervalMs := 0 }

/-- Source: `handle_request`, the checks of a subscription. -/
def decodeSubscribe (E : Env ε) (req : Json) (sessionEndpoint : Option EndpointRef) :
    Except Json Request :=
  match req.getString? "connection_id" with
  | none =>
    .error (makeError E req "INVALID_REQUEST" "connection_id is required" (some .invalidArgument))
  | some connectionId =>
    let spec : MonitorSessionSpec :=
      { connectionId := connectionId, filters := [], policy := decodePolicy req
        destinationEndpoint := sessionEndpoint }
    match req.get? "filters" with
    | none => .ok (.subscribe spec)
    | some filters =>
      if filters.isArray = false then
        .error (makeError E req "INVALID_REQUEST" "filters must be an array"
          (some .invalidArgument))
      else if filters.isEmpty = false then
        .error (makeError E req "UNSUPPORTED" "filters are currently not supported"
          (some .unsupported))
      else .ok (.subscribe spec)

/-- Source: `handle_request`, the checks that depend on the type. -/
def decodeByType (E : Env ε) (req : Json) (sessionEndpoint : Option EndpointRef)
    (type : String) : Except Json Request :=
  if type = "health" then .ok .health
  else if type = "list_sessions" ∨ type = "list" then .ok .listSessions
  else if type = "list_connections" then .ok .listConnections
  else if type = "list_pdus" then
    match req.getString? "connection_id" with
    | none =>
      .error (makeError E req "INVALID_REQUEST" "connection_id is required"
        (some .invalidArgument))
    | some connectionId => .ok (.listPdus connectionId)
  else if type = "unsubscribe" then
    match req.getString? "session_id" with
    | none =>
      .error (makeError E req "INVALID_REQUEST" "session_id is required" (some .invalidArgument))
    | some sessionId => .ok (.unsubscribe sessionId)
  else if type = "subscribe" then decodeSubscribe E req sessionEndpoint
  else .error (makeError E req "UNSUPPORTED" "unknown request type" (some .unsupported))

/-- Source: `ondemand_control_handler.cpp`, `OnDemandControlHandler::handle_request`, the checks
of every kind of request. -/
def decodeRequest (E : Env ε) (authorizer : Option Authorizer) (req : Json)
    (sessionEndpoint : Option EndpointRef) : Except Json Request :=
  if req.isObject = false then
    .error (makeError E req "INVALID_REQUEST" "request must be an object" (some .invalidArgument))
  else
    match req.getString? "type" with
    | none => .error (makeError E req "INVALID_REQUEST" "type is required" (some .invalidArgument))
    | some type =>
      if (authorizer.map fun authorize => authorize req sessionEndpoint) = some false then
        .error (makeError E req "PERMISSION_DENIED" "request is not authorized"
          (some .unsupported))
      else decodeByType E req sessionEndpoint type

/-- Source: `handle_request`, one filter of a session row. -/
def filterJson (f : MonitorFilter) : Json :=
  .obj ([("robot", .str f.robot)] ++
    (match f.channelId with | some c => [("channel_id", .int c)] | none => []) ++
    (match f.pduName with | some n => [("pdu_name", .str n)] | none => []))

/-- Source: `handle_request`, one session row. -/
def sessionJson (info : MonitorSessionInfo) : Json :=
  .obj
    [("session_id", .str info.sessionId), ("connection_id", .str info.connectionId),
      ("filters", .arr (info.filters.map filterJson)),
      ("policy", .obj ([("type", Json.str info.policy.type)] ++
        if info.policy.intervalMs > 0 then [("interval_ms", .int info.policy.intervalMs)] else [])),
      ("state", .str (toStateString info.state))]

/-- Source: `handle_request`, one connection row. -/
def connectionJson (conn : ConnectionStateDto) : Json :=
  .obj
    [("connection_id", .str conn.connectionId), ("node_id", .str conn.nodeId),
      ("active", .bool conn.active), ("epoch", .int conn.epoch.toNat),
      ("epoch_validation", .bool conn.epochValidation)]

/-- Source: `handle_request`, one PDU row. -/
def pduJson (pdu : PduStateDto) : Json :=
  .obj ([("connection_id", .str pdu.connectionId), ("robot", .str pdu.robot),
      ("pdu_name", .str pdu.pduName)] ++
    (match pdu.channelId with | some c => [("channel_id", Json.int c)] | none => []))

namespace Bridge

/-- Source: `ondemand_control_handler.cpp`, `OnDemandControlHandler::handle_request`, the calls of
the runtime and the answers. -/
def serve (E : Env ε) (stopAt : Option Nat) (req : Json) (request : Request) (b : Bridge ε) :
    Bridge ε × Json :=
  match request with
  | .health =>
    let (health, env) := b.core.getHealth E b.host.env
    ({ b with host := { b.host with env := env } },
      withRequestId req
        [("type", .str "health"),
          ("health", .obj [("running", .bool health.running),
            ("uptime_usec", .int health.uptimeUsec.toNat),
            ("last_error", .str health.lastError)])])
  | .listSessions =>
    (b, withRequestId req [("type", .str "sessions"),
      ("sessions", .arr (b.runtime.listMonitorInfos.map sessionJson))])
  | .listConnections =>
    (b, withRequestId req [("type", .str "connections"),
      ("connections", .arr (b.core.listConnections.map connectionJson))])
  | .listPdus connectionId =>
    match b.core.listPdus E connectionId with
    | none => (b, makeError E req "NOT_FOUND" "connection not found" (some .noEntry))
    | some pdus =>
      (b, withRequestId req [("type", .str "pdus"), ("connection_id", .str connectionId),
        ("pdus", .arr (pdus.map pduJson))])
  | .unsubscribe sessionId =>
    match b.detachMonitor sessionId with
    | (b', true) => (b', withRequestId req [("type", .str "ok")])
    | (b', false) => (b', makeError E req "INTERNAL_ERROR" "failed to detach monitor" none)
  | .subscribe spec =>
    match b.attachMonitor E stopAt spec with
    | (b', none) =>
      (b', makeError E req "INVALID_REQUEST" "failed to attach monitor" (some .invalidConfig))
    | (b', some sessionId) =>
      (b', withRequestId req [("type", .str "subscribed"), ("session_id", .str sessionId)])

/-- Source: `ondemand_control_handler.cpp`, `OnDemandControlHandler::handle_request`. -/
def handleRequest (E : Env ε) (authorizer : Option Authorizer) (stopAt : Option Nat) (req : Json)
    (sessionEndpoint : Option EndpointRef) (b : Bridge ε) : Bridge ε × Json :=
  match decodeRequest E authorizer req sessionEndpoint with
  | .error res => (b, res)
  | .ok request => serve E stopAt req request b

/-- Source: `process_control_plane_once`, the control callback, from the answer to the tables. -/
def recordAnswer (name : String) (req res : Json) (b : Bridge ε) : Bridge ε :=
  match res.getString? "type" with
  | some "subscribed" =>
    match res.getString? "session_id" with
    | some sessionId => { b with runtime := b.runtime.recordSession name sessionId }
    | none => b
  | some "ok" =>
    match req.getString? "type", req.getString? "session_id" with
    | some "unsubscribe", some sessionId =>
      { b with runtime := b.runtime.forgetSession name sessionId }
    | _, _ => b
  | _ => b

/-- Source: `process_control_plane_once`, the control callback, the answer to a message that does
not parse. -/
def parseFailedAnswer (E : Env ε) : Json :=
  .obj [("type", .str "error"), ("code", .str "INVALID_REQUEST"),
    ("message", .str "request JSON parse failed"),
    ("hako_error", .int (E.errorCode .invalidJson))]

/-- Source: `process_control_plane_once`, the control callback of the session endpoint `name`,
for a message that parses to `message`; yields the answer that is sent back. The callback does
nothing once the endpoint is released or the handler is gone. -/
def controlMessage (E : Env ε) (stopAt : Option Nat) (name : String) (message : Option Json)
    (b : Bridge ε) : Bridge ε × Option Json :=
  if name ∉ b.runtime.ondemandSessions ∨ b.runtime.controlHandler = false then (b, none)
  else
    match message with
    | none => (b, some (parseFailedAnswer E))
    | some req =>
      let (b', res) := b.handleRequest E none stopAt req (some (.session name))
      (b'.recordAnswer name req res, some res)

end Bridge

end HakoniwaBridge
