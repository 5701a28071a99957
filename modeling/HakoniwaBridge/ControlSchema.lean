import HakoniwaBridge.ControlHandler
import HakoniwaBridge.JsonSchema

/-!
# The schemas of the control plane

`ondemand-control-request-schema.json` and `ondemand-control-response-schema.json`, keyword by
keyword, and what the handler makes of the rows of its answers.

* `ControlRequest.schema`, `ControlResponse.schema` — the two documents; `integral` reads a number
  with a zero fraction (see `JsonSchema`).
* `schema_connectionJson`, `schema_sessionJson`, `schema_pduJson`, … — a row conforms if the record
  behind it is well-formed.
-/

namespace HakoniwaBridge

open Schema

variable {ε : Type} (integral : String → Option Int)

/-! ## Requests -/

namespace ControlRequest

/-- Source: `ondemand-control-request-schema.json`, `$defs/policy`. -/
def policy : Schema :=
  allOf
    [record ["type"]
      [("type", allOf [string, enum ["immediate", "throttle", "ticker"]]),
        ("interval_ms", integerFrom integral 1)],
      ifThen (properties [("type", enum ["throttle", "ticker"])]) (required ["interval_ms"]),
      ifThen (properties [("type", const "immediate")]) (not (required ["interval_ms"]))]

/-- Source: `ondemand-control-request-schema.json`, `properties`. -/
def props : List (String × Schema) :=
  [("type", allOf [string, enum ["subscribe", "unsubscribe", "list_sessions", "list_connections",
      "list_pdus", "health", "list"]]),
    ("request_id", nonempty),
    ("connection_id", nonempty),
    ("filters", allOf [Json.isArray, maxItems 0]),
    ("policy", policy integral),
    ("session_id", nonempty)]

/-- Source: `ondemand-control-request-schema.json`. -/
def schema : Schema :=
  allOf
    [record ["type"] (props integral),
      ifThen (properties [("type", const "subscribe")]) (required ["connection_id"]),
      ifThen (properties [("type", const "unsubscribe")]) (required ["session_id"]),
      ifThen (properties [("type", const "list_pdus")]) (required ["connection_id"]),
      ifThen (properties [("type", enum ["list_sessions", "list_connections", "health", "list"])])
        (not (anyOf [required ["connection_id"], required ["filters"], required ["policy"],
          required ["session_id"]]))]

end ControlRequest

/-! ## Answers -/

namespace ControlResponse

/-- Source: `ondemand-control-response-schema.json`, `$defs/filter`. -/
def filter : Schema :=
  allOf
    [record ["robot"]
      [("robot", nonempty), ("channel_id", integerFrom integral 0), ("pdu_name", nonempty)],
      anyOf [required ["channel_id"], required ["pdu_name"]]]

/-- Source: `ondemand-control-response-schema.json`, `$defs/policy`. -/
def policy : Schema :=
  record ["type"]
    [("type", allOf [string, enum ["immediate", "throttle", "ticker"]]),
      ("interval_ms", integerFrom integral 1)]

/-- Source: `ondemand-control-response-schema.json`, `$defs/session`. -/
def session : Schema :=
  record ["session_id", "connection_id", "filters", "policy", "state"]
    [("session_id", nonempty),
      ("connection_id", nonempty),
      ("filters", allOf [Json.isArray, minItems 1, items (filter integral)]),
      ("policy", policy integral),
      ("state", allOf [string, enum ["Created", "Active", "Draining", "Closed"]])]

/-- Source: `ondemand-control-response-schema.json`, `$defs/connection`. -/
def connection : Schema :=
  record ["connection_id", "node_id", "active", "epoch", "epoch_validation"]
    [("connection_id", nonempty), ("node_id", nonempty), ("active", boolean),
      ("epoch", integerFrom integral 0), ("epoch_validation", boolean)]

/-- Source: `ondemand-control-response-schema.json`, `$defs/pdu`. -/
def pdu : Schema :=
  record ["connection_id", "robot", "pdu_name"]
    [("connection_id", nonempty), ("robot", nonempty), ("pdu_name", nonempty),
      ("channel_id", integerFrom integral 0)]

/-- Source: `ondemand-control-response-schema.json`, `$defs/health`. -/
def health : Schema :=
  record ["running", "uptime_usec", "last_error"]
    [("running", boolean), ("uptime_usec", integerFrom integral 0), ("last_error", string)]

/-- Source: `ondemand-control-response-schema.json`, the error codes. -/
def codes : List String :=
  ["INVALID_REQUEST", "NOT_FOUND", "BUSY", "UNSUPPORTED", "PERMISSION_DENIED", "INTERNAL_ERROR"]

/-- Source: `ondemand-control-response-schema.json`, the types. -/
def types : List String :=
  ["ok", "error", "subscribed", "sessions", "connections", "pdus", "health"]

/-- Source: `ondemand-control-response-schema.json`, `properties`. -/
def props : List (String × Schema) :=
  [("type", allOf [string, enum types]),
    ("request_id", nonempty),
    ("message", string),
    ("code", allOf [string, enum codes]),
    ("hako_error", integerFrom integral 0),
    ("session_id", nonempty),
    ("sessions", allOf [Json.isArray, items (session integral)]),
    ("connections", allOf [Json.isArray, items (connection integral)]),
    ("connection_id", nonempty),
    ("pdus", allOf [Json.isArray, items (pdu integral)]),
    ("health", health integral)]

/-- Source: `ondemand-control-response-schema.json`, `allOf`: what the members of each type are. -/
def cases : List (String × List String) :=
  [("error", ["code", "message"]), ("subscribed", ["session_id"]), ("sessions", ["sessions"]),
    ("connections", ["connections"]), ("pdus", ["connection_id", "pdus"]), ("health", ["health"])]

/-- Source: `ondemand-control-response-schema.json`. -/
def schema : Schema :=
  allOf
    [record ["type"] (props integral),
      allOf (cases.map fun c => ifThen (properties [("type", const c.1)]) (required c.2))]

variable {integral}

/-! ### Rows -/

/-- A list of records of which each is encoded as the schema wants it. -/
theorem items_map {α : Type} {schema : Schema} {encode : α → Json} {xs : List α}
    (h : ∀ x ∈ xs, schema (encode x) = true) : items schema (.arr (xs.map encode)) = true := by
  simpa [items] using h

/-- The row of a connection conforms. -/
theorem schema_connectionJson {conn : ConnectionStateDto} (hid : conn.connectionId ≠ "")
    (hnode : conn.nodeId ≠ "") : connection integral (connectionJson conn) = true := by
  refine record_iff.2 ⟨by simp, by simp [Json.get?], ?_⟩
  simp [Json.get?, nonempty_iff, boolean, integerFrom, hid, hnode]

/-- The row of a PDU conforms. -/
theorem schema_pduJson {dto : PduStateDto} (hid : dto.connectionId ≠ "") (hrobot : dto.robot ≠ "")
    (hname : dto.pduName ≠ "") (hchannel : ∀ c ∈ dto.channelId, 0 ≤ c) :
    pdu integral (pduJson dto) = true := by
  obtain ⟨connectionId, robot, pduName, channelId⟩ := dto
  have hrow : pdu integral (.obj [("connection_id", .str connectionId), ("robot", .str robot),
      ("pdu_name", .str pduName)]) = true := by
    refine record_iff.2 ⟨by simp, by simp [Json.get?], ?_⟩
    simp_all [Json.get?, nonempty_iff]
  cases channelId with
  | none => exact hrow
  | some c =>
    apply record_append hrow (by simp)
    simpa [integerFrom] using hchannel c rfl

/-- A filter as a session row wants it. -/
structure WellFormedFilter (f : MonitorFilter) : Prop where
  robot : f.robot ≠ ""
  channelId : ∀ c ∈ f.channelId, 0 ≤ c
  pduName : ∃ name, f.pduName = some name ∧ name ≠ ""

/-- A filter conforms. -/
theorem schema_filterJson {f : MonitorFilter} (h : WellFormedFilter f) :
    filter integral (filterJson f) = true := by
  obtain ⟨robot, channelId, pduName⟩ := f
  obtain ⟨hrobot, hchannel, name, rfl, hname⟩ := h
  have hrobot' : robot ≠ "" := hrobot
  have hrecord : record ["robot"] [("robot", nonempty), ("channel_id", integerFrom integral 0),
      ("pdu_name", nonempty)] (filterJson ⟨robot, channelId, some name⟩) = true := by
    cases channelId with
    | none =>
      refine record_iff.2 ⟨by simp, by simp [Json.get?], ?_⟩
      simp [Json.get?, nonempty_iff, hrobot', hname]
    | some c =>
      refine record_iff.2 ⟨by simp, by simp [Json.get?], ?_⟩
      simpa [Json.get?, nonempty_iff, integerFrom, hrobot', hname] using hchannel c rfl
  have hnamed : anyOf [required ["channel_id"], required ["pdu_name"]]
      (filterJson ⟨robot, channelId, some name⟩) = true := by
    cases channelId <;> simp [anyOf, required, filterJson, Json.get?]
  simp [filter, hrecord, hnamed]

/-- A session as its row wants it. -/
structure WellFormedInfo (info : MonitorSessionInfo) : Prop where
  sessionId : info.sessionId ≠ ""
  connectionId : info.connectionId ≠ ""
  filters : info.filters ≠ []
  wellFormed : ∀ f ∈ info.filters, WellFormedFilter f
  policy : info.policy.type ∈ ["immediate", "throttle", "ticker"]

/-- The policy of a session conforms. -/
theorem schema_policyJson {policy : MonitorPolicy}
    (h : policy.type ∈ ["immediate", "throttle", "ticker"]) :
    ControlResponse.policy integral (.obj ([("type", Json.str policy.type)] ++
      if policy.intervalMs > 0 then [("interval_ms", .int policy.intervalMs)] else [])) = true := by
  have htype : ControlResponse.policy integral (.obj [("type", .str policy.type)]) = true := by
    refine record_iff.2 ⟨by simp, by simp [Json.get?], ?_⟩
    simpa [Json.get?, string, enum] using h
  by_cases hinterval : policy.intervalMs > 0
  · rw [if_pos hinterval]
    apply record_append htype (by simp)
    simp only [List.mem_cons, Prod.mk.injEq, List.not_mem_nil, or_false]
    rintro schema (⟨heq, -⟩ | ⟨-, rfl⟩)
    · exact absurd heq (by decide)
    · have hleast : 1 ≤ policy.intervalMs := by omega
      simpa [integerFrom] using hleast
  · rw [if_neg hinterval, List.append_nil]
    exact htype

/-- The row of a session conforms. -/
theorem schema_sessionJson {info : MonitorSessionInfo} (h : WellFormedInfo info) :
    session integral (sessionJson info) = true := by
  have hfilters : items (filter integral) (.arr (info.filters.map filterJson)) = true :=
    items_map fun f hf => schema_filterJson (h.wellFormed f hf)
  have hlen : 1 ≤ info.filters.length := List.length_pos_iff.2 h.filters
  have hpolicy : ControlResponse.policy integral _ = true := schema_policyJson h.policy
  have hstate : toStateString info.state ∈ ["Created", "Active", "Draining", "Closed"] := by
    cases info.state <;> decide
  refine record_iff.2 ⟨by simp, by simp [Json.get?], ?_⟩
  simp only [List.mem_cons, List.not_mem_nil, or_false]
  rintro p (rfl | rfl | rfl | rfl | rfl) v hv <;> obtain rfl := Option.some.inj hv
  · exact nonempty_iff.2 ⟨_, rfl, h.sessionId⟩
  · exact nonempty_iff.2 ⟨_, rfl, h.connectionId⟩
  · simp [Json.isArray, minItems, hlen, hfilters]
  · exact hpolicy
  · simpa [string, enum] using hstate

/-! ### Whole answers -/

/-- An object that has the members of its type. -/
theorem schema_iff {members : List (String × Json)} :
    schema integral (.obj members) = true ↔
      record ["type"] (props integral) (.obj members) = true ∧
      ∀ c ∈ cases, (∀ v, (Json.obj members).get? "type" = some v → const c.1 v = true) →
        required c.2 (.obj members) = true := by
  simp only [schema, allOf_cons, allOf_nil, Bool.and_true, Bool.and_eq_true, and_congr_right_iff]
  intro _
  simp only [allOf, List.all_map, List.all_eq_true, Function.comp_apply, ifThen, Bool.or_eq_true,
    Bool.not_eq_true', ← Bool.not_eq_true, properties_iff, List.mem_singleton, forall_eq,
    ← imp_iff_not_or]

/-- One more member that is accepted for itself. -/
theorem schema_append {members : List (String × Json)}
    (h : schema integral (.obj members) = true) {name : String} {v : Json}
    (hname : name ∈ (props integral).map Prod.fst)
    (hv : ∀ schema, (name, schema) ∈ props integral → schema v = true) :
    schema integral (.obj (members ++ [(name, v)])) = true := by
  obtain ⟨hrecord, hcases⟩ := schema_iff.1 h
  refine schema_iff.2 ⟨record_append hrecord hname hv, fun c hc hconst => ?_⟩
  refine required_append (hcases c hc fun w hw => hconst w ?_) name v
  exact Json.get?_append_of_some hw name v

/-- An answer whose members are accepted each for itself, among them those that its type asks
for. -/
theorem schema_answer {type : String} {members : List (String × Json)} (htype : type ∈ types)
    (hmembers : ∀ m ∈ members, m.1 ∈ (props integral).map Prod.fst ∧
      ∀ schema, (m.1, schema) ∈ props integral → schema m.2 = true)
    (hcases : ∀ c ∈ cases, c.1 = type → ∀ name ∈ c.2, name ∈ members.map Prod.fst) :
    schema integral (.obj (("type", .str type) :: members)) = true := by
  have haccepted : ∀ m ∈ ("type", Json.str type) :: members,
      m.1 ∈ (props integral).map Prod.fst ∧
        ∀ schema, (m.1, schema) ∈ props integral → schema m.2 = true := by
    intro m hm
    rcases List.mem_cons.1 hm with rfl | hm
    · simp [props, string, enum, htype]
    · exact hmembers m hm
  refine schema_iff.2 ⟨record_iff.2 ⟨fun m hm => (haccepted m hm).1, fun name hname => ?_,
    fun p hp v hv => (haccepted (p.1, v) (Json.mem_of_get? hv)).2 p.2 hp⟩, fun c hc hconst => ?_⟩
  · rw [List.mem_singleton.1 hname]
    rfl
  · have heq : c.1 = type := by
      have hc' := hconst (.str type) rfl
      simp only [const, enum, List.mem_singleton, decide_eq_true_eq] at hc'
      exact hc'.symm
    refine required_iff.2 fun name hname => Json.isSome_get? ?_
    exact List.mem_cons_of_mem _ (hcases c hc heq name hname)

/-- The echo of a request id that is not empty. -/
theorem schema_withRequestId {req : Json}
    (hid : ∀ id, req.getString? "request_id" = some id → id ≠ "")
    {members : List (String × Json)} (h : schema integral (.obj members) = true) :
    schema integral (withRequestId req members) = true := by
  unfold withRequestId
  cases hreq : req.getString? "request_id" with
  | none => exact h
  | some id =>
    apply schema_append h (by simp [props])
    simp [props, nonempty_iff, hid id hreq]

/-- An error conforms. -/
theorem schema_makeError (E : Env ε) {req : Json}
    (hid : ∀ id, req.getString? "request_id" = some id → id ≠ "") {code : String}
    (hcode : code ∈ codes) (message : String) (err : Option HakoPduErrorType) :
    schema integral (makeError E req code message err) = true := by
  have hbase : schema integral
      (.obj [("type", .str "error"), ("code", .str code), ("message", .str message)]) = true := by
    refine schema_answer (by decide) ?_ (by simp [cases])
    simp [props, string, enum, hcode]
  have hecho := schema_withRequestId hid hbase
  obtain ⟨all, hall, heq⟩ := makeError_cases E req code message err
  rw [hall] at hecho
  rcases heq with heq | ⟨n, hn, heq⟩
  · rw [heq]
    exact hecho
  · rw [heq]
    apply schema_append hecho (by simp [props])
    simpa [props, integerFrom] using hn

end ControlResponse

end HakoniwaBridge
