import HakoniwaBridge.MonitorCli
import HakoniwaBridge.Statics

/-!
# What the monitor client makes of the answers

The decoders of the client over the answers of the control handler.

* `health_iff` — the health of a running bridge arrives as it is iff the bridge did not start at
  time 0 and less than `2 ^ 31` µs have passed since.
* `lists_decoded` — the three lists arrive row by row, and a list of PDUs of an unknown
  connection arrives as an error.
-/

namespace HakoniwaBridge

open Lib

variable {ε : Type} {E : Env ε}

/-! ## Requests without a body -/

namespace Bridge

variable {authorizer : Option Authorizer} {req : Json} {ep : Option EndpointRef}

theorem handleRequest_health (stopAt : Option Nat)
    (hauth : (authorizer.map fun authorize => authorize req ep) ≠ some false)
    (htype : req.getString? "type" = some "health") (b : Bridge ε) :
    b.handleRequest E authorizer stopAt req ep = b.serve E stopAt req .health := by
  unfold handleRequest
  rw [decodeRequest_of_type E hauth htype]
  rfl

theorem handleRequest_listConnections (stopAt : Option Nat)
    (hauth : (authorizer.map fun authorize => authorize req ep) ≠ some false)
    (htype : req.getString? "type" = some "list_connections") (b : Bridge ε) :
    b.handleRequest E authorizer stopAt req ep = b.serve E stopAt req .listConnections := by
  unfold handleRequest
  rw [decodeRequest_of_type E hauth htype]
  rfl

theorem handleRequest_listSessions (stopAt : Option Nat)
    (hauth : (authorizer.map fun authorize => authorize req ep) ≠ some false) {type : String}
    (htype : req.getString? "type" = some type) (hlist : type = "list_sessions" ∨ type = "list")
    (b : Bridge ε) :
    b.handleRequest E authorizer stopAt req ep = b.serve E stopAt req .listSessions := by
  unfold handleRequest
  rw [decodeRequest_of_type E hauth htype]
  rcases hlist with rfl | rfl <;> rfl

theorem handleRequest_listPdus (stopAt : Option Nat)
    (hauth : (authorizer.map fun authorize => authorize req ep) ≠ some false)
    {connectionId : String} (htype : req.getString? "type" = some "list_pdus")
    (hid : req.getString? "connection_id" = some connectionId) (b : Bridge ε) :
    b.handleRequest E authorizer stopAt req ep = b.serve E stopAt req (.listPdus connectionId) := by
  have hdecode : decodeByType E req ep "list_pdus" = .ok (.listPdus connectionId) := by
    simp [decodeByType, hid]
  unfold handleRequest
  rw [decodeRequest_of_type E hauth htype, hdecode]

end Bridge

/-! ## Health -/

namespace MonitorCli

/-- What the client reads from a health answer, whose uptime is a `uint64_t`. -/
theorem parseHealth_answer (cast : String → Int) (req : Json) (running : Bool) (uptime : UInt64)
    (lastError : String) :
    parseHealth cast (withRequestId req [("type", .str "health"),
      ("health", .obj [("running", .bool running), ("uptime_usec", .int uptime.toNat),
        ("last_error", .str lastError)])]) =
      .ok (some ⟨running, Json.getInt uptime.toNat, lastError⟩) := by
  have hfits : Json.FitsInt64 (uptime.toNat : Int) := by
    have := uptime.toNat_lt
    exact ⟨by omega, by omega⟩
  unfold parseHealth
  rw [get?_withRequestId req _ (by decide), ← Json.narrow_of_fits cast hfits]
  rfl

end MonitorCli

namespace Bridge

/-- A start that takes effect notes the time. -/
theorem started {b : Bridge ε} (hstopped : b.core.isRunning = false) :
    (b.step E .start).1.core.startedTimeUsec = (E.getMicroseconds b.host.env).2 ∧
      (b.step E .start).1.core.isRunning = true := by
  have hcore : (b.step E .start).1.core = (b.core.start E b.host.env).1 := rfl
  rw [hcore]
  unfold BridgeCore.start
  rw [if_neg (by simp [hstopped])]
  exact ⟨rfl, rfl⟩

/-- As long as a bridge runs, further starts change nothing. -/
theorem startedTimeUsec_run {b : Bridge ε} (hrun : b.core.isRunning = true) {ops : List (Op ε)}
    (hops : Along (step E) (fun b op => (b.step E op).1.core.isRunning = true) b ops) :
    (run (step E) b ops).1.core.isRunning = true ∧
      (run (step E) b ops).1.core.startedTimeUsec = b.core.startedTimeUsec := by
  refine run_invariant (P := fun b' : Bridge ε => b'.core.isRunning = true ∧
    b'.core.startedTimeUsec = b.core.startedTimeUsec) (fun b' op h hkeeps => ?_) ⟨hrun, rfl⟩ hops
  exact ⟨hkeeps, (sameStart_step E b' op fun _ => h.1).startedTimeUsec.trans h.2⟩

/-- The uptime that a client of a running bridge reads. -/
theorem parseHealth_handleRequest (E : Env ε) (cast : String → Int) {b : Bridge ε}
    (hrun : b.core.isRunning = true) {s t : UInt64} (hs : b.core.startedTimeUsec = s)
    (ht : (E.getMicroseconds b.host.env).2 = t) (hle : s ≤ t) (stopAt : Option Nat)
    {authorizer : Option Authorizer} {req : Json} {ep : Option EndpointRef}
    (hauth : (authorizer.map fun authorize => authorize req ep) ≠ some false)
    (htype : req.getString? "type" = some "health") :
    MonitorCli.parseHealth cast (b.handleRequest E authorizer stopAt req ep).2 =
      .ok (some ⟨true, Json.getInt (if s > 0 then t.toNat - s.toNat else 0 : Nat),
        b.core.lastError⟩) := by
  rw [handleRequest_health stopAt hauth htype]
  simp only [serve, BridgeCore.getHealth]
  rw [MonitorCli.parseHealth_answer, hrun, hs, ht]
  have huptime : (if s > 0 ∧ t ≥ s then t - s else 0).toNat =
      if s > 0 then t.toNat - s.toNat else 0 := by
    by_cases hzero : s > 0
    · rw [if_pos ⟨hzero, hle⟩, if_pos hzero, UInt64.toNat_sub_of_le _ _ hle]
    · rw [if_neg fun h => hzero h.1, if_neg hzero]
      rfl
  rw [huptime]

/-- **Health, end to end.** A bridge is started at time `s` and runs since, whatever happens to it
(further starts among it); at time `t` a client asks for its health. The client reads the true
uptime iff the start time was not 0 (unless no time has passed) and the uptime fits an `int`. -/
theorem health_iff (E : Env ε) (cast : String → Int) {b : Bridge ε}
    (hstopped : b.core.isRunning = false) {ops : List (Op ε)}
    (hops : Along (step E) (fun b op => (b.step E op).1.core.isRunning = true)
      (b.step E .start).1 ops)
    {s t : UInt64} (hs : (E.getMicroseconds b.host.env).2 = s)
    (ht : (E.getMicroseconds (run (step E) (b.step E .start).1 ops).1.host.env).2 = t)
    (hle : s ≤ t) (stopAt : Option Nat)
    {authorizer : Option Authorizer} {req : Json} {ep : Option EndpointRef}
    (hauth : (authorizer.map fun authorize => authorize req ep) ≠ some false)
    (htype : req.getString? "type" = some "health") :
    MonitorCli.parseHealth cast
        ((run (step E) (b.step E .start).1 ops).1.handleRequest E authorizer stopAt req ep).2 =
      .ok (some { running := true, uptimeUsec := t.toNat - s.toNat
                  lastError := (run (step E) (b.step E .start).1 ops).1.core.lastError }) ↔
      (s = 0 → t = 0) ∧ t.toNat - s.toNat < 2 ^ 31 := by
  obtain ⟨hstarted, hrunning⟩ := started (E := E) hstopped
  obtain ⟨hrun, hstart⟩ := startedTimeUsec_run hrunning hops
  rw [hstarted, hs] at hstart
  generalize (run (step E) (b.step E .start).1 ops).1 = b' at hrun hstart ht ⊢
  have hle' : s.toNat ≤ t.toNat := UInt64.le_iff_toNat_le.1 hle
  rw [parseHealth_handleRequest E cast hrun hstart ht hle stopAt hauth htype]
  simp only [Except.ok.injEq, Option.some.injEq, HealthView.mk.injEq, true_and, and_true]
  -- the uptime the server computes, and what is left of it after `get<int>()`
  have hzero : (0 : UInt64).toNat = 0 := rfl
  have hnone : Json.getInt ((0 : Nat) : Int) = 0 := Json.getInt_of_bounds (by decide) (by decide)
  by_cases hs0 : s = 0
  · have ht0 : t = 0 ↔ t.toNat = 0 := by rw [← UInt64.toNat_inj, hzero]
    rw [if_neg (by simp [hs0]), hnone, hs0, hzero, ht0]
    constructor
    · intro h
      exact ⟨fun _ => by omega, by omega⟩
    · rintro ⟨h, -⟩
      rw [h rfl]
      rfl
  · rw [if_pos (UInt64.pos_iff_ne_zero.2 hs0)]
    constructor
    · intro h
      have hhigh := @Int.bmod_lt ((t.toNat - s.toNat : Nat) : Int) (2 ^ 32) (by decide)
      unfold Json.getInt at h
      exact ⟨fun h0 => absurd h0 hs0, by omega⟩
    · rintro ⟨-, h⟩
      rw [Json.getInt_of_bounds (by omega) (by omega)]
      omega

/-- A start at 5 µs, a second start, and a query at 12 µs. -/
theorem health_small :
    let E := (CacheSpec.small .latest).env none
    let b := (run (step E) ((bootSmall .latest ⟨"immediate", none, none⟩ [⟨"k", "r", "pos"⟩]
      false).get rfl) [.environment fun e => { e with clock := 5 }]).1
    let ops : List (Op CacheState) := [.start, .environment fun e => { e with clock := 12 }]
    MonitorCli.parseHealth (fun _ => 0) ((run (step E) (b.step E .start).1 ops).1.handleRequest E
        none none (.obj [("type", .str "health")]) none).2 =
      .ok (some { running := true, uptimeUsec := 12 - 5, lastError := "" }) ↔
      ((5 : UInt64) = 0 → (12 : UInt64) = 0) ∧ 12 - 5 < 2 ^ 31 :=
  @health_iff _ ((CacheSpec.small .latest).env none) (fun _ => 0)
    (run (step ((CacheSpec.small .latest).env none)) ((bootSmall .latest ⟨"immediate", none, none⟩
      [⟨"k", "r", "pos"⟩] false).get rfl) [.environment fun e => { e with clock := 5 }]).1 rfl
    [.start, .environment fun e => { e with clock := 12 }] ⟨rfl, rfl, trivial⟩ 5 12 rfl rfl
    (by decide) none none (.obj [("type", .str "health")]) none (by decide) rfl

/-- After `2 ^ 31` µs the client reads a negative uptime. -/
theorem uptime_wraps :
    let E := (CacheSpec.small .latest).env none
    let b := (run (step E) ((bootSmall .latest ⟨"immediate", none, none⟩ [⟨"k", "r", "pos"⟩]
      false).get rfl) [.environment fun e => { e with clock := 5 }]).1
    let ops : List (Op CacheState) := [.environment fun e => { e with clock := 2147483653 }]
    MonitorCli.parseHealth (fun _ => 0) ((run (step E) (b.step E .start).1 ops).1.handleRequest E
        none none (.obj [("type", .str "health")]) none).2 ≠
      .ok (some { running := true, uptimeUsec := 2147483653 - 5, lastError := "" }) := by
  intro E b ops h
  have hread := @parseHealth_handleRequest _ E (fun _ => 0) (run (step E) (b.step E .start).1 ops).1
    rfl 5 2147483653 rfl rfl (by decide) none none (.obj [("type", .str "health")]) none
    (by decide) rfl
  have hint : Json.getInt ((if (5 : UInt64) > 0
      then (2147483653 : UInt64).toNat - (5 : UInt64).toNat else 0 : Nat) : Int) =
        -2147483648 := by decide
  rw [hint, h] at hread
  simp at hread

end Bridge

/-! ## The lists -/

/-- A decoder that succeeds on every row of a list succeeds on the list. -/
theorem mapM_encoded {α β : Type} {encode : α → Json} {decode : Json → Except JsonException β}
    (view : α → β) (xs : List α) (h : ∀ x ∈ xs, decode (encode x) = .ok (view x)) :
    (xs.map encode).mapM decode = .ok (xs.map view) := by
  induction xs with
  | nil => rfl
  | cons x xs ih =>
    rw [List.map_cons, List.mapM_cons, h x List.mem_cons_self,
      ih fun y hy => h y (List.mem_cons_of_mem _ hy)]
    rfl

/-- What the client shows of a connection. -/
def ConnectionStateDto.view (c : ConnectionStateDto) : ConnectionView where
  connectionId := c.connectionId
  nodeId := c.nodeId
  active := c.active
  epoch := c.epoch.toNat
  epochValidation := c.epochValidation

/-- The name of a state, as the client shows it. -/
def MonitorSessionState.name : MonitorSessionState → String
  | .created => "Created"
  | .active => "Active"
  | .draining => "Draining"
  | .closed => "Closed"

/-- What the client shows of a session. -/
def MonitorSessionInfo.view (info : MonitorSessionInfo) : SessionView where
  sessionId := info.sessionId
  connectionId := info.connectionId
  policyType := info.policy.type
  state := info.state.name

/-- What the client shows of a PDU. -/
def PduStateDto.view (pdu : PduStateDto) : PduView where
  connectionId := pdu.connectionId
  robot := pdu.robot
  pduName := pdu.pduName
  channelId := pdu.channelId.getD (-1)

namespace MonitorCli

theorem connectionRow_connectionJson (cast : String → Int) (c : ConnectionStateDto) :
    connectionRow cast (connectionJson c) = .ok c.view := by
  have hepoch : Json.narrow cast (c.epoch.toNat : Int) = c.epoch.toNat := by
    have := c.epoch.toNat_lt
    exact Json.narrow_of_bounds cast (by omega) (by omega)
  unfold ConnectionStateDto.view
  rw [← hepoch]
  rfl

theorem sessionRow_sessionJson (info : MonitorSessionInfo) :
    sessionRow (sessionJson info) = .ok info.view := by
  have hname : toStateString info.state = info.state.name := by
    cases info.state <;> rfl
  unfold MonitorSessionInfo.view
  rw [← hname]
  rfl

theorem pduRow_pduJson (cast : String → Int) {pdu : PduStateDto}
    (hchannel : ∀ c ∈ pdu.channelId, 0 ≤ c ∧ c < 2 ^ 31) :
    pduRow cast pdu.connectionId (pduJson pdu) = .ok pdu.view := by
  obtain ⟨connectionId, robot, pduName, channelId⟩ := pdu
  cases channelId with
  | none => rfl
  | some c =>
    obtain ⟨hlow, hhigh⟩ := hchannel c rfl
    have hint : Json.narrow cast c = c := Json.narrow_of_bounds cast (by omega) hhigh
    have hrow : pduRow cast connectionId (pduJson ⟨connectionId, robot, pduName, some c⟩) =
        .ok ⟨connectionId, robot, pduName, Json.narrow cast c⟩ := rfl
    rw [hrow, hint]
    rfl

/-- What the client reads from a list of PDUs. -/
theorem parsePdus_answer (cast : String → Int) (req : Json) (connectionId : String)
    (rows : List Json) :
    parsePdus cast (withRequestId req [("type", .str "pdus"),
      ("connection_id", .str connectionId), ("pdus", .arr rows)]) =
      (rows.mapM (pduRow cast connectionId)).map some := by
  have hname : (withRequestId req [("type", .str "pdus"), ("connection_id", .str connectionId),
      ("pdus", .arr rows)]).value Json.toStr "connection_id" "" = .ok connectionId := by
    unfold Json.value
    rw [get?_withRequestId req _ (by decide), if_pos (isObject_withRequestId req _)]
    rfl
  unfold parsePdus
  rw [get?_withRequestId req _ (by decide), get?_withRequestId req _ (by decide), hname]
  rfl

end MonitorCli

namespace Bridge

variable {authorizer : Option Authorizer} {req : Json} {ep : Option EndpointRef}

/-- What the client shows of a connection of the core. -/
def connectionView (c : BridgeConnection) : ConnectionView where
  connectionId := c.connectionId
  nodeId := c.nodeId
  active := c.isActive
  epoch := c.epoch.toNat
  epochValidation := c.epochValidation

/-- What the client shows of a transferable PDU of a connection of the core: with the channel that
the source has for it, or -1 if the source has none or is gone. -/
def pduView (E : Env ε) (c : BridgeConnection) (p : String × String) : PduView where
  connectionId := c.connectionId
  robot := p.1
  pduName := p.2
  channelId :=
    match c.srcEndpoint with
    | none => -1
    | some src =>
      if E.getPduChannelId src ⟨p.1, p.2⟩ < 0 then -1 else E.getPduChannelId src ⟨p.1, p.2⟩

/-- The server sends a channel iff there is one, and the client shows what it sends. -/
theorem channelId_pduView (E : Env ε) (c : BridgeConnection) (p : String × String) :
    (pduView E c p).channelId =
      (c.srcEndpoint.bind fun src => BridgeCore.channelOf E src p.1 p.2).getD (-1) := by
  unfold pduView
  cases c.srcEndpoint with
  | none => rfl
  | some src =>
    dsimp only [Option.bind_some]
    unfold BridgeCore.channelOf
    dsimp only
    by_cases hchannel : E.getPduChannelId src ⟨p.1, p.2⟩ < 0
    · rw [if_pos hchannel, if_neg (by omega)]
      rfl
    · rw [if_neg hchannel, if_pos (by omega)]
      rfl

/-- -1 stands for a source that has no channel for the PDU, or is gone. -/
theorem channelId_eq_neg_one_iff (E : Env ε) (c : BridgeConnection) (p : String × String) :
    (pduView E c p).channelId = -1 ↔
      ∀ src ∈ c.srcEndpoint, E.getPduChannelId src ⟨p.1, p.2⟩ < 0 := by
  unfold pduView
  cases c.srcEndpoint with
  | none => exact ⟨fun _ => nofun, fun _ => rfl⟩
  | some src =>
    simp only [Option.mem_def, Option.some.injEq, forall_eq']
    split_ifs with hchannel
    · exact ⟨fun _ => hchannel, fun _ => rfl⟩
    · exact ⟨fun heq => by omega, fun hneg => absurd hneg hchannel⟩

theorem connections_decoded (cast : String → Int) (stopAt : Option Nat)
    (hauth : (authorizer.map fun authorize => authorize req ep) ≠ some false)
    (htype : req.getString? "type" = some "list_connections") (b : Bridge ε) :
    MonitorCli.parseConnections cast (b.handleRequest E authorizer stopAt req ep).2 =
      .ok (some (b.core.listConnections.map ConnectionStateDto.view)) := by
  rw [handleRequest_listConnections stopAt hauth htype]
  unfold MonitorCli.parseConnections
  simp only [serve]
  rw [get?_withRequestId req _ (by decide)]
  have hrows := mapM_encoded _ b.core.listConnections fun c _ =>
    MonitorCli.connectionRow_connectionJson cast c
  simp [Json.get?, hrows, bind, Except.bind, pure, Except.pure]

theorem sessions_decoded (stopAt : Option Nat)
    (hauth : (authorizer.map fun authorize => authorize req ep) ≠ some false) {type : String}
    (htype : req.getString? "type" = some type) (hlist : type = "list_sessions" ∨ type = "list")
    (b : Bridge ε) :
    MonitorCli.parseSessions (b.handleRequest E authorizer stopAt req ep).2 =
      .ok (some (b.runtime.listMonitorInfos.map MonitorSessionInfo.view)) := by
  rw [handleRequest_listSessions stopAt hauth htype hlist]
  unfold MonitorCli.parseSessions
  simp only [serve]
  rw [get?_withRequestId req _ (by decide)]
  have hrows := mapM_encoded _ b.runtime.listMonitorInfos fun info _ =>
    MonitorCli.sessionRow_sessionJson info
  simp [Json.get?, hrows, bind, Except.bind, pure, Except.pure]

theorem pdus_decoded (cast : String → Int)
    (hint : ∀ src key, E.getPduChannelId src key < 2 ^ 31) (stopAt : Option Nat)
    (hauth : (authorizer.map fun authorize => authorize req ep) ≠ some false)
    {connectionId : String} (htype : req.getString? "type" = some "list_pdus")
    (hid : req.getString? "connection_id" = some connectionId) {b : Bridge ε}
    {c : BridgeConnection}
    (hfind : b.core.connections.find? (fun c => c.connectionId == connectionId) = some c) :
    MonitorCli.parsePdus cast (b.handleRequest E authorizer stopAt req ep).2 =
      .ok (some (((b.core.connectionTransferablePdus.lookup connectionId).getD []).map
        (pduView E c))) := by
  have hc : c.connectionId = connectionId := by simpa using List.find?_some hfind
  rw [handleRequest_listPdus stopAt hauth htype hid]
  simp only [serve, BridgeCore.listPdus_of_find hfind]
  rw [MonitorCli.parsePdus_answer, List.map_map, mapM_encoded (pduView E c)]
  · rfl
  · intro p _
    have hview : pduView E c p = PduStateDto.view ⟨c.connectionId, p.1, p.2,
        c.srcEndpoint.bind fun src => BridgeCore.channelOf E src p.1 p.2⟩ := by
      unfold PduStateDto.view
      rw [← channelId_pduView]
      rfl
    rw [← hc, hview]
    apply MonitorCli.pduRow_pduJson cast
    intro channel h
    obtain ⟨hnonneg, src, key, rfl⟩ := BridgeCore.nonneg_of_channelOf h
    exact ⟨hnonneg, hint src key⟩

/-- An answer of another type is no error. -/
theorem isErrorResponse_withRequestId (req : Json) {type : String}
    (members : List (String × Json)) (htype : type ≠ "error") :
    MonitorCli.isErrorResponse (withRequestId req (("type", .str type) :: members)) = false := by
  simpa [MonitorCli.isErrorResponse, getString?_type_withRequestId] using htype

/-- An error answer names no connection. -/
theorem get?_connectionId_makeError (req : Json) (code message : String)
    (err : Option HakoPduErrorType) :
    (makeError E req code message err).get? "connection_id" = none := by
  obtain ⟨all, hall, heq⟩ := makeError_cases E req code message err
  have hnone : (Json.obj all).get? "connection_id" = none := by
    rw [← hall, get?_withRequestId req _ (by decide)]
    rfl
  rcases heq with heq | ⟨n, -, heq⟩
  · rw [heq, hnone]
  · rw [heq, Json.get?_append, hnone, if_neg (by decide)]
    rfl

/-- A list of the PDUs of a connection that is not there is an error and carries no rows. -/
theorem pdus_refused (cast : String → Int) (stopAt : Option Nat)
    (hauth : (authorizer.map fun authorize => authorize req ep) ≠ some false)
    {connectionId : String} (htype : req.getString? "type" = some "list_pdus")
    (hid : req.getString? "connection_id" = some connectionId) {b : Bridge ε}
    (hfind : b.core.connections.find? (fun c => c.connectionId == connectionId) = none) :
    MonitorCli.isErrorResponse (b.handleRequest E authorizer stopAt req ep).2 = true ∧
      MonitorCli.parsePdus cast (b.handleRequest E authorizer stopAt req ep).2 = .ok none := by
  rw [handleRequest_listPdus stopAt hauth htype hid]
  simp only [serve, BridgeCore.listPdus_of_not_find hfind]
  constructor
  · simp [MonitorCli.isErrorResponse, getString?_type_makeError]
  · unfold MonitorCli.parsePdus
    rw [get?_connectionId_makeError]
    rfl

/-- **Decoding undoes encoding.** Of the answer to each list request the client reads one row per
connection, session or transferable PDU, in the order of the server and with its values, and of a
list of PDUs of an unknown connection an error. -/
theorem lists_decoded (E : Env ε) (cast : String → Int)
    (hint : ∀ src key, E.getPduChannelId src key < 2 ^ 31) (authorizer : Option Authorizer)
    (stopAt : Option Nat) (req : Json) (ep : Option EndpointRef)
    (hauth : (authorizer.map fun authorize => authorize req ep) ≠ some false) (b : Bridge ε) :
    let res := (b.handleRequest E authorizer stopAt req ep).2
    (req.getString? "type" = some "list_connections" →
      MonitorCli.isErrorResponse res = false ∧
      MonitorCli.parseConnections cast res =
        .ok (some (b.core.listConnections.map ConnectionStateDto.view)) ∧
      (b.core.listConnections.map ConnectionStateDto.view).Perm
        (b.core.connections.map connectionView)) ∧
    (req.getString? "type" = some "list_sessions" ∨ req.getString? "type" = some "list" →
      MonitorCli.isErrorResponse res = false ∧
      MonitorCli.parseSessions res =
        .ok (some (b.runtime.listMonitorInfos.map MonitorSessionInfo.view)) ∧
      (b.runtime.listMonitorInfos.map MonitorSessionInfo.view).Perm
        (b.runtime.monitorSessions.entries.map fun s => s.2.view)) ∧
    ∀ connectionId, req.getString? "type" = some "list_pdus" →
      req.getString? "connection_id" = some connectionId →
      (∀ c, b.core.connections.find? (fun c => c.connectionId == connectionId) = some c →
        MonitorCli.isErrorResponse res = false ∧
        MonitorCli.parsePdus cast res =
          .ok (some (((b.core.connectionTransferablePdus.lookup connectionId).getD []).map
            (pduView E c))) ∧
        ∀ p, (pduView E c p).channelId = -1 ↔
          ∀ src ∈ c.srcEndpoint, E.getPduChannelId src ⟨p.1, p.2⟩ < 0) ∧
      (b.core.connections.find? (fun c => c.connectionId == connectionId) = none →
        MonitorCli.isErrorResponse res = true ∧ MonitorCli.parsePdus cast res = .ok none) := by
  refine ⟨fun htype => ?_, fun htype => ?_, fun connectionId htype hid => ⟨fun c hfind => ?_,
    fun hfind => pdus_refused cast stopAt hauth htype hid hfind⟩⟩
  · refine ⟨?_, connections_decoded cast stopAt hauth htype b, ?_⟩
    · rw [handleRequest_listConnections stopAt hauth htype]
      exact isErrorResponse_withRequestId req _ (by decide)
    · apply ((List.mergeSort_perm _ _).map _).trans
      rw [List.map_map]
      exact .refl _
  · obtain ⟨type, htype, hlist⟩ : ∃ type, req.getString? "type" = some type ∧
        (type = "list_sessions" ∨ type = "list") :=
      htype.elim (fun h => ⟨_, h, .inl rfl⟩) fun h => ⟨_, h, .inr rfl⟩
    refine ⟨?_, sessions_decoded stopAt hauth htype hlist b, ?_⟩
    · rw [handleRequest_listSessions stopAt hauth htype hlist]
      exact isErrorResponse_withRequestId req _ (by decide)
    · apply ((List.mergeSort_perm _ _).map _).trans
      rw [List.map_map]
      exact .refl _
  · refine ⟨?_, pdus_decoded cast hint stopAt hauth htype hid hfind,
      channelId_eq_neg_one_iff E c⟩
    rw [handleRequest_listPdus stopAt hauth htype hid]
    simp only [serve, BridgeCore.listPdus_of_find hfind]
    exact isErrorResponse_withRequestId req _ (by decide)

/-- The PDUs of a connection, and those of a connection that is not there. -/
theorem lists_decoded_small :
    let E := (CacheSpec.small .latest).env none
    let b := (bootSmall .latest ⟨"immediate", none, none⟩ [⟨"k", "r", "pos"⟩] false).get rfl
    let req : Json := .obj [("type", .str "list_pdus"), ("connection_id", .str "conn")]
    MonitorCli.parsePdus (fun _ => 0) (b.handleRequest E none none req none).2 =
        .ok (some [⟨"conn", "r", "pos", 1⟩]) ∧
      MonitorCli.isErrorResponse (b.handleRequest E none none
        (.obj [("type", .str "list_pdus"), ("connection_id", .str "none")]) none).2 = true := by
  intro E b req
  have hint : ∀ src key, E.getPduChannelId src key < 2 ^ 31 := fun src key => by
    change (if key.pdu = "pos" then (1 : Int) else if key.pdu = "vel" then 2 else -1) < 2 ^ 31
    split_ifs <;> decide
  obtain ⟨-, hpdus, -⟩ := ((lists_decoded E (fun _ => 0) hint none none req none (by decide) b).2.2
    "conn" rfl rfl).1 _ rfl
  obtain ⟨hunknown, -⟩ := ((lists_decoded E (fun _ => 0) hint none none
    (.obj [("type", .str "list_pdus"), ("connection_id", .str "none")]) none (by decide) b).2.2
    "none" rfl rfl).2 rfl
  exact ⟨hpdus, hunknown⟩

end Bridge

end HakoniwaBridge
