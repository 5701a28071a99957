import HakoniwaBridge.ClientViews
import HakoniwaBridge.LineFilter
import HakoniwaBridge.MonitorProcess

/-!
# What a command of the monitor client shows

The commands with one request (`MonitorCli.Query`), on a bridge to which anything may happen.

* `CommandEnd.stdout` — what the process has written, behind the line filter of `main`.
* `MonitorCli.screen` — the texts of a command about a bridge.
* `answered_request`, `subscribe_answer`, `queryResult_eq` — what the bridge answers to the requests
  of the client, and what the client makes of it.
* `query_shows` — **a command shows the bridge as it was at one moment**: no answer makes it throw,
  and if it ends with 0, it has written the texts about the bridge at a moment while it ran, apart
  from lines that begin with `DEBUG:`.
-/

namespace HakoniwaBridge

open Lib

variable {ε : Type} {E : Env ε}

/-! ## The answers -/

/-- The `request_id` hides nothing else. -/
theorem get?_stamped (requestId : String) (req : Members) {member : String}
    (hmember : member ≠ "request_id") :
    (stamped requestId req).get? member = (Json.obj req).get? member := by
  have hfind : (req.filter fun m => m.1 != "request_id").find? (fun m => m.1 == member) =
      req.find? fun m => m.1 == member := by
    rw [List.find?_filter]
    congr 1
    funext m
    by_cases hm : m.1 = member <;> simp [hm, hmember]
  unfold stamped
  rw [Json.get?_append, if_neg hmember.symm, Option.or_none]
  exact congrArg (Option.map Prod.snd) hfind

theorem getString?_stamped (requestId : String) (req : Members) {member : String}
    (hmember : member ≠ "request_id") :
    (stamped requestId req).getString? member = (Json.obj req).getString? member := by
  unfold Json.getString?
  rw [get?_stamped requestId req hmember]

namespace Bridge

variable {name : String} {how : Option Nat × String} {req : Members} {b : Bridge ε} {res : Json}

theorem step_requestOp (E : Env ε) (name : String) (how : Option Nat × String) (req : Members)
    (b : Bridge ε) :
    b.step E (requestOp name how req) =
      ((b.controlMessage E how.1 name (some (stamped how.2 req))).1,
        ((b.controlMessage E how.1 name (some (stamped how.2 req))).2.map fun res =>
          issuedIn res ++ [.response (some (.session name)) res]).getD []) := by
  unfold requestOp Bridge.step
  dsimp only
  cases (b.controlMessage E how.1 name (some (stamped how.2 req))).2 <;> rfl

/-- Without an answer nothing happens. -/
theorem step_of_unanswered (h : answerOf E name how req b = none) :
    b.step E (requestOp name how req) = (b, []) := by
  unfold answerOf at h
  rw [step_requestOp, h]
  unfold Bridge.controlMessage at h ⊢
  split_ifs at h ⊢
  rfl

/-- What is answered is what the handler answers, and what happens is what the handler does. -/
theorem answered_request (h : answerOf E name how req b = some res) :
    let handled := b.handleRequest E none how.1 (stamped how.2 req) (some (.session name))
    res = handled.2 ∧ b.step E (requestOp name how req) =
      (handled.1.recordAnswer name (stamped how.2 req) res,
        issuedIn res ++ [.response (some (.session name)) res]) := by
  intro handled
  unfold answerOf at h
  rw [step_requestOp, h]
  unfold Bridge.controlMessage at h ⊢
  split_ifs at h ⊢
  obtain rfl := Option.some.inj h
  exact ⟨rfl, rfl⟩

theorem isErrorResponse_makeError (E : Env ε) (req : Json) (code message : String)
    (err : Option HakoPduErrorType) :
    MonitorCli.isErrorResponse (makeError E req code message err) = true := by
  simp [MonitorCli.isErrorResponse, getString?_type_makeError]

/-- The bridge of the client has no authorizer. -/
theorem not_unauthorized (req : Json) (ep : Option EndpointRef) :
    ((none : Option Authorizer).map fun authorize => authorize req ep) ≠ some false := nofun

/-- A subscription of the client passes the checks. -/
theorem decodeRequest_stamped (E : Env ε) (requestId connectionId policy : String)
    (intervalMs : Int) (ep : Option EndpointRef) :
    let req := stamped requestId (MonitorCli.makeSubscribeRequest connectionId policy intervalMs)
    decodeRequest E none req ep = .ok (.subscribe
      { connectionId := connectionId, filters := [], policy := decodePolicy req
        destinationEndpoint := ep }) := by
  intro req
  have htype : req.getString? "type" = some "subscribe" :=
    getString?_stamped requestId _ (by decide)
  have hid : req.getString? "connection_id" = some connectionId :=
    getString?_stamped requestId _ (by decide)
  have hfilters : req.get? "filters" = none := by
    rw [get?_stamped requestId _ (by decide)]
    unfold MonitorCli.makeSubscribeRequest
    split_ifs <;> rfl
  rw [decodeRequest_of_type E (by simp) htype]
  show decodeSubscribe E req ep = _
  unfold decodeSubscribe
  rw [hid, hfilters]

/-- A subscription of the client is refused, or it yields the next session id. -/
theorem subscribe_answer {connectionId policy : String} {intervalMs : Int}
    (h : answerOf E name how (MonitorCli.makeSubscribeRequest connectionId policy intervalMs) b =
      some res) :
    MonitorCli.isErrorResponse res = true ∨
      res.getString? "type" = some "subscribed" ∧ res.isObject = true ∧
        res.get? "session_id" = some (.str b.runtime.nextSessionId) := by
  obtain ⟨rfl, -⟩ := answered_request h
  unfold handleRequest
  rw [decodeRequest_stamped]
  unfold serve
  dsimp only
  split
  · left
    dsimp only
    exact isErrorResponse_makeError E _ _ _ _
  · next sessionId hattached =>
    obtain ⟨-, -, -, -, -, -, -, -, -, -, rfl, -⟩ := attachMonitor_some hattached
    refine .inr ⟨getString?_type_withRequestId _ _ _, isObject_withRequestId _ _, ?_⟩
    dsimp only
    rw [get?_withRequestId _ _ (by decide)]
    rfl

/-- A list of PDUs is that of the bridge, or an error. -/
theorem listPdus_answer {connectionId : String}
    (h : answerOf E name how (MonitorCli.listPdusRequest connectionId) b = some res)
    (hok : MonitorCli.isErrorResponse res = false) :
    ∃ pdus req, b.core.listPdus E connectionId = some pdus ∧
      (∀ pdu ∈ pdus, pdu.connectionId = connectionId) ∧
      res = withRequestId req [("type", .str "pdus"), ("connection_id", .str connectionId),
        ("pdus", .arr (pdus.map pduJson))] := by
  obtain ⟨rfl, -⟩ := answered_request h
  set req := stamped how.2 (MonitorCli.listPdusRequest connectionId)
  have htype : req.getString? "type" = some "list_pdus" := getString?_stamped how.2 _ (by decide)
  have hid : req.getString? "connection_id" = some connectionId :=
    getString?_stamped how.2 _ (by decide)
  cases hfind : b.core.connections.find? (fun c => c.connectionId == connectionId) with
  | none =>
    obtain ⟨herror, -⟩ := pdus_refused (E := E) (fun _ => 0) how.1
      (not_unauthorized req (some (.session name))) htype hid hfind
    exact absurd (hok.symm.trans herror) Bool.false_ne_true
  | some c =>
    refine ⟨_, req, BridgeCore.listPdus_of_find hfind, ?_, ?_⟩
    · intro pdu hpdu
      obtain ⟨p, -, rfl⟩ := List.mem_map.1 hpdu
      rfl
    · rw [handleRequest_listPdus how.1 (not_unauthorized _ _) htype hid]
      simp only [serve, BridgeCore.listPdus_of_find hfind]

end Bridge

/-! ## The standard output -/

/-- The calls of `std::cout` for the texts of a command, each with `std::endl` behind it. -/
def coutCalls (out : List String) : List StreamCall :=
  out.flatMap fun text =>
    (text.toUTF8.toList ++ [0x0A]).map (fun ch => .overflow (some ch)) ++ [.sync]

/-- Source: `bridge_monitor_cli.cpp`, `main`, the prefix of the filter. -/
def dropPrefix : List UInt8 := "DEBUG:".toUTF8.toList

/-- Source: `bridge_monitor_cli.cpp`, `main`, which puts the filter before `std::cout`. -/
def CommandEnd.stdout (e : CommandEnd) : List UInt8 :=
  ((coutCalls e.out).foldl LinePrefixFilterBuf.call ⟨dropPrefix, [], []⟩).dest

/-- The lines of texts. -/
def textLines (texts : List String) : List (List UInt8) :=
  texts.flatMap fun text => StreamCall.flushedLines (text.toUTF8.toList ++ [0x0A])

theorem foldl_coutCalls (dest : List UInt8) (out : List String) :
    (coutCalls out).foldl LinePrefixFilterBuf.call ⟨dropPrefix, dest, []⟩ =
      ⟨dropPrefix, dest ++ LinePrefixFilterBuf.kept dropPrefix (textLines out), []⟩ := by
  induction out generalizing dest with
  | nil => simp [coutCalls, textLines, LinePrefixFilterBuf.kept]
  | cons text out ih =>
    have htext : ∀ bytes : List UInt8, StreamCall.text
        (bytes.map (fun ch => StreamCall.overflow (some ch)) ++ [.sync]) = bytes := by
      intro bytes
      simp [StreamCall.text, StreamCall.char, List.filterMap_map, Function.comp_def]
    have hcalls : ∀ c ∈ (text.toUTF8.toList ++ [0x0A]).map
        (fun ch => StreamCall.overflow (some ch)), c.isFlush = false := by
      intro c hc
      obtain ⟨ch, -, rfl⟩ := List.mem_map.1 hc
      rfl
    rw [coutCalls, List.flatMap_cons, List.foldl_append,
      LinePrefixFilterBuf.foldl_call_flush hcalls rfl, htext]
    refine (ih _).trans ?_
    rw [textLines, textLines, List.flatMap_cons, LinePrefixFilterBuf.kept_append,
      List.append_assoc]

/-- The filter lets through the lines that do not begin with the prefix. -/
theorem CommandEnd.stdout_eq (e : CommandEnd) :
    e.stdout = LinePrefixFilterBuf.kept dropPrefix (textLines e.out) := by
  rw [CommandEnd.stdout, foldl_coutCalls, List.nil_append]

/-! ## The text of a command -/

/-- What the client shows of a PDU; it reads the channel as an `int`. -/
def PduStateDto.shown (cast : String → Int) (pdu : PduStateDto) : PduView :=
  { pdu.view with channelId := (pdu.channelId.map (Json.narrow cast)).getD (-1) }

namespace MonitorCli

theorem pduRow_shown (cast : String → Int) (pdu : PduStateDto) :
    pduRow cast pdu.connectionId (pduJson pdu) = .ok (pdu.shown cast) := by
  obtain ⟨connectionId, robot, pduName, channelId⟩ := pdu
  cases channelId <;> rfl

/-- The texts of a command about a bridge. The uptime and the channels are the numbers that the
client reads, which are of type `int`. -/
def screen (E : Env ε) (cast : String → Int) (b : Bridge ε) : Query → List String
  | .health =>
    let health := (b.core.getHealth E b.host.env).1
    healthLines ⟨health.running, Json.getInt health.uptimeUsec.toNat, health.lastError⟩
  | .connections => connectionLines (b.core.listConnections.map ConnectionStateDto.view)
  | .sessions => sessionLines (b.runtime.listMonitorInfos.map MonitorSessionInfo.view)
  | .listPdus connectionId =>
    pduLines (((b.core.listPdus E connectionId).getD []).map (PduStateDto.shown cast))
  | .subscribe _ _ _ => ["session_id=" ++ b.runtime.nextSessionId]
  | .unsubscribe _ => ["ok"]

variable {name : String} {how : Option Nat × String} {b : Bridge ε} {res : Json}

/-- **The client understands the bridge**: of an answer that is no error a command makes its
text. -/
theorem queryResult_eq (cast : String → Int) (query : Query)
    (h : answerOf E name how (queryRequest query) b = some res)
    (hok : isErrorResponse res = false) :
    queryResult cast query res = .ok { out := screen E cast b query } := by
  have htype : ∀ {type : String}, (Json.obj (queryRequest query)).getString? "type" = some type →
      (stamped how.2 (queryRequest query)).getString? "type" = some type := fun heq => by
    rw [getString?_stamped how.2 _ (by decide), heq]
  cases query with
  | health =>
    obtain ⟨rfl, -⟩ := Bridge.answered_request h
    rw [Bridge.handleRequest_health how.1 (Bridge.not_unauthorized _ _) (htype rfl)]
    simp only [Bridge.serve, queryResult, printHealth, parseHealth_answer]
    rfl
  | connections =>
    obtain ⟨rfl, -⟩ := Bridge.answered_request h
    unfold queryResult printConnections
    dsimp only
    rw [Bridge.connections_decoded cast how.1 (Bridge.not_unauthorized _ _) (htype rfl)]
    rfl
  | sessions =>
    obtain ⟨rfl, -⟩ := Bridge.answered_request h
    unfold queryResult printSessions
    dsimp only
    rw [Bridge.sessions_decoded how.1 (Bridge.not_unauthorized _ _) (htype rfl) (.inl rfl)]
    rfl
  | listPdus connectionId =>
    obtain ⟨pdus, req, hpdus, hids, rfl⟩ := Bridge.listPdus_answer h hok
    have hrows := mapM_encoded (PduStateDto.shown cast) pdus fun pdu hpdu =>
      hids pdu hpdu ▸ pduRow_shown cast pdu
    simp only [queryResult, printPdus, parsePdus_answer, hrows, screen, hpdus]
    rfl
  | subscribe connectionId policy intervalMs =>
    obtain herror | ⟨-, hobject, hid⟩ := Bridge.subscribe_answer h
    · exact absurd (hok.symm.trans herror) Bool.false_ne_true
    · simp only [queryResult, Json.value, if_pos hobject, hid]
      rfl
  | unsubscribe sessionId => rfl

/-! ## One moment -/

/-- What a command with one request comes to. -/
def concluded (cast : String → Int) (query : Query) :
    Option Json → Except JsonException CommandEnd
  | none => .ok { exitCode := 1 }
  | some res => (makeControlErrorMessage res).elim (queryResult cast query res) fun message =>
      .ok { exitCode := 1, err := [message] }

theorem commandScript_query (cast : String → Int) (getPduChannelId : PduKey → Int)
    (query : Query) : commandScript cast getPduChannelId (.query query) =
      .ask (queryRequest query) fun res => .done (concluded cast query res) := by
  refine congrArg (Script.ask _) (funext fun res => ?_)
  cases res with
  | none => rfl
  | some res =>
    unfold concluded
    dsimp only [Option.elim_some]
    cases makeControlErrorMessage res <;> rfl

/-- An answer is an error, which the command shows, or the command makes its text of it. -/
theorem concluded_of_answer (cast : String → Int) (query : Query)
    (h : answerOf E name how (queryRequest query) b = some res) :
    ∃ ended, concluded cast query (some res) = .ok ended ∧
      (ended.exitCode ≠ 0 ∧ ended.out = [] ∨ ended = { out := screen E cast b query }) := by
  unfold concluded
  dsimp only
  cases hok : isErrorResponse res with
  | false =>
    have hmessage : makeControlErrorMessage res = none := if_pos hok
    rw [hmessage]
    exact ⟨_, queryResult_eq cast query h hok, .inr rfl⟩
  | true =>
    obtain ⟨message, hmessage⟩ : ∃ message, makeControlErrorMessage res = some message :=
      ⟨_, if_neg (by simp [hok])⟩
    rw [hmessage]
    exact ⟨_, rfl, .inl ⟨Nat.one_ne_zero, rfl⟩⟩

end MonitorCli

/-- Where a command with one request stands. As long as nothing was served unheard, the bridge has
seen the other operations only; an answer is that of the bridge after some of them. -/
inductive AskedOnce {α : Type} (E : Env ε) (name : String) (b₀ : Bridge ε) (req : Members)
    (next : Option Json → α) (others : List (Op ε)) :
    ℕ → Bridge ε → Script Members Json α → Prop
  | waiting {k : ℕ} {b : Bridge ε} (hb : k = 0 → b = (run (Bridge.step E) b₀ others).1) :
      AskedOnce E name b₀ req next others k b (.ask req fun res => .done (next res))
  | unanswered {k : ℕ} {b : Bridge ε} : AskedOnce E name b₀ req next others k b (.done (next none))
  | answered {k : ℕ} {b : Bridge ε} (how : Option Nat × String) (res : Json)
      (before after : List (Op ε)) (hothers : others = before ++ after)
      (hanswer : answerOf E name how req (run (Bridge.step E) b₀ before).1 = some res) :
      AskedOnce E name b₀ req next others k b (.done (next (some res)))

theorem AskedOnce.tracks {α : Type} (E : Env ε) (name : String) (b₀ : Bridge ε) (req : Members)
    (next : Option Json → α) :
    Tracks E name fun others _ => AskedOnce E name b₀ req next others where
  other {others _ k b p} h op := by
    cases h with
    | waiting hb =>
      refine .waiting fun hk => ?_
      rw [run_append_fst, hb hk]
      rfl
    | unanswered => exact .unanswered
    | answered how res before after hothers hanswer =>
      refine .answered how res before (after ++ [op]) ?_ hanswer
      rw [hothers, List.append_assoc]
  answered {others _ b _ _} h how := by
    cases h with
    | waiting hb =>
      cases hanswer : answerOf E name how req b with
      | none =>
        rw [Bridge.step_of_unanswered hanswer]
        exact .waiting hb
      | some res =>
        exact .answered how res others [] (List.append_nil others).symm (hb rfl ▸ hanswer)
  unheard h how _ := by
    cases h with
    | waiting hb => exact .waiting nofun
    | unanswered => exact .unanswered
    | answered how res before after hothers hanswer =>
      exact .answered how res before after hothers hanswer
  unanswered h := by
    cases h with
    | waiting hb => exact .unanswered

/-- **One moment.** Whatever else happens to the bridge, and however the messages, the turns of the
client and the end of its patience are interleaved: a command with one request does not throw. It
ends with 0 only with an answer of the bridge as it was after some of the other operations, and then
it has written the lines of the texts about that bridge that do not begin with `DEBUG:`, and no
error; otherwise it has shown nothing. -/
theorem query_shows (E : Env ε) (name : String) (b : Bridge ε) (cast : String → Int)
    (getPduChannelId : PduKey → Int) (query : MonitorCli.Query) (ops : List (ProcessOp ε))
    {result : Except JsonException CommandEnd} :
    let script := MonitorCli.commandScript cast getPduChannelId (.query query)
    let r := run (MonitorProcess.step E name) (.start b script) ops
    r.1.script = .done result →
      ∃ ended, result = .ok ended ∧ (ended.exitCode ≠ 0 ∧ ended.stdout = [] ∨
        ∃ before after how res, ops.filterMap ProcessOp.bridge? = before ++ after ∧
          answerOf E name how (MonitorCli.queryRequest query)
            (run (Bridge.step E) b before).1 = some res ∧
          ended.exitCode = 0 ∧ ended.err = [] ∧
          ended.stdout = LinePrefixFilterBuf.kept dropPrefix
            (textLines (MonitorCli.screen E cast (run (Bridge.step E) b before).1 query))) := by
  intro script r hdone
  have hscript : script.GivesUp :=
    MonitorCli.givesUp_commandScript cast getPduChannelId (.query query)
  have hstart : AskedOnce E name b (MonitorCli.queryRequest query)
      (MonitorCli.concluded cast query) [] 0 b script := by
    rw [show script = _ from MonitorCli.commandScript_query cast getPduChannelId query]
    exact .waiting fun _ => rfl
  obtain ⟨k, -, hasked⟩ := (AskedOnce.tracks E name b (MonitorCli.queryRequest query)
    (MonitorCli.concluded cast query)).run_process hscript hstart ops
  rw [show (run (MonitorProcess.step E name) (.start b script) ops).1.script = .done result
    from hdone] at hasked
  generalize hresult : Script.done result = p at hasked
  cases hasked with
  | waiting hb => exact absurd hresult nofun
  | unanswered =>
    obtain rfl := Script.done.inj hresult
    exact ⟨{ exitCode := 1 }, rfl, .inl ⟨Nat.one_ne_zero, rfl⟩⟩
  | answered how res before after hothers hanswer =>
    obtain rfl := Script.done.inj hresult
    obtain ⟨ended, hended, ⟨hcode, hnothing⟩ | rfl⟩ :=
      MonitorCli.concluded_of_answer cast query hanswer
    · refine ⟨ended, hended, .inl ⟨hcode, ?_⟩⟩
      rw [ended.stdout_eq, hnothing]
      rfl
    · exact ⟨_, hended, .inr ⟨before, after, how, res, hothers, hanswer, rfl, rfl,
        CommandEnd.stdout_eq _⟩⟩

/-- The bridge accepts the client. -/
def clientAccepted : List (Op CacheState) :=
  [.attachMonitorRuntime, .start,
    .initializeRuntime { enableOndemand := true, ondemandMuxConfigPath := "mux" } .ok .ok,
    .cyclicTrigger ["client"]]

/-- The small bridge, which has accepted the client. -/
def servedSmall : Bridge CacheState × List Event :=
  run (Bridge.step ((CacheSpec.small .latest).env none)) Exchange.exchangeSmall.bridge
    clientAccepted

/-- The connection is paused and resumed, and the request is served in between. -/
def queryOps : List (ProcessOp CacheState) :=
  [.turn "1" .ok false, .turn "1" .ok false, .bridge (.setConnectionActive "conn" false),
    .serve none, .bridge (.setConnectionActive "conn" true), .deliver, .turn "1" .ok false]

/-- `list_pdus` on the small bridge. -/
def querySmall : MonitorProcess CacheState (Except JsonException CommandEnd) × List Event :=
  run (MonitorProcess.step ((CacheSpec.small .latest).env none) "client") (.start servedSmall.1
    (MonitorCli.commandScript (fun _ => 0) (fun _ => -1) (.query (.listPdus "conn")))) queryOps

theorem query_shows_small : ∃ ended before after, querySmall.1.script = .done (.ok ended) ∧
    queryOps.filterMap ProcessOp.bridge? = before ++ after ∧
    ended.stdout = LinePrefixFilterBuf.kept dropPrefix (textLines
      (MonitorCli.screen ((CacheSpec.small .latest).env none) (fun _ => 0)
        (run (Bridge.step ((CacheSpec.small .latest).env none)) servedSmall.1 before).1
        (.listPdus "conn"))) := by
  obtain ⟨result, hdone, hcode⟩ : ∃ result, querySmall.1.script = .done (.ok result) ∧
      result.exitCode = 0 := ⟨_, rfl, rfl⟩
  obtain ⟨ended, hended, ⟨hfailed, -⟩ | ⟨before, after, -, -, hops, -, -, -, hscreen⟩⟩ :=
    query_shows ((CacheSpec.small .latest).env none) "client" servedSmall.1 (fun _ => 0)
      (fun _ => -1) (.listPdus "conn") queryOps hdone
  · obtain rfl := Except.ok.inj hended
    exact absurd hcode hfailed
  · obtain rfl := Except.ok.inj hended
    exact ⟨result, before, after, hdone, hops, hscreen⟩

end HakoniwaBridge
