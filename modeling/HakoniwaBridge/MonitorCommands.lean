import HakoniwaBridge.Types
import HakoniwaBridge.MonitorCli
import HakoniwaBridge.Lib.Script

/-!
# The commands of the monitor client

`main` and `run_tail` of `bridge_monitor_cli.cpp`, with what `monitor_cli_utils.cpp` has for them.

* `CommandScript` — a command: the requests that it makes one after another, what it makes of the
  answers, and how the process ends. The messages of `request` itself, which say why there is no
  answer, are left out.
* `mainScript` — from the arguments to the command.
-/

namespace HakoniwaBridge

open Lib

/-- The members of a request. -/
abbrev Members := List (String × Json)

/-- How the process ends, and what it has written by then. -/
structure CommandEnd where
  exitCode : Nat := 0
  out : List String := []
  err : List String := []

/-- A command; an exception ends it. -/
abbrev CommandScript := Script Members Json (Except JsonException CommandEnd)

namespace MonitorCli

/-! ## Answers on the screen -/

/-- Source: `monitor_cli_utils.cpp`, `make_control_error_message`. -/
def makeControlErrorMessage (res : Json) : Option String :=
  if isErrorResponse res = false then none
  else
    let code := ((res.getString? "code").map fun code => " code=" ++ code).getD ""
    let message := ((res.getString? "message").map fun message => " message=" ++ message).getD ""
    let hakoError :=
      match (res.get? "hako_error").bind Json.integer? with
      | some n => " hako_error=" ++ toString (Json.getInt n)
      | none => ""
    some ("Control error" ++ code ++ message ++ hakoError)

/-- A `bool` on a stream. -/
def boolText (b : Bool) : String := if b then "1" else "0"

/-- What the `print_` functions have in common: a view of the answer, or none. -/
def printView {α : Type} (invalid : String) (lines : α → List String) :
    Except JsonException (Option α) → Except JsonException CommandEnd
  | .error e => .error e
  | .ok none => .ok { err := [invalid] }
  | .ok (some view) => .ok { out := lines view }

/-- Source: `print_health`, the text. -/
def healthLines (health : HealthView) : List String :=
  ["[health]\n  running: " ++ boolText health.running ++ "\n  uptime_usec: " ++
    toString health.uptimeUsec ++ "\n  last_error: \"" ++ health.lastError ++ "\""]

/-- Source: `print_connections`, the text. -/
def connectionLines (rows : List ConnectionView) : List String :=
  ("[connections] count=" ++ toString rows.length) :: rows.map fun c =>
    "- connection_id: " ++ c.connectionId ++ ", node_id: " ++ c.nodeId ++ ", active: " ++
      boolText c.active ++ ", epoch: " ++ toString c.epoch ++ ", epoch_validation: " ++
      boolText c.epochValidation

/-- Source: `print_sessions`, the text. -/
def sessionLines (rows : List SessionView) : List String :=
  ("[sessions] count=" ++ toString rows.length) :: rows.map fun s =>
    "- session_id: " ++ s.sessionId ++ ", connection_id: " ++ s.connectionId ++ ", policy: " ++
      s.policyType ++ ", state: " ++ s.state

/-- Source: `print_pdus`, the text. -/
def pduLines (rows : List PduView) : List String :=
  ("[pdus] count=" ++ toString rows.length) :: rows.map fun p =>
    "- connection_id: " ++ p.connectionId ++ ", robot: " ++ p.robot ++ ", pdu_name: " ++
      p.pduName ++ ", channel_id: " ++ toString p.channelId

/-- Source: `bridge_monitor_cli.cpp`, `print_health`. -/
def printHealth (cast : String → Int) (res : Json) : Except JsonException CommandEnd :=
  printView "Invalid health response" healthLines (parseHealth cast res)

/-- Source: `bridge_monitor_cli.cpp`, `print_connections`. -/
def printConnections (cast : String → Int) (res : Json) : Except JsonException CommandEnd :=
  printView "Invalid connections response" connectionLines (parseConnections cast res)

/-- Source: `bridge_monitor_cli.cpp`, `print_sessions`. -/
def printSessions (res : Json) : Except JsonException CommandEnd :=
  printView "Invalid sessions response" sessionLines (parseSessions res)

/-- Source: `bridge_monitor_cli.cpp`, `print_pdus`. -/
def printPdus (cast : String → Int) (res : Json) : Except JsonException CommandEnd :=
  printView "Invalid pdus response" pduLines (parsePdus cast res)

/-! ## Requests -/

/-- The process ends with a message on `cerr`. -/
def failWith (err : List String) (out : List String) : CommandScript :=
  .done (.ok { exitCode := 1, out := out, err := err })

/-- Source: `bridge_monitor_cli.cpp`, `request_or_die` with `print_error_if_any`, and the return of
the callers. `err` has been written before. -/
def requestOrDie (req : Members) (err : List String) (next : Json → CommandScript) :
    CommandScript :=
  .ask req fun res => res.elim (failWith err []) fun res =>
    (makeControlErrorMessage res).elim (next res) fun message => failWith (err ++ [message]) []

/-- Source: `bridge_monitor_cli.cpp`, `make_subscribe_request`. -/
def makeSubscribeRequest (connectionId policy : String) (intervalMs : Int) : Members :=
  [("type", .str "subscribe"), ("connection_id", .str connectionId)] ++
    if policy = "" then []
    else [("policy", .obj ([("type", .str policy)] ++
      if (policy = "throttle" ∨ policy = "ticker") ∧ intervalMs > 0
      then [("interval_ms", .int intervalMs)] else []))]

def listPdusRequest (connectionId : String) : Members :=
  [("type", .str "list_pdus"), ("connection_id", .str connectionId)]

def unsubscribeRequest (sessionId : String) : Members :=
  [("type", .str "unsubscribe"), ("session_id", .str sessionId)]

/-! ## Tail -/

/-- Source: `json::operator[]` of a value that is not constant. -/
def member (j : Json) (name : String) : Except JsonException Json :=
  match j with
  | .null => .ok .null
  | .obj _ => .ok ((j.get? name).getD .null)
  | _ => .error (.typeError 305)

/-- Source: `begin()` and `end()` of a JSON value. -/
def items : Json → List Json
  | .null => []
  | .arr elems => elems
  | .obj members => members.map Prod.snd
  | j => [j]

/-- Source: `put_pdu_name`, the text under which a channel is kept. -/
def channelText (key : PduResolvedKey) : String := key.robot ++ ":" ++ toString key.channelId

/-- What `run_tail` sets up: `pdu_name_map_` with the last entry first, the channels that it
subscribes to, and what it says of the others. -/
structure TailTargets where
  names : List (String × String) := []
  channels : List PduResolvedKey := []
  skipped : List String := []

/-- Source: `MonitorClient::resolve_channel_id`; `getPduChannelId` is the client's endpoint. -/
def resolveChannelId (getPduChannelId : PduKey → Int) (robot pduName : String) : Option Int :=
  if robot = "" ∨ pduName = "" then none
  else if getPduChannelId ⟨robot, pduName⟩ < 0 then none
  else some (getPduChannelId ⟨robot, pduName⟩)

/-- Source: `run_tail`, the row of the answer and the channel that it stands for. -/
def tailRow (cast : String → Int) (getPduChannelId : PduKey → Int) (p : Json) :
    Except JsonException (PduResolvedKey × String) := do
  let robot ← p.value Json.toStr "robot" ""
  let channelId ← p.value (Json.toInt cast) "channel_id" (-1)
  let pduName ← p.value Json.toStr "pdu_name" ""
  let resolved := if channelId < 0 then resolveChannelId getPduChannelId robot pduName else none
  return (⟨robot, resolved.getD channelId⟩, pduName)

/-- Source: `run_tail`, the body of the loop over the rows, behind the row. -/
def addTarget (targets : TailTargets) (row : PduResolvedKey × String) : TailTargets :=
  if row.1.robot = "" ∨ row.1.channelId < 0 then
    { targets with
      skipped := targets.skipped ++ ["Skipping monitor target: unresolved channel robot=" ++
        row.1.robot ++ " pdu_name=" ++ row.2] }
  else
    { targets with
      names := (channelText row.1, row.2) :: targets.names
      channels := targets.channels ++ [row.1] }

/-- Source: `run_tail`, the loop over the rows. -/
def tailTargets (cast : String → Int) (getPduChannelId : PduKey → Int) (res : Json) :
    Except JsonException TailTargets := do
  let rows ← (items (← member res "pdus")).mapM (tailRow cast getPduChannelId)
  return rows.foldl addTarget {}

/-- Source: `monitor_cli_utils.cpp`, `resolve_pdu_name`; `fallback` holds the entries of
`pdu_name_map_`. -/
def resolvePduName (directName : String) (key : PduResolvedKey)
    (fallback : List (String × String)) : String :=
  if directName ≠ "" then directName else (fallback.lookup (channelText key)).getD "N/A"

/-- Source: `monitor_cli_utils.cpp`, `try_get_epoch`. -/
def tryGetEpoch (hakoPduGetEpoch : Bytes → Option UInt8) (data : Bytes) : String :=
  if data = [] then "N/A"
  else ((hakoPduGetEpoch data).map fun epoch => toString epoch.toNat).getD "N/A"

/-- Source: `monitor_cli_utils.cpp`, `format_tail_line`. -/
def formatTailLine (timestampUsec : Int) (key : PduResolvedKey) (payloadSize : Nat)
    (pduName epoch : String) : String :=
  "[monitor-data]\n  timestamp_usec: " ++ toString timestampUsec ++ "\n  robot: " ++ key.robot ++
    "\n  channel_id: " ++ toString key.channelId ++ "\n  pdu_name: " ++ pduName ++
    "\n  payload_size: " ++ toString payloadSize ++ "\n  epoch: " ++ epoch

/-- Source: `MonitorClient::subscribe_tail_channel`, what the callback of a channel writes;
`getPduName` is the client's endpoint. -/
def tailLine (getPduName : PduResolvedKey → String) (hakoPduGetEpoch : Bytes → Option UInt8)
    (targets : TailTargets) (timestampUsec : Int) (key : PduResolvedKey) (data : Bytes) : String :=
  formatTailLine timestampUsec key data.length
    (resolvePduName (getPduName key) key targets.names) (tryGetEpoch hakoPduGetEpoch data)

/-- Source: `run_tail`, from the session on. When the loop in between ends is a matter of the time
and of the signals. -/
def tailSession (err : List String) (sessionId : String) : CommandScript :=
  let subscribed := "tail subscribed session_id=" ++ sessionId
  .ask (unsubscribeRequest sessionId) fun res =>
    res.elim (failWith (err ++ ["Failed to unsubscribe: timeout"]) [subscribed]) fun res =>
      (makeControlErrorMessage res).elim
        (.done (.ok
          { out := [subscribed, "tail unsubscribed session_id=" ++ sessionId], err := err }))
        fun message => failWith (err ++ [message]) [subscribed]

/-- Source: `bridge_monitor_cli.cpp`, `run_tail`. -/
def runTail (cast : String → Int) (getPduChannelId : PduKey → Int)
    (connectionId policy : String) (intervalMs : Int) : CommandScript :=
  requestOrDie (listPdusRequest connectionId) [] fun pdusRes =>
    match tailTargets cast getPduChannelId pdusRes with
    | .error e => .done (.error e)
    | .ok targets =>
      if targets.channels = [] then
        failWith (targets.skipped ++ ["No monitor targets were resolved from list_pdus"]) []
      else
        requestOrDie (makeSubscribeRequest connectionId policy intervalMs) targets.skipped
          fun res => (res.getString? "session_id").elim
            (failWith (targets.skipped ++ ["Invalid subscribed response"]) [])
            (tailSession targets.skipped)

/-! ## The command line -/

/-- Source: `std::atoi`; what becomes of a number that is no `int` is left open. -/
def atoi (outOfRange : String → Int) (text : String) : Int :=
  let chars := text.toList.dropWhile fun c => decide (c = ' ' ∨ '\t' ≤ c ∧ c ≤ '\r')
  let digits := (if chars.head? = some '-' ∨ chars.head? = some '+' then chars.tail else chars)
    |>.takeWhile Char.isDigit
  let n : Int := Nat.ofDigitChars 10 digits 0
  let signed := if chars.head? = some '-' then -n else n
  if -2 ^ 31 ≤ signed ∧ signed < 2 ^ 31 then signed else outOfRange text

/-- Source: `bridge_monitor_cli.cpp`, `print_usage`. -/
def usage (program : String) : String :=
  let line := fun arguments => "  " ++ program ++ " <endpoint.json> " ++ arguments ++ "\n"
  "Usage:\n" ++ line "health" ++ line "connections" ++ line "sessions" ++
    line "list_pdus <connection_id>" ++
    line "subscribe <connection_id> [immediate|throttle|ticker] [interval_ms]" ++
    line "unsubscribe <session_id>" ++
    line "tail <connection_id> [immediate|throttle|ticker] [interval_ms] [duration_sec]"

/-- A command with one request. -/
inductive Query
  | health
  | connections
  | sessions
  | listPdus (connectionId : String)
  | subscribe (connectionId policy : String) (intervalMs : Int)
  | unsubscribe (sessionId : String)

/-- What the arguments call for. -/
inductive Command
  | query (query : Query)
  | tail (connectionId policy : String) (intervalMs : Int)

/-- Source: `bridge_monitor_cli.cpp`, `main`, the interval of a subscription. -/
def intervalArg (outOfRange : String → Int) (interval : Option String) : Int :=
  (interval.map fun text => max 1 (atoi outOfRange text)).getD 0

/-- Source: `bridge_monitor_cli.cpp`, `main`, the arguments behind the endpoint's configuration;
`none` is the usage. The duration of `tail` is read for its loop only. -/
def readCommand (outOfRange : String → Int) : List String → Option Command
  | "health" :: _ => some (.query .health)
  | "connections" :: _ => some (.query .connections)
  | "sessions" :: _ => some (.query .sessions)
  | "list_pdus" :: connectionId :: _ => some (.query (.listPdus connectionId))
  | "subscribe" :: connectionId :: rest =>
    some (.query (.subscribe connectionId (rest.head?.getD "") (intervalArg outOfRange rest[1]?)))
  | "unsubscribe" :: sessionId :: _ => some (.query (.unsubscribe sessionId))
  | "tail" :: connectionId :: rest =>
    some (.tail connectionId (rest.head?.getD "") (intervalArg outOfRange rest[1]?))
  | _ => none

/-- Source: `bridge_monitor_cli.cpp`, `main`, the request of a command. -/
def queryRequest : Query → Members
  | .health => [("type", .str "health")]
  | .connections => [("type", .str "list_connections")]
  | .sessions => [("type", .str "list_sessions")]
  | .listPdus connectionId => listPdusRequest connectionId
  | .subscribe connectionId policy intervalMs => makeSubscribeRequest connectionId policy intervalMs
  | .unsubscribe sessionId => unsubscribeRequest sessionId

/-- Source: `bridge_monitor_cli.cpp`, `main`, what a command makes of an answer. -/
def queryResult (cast : String → Int) (query : Query) (res : Json) :
    Except JsonException CommandEnd :=
  match query with
  | .health => printHealth cast res
  | .connections => printConnections cast res
  | .sessions => printSessions res
  | .listPdus _ => printPdus cast res
  | .subscribe _ _ _ =>
    (res.value Json.toStr "session_id" "").map fun sessionId =>
      { out := ["session_id=" ++ sessionId] }
  | .unsubscribe _ => .ok { out := ["ok"] }

/-- Source: `bridge_monitor_cli.cpp`, `main`, the commands. -/
def commandScript (cast : String → Int) (getPduChannelId : PduKey → Int) :
    Command → CommandScript
  | .query query =>
    requestOrDie (queryRequest query) [] fun res => .done (queryResult cast query res)
  | .tail connectionId policy intervalMs =>
    runTail cast getPduChannelId connectionId policy intervalMs

/-- Source: `bridge_monitor_cli.cpp`, `main`, from the start of the client on. -/
def mainScript (cast outOfRange : String → Int) (getPduChannelId : PduKey → Int)
    (program : String) (args : List String) : CommandScript :=
  (readCommand outOfRange args).elim (failWith [usage program] [])
    (commandScript cast getPduChannelId)

/-! ## No request after one without an answer -/

theorem givesUp_requestOrDie (req : Members) (err : List String) {next : Json → CommandScript}
    (h : ∀ res, (next res).GivesUp) : (requestOrDie req err next).GivesUp := by
  refine ⟨⟨_, rfl⟩, fun res => ?_⟩
  dsimp only [Option.elim_some]
  cases makeControlErrorMessage res with
  | none => exact h res
  | some message => exact trivial

theorem givesUp_tailSession (err : List String) (sessionId : String) :
    (tailSession err sessionId).GivesUp := by
  refine ⟨⟨_, rfl⟩, fun res => ?_⟩
  dsimp only [Option.elim_some]
  cases makeControlErrorMessage res <;> exact trivial

theorem givesUp_runTail (cast : String → Int) (getPduChannelId : PduKey → Int)
    (connectionId policy : String) (intervalMs : Int) :
    (runTail cast getPduChannelId connectionId policy intervalMs).GivesUp := by
  refine givesUp_requestOrDie _ _ fun pdusRes => ?_
  split
  · exact trivial
  · split_ifs
    · exact trivial
    · refine givesUp_requestOrDie _ _ fun res => ?_
      cases res.getString? "session_id" with
      | none => exact trivial
      | some sessionId => exact givesUp_tailSession _ sessionId

/-- A command ends as soon as a request stays unanswered. -/
theorem givesUp_commandScript (cast : String → Int) (getPduChannelId : PduKey → Int)
    (command : Command) : (commandScript cast getPduChannelId command).GivesUp := by
  cases command with
  | query query => exact givesUp_requestOrDie _ _ fun _ => trivial
  | tail connectionId policy intervalMs => exact givesUp_runTail _ _ _ _ _

theorem givesUp_mainScript (cast outOfRange : String → Int) (getPduChannelId : PduKey → Int)
    (program : String) (args : List String) :
    (mainScript cast outOfRange getPduChannelId program args).GivesUp := by
  unfold mainScript
  cases readCommand outOfRange args with
  | none => exact trivial
  | some command => exact givesUp_commandScript cast getPduChannelId command

end MonitorCli

end HakoniwaBridge
