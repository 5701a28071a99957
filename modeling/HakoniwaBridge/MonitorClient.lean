import HakoniwaBridge.Conformance
import HakoniwaBridge.MonitorCli

/-!
# Requests of the monitor client

`MonitorClient::request` of `bridge_monitor_cli.cpp`, with a bridge at the other end of an in-order
channel. The client has one slot for an answer: the receive callback fills it with whatever
arrives, `request` clears it when it begins and takes what it then finds there.

* `MonitorClient`, `Exchange` — the client, and the client and the bridge with the requests and the
  answers in flight; each is marked with the call of `request` that it belongs to. The marks are
  not part of the messages.
* `Exchange.Sound` — the invariant: what belongs to the running call carries its `request_id`.
* `ownAnswer_run` — as long as no answer to an earlier request arrives while a request is running,
  a request that returns an answer with a `request_id` returns one with its own.

A late answer is taken for the answer to the next request (`takes_late_answer`).
-/

namespace HakoniwaBridge

open Lib

variable {ε : Type}

/-- Source: `json::operator[]` with an assignment: a member of that name is replaced. -/
def Json.assign (j : Json) (name : String) (v : Json) : Except JsonException Json :=
  match j with
  | .null => .ok (.obj [(name, v)])
  | .obj members => .ok (.obj (members.filter (fun m => m.1 != name) ++ [(name, v)]))
  | _ => .error (.typeError 305)

/-- A member that is assigned is found. -/
theorem Json.get?_assign {j j' : Json} {name : String} {v : Json}
    (h : j.assign name v = .ok j') : j'.get? name = some v := by
  unfold Json.assign at h
  split at h
  · obtain rfl := Except.ok.inj h
    simp [Json.get?]
  · next members =>
    obtain rfl := Except.ok.inj h
    have hnone : (members.filter fun m => m.1 != name).find? (fun m => m.1 == name) = none :=
      List.find?_eq_none.2 fun m hm => by simpa using (List.mem_filter.1 hm).2
    rw [Json.get?_append, Json.get?, hnone, if_pos rfl]
    rfl
  · exact absurd h (by simp)

/-! ## The client -/

/-- A call of `request`: its number, the `request_id` that it made, the request with it, and
whether it was sent. -/
structure RequestCall where
  call : Nat
  requestId : String
  req : Json
  sent : Bool

/-- Source: `bridge_monitor_cli.cpp`, `MonitorClient`; `running` is what the thread that calls
`request` is doing. -/
structure MonitorClient where
  initialized : Bool := false
  hasResponse : Bool := false
  latestResponse : Json := .null
  running : Option RequestCall := none

/-- The call of `request` that made the `request_id` ends. -/
inductive RequestEvent
  | returned (requestId : String) (res : Option Json)
  | threw (requestId : String) (e : JsonException)

namespace MonitorClient

/-- Source: `MonitorClient::initialize`, with what `open` and `start` return. -/
def initializeClient (openErr startErr : HakoPduErrorType) (c : MonitorClient) : MonitorClient :=
  if openErr ≠ .ok then c
  else if startErr ≠ .ok then c
  else { c with initialized := true }

/-- Source: `MonitorClient::shutdown`. -/
def shutdown (c : MonitorClient) : MonitorClient := { c with initialized := false }

/-- Source: `MonitorClient::initialize`, the callback on the key of the answers. -/
def onRecv (res : Json) (c : MonitorClient) : MonitorClient :=
  { c with latestResponse := res, hasResponse := true }

/-- Source: `MonitorClient::request`, up to the loop that sends. -/
def request (call : Nat) (req : Json) (requestId : String) (c : MonitorClient) :
    MonitorClient × List RequestEvent :=
  if c.initialized = false then (c, [.returned requestId none])
  else
    let cleared := { c with hasResponse := false, latestResponse := .null }
    match req.assign "request_id" (.str requestId) with
    | .error e => (cleared, [.threw requestId e])
    | .ok stamped =>
      ({ cleared with running := some ⟨call, requestId, stamped, false⟩ }, [])

/-- Source: `MonitorClient::request`, one turn of the loop that sends: what `send` returned, and
whether the time is up. -/
def sendTurn (err : HakoPduErrorType) (expired : Bool) (r : RequestCall) (c : MonitorClient) :
    MonitorClient × List RequestEvent :=
  if err = .ok then ({ c with running := some { r with sent := true } }, [])
  else if expired then ({ c with running := none }, [.returned r.requestId none])
  else (c, [])

/-- Source: `MonitorClient::request`, one turn of the loop that waits: the look at the slot, and
whether the time is up. -/
def waitTurn (expired : Bool) (r : RequestCall) (c : MonitorClient) :
    MonitorClient × List RequestEvent :=
  if c.hasResponse then
    ({ c with running := none }, [.returned r.requestId (some c.latestResponse)])
  else if expired then ({ c with running := none }, [.returned r.requestId none])
  else (c, [])

end MonitorClient

/-! ## The client and the bridge -/

/-- A message in flight, and the call of `request` that it belongs to. -/
structure InFlight where
  call : Nat
  body : Json

/-- The client, the bridge, what is in flight between them, and how often `request` was called. -/
structure Exchange (ε : Type) where
  bridge : Bridge ε
  client : MonitorClient := {}
  calls : Nat := 0
  requests : List InFlight := []
  responses : List InFlight := []

/-- The client's thread calls and takes its turns, an answer is delivered, the bridge serves a
request, or it does anything else. -/
inductive ExchangeOp (ε : Type)
  | initializeClient (openErr startErr : HakoPduErrorType)
  | shutdown
  | request (req : Json) (requestId : String)
  | sendTurn (err : HakoPduErrorType) (expired : Bool)
  | waitTurn (expired : Bool)
  | deliver
  | serve (stopAt : Option Nat)
  | bridge (op : Op ε)

namespace Exchange

variable (E : Env ε)

/-- The client makes a step. -/
def onClient (x : Exchange ε) (r : MonitorClient × List RequestEvent) :
    Exchange ε × List RequestEvent :=
  ({ x with client := r.1 }, r.2)

/-- One step. The client calls nothing while `request` is running, and takes no turns otherwise.
The bridge knows the client's endpoint by `name`. -/
def step (name : String) (x : Exchange ε) (op : ExchangeOp ε) : Exchange ε × List RequestEvent :=
  match op, x.client.running with
  | .initializeClient openErr startErr, none =>
    x.onClient (x.client.initializeClient openErr startErr, [])
  | .shutdown, none => x.onClient (x.client.shutdown, [])
  | .request req requestId, none =>
    onClient { x with calls := x.calls + 1 } (x.client.request x.calls req requestId)
  | .sendTurn err expired, some r =>
    if r.sent then (x, [])
    else if err = .ok then
      onClient { x with requests := x.requests ++ [⟨r.call, r.req⟩] }
        (x.client.sendTurn err expired r)
    else x.onClient (x.client.sendTurn err expired r)
  | .waitTurn expired, some r =>
    if r.sent then x.onClient (x.client.waitTurn expired r) else (x, [])
  | .deliver, _ =>
    match x.responses with
    | m :: rest =>
      if x.client.initialized then
        onClient { x with responses := rest } (x.client.onRecv m.body, [])
      else (x, [])
    | [] => (x, [])
  | .serve stopAt, _ =>
    match x.requests with
    | m :: rest =>
      let served := x.bridge.controlMessage E stopAt name (some m.body)
      ({ x with
         bridge := served.1
         requests := rest
         responses := x.responses ++ served.2.toList.map fun res => ⟨m.call, res⟩ }, [])
    | [] => (x, [])
  | .bridge op, _ => ({ x with bridge := (x.bridge.step E op).1 }, [])
  | _, _ => (x, [])

variable {E}

/-! ## The steps of the client -/

section equations

variable {name : String} {x : Exchange ε} {r : RequestCall}

/-- A call begins. -/
theorem step_request (hidle : x.client.running = none) (req : Json) (requestId : String) :
    x.step E name (.request req requestId) =
      onClient { x with calls := x.calls + 1 } (x.client.request x.calls req requestId) := by
  unfold step
  simp only [hidle]

/-- A turn of the loop that sends. -/
theorem step_sendTurn (hrunning : x.client.running = some r) (err : HakoPduErrorType)
    (expired : Bool) :
    x.step E name (.sendTurn err expired) =
      if r.sent then (x, [])
      else if err = .ok then
        onClient { x with requests := x.requests ++ [⟨r.call, r.req⟩] }
          (x.client.sendTurn err expired r)
      else x.onClient (x.client.sendTurn err expired r) := by
  unfold step
  simp only [hrunning]

/-- A turn of the loop that waits. -/
theorem step_waitTurn (hrunning : x.client.running = some r) (expired : Bool) :
    x.step E name (.waitTurn expired) =
      if r.sent then x.onClient (x.client.waitTurn expired r) else (x, []) := by
  unfold step
  simp only [hrunning]

end equations

/-! ## Whose answer it is -/

/-- A call of `request` that returns an answer with a `request_id` made this `request_id`. -/
def OwnAnswer (E : Env ε) (name : String) (x : Exchange ε) (op : ExchangeOp ε) : Prop :=
  ∀ requestId res, .returned requestId (some res) ∈ (x.step E name op).2 →
    ∀ v, res.get? "request_id" = some v → v = .str requestId

/-- While a request is running, no answer to an earlier one arrives. -/
def NoLateAnswer (x : Exchange ε) (op : ExchangeOp ε) : Prop :=
  match op with
  | .deliver => ∀ r, x.client.running = some r → ∀ m, x.responses.head? = some m → r.call ≤ m.call
  | _ => True

/-- What belongs to a running call carries its `request_id`. -/
structure OwnTraffic (x : Exchange ε) (r : RequestCall) : Prop where
  latest : x.calls = r.call + 1
  stamped : r.req.getString? "request_id" = some r.requestId
  requests : ∀ m ∈ x.requests, m.call = r.call → m.body = r.req
  responses : ∀ m ∈ x.responses, m.call = r.call →
    m.body.get? "request_id" = some (.str r.requestId)
  slot : x.client.hasResponse = true →
    x.client.latestResponse.get? "request_id" = some (.str r.requestId)

/-- The invariant. -/
structure Sound (x : Exchange ε) : Prop where
  requests_lt : ∀ m ∈ x.requests, m.call < x.calls
  responses_lt : ∀ m ∈ x.responses, m.call < x.calls
  own : ∀ r, x.client.running = some r → x.OwnTraffic r

/-- The bridge answers a request with its `request_id`, if it answers. -/
theorem echo_controlMessage {stopAt : Option Nat} {name : String} {req res : Json}
    {b : Bridge ε} (h : (b.controlMessage E stopAt name (some req)).2 = some res) :
    res.get? "request_id" = (req.getString? "request_id").map .str := by
  unfold Bridge.controlMessage at h
  split_ifs at h
  obtain rfl := Option.some.inj h
  exact Bridge.echo_handleRequest E none stopAt req _ b

variable {name : String} {x : Exchange ε}

/-- No request is running. -/
theorem Sound.of_idle (hrequests : ∀ m ∈ x.requests, m.call < x.calls)
    (hresponses : ∀ m ∈ x.responses, m.call < x.calls) (hidle : x.client.running = none) :
    x.Sound :=
  ⟨hrequests, hresponses, fun r hr => absurd (hidle.symm.trans hr) (by simp)⟩

/-- A call that begins has no messages under way. -/
theorem Sound.request (h : x.Sound) (hidle : x.client.running = none) (req : Json)
    (requestId : String) : (x.step E name (.request req requestId)).1.Sound := by
  have hrequests : ∀ m ∈ x.requests, m.call < x.calls + 1 :=
    fun m hm => Nat.lt_succ_of_lt (h.requests_lt m hm)
  have hresponses : ∀ m ∈ x.responses, m.call < x.calls + 1 :=
    fun m hm => Nat.lt_succ_of_lt (h.responses_lt m hm)
  rw [step_request hidle]
  simp only [hidle, onClient, MonitorClient.request]
  split_ifs with hinit
  · exact .of_idle hrequests hresponses hidle
  · cases hassign : req.assign "request_id" (.str requestId) with
    | error e => exact .of_idle hrequests hresponses rfl
    | ok stamped =>
      refine ⟨hrequests, hresponses, ?_⟩
      rintro r hr
      obtain rfl := Option.some.inj hr
      -- the call is new: nothing in flight belongs to it
      refine ⟨rfl, ?_, fun m hm hcall => ?_, fun m hm hcall => ?_, fun hslot => ?_⟩
      · rw [Json.getString?, Json.get?_assign hassign]
      · exact absurd hcall (Nat.ne_of_lt (h.requests_lt m hm))
      · exact absurd hcall (Nat.ne_of_lt (h.responses_lt m hm))
      · exact absurd hslot (by simp)

/-- A request is sent under the number of its call. -/
theorem Sound.sendTurn (h : x.Sound) {r : RequestCall} (hrunning : x.client.running = some r)
    (err : HakoPduErrorType) (expired : Bool) :
    (x.step E name (.sendTurn err expired)).1.Sound := by
  have hown := h.own r hrunning
  rw [step_sendTurn hrunning]
  simp only [onClient, MonitorClient.sendTurn]
  split_ifs
  · exact h
  · -- the request is sent, and belongs to the call
    refine ⟨fun m hm => ?_, h.responses_lt, ?_⟩
    · rcases List.mem_append.1 hm with hm | hm
      · exact h.requests_lt m hm
      · have hlatest := hown.latest
        rw [List.mem_singleton.1 hm]
        dsimp only
        omega
    · rintro r' hr'
      obtain rfl := Option.some.inj hr'
      refine ⟨hown.latest, hown.stamped, fun m hm hcall => ?_, hown.responses, hown.slot⟩
      rcases List.mem_append.1 hm with hm | hm
      · exact hown.requests m hm hcall
      · rw [List.mem_singleton.1 hm]
  · exact .of_idle h.requests_lt h.responses_lt rfl
  · exact h

/-- The loop that waits sends nothing. -/
theorem Sound.waitTurn (h : x.Sound) {r : RequestCall} (hrunning : x.client.running = some r)
    (expired : Bool) : (x.step E name (.waitTurn expired)).1.Sound := by
  rw [step_waitTurn hrunning]
  simp only [onClient, MonitorClient.waitTurn]
  split_ifs
  · exact .of_idle h.requests_lt h.responses_lt rfl
  · exact .of_idle h.requests_lt h.responses_lt rfl
  · exact h
  · exact h

/-- What is delivered is no answer to a call before. -/
theorem Sound.deliver (h : x.Sound) (hop : x.NoLateAnswer .deliver) :
    (x.step E name .deliver).1.Sound := by
  unfold step
  cases hresponses : x.responses with
  | nil => exact h
  | cons m rest =>
    dsimp only
    have hrest : ∀ m' ∈ rest, m' ∈ x.responses := fun m' hm' => by
      rw [hresponses]
      exact List.mem_cons_of_mem m hm'
    have hm : m ∈ x.responses := by
      rw [hresponses]
      exact List.mem_cons_self
    split_ifs
    · refine ⟨h.requests_lt, fun m' hm' => h.responses_lt m' (hrest m' hm'), fun r hr => ?_⟩
      have hown := h.own r hr
      refine ⟨hown.latest, hown.stamped, hown.requests,
        fun m' hm' => hown.responses m' (hrest m' hm'), fun _ => hown.responses m hm ?_⟩
      -- not an earlier call, and there is no later one
      have hle := hop r hr m (by rw [hresponses, List.head?_cons])
      have hlt := h.responses_lt m hm
      have hlatest := hown.latest
      omega
    · exact h

/-- The answer of the bridge has the number of its request. -/
theorem Sound.serve (h : x.Sound) (stopAt : Option Nat) :
    (x.step E name (.serve stopAt)).1.Sound := by
  unfold step
  cases hrequests : x.requests with
  | nil => exact h
  | cons m rest =>
    dsimp only
    have hrest : ∀ m' ∈ rest, m' ∈ x.requests := fun m' hm' => by
      rw [hrequests]
      exact List.mem_cons_of_mem m hm'
    have hm : m ∈ x.requests := by
      rw [hrequests]
      exact List.mem_cons_self
    refine ⟨fun m' hm' => h.requests_lt m' (hrest m' hm'), fun m' hm' => ?_, fun r hr => ?_⟩
    · rcases List.mem_append.1 hm' with hm' | hm'
      · exact h.responses_lt m' hm'
      · obtain ⟨res, -, rfl⟩ := List.mem_map.1 hm'
        exact h.requests_lt m hm
    · have hown := h.own r hr
      refine ⟨hown.latest, hown.stamped, fun m' hm' => hown.requests m' (hrest m' hm'),
        fun m' hm' hcall => ?_, hown.slot⟩
      rcases List.mem_append.1 hm' with hm' | hm'
      · exact hown.responses m' hm' hcall
      · obtain ⟨res, hres, rfl⟩ := List.mem_map.1 hm'
        rw [echo_controlMessage (Option.mem_toList.1 hres), hown.requests m hm hcall, hown.stamped]
        rfl

/-- Other operations of the bridge send nothing to the client. -/
theorem Sound.bridge (h : x.Sound) (op : Op ε) : (x.step E name (.bridge op)).1.Sound :=
  ⟨h.requests_lt, h.responses_lt, fun r hr =>
    have hown := h.own r hr
    ⟨hown.latest, hown.stamped, hown.requests, hown.responses, hown.slot⟩⟩

/-- **Step lemma.** -/
theorem Sound.step (h : x.Sound) {op : ExchangeOp ε} (hop : x.NoLateAnswer op) :
    (x.step E name op).1.Sound := by
  cases hrunning : x.client.running with
  | none =>
    cases op with
    | initializeClient openErr startErr =>
      unfold Exchange.step
      simp only [hrunning, onClient, MonitorClient.initializeClient]
      split_ifs
      · exact .of_idle h.requests_lt h.responses_lt hrunning
      · exact .of_idle h.requests_lt h.responses_lt hrunning
      · exact .of_idle h.requests_lt h.responses_lt rfl
    | shutdown =>
      unfold Exchange.step
      simp only [hrunning, onClient]
      exact .of_idle h.requests_lt h.responses_lt hrunning
    | request req requestId => exact h.request hrunning req requestId
    | deliver => exact h.deliver hop
    | serve stopAt => exact h.serve stopAt
    | bridge op => exact h.bridge op
    | _ =>
      unfold Exchange.step
      simp only [hrunning]
      exact h
  | some r =>
    cases op with
    | sendTurn err expired => exact h.sendTurn hrunning err expired
    | waitTurn expired => exact h.waitTurn hrunning expired
    | deliver => exact h.deliver hop
    | serve stopAt => exact h.serve stopAt
    | bridge op => exact h.bridge op
    | _ =>
      unfold Exchange.step
      simp only [hrunning]
      exact h

/-- Only a turn of the loop that waits returns an answer, the one in the slot. -/
theorem returned_of_step {op : ExchangeOp ε} {requestId : String} {res : Json}
    (h : .returned requestId (some res) ∈ (x.step E name op).2) :
    ∃ r, x.client.running = some r ∧ requestId = r.requestId ∧ x.client.hasResponse = true ∧
      res = x.client.latestResponse := by
  unfold Exchange.step at h
  split at h
  · simp [onClient] at h
  · simp [onClient] at h
  · -- `request` itself returns no answer
    simp only [onClient, MonitorClient.request] at h
    split_ifs at h
    · simp at h
    · split at h <;> simp at h
  · next r hrunning =>
    simp only [onClient, MonitorClient.sendTurn] at h
    split_ifs at h <;> simp at h
  · next r hrunning =>
    simp only [onClient, MonitorClient.waitTurn] at h
    split_ifs at h with _ hslot <;> simp at h
    exact ⟨r, hrunning, h.1, hslot, h.2⟩
  · split at h
    · split_ifs at h <;> simp [onClient] at h
    · simp at h
  · split at h <;> simp at h
  · simp at h
  · simp at h

/-- **Own answers.** Given a client and any bridge, and any interleaving of the requests of the
client, of what the bridge does and of what the channels deliver. If no answer to an earlier
request arrives while a request is running, then each request that returns an answer with a
`request_id` returns one with the `request_id` that it made. -/
theorem ownAnswer_run (E : Env ε) (name : String) (b : Bridge ε) {ops : List (ExchangeOp ε)}
    (hops : Along (step E name) NoLateAnswer { bridge := b } ops) :
    Along (step E name) (OwnAnswer E name) { bridge := b } ops := by
  refine along_of_invariant (P := Sound) (fun x op h hop => h.step hop) ?_ ?_ hops
  · intro x op h _ requestId res hreturned v hv
    obtain ⟨r, hrunning, rfl, hslot, rfl⟩ := returned_of_step hreturned
    have hown := (h.own r hrunning).slot hslot
    exact Option.some.inj (hv.symm.trans hown)
  · exact .of_idle (by simp) (by simp) rfl

/-- A client and the small bridge. -/
def exchangeSmall : Exchange CacheState where
  bridge :=
    (Bridge.bootSmall .latest ⟨"immediate", none, none⟩ [⟨"k", "r", "pos"⟩] false).get rfl

/-- The bridge accepts the endpoint of the client. -/
def connecting : List (ExchangeOp CacheState) :=
  [.bridge .attachMonitorRuntime, .bridge .start,
    .bridge (.initializeRuntime { enableOndemand := true, ondemandMuxConfigPath := "mux" } .ok .ok),
    .bridge (.cyclicTrigger ["client"]), .initializeClient .ok .ok]

/-- A request that times out before it is answered. -/
def timingOut : List (ExchangeOp CacheState) :=
  [.request (.obj [("type", .str "health")]) "1", .sendTurn .ok false, .waitTurn true]

/-- The answer arrives before the next request begins. -/
theorem ownAnswer_small :
    Along (step ((CacheSpec.small .latest).env none) "client")
      (OwnAnswer ((CacheSpec.small .latest).env none) "client") exchangeSmall
      (connecting ++ timingOut ++ [.serve none, .deliver,
        .request (.obj [("type", .str "list_connections")]) "2", .sendTurn .ok false, .serve none,
        .deliver, .waitTurn false]) := by
  apply ownAnswer_run
  refine ⟨trivial, trivial, trivial, trivial, trivial, trivial, trivial, trivial, trivial, ?_,
    trivial, trivial, trivial, ?_, trivial, trivial⟩
  · intro r hr
    exact absurd hr.symm (Option.some_ne_none r)
  · rintro r hr m hm
    obtain rfl := Option.some.inj hr
    obtain rfl := Option.some.inj hm
    exact le_rfl

/-- The answer arrives during the next request, which returns it. -/
theorem takes_late_answer :
    ¬ Along (step ((CacheSpec.small .latest).env none) "client")
      (OwnAnswer ((CacheSpec.small .latest).env none) "client") exchangeSmall
      (connecting ++ timingOut ++ [.request (.obj [("type", .str "list_connections")]) "2",
        .sendTurn .ok false, .serve none, .deliver, .waitTurn false]) := by
  intro halong
  have hlast := (along_append.1 halong).2.2.2.2.2.1
  have hown := hlast "2" _ List.mem_cons_self (.str "1") rfl
  exact absurd (Json.str.inj hown) (by decide)

end Exchange

end HakoniwaBridge
