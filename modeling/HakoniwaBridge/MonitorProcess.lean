import HakoniwaBridge.MonitorClient
import HakoniwaBridge.MonitorCommands

/-!
# The process of the monitor client

A command of the client (`CommandScript`) over its connection to a bridge: the loops of `request`,
the messages in flight, and whatever else happens to the bridge meanwhile.

* `MonitorProcess.step` — a turn of the process, a delivery, a request served, or an operation of
  the bridge.
* `Linked` — the invariant: what the process has come to, it can also come to when each of its
  requests is asked and answered in one step.
* `atomic_run` — **a command that ends when a request stays unanswered runs as if its requests were
  atomic**: no answer is lost or taken for that of another request, and of the requests at most
  one, the last, is served without the command's having its answer.
-/

namespace HakoniwaBridge

open Lib

variable {ε α : Type}

/-- Source: `MonitorClient::request`, the request with its `request_id`. -/
def stamped (requestId : String) (req : Members) : Json :=
  .obj (req.filter (fun m => m.1 != "request_id") ++ [("request_id", .str requestId)])

/-- The client and the bridge, and what the client's thread has still to do. -/
structure MonitorProcess (ε α : Type) where
  exchange : Exchange ε
  script : Script Members Json α

/-- The process takes a turn, in which it may make a `request_id`, send, and find that the time is
up; an answer is delivered; the bridge serves a request, or does anything else. -/
inductive ProcessOp (ε : Type)
  | turn (requestId : String) (err : HakoPduErrorType) (expired : Bool)
  | deliver
  | serve (stopAt : Option Nat)
  | bridge (op : Op ε)

/-- What else the bridge does. -/
def ProcessOp.bridge? : ProcessOp ε → Option (Op ε)
  | .bridge op => some op
  | _ => none

/-- The program goes on once `request` has returned. An exception would end it otherwise, but a
request that is an object causes none. -/
def resume (script : Script Members Json α) (event : RequestEvent) : Script Members Json α :=
  match event, script with
  | .returned _ res, .ask _ next => next res
  | _, script => script

namespace MonitorProcess

/-- The next turn of the client's thread: at the end the client is destroyed. -/
def nextTurn (requestId : String) (err : HakoPduErrorType) (expired : Bool)
    (p : MonitorProcess ε α) : ExchangeOp ε :=
  match p.script, p.exchange.client.running with
  | .done _, _ => .shutdown
  | .ask req _, none => .request (.obj req) requestId
  | .ask _ _, some r => if r.sent then .waitTurn expired else .sendTurn err expired

/-- One step, with what is seen of the bridge. -/
def step (E : Env ε) (name : String) (p : MonitorProcess ε α) (op : ProcessOp ε) :
    MonitorProcess ε α × List Event :=
  match op with
  | .turn requestId err expired =>
    let r := p.exchange.step E name (p.nextTurn requestId err expired)
    (⟨r.1, r.2.foldl resume p.script⟩, [])
  | .deliver => ({ p with exchange := (p.exchange.step E name .deliver).1 }, [])
  | .serve stopAt =>
    ({ p with exchange := (p.exchange.step E name (.serve stopAt)).1 },
      match p.exchange.requests with
      | m :: _ => (p.exchange.bridge.step E (.controlMessage stopAt name (some m.body))).2
      | [] => [])
  | .bridge op =>
    ({ p with exchange := (p.exchange.step E name (.bridge op)).1 },
      (p.exchange.bridge.step E op).2)

/-- The process at its start. -/
def start (b : Bridge ε) (script : Script Members Json α) : MonitorProcess ε α :=
  ⟨{ bridge := b, client := { initialized := true } }, script⟩

end MonitorProcess

/-! ## Atomic requests -/

/-- The message with a request of the client; `how` is the attach that it may cause, and the
`request_id`. -/
def requestOp (name : String) (how : Option Nat × String) (req : Members) : Op ε :=
  .controlMessage how.1 name (some (stamped how.2 req))

/-- The answer of the bridge to a request of the client. -/
def answerOf (E : Env ε) (name : String) (how : Option Nat × String) (req : Members)
    (b : Bridge ε) : Option Json :=
  (b.controlMessage E how.1 name (some (stamped how.2 req))).2

/-- A command and the bridge, with atomic requests. -/
abbrev atomicStep (E : Env ε) (name : String) (bp : Bridge ε × Script Members Json α)
    (turn : Turn Members (Op ε) (Option Nat × String)) :
    (Bridge ε × Script Members Json α) × List Event :=
  Script.step (Bridge.step E) (requestOp name) (answerOf E name) bp turn

/-- What is kept by other operations, by a request that is answered, by one that is served unheard,
and by the end of the patience. It may speak of the operations beside the command, the observations,
the number of requests unheard, the bridge, and what the command has still to do. -/
structure Tracks (E : Env ε) (name : String)
    (R : List (Op ε) → List Event → ℕ → Bridge ε → Script Members Json α → Prop) : Prop where
  other : ∀ {others events k b p}, R others events k b p → ∀ op,
    R (others ++ [op]) (events ++ (b.step E op).2) k (b.step E op).1 p
  answered : ∀ {others events b req next}, R others events 0 b (.ask req next) → ∀ how,
    R others (events ++ (b.step E (requestOp name how req)).2) 0
      (b.step E (requestOp name how req)).1
      (((answerOf E name how req b).map fun res => next (some res)).getD (.ask req next))
  unheard : ∀ {others events k b p}, R others events k b p → ∀ how req,
    R others (events ++ (b.step E (requestOp name how req)).2) (k + 1)
      (b.step E (requestOp name how req)).1 p
  unanswered : ∀ {others events k b req next}, R others events k b (.ask req next) →
    R others events k b (next none)

/-- From `b₀` and the program `p₀` atomic requests lead to `b` and `p`, with the given operations
beside them, the given observations, and `k` requests unheard. -/
structure Reaches (E : Env ε) (name : String) (b₀ : Bridge ε) (p₀ : Script Members Json α)
    (others : List (Op ε)) (events : List Event) (k : Nat) (b : Bridge ε)
    (p : Script Members Json α) : Prop where
  exists_turns : ∃ turns, run (atomicStep E name) (b₀, p₀) turns = ((b, p), events) ∧
    turns.filterMap Turn.other? = others ∧ turns.countP Turn.isUnheard = k

namespace Reaches

variable {E : Env ε} {name : String} {b₀ b : Bridge ε} {p₀ p : Script Members Json α}
  {others : List (Op ε)} {events : List Event} {k : Nat}

/-- One more turn. -/
theorem snoc (h : Reaches E name b₀ p₀ others events k b p)
    (turn : Turn Members (Op ε) (Option Nat × String)) :
    Reaches E name b₀ p₀ (others ++ turn.other?.toList)
      (events ++ (atomicStep E name (b, p) turn).2) (k + if turn.isUnheard then 1 else 0)
      (atomicStep E name (b, p) turn).1.1 (atomicStep E name (b, p) turn).1.2 := by
  obtain ⟨turns, hrun, hothers, hunheard⟩ := h
  refine ⟨turns ++ [turn], Prod.ext ?_ ?_, ?_, ?_⟩
  · rw [run_append_fst, hrun]
    rfl
  · rw [run_append_snd, hrun]
    exact congrArg _ (List.append_nil _)
  · rw [List.filterMap_append, hothers]
    cases hother : turn.other? <;> simp [hother]
  · rw [List.countP_append, hunheard, List.countP_singleton]

/-- Atomic turns, one after another, are kept account of. -/
theorem tracks (E : Env ε) (name : String) (b₀ : Bridge ε) (p₀ : Script Members Json α) :
    Tracks E name (Reaches E name b₀ p₀) where
  other h op := h.snoc (.other op)
  answered {others events b req next} h how := by
    have hnext : Reaches E name b₀ p₀ (others ++ []) _ 0 _ _ := h.snoc (.answered how)
    rwa [List.append_nil] at hnext
  unheard {others events k b p} h how req := by
    have hnext : Reaches E name b₀ p₀ (others ++ []) _ (k + 1) _ p := h.snoc (.unheard how req)
    rwa [List.append_nil] at hnext
  unanswered {others events k b req next} h := by
    have hnext : Reaches E name b₀ p₀ (others ++ []) (events ++ []) k b (next none) :=
      h.snoc .unanswered
    rwa [List.append_nil, List.append_nil] at hnext

end Reaches

/-! ## A process and its command -/

namespace Exchange

/-- A request is to be made, and there is no answer yet: it was not made, not sent, not served, or
the bridge did not answer. -/
inductive Pending (x : Exchange ε) (req : Members) : Prop
  | idle (hrunning : x.client.running = none) (hrequests : x.requests = [])
      (hresponses : x.responses = [])
  | unsent (r : RequestCall) (hrunning : x.client.running = some r) (hsent : r.sent = false)
      (hreq : r.req = stamped r.requestId req) (hrequests : x.requests = [])
      (hresponses : x.responses = []) (hslot : x.client.hasResponse = false)
  | sent (r : RequestCall) (m : InFlight) (hrunning : x.client.running = some r)
      (hsent : r.sent = true) (hrequests : x.requests = [m])
      (hbody : m.body = stamped r.requestId req) (hresponses : x.responses = [])
      (hslot : x.client.hasResponse = false)
  | silent (r : RequestCall) (hrunning : x.client.running = some r) (hsent : r.sent = true)
      (hrequests : x.requests = []) (hresponses : x.responses = [])
      (hslot : x.client.hasResponse = false)

/-- The answer is on its way, or in the slot. -/
inductive Answered (x : Exchange ε) (res : Json) : Prop
  | underWay (r : RequestCall) (m : InFlight) (hrunning : x.client.running = some r)
      (hsent : r.sent = true) (hrequests : x.requests = []) (hresponses : x.responses = [m])
      (hbody : m.body = res) (hslot : x.client.hasResponse = false)
  | arrived (r : RequestCall) (hrunning : x.client.running = some r) (hsent : r.sent = true)
      (hrequests : x.requests = []) (hresponses : x.responses = [])
      (hslot : x.client.hasResponse = true) (hlatest : x.client.latestResponse = res)

/-- The one request that may still be under way when the command has ended. -/
inductive Abandoned (x : Exchange ε) : Nat → Prop
  | underWay (m : InFlight) (requestId : String) (req : Members) (hrequests : x.requests = [m])
      (hbody : m.body = stamped requestId req) : Abandoned x 0
  | clear {k : Nat} (hrequests : x.requests = []) (hk : k ≤ 1) : Abandoned x k

end Exchange

/-- The invariant: `R` holds of what the process has come to. Once the bridge has answered, `R`
holds as if the answer had arrived, and also as if it never would. -/
inductive Linked (R : List (Op ε) → List Event → ℕ → Bridge ε → Script Members Json α → Prop)
    (others : List (Op ε)) (events : List Event) : MonitorProcess ε α → Prop
  | pending {x : Exchange ε} {req : Members} {next : Option Json → Script Members Json α}
      (hup : x.client.initialized = true) (hscript : (Script.ask req next).GivesUp)
      (hx : x.Pending req)
      (hreaches : R others events 0 x.bridge (.ask req next)) :
      Linked R others events ⟨x, .ask req next⟩
  | answered {x : Exchange ε} {req : Members} {next : Option Json → Script Members Json α}
      {res : Json} (hup : x.client.initialized = true) (hscript : (Script.ask req next).GivesUp)
      (hx : x.Answered res)
      (hreaches : R others events 1 x.bridge (.ask req next))
      (hnext : R others events 0 x.bridge (next (some res))) :
      Linked R others events ⟨x, .ask req next⟩
  | done {x : Exchange ε} {result : α} {k : Nat} (hx : x.Abandoned k)
      (hreaches : R others events k x.bridge (.done result)) :
      Linked R others events ⟨x, .done result⟩

/-! ## Steps -/

section steps

variable {E : Env ε} {name : String}
  {R : List (Op ε) → List Event → ℕ → Bridge ε → Script Members Json α → Prop}
  {others : List (Op ε)} {events : List Event}

namespace Exchange

variable {x : Exchange ε} {req : Members} {res : Json} {k : Nat}

/-- There is no answer to deliver. -/
theorem deliver_nil (h : x.responses = []) : (x.step E name .deliver).1 = x := by
  unfold step
  simp only [h]

/-- There is no request to serve. -/
theorem serve_nil (h : x.requests = []) (stopAt : Option Nat) :
    (x.step E name (.serve stopAt)).1 = x := by
  unfold step
  simp only [h]

/-- What is delivered concerns the client only. -/
theorem deliver_frame (E : Env ε) (name : String) (x : Exchange ε) :
    (x.step E name .deliver).1.requests = x.requests ∧
    (x.step E name .deliver).1.bridge = x.bridge := by
  unfold step
  dsimp only
  split
  · split_ifs <;> exact ⟨rfl, rfl⟩
  · exact ⟨rfl, rfl⟩

/-- A client that is destroyed leaves its requests behind. -/
theorem shutdown_frame (E : Env ε) (name : String) (x : Exchange ε) :
    (x.step E name .shutdown).1.requests = x.requests ∧
    (x.step E name .shutdown).1.bridge = x.bridge ∧ (x.step E name .shutdown).2 = [] := by
  unfold step
  cases hrunning : x.client.running <;> simp [onClient]

/-- Only the requests count. -/
theorem Abandoned.congr (h : x.Abandoned k) {x' : Exchange ε} (heq : x'.requests = x.requests) :
    x'.Abandoned k := by
  cases h with
  | underWay m requestId req hrequests hbody =>
    exact .underWay m requestId req (heq.trans hrequests) hbody
  | clear hrequests hk => exact .clear (heq.trans hrequests) hk

theorem Pending.onBridge (h : x.Pending req) (b : Bridge ε) :
    Pending { x with bridge := b } req := by
  cases h with
  | idle hrunning hrequests hresponses => exact .idle hrunning hrequests hresponses
  | unsent r hrunning hsent hreq hrequests hresponses hslot =>
    exact .unsent r hrunning hsent hreq hrequests hresponses hslot
  | sent r m hrunning hsent hrequests hbody hresponses hslot =>
    exact .sent r m hrunning hsent hrequests hbody hresponses hslot
  | silent r hrunning hsent hrequests hresponses hslot =>
    exact .silent r hrunning hsent hrequests hresponses hslot

theorem Answered.onBridge (h : x.Answered res) (b : Bridge ε) :
    Answered { x with bridge := b } res := by
  cases h with
  | underWay r m hrunning hsent hrequests hresponses hbody hslot =>
    exact .underWay r m hrunning hsent hrequests hresponses hbody hslot
  | arrived r hrunning hsent hrequests hresponses hslot hlatest =>
    exact .arrived r hrunning hsent hrequests hresponses hslot hlatest

theorem Pending.responses (h : x.Pending req) : x.responses = [] := by
  cases h <;> assumption

theorem Answered.requests (h : x.Answered res) : x.requests = [] := by
  cases h <;> assumption

end Exchange

namespace Linked

/-- A command goes on, or has ended, and nothing is under way. -/
theorem of_idle {x : Exchange ε} {p : Script Members Json α}
    (hup : x.client.initialized = true) (hscript : p.GivesUp) (hrunning : x.client.running = none)
    (hrequests : x.requests = []) (hresponses : x.responses = [])
    (hreaches : R others events 0 x.bridge p) :
    Linked R others events ⟨x, p⟩ := by
  cases p with
  | done result => exact .done (.clear hrequests (Nat.zero_le 1)) hreaches
  | ask req next => exact .pending hup hscript (.idle hrunning hrequests hresponses) hreaches

/-- The patience is at its end, and so is the command. -/
theorem of_expired (hR : Tracks E name R) {x : Exchange ε} {req : Members}
    {next : Option Json → Script Members Json α} {k : Nat}
    (hscript : (Script.ask req next).GivesUp) (hx : x.Abandoned k)
    (hreaches : R others events k x.bridge (.ask req next)) :
    Linked R others events ⟨x, next none⟩ := by
  obtain ⟨⟨result, hresult⟩, -⟩ := hscript
  have hdone := hR.unanswered hreaches
  rw [hresult] at hdone ⊢
  exact .done hx hdone

variable {p : MonitorProcess ε α}

/-- The bridge does anything else. -/
theorem bridge (hR : Tracks E name R) (h : Linked R others events p) (op : Op ε) :
    Linked R (others ++ [op]) (events ++ (p.exchange.bridge.step E op).2)
      (p.step E name (.bridge op)).1 := by
  cases h with
  | pending hup hscript hx hreaches =>
    exact .pending hup hscript (hx.onBridge _) (hR.other hreaches op)
  | answered hup hscript hx hreaches hnext =>
    exact .answered hup hscript (hx.onBridge _) (hR.other hreaches op) (hR.other hnext op)
  | done hx hreaches => exact .done (hx.congr rfl) (hR.other hreaches op)

/-- An answer is delivered. -/
theorem deliver (h : Linked R others events p) :
    Linked R others events (p.step E name .deliver).1 := by
  unfold MonitorProcess.step
  cases h with
  | pending hup hscript hx hreaches =>
    dsimp only
    rw [Exchange.deliver_nil hx.responses]
    exact .pending hup hscript hx hreaches
  | @answered x req next res hup hscript hx hreaches hnext =>
    cases hx with
    | underWay r m hrunning hsent hrequests hresponses hbody hslot =>
      have hstep : (x.step E name .deliver).1 =
          { x with responses := [], client := x.client.onRecv m.body } := by
        unfold Exchange.step
        simp only [hresponses, if_pos hup, Exchange.onClient]
      dsimp only
      rw [hstep]
      exact .answered hup hscript (.arrived r hrunning hsent hrequests rfl rfl hbody) hreaches hnext
    | arrived r hrunning hsent hrequests hresponses hslot hlatest =>
      dsimp only
      rw [Exchange.deliver_nil hresponses]
      exact .answered hup hscript (.arrived r hrunning hsent hrequests hresponses hslot hlatest)
        hreaches hnext
  | @done x result k hx hreaches =>
    obtain ⟨hrequests, hbridge⟩ := x.deliver_frame E name
    exact .done (hx.congr hrequests) (hbridge ▸ hreaches)

/-- The bridge serves the first request. -/
theorem serve_cons (E : Env ε) (name : String) {x : Exchange ε} {m : InFlight}
    {rest : List InFlight} (hrequests : x.requests = m :: rest) (stopAt : Option Nat) :
    let x' := (x.step E name (.serve stopAt)).1
    x'.client = x.client ∧ x'.requests = rest ∧
      x'.bridge = (x.bridge.step E (.controlMessage stopAt name (some m.body))).1 ∧
      x'.responses = x.responses ++
        (x.bridge.controlMessage E stopAt name (some m.body)).2.toList.map fun res =>
          ⟨m.call, res⟩ := by
  unfold Exchange.step
  simp only [hrequests]
  exact ⟨trivial, trivial, rfl, trivial⟩

/-- A request is served: what was asked is answered, or is known to go unheard. -/
theorem serve (hR : Tracks E name R) (h : Linked R others events p) (stopAt : Option Nat) :
    Linked R others (events ++ (p.step E name (.serve stopAt)).2)
      (p.step E name (.serve stopAt)).1 := by
  -- without a request nothing happens
  have hnone : p.exchange.requests = [] →
      Linked R others (events ++ (p.step E name (.serve stopAt)).2)
        (p.step E name (.serve stopAt)).1 := by
    intro hrequests
    have hstep : p.step E name (.serve stopAt) = (p, []) := by
      unfold MonitorProcess.step
      dsimp only
      rw [Exchange.serve_nil hrequests, hrequests]
    rw [hstep, List.append_nil]
    exact h
  cases h with
  | @pending x req next hup hscript hx hreaches =>
    cases hx with
    | sent r m hrunning hsent hrequests hbody hresponses hslot =>
      obtain ⟨hclient, hrest, hbridge, hanswers⟩ :=
        serve_cons E name hrequests stopAt
      have hserved := hR.answered hreaches (stopAt, r.requestId)
      have hunheard := hR.unheard hreaches (stopAt, r.requestId) req
      unfold requestOp at hserved hunheard
      rw [← hbody, ← hbridge] at hserved hunheard
      rw [hresponses, List.nil_append] at hanswers
      unfold MonitorProcess.step
      dsimp only
      rw [hrequests]
      cases hanswer : answerOf E name (stopAt, r.requestId) req x.bridge with
      | none =>
        rw [hanswer] at hserved
        unfold answerOf at hanswer
        rw [← hbody] at hanswer
        rw [hanswer] at hanswers
        exact .pending (hclient ▸ hup) hscript
          (.silent r (hclient ▸ hrunning) hsent hrest hanswers (hclient ▸ hslot)) hserved
      | some res =>
        rw [hanswer] at hserved
        unfold answerOf at hanswer
        rw [← hbody] at hanswer
        rw [hanswer] at hanswers
        exact .answered (hclient ▸ hup) hscript (.underWay r ⟨m.call, res⟩ (hclient ▸ hrunning)
          hsent hrest hanswers rfl (hclient ▸ hslot)) hunheard hserved
    | idle hrunning hrequests hresponses => exact hnone hrequests
    | unsent r hrunning hsent hreq hrequests hresponses hslot => exact hnone hrequests
    | silent r hrunning hsent hrequests hresponses hslot => exact hnone hrequests
  | answered hup hscript hx hreaches hnext => exact hnone hx.requests
  | @done x result k hx hreaches =>
    cases hx with
    | clear hrequests hk => exact hnone hrequests
    | underWay m requestId req hrequests hbody =>
      obtain ⟨-, hrest, hbridge, -⟩ := serve_cons E name hrequests stopAt
      have hunheard := hR.unheard hreaches (stopAt, requestId) req
      unfold requestOp at hunheard
      rw [← hbody, ← hbridge] at hunheard
      unfold MonitorProcess.step
      dsimp only
      rw [hrequests]
      exact .done (.clear hrest le_rfl) hunheard

/-- What a turn of a loop of `request` comes to, as long as there is no answer. -/
theorem turn_running {x : Exchange ε} {req : Members} {next : Option Json → Script Members Json α}
    {r : RequestCall} (hrunning : x.client.running = some r) (requestId : String)
    (err : HakoPduErrorType) (expired : Bool) :
    (MonitorProcess.step E name ⟨x, .ask req next⟩ (.turn requestId err expired)).1 =
      let op := if r.sent then .waitTurn expired else .sendTurn err expired
      ⟨(x.step E name op).1, (x.step E name op).2.foldl resume (.ask req next)⟩ := by
  unfold MonitorProcess.step MonitorProcess.nextTurn
  simp only [hrunning]

/-- The client's thread waits, and there is no answer. -/
theorem turn_waiting {x : Exchange ε} {req : Members} {next : Option Json → Script Members Json α}
    {r : RequestCall} (hrunning : x.client.running = some r) (hsent : r.sent = true)
    (hslot : x.client.hasResponse = false) (requestId : String) (err : HakoPduErrorType)
    (expired : Bool) :
    (MonitorProcess.step E name ⟨x, .ask req next⟩ (.turn requestId err expired)).1 =
      if expired then ⟨{ x with client := { x.client with running := none } }, next none⟩
      else ⟨x, .ask req next⟩ := by
  rw [turn_running hrunning, if_pos hsent]
  dsimp only
  rw [Exchange.step_waitTurn hrunning, if_pos hsent]
  simp only [Exchange.onClient, MonitorClient.waitTurn, hslot]
  cases expired <;> rfl

/-- The client's thread tries to send. -/
theorem turn_sending {x : Exchange ε} {req : Members} {next : Option Json → Script Members Json α}
    {r : RequestCall} (hrunning : x.client.running = some r) (hsent : r.sent = false)
    (requestId : String) (err : HakoPduErrorType) (expired : Bool) :
    (MonitorProcess.step E name ⟨x, .ask req next⟩ (.turn requestId err expired)).1 =
      if err = .ok then
        ⟨{ x with
           requests := x.requests ++ [⟨r.call, r.req⟩]
           client := { x.client with running := some { r with sent := true } } }, .ask req next⟩
      else if expired then ⟨{ x with client := { x.client with running := none } }, next none⟩
      else ⟨x, .ask req next⟩ := by
  rw [turn_running hrunning, if_neg (by simp [hsent])]
  dsimp only
  rw [Exchange.step_sendTurn hrunning, if_neg (by simp [hsent])]
  simp only [Exchange.onClient, MonitorClient.sendTurn]
  split_ifs <;> rfl

/-- The request is made. -/
theorem turn_asking {x : Exchange ε} {req : Members} {next : Option Json → Script Members Json α}
    (hup : x.client.initialized = true) (hrunning : x.client.running = none) (requestId : String)
    (err : HakoPduErrorType) (expired : Bool) :
    (MonitorProcess.step E name ⟨x, .ask req next⟩ (.turn requestId err expired)).1 =
      ⟨{ x with
         calls := x.calls + 1
         client := { x.client with
           hasResponse := false
           latestResponse := .null
           running := some ⟨x.calls, requestId, stamped requestId req, false⟩ } },
        .ask req next⟩ := by
  unfold MonitorProcess.step MonitorProcess.nextTurn
  simp only [hrunning]
  rw [Exchange.step_request hrunning]
  simp only [MonitorClient.request, hup, Json.assign]
  rfl

/-- A turn of a client that has no answer yet. -/
theorem turn_pending (hR : Tracks E name R) {x : Exchange ε} {req : Members}
    {next : Option Json → Script Members Json α} (hup : x.client.initialized = true)
    (hscript : (Script.ask req next).GivesUp) (hx : x.Pending req)
    (hreaches : R others events 0 x.bridge (.ask req next)) (requestId : String)
    (err : HakoPduErrorType) (expired : Bool) :
    Linked R others events
      (MonitorProcess.step E name ⟨x, .ask req next⟩ (.turn requestId err expired)).1 := by
  cases hx with
  | idle hrunning hrequests hresponses =>
    rw [turn_asking hup hrunning]
    exact .pending hup hscript (.unsent _ rfl rfl rfl hrequests hresponses rfl) hreaches
  | unsent r hrunning hsent hreq hrequests hresponses hslot =>
    rw [turn_sending hrunning hsent]
    split_ifs
    · refine .pending hup hscript (.sent { r with sent := true } ⟨r.call, r.req⟩ rfl rfl ?_ hreq
        hresponses hslot) hreaches
      exact congrArg (· ++ [_]) hrequests
    · exact of_expired hR hscript (.clear hrequests (Nat.zero_le 1)) hreaches
    · exact .pending hup hscript (.unsent r hrunning hsent hreq hrequests hresponses hslot)
        hreaches
  | sent r m hrunning hsent hrequests hbody hresponses hslot =>
    rw [turn_waiting hrunning hsent hslot]
    split_ifs
    · exact of_expired hR hscript (.underWay m _ req hrequests hbody) hreaches
    · exact .pending hup hscript
        (.sent r m hrunning hsent hrequests hbody hresponses hslot) hreaches
  | silent r hrunning hsent hrequests hresponses hslot =>
    rw [turn_waiting hrunning hsent hslot]
    split_ifs
    · exact of_expired hR hscript (.clear hrequests (Nat.zero_le 1)) hreaches
    · exact .pending hup hscript (.silent r hrunning hsent hrequests hresponses hslot) hreaches

/-- A turn of a client whose answer is on its way, or has arrived. -/
theorem turn_answered (hR : Tracks E name R) {x : Exchange ε} {req : Members}
    {next : Option Json → Script Members Json α} {res : Json} (hup : x.client.initialized = true)
    (hscript : (Script.ask req next).GivesUp) (hx : x.Answered res)
    (hreaches : R others events 1 x.bridge (.ask req next))
    (hnext : R others events 0 x.bridge (next (some res))) (requestId : String)
    (err : HakoPduErrorType) (expired : Bool) :
    Linked R others events
      (MonitorProcess.step E name ⟨x, .ask req next⟩ (.turn requestId err expired)).1 := by
  cases hx with
  | underWay r m hrunning hsent hrequests hresponses hbody hslot =>
    rw [turn_waiting hrunning hsent hslot]
    split_ifs
    · exact of_expired hR hscript (.clear hrequests le_rfl) hreaches
    · exact .answered hup hscript
        (.underWay r m hrunning hsent hrequests hresponses hbody hslot) hreaches hnext
  | arrived r hrunning hsent hrequests hresponses hslot hlatest =>
    -- the answer is taken
    rw [turn_running hrunning, if_pos hsent]
    dsimp only
    rw [Exchange.step_waitTurn hrunning, if_pos hsent]
    simp only [MonitorClient.waitTurn, if_pos hslot, hlatest, Exchange.onClient]
    exact of_idle hup (hscript.2 res) rfl hrequests hresponses hnext

/-- A turn of a client whose command has ended: it is destroyed. -/
theorem turn_done {x : Exchange ε} {result : α} {k : Nat} (hx : x.Abandoned k)
    (hreaches : R others events k x.bridge (.done result)) (requestId : String)
    (err : HakoPduErrorType) (expired : Bool) :
    Linked R others events
      (MonitorProcess.step E name ⟨x, .done result⟩ (.turn requestId err expired)).1 := by
  obtain ⟨hrequests, hbridge, hevents⟩ := x.shutdown_frame E name
  have hstep : (MonitorProcess.step E name ⟨x, .done result⟩ (.turn requestId err expired)).1 =
      ⟨(x.step E name .shutdown).1, .done result⟩ := by
    unfold MonitorProcess.step MonitorProcess.nextTurn
    simp only [hevents]
    rfl
  rw [hstep]
  exact .done (hx.congr hrequests) (hbridge ▸ hreaches)

/-- The client takes a turn. -/
theorem turn (hR : Tracks E name R) (h : Linked R others events p) (requestId : String)
    (err : HakoPduErrorType) (expired : Bool) :
    Linked R others events (p.step E name (.turn requestId err expired)).1 := by
  cases h with
  | pending hup hscript hx hreaches =>
    exact turn_pending hR hup hscript hx hreaches requestId err expired
  | answered hup hscript hx hreaches hnext =>
    exact turn_answered hR hup hscript hx hreaches hnext requestId err expired
  | done hx hreaches => exact turn_done hx hreaches requestId err expired

/-- **Step lemma.** -/
theorem step (hR : Tracks E name R) (h : Linked R others events p) (op : ProcessOp ε) :
    Linked R (others ++ op.bridge?.toList) (events ++ (p.step E name op).2)
      (p.step E name op).1 := by
  cases op with
  | turn requestId err expired =>
    show Linked R (others ++ []) (events ++ []) _
    rw [List.append_nil, List.append_nil]
    exact h.turn hR requestId err expired
  | deliver =>
    show Linked R (others ++ []) (events ++ []) _
    rw [List.append_nil, List.append_nil]
    exact h.deliver
  | serve stopAt =>
    show Linked R (others ++ []) _ _
    rw [List.append_nil]
    exact h.serve hR stopAt
  | bridge op => exact h.bridge hR op

/-- **Run lemma.** -/
theorem run (hR : Tracks E name R) (h : Linked R others events p) (ops : List (ProcessOp ε)) :
    Linked R (others ++ ops.filterMap ProcessOp.bridge?)
      (events ++ (Lib.run (MonitorProcess.step E name) p ops).2)
      (Lib.run (MonitorProcess.step E name) p ops).1 := by
  induction ops generalizing others events p with
  | nil => simpa using h
  | cons op ops ih =>
    have hrest := ih (h.step hR op)
    rw [List.append_assoc, List.append_assoc] at hrest
    have hothers : (op :: ops).filterMap ProcessOp.bridge? =
        op.bridge?.toList ++ ops.filterMap ProcessOp.bridge? := by
      rw [List.filterMap_cons]
      cases op.bridge? <;> rfl
    rw [hothers]
    exact hrest

end Linked

end steps

/-- **Rule.** What atomic turns keep holds of a process, with at most one request unheard. -/
theorem Tracks.run_process {E : Env ε} {name : String}
    {R : List (Op ε) → List Event → ℕ → Bridge ε → Script Members Json α → Prop}
    (hR : Tracks E name R) {b : Bridge ε} {script : Script Members Json α}
    (hscript : script.GivesUp) (hstart : R [] [] 0 b script) (ops : List (ProcessOp ε)) :
    ∃ k ≤ 1, R (ops.filterMap ProcessOp.bridge?)
      (run (MonitorProcess.step E name) (.start b script) ops).2 k
      (run (MonitorProcess.step E name) (.start b script) ops).1.exchange.bridge
      (run (MonitorProcess.step E name) (.start b script) ops).1.script := by
  have hlinked : Linked R [] [] (.start b script) := .of_idle rfl hscript rfl rfl rfl hstart
  have hrun := hlinked.run hR ops
  rw [List.nil_append, List.nil_append] at hrun
  revert hrun
  generalize (Lib.run (MonitorProcess.step E name) (.start b script) ops).1 = p
  rintro (⟨-, -, -, hreaches⟩ | ⟨-, -, -, hreaches, -⟩ | ⟨hx, hreaches⟩)
  · exact ⟨0, Nat.zero_le 1, hreaches⟩
  · exact ⟨1, le_rfl, hreaches⟩
  · refine ⟨_, ?_, hreaches⟩
    rcases hx with _ | ⟨-, hk⟩
    · exact Nat.zero_le 1
    · exact hk

/-- What a process has come to, atomic requests can come to; of them at most one is served without
being heard. -/
theorem MonitorProcess.reaches_run (E : Env ε) (name : String) (b : Bridge ε)
    {script : Script Members Json α} (hscript : script.GivesUp) (ops : List (ProcessOp ε)) :
    ∃ k ≤ 1, Reaches E name b script (ops.filterMap ProcessOp.bridge?)
      (run (MonitorProcess.step E name) (.start b script) ops).2 k
      (run (MonitorProcess.step E name) (.start b script) ops).1.exchange.bridge
      (run (MonitorProcess.step E name) (.start b script) ops).1.script :=
  (Reaches.tracks E name b script).run_process hscript ⟨[], rfl, rfl, rfl⟩ ops

/-- **Atomic requests.** Whatever the command line, and however the turns of the client, the
channels, the bridge and what else happens to it are interleaved: the bridge, what is seen of it,
and what the client has come to are those of a run in which each request is asked and answered in
one step, with the same operations beside it in the same order. At most one further request is
served, and nobody hears of it. -/
theorem MonitorProcess.atomic_run (E : Env ε) (name : String) (b : Bridge ε)
    (cast outOfRange : String → Int) (getPduChannelId : PduKey → Int) (program : String)
    (args : List String) (ops : List (ProcessOp ε)) :
    let script := MonitorCli.mainScript cast outOfRange getPduChannelId program args
    let r := run (MonitorProcess.step E name) (.start b script) ops
    ∃ turns, run (atomicStep E name) (b, script) turns =
        ((r.1.exchange.bridge, r.1.script), r.2) ∧
      turns.filterMap Turn.other? = ops.filterMap ProcessOp.bridge? ∧
      turns.countP Turn.isUnheard ≤ 1 := by
  intro script r
  obtain ⟨k, hk, turns, hrun, hothers, hunheard⟩ := reaches_run E name b
    (MonitorCli.givesUp_mainScript cast outOfRange getPduChannelId program args) ops
  exact ⟨turns, hrun, hothers, hunheard.trans_le hk⟩

end HakoniwaBridge
