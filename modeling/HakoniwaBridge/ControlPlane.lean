import HakoniwaBridge.Ledger

/-!
# The control plane, step by step

The control callbacks of the session endpoints, each on the receive thread of its endpoint, and
`process_control_plane_once` on the main thread, interleaved at the granularity of `session_mtx_`.

* `CallbackPc` — a callback that has begun, then answered (all of `handle_request`, with the
  section under the lock inside `attach_monitor` or `detach_monitor`), then recorded its answer
  under the lock.
* `MainPc` — registering a callback, handing the endpoint over, marking the endpoints that do not
  run, taking the recorded ids of one endpoint, detaching one session.
* `callback_eq_controlMessage`, `pass_eq_processControlPlaneOnce` — without interleaving these are
  the operations of a bridge.

The runtime is driven by the `main` steps here and is not attached to the core. Endpoints are
known by their names. A shutdown is not among the steps.
-/

namespace HakoniwaBridge

open Lib

variable {ε : Type} {E : Env ε}

/-- Where the control callback of an endpoint stands. -/
inductive CallbackPc
  | idle
  | requested (message : Option Json)
  | answered (req res : Json)

/-- Where `process_control_plane_once` stands. -/
inductive MainPc
  | idle
  | accepting (names : List String)
  | pushing (name : String) (names : List String)
  | detaching (names : List String)
  | removing (name : String) (sessionIds : List String) (names : List String)

/-- A session that a subscribe request of an endpoint created, and the transfers it was given. -/
structure CreatedSession where
  endpoint : String
  sessionId : String
  transfers : List Nat
  deriving DecidableEq

/-- A bridge with its control plane in progress. `created`, `handedOut` (how many session ids were
issued) and `passes` (how many passes over the control plane were completed) only record. -/
structure Plane (ε : Type) where
  bridge : Bridge ε
  callbacks : String → CallbackPc := fun _ => .idle
  main : MainPc := .idle
  created : List CreatedSession := []
  handedOut : Nat := 0
  passes : Nat := 0

/-- The steps. `outside` is an operation of the bridge beside its control plane. -/
inductive PlaneOp (ε : Type)
  | outside (op : Op ε)
  | deliver (name : String) (message : Option Json)
  | handle (name : String) (stopAt : Option Nat)
  | record (name : String)
  | main (accepted : List String)

/-- The operations that neither are made of the steps here nor shut the runtime down. -/
def Op.besidePlane : Op ε → Bool
  | .attachMonitorRuntime => false
  | .controlMessage _ _ _ => false
  | .session .shutdown => false
  | _ => true

namespace CallbackPc

/-- The session ids that an answer hands out and that are not recorded yet. -/
def unrecorded : CallbackPc → List String
  | .answered _ res => issued (Bridge.issuedIn res)
  | _ => []

/-- The session id that is about to be struck off the list of the endpoint. -/
def forgetting : CallbackPc → Option String
  | .answered req res =>
    if res.getString? "type" = some "ok" ∧ req.getString? "type" = some "unsubscribe" then
      req.getString? "session_id"
    else none
  | _ => none

end CallbackPc

/-- The endpoints of the current pass whose recorded ids are still to be taken. -/
def MainPc.awaiting : MainPc → List String
  | .detaching names => names
  | .removing _ _ names => names
  | _ => []

namespace Plane

/-- The runtime, or the loop that accepts endpoints, holds the endpoint: its callback is
registered and the weak pointer in it can be locked. -/
def Alive (s : Plane ε) (name : String) : Prop :=
  name ∈ s.bridge.runtime.ondemandSessions ∨ ∃ names, s.main = .pushing name names

instance (s : Plane ε) (name : String) : Decidable (s.Alive name) :=
  match hmain : s.main with
  | .pushing name' names =>
    decidable_of_iff (name ∈ s.bridge.runtime.ondemandSessions ∨ name = name')
      (or_congr_right ⟨fun h => ⟨names, by rw [hmain, h]⟩, fun ⟨_, h⟩ =>
        (MainPc.pushing.inj (hmain.symm.trans h)).1.symm⟩)
  | .idle | .accepting _ | .detaching _ | .removing _ _ _ =>
    decidable_of_iff (name ∈ s.bridge.runtime.ondemandSessions)
      ⟨Or.inl, fun h => h.resolve_right fun ⟨_, h⟩ => by rw [hmain] at h; exact nomatch h⟩

/-- The callback of one endpoint moves on. -/
def setCallback (s : Plane ε) (name : String) (pc : CallbackPc) : Plane ε :=
  { s with callbacks := fun other => if other = name then pc else s.callbacks other }

/-- Source: the control callback begins: `weak_ep` is locked, the handler is there. -/
def deliver (name : String) (message : Option Json) (s : Plane ε) : Plane ε :=
  match s.callbacks name with
  | .idle =>
    if s.Alive name ∧ s.bridge.runtime.controlHandler = true then
      s.setCallback name (.requested message)
    else s
  | _ => s

/-- The transfers that came in between two states. -/
def newTransfers (before after : BridgeCore) : List Nat :=
  after.ownedRefs.filter fun r => !decide (r ∈ before.ownedRefs)

/-- Source: the control callback, `handle_request`; a message that does not parse is answered at
once. -/
def handle (E : Env ε) (name : String) (stopAt : Option Nat) (s : Plane ε) : Plane ε × List Event :=
  match s.callbacks name with
  | .requested none =>
    (s.setCallback name .idle, [.response (some (.session name)) (Bridge.parseFailedAnswer E)])
  | .requested (some req) =>
    let r := s.bridge.handleRequest E none stopAt req (some (.session name))
    let ids := issued (Bridge.issuedIn r.2)
    ({ s.setCallback name (.answered req r.2) with
       bridge := r.1
       created := s.created ++
         ids.map fun id => ⟨name, id, newTransfers s.bridge.core r.1.core⟩
       handedOut := s.handedOut + ids.length },
      Bridge.issuedIn r.2)
  | _ => (s, [])

/-- Source: the control callback, the section under `session_mtx_`, and the answer. -/
def record (name : String) (s : Plane ε) : Plane ε × List Event :=
  match s.callbacks name with
  | .answered req res =>
    ({ s.setCallback name .idle with bridge := s.bridge.recordAnswer name req res },
      [.response (some (.session name)) res])
  | _ => (s, [])

/-- Source: `process_control_plane_once`, the registration of the control callback. -/
def registerCallback (name : String) (b : Bridge ε) : Bridge ε :=
  { b with host := { b.host with
      registry := b.host.registry ++ [⟨.session name, b.runtime.controlReqKey, .control⟩] } }

/-- Source: `process_control_plane_once`, the section under `session_mtx_`. -/
def pushSession (name : String) (b : Bridge ε) : Bridge ε :=
  { b with runtime :=
      { b.runtime with ondemandSessions := b.runtime.ondemandSessions ++ [name] } }

/-- Source: `process_control_plane_once`, one step; `accepted` is what `take_endpoints` yields to
a pass that begins. -/
def mainStep (E : Env ε) (accepted : List String) (s : Plane ε) : Plane ε :=
  match s.main with
  | .idle =>
    if s.bridge.runtime.initialized = false ∨ s.bridge.runtime.ondemandMux = false then
      { s with passes := s.passes + 1 }
    else { s with main := .accepting accepted }
  | .accepting (name :: names) =>
    { s with bridge := registerCallback name s.bridge, main := .pushing name names }
  | .pushing name names =>
    { s with bridge := pushSession name s.bridge, main := .accepting names }
  | .accepting [] =>
    let marked := BridgeMonitorRuntime.markDisconnected
      (Bridge.sessionRunning E s.bridge.host.env) s.bridge.runtime.ondemandSessions s.bridge.runtime
    { s with bridge := { s.bridge with runtime := marked.1 }, main := .detaching marked.2 }
  | .detaching (name :: names) =>
    let taken := s.bridge.runtime.takeSessionIds name
    { s with
      bridge := { s.bridge with runtime := taken.1 }, main := .removing name taken.2 names }
  | .removing name (sessionId :: sessionIds) names =>
    { s with
      bridge := (s.bridge.detachMonitor sessionId).1, main := .removing name sessionIds names }
  | .removing _ [] names => { s with main := .detaching names }
  | .detaching [] => { s with main := .idle, passes := s.passes + 1 }

/-- One step. -/
def step (E : Env ε) (s : Plane ε) : PlaneOp ε → Plane ε × List Event
  | .outside op =>
    if op.besidePlane then
      let r := s.bridge.step E op
      ({ s with bridge := r.1, handedOut := s.handedOut + (issued r.2).length }, r.2)
    else (s, [])
  | .deliver name message => (s.deliver name message, [])
  | .handle name stopAt => s.handle E name stopAt
  | .record name => s.record name
  | .main accepted => (s.mainStep E accepted, [])

/-! ## Without interleaving -/

@[simp] theorem callbacks_setCallback (s : Plane ε) (name : String) (pc : CallbackPc) :
    (s.setCallback name pc).callbacks name = pc := if_pos rfl

theorem callbacks_setCallback_of_ne (s : Plane ε) {name other : String} (h : other ≠ name)
    (pc : CallbackPc) : (s.setCallback name pc).callbacks other = s.callbacks other := if_neg h

/-- A callback that runs without interruption is a control message of the bridge. -/
theorem callback_eq_controlMessage (s : Plane ε) {name : String} (hidle : s.callbacks name = .idle)
    (halive : name ∈ s.bridge.runtime.ondemandSessions) (stopAt : Option Nat)
    (message : Option Json) :
    (run (step E) s [.deliver name message, .handle name stopAt, .record name]).1.bridge =
      (s.bridge.controlMessage E stopAt name message).1 := by
  show ((((s.deliver name message).handle E name stopAt).1).record name).1.bridge = _
  unfold deliver Bridge.controlMessage
  rw [hidle]
  dsimp only
  by_cases hhandler : s.bridge.runtime.controlHandler = true
  · have hnot : ¬ (name ∉ s.bridge.runtime.ondemandSessions ∨
        s.bridge.runtime.controlHandler = false) := by simp [halive, hhandler]
    rw [if_pos ⟨Or.inl halive, hhandler⟩, if_neg hnot]
    cases message with
    | none => simp [handle, record, setCallback]
    | some req => simp [handle, record, setCallback]
  · have hnot : s.bridge.runtime.controlHandler = false := by simpa using hhandler
    rw [if_neg (fun h => hhandler h.2), if_pos (Or.inr hnot)]
    simp [handle, record, hidle]

/-- The main thread gets from one state to another by steps of its own. -/
def MainReaches (E : Env ε) (accepted : List String) (s t : Plane ε) : Prop :=
  ∃ n, (run (step E) s (List.replicate n (.main accepted))).1 = t

theorem MainReaches.refl (accepted : List String) (s : Plane ε) : MainReaches E accepted s s :=
  ⟨0, rfl⟩

/-- A step that comes before a run of steps. -/
theorem MainReaches.head {accepted : List String} {s s' t : Plane ε}
    (h : s.mainStep E accepted = s') (hrest : MainReaches E accepted s' t) :
    MainReaches E accepted s t := by
  obtain ⟨n, hn⟩ := hrest
  refine ⟨n + 1, ?_⟩
  rw [List.replicate_succ, run_cons_fst, ← hn, ← h]
  rfl

theorem MainReaches.trans {accepted : List String} {s t u : Plane ε}
    (hst : MainReaches E accepted s t) (htu : MainReaches E accepted t u) :
    MainReaches E accepted s u := by
  obtain ⟨m, hm⟩ := hst
  obtain ⟨n, hn⟩ := htu
  refine ⟨m + n, ?_⟩
  rw [List.replicate_add, run_append_fst, hm, hn]

/-- The loop over the accepted endpoints ends at the cleanup. -/
theorem accepting_reaches (accepted names : List String) (s : Plane ε) :
    MainReaches E accepted { s with main := .accepting names }
      { s with
        bridge := names.foldl (fun b name => b.acceptEndpoint name) s.bridge
        main := .accepting [] } := by
  induction names generalizing s with
  | nil => exact MainReaches.refl accepted _
  | cons name names ih =>
    refine MainReaches.head rfl (MainReaches.head rfl ?_)
    exact ih { s with bridge := s.bridge.acceptEndpoint name }

/-- The ids of an endpoint are detached, and the next endpoint has its turn. -/
theorem removing_reaches (accepted : List String) (name : String) (ids names : List String)
    (s : Plane ε) :
    MainReaches E accepted { s with main := .removing name ids names }
      { s with
        bridge := ids.foldl (fun b sessionId => (b.detachMonitor sessionId).1) s.bridge
        main := .detaching names } := by
  induction ids generalizing s with
  | nil => exact MainReaches.head rfl (MainReaches.refl accepted _)
  | cons id ids ih =>
    apply MainReaches.head rfl
    exact ih { s with bridge := (s.bridge.detachMonitor id).1 }

/-- The loop over the disconnected endpoints comes to its end. -/
theorem detaching_reaches (accepted names : List String) (s : Plane ε) :
    MainReaches E accepted { s with main := .detaching names }
      { s with
        bridge := names.foldl (fun b name => b.detachSessionsForEndpoint name) s.bridge
        main := .idle
        passes := s.passes + 1 } := by
  induction names generalizing s with
  | nil => exact MainReaches.head rfl (MainReaches.refl accepted _)
  | cons name names ih =>
    have htaken := @removing_reaches _ E accepted name
      (s.bridge.runtime.takeSessionIds name).2 names
      { s with bridge := { s.bridge with runtime := (s.bridge.runtime.takeSessionIds name).1 } }
    refine MainReaches.head rfl (htaken.trans ?_)
    exact ih { s with bridge := s.bridge.detachSessionsForEndpoint name }

/-- A pass that runs without interruption is `process_control_plane_once` of the bridge. -/
theorem pass_eq_processControlPlaneOnce (accepted : List String) {s : Plane ε}
    (hidle : s.main = .idle) :
    MainReaches E accepted s
      { s with
        bridge := s.bridge.processControlPlaneOnce E accepted
        passes := s.passes + 1 } := by
  have hbegin : s.mainStep E accepted =
      if s.bridge.runtime.initialized = false ∨ s.bridge.runtime.ondemandMux = false then
        { s with passes := s.passes + 1 }
      else { s with main := .accepting accepted } := by
    unfold mainStep
    rw [hidle]
  apply MainReaches.head hbegin
  unfold Bridge.processControlPlaneOnce
  split_ifs
  · exact MainReaches.refl accepted _
  · let b := accepted.foldl (fun b name => b.acceptEndpoint name) s.bridge
    let marked := BridgeMonitorRuntime.markDisconnected
      (Bridge.sessionRunning E b.host.env) b.runtime.ondemandSessions b.runtime
    have hdetached := @detaching_reaches _ E accepted marked.2
      { s with bridge := { b with runtime := marked.1 } }
    have hdone := (accepting_reaches accepted accepted s).trans (MainReaches.head rfl hdetached)
    rw [← hidle] at hdone
    exact hdone

end Plane

end HakoniwaBridge
