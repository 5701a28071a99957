import HakoniwaBridge.System

/-!
# What every step keeps

* `handleRequest_cases` — a request changes nothing but the clock, or is one detach, or one
  attach.
* `ControlClosed E P` — `P` survives everything a step is made of, apart from attaching and from
  the three operations on a connection; `ControlClosed.step` lifts this to steps, so that an
  invariant is proved by a few lines about attaching and nothing else.
* `wf_step` — well-formed connections stay well-formed.
-/

namespace HakoniwaBridge

open Lib

variable {ε : Type} {E : Env ε}

namespace Bridge

/-- The type of an answer that starts with it. -/
theorem getString?_type_withRequestId (req : Json) (type : String)
    (members : List (String × Json)) :
    (withRequestId req (("type", .str type) :: members)).getString? "type" = some type := by
  unfold withRequestId
  split <;> rfl

/-- An answer of another type than `subscribed` issues nothing. -/
theorem issuedIn_of_type {res : Json} {type : String} (h : res.getString? "type" = some type)
    (hne : type ≠ "subscribed") : issuedIn res = [] := by
  unfold issuedIn
  rw [h]
  split
  · next heq _ => exact absurd (Option.some.inj heq) hne
  · rfl

theorem getString?_type_makeError (E : Env ε) (req : Json) (code message : String)
    (err : Option HakoPduErrorType) :
    (makeError E req code message err).getString? "type" = some "error" := by
  unfold makeError withRequestId
  cases req.getString? "request_id" <;> rfl

theorem issuedIn_makeError (E : Env ε) (req : Json) (code message : String)
    (err : Option HakoPduErrorType) : issuedIn (makeError E req code message err) = [] :=
  issuedIn_of_type (getString?_type_makeError E req code message err) (by decide)

/-- The outside state after a look at the clock at most. -/
def ClockRead (E : Env ε) (e e' : ε) : Prop := e' = e ∨ e' = (E.getMicroseconds e).1

/-- Serving a request other than a subscription or an unsubscription reads the clock at most. -/
theorem serve_cases (E : Env ε) (stopAt : Option Nat) (req : Json) (request : Request)
    (b : Bridge ε) :
    ((∃ e, ClockRead E b.host.env e ∧
        (b.serve E stopAt req request).1 = { b with host := { b.host with env := e } }) ∧
      issuedIn (b.serve E stopAt req request).2 = []) ∨
    (∃ sessionId, request = .unsubscribe sessionId ∧
      (b.serve E stopAt req request).1 = (b.detachMonitor sessionId).1 ∧
      issuedIn (b.serve E stopAt req request).2 = []) ∨
    (∃ spec, request = .subscribe spec ∧
      (b.serve E stopAt req request).1 = (b.attachMonitor E stopAt spec).1 ∧
      issuedIn (b.serve E stopAt req request).2 =
        issuedEvents (b.attachMonitor E stopAt spec).2) := by
  have hquiet : ∀ (type : String) (members : List (String × Json)), type ≠ "subscribed" →
      issuedIn (withRequestId req (("type", .str type) :: members)) = [] :=
    fun type members hne => issuedIn_of_type (getString?_type_withRequestId req type members) hne
  cases request with
  | health => exact Or.inl ⟨⟨_, Or.inr rfl, rfl⟩, hquiet "health" _ (by decide)⟩
  | listSessions => exact Or.inl ⟨⟨b.host.env, Or.inl rfl, rfl⟩, hquiet "sessions" _ (by decide)⟩
  | listConnections =>
    exact Or.inl ⟨⟨b.host.env, Or.inl rfl, rfl⟩, hquiet "connections" _ (by decide)⟩
  | listPdus connectionId =>
    apply Or.inl
    simp only [serve]
    split
    · exact ⟨⟨b.host.env, Or.inl rfl, rfl⟩,
        issuedIn_makeError E req "NOT_FOUND" "connection not found" (some .noEntry)⟩
    · exact ⟨⟨b.host.env, Or.inl rfl, rfl⟩, hquiet "pdus" _ (by decide)⟩
  | unsubscribe sessionId =>
    refine Or.inr (Or.inl ⟨sessionId, rfl, ?_⟩)
    simp only [serve]
    split
    · next heq => exact ⟨by rw [heq], hquiet "ok" _ (by decide)⟩
    · next heq =>
      exact ⟨by rw [heq],
        issuedIn_makeError E req "INTERNAL_ERROR" "failed to detach monitor" none⟩
  | subscribe spec =>
    refine Or.inr (Or.inr ⟨spec, rfl, ?_⟩)
    simp only [serve]
    split
    · next heq => exact ⟨by rw [heq], by rw [heq, issuedIn_makeError]; rfl⟩
    · next heq =>
      refine ⟨by rw [heq], ?_⟩
      rw [heq]
      unfold withRequestId
      split <;> rfl

/-- The attach that a request asks for. -/
def requestedSpec (E : Env ε) (authorizer : Option Authorizer) (req : Json)
    (sessionEndpoint : Option EndpointRef) : Option MonitorSessionSpec :=
  match decodeRequest E authorizer req sessionEndpoint with
  | .ok (.subscribe spec) => some spec
  | _ => none

/-- The checks of a request answer with errors only, of three kinds. -/
theorem decodeRequest_error (E : Env ε) (authorizer : Option Authorizer) (req : Json)
    (ep : Option EndpointRef) (res : Json) (h : decodeRequest E authorizer req ep = .error res) :
    ∃ code message err, code ∈ ["INVALID_REQUEST", "PERMISSION_DENIED", "UNSUPPORTED"] ∧
      res = makeError E req code message err := by
  have herror : ∀ code message err,
      code ∈ ["INVALID_REQUEST", "PERMISSION_DENIED", "UNSUPPORTED"] →
      Except.error (makeError E req code message err) = (Except.error res : Except Json Request) →
      ∃ code message err, code ∈ ["INVALID_REQUEST", "PERMISSION_DENIED", "UNSUPPORTED"] ∧
        res = makeError E req code message err :=
    fun code message err hcode heq => ⟨code, message, err, hcode, (Except.error.inj heq).symm⟩
  have hsubscribe : decodeSubscribe E req ep = .error res →
      ∃ code message err, code ∈ ["INVALID_REQUEST", "PERMISSION_DENIED", "UNSUPPORTED"] ∧
        res = makeError E req code message err := by
    intro h
    unfold decodeSubscribe at h
    split at h
    · exact herror _ _ _ (by decide) h
    · dsimp only at h
      split at h
      · exact absurd h (by simp)
      · split_ifs at h
        · exact herror _ _ _ (by decide) h
        · exact herror _ _ _ (by decide) h
  have htype : ∀ type, decodeByType E req ep type = .error res →
      ∃ code message err, code ∈ ["INVALID_REQUEST", "PERMISSION_DENIED", "UNSUPPORTED"] ∧
        res = makeError E req code message err := by
    intro type h
    unfold decodeByType at h
    split_ifs at h
    · cases hid : req.getString? "connection_id" <;> rw [hid] at h
      · exact herror _ _ _ (by decide) h
      · exact absurd h (by simp)
    · cases hid : req.getString? "session_id" <;> rw [hid] at h
      · exact herror _ _ _ (by decide) h
      · exact absurd h (by simp)
    · exact hsubscribe h
    · exact herror _ _ _ (by decide) h
  by_cases hobject : req.isObject = false
  · rw [decodeRequest, if_pos hobject] at h
    exact herror _ _ _ (by decide) h
  · rw [decodeRequest, if_neg hobject] at h
    cases htyp : req.getString? "type" <;> rw [htyp] at h
    · exact herror _ _ _ (by decide) h
    · dsimp only at h
      split_ifs at h
      · exact herror _ _ _ (by decide) h
      · exact htype _ h

/-- An object with a type passes the first checks, unless the authorizer refuses it. -/
theorem decodeRequest_of_type (E : Env ε) {authorizer : Option Authorizer} {req : Json}
    {ep : Option EndpointRef}
    (hauth : (authorizer.map fun authorize => authorize req ep) ≠ some false) {type : String}
    (htype : req.getString? "type" = some type) :
    decodeRequest E authorizer req ep = decodeByType E req ep type := by
  unfold decodeRequest
  rw [if_neg (by simp [Json.isObject_of_getString? htype]), htype]
  exact if_neg hauth

/-- An unsubscription names its session. -/
theorem decodeRequest_unsubscribe (E : Env ε) (authorizer : Option Authorizer) (req : Json)
    (ep : Option EndpointRef) (sessionId : String)
    (h : decodeRequest E authorizer req ep = .ok (.unsubscribe sessionId)) :
    req.getString? "session_id" = some sessionId := by
  have htype : ∀ type, decodeByType E req ep type = .ok (.unsubscribe sessionId) →
      req.getString? "session_id" = some sessionId := by
    intro type h
    unfold decodeByType at h
    split_ifs at h
    · exact absurd (Except.ok.inj h) (by simp)
    · exact absurd (Except.ok.inj h) (by simp)
    · exact absurd (Except.ok.inj h) (by simp)
    · cases hid : req.getString? "connection_id" <;> rw [hid] at h
      · exact absurd h (by simp)
      · exact absurd (Except.ok.inj h) (by simp)
    · cases hid : req.getString? "session_id" <;> rw [hid] at h
      · exact absurd h (by simp)
      · rw [Request.unsubscribe.inj (Except.ok.inj h)]
    · unfold decodeSubscribe at h
      split at h
      · exact absurd h (by simp)
      · dsimp only at h
        split at h
        · exact absurd (Except.ok.inj h) (by simp)
        · split_ifs at h
          exact absurd (Except.ok.inj h) (by simp)
  by_cases hobject : req.isObject = false
  · rw [decodeRequest, if_pos hobject] at h
    exact absurd h (by simp)
  · rw [decodeRequest, if_neg hobject] at h
    cases htyp : req.getString? "type" <;> rw [htyp] at h
    · exact absurd h (by simp)
    · dsimp only at h
      split_ifs at h
      exact htype _ h

/-- A request that is answered with `ok` was an unsubscription. -/
theorem handleRequest_ok {authorizer : Option Authorizer} {stopAt : Option Nat} {req : Json}
    {ep : Option EndpointRef} {b : Bridge ε}
    (h : (b.handleRequest E authorizer stopAt req ep).2.getString? "type" = some "ok") :
    ∃ sessionId, req.getString? "session_id" = some sessionId ∧
      (b.handleRequest E authorizer stopAt req ep).1 = (b.detachMonitor sessionId).1 := by
  have herror : ∀ code message err,
      (makeError E req code message err).getString? "type" ≠ some "ok" := by
    intro code message err
    rw [getString?_type_makeError]
    decide
  have hother : ∀ (type : String) (members : List (String × Json)), type ≠ "ok" →
      (withRequestId req (("type", .str type) :: members)).getString? "type" ≠ some "ok" := by
    intro type members hne heq
    rw [getString?_type_withRequestId] at heq
    exact hne (Option.some.inj heq)
  unfold handleRequest at h ⊢
  cases hdecode : decodeRequest E authorizer req ep with
  | error res =>
    rw [hdecode] at h
    obtain ⟨code, message, err, -, rfl⟩ := decodeRequest_error E authorizer req ep res hdecode
    exact absurd h (herror code message err)
  | ok request =>
    rw [hdecode] at h
    dsimp only at h ⊢
    cases request with
    | health => exact absurd h (hother "health" _ (by decide))
    | listSessions => exact absurd h (hother "sessions" _ (by decide))
    | listConnections => exact absurd h (hother "connections" _ (by decide))
    | listPdus connectionId =>
      simp only [serve] at h
      split at h
      · exact absurd h (herror "NOT_FOUND" "connection not found" (some .noEntry))
      · exact absurd h (hother "pdus" _ (by decide))
    | unsubscribe sessionId =>
      refine ⟨sessionId, decodeRequest_unsubscribe E authorizer req ep sessionId hdecode, ?_⟩
      simp only [serve]
      split <;> next heq => rw [heq]
    | subscribe spec =>
      simp only [serve] at h
      split at h
      · exact absurd h (herror "INVALID_REQUEST" "failed to attach monitor" (some .invalidConfig))
      · exact absurd h (hother "subscribed" _ (by decide))

/-- A request is quiet, or one detach, or the attach it asks for. -/
theorem handleRequest_cases (E : Env ε) (authorizer : Option Authorizer) (stopAt : Option Nat)
    (req : Json) (ep : Option EndpointRef) (b : Bridge ε) :
    ((∃ e, ClockRead E b.host.env e ∧ (b.handleRequest E authorizer stopAt req ep).1 =
        { b with host := { b.host with env := e } }) ∧
      issuedIn (b.handleRequest E authorizer stopAt req ep).2 = []) ∨
    (∃ sessionId, decodeRequest E authorizer req ep = .ok (.unsubscribe sessionId) ∧
      (b.handleRequest E authorizer stopAt req ep).1 = (b.detachMonitor sessionId).1 ∧
      issuedIn (b.handleRequest E authorizer stopAt req ep).2 = []) ∨
    (∃ spec, requestedSpec E authorizer req ep = some spec ∧
      (b.handleRequest E authorizer stopAt req ep).1 = (b.attachMonitor E stopAt spec).1 ∧
      issuedIn (b.handleRequest E authorizer stopAt req ep).2 =
        issuedEvents (b.attachMonitor E stopAt spec).2) := by
  have herror := decodeRequest_error E authorizer req ep
  unfold handleRequest requestedSpec
  cases hdecode : decodeRequest E authorizer req ep with
  | error res =>
    refine Or.inl ⟨⟨b.host.env, Or.inl rfl, rfl⟩, ?_⟩
    obtain ⟨code, message, err, -, rfl⟩ := herror res hdecode
    exact issuedIn_makeError E req code message err
  | ok request =>
    rcases serve_cases E stopAt req request b with
      hquiet | ⟨id, rfl, hdetach⟩ | ⟨spec, rfl, hattach⟩
    · exact Or.inl hquiet
    · exact Or.inr (Or.inl ⟨id, rfl, hdetach⟩)
    · exact Or.inr (Or.inr ⟨spec, rfl, hattach⟩)

end Bridge

/-- The attach that an operation asks for. -/
def Op.attaches (E : Env ε) : Op ε → Option (Option Nat × MonitorSessionSpec)
  | .controlMessage stopAt name (some req) =>
    (Bridge.requestedSpec E none req (some (.session name))).map fun spec => (stopAt, spec)
  | .session (.attachMonitor stopAt spec) => some (stopAt, spec)
  | .session (.handleRequest authorizer stopAt req ep) =>
    (Bridge.requestedSpec E authorizer req ep).map fun spec => (stopAt, spec)
  | _ => none

/-- The operations on a connection itself. -/
def Op.onConnection : Op ε → Bool
  | .setConnectionActive _ _ => true
  | .incrementConnectionEpoch _ => true
  | .addTransferPdu _ _ => true
  | _ => false

/-- The session tables and the counter are the same; what else the runtime keeps may differ. -/
structure BridgeMonitorRuntime.SameTables (rt rt' : BridgeMonitorRuntime) : Prop where
  monitorSessions : rt'.monitorSessions = rt.monitorSessions
  monitorRuntimeSessions : rt'.monitorRuntimeSessions = rt.monitorRuntimeSessions
  nextMonitorSessionId : rt'.nextMonitorSessionId = rt.nextMonitorSessionId

theorem BridgeMonitorRuntime.SameTables.refl (rt : BridgeMonitorRuntime) : SameTables rt rt :=
  ⟨rfl, rfl, rfl⟩

theorem BridgeMonitorRuntime.markDisconnected_sameTables (running : String → Bool)
    (names : List String) (rt : BridgeMonitorRuntime) :
    rt.SameTables (markDisconnected running names rt).1 := by
  induction names generalizing rt with
  | nil => exact SameTables.refl rt
  | cons name names ih =>
    unfold markDisconnected
    split_ifs
    · exact ih rt
    · have hrest := ih
        { rt with disconnectedControlEndpoints := rt.disconnectedControlEndpoints ++ [name] }
      exact ⟨hrest.monitorSessions, hrest.monitorRuntimeSessions, hrest.nextMonitorSessionId⟩

/-- `P` survives what `process_control_plane_once` is made of. -/
structure PlaneClosed (P : Bridge ε → Prop) : Prop where
  runtime : ∀ b rt, b.runtime.SameTables rt → P b → P { b with runtime := rt }
  accept : ∀ b ep key, P b →
    P { b with host := { b.host with registry := b.host.registry ++ [⟨ep, key, .control⟩] } }
  detach : ∀ b sessionId, P b → P (b.detachMonitor sessionId).1

/-- `P` survives what the steps of a bridge are made of, apart from attaching and from the
operations on a connection. -/
structure ControlClosed (E : Env ε) (P : Bridge ε → Prop) : Prop extends PlaneClosed P where
  host : ∀ b h, Host.SameBook b.host h → P b → P { b with host := h }
  core : ∀ b core, core.connections = b.core.connections → P b → P { b with core := core }
  attached : ∀ b flag, P b → P { b with runtimeAttached := flag }
  shutdown : ∀ b, P b → P (b.shutdown E)

namespace PlaneClosed

variable {P : Bridge ε → Prop} {b : Bridge ε}

theorem acceptEndpoint (hP : PlaneClosed P) (hb : P b) (name : String) :
    P (b.acceptEndpoint name) := by
  have hregister := hP.accept b (.session name) b.runtime.controlReqKey hb
  have hlist := fun hsame => hP.runtime _ { b.runtime with
    ondemandSessions := b.runtime.ondemandSessions ++ [name] } hsame hregister
  exact hlist ⟨rfl, rfl, rfl⟩

theorem detachSessionsForEndpoint (hP : PlaneClosed P) (hb : P b) (name : String) :
    P (b.detachSessionsForEndpoint name) := by
  have hstart : P { b with runtime := (b.runtime.takeSessionIds name).1 } := by
    refine hP.runtime b _ ?_ hb
    unfold BridgeMonitorRuntime.takeSessionIds
    split <;> exact ⟨rfl, rfl, rfl⟩
  have hloop : ∀ (ids : List String) (b : Bridge ε), P b →
      P (ids.foldl (fun b sessionId => (b.detachMonitor sessionId).1) b) := by
    intro ids
    induction ids with
    | nil => exact fun b hb => hb
    | cons id ids ih => exact fun b hb => ih _ (hP.detach b id hb)
  exact hloop _ _ hstart

theorem cleanupDisconnectedSessions (hP : PlaneClosed P) (hb : P b) (E : Env ε) :
    P (b.cleanupDisconnectedSessions E) := by
  have hloop : ∀ (names : List String) (b : Bridge ε), P b →
      P (names.foldl (fun b name => b.detachSessionsForEndpoint name) b) := by
    intro names
    induction names with
    | nil => exact fun b hb => hb
    | cons name names ih => exact fun b hb => ih _ (hP.detachSessionsForEndpoint hb name)
  exact hloop _ _ (hP.runtime b _ (BridgeMonitorRuntime.markDisconnected_sameTables _ _ _) hb)

theorem processControlPlaneOnce (hP : PlaneClosed P) (hb : P b) (E : Env ε)
    (accepted : List String) :
    P (b.processControlPlaneOnce E accepted) := by
  have hloop : ∀ (names : List String) (b : Bridge ε), P b →
      P (names.foldl (fun b name => b.acceptEndpoint name) b) := by
    intro names
    induction names with
    | nil => exact fun b hb => hb
    | cons name names ih => exact fun b hb => ih _ (hP.acceptEndpoint hb name)
  unfold Bridge.processControlPlaneOnce
  split_ifs
  · exact hb
  · exact hP.cleanupDisconnectedSessions (hloop accepted b hb) E

theorem recordAnswer (hP : PlaneClosed P) (hb : P b) (name : String) (req res : Json) :
    P (b.recordAnswer name req res) := by
  unfold Bridge.recordAnswer
  split
  · split
    · exact hP.runtime b _ ⟨rfl, rfl, rfl⟩ hb
    · exact hb
  · split
    · refine hP.runtime b _ ?_ hb
      unfold BridgeMonitorRuntime.forgetSession
      split <;> exact ⟨rfl, rfl, rfl⟩
    · exact hb
  · exact hb

end PlaneClosed

namespace ControlClosed

variable {P : Bridge ε → Prop} {b : Bridge ε}

theorem env (hP : ControlClosed E P) (hb : P b) (e : ε) :
    P { b with host := { b.host with env := e } } :=
  hP.host b _ (Host.sameBook_env b.host e) hb

theorem fireCallbacks_sameBook (E : Env ε) (core : BridgeCore) (key : PduResolvedKey)
    (callbacks : List Callback) (h : Host ε) :
    Host.SameBook h (Bridge.fireCallbacks E core key callbacks h).1 := by
  induction callbacks generalizing h with
  | nil => exact Host.SameBook.refl h
  | cons callback rest ih =>
    have hfirst : Host.SameBook h (Bridge.fireCallback E core key callback h).1 := by
      unfold Bridge.fireCallback
      split
      · split
        · next t _ => exact t.onRecvCallback_sameBook E key h
        · exact Host.SameBook.refl h
      · exact Host.SameBook.refl h
      · exact Host.SameBook.refl h
    exact hfirst.trans (ih _)

theorem triggerConnections_sameBook (E : Env ε) (cs : List BridgeConnection) (h : Host ε) :
    Host.SameBook h (BridgeCore.triggerConnections E cs h).1 := by
  induction cs generalizing h with
  | nil => exact Host.SameBook.refl h
  | cons c cs ih => exact (c.cyclicTrigger_sameBook E h).trans (ih _)

/-- A request keeps `P` if the attach it asks for does. -/
theorem handleRequest (hP : ControlClosed E P) (hb : P b) {authorizer : Option Authorizer}
    {stopAt : Option Nat} {req : Json} {ep : Option EndpointRef}
    (hattach : ∀ spec, Bridge.requestedSpec E authorizer req ep = some spec →
      P (b.attachMonitor E stopAt spec).1) :
    P (b.handleRequest E authorizer stopAt req ep).1 := by
  rcases Bridge.handleRequest_cases E authorizer stopAt req ep b with
    ⟨⟨e, -, heq⟩, -⟩ | ⟨id, -, heq, -⟩ | ⟨spec, hspec, heq, -⟩
  · rw [heq]
    exact hP.env hb e
  · rw [heq]
    exact hP.detach b id hb
  · rw [heq]
    exact hattach spec hspec

/-- A session operation keeps `P` if the attach it asks for does. -/
theorem sessionStep (hP : ControlClosed E P) (hb : P b) {op : SessionOp}
    (hattach : ∀ stopAt spec, Op.attaches E (.session op) = some (stopAt, spec) →
      P (b.attachMonitor E stopAt spec).1) :
    P (b.sessionStep E op).1 := by
  cases op with
  | attachMonitor stopAt spec => exact hattach stopAt spec rfl
  | detachMonitor id => exact hP.detach b id hb
  | handleRequest authorizer stopAt req ep =>
    refine hP.handleRequest hb fun spec hspec => hattach stopAt spec ?_
    rw [Op.attaches, hspec]
    rfl
  | shutdown => exact hP.shutdown b hb

/-- **Step rule.** A step keeps `P` if the attach it asks for does, and if it is an operation on
a connection only if that does. -/
theorem step (hP : ControlClosed E P) (hb : P b) {op : Op ε}
    (hattach : ∀ stopAt spec, op.attaches E = some (stopAt, spec) →
      P (b.attachMonitor E stopAt spec).1)
    (hconnection : op.onConnection = true → P (b.step E op).1) : P (b.step E op).1 := by
  cases op with
  | start =>
    have hcore : P { b with core := (b.core.start E b.host.env).1 } := by
      refine hP.core b _ ?_ hb
      unfold BridgeCore.start
      split_ifs <;> rfl
    exact hP.env hcore _
  | stop =>
    have hcore : P { b with core := { b.core with isRunning := false } } := hP.core b _ rfl hb
    show P (b.stop E)
    unfold Bridge.stop
    split_ifs
    · exact hP.shutdown _ hcore
    · exact hcore
  | environment f => exact hP.env hb _
  | reception endpointId key data =>
    exact hP.host b _
      ((Host.sameBook_env b.host _).trans (fireCallbacks_sameBook E b.core key _ _)) hb
  | cyclicTrigger accepted =>
    show P (b.cyclicTrigger E accepted).1
    unfold Bridge.cyclicTrigger
    split_ifs
    · exact hb
    · exact hP.processControlPlaneOnce (hP.host b _ ((Host.sameBook_env b.host _).trans
        (triggerConnections_sameBook E b.core.connections _)) hb) E accepted
    · exact hP.host b _ ((Host.sameBook_env b.host _).trans
        (triggerConnections_sameBook E b.core.connections _)) hb
  | setConnectionActive id isActive => exact hconnection rfl
  | incrementConnectionEpoch id => exact hconnection rfl
  | addTransferPdu i transfer => exact hconnection rfl
  | initializeRuntime options openErr startErr =>
    refine hP.runtime b _ ?_ hb
    unfold BridgeMonitorRuntime.initializeRuntime
    split_ifs <;> exact ⟨rfl, rfl, rfl⟩
  | attachMonitorRuntime => exact hP.attached b true hb
  | detachMonitorRuntime =>
    show P (b.detachMonitorRuntime E)
    unfold Bridge.detachMonitorRuntime
    split_ifs
    · exact hP.shutdown _ (hP.attached b false hb)
    · exact hb
  | controlMessage stopAt name message =>
    show P (b.controlMessage E stopAt name message).1
    unfold Bridge.controlMessage
    split_ifs
    · exact hb
    · cases message with
      | none => exact hb
      | some req =>
        have hreq : P (b.handleRequest E none stopAt req (some (.session name))).1 := by
          refine hP.handleRequest hb fun spec hspec => hattach stopAt spec ?_
          rw [Op.attaches, hspec]
          rfl
        exact hP.recordAnswer hreq name req _
  | session op => exact hP.sessionStep hb hattach

end ControlClosed

/-! ## Well-formed connections -/

namespace Bridge

/-- The invariant of a bridge. -/
def WellFormed (b : Bridge ε) : Prop := Wf b.core.connections b.host

theorem wellFormed_attachMonitor (E : Env ε) (stopAt : Option Nat) (spec : MonitorSessionSpec)
    {b : Bridge ε} (hwf : b.WellFormed) : (b.attachMonitor E stopAt spec).1.WellFormed := by
  have hout := attachMonitor_outcome E stopAt spec hwf
  revert hout
  generalize b.attachMonitor E stopAt spec = r
  intro hout
  cases hout with
  | rejected _ =>
    unfold WellFormed loadRunning
    split_ifs <;> exact hwf
  | rolledBack _ _ hcreated _ _ _ _ => exact hwf.grow hcreated.extends
  | attached _ hplace hcreated _ _ => exact hwf.takeOver hplace.lt hcreated

theorem wellFormed_detachMonitor {b : Bridge ε} (hwf : b.WellFormed) (sessionId : String) :
    (b.detachMonitor sessionId).1.WellFormed := by
  by_cases hmem : sessionId ∈ b.runtime.monitorSessions
  · unfold WellFormed
    rw [detachMonitor_core hwf hmem, detachMonitor_host]
    exact hwf.without _
  · rw [detachMonitor_of_not_mem hmem]
    exact hwf

/-- Registering a control callback extends the host. -/
theorem extends_control (h : Host ε) (ep : EndpointRef) (key : PduResolvedKey) :
    Host.Extends h { h with registry := h.registry ++ [⟨ep, key, .control⟩] } := by
  refine ⟨fun reg hreg => List.mem_append_left _ hreg, fun reg hreg r hr => ?_, le_rfl, le_rfl,
    fun _ _ => rfl⟩
  rcases List.mem_append.1 hreg with hold | hnew
  · exact Or.inl hold
  · rw [List.mem_singleton] at hnew
    rw [hnew] at hr
    exact absurd hr (by simp)

theorem wellFormed_closed (E : Env ε) : ControlClosed E (WellFormed (ε := ε)) where
  host _ _ hsame hwf := hwf.grow hsame.extends
  core b core hcore hwf := by
    unfold WellFormed
    rw [hcore]
    exact hwf
  runtime _ _ _ hwf := hwf
  attached _ _ hwf := hwf
  accept b ep key hwf := hwf.grow (extends_control b.host ep key)
  detach _ sessionId hwf := wellFormed_detachMonitor hwf sessionId
  shutdown b hwf := by
    cases hinit : b.runtime.initialized with
    | false =>
      rw [shutdown_of_not_initialized E hinit]
      exact hwf
    | true =>
      unfold WellFormed
      rw [shutdown_core E hwf hinit]
      exact (hwf.without _).grow (shutdown_sameBook E b).extends

/-- An operation on a connection leaves the runtime alone. -/
theorem runtime_step_onConnection (E : Env ε) (b : Bridge ε) {op : Op ε}
    (hop : op.onConnection = true) : (b.step E op).1.runtime = b.runtime := by
  cases op with
  | setConnectionActive id isActive => rfl
  | incrementConnectionEpoch id => rfl
  | addTransferPdu i transfer => rfl
  | _ => exact absurd hop Bool.false_ne_true

/-- The two calls for a connection change nothing but flags and epochs: every transfer was there
before, on the same way. -/
theorem step_onConnection (E : Env ε) (b : Bridge ε) {op : Op ε} (hop : op.onConnection = true)
    (hadd : ∀ i transfer, op ≠ .addTransferPdu i transfer) :
    (b.step E op).1.host = b.host ∧ (b.step E op).1.runtime = b.runtime ∧
      ∀ c ∈ (b.step E op).1.core.connections, ∀ t ∈ c.transferPdus,
        ∃ c₀ ∈ b.core.connections, ∃ t₀ ∈ c₀.transferPdus,
          t.self = t₀.self ∧ t.policy = t₀.policy ∧ t.srcEndpoint = t₀.srcEndpoint ∧
            t.dstEndpoint = t₀.dstEndpoint ∧ t.body = t₀.body := by
  have hmodify : ∀ (i : Nat) (f : BridgeConnection → BridgeConnection)
      (g : BridgeConnection → ITransferPdu → ITransferPdu),
      (∀ c, (f c).transferPdus = c.transferPdus.map (g c)) →
      (∀ c t, (g c t).self = t.self ∧ (g c t).policy = t.policy ∧
        (g c t).srcEndpoint = t.srcEndpoint ∧ (g c t).dstEndpoint = t.dstEndpoint ∧
        (g c t).body = t.body) →
      ∀ c ∈ b.core.connections.modify i f, ∀ t ∈ c.transferPdus,
        ∃ c₀ ∈ b.core.connections, ∃ t₀ ∈ c₀.transferPdus,
          t.self = t₀.self ∧ t.policy = t₀.policy ∧ t.srcEndpoint = t₀.srcEndpoint ∧
            t.dstEndpoint = t₀.dstEndpoint ∧ t.body = t₀.body := by
    intro i f g hf hg c hc t ht
    rcases mem_of_mem_modify hc with hc | ⟨c₀, hget₀, rfl⟩
    · exact ⟨c, hc, t, ht, rfl, rfl, rfl, rfl, rfl⟩
    · rw [hf] at ht
      obtain ⟨t₀, ht₀, rfl⟩ := List.mem_map.1 ht
      exact ⟨c₀, List.mem_of_getElem? hget₀, t₀, ht₀, hg c₀ t₀⟩
  cases op with
  | setConnectionActive id isActive =>
    refine ⟨rfl, rfl, ?_⟩
    simp only [Bridge.step, BridgeCore.setConnectionActive]
    split
    · exact hmodify _ _ (fun _ t => t.setActive isActive) (fun _ => rfl)
        fun _ _ => ⟨rfl, rfl, rfl, rfl, rfl⟩
    · exact fun c hc t ht => ⟨c, hc, t, ht, rfl, rfl, rfl, rfl, rfl⟩
  | incrementConnectionEpoch id =>
    refine ⟨rfl, rfl, ?_⟩
    simp only [Bridge.step, BridgeCore.incrementConnectionEpoch]
    split
    · exact hmodify _ _ (fun c t => t.setEpoch (c.epoch + 1)) (fun _ => rfl)
        fun _ _ => ⟨rfl, rfl, rfl, rfl, rfl⟩
    · exact fun c hc t ht => ⟨c, hc, t, ht, rfl, rfl, rfl, rfl, rfl⟩
  | addTransferPdu i transfer => exact absurd rfl (hadd i transfer)
  | _ => exact absurd hop Bool.false_ne_true

/-- So they bring in no object. -/
theorem ownedRefs_step_onConnection {b : Bridge ε} {op : Op ε} (hop : op.onConnection = true)
    (hadd : ∀ i transfer, op ≠ .addTransferPdu i transfer) {r : Nat}
    (h : r ∈ (b.step E op).1.core.ownedRefs) : r ∈ b.core.ownedRefs := by
  obtain ⟨c, hc, hr⟩ := List.mem_flatMap.1 h
  obtain ⟨t, ht, rfl⟩ := List.mem_map.1 hr
  obtain ⟨c₀, hc₀, t₀, ht₀, hself, -⟩ := (step_onConnection E b hop hadd).2.2 c hc t ht
  rw [hself]
  exact List.mem_flatMap.2 ⟨c₀, hc₀, List.mem_map_of_mem ht₀⟩

/-- **Every step keeps the connections well-formed.** -/
theorem wellFormed_step (E : Env ε) {b : Bridge ε} (hwf : b.WellFormed) (op : Op ε) :
    (b.step E op).1.WellFormed := by
  refine (wellFormed_closed E).step hwf
    (fun stopAt spec _ => wellFormed_attachMonitor E stopAt spec hwf) fun hconnection => ?_
  cases op with
  | setConnectionActive id isActive =>
    show Wf (b.core.setConnectionActive id isActive).1.connections b.host
    unfold BridgeCore.setConnectionActive
    split
    · exact hwf.modify _ (fun _ t => t.setActive isActive) (fun _ => rfl)
        (fun _ _ => ⟨rfl, rfl, rfl, rfl⟩) fun _ hc => hc.setActive isActive
    · exact hwf
  | incrementConnectionEpoch id =>
    show Wf (b.core.incrementConnectionEpoch id).1.connections b.host
    unfold BridgeCore.incrementConnectionEpoch
    split
    · exact hwf.modify _ (fun c t => t.setEpoch (c.epoch + 1)) (fun _ => rfl)
        (fun _ _ => ⟨rfl, rfl, rfl, rfl⟩) fun _ hc => hc.incrementEpoch
    · exact hwf
  | addTransferPdu i transfer =>
    have hcreated := transfer.created E b.host
    by_cases hi : i < b.core.connections.length
    · exact hwf.add hi hcreated
    · show Wf (b.core.connections.modify i _) _
      rw [List.modify_eq_self (Nat.not_lt.1 hi)]
      exact hwf.grow hcreated.extends
  | _ => exact absurd hconnection Bool.false_ne_true

/-- A bridge as it is after a successful build. -/
structure Booted (b : Bridge ε) : Prop where
  built : ∃ e, BuiltConnections (Host.boot e) b.core.connections b.host
  idle : b.core.isRunning = false
  noSessions : b.runtime = {}
  notAttached : b.runtimeAttached = false

theorem booted_of_boot {cfg : BridgeConfig} {nodeName : String} {container : List String} {e : ε}
    {b : Bridge ε} (h : boot E cfg nodeName container e = some b) : b.Booted := by
  unfold boot at h
  split at h
  · next h' core heq =>
    obtain ⟨hbuilt, hidle⟩ := built_of_boot heq
    obtain rfl := Option.some.inj h
    exact ⟨⟨e, hbuilt⟩, hidle, rfl, rfl⟩
  · simp at h

theorem Booted.wellFormed {b : Bridge ε} (hb : b.Booted) : b.WellFormed := by
  obtain ⟨e, hbuilt⟩ := hb.built
  exact hbuilt.wf

/-- The connections are well-formed in every state that a built bridge reaches. -/
theorem wellFormed_run {cfg : BridgeConfig} {nodeName : String} {container : List String} {e : ε}
    {b₀ : Bridge ε} (hboot : boot E cfg nodeName container e = some b₀) (ops : List (Op ε)) :
    (run (step E) b₀ ops).1.WellFormed := by
  have hkeep : ∀ (b : Bridge ε) (op : Op ε), b.WellFormed → (b.step E op).1.WellFormed :=
    fun b op hwf => wellFormed_step E hwf op
  exact run_invariant_of_forall hkeep (booted_of_boot hboot).wellFormed ops

/-! ## Sends -/

theorem mem_of_findTransfer {core : BridgeCore} {self : Nat} {t : ITransferPdu}
    (h : core.findTransfer self = some t) :
    ∃ c ∈ core.connections, t ∈ c.transferPdus ∧ t.self = self := by
  have hself : t.self = self := by simpa using List.find?_some h
  obtain ⟨c, hc, ht⟩ := List.mem_flatMap.1 (List.mem_of_find?_eq_some h)
  exact ⟨c, hc, ht, hself⟩

/-- A send of a reception comes from an owned transfer with a callback among those run. -/
theorem send_of_fireCallbacks {core : BridgeCore} {key : PduResolvedKey}
    {callbacks : List Callback} {h : Host ε} {s : Send}
    (hs : Event.send s ∈ (fireCallbacks E core key callbacks h).2) :
    ∃ c ∈ core.connections, ∃ t ∈ c.transferPdus, ITransferPdu.Sent E t s ∧
      Callback.transfer t.self ∈ callbacks := by
  induction callbacks generalizing h with
  | nil => simp [fireCallbacks] at hs
  | cons callback rest ih =>
    rcases List.mem_append.1 hs with hs | hs
    · unfold fireCallback at hs
      split at hs
      · next self =>
        split at hs
        · next t ht =>
          obtain ⟨s', hs', heq⟩ := List.mem_map.1 hs
          obtain rfl := Event.send.inj heq
          obtain ⟨c, hc, htc, rfl⟩ := mem_of_findTransfer ht
          exact ⟨c, hc, t, htc, ITransferPdu.sent_of_onRecvCallback hs', List.mem_cons_self⟩
        · simp at hs
      · simp at hs
      · simp at hs
    · obtain ⟨c, hc, t, ht, hsent, hmem⟩ := ih hs
      exact ⟨c, hc, t, ht, hsent, List.mem_cons_of_mem _ hmem⟩

/-- A send of the trigger loop comes from a cyclic transfer of an active connection. -/
theorem send_of_triggerConnections {cs : List BridgeConnection} {h : Host ε} {s : Send}
    (hs : s ∈ (BridgeCore.triggerConnections E cs h).2) :
    ∃ c ∈ cs, c.isActive = true ∧ ∃ t ∈ c.transferPdus, ITransferPdu.Sent E t s ∧
      (h.policies t.policy).isCyclicTrigger = true := by
  induction cs generalizing h with
  | nil => simp [BridgeCore.triggerConnections] at hs
  | cons c cs ih =>
    rcases List.mem_append.1 hs with hs | hs
    · obtain ⟨hactive, t, ht, hsent, hcyclic⟩ := BridgeConnection.mem_cyclicTrigger hs
      exact ⟨c, List.mem_cons_self, hactive, t, ht, hsent, hcyclic⟩
    · obtain ⟨c', hc', hactive, t, ht, hsent, hcyclic⟩ := ih hs
      refine ⟨c', List.mem_cons_of_mem _ hc', hactive, t, ht, hsent, ?_⟩
      rw [← (c.cyclicTrigger_sameBook E h).cyclic]
      exact hcyclic

/-- The two ways in which a step sends on behalf of the transfer `t` of the connection `c`. -/
inductive SendPath (b : Bridge ε) (c : BridgeConnection) (t : ITransferPdu) : Op ε → Prop
  | reception {endpointId : String} {key : PduResolvedKey} {data : Bytes} (reg : Registration)
      (hreg : reg ∈ b.host.registry) (hendpoint : reg.endpoint = .container endpointId)
      (hkey : reg.key = key) (hcallback : reg.callback = .transfer t.self) :
      SendPath b c t (.reception endpointId key data)
  | cyclicTrigger {accepted : List String} (hrunning : b.core.isRunning = true)
      (hactive : c.isActive = true)
      (hcyclic : (b.host.policies t.policy).isCyclicTrigger = true) :
      SendPath b c t (.cyclicTrigger accepted)

theorem mem_callbacksFor {registry : List Registration} {ep : EndpointRef} {key : PduResolvedKey}
    {callback : Callback} (h : callback ∈ callbacksFor registry ep key) :
    ∃ reg ∈ registry, reg.endpoint = ep ∧ reg.key = key ∧ reg.callback = callback := by
  obtain ⟨reg, hreg, rfl⟩ := List.mem_map.1 h
  obtain ⟨hmem, hcond⟩ := List.mem_filter.1 hreg
  obtain ⟨hep, hkey⟩ := of_decide_eq_true hcond
  exact ⟨reg, hmem, hep, hkey, rfl⟩

/-- **Sends of a step.** Every PDU that a step sends is sent by an owned transfer, on one of the
two paths. -/
theorem send_of_step {b : Bridge ε} {op : Op ε} {s : Send} (hs : Event.send s ∈ (b.step E op).2) :
    ∃ c ∈ b.core.connections, ∃ t ∈ c.transferPdus, ITransferPdu.Sent E t s ∧
      SendPath b c t op := by
  have hissued : ∀ res, Event.send s ∉ issuedIn res := by
    intro res hmem
    unfold issuedIn at hmem
    split at hmem <;> simp at hmem
  cases op with
  | reception endpointId key data =>
    obtain ⟨c, hc, t, ht, hsent, hmem⟩ := send_of_fireCallbacks hs
    obtain ⟨reg, hreg, hep, hkey, hcallback⟩ := mem_callbacksFor hmem
    exact ⟨c, hc, t, ht, hsent, .reception reg hreg hep hkey hcallback⟩
  | cyclicTrigger accepted =>
    have hs' : Event.send s ∈ (b.cyclicTrigger E accepted).2 := hs
    unfold cyclicTrigger at hs'
    split_ifs at hs' with hrunning
    · simp at hs'
    all_goals
      obtain ⟨s', hmem, heq⟩ := List.mem_map.1 hs'
      obtain rfl := Event.send.inj heq
      obtain ⟨c, hc, hactive, t, ht, hsent, hcyclic⟩ := send_of_triggerConnections hmem
      exact ⟨c, hc, t, ht, hsent, .cyclicTrigger (by simpa using hrunning) hactive hcyclic⟩
  | controlMessage stopAt name message =>
    simp only [step] at hs
    split at hs
    · rcases List.mem_append.1 hs with hs | hs
      · exact absurd hs (hissued _)
      · simp at hs
    · simp at hs
  | session op =>
    cases op with
    | attachMonitor stopAt spec =>
      simp only [step, sessionStep, issuedEvents] at hs
      split at hs <;> simp at hs
    | detachMonitor id => simp [step, sessionStep] at hs
    | handleRequest authorizer stopAt req ep =>
      simp only [step, sessionStep] at hs
      rcases List.mem_append.1 hs with hs | hs
      · exact absurd hs (hissued _)
      · simp at hs
    | shutdown => simp [step, sessionStep] at hs
  | _ => simp [step] at hs

end Bridge

end HakoniwaBridge
