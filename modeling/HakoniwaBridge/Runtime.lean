import HakoniwaBridge.Builder

/-!
# The monitor runtime

`BridgeMonitorRuntime` of `bridge_monitor_runtime.cpp`, and `Bridge`: a core, its runtime and the
host around them.

* `insertSession`, `recordSession`, `forgetSession`, `markDisconnected`, `takeSessionIds`,
  `Bridge.detachMonitor` — the sections under `session_mtx_`, each a function of its own, from
  which both the operations below and the interleaving model are made.
* `Bridge.attachMonitor` — with the running flag loaded afresh at each of its checks: `stopAt`
  gives the load before which another thread clears the flag, if one does.
* `Bridge.detachMonitor`, `Bridge.shutdown`, `Bridge.processControlPlaneOnce`.

The state of the multiplexer is the flag `ondemandMux`; what it does on `stop` and `close` is
outside. Log lines are left out.
-/

namespace HakoniwaBridge

variable {ε : Type}

/-- Source: `unordered_map::emplace`: a key that is present keeps its value. -/
def emplace {β : Type} (m : AList fun _ : String => β) (key : String) (value : β) :
    AList fun _ : String => β :=
  if key ∈ m then m else m.insert key value

/-- Source: `bridge_monitor_runtime.hpp`, `BridgeMonitorRuntimeOptions`. -/
structure BridgeMonitorRuntimeOptions where
  enableOndemand : Bool := false
  ondemandMuxConfigPath : String := ""
  controlRobot : String := "BridgeControl"
  controlRequestChannel : Int := 1
  controlResponseChannel : Int := 2

/-- Source: `bridge_monitor_runtime.hpp`, `MonitorSessionRuntime`. -/
structure MonitorSessionRuntime where
  transfers : List Nat
  destinationEndpoint : Option EndpointRef

/-- Source: `bridge_monitor_runtime.hpp`, `BridgeMonitorRuntime`. Session endpoints are kept by
their names. -/
structure BridgeMonitorRuntime where
  initialized : Bool := false
  ondemandMux : Bool := false
  controlHandler : Bool := false
  controlReqKey : PduResolvedKey := ⟨"BridgeControl", 1⟩
  controlResKey : PduResolvedKey := ⟨"BridgeControl", 2⟩
  ondemandSessions : List String := []
  disconnectedControlEndpoints : List String := []
  endpointSessionIds : AList (fun _ : String => List String) := ∅
  monitorSessions : AList (fun _ : String => MonitorSessionInfo) := ∅
  monitorRuntimeSessions : AList (fun _ : String => MonitorSessionRuntime) := ∅
  nextMonitorSessionId : UInt64 := 1

namespace BridgeMonitorRuntime

/-- Source: `bridge_monitor_runtime.cpp`, `BridgeMonitorRuntime::initialize`; `openErr` and
`startErr` are the answers of the multiplexer. -/
def initializeRuntime (options : BridgeMonitorRuntimeOptions) (openErr startErr : HakoPduErrorType)
    (rt : BridgeMonitorRuntime) : BridgeMonitorRuntime × HakoPduErrorType :=
  if rt.initialized then (rt, .busy)
  else
    let rt₁ := { rt with
      controlReqKey := ⟨options.controlRobot, options.controlRequestChannel⟩
      controlResKey := ⟨options.controlRobot, options.controlResponseChannel⟩ }
    if options.enableOndemand = false then ({ rt₁ with initialized := true }, .ok)
    else if options.ondemandMuxConfigPath = "" then (rt₁, .invalidArgument)
    else if openErr ≠ .ok then ({ rt₁ with ondemandMux := false }, openErr)
    else if startErr ≠ .ok then ({ rt₁ with ondemandMux := false }, startErr)
    else ({ rt₁ with ondemandMux := true, controlHandler := true, initialized := true }, .ok)

/-- The id that the next session gets. -/
def nextSessionId (rt : BridgeMonitorRuntime) : String :=
  "ms-" ++ toString rt.nextMonitorSessionId.toNat

/-- The transfers that the tables hold for a session. -/
def sessionTransfers (rt : BridgeMonitorRuntime) (sessionId : String) : List Nat :=
  ((rt.monitorRuntimeSessions.lookup sessionId).map (·.transfers)).getD []

/-- Source: `attach_monitor`, the section under `session_mtx_`; the session id of `info` is
filled in here. -/
def insertSession (rt : BridgeMonitorRuntime) (info : MonitorSessionInfo) (transfers : List Nat)
    (destination : Option EndpointRef) : BridgeMonitorRuntime × String :=
  let sessionId := "ms-" ++ toString rt.nextMonitorSessionId.toNat
  ({ rt with
     nextMonitorSessionId := rt.nextMonitorSessionId + 1
     monitorSessions := emplace rt.monitorSessions sessionId { info with sessionId := sessionId }
     monitorRuntimeSessions :=
       if transfers = [] then rt.monitorRuntimeSessions
       else emplace rt.monitorRuntimeSessions sessionId ⟨transfers, destination⟩ },
    sessionId)

/-- Source: the control callback, the section after `subscribed`. -/
def recordSession (rt : BridgeMonitorRuntime) (endpointName sessionId : String) :
    BridgeMonitorRuntime :=
  { rt with
    endpointSessionIds := rt.endpointSessionIds.insert endpointName
      ((rt.endpointSessionIds.lookup endpointName).getD [] ++ [sessionId]) }

/-- Source: the control callback, the section after an unsubscription. -/
def forgetSession (rt : BridgeMonitorRuntime) (endpointName sessionId : String) :
    BridgeMonitorRuntime :=
  match rt.endpointSessionIds.lookup endpointName with
  | none => rt
  | some ids =>
    { rt with
      endpointSessionIds := rt.endpointSessionIds.insert endpointName
        (ids.filter fun id => !decide (id = sessionId)) }

/-- Source: `cleanup_disconnected_sessions_`, the loop under `session_mtx_` over the endpoints:
those that are newly found not to run. -/
def markDisconnected (running : String → Bool) :
    List String → BridgeMonitorRuntime → BridgeMonitorRuntime × List String
  | [], rt => (rt, [])
  | name :: names, rt =>
    if name ∈ rt.disconnectedControlEndpoints ∨ running name = true then
      markDisconnected running names rt
    else
      let rest := markDisconnected running names
        { rt with disconnectedControlEndpoints := rt.disconnectedControlEndpoints ++ [name] }
      (rest.1, name :: rest.2)

/-- Source: `detach_sessions_for_endpoint_`, the section under `session_mtx_`. -/
def takeSessionIds (rt : BridgeMonitorRuntime) (endpointName : String) :
    BridgeMonitorRuntime × List String :=
  match rt.endpointSessionIds.lookup endpointName with
  | none => (rt, [])
  | some ids => ({ rt with endpointSessionIds := rt.endpointSessionIds.erase endpointName }, ids)

/-- Source: `bridge_monitor_runtime.cpp`, `BridgeMonitorRuntime::list_monitor_infos`. -/
def listMonitorInfos (rt : BridgeMonitorRuntime) : List MonitorSessionInfo :=
  (rt.monitorSessions.entries.map Sigma.snd).mergeSort
    fun a b => decide (a.sessionId ≤ b.sessionId)

end BridgeMonitorRuntime

/-- Source: `attach_monitor`, the policy in effect. -/
def effectivePolicy (policy : MonitorPolicy) : MonitorPolicy :=
  if policy.type = "" then { type := "throttle", intervalMs := 100 } else policy

/-- Source: `attach_monitor`, everything before the first transfer is created. -/
def BridgeCore.admitMonitor (E : Env ε) (core : BridgeCore) (spec : MonitorSessionSpec) :
    Option ResolvedMonitorSelection :=
  if core.isRunning = false then none
  else if spec.connectionId = "" then none
  else if isSupportedMonitorPolicy (effectivePolicy spec.policy) = false then none
  else (core.resolveMonitorSelection E spec.connectionId spec.filters).toOption

/-- A request is admitted iff it passes the three checks and selects something. -/
theorem BridgeCore.admitMonitor_eq_some {E : Env ε} {core : BridgeCore} {spec : MonitorSessionSpec}
    {selection : ResolvedMonitorSelection} :
    core.admitMonitor E spec = some selection ↔
      core.isRunning = true ∧ spec.connectionId ≠ "" ∧
        isSupportedMonitorPolicy (effectivePolicy spec.policy) = true ∧
        core.resolveMonitorSelection E spec.connectionId spec.filters = .ok selection := by
  unfold admitMonitor
  split_ifs with hrun hid hpolicy
  · simp [hrun]
  · simp [hid]
  · simp [hpolicy]
  · have hrun' : core.isRunning = true := by simpa using hrun
    have hpolicy' : isSupportedMonitorPolicy (effectivePolicy spec.policy) = true := by
      simpa using hpolicy
    cases core.resolveMonitorSelection E spec.connectionId spec.filters with
    | error message => simp [Except.toOption]
    | ok resolved => simp [Except.toOption, hrun', hid, hpolicy']

/-- A core with its monitor runtime, and the host around them. `runtimeAttached` says whether
the core holds the runtime (`attach_monitor_runtime`). -/
structure Bridge (ε : Type) where
  host : Host ε
  core : BridgeCore
  runtime : BridgeMonitorRuntime := {}
  runtimeAttached : Bool := false

namespace Bridge

/-- The running flag at load number `k` of `attach_monitor`. -/
def loadRunning (stopAt : Option Nat) (k : Nat) (core : BridgeCore) : BridgeCore :=
  if stopAt = some k then { core with isRunning := false } else core

/-- Source: `attach_monitor`, the loop over the keys, up to the first call that fails; yields the
transfers created and whether the loop ran to its end. -/
def createMonitorTransfers (E : Env ε) (stopAt : Option Nat) (spec : MonitorSessionSpec) :
    Nat → List BridgePduKey → BridgeCore × Host ε → (BridgeCore × Host ε) × List Nat × Bool
  | _, [], s => (s, [], true)
  | k, key :: keys, s =>
    match (loadRunning stopAt k s.1).createMonitorTransfer E spec.connectionId key
        (effectivePolicy spec.policy) spec.destinationEndpoint s.2 with
    | (s', .error _) => (s', [], false)
    | (s', .ok transfer) =>
      let rest := createMonitorTransfers E stopAt spec (k + 1) keys s'
      (rest.1, transfer :: rest.2.1, rest.2.2)

/-- The keys for which `attach_monitor` creates transfers: none without a destination. -/
def monitorKeys (spec : MonitorSessionSpec) (selection : ResolvedMonitorSelection) :
    List BridgePduKey :=
  if spec.destinationEndpoint = none then [] else selection.keys

/-- Source: `attach_monitor`, the record of the new session, before it has an id. -/
def sessionInfo (spec : MonitorSessionSpec) (selection : ResolvedMonitorSelection) :
    MonitorSessionInfo where
  sessionId := ""
  connectionId := spec.connectionId
  filters := selection.filters
  policy := effectivePolicy spec.policy
  state := .active

/-- Source: `bridge_monitor_runtime.cpp`, `BridgeMonitorRuntime::attach_monitor`. -/
def attachMonitor (E : Env ε) (stopAt : Option Nat) (spec : MonitorSessionSpec) (b : Bridge ε) :
    Bridge ε × Option String :=
  let core := loadRunning stopAt 0 b.core
  match core.admitMonitor E spec with
  | none => ({ b with core := core }, none)
  | some selection =>
    match createMonitorTransfers E stopAt spec 1 (monitorKeys spec selection) (core, b.host) with
    | ((core', h), transfers, false) =>
      ({ b with core := core'.retireTransfers transfers, host := h }, none)
    | ((core', h), transfers, true) =>
      let inserted :=
        b.runtime.insertSession (sessionInfo spec selection) transfers spec.destinationEndpoint
      ({ b with core := core', host := h, runtime := inserted.1 }, some inserted.2)

/-- Source: `bridge_monitor_runtime.cpp`, `BridgeMonitorRuntime::detach_monitor`. The states
`Draining` and `Closed` are set and the entry erased under one lock. -/
def detachMonitor (sessionId : String) (b : Bridge ε) : Bridge ε × Bool :=
  if sessionId ∈ b.runtime.monitorSessions then
    ({ b with
       core := b.core.retireTransfers (b.runtime.sessionTransfers sessionId)
       runtime := { b.runtime with
         monitorRuntimeSessions := b.runtime.monitorRuntimeSessions.erase sessionId
         monitorSessions := b.runtime.monitorSessions.erase sessionId } }, true)
  else (b, true)

/-- All transfers in the runtime table. -/
def monitorTransfers (b : Bridge ε) : List Nat :=
  b.runtime.monitorRuntimeSessions.entries.flatMap fun s => s.2.transfers

/-- Source: `bridge_monitor_runtime.cpp`, `BridgeMonitorRuntime::shutdown`. -/
def shutdown (E : Env ε) (b : Bridge ε) : Bridge ε :=
  if b.runtime.initialized = false then b
  else
    let toStop := b.runtime.ondemandSessions.filter fun name =>
      !decide (name ∈ b.runtime.disconnectedControlEndpoints)
    let env := toStop.foldl (fun e name => E.close (.session name) (E.stop (.session name) e))
      b.host.env
    { b with
      host := { b.host with env := env }
      core := b.core.retireTransfers b.monitorTransfers
      runtime := { b.runtime with
        monitorRuntimeSessions := ∅
        monitorSessions := ∅
        endpointSessionIds := ∅
        disconnectedControlEndpoints := []
        ondemandSessions := []
        ondemandMux := false
        controlHandler := false
        initialized := false } }

/-- Source: `process_control_plane_once`, the body of the loop over the new endpoints. -/
def acceptEndpoint (name : String) (b : Bridge ε) : Bridge ε :=
  { b with
    host := { b.host with
      registry := b.host.registry ++ [⟨.session name, b.runtime.controlReqKey, .control⟩] }
    runtime := { b.runtime with ondemandSessions := b.runtime.ondemandSessions ++ [name] } }

/-- Source: `bridge_monitor_runtime.cpp`, `detach_sessions_for_endpoint_`. -/
def detachSessionsForEndpoint (endpointName : String) (b : Bridge ε) : Bridge ε :=
  let (runtime, sessionIds) := b.runtime.takeSessionIds endpointName
  sessionIds.foldl (fun b sessionId => (b.detachMonitor sessionId).1)
    { b with runtime := runtime }

/-- A session endpoint answers that it runs. -/
def sessionRunning (E : Env ε) (e : ε) (name : String) : Bool :=
  decide ((E.isRunning (.session name) e).1 = .ok) && (E.isRunning (.session name) e).2

/-- Source: `bridge_monitor_runtime.cpp`, `cleanup_disconnected_sessions_`. -/
def cleanupDisconnectedSessions (E : Env ε) (b : Bridge ε) : Bridge ε :=
  let marked := BridgeMonitorRuntime.markDisconnected (sessionRunning E b.host.env)
    b.runtime.ondemandSessions b.runtime
  marked.2.foldl (fun b name => b.detachSessionsForEndpoint name) { b with runtime := marked.1 }

/-- Source: `bridge_monitor_runtime.cpp`, `BridgeMonitorRuntime::process_control_plane_once`;
`accepted` are the names of the endpoints that the multiplexer hands over. -/
def processControlPlaneOnce (E : Env ε) (accepted : List String) (b : Bridge ε) : Bridge ε :=
  if b.runtime.initialized = false ∨ b.runtime.ondemandMux = false then b
  else cleanupDisconnectedSessions E (accepted.foldl (fun b name => b.acceptEndpoint name) b)

end Bridge

end HakoniwaBridge
