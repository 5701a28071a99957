import HakoniwaBridge.ControlHandler
import HakoniwaBridge.Lib.Machine

/-!
# A bridge in operation

The operations of a bridge as one step function, for runs (`Lib.run`) of completed operations.

* `SessionOp` — attach, detach, control requests, shutdown; `Op` — everything else that can
  happen to a bridge, with the session operations among it.
* `Event` — what an observer sees: a send of a transfer, a callback that refers to a destroyed
  transfer (`dangling`; what such a call does is undefined, here it does nothing), a session id
  that was issued, an answer of the control plane.

A reception at an endpoint of the container runs the callbacks registered for its key, in
registration order. The receptions that `process_recv_events` dispatches inside `cyclic_trigger`
are `reception` steps before the `cyclicTrigger` step.
-/

namespace HakoniwaBridge

open Lib

variable {ε : Type}

/-- An observation. -/
inductive Event
  | send (s : Send)
  | dangling (self : Nat)
  | issued (sessionId : String)
  | response (endpoint : Option EndpointRef) (res : Json)

/-- The operations of a session: what a monitor client, or a program with access to the runtime,
can do. -/
inductive SessionOp
  | attachMonitor (stopAt : Option Nat) (spec : MonitorSessionSpec)
  | detachMonitor (sessionId : String)
  | handleRequest (authorizer : Option Authorizer) (stopAt : Option Nat) (req : Json)
      (sessionEndpoint : Option EndpointRef)
  | shutdown

/-- A transfer to be made and handed to a connection by `add_transfer_pdu`. -/
inductive NewTransfer
  | transferPdu (key : BridgePduKey) (policy : Policy) (src dst : EndpointRef)
  | transferAtomicPduGroup (keys : List BridgePduKey) (policy : Policy) (src dst : EndpointRef)

/-- The operations of a bridge. `environment` is any change outside, the passing of time among
them; `accepted` names the endpoints that `take_endpoints` yields. -/
inductive Op (ε : Type)
  | start
  | stop
  | environment (f : ε → ε)
  | reception (endpointId : String) (key : PduResolvedKey) (data : Bytes)
  | cyclicTrigger (accepted : List String)
  | setConnectionActive (connectionId : String) (isActive : Bool)
  | incrementConnectionEpoch (connectionId : String)
  | addTransferPdu (i : Nat) (transfer : NewTransfer)
  | initializeRuntime (options : BridgeMonitorRuntimeOptions) (openErr startErr : HakoPduErrorType)
  | attachMonitorRuntime
  | detachMonitorRuntime
  | controlMessage (stopAt : Option Nat) (name : String) (message : Option Json)
  | session (op : SessionOp)

/-- Make the policy object and the transfer. -/
def NewTransfer.create (E : Env ε) (h : Host ε) : NewTransfer → ITransferPdu × Host ε
  | .transferPdu key policy src dst =>
    newTransferPdu E key (h.newPolicy policy).1 src dst (h.newPolicy policy).2
  | .transferAtomicPduGroup keys policy src dst =>
    newTransferAtomicPduGroup E keys (h.newPolicy policy).1 src dst (h.newPolicy policy).2

theorem NewTransfer.created (E : Env ε) (h : Host ε) (transfer : NewTransfer) :
    Created h (transfer.create E h).1 (transfer.create E h).2 := by
  cases transfer with
  | transferPdu key policy src dst => exact created_newTransferPdu E key policy src dst h
  | transferAtomicPduGroup keys policy src dst =>
    exact created_newTransferAtomicPduGroup E keys policy src dst h

/-! ## Receptions -/

/-- The transfer object behind a captured `this`, if it still exists. -/
def BridgeCore.findTransfer (core : BridgeCore) (self : Nat) : Option ITransferPdu :=
  (core.connections.flatMap (·.transferPdus)).find? fun t => t.self == self

namespace Bridge

/-- Run one callback for a received PDU. -/
def fireCallback (E : Env ε) (core : BridgeCore) (key : PduResolvedKey) (callback : Callback)
    (h : Host ε) : Host ε × List Event :=
  match callback with
  | .transfer self =>
    match core.findTransfer self with
    | some t => ((t.onRecvCallback E key h).1, (t.onRecvCallback E key h).2.map .send)
    | none => (h, [.dangling self])
  | .silent => (h, [])
  | .control => (h, [])

/-- Run the callbacks one after another. -/
def fireCallbacks (E : Env ε) (core : BridgeCore) (key : PduResolvedKey) :
    List Callback → Host ε → Host ε × List Event
  | [], h => (h, [])
  | callback :: rest, h =>
    ((fireCallbacks E core key rest (fireCallback E core key callback h).1).1,
      (fireCallback E core key callback h).2 ++
        (fireCallbacks E core key rest (fireCallback E core key callback h).1).2)

/-- The callbacks registered for a key of an endpoint. -/
def callbacksFor (registry : List Registration) (ep : EndpointRef) (key : PduResolvedKey) :
    List Callback :=
  (registry.filter fun reg => decide (reg.endpoint = ep ∧ reg.key = key)).map (·.callback)

/-- A PDU arrives at an endpoint of the container. -/
def reception (E : Env ε) (endpointId : String) (key : PduResolvedKey) (data : Bytes)
    (b : Bridge ε) : Bridge ε × List Event :=
  let ep := EndpointRef.container endpointId
  let r := fireCallbacks E b.core key (callbacksFor b.host.registry ep key)
    { b.host with env := E.deliver ep key data b.host.env }
  ({ b with host := r.1 }, r.2)

/-- The bridge that a successful build in a fresh process yields. -/
def boot (E : Env ε) (cfg : BridgeConfig) (nodeName : String) (container : List String) (e : ε) :
    Option (Bridge ε) :=
  match build E cfg nodeName container (Host.boot e) with
  | (h, .ok core) => some { host := h, core := core }
  | (_, .error _) => none

/-- The small configuration over the small caches. -/
def bootSmall (mode : CacheMode) (policy : TransferPolicy) (keys : List BridgePduKey)
    (epochValidation : Bool) : Option (Bridge CacheState) :=
  boot ((CacheSpec.small mode).env none) (BridgeConfig.small policy keys epochValidation) "node"
    ["src", "dst"] CacheState.empty

/-! ## Steps -/

/-- Source: `bridge_core.cpp`, `BridgeCore::cyclic_trigger`. -/
def cyclicTrigger (E : Env ε) (accepted : List String) (b : Bridge ε) : Bridge ε × List Event :=
  if b.core.isRunning = false then (b, [])
  else
    let env := b.core.endpointIds.foldl (fun e id => E.processRecvEvents (.container id) e)
      b.host.env
    let r := BridgeCore.triggerConnections E b.core.connections { b.host with env := env }
    let b' := { b with host := r.1 }
    (if b.runtimeAttached then b'.processControlPlaneOnce E accepted else b', r.2.map .send)

/-- Source: `bridge_core.cpp`, `BridgeCore::stop`. -/
def stop (E : Env ε) (b : Bridge ε) : Bridge ε :=
  let b' := { b with core := { b.core with isRunning := false } }
  if b.runtimeAttached then b'.shutdown E else b'

/-- Source: `bridge_core.cpp`, `BridgeCore::detach_monitor_runtime`. -/
def detachMonitorRuntime (E : Env ε) (b : Bridge ε) : Bridge ε :=
  if b.runtimeAttached then { b with runtimeAttached := false }.shutdown E else b

/-- The event of an issued session id. -/
def issuedEvents (sessionId : Option String) : List Event :=
  match sessionId with
  | some id => [.issued id]
  | none => []

/-- The session id that an answer hands out. -/
def issuedIn (res : Json) : List Event :=
  match res.getString? "type", res.getString? "session_id" with
  | some "subscribed", some id => [.issued id]
  | _, _ => []

/-- One session operation. -/
def sessionStep (E : Env ε) (b : Bridge ε) (op : SessionOp) : Bridge ε × List Event :=
  match op with
  | .attachMonitor stopAt spec =>
    ((b.attachMonitor E stopAt spec).1, issuedEvents (b.attachMonitor E stopAt spec).2)
  | .detachMonitor sessionId => ((b.detachMonitor sessionId).1, [])
  | .handleRequest authorizer stopAt req ep =>
    let r := b.handleRequest E authorizer stopAt req ep
    (r.1, issuedIn r.2 ++ [.response ep r.2])
  | .shutdown => (b.shutdown E, [])

/-- One operation. -/
def step (E : Env ε) (b : Bridge ε) (op : Op ε) : Bridge ε × List Event :=
  match op with
  | .start =>
    ({ b with core := (b.core.start E b.host.env).1
              host := { b.host with env := (b.core.start E b.host.env).2 } }, [])
  | .stop => (b.stop E, [])
  | .environment f => ({ b with host := { b.host with env := f b.host.env } }, [])
  | .reception endpointId key data => b.reception E endpointId key data
  | .cyclicTrigger accepted => b.cyclicTrigger E accepted
  | .setConnectionActive id isActive =>
    ({ b with core := (b.core.setConnectionActive id isActive).1 }, [])
  | .incrementConnectionEpoch id =>
    ({ b with core := (b.core.incrementConnectionEpoch id).1 }, [])
  | .addTransferPdu i transfer =>
    ({ b with
       host := (transfer.create E b.host).2
       core := b.core.modifyConnection i (·.addTransferPdu (transfer.create E b.host).1) }, [])
  | .initializeRuntime options openErr startErr =>
    ({ b with runtime := (b.runtime.initializeRuntime options openErr startErr).1 }, [])
  | .attachMonitorRuntime => ({ b with runtimeAttached := true }, [])
  | .detachMonitorRuntime => (b.detachMonitorRuntime E, [])
  | .controlMessage stopAt name message =>
    let r := b.controlMessage E stopAt name message
    (r.1,
      match r.2 with
      | some res => issuedIn res ++ [.response (some (.session name)) res]
      | none => [])
  | .session op => b.sessionStep E op

end Bridge

end HakoniwaBridge
