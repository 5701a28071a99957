import HakoniwaBridge.Statics
import HakoniwaBridge.Lib.FirstMatch
import HakoniwaBridge.Lib.Simulation

/-!
# What the calls for a connection come to

`set_connection_active` and `increment_connection_epoch` reach the first connection with the id, and
`list_connections` shows what they have set. Between two such calls nothing moves a flag or an
epoch: no reception, no trigger, no session, no stop.

* `BridgeConnection.state` — a row of `list_connections`.
* `states_run` — the rows after a run are the rows before it, under the calls of the run.
* `connections_run` — **every connection is as its calls have left it**: the flag is that of the
  last call, the epoch the number of calls modulo 256, and its transfers work with that epoch.
-/

namespace HakoniwaBridge

open Lib

variable {ε : Type} {E : Env ε}

/-- Source: `BridgeCore::list_connections`, the row for a connection. -/
def BridgeConnection.state (c : BridgeConnection) : ConnectionStateDto where
  connectionId := c.connectionId
  nodeId := c.nodeId
  active := c.isActive
  epoch := c.epoch
  epochValidation := c.epochValidation

namespace BridgeCore

/-- The rows, in the order of the connections. -/
def states (core : BridgeCore) : List ConnectionStateDto := core.connections.map (·.state)

/-- The rows that are listed are those of the connections, in some order. -/
theorem listConnections_perm (core : BridgeCore) : core.listConnections.Perm core.states :=
  List.mergeSort_perm _ _

/-! ## One call -/

/-- A change of the connection that is found is a change of the first one with the id. -/
theorem findConnection_elim (core : BridgeCore) (id : String)
    (f : BridgeConnection → BridgeConnection) :
    ((core.findConnection id).elim core fun i => core.modifyConnection i f).connections =
      modifyFirst (·.connectionId) id f core.connections := by
  rw [modifyFirst_eq]
  unfold findConnection
  cases core.connections.findIdx? fun c => c.connectionId == id <;> rfl

/-- `set_connection_active` on the rows. -/
theorem states_setConnectionActive (core : BridgeCore) (id : String) (isActive : Bool) :
    (core.setConnectionActive id isActive).1.states =
      modifyFirst (·.connectionId) id (fun row => { row with active := isActive }) core.states := by
  have hcall : (core.setConnectionActive id isActive).1 =
      (core.findConnection id).elim core fun i =>
        core.modifyConnection i (·.setActive isActive) := by
    unfold setConnectionActive
    cases core.findConnection id <;> rfl
  rw [hcall, states, findConnection_elim]
  refine map_modifyFirst _ _ _ ?_ ?_ id core.connections <;> exact fun _ => rfl

/-- `increment_connection_epoch` on the rows. -/
theorem states_incrementConnectionEpoch (core : BridgeCore) (id : String) :
    (core.incrementConnectionEpoch id).1.states =
      modifyFirst (·.connectionId) id (fun row => { row with epoch := row.epoch + 1 })
        core.states := by
  have hcall : (core.incrementConnectionEpoch id).1 =
      (core.findConnection id).elim core fun i => core.modifyConnection i (·.incrementEpoch) := by
    unfold incrementConnectionEpoch
    cases core.findConnection id <;> rfl
  rw [hcall, states, findConnection_elim]
  refine map_modifyFirst _ _ _ ?_ ?_ id core.connections <;> exact fun _ => rfl

/-! ## What is no call -/

/-- A change that no row shows. -/
theorem states_modifyConnection (core : BridgeCore) (i : Nat)
    {f : BridgeConnection → BridgeConnection} (hf : ∀ c, (f c).state = c.state) :
    (core.modifyConnection i f).states = core.states :=
  map_modify_of_invisible hf core.connections i

theorem states_removeFromFirst (transfer : Nat) (cs : List BridgeConnection) :
    (removeFromFirst transfer cs).1.map (·.state) = cs.map (·.state) := by
  induction cs with
  | nil => rfl
  | cons c cs ih =>
    unfold removeFromFirst
    split_ifs with hremoved
    · have hstate : (c.removeTransferPdu transfer).1.state = c.state := by
        unfold BridgeConnection.removeTransferPdu
        split_ifs <;> rfl
      rw [List.map_cons, List.map_cons, hstate]
    · rw [List.map_cons, List.map_cons, ih]

/-- No row shows the transfers that are retired. -/
theorem states_retireTransfers (core : BridgeCore) (transfers : List Nat) :
    (core.retireTransfers transfers).states = core.states := by
  unfold retireTransfers
  induction transfers generalizing core with
  | nil => rfl
  | cons r rs ih =>
    have hdeactivate : (core.deactivateMonitorTransfer r).states = core.states := by
      rw [states, deactivateMonitorTransfer, List.map_map]
      rfl
    have hremove : ((core.deactivateMonitorTransfer r).removeMonitorTransfer r).1.states =
        (core.deactivateMonitorTransfer r).states := states_removeFromFirst r _
    exact (ih _).trans (hremove.trans hdeactivate)

/-- No row shows a transfer that is made for a monitor. -/
theorem states_createMonitorTransfer (E : Env ε) (core : BridgeCore) (id : String)
    (key : BridgePduKey) (policy : MonitorPolicy) (dst : Option EndpointRef) (h : Host ε) :
    (core.createMonitorTransfer E id key policy dst h).1.1.states = core.states := by
  rcases createMonitorTransfer_cases E core id key policy dst h with
    ⟨message, heq⟩ | ⟨i, t, h', -, -, heq⟩
  · rw [heq]
  · rw [heq]
    exact states_modifyConnection core i fun c => rfl

end BridgeCore

namespace Bridge

open BridgeCore

theorem states_loadRunning (stopAt : Option Nat) (k : Nat) (core : BridgeCore) :
    (loadRunning stopAt k core).states = core.states := by
  unfold loadRunning
  split_ifs <;> rfl

/-- No row shows the transfers of a session. -/
theorem states_createMonitorTransfers (E : Env ε) (stopAt : Option Nat)
    (spec : MonitorSessionSpec) (k : Nat) (keys : List BridgePduKey) (s : BridgeCore × Host ε) :
    (createMonitorTransfers E stopAt spec k keys s).1.1.states = s.1.states := by
  induction keys generalizing k s with
  | nil => rfl
  | cons key keys ih =>
    have hcreate := states_createMonitorTransfer E (loadRunning stopAt k s.1) spec.connectionId
      key (effectivePolicy spec.policy) spec.destinationEndpoint s.2
    rw [states_loadRunning] at hcreate
    unfold createMonitorTransfers
    split
    · next heq => rwa [heq] at hcreate
    · next heq =>
      rw [heq] at hcreate
      exact (ih (k + 1) _).trans hcreate

/-- An attach leaves the rows as they are. -/
theorem states_attachMonitor (E : Env ε) (stopAt : Option Nat) (spec : MonitorSessionSpec)
    (b : Bridge ε) : (b.attachMonitor E stopAt spec).1.core.states = b.core.states := by
  have hload := states_loadRunning stopAt 0 b.core
  unfold attachMonitor
  dsimp only
  split
  · exact hload
  · next selection hadmitted =>
    have hcreate := states_createMonitorTransfers E stopAt spec 1 (monitorKeys spec selection)
      (loadRunning stopAt 0 b.core, b.host)
    split
    · next heq =>
      rw [heq] at hcreate
      exact (states_retireTransfers _ _).trans (hcreate.trans hload)
    · next heq =>
      rw [heq] at hcreate
      exact hcreate.trans hload

/-- Sessions, traffic, starts and stops show in no row. -/
theorem states_closed (E : Env ε) (states : List ConnectionStateDto) :
    ControlClosed E fun b : Bridge ε => b.core.states = states where
  runtime _ _ _ h := h
  accept _ _ _ h := h
  detach b sessionId h := by
    unfold detachMonitor
    split_ifs
    · exact (states_retireTransfers _ _).trans h
    · exact h
  host _ _ _ h := h
  core _ _ hcore h := (congrArg (List.map _) hcore).trans h
  attached _ _ h := h
  shutdown b h := by
    unfold Bridge.shutdown
    split_ifs
    · exact h
    · exact (states_retireTransfers _ _).trans h

end Bridge

/-! ## Runs -/

namespace Op

/-- The call that an operation is: the id, and the change of a row. -/
def call : Op ε → List (String × (ConnectionStateDto → ConnectionStateDto))
  | .setConnectionActive id isActive => [(id, fun row => { row with active := isActive })]
  | .incrementConnectionEpoch id => [(id, fun row => { row with epoch := row.epoch + 1 })]
  | _ => []

/-- The flag that an operation sets for an id. -/
def setsActive (id : String) : Op ε → Option Bool
  | .setConnectionActive id' isActive => if id' = id then some isActive else none
  | _ => none

/-- The operation increments the epoch for an id. -/
def increments (id : String) : Op ε → Bool
  | .incrementConnectionEpoch id' => decide (id' = id)
  | _ => false

/-- A call moves no row. -/
theorem call_keeps (op : Op ε) : ∀ command ∈ op.call, ∀ row : ConnectionStateDto,
    (command.2 row).connectionId = row.connectionId := by
  cases op <;> simp [call]

/-- The calls keep the ids of the rows. -/
theorem calls_keep (ops : List (Op ε)) : ∀ command ∈ ops.flatMap call,
    ∀ row : ConnectionStateDto, (command.2 row).connectionId = row.connectionId := by
  intro command hcommand
  obtain ⟨op, -, hop⟩ := List.mem_flatMap.1 hcommand
  exact call_keeps op command hop

/-- The row under the calls of a run: the last flag, and as many increments as there are. -/
theorem commanded_calls (ops : List (Op ε)) (row : ConnectionStateDto) :
    commanded (·.connectionId) (ops.flatMap call) row = { row with
      active := (ops.filterMap (setsActive row.connectionId)).getLast?.getD row.active
      epoch := row.epoch + UInt8.ofNat (ops.countP (increments row.connectionId)) } := by
  induction ops generalizing row with
  | nil => simp [commanded]
  | cons op ops ih =>
    rw [List.flatMap_cons, commanded_append (call_keeps op), ih]
    cases op with
    | setConnectionActive id isActive =>
      by_cases hid : id = row.connectionId
      · simp [call, commanded, setsActive, increments, hid, List.getLast?_cons]
      · simp [call, commanded, setsActive, increments, hid]
    | incrementConnectionEpoch id =>
      by_cases hid : id = row.connectionId
      · simp [call, commanded, setsActive, increments, hid, UInt8.ofNat_add, add_comm,
          UInt8.add_assoc]
      · simp [call, commanded, setsActive, increments, hid]
    | _ => simp [call, commanded, setsActive, increments]

end Op

namespace Bridge

open BridgeCore

/-- One step does to the rows what its calls of the control functions do. -/
theorem states_step (b : Bridge ε) (op : Op ε) : (b.step E op).1.core.states =
    commandAll (·.connectionId) op.call b.core.states := by
  by_cases hop : op.onConnection = true
  · cases op with
    | setConnectionActive id isActive => exact states_setConnectionActive b.core id isActive
    | incrementConnectionEpoch id => exact states_incrementConnectionEpoch b.core id
    | addTransferPdu i transfer => exact states_modifyConnection b.core i fun c => rfl
    | _ => exact absurd hop Bool.false_ne_true
  · have hcall : op.call = [] := by
      cases op <;> first | rfl | exact absurd rfl hop
    rw [hcall]
    exact (states_closed E b.core.states).step rfl
      (fun stopAt spec _ => states_attachMonitor E stopAt spec b) fun h => absurd h hop

/-- The rows after a run are the rows before it, under the calls of the run. -/
theorem states_run (b : Bridge ε) (ops : List (Op ε)) : (run (step E) b ops).1.core.states =
    commandAll (·.connectionId) (ops.flatMap Op.call) b.core.states :=
  run_view (fun b : Bridge ε => b.core.states) (fun b op _ => states_step b op)
    (along_of_forall (fun _ _ => trivial) b ops)

/-- **What the calls come to.** In every run of a built bridge, the first connection with its id has
the flag of the last call for the id, and as its epoch the number of calls modulo 256; another
connection with the id is as it was built. `list_connections` shows this, and every transfer of the
connection works with the epoch. -/
theorem connections_run {cfg : BridgeConfig} {nodeName : String} {container : List String} {e : ε}
    {b : Bridge ε} (hboot : boot E cfg nodeName container e = some b) (ops : List (Op ε)) :
    let core := (run (step E) b ops).1.core
    core.listConnections.Perm core.states ∧
    core.connections.length = b.core.connections.length ∧
    ∀ (i : Nat) (c : BridgeConnection), core.connections[i]? = some c →
      (∃ c₀, b.core.connections[i]? = some c₀ ∧ c.header = c₀.header) ∧
      (if c.connectionId ∈ (b.core.connections.take i).map (·.connectionId) then
        c.isActive = true ∧ c.epoch = 0
      else
        c.isActive = (ops.filterMap (Op.setsActive c.connectionId)).getLast?.getD true ∧
          c.epoch = UInt8.ofNat (ops.countP (Op.increments c.connectionId))) ∧
      ∀ t ∈ c.transferPdus, t.ownerEpoch = c.epoch ∧ t.epochValidation = c.epochValidation := by
  intro core
  have hbooted := booted_of_boot hboot
  have hheaders : core.connections.map (·.header) = b.core.connections.map (·.header) :=
    (sameSetup_run E b ops).headers
  have hlength : core.connections.length = b.core.connections.length := by
    simpa using congrArg List.length hheaders
  refine ⟨listConnections_perm core, hlength, fun i c hc => ?_⟩
  have hi : i < b.core.connections.length := by
    rw [← hlength]
    exact (List.getElem?_eq_some_iff.1 hc).1
  have hc₀ : b.core.connections[i]? = some b.core.connections[i] := List.getElem?_eq_getElem hi
  have hheader : c.header = b.core.connections[i].header := by
    have hi' := congrArg (fun l => l[i]?) hheaders
    simpa [hc, hc₀] using hi'
  refine ⟨⟨_, hc₀, hheader⟩, ?_, (wellFormed_run hboot ops).inSync c (List.mem_of_getElem? hc)⟩
  obtain ⟨e₀, hbuilt⟩ := hbooted.built
  have hactive := hbuilt.active _ (List.getElem_mem hi)
  have hepoch := hbuilt.epoch _ (List.getElem_mem hi)
  have hid : c.connectionId = b.core.connections[i].connectionId := congrArg (·.2.1) hheader
  -- the row of the connection
  have hrow := congrArg (fun l => l[i]?) (states_run (E := E) b ops)
  rw [getElem?_commandAll (Op.calls_keep ops)] at hrow
  have hbefore : ((b.core.states.take i).map (·.connectionId)) =
      (b.core.connections.take i).map (·.connectionId) := by
    rw [states, ← List.map_take, List.map_map]
    rfl
  have hrow₀ : b.core.states[i]? = some b.core.connections[i].state := by
    rw [states, List.getElem?_map, hc₀]
    rfl
  have hrow' : core.states[i]? = some c.state := by
    rw [states, List.getElem?_map, hc]
    rfl
  rw [hbefore, hrow₀] at hrow
  rw [hid]
  have hstate := Option.some.inj (hrow'.symm.trans hrow)
  have hkey : b.core.connections[i].state.connectionId = b.core.connections[i].connectionId := rfl
  dsimp only at hstate
  rw [hkey] at hstate
  split_ifs at hstate ⊢
  · exact ⟨(congrArg (·.active) hstate).trans hactive, (congrArg (·.epoch) hstate).trans hepoch⟩
  · rw [Op.commanded_calls, hkey] at hstate
    have hflag : c.isActive = _ := congrArg (·.active) hstate
    have hcount : c.epoch = _ := congrArg (·.epoch) hstate
    have hactive₀ : b.core.connections[i].state.active = true := hactive
    have hepoch₀ : b.core.connections[i].state.epoch = 0 := hepoch
    rw [hactive₀] at hflag
    rw [hepoch₀, UInt8.zero_add] at hcount
    exact ⟨hflag, hcount⟩

/-- A small bridge whose connection is paused twice, resumed, and handed over in between. -/
theorem connections_run_small :
    let E := (CacheSpec.small .latest).env none
    let b := (bootSmall .latest ⟨"immediate", none, none⟩ [⟨"k", "r", "pos"⟩] true).get rfl
    let ops := [.setConnectionActive "conn" false, .incrementConnectionEpoch "conn",
      .incrementConnectionEpoch "other", .setConnectionActive "conn" true, .start,
      .incrementConnectionEpoch "conn", .setConnectionActive "conn" false]
    ∃ c, (run (step E) b ops).1.core.connections[0]? = some c ∧ c.isActive = false ∧
      c.epoch = 2 := by
  intro E b ops
  have hboot : boot E (BridgeConfig.small ⟨"immediate", none, none⟩ [⟨"k", "r", "pos"⟩] true)
      "node" ["src", "dst"] CacheState.empty = some b := (Option.some_get _).symm
  obtain ⟨-, hlength, hconnections⟩ := connections_run hboot ops
  have hone : 0 < (run (step E) b ops).1.core.connections.length := by
    rw [hlength]
    decide
  obtain ⟨⟨c₀, hc₀, hheader⟩, hcalls, -⟩ := hconnections 0 _ (List.getElem?_eq_getElem hone)
  have hid : c₀.connectionId = "conn" := by
    obtain rfl := Option.some.inj hc₀
    rfl
  have hid' : ((run (step E) b ops).1.core.connections[0]).connectionId = "conn" :=
    (congrArg (·.2.1) hheader).trans hid
  rw [if_neg (by simp), hid'] at hcalls
  exact ⟨_, List.getElem?_eq_getElem hone, hcalls⟩

end Bridge

end HakoniwaBridge
