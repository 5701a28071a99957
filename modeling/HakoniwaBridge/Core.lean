import HakoniwaBridge.Connection

/-!
# The bridge core

`BridgeCore` of `bridge_core.cpp`. A `BridgeConnection*` is the position of the connection in
`connections`, which no operation reorders; looking a connection up by id yields the first one.

* `resolveMonitorSelection`, `createMonitorTransfer`, `deactivateMonitorTransfer`,
  `removeMonitorTransfer` — the monitor transfer API.
* `retireTransfers` — the loop "deactivate, then remove" that attach's rollback, detach and
  shutdown share. `retireTransfers_eq`: if no object is owned twice it is `without`.
-/

namespace HakoniwaBridge

/-- Source: `bridge_core.hpp`, `BridgeCore`, without the pointers to its surroundings. -/
structure BridgeCore where
  nodeName : String
  endpointIds : List String := []
  connections : List BridgeConnection := []
  isRunning : Bool := false
  connectionTransferablePdus : AList (fun _ : String => List (String × String)) := ∅
  startedTimeUsec : UInt64 := 0
  lastError : String := ""

variable {ε : Type}

/-- `static_cast<uint64_t>(interval_ms) * 1000`. -/
def intervalMicros (intervalMs : Int) : UInt64 := UInt64.ofInt intervalMs * 1000

/-- Source: `bridge_core.cpp`, `is_supported_monitor_policy_`;
`bridge_monitor_runtime.cpp`, `is_supported_monitor_policy` (the same text). -/
def isSupportedMonitorPolicy (policy : MonitorPolicy) : Bool :=
  if policy.type = "" then true
  else if policy.type = "immediate" then true
  else if policy.type = "throttle" ∨ policy.type = "ticker" then decide (policy.intervalMs > 0)
  else false

/-- Source: `bridge_core.cpp`, `BridgeCore::create_monitor_policy_`. -/
def createMonitorPolicy (policy : MonitorPolicy) : Option Policy :=
  let type := if policy.type = "" then "throttle" else policy.type
  if type = "immediate" then some (.immediate (.new false))
  else if type = "throttle" then
    let intervalMs := if policy.type = "" then 100 else policy.intervalMs
    if intervalMs ≤ 0 then none
    else some (.throttle { intervalMicros := intervalMicros intervalMs })
  else if type = "ticker" then
    if policy.intervalMs ≤ 0 then none
    else some (.ticker { interval := intervalMicros policy.intervalMs })
  else none

namespace BridgeCore

/-- Source: `bridge_core.cpp`, `BridgeCore::add_connection`. -/
def addConnection (core : BridgeCore) (connection : BridgeConnection) : BridgeCore :=
  { core with
    connectionTransferablePdus :=
      if connection.connectionId ∈ core.connectionTransferablePdus then
        core.connectionTransferablePdus
      else core.connectionTransferablePdus.insert connection.connectionId []
    connections := core.connections ++ [connection] }

/-- Source: `bridge_core.cpp`, `BridgeCore::register_connection_transfer_pdu_key`. -/
def registerConnectionTransferPduKey (core : BridgeCore) (connectionId robot pduName : String) :
    BridgeCore :=
  if connectionId = "" ∨ robot = "" ∨ pduName = "" then core
  else
    let keys := (core.connectionTransferablePdus.lookup connectionId).getD []
    { core with
      connectionTransferablePdus := core.connectionTransferablePdus.insert connectionId
        (if (robot, pduName) ∈ keys then keys else keys ++ [(robot, pduName)]) }

/-- Source: `bridge_core.cpp`, `find_connection_`, `find_connection_mutable_`. -/
def findConnection (core : BridgeCore) (connectionId : String) : Option Nat :=
  core.connections.findIdx? fun c => c.connectionId == connectionId

/-- Apply a member function of the connection at a position. -/
def modifyConnection (core : BridgeCore) (i : Nat) (f : BridgeConnection → BridgeConnection) :
    BridgeCore :=
  { core with connections := core.connections.modify i f }

/-- Source: `bridge_core.cpp`, `BridgeCore::start`. -/
def start (E : Env ε) (core : BridgeCore) (e : ε) : BridgeCore × ε :=
  if core.isRunning then (core, e)
  else
    let (e', now) := E.getMicroseconds e
    ({ core with isRunning := true, startedTimeUsec := now, lastError := "" }, e')

/-- Source: `bridge_core.cpp`, `BridgeCore::set_connection_active`. -/
def setConnectionActive (core : BridgeCore) (connectionId : String) (isActive : Bool) :
    BridgeCore × Bool :=
  match core.findConnection connectionId with
  | some i => (core.modifyConnection i (·.setActive isActive), true)
  | none => (core, false)

/-- Source: `bridge_core.cpp`, `BridgeCore::increment_connection_epoch`. -/
def incrementConnectionEpoch (core : BridgeCore) (connectionId : String) : BridgeCore × Bool :=
  match core.findConnection connectionId with
  | some i => (core.modifyConnection i (·.incrementEpoch), true)
  | none => (core, false)

/-- Source: `BridgeCore::cyclic_trigger`, the loop over the connections. -/
def triggerConnections (E : Env ε) : List BridgeConnection → Host ε → Host ε × List Send
  | [], h => (h, [])
  | c :: cs, h =>
    ((triggerConnections E cs (c.cyclicTrigger E h).1).1,
      (c.cyclicTrigger E h).2 ++ (triggerConnections E cs (c.cyclicTrigger E h).1).2)

/-! ## Introspection -/

/-- Source: `bridge_core.cpp`, `BridgeCore::get_health`. -/
def getHealth (E : Env ε) (core : BridgeCore) (e : ε) : BridgeHealthDto × ε :=
  let (e', now) := E.getMicroseconds e
  ({ running := core.isRunning
     uptimeUsec :=
       if core.startedTimeUsec > 0 ∧ now ≥ core.startedTimeUsec then now - core.startedTimeUsec
       else 0
     lastError := core.lastError }, e')

/-- Source: `bridge_core.cpp`, `BridgeCore::list_connections`, `std::sort` by connection id. -/
def listConnections (core : BridgeCore) : List ConnectionStateDto :=
  (core.connections.map fun c =>
    { connectionId := c.connectionId, nodeId := c.nodeId, active := c.isActive, epoch := c.epoch,
      epochValidation := c.epochValidation }).mergeSort
    fun a b => decide (a.connectionId ≤ b.connectionId)

/-- The channel of a PDU on an endpoint, if it has one. -/
def channelOf (E : Env ε) (src : EndpointRef) (robot pduName : String) : Option Int :=
  let channel := E.getPduChannelId src ⟨robot, pduName⟩
  if channel ≥ 0 then some channel else none

/-- Source: `bridge_core.cpp`, `BridgeCore::list_pdus`. -/
def listPdus (E : Env ε) (core : BridgeCore) (connectionId : String) : Option (List PduStateDto) :=
  match core.connections.find? fun c => c.connectionId == connectionId with
  | none => none
  | some c =>
    match core.connectionTransferablePdus.lookup connectionId with
    | none => some []
    | some allowed =>
      some (allowed.map fun p =>
        { connectionId := connectionId, robot := p.1, pduName := p.2
          channelId := c.srcEndpoint.bind fun src => channelOf E src p.1 p.2 })

/-- A known channel is not negative. -/
theorem nonneg_of_channelOf {E : Env ε} {src : Option EndpointRef} {robot pduName : String}
    {channel : Int} (h : channel ∈ src.bind fun src => channelOf E src robot pduName) :
    0 ≤ channel ∧ ∃ src key, channel = E.getPduChannelId src key := by
  obtain ⟨src, -, hsrc⟩ := Option.mem_bind_iff.1 h
  simp only [channelOf] at hsrc
  split_ifs at hsrc with hknown
  · cases hsrc
    exact ⟨hknown, src, _, rfl⟩
  · cases hsrc

/-- The rows for the PDUs of a connection. -/
theorem listPdus_of_find {E : Env ε} {core : BridgeCore} {connectionId : String}
    {c : BridgeConnection}
    (hfind : core.connections.find? (fun c => c.connectionId == connectionId) = some c) :
    core.listPdus E connectionId =
      some (((core.connectionTransferablePdus.lookup connectionId).getD []).map fun p =>
        ⟨connectionId, p.1, p.2, c.srcEndpoint.bind fun src => channelOf E src p.1 p.2⟩) := by
  unfold listPdus
  rw [hfind]
  cases core.connectionTransferablePdus.lookup connectionId <;> rfl

theorem listPdus_of_not_find {E : Env ε} {core : BridgeCore} {connectionId : String}
    (hfind : core.connections.find? (fun c => c.connectionId == connectionId) = none) :
    core.listPdus E connectionId = none := by
  unfold listPdus
  rw [hfind]

/-! ## Monitor transfers -/

/-- Source: `bridge_core.cpp`, `BridgeCore::resolve_monitor_keys_` (through
`resolve_monitor_selection`). -/
def resolveMonitorSelection (E : Env ε) (core : BridgeCore) (connectionId : String)
    (filters : List MonitorFilter) : Except String ResolvedMonitorSelection :=
  match core.connections.find? fun c => c.connectionId == connectionId with
  | none => .error "NOT_FOUND: connection not found"
  | some c =>
    match c.srcEndpoint with
    | none => .error "INTERNAL_ERROR: source endpoint missing"
    | some src =>
      if filters ≠ [] then .error "UNSUPPORTED: monitor filters are currently not supported"
      else
        match (core.connectionTransferablePdus.lookup c.connectionId).getD [] with
        | [] => .error "INVALID_REQUEST: connection has no transferable pdus"
        | allowed =>
          .ok
            { keys := allowed.map fun p => ⟨p.1 ++ "." ++ p.2 ++ ".monitor", p.1, p.2⟩
              filters := allowed.map fun p => ⟨p.1, channelOf E src p.1 p.2, some p.2⟩ }

/-- The keys and the filters of a selection of PDUs. -/
def selectionOf (E : Env ε) (src : EndpointRef) (allowed : List (String × String)) :
    ResolvedMonitorSelection where
  keys := allowed.map fun p => ⟨p.1 ++ "." ++ p.2 ++ ".monitor", p.1, p.2⟩
  filters := allowed.map fun p => ⟨p.1, channelOf E src p.1 p.2, some p.2⟩

/-- A request selects all that is transferable on the connection that its id finds. -/
theorem resolveMonitorSelection_eq_ok {E : Env ε} {core : BridgeCore} {id : String}
    {filters : List MonitorFilter} {selection : ResolvedMonitorSelection} :
    core.resolveMonitorSelection E id filters = .ok selection ↔
      ∃ c src, core.connections.find? (fun c => c.connectionId == id) = some c ∧
        c.srcEndpoint = some src ∧ filters = [] ∧
        (core.connectionTransferablePdus.lookup id).getD [] ≠ [] ∧
        selection = selectionOf E src ((core.connectionTransferablePdus.lookup id).getD []) := by
  unfold resolveMonitorSelection
  cases hfind : core.connections.find? fun c => c.connectionId == id with
  | none => simp
  | some c =>
    obtain rfl : c.connectionId = id := by simpa using List.find?_some hfind
    cases hsrc : c.srcEndpoint with
    | none => simp [hsrc]
    | some src =>
      simp only [hsrc]
      generalize (core.connectionTransferablePdus.lookup c.connectionId).getD [] = allowed
      by_cases hfilters : filters = []
      · subst hfilters
        simp only [ne_eq, not_true, if_false, Option.some.injEq, true_and]
        cases allowed with
        | nil => simp
        | cons first rest =>
          constructor
          · intro h
            exact ⟨c, src, rfl, hsrc, List.cons_ne_nil first rest, (Except.ok.inj h).symm⟩
          · rintro ⟨c', src', rfl, hsrc', -, rfl⟩
            obtain rfl := Option.some.inj (hsrc.symm.trans hsrc')
            rfl
      · simp [hfilters]

/-- A selection is not empty. -/
theorem keys_ne_nil_of_resolve {E : Env ε} {core : BridgeCore} {id : String}
    {filters : List MonitorFilter} {selection : ResolvedMonitorSelection}
    (h : core.resolveMonitorSelection E id filters = .ok selection) : selection.keys ≠ [] := by
  obtain ⟨c, src, -, -, -, hallowed, rfl⟩ := resolveMonitorSelection_eq_ok.1 h
  simpa [selectionOf] using hallowed

/-- Source: `bridge_core.cpp`, `BridgeCore::create_monitor_transfer`. -/
def createMonitorTransfer (E : Env ε) (core : BridgeCore) (connectionId : String)
    (monitorKey : BridgePduKey) (policy : MonitorPolicy) (destination : Option EndpointRef)
    (h : Host ε) : (BridgeCore × Host ε) × Except String Nat :=
  if core.isRunning = false then ((core, h), .error "BUSY: bridge is not running")
  else if connectionId = "" then
    ((core, h), .error "INVALID_REQUEST: connection_id is required")
  else
    match core.findConnection connectionId with
    | none => ((core, h), .error "NOT_FOUND: connection not found")
    | some i =>
      if isSupportedMonitorPolicy policy = false then
        ((core, h), .error "UNSUPPORTED: monitor policy is not supported")
      else
        match core.connections[i]?.bind (·.srcEndpoint), destination with
        | some src, some dst =>
          match createMonitorPolicy policy with
          | none => ((core, h), .error "UNSUPPORTED: monitor policy is not supported")
          | some policyInstance =>
            let (policyRef, h₁) := h.newPolicy policyInstance
            let (transfer, h₂) := newTransferPdu E monitorKey policyRef src dst h₁
            ((core.modifyConnection i (·.addMonitorTransferPdu transfer), h₂),
              .ok transfer.self)
        | _, _ => ((core, h), .error "INTERNAL_ERROR: source/destination endpoint missing")

/-- Source: `bridge_core.cpp`, `BridgeCore::deactivate_monitor_transfer`: a write through the
pointer. -/
def deactivateMonitorTransfer (core : BridgeCore) (transfer : Nat) : BridgeCore :=
  { core with connections := core.connections.map fun c =>
      { c with transferPdus := c.transferPdus.map fun t =>
          if t.self = transfer then t.setActive false else t } }

/-- Source: `BridgeCore::remove_monitor_transfer`, the loop over the connections, which ends at
the first one that owns the transfer. -/
def removeFromFirst (transfer : Nat) :
    List BridgeConnection → List BridgeConnection × Bool
  | [] => ([], false)
  | c :: cs =>
    if (c.removeTransferPdu transfer).2 then ((c.removeTransferPdu transfer).1 :: cs, true)
    else (c :: (removeFromFirst transfer cs).1, (removeFromFirst transfer cs).2)

/-- Source: `bridge_core.cpp`, `BridgeCore::remove_monitor_transfer`. -/
def removeMonitorTransfer (core : BridgeCore) (transfer : Nat) : BridgeCore × Bool :=
  ({ core with connections := (removeFromFirst transfer core.connections).1 },
    (removeFromFirst transfer core.connections).2)

/-- The loop over a session's transfers in `attach_monitor`'s rollback, `detach_monitor` and
`shutdown`: deactivate each and remove it. -/
def retireTransfers (core : BridgeCore) (transfers : List Nat) : BridgeCore :=
  transfers.foldl
    (fun core t => ((core.deactivateMonitorTransfer t).removeMonitorTransfer t).1) core

/-! ### Ownership -/

/-- All objects owned by the connections, in order. -/
def ownedRefs (core : BridgeCore) : List Nat := core.connections.flatMap (·.refs)

theorem mem_ownedRefs {core : BridgeCore} {r : Nat} :
    r ∈ core.ownedRefs ↔ ∃ c ∈ core.connections, ∃ t ∈ c.transferPdus, t.self = r := by
  simp [ownedRefs, BridgeConnection.refs]

/-- Every connection without the transfers of `drop`. -/
def without (core : BridgeCore) (drop : List Nat) : BridgeCore :=
  { core with connections := core.connections.map (·.without drop) }

@[simp] theorem without_nil (core : BridgeCore) : core.without [] = core := by
  simp [without]

theorem without_without (core : BridgeCore) (xs ys : List Nat) :
    (core.without xs).without ys = core.without (xs ++ ys) := by
  simp [without, Function.comp_def, BridgeConnection.without_without]

theorem ownedRefs_without (core : BridgeCore) (drop : List Nat) :
    (core.without drop).ownedRefs = core.ownedRefs.filter fun r => !decide (r ∈ drop) := by
  simp only [ownedRefs, without, List.flatMap_map, BridgeConnection.refs_without]
  induction core.connections with
  | nil => rfl
  | cons c cs ih => rw [List.flatMap_cons, List.flatMap_cons, List.filter_append, ih]

theorem removeFromFirst_fst {cs : List BridgeConnection} (r : Nat)
    (h : (cs.flatMap (·.refs)).Nodup) :
    (removeFromFirst r cs).1 = cs.map (·.without [r]) := by
  induction cs with
  | nil => rfl
  | cons c cs ih =>
    rw [List.flatMap_cons, List.nodup_append] at h
    obtain ⟨hc, hcs, hdisj⟩ := h
    unfold removeFromFirst
    rw [BridgeConnection.removeTransferPdu_snd, BridgeConnection.removeTransferPdu_fst hc]
    by_cases hr : r ∈ c.refs
    · -- the later connections do not own it
      have hrest : cs.map (·.without [r]) = cs := by
        refine (List.map_congr_left fun c' hc' => ?_).trans (List.map_id _)
        apply BridgeConnection.without_of_disjoint
        intro r' hr' hmem
        rw [List.mem_singleton] at hmem
        exact hdisj r hr r' (List.mem_flatMap.2 ⟨c', hc', hr'⟩) hmem.symm
      simp [hr, hrest]
    · have hkeep : c.without [r] = c :=
        BridgeConnection.without_of_disjoint fun r' hr' hmem => hr (by
          rw [← List.mem_singleton.1 hmem]
          exact hr')
      simp [hr, hkeep, ih hcs]

/-- Deactivating a transfer and then dropping it is dropping it. -/
theorem without_deactivate (core : BridgeCore) (r : Nat) :
    (core.deactivateMonitorTransfer r).without [r] = core.without [r] := by
  simp only [without, deactivateMonitorTransfer, List.map_map, BridgeCore.mk.injEq, true_and,
    and_self, and_true]
  apply List.map_congr_left
  intro c _
  simp only [Function.comp_apply, BridgeConnection.without, BridgeConnection.mk.injEq, true_and,
    and_self, and_true]
  induction c.transferPdus with
  | nil => rfl
  | cons t ts ih =>
    by_cases ht : t.self = r
    · simpa [ht, List.filter_cons] using ih
    · simpa [ht, List.filter_cons] using ih

@[simp] theorem ownedRefs_deactivate (core : BridgeCore) (r : Nat) :
    (core.deactivateMonitorTransfer r).ownedRefs = core.ownedRefs := by
  simp only [ownedRefs, deactivateMonitorTransfer, List.flatMap_map, BridgeConnection.refs,
    List.map_map]
  congr 1
  funext c
  apply List.map_congr_left
  intro t _
  simp only [Function.comp_apply]
  split_ifs <;> rfl

/-- One turn of the retiring loop. -/
theorem retireOne {core : BridgeCore} (h : core.ownedRefs.Nodup) (r : Nat) :
    ((core.deactivateMonitorTransfer r).removeMonitorTransfer r).1 = core.without [r] := by
  have hnd : (core.deactivateMonitorTransfer r).ownedRefs.Nodup := by simpa using h
  rw [← without_deactivate core r]
  simp only [removeMonitorTransfer, without]
  rw [removeFromFirst_fst r hnd]

/-- **Retiring is dropping.** If no object is owned twice, the loop leaves every connection
without the retired transfers and otherwise unchanged. -/
theorem retireTransfers_eq {core : BridgeCore} (h : core.ownedRefs.Nodup)
    (transfers : List Nat) : core.retireTransfers transfers = core.without transfers := by
  induction transfers generalizing core with
  | nil => simp [retireTransfers]
  | cons r rs ih =>
    have hnd : (core.without [r]).ownedRefs.Nodup := by
      rw [ownedRefs_without]
      exact h.filter _
    have hstep : core.retireTransfers (r :: rs) = (core.without [r]).retireTransfers rs := by
      rw [retireTransfers, List.foldl_cons, retireOne h, retireTransfers]
    rw [hstep, ih hnd, without_without, List.singleton_append]

end BridgeCore

end HakoniwaBridge
