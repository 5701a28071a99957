import HakoniwaBridge.Runtime

/-!
# What attaching and detaching do

One inversion lemma for `attachMonitor` and one equation each for `detachMonitor` and `shutdown`,
from which the invariants of all later modules are derived.

* `BridgeConnection.takeOver` — a connection that took over several monitor transfers.
* `attachMonitor_cases` — what an attach does, for every bridge.
* `AttachOutcome` — the three ways an attach can end: refused before any transfer was made, rolled
  back after the running flag was cleared half way, or attached; `attachMonitor_outcome`.
* `detachMonitor_core`, `shutdown_core` — the connections lose exactly the session's transfers.
-/

namespace HakoniwaBridge

variable {ε : Type}

/-! ## The tables of the sessions -/

namespace BridgeMonitorRuntime

/-- A session with a new id: the two tables, and the transfers of every session. -/
theorem insertSession_new {rt : BridgeMonitorRuntime} (info : MonitorSessionInfo)
    (transfers : List Nat) (dst : Option EndpointRef) {sessionId : String}
    (hid : "ms-" ++ toString rt.nextMonitorSessionId.toNat = sessionId)
    (hnew : sessionId ∉ rt.monitorSessions) (htable : sessionId ∉ rt.monitorRuntimeSessions) :
    (rt.insertSession info transfers dst).1.monitorSessions =
        rt.monitorSessions.insert sessionId { info with sessionId := sessionId } ∧
      (∀ id, (rt.insertSession info transfers dst).1.sessionTransfers id =
        if id = sessionId then transfers else rt.sessionTransfers id) ∧
      (∀ id, id ∈ (rt.insertSession info transfers dst).1.monitorRuntimeSessions →
        id = sessionId ∨ id ∈ rt.monitorRuntimeSessions) := by
  subst hid
  refine ⟨if_neg hnew, fun id => ?_, fun id hid => ?_⟩
  · unfold insertSession sessionTransfers
    dsimp only
    by_cases hnone : transfers = []
    · rw [if_pos hnone]
      split_ifs with heq
      · rw [heq, AList.lookup_eq_none.2 htable, hnone]
        rfl
      · rfl
    · rw [if_neg hnone, emplace, if_neg htable]
      split_ifs with heq
      · rw [heq, AList.lookup_insert]
        rfl
      · rw [AList.lookup_insert_ne heq]
  · unfold insertSession at hid
    dsimp only at hid
    split_ifs at hid with hnone
    · exact Or.inr hid
    · rw [emplace, if_neg htable] at hid
      exact AList.mem_insert _ |>.1 hid

/-- The entry that a new session with a destination gets in the runtime table; one without a
destination gets none. -/
theorem lookup_insertSession {rt : BridgeMonitorRuntime} (info : MonitorSessionInfo)
    (transfers : List Nat) (dst : Option EndpointRef)
    (htable : rt.nextSessionId ∉ rt.monitorRuntimeSessions) (id : String) :
    (rt.insertSession info transfers dst).1.monitorRuntimeSessions.lookup id =
      if id = rt.nextSessionId ∧ transfers ≠ [] then some ⟨transfers, dst⟩
      else rt.monitorRuntimeSessions.lookup id := by
  have htable' : "ms-" ++ toString rt.nextMonitorSessionId.toNat ∉ rt.monitorRuntimeSessions :=
    htable
  unfold insertSession nextSessionId
  dsimp only
  by_cases hnone : transfers = []
  · rw [if_pos hnone, if_neg fun hboth => hboth.2 hnone]
  · rw [if_neg hnone, emplace, if_neg htable']
    by_cases hid : id = "ms-" ++ toString rt.nextMonitorSessionId.toNat
    · rw [if_pos ⟨hid, hnone⟩, hid, AList.lookup_insert]
    · rw [if_neg fun hboth => hid hboth.1, AList.lookup_insert_ne hid]

/-- Looking up another id after a new session. -/
theorem lookup_insertSession_ne {rt : BridgeMonitorRuntime} {sessionId : String}
    (info : MonitorSessionInfo) (transfers : List Nat) (dst : Option EndpointRef)
    (hne : sessionId ≠ rt.nextSessionId) :
    (rt.insertSession info transfers dst).1.monitorSessions.lookup sessionId =
        rt.monitorSessions.lookup sessionId ∧
      (rt.insertSession info transfers dst).1.monitorRuntimeSessions.lookup sessionId =
        rt.monitorRuntimeSessions.lookup sessionId := by
  have hne' : sessionId ≠ "ms-" ++ toString rt.nextMonitorSessionId.toNat := hne
  unfold insertSession emplace
  dsimp only
  constructor
  · split_ifs
    · rfl
    · exact AList.lookup_insert_ne hne'
  · split_ifs
    · rfl
    · rfl
    · exact AList.lookup_insert_ne hne'

/-- The transfers of the sessions after one was taken out of the tables. -/
theorem sessionTransfers_erase (rt : BridgeMonitorRuntime) (sessionId id : String)
    (sessions : AList fun _ : String => MonitorSessionInfo) :
    sessionTransfers { rt with
      monitorRuntimeSessions := rt.monitorRuntimeSessions.erase sessionId
      monitorSessions := sessions } id =
      if id = sessionId then [] else rt.sessionTransfers id := by
  unfold sessionTransfers
  dsimp only
  split_ifs with heq
  · rw [heq, AList.lookup_erase]
    rfl
  · rw [AList.lookup_erase_ne heq]

/-- Whatever the id, a new session has the transfers it was given, or those that were there. -/
theorem mem_sessionTransfers_insertSession {rt : BridgeMonitorRuntime} {info : MonitorSessionInfo}
    {transfers : List Nat} {dst : Option EndpointRef} {id : String} {r : Nat}
    (h : r ∈ (rt.insertSession info transfers dst).1.sessionTransfers id) :
    r ∈ transfers ∨ r ∈ rt.sessionTransfers id := by
  unfold insertSession sessionTransfers emplace at h
  dsimp only at h
  split_ifs at h with hnone hmem
  · exact Or.inr h
  · exact Or.inr h
  · by_cases hid : id = "ms-" ++ toString rt.nextMonitorSessionId.toNat
    · rw [hid, AList.lookup_insert] at h
      exact Or.inl h
    · rw [AList.lookup_insert_ne hid] at h
      exact Or.inr h

end BridgeMonitorRuntime

/-- The transfers of the runtime table are those of all sessions together. -/
theorem Bridge.mem_monitorTransfers {b : Bridge ε} {r : Nat} :
    r ∈ b.monitorTransfers ↔ ∃ id, r ∈ b.runtime.sessionTransfers id := by
  unfold Bridge.monitorTransfers BridgeMonitorRuntime.sessionTransfers
  constructor
  · intro hr
    obtain ⟨s, hs, hmem⟩ := List.mem_flatMap.1 hr
    refine ⟨s.1, ?_⟩
    rw [AList.mem_lookup_iff.2 hs]
    exact hmem
  · rintro ⟨id, hr⟩
    cases hlookup : b.runtime.monitorRuntimeSessions.lookup id with
    | none =>
      rw [hlookup] at hr
      exact absurd hr List.not_mem_nil
    | some session =>
      rw [hlookup] at hr
      exact List.mem_flatMap.2 ⟨⟨id, session⟩, AList.mem_lookup_iff.1 hlookup, hr⟩

/-! ## Taking over monitor transfers -/

namespace BridgeConnection

/-- The transfer as the connection keeps it: with its own epoch and validation flag. -/
def stamp (c : BridgeConnection) (t : ITransferPdu) : ITransferPdu :=
  (t.setEpoch c.epoch).setEpochValidation c.epochValidation

/-- The connection after it took over the transfers `ts`, in order. -/
def takeOver (ts : List ITransferPdu) (c : BridgeConnection) : BridgeConnection :=
  ts.foldl addMonitorTransferPdu c

theorem takeOver_eq (ts : List ITransferPdu) (c : BridgeConnection) :
    c.takeOver ts = { c with transferPdus := c.transferPdus ++ ts.map c.stamp } := by
  induction ts generalizing c with
  | nil => simp [takeOver]
  | cons t ts ih =>
    have hstep : c.takeOver (t :: ts) = (c.addMonitorTransferPdu t).takeOver ts := rfl
    have hstamp : (c.addMonitorTransferPdu t).stamp = c.stamp := rfl
    rw [hstep, ih, hstamp]
    simp [addMonitorTransferPdu, stamp]

@[simp] theorem transferPdus_takeOver (ts : List ITransferPdu) (c : BridgeConnection) :
    (c.takeOver ts).transferPdus = c.transferPdus ++ ts.map c.stamp := by
  rw [takeOver_eq]

theorem refs_takeOver (ts : List ITransferPdu) (c : BridgeConnection) :
    (c.takeOver ts).refs = c.refs ++ ts.map ITransferPdu.self := by
  rw [refs, transferPdus_takeOver, List.map_append, List.map_map]
  rfl

@[simp] theorem connectionId_takeOver (ts : List ITransferPdu) (c : BridgeConnection) :
    (c.takeOver ts).connectionId = c.connectionId := by
  rw [takeOver_eq]

@[simp] theorem srcEndpoint_takeOver (ts : List ITransferPdu) (c : BridgeConnection) :
    (c.takeOver ts).srcEndpoint = c.srcEndpoint := by
  rw [takeOver_eq]

/-- Dropping what was just taken over gives the connection back. -/
theorem without_takeOver {ts : List ITransferPdu} {c : BridgeConnection}
    (hfresh : ∀ t ∈ c.transferPdus, t.self ∉ ts.map ITransferPdu.self) :
    (c.takeOver ts).without (ts.map ITransferPdu.self) = c := by
  have hold : c.transferPdus.filter (fun t => !decide (t.self ∈ ts.map ITransferPdu.self)) =
      c.transferPdus := by
    apply List.filter_eq_self.2
    intro t ht
    rw [decide_eq_false (hfresh t ht)]
    rfl
  have hnew : (ts.map c.stamp).filter (fun t => !decide (t.self ∈ ts.map ITransferPdu.self)) =
      [] := by
    apply List.filter_eq_nil_iff.2
    intro t ht
    obtain ⟨t₀, ht₀, rfl⟩ := List.mem_map.1 ht
    have hmem : (c.stamp t₀).self ∈ ts.map ITransferPdu.self := List.mem_map.2 ⟨t₀, ht₀, rfl⟩
    rw [decide_eq_true hmem]
    exact Bool.false_ne_true
  rw [takeOver_eq, without, List.filter_append, hold, hnew, List.append_nil]

end BridgeConnection

/-- Looking a connection up depends on the connection ids only. -/
theorem BridgeCore.findConnection_congr {core core' : BridgeCore}
    (h : core'.connections.map (·.connectionId) = core.connections.map (·.connectionId))
    (id : String) : core'.findConnection id = core.findConnection id := by
  have hmap : ∀ cs : List BridgeConnection,
      cs.findIdx? (fun c => c.connectionId == id) =
        (cs.map (·.connectionId)).findIdx? fun x => x == id := by
    intro cs
    rw [List.findIdx?_map]
    rfl
  unfold BridgeCore.findConnection
  rw [hmap, hmap, h]

theorem BridgeCore.exists_of_findConnection {core : BridgeCore} {id : String} {i : Nat}
    (h : core.findConnection id = some i) :
    ∃ c, core.connections[i]? = some c ∧ c.connectionId = id := by
  obtain ⟨hlt, hid, -⟩ := List.findIdx?_eq_some_iff_getElem.1 h
  exact ⟨core.connections[i], List.getElem?_eq_getElem hlt, by simpa using hid⟩

/-- The connection that `find_if` finds is the one at the position. -/
theorem BridgeCore.find?_connection {core : BridgeCore} {id : String} {c : BridgeConnection}
    (h : core.connections.find? (fun c => c.connectionId == id) = some c) :
    ∃ i, core.findConnection id = some i ∧ core.connections[i]? = some c := by
  obtain ⟨hid, i, hi, hc, hbefore⟩ := List.find?_eq_some_iff_getElem.1 h
  refine ⟨i, List.findIdx?_eq_some_iff_getElem.2 ⟨hi, hc ▸ hid, fun j hj => ?_⟩, ?_⟩
  · simpa using hbefore j hj
  · rw [List.getElem?_eq_getElem hi, hc]

namespace Wf

variable {cs : List BridgeConnection} {h h' : Host ε}

/-- A connection takes over monitor transfers that were just made. -/
theorem takeOver (hwf : Wf cs h) {i : Nat} (hi : i < cs.length) {ts : List ITransferPdu}
    (hc : CreatedAll h ts h') : Wf (cs.modify i (·.takeOver ts)) h' := by
  induction hc generalizing cs with
  | nil h =>
    have hid : (fun c : BridgeConnection => c.takeOver []) = id := rfl
    rw [hid, List.modify_id]
    exact hwf
  | @cons h h₁ h₂ t ts ht hts ih =>
    have hlen : i < (cs.modify i (·.addTransferPdu t)).length := by
      rw [List.length_modify]
      exact hi
    have hrest := ih (hwf.add hi ht) hlen
    rw [List.modify_modify_eq] at hrest
    exact hrest

/-- The objects that were just made are owned by nobody yet. -/
theorem fresh (hwf : Wf cs h) {ts : List ITransferPdu} (hc : CreatedAll h ts h')
    {c : BridgeConnection} (hmem : c ∈ cs) {t : ITransferPdu} (ht : t ∈ c.transferPdus) :
    t.self ∉ ts.map ITransferPdu.self := by
  intro hin
  obtain ⟨t', ht', hself⟩ := List.mem_map.1 hin
  have hge := (hc.bounds t' ht').1
  have hlt := hwf.transfer_lt c hmem t ht
  omega

/-- Dropping what a connection just took over gives the connections back. -/
theorem without_takeOver (hwf : Wf cs h) {ts : List ITransferPdu} (hc : CreatedAll h ts h')
    (i : Nat) :
    (cs.modify i (·.takeOver ts)).map (·.without (ts.map ITransferPdu.self)) = cs := by
  have hfresh : ∀ c ∈ cs, ∀ t ∈ c.transferPdus, t.self ∉ ts.map ITransferPdu.self :=
    fun c hmem t ht => hwf.fresh hc hmem ht
  clear hwf
  induction cs generalizing i with
  | nil => simp
  | cons c cs ih =>
    have hkeep : ∀ c' ∈ c :: cs, c'.without (ts.map ITransferPdu.self) = c' := by
      intro c' hc'
      apply BridgeConnection.without_of_disjoint
      intro r hr
      obtain ⟨t, ht, rfl⟩ := List.mem_map.1 hr
      exact hfresh c' hc' t ht
    cases i with
    | zero =>
      have hrest : cs.map (·.without (ts.map ITransferPdu.self)) = cs :=
        (List.map_congr_left fun c' hc' => hkeep c' (List.mem_cons_of_mem _ hc')).trans
          (List.map_id _)
      rw [List.modify_zero_cons, List.map_cons, hrest,
        BridgeConnection.without_takeOver (hfresh c List.mem_cons_self)]
    | succ i =>
      rw [List.modify_succ_cons, List.map_cons, hkeep c List.mem_cons_self,
        ih i fun c' hc' => hfresh c' (List.mem_cons_of_mem _ hc')]

end Wf

/-! ## Creating the transfers of a session -/

/-- The names of the PDU of a key. -/
def BridgePduKey.pdu (k : BridgePduKey) : String × String := (k.robotName, k.pduName)

/-- The names of the PDU of a single transfer. -/
def ITransferPdu.pdu? (t : ITransferPdu) : Option (String × String) :=
  match t.body with
  | .transferPdu configKey _ => some configKey.pdu
  | .transferAtomicPduGroup _ => none

/-- A monitor transfer of a session on a connection with source `src`. -/
structure MonitorTransfer (h : Host ε) (policy : MonitorPolicy) (src dst : EndpointRef)
    (t : ITransferPdu) : Prop where
  single : ∃ configKey key, t.body = .transferPdu configKey key
  src : t.srcEndpoint = src
  dst : t.dstEndpoint = dst
  cyclic : (h.policies t.policy).isCyclicTrigger = decide (policy.type = "ticker")

/-- A supported policy can be created, and only the ticker is cyclic. -/
theorem createMonitorPolicy_of_supported {policy : MonitorPolicy}
    (h : isSupportedMonitorPolicy policy = true) :
    ∃ p, createMonitorPolicy policy = some p ∧
      p.isCyclicTrigger = decide (policy.type = "ticker") := by
  unfold isSupportedMonitorPolicy at h
  unfold createMonitorPolicy
  dsimp only
  split_ifs at h with hempty himm htype
  · refine ⟨.throttle { intervalMicros := intervalMicros 100 }, ?_, ?_⟩
    · simp [hempty]
    · simp [hempty, Policy.isCyclicTrigger]
  · refine ⟨.immediate (.new false), ?_, ?_⟩
    · simp [himm]
    · simp [himm, Policy.isCyclicTrigger]
  · have hpos : ¬ policy.intervalMs ≤ 0 := by
      have hgt : policy.intervalMs > 0 := of_decide_eq_true h
      omega
    rcases htype with hthrottle | hticker
    · refine ⟨.throttle { intervalMicros := intervalMicros policy.intervalMs }, ?_, ?_⟩
      · simp [hthrottle, hpos]
      · simp [hthrottle, Policy.isCyclicTrigger]
    · refine ⟨.ticker { interval := intervalMicros policy.intervalMs }, ?_, ?_⟩
      · simp [hticker, hpos]
      · simp [hticker, Policy.isCyclicTrigger]

/-- What `createMonitorTransfer` needs of a request, and the place it works at. -/
structure MonitorPlace (core : BridgeCore) (spec : MonitorSessionSpec) (i : Nat)
    (c : BridgeConnection) (src : EndpointRef) : Prop where
  id_ne : spec.connectionId ≠ ""
  find : core.findConnection spec.connectionId = some i
  get : core.connections[i]? = some c
  src : c.srcEndpoint = some src
  supported : isSupportedMonitorPolicy (effectivePolicy spec.policy) = true

theorem MonitorPlace.lt {core : BridgeCore} {spec : MonitorSessionSpec} {i : Nat}
    {c : BridgeConnection} {src : EndpointRef} (hp : MonitorPlace core spec i c src) :
    i < core.connections.length :=
  (List.getElem?_eq_some_iff.1 hp.get).1

/-- The place survives that the connection takes over transfers. -/
theorem MonitorPlace.takeOver {core : BridgeCore} {spec : MonitorSessionSpec} {i : Nat}
    {c : BridgeConnection} {src : EndpointRef} (hp : MonitorPlace core spec i c src)
    (ts : List ITransferPdu) :
    MonitorPlace (core.modifyConnection i (·.takeOver ts)) spec i (c.takeOver ts) src := by
  refine ⟨hp.id_ne, ?_, ?_, ?_, hp.supported⟩
  · rw [BridgeCore.findConnection_congr (map_modify_of_invisible (fun c => by simp) _ i)]
    exact hp.find
  · simp [BridgeCore.modifyConnection, hp.get]
  · rw [BridgeConnection.srcEndpoint_takeOver]
    exact hp.src

/-- A call of `create_monitor_transfer` changes nothing, or a connection takes over a new
transfer. -/
theorem createMonitorTransfer_cases (E : Env ε) (core : BridgeCore) (id : String)
    (key : BridgePduKey) (policy : MonitorPolicy) (dst : Option EndpointRef) (h : Host ε) :
    (∃ message, core.createMonitorTransfer E id key policy dst h = ((core, h), .error message)) ∨
      ∃ i t h', i < core.connections.length ∧ Created h t h' ∧
        core.createMonitorTransfer E id key policy dst h =
          ((core.modifyConnection i (·.takeOver [t]), h'), .ok t.self) := by
  unfold BridgeCore.createMonitorTransfer
  split
  · exact .inl ⟨_, rfl⟩
  · split
    · exact .inl ⟨_, rfl⟩
    · split
      · exact .inl ⟨_, rfl⟩
      · next i _ =>
        split
        · exact .inl ⟨_, rfl⟩
        · split
          · next src dst hsrc =>
            split
            · exact .inl ⟨_, rfl⟩
            · next p _ =>
              obtain ⟨c, hc, -⟩ := Option.bind_eq_some_iff.1 hsrc
              exact .inr ⟨i, _, _, (List.getElem?_eq_some_iff.1 hc).1,
                created_newTransferPdu E key p src dst h, rfl⟩
          · exact .inl ⟨_, rfl⟩

/-- One call of `create_monitor_transfer` on a running core. -/
theorem createMonitorTransfer_running (E : Env ε) {core : BridgeCore} {spec : MonitorSessionSpec}
    {i : Nat} {c : BridgeConnection} {src dst : EndpointRef} (hp : MonitorPlace core spec i c src)
    (hrun : core.isRunning = true) (hdst : spec.destinationEndpoint = some dst)
    (key : BridgePduKey) (h : Host ε) :
    ∃ t h', core.createMonitorTransfer E spec.connectionId key (effectivePolicy spec.policy)
        spec.destinationEndpoint h =
          ((core.modifyConnection i (·.takeOver [t]), h'), .ok t.self) ∧
      Created h t h' ∧ MonitorTransfer h' (effectivePolicy spec.policy) src dst t ∧
      t.pdu? = some key.pdu := by
  obtain ⟨p, hpolicy, hcyclic⟩ := createMonitorPolicy_of_supported hp.supported
  refine ⟨_, _, ?_, created_newTransferPdu E key p src dst h, ⟨⟨_, _, rfl⟩, rfl, rfl, ?_⟩, rfl⟩
  · have hsrc : (core.connections[i]?.bind fun c => c.srcEndpoint) = some src := by
      rw [hp.get]
      exact hp.src
    unfold BridgeCore.createMonitorTransfer
    rw [hrun, hp.find, hp.supported, hdst]
    simp only [Bool.true_eq_false, if_false, if_neg hp.id_ne, hsrc, hpolicy]
    rfl
  · rw [← hcyclic]
    simp [newTransferPdu, Host.newPolicy]

/-- One call on a core that is not running. -/
theorem createMonitorTransfer_stopped (E : Env ε) {core : BridgeCore} (id : String)
    (key : BridgePduKey) (policy : MonitorPolicy) (dst : Option EndpointRef) (h : Host ε)
    (hrun : core.isRunning = false) :
    core.createMonitorTransfer E id key policy dst h =
      ((core, h), .error "BUSY: bridge is not running") := by
  unfold BridgeCore.createMonitorTransfer
  rw [if_pos hrun]

namespace Bridge

theorem loadRunning_of_ne {stopAt : Option Nat} {k : Nat} (h : stopAt ≠ some k)
    (core : BridgeCore) : loadRunning stopAt k core = core := by
  unfold loadRunning
  rw [if_neg h]

theorem modifyConnection_takeOver_nil (core : BridgeCore) (i : Nat) :
    core.modifyConnection i (·.takeOver []) = core := by
  have hid : (fun c : BridgeConnection => c.takeOver []) = id := rfl
  rw [BridgeCore.modifyConnection, hid, List.modify_id]

/-- The loop over the keys: it creates a transfer for every key, or stops at the load that finds
the flag cleared. -/
theorem createMonitorTransfers_spec (E : Env ε) {stopAt : Option Nat} {spec : MonitorSessionSpec}
    {dst : EndpointRef} (hdst : spec.destinationEndpoint = some dst) (keys : List BridgePduKey)
    {k i : Nat} {core : BridgeCore} {c : BridgeConnection} {src : EndpointRef} {h : Host ε}
    (hp : MonitorPlace core spec i c src) (hrun : core.isRunning = true) :
    ∃ ts h', CreatedAll h ts h' ∧
      (∀ t ∈ ts, MonitorTransfer h' (effectivePolicy spec.policy) src dst t) ∧
      ts.map ITransferPdu.pdu? = (keys.take ts.length).map (fun key => some key.pdu) ∧
      ((ts.length = keys.length ∧ createMonitorTransfers E stopAt spec k keys (core, h) =
          ((core.modifyConnection i (·.takeOver ts), h'), ts.map ITransferPdu.self, true)) ∨
        (∃ j, stopAt = some j ∧ k ≤ j ∧ j < k + keys.length ∧ ts.length = j - k ∧
          createMonitorTransfers E stopAt spec k keys (core, h) =
            (({ core.modifyConnection i (·.takeOver ts) with isRunning := false }, h'),
              ts.map ITransferPdu.self, false))) := by
  induction keys generalizing k core c h with
  | nil =>
    refine ⟨[], h, CreatedAll.nil h, by simp, rfl, Or.inl ⟨rfl, ?_⟩⟩
    rw [modifyConnection_takeOver_nil]
    rfl
  | cons key keys ih =>
    by_cases hstop : stopAt = some k
    · -- the flag is found cleared, nothing is created
      refine ⟨[], h, CreatedAll.nil h, by simp, rfl, Or.inr ⟨k, hstop, le_rfl, ?_, ?_, ?_⟩⟩
      · rw [List.length_cons]
        omega
      · rw [Nat.sub_self]
        rfl
      · have hload : loadRunning stopAt k core = { core with isRunning := false } := by
          unfold loadRunning
          rw [if_pos hstop]
        unfold createMonitorTransfers
        rw [hload, createMonitorTransfer_stopped E spec.connectionId key _ _ h rfl,
          modifyConnection_takeOver_nil]
        rfl
    · obtain ⟨t, h₁, hcreate, hmade, hmonitor, hpdu⟩ :=
        createMonitorTransfer_running E hp hrun hdst key h
      obtain ⟨ts, h₂, hall, hmonitors, hpdus, hrest⟩ := @ih (k + 1) _ _ h₁ (hp.takeOver [t]) hrun
      have hcompose :
          (core.modifyConnection i (·.takeOver [t])).modifyConnection i (·.takeOver ts) =
            core.modifyConnection i (·.takeOver (t :: ts)) := by
        unfold BridgeCore.modifyConnection
        rw [List.modify_modify_eq]
        rfl
      have hfirst : MonitorTransfer h₂ (effectivePolicy spec.policy) src dst t := by
        refine ⟨hmonitor.single, hmonitor.src, hmonitor.dst, ?_⟩
        rw [hall.extends.cyclic t.policy hmade.policy_lt]
        exact hmonitor.cyclic
      refine ⟨t :: ts, h₂, CreatedAll.cons hmade hall, fun t' ht' => ?_, ?_, ?_⟩
      · rcases List.mem_cons.1 ht' with rfl | ht'
        · exact hfirst
        · exact hmonitors t' ht'
      · rw [List.map_cons, hpdu, hpdus]
        rfl
      · unfold createMonitorTransfers
        rw [loadRunning_of_ne hstop, hcreate]
        rw [hcompose] at hrest
        rcases hrest with ⟨hlen, hdone⟩ | ⟨j, hj, hle, hlt, hlen, hfail⟩
        · refine Or.inl ⟨by rw [List.length_cons, List.length_cons, hlen], ?_⟩
          simp only [hdone, List.map_cons]
        · refine Or.inr ⟨j, hj, by omega, ?_, ?_, ?_⟩
          · rw [List.length_cons]
            omega
          · rw [List.length_cons, hlen]
            omega
          · simp only [hfail, List.map_cons]

/-! ## The outcomes of an attach -/

/-- An admitted request has a place. -/
theorem place_of_admitMonitor {E : Env ε} {core : BridgeCore} {spec : MonitorSessionSpec}
    {selection : ResolvedMonitorSelection} (h : core.admitMonitor E spec = some selection) :
    core.isRunning = true ∧ ∃ i c src, MonitorPlace core spec i c src := by
  obtain ⟨hrun, hid, hsupported, hresolve⟩ := BridgeCore.admitMonitor_eq_some.1 h
  obtain ⟨c, src, hfind, hsrc, -⟩ := BridgeCore.resolveMonitorSelection_eq_ok.1 hresolve
  obtain ⟨i, hi, hget⟩ := BridgeCore.find?_connection hfind
  exact ⟨hrun, i, c, src, hid, hi, hget, hsrc, hsupported⟩

/-- What is admitted at the first load of the running flag was admitted before. -/
theorem admitMonitor_of_loadRunning {E : Env ε} {stopAt : Option Nat} {core : BridgeCore}
    {spec : MonitorSessionSpec} {selection : ResolvedMonitorSelection}
    (h : (loadRunning stopAt 0 core).admitMonitor E spec = some selection) :
    stopAt ≠ some 0 ∧ core.admitMonitor E spec = some selection := by
  have hzero : stopAt ≠ some 0 := by
    intro hstop
    have hrun := (place_of_admitMonitor h).1
    simp [loadRunning, hstop] at hrun
  rw [loadRunning_of_ne hzero] at h
  exact ⟨hzero, h⟩

/-- The three outcomes of `attach_monitor`. -/
inductive AttachOutcome (E : Env ε) (stopAt : Option Nat) (spec : MonitorSessionSpec)
    (b : Bridge ε) : Bridge ε × Option String → Prop
  | rejected (hadmitted : (loadRunning stopAt 0 b.core).admitMonitor E spec = none) :
      AttachOutcome E stopAt spec b ({ b with core := loadRunning stopAt 0 b.core }, none)
  | rolledBack {selection : ResolvedMonitorSelection} {ts : List ITransferPdu} {h' : Host ε}
      {src dst : EndpointRef} {j : Nat} (hadmitted : b.core.admitMonitor E spec = some selection)
      (hdst : spec.destinationEndpoint = some dst) (hcreated : CreatedAll b.host ts h')
      (hmonitor : ∀ t ∈ ts, MonitorTransfer h' (effectivePolicy spec.policy) src dst t)
      (hstop : stopAt = some j) (hlt : j ≤ selection.keys.length) (hlen : ts.length + 1 = j) :
      AttachOutcome E stopAt spec b
        ({ b with core := { b.core with isRunning := false }, host := h' }, none)
  | attached {selection : ResolvedMonitorSelection} {ts : List ITransferPdu} {h' : Host ε}
      {i : Nat} {c : BridgeConnection} {src : EndpointRef}
      (hadmitted : b.core.admitMonitor E spec = some selection)
      (hplace : MonitorPlace b.core spec i c src) (hcreated : CreatedAll b.host ts h')
      (hmonitor : ∀ t ∈ ts, ∃ dst, spec.destinationEndpoint = some dst ∧
        MonitorTransfer h' (effectivePolicy spec.policy) src dst t)
      (hlen : ts.length = (monitorKeys spec selection).length) :
      AttachOutcome E stopAt spec b
        ({ b with
           host := h'
           core := b.core.modifyConnection i (·.takeOver ts)
           runtime := (b.runtime.insertSession (sessionInfo spec selection)
             (ts.map ITransferPdu.self) spec.destinationEndpoint).1 },
          some (b.runtime.insertSession (sessionInfo spec selection)
            (ts.map ITransferPdu.self) spec.destinationEndpoint).2)

/-- An attach is refused, or it makes transfers for the selected keys, in order, at the place of
the request: for all keys, or for those before the load that finds the running flag cleared. -/
theorem attachMonitor_cases (E : Env ε) (stopAt : Option Nat) (spec : MonitorSessionSpec)
    (b : Bridge ε) :
    ((loadRunning stopAt 0 b.core).admitMonitor E spec = none ∧
      b.attachMonitor E stopAt spec = ({ b with core := loadRunning stopAt 0 b.core }, none)) ∨
    ∃ selection ts h' i c src, b.core.admitMonitor E spec = some selection ∧
      MonitorPlace b.core spec i c src ∧ CreatedAll b.host ts h' ∧
      (∀ t ∈ ts, ∃ dst, spec.destinationEndpoint = some dst ∧
        MonitorTransfer h' (effectivePolicy spec.policy) src dst t) ∧
      ts.map ITransferPdu.pdu? =
        ((monitorKeys spec selection).take ts.length).map (fun key => some key.pdu) ∧
      ((ts.length = (monitorKeys spec selection).length ∧
        b.attachMonitor E stopAt spec = ({ b with
          host := h'
          core := b.core.modifyConnection i (·.takeOver ts)
          runtime := (b.runtime.insertSession (sessionInfo spec selection)
            (ts.map ITransferPdu.self) spec.destinationEndpoint).1 },
          some b.runtime.nextSessionId)) ∨
      ∃ j dst, spec.destinationEndpoint = some dst ∧ stopAt = some j ∧
        j ≤ selection.keys.length ∧ ts.length + 1 = j ∧
        b.attachMonitor E stopAt spec = ({ b with
          host := h'
          core := BridgeCore.retireTransfers
            { b.core.modifyConnection i (·.takeOver ts) with isRunning := false }
            (ts.map ITransferPdu.self) }, none)) := by
  cases hadmitted : (loadRunning stopAt 0 b.core).admitMonitor E spec with
  | none =>
    refine Or.inl ⟨rfl, ?_⟩
    unfold attachMonitor
    simp only [hadmitted]
  | some selection =>
    obtain ⟨hzero, hadmitted⟩ := admitMonitor_of_loadRunning hadmitted
    obtain ⟨hrun, i, c, src, hplace⟩ := place_of_admitMonitor hadmitted
    cases hdst : spec.destinationEndpoint with
    | none =>
      -- no destination, no transfers
      have hkeys : monitorKeys spec selection = [] := if_pos hdst
      refine Or.inr ⟨selection, [], b.host, i, c, src, hadmitted, hplace, CreatedAll.nil b.host,
        by simp, ?_, Or.inl ⟨?_, ?_⟩⟩
      · rw [hkeys]
        rfl
      · rw [hkeys]
        rfl
      · unfold attachMonitor
        simp only [loadRunning_of_ne hzero, hadmitted, hkeys, createMonitorTransfers, hdst,
          modifyConnection_takeOver_nil]
        rfl
    | some dst =>
      have hkeys : monitorKeys spec selection = selection.keys := if_neg (by simp [hdst])
      obtain ⟨ts, h', hcreated, hmonitor, hpdus, hcase⟩ :=
        @createMonitorTransfers_spec _ E stopAt spec dst hdst selection.keys 1 i b.core c src b.host
          hplace hrun
      rw [← hkeys] at hpdus
      refine Or.inr ⟨selection, ts, h', i, c, src, hadmitted, hplace, hcreated,
        fun t ht => ⟨dst, rfl, hmonitor t ht⟩, hpdus, ?_⟩
      rcases hcase with ⟨hlen, hdone⟩ | ⟨j, hj, hle, hlt, hlen, hfail⟩
      · refine Or.inl ⟨by rw [hkeys, hlen], ?_⟩
        unfold attachMonitor
        simp only [loadRunning_of_ne hzero, hadmitted, hkeys, hdone, hdst]
        rfl
      · refine Or.inr ⟨j, dst, rfl, hj, by omega, by omega, ?_⟩
        unfold attachMonitor
        simp only [loadRunning_of_ne hzero, hadmitted, hkeys, hfail]

/-- **Attach.** On well-formed connections every attach ends in one of the three ways. -/
theorem attachMonitor_outcome (E : Env ε) (stopAt : Option Nat) (spec : MonitorSessionSpec)
    {b : Bridge ε} (hwf : Wf b.core.connections b.host) :
    AttachOutcome E stopAt spec b (b.attachMonitor E stopAt spec) := by
  rcases attachMonitor_cases E stopAt spec b with ⟨hadmitted, heq⟩ |
    ⟨selection, ts, h', i, c, src, hadmitted, hplace, hcreated, hmonitor, -,
      ⟨hlen, heq⟩ | ⟨j, dst, hdst, hstop, hle, hlen, heq⟩⟩
  · rw [heq]
    exact .rejected hadmitted
  · rw [heq]
    exact .attached hadmitted hplace hcreated hmonitor hlen
  · -- the rollback removes exactly what was created
    have hwf' : Wf (b.core.connections.modify i (·.takeOver ts)) h' :=
      hwf.takeOver hplace.lt hcreated
    have hback : BridgeCore.retireTransfers
        { b.core.modifyConnection i (·.takeOver ts) with isRunning := false }
        (ts.map ITransferPdu.self) = { b.core with isRunning := false } := by
      have hnd : (BridgeCore.ownedRefs
          { b.core.modifyConnection i (·.takeOver ts) with isRunning := false }).Nodup :=
        hwf'.nodup
      rw [BridgeCore.retireTransfers_eq hnd, BridgeCore.without]
      simp only [BridgeCore.modifyConnection, hwf.without_takeOver hcreated i]
    have hmonitor' : ∀ t ∈ ts, MonitorTransfer h' (effectivePolicy spec.policy) src dst t := by
      intro t ht
      obtain ⟨dst', hdst', hmade⟩ := hmonitor t ht
      obtain rfl := Option.some.inj (hdst.symm.trans hdst')
      exact hmade
    rw [heq, hback]
    exact .rolledBack hadmitted hdst hcreated hmonitor' hstop hle hlen

/-- **A new session.** An attach that issues an id has made one transfer for each selected key, in
order, if the session has a destination, and none otherwise. -/
theorem attachMonitor_some {E : Env ε} {stopAt : Option Nat} {spec : MonitorSessionSpec}
    {b b' : Bridge ε} {id : String} (h : b.attachMonitor E stopAt spec = (b', some id)) :
    ∃ selection ts h' i c src, b.core.admitMonitor E spec = some selection ∧
      MonitorPlace b.core spec i c src ∧ CreatedAll b.host ts h' ∧
      ts.map ITransferPdu.pdu? = (monitorKeys spec selection).map (fun key => some key.pdu) ∧
      id = b.runtime.nextSessionId ∧
      b' = { b with
        host := h'
        core := b.core.modifyConnection i (·.takeOver ts)
        runtime := (b.runtime.insertSession (sessionInfo spec selection)
          (ts.map ITransferPdu.self) spec.destinationEndpoint).1 } := by
  rcases attachMonitor_cases E stopAt spec b with ⟨-, heq⟩ |
    ⟨selection, ts, h', i, c, src, hadmitted, hplace, hcreated, -, hpdus,
      ⟨hlen, heq⟩ | ⟨j, dst, -, -, -, -, heq⟩⟩
  · exact absurd (congrArg Prod.snd (heq.symm.trans h)) (by simp)
  · obtain ⟨rfl, hid⟩ := Prod.mk.inj (heq.symm.trans h)
    rw [hlen, List.take_length] at hpdus
    exact ⟨selection, ts, h', i, c, src, hadmitted, hplace, hcreated, hpdus,
      (Option.some.inj hid).symm, rfl⟩
  · exact absurd (congrArg Prod.snd (heq.symm.trans h)) (by simp)

/-- A session with a destination has transfers. -/
theorem made_ne_nil {E : Env ε} {core : BridgeCore} {spec : MonitorSessionSpec}
    {selection : ResolvedMonitorSelection} {dst : EndpointRef} {ts : List ITransferPdu}
    (hadmitted : core.admitMonitor E spec = some selection)
    (hdst : spec.destinationEndpoint = some dst)
    (hpdus : ts.map ITransferPdu.pdu? =
      (monitorKeys spec selection).map fun key => some key.pdu) : ts ≠ [] := by
  rintro rfl
  have hkeys : monitorKeys spec selection = selection.keys := if_neg (by simp [hdst])
  obtain ⟨-, -, -, hresolve⟩ := BridgeCore.admitMonitor_eq_some.1 hadmitted
  rw [hkeys] at hpdus
  exact BridgeCore.keys_ne_nil_of_resolve hresolve (List.map_eq_nil_iff.1 hpdus.symm)

/-- An admitted attach that no other thread stops issues the next id. -/
theorem issues_of_admitted {E : Env ε} {b : Bridge ε} {spec : MonitorSessionSpec}
    {selection : ResolvedMonitorSelection}
    (hadmitted : b.core.admitMonitor E spec = some selection) :
    ∃ b', b.attachMonitor E none spec = (b', some b.runtime.nextSessionId) := by
  rcases attachMonitor_cases E none spec b with ⟨hrejected, -⟩ |
    ⟨_, ts, h', i, c, src, -, -, -, -, -, ⟨-, heq⟩ | ⟨j, dst, -, hstop, -⟩⟩
  · rw [loadRunning_of_ne (by simp)] at hrejected
    exact absurd (hrejected.symm.trans hadmitted) (by simp)
  · exact ⟨_, heq⟩
  · exact absurd hstop (by simp)

/-- An attach that issues no id leaves the tables as they are. -/
theorem runtime_of_attachMonitor_none {E : Env ε} {stopAt : Option Nat} {spec : MonitorSessionSpec}
    {b b' : Bridge ε} (h : b.attachMonitor E stopAt spec = (b', none)) :
    b'.runtime = b.runtime := by
  rcases attachMonitor_cases E stopAt spec b with ⟨-, heq⟩ |
    ⟨selection, ts, h', i, c, src, -, -, -, -, -, ⟨-, heq⟩ | ⟨j, dst, -, -, -, -, heq⟩⟩
  · rw [← (Prod.mk.inj (heq.symm.trans h)).1]
  · exact absurd (congrArg Prod.snd (heq.symm.trans h)) (by simp)
  · rw [← (Prod.mk.inj (heq.symm.trans h)).1]

/-! ## Detaching -/

/-- Detaching a session drops its transfers from the connections. -/
theorem detachMonitor_core {b : Bridge ε} (hwf : Wf b.core.connections b.host)
    {sessionId : String} (hmem : sessionId ∈ b.runtime.monitorSessions) :
    (b.detachMonitor sessionId).1.core =
      b.core.without (b.runtime.sessionTransfers sessionId) := by
  unfold detachMonitor
  rw [if_pos hmem]
  exact BridgeCore.retireTransfers_eq hwf.nodup _

/-- Detaching an unlisted session does nothing. -/
theorem detachMonitor_of_not_mem {b : Bridge ε} {sessionId : String}
    (hmem : sessionId ∉ b.runtime.monitorSessions) : (b.detachMonitor sessionId).1 = b := by
  unfold detachMonitor
  rw [if_neg hmem]

theorem detachMonitor_host (b : Bridge ε) (sessionId : String) :
    (b.detachMonitor sessionId).1.host = b.host := by
  unfold detachMonitor
  split_ifs <;> rfl

/-- The shutdown of an initialized runtime drops all monitor transfers from the connections. -/
theorem shutdown_core (E : Env ε) {b : Bridge ε} (hwf : Wf b.core.connections b.host)
    (hinit : b.runtime.initialized = true) :
    (b.shutdown E).core = b.core.without b.monitorTransfers := by
  unfold shutdown
  rw [if_neg (by simp [hinit])]
  exact BridgeCore.retireTransfers_eq hwf.nodup _

theorem shutdown_of_not_initialized (E : Env ε) {b : Bridge ε}
    (hinit : b.runtime.initialized = false) : b.shutdown E = b := by
  unfold shutdown
  rw [if_pos hinit]

/-- A shutdown changes the host by its outside state at most. -/
theorem shutdown_sameBook (E : Env ε) (b : Bridge ε) :
    Host.SameBook b.host (b.shutdown E).host := by
  unfold shutdown
  split_ifs
  · exact Host.SameBook.refl b.host
  · exact Host.sameBook_env b.host _

end Bridge

end HakoniwaBridge
