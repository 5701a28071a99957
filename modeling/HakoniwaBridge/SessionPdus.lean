import HakoniwaBridge.Ledger
import HakoniwaBridge.PduViews

/-!
# The transfers of a session

A session with a destination has one monitor transfer for each PDU of its connection, from its
attach on.

* `BridgeCore.OwnsEach` — a connection owns some objects, one single transfer for each PDU, in
  order.
* `Supplied` — the invariant: what the runtime table holds for a session is owned so, by the
  connection of its row; `Supplied.attach`, `Supplied.step` and `supplied_run`.
-/

namespace HakoniwaBridge

open Lib

variable {ε : Type} {E : Env ε}

/-! ## What a connection owns -/

namespace BridgeConnection

/-- The objects of a connection, with the PDUs of the single transfers. -/
def inventory (c : BridgeConnection) : List (Nat × Option (String × String)) :=
  c.transferPdus.map fun t => (t.self, t.pdu?)

theorem inventory_setActive (c : BridgeConnection) (isActive : Bool) :
    (c.setActive isActive).inventory = c.inventory := by
  unfold inventory setActive
  rw [List.map_map]
  rfl

theorem inventory_incrementEpoch (c : BridgeConnection) :
    c.incrementEpoch.inventory = c.inventory := by
  unfold inventory incrementEpoch
  rw [List.map_map]
  rfl

theorem inventory_addTransferPdu (c : BridgeConnection) (t : ITransferPdu) :
    (c.addTransferPdu t).inventory = c.inventory ++ [(t.self, t.pdu?)] := by
  unfold inventory addTransferPdu
  rw [List.map_append]
  rfl

theorem inventory_takeOver (c : BridgeConnection) (ts : List ITransferPdu) :
    (c.takeOver ts).inventory = c.inventory ++ ts.map fun t => (t.self, t.pdu?) := by
  unfold inventory
  rw [transferPdus_takeOver, List.map_append, List.map_map]
  rfl

theorem inventory_without (c : BridgeConnection) (drop : List Nat) :
    (c.without drop).inventory = c.inventory.filter fun r => !decide (r.1 ∈ drop) := by
  unfold inventory without
  rw [List.filter_map]
  rfl

end BridgeConnection

namespace BridgeCore

variable {core core' : BridgeCore} {id : String} {refs : List Nat} {pdus : List (String × String)}

/-- The connection that an id finds owns the objects `refs`: a single transfer for each of `pdus`,
in order. -/
def OwnsEach (core : BridgeCore) (id : String) (refs : List Nat) (pdus : List (String × String)) :
    Prop :=
  ∃ i c, core.findConnection id = some i ∧ core.connections[i]? = some c ∧
    (c.inventory.filter fun r => decide (r.1 ∈ refs)).map Prod.fst = refs ∧
    (c.inventory.filter fun r => decide (r.1 ∈ refs)).map Prod.snd = pdus.map some

theorem OwnsEach.congr (h : core.OwnsEach id refs pdus)
    (hconnections : core'.connections = core.connections) : core'.OwnsEach id refs pdus := by
  unfold OwnsEach findConnection at h ⊢
  rw [hconnections]
  exact h

/-- A change of one connection that these objects do not notice. -/
theorem OwnsEach.modify (h : core.OwnsEach id refs pdus) (j : Nat)
    {f : BridgeConnection → BridgeConnection} (hid : ∀ c, (f c).connectionId = c.connectionId)
    (hkeep : ∀ c, (f c).inventory.filter (fun r => decide (r.1 ∈ refs)) =
      c.inventory.filter fun r => decide (r.1 ∈ refs)) :
    (core.modifyConnection j f).OwnsEach id refs pdus := by
  obtain ⟨i, c, hfind, hget, hfst, hsnd⟩ := h
  have hfind' : (core.modifyConnection j f).findConnection id = some i :=
    (findConnection_congr (map_modify_of_invisible hid core.connections j) id).trans hfind
  by_cases hij : j = i
  · subst hij
    refine ⟨j, f c, hfind', ?_, ?_, ?_⟩
    · simp [modifyConnection, hget]
    · rw [hkeep]
      exact hfst
    · rw [hkeep]
      exact hsnd
  · refine ⟨i, c, hfind', ?_, hfst, hsnd⟩
    show (core.connections.modify j f)[i]? = some c
    rw [List.getElem?_modify_ne _ _ hij, hget]

/-- Other objects are dropped. -/
theorem OwnsEach.without (h : core.OwnsEach id refs pdus) {drop : List Nat}
    (hdisjoint : ∀ r ∈ refs, r ∉ drop) : (core.without drop).OwnsEach id refs pdus := by
  obtain ⟨i, c, hfind, hget, hfst, hsnd⟩ := h
  have hids : (core.without drop).connections.map (·.connectionId) =
      core.connections.map (·.connectionId) := by
    unfold BridgeCore.without
    rw [List.map_map]
    rfl
  have hkeep : (c.without drop).inventory.filter (fun r => decide (r.1 ∈ refs)) =
      c.inventory.filter fun r => decide (r.1 ∈ refs) := by
    rw [BridgeConnection.inventory_without, List.filter_filter]
    apply List.filter_congr
    intro r _
    by_cases hr : r.1 ∈ refs
    · simp [hr, hdisjoint r.1 hr]
    · simp [hr]
  refine ⟨i, c.without drop, (findConnection_congr hids id).trans hfind, ?_, ?_, ?_⟩
  · show (core.connections.map _)[i]? = _
    rw [List.getElem?_map, hget]
    rfl
  · rw [hkeep]
    exact hfst
  · rw [hkeep]
    exact hsnd

end BridgeCore

/-- The keys that an admitted request selects name the PDUs in the table. -/
theorem BridgeCore.keys_of_admitMonitor {core : BridgeCore} {spec : MonitorSessionSpec}
    {selection : ResolvedMonitorSelection} (h : core.admitMonitor E spec = some selection) :
    selection.keys.map BridgePduKey.pdu = core.pdusOf spec.connectionId := by
  obtain ⟨-, -, -, hresolve⟩ := admitMonitor_eq_some.1 h
  obtain ⟨-, src, -, -, -, -, rfl⟩ := resolveMonitorSelection_eq_ok.1 hresolve
  rw [selectionOf, List.map_map]
  exact List.map_id _

/-- Objects at the end of an inventory that are none of some others. -/
theorem filter_append_of_disjoint {xs ys : List (Nat × Option (String × String))} {refs : List Nat}
    (hdisjoint : ∀ r ∈ ys, r.1 ∉ refs) :
    (xs ++ ys).filter (fun r => decide (r.1 ∈ refs)) =
      xs.filter fun r => decide (r.1 ∈ refs) := by
  have hnone : ys.filter (fun r => decide (r.1 ∈ refs)) = [] := by
    apply List.filter_eq_nil_iff.2
    intro r hr
    simpa using hdisjoint r hr
  rw [List.filter_append, hnone, List.append_nil]

/-- New objects are taken over. -/
theorem BridgeCore.OwnsEach.takeOver {core : BridgeCore} {id : String} {refs : List Nat}
    {pdus : List (String × String)} (h : core.OwnsEach id refs pdus) (j : Nat)
    {ts : List ITransferPdu} (hnew : ∀ t ∈ ts, t.self ∉ refs) :
    (core.modifyConnection j (·.takeOver ts)).OwnsEach id refs pdus := by
  refine h.modify j (BridgeConnection.connectionId_takeOver ts) fun c => ?_
  rw [BridgeConnection.inventory_takeOver]
  apply filter_append_of_disjoint
  intro r hr
  obtain ⟨t, ht, rfl⟩ := List.mem_map.1 hr
  exact hnew t ht

/-! ## The invariant -/

/-- After `n` session ids: what the runtime table holds for a session is owned by the connection of
its row, a transfer for each PDU, and belongs to no other session. -/
structure Supplied (pdus : String → List (String × String)) (n : Nat) (b : Bridge ε) : Prop where
  wf : b.WellFormed
  numbered : b.runtime.Numbered n
  made : ∀ id, ∀ r ∈ b.runtime.sessionTransfers id, r < b.host.nextTransfer
  disjoint : ∀ id id', id ≠ id' → ∀ r ∈ b.runtime.sessionTransfers id,
    r ∉ b.runtime.sessionTransfers id'
  owns : ∀ id session, b.runtime.monitorRuntimeSessions.lookup id = some session →
    ∃ info dst, b.runtime.monitorSessions.lookup id = some info ∧
      session.destinationEndpoint = some dst ∧
      b.core.OwnsEach info.connectionId session.transfers (pdus info.connectionId)

theorem BridgeMonitorRuntime.sessionTransfers_of_lookup {rt : BridgeMonitorRuntime} {id : String}
    {session : MonitorSessionRuntime} (h : rt.monitorRuntimeSessions.lookup id = some session) :
    rt.sessionTransfers id = session.transfers := by
  unfold sessionTransfers
  rw [h]
  rfl

namespace Supplied

variable {pdus : String → List (String × String)} {n : Nat} {b b' : Bridge ε}

/-- With the same tables, the invariant lasts as long as connections keep what they own. -/
theorem congr (h : Supplied pdus n b) (hwf : b'.WellFormed)
    (htables : b.runtime.SameTables b'.runtime)
    (hnext : b.host.nextTransfer ≤ b'.host.nextTransfer)
    (howns : ∀ id refs ps, (∀ r ∈ refs, r < b.host.nextTransfer) → b.core.OwnsEach id refs ps →
      b'.core.OwnsEach id refs ps) : Supplied pdus n b' := by
  have htransfers : ∀ id, b'.runtime.sessionTransfers id = b.runtime.sessionTransfers id := by
    intro id
    unfold BridgeMonitorRuntime.sessionTransfers
    rw [htables.monitorRuntimeSessions]
  refine ⟨hwf, h.numbered.congr htables, fun id r hr => ?_, fun id id' hne r hr => ?_,
    fun id session hsession => ?_⟩
  · rw [htransfers] at hr
    exact (h.made id r hr).trans_le hnext
  · rw [htransfers] at hr ⊢
    exact h.disjoint id id' hne r hr
  · rw [htables.monitorRuntimeSessions] at hsession
    obtain ⟨info, dst, hinfo, hdst, heach⟩ := h.owns id session hsession
    refine ⟨info, dst, by rw [htables.monitorSessions, hinfo], hdst, howns _ _ _ ?_ heach⟩
    rw [← BridgeMonitorRuntime.sessionTransfers_of_lookup hsession]
    exact h.made id

/-- A detached session goes with all its transfers. -/
theorem detach (h : Supplied pdus n b) (sessionId : String) :
    Supplied pdus n (b.detachMonitor sessionId).1 := by
  by_cases hmem : sessionId ∈ b.runtime.monitorSessions
  · have hcore := Bridge.detachMonitor_core h.wf hmem
    have hruntime : (b.detachMonitor sessionId).1.runtime = { b.runtime with
        monitorRuntimeSessions := b.runtime.monitorRuntimeSessions.erase sessionId
        monitorSessions := b.runtime.monitorSessions.erase sessionId } := by
      unfold Bridge.detachMonitor
      rw [if_pos hmem]
    have hsub : ∀ id, ∀ r ∈ (b.detachMonitor sessionId).1.runtime.sessionTransfers id,
        r ∈ b.runtime.sessionTransfers id := by
      intro id r hr
      rw [hruntime, BridgeMonitorRuntime.sessionTransfers_erase] at hr
      split_ifs at hr
      · exact absurd hr List.not_mem_nil
      · exact hr
    refine ⟨Bridge.wellFormed_detachMonitor h.wf sessionId, h.numbered.detachMonitor sessionId,
      fun id r hr => ?_, fun id id' hne r hr hr' => ?_, fun id session hsession => ?_⟩
    · rw [Bridge.detachMonitor_host]
      exact h.made id r (hsub id r hr)
    · exact h.disjoint id id' hne r (hsub id r hr) (hsub id' r hr')
    · rw [hruntime] at hsession
      have hne : id ≠ sessionId := by
        rintro rfl
        rw [AList.lookup_erase] at hsession
        exact absurd hsession (by simp)
      rw [AList.lookup_erase_ne hne] at hsession
      obtain ⟨info, dst, hinfo, hdst, heach⟩ := h.owns id session hsession
      refine ⟨info, dst, ?_, hdst, ?_⟩
      · rw [hruntime, AList.lookup_erase_ne hne, hinfo]
      · rw [hcore]
        apply heach.without
        rw [← BridgeMonitorRuntime.sessionTransfers_of_lookup hsession]
        exact h.disjoint id sessionId hne
  · rw [Bridge.detachMonitor_of_not_mem hmem]
    exact h

/-- A shutdown leaves no session. -/
theorem shutdown (h : Supplied pdus n b) : Supplied pdus n (b.shutdown E) := by
  cases hinit : b.runtime.initialized with
  | false =>
    rw [Bridge.shutdown_of_not_initialized E hinit]
    exact h
  | true =>
    have hempty : (b.shutdown E).runtime.monitorRuntimeSessions = ∅ := by
      unfold Bridge.shutdown
      rw [if_neg (by simp [hinit])]
    have hnone : ∀ id, (b.shutdown E).runtime.sessionTransfers id = [] := by
      intro id
      unfold BridgeMonitorRuntime.sessionTransfers
      rw [hempty]
      rfl
    refine ⟨(Bridge.wellFormed_closed E).shutdown b h.wf, h.numbered.shutdown, fun id r hr => ?_,
      fun id id' _ r hr => ?_, fun id session hsession => ?_⟩
    · rw [hnone] at hr
      exact absurd hr List.not_mem_nil
    · rw [hnone] at hr
      exact absurd hr List.not_mem_nil
    · rw [hempty] at hsession
      exact absurd hsession (by simp)

/-- What the steps of a bridge are made of, apart from attaches, keeps the invariant. -/
theorem closed (pdus : String → List (String × String)) (n : Nat) :
    ControlClosed E (Supplied pdus n) where
  host b h' hsame h := h.congr ((Bridge.wellFormed_closed E).host b h' hsame h.wf)
    (.refl b.runtime) hsame.nextTransfer.ge fun _ _ _ _ heach => heach
  core b core hcore h := h.congr ((Bridge.wellFormed_closed E).core b core hcore h.wf)
    (.refl b.runtime) le_rfl fun _ _ _ _ heach => heach.congr hcore
  runtime _ _ htables h := h.congr h.wf htables le_rfl fun _ _ _ _ heach => heach
  attached b _ h := h.congr h.wf (.refl b.runtime) le_rfl fun _ _ _ _ heach => heach
  accept b ep key h := h.congr ((Bridge.wellFormed_closed E).accept b ep key h.wf)
    (.refl b.runtime) le_rfl fun _ _ _ _ heach => heach
  detach _ sessionId h := h.detach sessionId
  shutdown _ h := h.shutdown

/-- An operation on a connection keeps it too: a transfer that is added is new. -/
theorem onConnection (h : Supplied pdus n b) {op : Op ε} (hop : op.onConnection = true) :
    Supplied pdus n (b.step E op).1 := by
  have hwf := Bridge.wellFormed_step E h.wf op
  cases op with
  | setConnectionActive id isActive =>
    refine h.congr hwf (.refl b.runtime) le_rfl fun id' refs ps _ heach => ?_
    show BridgeCore.OwnsEach (b.core.setConnectionActive id isActive).1 id' refs ps
    unfold BridgeCore.setConnectionActive
    split
    · refine heach.modify (f := (·.setActive isActive)) _ (fun _ => rfl) fun c => ?_
      rw [BridgeConnection.inventory_setActive]
    · exact heach
  | incrementConnectionEpoch id =>
    refine h.congr hwf (.refl b.runtime) le_rfl fun id' refs ps _ heach => ?_
    show BridgeCore.OwnsEach (b.core.incrementConnectionEpoch id).1 id' refs ps
    unfold BridgeCore.incrementConnectionEpoch
    split
    · refine heach.modify (f := (·.incrementEpoch)) _ (fun _ => rfl) fun c => ?_
      rw [BridgeConnection.inventory_incrementEpoch]
    · exact heach
  | addTransferPdu i transfer =>
    have hcreated := transfer.created E b.host
    refine h.congr hwf (.refl b.runtime) hcreated.extends.nextTransfer fun id' refs ps hold heach =>
      heach.modify i (fun _ => rfl) fun c => ?_
    rw [BridgeConnection.inventory_addTransferPdu]
    apply filter_append_of_disjoint
    intro r hr hin
    obtain rfl := List.mem_singleton.1 hr
    have hlt := hold _ hin
    have hself := hcreated.self
    dsimp only at hlt
    omega
  | _ => exact absurd hop Bool.false_ne_true

/-- A new session with a destination is recorded with the transfers that were made for it. -/
theorem owns_new {spec : MonitorSessionSpec} {i : Nat} {c : BridgeConnection} {src : EndpointRef}
    {ts : List ITransferPdu} {h' : Host ε} (hwf : b.WellFormed)
    (hplace : MonitorPlace b.core spec i c src) (hcreated : CreatedAll b.host ts h')
    {ps : List (String × String)} (hpdus : ts.map ITransferPdu.pdu? = ps.map some) :
    (b.core.modifyConnection i (·.takeOver ts)).OwnsEach spec.connectionId
      (ts.map ITransferPdu.self) ps := by
  have hfind : (b.core.modifyConnection i (·.takeOver ts)).findConnection spec.connectionId =
      some i :=
    (BridgeCore.findConnection_congr (map_modify_of_invisible
      (fun c => BridgeConnection.connectionId_takeOver ts c) b.core.connections i) _).trans
      hplace.find
  -- what the connection owned before is older
  have hnew : (c.takeOver ts).inventory.filter
      (fun r => decide (r.1 ∈ ts.map ITransferPdu.self)) = ts.map fun t => (t.self, t.pdu?) := by
    have hold : c.inventory.filter (fun r => decide (r.1 ∈ ts.map ITransferPdu.self)) = [] := by
      apply List.filter_eq_nil_iff.2
      intro r hr
      obtain ⟨t, ht, rfl⟩ := List.mem_map.1 hr
      simpa using hwf.fresh hcreated (List.mem_of_getElem? hplace.get) ht
    have hall : (ts.map fun t => (t.self, t.pdu?)).filter
        (fun r => decide (r.1 ∈ ts.map ITransferPdu.self)) = ts.map fun t => (t.self, t.pdu?) := by
      apply List.filter_eq_self.2
      intro r hr
      obtain ⟨t, ht, rfl⟩ := List.mem_map.1 hr
      exact decide_eq_true (List.mem_map_of_mem ht)
    rw [BridgeConnection.inventory_takeOver, List.filter_append, hold, hall, List.nil_append]
  refine ⟨i, c.takeOver ts, hfind, ?_, ?_, ?_⟩
  · simp [BridgeCore.modifyConnection, hplace.get]
  · rw [hnew, List.map_map]
    rfl
  · rw [hnew, List.map_map]
    exact hpdus

/-- The keys of a session, if it has any, are those of its selection, and it has a destination. -/
theorem monitorKeys_cases {spec : MonitorSessionSpec} {selection : ResolvedMonitorSelection}
    (h : Bridge.monitorKeys spec selection ≠ []) :
    Bridge.monitorKeys spec selection = selection.keys ∧
      ∃ dst, spec.destinationEndpoint = some dst := by
  unfold Bridge.monitorKeys at h ⊢
  split_ifs at h with hdst
  · exact absurd rfl h
  · exact ⟨if_neg hdst, Option.ne_none_iff_exists'.1 hdst⟩

/-- **Attach.** A new session goes on with transfers of its own. -/
theorem attached (h : Supplied pdus n b) (hn : n < 2 ^ 64) {spec : MonitorSessionSpec}
    {selection : ResolvedMonitorSelection} {i : Nat} {c : BridgeConnection} {src : EndpointRef}
    {ts : List ITransferPdu} {h' : Host ε} (hplace : MonitorPlace b.core spec i c src)
    (hcreated : CreatedAll b.host ts h')
    (hmade : ts.map ITransferPdu.pdu? =
      (Bridge.monitorKeys spec selection).map fun key => some key.pdu)
    (hselected : selection.keys.map BridgePduKey.pdu = pdus spec.connectionId) :
    Supplied pdus (n + 1) { b with
      host := h'
      core := b.core.modifyConnection i (·.takeOver ts)
      runtime := (b.runtime.insertSession (Bridge.sessionInfo spec selection)
        (ts.map ITransferPdu.self) spec.destinationEndpoint).1 } := by
  have hid := sessionIdOf_eq h.numbered.counter
  obtain ⟨hnew, htable⟩ := h.numbered.fresh hn
  obtain ⟨hsessions, htransfers, -⟩ := BridgeMonitorRuntime.insertSession_new
    (Bridge.sessionInfo spec selection) (ts.map ITransferPdu.self) spec.destinationEndpoint hid hnew
    htable
  have hbounds : ∀ r ∈ ts.map ITransferPdu.self,
      b.host.nextTransfer ≤ r ∧ r < h'.nextTransfer := by
    intro r hr
    obtain ⟨t, ht, rfl⟩ := List.mem_map.1 hr
    exact ⟨(hcreated.bounds t ht).1, (hcreated.bounds t ht).2.1⟩
  refine ⟨h.wf.takeOver hplace.lt hcreated, h.numbered.insertSession hn _ _ _, fun id r hr => ?_,
    fun id id' hne r hr hr' => ?_, fun id session hsession => ?_⟩
  · rw [htransfers] at hr
    split_ifs at hr
    · exact (hbounds r hr).2
    · exact (h.made id r hr).trans_le hcreated.extends.nextTransfer
  · rw [htransfers] at hr hr'
    split_ifs at hr hr' with heq heq'
    · exact hne (heq.trans heq'.symm)
    · have hold := h.made id' r hr'
      have hge := (hbounds r hr).1
      omega
    · have hold := h.made id r hr
      have hge := (hbounds r hr').1
      omega
    · exact h.disjoint id id' hne r hr hr'
  · have hnext : b.runtime.nextSessionId = sessionIdOf n := hid
    rw [BridgeMonitorRuntime.lookup_insertSession _ _ _ (hnext ▸ htable), hnext] at hsession
    split_ifs at hsession with hthis
    · obtain ⟨rfl, hsome⟩ := hthis
      obtain rfl := Option.some.inj hsession
      have hkeys : Bridge.monitorKeys spec selection ≠ [] := by
        intro hnil
        rw [hnil] at hmade
        exact hsome (by simpa using hmade)
      obtain ⟨hall, dst, hdst⟩ := monitorKeys_cases hkeys
      refine ⟨{ Bridge.sessionInfo spec selection with sessionId := sessionIdOf n }, dst, ?_, hdst,
        owns_new h.wf hplace hcreated ?_⟩
      · rw [hsessions, AList.lookup_insert]
      · show ts.map ITransferPdu.pdu? = (pdus spec.connectionId).map some
        rw [hmade, hall, ← hselected, List.map_map]
        rfl
    · obtain ⟨info, dst, hinfo, hdst, heach⟩ := h.owns id session hsession
      have hne : id ≠ sessionIdOf n := by
        rintro rfl
        exact hnew (AList.lookup_isSome.1 (by rw [hinfo]; rfl))
      refine ⟨info, dst, by rw [hsessions, AList.lookup_insert_ne hne, hinfo], hdst,
        heach.takeOver i fun t ht hin => ?_⟩
      rw [← BridgeMonitorRuntime.sessionTransfers_of_lookup hsession] at hin
      have hold := h.made id _ hin
      have hge := (hcreated.bounds t ht).1
      omega

/-- An attach issues the next id and supplies its session, or issues nothing. -/
theorem attach (h : Supplied pdus n b) (stopAt : Option Nat) (spec : MonitorSessionSpec)
    (hpdus : b.core.pdusOf = pdus) :
    ((b.attachMonitor E stopAt spec).2 = none ∧
      Supplied pdus n (b.attachMonitor E stopAt spec).1) ∨
    ((b.attachMonitor E stopAt spec).2 = some (sessionIdOf n) ∧
      (n < 2 ^ 64 → Supplied pdus (n + 1) (b.attachMonitor E stopAt spec).1)) := by
  have hout := Bridge.attachMonitor_outcome E stopAt spec h.wf
  have hwf := Bridge.wellFormed_attachMonitor E stopAt spec h.wf
  rcases heq : b.attachMonitor E stopAt spec with ⟨b', issued⟩
  rw [heq] at hout hwf
  cases issued with
  | none =>
    refine Or.inl ⟨rfl, ?_⟩
    cases hout with
    | rejected _ =>
      refine h.congr hwf (.refl b.runtime) le_rfl fun _ _ _ _ heach => heach.congr ?_
      unfold Bridge.loadRunning
      split_ifs <;> rfl
    | rolledBack _ _ hcreated _ _ _ _ =>
      exact h.congr hwf (.refl b.runtime) hcreated.extends.nextTransfer
        fun _ _ _ _ heach => heach.congr rfl
  | some sessionId =>
    obtain ⟨selection, ts, h', i, c, src, hadmitted, hplace, hcreated, hmade, rfl, rfl⟩ :=
      Bridge.attachMonitor_some heq
    refine Or.inr ⟨congrArg some (sessionIdOf_eq h.numbered.counter), fun hn => ?_⟩
    refine h.attached hn hplace hcreated hmade ?_
    rw [← hpdus]
    exact BridgeCore.keys_of_admitMonitor hadmitted

/-- Before the first session there is nothing to own. -/
theorem of_unattached (h : b.Unattached) : Supplied pdus 0 b := by
  have hnone : ∀ id, b.runtime.sessionTransfers id = [] := by
    intro id
    unfold BridgeMonitorRuntime.sessionTransfers
    rw [h.monitorRuntimeSessions]
    rfl
  refine ⟨h.wf, .of_empty h.monitorSessions h.monitorRuntimeSessions h.nextMonitorSessionId,
    fun id r hr => ?_, fun id id' _ r hr => ?_, fun id session hsession => ?_⟩
  · rw [hnone] at hr
    exact absurd hr List.not_mem_nil
  · rw [hnone] at hr
    exact absurd hr List.not_mem_nil
  · rw [h.monitorRuntimeSessions] at hsession
    exact absurd hsession (by simp)

end Supplied

/-! ## Runs -/

/-- An operation on a connection issues nothing. -/
theorem Bridge.issued_step_onConnection (E : Env ε) (b : Bridge ε) {op : Op ε}
    (hop : op.onConnection = true) : issued (b.step E op).2 = [] := by
  cases op with
  | setConnectionActive id isActive => rfl
  | incrementConnectionEpoch id => rfl
  | addTransferPdu i transfer => rfl
  | _ => exact absurd hop Bool.false_ne_true

/-- **Step.** Whatever happens to a bridge, its sessions stay supplied. -/
theorem Supplied.step {n : Nat} {b : Bridge ε} (h : Supplied b.core.pdusOf n b) (op : Op ε) :
    (issued (b.step E op).2 = [] ∧ Supplied b.core.pdusOf n (b.step E op).1) ∨
      (issued (b.step E op).2 = [sessionIdOf n] ∧
        (n < 2 ^ 64 → Supplied b.core.pdusOf (n + 1) (b.step E op).1)) := by
  cases hop : op.onConnection with
  | true => exact Or.inl ⟨Bridge.issued_step_onConnection E b hop, h.onConnection hop⟩
  | false =>
    exact Bridge.numbered_step (fun n => Supplied.closed b.core.pdusOf n) h
      (fun stopAt spec => h.attach stopAt spec rfl) hop

/-- **Supplied sessions.** From the build on, and whatever happens to the bridge. -/
theorem supplied_run {cfg : BridgeConfig} {nodeName : String} {container : List String} {e : ε}
    {b₀ : Bridge ε} (hboot : Bridge.boot E cfg nodeName container e = some b₀)
    (ops : List (Op ε)) :
    Bridge.NumberedAfter (Supplied b₀.core.pdusOf) (run (Bridge.step E) b₀ ops).1
      (run (Bridge.step E) b₀ ops).2 := by
  have hkeep : ∀ (b : Bridge ε) (es : List Event) (op : Op ε),
      BridgeCore.SameSetup b₀.core b.core ∧ Bridge.NumberedAfter (Supplied b₀.core.pdusOf) b es →
      BridgeCore.SameSetup b₀.core (b.step E op).1.core ∧
        Bridge.NumberedAfter (Supplied b₀.core.pdusOf) (b.step E op).1
          (es ++ (b.step E op).2) := by
    rintro b es op ⟨hsetup, hafter⟩
    refine ⟨hsetup.trans (Bridge.sameSetup_step E b op), hafter.step fun n hb => ?_⟩
    have hpdus : b₀.core.pdusOf = b.core.pdusOf := by
      funext id
      unfold BridgeCore.pdusOf
      rw [hsetup.transferable]
    rw [hpdus] at hb ⊢
    exact hb.step op
  exact (run_history_of_forall hkeep
    ⟨.refl b₀.core, fun _ => ⟨.of_unattached (Bridge.unattached_of_boot hboot), rfl⟩⟩ ops).2

end HakoniwaBridge
