import HakoniwaBridge.ControlPlane

/-!
# Created sessions and their transfers

What the invariant of the control plane needs to know of the runtime below it.

* `Bridge.Accounted` — the sessions created so far: the ids are those of the counter, and what is
  still owned of the transfers of a session is in the table under its id.
* `Bridge.Issues` — a change that hands out session ids; `Accounted.outside` and
  `Accounted.handleRequest` say which operation is one, `attaches_of_attachMonitor` which attach
  hands out an id at all.
* The tables of the control plane: `recorded` and its four sections under the lock.
-/

namespace HakoniwaBridge

open Lib

variable {ε : Type} {E : Env ε}

namespace Bridge

/-! ## The transfers of the created sessions -/

/-- The sessions of a bridge after `n` session ids were issued, some of them to `created`: what is
still owned of the transfers of a created session is in the table under its id. -/
structure Accounted (n : Nat) (created : List CreatedSession) (b : Bridge ε) : Prop where
  wf : b.WellFormed
  numbered : b.runtime.Numbered n
  ids : ∀ x ∈ created, ∃ k < n, x.sessionId = sessionIdOf k
  made : ∀ x ∈ created, ∀ r ∈ x.transfers, r < b.host.nextTransfer
  owned : ∀ x ∈ created, ∀ r ∈ x.transfers, r ∈ b.core.ownedRefs →
    r ∈ b.runtime.sessionTransfers x.sessionId

namespace Accounted

variable {n : Nat} {created : List CreatedSession} {b b' : Bridge ε}

/-- A created session that is not listed any more has no transfer left. -/
theorem gone (h : Accounted n created b) {x : CreatedSession} (hx : x ∈ created)
    (hid : x.sessionId ∉ b.runtime.monitorSessions) : ∀ r ∈ x.transfers, r ∉ b.core.ownedRefs := by
  intro r hr hown
  have htable : x.sessionId ∉ b.runtime.monitorRuntimeSessions := fun hmem =>
    hid (h.numbered.tables x.sessionId hmem)
  have hin := h.owned x hx r hr hown
  unfold BridgeMonitorRuntime.sessionTransfers at hin
  rw [AList.lookup_eq_none.2 htable] at hin
  exact absurd hin List.not_mem_nil

/-- With the same tables, the account stays right as long as no old transfer comes back. -/
theorem congr (h : Accounted n created b) (hwf : b'.WellFormed)
    (htables : b.runtime.SameTables b'.runtime)
    (hnext : b.host.nextTransfer ≤ b'.host.nextTransfer)
    (howned : ∀ r < b.host.nextTransfer, r ∈ b'.core.ownedRefs → r ∈ b.core.ownedRefs) :
    Accounted n created b' := by
  have htransfers : ∀ id, b'.runtime.sessionTransfers id = b.runtime.sessionTransfers id := by
    intro id
    unfold BridgeMonitorRuntime.sessionTransfers
    rw [htables.monitorRuntimeSessions]
  refine ⟨hwf, h.numbered.congr htables, h.ids, ?_, ?_⟩
  · exact fun x hx r hr => lt_of_lt_of_le (h.made x hx r hr) hnext
  · intro x hx r hr hown
    rw [htransfers]
    exact h.owned x hx r hr (howned r (h.made x hx r hr) hown)

/-- Detaching a session takes its transfers out of the connections and out of the table. -/
theorem detach (h : Accounted n created b) (sessionId : String) :
    Accounted n created (b.detachMonitor sessionId).1 := by
  by_cases hmem : sessionId ∈ b.runtime.monitorSessions
  · have hwf := wellFormed_detachMonitor h.wf sessionId
    have hcore := detachMonitor_core h.wf hmem
    have hhost := detachMonitor_host b sessionId
    have hruntime : (b.detachMonitor sessionId).1.runtime = { b.runtime with
        monitorRuntimeSessions := b.runtime.monitorRuntimeSessions.erase sessionId
        monitorSessions := b.runtime.monitorSessions.erase sessionId } := by
      unfold detachMonitor
      rw [if_pos hmem]
    refine ⟨hwf, h.numbered.detachMonitor sessionId, h.ids, ?_, fun x hx r hr hown => ?_⟩
    · rw [hhost]
      exact h.made
    · rw [hcore, BridgeCore.ownedRefs_without, List.mem_filter] at hown
      have hin := h.owned x hx r hr hown.1
      rw [hruntime, BridgeMonitorRuntime.sessionTransfers_erase]
      split_ifs with heq
      · -- a transfer of the detached session is owned no more
        rw [heq] at hin
        have hkept : r ∉ b.runtime.sessionTransfers sessionId := by simpa using hown.2
        exact absurd hin hkept
      · exact hin
  · rw [detachMonitor_of_not_mem hmem]
    exact h

theorem shutdown (h : Accounted n created b) : Accounted n created (b.shutdown E) := by
  cases hinit : b.runtime.initialized with
  | false =>
    rw [shutdown_of_not_initialized E hinit]
    exact h
  | true =>
    have hcore := shutdown_core E h.wf hinit
    have hwf := (wellFormed_closed E).shutdown b h.wf
    have hhost := (shutdown_sameBook E b).nextTransfer
    refine ⟨hwf, h.numbered.shutdown, h.ids, ?_, fun x hx r hr hown => ?_⟩
    · rw [hhost]
      exact h.made
    · rw [hcore, BridgeCore.ownedRefs_without, List.mem_filter] at hown
      have hkept : r ∉ b.monitorTransfers := by simpa using hown.2
      exact absurd (mem_monitorTransfers.2 ⟨_, h.owned x hx r hr hown.1⟩) hkept

/-- The account survives what the steps of a bridge are made of. -/
theorem closed (n : Nat) (created : List CreatedSession) :
    ControlClosed E (Accounted n created) where
  host b h' hsame h := by
    refine h.congr ((wellFormed_closed E).host b h' hsame h.wf) (.refl b.runtime) ?_ ?_
    · exact hsame.nextTransfer.ge
    · exact fun _ _ hown => hown
  core b core hcore h := by
    apply h.congr ((wellFormed_closed E).core b core hcore h.wf) (.refl b.runtime) le_rfl
    intro r _ hown
    unfold BridgeCore.ownedRefs at hown ⊢
    rw [hcore] at hown
    exact hown
  runtime b rt htables h := h.congr h.wf htables le_rfl fun _ _ hown => hown
  attached b _ h := h.congr h.wf (.refl b.runtime) le_rfl fun _ _ hown => hown
  accept b ep key h :=
    h.congr ((wellFormed_closed E).accept b ep key h.wf) (.refl b.runtime) le_rfl
      fun _ _ hown => hown
  detach _ sessionId h := h.detach sessionId
  shutdown _ h := h.shutdown

/-- An operation on a connection keeps the account. -/
theorem onConnection (h : Accounted n created b) {op : Op ε} (hop : op.onConnection = true) :
    Accounted n created (b.step E op).1 := by
  have hwf := wellFormed_step E h.wf op
  by_cases hadd : ∃ i transfer, op = .addTransferPdu i transfer
  · obtain ⟨i, transfer, rfl⟩ := hadd
    have hcreated := transfer.created E b.host
    apply h.congr hwf (.refl b.runtime) hcreated.extends.nextTransfer
    intro r hr hown
    have hadd : ∀ c : BridgeConnection, ∀ r ∈ (c.addTransferPdu (transfer.create E b.host).1).refs,
        r ∈ c.refs ∨ r ∈ [(transfer.create E b.host).1.self] := by
      intro c r hr
      rw [BridgeConnection.refs_addTransferPdu] at hr
      exact List.mem_append.1 hr
    apply (BridgeCore.mem_ownedRefs_modify hadd hown).resolve_right
    intro hnew
    -- the new object is younger than every transfer of a session
    rw [List.mem_singleton, hcreated.self] at hnew
    exact absurd hr (hnew ▸ lt_irrefl _)
  · have hother : ∀ i transfer, op ≠ .addTransferPdu i transfer :=
      fun i transfer heq => hadd ⟨i, transfer, heq⟩
    obtain ⟨hhost, hruntime, -⟩ := step_onConnection E b hop hother
    refine h.congr hwf ?_ ?_ fun r _ hown => ownedRefs_step_onConnection hop hother hown
    · rw [hruntime]
      exact .refl b.runtime
    · rw [hhost]

/-- An account of more sessions is one of fewer. -/
theorem subset (h : Accounted n created b) {created' : List CreatedSession}
    (hsub : ∀ x ∈ created', x ∈ created) : Accounted n created' b :=
  ⟨h.wf, h.numbered, fun x hx => h.ids x (hsub x hx), fun x hx => h.made x (hsub x hx),
    fun x hx => h.owned x (hsub x hx)⟩

/-- The next session id is not that of a created session. -/
theorem fresh (h : Accounted n created b) (hn : n < 2 ^ 64) {x : CreatedSession}
    (hx : x ∈ created) : x.sessionId ≠ sessionIdOf n := by
  intro heq
  obtain ⟨k, hk, hid⟩ := h.ids x hx
  have hkn := sessionIdOf_inj (hk.trans hn) hn (hid.symm.trans heq)
  exact absurd hkn (Nat.ne_of_lt hk)

/-- An attach that succeeds gets the next session id, and the account goes on with its session. -/
theorem attached (h : Accounted n created b) (hn : n < 2 ^ 64) {spec : MonitorSessionSpec}
    {selection : ResolvedMonitorSelection} {ts : List ITransferPdu} {h' : Host ε} {i : Nat}
    {c : BridgeConnection} {src : EndpointRef} (hplace : MonitorPlace b.core spec i c src)
    (hcreated : CreatedAll b.host ts h') (endpoint : String) :
    Accounted (n + 1)
      (created ++ [⟨endpoint, sessionIdOf n,
        Plane.newTransfers b.core (b.core.modifyConnection i (·.takeOver ts))⟩])
      { b with
        host := h'
        core := b.core.modifyConnection i (·.takeOver ts)
        runtime := (b.runtime.insertSession (sessionInfo spec selection)
          (ts.map ITransferPdu.self) spec.destinationEndpoint).1 } := by
  obtain ⟨hlisted, htable⟩ := h.numbered.fresh hn
  obtain ⟨-, htransfers, -⟩ := BridgeMonitorRuntime.insertSession_new
    (sessionInfo spec selection) (ts.map ITransferPdu.self) spec.destinationEndpoint
    (sessionIdOf_eq h.numbered.counter) hlisted htable
  have hrefs : ∀ r ∈ (b.core.modifyConnection i (·.takeOver ts)).ownedRefs,
      r ∈ b.core.ownedRefs ∨ r ∈ ts.map ITransferPdu.self := by
    refine fun r hr => BridgeCore.mem_ownedRefs_modify (fun c r hr => ?_) hr
    rw [BridgeConnection.refs_takeOver] at hr
    exact List.mem_append.1 hr
  have hnew : ∀ r ∈ Plane.newTransfers b.core (b.core.modifyConnection i (·.takeOver ts)),
      r ∈ ts.map ITransferPdu.self := by
    intro r hr
    obtain ⟨hin, hout⟩ := List.mem_filter.1 hr
    exact (hrefs r hin).resolve_left (by simpa using hout)
  have hlt : ∀ r ∈ ts.map ITransferPdu.self, b.host.nextTransfer ≤ r ∧ r < h'.nextTransfer := by
    intro r hr
    obtain ⟨t, ht, rfl⟩ := List.mem_map.1 hr
    exact ⟨(hcreated.bounds t ht).1, (hcreated.bounds t ht).2.1⟩
  refine ⟨h.wf.takeOver hplace.lt hcreated, h.numbered.insertSession hn _ _ _,
    fun x hx => ?_, fun x hx r hr => ?_, fun x hx r hr hown => ?_⟩
  · rcases List.mem_append.1 hx with hx | hx
    · obtain ⟨k, hk, heq⟩ := h.ids x hx
      exact ⟨k, Nat.lt_succ_of_lt hk, heq⟩
    · rw [List.mem_singleton.1 hx]
      exact ⟨n, Nat.lt_succ_self n, rfl⟩
  · rcases List.mem_append.1 hx with hx | hx
    · exact (h.made x hx r hr).trans_le hcreated.extends.nextTransfer
    · rw [List.mem_singleton.1 hx] at hr
      exact (hlt r (hnew r hr)).2
  · rw [htransfers]
    rcases List.mem_append.1 hx with hx | hx
    · rw [if_neg (h.fresh hn hx)]
      refine h.owned x hx r hr ((hrefs r hown).resolve_right fun hin => ?_)
      exact absurd (h.made x hx r hr) (Nat.not_lt.2 (hlt r hin).1)
    · rw [List.mem_singleton.1 hx] at hr ⊢
      rw [if_pos rfl]
      exact hnew r hr

end Accounted

/-! ## What issues session ids -/

/-- The tables of the control plane are the same, and a listed session was listed before or has
one of the ids `new`. -/
structure SamePlane (new : List String) (rt rt' : BridgeMonitorRuntime) : Prop where
  ondemandSessions : rt'.ondemandSessions = rt.ondemandSessions
  disconnected : rt'.disconnectedControlEndpoints = rt.disconnectedControlEndpoints
  endpointSessionIds : rt'.endpointSessionIds = rt.endpointSessionIds
  listed : ∀ id ∈ rt'.monitorSessions, id ∈ new ∨ id ∈ rt.monitorSessions
  inUse : rt.initialized = true → rt.ondemandMux = true →
    rt'.initialized = true ∧ rt'.ondemandMux = true

theorem SamePlane.refl (rt : BridgeMonitorRuntime) : SamePlane [] rt rt :=
  ⟨rfl, rfl, rfl, fun _ hid => Or.inr hid, fun hinit hmux => ⟨hinit, hmux⟩⟩

/-- From `b` to `b'` the ids `ids` were issued, after `n` others. -/
structure Issues (n : Nat) (created : List CreatedSession) (ids : List String) (b b' : Bridge ε) :
    Prop where
  samePlane : SamePlane ids b.runtime b'.runtime
  attached : b'.runtimeAttached = b.runtimeAttached
  fresh : ∀ x ∈ created, x.sessionId ∉ ids
  accounted : ∀ endpoint, Accounted (n + ids.length)
    (created ++ ids.map fun id => ⟨endpoint, id, Plane.newTransfers b.core b'.core⟩) b'

/-- The attach is admitted and the running flag is not found cleared at one of its transfers. -/
def Attaches (E : Env ε) (b : Bridge ε) (stopAt : Option Nat) (spec : MonitorSessionSpec) : Prop :=
  ∃ selection, (loadRunning stopAt 0 b.core).admitMonitor E spec = some selection ∧
    ∀ j, stopAt = some j → (monitorKeys spec selection).length < j

/-- The loop over the keys runs to its end only past the load that finds the flag cleared. -/
theorem stop_of_createMonitorTransfers {stopAt : Option Nat} {spec : MonitorSessionSpec}
    {keys : List BridgePduKey} {k : Nat} {s : BridgeCore × Host ε}
    (h : (createMonitorTransfers E stopAt spec k keys s).2.2 = true) {j : Nat}
    (hstop : stopAt = some j) (hle : k ≤ j) : k + keys.length ≤ j := by
  induction keys generalizing k s with
  | nil => exact hle
  | cons key keys ih =>
    unfold createMonitorTransfers at h
    by_cases hk : k = j
    · have hload : loadRunning stopAt k s.1 = { s.1 with isRunning := false } := by
        rw [loadRunning, hk, if_pos hstop]
      rw [hload, createMonitorTransfer_stopped E spec.connectionId key _ _ s.2 rfl] at h
      exact absurd h Bool.false_ne_true
    · split at h
      · exact absurd h Bool.false_ne_true
      · have hrest := ih h (Nat.lt_of_le_of_ne hle hk)
        rw [List.length_cons]
        omega

theorem attaches_of_attachMonitor {stopAt : Option Nat} {spec : MonitorSessionSpec} {b : Bridge ε}
    (h : (b.attachMonitor E stopAt spec).2 ≠ none) : b.Attaches E stopAt spec := by
  unfold attachMonitor at h
  dsimp only at h
  split at h
  · exact absurd rfl h
  · next selection hadmitted =>
    refine ⟨selection, hadmitted, fun j hstop => ?_⟩
    have hpos : 1 ≤ j := by
      apply Nat.one_le_iff_ne_zero.2
      intro hzero
      have hrun := (place_of_admitMonitor hadmitted).1
      rw [loadRunning, hstop, hzero, if_pos rfl] at hrun
      exact absurd hrun Bool.false_ne_true
    split at h
    · exact absurd rfl h
    · next heq =>
      have hdone := @stop_of_createMonitorTransfers _ E stopAt spec (monitorKeys spec selection) 1
        (loadRunning stopAt 0 b.core, b.host) (by rw [heq]) j hstop hpos
      omega

namespace Accounted

variable {n : Nat} {created : List CreatedSession} {b b' : Bridge ε}

/-- A change that issues nothing. -/
theorem issuesNothing (h : Accounted n created b') (hplane : SamePlane [] b.runtime b'.runtime)
    (hattached : b'.runtimeAttached = b.runtimeAttached) : Issues n created [] b b' := by
  refine ⟨hplane, hattached, fun _ _ => List.not_mem_nil, fun endpoint => ?_⟩
  rw [List.map_nil, List.append_nil]
  exact h

/-- An attach issues its session id. -/
theorem attach (h : Accounted n created b) {stopAt : Option Nat} {spec : MonitorSessionSpec}
    (hn : b.Attaches E stopAt spec → n < 2 ^ 64) :
    Issues n created (b.attachMonitor E stopAt spec).2.toList b
      (b.attachMonitor E stopAt spec).1 := by
  have hcount := fun hsome => hn (attaches_of_attachMonitor hsome)
  have hwf := wellFormed_attachMonitor E stopAt spec h.wf
  have hout := attachMonitor_outcome E stopAt spec h.wf
  revert hout hcount hwf
  generalize b.attachMonitor E stopAt spec = r
  intro hcount hwf hout
  cases hout with
  | rejected _ =>
    refine issuesNothing (h.congr hwf (.refl b.runtime) le_rfl fun r _ hown => ?_)
      (SamePlane.refl b.runtime) rfl
    rw [BridgeCore.ownedRefs, loadRunning] at hown
    split_ifs at hown <;> exact hown
  | rolledBack _ _ hcreated _ _ _ _ =>
    exact issuesNothing (h.congr hwf (.refl b.runtime) hcreated.extends.nextTransfer
      fun r _ hown => hown) (SamePlane.refl b.runtime) rfl
  | @attached selection ts h' i c src _ hplace hcreated _ _ =>
    have hlt := hcount (by simp)
    have hid : (b.runtime.insertSession (sessionInfo spec selection)
        (ts.map ITransferPdu.self) spec.destinationEndpoint).2 = sessionIdOf n :=
      sessionIdOf_eq h.numbered.counter
    obtain ⟨hlisted, htable⟩ := h.numbered.fresh hlt
    rw [Option.toList_some, hid]
    refine ⟨⟨rfl, rfl, rfl, fun id hmem => ?_, fun hinit hmux => ⟨hinit, hmux⟩⟩, rfl,
      fun x hx hmem => h.fresh hlt hx (List.mem_singleton.1 hmem), fun endpoint => ?_⟩
    · obtain ⟨hsessions, -, -⟩ := BridgeMonitorRuntime.insertSession_new
        (sessionInfo spec selection) (ts.map ITransferPdu.self) spec.destinationEndpoint
        (sessionIdOf_eq h.numbered.counter) hlisted htable
      rw [hsessions, AList.mem_insert] at hmem
      exact hmem.imp_left fun heq => List.mem_singleton.2 heq
    · exact h.attached hlt hplace hcreated endpoint

/-- The tables of the control plane after a detach. -/
theorem samePlane_detachMonitor (b : Bridge ε) (sessionId : String) :
    SamePlane [] b.runtime (b.detachMonitor sessionId).1.runtime := by
  unfold detachMonitor
  split_ifs
  · exact ⟨rfl, rfl, rfl, fun id hid => Or.inr (AList.mem_erase.1 hid).2,
      fun hinit hmux => ⟨hinit, hmux⟩⟩
  · exact SamePlane.refl b.runtime

theorem runtimeAttached_detachMonitor (b : Bridge ε) (sessionId : String) :
    (b.detachMonitor sessionId).1.runtimeAttached = b.runtimeAttached := by
  unfold detachMonitor
  split_ifs <;> rfl

/-- A request issues the ids that its answer hands out. -/
theorem handleRequest (h : Accounted n created b) {authorizer : Option Authorizer}
    {stopAt : Option Nat} {req : Json} {ep : Option EndpointRef}
    (hn : ∀ spec, requestedSpec E authorizer req ep = some spec → b.Attaches E stopAt spec →
      n < 2 ^ 64) :
    Issues n created (issued (issuedIn (b.handleRequest E authorizer stopAt req ep).2)) b
      (b.handleRequest E authorizer stopAt req ep).1 := by
  rcases handleRequest_cases E authorizer stopAt req ep b with
    ⟨⟨e, -, heq⟩, hnone⟩ | ⟨id, -, heq, hnone⟩ | ⟨spec, hspec, heq, hsome⟩
  · rw [heq, hnone]
    exact ((@closed _ E n created).env h e).issuesNothing (SamePlane.refl b.runtime) rfl
  · rw [heq, hnone]
    exact (h.detach id).issuesNothing (samePlane_detachMonitor b id)
      (runtimeAttached_detachMonitor b id)
  · rw [heq, hsome, issued_issuedEvents]
    exact h.attach (hn spec hspec)

/-- Without a runtime a stop is about the running flag only. -/
theorem stop_of_notAttached (hun : b.runtimeAttached = false) :
    b.stop E = { b with core := { b.core with isRunning := false } } := by
  unfold Bridge.stop
  rw [if_neg (by simp [hun])]

/-- Without a runtime a trigger leaves the control plane alone. -/
theorem cyclicTrigger_of_notAttached (hun : b.runtimeAttached = false) (accepted : List String) :
    issued (b.cyclicTrigger E accepted).2 = [] ∧
      (b.cyclicTrigger E accepted).1.runtime = b.runtime ∧
      (b.cyclicTrigger E accepted).1.runtimeAttached = b.runtimeAttached := by
  unfold Bridge.cyclicTrigger
  split_ifs with hstopped hattached
  · exact ⟨rfl, rfl, rfl⟩
  · rw [hun] at hattached
    exact absurd hattached Bool.false_ne_true
  · exact ⟨issued_map_send _, rfl, rfl⟩

/-- The tables of the control plane after an initialization. -/
theorem samePlane_initializeRuntime (options : BridgeMonitorRuntimeOptions)
    (openErr startErr : HakoPduErrorType) (rt : BridgeMonitorRuntime) :
    SamePlane [] rt (rt.initializeRuntime options openErr startErr).1 := by
  unfold BridgeMonitorRuntime.initializeRuntime
  by_cases hinit : rt.initialized = true
  · rw [if_pos hinit]
    exact SamePlane.refl rt
  · rw [if_neg hinit]
    dsimp only
    split_ifs <;> exact ⟨rfl, rfl, rfl, fun _ hid => Or.inr hid, fun hyes => absurd hyes hinit⟩

/-- A session operation issues the ids that it says, unless it is a shutdown. -/
theorem session (h : Accounted n created b) {op : SessionOp}
    (hop : (Op.session op : Op ε).besidePlane = true)
    (hn : ∀ stopAt spec, (Op.session op : Op ε).attaches E = some (stopAt, spec) →
      b.Attaches E stopAt spec → n < 2 ^ 64) :
    Issues n created (issued (b.step E (.session op)).2) b (b.step E (.session op)).1 := by
  cases op with
  | attachMonitor stopAt spec =>
    show Issues n created (issued (issuedEvents (b.attachMonitor E stopAt spec).2)) b
      (b.attachMonitor E stopAt spec).1
    rw [issued_issuedEvents]
    exact h.attach (hn stopAt spec rfl)
  | detachMonitor id =>
    exact (h.detach id).issuesNothing (samePlane_detachMonitor b id)
      (runtimeAttached_detachMonitor b id)
  | handleRequest authorizer stopAt req ep =>
    have hreq := @handleRequest _ E _ _ _ h authorizer stopAt req ep fun spec hspec =>
      hn stopAt spec (by rw [Op.attaches, hspec]; rfl)
    show Issues n created (issued (_ ++ _)) b (b.handleRequest E authorizer stopAt req ep).1
    rw [issued_append]
    exact (List.append_nil _).symm ▸ hreq
  | shutdown => exact absurd hop Bool.false_ne_true

/-- An operation beside the control plane issues the ids that it says. -/
theorem outside (h : Accounted n created b) (hun : b.runtimeAttached = false) {op : Op ε}
    (hop : op.besidePlane = true)
    (hn : ∀ stopAt spec, op.attaches E = some (stopAt, spec) → b.Attaches E stopAt spec →
      n < 2 ^ 64) :
    Issues n created (issued (b.step E op).2) b (b.step E op).1 := by
  have hkeep : op.attaches E = none → Accounted n created (b.step E op).1 := by
    intro hnone
    refine (closed n created).step h (fun stopAt spec hsome => ?_) h.onConnection
    rw [hnone] at hsome
    exact absurd hsome (by simp)
  -- the operations that leave the runtime alone
  have hquiet : op.attaches E = none → issued (b.step E op).2 = [] →
      (b.step E op).1.runtime = b.runtime → (b.step E op).1.runtimeAttached = b.runtimeAttached →
      Issues n created (issued (b.step E op).2) b (b.step E op).1 := by
    intro hnone hissued hruntime hattached
    rw [hissued]
    refine (hkeep hnone).issuesNothing ?_ hattached
    rw [hruntime]
    exact SamePlane.refl b.runtime
  cases op with
  | stop =>
    have hstop : (b.step E .stop).1 = { b with core := { b.core with isRunning := false } } :=
      stop_of_notAttached hun
    exact hquiet rfl rfl (by rw [hstop]) (by rw [hstop])
  | reception endpointId key data =>
    exact hquiet rfl (issued_fireCallbacks E b.core key _ _) rfl rfl
  | cyclicTrigger accepted =>
    obtain ⟨hissued, hruntime, hattached⟩ := cyclicTrigger_of_notAttached (E := E) hun accepted
    exact hquiet rfl hissued hruntime hattached
  | initializeRuntime options openErr startErr =>
    exact (hkeep rfl).issuesNothing
      (samePlane_initializeRuntime options openErr startErr b.runtime) rfl
  | detachMonitorRuntime =>
    have hsame : (b.step E .detachMonitorRuntime).1 = b := by
      show b.detachMonitorRuntime E = b
      unfold Bridge.detachMonitorRuntime
      rw [if_neg (by simp [hun])]
    exact hquiet rfl rfl (by rw [hsame]) (by rw [hsame])
  | session op => exact h.session hop hn
  | attachMonitorRuntime => exact absurd hop Bool.false_ne_true
  | controlMessage stopAt name message => exact absurd hop Bool.false_ne_true
  | start => exact hquiet rfl rfl rfl rfl
  | environment f => exact hquiet rfl rfl rfl rfl
  | setConnectionActive id isActive => exact hquiet rfl rfl rfl rfl
  | incrementConnectionEpoch id => exact hquiet rfl rfl rfl rfl
  | addTransferPdu i transfer => exact hquiet rfl rfl rfl rfl

end Accounted

/-- What the callback does with an answer: it records an issued id, or strikes off the id of an
unsubscription, or nothing. -/
theorem recordAnswer_cases (name : String) (req res : Json) (b : Bridge ε) :
    (∃ id, issued (issuedIn res) = [id] ∧
      b.recordAnswer name req res = { b with runtime := b.runtime.recordSession name id }) ∨
    (issued (issuedIn res) = [] ∧
      ((∃ id, (CallbackPc.answered req res).forgetting = some id ∧
          b.recordAnswer name req res = { b with runtime := b.runtime.forgetSession name id }) ∨
        b.recordAnswer name req res = b)) := by
  by_cases hsubscribed : res.getString? "type" = some "subscribed"
  · cases hid : res.getString? "session_id" with
    | none =>
      refine Or.inr ⟨?_, Or.inr ?_⟩
      · simp only [issuedIn, hsubscribed, hid]
        rfl
      · simp only [recordAnswer, hsubscribed, hid]
    | some id =>
      refine Or.inl ⟨id, ?_, ?_⟩
      · simp only [issuedIn, hsubscribed, hid]
        rfl
      · simp only [recordAnswer, hsubscribed, hid]
  · have hnone : issued (issuedIn res) = [] := by
      unfold issuedIn
      split
      · next htype _ => exact absurd htype hsubscribed
      · rfl
    refine Or.inr ⟨hnone, ?_⟩
    unfold recordAnswer
    split
    · next htype => exact absurd htype hsubscribed
    · next hok =>
      split
      · next id hreq hid =>
        refine Or.inl ⟨id, ?_, rfl⟩
        show (if _ then _ else _) = _
        rw [if_pos ⟨hok, hreq⟩, hid]
      · exact Or.inr rfl
    · exact Or.inr rfl

end Bridge

/-! ## The tables of the control plane -/

namespace BridgeMonitorRuntime

/-- The session ids recorded for an endpoint. -/
def recorded (rt : BridgeMonitorRuntime) (name : String) : List String :=
  (rt.endpointSessionIds.lookup name).getD []

theorem recorded_recordSession (rt : BridgeMonitorRuntime) (name sessionId other : String) :
    (rt.recordSession name sessionId).recorded other =
      if other = name then rt.recorded name ++ [sessionId] else rt.recorded other := by
  unfold recorded recordSession
  dsimp only
  split_ifs with heq
  · rw [heq, AList.lookup_insert]
    rfl
  · rw [AList.lookup_insert_ne heq]

theorem recorded_forgetSession (rt : BridgeMonitorRuntime) (name sessionId other : String) :
    (rt.forgetSession name sessionId).recorded other =
      if other = name then (rt.recorded name).filter fun id => !decide (id = sessionId)
      else rt.recorded other := by
  unfold forgetSession
  cases hids : rt.endpointSessionIds.lookup name with
  | none =>
    have hnil : rt.recorded name = [] := by
      rw [recorded, hids]
      rfl
    dsimp only
    split_ifs with heq
    · rw [heq, hnil]
      rfl
    · rfl
  | some ids =>
    have hrecorded : rt.recorded name = ids := by
      rw [recorded, hids]
      rfl
    dsimp only
    unfold recorded
    split_ifs with heq
    · rw [heq, AList.lookup_insert, ← hrecorded]
      rfl
    · rw [AList.lookup_insert_ne heq]

theorem takeSessionIds_snd (rt : BridgeMonitorRuntime) (name : String) :
    (rt.takeSessionIds name).2 = rt.recorded name := by
  unfold takeSessionIds recorded
  cases rt.endpointSessionIds.lookup name <;> rfl

theorem recorded_takeSessionIds (rt : BridgeMonitorRuntime) (name other : String) :
    (rt.takeSessionIds name).1.recorded other =
      if other = name then [] else rt.recorded other := by
  unfold takeSessionIds
  cases hids : rt.endpointSessionIds.lookup name with
  | none =>
    dsimp only
    split_ifs with heq
    · rw [heq, recorded, hids]
      rfl
    · rfl
  | some ids =>
    dsimp only
    unfold recorded
    split_ifs with heq
    · rw [heq, AList.lookup_erase]
      rfl
    · rw [AList.lookup_erase_ne heq]

/-- Taking the ids of an endpoint changes nothing but the recorded ids. -/
theorem takeSessionIds_fst (rt : BridgeMonitorRuntime) (name : String) :
    ∃ ids, (rt.takeSessionIds name).1 = { rt with endpointSessionIds := ids } := by
  unfold takeSessionIds
  split
  · exact ⟨rt.endpointSessionIds, rfl⟩
  · exact ⟨_, rfl⟩

/-- Marking adds the endpoints it yields; none of them was marked before, and afterwards every
endpoint that does not run is. -/
theorem markDisconnected_spec (running : String → Bool) (names : List String)
    (rt : BridgeMonitorRuntime) :
    (markDisconnected running names rt).1 =
        { rt with disconnectedControlEndpoints :=
            rt.disconnectedControlEndpoints ++ (markDisconnected running names rt).2 } ∧
      (∀ name ∈ (markDisconnected running names rt).2, name ∉ rt.disconnectedControlEndpoints) ∧
      ∀ name ∈ names, running name = false →
        name ∈ rt.disconnectedControlEndpoints ++ (markDisconnected running names rt).2 := by
  induction names generalizing rt with
  | nil => exact ⟨by simp [markDisconnected], by simp [markDisconnected], by simp⟩
  | cons first names ih =>
    unfold markDisconnected
    split_ifs with hskip
    · obtain ⟨hfst, hnew, hall⟩ := ih rt
      refine ⟨hfst, hnew, fun name hname hstopped => ?_⟩
      rcases List.mem_cons.1 hname with rfl | hname
      · refine List.mem_append_left _ (hskip.resolve_right ?_)
        rw [hstopped]
        exact Bool.false_ne_true
      · exact hall name hname hstopped
    · obtain ⟨hfst, hnew, hall⟩ := ih
        { rt with disconnectedControlEndpoints := rt.disconnectedControlEndpoints ++ [first] }
      rw [not_or] at hskip
      refine ⟨?_, fun name hname => ?_, fun name hname hstopped => ?_⟩
      · rw [hfst]
        simp
      · rcases List.mem_cons.1 hname with rfl | hname
        · exact hskip.1
        · exact fun hold => hnew name hname (List.mem_append_left _ hold)
      · rcases List.mem_cons.1 hname with rfl | hname
        · simp
        · have hmem := hall name hname hstopped
          rw [List.append_assoc] at hmem
          exact hmem

end BridgeMonitorRuntime

end HakoniwaBridge
