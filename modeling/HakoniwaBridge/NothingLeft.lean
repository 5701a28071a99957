import HakoniwaBridge.AttachSteps

/-!
# What a stop leaves behind

Once `stop` has returned and no `attach_monitor` is in progress, both session tables should be
empty and the connections should own configured transfers only.

* `Bridge.Listed H` — an owned transfer is listed under a session, or it is one of `H`.
* `Halt.Inv` — the invariant: apart from the configured ones, a transfer is listed, or it is held
  by a thread that will list it or take it back. After the shutdown nothing is listed, and nobody
  is `Committed`: past the last check of the running flag with the listing still to come.
* `nothingLeft_run` — the property holds after every run in which the shutdown finds nobody
  committed.

A shutdown between the last check and the listing leaves the session behind
(`session_after_stop`).
-/

namespace HakoniwaBridge

open Lib

variable {ε : Type} {E : Env ε}

namespace Bridge

/-! ## Listed transfers -/

/-- Every owned transfer is listed or one of `H`, and every session with transfers is listed. -/
structure Listed (H : Nat → Prop) (b : Bridge ε) : Prop where
  wf : b.WellFormed
  owned : ∀ r ∈ b.core.ownedRefs, H r ∨ r ∈ b.monitorTransfers
  tables : ∀ id ∈ b.runtime.monitorRuntimeSessions, id ∈ b.runtime.monitorSessions

namespace Listed

variable {H : Nat → Prop} {b b' : Bridge ε}

/-- With the same tables, what is owned counts. -/
theorem congr (h : Listed H b) (hwf : b'.WellFormed) (htables : b.runtime.SameTables b'.runtime)
    (howned : ∀ r ∈ b'.core.ownedRefs, r ∈ b.core.ownedRefs) : Listed H b' := by
  have hlisted : b'.monitorTransfers = b.monitorTransfers := by
    unfold monitorTransfers
    rw [htables.monitorRuntimeSessions]
  refine ⟨hwf, fun r hr => ?_, ?_⟩
  · rw [hlisted]
    exact h.owned r (howned r hr)
  · rw [htables.monitorRuntimeSessions, htables.monitorSessions]
    exact h.tables

/-- Other transfers may be left out of the account. -/
theorem imp (h : Listed H b) {H' : Nat → Prop} (himp : ∀ r, H r → H' r) : Listed H' b :=
  ⟨h.wf, fun r hr => (h.owned r hr).imp_left (himp r), h.tables⟩

theorem detach (h : Listed H b) (sessionId : String) : Listed H (b.detachMonitor sessionId).1 := by
  by_cases hmem : sessionId ∈ b.runtime.monitorSessions
  · refine ⟨wellFormed_detachMonitor h.wf sessionId, fun r hr => ?_, fun id hid => ?_⟩
    · rw [detachMonitor_core h.wf hmem, BridgeCore.ownedRefs_without, List.mem_filter] at hr
      have hkept : r ∉ b.runtime.sessionTransfers sessionId := by simpa using hr.2
      apply (h.owned r hr.1).imp_right
      intro hlisted
      obtain ⟨id, hid⟩ := mem_monitorTransfers.1 hlisted
      refine mem_monitorTransfers.2 ⟨id, ?_⟩
      unfold detachMonitor
      rw [if_pos hmem]
      dsimp only
      rw [BridgeMonitorRuntime.sessionTransfers_erase]
      split_ifs with heq
      · rw [heq] at hid
        exact absurd hid hkept
      · exact hid
    · unfold detachMonitor at hid ⊢
      rw [if_pos hmem] at hid ⊢
      dsimp only at hid ⊢
      rw [AList.mem_erase] at hid ⊢
      exact ⟨hid.1, h.tables id hid.2⟩
  · rw [detachMonitor_of_not_mem hmem]
    exact h

theorem shutdown (h : Listed H b) : Listed H (b.shutdown E) := by
  cases hinit : b.runtime.initialized with
  | false =>
    rw [shutdown_of_not_initialized E hinit]
    exact h
  | true =>
    refine ⟨(wellFormed_closed E).shutdown b h.wf, fun r hr => ?_, fun id hid => ?_⟩
    · rw [shutdown_core E h.wf hinit, BridgeCore.ownedRefs_without, List.mem_filter] at hr
      have hkept : r ∉ b.monitorTransfers := by simpa using hr.2
      exact .inl ((h.owned r hr.1).resolve_right hkept)
    · unfold Bridge.shutdown at hid
      rw [if_neg (by simp [hinit])] at hid
      exact absurd hid (AList.notMem_empty id)

theorem closed (E : Env ε) (H : Nat → Prop) : ControlClosed E (Listed H) where
  host b h' hsame h :=
    h.congr ((wellFormed_closed E).host b h' hsame h.wf) (.refl b.runtime) fun _ hr => hr
  core b core hcore h := by
    apply h.congr ((wellFormed_closed E).core b core hcore h.wf) (.refl b.runtime)
    intro r hr
    unfold BridgeCore.ownedRefs at hr ⊢
    rw [hcore] at hr
    exact hr
  runtime b rt htables h := h.congr h.wf htables fun _ hr => hr
  attached b _ h := h.congr h.wf (.refl b.runtime) fun _ hr => hr
  accept b ep key h :=
    h.congr ((wellFormed_closed E).accept b ep key h.wf) (.refl b.runtime) fun _ hr => hr
  detach _ sessionId h := h.detach sessionId
  shutdown _ h := h.shutdown

/-- A step that attaches nothing and adds no transfer by hand. -/
theorem step (h : Listed H b) {op : Op ε} (hattach : op.attaches E = none)
    (hadd : ∀ i transfer, op ≠ .addTransferPdu i transfer) : Listed H (b.step E op).1 := by
  refine (closed E H).step h (fun stopAt spec heq => ?_) fun hconnection => ?_
  · rw [hattach] at heq
    exact absurd heq (by simp)
  · refine h.congr (wellFormed_step E h.wf op) ?_ fun r hr =>
      ownedRefs_step_onConnection hconnection hadd hr
    rw [(step_onConnection E b hconnection hadd).2.1]
    exact .refl b.runtime

end Listed

/-- Both session tables are empty. -/
def NoSessions (b : Bridge ε) : Prop :=
  b.runtime.monitorSessions = ∅ ∧ b.runtime.monitorRuntimeSessions = ∅

namespace NoSessions

variable {b : Bridge ε}

theorem shutdown (h : NoSessions b) : NoSessions (b.shutdown E) := by
  unfold Bridge.shutdown
  split_ifs
  · exact h
  · exact ⟨rfl, rfl⟩

theorem closed (E : Env ε) : ControlClosed E (NoSessions (ε := ε)) where
  host _ _ _ h := h
  core _ _ _ h := h
  runtime _ _ htables h :=
    ⟨htables.monitorSessions.trans h.1, htables.monitorRuntimeSessions.trans h.2⟩
  attached _ _ h := h
  accept _ _ _ h := h
  detach b sessionId h := by
    rw [detachMonitor_of_not_mem]
    · exact h
    · rw [h.1]
      exact AList.notMem_empty sessionId
  shutdown _ h := h.shutdown

/-- A step that attaches nothing lists nothing. -/
theorem step (h : NoSessions b) {op : Op ε} (hattach : op.attaches E = none) :
    NoSessions (b.step E op).1 := by
  refine (closed E).step h (fun stopAt spec heq => ?_) fun hconnection => ?_
  · rw [hattach] at heq
    exact absurd heq (by simp)
  · unfold NoSessions
    rw [runtime_step_onConnection E b hconnection]
    exact h

/-- A shutdown of an initialized runtime empties the tables. -/
theorem of_shutdown (hinit : b.runtime.initialized = true) : NoSessions (b.shutdown E) := by
  unfold Bridge.shutdown
  rw [if_neg (by simp [hinit])]
  exact ⟨rfl, rfl⟩

end NoSessions

end Bridge

/-! ## The last check of the running flag -/

/-- Past the last check of the running flag, with the listing still to come: all transfers are
made, or the last one is being made, or there is none to make. -/
def AttachPc.Committed (E : Env ε) (core : BridgeCore) : AttachPc → Prop
  | .resolving spec =>
    spec.destinationEndpoint = none ∧
      ∃ selection, core.resolveMonitorSelection E spec.connectionId spec.filters = .ok selection
  | .creating _ _ keys _ => keys = []
  | .making _ _ _ keys _ => keys = []
  | _ => False

instance (core : BridgeCore) (pc : AttachPc) : Decidable (pc.Committed E core) :=
  match pc with
  | .resolving spec =>
    decidable_of_iff (spec.destinationEndpoint = none ∧
      (core.resolveMonitorSelection E spec.connectionId spec.filters).toOption.isSome = true) (by
        simp only [AttachPc.Committed]
        cases core.resolveMonitorSelection E spec.connectionId spec.filters <;>
          simp [Except.toOption])
  | .creating _ _ keys _ => inferInstanceAs (Decidable (keys = []))
  | .making _ _ _ keys _ => inferInstanceAs (Decidable (keys = []))
  | .idle => inferInstanceAs (Decidable False)
  | .rollingBack _ => inferInstanceAs (Decidable False)

theorem AttachPc.not_committed_of_idle {core : BridgeCore} {pc : AttachPc} (h : pc = .idle) :
    ¬ pc.Committed E core := by
  rw [h]
  exact id

theorem AttachPc.committed_congr {core core' : BridgeCore} (h : BridgeCore.SameSetup core core')
    (pc : AttachPc) : pc.Committed E core' ↔ pc.Committed E core := by
  cases pc with
  | resolving spec =>
    simp only [AttachPc.Committed]
    rw [h.resolveMonitorSelection]
  | _ => exact Iff.rfl

namespace Halt

/-- What is looked at: a bridge to which nothing else attaches and adds by hand, which is not
started again, and whose runtime is attached and initialized when it is shut down. -/
def Scenario (E : Env ε) (s : Halt ε) : HaltOp ε → Prop
  | .bridge op =>
    op.attaches E = none ∧ (∀ i transfer, op ≠ .addTransferPdu i transfer) ∧
      (op = .start → s.stop = .before)
  | .stopTurn =>
    s.stop = .cleared → s.bridge.runtimeAttached = true ∧ s.bridge.runtime.initialized = true
  | _ => True

/-- The condition on a step: the shutdown finds nobody committed, and a session is listed under an
id that is not in use. -/
def Settled (E : Env ε) (s : Halt ε) : HaltOp ε → Prop
  | .stopTurn => s.stop = .cleared → ∀ i, ¬ (s.attaches i).Committed E s.bridge.core
  | .attachTurn i => ∀ spec selection created, s.attaches i = .creating spec selection [] created →
      s.bridge.runtime.nextSessionId ∉ s.bridge.runtime.monitorSessions
  | _ => True

/-- Once `stop` has returned and no `attach_monitor` is in progress, the tables are empty and the
connections own what the build gave them only. -/
def NothingLeft (b₀ : Bridge ε) (s : Halt ε) : Prop :=
  s.stop = .stopped → (∀ i, s.attaches i = .idle) →
    s.bridge.NoSessions ∧ ∀ r ∈ s.bridge.core.ownedRefs, r ∈ b₀.core.ownedRefs

/-- The transfers that were built or that a thread holds. -/
def Known (b₀ : Bridge ε) (s : Halt ε) (r : Nat) : Prop :=
  r ∈ b₀.core.ownedRefs ∨ ∃ i, r ∈ (s.attaches i).created

/-- The invariant. -/
structure Inv (E : Env ε) (b₀ : Bridge ε) (s : Halt ε) : Prop where
  listed : s.bridge.Listed (s.Known b₀)
  cleared : s.stop ≠ .before → s.bridge.core.isRunning = false
  stopped : s.stop = .stopped →
    s.bridge.NoSessions ∧ ∀ i, ¬ (s.attaches i).Committed E s.bridge.core

variable {b₀ b : Bridge ε} {s : Halt ε} {i : Nat} {pc : AttachPc}

/-- What was known stays known, but for what the thread gave away. -/
theorem Known.placed {r : Nat} (h : s.Known b₀ r)
    (hpc : r ∈ (s.attaches i).created → r ∈ pc.created) : (s.placed i pc b).Known b₀ r := by
  apply h.imp_right
  rintro ⟨j, hj⟩
  by_cases hji : j = i
  · subst hji
    refine ⟨j, ?_⟩
    rw [attaches_placed]
    exact hpc hj
  · refine ⟨j, ?_⟩
    have hsame : (s.placed i pc b).attaches j = s.attaches j := Function.update_of_ne hji _ _
    rw [hsame]
    exact hj

/-- A thread moves on. -/
theorem Inv.placed (h : Inv E b₀ s) (hlisted : b.Listed ((s.placed i pc b).Known b₀))
    (hsetup : BridgeCore.SameSetup s.bridge.core b.core)
    (hflag : b.core.isRunning = s.bridge.core.isRunning)
    (hstopped : s.stop = .stopped → b.NoSessions ∧ ¬ pc.Committed E b.core) :
    Inv E b₀ (s.placed i pc b) := by
  refine ⟨hlisted, fun hstop => hflag.trans (h.cleared hstop), fun hstop => ?_⟩
  obtain ⟨hempty, hpc⟩ := hstopped hstop
  refine ⟨hempty, fun j => ?_⟩
  by_cases hji : j = i
  · subst hji
    rw [attaches_placed]
    exact hpc
  · have hsame : (s.placed i pc b).attaches j = s.attaches j := Function.update_of_ne hji _ _
    rw [hsame]
    exact fun hcommitted =>
      (h.stopped hstop).2 j ((AttachPc.committed_congr hsetup _).1 hcommitted)

/-- A thread moves on and leaves the bridge alone. -/
theorem Inv.setAttach (h : Inv E b₀ s)
    (hpc : ∀ r ∈ (s.attaches i).created, r ∈ pc.created)
    (hstopped : s.stop = .stopped → ¬ pc.Committed E s.bridge.core) :
    Inv E b₀ (s.setAttach i pc) :=
  h.placed (h.listed.imp fun r hr => hr.placed (hpc r)) (.refl _) rfl fun hstop =>
    ⟨(h.stopped hstop).1, hstopped hstop⟩

theorem Inv.attach (h : Inv E b₀ s) (i : Nat) (spec : MonitorSessionSpec) :
    Inv E b₀ (s.attach i spec) := by
  unfold Halt.attach
  split
  · next hidle =>
    split_ifs with hrunning
    · exact h
    · exact h
    · exact h
    · refine h.setAttach (fun r hr => ?_) fun hstop => ?_
      · rw [hidle] at hr
        exact hr
      · -- nobody gets past the check after the store of `stop`
        exact absurd (h.cleared (by simp [hstop])) hrunning
  · exact h

/-- The listing of a session. -/
theorem Inv.insert (h : Inv E b₀ s) {spec : MonitorSessionSpec}
    {selection : ResolvedMonitorSelection} {created : List Nat}
    (hpc : s.attaches i = .creating spec selection [] created)
    (hnew : s.bridge.runtime.nextSessionId ∉ s.bridge.runtime.monitorSessions) :
    Inv E b₀ (s.placed i .idle { s.bridge with
      runtime := (s.bridge.runtime.insertSession (Bridge.sessionInfo spec selection) created
        spec.destinationEndpoint).1 }) := by
  have htable : s.bridge.runtime.nextSessionId ∉ s.bridge.runtime.monitorRuntimeSessions :=
    fun hmem => hnew (h.listed.tables _ hmem)
  have hnext : "ms-" ++ toString s.bridge.runtime.nextMonitorSessionId.toNat =
      s.bridge.runtime.nextSessionId := rfl
  obtain ⟨hsessions, htransfers, hids⟩ := BridgeMonitorRuntime.insertSession_new
    (Bridge.sessionInfo spec selection) created spec.destinationEndpoint hnext hnew htable
  refine h.placed ⟨h.listed.wf, fun r hr => ?_, fun id hid => ?_⟩ (.refl _) rfl fun hstop => ?_
  · by_cases hcreated : r ∈ created
    · right
      refine Bridge.mem_monitorTransfers.2 ⟨s.bridge.runtime.nextSessionId, ?_⟩
      rw [htransfers, if_pos rfl]
      exact hcreated
    · rcases h.listed.owned r hr with hknown | hlisted
      · left
        apply hknown.placed
        intro hmem
        rw [hpc] at hmem
        exact absurd hmem hcreated
      · right
        obtain ⟨id, hid⟩ := Bridge.mem_monitorTransfers.1 hlisted
        refine Bridge.mem_monitorTransfers.2 ⟨id, ?_⟩
        rw [htransfers]
        split_ifs with heq
        · -- the new id had no transfers
          rw [heq, BridgeMonitorRuntime.sessionTransfers, AList.lookup_eq_none.2 htable] at hid
          exact absurd hid List.not_mem_nil
        · exact hid
  · dsimp only at hid ⊢
    rw [hsessions, AList.mem_insert]
    exact (hids id hid).imp_right (h.listed.tables id)
  · have hcommitted := (h.stopped hstop).2 i
    rw [hpc] at hcommitted
    exact absurd rfl hcommitted

/-- The rest of `create_monitor_transfer`. -/
theorem Inv.make (h : Inv E b₀ s) {spec : MonitorSessionSpec}
    {selection : ResolvedMonitorSelection} {key : BridgePduKey} {keys : List BridgePduKey}
    {created : List Nat} (hpc : s.attaches i = .making spec selection key keys created) :
    Inv E b₀ (s.placed i
      (.afterCall spec selection keys created (Halt.make E spec key s.bridge).2)
      (Halt.make E spec key s.bridge).1) := by
  have hkeys : s.stop = .stopped → keys ≠ [] := by
    intro hstop hnil
    have hcommitted := (h.stopped hstop).2 i
    rw [hpc] at hcommitted
    exact hcommitted hnil
  unfold Halt.make
  rcases createMonitorTransfer_cases E { s.bridge.core with isRunning := true }
    spec.connectionId key (effectivePolicy spec.policy) spec.destinationEndpoint s.bridge.host with
    ⟨message, heq⟩ | ⟨j, t, h', hj, hcreated, heq⟩
  · rw [heq]
    exact h.setAttach (fun r hr => by rw [hpc] at hr; exact hr) fun _ => id
  · rw [heq]
    have hsetup := BridgeCore.sameStart_modifyConnection s.bridge.core j
      (f := (·.takeOver [t])) fun c => by rw [BridgeConnection.takeOver_eq]; rfl
    refine h.placed ⟨h.listed.wf.takeOver hj (.cons hcreated (.nil h')), fun r hr => ?_,
      h.listed.tables⟩ hsetup.toSameSetup rfl fun hstop => ⟨(h.stopped hstop).1, hkeys hstop⟩
    have htaken : ∀ c : BridgeConnection, ∀ r ∈ (c.takeOver [t]).refs, r ∈ c.refs ∨ r ∈ [t.self] :=
      fun c r hr => by
        rw [BridgeConnection.refs_takeOver] at hr
        exact List.mem_append.1 hr
    rcases BridgeCore.mem_ownedRefs_modify htaken hr with hold | hmade
    · refine (h.listed.owned r hold).imp_left fun hknown => hknown.placed fun hmem => ?_
      rw [hpc] at hmem
      exact List.mem_append_left _ hmem
    · refine .inl (.inr ⟨i, ?_⟩)
      rw [attaches_placed]
      exact List.mem_append_right _ hmade

/-- A transfer is taken back. -/
theorem Inv.rollBack (h : Inv E b₀ s) {transfer : Nat} {created : List Nat}
    (hpc : s.attaches i = .rollingBack (transfer :: created)) :
    Inv E b₀ (s.placed i (.rollingBack created)
      { s.bridge with core := s.bridge.core.retireTransfers [transfer] }) := by
  have hcore : s.bridge.core.retireTransfers [transfer] = s.bridge.core.without [transfer] :=
    BridgeCore.retireTransfers_eq h.listed.wf.nodup _
  refine h.placed ⟨?_, fun r hr => ?_, h.listed.tables⟩
    (BridgeCore.sameStart_retireTransfers _ _).toSameSetup
    (BridgeCore.isRunning_retireTransfers _ _) fun hstop => ⟨(h.stopped hstop).1, id⟩
  · rw [hcore]
    exact h.listed.wf.without [transfer]
  · dsimp only at hr
    rw [hcore, BridgeCore.ownedRefs_without, List.mem_filter] at hr
    have hkept : r ≠ transfer := by simpa using hr.2
    refine (h.listed.owned r hr.1).imp_left fun hknown => hknown.placed fun hmem => ?_
    rw [hpc] at hmem
    exact List.mem_of_ne_of_mem hkept hmem

theorem Inv.attachTurn (h : Inv E b₀ s) {i : Nat} (hop : s.Settled E (.attachTurn i)) :
    Inv E b₀ (s.attachTurn E i) := by
  unfold Halt.attachTurn
  split
  · exact h
  · next spec hpc =>
    have hnone : ∀ r ∈ (s.attaches i).created, False := fun r hr => by
      rw [hpc] at hr
      exact absurd hr List.not_mem_nil
    split
    · exact h.setAttach (fun r hr => (hnone r hr).elim) fun _ => id
    · next selection hselect =>
      apply h.setAttach (fun r hr => (hnone r hr).elim)
      intro hstop hnil
      -- only a session without destination has no checks ahead
      have hcommitted := (h.stopped hstop).2 i
      rw [hpc] at hcommitted
      refine hcommitted ⟨?_, selection, hselect⟩
      by_contra hdst
      have hkeys : Bridge.monitorKeys spec selection = selection.keys := if_neg hdst
      exact BridgeCore.keys_ne_nil_of_resolve hselect (hkeys.symm.trans hnil)
  · next spec selection key keys created hpc =>
    have hsame : ∀ r ∈ (s.attaches i).created, r ∈ created := fun r hr => by
      rw [hpc] at hr
      exact hr
    split_ifs with hrunning
    · exact h.setAttach hsame fun _ => id
    · exact h.setAttach hsame fun hstop => absurd (h.cleared (by simp [hstop])) hrunning
  · next hpc => exact h.make hpc
  · next spec selection created hpc => exact h.insert hpc (hop spec selection created hpc)
  · next hpc => exact h.rollBack hpc
  · next hpc =>
    refine h.setAttach (fun r hr => ?_) fun _ => id
    rw [hpc] at hr
    exact hr

theorem Inv.stopTurn (h : Inv E b₀ s) (hscenario : s.Scenario E .stopTurn)
    (hop : s.Settled E .stopTurn) : Inv E b₀ (s.stopTurn E) := by
  unfold Halt.stopTurn
  split
  · exact ⟨h.listed.congr h.listed.wf (.refl _) fun _ hr => hr, fun _ => rfl,
      fun hstop => absurd hstop (by simp)⟩
  · next hcleared =>
    obtain ⟨hattached, hinit⟩ := hscenario hcleared
    rw [if_pos hattached]
    refine ⟨h.listed.shutdown, fun _ => ?_, fun _ => ⟨.of_shutdown hinit, fun i hcommitted => ?_⟩⟩
    · exact (Bridge.isRunning_shutdown E s.bridge).trans (h.cleared (by simp [hcleared]))
    · exact hop hcleared i ((AttachPc.committed_congr
        (Bridge.sameStart_shutdown E s.bridge).toSameSetup _).1 hcommitted)
  · exact h

theorem Inv.bridge (h : Inv E b₀ s) {op : Op ε} (hscenario : s.Scenario E (.bridge op)) :
    Inv E b₀ (s.step E (.bridge op)).1 := by
  obtain ⟨hattach, hadd, hstart⟩ := hscenario
  refine ⟨h.listed.step hattach hadd, fun hstop => ?_, fun hstop => ?_⟩
  · exact Bridge.stopped_step (h.cleared hstop) fun heq => hstop (hstart heq)
  · obtain ⟨hempty, hcommitted⟩ := h.stopped hstop
    exact ⟨hempty.step hattach, fun i hi =>
      hcommitted i ((AttachPc.committed_congr (Bridge.sameSetup_step E s.bridge op) _).1 hi)⟩

/-- **Step lemma.** -/
theorem Inv.step (h : Inv E b₀ s) {op : HaltOp ε} (hscenario : s.Scenario E op)
    (hop : s.Settled E op) : Inv E b₀ (s.step E op).1 := by
  cases op with
  | attach i spec => exact h.attach i spec
  | attachTurn i => exact h.attachTurn hop
  | stopTurn => exact h.stopTurn hscenario hop
  | bridge op => exact h.bridge hscenario

/-- When everything has come to rest, the invariant is the property. -/
theorem Inv.nothingLeft (h : Inv E b₀ s) : s.NothingLeft b₀ := by
  intro hstop hidle
  obtain ⟨hempty, -⟩ := h.stopped hstop
  refine ⟨hempty, fun r hr => ?_⟩
  rcases h.listed.owned r hr with (hbuilt | ⟨i, hi⟩) | hlisted
  · exact hbuilt
  · rw [hidle i] at hi
    exact absurd hi List.not_mem_nil
  · unfold Bridge.monitorTransfers at hlisted
    rw [hempty.2] at hlisted
    exact absurd hlisted List.not_mem_nil

/-- **Nothing is left.** Given a bridge that was built, and any interleaving of calls of
`attach_monitor` on any number of threads with `stop` on the main thread and with anything else
but another start. If the shutdown finds no thread past its last check of the running flag with
the listing still to come, and no session id is in use twice, then once `stop` has returned and no
call is in progress, both session tables are empty and no connection owns a monitor transfer. -/
theorem nothingLeft_run {cfg : BridgeConfig} {nodeName : String} {container : List String} {e : ε}
    (hboot : Bridge.boot E cfg nodeName container e = some b₀) {ops : List (HaltOp ε)}
    (hscenario : Along (step E) (Scenario E) { bridge := b₀ } ops)
    (hops : Along (step E) (Settled E) { bridge := b₀ } ops) :
    (run (step E) { bridge := b₀ } ops).1.NothingLeft b₀ := by
  have hbooted := Bridge.booted_of_boot hboot
  have hstart : Inv E b₀ { bridge := b₀ } := by
    refine ⟨⟨hbooted.wellFormed, fun r hr => .inl (.inl hr), fun id hid => ?_⟩,
      fun _ => hbooted.idle, fun hstop => absurd hstop (by simp)⟩
    rw [hbooted.noSessions] at hid
    exact absurd hid (AList.notMem_empty id)
  have hstep : ∀ (s : Halt ε) (op : HaltOp ε), Inv E b₀ s → s.Scenario E op ∧ s.Settled E op →
      Inv E b₀ (s.step E op).1 := fun s op h hop => h.step hop.1 hop.2
  exact (run_invariant hstep hstart (hscenario.and hops)).nothingLeft

/-- A thread moves itself only. -/
theorem attaches_attachTurn_of_ne (s : Halt ε) {i j : Nat} (h : i ≠ j) :
    (s.attachTurn E j).attaches i = s.attaches i := by
  unfold Halt.attachTurn
  split
  · rfl
  · split <;> exact Function.update_of_ne h _ _
  · split_ifs <;> exact Function.update_of_ne h _ _
  · exact Function.update_of_ne h _ _
  · exact Function.update_of_ne h _ _
  · exact Function.update_of_ne h _ _
  · exact Function.update_of_ne h _ _

theorem attaches_attach_of_ne (s : Halt ε) {i j : Nat} (h : i ≠ j) (spec : MonitorSessionSpec) :
    (s.attach j spec).attaches i = s.attaches i := by
  unfold Halt.attach
  split
  · split_ifs
    · rfl
    · rfl
    · rfl
    · exact Function.update_of_ne h _ _
  · rfl

/-- A thread that does not call stays idle. -/
theorem idle_run {ops : List (HaltOp ε)} (hidle : s.attaches i = .idle)
    (hops : ∀ op ∈ ops, ∀ spec, op ≠ .attach i spec) :
    (run (step E) s ops).1.attaches i = .idle := by
  refine run_invariant (P := fun s : Halt ε => s.attaches i = .idle) (fun s op h hop => ?_) hidle
    (along_of_ops hops)
  cases op with
  | attach j spec =>
    have hij : i ≠ j := fun heq => hop spec (by rw [heq])
    exact (attaches_attach_of_ne s hij spec).trans h
  | attachTurn j =>
    by_cases hij : i = j
    · subst hij
      have hsame : s.attachTurn E i = s := by
        unfold Halt.attachTurn
        rw [h]
      exact (congrFun (congrArg Halt.attaches hsame) i).trans h
    · exact (attaches_attachTurn_of_ne s hij).trans h
  | stopTurn =>
    have hsame : (s.stopTurn E).attaches = s.attaches := by
      unfold Halt.stopTurn
      split <;> rfl
    exact (congrFun hsame i).trans h
  | bridge op => exact h

/-! ## The two orders -/

/-- A request for a session on the small connection. -/
def monitorSmall : MonitorSessionSpec := ⟨"conn", [], ⟨"", 0⟩, some (.session "s")⟩

/-- A running bridge with its runtime, and a call that takes `n` turns. -/
def calling (n : Nat) : List (HaltOp CacheState) :=
  [.bridge .attachMonitorRuntime, .bridge (.initializeRuntime {} .ok .ok), .bridge .start,
    .attach 0 monitorSmall] ++ List.replicate n (.attachTurn 0)

/-- A second call, with the store of `stop` between its check and the transfer it makes. -/
def secondCall : List (HaltOp CacheState) :=
  [.attach 1 monitorSmall, .attachTurn 1, .attachTurn 1, .stopTurn, .attachTurn 1]

/-- One session is listed. A second call has its first transfer made after the store of `stop`, and
finds the flag cleared after the shutdown. -/
theorem nothingLeft_small :
    let E := (CacheSpec.small .latest).env none
    let b := (Bridge.bootSmall .latest ⟨"immediate", none, none⟩
      [⟨"k", "r", "pos"⟩, ⟨"l", "r", "vel"⟩] false).get rfl
    let s := (run (step E) { bridge := b } (calling 6)).1
    let s' := (run (step E) { bridge := b } (calling 6 ++ secondCall ++ [.stopTurn, .attachTurn 1,
      .attachTurn 1, .attachTurn 1])).1
    s.bridge.monitorTransfers = [2, 3] ∧ s'.NothingLeft b := by
  intro E b s s'
  have hboot : Bridge.boot E (BridgeConfig.small ⟨"immediate", none, none⟩
      [⟨"k", "r", "pos"⟩, ⟨"l", "r", "vel"⟩] false) "node" ["src", "dst"] CacheState.empty =
      some b := (Option.some_get _).symm
  refine ⟨by decide, nothingLeft_run hboot ?_ ?_⟩
  · refine ⟨⟨rfl, nofun, nofun⟩, ⟨rfl, nofun, nofun⟩, ⟨rfl, nofun, fun _ => rfl⟩, trivial, trivial,
      trivial, trivial, trivial, trivial, trivial, trivial, trivial, trivial,
      fun hcleared => absurd hcleared (by decide), trivial, fun _ => ⟨by decide, by decide⟩,
      trivial, trivial, trivial, trivial⟩
  · have hturn : ∀ (s : Halt CacheState) (i : Nat),
        s.bridge.runtime.nextSessionId ∉ s.bridge.runtime.monitorSessions →
        s.Settled E (.attachTurn i) := fun s i h _ _ _ _ => h
    have hidle : ∀ i, (run (step E) { bridge := b } (calling 6 ++ secondCall)).1.attaches (i + 2) =
        .idle := fun i => idle_run rfl (by simp [calling, secondCall])
    refine along_append.2 ⟨?_, ?_, hturn _ _ (by decide), hturn _ _ (by decide),
      hturn _ _ (by decide), trivial⟩
    · exact ⟨trivial, trivial, trivial, trivial, hturn _ _ (by decide), hturn _ _ (by decide),
        hturn _ _ (by decide), hturn _ _ (by decide), hturn _ _ (by decide), hturn _ _ (by decide),
        trivial, hturn _ _ (by decide), hturn _ _ (by decide),
        fun hcleared => absurd hcleared (by decide), hturn _ _ (by decide), trivial⟩
    · intro _ i
      match i with
      | 0 => decide
      | 1 => decide
      | i + 2 => exact AttachPc.not_committed_of_idle (hidle i)

/-- A call is past its last check when `stop` begins, and lists its session when `stop` has
returned. -/
theorem session_after_stop :
    let E := (CacheSpec.small .latest).env none
    let b := (Bridge.bootSmall .latest ⟨"immediate", none, none⟩ [⟨"k", "r", "pos"⟩] false).get rfl
    let ops := calling 3 ++ [.stopTurn, .stopTurn, .attachTurn 0]
    Along (step E) (Scenario E) { bridge := b } ops ∧
      ¬ (run (step E) { bridge := b } ops).1.NothingLeft b := by
  intro E b ops
  constructor
  · exact ⟨⟨rfl, nofun, nofun⟩, ⟨rfl, nofun, nofun⟩, ⟨rfl, nofun, fun _ => rfl⟩, trivial, trivial,
      trivial, trivial, fun hcleared => absurd hcleared (by decide),
      fun _ => ⟨by decide, by decide⟩, trivial, trivial⟩
  · intro hnothing
    have hidle : ∀ i, (run (step E) { bridge := b } ops).1.attaches i = .idle := by
      intro i
      match i with
      | 0 => rfl
      | i + 1 => exact idle_run rfl (by simp [ops, calling])
    have howned := (hnothing (by decide) hidle).2 1 (by decide)
    exact absurd howned (by decide)

end Halt

end HakoniwaBridge
