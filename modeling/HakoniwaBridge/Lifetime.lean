import HakoniwaBridge.Run

/-!
# The lifetime of receive callbacks

A `Fleet` is a process: one host and the bridges built in it, each with its runtime. Its runs are
made of builds, starts, and session operations on any of the bridges.

* `Fleet.CallbacksOwned` — every registered callback that captures a transfer belongs to a
  transfer that some connection owns.
* `Bridge.KeepsCallbacks` — a session operation destroys no event-driven transfer: not with the
  session it detaches, not with the sessions it shuts down, and not in the rollback of an attach
  that found the running flag cleared half way. `Fleet.Safe` is the condition on a step.
* `callbacksOwned_run` — along runs of safe steps the callbacks stay owned.
-/

namespace HakoniwaBridge

open Lib

variable {ε : Type} {E : Env ε}

/-! ## One bridge among others -/

namespace Bridge

/-- None of the objects is an event-driven transfer of the bridge. -/
def EventFree (b : Bridge ε) (refs : List Nat) : Prop :=
  ∀ c ∈ b.core.connections, ∀ t ∈ c.transferPdus, t.self ∈ refs → t.IsCyclic b.host

/-- The attach is rolled back after it made a transfer: the running flag is found cleared at the
creation of a transfer other than the first. -/
def RollsBack (E : Env ε) (b : Bridge ε) (stopAt : Option Nat) (spec : MonitorSessionSpec) : Prop :=
  ∃ selection j, b.core.admitMonitor E spec = some selection ∧ spec.destinationEndpoint ≠ none ∧
    stopAt = some j ∧ 2 ≤ j ∧ j ≤ selection.keys.length

/-- No event-driven transfer is made and rolled back. -/
def KeepsOnAttach (E : Env ε) (b : Bridge ε) (stopAt : Option Nat) (spec : MonitorSessionSpec) :
    Prop :=
  (effectivePolicy spec.policy).type = "ticker" ∨ ¬ RollsBack E b stopAt spec

/-- The session operation destroys no event-driven transfer. -/
def KeepsCallbacks (E : Env ε) (b : Bridge ε) : SessionOp → Prop
  | .attachMonitor stopAt spec => KeepsOnAttach E b stopAt spec
  | .detachMonitor sessionId => EventFree b (b.runtime.sessionTransfers sessionId)
  | .handleRequest authorizer stopAt req ep =>
    (∀ spec, requestedSpec E authorizer req ep = some spec → KeepsOnAttach E b stopAt spec) ∧
    (∀ sessionId, decodeRequest E authorizer req ep = .ok (.unsubscribe sessionId) →
      EventFree b (b.runtime.sessionTransfers sessionId))
  | .shutdown => b.runtime.initialized = true → EventFree b b.monitorTransfers

/-- Every registered callback that captures a transfer belongs to one owned by this bridge or by
one of the `others`. -/
structure OwnsCallbacks (others : Nat → Prop) (b : Bridge ε) : Prop where
  wf : b.WellFormed
  owned : ∀ reg ∈ b.host.registry, ∀ r, reg.callback = .transfer r →
    others r ∨ r ∈ b.core.ownedRefs

variable {others : Nat → Prop} {b : Bridge ε}

/-- Changes that keep the registry and the objects owned. -/
theorem OwnsCallbacks.congr (h : OwnsCallbacks others b) {b' : Bridge ε} (hwf : b'.WellFormed)
    (hregistry : b'.host.registry = b.host.registry)
    (howned : b'.core.ownedRefs = b.core.ownedRefs) : OwnsCallbacks others b' := by
  refine ⟨hwf, fun reg hreg r hr => ?_⟩
  rw [hregistry] at hreg
  rw [howned]
  exact h.owned reg hreg r hr

/-- Dropping objects that are not event-driven. -/
theorem OwnsCallbacks.without (h : OwnsCallbacks others b) {b' : Bridge ε} {refs : List Nat}
    (hfree : EventFree b refs) (hwf : b'.WellFormed)
    (hregistry : b'.host.registry = b.host.registry) (hcore : b'.core = b.core.without refs) :
    OwnsCallbacks others b' := by
  refine ⟨hwf, fun reg hreg r hr => ?_⟩
  rw [hregistry] at hreg
  rcases h.owned reg hreg r hr with hothers | hown
  · exact Or.inl hothers
  · apply Or.inr
    rw [hcore, BridgeCore.ownedRefs_without]
    refine List.mem_filter.2 ⟨hown, ?_⟩
    -- a dropped object is cyclic, and a cyclic object has no callback
    have hkept : r ∉ refs := by
      intro hdrop
      obtain ⟨c, hc, t, ht, rfl⟩ := BridgeCore.mem_ownedRefs.1 hown
      have hlistens := h.wf.listens reg hreg c hc t ht hr
      exact ITransferPdu.not_listens_of_isCyclic (hfree c hc t ht hdrop) _ _ hlistens
    rw [decide_eq_false hkept]
    rfl

theorem OwnsCallbacks.detachMonitor (h : OwnsCallbacks others b) {sessionId : String}
    (hfree : EventFree b (b.runtime.sessionTransfers sessionId)) :
    OwnsCallbacks others (b.detachMonitor sessionId).1 := by
  by_cases hmem : sessionId ∈ b.runtime.monitorSessions
  · refine h.without hfree (wellFormed_detachMonitor h.wf sessionId) ?_
      (detachMonitor_core h.wf hmem)
    rw [detachMonitor_host]
  · rw [detachMonitor_of_not_mem hmem]
    exact h

theorem OwnsCallbacks.shutdown (h : OwnsCallbacks others b)
    (hfree : b.runtime.initialized = true → EventFree b b.monitorTransfers) :
    OwnsCallbacks others (b.shutdown E) := by
  cases hinit : b.runtime.initialized with
  | false =>
    rw [shutdown_of_not_initialized E hinit]
    exact h
  | true =>
    exact h.without (hfree hinit) ((wellFormed_closed E).shutdown b h.wf)
      (shutdown_sameBook E b).registry (shutdown_core E h.wf hinit)

theorem OwnsCallbacks.attachMonitor (h : OwnsCallbacks others b) {stopAt : Option Nat}
    {spec : MonitorSessionSpec} (hkeeps : KeepsOnAttach E b stopAt spec) :
    OwnsCallbacks others (b.attachMonitor E stopAt spec).1 := by
  have hout := attachMonitor_outcome E stopAt spec h.wf
  have hwf := wellFormed_attachMonitor E stopAt spec h.wf
  revert hout hwf
  generalize b.attachMonitor E stopAt spec = r
  intro hout hwf
  cases hout with
  | rejected _ =>
    apply h.congr hwf rfl
    unfold loadRunning
    split_ifs <;> rfl
  | @rolledBack selection ts h' src dst j hadmitted hdst hcreated hmonitor hstop hlt hlen =>
    refine ⟨hwf, fun reg hreg r hr => ?_⟩
    rcases hcreated.fresh reg hreg with hold | hnew
    · exact h.owned reg hold r hr
    · obtain ⟨t, ht, -, hlistens⟩ := hnew r hr
      obtain ⟨configKey, key, hbody⟩ := (hmonitor t ht).single
      rcases hkeeps with hticker | hno
      · -- a ticker's transfers have no callbacks
        have hcyclic : t.IsCyclic h' := by
          unfold ITransferPdu.IsCyclic
          rw [hbody, (hmonitor t ht).cyclic]
          exact decide_eq_true hticker
        exact absurd hlistens (ITransferPdu.not_listens_of_isCyclic hcyclic _ _)
      · -- only the first creation can have failed, so nothing was made
        have hpos := List.length_pos_of_mem ht
        exact absurd ⟨selection, j, hadmitted, by simp [hdst], hstop, by omega, hlt⟩ hno
  | @attached selection ts h' i c src hadmitted hplace hcreated hmonitor hlen =>
    refine ⟨hwf, fun reg hreg r hr => ?_⟩
    have hperm : (b.core.modifyConnection i (·.takeOver ts)).ownedRefs.Perm
        (b.core.ownedRefs ++ ts.map ITransferPdu.self) := by
      apply flatMap_refs_modify_perm hplace.lt
      intro c
      rw [BridgeConnection.refs, BridgeConnection.transferPdus_takeOver, List.map_append,
        List.map_map]
      rfl
    rcases hcreated.fresh reg hreg with hold | hnew
    · apply (h.owned reg hold r hr).imp_right
      intro hown
      exact hperm.mem_iff.2 (List.mem_append_left _ hown)
    · obtain ⟨t, ht, rfl, -⟩ := hnew r hr
      exact Or.inr (hperm.mem_iff.2 (List.mem_append_right _ (List.mem_map_of_mem ht)))

/-- A session operation that keeps the callbacks. -/
theorem OwnsCallbacks.sessionStep (h : OwnsCallbacks others b) {op : SessionOp}
    (hkeeps : KeepsCallbacks E b op) : OwnsCallbacks others (b.sessionStep E op).1 := by
  cases op with
  | attachMonitor stopAt spec => exact h.attachMonitor hkeeps
  | detachMonitor sessionId => exact OwnsCallbacks.detachMonitor h hkeeps
  | handleRequest authorizer stopAt req ep =>
    obtain ⟨hattach, hdetach⟩ := hkeeps
    rcases handleRequest_cases E authorizer stopAt req ep b with
      ⟨⟨e, -, heq⟩, -⟩ | ⟨id, hid, heq, -⟩ | ⟨spec, hspec, heq, -⟩
    · have hwf := (wellFormed_closed E).env h.wf e
      have hquiet := h.congr hwf rfl rfl
      simp only [Bridge.sessionStep, heq]
      exact hquiet
    · have hdone := OwnsCallbacks.detachMonitor h (hdetach id hid)
      simp only [Bridge.sessionStep, heq]
      exact hdone
    · have hdone := h.attachMonitor (hattach spec hspec)
      simp only [Bridge.sessionStep, heq]
      exact hdone
  | shutdown => exact h.shutdown hkeeps

end Bridge

/-! ## A process -/

/-- The bridges built in one process, over their common host. -/
structure Fleet (ε : Type) where
  host : Host ε
  bridges : List (BridgeCore × BridgeMonitorRuntime) := []

/-- What can be done in a process. -/
inductive FleetOp
  | build (cfg : BridgeConfig) (nodeName : String) (container : List String)
  | start (i : Nat)
  | initializeRuntime (i : Nat) (options : BridgeMonitorRuntimeOptions)
      (openErr startErr : HakoPduErrorType)
  | session (i : Nat) (op : SessionOp)

namespace Fleet

/-- The bridge at a position, with the common host. -/
def bridge (f : Fleet ε) (s : BridgeCore × BridgeMonitorRuntime) : Bridge ε :=
  { host := f.host, core := s.1, runtime := s.2 }

/-- Apply an operation to the bridge at a position. -/
def onBridge (E : Env ε) (f : Fleet ε) (i : Nat) (op : Op ε) : Fleet ε × List Event :=
  match f.bridges[i]? with
  | none => (f, [])
  | some s =>
    let r := (f.bridge s).step E op
    ({ host := r.1.host, bridges := f.bridges.set i (r.1.core, r.1.runtime) }, r.2)

/-- One operation. -/
def step (E : Env ε) (f : Fleet ε) (op : FleetOp) : Fleet ε × List Event :=
  match op with
  | .build cfg nodeName container =>
    match HakoniwaBridge.build E cfg nodeName container f.host with
    | (h, .ok core) => ({ host := h, bridges := f.bridges ++ [(core, {})] }, [])
    | (h, .error _) => ({ f with host := h }, [])
  | .start i => f.onBridge E i .start
  | .initializeRuntime i options openErr startErr =>
    f.onBridge E i (.initializeRuntime options openErr startErr)
  | .session i op => f.onBridge E i (.session op)

/-- A process that has built nothing. -/
def boot (e : ε) : Fleet ε := { host := Host.boot e }

/-- Every registered callback that captures a transfer belongs to a transfer owned by a connection
of some bridge. -/
def CallbacksOwned (f : Fleet ε) : Prop :=
  ∀ reg ∈ f.host.registry, ∀ r, reg.callback = .transfer r → ∃ s ∈ f.bridges, r ∈ s.1.ownedRefs

/-- The condition on a step: a build succeeds, and a session operation destroys no event-driven
transfer. -/
def Safe (E : Env ε) (f : Fleet ε) : FleetOp → Prop
  | .build cfg nodeName container =>
    ∃ core, (HakoniwaBridge.build E cfg nodeName container f.host).2 = .ok core
  | .start _ => True
  | .initializeRuntime _ _ _ _ => True
  | .session i op => ∀ s, f.bridges[i]? = some s → (f.bridge s).KeepsCallbacks E op

/-- The invariant of a process. -/
structure Sound (f : Fleet ε) : Prop where
  wf : ∀ s ∈ f.bridges, (f.bridge s).WellFormed
  registry : ∀ reg ∈ f.host.registry, ∀ r, reg.callback = .transfer r → r < f.host.nextTransfer
  owned : f.CallbacksOwned

/-- The objects owned by the bridges at the other positions. -/
def Others (f : Fleet ε) (i : Nat) (r : Nat) : Prop :=
  ∃ j s, j ≠ i ∧ f.bridges[j]? = some s ∧ r ∈ s.1.ownedRefs

/-- Control operations extend the host. -/
theorem extends_closed (E : Env ε) (h : Host ε) :
    ControlClosed E fun b : Bridge ε => b.WellFormed ∧ Host.Extends h b.host where
  host b h' hsame hb :=
    ⟨(Bridge.wellFormed_closed E).host b h' hsame hb.1, hb.2.trans hsame.extends⟩
  core b core hcore hb := ⟨(Bridge.wellFormed_closed E).core b core hcore hb.1, hb.2⟩
  runtime _ _ _ hb := hb
  attached _ _ hb := hb
  accept b ep key hb :=
    ⟨(Bridge.wellFormed_closed E).accept b ep key hb.1,
      hb.2.trans (Bridge.extends_control b.host ep key)⟩
  detach b id hb := by
    refine ⟨(Bridge.wellFormed_closed E).detach b id hb.1, ?_⟩
    rw [Bridge.detachMonitor_host]
    exact hb.2
  shutdown b hb :=
    ⟨(Bridge.wellFormed_closed E).shutdown b hb.1,
      hb.2.trans (Bridge.shutdown_sameBook E b).extends⟩

/-- The extension of the host by one step of a bridge. -/
theorem extends_step (E : Env ε) {b : Bridge ε} (hwf : b.WellFormed) {op : Op ε}
    (hop : op.onConnection = false) : Host.Extends b.host (b.step E op).1.host := by
  have hclosed := extends_closed E b.host
  refine (hclosed.step ⟨hwf, Host.Extends.refl _⟩ (fun stopAt spec _ => ?_) fun hconn => ?_).2
  · refine ⟨Bridge.wellFormed_attachMonitor E stopAt spec hwf, ?_⟩
    have hout := Bridge.attachMonitor_outcome E stopAt spec hwf
    revert hout
    generalize b.attachMonitor E stopAt spec = r
    intro hout
    cases hout with
    | rejected _ => exact Host.Extends.refl _
    | rolledBack _ _ hcreated _ _ _ _ => exact hcreated.extends
    | attached _ _ hcreated _ _ => exact hcreated.extends
  · rw [hop] at hconn
    exact Bool.noConfusion hconn

/-- One bridge of a sound process makes a step that keeps its callbacks. -/
theorem Sound.onBridge {f : Fleet ε} (hf : f.Sound) {i : Nat} {op : Op ε}
    (hop : op.onConnection = false)
    (hkeeps : ∀ s, f.bridges[i]? = some s → (f.bridge s).OwnsCallbacks (f.Others i) →
      ((f.bridge s).step E op).1.OwnsCallbacks (f.Others i)) : (f.onBridge E i op).1.Sound := by
  unfold Fleet.onBridge
  cases hget : f.bridges[i]? with
  | none => exact hf
  | some s =>
    have hmem : s ∈ f.bridges := List.mem_of_getElem? hget
    have hi : i < f.bridges.length := (List.getElem?_eq_some_iff.1 hget).1
    have hext : Host.Extends f.host ((f.bridge s).step E op).1.host :=
      extends_step E (hf.wf s hmem) hop
    -- the callbacks before the step belong to this bridge or to another one
    have hbefore : (f.bridge s).OwnsCallbacks (f.Others i) := by
      refine ⟨hf.wf s hmem, fun reg hreg r hr => ?_⟩
      obtain ⟨s', hs', hown⟩ := hf.owned reg hreg r hr
      obtain ⟨j, hj⟩ := List.mem_iff_getElem?.1 hs'
      by_cases hji : j = i
      · subst hji
        rw [hget] at hj
        obtain rfl := Option.some.inj hj
        exact Or.inr hown
      · exact Or.inl ⟨j, s', hji, hj, hown⟩
    have hafter := hkeeps s hget hbefore
    refine ⟨fun s' hs' => ?_, fun reg hreg r hr => ?_, fun reg hreg r hr => ?_⟩
    · rcases List.mem_or_eq_of_mem_set hs' with hs' | rfl
      · exact (hf.wf s' hs').grow hext
      · exact hafter.wf
    · exact hafter.wf.registry_lt reg hreg r hr
    · rcases hafter.owned reg hreg r hr with ⟨j, s', hji, hj, hown⟩ | hown
      · refine ⟨s', List.mem_iff_getElem?.2 ⟨j, ?_⟩, hown⟩
        rw [List.getElem?_set_ne (Ne.symm hji)]
        exact hj
      · exact ⟨_, List.mem_set hi _, hown⟩

/-- A successful build in a sound process. -/
theorem Sound.build {f : Fleet ε} (hf : f.Sound) {cfg : BridgeConfig} {nodeName : String}
    {container : List String} {h : Host ε} {core : BridgeCore}
    (hbuild : HakoniwaBridge.build E cfg nodeName container f.host = (h, .ok core)) :
    Sound { host := h, bridges := f.bridges ++ [(core, {})] } := by
  obtain ⟨hbuilt, -⟩ := built_of_build hf.registry hbuild
  refine ⟨fun s hs => ?_, hbuilt.wf.registry_lt, fun reg hreg r hr => ?_⟩
  · rcases List.mem_append.1 hs with hs | hs
    · exact (hf.wf s hs).grow hbuilt.extends
    · rw [List.mem_singleton] at hs
      subst hs
      exact hbuilt.wf
  · rcases hbuilt.owned reg hreg r hr with hold | hnew
    · obtain ⟨s, hs, hown⟩ := hf.owned reg hold r hr
      exact ⟨s, List.mem_append_left _ hs, hown⟩
    · exact ⟨(core, {}), List.mem_append_right _ List.mem_cons_self, hnew⟩

/-- A safe step keeps a process sound. -/
theorem Sound.step {f : Fleet ε} (hf : f.Sound) {op : FleetOp} (hop : Safe E f op) :
    (f.step E op).1.Sound := by
  cases op with
  | build cfg nodeName container =>
    obtain ⟨core, hcore⟩ := hop
    have hbuild : HakoniwaBridge.build E cfg nodeName container f.host =
        ((HakoniwaBridge.build E cfg nodeName container f.host).1, .ok core) :=
      Prod.ext rfl hcore
    simp only [Fleet.step]
    rw [hbuild]
    exact hf.build hbuild
  | start i =>
    apply hf.onBridge rfl
    intro s _ hown
    apply hown.congr (Bridge.wellFormed_step E hown.wf .start) rfl
    simp only [Bridge.step, BridgeCore.start]
    split_ifs <;> rfl
  | initializeRuntime i options openErr startErr =>
    apply hf.onBridge rfl
    intro s _ hown
    exact hown.congr (Bridge.wellFormed_step E hown.wf _) rfl rfl
  | session i op =>
    exact hf.onBridge rfl fun s hget hown => hown.sessionStep (hop s hget)

theorem sound_boot (e : ε) : Sound (boot e) :=
  ⟨fun _ hs => absurd hs List.not_mem_nil, fun _ hreg => absurd hreg List.not_mem_nil,
    fun _ hreg => absurd hreg List.not_mem_nil⟩

/-- **Callback lifetime.** In every run of a process whose builds succeed and whose session
operations destroy no event-driven transfer, every registered callback that captures a transfer
belongs to a transfer that is still owned by a connection. -/
theorem callbacksOwned_run {e : ε} {ops : List FleetOp}
    (hops : Along (step E) (Safe E) (boot e) ops) :
    (run (step E) (boot e) ops).1.CallbacksOwned := by
  have hsound : (run (step E) (boot e) ops).1.Sound :=
    run_invariant (fun _ _ hf hop => hf.step hop) (sound_boot e) hops
  exact hsound.owned

/-- One bridge, built and started. -/
def startOps : List FleetOp :=
  [.build (BridgeConfig.small ⟨"immediate", none, none⟩ [⟨"k", "r", "pos"⟩] false) "node"
      ["src", "dst"],
    .start 0]

/-- A session for every PDU of `conn`, under the given policy. -/
def sessionSpec (policy : MonitorPolicy) : MonitorSessionSpec where
  connectionId := "conn"
  filters := []
  policy := policy
  destinationEndpoint := some (.session "monitor")

/-- A ticker session comes and goes. -/
theorem callbacksOwned_ticker :
    (run (step ((CacheSpec.small .latest).env none)) (boot CacheState.empty)
      (startOps ++ [.session 0 (.attachMonitor none (sessionSpec ⟨"ticker", 10⟩)),
        .session 0 (.detachMonitor "ms-1")])).1.CallbacksOwned := by
  refine callbacksOwned_run ⟨⟨_, rfl⟩, trivial, fun s _ => Or.inl rfl, fun s hs => ?_, trivial⟩
  obtain rfl := Option.some.inj hs
  intro c hc t ht hself
  obtain rfl := List.mem_singleton.1 hc
  rcases List.mem_cons.1 ht with rfl | ht
  · exact absurd hself (by decide)
  · obtain rfl := List.mem_singleton.1 ht
    exact rfl

/-- Detaching an immediate session leaves its callback behind. -/
theorem dangling_after_detach :
    ¬ (run (step ((CacheSpec.small .latest).env none)) (boot CacheState.empty)
      (startOps ++ [.session 0 (.attachMonitor none (sessionSpec ⟨"immediate", 0⟩)),
        .session 0 (.detachMonitor "ms-1")])).1.CallbacksOwned := by
  intro howned
  obtain ⟨s, hs, hown⟩ := howned ⟨.container "src", ⟨"r", 1⟩, .transfer 1⟩
    (List.mem_cons_of_mem _ List.mem_cons_self) 1 rfl
  obtain rfl := List.mem_singleton.1 hs
  exact absurd hown (by decide)

end Fleet

end HakoniwaBridge
