import HakoniwaBridge.NothingLeft

/-!
# The bridge of a daemon

In the two daemons one thread starts, triggers and stops the core, while the threads of the
endpoints receive PDUs and control messages.

Assumed is that each of these operations is a whole step: no control message is in progress while
the core is triggered or stopped. The code has no lock for that; what comes of a subscription that a
stop overtakes is in `NothingLeft`.

* `Op.isOutside` — what happens beside that thread.
* `Bridge.SameMode` — the flags that say whether the core runs, holds a runtime, and listens to its
  clients; nothing but that thread changes them (`sameMode_outside`, `sameMode_cyclicTrigger`).
* `Bridge.Managed` — the runtime is in use, or it has no sessions and listens to nobody.
  `Managed.stop`: **a stop ends all sessions, and there are none as long as the core does not run.**
-/

namespace HakoniwaBridge

open Lib

variable {ε : Type} {E : Env ε}

/-- What the endpoints' threads do to the bridge, and what happens outside. A control message is
handled before anything else begins. -/
def Op.isOutside : Op ε → Bool
  | .environment _ => true
  | .reception _ _ _ => true
  | .controlMessage stopAt _ _ => stopAt.isNone
  | _ => false

namespace Bridge

/-! ## Modes -/

/-- The same flags. -/
structure SameMode (b b' : Bridge ε) : Prop where
  running : b'.core.isRunning = b.core.isRunning
  attached : b'.runtimeAttached = b.runtimeAttached
  initialized : b'.runtime.initialized = b.runtime.initialized
  handler : b'.runtime.controlHandler = b.runtime.controlHandler

theorem SameMode.refl (b : Bridge ε) : SameMode b b := ⟨rfl, rfl, rfl, rfl⟩

theorem SameMode.trans {b₁ b₂ b₃ : Bridge ε} (h₁₂ : SameMode b₁ b₂) (h₂₃ : SameMode b₂ b₃) :
    SameMode b₁ b₃ :=
  ⟨h₂₃.running.trans h₁₂.running, h₂₃.attached.trans h₁₂.attached,
    h₂₃.initialized.trans h₁₂.initialized, h₂₃.handler.trans h₁₂.handler⟩

/-- A detach takes transfers away, and leaves the flags alone. -/
theorem sameMode_detachMonitor (b : Bridge ε) (sessionId : String) :
    SameMode b (b.detachMonitor sessionId).1 := by
  refine ⟨isRunning_detachMonitor b sessionId, ?_, ?_, ?_⟩
  all_goals
    unfold detachMonitor
    split_ifs <;> rfl

/-- No transfer of an attach changes whether the core runs, if no stop comes between. -/
theorem isRunning_createMonitorTransfers (E : Env ε) (spec : MonitorSessionSpec) (k : Nat)
    (keys : List BridgePduKey) (s : BridgeCore × Host ε) :
    (createMonitorTransfers E none spec k keys s).1.1.isRunning = s.1.isRunning := by
  induction keys generalizing k s with
  | nil => rfl
  | cons key keys ih =>
    have hcreate := BridgeCore.isRunning_createMonitorTransfer E s.1 spec.connectionId key
      (effectivePolicy spec.policy) spec.destinationEndpoint s.2
    have hload : loadRunning none k s.1 = s.1 := if_neg (by simp)
    unfold createMonitorTransfers
    rw [hload]
    split
    · next heq => rwa [heq] at hcreate
    · next heq =>
      rw [heq] at hcreate
      exact (ih (k + 1) _).trans hcreate

/-- An attach that no stop comes between. -/
theorem sameMode_attachMonitor (E : Env ε) (spec : MonitorSessionSpec) (b : Bridge ε) :
    SameMode b (b.attachMonitor E none spec).1 := by
  have hload : loadRunning none 0 b.core = b.core := if_neg (by simp)
  unfold attachMonitor
  rw [hload]
  dsimp only
  split
  · exact .refl b
  · next selection hadmitted =>
    have hcreate := isRunning_createMonitorTransfers E spec 1 (monitorKeys spec selection)
      (b.core, b.host)
    split
    · next heq =>
      rw [heq] at hcreate
      exact ⟨(BridgeCore.isRunning_retireTransfers _ _).trans hcreate, rfl, rfl, rfl⟩
    · next heq =>
      rw [heq] at hcreate
      exact ⟨hcreate, rfl, rfl, rfl⟩

/-- The bookkeeping behind an answer is about sessions only. -/
theorem sameMode_recordAnswer (name : String) (req res : Json) (b : Bridge ε) :
    SameMode b (b.recordAnswer name req res) := by
  unfold recordAnswer
  split
  · split
    · exact ⟨rfl, rfl, rfl, rfl⟩
    · exact .refl b
  · split
    · unfold BridgeMonitorRuntime.forgetSession
      split <;> exact ⟨rfl, rfl, rfl, rfl⟩
    · exact .refl b
  · exact .refl b

/-- What happens beside the main thread leaves the flags alone. -/
theorem sameMode_outside {op : Op ε} (hop : op.isOutside = true) (b : Bridge ε) :
    SameMode b (b.step E op).1 := by
  cases op with
  | environment f => exact ⟨rfl, rfl, rfl, rfl⟩
  | reception endpointId key data => exact ⟨rfl, rfl, rfl, rfl⟩
  | controlMessage stopAt name message =>
    obtain rfl : stopAt = none := Option.isNone_iff_eq_none.1 hop
    show SameMode b (b.controlMessage E none name message).1
    unfold controlMessage
    split_ifs
    · exact .refl b
    · cases message with
      | none => exact .refl b
      | some req =>
        refine SameMode.trans ?_ (sameMode_recordAnswer name req _ _)
        rcases handleRequest_cases E none none req (some (.session name)) b with
          ⟨⟨e, -, heq⟩, -⟩ | ⟨id, -, heq, -⟩ | ⟨spec, -, heq, -⟩
        · rw [heq]
          exact ⟨rfl, rfl, rfl, rfl⟩
        · rw [heq]
          exact sameMode_detachMonitor b id
        · rw [heq]
          exact sameMode_attachMonitor E spec b
  | _ => exact absurd hop Bool.false_ne_true

/-- Marking the endpoints that are gone leaves the flags of the runtime alone. -/
theorem markDisconnected_mode (running : String → Bool) (names : List String)
    (rt : BridgeMonitorRuntime) :
    (BridgeMonitorRuntime.markDisconnected running names rt).1.initialized = rt.initialized ∧
      (BridgeMonitorRuntime.markDisconnected running names rt).1.controlHandler =
        rt.controlHandler := by
  induction names generalizing rt with
  | nil => exact ⟨rfl, rfl⟩
  | cons name names ih =>
    unfold BridgeMonitorRuntime.markDisconnected
    split_ifs
    · exact ih rt
    · exact ih
        { rt with disconnectedControlEndpoints := rt.disconnectedControlEndpoints ++ [name] }

/-- The cleanup after an endpoint is a number of detaches. -/
theorem sameMode_detachSessionsForEndpoint (b : Bridge ε) (name : String) :
    SameMode b (b.detachSessionsForEndpoint name) := by
  have hdetach : ∀ (ids : List String) (b' : Bridge ε),
      SameMode b' (ids.foldl (fun b id => (b.detachMonitor id).1) b') := by
    intro ids
    induction ids with
    | nil => exact SameMode.refl
    | cons id ids ih => exact fun b' => (sameMode_detachMonitor b' id).trans (ih _)
  have htake : SameMode b { b with runtime := (b.runtime.takeSessionIds name).1 } := by
    unfold BridgeMonitorRuntime.takeSessionIds
    split <;> exact ⟨rfl, rfl, rfl, rfl⟩
  exact htake.trans (hdetach _ _)

/-- A trigger leaves the flags alone. -/
theorem sameMode_cyclicTrigger (E : Env ε) (accepted : List String) (b : Bridge ε) :
    SameMode b (b.cyclicTrigger E accepted).1 := by
  have haccept : ∀ (names : List String) (b' : Bridge ε),
      SameMode b' (names.foldl (fun b name => b.acceptEndpoint name) b') := by
    intro names
    induction names with
    | nil => exact SameMode.refl
    | cons name names ih =>
      intro b'
      have hfirst : SameMode b' (b'.acceptEndpoint name) := ⟨rfl, rfl, rfl, rfl⟩
      exact hfirst.trans (ih _)
  have hclean : ∀ (names : List String) (b' : Bridge ε),
      SameMode b' (names.foldl (fun b name => b.detachSessionsForEndpoint name) b') := by
    intro names
    induction names with
    | nil => exact SameMode.refl
    | cons name names ih =>
      exact fun b' => (sameMode_detachSessionsForEndpoint b' name).trans (ih _)
  have hplane : ∀ b' : Bridge ε, SameMode b' (b'.processControlPlaneOnce E accepted) := by
    intro b'
    have hmark : ∀ b' : Bridge ε, SameMode b' (b'.cleanupDisconnectedSessions E) := by
      intro b'
      obtain ⟨hinitialized, hhandler⟩ := markDisconnected_mode (sessionRunning E b'.host.env)
        b'.runtime.ondemandSessions b'.runtime
      have hmarked : SameMode b' { b' with runtime := (BridgeMonitorRuntime.markDisconnected
          (sessionRunning E b'.host.env) b'.runtime.ondemandSessions b'.runtime).1 } :=
        ⟨rfl, rfl, hinitialized, hhandler⟩
      exact hmarked.trans (hclean _ _)
    unfold processControlPlaneOnce
    split_ifs
    · exact .refl b'
    · exact (haccept accepted b').trans (hmark _)
  have hhost : ∀ h : Host ε, SameMode b { b with host := h } := fun h => ⟨rfl, rfl, rfl, rfl⟩
  unfold cyclicTrigger
  dsimp only
  split_ifs
  · exact .refl b
  · exact (hhost _).trans (hplane _)
  · exact hhost _

/-! ## Managed bridges -/

/-- The core holds a runtime that is in use, or there are no sessions and nobody is listened to. -/
def Managed (b : Bridge ε) : Prop :=
  (b.runtimeAttached = true ∧ b.runtime.initialized = true) ∨
    (b.NoSessions ∧ b.runtime.controlHandler = false)

/-- The core does not run, and there are no sessions. -/
structure Ended (b : Bridge ε) : Prop where
  stopped : b.core.isRunning = false
  noSessions : b.NoSessions
  handler : b.runtime.controlHandler = false

variable {b : Bridge ε}

theorem Ended.managed (h : b.Ended) : b.Managed := .inr ⟨h.noSessions, h.handler⟩

/-- Nobody is listened to, so nothing is attached. -/
theorem noSessions_outside (h : b.NoSessions) (hhandler : b.runtime.controlHandler = false)
    {op : Op ε} (hop : op.isOutside = true) : (b.step E op).1.NoSessions := by
  cases op with
  | environment f => exact h
  | reception endpointId key data => exact h
  | controlMessage stopAt name message =>
    show (b.controlMessage E stopAt name message).1.NoSessions
    unfold controlMessage
    rw [if_pos (.inr hhandler)]
    exact h
  | _ => exact absurd hop Bool.false_ne_true

/-- The endpoints' threads keep a bridge managed: a runtime in use stays in use, and without one
nobody is listened to. -/
theorem Managed.outside (h : b.Managed) {op : Op ε} (hop : op.isOutside = true) :
    (b.step E op).1.Managed := by
  have hmode := sameMode_outside (E := E) hop b
  refine h.imp (fun hused => ?_) fun hnone => ?_
  · exact ⟨hmode.attached.trans hused.1, hmode.initialized.trans hused.2⟩
  · exact ⟨noSessions_outside hnone.1 hnone.2 hop, hmode.handler.trans hnone.2⟩

/-- After a stop the endpoints' threads attach nothing. -/
theorem Ended.outside (h : b.Ended) {op : Op ε} (hop : op.isOutside = true) :
    (b.step E op).1.Ended := by
  have hmode := sameMode_outside (E := E) hop b
  exact ⟨hmode.running.trans h.stopped, noSessions_outside h.noSessions h.handler hop,
    hmode.handler.trans h.handler⟩

/-- A trigger keeps a bridge managed. -/
theorem Managed.cyclicTrigger (h : b.Managed) (accepted : List String) :
    (b.cyclicTrigger E accepted).1.Managed := by
  have hmode := sameMode_cyclicTrigger E accepted b
  refine h.imp (fun hused => ?_) fun hnone => ?_
  · exact ⟨hmode.attached.trans hused.1, hmode.initialized.trans hused.2⟩
  · have hsessions : ((b.step E (.cyclicTrigger accepted)).1).NoSessions := hnone.1.step rfl
    exact ⟨hsessions, hmode.handler.trans hnone.2⟩

/-- A core that does not run does nothing at a trigger. -/
theorem cyclicTrigger_of_stopped (h : b.core.isRunning = false) (accepted : List String) :
    b.cyclicTrigger E accepted = (b, []) := by
  unfold Bridge.cyclicTrigger
  rw [if_pos h]

/-- A shutdown of a runtime in use leaves nothing, and another has nothing to do. -/
theorem nothing_shutdown
    (h : b.runtime.initialized = true ∨ (b.NoSessions ∧ b.runtime.controlHandler = false)) :
    (b.shutdown E).NoSessions ∧ (b.shutdown E).runtime.controlHandler = false := by
  constructor
  · rcases h with hinit | hnone
    · exact NoSessions.of_shutdown hinit
    · exact hnone.1.shutdown
  · unfold Bridge.shutdown
    split_ifs with hinit
    · exact (h.resolve_left (by simp [hinit])).2
    · rfl

/-- **A stop ends all sessions.** -/
theorem Managed.stop (h : b.Managed) : (b.stop E).Ended := by
  unfold Bridge.stop
  dsimp only
  split_ifs with hattached
  · obtain ⟨hsessions, hhandler⟩ := nothing_shutdown (E := E)
      (b := { b with core := { b.core with isRunning := false } }) (h.imp_left And.right)
    exact ⟨isRunning_shutdown E _, hsessions, hhandler⟩
  · have hnone := h.resolve_left fun hused => hattached hused.1
    exact ⟨rfl, hnone.1, hnone.2⟩

/-- Letting go of the runtime ends all sessions, and changes nothing about the core's running. -/
theorem Managed.detachMonitorRuntime (h : b.Managed) :
    (b.detachMonitorRuntime E).NoSessions ∧
      (b.detachMonitorRuntime E).runtime.controlHandler = false ∧
      (b.detachMonitorRuntime E).core.isRunning = b.core.isRunning ∧
      (b.detachMonitorRuntime E).runtimeAttached = false := by
  unfold Bridge.detachMonitorRuntime
  split_ifs with hattached
  · obtain ⟨hsessions, hhandler⟩ := nothing_shutdown (E := E)
      (b := { b with runtimeAttached := false }) (h.imp_left And.right)
    refine ⟨hsessions, hhandler, isRunning_shutdown E _, ?_⟩
    unfold Bridge.shutdown
    split_ifs <;> rfl
  · obtain ⟨hsessions, hhandler⟩ := h.resolve_left fun hused => hattached hused.1
    exact ⟨hsessions, hhandler, rfl, by simpa using hattached⟩

/-! ## The start -/

/-- A start of a built core. -/
theorem started_of_boot {cfg : BridgeConfig} {nodeName : String} {container : List String}
    {e : ε} {built : Bridge ε} (e' : ε) (h : boot E cfg nodeName container e = some built) :
    let b := { built with host := { built.host with env := e' } }
    (b.step E .start).1.core.isRunning = true ∧ (b.step E .start).1.runtime = {} ∧
      (b.step E .start).1.runtimeAttached = false := by
  intro b
  have hbooted := booted_of_boot h
  refine ⟨?_, hbooted.noSessions, hbooted.notAttached⟩
  show (b.core.start E b.host.env).1.isRunning = true
  unfold BridgeCore.start
  rw [if_neg (by simp [b, hbooted.idle])]

/-- An initialization that succeeds. -/
theorem initialized_of_ok {options : BridgeMonitorRuntimeOptions}
    {openErr startErr : HakoPduErrorType} {rt : BridgeMonitorRuntime}
    (h : (rt.initializeRuntime options openErr startErr).2 = .ok) :
    (rt.initializeRuntime options openErr startErr).1.initialized = true := by
  unfold BridgeMonitorRuntime.initializeRuntime at h ⊢
  split_ifs at h ⊢ <;> first | rfl | contradiction

/-- An initialization that fails. -/
theorem notInitialized_of_error {options : BridgeMonitorRuntimeOptions}
    {openErr startErr : HakoPduErrorType} {rt : BridgeMonitorRuntime}
    (h : (rt.initializeRuntime options openErr startErr).2 ≠ .ok) :
    rt.SameTables (rt.initializeRuntime options openErr startErr).1 ∧
      (rt.initializeRuntime options openErr startErr).1.controlHandler = rt.controlHandler := by
  unfold BridgeMonitorRuntime.initializeRuntime at h ⊢
  split_ifs at h ⊢ <;> first | exact ⟨⟨rfl, rfl, rfl⟩, rfl⟩ | contradiction

/-- A runtime that has not been used. -/
theorem managed_of_fresh (h : b.runtime = {}) : b.Managed := by
  refine .inr ?_
  unfold NoSessions
  rw [h]
  exact ⟨⟨rfl, rfl⟩, rfl⟩

end Bridge

end HakoniwaBridge
