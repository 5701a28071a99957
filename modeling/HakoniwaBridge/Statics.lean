import HakoniwaBridge.Run

/-!
# What no operation changes

The parts of a core that are fixed once it is built, or once it runs.

* `BridgeCore.SameSetup` — headers, endpoint ids and the table of transferable PDUs are the same;
  kept by every step (`sameSetup_step`).
* `BridgeCore.SameStart` — the time of the last start and the last error as well; kept by every
  step but a start that takes effect (`sameStart_step`).
* `stopped_step` — no step but a start sets the running flag.
-/

namespace HakoniwaBridge

open Lib

variable {ε : Type} {E : Env ε}

namespace BridgeCore

/-- What a build sets for good. -/
structure SameSetup (core core' : BridgeCore) : Prop where
  endpointIds : core'.endpointIds = core.endpointIds
  headers : core'.connections.map (·.header) = core.connections.map (·.header)
  transferable : core'.connectionTransferablePdus = core.connectionTransferablePdus

/-- What a start sets until the next one. -/
structure SameStart (core core' : BridgeCore) : Prop extends SameSetup core core' where
  startedTimeUsec : core'.startedTimeUsec = core.startedTimeUsec
  lastError : core'.lastError = core.lastError

theorem SameSetup.refl (core : BridgeCore) : SameSetup core core := ⟨rfl, rfl, rfl⟩

theorem SameSetup.trans {core₁ core₂ core₃ : BridgeCore} (h₁₂ : SameSetup core₁ core₂)
    (h₂₃ : SameSetup core₂ core₃) : SameSetup core₁ core₃ :=
  ⟨h₂₃.endpointIds.trans h₁₂.endpointIds, h₂₃.headers.trans h₁₂.headers,
    h₂₃.transferable.trans h₁₂.transferable⟩

theorem SameStart.refl (core : BridgeCore) : SameStart core core := ⟨.refl core, rfl, rfl⟩

theorem SameStart.trans {core₁ core₂ core₃ : BridgeCore} (h₁₂ : SameStart core₁ core₂)
    (h₂₃ : SameStart core₂ core₃) : SameStart core₁ core₃ :=
  ⟨h₁₂.toSameSetup.trans h₂₃.toSameSetup, h₂₃.startedTimeUsec.trans h₁₂.startedTimeUsec,
    h₂₃.lastError.trans h₁₂.lastError⟩

/-- The running flag is no part of it. -/
theorem sameStart_isRunning (core : BridgeCore) (flag : Bool) :
    SameStart core { core with isRunning := flag } := ⟨⟨rfl, rfl, rfl⟩, rfl, rfl⟩

/-- A change of one connection below its header. -/
theorem sameStart_modifyConnection (core : BridgeCore) (i : Nat)
    {f : BridgeConnection → BridgeConnection} (hf : ∀ c, (f c).header = c.header) :
    SameStart core (core.modifyConnection i f) :=
  ⟨⟨rfl, map_modify_of_invisible hf core.connections i, rfl⟩, rfl, rfl⟩

/-- A removal changes no header. -/
theorem headers_removeFromFirst (transfer : Nat) (cs : List BridgeConnection) :
    (removeFromFirst transfer cs).1.map (·.header) = cs.map (·.header) := by
  induction cs with
  | nil => rfl
  | cons c cs ih =>
    unfold removeFromFirst
    split_ifs with hremoved
    · have hheader : (c.removeTransferPdu transfer).1.header = c.header := by
        unfold BridgeConnection.removeTransferPdu
        split_ifs <;> rfl
      rw [List.map_cons, List.map_cons, hheader]
    · rw [List.map_cons, List.map_cons, ih]

/-- Retiring transfers changes the lists of transfers only. -/
theorem sameStart_retireTransfers (core : BridgeCore) (transfers : List Nat) :
    SameStart core (core.retireTransfers transfers) := by
  unfold retireTransfers
  induction transfers generalizing core with
  | nil => exact SameStart.refl core
  | cons r rs ih =>
    have hdeactivate : SameStart core (core.deactivateMonitorTransfer r) := by
      refine ⟨⟨rfl, ?_, rfl⟩, rfl, rfl⟩
      rw [deactivateMonitorTransfer, List.map_map]
      rfl
    have hremove : SameStart (core.deactivateMonitorTransfer r)
        ((core.deactivateMonitorTransfer r).removeMonitorTransfer r).1 :=
      ⟨⟨rfl, headers_removeFromFirst r _, rfl⟩, rfl, rfl⟩
    exact (hdeactivate.trans hremove).trans (ih _)

/-- A monitor transfer is added to one connection, if at all. -/
theorem sameStart_createMonitorTransfer (E : Env ε) (core : BridgeCore) (id : String)
    (key : BridgePduKey) (policy : MonitorPolicy) (dst : Option EndpointRef) (h : Host ε) :
    SameStart core (core.createMonitorTransfer E id key policy dst h).1.1 := by
  rcases createMonitorTransfer_cases E core id key policy dst h with
    ⟨message, heq⟩ | ⟨i, t, h', -, -, heq⟩
  · rw [heq]
    exact SameStart.refl core
  · rw [heq]
    exact sameStart_modifyConnection core i fun c => rfl

/-- What a request selects is set by the build. -/
theorem SameSetup.resolveMonitorSelection {core core' : BridgeCore} (h : SameSetup core core')
    (id : String) (filters : List MonitorFilter) :
    core'.resolveMonitorSelection E id filters = core.resolveMonitorSelection E id filters := by
  have hfind : ∀ cs cs' : List BridgeConnection, cs'.map (·.header) = cs.map (·.header) →
      (cs'.find? fun c => c.connectionId == id).map (·.header) =
        (cs.find? fun c => c.connectionId == id).map (·.header) := by
    intro cs cs' hheaders
    have hsame : ∀ ds : List BridgeConnection,
        (ds.find? fun c => c.connectionId == id).map (·.header) =
          (ds.map (·.header)).find? fun header => header.2.1 == id := fun ds => by
      rw [List.find?_map]
      rfl
    rw [hsame, hsame, hheaders]
  have hfound := hfind _ _ h.headers
  unfold BridgeCore.resolveMonitorSelection
  rw [h.transferable]
  cases hc : core.connections.find? fun c => c.connectionId == id with
  | none =>
    rw [hc] at hfound
    rw [Option.map_eq_none_iff.1 hfound]
  | some c =>
    rw [hc] at hfound
    obtain ⟨c', hc', hheader⟩ := Option.map_eq_some_iff.1 hfound
    simp only [BridgeConnection.header, Prod.mk.injEq] at hheader
    rw [hc']
    dsimp only
    rw [hheader.2.1, hheader.2.2.1]

@[simp] theorem isRunning_createMonitorTransfer (E : Env ε) (core : BridgeCore) (id : String)
    (key : BridgePduKey) (policy : MonitorPolicy) (dst : Option EndpointRef) (h : Host ε) :
    (core.createMonitorTransfer E id key policy dst h).1.1.isRunning = core.isRunning := by
  rcases createMonitorTransfer_cases E core id key policy dst h with
    ⟨message, heq⟩ | ⟨i, t, h', -, -, heq⟩
  · rw [heq]
  · rw [heq]
    rfl

@[simp] theorem isRunning_retireTransfers (core : BridgeCore) (transfers : List Nat) :
    (core.retireTransfers transfers).isRunning = core.isRunning := by
  unfold retireTransfers
  induction transfers generalizing core with
  | nil => rfl
  | cons r rs ih => exact ih _

end BridgeCore

namespace Bridge

open BridgeCore

theorem sameStart_loadRunning (stopAt : Option Nat) (k : Nat) (core : BridgeCore) :
    SameStart core (loadRunning stopAt k core) := by
  unfold loadRunning
  split_ifs
  · exact sameStart_isRunning core false
  · exact SameStart.refl core

/-- So are those of an attach, whenever it is stopped. -/
theorem sameStart_createMonitorTransfers (E : Env ε) (stopAt : Option Nat)
    (spec : MonitorSessionSpec) (k : Nat) (keys : List BridgePduKey) (s : BridgeCore × Host ε) :
    SameStart s.1 (createMonitorTransfers E stopAt spec k keys s).1.1 := by
  induction keys generalizing k s with
  | nil => exact SameStart.refl s.1
  | cons key keys ih =>
    have hload := sameStart_loadRunning stopAt k s.1
    have hcreate := sameStart_createMonitorTransfer E (loadRunning stopAt k s.1) spec.connectionId
      key (effectivePolicy spec.policy) spec.destinationEndpoint s.2
    unfold createMonitorTransfers
    split
    · next heq =>
      rw [heq] at hcreate
      exact hload.trans hcreate
    · next heq =>
      rw [heq] at hcreate
      exact (hload.trans hcreate).trans (ih (k + 1) _)

/-- An attach adds transfers, and a failed one takes them back. -/
theorem sameStart_attachMonitor (E : Env ε) (stopAt : Option Nat) (spec : MonitorSessionSpec)
    (b : Bridge ε) : SameStart b.core (b.attachMonitor E stopAt spec).1.core := by
  have hload := sameStart_loadRunning stopAt 0 b.core
  unfold attachMonitor
  dsimp only
  split
  · exact hload
  · next selection hadmitted =>
    have hcreate := sameStart_createMonitorTransfers E stopAt spec 1 (monitorKeys spec selection)
      (loadRunning stopAt 0 b.core, b.host)
    split
    · next heq =>
      rw [heq] at hcreate
      exact (hload.trans hcreate).trans (sameStart_retireTransfers _ _)
    · next heq =>
      rw [heq] at hcreate
      exact hload.trans hcreate

theorem sameStart_detachMonitor (b : Bridge ε) (sessionId : String) :
    SameStart b.core (b.detachMonitor sessionId).1.core := by
  unfold detachMonitor
  split_ifs
  · exact sameStart_retireTransfers b.core _
  · exact SameStart.refl b.core

theorem sameStart_shutdown (E : Env ε) (b : Bridge ε) :
    SameStart b.core (b.shutdown E).core := by
  unfold shutdown
  split_ifs
  · exact SameStart.refl b.core
  · exact sameStart_retireTransfers b.core _

/-- The control plane keeps the core as it was set up and started. -/
theorem sameStart_plane (core : BridgeCore) :
    PlaneClosed fun b : Bridge ε => SameStart core b.core where
  runtime _ _ _ h := h
  accept _ _ _ h := h
  detach b sessionId h := h.trans (sameStart_detachMonitor b sessionId)

/-- A request is at most an attach or a detach. -/
theorem sameStart_handleRequest (E : Env ε) (authorizer : Option Authorizer)
    (stopAt : Option Nat) (req : Json) (ep : Option EndpointRef) (b : Bridge ε) :
    SameStart b.core (b.handleRequest E authorizer stopAt req ep).1.core := by
  rcases handleRequest_cases E authorizer stopAt req ep b with
    ⟨⟨e, -, heq⟩, -⟩ | ⟨id, -, heq, -⟩ | ⟨spec, -, heq, -⟩
  · rw [heq]
    exact SameStart.refl b.core
  · rw [heq]
    exact sameStart_detachMonitor b id
  · rw [heq]
    exact sameStart_attachMonitor E stopAt spec b

/-- A stop clears the running flag and ends the sessions. -/
theorem sameStart_stop (E : Env ε) (b : Bridge ε) : SameStart b.core (b.stop E).core := by
  unfold Bridge.stop
  dsimp only
  split_ifs
  · exact (sameStart_isRunning b.core false).trans
      (sameStart_shutdown E { b with core := { b.core with isRunning := false } })
  · exact sameStart_isRunning b.core false

/-- A trigger of the core is about the host and, behind it, the control plane. -/
theorem sameStart_cyclicTrigger (E : Env ε) (accepted : List String) (b : Bridge ε) :
    SameStart b.core (b.cyclicTrigger E accepted).1.core := by
  unfold Bridge.cyclicTrigger
  split_ifs
  · exact SameStart.refl b.core
  · refine (sameStart_plane b.core).processControlPlaneOnce ?_ E accepted
    exact SameStart.refl b.core
  · exact SameStart.refl b.core

/-- The active flag of a connection is below its header. -/
theorem sameStart_setConnectionActive (core : BridgeCore) (id : String) (isActive : Bool) :
    SameStart core (core.setConnectionActive id isActive).1 := by
  unfold BridgeCore.setConnectionActive
  split
  · exact sameStart_modifyConnection core _ fun c => rfl
  · exact SameStart.refl core

/-- So is its epoch. -/
theorem sameStart_incrementConnectionEpoch (core : BridgeCore) (id : String) :
    SameStart core (core.incrementConnectionEpoch id).1 := by
  unfold BridgeCore.incrementConnectionEpoch
  split
  · exact sameStart_modifyConnection core _ fun c => rfl
  · exact SameStart.refl core

/-- Letting go of the runtime ends the sessions. -/
theorem sameStart_detachMonitorRuntime (E : Env ε) (b : Bridge ε) :
    SameStart b.core (b.detachMonitorRuntime E).core := by
  unfold Bridge.detachMonitorRuntime
  split_ifs
  · exact sameStart_shutdown E { b with runtimeAttached := false }
  · exact SameStart.refl b.core

/-- A control message is a request and the bookkeeping behind it. -/
theorem sameStart_controlMessage (E : Env ε) (stopAt : Option Nat) (name : String)
    (message : Option Json) (b : Bridge ε) :
    SameStart b.core (b.controlMessage E stopAt name message).1.core := by
  unfold Bridge.controlMessage
  split_ifs
  · exact SameStart.refl b.core
  · cases message with
    | none => exact SameStart.refl b.core
    | some req =>
      exact (sameStart_plane b.core).recordAnswer
        (sameStart_handleRequest E none stopAt req (some (.session name)) b) name req _

/-- **Steps after the start.** Unless it is a start that takes effect, a step keeps what a build
and a start set. -/
theorem sameStart_step (E : Env ε) (b : Bridge ε) (op : Op ε)
    (hstart : op = .start → b.core.isRunning = true) : SameStart b.core (b.step E op).1.core := by
  cases op with
  | start =>
    show SameStart b.core (b.core.start E b.host.env).1
    unfold BridgeCore.start
    rw [if_pos (hstart rfl)]
    exact SameStart.refl b.core
  | stop => exact sameStart_stop E b
  | environment f => exact SameStart.refl b.core
  | reception endpointId key data => exact SameStart.refl b.core
  | cyclicTrigger accepted => exact sameStart_cyclicTrigger E accepted b
  | setConnectionActive id isActive => exact sameStart_setConnectionActive b.core id isActive
  | incrementConnectionEpoch id => exact sameStart_incrementConnectionEpoch b.core id
  | addTransferPdu i transfer => exact sameStart_modifyConnection b.core i fun c => rfl
  | initializeRuntime options openErr startErr => exact SameStart.refl b.core
  | attachMonitorRuntime => exact SameStart.refl b.core
  | detachMonitorRuntime => exact sameStart_detachMonitorRuntime E b
  | controlMessage stopAt name message => exact sameStart_controlMessage E stopAt name message b
  | session op =>
    cases op with
    | attachMonitor stopAt spec => exact sameStart_attachMonitor E stopAt spec b
    | detachMonitor id => exact sameStart_detachMonitor b id
    | handleRequest authorizer stopAt req ep =>
      exact sameStart_handleRequest E authorizer stopAt req ep b
    | shutdown => exact sameStart_shutdown E b

/-- Every step keeps what a build sets. -/
theorem sameSetup_step (E : Env ε) (b : Bridge ε) (op : Op ε) :
    SameSetup b.core (b.step E op).1.core := by
  by_cases hop : op = .start ∧ b.core.isRunning = false
  · obtain ⟨rfl, hstopped⟩ := hop
    show SameSetup b.core (b.core.start E b.host.env).1
    unfold BridgeCore.start
    rw [if_neg (by simp [hstopped])]
    exact ⟨rfl, rfl, rfl⟩
  · refine (sameStart_step E b op fun hstart => ?_).toSameSetup
    simpa using fun hstopped => hop ⟨hstart, hstopped⟩

/-- **Runs keep what a build sets.** -/
theorem sameSetup_run (E : Env ε) (b : Bridge ε) (ops : List (Op ε)) :
    SameSetup b.core (run (step E) b ops).1.core := by
  have hkeep : ∀ (b' : Bridge ε) (op : Op ε), SameSetup b.core b'.core →
      SameSetup b.core (b'.step E op).1.core :=
    fun b' op h => h.trans (sameSetup_step E b' op)
  exact run_invariant_of_forall hkeep (SameSetup.refl b.core) ops

/-! ## The running flag -/

@[simp] theorem isRunning_detachMonitor (b : Bridge ε) (sessionId : String) :
    (b.detachMonitor sessionId).1.core.isRunning = b.core.isRunning := by
  unfold detachMonitor
  split_ifs
  · exact isRunning_retireTransfers _ _
  · rfl

@[simp] theorem isRunning_shutdown (E : Env ε) (b : Bridge ε) :
    (b.shutdown E).core.isRunning = b.core.isRunning := by
  unfold shutdown
  split_ifs
  · rfl
  · exact isRunning_retireTransfers _ _

/-- An attach to a core that is not running is refused. -/
theorem attachMonitor_of_stopped (stopAt : Option Nat) (spec : MonitorSessionSpec) {b : Bridge ε}
    (h : b.core.isRunning = false) : (b.attachMonitor E stopAt spec).1.core.isRunning = false := by
  have hload : (loadRunning stopAt 0 b.core).isRunning = false := by
    unfold loadRunning
    split_ifs
    · rfl
    · exact h
  have hadmitted : (loadRunning stopAt 0 b.core).admitMonitor E spec = none := by
    unfold BridgeCore.admitMonitor
    rw [if_pos hload]
  unfold attachMonitor
  dsimp only
  rw [hadmitted]
  exact hload

theorem stopped_plane : PlaneClosed fun b : Bridge ε => b.core.isRunning = false where
  runtime _ _ _ h := h
  accept _ _ _ h := h
  detach b sessionId h := (isRunning_detachMonitor b sessionId).trans h

theorem stopped_handleRequest (authorizer : Option Authorizer) (stopAt : Option Nat) (req : Json)
    (ep : Option EndpointRef) {b : Bridge ε} (h : b.core.isRunning = false) :
    (b.handleRequest E authorizer stopAt req ep).1.core.isRunning = false := by
  rcases handleRequest_cases E authorizer stopAt req ep b with
    ⟨⟨e, -, heq⟩, -⟩ | ⟨id, -, heq, -⟩ | ⟨spec, -, heq, -⟩
  · rw [heq]
    exact h
  · rw [heq, isRunning_detachMonitor]
    exact h
  · rw [heq]
    exact attachMonitor_of_stopped stopAt spec h

/-- **Only a start sets the running flag.** -/
theorem stopped_step {b : Bridge ε} (h : b.core.isRunning = false) {op : Op ε}
    (hop : op ≠ .start) : (b.step E op).1.core.isRunning = false := by
  cases op with
  | start => exact absurd rfl hop
  | stop =>
    show (b.stop E).core.isRunning = false
    unfold Bridge.stop
    dsimp only
    split_ifs
    · exact isRunning_shutdown E { b with core := { b.core with isRunning := false } }
    · rfl
  | cyclicTrigger accepted =>
    show (b.cyclicTrigger E accepted).1.core.isRunning = false
    unfold Bridge.cyclicTrigger
    rw [if_pos h]
    exact h
  | setConnectionActive id isActive =>
    show (b.core.setConnectionActive id isActive).1.isRunning = false
    unfold BridgeCore.setConnectionActive
    split <;> exact h
  | incrementConnectionEpoch id =>
    show (b.core.incrementConnectionEpoch id).1.isRunning = false
    unfold BridgeCore.incrementConnectionEpoch
    split <;> exact h
  | detachMonitorRuntime =>
    show (b.detachMonitorRuntime E).core.isRunning = false
    unfold Bridge.detachMonitorRuntime
    split_ifs
    · exact (isRunning_shutdown E { b with runtimeAttached := false }).trans h
    · exact h
  | controlMessage stopAt name message =>
    show (b.controlMessage E stopAt name message).1.core.isRunning = false
    unfold Bridge.controlMessage
    split_ifs
    · exact h
    · cases message with
      | none => exact h
      | some req =>
        exact stopped_plane.recordAnswer
          (stopped_handleRequest none stopAt req (some (.session name)) h) name req _
  | session op =>
    cases op with
    | attachMonitor stopAt spec => exact attachMonitor_of_stopped stopAt spec h
    | detachMonitor id => exact (isRunning_detachMonitor b id).trans h
    | handleRequest authorizer stopAt req ep =>
      exact stopped_handleRequest authorizer stopAt req ep h
    | shutdown => exact (isRunning_shutdown E b).trans h
  | _ => exact h

/-! ## What stays of a build -/

/-- Every connection has kept the source that a build gave it. -/
theorem source_of_boot {cfg : BridgeConfig} {nodeName : String} {container : List String} {e : ε}
    {b₀ : Bridge ε} (hboot : boot E cfg nodeName container e = some b₀) (ops : List (Op ε))
    {c : BridgeConnection} (hc : c ∈ (run (step E) b₀ ops).1.core.connections) :
    ∃ src, c.srcEndpoint = some src := by
  obtain ⟨e₀, hbuilt⟩ := (booted_of_boot hboot).built
  have hheader : c.header ∈ b₀.core.connections.map (·.header) := by
    rw [← (sameSetup_run E b₀ ops).headers]
    exact List.mem_map_of_mem hc
  obtain ⟨c₀, hc₀, hsame⟩ := List.mem_map.1 hheader
  obtain ⟨id, hsrc⟩ := hbuilt.src c₀ hc₀
  simp only [BridgeConnection.header, Prod.mk.injEq] at hsame
  exact ⟨_, hsame.2.2.1.symm.trans hsrc⟩

end Bridge

end HakoniwaBridge
