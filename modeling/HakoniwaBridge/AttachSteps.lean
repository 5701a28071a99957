import HakoniwaBridge.Statics

/-!
# Attaching and stopping, step by step

Any number of threads are inside `attach_monitor` while the main thread is inside
`BridgeCore::stop`. A step ends where another thread can see what was done: at each load of the
running flag, at each transfer that is handed to its connection or taken from it, and at the
sections under `session_mtx_`.

* `AttachPc`, `StopPc` — where an `attach_monitor` stands, and where `stop` does.
* `Halt` — a bridge with both in progress; everything else that a bridge does is one step.
* `attach_eq_attachMonitor`, `stop_eq_stop` — without interleaving these are the operations of a
  bridge.
-/

namespace HakoniwaBridge

open Lib

variable {ε : Type} {E : Env ε}

/-- Where a call of `attach_monitor` stands. `keys` are the keys for which `create_monitor_transfer`
is still to be called, `created` the transfers that it has yielded. -/
inductive AttachPc
  | idle
  | resolving (spec : MonitorSessionSpec)
  | creating (spec : MonitorSessionSpec) (selection : ResolvedMonitorSelection)
      (keys : List BridgePduKey) (created : List Nat)
  | making (spec : MonitorSessionSpec) (selection : ResolvedMonitorSelection) (key : BridgePduKey)
      (keys : List BridgePduKey) (created : List Nat)
  | rollingBack (created : List Nat)

/-- Where `stop` stands. -/
inductive StopPc
  | before
  | cleared
  | stopped
  deriving DecidableEq

/-- The transfers that a call of `attach_monitor` has made and not yet listed. -/
def AttachPc.created : AttachPc → List Nat
  | .creating _ _ _ created => created
  | .making _ _ _ _ created => created
  | .rollingBack created => created
  | _ => []

/-- Source: `attach_monitor`, the loop over the keys, after a call of `create_monitor_transfer`. -/
def AttachPc.afterCall (spec : MonitorSessionSpec) (selection : ResolvedMonitorSelection)
    (keys : List BridgePduKey) (created : List Nat) : Except String Nat → AttachPc
  | .error _ => .rollingBack created
  | .ok transfer => .creating spec selection keys (created ++ [transfer])

/-- A bridge, what its control threads are attaching, and what the main thread does. -/
structure Halt (ε : Type) where
  bridge : Bridge ε
  attaches : Nat → AttachPc := fun _ => .idle
  stop : StopPc := .before

/-- The thread `i` calls `attach_monitor` or takes its next step; the main thread takes the next
step of `stop`; anything else happens to the bridge. -/
inductive HaltOp (ε : Type)
  | attach (i : Nat) (spec : MonitorSessionSpec)
  | attachTurn (i : Nat)
  | stopTurn
  | bridge (op : Op ε)

namespace Halt

/-- The thread `i` gets to `pc`. -/
def setAttach (s : Halt ε) (i : Nat) (pc : AttachPc) : Halt ε :=
  { s with attaches := Function.update s.attaches i pc }

/-- Source: `attach_monitor`, up to the selection of the keys. -/
def attach (i : Nat) (spec : MonitorSessionSpec) (s : Halt ε) : Halt ε :=
  match s.attaches i with
  | .idle =>
    if s.bridge.core.isRunning = false then s
    else if spec.connectionId = "" then s
    else if isSupportedMonitorPolicy (effectivePolicy spec.policy) = false then s
    else s.setAttach i (.resolving spec)
  | _ => s

/-- Source: `create_monitor_transfer`, after the load of the running flag. -/
def make (E : Env ε) (spec : MonitorSessionSpec) (key : BridgePduKey) (b : Bridge ε) :
    Bridge ε × Except String Nat :=
  let made := { b.core with isRunning := true }.createMonitorTransfer E spec.connectionId key
    (effectivePolicy spec.policy) spec.destinationEndpoint b.host
  ({ b with core := { made.1.1 with isRunning := b.core.isRunning }, host := made.1.2 }, made.2)

/-- Source: `attach_monitor`, the next step. -/
def attachTurn (E : Env ε) (i : Nat) (s : Halt ε) : Halt ε :=
  match s.attaches i with
  | .idle => s
  | .resolving spec =>
    match s.bridge.core.resolveMonitorSelection E spec.connectionId spec.filters with
    | .error _ => s.setAttach i .idle
    | .ok selection =>
      s.setAttach i (.creating spec selection (Bridge.monitorKeys spec selection) [])
  | .creating spec selection (key :: keys) created =>
    if s.bridge.core.isRunning = false then s.setAttach i (.rollingBack created)
    else s.setAttach i (.making spec selection key keys created)
  | .making spec selection key keys created =>
    let made := make E spec key s.bridge
    { s.setAttach i (.afterCall spec selection keys created made.2) with bridge := made.1 }
  | .creating spec selection [] created =>
    let inserted := s.bridge.runtime.insertSession (Bridge.sessionInfo spec selection) created
      spec.destinationEndpoint
    { s.setAttach i .idle with bridge := { s.bridge with runtime := inserted.1 } }
  | .rollingBack (transfer :: created) =>
    { s.setAttach i (.rollingBack created) with
      bridge := { s.bridge with core := s.bridge.core.retireTransfers [transfer] } }
  | .rollingBack [] => s.setAttach i .idle

/-- Source: `bridge_core.cpp`, `BridgeCore::stop`: the store, then the shutdown of the runtime. -/
def stopTurn (E : Env ε) (s : Halt ε) : Halt ε :=
  match s.stop with
  | .before =>
    { s with
      bridge := { s.bridge with core := { s.bridge.core with isRunning := false } }
      stop := .cleared }
  | .cleared =>
    { s with
      bridge := if s.bridge.runtimeAttached then s.bridge.shutdown E else s.bridge
      stop := .stopped }
  | .stopped => s

/-- One step. -/
def step (E : Env ε) (s : Halt ε) : HaltOp ε → Halt ε × List Event
  | .attach i spec => (s.attach i spec, [])
  | .attachTurn i => (s.attachTurn E i, [])
  | .stopTurn => (s.stopTurn E, [])
  | .bridge op => ({ s with bridge := (s.bridge.step E op).1 }, (s.bridge.step E op).2)

/-! ## Without interleaving -/

/-- The two steps of `stop` are those of the bridge. -/
theorem stop_eq_stop (s : Halt ε) (hbefore : s.stop = .before) :
    (run (step E) s [.stopTurn, .stopTurn]).1 =
      { s with bridge := s.bridge.stop E, stop := .stopped } := by
  show ((s.stopTurn E).stopTurn E) = _
  unfold stopTurn Bridge.stop
  rw [hbefore]

/-- The thread `i` stands at `pc`, and the bridge is `b`. -/
def placed (s : Halt ε) (i : Nat) (pc : AttachPc) (b : Bridge ε) : Halt ε :=
  { s.setAttach i pc with bridge := b }

@[simp] theorem attaches_placed (s : Halt ε) (i : Nat) (pc : AttachPc) (b : Bridge ε) :
    (s.placed i pc b).attaches i = pc := Function.update_self _ _ _

theorem setAttach_placed (s : Halt ε) (i : Nat) (pc pc' : AttachPc) (b : Bridge ε) :
    (s.placed i pc b).setAttach i pc' = s.placed i pc' b := by
  simp only [placed, setAttach, Function.update_idem]

theorem placed_self {s : Halt ε} {i : Nat} {pc : AttachPc} (h : s.attaches i = pc) (b : Bridge ε) :
    s.placed i pc b = { s with bridge := b } := by
  subst h
  simp only [placed, setAttach, Function.update_eq_self]

/-- The thread `i` gets from one state to another by steps of its own. -/
def AttachReaches (E : Env ε) (i : Nat) (s t : Halt ε) : Prop :=
  ∃ n, (run (step E) s (List.replicate n (.attachTurn i))).1 = t

namespace AttachReaches

variable {i : Nat} {s s' t u : Halt ε}

theorem refl (i : Nat) (s : Halt ε) : AttachReaches E i s s := ⟨0, rfl⟩

/-- A turn that comes before a run of turns. -/
theorem head (h : s.attachTurn E i = s') (hrest : AttachReaches E i s' t) :
    AttachReaches E i s t := by
  obtain ⟨n, hn⟩ := hrest
  refine ⟨n + 1, ?_⟩
  rw [List.replicate_succ, run_cons_fst, ← hn, ← h]
  rfl

theorem trans (hst : AttachReaches E i s t) (htu : AttachReaches E i t u) :
    AttachReaches E i s u := by
  obtain ⟨m, hm⟩ := hst
  obtain ⟨n, hn⟩ := htu
  refine ⟨m + n, ?_⟩
  rw [List.replicate_add, run_append_fst, hm, hn]

end AttachReaches

/-- The rollback retires the transfers one by one, and ends the call. -/
theorem rollingBack_reaches (s : Halt ε) (i : Nat) (created : List Nat) (b : Bridge ε) :
    AttachReaches E i (s.placed i (.rollingBack created) b)
      (s.placed i .idle { b with core := b.core.retireTransfers created }) := by
  induction created generalizing b with
  | nil =>
    refine .head ?_ (.refl i _)
    unfold attachTurn
    rw [attaches_placed]
    exact setAttach_placed s i _ _ b
  | cons transfer created ih =>
    refine .head ?_ (ih { b with core := b.core.retireTransfers [transfer] })
    unfold attachTurn
    rw [attaches_placed]
    dsimp only
    rw [setAttach_placed]
    rfl

/-- Without interleaving the load inside `create_monitor_transfer` is the one before it. -/
theorem make_of_running {b : Bridge ε} (h : b.core.isRunning = true) (spec : MonitorSessionSpec)
    (key : BridgePduKey) {core : BridgeCore} {host : Host ε} {res : Except String Nat}
    (hcreate : b.core.createMonitorTransfer E spec.connectionId key (effectivePolicy spec.policy)
      spec.destinationEndpoint b.host = ((core, host), res)) :
    make E spec key b = ({ b with core := core, host := host }, res) := by
  have hcore : { b.core with isRunning := true } = b.core := by
    rw [← h]
  have hkeep := BridgeCore.isRunning_createMonitorTransfer E b.core spec.connectionId key
    (effectivePolicy spec.policy) spec.destinationEndpoint b.host
  unfold make
  rw [hcore, hcreate]
  rw [hcreate] at hkeep
  dsimp only at hkeep ⊢
  rw [← hkeep]

/-- The turn in which a transfer is made. -/
theorem attachTurn_making (s : Halt ε) (i : Nat) (spec : MonitorSessionSpec)
    (selection : ResolvedMonitorSelection) (key : BridgePduKey) (keys : List BridgePduKey)
    (created : List Nat) (b : Bridge ε) :
    (s.placed i (.making spec selection key keys created) b).attachTurn E i =
      s.placed i (.afterCall spec selection keys created (make E spec key b).2)
        (make E spec key b).1 := by
  unfold attachTurn
  rw [attaches_placed]
  dsimp only
  rw [setAttach_placed]
  rfl

/-- The loop over the keys. -/
theorem creating_reaches (s : Halt ε) (i : Nat) (spec : MonitorSessionSpec)
    (selection : ResolvedMonitorSelection) (k : Nat) (keys : List BridgePduKey)
    (created : List Nat) (b : Bridge ε) :
    let r := Bridge.createMonitorTransfers E none spec k keys (b.core, b.host)
    AttachReaches E i (s.placed i (.creating spec selection keys created) b)
      (s.placed i
        (if r.2.2 then .creating spec selection [] (created ++ r.2.1)
          else .rollingBack (created ++ r.2.1))
        { b with core := r.1.1, host := r.1.2 }) := by
  intro r
  induction keys generalizing k created b with
  | nil =>
    have hr : r = ((b.core, b.host), [], true) := rfl
    rw [hr, List.append_nil]
    exact .refl i _
  | cons key keys ih =>
    have hload : Bridge.loadRunning none k b.core = b.core :=
      Bridge.loadRunning_of_ne (by simp) b.core
    have hcheck : (s.placed i (.creating spec selection (key :: keys) created) b).attachTurn E i =
        if b.core.isRunning = false then s.placed i (.rollingBack created) b
        else s.placed i (.making spec selection key keys created) b := by
      unfold attachTurn
      rw [attaches_placed]
      simp only [setAttach_placed]
      rfl
    cases hrun : b.core.isRunning with
    | false =>
      have hr : r = ((b.core, b.host), [], false) := by
        show Bridge.createMonitorTransfers E none spec k (key :: keys) (b.core, b.host) = _
        unfold Bridge.createMonitorTransfers
        rw [hload, createMonitorTransfer_stopped E _ key _ _ b.host hrun]
      rw [if_pos hrun] at hcheck
      rw [hr, List.append_nil]
      exact .head hcheck (.refl i _)
    | true =>
      rw [if_neg (by simp [hrun])] at hcheck
      refine .head hcheck ?_
      rcases hcreate : b.core.createMonitorTransfer E spec.connectionId key
        (effectivePolicy spec.policy) spec.destinationEndpoint b.host with ⟨⟨core, host⟩, res⟩
      have hmake := attachTurn_making (E := E) s i spec selection key keys created b
      rw [make_of_running hrun spec key hcreate] at hmake
      refine .head hmake ?_
      cases res with
      | error message =>
        have hr : r = ((core, host), [], false) := by
          show Bridge.createMonitorTransfers E none spec k (key :: keys) (b.core, b.host) = _
          rw [Bridge.createMonitorTransfers, hload, hcreate]
        rw [hr, List.append_nil]
        exact .refl i _
      | ok transfer =>
        have hrest := ih (k + 1) (created ++ [transfer]) { b with core := core, host := host }
        have hr : r = ((Bridge.createMonitorTransfers E none spec (k + 1) keys (core, host)).1,
            transfer :: (Bridge.createMonitorTransfers E none spec (k + 1) keys (core, host)).2.1,
            (Bridge.createMonitorTransfers E none spec (k + 1) keys (core, host)).2.2) := by
          show Bridge.createMonitorTransfers E none spec k (key :: keys) (b.core, b.host) = _
          rw [Bridge.createMonitorTransfers, hload, hcreate]
        simp only [List.append_assoc, List.singleton_append] at hrest
        rw [hr]
        exact hrest

/-- An `attach_monitor` that runs without interruption is the one of the bridge. -/
theorem attach_eq_attachMonitor (s : Halt ε) {i : Nat} (hidle : s.attaches i = .idle)
    (spec : MonitorSessionSpec) :
    ∃ n, (run (step E) s (.attach i spec :: List.replicate n (.attachTurn i))).1 =
      { s with bridge := (s.bridge.attachMonitor E none spec).1 } := by
  have hload : ∀ k, Bridge.loadRunning none k s.bridge.core = s.bridge.core :=
    fun k => Bridge.loadRunning_of_ne (by simp) s.bridge.core
  -- it is enough that the turns get there from where the call leaves the thread
  suffices h : AttachReaches E i (s.attach i spec)
      { s with bridge := (s.bridge.attachMonitor E none spec).1 } from h
  unfold attach Bridge.attachMonitor
  rw [hidle, hload]
  dsimp only
  unfold BridgeCore.admitMonitor
  split_ifs
  · exact .refl i s
  · exact .refl i s
  · exact .refl i s
  · have hplaced : s.setAttach i (.resolving spec) = s.placed i (.resolving spec) s.bridge := rfl
    rw [hplaced]
    cases hselect : s.bridge.core.resolveMonitorSelection E spec.connectionId spec.filters with
    | error message =>
      have hturn : (s.placed i (.resolving spec) s.bridge).attachTurn E i = s := by
        unfold attachTurn
        rw [attaches_placed]
        dsimp only
        rw [setAttach_placed, placed_self hidle]
        simp only [placed, setAttach, hselect]
      exact .head hturn (.refl i s)
    | ok selection =>
      have hturn : (s.placed i (.resolving spec) s.bridge).attachTurn E i =
          s.placed i (.creating spec selection (Bridge.monitorKeys spec selection) [])
            s.bridge := by
        unfold attachTurn
        rw [attaches_placed]
        simp only [setAttach_placed]
        simp only [placed, setAttach, hselect]
      have hloop := creating_reaches (E := E) s i spec selection 1
        (Bridge.monitorKeys spec selection) [] s.bridge
      refine .head hturn (hloop.trans ?_)
      simp only [Except.toOption, List.nil_append]
      rcases Bridge.createMonitorTransfers E none spec 1 (Bridge.monitorKeys spec selection)
        (s.bridge.core, s.bridge.host) with ⟨⟨core, host⟩, transfers, _ | _⟩
      · have hrolled := rollingBack_reaches (E := E) s i transfers
          { s.bridge with core := core, host := host }
        rw [placed_self hidle] at hrolled
        exact hrolled
      · refine .head ?_ (.refl i _)
        unfold attachTurn
        rw [if_pos rfl, attaches_placed]
        dsimp only
        rw [setAttach_placed, placed_self hidle]
        rfl

end Halt

end HakoniwaBridge
