import HakoniwaBridge.DaemonBridge
import HakoniwaBridge.Lib.Simulation
import HakoniwaBridge.WebBridgeArgs

/-!
# The web bridge under the simulation

The callbacks of `web_bridge_daemon.cpp`, which the simulation calls in its own order, with the
interrupt handler and the endpoints' threads beside them.

Assumed are two things: that `create_time_source` yields a time source, and that what the endpoints'
threads do is done in whole steps, none of them in progress while a callback runs.

* `WebBridge` — the global variables; `WebBridge.step` — a callback, an interrupt, or what happens
  outside.
* `WebLife` — what the program is for: a core is absent, runs or is stopped, and an interrupt may be
  pending. `webLife_run`: **the callbacks refine it**, and answer as it does.
* `interrupted_run` — **an interrupt is not lost**: the next simulation step that finds a core ends
  it, and until another core is built no simulation step sends anything and there are no sessions.
-/

namespace HakoniwaBridge

open Lib

variable {ε : Type} {E : Env ε} {options : WebBridgeDaemonOptions}

/-! ## The callbacks -/

/-- What `bridge_on_initialize` meets: the answers of the endpoint container and of the multiplexer,
the configuration (none if the file cannot be read), the endpoints, and the state outside once they
are started. -/
structure WebStart (ε : Type) where
  initializeErr : HakoPduErrorType
  startAllErr : HakoPduErrorType
  postStartErr : HakoPduErrorType
  openErr : HakoPduErrorType
  muxStartErr : HakoPduErrorType
  config : Option BridgeConfig
  endpointIds : List String
  env : ε

/-- Source: `web_bridge_daemon.cpp`, the global variables; the core with its runtime is one, and of
the container and the time sources only their presence counts. -/
structure WebBridge (ε : Type) where
  stopRequested : Bool := false
  endpointContainer : Bool := false
  bridgeTimeSource : Bool := false
  realSleepTimeSource : Bool := false
  core : Option (Bridge ε) := none

/-- A callback of the simulation, the signal handler, and what happens beside them. -/
inductive WebOp (ε : Type)
  | interrupt
  | onInitialize (s : WebStart ε)
  | onSimulationStep (accepted : List String)
  | onReset
  | outside (op : Op ε)

/-- What is seen: the answer of a callback, and what the bridge does. -/
inductive WebEvent
  | initialized (code : Nat)
  | stepped (code : Nat)
  | wasReset (code : Nat)
  | bridge (e : Event)

/-- The core that a build in `bridge_on_initialize` yields. -/
def WebStart.built (E : Env ε) (options : WebBridgeDaemonOptions) (s : WebStart ε) :
    Option (Bridge ε) :=
  s.config.bind fun cfg => Bridge.boot E cfg options.nodeName s.endpointIds s.env

namespace WebBridge

/-- Source: `web_bridge_daemon.cpp`, `bridge_on_initialize`. -/
def bridgeOnInitialize (E : Env ε) (options : WebBridgeDaemonOptions) (s : WebStart ε)
    (w : WebBridge ε) : WebBridge ε × Nat :=
  let w₁ := { w with endpointContainer := true }
  if s.initializeErr ≠ .ok then (w₁, 1)
  else if s.startAllErr ≠ .ok then (w₁, 1)
  else if s.postStartErr ≠ .ok then (w₁, 1)
  else
    let w₂ := { w₁ with bridgeTimeSource := true, realSleepTimeSource := true }
    match s.built E options with
    | none => (w₂, 1)
    | some built =>
      let b := (built.step E .start).1
      if options.enableOndemand = false then ({ w₂ with core := some b }, 0)
      else
        let initialized := b.runtime.initializeRuntime
          { enableOndemand := true, ondemandMuxConfigPath := options.ondemandMuxConfigPath }
          s.openErr s.muxStartErr
        if initialized.2 ≠ .ok then
          ({ w₂ with core := some { b with runtime := initialized.1 } }, 1)
        else
          ({ w₂ with core := some { b with runtime := initialized.1, runtimeAttached := true } }, 0)

/-- Source: `web_bridge_daemon.cpp`, `bridge_on_simulation_step`. -/
def bridgeOnSimulationStep (E : Env ε) (accepted : List String) (w : WebBridge ε) :
    WebBridge ε × Nat × List Event :=
  match w.core with
  | none => (w, 1, [])
  | some b =>
    if w.bridgeTimeSource = false then (w, 1, [])
    else
      let r := (if w.stopRequested then b.stop E else b).cyclicTrigger E accepted
      ({ w with stopRequested := false, core := some r.1 }, 0, r.2)

/-- Source: `web_bridge_daemon.cpp`, `bridge_on_reset`. What the runtime and the container do when
they are shut down is outside. -/
def bridgeOnReset (w : WebBridge ε) : WebBridge ε × Nat :=
  ({ w with
     core := none
     bridgeTimeSource := false
     realSleepTimeSource := false
     endpointContainer := false }, 0)

/-- One callback, one interrupt, or one operation outside. -/
def step (E : Env ε) (options : WebBridgeDaemonOptions) (w : WebBridge ε) :
    WebOp ε → WebBridge ε × List WebEvent
  | .interrupt => ({ w with stopRequested := true }, [])
  | .onInitialize s =>
    ((w.bridgeOnInitialize E options s).1, [.initialized (w.bridgeOnInitialize E options s).2])
  | .onSimulationStep accepted =>
    let r := w.bridgeOnSimulationStep E accepted
    (r.1, .stepped r.2.1 :: r.2.2.map .bridge)
  | .onReset => (w.bridgeOnReset.1, [.wasReset w.bridgeOnReset.2])
  | .outside op =>
    match w.core with
    | none => (w, [])
    | some b => ({ w with core := some (b.step E op).1 }, (b.step E op).2.map .bridge)

end WebBridge

/-! ## Lives -/

/-- A core is there or not, and runs or not. -/
inductive Life
  | absent
  | running
  | stopped

/-- The life of the core, and whether an interrupt is pending. -/
structure WebLife where
  life : Life := .absent
  pending : Bool := false

/-- What can happen to a life: a core is built, or what the callbacks are called for. -/
inductive LifeOp
  | interrupt
  | build
  | simulationStep
  | reset

/-- A pending interrupt ends the core at the next step, and a step without a core fails. -/
def WebLife.step (l : WebLife) : LifeOp → WebLife × List Nat
  | .interrupt => ({ l with pending := true }, [])
  | .build => ({ l with life := .running }, [])
  | .simulationStep =>
    match l.life with
    | .absent => (l, [1])
    | life => (⟨if l.pending then .stopped else life, false⟩, [0])
  | .reset => ({ l with life := .absent }, [])

/-- `bridge_on_initialize` gets as far as a core. -/
def WebStart.builds (E : Env ε) (options : WebBridgeDaemonOptions) (s : WebStart ε) : Bool :=
  decide (s.initializeErr = .ok ∧ s.startAllErr = .ok ∧ s.postStartErr = .ok) &&
    (s.built E options).isSome

/-- What an operation is to the life of the core. -/
def WebOp.toLife (E : Env ε) (options : WebBridgeDaemonOptions) : WebOp ε → List LifeOp
  | .interrupt => [.interrupt]
  | .onInitialize s => if s.builds E options then [.build] else []
  | .onSimulationStep _ => [.simulationStep]
  | .onReset => [.reset]
  | .outside _ => []

/-- The answers of the simulation steps. -/
def WebEvent.answer : WebEvent → List Nat
  | .stepped code => [code]
  | _ => []

/-- What happens outside is no more than the other threads can do, each step of it before or after a
callback. -/
def WebOp.Admitted : WebOp ε → Prop
  | .outside op => op.isOutside = true
  | _ => True

namespace WebBridge

/-- The life of the core. -/
def life (w : WebBridge ε) : Life :=
  match w.core with
  | none => .absent
  | some b => if b.core.isRunning then .running else .stopped

/-- The variables stand for a life. -/
structure Represents (w : WebBridge ε) (l : WebLife) : Prop where
  life : w.life = l.life
  pending : w.stopRequested = l.pending
  timeSource : w.core.isSome = true → w.bridgeTimeSource = true
  managed : ∀ b, w.core = some b → b.Managed

variable {w : WebBridge ε} {l : WebLife}

/-- An initialization builds a core that runs, or leaves the one that is there. -/
theorem bridgeOnInitialize_cases (E : Env ε) (options : WebBridgeDaemonOptions) (s : WebStart ε)
    (w : WebBridge ε) :
    (w.bridgeOnInitialize E options s).1.stopRequested = w.stopRequested ∧
    if s.builds E options then
      (w.bridgeOnInitialize E options s).1.bridgeTimeSource = true ∧
        ∃ b, (w.bridgeOnInitialize E options s).1.core = some b ∧ b.core.isRunning = true ∧
          b.Managed
    else
      (w.bridgeOnInitialize E options s).1.core = w.core ∧
        (w.bridgeTimeSource = true →
          (w.bridgeOnInitialize E options s).1.bridgeTimeSource = true) := by
  unfold bridgeOnInitialize WebStart.builds
  by_cases hinit : s.initializeErr = .ok
  case neg => simp [hinit]
  by_cases hstartAll : s.startAllErr = .ok
  case neg => simp [hinit, hstartAll]
  by_cases hpostStart : s.postStartErr = .ok
  case neg => simp [hinit, hstartAll, hpostStart]
  cases hbuilt : s.built E options with
  | none => simp [hinit, hstartAll, hpostStart]
  | some built =>
    obtain ⟨cfg, -, hboot⟩ := Option.bind_eq_some_iff.1 hbuilt
    obtain ⟨hrunning, hruntime, -⟩ := Bridge.started_of_boot built.host.env hboot
    rw [if_neg (by simp [hinit]), if_neg (by simp [hstartAll]), if_neg (by simp [hpostStart]),
      if_pos (by simp [hinit, hstartAll, hpostStart])]
    dsimp only
    split_ifs with hondemand hfailed
    · exact ⟨rfl, rfl, _, rfl, hrunning, Bridge.managed_of_fresh hruntime⟩
    · -- the core stays, with a runtime that it does not hold
      obtain ⟨htables, hhandler⟩ := Bridge.notInitialized_of_error hfailed
      refine ⟨rfl, rfl, _, rfl, hrunning, .inr ⟨⟨htables.monitorSessions.trans ?_,
        htables.monitorRuntimeSessions.trans ?_⟩, hhandler.trans ?_⟩⟩
      all_goals rw [hruntime]
    · refine ⟨rfl, rfl, _, rfl, hrunning, .inl ⟨rfl, ?_⟩⟩
      exact Bridge.initialized_of_ok (by simpa using hfailed)

/-- A simulation step with a core. -/
theorem bridgeOnSimulationStep_of_some {b : Bridge ε} (hcore : w.core = some b)
    (htime : w.bridgeTimeSource = true) (accepted : List String) :
    w.bridgeOnSimulationStep E accepted =
      ({ w with
         stopRequested := false
         core := some ((if w.stopRequested then b.stop E else b).cyclicTrigger E accepted).1 }, 0,
        ((if w.stopRequested then b.stop E else b).cyclicTrigger E accepted).2) := by
  unfold bridgeOnSimulationStep
  rw [hcore]
  dsimp only
  rw [if_neg (by simp [htime])]

/-- An initialization begins another life of the core, or changes nothing about it. -/
theorem Represents.onInitialize (h : w.Represents l) (s : WebStart ε) :
    (w.bridgeOnInitialize E options s).1.Represents
      (if s.builds E options then { l with life := .running } else l) := by
  obtain ⟨hpending, hcases⟩ := bridgeOnInitialize_cases E options s w
  split_ifs at hcases ⊢
  · obtain ⟨htime, b, hcore, hrunning, hmanaged⟩ := hcases
    refine ⟨?_, hpending.trans h.pending, fun _ => htime, fun b' hb' => ?_⟩
    · unfold WebBridge.life
      rw [hcore]
      exact if_pos hrunning
    · obtain rfl := Option.some.inj (hcore.symm.trans hb')
      exact hmanaged
  · obtain ⟨hcore, htime⟩ := hcases
    refine ⟨?_, hpending.trans h.pending, fun hsome => htime (h.timeSource (hcore ▸ hsome)),
      fun b hb => h.managed b (hcore ▸ hb)⟩
    rw [← h.life, WebBridge.life, hcore, WebBridge.life]

/-- What a step of a life answers, and where it leads. -/
theorem step_of_life {b : Bridge ε} (hcore : w.core = some b) (h : w.Represents l) :
    l.step .simulationStep = (⟨if l.pending then .stopped else l.life, false⟩, [0]) := by
  have hlife := h.life
  rw [WebBridge.life, hcore] at hlife
  unfold WebLife.step
  rw [← hlife]
  dsimp only
  split_ifs <;> rfl

/-- A simulation step takes the interrupt, if there is a core to stop. -/
theorem Represents.onSimulationStep (h : w.Represents l) (accepted : List String) :
    (w.bridgeOnSimulationStep E accepted).1.Represents (l.step .simulationStep).1 ∧
      [(w.bridgeOnSimulationStep E accepted).2.1] = (l.step .simulationStep).2 := by
  cases hcore : w.core with
  | none =>
    have habsent : l.life = .absent := by
      rw [← h.life, WebBridge.life, hcore]
    have hstep : w.bridgeOnSimulationStep E accepted = (w, 1, []) := by
      unfold bridgeOnSimulationStep
      rw [hcore]
    have hlife : l.step .simulationStep = (l, [1]) := by
      unfold WebLife.step
      rw [habsent]
    rw [hstep, hlife]
    exact ⟨h, rfl⟩
  | some b =>
    have htime := h.timeSource (by rw [hcore]; rfl)
    rw [bridgeOnSimulationStep_of_some hcore htime, step_of_life hcore h]
    have hmanaged : (if w.stopRequested then b.stop E else b).Managed := by
      split_ifs
      · exact (h.managed b hcore).stop.managed
      · exact h.managed b hcore
    refine ⟨⟨?_, rfl, fun _ => htime, fun b' hb' => ?_⟩, rfl⟩
    · have hlife := h.life
      rw [WebBridge.life, hcore] at hlife
      unfold WebBridge.life
      dsimp only at hlife ⊢
      rw [(Bridge.sameMode_cyclicTrigger E accepted _).running, ← h.pending, ← hlife]
      cases w.stopRequested with
      | true =>
        rw [if_pos rfl, if_pos rfl, ((h.managed b hcore).stop (E := E)).stopped]
        rfl
      | false => rfl
    · obtain rfl := Option.some.inj hb'
      exact hmanaged.cyclicTrigger accepted

/-- What happens beside the callbacks leaves the life of the core alone. -/
theorem Represents.outside (h : w.Represents l) {op : Op ε} (hop : op.isOutside = true) :
    (w.step E options (.outside op)).1.Represents l ∧
      (w.step E options (.outside op)).2.flatMap WebEvent.answer = [] := by
  have hevents : ∀ es : List Event, (es.map WebEvent.bridge).flatMap WebEvent.answer = [] :=
    fun es => by simp [WebEvent.answer]
  unfold WebBridge.step
  dsimp only
  cases hcore : w.core with
  | none => exact ⟨h, rfl⟩
  | some b =>
    refine ⟨⟨?_, h.pending, fun _ => h.timeSource (by rw [hcore]; rfl), fun b' hb' => ?_⟩,
      hevents _⟩
    · rw [← h.life, WebBridge.life, WebBridge.life, hcore]
      dsimp only
      rw [(Bridge.sameMode_outside hop b).running]
    · obtain rfl := Option.some.inj hb'
      exact (h.managed b hcore).outside hop

/-- **Step lemma.** -/
theorem Represents.step (h : w.Represents l) {op : WebOp ε} (hop : op.Admitted) :
    (w.step E options op).1.Represents (run WebLife.step l (op.toLife E options)).1 ∧
      (w.step E options op).2.flatMap WebEvent.answer =
        (run WebLife.step l (op.toLife E options)).2 := by
  cases op with
  | interrupt => exact ⟨⟨h.life, rfl, h.timeSource, h.managed⟩, rfl⟩
  | onInitialize s =>
    have hnext : (w.bridgeOnInitialize E options s).1.Represents _ := h.onInitialize s
    unfold WebOp.toLife
    dsimp only
    split_ifs at hnext ⊢ <;> exact ⟨hnext, rfl⟩
  | onSimulationStep accepted =>
    obtain ⟨hnext, hanswer⟩ := h.onSimulationStep (E := E) accepted
    refine ⟨hnext, ?_⟩
    have hevents : ∀ es : List Event, (es.map WebEvent.bridge).flatMap WebEvent.answer = [] :=
      fun es => by simp [WebEvent.answer]
    have hshown : (w.step E options (.onSimulationStep accepted)).2.flatMap WebEvent.answer =
        [(w.bridgeOnSimulationStep E accepted).2.1] := by
      show (WebEvent.stepped _ :: List.map WebEvent.bridge _).flatMap WebEvent.answer = _
      rw [List.flatMap_cons, hevents]
      rfl
    rw [hshown, hanswer]
    exact (List.append_nil _).symm
  | onReset =>
    exact ⟨⟨rfl, h.pending, fun hsome => absurd hsome (by simp [WebBridge.step, bridgeOnReset]),
      nofun⟩, rfl⟩
  | outside op => exact h.outside hop

/-- **The callbacks refine a life.** In whatever order the simulation calls them, with interrupts
and steps of the endpoints' threads in between, the variables stand for the life that the same calls
lead, and the simulation steps answer as it does. -/
theorem webLife_run (E : Env ε) (options : WebBridgeDaemonOptions) {ops : List (WebOp ε)}
    (hops : ∀ op ∈ ops, op.Admitted) :
    (run (WebBridge.step E options) {} ops).1.Represents
        (run WebLife.step {} (ops.flatMap (WebOp.toLife E options))).1 ∧
      (run (WebBridge.step E options) {} ops).2.flatMap WebEvent.answer =
        (run WebLife.step {} (ops.flatMap (WebOp.toLife E options))).2 := by
  have hstart : Represents ({} : WebBridge ε) {} := ⟨rfl, rfl, nofun, nofun⟩
  exact run_simulation (fun _ _ _ h hop => h.step hop) hstart (along_of_ops hops)

/-- A start of the small configuration. -/
def startSmall : WebStart CacheState where
  initializeErr := .ok
  startAllErr := .ok
  postStartErr := .ok
  openErr := .ok
  muxStartErr := .ok
  config := some (BridgeConfig.small ⟨"immediate", none, none⟩ [⟨"k", "r", "pos"⟩] false)
  endpointIds := ["src", "dst"]
  env := CacheState.empty

/-- The environment and the options of the small configuration. -/
def envSmall : Env CacheState := (CacheSpec.small .latest).env none

def optionsSmall : WebBridgeDaemonOptions := { nodeName := "node" }

theorem builds_startSmall : startSmall.builds envSmall optionsSmall = true := rfl

/-- An interrupt before the start ends the core at its first step; a reset takes it away. -/
theorem webLife_small :
    (run (WebBridge.step envSmall optionsSmall) {} [.interrupt, .onInitialize startSmall,
      .onSimulationStep [], .outside (.reception "src" ⟨"r", 1⟩ [0, 7]), .onSimulationStep [],
      .onReset, .onSimulationStep []]).2.flatMap WebEvent.answer = [0, 0, 1] := by
  refine (webLife_run envSmall optionsSmall ?_).2.trans ?_
  · simp [WebOp.Admitted, Op.isOutside]
  · simp [WebOp.toLife, builds_startSmall, WebLife.step]

/-! ## Interrupts -/

/-- There is no core, or one that has been stopped and has no sessions. -/
def Quiet (w : WebBridge ε) : Prop := ∀ b, w.core = some b → b.Ended

/-- Not a start of another core. -/
def NoBuild (E : Env ε) (options : WebBridgeDaemonOptions) (op : WebOp ε) : Prop :=
  ∀ s, op = .onInitialize s → s.builds E options = false

/-- The step makes the core do nothing that is seen. -/
def Silent (E : Env ε) (w : WebBridge ε) (op : WebOp ε) : Prop :=
  ∀ accepted, op = .onSimulationStep accepted → (w.bridgeOnSimulationStep E accepted).2.2 = []

/-- A step in which the core is stopped, or finds that it has been. -/
theorem quiet_of_ended (hended : ∀ b, w.core = some b →
      (if w.stopRequested then b.stop E else b).Ended) (accepted : List String) :
    (w.core.isSome = true → w.bridgeTimeSource = true) →
    (w.bridgeOnSimulationStep E accepted).1.Quiet ∧
      (w.bridgeOnSimulationStep E accepted).2.2 = [] := by
  intro htime
  cases hcore : w.core with
  | none =>
    have hstep : w.bridgeOnSimulationStep E accepted = (w, 1, []) := by
      unfold bridgeOnSimulationStep
      rw [hcore]
    rw [hstep]
    exact ⟨fun b hb => absurd (hcore.symm.trans hb) nofun, rfl⟩
  | some b =>
    have hb := hended b hcore
    rw [bridgeOnSimulationStep_of_some hcore (htime (by rw [hcore]; rfl)),
      Bridge.cyclicTrigger_of_stopped hb.stopped]
    refine ⟨fun b' hb' => ?_, rfl⟩
    obtain rfl := Option.some.inj hb'
    exact hb

/-- Nothing but a build ends the quiet. -/
theorem Quiet.step (h : w.Quiet) (hw : w.Represents l) {op : WebOp ε} (hop : op.Admitted)
    (hbuild : NoBuild E options op) :
    (w.step E options op).1.Quiet ∧ Silent E w op := by
  cases op with
  | interrupt => exact ⟨h, nofun⟩
  | onInitialize s =>
    refine ⟨fun b hb => h b ?_, nofun⟩
    have hcases := (bridgeOnInitialize_cases E options s w).2
    rw [if_neg (by simp [hbuild s rfl])] at hcases
    exact hcases.1.symm.trans hb
  | onSimulationStep accepted =>
    have hended : ∀ b, w.core = some b → (if w.stopRequested then b.stop E else b).Ended := by
      intro b hb
      split_ifs
      · exact (h b hb).managed.stop
      · exact h b hb
    obtain ⟨hquiet, hsilent⟩ := quiet_of_ended hended accepted hw.timeSource
    refine ⟨hquiet, fun accepted' heq => ?_⟩
    obtain rfl := WebOp.onSimulationStep.inj heq
    exact hsilent
  | onReset => exact ⟨nofun, nofun⟩
  | outside op =>
    refine ⟨?_, nofun⟩
    unfold WebBridge.step
    dsimp only
    cases hcore : w.core with
    | none => exact h
    | some b =>
      intro b' hb'
      obtain rfl := Option.some.inj hb'
      exact (h b hcore).outside hop

/-- The flag stays until a step finds a core. -/
theorem stopRequested_step (hflag : w.stopRequested = true) {op : WebOp ε}
    (hop : ∀ accepted, op = .onSimulationStep accepted → w.core = none) :
    (w.step E options op).1.stopRequested = true := by
  cases op with
  | interrupt => rfl
  | onInitialize s => exact (bridgeOnInitialize_cases E options s w).1.trans hflag
  | onSimulationStep accepted =>
    have hstep : w.bridgeOnSimulationStep E accepted = (w, 1, []) := by
      unfold bridgeOnSimulationStep
      rw [hop accepted rfl]
    show (w.bridgeOnSimulationStep E accepted).1.stopRequested = true
    rw [hstep]
    exact hflag
  | onReset => exact hflag
  | outside op =>
    unfold WebBridge.step
    dsimp only
    split <;> exact hflag

/-- **An interrupt is not lost.** After an interrupt, whatever has happened before, the callbacks
may come in any order, with builds among them: the first simulation step that finds a core stops
it, so that it has no sessions, as no control message is in progress then. From then on, until
another core is built, the simulation steps make it do nothing, and it stays without sessions. -/
theorem interrupted_run {before between after : List (WebOp ε)} {accepted : List String}
    (hbefore : ∀ op ∈ before, op.Admitted) (hbetween : ∀ op ∈ between, op.Admitted)
    (hafter : ∀ op ∈ after, op.Admitted) (hbuild : ∀ op ∈ after, NoBuild E options op)
    (hfirst : Along (WebBridge.step E options)
      (fun w op => ∀ accepted, op = .onSimulationStep accepted → w.core = none)
      (run (WebBridge.step E options) {} (before ++ [.interrupt])).1 between) :
    let w := (run (WebBridge.step E options) {} (before ++ [.interrupt] ++ between)).1
    Along (WebBridge.step E options) (Silent E) w (.onSimulationStep accepted :: after) ∧
      (run (WebBridge.step E options) w (.onSimulationStep accepted :: after)).1.Quiet := by
  intro w
  have hops : ∀ op ∈ before ++ [.interrupt] ++ between, op.Admitted := by
    simp only [List.forall_mem_append, List.forall_mem_singleton]
    exact ⟨⟨hbefore, trivial⟩, hbetween⟩
  have hw := (webLife_run E options hops).1
  have hflag : w.stopRequested = true := by
    have hinterrupt : (run (WebBridge.step E options) {}
        (before ++ [.interrupt])).1.stopRequested = true := by
      rw [run_append_fst]
      rfl
    have hrest := run_invariant (P := fun w : WebBridge ε => w.stopRequested = true)
      (fun _ _ h hop => stopRequested_step h hop) hinterrupt hfirst
    rwa [← run_append_fst] at hrest
  have hended : ∀ b, w.core = some b → (if w.stopRequested then b.stop E else b).Ended := by
    intro b hb
    rw [if_pos hflag]
    exact (hw.managed b hb).stop
  obtain ⟨hquiet, hsilent⟩ := quiet_of_ended hended accepted hw.timeSource
  obtain ⟨hnext, -⟩ := hw.onSimulationStep (E := E) accepted
  -- the steps that follow
  have hstep : ∀ (w : WebBridge ε) (op : WebOp ε), w.Quiet ∧ (∃ l, w.Represents l) →
      op.Admitted ∧ NoBuild E options op →
      ((w.step E options op).1.Quiet ∧ ∃ l, (w.step E options op).1.Represents l) ∧
        Silent E w op := by
    rintro w op ⟨hquiet, l, hl⟩ ⟨hop, hbuild⟩
    obtain ⟨hquiet', hsilent⟩ := hquiet.step hl hop hbuild
    exact ⟨⟨hquiet', _, (hl.step hop).1⟩, hsilent⟩
  have hrest : Along (WebBridge.step E options) (fun _ op => op.Admitted ∧ NoBuild E options op)
      (w.step E options (.onSimulationStep accepted)).1 after :=
    along_of_ops fun op hop => ⟨hafter op hop, hbuild op hop⟩
  have hfrom : (w.step E options (.onSimulationStep accepted)).1.Quiet ∧
      ∃ l, (w.step E options (.onSimulationStep accepted)).1.Represents l := ⟨hquiet, _, hnext⟩
  refine ⟨⟨fun accepted' heq => ?_, ?_⟩, ?_⟩
  · obtain rfl := WebOp.onSimulationStep.inj heq
    exact hsilent
  · exact along_of_invariant (fun w op h hop => (hstep w op h hop).1)
      (fun w op h hop => (hstep w op h hop).2) hfrom hrest
  · exact (run_invariant (fun w op h hop => (hstep w op h hop).1) hfrom hrest).1

/-- An interrupt between two steps. -/
theorem interrupted_small :
    (run (WebBridge.step envSmall optionsSmall)
      (run (WebBridge.step envSmall optionsSmall) {} ([.onInitialize startSmall,
        .onSimulationStep []] ++ [.interrupt] ++
        [.outside (.reception "src" ⟨"r", 1⟩ [0, 7])])).1
      [.onSimulationStep [], .outside (.environment id)]).1.Quiet := by
  refine (interrupted_run ?_ ?_ ?_ ?_ ?_).2
  · simp [WebOp.Admitted]
  · simp [WebOp.Admitted, Op.isOutside]
  · simp [WebOp.Admitted, Op.isOutside]
  · simp [NoBuild]
  · exact ⟨nofun, trivial⟩

end WebBridge

end HakoniwaBridge
