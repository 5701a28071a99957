import HakoniwaBridge.DaemonBridge
import HakoniwaBridge.WebBridgeArgs

/-!
# The bridge daemon

`main` of `daemon.cpp`: the arguments, the start, and the loop that triggers the core until it is
interrupted.

* `parseDaemonArgs` — the arguments. `parseDaemonArgs_eq_ok_iff`: **what is accepted, and what it
  comes to**: unknown options are passed over, the last multiplexer counts, and the first word that
  is not `node1` is the node's name.
* `startUp`, `mainLoop` — the start, and turns of the loop, with whatever the endpoints' threads do
  in between.
* `mainLoop_of_startUp` — **the loop is left exactly after an interrupt, one turn later**, and then
  there are no sessions, provided that the endpoints' threads have no control message in progress
  while the core is triggered or stopped.
-/

namespace HakoniwaBridge

open Lib

variable {ε : Type} {E : Env ε}

/-! ## Arguments -/

/-- Source: `daemon.cpp`, `main`, what the arguments set. -/
structure DaemonOptions where
  configPath : String
  deltaTimeStepUsec : UInt64
  endpointContainerPath : String
  nodeName : String := "node1"
  enableOndemand : Bool := false
  ondemandMuxConfigPath : String := ""

/-- The condition on an argument that names the node. -/
def isNodeName (arg nodeName : String) : Bool :=
  arg ≠ "" ∧ arg.toList.head? ≠ some '-' ∧ nodeName = "node1"

/-- Source: `daemon.cpp`, `main`, the loop over the arguments from the fourth on, and the check
behind it. The error is the message on `cerr`. -/
def readDaemonArgs : List String → DaemonOptions → Except String DaemonOptions
  | [], options =>
    if options.enableOndemand = true ∧ options.ondemandMuxConfigPath = "" then
      .error "On-demand mode requires --ondemand-mux-config"
    else .ok options
  | arg :: rest, options =>
    if arg = "--enable-ondemand" then readDaemonArgs rest { options with enableOndemand := true }
    else if arg = "--ondemand-mux-config" then
      match rest with
      | [] => .error "--ondemand-mux-config requires a path"
      | value :: rest => readDaemonArgs rest { options with ondemandMuxConfigPath := value }
    else if isNodeName arg options.nodeName then
      readDaemonArgs rest { options with nodeName := arg }
    else readDaemonArgs rest options

/-- Source: `daemon.cpp`, `main`, the usage. -/
def daemonUsage (program : String) : String :=
  "Usage: " ++ program ++ " <path_to_bridge.json> <delta_time_step_usec> " ++
    "<path_to_endpoint_container.json> [node_name] " ++
    "[--enable-ondemand --ondemand-mux-config <path_to_endpoint_mux.json>]" ++
    " (on-demand subscribe default policy: throttle interval_ms=100; filters: omitted/empty only)"

/-- Source: `daemon.cpp`, `main`, up to the endpoint container. What `from_chars` did not read is
not looked at. -/
def parseDaemonArgs : List String → Except String DaemonOptions
  | _ :: configPath :: delta :: endpointContainerPath :: rest =>
    match fromChars delta with
    | none => .error ("Invalid delta_time_step_usec: " ++ delta)
    | some (usec, _) =>
      readDaemonArgs rest ⟨configPath, usec, endpointContainerPath, "node1", false, ""⟩
  | argv => .error (daemonUsage (argv.head?.getD ""))

/-- An argument behind the third: an option, or a word that is none. -/
inductive DaemonArg
  | enableOndemand
  | ondemandMuxConfig (path : String)
  | word (arg : String)

namespace DaemonArg

/-- The argument as it stands on the command line. -/
def render : DaemonArg → List String
  | .enableOndemand => ["--enable-ondemand"]
  | .ondemandMuxConfig path => ["--ondemand-mux-config", path]
  | .word arg => [arg]

/-- A word is neither of the options. -/
def Plain : DaemonArg → Prop
  | .word arg => arg ≠ "--enable-ondemand" ∧ arg ≠ "--ondemand-mux-config"
  | _ => True

/-- What the loop makes of the argument. -/
def apply (options : DaemonOptions) : DaemonArg → DaemonOptions
  | .enableOndemand => { options with enableOndemand := true }
  | .ondemandMuxConfig path => { options with ondemandMuxConfigPath := path }
  | .word arg =>
    if isNodeName arg options.nodeName then { options with nodeName := arg } else options

/-- The argument turns the on-demand mode on. -/
def asksOndemand : DaemonArg → Bool
  | .enableOndemand => true
  | _ => false

/-- The multiplexer that the argument gives. -/
def muxPath? : DaemonArg → Option String
  | .ondemandMuxConfig path => some path
  | _ => none

/-- The name that the argument gives the node, if it has none yet. -/
def name? : DaemonArg → Option String
  | .word arg => if isNodeName arg "node1" ∧ arg ≠ "node1" then some arg else none
  | _ => none

/-- One turn of the loop. -/
theorem readDaemonArgs_step {arg : DaemonArg} (h : arg.Plain) (rest : List String)
    (options : DaemonOptions) :
    readDaemonArgs (arg.render ++ rest) options = readDaemonArgs rest (apply options arg) := by
  cases arg with
  | enableOndemand =>
    rw [render, List.singleton_append, readDaemonArgs.eq_def]
    dsimp only
    rw [if_pos rfl]
    rfl
  | ondemandMuxConfig path =>
    rw [render, List.cons_append, List.singleton_append, readDaemonArgs.eq_def]
    dsimp only
    rw [if_neg (by decide), if_pos rfl]
    rfl
  | word arg =>
    rw [render, List.singleton_append, readDaemonArgs.eq_def, apply]
    dsimp only
    rw [if_neg h.1, if_neg h.2]
    split_ifs <;> rfl

/-- The loop reads one argument after another. -/
theorem readDaemonArgs_render {args : List DaemonArg} (h : ∀ arg ∈ args, arg.Plain)
    (rest : List String) (options : DaemonOptions) :
    readDaemonArgs (args.flatMap render ++ rest) options =
      readDaemonArgs rest (args.foldl apply options) := by
  induction args generalizing options with
  | nil => rfl
  | cons arg args ih =>
    rw [List.forall_mem_cons] at h
    rw [List.flatMap_cons, List.append_assoc, List.foldl_cons, readDaemonArgs_step h.1, ih h.2]

/-- Every command line is arguments, with an option without its path at the end at most. -/
theorem exists_render (rest : List String) : ∃ args : List DaemonArg, (∀ arg ∈ args, arg.Plain) ∧
    (rest = args.flatMap render ∨ rest = args.flatMap render ++ ["--ondemand-mux-config"]) := by
  induction rest using List.twoStepInduction with
  | nil => exact ⟨[], nofun, .inl rfl⟩
  | singleton arg =>
    by_cases henable : arg = "--enable-ondemand"
    · exact ⟨[.enableOndemand], by simp [Plain], .inl (by rw [henable]; rfl)⟩
    by_cases hmux : arg = "--ondemand-mux-config"
    · exact ⟨[], nofun, .inr (by rw [hmux]; rfl)⟩
    · exact ⟨[.word arg], by simp [Plain, henable, hmux], .inl rfl⟩
  | cons_cons arg value rest ih ih' =>
    have hcons : ∀ (first : DaemonArg) (rest' : List String), first.Plain →
        arg :: value :: rest = first.render ++ rest' →
        (∃ args : List DaemonArg, (∀ arg ∈ args, arg.Plain) ∧
          (rest' = args.flatMap render ∨
            rest' = args.flatMap render ++ ["--ondemand-mux-config"])) →
        ∃ args : List DaemonArg, (∀ arg ∈ args, arg.Plain) ∧
          (arg :: value :: rest = args.flatMap render ∨
            arg :: value :: rest = args.flatMap render ++ ["--ondemand-mux-config"]) := by
      rintro first rest' hfirst hsplit ⟨args, hargs, hrest⟩
      refine ⟨first :: args, List.forall_mem_cons.2 ⟨hfirst, hargs⟩, ?_⟩
      rw [hsplit, List.flatMap_cons, List.append_assoc, List.append_right_inj,
        List.append_right_inj]
      exact hrest
    by_cases henable : arg = "--enable-ondemand"
    · exact hcons .enableOndemand (value :: rest) trivial (by rw [henable]; rfl) (ih' value)
    by_cases hmux : arg = "--ondemand-mux-config"
    · exact hcons (.ondemandMuxConfig value) rest trivial (by rw [hmux]; rfl) ih
    · exact hcons (.word arg) (value :: rest) ⟨henable, hmux⟩ rfl (ih' value)

/-- What the arguments come to. -/
theorem foldl_apply (args : List DaemonArg) (options : DaemonOptions) :
    args.foldl apply options = { options with
      nodeName := if options.nodeName = "node1" then (args.findSome? name?).getD "node1"
        else options.nodeName
      enableOndemand := options.enableOndemand || args.any asksOndemand
      ondemandMuxConfigPath :=
        (args.filterMap muxPath?).getLast?.getD options.ondemandMuxConfigPath } := by
  induction args generalizing options with
  | nil =>
    obtain ⟨_, _, _, nodeName, _, _⟩ := options
    by_cases hname : nodeName = "node1" <;> simp [hname]
  | cons arg args ih =>
    obtain ⟨_, _, _, nodeName, _, _⟩ := options
    rw [List.foldl_cons, ih, List.findSome?_cons]
    cases arg with
    | enableOndemand =>
      by_cases hname : nodeName = "node1" <;> simp [apply, asksOndemand, name?, muxPath?, hname]
    | ondemandMuxConfig path =>
      by_cases hname : nodeName = "node1" <;>
        simp [apply, asksOndemand, name?, muxPath?, List.getLast?_cons, hname]
    | word arg =>
      by_cases hname : nodeName = "node1"
      · subst hname
        by_cases hsame : arg = "node1"
        · have hnode : isNodeName "node1" "node1" = true := by decide
          subst hsame
          simp [apply, asksOndemand, name?, muxPath?, hnode]
        · cases hword : isNodeName arg "node1" <;>
            simp [apply, asksOndemand, name?, muxPath?, hword, hsame]
      · have hkeep : isNodeName arg nodeName = false := by simp [isNodeName, hname]
        simp [apply, asksOndemand, muxPath?, hname, hkeep]

end DaemonArg

open DaemonArg in
/-- **The command line.** Accepted are three arguments of which the second begins with a number, and
behind them options and words; the result is what they come to. With the on-demand mode there is a
multiplexer. -/
theorem parseDaemonArgs_eq_ok_iff {argv : List String} {options : DaemonOptions} :
    parseDaemonArgs argv = .ok options ↔
      ∃ (program delta unread : String) (args : List DaemonArg), (∀ arg ∈ args, arg.Plain) ∧
        argv = program :: options.configPath :: delta :: options.endpointContainerPath ::
          args.flatMap render ∧
        fromChars delta = some (options.deltaTimeStepUsec, unread) ∧
        options.nodeName = (args.findSome? name?).getD "node1" ∧
        options.enableOndemand = args.any asksOndemand ∧
        options.ondemandMuxConfigPath = (args.filterMap muxPath?).getLast?.getD "" ∧
        (options.enableOndemand = true → options.ondemandMuxConfigPath ≠ "") := by
  constructor
  · intro h
    rcases argv with _ | ⟨program, _ | ⟨configPath, _ | ⟨delta, _ | ⟨containerPath, rest⟩⟩⟩⟩
    iterate 4 cases h
    rw [parseDaemonArgs] at h
    cases hdelta : fromChars delta with
    | none =>
      rw [hdelta] at h
      cases h
    | some read =>
      obtain ⟨usec, unread⟩ := read
      rw [hdelta] at h
      dsimp only at h
      obtain ⟨args, hargs, rfl | rfl⟩ := exists_render rest
      · have hread := readDaemonArgs_render hargs []
          ⟨configPath, usec, containerPath, "node1", false, ""⟩
        rw [List.append_nil] at hread
        rw [hread, foldl_apply, readDaemonArgs] at h
        dsimp only at h
        rw [if_pos rfl, Bool.false_or] at h
        split_ifs at h with hmux
        obtain rfl := Except.ok.inj h
        exact ⟨program, delta, unread, args, hargs, rfl, hdelta, rfl, rfl, rfl,
          fun henable hpath => hmux ⟨henable, hpath⟩⟩
      · rw [readDaemonArgs_render hargs] at h
        cases h
  · rintro ⟨program, delta, unread, args, hargs, rfl, hdelta, hname, henable, hpath, hmux⟩
    have hread := readDaemonArgs_render hargs []
      ⟨options.configPath, options.deltaTimeStepUsec, options.endpointContainerPath, "node1", false,
        ""⟩
    rw [List.append_nil] at hread
    rw [parseDaemonArgs, hdelta]
    dsimp only
    rw [hread, foldl_apply, readDaemonArgs]
    dsimp only
    rw [if_pos rfl, ← hname, Bool.false_or, ← henable, ← hpath, if_neg fun h => hmux h.1 h.2]

/-! ## The start -/

/-- What `main` meets at the start: the answers of the endpoint container and of the multiplexer,
the configuration (none if the file cannot be read), the endpoints, and the state outside. -/
structure DaemonStart (ε : Type) where
  initializeErr : HakoPduErrorType
  startAllErr : HakoPduErrorType
  openErr : HakoPduErrorType
  muxStartErr : HakoPduErrorType
  config : Option BridgeConfig
  endpointIds : List String
  env : ε
  startAll : ε → ε

/-- Source: `daemon.cpp`, `main`, from the endpoint container to the loop; none where `main` returns
with 1. -/
def startUp (E : Env ε) (options : DaemonOptions) (s : DaemonStart ε) : Option (Bridge ε) :=
  if s.initializeErr ≠ .ok then none
  else
    match s.config.bind fun cfg => Bridge.boot E cfg options.nodeName s.endpointIds s.env with
    | none => none
    | some built =>
      if s.startAllErr ≠ .ok then none
      else
        let b := { built with host := { built.host with env := s.startAll built.host.env } }
        let started := (b.step E .start).1
        if options.enableOndemand = false then some started
        else
          let initialized := started.runtime.initializeRuntime
            { enableOndemand := true, ondemandMuxConfigPath := options.ondemandMuxConfigPath }
            s.openErr s.muxStartErr
          if initialized.2 ≠ .ok then none
          else some { started with runtime := initialized.1, runtimeAttached := true }

/-! ## The loop -/

/-- One turn of the loop: what the other threads do before the trigger and behind it, the endpoints
that the multiplexer hands over, and whether an interrupt has come since the last turn. -/
structure Turn (ε : Type) where
  before : List (Op ε)
  accepted : List String
  behind : List (Op ε)
  interrupted : Bool

/-- Source: `daemon.cpp`, `main`, the loop and what follows it, for as many turns as there are. The
flag says whether the loop has been left. -/
def mainLoop (E : Env ε) : List (Turn ε) → Bridge ε → Bool × Bridge ε
  | [], b => (false, b)
  | t :: turns, b =>
    let b₁ := (run (Bridge.step E) b t.before).1
    if b₁.core.isRunning = false then (true, b₁.detachMonitorRuntime E)
    else
      let b₂ := (run (Bridge.step E) (b₁.cyclicTrigger E t.accepted).1 t.behind).1
      mainLoop E turns (if t.interrupted then b₂.stop E else b₂)

namespace Bridge

variable {b : Bridge ε}

/-- The other threads leave the flags alone, and the bridge managed. -/
theorem outside_run {ops : List (Op ε)} (hops : ∀ op ∈ ops, op.isOutside = true) (h : b.Managed) :
    (run (step E) b ops).1.core.isRunning = b.core.isRunning ∧
      (run (step E) b ops).1.Managed :=
  run_invariant (P := fun b' : Bridge ε => b'.core.isRunning = b.core.isRunning ∧ b'.Managed)
    (fun b' _ h' hop => ⟨(sameMode_outside hop b').running.trans h'.1, h'.2.outside hop⟩)
    ⟨rfl, h⟩ (along_of_ops hops)

/-- The endpoints' threads attach nothing to a core that has been stopped. -/
theorem ended_run {ops : List (Op ε)} (hops : ∀ op ∈ ops, op.isOutside = true) (h : b.Ended) :
    (run (step E) b ops).1.Ended :=
  run_invariant (fun _ _ h' hop => h'.outside hop) h (along_of_ops hops)

/-- Every start-up that succeeds leaves a core that runs, and a runtime that is in use or none. -/
theorem managed_of_startUp {options : DaemonOptions} {s : DaemonStart ε}
    (h : startUp E options s = some b) : b.core.isRunning = true ∧ b.Managed := by
  unfold startUp at h
  split at h
  · cases h
  split at h
  · cases h
  next built hbuilt =>
  obtain ⟨cfg, -, hboot⟩ := Option.bind_eq_some_iff.1 hbuilt
  obtain ⟨hrunning, hruntime, -⟩ := started_of_boot (s.startAll built.host.env) hboot
  split at h
  · cases h
  dsimp only at h
  split at h
  · obtain rfl := Option.some.inj h
    exact ⟨hrunning, managed_of_fresh hruntime⟩
  split at h
  · cases h
  · next hinit =>
    obtain rfl := Option.some.inj h
    exact ⟨hrunning, .inl ⟨rfl, initialized_of_ok (by simpa using hinit)⟩⟩

end Bridge

/-- What the other threads do in a turn is no more than they can, and none of it is in progress
during the trigger, the stop or the end of the loop. -/
def Turn.Outside (t : Turn ε) : Prop :=
  (∀ op ∈ t.before, op.isOutside = true) ∧ ∀ op ∈ t.behind, op.isOutside = true

/-- After a stop the next turn is the last. -/
theorem mainLoop_of_ended {turns : List (Turn ε)} (hturns : ∀ t ∈ turns, t.Outside) {b : Bridge ε}
    (h : b.Ended) : (mainLoop E turns b).1 = !turns.isEmpty ∧ (mainLoop E turns b).2.Ended := by
  cases turns with
  | nil => exact ⟨rfl, h⟩
  | cons t turns =>
    rw [List.forall_mem_cons] at hturns
    have hended := Bridge.ended_run (E := E) hturns.1.1 h
    obtain ⟨hsessions, hhandler, hrunning, -⟩ := hended.managed.detachMonitorRuntime (E := E)
    rw [mainLoop, if_pos hended.stopped]
    exact ⟨rfl, hrunning.trans hended.stopped, hsessions, hhandler⟩

/-- The loop of a running bridge. -/
theorem mainLoop_of_running {turns : List (Turn ε)} (hturns : ∀ t ∈ turns, t.Outside)
    {b : Bridge ε} (hrunning : b.core.isRunning = true) (h : b.Managed) :
    (mainLoop E turns b).1 = turns.dropLast.any (·.interrupted) ∧
      if turns.any (·.interrupted) then (mainLoop E turns b).2.Ended
      else (mainLoop E turns b).2.core.isRunning = true ∧ (mainLoop E turns b).2.Managed := by
  induction turns generalizing b with
  | nil => exact ⟨rfl, hrunning, h⟩
  | cons t turns ih =>
    rw [List.forall_mem_cons] at hturns
    obtain ⟨hrunning₁, hmanaged₁⟩ := Bridge.outside_run (E := E) hturns.1.1 h
    obtain ⟨hrunning₂, hmanaged₂⟩ := Bridge.outside_run (E := E) hturns.1.2
      (hmanaged₁.cyclicTrigger (E := E) t.accepted)
    rw [hrunning] at hrunning₁
    rw [(Bridge.sameMode_cyclicTrigger E t.accepted _).running, hrunning₁] at hrunning₂
    rw [mainLoop, if_neg (by simp [hrunning₁])]
    cases hinterrupted : t.interrupted with
    | true =>
      obtain ⟨hleft, hended⟩ := mainLoop_of_ended (E := E) hturns.2 hmanaged₂.stop
      refine ⟨hleft.trans ?_, ?_⟩
      · cases turns <;> simp [hinterrupted]
      · rw [if_pos (by simp [hinterrupted])]
        exact hended
    | false =>
      obtain ⟨hleft, hrest⟩ := ih hturns.2 hrunning₂ hmanaged₂
      refine ⟨hleft.trans ?_, ?_⟩
      · cases turns <;> simp [hinterrupted]
      · rw [List.any_cons, hinterrupted, Bool.false_or]
        exact hrest

/-- **The loop.** Once the daemon has started, and whatever the endpoints' threads do between its
triggers and stops: as long as no interrupt has come, the core runs. The turn in which the first one
has come stops it, and at the next turn the loop is left; from the stop on there are no sessions and
nobody is listened to. -/
theorem mainLoop_of_startUp {options : DaemonOptions} {s : DaemonStart ε} {b : Bridge ε}
    (hstart : startUp E options s = some b) {turns : List (Turn ε)}
    (hturns : ∀ t ∈ turns, t.Outside) :
    ((mainLoop E turns b).1 = true ↔ ∃ t ∈ turns.dropLast, t.interrupted = true) ∧
      ((mainLoop E turns b).2.core.isRunning = true ↔ ∀ t ∈ turns, t.interrupted = false) ∧
      ((∃ t ∈ turns, t.interrupted = true) → (mainLoop E turns b).2.Ended) := by
  obtain ⟨hrunning, hmanaged⟩ := Bridge.managed_of_startUp hstart
  obtain ⟨hleft, hend⟩ := mainLoop_of_running (E := E) hturns hrunning hmanaged
  refine ⟨by rw [hleft, List.any_eq_true], ?_, fun hinterrupt => ?_⟩
  · split_ifs at hend with hinterrupt
    · obtain ⟨t, ht, hinterrupted⟩ := List.any_eq_true.1 hinterrupt
      rw [hend.stopped]
      exact ⟨nofun, fun hnone => absurd ((hnone t ht).symm.trans hinterrupted) nofun⟩
    · exact ⟨fun _ => by simpa using hinterrupt, fun _ => hend.1⟩
  · rw [if_pos (List.any_eq_true.2 hinterrupt)] at hend
    exact hend

/-- A small daemon that is interrupted in its second turn. -/
theorem mainLoop_small :
    let E := (CacheSpec.small .latest).env none
    let options : DaemonOptions := ⟨"bridge.json", 1000, "endpoints.json", "node", true, "mux.json"⟩
    let s : DaemonStart CacheState := ⟨.ok, .ok, .ok, .ok,
      some (BridgeConfig.small ⟨"immediate", none, none⟩ [⟨"k", "r", "pos"⟩] false), ["src", "dst"],
      CacheState.empty, id⟩
    let turns : List (Turn CacheState) :=
      [⟨[.reception "src" ⟨"r", 1⟩ [0, 7]], ["client"], [], false⟩, ⟨[], [], [], true⟩,
        ⟨[], [], [], false⟩]
    ∃ b, startUp E options s = some b ∧ (mainLoop E turns b).1 = true ∧
      (mainLoop E turns b).2.Ended := by
  intro E options s turns
  have hstart : startUp E options s = some ((startUp E options s).get rfl) :=
    (Option.some_get _).symm
  have hturns : ∀ t ∈ turns, t.Outside := by simp [turns, Turn.Outside, Op.isOutside]
  obtain ⟨hleft, -, hended⟩ := mainLoop_of_startUp hstart hturns
  refine ⟨_, hstart, hleft.2 ⟨⟨[], [], [], true⟩, ?_, rfl⟩, hended ⟨⟨[], [], [], true⟩, ?_, rfl⟩⟩
  · simp [turns]
  · simp [turns]

end HakoniwaBridge
