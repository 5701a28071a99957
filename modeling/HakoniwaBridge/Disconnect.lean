import HakoniwaBridge.Accounted

/-!
# Sessions of a disconnected endpoint

Once a control endpoint has stopped running, none of its callbacks is in progress and a further
pass over the control plane has completed, no session that a subscribe of the endpoint created
should be left, and none of its transfers.

* `Plane.Invariant` — a created session that is still listed is `kept` for its endpoint: recorded,
  about to be recorded, or about to be detached; nothing is kept for an endpoint whose ids were
  taken (`taken`). One lemma for each kind of step.
* `Plane.Cleaned` — how far the cleanup has come since the endpoint stopped.
* `Plane.zombieFree_run` — the property holds in every run in which the ids of an endpoint are
  taken only while no issued id waits to be recorded, and in which it subscribes to nothing
  afterwards; `Plane.zombie_after_disconnect` is a run in which they are taken too early.
-/

namespace HakoniwaBridge

open Lib

variable {ε : Type} {E : Env ε}

/-- The ids of the endpoint that are still to be detached in the current pass. -/
def MainPc.removals (name : String) : MainPc → List String
  | .removing name' sessionIds _ => if name' = name then sessionIds else []
  | _ => []

theorem MainPc.removals_removing (name name' : String) (sessionIds names : List String) :
    (MainPc.removing name' sessionIds names).removals name =
      if name' = name then sessionIds else [] := rfl

/-- The endpoints whose sessions are still to be detached in the current pass. -/
def MainPc.busy : MainPc → List String
  | .detaching names => names
  | .removing name _ names => name :: names
  | _ => []

/-- The pass has not come to the marking yet. -/
def MainPc.beforeMark : MainPc → Bool
  | .detaching _ => false
  | .removing _ _ _ => false
  | _ => true

theorem MainPc.removals_of_not_busy {pc : MainPc} {name : String} (h : name ∉ pc.busy) :
    pc.removals name = [] := by
  cases pc with
  | removing name' sessionIds names =>
    refine if_neg fun heq => h ?_
    rw [heq]
    exact List.mem_cons_self
  | _ => rfl

theorem MainPc.not_awaiting_of_not_busy {pc : MainPc} {name : String} (h : name ∉ pc.busy) :
    name ∉ pc.awaiting := by
  cases pc with
  | removing name' sessionIds names => exact fun hmem => h (List.mem_cons_of_mem _ hmem)
  | detaching names => exact h
  | _ => exact List.not_mem_nil

namespace Plane

/-- The session ids that are kept for an endpoint: recorded, or handed out and not recorded yet,
or about to be detached. -/
def kept (s : Plane ε) (name : String) : List String :=
  s.bridge.runtime.recorded name ++ (s.callbacks name).unrecorded ++ s.main.removals name

theorem mem_kept {s : Plane ε} {name id : String} :
    id ∈ s.kept name ↔ id ∈ s.bridge.runtime.recorded name ∨
      id ∈ (s.callbacks name).unrecorded ∨ id ∈ s.main.removals name := by
  unfold kept
  rw [List.mem_append, List.mem_append, or_assoc]

/-- The endpoint was found not to run, and its recorded ids were taken. -/
def Taken (s : Plane ε) (name : String) : Prop :=
  name ∈ s.bridge.runtime.disconnectedControlEndpoints ∧ name ∉ s.main.awaiting

/-- What holds between any two steps of the control plane. -/
structure Invariant (s : Plane ε) : Prop where
  accounted : Bridge.Accounted s.handedOut s.created s.bridge
  notAttached : s.bridge.runtimeAttached = false
  inUse : s.main ≠ .idle ∨ s.bridge.runtime.ondemandSessions ≠ [] →
    s.bridge.runtime.initialized = true ∧ s.bridge.runtime.ondemandMux = true
  alive : ∀ name, s.callbacks name ≠ .idle → s.Alive name
  accepted : ∀ x ∈ s.created, s.Alive x.endpoint
  held : ∀ x ∈ s.created, x.sessionId ∈ s.bridge.runtime.monitorSessions →
    x.sessionId ∈ s.kept x.endpoint
  forgetting : ∀ name id, (s.callbacks name).forgetting = some id →
    ∀ x ∈ s.created, x.endpoint = name → x.sessionId = id →
      id ∉ s.bridge.runtime.monitorSessions
  taken : ∀ name, s.Taken name →
    s.bridge.runtime.recorded name = [] ∧ (s.callbacks name).unrecorded = []

/-- The request that the callback is about to handle is a subscription that will succeed. -/
def Subscribes (E : Env ε) (s : Plane ε) (name : String) (stopAt : Option Nat) : Prop :=
  ∃ req spec, s.callbacks name = .requested (some req) ∧
    Bridge.requestedSpec E none req (some (.session name)) = some spec ∧
    s.bridge.Attaches E stopAt spec

/-- The step issues no id after `2 ^ 64` others, does not take the ids of an endpoint while one
waits to be recorded, and is no subscription of an endpoint whose ids were taken. -/
def Recorded (E : Env ε) (s : Plane ε) : PlaneOp ε → Prop
  | .outside op => ∀ stopAt spec, op.attaches E = some (stopAt, spec) →
      s.bridge.Attaches E stopAt spec → s.handedOut < 2 ^ 64
  | .handle name stopAt => s.Subscribes E name stopAt → s.handedOut < 2 ^ 64 ∧ ¬ s.Taken name
  | .main _ => ∀ name names, s.main = .detaching (name :: names) →
      (s.callbacks name).unrecorded = []
  | _ => True

namespace Invariant

variable {s : Plane ε}

/-! ## Operations beside the control plane -/

/-- An operation issues ids, and leaves the control plane alone. -/
theorem outside (h : s.Invariant) {ids : List String} {b' : Bridge ε}
    (hissues : Bridge.Issues s.handedOut s.created ids s.bridge b') :
    Invariant { s with bridge := b', handedOut := s.handedOut + ids.length } := by
  have hplane := hissues.samePlane
  have hrecorded : ∀ name, b'.runtime.recorded name = s.bridge.runtime.recorded name := by
    intro name
    unfold BridgeMonitorRuntime.recorded
    rw [hplane.endpointSessionIds]
  have hlisted : ∀ x ∈ s.created, x.sessionId ∈ b'.runtime.monitorSessions →
      x.sessionId ∈ s.bridge.runtime.monitorSessions :=
    fun x hx hid => (hplane.listed _ hid).resolve_left (hissues.fresh x hx)
  have halive : ∀ name, s.Alive name →
      Alive { s with bridge := b', handedOut := s.handedOut + ids.length } name := by
    intro name hname
    apply hname.imp_left
    intro hmem
    show name ∈ b'.runtime.ondemandSessions
    rw [hplane.ondemandSessions]
    exact hmem
  constructor
  case accounted => exact (hissues.accounted "").subset fun x hx => List.mem_append_left _ hx
  case notAttached => exact hissues.attached.trans h.notAttached
  case inUse =>
    intro huse
    dsimp only at huse
    rw [hplane.ondemandSessions] at huse
    obtain ⟨hinit, hmux⟩ := h.inUse huse
    exact hplane.inUse hinit hmux
  case alive => exact fun name hname => halive name (h.alive name hname)
  case accepted => exact fun x hx => halive _ (h.accepted x hx)
  case held =>
    intro x hx hid
    have hkept := h.held x hx (hlisted x hx hid)
    rw [mem_kept] at hkept ⊢
    rw [hrecorded]
    exact hkept
  case forgetting =>
    intro name id hforget x hx hname hid hmem
    subst hid
    exact h.forgetting name _ hforget x hx hname rfl (hlisted x hx hmem)
  case taken =>
    intro name htaken
    rw [hrecorded]
    refine h.taken name ⟨?_, htaken.2⟩
    rw [← hplane.disconnected]
    exact htaken.1

/-! ## The control callback -/

/-- A property of every callback, once one has moved on. -/
theorem forall_callbacks {P : String → CallbackPc → Prop} {name : String} {pc : CallbackPc}
    (hname : P name pc) (hother : ∀ other, other ≠ name → P other (s.callbacks other)) :
    ∀ other, P other ((s.setCallback name pc).callbacks other) := by
  intro other
  by_cases heq : other = name
  · rw [heq, callbacks_setCallback]
    exact hname
  · rw [callbacks_setCallback_of_ne s heq]
    exact hother other heq

/-- The callback of one endpoint moves on, with a change of the recorded ids of the endpoint and of
what its requests created. -/
theorem callbackWith (h : s.Invariant) {name : String} {pc : CallbackPc}
    {rt : BridgeMonitorRuntime} {created : List CreatedSession}
    (hrt : ∃ ids, rt = { s.bridge.runtime with endpointSessionIds := ids })
    (hother : ∀ other, other ≠ name → rt.recorded other = s.bridge.runtime.recorded other)
    (haccounted : Bridge.Accounted s.handedOut created { s.bridge with runtime := rt })
    (halive : pc ≠ .idle → s.Alive name)
    (hcreated : ∀ x ∈ created, x ∈ s.created ∨ x.endpoint = name ∧ s.Alive name)
    (hheld : ∀ x ∈ created, x.endpoint = name →
      x.sessionId ∈ s.bridge.runtime.monitorSessions →
      x.sessionId ∈ rt.recorded name ∨ x.sessionId ∈ pc.unrecorded ∨
        x.sessionId ∈ s.main.removals name)
    (hforget : ∀ id, pc.forgetting = some id → id ∉ s.bridge.runtime.monitorSessions)
    (htaken : s.Taken name → rt.recorded name = [] ∧ pc.unrecorded = []) :
    Invariant { s.setCallback name pc with
      bridge := { s.bridge with runtime := rt }
      created := created } := by
  obtain ⟨ids, rfl⟩ := hrt
  have hold : ∀ x ∈ created, x.endpoint ≠ name → x ∈ s.created :=
    fun x hx hne => (hcreated x hx).resolve_right fun hnew => hne hnew.1
  constructor
  case accounted => exact haccounted
  case notAttached => exact h.notAttached
  case inUse => exact h.inUse
  case alive =>
    exact forall_callbacks (P := fun other pc => pc ≠ .idle → s.Alive other) halive
      fun other _ => h.alive other
  case accepted =>
    intro x hx
    rcases hcreated x hx with hx | ⟨hendpoint, hname⟩
    · exact h.accepted x hx
    · rw [hendpoint]
      exact hname
  case held =>
    intro x hx hid
    rw [mem_kept]
    refine forall_callbacks (P := fun other pc => x.endpoint = other →
      x.sessionId ∈ BridgeMonitorRuntime.recorded _ other ∨ x.sessionId ∈ pc.unrecorded ∨
        x.sessionId ∈ s.main.removals other) (fun heq => hheld x hx heq hid)
      (fun other hne heq => ?_) x.endpoint rfl
    have hkept := h.held x (hold x hx (heq ▸ hne)) hid
    rw [mem_kept, heq] at hkept
    rw [hother other hne]
    exact hkept
  case forgetting =>
    refine forall_callbacks (P := fun other pc => ∀ id, pc.forgetting = some id →
      ∀ x ∈ created, x.endpoint = other → x.sessionId = id →
        id ∉ s.bridge.runtime.monitorSessions) (fun id hid _ _ _ _ => hforget id hid) ?_
    intro other hne id hid x hx heq
    exact h.forgetting other id hid x (hold x hx (heq ▸ hne)) heq
  case taken =>
    refine forall_callbacks (P := fun other pc => s.Taken other →
      BridgeMonitorRuntime.recorded _ other = [] ∧ pc.unrecorded = []) htaken ?_
    intro other hne hmarked
    rw [hother other hne]
    exact h.taken other hmarked

/-- A callback that neither holds an unrecorded id before and after nor forgets one. -/
theorem setCallback (h : s.Invariant) {name : String} {pc : CallbackPc}
    (hbefore : (s.callbacks name).unrecorded = []) (hafter : pc.unrecorded = [])
    (hforget : pc.forgetting = none) (halive : pc ≠ .idle → s.Alive name) :
    (s.setCallback name pc).Invariant := by
  refine h.callbackWith ⟨s.bridge.runtime.endpointSessionIds, rfl⟩ (fun _ _ => rfl) h.accounted
    halive (fun x hx => Or.inl hx) (fun x hx hname hid => ?_) (fun id hid => ?_) fun htaken => ?_
  · have hkept := h.held x hx hid
    rw [mem_kept, hname, hbefore] at hkept
    rw [hafter]
    exact hkept
  · rw [hforget] at hid
    exact absurd hid (by simp)
  · exact ⟨(h.taken name htaken).1, hafter⟩

theorem deliver (h : s.Invariant) (name : String) (message : Option Json) :
    (s.deliver name message).Invariant := by
  unfold Plane.deliver
  split
  · next hidle =>
    split_ifs with hready
    · exact h.setCallback (by rw [hidle]; rfl) rfl rfl fun _ => hready.1
    · exact h
  · exact h

/-- An answer that is about to strike off an id has just detached the session. -/
theorem detached_of_forgetting {b : Bridge ε} {req : Json} {name : String} {stopAt : Option Nat}
    {id : String}
    (hforget : (CallbackPc.answered req
      (b.handleRequest E none stopAt req (some (.session name))).2).forgetting = some id) :
    id ∉ (b.handleRequest E none stopAt req (some (.session name))).1.runtime.monitorSessions := by
  unfold CallbackPc.forgetting at hforget
  dsimp only at hforget
  split_ifs at hforget with hanswer
  obtain ⟨sessionId, hid, hdetach⟩ := Bridge.handleRequest_ok hanswer.1
  obtain rfl : sessionId = id := Option.some.inj (hid.symm.trans hforget)
  rw [hdetach]
  unfold Bridge.detachMonitor
  split_ifs with hmem
  · exact fun hin => (AList.mem_erase.1 hin).1 rfl
  · exact hmem

/-- The callback answers: what the answer hands out is the callback's to record, what it is about
to strike off is detached, and nothing is handed out to an endpoint whose ids were taken. -/
theorem answerWith (h : s.Invariant) {name : String} {req res : Json} {b' : Bridge ε}
    (hpc : s.callbacks name = .requested (some req))
    (hissues : Bridge.Issues s.handedOut s.created (issued (Bridge.issuedIn res)) s.bridge b')
    (hforgotten : ∀ id, (CallbackPc.answered req res).forgetting = some id →
      id ∉ b'.runtime.monitorSessions)
    (htaken : s.Taken name → issued (Bridge.issuedIn res) = []) :
    Invariant { s.setCallback name (.answered req res) with
      bridge := b'
      created := s.created ++ (issued (Bridge.issuedIn res)).map fun id =>
        ⟨name, id, newTransfers s.bridge.core b'.core⟩
      handedOut := s.handedOut + (issued (Bridge.issuedIn res)).length } := by
  have hplane := hissues.samePlane
  have hissued := h.outside hissues
  have hrequesting : s.callbacks name ≠ .idle := by
    rw [hpc]
    exact CallbackPc.noConfusion
  refine hissued.callbackWith ⟨b'.runtime.endpointSessionIds, rfl⟩ (fun _ _ => rfl)
    (hissues.accounted name) (fun _ => hissued.alive name hrequesting) (fun x hx => ?_)
    (fun x hx hname hid => ?_) hforgotten fun hmarked => ?_
  · rcases List.mem_append.1 hx with hx | hx
    · exact Or.inl hx
    · obtain ⟨id, -, rfl⟩ := List.mem_map.1 hx
      exact Or.inr ⟨rfl, hissued.alive name hrequesting⟩
  · rcases List.mem_append.1 hx with hx | hx
    · have hkept := hissued.held x hx hid
      rw [mem_kept, hname] at hkept
      refine hkept.imp_right (Or.imp_left fun hin => ?_)
      dsimp only at hin
      rw [hpc] at hin
      exact absurd hin List.not_mem_nil
    · obtain ⟨id, hin, rfl⟩ := List.mem_map.1 hx
      exact Or.inr (Or.inl hin)
  · refine ⟨(hissued.taken name hmarked).1, htaken ⟨?_, hmarked.2⟩⟩
    rw [← hplane.disconnected]
    exact hmarked.1

/-- The callback handles its request. -/
theorem handle (h : s.Invariant) {name : String} {stopAt : Option Nat}
    (hguard : s.Recorded E (.handle name stopAt)) : (s.handle E name stopAt).1.Invariant := by
  unfold Plane.handle
  split
  · next hpc => exact h.setCallback (by rw [hpc]; rfl) rfl rfl fun hne => absurd rfl hne
  · next req hpc =>
    apply h.answerWith hpc
    · exact h.accounted.handleRequest fun spec hspec hattach =>
        (hguard ⟨req, spec, hpc, hspec, hattach⟩).1
    · exact fun id hforget => detached_of_forgetting hforget
    · intro htaken
      rcases Bridge.handleRequest_cases E none stopAt req (some (.session name)) s.bridge with
        ⟨-, hnone⟩ | ⟨id, -, -, hnone⟩ | ⟨spec, hspec, -, hsome⟩
      · rw [hnone]
        rfl
      · rw [hnone]
        rfl
      · -- an attach that hands out an id succeeds, which the condition excludes
        rw [hsome, Bridge.issued_issuedEvents]
        by_contra hids
        have hattach := @Bridge.attaches_of_attachMonitor _ E stopAt spec s.bridge fun hnone =>
          hids (by rw [hnone]; rfl)
        exact (hguard ⟨req, spec, hpc, hspec, hattach⟩).2 htaken
  · exact h

/-- The callback ends with a change of the recorded ids of its endpoint: what it hands out is
recorded, what is not forgotten stays, and nothing comes to an endpoint whose ids were taken. -/
theorem recordWith (h : s.Invariant) {name : String} {rt : BridgeMonitorRuntime}
    (hrt : ∃ ids, rt = { s.bridge.runtime with endpointSessionIds := ids })
    (hother : ∀ other, other ≠ name → rt.recorded other = s.bridge.runtime.recorded other)
    (hnew : ∀ id ∈ (s.callbacks name).unrecorded, id ∈ rt.recorded name)
    (hold : ∀ id ∈ s.bridge.runtime.recorded name, (s.callbacks name).forgetting ≠ some id →
      id ∈ rt.recorded name)
    (htaken : s.Taken name → rt.recorded name = []) :
    Invariant { s.setCallback name .idle with bridge := { s.bridge with runtime := rt } } := by
  have haccounted : Bridge.Accounted s.handedOut s.created { s.bridge with runtime := rt } := by
    obtain ⟨ids, rfl⟩ := hrt
    exact h.accounted.congr h.accounted.wf ⟨rfl, rfl, rfl⟩ le_rfl fun _ _ hown => hown
  refine h.callbackWith hrt hother haccounted (fun hbusy => absurd rfl hbusy)
    (fun x hx => Or.inl hx) (fun x hx hname hid => ?_) nofun fun hmarked => ⟨htaken hmarked, rfl⟩
  have hkept := h.held x hx hid
  rw [mem_kept, hname] at hkept
  rcases hkept with hin | hin | hin
  · refine Or.inl (hold x.sessionId hin fun hforget => ?_)
    exact h.forgetting name x.sessionId hforget x hx hname rfl hid
  · exact Or.inl (hnew x.sessionId hin)
  · exact Or.inr (Or.inr hin)

theorem record (h : s.Invariant) (name : String) : (s.record name).1.Invariant := by
  unfold Plane.record
  split
  · next req res hpc =>
    have htaken := h.taken name
    have hunrecorded : (s.callbacks name).unrecorded = issued (Bridge.issuedIn res) := by
      rw [hpc]
      rfl
    rw [hunrecorded] at htaken
    rcases Bridge.recordAnswer_cases name req res s.bridge with
      ⟨id, hids, heq⟩ | ⟨hids, ⟨id, hforget, heq⟩ | heq⟩
    · rw [heq]
      refine h.recordWith ⟨_, rfl⟩ (fun other hne => ?_) (fun id' hid => ?_) (fun id' hid _ => ?_)
        fun hname => ?_
      · rw [BridgeMonitorRuntime.recorded_recordSession, if_neg hne]
      · rw [hunrecorded, hids] at hid
        rw [BridgeMonitorRuntime.recorded_recordSession, if_pos rfl]
        exact List.mem_append_right _ hid
      · rw [BridgeMonitorRuntime.recorded_recordSession, if_pos rfl]
        exact List.mem_append_left _ hid
      · exact absurd (hids.symm.trans (htaken hname).2) (List.cons_ne_nil id [])
    · rw [heq]
      refine h.recordWith ?_ (fun other hne => ?_) (fun id' hid => ?_) (fun id' hid hne => ?_)
        fun hname => ?_
      · unfold BridgeMonitorRuntime.forgetSession
        split
        · exact ⟨_, rfl⟩
        · exact ⟨_, rfl⟩
      · rw [BridgeMonitorRuntime.recorded_forgetSession, if_neg hne]
      · rw [hunrecorded, hids] at hid
        exact absurd hid List.not_mem_nil
      · rw [hpc, hforget] at hne
        rw [BridgeMonitorRuntime.recorded_forgetSession, if_pos rfl, List.mem_filter]
        refine ⟨hid, ?_⟩
        have hne' : id' ≠ id := fun h => hne (by rw [h])
        simpa using hne'
      · rw [BridgeMonitorRuntime.recorded_forgetSession, if_pos rfl, (htaken hname).1]
        rfl
    · rw [heq]
      refine h.recordWith ⟨s.bridge.runtime.endpointSessionIds, rfl⟩ (fun _ _ => rfl)
        (fun id' hid => ?_) (fun _ hid _ => hid) fun hname => (htaken hname).1
      rw [hunrecorded, hids] at hid
      exact absurd hid List.not_mem_nil
  · exact h

/-! ## The main thread -/

/-- A step of the main thread: what it takes from the recorded ids it is about to detach, and
where it takes the ids of an endpoint none waits to be recorded. -/
theorem mainWith (h : s.Invariant) {b' : Bridge ε} {pc : MainPc} (passes : Nat)
    (haccounted : Bridge.Accounted s.handedOut s.created b')
    (hattached : b'.runtimeAttached = s.bridge.runtimeAttached)
    (hinUse : pc ≠ .idle ∨ b'.runtime.ondemandSessions ≠ [] →
      b'.runtime.initialized = true ∧ b'.runtime.ondemandMux = true)
    (halive : ∀ name, s.Alive name →
      name ∈ b'.runtime.ondemandSessions ∨ ∃ names, pc = .pushing name names)
    (hlisted : ∀ id ∈ b'.runtime.monitorSessions, id ∈ s.bridge.runtime.monitorSessions)
    (hkept : ∀ name, ∀ id ∈ b'.runtime.monitorSessions,
      id ∈ s.bridge.runtime.recorded name ∨ id ∈ s.main.removals name →
      id ∈ b'.runtime.recorded name ∨ id ∈ pc.removals name)
    (htaken : ∀ name ∈ b'.runtime.disconnectedControlEndpoints, name ∉ pc.awaiting →
      b'.runtime.recorded name = [] ∧ (s.callbacks name).unrecorded = []) :
    Invariant { s with bridge := b', main := pc, passes := passes } := by
  constructor
  case accounted => exact haccounted
  case notAttached => exact hattached.trans h.notAttached
  case inUse => exact hinUse
  case alive => exact fun name hpc => halive name (h.alive name hpc)
  case accepted => exact fun x hx => halive _ (h.accepted x hx)
  case held =>
    intro x hx hid
    have hin := h.held x hx (hlisted _ hid)
    rw [mem_kept] at hin ⊢
    rcases hin with hin | hin | hin
    · exact (hkept _ _ hid (Or.inl hin)).imp_right Or.inr
    · exact Or.inr (Or.inl hin)
    · exact (hkept _ _ hid (Or.inr hin)).imp_right Or.inr
  case forgetting =>
    intro name id hforget x hx hendpoint hid hmem
    exact h.forgetting name id hforget x hx hendpoint hid (hlisted id hmem)
  case taken => exact fun name hname => htaken name hname.1 hname.2

/-- Outside the section that hands an endpoint over, the live endpoints are those of the runtime. -/
theorem listed_of_alive {name : String} (hname : s.Alive name)
    (hmain : ∀ names, s.main ≠ .pushing name names) :
    name ∈ s.bridge.runtime.ondemandSessions := by
  apply hname.resolve_right
  rintro ⟨names, heq⟩
  exact hmain names heq

/-- A step that leaves the bridge alone and has nothing to detach. -/
theorem mainMoves (h : s.Invariant) {pc : MainPc} (passes : Nat)
    (hinUse : s.bridge.runtime.initialized = true ∧ s.bridge.runtime.ondemandMux = true)
    (hmain : ∀ name names, s.main ≠ .pushing name names)
    (hremovals : ∀ name, s.main.removals name = [])
    (hawaiting : ∀ name, name ∉ pc.awaiting → name ∉ s.main.awaiting) :
    Invariant { s with main := pc, passes := passes } := by
  refine h.mainWith passes h.accounted rfl (fun _ => hinUse)
    (fun name hname => Or.inl (listed_of_alive hname (hmain name))) (fun _ hid => hid)
    (fun name id _ hin => ?_) fun name hname hnot => ?_
  · rw [hremovals] at hin
    exact Or.inl (hin.resolve_right List.not_mem_nil)
  · exact h.taken name ⟨hname, hawaiting name hnot⟩

/-- The callback of a new endpoint is registered. -/
theorem registers (h : s.Invariant) {name : String} {names : List String}
    (hmain : s.main = .accepting (name :: names)) :
    Invariant { s with
      bridge := registerCallback name s.bridge
      main := .pushing name names } := by
  have hwf : (registerCallback name s.bridge).WellFormed :=
    h.accounted.wf.grow (Bridge.extends_control s.bridge.host _ _)
  refine h.mainWith s.passes
    (h.accounted.congr hwf (.refl s.bridge.runtime) le_rfl fun _ _ hown => hown) rfl
    (fun _ => h.inUse (Or.inl (by simp [hmain])))
    (fun other hother => Or.inl (listed_of_alive hother (by simp [hmain]))) (fun _ hid => hid)
    (fun other id _ hin => ?_) fun other hother _ => ?_
  · rw [hmain] at hin
    exact hin
  · refine h.taken other ⟨hother, ?_⟩
    rw [hmain]
    exact List.not_mem_nil

/-- A new endpoint is handed over. -/
theorem pushes (h : s.Invariant) {name : String} {names : List String}
    (hmain : s.main = .pushing name names) :
    Invariant { s with bridge := pushSession name s.bridge, main := .accepting names } := by
  refine h.mainWith s.passes
    (h.accounted.congr h.accounted.wf ⟨rfl, rfl, rfl⟩ le_rfl fun _ _ hown => hown) rfl
    (fun _ => h.inUse (Or.inl (by simp [hmain])))
    (fun other hother => Or.inl (List.mem_append.2 ?_)) (fun _ hid => hid)
    (fun other id _ hin => ?_) fun other hother _ => ?_
  · apply hother.imp_right
    rintro ⟨names', heq⟩
    rw [hmain] at heq
    rw [(MainPc.pushing.inj heq).1]
    exact List.mem_singleton_self other
  · rw [hmain] at hin
    exact hin
  · refine h.taken other ⟨hother, ?_⟩
    rw [hmain]
    exact List.not_mem_nil

/-- The endpoints that do not run are marked; their ids are still to be taken. -/
theorem marks (h : s.Invariant) (hmain : s.main = .accepting []) (running : String → Bool) :
    Invariant { s with
      bridge := { s.bridge with
        runtime := (BridgeMonitorRuntime.markDisconnected running
          s.bridge.runtime.ondemandSessions s.bridge.runtime).1 }
      main := .detaching (BridgeMonitorRuntime.markDisconnected running
        s.bridge.runtime.ondemandSessions s.bridge.runtime).2 } := by
  obtain ⟨hfst, -, -⟩ := BridgeMonitorRuntime.markDisconnected_spec running
    s.bridge.runtime.ondemandSessions s.bridge.runtime
  rw [hfst]
  refine h.mainWith s.passes
    (h.accounted.congr h.accounted.wf ⟨rfl, rfl, rfl⟩ le_rfl fun _ _ hown => hown) rfl
    (fun _ => h.inUse (Or.inl (by simp [hmain])))
    (fun other hother => Or.inl (listed_of_alive hother (by simp [hmain]))) (fun _ hid => hid)
    (fun other id _ hin => ?_) fun other hother hnot => ?_
  · rw [hmain] at hin
    exact hin
  · refine h.taken other ⟨(List.mem_append.1 hother).resolve_right hnot, ?_⟩
    rw [hmain]
    exact List.not_mem_nil

/-- The recorded ids of one endpoint are taken while none waits to be recorded. -/
theorem takes (h : s.Invariant) {name : String} {names : List String}
    (hmain : s.main = .detaching (name :: names)) (hnone : (s.callbacks name).unrecorded = []) :
    Invariant { s with
      bridge := { s.bridge with runtime := (s.bridge.runtime.takeSessionIds name).1 }
      main := .removing name (s.bridge.runtime.takeSessionIds name).2 names } := by
  have hrecorded := s.bridge.runtime.recorded_takeSessionIds name
  obtain ⟨ids, hfst⟩ := s.bridge.runtime.takeSessionIds_fst name
  rw [s.bridge.runtime.takeSessionIds_snd name]
  rw [hfst] at hrecorded ⊢
  refine h.mainWith s.passes
    (h.accounted.congr h.accounted.wf ⟨rfl, rfl, rfl⟩ le_rfl fun _ _ hown => hown) rfl
    (fun _ => h.inUse (Or.inl (by simp [hmain])))
    (fun other hother => Or.inl (listed_of_alive hother (by simp [hmain]))) (fun _ hid => hid)
    (fun other id _ hin => ?_) fun other hother hnot => ?_
  · rw [hmain] at hin
    have hin' := hin.resolve_right List.not_mem_nil
    rw [hrecorded, MainPc.removals_removing]
    by_cases heq : other = name
    · rw [if_pos heq, if_pos heq.symm, ← heq]
      exact Or.inr hin'
    · rw [if_neg heq]
      exact Or.inl hin'
  · rw [hrecorded]
    split_ifs with heq
    · rw [heq]
      exact ⟨rfl, hnone⟩
    · refine h.taken other ⟨hother, ?_⟩
      rw [hmain]
      exact fun hmem => (List.mem_cons.1 hmem).elim heq hnot

/-- One session is detached. -/
theorem removes (h : s.Invariant) {name id : String} {ids names : List String}
    (hmain : s.main = .removing name (id :: ids) names) :
    Invariant { s with
      bridge := (s.bridge.detachMonitor id).1
      main := .removing name ids names } := by
  have hplane := Bridge.Accounted.samePlane_detachMonitor s.bridge id
  have hrecorded : ∀ other, (s.bridge.detachMonitor id).1.runtime.recorded other =
      s.bridge.runtime.recorded other := by
    intro other
    unfold BridgeMonitorRuntime.recorded
    rw [hplane.endpointSessionIds]
  have hlisted : ∀ id' ∈ (s.bridge.detachMonitor id).1.runtime.monitorSessions,
      id' ∈ s.bridge.runtime.monitorSessions ∧ id' ≠ id := by
    intro id' hid'
    unfold Bridge.detachMonitor at hid'
    split_ifs at hid' with hmem
    · exact ⟨(AList.mem_erase.1 hid').2, (AList.mem_erase.1 hid').1⟩
    · exact ⟨hid', fun heq => hmem (heq ▸ hid')⟩
  refine h.mainWith s.passes (h.accounted.detach id)
    (Bridge.Accounted.runtimeAttached_detachMonitor s.bridge id) (fun _ => ?_)
    (fun other hother => Or.inl ?_) (fun id' hid' => (hlisted id' hid').1)
    (fun other id' hid' hin => ?_) fun other hother hnot => ?_
  · obtain ⟨hinit, hmux⟩ := h.inUse (Or.inl (by simp [hmain]))
    exact hplane.inUse hinit hmux
  · rw [hplane.ondemandSessions]
    exact listed_of_alive hother (by simp [hmain])
  · rw [hrecorded]
    apply hin.imp_right
    intro hin
    rw [hmain, MainPc.removals_removing] at hin
    rw [MainPc.removals_removing]
    split_ifs at hin ⊢ with heq
    · exact (List.mem_cons.1 hin).resolve_left (hlisted id' hid').2
    · exact hin
  · rw [hrecorded]
    rw [hplane.disconnected] at hother
    refine h.taken other ⟨hother, ?_⟩
    rw [hmain]
    exact hnot

/-- A pass begins, if the runtime is in use. -/
theorem begins (h : s.Invariant) (hmain : s.main = .idle) (accepted : List String)
    (hinit : s.bridge.runtime.initialized = true ∧ s.bridge.runtime.ondemandMux = true) :
    Invariant { s with main := .accepting accepted } := by
  refine h.mainMoves s.passes hinit (by simp [hmain]) (fun name => ?_) fun name _ => ?_
  · rw [hmain]
    rfl
  · rw [hmain]
    exact List.not_mem_nil

/-- The sessions of one endpoint are detached. -/
theorem proceeds (h : s.Invariant) {name : String} {names : List String}
    (hmain : s.main = .removing name [] names) : Invariant { s with main := .detaching names } := by
  refine h.mainMoves s.passes (h.inUse (Or.inl (by simp [hmain]))) (by simp [hmain])
    (fun other => ?_) fun other hnot => ?_
  · rw [hmain, MainPc.removals_removing]
    split_ifs <;> rfl
  · rw [hmain]
    exact hnot

/-- A pass is over. -/
theorem ends (h : s.Invariant) (hmain : s.main = .detaching []) :
    Invariant { s with main := .idle, passes := s.passes + 1 } := by
  refine h.mainMoves (s.passes + 1) (h.inUse (Or.inl (by simp [hmain]))) (by simp [hmain])
    (fun other => ?_) fun other _ => ?_
  · rw [hmain]
    rfl
  · rw [hmain]
    exact List.not_mem_nil

/-- A step of the main thread. -/
theorem mainStep (h : s.Invariant) {accepted : List String}
    (hguard : s.Recorded E (.main accepted)) : (s.mainStep E accepted).Invariant := by
  unfold Plane.mainStep
  split
  · next hmain =>
    split_ifs with hinit
    · exact ⟨h.accounted, h.notAttached, h.inUse, h.alive, h.accepted, h.held, h.forgetting,
        h.taken⟩
    · rw [not_or, Bool.not_eq_false, Bool.not_eq_false] at hinit
      exact h.begins hmain accepted hinit
  · next hmain => exact h.registers hmain
  · next hmain => exact h.pushes hmain
  · next hmain => exact h.marks hmain _
  · next name names hmain => exact h.takes hmain (hguard name names hmain)
  · next hmain => exact h.removes hmain
  · next hmain => exact h.proceeds hmain
  · next hmain => exact h.ends hmain

/-- **Step.** A step that takes no ids too early keeps the invariant. -/
theorem step (h : s.Invariant) {op : PlaneOp ε} (hguard : s.Recorded E op) :
    (s.step E op).1.Invariant := by
  cases op with
  | outside op =>
    unfold Plane.step
    dsimp only
    split_ifs with hop
    · exact h.outside (h.accounted.outside h.notAttached hop hguard)
    · exact h
  | deliver name message => exact h.deliver name message
  | handle name stopAt => exact h.handle hguard
  | record name => exact h.record name
  | main accepted => exact h.mainStep hguard

end Invariant

/-- The control plane of a bridge that was just built. -/
theorem invariant_of_booted {b : Bridge ε} (hb : b.Booted) : Invariant { bridge := b } := by
  have hnil : ∀ name, b.runtime.recorded name = [] := by
    intro name
    rw [hb.noSessions]
    rfl
  refine ⟨⟨hb.wellFormed, ?_, ?_, ?_, ?_⟩, hb.notAttached, fun huse => ?_,
    fun name hname => absurd rfl hname, ?_, ?_, ?_, fun name _ => ⟨hnil name, rfl⟩⟩
  · rw [hb.noSessions]
    exact .of_empty rfl rfl rfl
  · exact fun x hx => absurd hx List.not_mem_nil
  · exact fun x hx => absurd hx List.not_mem_nil
  · exact fun x hx => absurd hx List.not_mem_nil
  · rw [hb.noSessions] at huse
    exact absurd huse (by simp)
  · exact fun x hx => absurd hx List.not_mem_nil
  · exact fun x hx => absurd hx List.not_mem_nil
  · exact fun _ _ _ x hx => absurd hx List.not_mem_nil

/-! ## An endpoint that has stopped -/

/-- The endpoint does not run and none of its callbacks is in progress. -/
def Quiet (E : Env ε) (s : Plane ε) (name : String) : Prop :=
  Bridge.sessionRunning E s.bridge.host.env name = false ∧ s.callbacks name = .idle

/-- No session that a subscribe of the endpoint created is in `monitor_sessions_`, and none of
its transfers is in a connection. -/
def SessionsGone (s : Plane ε) (name : String) : Prop :=
  ∀ x ∈ s.created, x.endpoint = name →
    x.sessionId ∉ s.bridge.runtime.monitorSessions ∧ ∀ r ∈ x.transfers, r ∉ s.bridge.core.ownedRefs

/-- No zombie: from a state between two passes, after steps in which an endpoint is quiet and a
pass was completed, its sessions are gone. -/
def ZombieFree (E : Env ε) (s : Plane ε) (after : List (PlaneOp ε)) : Prop :=
  ∀ name, s.main = .idle → Along (step E) (fun s _ => s.Quiet E name) s after →
    (run (step E) s after).1.Quiet E name → s.passes < (run (step E) s after).1.passes →
    (run (step E) s after).1.SessionsGone name

/-- How far the cleanup has come since `passes` passes were completed, while the endpoint does
not run: once it is marked it stays marked, the pass that marks it detaches its sessions, and no
later pass comes back to it. -/
structure Cleaned (passes : Nat) (name : String) (s : Plane ε) : Prop where
  listed : name ∈ s.bridge.runtime.ondemandSessions
  unmarked : name ∉ s.bridge.runtime.disconnectedControlEndpoints →
    s.main.beforeMark = true ∧ s.passes = passes
  done : passes < s.passes →
    name ∈ s.bridge.runtime.disconnectedControlEndpoints ∧ name ∉ s.main.busy

namespace Cleaned

variable {passes : Nat} {name : String} {s s' : Plane ε}

theorem congr (h : Cleaned passes name s)
    (hsessions : s'.bridge.runtime.ondemandSessions = s.bridge.runtime.ondemandSessions)
    (hdisconnected : s'.bridge.runtime.disconnectedControlEndpoints =
      s.bridge.runtime.disconnectedControlEndpoints)
    (hmain : s'.main = s.main) (hpasses : s'.passes = s.passes) : Cleaned passes name s' := by
  constructor
  case listed =>
    rw [hsessions]
    exact h.listed
  case unmarked =>
    rw [hdisconnected, hmain, hpasses]
    exact h.unmarked
  case done =>
    rw [hdisconnected, hmain, hpasses]
    exact h.done

/-- Past the marking, the endpoint is marked. -/
theorem marked (h : Cleaned passes name s) (hpast : s.main.beforeMark = false) :
    name ∈ s.bridge.runtime.disconnectedControlEndpoints := by
  by_contra hnot
  rw [(h.unmarked hnot).1] at hpast
  exact Bool.noConfusion hpast

/-- A pass marks the endpoint, unless an earlier one has. -/
theorem marks (h : Cleaned passes name s) {running : String → Bool}
    (hstopped : running name = false) :
    Cleaned passes name { s with
      bridge := { s.bridge with
        runtime := (BridgeMonitorRuntime.markDisconnected running
          s.bridge.runtime.ondemandSessions s.bridge.runtime).1 }
      main := .detaching (BridgeMonitorRuntime.markDisconnected running
        s.bridge.runtime.ondemandSessions s.bridge.runtime).2 } := by
  obtain ⟨hfst, hnew, hall⟩ := BridgeMonitorRuntime.markDisconnected_spec running
    s.bridge.runtime.ondemandSessions s.bridge.runtime
  have hmem := hall name h.listed hstopped
  rw [hfst]
  exact ⟨h.listed, fun hnot => absurd hmem hnot,
    fun hlt => ⟨hmem, fun hin => hnew name hin (h.done hlt).1⟩⟩

/-- The ids of an endpoint are taken. -/
theorem takes (h : Cleaned passes name s) {other : String} {names : List String}
    (hmain : s.main = .detaching (other :: names)) :
    Cleaned passes name { s with
      bridge := { s.bridge with runtime := (s.bridge.runtime.takeSessionIds other).1 }
      main := .removing other (s.bridge.runtime.takeSessionIds other).2 names } := by
  obtain ⟨ids, hfst⟩ := s.bridge.runtime.takeSessionIds_fst other
  have hmem := h.marked (by rw [hmain]; rfl)
  rw [hfst]
  refine ⟨h.listed, fun hnot => absurd hmem hnot, fun hlt => ⟨hmem, ?_⟩⟩
  have hbusy := (h.done hlt).2
  rw [hmain] at hbusy
  exact hbusy

/-- A session is detached. -/
theorem removes (h : Cleaned passes name s) {other id : String} {ids names : List String}
    (hmain : s.main = .removing other (id :: ids) names) :
    Cleaned passes name { s with
      bridge := (s.bridge.detachMonitor id).1
      main := .removing other ids names } := by
  have hplane := Bridge.Accounted.samePlane_detachMonitor s.bridge id
  have hmem := h.marked (by rw [hmain]; rfl)
  constructor
  case listed =>
    dsimp only
    rw [hplane.ondemandSessions]
    exact h.listed
  case unmarked =>
    dsimp only
    rw [hplane.disconnected]
    exact fun hnot => absurd hmem hnot
  case done =>
    dsimp only
    rw [hplane.disconnected]
    intro hlt
    have hbusy := (h.done hlt).2
    rw [hmain] at hbusy
    exact ⟨hmem, hbusy⟩

/-- A step of the main thread, while the endpoint does not run. -/
theorem mainStep (h : Cleaned passes name s) (hs : s.Invariant)
    (hstopped : Bridge.sessionRunning E s.bridge.host.env name = false) (accepted : List String) :
    Cleaned passes name (s.mainStep E accepted) := by
  unfold Plane.mainStep
  split
  · next hmain =>
    split_ifs with hinit
    · obtain ⟨hyes, hmux⟩ := hs.inUse (Or.inr (List.ne_nil_of_mem h.listed))
      rw [hyes, hmux] at hinit
      exact absurd hinit (by simp)
    · exact ⟨h.listed, fun hnot => ⟨rfl, (h.unmarked hnot).2⟩,
        fun hlt => ⟨(h.done hlt).1, List.not_mem_nil⟩⟩
  · exact ⟨h.listed, fun hnot => ⟨rfl, (h.unmarked hnot).2⟩,
      fun hlt => ⟨(h.done hlt).1, List.not_mem_nil⟩⟩
  · exact ⟨List.mem_append_left _ h.listed, fun hnot => ⟨rfl, (h.unmarked hnot).2⟩,
      fun hlt => ⟨(h.done hlt).1, List.not_mem_nil⟩⟩
  · exact h.marks hstopped
  · next hmain => exact h.takes hmain
  · next hmain => exact h.removes hmain
  · next name' names hmain =>
    have hmem := h.marked (by rw [hmain]; rfl)
    refine ⟨h.listed, fun hnot => absurd hmem hnot, fun hlt => ⟨hmem, fun hin => ?_⟩⟩
    have hbusy := (h.done hlt).2
    rw [hmain] at hbusy
    exact hbusy (List.mem_cons_of_mem _ hin)
  · next hmain =>
    have hmem := h.marked (by rw [hmain]; rfl)
    exact ⟨h.listed, fun hnot => absurd hmem hnot, fun _ => ⟨hmem, List.not_mem_nil⟩⟩

theorem step (h : Cleaned passes name s) (hs : s.Invariant)
    (hstopped : Bridge.sessionRunning E s.bridge.host.env name = false) {op : PlaneOp ε}
    (hguard : s.Recorded E op) : Cleaned passes name (s.step E op).1 := by
  cases op with
  | outside op =>
    unfold Plane.step
    dsimp only
    split_ifs with hop
    · have hplane := (hs.accounted.outside hs.notAttached hop hguard).samePlane
      exact h.congr hplane.ondemandSessions hplane.disconnected rfl rfl
    · exact h
  | deliver name' message =>
    show Cleaned passes name (s.deliver name' message)
    unfold Plane.deliver
    split
    · split_ifs
      · exact h.congr rfl rfl rfl rfl
      · exact h
    · exact h
  | handle name' stopAt =>
    show Cleaned passes name (s.handle E name' stopAt).1
    unfold Plane.handle
    split
    · exact h.congr rfl rfl rfl rfl
    · next req hpc =>
      have hplane := (@Bridge.Accounted.handleRequest _ E _ _ _ hs.accounted none stopAt req
        (some (.session name')) fun spec hspec hattach =>
          (hguard ⟨req, spec, hpc, hspec, hattach⟩).1).samePlane
      exact h.congr hplane.ondemandSessions hplane.disconnected rfl rfl
    · exact h
  | record name' =>
    show Cleaned passes name (s.record name').1
    unfold Plane.record
    split
    · next req res _ =>
      rcases Bridge.recordAnswer_cases name' req res s.bridge with
        ⟨id, -, heq⟩ | ⟨-, ⟨id, -, heq⟩ | heq⟩
      · rw [heq]
        exact h.congr rfl rfl rfl rfl
      · rw [heq]
        unfold BridgeMonitorRuntime.forgetSession
        split
        · exact h.congr rfl rfl rfl rfl
        · exact h.congr rfl rfl rfl rfl
      · rw [heq]
        exact h.congr rfl rfl rfl rfl
    · exact h
  | main accepted => exact h.mainStep hs hstopped accepted

end Cleaned

/-- A quiet endpoint creates no session. -/
theorem created_of_quiet {s : Plane ε} {name : String} (hidle : s.callbacks name = .idle)
    (hnone : ∀ x ∈ s.created, x.endpoint ≠ name) (op : PlaneOp ε) :
    ∀ x ∈ (s.step E op).1.created, x.endpoint ≠ name := by
  cases op with
  | outside op =>
    unfold Plane.step
    dsimp only
    split_ifs <;> exact hnone
  | deliver name' message =>
    show ∀ x ∈ (s.deliver name' message).created, _
    unfold Plane.deliver
    split
    · split_ifs <;> exact hnone
    · exact hnone
  | handle name' stopAt =>
    show ∀ x ∈ (s.handle E name' stopAt).1.created, _
    unfold Plane.handle
    split
    · exact hnone
    · next req hpc =>
      intro x hx
      rcases List.mem_append.1 hx with hx | hx
      · exact hnone x hx
      · obtain ⟨id, -, rfl⟩ := List.mem_map.1 hx
        rintro rfl
        rw [hidle] at hpc
        exact CallbackPc.noConfusion hpc
    · exact hnone
  | record name' =>
    show ∀ x ∈ (s.record name').1.created, _
    unfold Plane.record
    split <;> exact hnone
  | main accepted =>
    show ∀ x ∈ (s.mainStep E accepted).created, _
    unfold Plane.mainStep
    split
    · split_ifs <;> exact hnone
    all_goals exact hnone

/-! ## Runs -/

/-- **No zombies.** From a bridge that was just built on: if every step meets `Recorded`, then
no session of an endpoint is left once it has been quiet over a pass. -/
theorem zombieFree_run {cfg : BridgeConfig} {nodeName : String} {container : List String} {e : ε}
    {b : Bridge ε} (hboot : Bridge.boot E cfg nodeName container e = some b)
    {before after : List (PlaneOp ε)}
    (hrun : Along (step E) (Recorded E) { bridge := b } (before ++ after)) :
    ZombieFree E (run (step E) { bridge := b } before).1 after := by
  intro name hidle hquiet hlast hpass
  have hstart := invariant_of_booted (Bridge.booted_of_boot hboot)
  obtain ⟨hbefore, hafter⟩ := along_append.1 hrun
  have hstep : ∀ (t : Plane ε) (op : PlaneOp ε), t.Invariant → t.Recorded E op →
      (t.step E op).1.Invariant := fun t op ht hguard => ht.step hguard
  have hs := run_invariant hstep hstart hbefore
  revert hidle hquiet hlast hpass hafter hs
  generalize (run (step E) { bridge := b } before).1 = s
  intro hidle hquiet hlast hpass hafter hs
  have hend := run_invariant hstep hs hafter
  by_cases hlisted : name ∈ s.bridge.runtime.ondemandSessions
  · -- the endpoint is marked by the pass at the latest, and its sessions are detached in it
    have hphase : Cleaned s.passes name (run (step E) s after).1 := by
      have hinit : s.Invariant ∧ Cleaned s.passes name s := by
        refine ⟨hs, hlisted, fun _ => ⟨?_, rfl⟩, fun hlt => absurd hlt (lt_irrefl _)⟩
        rw [hidle]
        rfl
      have hboth : ∀ (t : Plane ε) (op : PlaneOp ε), (t.Invariant ∧ Cleaned s.passes name t) →
          (t.Recorded E op ∧ t.Quiet E name) →
          (t.step E op).1.Invariant ∧ Cleaned s.passes name (t.step E op).1 :=
        fun t op ht hop => ⟨ht.1.step hop.1, ht.2.step ht.1 hop.2.1 hop.1⟩
      exact (run_invariant hboth hinit (hafter.and hquiet)).2
    obtain ⟨hmarked, hbusy⟩ := hphase.done hpass
    obtain ⟨hrecorded, hunrecorded⟩ :=
      hend.taken name ⟨hmarked, MainPc.not_awaiting_of_not_busy hbusy⟩
    intro x hx hendpoint
    have hgone : x.sessionId ∉ (run (step E) s after).1.bridge.runtime.monitorSessions := by
      intro hid
      have hkept := hend.held x hx hid
      rw [hendpoint, kept, hrecorded, hunrecorded, MainPc.removals_of_not_busy hbusy] at hkept
      exact absurd hkept List.not_mem_nil
    exact ⟨hgone, hend.accounted.gone hx hgone⟩
  · -- the endpoint never was with the runtime and its callback never began
    have hnone : ∀ x ∈ s.created, x.endpoint ≠ name := by
      rintro x hx rfl
      refine hlisted (Invariant.listed_of_alive (hs.accepted x hx) ?_)
      rw [hidle]
      exact fun names => MainPc.noConfusion
    have hstays : ∀ (t : Plane ε) (op : PlaneOp ε), (∀ x ∈ t.created, x.endpoint ≠ name) →
        t.Quiet E name → ∀ x ∈ (t.step E op).1.created, x.endpoint ≠ name :=
      fun t op ht hop => created_of_quiet hop.2 ht op
    have hnever := run_invariant hstays hnone hquiet
    exact fun x hx hendpoint => absurd hendpoint (hnever x hx)

/-! ## The two orders -/

/-- The small caches; the session endpoints run at time 0 only. -/
def hangingUp : Env CacheState :=
  { (CacheSpec.small .latest).env none with
    isRunning := fun ep e =>
      match ep with
      | .session _ => (.ok, e.clock == 0)
      | _ => (.ok, true) }

/-- The small bridge over them, just built. -/
def builtSmall : Option (Bridge CacheState) :=
  Bridge.boot hangingUp (BridgeConfig.small ⟨"immediate", none, none⟩ [⟨"k", "r", "pos"⟩] false)
    "node" ["src", "dst"] CacheState.empty

/-- The endpoint `e` connects and subscribes, up to the answer. -/
def subscribing : List (PlaneOp CacheState) :=
  [.outside .start,
    .outside
      (.initializeRuntime { enableOndemand := true, ondemandMuxConfigPath := "mux" } .ok .ok),
    .main ["e"], .main [], .main [], .main [], .main [],
    .deliver "e" (some (.obj [("type", .str "subscribe"), ("connection_id", .str "conn")])),
    .handle "e" none]

/-- The endpoint stops running. -/
def hangUp : PlaneOp CacheState := .outside (.environment fun e => { e with clock := 1 })

/-- The id is recorded before the endpoint stops: the next pass detaches the session. -/
theorem zombieFree_small :
    let s := (run (step hangingUp) { bridge := builtSmall.get rfl }
      (subscribing ++ [.record "e", hangUp])).1
    let s' := (run (step hangingUp) s (List.replicate 6 (.main []))).1
    s.created.map CreatedSession.sessionId = ["ms-1"] ∧ s'.SessionsGone "e" := by
  intro s s'
  have hboot : builtSmall = some (builtSmall.get rfl) := (Option.some_get rfl).symm
  refine ⟨by decide, zombieFree_run hboot ?_ "e" rfl ?_ ⟨rfl, rfl⟩ (by decide)⟩
  · refine ⟨nofun, nofun, nofun, nofun, nofun, nofun, nofun, trivial, ?_, trivial, nofun, nofun,
      nofun, ?_, nofun, nofun, nofun, trivial⟩
    · exact fun _ => ⟨by decide, fun htaken => absurd htaken.1 (by decide)⟩
    · intro name names hmain
      obtain ⟨rfl, -⟩ := List.cons.inj (MainPc.detaching.inj hmain)
      rfl
  · exact ⟨⟨rfl, rfl⟩, ⟨rfl, rfl⟩, ⟨rfl, rfl⟩, ⟨rfl, rfl⟩, ⟨rfl, rfl⟩, ⟨rfl, rfl⟩, trivial⟩

/-- The endpoint stops between the answer and the record: the pass marks it and finds no ids,
then the id is recorded, and no later pass looks at it. -/
theorem zombie_after_disconnect :
    ¬ ZombieFree hangingUp
      (run (step hangingUp) { bridge := builtSmall.get rfl }
        (subscribing ++ [hangUp, .main [], .main [], .main [], .main [], .main [], .record "e"])).1
      [.main [], .main [], .main []] := by
  intro hfree
  have hquiet : Along (step hangingUp) (fun s _ => s.Quiet hangingUp "e")
      (run (step hangingUp) { bridge := builtSmall.get rfl }
        (subscribing ++ [hangUp, .main [], .main [], .main [], .main [], .main [], .record "e"])).1
      [.main [], .main [], .main []] :=
    ⟨⟨rfl, rfl⟩, ⟨rfl, rfl⟩, ⟨rfl, rfl⟩, trivial⟩
  have hgone := hfree "e" rfl hquiet ⟨rfl, rfl⟩ (by decide) ⟨"e", "ms-1", [1]⟩ (by decide) rfl
  exact absurd (show "ms-1" ∈ _ by decide) hgone.1

end Plane

end HakoniwaBridge
