import HakoniwaBridge.SessionPdus

/-!
# All views of a connection agree

`list_pdus`, `resolve_monitor_selection` and the sessions of a connection id are compared with what
the configuration names for it, in every state that a built bridge reaches.

* `Bridge.Holds` — the tables keep what a session was given, as long as it is listed;
  `holds_step` and `holds_run`.
* `Bridge.SessionsOwn` — the sessions that were attached with a destination own one transfer for
  each PDU.
* `views_agree` — **all views agree** on an id that is not empty, the sessions as long as no more
  than `2 ^ 64` session ids were issued. `views_disagree` is why: a build skips the PDUs of the
  empty id, and a session whose id is in use gets no entry of its own.
-/

namespace HakoniwaBridge

open Lib

variable {ε : Type} {E : Env ε}

namespace Bridge

variable {b b' : Bridge ε} {sessionId id : String} {session : MonitorSessionRuntime}

/-! ## What a session keeps -/

/-- As long as the session is listed, it is one on `id` and holds `session`. -/
def Holds (sessionId id : String) (session : MonitorSessionRuntime) (b : Bridge ε) : Prop :=
  ∀ info, b.runtime.monitorSessions.lookup sessionId = some info → info.connectionId = id ∧
    b.runtime.monitorRuntimeSessions.lookup sessionId = some session

theorem Holds.congr (h : b.Holds sessionId id session)
    (htables : b.runtime.SameTables b'.runtime) : b'.Holds sessionId id session := by
  unfold Holds
  rw [htables.monitorSessions, htables.monitorRuntimeSessions]
  exact h

/-- What the steps of a bridge are made of, apart from attaches. -/
theorem holds_closed (E : Env ε) (sessionId id : String) (session : MonitorSessionRuntime) :
    ControlClosed E (Holds (ε := ε) sessionId id session) where
  host _ _ _ h := h
  core _ _ _ h := h
  runtime _ _ htables h := h.congr htables
  attached _ _ h := h
  accept _ _ _ h := h
  detach b gone h := by
    unfold detachMonitor
    split_ifs
    · intro info hinfo
      by_cases heq : sessionId = gone
      · rw [heq, AList.lookup_erase] at hinfo
        exact absurd hinfo (by simp)
      · rw [AList.lookup_erase_ne heq] at hinfo
        rw [AList.lookup_erase_ne heq]
        exact h info hinfo
    · exact h
  shutdown b h := by
    unfold shutdown
    split_ifs
    · exact h
    · intro info hinfo
      exact absurd hinfo (by simp)

/-- **Step.** A session keeps what it holds unless its id is issued again. -/
theorem holds_step (E : Env ε) (h : b.Holds sessionId id session) {op : Op ε}
    (hnew : sessionId ∉ issued (b.step E op).2) : (b.step E op).1.Holds sessionId id session := by
  cases hop : op.onConnection with
  | true =>
    unfold Holds
    rw [runtime_step_onConnection E b hop]
    exact h
  | false =>
    rcases issued_step E b hop with ⟨-, hkeep⟩ | ⟨stopAt, spec, -, hsome, hkeep⟩
    · exact hkeep _ (holds_closed E sessionId id session) h
    · apply hkeep _ (holds_closed E sessionId id session)
      rw [hsome] at hnew
      rcases heq : b.attachMonitor E stopAt spec with ⟨b', out⟩
      rw [heq] at hnew
      cases out with
      | none =>
        unfold Holds
        rw [runtime_of_attachMonitor_none heq]
        exact h
      | some newId =>
        obtain ⟨selection, ts, h', i, c, src, -, -, -, -, rfl, rfl⟩ := attachMonitor_some heq
        have hne : sessionId ≠ b.runtime.nextSessionId := by
          simpa using hnew
        obtain ⟨hsessions, hruntime⟩ := BridgeMonitorRuntime.lookup_insertSession_ne
          (sessionInfo spec selection) (ts.map ITransferPdu.self) spec.destinationEndpoint hne
        unfold Holds
        rw [hsessions, hruntime]
        exact h

/-- From some state on, a session keeps what it holds unless its id is issued again. -/
theorem holds_run (E : Env ε) (h : b.Holds sessionId id session) {ops : List (Op ε)}
    (hnew : sessionId ∉ issued (run (step E) b ops).2) :
    (run (step E) b ops).1.Holds sessionId id session := by
  have hkeep : ∀ (b : Bridge ε) (es : List Event) (op : Op ε),
      (sessionId ∉ issued es → b.Holds sessionId id session) →
      sessionId ∉ issued (es ++ (b.step E op).2) → (b.step E op).1.Holds sessionId id session := by
    intro b es op hb hnot
    rw [issued_append, List.mem_append, not_or] at hnot
    exact holds_step E (hb hnot.1) hnot.2
  have hstart : sessionId ∉ issued [] → b.Holds sessionId id session := fun _ => h
  exact run_history_of_forall hkeep hstart ops hnew

/-- **Attach.** A session that was just attached with a destination holds its transfers. -/
theorem holds_attached {pdus : String → List (String × String)} {n : Nat} (h : Supplied pdus n b)
    (hn : n < 2 ^ 64) {op : Op ε} {stopAt : Option Nat} {spec : MonitorSessionSpec}
    (hop : op.attaches E = some (stopAt, spec)) {dst : EndpointRef}
    (hdst : spec.destinationEndpoint = some dst) (hissued : sessionId ∈ issued (b.step E op).2) :
    ∃ session, session.destinationEndpoint = some dst ∧
      (b.step E op).1.Holds sessionId spec.connectionId session := by
  have hconnection : op.onConnection = false := by
    cases op <;> first | rfl | exact absurd hop (by simp [Op.attaches])
  rcases issued_step E b hconnection with ⟨hnone, -⟩ | ⟨stopAt', spec', hop', hsome, hkeep⟩
  · rw [hnone] at hissued
    exact absurd hissued List.not_mem_nil
  · obtain ⟨rfl, rfl⟩ := Prod.mk.inj (Option.some.inj (hop.symm.trans hop'))
    rw [hsome] at hissued
    rcases heq : b.attachMonitor E stopAt spec with ⟨b', out⟩
    rw [heq] at hissued hkeep
    cases out with
    | none => exact absurd hissued List.not_mem_nil
    | some newId =>
      obtain rfl : sessionId = newId := by simpa using hissued
      obtain ⟨selection, ts, h', i, c, src, hadmitted, -, -, hmade, rfl, rfl⟩ :=
        attachMonitor_some heq
      have hnext : b.runtime.nextSessionId = sessionIdOf n := sessionIdOf_eq h.numbered.counter
      obtain ⟨hnew, htable⟩ := h.numbered.fresh hn
      rw [← hnext] at hnew htable
      have hts : ts.map ITransferPdu.self ≠ [] :=
        fun hnil => made_ne_nil hadmitted hdst hmade (List.map_eq_nil_iff.1 hnil)
      refine ⟨⟨ts.map ITransferPdu.self, some dst⟩, rfl, hkeep _ (holds_closed E _ _ _) ?_⟩
      have hid : "ms-" ++ toString b.runtime.nextMonitorSessionId.toNat =
          b.runtime.nextSessionId := rfl
      have hsessions := (BridgeMonitorRuntime.insertSession_new (sessionInfo spec selection)
        (ts.map ITransferPdu.self) spec.destinationEndpoint hid hnew htable).1
      rintro info (hinfo : (b.runtime.insertSession _ _ _).1.monitorSessions.lookup _ = some info)
      rw [hsessions, AList.lookup_insert] at hinfo
      refine ⟨by rw [← Option.some.inj hinfo]; rfl, ?_⟩
      show (b.runtime.insertSession _ _ _).1.monitorRuntimeSessions.lookup _ = _
      rw [BridgeMonitorRuntime.lookup_insertSession _ _ _ htable, if_pos ⟨rfl, hts⟩, hdst]

/-! ## All views -/

/-- In a run from `b₀`, the sessions that were attached to `id` with a destination and are still
listed own one transfer for each of `pdus`. -/
def SessionsOwn (E : Env ε) (b₀ : Bridge ε) (ops : List (Op ε)) (id : String)
    (pdus : List (String × String)) : Prop :=
  ∀ before op after, ops = before ++ op :: after →
    ∀ stopAt spec dst, op.attaches E = some (stopAt, spec) → spec.connectionId = id →
      spec.destinationEndpoint = some dst →
      ∀ sessionId ∈ issued ((run (step E) b₀ before).1.step E op).2,
        sessionId ∈ (run (step E) b₀ ops).1.runtime.monitorSessions →
        ∃ session,
          (run (step E) b₀ ops).1.runtime.monitorRuntimeSessions.lookup sessionId = some session ∧
          session.destinationEndpoint = some dst ∧
          (run (step E) b₀ ops).1.core.OwnsEach id session.transfers pdus

/-- **Transfers of the sessions.** As long as session ids do not repeat. -/
theorem sessionsOwn {cfg : BridgeConfig} {nodeName : String} {container : List String} {e : ε}
    {b₀ : Bridge ε} (hboot : boot E cfg nodeName container e = some b₀) (ops : List (Op ε))
    (hcount : (issued (run (step E) b₀ ops).2).length ≤ 2 ^ 64) (id : String) :
    SessionsOwn E b₀ ops id (b₀.core.pdusOf id) := by
  rintro before op after rfl stopAt spec dst hop rfl hdst sessionId hissued hlisted
  have hbefore := supplied_run hboot before
  have hafter := supplied_run hboot (before ++ op :: after)
  have hsupplied := (hafter hcount).1
  have hnodup := hafter.nodup hcount
  -- the ids issued before, by and after the attach
  have hids : issued (run (step E) b₀ (before ++ op :: after)).2 =
      issued (run (step E) b₀ before).2 ++ (issued ((run (step E) b₀ before).1.step E op).2 ++
        issued (run (step E) ((run (step E) b₀ before).1.step E op).1 after).2) := by
    rw [run_append_snd, run_cons_snd, issued_append, issued_append]
  have hstate : (run (step E) b₀ (before ++ op :: after)).1 =
      (run (step E) ((run (step E) b₀ before).1.step E op).1 after).1 := by
    rw [run_append_fst]
    rfl
  rw [hids] at hnodup hcount
  rw [List.length_append, List.length_append] at hcount
  have hsome := List.length_pos_of_mem hissued
  obtain ⟨session, hsession, hholds⟩ :=
    holds_attached (hbefore (by omega)).1 (by omega) hop hdst hissued
  have hnot : sessionId ∉
      issued (run (step E) ((run (step E) b₀ before).1.step E op).1 after).2 := by
    have hrest := (List.nodup_append.1 hnodup).2.1
    exact fun hagain => (List.nodup_append.1 hrest).2.2 _ hissued _ hagain rfl
  have hkept := holds_run E hholds hnot
  rw [← hstate] at hkept
  obtain ⟨info, hinfo⟩ := Option.isSome_iff_exists.1 (AList.lookup_isSome.2 hlisted)
  obtain ⟨hconnection, hlookup⟩ := hkept info hinfo
  obtain ⟨info', dst', hinfo', hdst', heach⟩ := hsupplied.owns _ _ hlookup
  obtain rfl := Option.some.inj (hinfo.symm.trans hinfo')
  rw [hconnection] at heach
  exact ⟨session, hlookup, hsession, heach⟩

/-- **All views agree.** A configuration is built, anything happens to the bridge, and `connDef` is
a connection of the node whose id is not empty. Then the rows of `list_pdus`, the keys and filters
of `resolve_monitor_selection` and the filters of the listed sessions show the PDUs that the
configuration names for the id, each once and in order of their first occurrence; and as long as no
more than `2 ^ 64` session ids were issued, the sessions with a destination own a transfer for
each. -/
theorem views_agree {cfg : BridgeConfig} {nodeName : String} {container : List String} {e : ε}
    {b₀ : Bridge ε} (hboot : boot E cfg nodeName container e = some b₀) (ops : List (Op ε))
    {connDef : Connection} (hmem : connDef ∈ cfg.connections) (hnode : connDef.nodeId = nodeName)
    (hid : connDef.id ≠ "") :
    (∃ rows, PduViews E (transferablePdus cfg nodeName connDef.id) connDef.id
      (run (step E) b₀ ops).1 rows) ∧
    ((issued (run (step E) b₀ ops).2).length ≤ 2 ^ 64 →
      SessionsOwn E b₀ ops connDef.id (transferablePdus cfg nodeName connDef.id)) := by
  refine ⟨pduViews_run hboot ops hmem hnode hid, fun hcount => ?_⟩
  rw [← pdusOf_of_boot hboot hid]
  exact sessionsOwn hboot ops hcount connDef.id

/-- A session to a browser, of a connection with two PDUs. -/
theorem views_agree_small :
    let E := (CacheSpec.small .latest).env none
    let keys : List BridgePduKey := [⟨"k", "r", "pos"⟩, ⟨"k", "r", "pos"⟩, ⟨"l", "r", "vel"⟩]
    let cfg := BridgeConfig.small ⟨"immediate", none, none⟩ keys false
    let b := (bootSmall .latest ⟨"immediate", none, none⟩ keys false).get rfl
    let ops : List (Op CacheState) := [.start,
      .session (.attachMonitor none ⟨"conn", [], ⟨"ticker", 10⟩, some (.session "m")⟩)]
    (∃ rows, PduViews E (transferablePdus cfg "node" "conn") "conn" (run (step E) b ops).1 rows) ∧
      SessionsOwn E b ops "conn" (transferablePdus cfg "node" "conn") := by
  intro E keys cfg b ops
  have hboot : boot E cfg "node" ["src", "dst"] CacheState.empty = some b :=
    (Option.some_get _).symm
  have hviews := views_agree hboot ops List.mem_cons_self rfl (by decide)
  exact ⟨hviews.1, hviews.2 (by decide)⟩

/-! ## Where they do not -/

/-- Sessions without a destination leave the runtime table as it is. -/
theorem run_emptySessions {selection : ResolvedMonitorSelection}
    (hadmitted : b.core.admitMonitor E ⟨"conn", [], ⟨"", 0⟩, none⟩ = some selection) (m : Nat) :
    ∃ rt, (run (step E) b (List.replicate m (.session emptySession))).1 = { b with runtime := rt } ∧
      rt.nextMonitorSessionId = b.runtime.nextMonitorSessionId + UInt64.ofNat m ∧
      rt.monitorRuntimeSessions = b.runtime.monitorRuntimeSessions := by
  induction m generalizing b with
  | zero => exact ⟨b.runtime, rfl, (UInt64.add_zero _).symm, rfl⟩
  | succ m ih =>
    obtain ⟨rt, hrun, hcounter, htable⟩ := @ih (b.step E (.session emptySession)).1 (by
      rw [step_emptySession hadmitted]
      exact hadmitted)
    rw [step_emptySession hadmitted] at hrun hcounter htable
    refine ⟨rt, ?_, ?_, htable⟩
    · rw [List.replicate_succ, run_cons_fst, step_emptySession hadmitted]
      exact hrun
    · rw [hcounter, UInt64.ofNat_add, UInt64.add_comm (UInt64.ofNat m), ← UInt64.add_assoc]
      rfl

/-- A session whose id is in use is listed, but gets no entry in the runtime table. -/
theorem tables_of_reissued {stopAt : Option Nat} {spec : MonitorSessionSpec}
    (h : b.attachMonitor E stopAt spec = (b', some sessionId))
    (hused : b.runtime.monitorRuntimeSessions.lookup sessionId = some session) :
    sessionId ∈ b'.runtime.monitorSessions ∧
      b'.runtime.monitorRuntimeSessions.lookup sessionId = some session := by
  obtain ⟨selection, ts, h', i, c, src, -, -, -, -, rfl, rfl⟩ := attachMonitor_some h
  have hmem : b.runtime.nextSessionId ∈ b.runtime.monitorRuntimeSessions := by
    apply AList.lookup_isSome.1
    rw [hused]
    rfl
  unfold BridgeMonitorRuntime.nextSessionId at hused hmem ⊢
  unfold BridgeMonitorRuntime.insertSession emplace
  dsimp only
  constructor
  · split_ifs with hlisted
    · exact hlisted
    · exact (AList.mem_insert _).2 (Or.inl rfl)
  · rw [if_pos hmem, ite_self]
    exact hused

/-- A second session of an id, to another destination, owns nothing. -/
theorem not_sessionsOwn_of_reissued {b₀ : Bridge ε} {before : List (Op ε)} {stopAt : Option Nat}
    {spec : MonitorSessionSpec} {dst : EndpointRef} {pdus : List (String × String)}
    (hattach : (run (step E) b₀ before).1.attachMonitor E stopAt spec = (b', some sessionId))
    (hused : (run (step E) b₀ before).1.runtime.monitorRuntimeSessions.lookup sessionId =
      some session)
    (hdst : spec.destinationEndpoint = some dst) (hother : session.destinationEndpoint ≠ some dst) :
    ¬ SessionsOwn E b₀ (before ++ [.session (.attachMonitor stopAt spec)]) spec.connectionId
      pdus := by
  intro howns
  obtain ⟨hlisted, hkept⟩ := tables_of_reissued hattach hused
  have hstep : (run (step E) b₀ before).1.step E (.session (.attachMonitor stopAt spec)) =
      (b', [.issued sessionId]) := by
    show (((run (step E) b₀ before).1.attachMonitor E stopAt spec).1,
      issuedEvents ((run (step E) b₀ before).1.attachMonitor E stopAt spec).2) = _
    rw [hattach]
    rfl
  have hlast :
      (run (step E) b₀ (before ++ [.session (.attachMonitor stopAt spec)])).1 = b' := by
    rw [run_append_fst, run_cons_fst, hstep]
    rfl
  have hsession := howns before (.session (.attachMonitor stopAt spec)) [] rfl stopAt spec dst rfl
    rfl hdst sessionId (by rw [hstep]; exact List.mem_singleton_self _)
  rw [hlast] at hsession
  obtain ⟨session', hlookup, hdst', -⟩ := hsession hlisted
  obtain rfl := Option.some.inj (hlookup.symm.trans hkept)
  exact hother hdst'

/-- The counter comes round to the id of a session with another destination. -/
theorem not_sessionsOwn_round {b₀ : Bridge ε} {setup : List (Op ε)} {m : Nat}
    {spec : MonitorSessionSpec} {dst : EndpointRef} {pdus : List (String × String)}
    {selection selection' : ResolvedMonitorSelection}
    (hempty : (run (step E) b₀ setup).1.core.admitMonitor E ⟨"conn", [], ⟨"", 0⟩, none⟩ =
      some selection)
    (hadmitted : (run (step E) b₀ setup).1.core.admitMonitor E spec = some selection')
    (hround : "ms-" ++ toString ((run (step E) b₀ setup).1.runtime.nextMonitorSessionId +
      UInt64.ofNat m).toNat = sessionId)
    (hused : (run (step E) b₀ setup).1.runtime.monitorRuntimeSessions.lookup sessionId =
      some session)
    (hdst : spec.destinationEndpoint = some dst) (hother : session.destinationEndpoint ≠ some dst) :
    ¬ SessionsOwn E b₀ (setup ++ List.replicate m (.session emptySession) ++
      [.session (.attachMonitor none spec)]) spec.connectionId pdus := by
  obtain ⟨rt, hrun, hcounter, htable⟩ := run_emptySessions hempty m
  have hbefore : (run (step E) b₀ (setup ++ List.replicate m (.session emptySession))).1 =
      { (run (step E) b₀ setup).1 with runtime := rt } := by
    rw [run_append_fst]
    exact hrun
  have hid : (run (step E) b₀ (setup ++ List.replicate m
      (.session emptySession))).1.runtime.nextSessionId = sessionId := by
    rw [hbefore, ← hround, ← hcounter]
    rfl
  rw [← htable] at hused
  have hadmitted' : (run (step E) b₀ (setup ++ List.replicate m
      (.session emptySession))).1.core.admitMonitor E spec = some selection' := by
    rw [hbefore]
    exact hadmitted
  obtain ⟨b', hattach⟩ := issues_of_admitted hadmitted'
  rw [hid] at hattach
  refine not_sessionsOwn_of_reissued hattach ?_ hdst hother
  rw [hbefore]
  exact hused

/-- A connection with the empty id. -/
def namelessConfig : BridgeConfig where
  transferPolicies := AList.singleton "policy" ⟨"immediate", none, none⟩
  pduKeyGroups := AList.singleton "group" [⟨"k", "r", "pos"⟩]
  connections :=
    [{ id := "", nodeId := "node", source := "src", destinations := ["dst"]
       transferPdus := [⟨"group", "policy"⟩], epochValidation := none }]

/-- An attach to `conn` for an endpoint. -/
def subscriber (name : String) : SessionOp :=
  .attachMonitor none ⟨"conn", [], ⟨"immediate", 0⟩, some (.session name)⟩

/-- The PDUs of the empty id are listed nowhere; and after `2 ^ 64` sessions a session to another
endpoint is issued the id of the first one, whose entry stays. -/
theorem views_disagree :
    let E := (CacheSpec.small .latest).env none
    let nameless := (boot E namelessConfig "node" ["src", "dst"] CacheState.empty).get rfl
    let cfg := BridgeConfig.small ⟨"immediate", none, none⟩ [⟨"k", "r", "pos"⟩] false
    let b := (boot E cfg "node" ["src", "dst"] CacheState.empty).get rfl
    let before : List (Op CacheState) := [.start, .session (subscriber "m")] ++
      List.replicate (2 ^ 64 - 1) (.session emptySession)
    (¬ ∃ rows, PduViews E (transferablePdus namelessConfig "node" "") "" nameless rows) ∧
      ¬ SessionsOwn E b (before ++ [.session (subscriber "other")]) "conn"
        (transferablePdus cfg "node" "conn") := by
  intro E nameless cfg b before
  constructor
  · rintro ⟨rows, hviews⟩
    have hlisted : nameless.core.listPdus E "" = some [] := rfl
    obtain rfl := Option.some.inj (hlisted.symm.trans hviews.listed)
    have hnone : [] = transferablePdus namelessConfig "node" "" := hviews.shown
    exact absurd hnone (by decide)
  · intro howns
    let b₁ := (run (step E) b [.start, .session (subscriber "m")]).1
    have hfirst : (b₁.runtime.monitorRuntimeSessions.lookup "ms-1").map
        (·.destinationEndpoint) = some (some (.session "m")) := by decide
    obtain ⟨session, hsession, hdst⟩ := Option.map_eq_some_iff.1 hfirst
    have hempty : b₁.core.admitMonitor E ⟨"conn", [], ⟨"", 0⟩, none⟩ =
        some ((b₁.core.admitMonitor E ⟨"conn", [], ⟨"", 0⟩, none⟩).get rfl) :=
      (Option.some_get rfl).symm
    have hadmitted : b₁.core.admitMonitor E
        ⟨"conn", [], ⟨"immediate", 0⟩, some (.session "other")⟩ =
        some ((b₁.core.admitMonitor E
          ⟨"conn", [], ⟨"immediate", 0⟩, some (.session "other")⟩).get rfl) :=
      (Option.some_get rfl).symm
    have hround : "ms-" ++ toString (b₁.runtime.nextMonitorSessionId +
        UInt64.ofNat (2 ^ 64 - 1)).toNat = "ms-1" := by
      rw [show b₁.runtime.nextMonitorSessionId = 2 from rfl]
      decide
    have hother : session.destinationEndpoint ≠ some (.session "other") := by
      rw [hdst]
      decide
    exact not_sessionsOwn_round hempty hadmitted hround hsession rfl hother howns

end Bridge

end HakoniwaBridge
