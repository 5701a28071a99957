import HakoniwaBridge.Run

/-!
# Pausing a connection

`BridgeCore::set_connection_active` finds the first connection of an id, which puts its own flag
and the flag of each of its transfers. A transfer that is added later starts active, so what keeps
a paused connection silent is

* `Paused` — the connection's flag is down, and each of its transfers is inactive or is sent by
  `cyclic_trigger` only, which looks at the connection's flag.

It survives every step but two kinds: attaching an event-driven session to the paused connection,
and (at the pause itself) a second connection with the same id. `PauseSafe` and `NamesOne` exclude
these, and `silent_while_paused` is the result for whole runs.
-/

namespace HakoniwaBridge

open Lib

variable {ε : Type} {E : Env ε}

/-- At most one connection has the id. -/
def BridgeCore.NamesOne (core : BridgeCore) (id : String) : Prop :=
  ∀ (i j : Nat) (c c' : BridgeConnection), core.connections[i]? = some c →
    core.connections[j]? = some c' → c.connectionId = id → c'.connectionId = id → i = j

namespace Bridge

/-- No transfer of a connection with this id sends in this step. -/
def Silent (E : Env ε) (id : String) (b : Bridge ε) (op : Op ε) : Prop :=
  ∀ s, Event.send s ∈ (b.step E op).2 → ∀ c ∈ b.core.connections, c.connectionId = id →
    s.transfer ∉ c.refs

/-- The condition on a step during a pause of `id`: it is no further call for `id`, no transfer is
added by hand, and a session that is attached to `id` with a destination is a ticker session. -/
structure PauseSafe (E : Env ε) (id : String) (b : Bridge ε) (op : Op ε) : Prop where
  noCall : ∀ isActive, op ≠ .setConnectionActive id isActive
  noAdd : ∀ i transfer, op ≠ .addTransferPdu i transfer
  ticker : ∀ stopAt spec, op.attaches E = some (stopAt, spec) → spec.connectionId = id →
    spec.destinationEndpoint ≠ none → (b.core.admitMonitor E spec).isSome = true →
      (effectivePolicy spec.policy).type = "ticker"

/-- Every connection with this id is switched off, and so is each of its transfers that has a
receive callback. -/
structure Paused (id : String) (b : Bridge ε) : Prop where
  wf : b.WellFormed
  flag : ∀ c ∈ b.core.connections, c.connectionId = id → c.isActive = false
  transfers : ∀ c ∈ b.core.connections, c.connectionId = id → ∀ t ∈ c.transferPdus,
    t.isActive = false ∨ t.IsCyclic b.host

/-- A paused connection is silent. -/
theorem Paused.silent {id : String} {b : Bridge ε} (hp : Paused id b) (op : Op ε) :
    Silent E id b op := by
  intro s hs c hc hid hown
  obtain ⟨c', hc', t, ht, hsent, hpath⟩ := send_of_step hs
  obtain ⟨t', ht', hself⟩ := List.mem_map.1 hown
  have hsame : t'.self = t.self := hself.trans hsent.transfer
  obtain ⟨rfl, rfl⟩ := hp.wf.unique hc hc' ht' ht hsame
  cases hpath with
  | reception reg hreg _ _ hcallback =>
    have hlistens := hp.wf.listens reg hreg c hc t' ht' hcallback
    rcases hp.transfers c hc hid t' ht' with hoff | hcyclic
    · rw [hsent.active] at hoff
      exact Bool.noConfusion hoff
    · exact ITransferPdu.not_listens_of_isCyclic hcyclic _ _ hlistens
  | cyclicTrigger _ hactive _ =>
    rw [hp.flag c hc hid] at hactive
    exact Bool.noConfusion hactive

/-- Cyclic transfers stay cyclic on a larger host. -/
theorem isCyclic_of_extends {b : Bridge ε} (hwf : b.WellFormed) {h' : Host ε}
    (hext : Host.Extends b.host h') {c : BridgeConnection} (hc : c ∈ b.core.connections)
    {t : ITransferPdu} (ht : t ∈ c.transferPdus) (hcyclic : t.IsCyclic b.host) :
    t.IsCyclic h' :=
  (ITransferPdu.isCyclic_congr (hext.cyclic t.policy (hwf.policy_lt c hc t ht))).2 hcyclic

/-- A change of the host that extends it keeps a pause. -/
theorem Paused.grow {id : String} {b : Bridge ε} (hp : Paused id b) {h' : Host ε}
    (hext : Host.Extends b.host h') : Paused id { b with host := h' } :=
  ⟨hp.wf.grow hext, hp.flag, fun c hc hid t ht =>
    (hp.transfers c hc hid t ht).imp_right (isCyclic_of_extends hp.wf hext hc ht)⟩

/-- Dropping transfers keeps a pause. -/
theorem Paused.without {id : String} {b b' : Bridge ε} (hp : Paused id b)
    (drop : List Nat) (hwf : b'.WellFormed) (hext : Host.Extends b.host b'.host)
    (hcore : b'.core.connections = b.core.connections.map (·.without drop)) : Paused id b' := by
  refine ⟨hwf, fun c hc hid => ?_, fun c hc hid t ht => ?_⟩
  all_goals
    rw [hcore] at hc
    obtain ⟨c₀, hc₀, rfl⟩ := List.mem_map.1 hc
  · exact hp.flag c₀ hc₀ hid
  · have ht₀ := (BridgeConnection.mem_without.1 ht).1
    exact (hp.transfers c₀ hc₀ hid t ht₀).imp_right (isCyclic_of_extends hp.wf hext hc₀ ht₀)

theorem paused_closed (E : Env ε) (id : String) : ControlClosed E (Paused (ε := ε) id) where
  host b h hsame hp := hp.grow hsame.extends
  core b core hcore hp :=
    ⟨(wellFormed_closed E).core b core hcore hp.wf, fun c hc => hp.flag c (hcore ▸ hc),
      fun c hc => hp.transfers c (hcore ▸ hc)⟩
  runtime _ _ _ hp := ⟨hp.wf, hp.flag, hp.transfers⟩
  attached _ _ hp := ⟨hp.wf, hp.flag, hp.transfers⟩
  accept b ep key hp :=
    ⟨(wellFormed_closed E).accept b ep key hp.wf, hp.flag, hp.transfers⟩
  detach b sessionId hp := by
    have hwf := (wellFormed_closed E).detach b sessionId hp.wf
    by_cases hmem : sessionId ∈ b.runtime.monitorSessions
    · refine hp.without (b.runtime.sessionTransfers sessionId) hwf ?_ ?_
      · rw [detachMonitor_host]
        exact Host.Extends.refl _
      · rw [detachMonitor_core hp.wf hmem]
        rfl
    · rw [detachMonitor_of_not_mem hmem]
      exact hp
  shutdown b hp := by
    have hwf := (wellFormed_closed E).shutdown b hp.wf
    cases hinit : b.runtime.initialized with
    | false =>
      rw [shutdown_of_not_initialized E hinit]
      exact hp
    | true =>
      apply hp.without b.monitorTransfers hwf (shutdown_sameBook E b).extends
      rw [shutdown_core E hp.wf hinit]
      rfl

/-- An attach keeps a pause of `id`, unless it gives an event-driven session to `id`. -/
theorem Paused.attachMonitor {id : String} {b : Bridge ε} (hp : Paused id b)
    {stopAt : Option Nat} {spec : MonitorSessionSpec}
    (hticker : spec.connectionId = id → spec.destinationEndpoint ≠ none →
      (b.core.admitMonitor E spec).isSome = true → (effectivePolicy spec.policy).type = "ticker") :
    Paused id (b.attachMonitor E stopAt spec).1 := by
  have hout := attachMonitor_outcome E stopAt spec hp.wf
  have hwf := wellFormed_attachMonitor E stopAt spec hp.wf
  revert hout hwf
  generalize b.attachMonitor E stopAt spec = r
  intro hout hwf
  cases hout with
  | rejected _ =>
    refine (paused_closed E id).core b _ ?_ hp
    unfold loadRunning
    split_ifs <;> rfl
  | rolledBack _ _ hcreated _ _ _ _ =>
    have hgrown := hp.grow hcreated.extends
    exact ⟨hgrown.wf, hgrown.flag, hgrown.transfers⟩
  | @attached selection ts h' i c src hadmitted hplace hcreated hmonitor _ =>
    have hgrown := hp.grow hcreated.extends
    obtain ⟨c₁, hget₁, hid₁⟩ := BridgeCore.exists_of_findConnection hplace.find
    refine ⟨hwf, fun c' hc' hid => ?_, fun c' hc' hid t ht => ?_⟩
    all_goals
      rcases mem_of_mem_modify hc' with hc' | ⟨c₀, hget₀, rfl⟩
    · exact hp.flag c' hc' hid
    · rw [BridgeConnection.connectionId_takeOver] at hid
      rw [BridgeConnection.takeOver_eq]
      exact hp.flag c₀ (List.mem_of_getElem? hget₀) hid
    · exact hgrown.transfers c' hc' hid t ht
    · rw [BridgeConnection.connectionId_takeOver] at hid
      rw [BridgeConnection.transferPdus_takeOver] at ht
      rcases List.mem_append.1 ht with ht | ht
      · exact hgrown.transfers c₀ (List.mem_of_getElem? hget₀) hid t ht
      · -- a new transfer is a ticker's
        obtain ⟨t₀, ht₀, rfl⟩ := List.mem_map.1 ht
        obtain ⟨dst, hdst, hmon⟩ := hmonitor t₀ ht₀
        have hspec : spec.connectionId = id := by
          rw [hget₀] at hget₁
          obtain rfl := Option.some.inj hget₁
          exact hid₁.symm.trans hid
        have htype := hticker hspec (by simp [hdst]) (by rw [hadmitted]; rfl)
        obtain ⟨configKey, key, hbody⟩ := hmon.single
        have hcyclic := hmon.cyclic
        rw [decide_eq_true htype] at hcyclic
        apply Or.inr
        unfold ITransferPdu.IsCyclic
        have hstamp : (c₀.stamp t₀).body = .transferPdu configKey key := hbody
        rw [hstamp]
        exact hcyclic

/-- A step that meets the condition keeps a pause. -/
theorem Paused.step {id : String} {b : Bridge ε} (hp : Paused id b) {op : Op ε}
    (hop : PauseSafe E id b op) : Paused id (b.step E op).1 := by
  refine (paused_closed E id).step hp
    (fun stopAt spec hattach => hp.attachMonitor (hop.ticker stopAt spec hattach))
    fun hconnection => ?_
  have hwf := wellFormed_step E hp.wf op
  cases op with
  | setConnectionActive id' isActive =>
    have hne : id' ≠ id := fun heq => hop.noCall isActive (heq ▸ rfl)
    revert hwf
    simp only [Bridge.step, BridgeCore.setConnectionActive]
    split
    · next i hi =>
      intro hwf
      obtain ⟨c₁, hget₁, hid₁⟩ := BridgeCore.exists_of_findConnection hi
      -- the connection that changes has another id
      have hold : ∀ c ∈ b.core.connections.modify i (·.setActive isActive), c.connectionId = id →
          c ∈ b.core.connections := by
        intro c hc hid
        rcases mem_of_mem_modify hc with hc | ⟨c₀, hget₀, rfl⟩
        · exact hc
        · rw [hget₀] at hget₁
          obtain rfl := Option.some.inj hget₁
          exact absurd (hid₁.symm.trans hid) hne
      exact ⟨hwf, fun c hc hid => hp.flag c (hold c hc hid) hid,
        fun c hc hid => hp.transfers c (hold c hc hid) hid⟩
    · intro _
      exact hp
  | incrementConnectionEpoch id' =>
    revert hwf
    simp only [Bridge.step, BridgeCore.incrementConnectionEpoch]
    split
    · intro hwf
      refine ⟨hwf, fun c hc hid => ?_, fun c hc hid t ht => ?_⟩
      all_goals
        rcases mem_of_mem_modify hc with hc | ⟨c₀, hget₀, rfl⟩
      · exact hp.flag c hc hid
      · exact hp.flag c₀ (List.mem_of_getElem? hget₀) hid
      · exact hp.transfers c hc hid t ht
      · obtain ⟨t₀, ht₀, rfl⟩ := List.mem_map.1 ht
        exact hp.transfers c₀ (List.mem_of_getElem? hget₀) hid t₀ ht₀
    · intro _
      exact hp
  | addTransferPdu i transfer => exact absurd rfl (hop.noAdd i transfer)
  | _ => exact absurd hconnection Bool.false_ne_true

/-- A successful pause of the only connection with the id. -/
theorem paused_of_setConnectionActive {id : String} {b : Bridge ε} (hwf : b.WellFormed)
    (hone : b.core.NamesOne id) (hcall : (b.core.setConnectionActive id false).2 = true) :
    Paused id (b.step E (.setConnectionActive id false)).1 := by
  have hwf' := wellFormed_step E hwf (.setConnectionActive id false)
  revert hwf' hcall
  simp only [Bridge.step, BridgeCore.setConnectionActive]
  split
  · next i hi =>
    intro _ hwf'
    obtain ⟨c₁, hget₁, hid₁⟩ := BridgeCore.exists_of_findConnection hi
    -- every connection with the id is the one that was found
    have hnew : ∀ c ∈ b.core.connections.modify i (·.setActive false), c.connectionId = id →
        ∃ c₀ : BridgeConnection, c = c₀.setActive false := by
      intro c hc hid
      obtain ⟨j, hj⟩ := List.mem_iff_getElem?.1 hc
      by_cases hij : i = j
      · subst hij
        rw [List.getElem?_modify_eq, hget₁] at hj
        exact ⟨c₁, (Option.some.inj hj).symm⟩
      · rw [List.getElem?_modify_ne _ _ hij] at hj
        exact absurd (hone i j c₁ c hget₁ hj hid₁ hid) hij
    refine ⟨hwf', fun c hc hid => ?_, fun c hc hid t ht => ?_⟩
    · obtain ⟨c₀, rfl⟩ := hnew c hc hid
      rfl
    · obtain ⟨c₀, rfl⟩ := hnew c hc hid
      obtain ⟨t₀, _, rfl⟩ := List.mem_map.1 ht
      exact Or.inl rfl
  · intro hcall
    exact Bool.noConfusion hcall

/-- **A paused connection delivers nothing**, in every run of a built bridge in which the paused
id names one connection and no event-driven session is attached to it while it is paused. -/
theorem silent_while_paused {cfg : BridgeConfig} {nodeName : String} {container : List String}
    {e : ε} {b : Bridge ε} (hboot : boot E cfg nodeName container e = some b)
    {before during : List (Op ε)} {id : String}
    (hone : (run (step E) b before).1.core.NamesOne id)
    (hcall : ((run (step E) b before).1.core.setConnectionActive id false).2 = true)
    (hduring : Along (step E) (PauseSafe E id)
      (step E (run (step E) b before).1 (.setConnectionActive id false)).1 during) :
    Along (step E) (Silent E id)
      (step E (run (step E) b before).1 (.setConnectionActive id false)).1 during := by
  have hstart := paused_of_setConnectionActive (E := E) (wellFormed_run hboot before) hone hcall
  exact along_of_invariant (fun _ _ hp hop => hp.step hop) (fun _ op hp _ => hp.silent op) hstart
    hduring

/-- A monitor that asks for every PDU of `conn`. -/
def immediateSpec : MonitorSessionSpec where
  connectionId := "conn"
  filters := []
  policy := ⟨"immediate", 0⟩
  destinationEndpoint := some (.session "monitor")

/-- A paused immediate connection with a ticker session attached during the pause. -/
theorem silent_while_paused_small :
    Along (step ((CacheSpec.small .latest).env none))
      (Silent ((CacheSpec.small .latest).env none) "conn")
      (step ((CacheSpec.small .latest).env none)
        (run (step ((CacheSpec.small .latest).env none))
          ((bootSmall .latest ⟨"immediate", none, none⟩ [⟨"k", "r", "pos"⟩] false).get rfl)
          [.start]).1 (.setConnectionActive "conn" false)).1
      [.session (.attachMonitor none { immediateSpec with policy := ⟨"ticker", 1⟩ }),
        .reception "src" ⟨"r", 1⟩ [0, 7]] := by
  have hboot : bootSmall .latest ⟨"immediate", none, none⟩ [⟨"k", "r", "pos"⟩] false =
      some ((bootSmall .latest ⟨"immediate", none, none⟩ [⟨"k", "r", "pos"⟩] false).get rfl) :=
    (Option.some_get rfl).symm
  refine silent_while_paused hboot (fun i j c c' hi hj _ _ => ?_) rfl ⟨⟨?_, ?_, ?_⟩, ⟨?_, ?_, ?_⟩,
    trivial⟩
  · have hi' := (List.getElem?_eq_some_iff.1 hi).1
    have hj' := (List.getElem?_eq_some_iff.1 hj).1
    exact (Nat.lt_one_iff.1 hi').trans (Nat.lt_one_iff.1 hj').symm
  · intro isActive h
    exact absurd h (by simp)
  · intro i transfer h
    exact absurd h (by simp)
  · intro stopAt spec hattach _ _ _
    obtain ⟨-, rfl⟩ := Prod.mk.inj (Option.some.inj hattach)
    rfl
  · intro isActive h
    exact absurd h (by simp)
  · intro i transfer h
    exact absurd h (by simp)
  · intro stopAt spec hattach
    exact absurd hattach (by simp [Op.attaches])

/-- A session that is attached to a paused connection delivers. -/
theorem delivers_while_paused :
    ¬ Along (step ((CacheSpec.small .latest).env none))
      (Silent ((CacheSpec.small .latest).env none) "conn")
      (step ((CacheSpec.small .latest).env none)
        (run (step ((CacheSpec.small .latest).env none))
          ((bootSmall .latest ⟨"immediate", none, none⟩ [⟨"k", "r", "pos"⟩] false).get rfl)
          [.start]).1 (.setConnectionActive "conn" false)).1
      [.session (.attachMonitor none immediateSpec), .reception "src" ⟨"r", 1⟩ [0, 7]] := by
  rintro ⟨-, hsilent, -⟩
  have hown := hsilent ⟨1, .session "monitor", .named ⟨"r", "pos"⟩, [0, 7]⟩ List.mem_cons_self _
    List.mem_cons_self rfl
  exact hown (List.mem_cons_of_mem _ List.mem_cons_self)

end Bridge

end HakoniwaBridge
