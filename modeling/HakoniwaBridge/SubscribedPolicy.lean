import HakoniwaBridge.ClientViews
import HakoniwaBridge.Intervals
import HakoniwaBridge.Sessions
import HakoniwaBridge.SubscribeGrammar

/-!
# The policy a subscription runs at

A policy is copied from the request to the row of the session, and from there to a policy object
for each monitor transfer.

* `Asks` — the policy that a request asks for; `RunsAt` — a session that runs at a policy.
* `heldFrom_createMonitorTransfers` — what the transfers of a new session hold.
* `PolicyKind.Kept` — the kinds of policies that arrive as they were given.
* `runsAsAsked_iff` — **a subscription runs at the policy that was asked for exactly when** the
  policy is of a kind that is kept and the session id is not that of an older session.
-/

namespace HakoniwaBridge

open Lib

variable {ε : Type} {E : Env ε}

/-! ## What is asked for -/

/-- The type and the interval that a request asks for: those of its policy, or a throttle of
100 ms if it has no policy. -/
inductive Asks (req : Json) : String → Option Int → Prop
  | omitted (hpolicy : req.get? "policy" = none) : Asks req "throttle" (some 100)
  | given {policy : Json} {type : String} {intervalMs : Option Int}
      (hpolicy : req.get? "policy" = some policy)
      (htype : policy.get? "type" = some (.str type))
      (hinterval : policy.get? "interval_ms" = intervalMs.map .int) : Asks req type intervalMs

/-- A request asks for one policy at most. -/
theorem Asks.unique {req : Json} {type type' : String} {n n' : Option Int} (h : Asks req type n)
    (h' : Asks req type' n') : type = type' ∧ n = n' := by
  cases h with
  | omitted hpolicy =>
    cases h' with
    | omitted _ => exact ⟨rfl, rfl⟩
    | given hpolicy' _ _ => exact absurd (hpolicy.symm.trans hpolicy') (by simp)
  | given hpolicy htype hinterval =>
    cases h' with
    | omitted hpolicy' => exact absurd (hpolicy'.symm.trans hpolicy) (by simp)
    | given hpolicy' htype' hinterval' =>
      obtain rfl := Option.some.inj (hpolicy.symm.trans hpolicy')
      have htypes := htype.symm.trans htype'
      have hintervals := hinterval.symm.trans hinterval'
      constructor
      · simpa using htypes
      · have hinj : Function.Injective (Option.map Json.int) :=
          Option.map_injective fun _ _ heq => Json.int.inj heq
        exact hinj hintervals

/-! ## What is shown and held -/

/-- The type and the interval that the row of a session shows. -/
def MonitorPolicy.shown (p : MonitorPolicy) : String × Option Int :=
  (p.type, if p.intervalMs > 0 then some p.intervalMs else none)

/-- A row shows a type and an interval. -/
def ShowsPolicy (row : Json) (type : String) (intervalMs : Option Int) : Prop :=
  ∃ policy, row.get? "policy" = some policy ∧ policy.get? "type" = some (.str type) ∧
    policy.get? "interval_ms" = intervalMs.map .int

theorem showsPolicy_sessionJson {info : MonitorSessionInfo} {type : String} {n : Option Int} :
    ShowsPolicy (sessionJson info) type n ↔ info.policy.shown = (type, n) := by
  unfold ShowsPolicy sessionJson MonitorPolicy.shown
  by_cases hpos : info.policy.intervalMs > 0
  · cases n <;> simp [Json.get?, hpos]
  · cases n <;> simp [Json.get?, hpos]

namespace Policy

/-- The type that makes a policy object of a class. -/
def typeName : Policy → String
  | immediate _ => "immediate"
  | throttle _ => "throttle"
  | ticker _ => "ticker"

/-- A policy object of a type with an interval of so many milliseconds, or of one without an
interval. -/
structure Holds (p : Policy) (type : String) (intervalMs : Option Int) : Prop where
  type : p.typeName = type
  interval : p.interval?.map (fun micros => (micros.toNat : Int)) = intervalMs.map (1000 * ·)

/-- Policy objects of one class with one interval. -/
structure Alike (p q : Policy) : Prop where
  type : q.typeName = p.typeName
  interval : q.interval? = p.interval?

/-- Registering a key changes neither. -/
theorem alike_addPduKey (p : Policy) (key : PduResolvedKey) : Alike p (p.addPduKey key) := by
  cases p <;> exact ⟨rfl, rfl⟩

theorem Alike.holds_iff {p q : Policy} (h : Alike p q) {type : String} {n : Option Int} :
    q.Holds type n ↔ p.Holds type n := by
  constructor
  · rintro ⟨htype, hinterval⟩
    exact ⟨h.type.symm.trans htype, h.interval ▸ hinterval⟩
  · rintro ⟨htype, hinterval⟩
    exact ⟨h.type.trans htype, h.interval ▸ hinterval⟩

end Policy

/-! ## What the transfers of a session hold -/

/-- The transfers made from object number `base` on hold policy objects like `p`. -/
def HeldFrom (base : Nat) (p : Policy) (s : BridgeCore × Host ε) : Prop :=
  ∀ c ∈ s.1.connections, ∀ t ∈ c.transferPdus, base ≤ t.self →
    t.policy < s.2.nextPolicy ∧ p.Alike (s.2.policies t.policy)

section Held

variable {base : Nat} {policy : MonitorPolicy} {p : Policy}

/-- A monitor transfer is made with a policy object of its own. -/
theorem heldFrom_newTransferPdu {core : BridgeCore} {h : Host ε} (hheld : HeldFrom base p (core, h))
    (i : Nat) (key : BridgePduKey) (src dst : EndpointRef) :
    HeldFrom base p
      (core.modifyConnection i (·.addMonitorTransferPdu
        (newTransferPdu E key (h.newPolicy p).1 src dst (h.newPolicy p).2).1),
        (newTransferPdu E key (h.newPolicy p).1 src dst (h.newPolicy p).2).2) := by
  intro c hc t ht hbase
  -- the objects that were there are older than the new policy
  have hold : ∀ q < h.nextPolicy, p.Alike (h.policies q) →
      q < h.nextPolicy + 1 ∧ p.Alike ((newTransferPdu E key (h.newPolicy p).1 src dst
        (h.newPolicy p).2).2.policies q) := by
    intro q hlt hpolicy
    have hne : q ≠ h.nextPolicy := by omega
    refine ⟨by omega, ?_⟩
    simpa [newTransferPdu, Host.newPolicy, Function.update_of_ne hne] using hpolicy
  rcases mem_of_mem_modify hc with hc | ⟨c₀, hget, rfl⟩
  · obtain ⟨hlt, hpolicy⟩ := hheld c hc t ht hbase
    exact hold t.policy hlt hpolicy
  · rcases List.mem_append.1 ht with ht | ht
    · obtain ⟨hlt, hpolicy⟩ := hheld c₀ (List.mem_of_getElem? hget) t ht hbase
      exact hold t.policy hlt hpolicy
    · obtain rfl := List.mem_singleton.1 ht
      refine ⟨Nat.lt_succ_self h.nextPolicy, ?_⟩
      have hnew := Policy.alike_addPduKey p (resolveKey E src key)
      simpa [newTransferPdu, Host.newPolicy, ITransferPdu.setEpoch,
        ITransferPdu.setEpochValidation] using hnew

theorem heldFrom_createMonitorTransfer {core : BridgeCore} {h : Host ε}
    (hheld : HeldFrom base p (core, h)) (hp : createMonitorPolicy policy = some p) (id : String)
    (key : BridgePduKey) (dst : Option EndpointRef) :
    HeldFrom base p (core.createMonitorTransfer E id key policy dst h).1 := by
  unfold BridgeCore.createMonitorTransfer
  split
  · exact hheld
  · split
    · exact hheld
    · split
      · exact hheld
      · next i _ =>
        split
        · exact hheld
        · split
          · next src dst _ =>
            simp only [hp]
            exact heldFrom_newTransferPdu hheld i key src dst
          · exact hheld

namespace Bridge

theorem heldFrom_loadRunning (stopAt : Option Nat) (k : Nat) {s : BridgeCore × Host ε}
    (hheld : HeldFrom base p s) : HeldFrom base p (loadRunning stopAt k s.1, s.2) := by
  unfold loadRunning
  split_ifs
  · exact hheld
  · exact hheld

theorem heldFrom_createMonitorTransfers {spec : MonitorSessionSpec}
    (hp : createMonitorPolicy (effectivePolicy spec.policy) = some p) (stopAt : Option Nat)
    (k : Nat) (keys : List BridgePduKey) {s : BridgeCore × Host ε} (hheld : HeldFrom base p s) :
    HeldFrom base p (createMonitorTransfers E stopAt spec k keys s).1 := by
  induction keys generalizing k s with
  | nil => exact hheld
  | cons key keys ih =>
    have hstep := @heldFrom_createMonitorTransfer _ E _ _ _ _ _
      (heldFrom_loadRunning stopAt k hheld) hp spec.connectionId key spec.destinationEndpoint
    unfold createMonitorTransfers
    split
    · next heq =>
      rw [heq] at hstep
      exact hstep
    · next heq =>
      rw [heq] at hstep
      exact ih (k + 1) hstep

/-- An attach that issues an id. -/
theorem heldFrom_attachMonitor {stopAt : Option Nat} {spec : MonitorSessionSpec} {b b' : Bridge ε}
    {sessionId : String} (hp : createMonitorPolicy (effectivePolicy spec.policy) = some p)
    (hattach : b.attachMonitor E stopAt spec = (b', some sessionId))
    (hheld : HeldFrom base p (b.core, b.host)) : HeldFrom base p (b'.core, b'.host) := by
  unfold attachMonitor at hattach
  dsimp only at hattach
  split at hattach
  · exact absurd (congrArg Prod.snd hattach) (by simp)
  · next selection _ =>
    have hmade := heldFrom_createMonitorTransfers (E := E) hp stopAt 1 (monitorKeys spec selection)
      (heldFrom_loadRunning stopAt 0 hheld)
    split at hattach
    · exact absurd (congrArg Prod.snd hattach) (by simp)
    · next heq =>
      rw [heq] at hmade
      rw [← (Prod.mk.inj hattach).1]
      exact hmade

end Bridge

end Held

/-! ## Which policies are kept -/

/-- The kinds that arrive as they were given, among those that the handler takes. -/
def PolicyKind.Kept : PolicyKind → Prop
  | .untyped => False
  | .immediate intervalMs => intervalMs = none
  | .timed (some (.int n)) => 1 ≤ n ∧ n < 2 ^ 31
  | _ => True

/-- What becomes of a policy that the handler takes: its kind, and the policy in effect. -/
inductive Decoded (req : Json) : PolicyKind → MonitorPolicy → Prop
  | absent (hpolicy : req.get? "policy" = none) : Decoded req .absent ⟨"throttle", 100⟩
  | untyped {policy : Json} (hpolicy : req.get? "policy" = some policy)
      (htype : ∀ type, policy.get? "type" = some (.str type) → type = "") :
      Decoded req .untyped ⟨"throttle", 100⟩
  | immediate {policy : Json} {ms : Int} (hpolicy : req.get? "policy" = some policy)
      (htype : policy.get? "type" = some (.str "immediate"))
      (hms : policy.get? "interval_ms" = none → ms = 0) :
      Decoded req (.immediate (policy.get? "interval_ms")) ⟨"immediate", ms⟩
  | timed {policy : Json} {type : String} {n : Int} (hpolicy : req.get? "policy" = some policy)
      (htype : policy.get? "type" = some (.str type)) (htimed : type = "throttle" ∨ type = "ticker")
      (hinterval : policy.get? "interval_ms" = some (.int n)) (hfits : Json.FitsInt64 n)
      (hpos : 0 < Json.getInt n) :
      Decoded req (.timed (some (.int n))) ⟨type, Json.getInt n⟩

theorem decoded_of_taken {req : Json} (h : (policyKind req).taken = true) :
    Decoded req (policyKind req) (effectivePolicy (decodePolicy req)) := by
  unfold policyKind decodePolicy at *
  cases hpolicy : req.get? "policy" with
  | none => exact .absent hpolicy
  | some policy =>
    simp only [hpolicy] at h ⊢
    unfold givenKind at h ⊢
    cases policy with
    | obj members =>
      dsimp only
      cases htype : (Json.obj members).getString? "type" with
      | none =>
        refine .untyped hpolicy fun type hmember => ?_
        simp [Json.getString?, hmember] at htype
      | some type =>
        have htype' := Json.get?_of_getString? htype
        rw [htype] at h
        dsimp only [Option.getD_some] at h ⊢
        by_cases hempty : type = ""
        · subst hempty
          refine .untyped hpolicy fun type hmember => ?_
          simpa using hmember.symm.trans htype'
        · have heffective : ∀ n, effectivePolicy ⟨type, n⟩ = ⟨type, n⟩ := fun n => if_neg hempty
          rw [if_neg hempty] at h ⊢
          rw [heffective]
          by_cases himmediate : type = "immediate"
          · subst himmediate
            rw [if_pos rfl]
            refine .immediate hpolicy htype' fun hnone => ?_
            rw [hnone]
            rfl
          · rw [if_neg himmediate] at h ⊢
            by_cases htimed : type = "throttle" ∨ type = "ticker"
            · rw [if_pos htimed] at h ⊢
              cases hinterval : (Json.obj members).get? "interval_ms" with
              | none => simp [hinterval, PolicyKind.taken] at h
              | some v =>
                rw [hinterval] at h
                cases v with
                | int n =>
                  obtain ⟨hfits, hpos⟩ := of_decide_eq_true h
                  rw [Option.bind_some, Json.integer?, if_pos hfits]
                  exact .timed hpolicy htype' htimed hinterval hfits hpos
                | _ => simp [PolicyKind.taken] at h
            · rw [if_neg htimed] at h
              exact absurd h (by simp [PolicyKind.taken])
    | _ =>
      refine .untyped hpolicy fun type hmember => ?_
      simp [Json.get?] at hmember

/-- The policy object that is made of a policy in effect. -/
theorem createMonitorPolicy_of_timed {type : String} (htimed : type = "throttle" ∨ type = "ticker")
    {ms : Int} (hpos : 0 < ms) : ∃ p, createMonitorPolicy ⟨type, ms⟩ = some p ∧
      p.typeName = type ∧ p.interval? = some (intervalMicros ms) := by
  have hle : ¬ ms ≤ 0 := by omega
  rcases htimed with rfl | rfl
  · refine ⟨.throttle { intervalMicros := intervalMicros ms }, ?_, rfl, rfl⟩
    simp [createMonitorPolicy, hle]
  · refine ⟨.ticker { interval := intervalMicros ms }, ?_, rfl, rfl⟩
    simp [createMonitorPolicy, hle]

section Kinds

variable {req : Json} {kind : PolicyKind} {effective : MonitorPolicy} {p : Policy}

/-- **A policy is held as it was asked for exactly when** its kind is kept. -/
theorem kept_iff (hdecoded : Decoded req kind effective)
    (hp : createMonitorPolicy effective = some p) :
    (∃ type n, Asks req type n ∧ p.Holds type n) ↔ kind.Kept := by
  cases hdecoded with
  | absent hpolicy =>
    obtain rfl := Option.some.inj hp
    exact iff_of_true ⟨_, _, .omitted hpolicy, rfl, rfl⟩ trivial
  | untyped hpolicy htype =>
    obtain rfl := Option.some.inj hp
    refine iff_of_false ?_ id
    rintro ⟨type, n, hasks, hholds, -⟩
    cases hasks with
    | omitted hnone => exact absurd (hnone.symm.trans hpolicy) (by simp)
    | given hpolicy' htype' _ =>
      obtain rfl := Option.some.inj (hpolicy.symm.trans hpolicy')
      have hempty := hholds.trans (htype type htype')
      exact absurd hempty (by decide)
  | immediate hpolicy htype _ =>
    obtain rfl := Option.some.inj hp
    constructor
    · rintro ⟨type, n, hasks, -, hinterval⟩
      cases hasks with
      | omitted hnone => exact absurd (hnone.symm.trans hpolicy) (by simp)
      | given hpolicy' _ hgiven =>
        obtain rfl := Option.some.inj (hpolicy.symm.trans hpolicy')
        have hnone : n = none := by
          cases n with
          | none => rfl
          | some n => exact nomatch hinterval
        rw [hnone] at hgiven
        exact hgiven
    · intro hnone
      exact ⟨"immediate", none, .given hpolicy htype hnone, rfl, rfl⟩
  | @timed policy type n hpolicy htype htimed hinterval hfits hpos =>
    obtain ⟨p', hp', htype', hinterval'⟩ := createMonitorPolicy_of_timed htimed hpos
    obtain rfl := Option.some.inj (hp.symm.trans hp')
    obtain ⟨-, hhigh, -⟩ := Json.getInt_spec n
    have hmicros := toNat_intervalMicros_of_nonneg (Int.le_of_lt hpos) hhigh
    constructor
    · rintro ⟨type', n', hasks, hholds⟩
      obtain ⟨rfl, rfl⟩ := hasks.unique (.given hpolicy htype (by rw [hinterval]; rfl) :
        Asks req type (some n))
      have hexact := hholds.interval
      rw [hinterval'] at hexact
      have hsame : ((intervalMicros (Json.getInt n)).toNat : Int) = 1000 * n :=
        Option.some.inj hexact
      apply (intervalMicros_exact_iff n).1
      exact ⟨by omega, hsame⟩
    · intro hkept
      refine ⟨type, some n, .given hpolicy htype hinterval, htype', ?_⟩
      rw [hinterval']
      exact congrArg some ((intervalMicros_exact_iff n).2 hkept).2

/-- What is held as it was asked for is shown so in the row of the session. -/
theorem shown_of_holds (hdecoded : Decoded req kind effective)
    (hp : createMonitorPolicy effective = some p) {type : String} {n : Option Int}
    (hasks : Asks req type n) (hholds : p.Holds type n) : effective.shown = (type, n) := by
  have hkept := (kept_iff hdecoded hp).1 ⟨type, n, hasks, hholds⟩
  cases hdecoded with
  | absent hpolicy =>
    obtain ⟨rfl, rfl⟩ := hasks.unique (.omitted hpolicy)
    rfl
  | untyped _ _ => exact absurd hkept id
  | immediate hpolicy htype hms =>
    obtain ⟨rfl, rfl⟩ := hasks.unique (.given hpolicy htype hkept : Asks req "immediate" none)
    rw [hms hkept]
    rfl
  | @timed policy type' n' hpolicy htype _ hinterval _ hpos =>
    obtain ⟨rfl, rfl⟩ := hasks.unique (.given hpolicy htype hinterval : Asks req type' (some n'))
    obtain ⟨hlow, hhigh⟩ := hkept
    obtain ⟨-, hlt, q, hq⟩ := Json.getInt_spec n'
    have hsame : Json.getInt n' = n' := by omega
    unfold MonitorPolicy.shown
    rw [if_pos hpos, hsame]

end Kinds

/-! ## The sessions that are made -/

namespace Bridge

/-- The rows that `list_sessions` answers. -/
def sessionRows (E : Env ε) (b : Bridge ε) : List Json :=
  match (b.handleRequest E none none (.obj [("type", .str "list_sessions")]) none).2.get?
      "sessions" with
  | some (.arr rows) => rows
  | _ => []

theorem sessionRows_eq (E : Env ε) (b : Bridge ε) :
    b.sessionRows E = b.runtime.listMonitorInfos.map sessionJson := rfl

/-- The transfers of the later bridge `b'` that `b` does not own. -/
def newTransfers (b b' : Bridge ε) : List ITransferPdu :=
  (b'.core.connections.flatMap (·.transferPdus)).filter fun t =>
    !decide (t.self ∈ b.core.ownedRefs)

/-- A session that was made between `b` and `b'` is listed with a policy, and the transfers that
were made for it hold that policy. -/
structure RunsAt (E : Env ε) (b b' : Bridge ε) (sessionId type : String) (intervalMs : Option Int) :
    Prop where
  listed : ∃ row ∈ b'.sessionRows E, row.get? "session_id" = some (.str sessionId)
  shown : ∀ row ∈ b'.sessionRows E, row.get? "session_id" = some (.str sessionId) →
    ShowsPolicy row type intervalMs
  held : ∀ t ∈ newTransfers b b', (b'.host.policies t.policy).Holds type intervalMs

/-- An answer that a subscription was made is true of the policy that was asked for. -/
def RunsAsAsked (E : Env ε) (authorizer : Option Authorizer) (req : Json) (dst : EndpointRef)
    (b : Bridge ε) : Prop :=
  let r := b.handleRequest E authorizer none req (some dst)
  r.2.getString? "type" = some "subscribed" → ∃ sessionId type intervalMs,
    r.2.getString? "session_id" = some sessionId ∧ Asks req type intervalMs ∧
      RunsAt E b r.1 sessionId type intervalMs

variable {b : Bridge ε}

/-- Every row with an id is the row of the session in the table. -/
theorem shows_iff {b' : Bridge ε} (h : b'.Keyed) {id type : String} {n : Option Int}
    {info : MonitorSessionInfo} (hinfo : b'.runtime.monitorSessions.lookup id = some info) :
    ((∃ row ∈ b'.sessionRows E, row.get? "session_id" = some (.str id)) ∧
      ∀ row ∈ b'.sessionRows E, row.get? "session_id" = some (.str id) → ShowsPolicy row type n) ↔
      info.policy.shown = (type, n) := by
  rw [sessionRows_eq]
  have hid : ∀ i : MonitorSessionInfo,
      (sessionJson i).get? "session_id" = some (.str id) ↔ i.sessionId = id := by
    intro i
    simp [sessionJson, Json.get?]
  obtain ⟨hlisted, hkey⟩ := (mem_listMonitorInfos_iff h).2 hinfo
  constructor
  · rintro ⟨-, hshows⟩
    exact showsPolicy_sessionJson.1 (hshows _ (List.mem_map_of_mem hlisted) ((hid info).2 hkey))
  · intro hshown
    refine ⟨⟨_, List.mem_map_of_mem hlisted, (hid info).2 hkey⟩, fun row hrow hrowId => ?_⟩
    obtain ⟨i, hi, rfl⟩ := List.mem_map.1 hrow
    have hsame := (mem_listMonitorInfos_iff h).1 ⟨hi, (hid i).1 hrowId⟩
    obtain rfl := Option.some.inj (hinfo.symm.trans hsame)
    exact showsPolicy_sessionJson.2 hshown

/-- What an admitted attach with a destination makes of a well-formed bridge. -/
structure Attached (b : Bridge ε) (spec : MonitorSessionSpec) (selection : ResolvedMonitorSelection)
    (p : Policy) (b' : Bridge ε) : Prop where
  sessions : b'.runtime.monitorSessions =
    emplace b.runtime.monitorSessions b.runtime.nextSessionId (b.newInfo spec selection)
  made : newTransfers b b' ≠ []
  held : ∀ t ∈ newTransfers b b', p.Alike (b'.host.policies t.policy)

theorem mem_newTransfers {b' : Bridge ε} {t : ITransferPdu} :
    t ∈ newTransfers b b' ↔
      (∃ c ∈ b'.core.connections, t ∈ c.transferPdus) ∧ t.self ∉ b.core.ownedRefs := by
  unfold newTransfers
  rw [List.mem_filter, List.mem_flatMap, Bool.not_eq_true', decide_eq_false_iff_not]

/-- **Attach.** An admitted attach with a destination lists the session, unless its id is in use,
and makes transfers whose policy objects are those of the request. -/
theorem attached_of_admitted (hwf : b.WellFormed) {spec : MonitorSessionSpec} {dst : EndpointRef}
    (hdst : spec.destinationEndpoint = some dst) {selection : ResolvedMonitorSelection}
    (hadmitted : b.core.admitMonitor E spec = some selection) {p : Policy}
    (hp : createMonitorPolicy (effectivePolicy spec.policy) = some p) :
    (b.attachMonitor E none spec).2 = some b.runtime.nextSessionId ∧
      Attached b spec selection p (b.attachMonitor E none spec).1 := by
  obtain ⟨b', hattach⟩ := issues_of_admitted hadmitted
  have hstart : HeldFrom b.host.nextTransfer p (b.core, b.host) := by
    intro c hc t ht hbase
    have hlt := hwf.transfer_lt c hc t ht
    omega
  have hheld := heldFrom_attachMonitor hp hattach hstart
  obtain ⟨selection', ts, h', i, c, src, hadmitted', hplace, hcreated, hpdus, -, rfl⟩ :=
    attachMonitor_some hattach
  obtain rfl := Option.some.inj (hadmitted.symm.trans hadmitted')
  rw [hattach]
  refine ⟨rfl, rfl, ?_, ?_⟩
  · obtain ⟨t, ht⟩ := List.exists_mem_of_ne_nil _ (made_ne_nil hadmitted hdst hpdus)
    have hget : (b.core.connections.modify i (·.takeOver ts))[i]? = some (c.takeOver ts) := by
      simp [hplace.get]
    have hmem : c.stamp t ∈ (c.takeOver ts).transferPdus := by
      rw [BridgeConnection.transferPdus_takeOver]
      exact List.mem_append_right _ (List.mem_map_of_mem ht)
    apply List.ne_nil_of_mem
    refine mem_newTransfers.2 ⟨⟨_, List.mem_of_getElem? hget, hmem⟩, fun howned => ?_⟩
    obtain ⟨c', hc', t', ht', hself⟩ := BridgeCore.mem_ownedRefs.1 howned
    exact hwf.fresh hcreated hc' ht' (List.mem_map.2 ⟨t, ht, hself.symm⟩)
  · intro t ht
    obtain ⟨⟨c', hc', ht'⟩, hnew⟩ := mem_newTransfers.1 ht
    refine (hheld c' hc' t ht' ?_).2
    rcases mem_of_mem_modify hc' with hold | ⟨c₀, hget, rfl⟩
    · exact absurd (BridgeCore.mem_ownedRefs.2 ⟨c', hold, t, ht', rfl⟩) hnew
    · rw [BridgeConnection.transferPdus_takeOver] at ht'
      rcases List.mem_append.1 ht' with hold | hmade
      · have hc₀ := List.mem_of_getElem? hget
        exact absurd (BridgeCore.mem_ownedRefs.2 ⟨c₀, hc₀, t, hold, rfl⟩) hnew
      · obtain ⟨t₀, ht₀, rfl⟩ := List.mem_map.1 hmade
        exact (hcreated.bounds t₀ ht₀).1

/-! ## Which subscriptions are granted -/

/-- A connection that can be subscribed to. -/
structure Offers (b : Bridge ε) (connectionId : String) : Prop where
  named : connectionId ≠ ""
  connected : ∃ c ∈ b.core.connections, c.connectionId = connectionId
  transferable : (b.core.connectionTransferablePdus.lookup connectionId).getD [] ≠ []

/-- A request to subscribe that is granted by a bridge that runs. -/
structure Grants (authorizer : Option Authorizer) (req : Json) (ep : Option EndpointRef)
    (b : Bridge ε) : Prop where
  authorized : (authorizer.map fun authorize => authorize req ep) ≠ some false
  filters : FiltersEmpty req
  connection : ∃ connectionId, req.getString? "connection_id" = some connectionId ∧
    b.Offers connectionId
  policy : (policyKind req).taken = true

/-- A running bridge admits a request without filters iff it offers the connection and takes the
policy. -/
theorem exists_admitMonitor_iff (hrun : b.core.isRunning = true)
    (hsources : ∀ c ∈ b.core.connections, ∃ src, c.srcEndpoint = some src)
    {spec : MonitorSessionSpec} (hfilters : spec.filters = []) :
    (∃ selection, b.core.admitMonitor E spec = some selection) ↔
      b.Offers spec.connectionId ∧
        isSupportedMonitorPolicy (effectivePolicy spec.policy) = true := by
  constructor
  · rintro ⟨selection, hadmitted⟩
    obtain ⟨-, hne, hpolicy, hresolve⟩ := BridgeCore.admitMonitor_eq_some.1 hadmitted
    obtain ⟨c, src, hfind, -, -, hpdus, -⟩ := BridgeCore.resolveMonitorSelection_eq_ok.1 hresolve
    have hid : c.connectionId = spec.connectionId := by simpa using List.find?_some hfind
    exact ⟨⟨hne, ⟨c, List.mem_of_find?_eq_some hfind, hid⟩, hpdus⟩, hpolicy⟩
  · rintro ⟨⟨hne, ⟨c, hc, hid⟩, hpdus⟩, hpolicy⟩
    obtain ⟨c', hfind⟩ := Option.isSome_iff_exists.1
      (List.find?_isSome (p := fun c => c.connectionId == spec.connectionId).2
        ⟨c, hc, by simp [hid]⟩)
    obtain ⟨src, hsrc⟩ := hsources c' (List.mem_of_find?_eq_some hfind)
    have hresolve := (BridgeCore.resolveMonitorSelection_eq_ok (E := E)).2
      ⟨c', src, hfind, hsrc, hfilters, hpdus, rfl⟩
    exact ⟨_, BridgeCore.admitMonitor_eq_some.2 ⟨hrun, hne, hpolicy, hresolve⟩⟩

/-- A request that is not decoded is not answered as a subscription. -/
theorem ne_subscribed_of_error {authorizer : Option Authorizer} {req res : Json}
    {ep : Option EndpointRef} (b : Bridge ε)
    (hdecode : decodeRequest E authorizer req ep = .error res) :
    (b.handleRequest E authorizer none req ep).2.getString? "type" ≠ some "subscribed" := by
  obtain ⟨code, message, err, -, rfl⟩ := decodeRequest_error E authorizer req ep res hdecode
  unfold handleRequest
  rw [hdecode]
  dsimp only
  rw [getString?_type_makeError]
  decide

/-- A request without filters is granted iff its attach is admitted. -/
theorem grants_iff (hrun : b.core.isRunning = true)
    (hsources : ∀ c ∈ b.core.connections, ∃ src, c.srcEndpoint = some src)
    {authorizer : Option Authorizer} {req : Json} {ep : Option EndpointRef} {connectionId : String}
    (hauth : (authorizer.map fun authorize => authorize req ep) ≠ some false)
    (hid : req.getString? "connection_id" = some connectionId) (hfilters : FiltersEmpty req) :
    b.Grants authorizer req ep ↔ ∃ selection, b.core.admitMonitor E
      ⟨connectionId, [], decodePolicy req, ep⟩ = some selection := by
  rw [exists_admitMonitor_iff hrun hsources rfl, supported_decodePolicy]
  constructor
  · rintro ⟨-, -, ⟨connectionId', hid', hoffers⟩, htaken⟩
    obtain rfl := Option.some.inj (hid.symm.trans hid')
    exact ⟨hoffers, htaken⟩
  · rintro ⟨hoffers, htaken⟩
    exact ⟨hauth, hfilters, ⟨connectionId, hid, hoffers⟩, htaken⟩

/-- **Granted or not.** A request that is granted is an admitted attach, and no other is answered
as a subscription. -/
theorem handleRequest_grants (authorizer : Option Authorizer) (ep : Option EndpointRef)
    (hrun : b.core.isRunning = true)
    (hsources : ∀ c ∈ b.core.connections, ∃ src, c.srcEndpoint = some src)
    {req : Json} (htype : req.getString? "type" = some "subscribe") :
    (b.Grants authorizer req ep ∧ ∃ spec selection, spec.policy = decodePolicy req ∧
      spec.destinationEndpoint = ep ∧ b.core.admitMonitor E spec = some selection ∧
      b.handleRequest E authorizer none req ep = b.serve E none req (.subscribe spec)) ∨
    (¬ b.Grants authorizer req ep ∧
      (b.handleRequest E authorizer none req ep).2.getString? "type" ≠ some "subscribed") := by
  by_cases hauth : (authorizer.map fun authorize => authorize req ep) = some false
  · have hrefused : decodeRequest E authorizer req ep = .error (makeError E req
        "PERMISSION_DENIED" "request is not authorized" (some .unsupported)) := by
      unfold decodeRequest
      rw [if_neg (by simp [Json.isObject_of_getString? htype]), htype]
      exact if_pos hauth
    exact Or.inr ⟨fun h => h.authorized hauth, ne_subscribed_of_error _ hrefused⟩
  · have hsame : decodeRequest E authorizer req ep = decodeRequest E none req ep := by
      rw [decodeRequest_of_type E hauth htype, decodeRequest_of_type E (by simp) htype]
    cases hid : req.getString? "connection_id" with
    | none =>
      have hrefused : decodeRequest E authorizer req ep = .error (makeError E req
          "INVALID_REQUEST" "connection_id is required" (some .invalidArgument)) := by
        rw [decodeRequest_of_type E hauth htype]
        have hsubscribe : decodeByType E req ep "subscribe" = decodeSubscribe E req ep := rfl
        rw [hsubscribe]
        unfold decodeSubscribe
        rw [hid]
      refine Or.inr ⟨fun h => ?_, ne_subscribed_of_error _ hrefused⟩
      obtain ⟨connectionId, hsome, -⟩ := h.connection
      exact absurd (hid.symm.trans hsome) (by simp)
    | some connectionId =>
      rcases decodeRequest_subscribe E ep htype hid with
        ⟨hfilters, hdecode⟩ | ⟨hfilters, res, hdecode⟩
      · set spec : MonitorSessionSpec :=
          { connectionId := connectionId, filters := [], policy := decodePolicy req
            destinationEndpoint := ep }
        have hserve : b.handleRequest E authorizer none req ep =
            b.serve E none req (.subscribe spec) := by
          unfold handleRequest
          rw [hsame, hdecode]
        have hgrants : b.Grants authorizer req ep ↔
            ∃ selection, b.core.admitMonitor E spec = some selection :=
          grants_iff hrun hsources hauth hid hfilters
        cases hadmitted : b.core.admitMonitor E spec with
        | some selection =>
          exact Or.inl ⟨hgrants.2 ⟨selection, hadmitted⟩, spec, selection, rfl, rfl, hadmitted,
            hserve⟩
        | none =>
          refine Or.inr ⟨fun h => ?_, ?_⟩
          · obtain ⟨selection, hsome⟩ := hgrants.1 h
            exact absurd (hadmitted.symm.trans hsome) (by simp)
          · rw [hserve]
            have hattach : b.attachMonitor E none spec = (b, none) := by
              unfold attachMonitor
              simp only [loadRunning_of_ne (show none ≠ some 0 by simp), hadmitted]
            simp only [serve, hattach]
            rw [getString?_type_makeError]
            decide
      · refine Or.inr ⟨fun h => hfilters h.filters, ne_subscribed_of_error _ (hsame.trans hdecode)⟩

/-! ## When a subscription runs as it was asked for -/

/-- A policy that is kept is asked for, and the session id is not in use by a session that shows
another policy. -/
def KeepsPolicy (authorizer : Option Authorizer) (req : Json) (ep : Option EndpointRef)
    (b : Bridge ε) : Prop :=
  b.Grants authorizer req ep → (policyKind req).Kept ∧
    ∀ info, b.runtime.monitorSessions.lookup b.runtime.nextSessionId = some info →
      ∀ type intervalMs, Asks req type intervalMs → info.policy.shown = (type, intervalMs)

/-- What a granted subscription is answered, and at what policy its session runs. -/
theorem runsAt_iff (hwf : b.WellFormed) (hkeyed : b.Keyed) (req : Json) {spec : MonitorSessionSpec}
    {dst : EndpointRef} (hdst : spec.destinationEndpoint = some dst)
    {selection : ResolvedMonitorSelection}
    (hadmitted : b.core.admitMonitor E spec = some selection) {p : Policy}
    (hp : createMonitorPolicy (effectivePolicy spec.policy) = some p) :
    let r := b.serve E none req (.subscribe spec)
    r.2.getString? "type" = some "subscribed" ∧
      r.2.getString? "session_id" = some b.runtime.nextSessionId ∧
      ∃ info, (∀ old, b.runtime.monitorSessions.lookup b.runtime.nextSessionId = some old →
          info = old) ∧
        (b.runtime.monitorSessions.lookup b.runtime.nextSessionId = none →
          info = b.newInfo spec selection) ∧
        ∀ type n, RunsAt E b r.1 b.runtime.nextSessionId type n ↔
          info.policy.shown = (type, n) ∧ p.Holds type n := by
  obtain ⟨hissued, hattached⟩ := attached_of_admitted hwf hdst hadmitted hp
  have hkeyed' : (b.attachMonitor E none spec).1.Keyed :=
    everySession_attachMonitor none spec hkeyed fun _ _ => rfl
  simp only [serve]
  revert hissued hattached hkeyed'
  generalize b.attachMonitor E none spec = a
  obtain ⟨b', issued⟩ := a
  rintro rfl hattached hkeyed'
  refine ⟨getString?_type_withRequestId req _ _, ?_, ?_⟩
  · unfold Json.getString?
    rw [get?_withRequestId req _ (by decide)]
    rfl
  · have hruns : ∀ info, b'.runtime.monitorSessions.lookup b.runtime.nextSessionId = some info →
        ∀ type n, RunsAt E b b' b.runtime.nextSessionId type n ↔
          info.policy.shown = (type, n) ∧ p.Holds type n := by
      intro info hinfo type n
      rw [← shows_iff hkeyed' hinfo (E := E)]
      constructor
      · rintro ⟨hlisted, hshown, hheld⟩
        obtain ⟨t, ht⟩ := List.exists_mem_of_ne_nil _ hattached.made
        exact ⟨⟨hlisted, hshown⟩, (hattached.held t ht).holds_iff.1 (hheld t ht)⟩
      · rintro ⟨⟨hlisted, hshown⟩, hholds⟩
        exact ⟨hlisted, hshown, fun t ht => (hattached.held t ht).holds_iff.2 hholds⟩
    have hsessions := hattached.sessions
    unfold emplace at hsessions
    cases hlookup : b.runtime.monitorSessions.lookup b.runtime.nextSessionId with
    | none =>
      rw [if_neg (AList.lookup_eq_none.1 hlookup)] at hsessions
      refine ⟨b.newInfo spec selection, by simp, fun _ => rfl, hruns _ ?_⟩
      rw [hsessions, AList.lookup_insert]
    | some old =>
      have hmem : b.runtime.nextSessionId ∈ b.runtime.monitorSessions :=
        AList.lookup_isSome.1 (by rw [hlookup]; rfl)
      rw [if_pos hmem] at hsessions
      refine ⟨old, fun _ heq => Option.some.inj heq, by simp, hruns _ ?_⟩
      rw [hsessions, hlookup]

/-- **Policies.** A bridge was built from any configuration, has been through anything since and is
running; a request asks for a subscription on behalf of a session endpoint. If it is answered as a
subscription, the session is listed with the policy that was asked for and the transfers made for
it hold that policy, iff the policy is one that is kept. -/
theorem runsAsAsked_iff {cfg : BridgeConfig} {nodeName : String} {container : List String} {e : ε}
    {b₀ : Bridge ε} (hboot : boot E cfg nodeName container e = some b₀) (ops : List (Op ε))
    (hrun : (run (step E) b₀ ops).1.core.isRunning = true) (authorizer : Option Authorizer)
    {req : Json} (htype : req.getString? "type" = some "subscribe") (dst : EndpointRef) :
    (run (step E) b₀ ops).1.RunsAsAsked E authorizer req dst ↔
      (run (step E) b₀ ops).1.KeepsPolicy authorizer req (some dst) := by
  have hwf := wellFormed_run hboot ops
  have hkeyed := keyed_run hboot ops
  have hsources : ∀ c ∈ (run (step E) b₀ ops).1.core.connections, ∃ src, c.srcEndpoint = some src :=
    fun c hc => source_of_boot hboot ops hc
  generalize (run (step E) b₀ ops).1 = b at hrun hwf hkeyed hsources ⊢
  unfold RunsAsAsked KeepsPolicy
  rcases handleRequest_grants authorizer (some dst) hrun hsources htype (E := E) with
    ⟨hgrants, spec, selection, hpolicy, hdst, hadmitted, heq⟩ | ⟨hgrants, hother⟩
  · have hdecoded := decoded_of_taken hgrants.policy
    obtain ⟨-, -, hsupported, -⟩ := BridgeCore.admitMonitor_eq_some.1 hadmitted
    obtain ⟨p, hp, -⟩ := createMonitorPolicy_of_supported hsupported
    obtain ⟨hsubscribed, hid, info, hold, hnew, hruns⟩ :=
      runsAt_iff hwf hkeyed req hdst hadmitted hp
    rw [hpolicy] at hp
    have hkept := kept_iff hdecoded hp
    -- the row shows what is held, unless it is that of an older session
    have hshown : ∀ type n, Asks req type n → p.Holds type n →
        (info.policy.shown = (type, n) ↔ ∀ old,
          b.runtime.monitorSessions.lookup b.runtime.nextSessionId = some old →
          old.policy.shown = (type, n)) := by
      intro type n hasks hholds
      cases hlookup : b.runtime.monitorSessions.lookup b.runtime.nextSessionId with
      | none =>
        have heffective := shown_of_holds hdecoded hp hasks hholds
        rw [← hpolicy] at heffective
        refine iff_of_true ?_ (by simp)
        rw [hnew hlookup]
        exact heffective
      | some old =>
        rw [hold old hlookup]
        simp
    rw [heq]
    simp only [hgrants, hsubscribed, true_implies]
    constructor
    · rintro ⟨sessionId, type, n, hid', hasks, hrunsAt⟩
      obtain rfl := Option.some.inj (hid.symm.trans hid')
      obtain ⟨hinfo, hholds⟩ := (hruns type n).1 hrunsAt
      refine ⟨hkept.1 ⟨type, n, hasks, hholds⟩, fun old hlookup type' n' hasks' => ?_⟩
      obtain ⟨rfl, rfl⟩ := hasks.unique hasks'
      exact (hshown type n hasks hholds).1 hinfo old hlookup
    · rintro ⟨hkind, hfree⟩
      obtain ⟨type, n, hasks, hholds⟩ := hkept.2 hkind
      have hinfo := (hshown type n hasks hholds).2 fun old hlookup =>
        hfree old hlookup type n hasks
      exact ⟨_, type, n, hid, hasks, (hruns type n).2 ⟨hinfo, hholds⟩⟩
  · exact iff_of_true (fun h => absurd h hother) fun h => absurd h hgrants

/-- A ticker of 10 ms. -/
theorem runsAsAsked_small :
    let E := (CacheSpec.small .latest).env none
    let b := (bootSmall .latest ⟨"immediate", none, none⟩ [⟨"k", "r", "pos"⟩] false).get rfl
    (run (step E) b [.start]).1.RunsAsAsked E none (.obj [("type", .str "subscribe"),
      ("connection_id", .str "conn"),
      ("policy", .obj [("type", .str "ticker"), ("interval_ms", .int 10)])]) (.session "s") := by
  intro E b
  have hboot : boot E (BridgeConfig.small ⟨"immediate", none, none⟩ [⟨"k", "r", "pos"⟩] false)
      "node" ["src", "dst"] CacheState.empty = some b := (Option.some_get _).symm
  apply (runsAsAsked_iff hboot [.start] (by decide) none rfl (.session "s")).2
  intro _
  constructor
  · exact ⟨by decide, by decide⟩
  · intro info hinfo
    have hnone : (run (step E) b [.start]).1.runtime.monitorSessions.lookup "ms-1" = none := rfl
    exact absurd (hnone.symm.trans hinfo) (by simp)

/-- A policy without a type is run as a throttle of 100 ms, and so is an interval whose low 32 bits
are 100. -/
theorem replaced_policy :
    let E := (CacheSpec.small .latest).env none
    let b := (bootSmall .latest ⟨"immediate", none, none⟩ [⟨"k", "r", "pos"⟩] false).get rfl
    let req (policy : Json) : Json := .obj [("type", .str "subscribe"),
      ("connection_id", .str "conn"), ("policy", policy)]
    let untyped : Json := .obj [("interval_ms", .int 10)]
    let large : Json := .obj [("type", .str "throttle"), ("interval_ms", .int 4294967396)]
    ∀ policy, policy = untyped ∨ policy = large →
      ¬ (run (step E) b [.start]).1.RunsAsAsked E none (req policy) (.session "s") := by
  intro E b req untyped large policy hpolicy hruns
  rcases hpolicy with rfl | rfl
  · obtain ⟨sessionId, type, n, -, hasks, -⟩ := hruns (by decide)
    cases hasks with
    | omitted hnone => exact absurd hnone (by simp [req, Json.get?])
    | given hgiven htype _ =>
      obtain rfl := Option.some.inj hgiven
      exact absurd htype (by simp [untyped, Json.get?])
  · obtain ⟨sessionId, type, n, -, hasks, hrunsAt⟩ := hruns (by decide)
    obtain ⟨rfl, rfl⟩ := hasks.unique (.given rfl rfl rfl : Asks (req large) "throttle"
      (some 4294967396))
    obtain ⟨row, hrow, hid⟩ := hrunsAt.listed
    have hshown := hrunsAt.shown row hrow hid
    rw [sessionRows_eq] at hrow
    obtain ⟨info, hinfo, rfl⟩ := List.mem_map.1 hrow
    have honly := (List.mergeSort_perm _ _).mem_iff.1 hinfo
    have hpolicies : ∀ i ∈ List.map Sigma.snd ((run (step E) b [.start]).1.handleRequest E none none
        (req large) (some (.session "s"))).1.runtime.monitorSessions.entries,
        i.policy = ⟨"throttle", 100⟩ := by decide
    have hwritten := showsPolicy_sessionJson.1 hshown
    rw [hpolicies info honly] at hwritten
    exact absurd hwritten (by decide)

end Bridge

end HakoniwaBridge
