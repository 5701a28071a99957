import HakoniwaBridge.Conformance

/-!
# What a subscription is accepted on

The requests of type `subscribe` on a running bridge, against the request schema.

* `PolicyKind`, `policyKind` — what the handler distinguishes in the `policy` member.
* `handleRequest_subscribe` — the handler subscribes iff `filters` is absent or empty and the policy
  is of a kind that it takes.
* `schema_subscribe_iff` — what the request schema asks for.
* `grammar_iff` — for exactly which requests the two agree.
-/

namespace HakoniwaBridge

open Lib Schema

variable {ε : Type} {E : Env ε}

/-! ## The policy member -/

/-- The kinds of `policy` members: none; one that is no object or names no type; the types with the
`interval_ms` that comes with them; another type. -/
inductive PolicyKind
  | absent
  | untyped
  | immediate (intervalMs : Option Json)
  | timed (intervalMs : Option Json)
  | unknown

/-- The kind of a policy that is given. -/
def givenKind (policy : Json) : PolicyKind :=
  match policy.getString? "type" with
  | none => .untyped
  | some type =>
    if type = "" then .untyped
    else if type = "immediate" then .immediate (policy.get? "interval_ms")
    else if type = "throttle" ∨ type = "ticker" then .timed (policy.get? "interval_ms")
    else .unknown

/-- The kind of the `policy` member. -/
def policyKind (req : Json) : PolicyKind :=
  match req.get? "policy" with
  | none => .absent
  | some policy => givenKind policy

/-- The kinds that the handler takes: the interval is an integer of 64 bits, and counts by the low
32 of them. -/
def PolicyKind.taken : PolicyKind → Bool
  | .absent | .untyped | .immediate _ => true
  | .timed (some (.int n)) => decide (Json.FitsInt64 n ∧ Json.getInt n > 0)
  | .timed _ | .unknown => false

/-- The kinds that the schema takes. -/
def PolicyKind.documented (integral : String → Option Int) : PolicyKind → Bool
  | .absent => true
  | .immediate intervalMs => intervalMs.isNone
  | .timed (some intervalMs) => integerFrom integral 1 intervalMs
  | .timed none | .untyped | .unknown => false

/-- The `filters` member is absent or an empty array. -/
def FiltersEmpty (req : Json) : Prop :=
  ∀ filters, req.get? "filters" = some filters → filters.isArray = true ∧ filters.isEmpty = true

/-- No member that the schema does not know, at the top and in the policy, and no empty or
ill-typed `request_id` or `session_id`. -/
structure Tidy (req : Json) : Prop where
  members : closed ["type", "request_id", "connection_id", "filters", "policy", "session_id"] req =
    true
  requestId : ∀ v, req.get? "request_id" = some v → nonempty v = true
  sessionId : ∀ v, req.get? "session_id" = some v → nonempty v = true
  policy : ∀ v, req.get? "policy" = some v → closed ["type", "interval_ms"] v = true

/-- The handler decodes a policy that passes its check iff its kind is taken. -/
theorem supported_decodePolicy (req : Json) :
    isSupportedMonitorPolicy (effectivePolicy (decodePolicy req)) = (policyKind req).taken := by
  unfold decodePolicy policyKind givenKind
  cases hpolicy : req.get? "policy" with
  | none => rfl
  | some policy =>
    cases policy with
    | obj members =>
      dsimp only
      cases htype : (Json.obj members).getString? "type" with
      | none => rfl
      | some type =>
        dsimp only [Option.getD_some]
        by_cases hempty : type = ""
        · subst hempty
          rfl
        · have heffective : ∀ n, effectivePolicy ⟨type, n⟩ = ⟨type, n⟩ := fun n => if_neg hempty
          rw [heffective, if_neg hempty]
          unfold isSupportedMonitorPolicy
          rw [if_neg hempty]
          split_ifs with himmediate htimed
          · rfl
          · cases (Json.obj members).get? "interval_ms" with
            | none => rfl
            | some v =>
              cases v with
              | int n =>
                by_cases hfits : Json.FitsInt64 n
                · simp [Json.integer?, PolicyKind.taken, hfits]
                · simp [Json.integer?, PolicyKind.taken, hfits]
              | _ => rfl
          · rfl
    | _ => rfl

/-! ## The handler -/

namespace Bridge

variable {b : Bridge ε} {req : Json} {ep : Option EndpointRef} {connectionId : String}
  {c : BridgeConnection}

/-- The checks of a subscription. -/
theorem decodeRequest_subscribe (E : Env ε) (ep : Option EndpointRef)
    (htype : req.getString? "type" = some "subscribe")
    (hid : req.getString? "connection_id" = some connectionId) :
    (FiltersEmpty req ∧ decodeRequest E none req ep = .ok (.subscribe
      { connectionId := connectionId, filters := [], policy := decodePolicy req
        destinationEndpoint := ep })) ∨
    (¬ FiltersEmpty req ∧ ∃ res, decodeRequest E none req ep = .error res) := by
  rw [decodeRequest_of_type E (by simp) htype]
  have hsubscribe : decodeByType E req ep "subscribe" = decodeSubscribe E req ep := rfl
  rw [hsubscribe]
  unfold decodeSubscribe FiltersEmpty
  simp only [hid]
  cases req.get? "filters" with
  | none => exact Or.inl ⟨by simp, rfl⟩
  | some filters =>
    by_cases harray : filters.isArray = true
    · by_cases hempty : filters.isEmpty = true
      · refine Or.inl ⟨by simp [harray, hempty], ?_⟩
        simp [harray, hempty]
      · refine Or.inr ⟨by simp [hempty], ?_⟩
        dsimp only
        rw [if_neg (by simp [harray]), if_pos (by simp [hempty])]
        exact ⟨_, rfl⟩
    · refine Or.inr ⟨by simp [harray], ?_⟩
      dsimp only
      rw [if_pos (by simp [harray])]
      exact ⟨_, rfl⟩

/-- A running core admits a subscription to a connection with transferable PDUs iff its policy
passes the check. -/
theorem admitMonitor_isSome {core : BridgeCore} {spec : MonitorSessionSpec}
    (hrun : core.isRunning = true) (hne : spec.connectionId ≠ "") (hfilters : spec.filters = [])
    (hfind : core.connections.find? (fun c => c.connectionId == spec.connectionId) = some c)
    {src : EndpointRef} (hsrc : c.srcEndpoint = some src)
    (hpdus : (core.connectionTransferablePdus.lookup spec.connectionId).getD [] ≠ []) :
    (core.admitMonitor E spec).isSome = isSupportedMonitorPolicy (effectivePolicy spec.policy) := by
  apply Bool.eq_iff_iff.2
  rw [Option.isSome_iff_exists]
  constructor
  · rintro ⟨selection, hadmitted⟩
    exact (BridgeCore.admitMonitor_eq_some.1 hadmitted).2.2.1
  · intro hsupported
    have hresolve := (BridgeCore.resolveMonitorSelection_eq_ok (E := E)).2
      ⟨c, src, hfind, hsrc, hfilters, hpdus, rfl⟩
    exact ⟨_, BridgeCore.admitMonitor_eq_some.2 ⟨hrun, hne, hsupported, hresolve⟩⟩

/-- **The handler.** On a running bridge a subscription to a connection with transferable PDUs
succeeds iff the filters are empty and the policy is taken; otherwise the answer is an error and
nothing has changed. -/
theorem handleRequest_subscribe (E : Env ε) (ep : Option EndpointRef)
    (hrun : b.core.isRunning = true) (htype : req.getString? "type" = some "subscribe")
    (hid : req.getString? "connection_id" = some connectionId) (hne : connectionId ≠ "")
    (hfind : b.core.connections.find? (fun c => c.connectionId == connectionId) = some c)
    {src : EndpointRef} (hsrc : c.srcEndpoint = some src)
    (hpdus : (b.core.connectionTransferablePdus.lookup connectionId).getD [] ≠ []) :
    ((FiltersEmpty req ∧ (policyKind req).taken = true) ∧
      (b.handleRequest E none none req ep).2.getString? "type" = some "subscribed") ∨
    (¬ (FiltersEmpty req ∧ (policyKind req).taken = true) ∧
      (b.handleRequest E none none req ep).1 = b ∧
      (b.handleRequest E none none req ep).2.getString? "type" = some "error") := by
  unfold handleRequest
  rcases decodeRequest_subscribe E ep htype hid with
    ⟨hfilters, hdecode⟩ | ⟨hfilters, res, hdecode⟩
  · set spec : MonitorSessionSpec :=
      { connectionId := connectionId, filters := [], policy := decodePolicy req
        destinationEndpoint := ep }
    have hsome : (b.core.admitMonitor E spec).isSome = (policyKind req).taken :=
      (admitMonitor_isSome hrun hne rfl hfind hsrc hpdus).trans (supported_decodePolicy req)
    rw [hdecode]
    simp only [serve]
    rcases attachMonitor_cases E none spec b with ⟨hrejected, heq⟩ |
      ⟨selection, ts, h', i, c', src', hadmitted, -, -, -, -, ⟨-, heq⟩ | ⟨j, dst, -, hstop, -⟩⟩
    · have hnone : b.core.admitMonitor E spec = none := hrejected
      rw [hnone] at hsome
      rw [heq]
      refine Or.inr ⟨fun h => absurd (hsome.trans h.2) (by simp), rfl, ?_⟩
      dsimp only
      exact getString?_type_makeError E req _ _ _
    · rw [hadmitted] at hsome
      rw [heq]
      exact Or.inl ⟨⟨hfilters, hsome.symm⟩, getString?_type_withRequestId req _ _⟩
    · exact absurd hstop (by simp)
  · obtain ⟨code, message, err, -, rfl⟩ := decodeRequest_error E none req ep res hdecode
    rw [hdecode]
    exact Or.inr ⟨fun h => hfilters h.1, rfl, getString?_type_makeError E req code message err⟩

end Bridge

/-! ## The schema -/

variable {integral : String → Option Int}

/-- A policy satisfies its schema iff it has no other members and its kind is documented. -/
theorem policy_iff {policy : Json} :
    ControlRequest.policy integral policy = true ↔
      closed ["type", "interval_ms"] policy = true ∧
        (givenKind policy).documented integral = true := by
  cases policy with
  | obj members =>
    have hclosed : (∀ m ∈ members, m.1 ∈ ["type", "interval_ms"]) ↔
        closed ["type", "interval_ms"] (.obj members) = true := closed_iff.symm
    simp only [ControlRequest.policy, allOf_cons, allOf_nil, Bool.and_true, Bool.and_eq_true,
      record_iff, List.map_cons, List.map_nil, hclosed, and_assoc, and_congr_right_iff]
    intro _
    unfold givenKind Json.getString?
    cases htype : (Json.obj members).get? "type" with
    | none => simp [htype, PolicyKind.documented]
    | some type =>
      cases type with
      | str type =>
        by_cases hempty : type = ""
        · simp [htype, hempty, string, enum, PolicyKind.documented]
        · by_cases himmediate : type = "immediate"
          · cases hinterval : (Json.obj members).get? "interval_ms" <;>
              simp [htype, hinterval, himmediate, string, enum, const, ifThen, properties,
                required, Schema.not, Json.isObject, PolicyKind.documented]
          · by_cases htimed : type = "throttle" ∨ type = "ticker"
            · cases hinterval : (Json.obj members).get? "interval_ms" <;>
                simp [htype, hinterval, hempty, himmediate, htimed, string, enum, const, ifThen,
                  properties, required, Json.isObject, PolicyKind.documented]
            · simp [htype, hempty, himmediate, htimed, string, enum, PolicyKind.documented]
      | _ => simp [htype, PolicyKind.documented, string]
  | _ => simp [ControlRequest.policy, record, givenKind, Json.getString?, Json.get?,
      Json.isObject, PolicyKind.documented]

theorem filters_iff {req : Json} :
    (∀ v, req.get? "filters" = some v → allOf [Json.isArray, maxItems 0] v = true) ↔
      FiltersEmpty req := by
  apply forall₂_congr
  intro v hv
  cases v with
  | arr elems => cases elems <;> simp [Json.isArray, Json.isEmpty, maxItems]
  | _ => simp [Json.isArray]

/-- The policy member satisfies its schema iff it has no other members and its kind is
documented. -/
theorem policyKind_iff {req : Json} :
    (∀ v, req.get? "policy" = some v → ControlRequest.policy integral v = true) ↔
      (∀ v, req.get? "policy" = some v → closed ["type", "interval_ms"] v = true) ∧
        (policyKind req).documented integral = true := by
  unfold policyKind
  cases req.get? "policy" with
  | none => simp [PolicyKind.documented]
  | some policy => simp [policy_iff]

/-- **The schema.** A request to subscribe to a named connection satisfies the schema iff it is
tidy, the filters are empty and the policy is documented. -/
theorem schema_subscribe_iff (integral : String → Option Int) {req : Json} {connectionId : String}
    (htype : req.getString? "type" = some "subscribe")
    (hid : req.getString? "connection_id" = some connectionId) (hne : connectionId ≠ "") :
    ControlRequest.schema integral req = true ↔
      Tidy req ∧ FiltersEmpty req ∧ (policyKind req).documented integral = true := by
  have htype' := Json.get?_of_getString? htype
  have hid' := Json.get?_of_getString? hid
  cases req with
  | obj members =>
    have hsubscribe : required ["connection_id"] (.obj members) = true :=
      required_iff.2 (by simp [hid'])
    have hcases : ControlRequest.schema integral (.obj members) =
        record ["type"] (ControlRequest.props integral) (.obj members) := by
      simp [ControlRequest.schema, ifThen, properties, htype', const, enum, hsubscribe]
    have hmembers : (∀ m ∈ members, m.1 ∈ (ControlRequest.props integral).map Prod.fst) ↔
        closed ["type", "request_id", "connection_id", "filters", "policy", "session_id"]
          (.obj members) = true := closed_iff.symm
    have hconnection : nonempty (.str connectionId) = true := nonempty_iff.2 ⟨_, rfl, hne⟩
    rw [hcases, record_iff, hmembers]
    simp only [ControlRequest.props, List.mem_cons, List.not_mem_nil, or_false, forall_eq_or_imp,
      forall_eq, htype', hid', Option.some.injEq, forall_eq', hconnection, filters_iff,
      policyKind_iff]
    constructor
    · rintro ⟨hclosed, -, -, hrequest, -, hfilters, ⟨hpolicy, hkind⟩, hsession⟩
      exact ⟨⟨hclosed, hrequest, hsession, hpolicy⟩, hfilters, hkind⟩
    · rintro ⟨⟨hclosed, hrequest, hsession, hpolicy⟩, hfilters, hkind⟩
      refine ⟨hclosed, rfl, ?_, hrequest, trivial, hfilters, ⟨hpolicy, hkind⟩, hsession⟩
      simp [string, enum]
  | _ => exact absurd htype (by simp [Json.getString?, Json.get?])

/-! ## Where the two agree -/

/-- The requests, among those with empty filters, that handler and schema treat alike, by the kind
of the policy. -/
def PolicyKind.Agrees (integral : String → Option Int) (tidy : Prop) : PolicyKind → Prop
  | .absent => tidy
  | .untyped => False
  | .immediate intervalMs => intervalMs = none ∧ tidy
  -- the low 32 bits of 64 decide for the handler, the number itself for the schema
  | .timed (some (.int n)) => (Json.FitsInt64 n ∧ 0 < Json.getInt n ∧ 1 ≤ n ∧ tidy) ∨
      ((¬ Json.FitsInt64 n ∨ Json.getInt n ≤ 0) ∧ (n < 1 ∨ ¬ tidy))
  -- a number such as `10.0` is an integer for the schema alone
  | .timed (some (.float text)) => ((integral text).any fun n => decide (1 ≤ n)) = false ∨ ¬ tidy
  | .timed _ | .unknown => True

theorem PolicyKind.agrees_iff (integral : String → Option Int) (tidy : Prop) (kind : PolicyKind) :
    kind.Agrees integral tidy ↔
      (kind.taken = true ↔ tidy ∧ kind.documented integral = true) := by
  cases kind with
  | absent => simp [Agrees, taken, documented]
  | untyped => simp [Agrees, taken, documented]
  | immediate intervalMs => simp [Agrees, taken, documented, and_comm]
  | unknown => simp [Agrees, taken, documented]
  | timed intervalMs =>
    cases intervalMs with
    | none => simp [Agrees, taken, documented]
    | some v =>
      cases v with
      | int n =>
        by_cases hfits : Json.FitsInt64 n
        · by_cases htidy : tidy <;> simp [Agrees, taken, documented, integerFrom, htidy, hfits]
          all_goals omega
        · by_cases htidy : tidy <;> simp [Agrees, taken, documented, integerFrom, htidy, hfits]
      | float text =>
        by_cases htidy : tidy <;> simp [Agrees, taken, documented, integerFrom, htidy]
      | _ => simp [Agrees, taken, documented, integerFrom]

/-- The requests to subscribe that handler and schema treat alike: those with filters, and of the
others those whose policy is of a suitable kind. -/
def SubscribeAgrees (integral : String → Option Int) (req : Json) : Prop :=
  FiltersEmpty req → (policyKind req).Agrees integral (Tidy req)

namespace Bridge

/-- An id with transferable PDUs is not empty. -/
theorem id_ne_empty_of_boot {cfg : BridgeConfig} {nodeName : String} {container : List String}
    {e : ε} {b₀ : Bridge ε} (hboot : boot E cfg nodeName container e = some b₀)
    (ops : List (Op ε)) {id : String}
    (hpdus : ((run (step E) b₀ ops).1.core.connectionTransferablePdus.lookup id).getD [] ≠ []) :
    id ≠ "" := by
  rw [(sameSetup_run E b₀ ops).transferable] at hpdus
  obtain ⟨p, hp⟩ := List.exists_mem_of_ne_nil _ hpdus
  unfold boot at hboot
  split at hboot
  · next h core heq =>
    obtain rfl := Option.some.inj hboot
    exact (namesPdus_of_build heq id p hp).1
  · simp at hboot

/-- **Grammar.** A bridge was built from any configuration, has been through anything since and is
running; a request without authorizer asks for a subscription to a connection that has
transferable PDUs. The handler subscribes exactly if the request satisfies the schema, and answers
an error without an effect if it does not, iff the request is one that both treat alike. -/
theorem grammar_iff (integral : String → Option Int) {cfg : BridgeConfig} {nodeName : String}
    {container : List String} {e : ε} {b₀ : Bridge ε}
    (hboot : boot E cfg nodeName container e = some b₀) (ops : List (Op ε)) {c : BridgeConnection}
    (hrun : (run (step E) b₀ ops).1.core.isRunning = true)
    (hc : c ∈ (run (step E) b₀ ops).1.core.connections)
    (hpdus : ((run (step E) b₀ ops).1.core.connectionTransferablePdus.lookup
      c.connectionId).getD [] ≠ [])
    {req : Json} (htype : req.getString? "type" = some "subscribe")
    (hid : req.getString? "connection_id" = some c.connectionId) (ep : Option EndpointRef) :
    let b := (run (step E) b₀ ops).1
    let r := b.handleRequest E none none req ep
    ((r.2.getString? "type" = some "subscribed" ↔ ControlRequest.schema integral req = true) ∧
      (ControlRequest.schema integral req = false →
        r.2.getString? "type" = some "error" ∧ r.1 = b)) ↔
      SubscribeAgrees integral req := by
  intro b r
  have hne := id_ne_empty_of_boot hboot ops hpdus
  obtain ⟨c', hfind⟩ : ∃ c', b.core.connections.find?
      (fun c' => c'.connectionId == c.connectionId) = some c' :=
    Option.isSome_iff_exists.1 (List.find?_isSome.2 ⟨c, hc, by simp⟩)
  obtain ⟨src, hsrc⟩ := source_of_boot hboot ops (List.mem_of_find?_eq_some hfind)
  have hschema := schema_subscribe_iff integral htype hid hne
  have hagrees := PolicyKind.agrees_iff integral (Tidy req) (policyKind req)
  -- what makes the two alike is that what the handler takes is what the schema takes
  have halike : SubscribeAgrees integral req ↔
      (FiltersEmpty req ∧ (policyKind req).taken = true ↔
        ControlRequest.schema integral req = true) := by
    unfold SubscribeAgrees
    rw [hagrees, hschema]
    by_cases hempty : FiltersEmpty req
    · simp [hempty]
    · simp [hempty]
  rw [halike]
  rcases handleRequest_subscribe E ep hrun htype hid hne hfind hsrc hpdus with
    ⟨htaken, hsubscribed⟩ | ⟨htaken, hsame, herror⟩
  · have htype' : r.2.getString? "type" = some "subscribed" := hsubscribed
    rw [htype', iff_true_intro htaken]
    constructor
    · rintro ⟨hvalid, -⟩
      exact ⟨fun _ => hvalid.1 rfl, fun _ => trivial⟩
    · intro hvalid
      exact ⟨⟨fun _ => hvalid.1 trivial, fun _ => rfl⟩, fun hinvalid =>
        absurd ((hvalid.1 trivial).symm.trans hinvalid) (by simp)⟩
  · have htype' : r.2.getString? "type" = some "error" := herror
    have hsame' : r.1 = b := hsame
    simp [htype', hsame', htaken]

/-- A documented throttle. -/
theorem grammar_small :
    let E := (CacheSpec.small .latest).env none
    let b := (bootSmall .latest ⟨"immediate", none, none⟩ [⟨"k", "r", "pos"⟩] false).get rfl
    let req : Json := .obj [("type", .str "subscribe"), ("connection_id", .str "conn"),
      ("policy", .obj [("type", .str "throttle"), ("interval_ms", .int 10)])]
    let r := (run (step E) b [.start]).1.handleRequest E none none req none
    ((r.2.getString? "type" = some "subscribed" ↔
        ControlRequest.schema (fun _ => none) req = true) ∧
      (ControlRequest.schema (fun _ => none) req = false →
        r.2.getString? "type" = some "error" ∧ r.1 = (run (step E) b [.start]).1)) ↔
      SubscribeAgrees (fun _ => none) req := by
  intro E b req
  have hboot : boot E (BridgeConfig.small ⟨"immediate", none, none⟩ [⟨"k", "r", "pos"⟩] false)
      "node" ["src", "dst"] CacheState.empty = some b := (Option.some_get _).symm
  have hne : (run (step E) b [.start]).1.core.connections ≠ [] := by decide
  exact grammar_iff (fun _ => none) hboot [.start] (by decide) (List.head_mem hne)
    (List.cons_ne_nil ("r", "pos") []) rfl rfl none

/-- A policy without a type is subscribed as a throttle of 100 ms, and the low 32 bits of an
interval count, while the schema accepts neither. -/
theorem undocumented_subscribed :
    let E := (CacheSpec.small .latest).env none
    let b := (bootSmall .latest ⟨"immediate", none, none⟩ [⟨"k", "r", "pos"⟩] false).get rfl
    let req (policy : Json) : Json := .obj [("type", .str "subscribe"),
      ("connection_id", .str "conn"), ("policy", policy)]
    let untyped : Json := .obj []
    let negative : Json := .obj [("type", .str "throttle"), ("interval_ms", .int (-4294967295))]
    ∀ policy, policy = untyped ∨ policy = negative →
      ((run (step E) b [.start]).1.handleRequest E none none (req policy) none).2.getString?
        "type" = some "subscribed" ∧
      ControlRequest.schema (fun _ => none) (req policy) = false := by
  intro E b req untyped negative policy hpolicy
  rcases hpolicy with rfl | rfl <;> decide

end Bridge

end HakoniwaBridge
