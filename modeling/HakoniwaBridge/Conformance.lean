import HakoniwaBridge.ControlSchema
import HakoniwaBridge.Plan
import HakoniwaBridge.Sessions

/-!
# Every answer conforms to its schema

Over whole runs of a bridge whose configuration has no empty id.

* `WellNamed` — the invariant: no connection, no transferable PDU and no session goes by an empty
  name, and the sessions in the table are as their rows want them (`ControlResponse`).
* `wellNamed_step` — every step keeps it.
* `conforms` — whatever JSON value arrives, in whatever state, the answer satisfies the response
  schema and carries the request id of the request.
-/

namespace HakoniwaBridge

open Lib ControlResponse

variable {ε : Type} {E : Env ε}

/-! ## The invariant -/

/-- The table of transferable PDUs holds no empty name. -/
def BridgeCore.NamesPdus (core : BridgeCore) : Prop :=
  ∀ id, ∀ p ∈ (core.connectionTransferablePdus.lookup id).getD [],
    id ≠ "" ∧ p.1 ≠ "" ∧ p.2 ≠ ""

namespace Builder

variable {cfg : BridgeConfig} {nodeName : String} {container : List String}

/-- Registering skips empty names. -/
theorem namesPdus_register {core : BridgeCore} (h : core.NamesPdus) (id robot pduName : String) :
    (core.registerConnectionTransferPduKey id robot pduName).NamesPdus := by
  unfold BridgeCore.registerConnectionTransferPduKey
  split_ifs with hempty
  · exact h
  · intro id' p hp
    simp only [not_or] at hempty
    by_cases hid : id' = id
    · subst hid
      simp only [AList.lookup_insert, Option.getD_some] at hp
      split_ifs at hp with hknown
      · exact h id' p hp
      · rcases List.mem_append.1 hp with hp | hp
        · exact h id' p hp
        · rw [List.mem_singleton.1 hp]
          exact hempty
    · rw [AList.lookup_insert_ne hid] at hp
      exact h id' p hp

theorem namesPdus_registerKeyGroup {connectionId : String} {entry : TransferPduConfig}
    {core core' : BridgeCore} (h : core.NamesPdus)
    (hstep : registerKeyGroup cfg connectionId entry core = (core', none)) : core'.NamesPdus := by
  unfold registerKeyGroup at hstep
  split at hstep
  · simp at hstep
  · next keys hkeys =>
    clear hkeys
    simp only [Prod.mk.injEq, and_true] at hstep
    subst hstep
    induction keys generalizing core with
    | nil => exact h
    | cons key keys ih => exact ih (namesPdus_register h _ _ _)

theorem namesPdus_addConnection {connDef : Connection} {s s' : BridgeCore × Host ε}
    (h : s.1.NamesPdus) (hstep : addConnection E cfg nodeName container connDef s = (s', none)) :
    s'.1.NamesPdus := by
  unfold addConnection at hstep
  split_ifs at hstep
  · split at hstep
    · simp at hstep
    · dsimp only at hstep
      split at hstep
      · simp at hstep
      · next core hcore =>
        have hloop : core.NamesPdus :=
          forEach_ok BridgeCore.NamesPdus (fun entry _ c c' hc => namesPdus_registerKeyGroup hc) h
            hcore
        split at hstep
        · simp at hstep
        · next connection h₁ hconn =>
          simp only [Prod.mk.injEq, and_true] at hstep
          subst hstep
          intro id p hp
          simp only [BridgeCore.addConnection] at hp
          split_ifs at hp
          · exact hloop id p hp
          · by_cases hid : id = connection.connectionId
            · subst hid
              rw [AList.lookup_insert] at hp
              exact absurd hp List.not_mem_nil
            · rw [AList.lookup_insert_ne hid] at hp
              exact hloop id p hp
  · simp only [Prod.mk.injEq, and_true] at hstep
    exact hstep ▸ h

end Builder

theorem namesPdus_of_build {cfg : BridgeConfig} {nodeName : String} {container : List String}
    {h₀ h : Host ε} {core : BridgeCore}
    (hbuild : build E cfg nodeName container h₀ = (h, .ok core)) : core.NamesPdus := by
  unfold build at hbuild
  split at hbuild
  · simp at hbuild
  · next core' h' heq =>
    simp only [Prod.mk.injEq, Except.ok.injEq] at hbuild
    obtain ⟨-, rfl⟩ := hbuild
    have hempty : ({ nodeName := nodeName, endpointIds := container } : BridgeCore).NamesPdus :=
      fun id p hp => absurd hp List.not_mem_nil
    exact forEach_ok (fun s : BridgeCore × Host ε => s.1.NamesPdus)
      (fun connDef _ s s' hs => Builder.namesPdus_addConnection hs) hempty heq

/-- The sessions in the table are as their rows want them. -/
def Bridge.SessionsConform (b : Bridge ε) : Prop :=
  ∀ id info, b.runtime.monitorSessions.lookup id = some info → WellFormedInfo info

/-- Nothing goes by an empty name. -/
structure Bridge.WellNamed (b : Bridge ε) : Prop where
  connections : ∀ c ∈ b.core.connections, c.connectionId ≠ "" ∧ c.nodeId ≠ ""
  transferable : b.core.NamesPdus
  sessions : b.SessionsConform

namespace Bridge

theorem wellNamed_of_boot {cfg : BridgeConfig} {nodeName : String} {container : List String}
    {e : ε} {b : Bridge ε} (hboot : boot E cfg nodeName container e = some b)
    (hids : ∀ connDef ∈ cfg.connections, connDef.id ≠ "" ∧ connDef.nodeId ≠ "") :
    b.WellNamed := by
  have hbooted := booted_of_boot hboot
  unfold boot at hboot
  split at hboot
  · next h core heq =>
    obtain rfl := Option.some.inj hboot
    refine ⟨fun c hc => ?_, namesPdus_of_build heq, fun id info hinfo => ?_⟩
    · obtain ⟨connDef, hmem, hrealizes⟩ :=
        exists_of_forall₂ (assembled_of_build heq).connections hc
      have hdef := hids connDef (List.mem_filter.1 hmem).1
      have hheader := hrealizes.header
      simp only [BridgeConnection.header, Prod.mk.injEq] at hheader
      rw [hheader.1, hheader.2.1]
      exact hdef
    · rw [hbooted.noSessions] at hinfo
      exact absurd hinfo (by simp)
  · simp at hboot

/-! ## The sessions -/

/-- A policy that passes the check has one of the three names. -/
theorem type_of_supported {policy : MonitorPolicy}
    (h : isSupportedMonitorPolicy (effectivePolicy policy) = true) :
    (effectivePolicy policy).type ∈ ["immediate", "throttle", "ticker"] := by
  unfold effectivePolicy at h ⊢
  split_ifs with hempty
  · decide
  · rw [if_neg hempty] at h
    unfold isSupportedMonitorPolicy at h
    split_ifs at h with himmediate hinterval
    · simp [himmediate]
    · rcases hinterval with heq | heq <;> simp [heq]

/-- What is admitted makes a session as its row wants it. -/
theorem wellFormedInfo_of_admitMonitor {core : BridgeCore} {spec : MonitorSessionSpec}
    {selection : ResolvedMonitorSelection} (hnames : core.NamesPdus)
    (h : core.admitMonitor E spec = some selection) {id : String} (hid : id ≠ "") :
    WellFormedInfo { sessionInfo spec selection with sessionId := id } := by
  obtain ⟨-, hconnection, hpolicy, hresolve⟩ := BridgeCore.admitMonitor_eq_some.1 h
  obtain ⟨c, src, -, -, -, hallowed, rfl⟩ := BridgeCore.resolveMonitorSelection_eq_ok.1 hresolve
  refine ⟨hid, hconnection, ?_, fun f hf => ?_, type_of_supported hpolicy⟩
  · simpa [sessionInfo, BridgeCore.selectionOf] using hallowed
  · obtain ⟨p, hp, rfl⟩ := List.mem_map.1 hf
    obtain ⟨-, hrobot, hname⟩ := hnames spec.connectionId p hp
    refine ⟨hrobot, fun channel hchannel => ?_, p.2, rfl, hname⟩
    have hknown := @BridgeCore.nonneg_of_channelOf _ E (some src) p.1 p.2 channel
    exact (hknown hchannel).1

/-- No session id is empty. -/
theorem nextSessionId_ne_empty (rt : BridgeMonitorRuntime) : rt.nextSessionId ≠ "" := by
  unfold BridgeMonitorRuntime.nextSessionId
  rw [ne_eq, String.append_eq_empty_iff]
  simp

/-- **Step.** Every step keeps the bridge well-named. -/
theorem wellNamed_step (E : Env ε) {b : Bridge ε} (h : b.WellNamed) (op : Op ε) :
    (b.step E op).1.WellNamed := by
  have hsetup := sameSetup_step E b op
  refine ⟨fun c hc => ?_, fun id p hp => ?_, ?_⟩
  · have hheader : c.header ∈ b.core.connections.map (·.header) := by
      rw [← hsetup.headers]
      exact List.mem_map_of_mem hc
    obtain ⟨c₀, hc₀, heq⟩ := List.mem_map.1 hheader
    simp only [BridgeConnection.header, Prod.mk.injEq] at heq
    rw [← heq.1, ← heq.2.1]
    exact h.connections c₀ hc₀
  · rw [hsetup.transferable] at hp
    exact h.transferable id p hp
  · exact everySession_step E h.sessions (fun spec selection hadmitted =>
      wellFormedInfo_of_admitMonitor h.transferable hadmitted (nextSessionId_ne_empty _)) op

/-! ## The answers -/

open Schema

variable {integral : String → Option Int} {req : Json} {b : Bridge ε}

/-- No answer to a subscription has an empty id. -/
theorem ne_empty_of_attachMonitor {stopAt : Option Nat} {spec : MonitorSessionSpec}
    {b' : Bridge ε} {sessionId : String}
    (h : b.attachMonitor E stopAt spec = (b', some sessionId)) : sessionId ≠ "" := by
  obtain ⟨_, _, _, _, _, _, -, -, -, -, rfl, -⟩ := attachMonitor_some h
  exact nextSessionId_ne_empty b.runtime

/-- What the handler answers to a request that it serves. -/
theorem schema_serve (h : b.WellNamed)
    (hid : ∀ id, req.getString? "request_id" = some id → id ≠ "") (stopAt : Option Nat)
    (request : Request) : schema integral (b.serve E stopAt req request).2 = true := by
  cases request with
  | health =>
    refine schema_withRequestId hid (schema_answer (by decide) ?_ (by simp [cases]))
    simp [props, Json.get?, string, ControlResponse.health, record, closed, required, properties,
      Json.isObject, boolean, integerFrom]
  | listSessions =>
    have hrows : items (session integral)
        (.arr (b.runtime.listMonitorInfos.map sessionJson)) = true := by
      refine items_map fun info hinfo => schema_sessionJson ?_
      obtain ⟨s, hs, rfl⟩ := List.mem_map.1 ((List.mergeSort_perm _ _).mem_iff.1 hinfo)
      exact h.sessions s.1 s.2 (AList.mem_lookup_iff.2 hs)
    refine schema_withRequestId hid (schema_answer (by decide) ?_ (by simp [cases]))
    simp [props, Json.isArray, hrows]
  | listConnections =>
    have hrows : items (connection integral)
        (.arr (b.core.listConnections.map connectionJson)) = true := by
      apply items_map
      intro conn hconn
      obtain ⟨c, hc, rfl⟩ := List.mem_map.1 ((List.mergeSort_perm _ _).mem_iff.1 hconn)
      exact schema_connectionJson (h.connections c hc).1 (h.connections c hc).2
    refine schema_withRequestId hid (schema_answer (by decide) ?_ (by simp [cases]))
    simp [props, Json.isArray, hrows]
  | listPdus connectionId =>
    cases hfind : b.core.connections.find? fun c => c.connectionId == connectionId with
    | none =>
      simp only [serve, BridgeCore.listPdus_of_not_find hfind]
      exact schema_makeError E hid (by simp [codes]) _ _
    | some c =>
      have hc : c.connectionId = connectionId := by simpa using List.find?_some hfind
      have hne : connectionId ≠ "" := hc ▸ (h.connections c (List.mem_of_find?_eq_some hfind)).1
      have hrows : items (pdu integral) (.arr (List.map pduJson
          (((b.core.connectionTransferablePdus.lookup connectionId).getD []).map fun p =>
            ⟨connectionId, p.1, p.2, c.srcEndpoint.bind fun src =>
              BridgeCore.channelOf E src p.1 p.2⟩))) = true := by
        apply items_map
        intro dto hdto
        obtain ⟨p, hp, rfl⟩ := List.mem_map.1 hdto
        obtain ⟨-, hrobot, hname⟩ := h.transferable connectionId p hp
        exact schema_pduJson hne hrobot hname fun channel hchannel =>
          (BridgeCore.nonneg_of_channelOf hchannel).1
      simp only [serve, BridgeCore.listPdus_of_find hfind]
      refine schema_withRequestId hid (schema_answer (by decide) ?_ (by simp [cases]))
      simpa [props, Json.isArray, nonempty_iff, hne] using hrows
  | unsubscribe sessionId =>
    simp only [serve]
    split
    · exact schema_withRequestId hid (schema_answer (by decide) (by simp) (by decide))
    · dsimp only
      exact schema_makeError E hid (by simp [codes]) _ _
  | subscribe spec =>
    cases hattach : b.attachMonitor E stopAt spec with
    | mk b' issued =>
      cases issued with
      | none =>
        simp only [serve, hattach]
        exact schema_makeError E hid (by simp [codes]) _ _
      | some sessionId =>
        have hne := ne_empty_of_attachMonitor hattach
        simp only [serve, hattach]
        refine schema_withRequestId hid (schema_answer (by decide) ?_ (by simp [cases]))
        simp [props, nonempty_iff, hne]

/-- Whatever the handler serves, it echoes. -/
theorem echo_serve (stopAt : Option Nat) (request : Request) :
    (b.serve E stopAt req request).2.get? "request_id" =
      (req.getString? "request_id").map .str := by
  cases request with
  | health => exact get?_requestId_withRequestId req (by simp)
  | listSessions => exact get?_requestId_withRequestId req (by simp)
  | listConnections => exact get?_requestId_withRequestId req (by simp)
  | listPdus connectionId =>
    simp only [serve]
    split
    · dsimp only
      exact get?_requestId_makeError E req _ _ _
    · exact get?_requestId_withRequestId req (by simp)
  | unsubscribe sessionId =>
    simp only [serve]
    split
    · exact get?_requestId_withRequestId req (by simp)
    · dsimp only
      exact get?_requestId_makeError E req _ _ _
  | subscribe spec =>
    simp only [serve]
    split
    · dsimp only
      exact get?_requestId_makeError E req _ _ _
    · exact get?_requestId_withRequestId req (by simp)

/-- **Echo.** Every answer carries the request id of its request, and none of its own. -/
theorem echo_handleRequest (E : Env ε) (authorizer : Option Authorizer) (stopAt : Option Nat)
    (req : Json) (ep : Option EndpointRef) (b : Bridge ε) :
    (b.handleRequest E authorizer stopAt req ep).2.get? "request_id" =
      (req.getString? "request_id").map .str := by
  unfold handleRequest
  cases hdecode : decodeRequest E authorizer req ep with
  | error res =>
    obtain ⟨code, message, err, -, rfl⟩ := decodeRequest_error E authorizer req ep res hdecode
    exact get?_requestId_makeError E req code message err
  | ok request => exact echo_serve stopAt request

/-- **Conformance.** A bridge was built from a configuration without empty ids and has been through
anything since. Whatever value arrives as a request, unless its `request_id` is the empty string:
the answer satisfies the response schema, and carries the `request_id` of the request exactly if
that is a string. -/
theorem conforms (integral : String → Option Int) {cfg : BridgeConfig} {nodeName : String}
    {container : List String} {e : ε} {b₀ : Bridge ε}
    (hboot : boot E cfg nodeName container e = some b₀)
    (hids : ∀ connDef ∈ cfg.connections, connDef.id ≠ "" ∧ connDef.nodeId ≠ "")
    (ops : List (Op ε)) (authorizer : Option Authorizer) (stopAt : Option Nat) (req : Json)
    (ep : Option EndpointRef) (hid : ∀ id, req.getString? "request_id" = some id → id ≠ "") :
    let res := ((run (step E) b₀ ops).1.handleRequest E authorizer stopAt req ep).2
    ControlResponse.schema integral res = true ∧
      res.get? "request_id" = (req.getString? "request_id").map .str := by
  have hkeep : ∀ (b : Bridge ε) (op : Op ε), b.WellNamed → (b.step E op).1.WellNamed :=
    fun b op h => wellNamed_step E h op
  have hnamed : (run (step E) b₀ ops).1.WellNamed :=
    run_invariant_of_forall hkeep (wellNamed_of_boot hboot hids) ops
  refine ⟨?_, echo_handleRequest E authorizer stopAt req ep _⟩
  unfold handleRequest
  cases hdecode : decodeRequest E authorizer req ep with
  | error res =>
    obtain ⟨code, message, err, hcode, rfl⟩ :=
      decodeRequest_error E authorizer req ep res hdecode
    refine schema_makeError E hid ?_ message err
    rcases List.mem_cons.1 hcode with rfl | hcode
    · decide
    · rcases List.mem_cons.1 hcode with rfl | hcode
      · decide
      · rw [List.mem_singleton.1 hcode]
        decide
  | ok request => exact schema_serve hnamed hid stopAt request

/-- The list of sessions after a subscription. -/
theorem conforms_small :
    let E := (CacheSpec.small .latest).env none
    let b := (bootSmall .latest ⟨"immediate", none, none⟩ [⟨"k", "r", "pos"⟩] false).get rfl
    let ops : List (Op CacheState) := [.start, .session (.attachMonitor none
      ⟨"conn", [], ⟨"", 0⟩, some (.session "s")⟩)]
    let req : Json := .obj [("type", .str "list_sessions"), ("request_id", .str "1")]
    let res := ((run (step E) b ops).1.handleRequest E none none req none).2
    ControlResponse.schema (fun _ => none) res = true ∧
      res.get? "request_id" = (req.getString? "request_id").map .str := by
  intro E b ops req
  have hboot : boot E (BridgeConfig.small ⟨"immediate", none, none⟩ [⟨"k", "r", "pos"⟩] false)
      "node" ["src", "dst"] CacheState.empty = some b := (Option.some_get _).symm
  refine conforms (fun _ => none) hboot ?_ ops none none req none ?_
  · intro connDef hconn
    rw [List.mem_singleton.1 hconn]
    exact ⟨by decide, by decide⟩
  · intro id hid
    rw [← Option.some.inj hid]
    decide

end Bridge

end HakoniwaBridge
