import HakoniwaBridge.Ownership
import HakoniwaBridge.Lib.Loop

/-!
# Building a bridge from its configuration

`build` of `bridge_builder.cpp`, from the decoded configuration on: the checks of the two
pointers and the reading of the file come before. The endpoint container is the list of its
endpoint ids. Each `for` loop of the source is a `forEach`; the host is kept when a loop ends with
an error, since the registrations made by then stay.

`built_of_build` says what a successful build yields: connections that satisfy `Wf`, all active,
at epoch 0, between endpoints of the container, and owning every callback that the build added.
-/

namespace HakoniwaBridge

open Lib

variable {ε : Type}

/-- Source: `endpoint_container->ref`. -/
def containerRef (container : List String) (id : String) : Option EndpointRef :=
  if id ∈ container then some (.container id) else none

namespace Builder

/-- Source: `bridge_builder.cpp`, `create_policy_instance`. -/
def createPolicyInstance (policyDef : TransferPolicy) : Except String Policy :=
  if policyDef.type = "immediate" then
    .ok (.immediate (.new (policyDef.atomic.getD false)))
  else if policyDef.type = "throttle" then
    match policyDef.intervalMs with
    | none => .error "BridgeLoader: throttle policy needs intervalMs"
    | some ms => .ok (.throttle { intervalMicros := intervalMicros ms })
  else if policyDef.type = "ticker" then
    match policyDef.intervalMs with
    | none => .error "BridgeLoader: ticker policy needs intervalMs"
    | some ms => .ok (.ticker { interval := intervalMicros ms })
  else .error ("BridgeLoader: Unknown transfer policy type: " ++ policyDef.type)

/-- Source: `build`, the body of the loop over the keys of a non-atomic entry. -/
def addSingle (E : Env ε) (policyDef : TransferPolicy) (src dst : EndpointRef)
    (key : BridgePduKey) (s : BridgeConnection × Host ε) :
    (BridgeConnection × Host ε) × Option String :=
  match createPolicyInstance policyDef with
  | .error message => (s, some message)
  | .ok policy =>
    let (policyRef, h₁) := s.2.newPolicy policy
    let (transfer, h₂) := newTransferPdu E key policyRef src dst h₁
    ((s.1.addTransferPdu transfer, h₂), none)

/-- Source: `build`, the branch for an atomic entry. The keys are registered with the policy
here, and once more by the constructor of the group. -/
def addGroup (E : Env ε) (keys : List BridgePduKey) (src dst : EndpointRef)
    (s : BridgeConnection × Host ε) : BridgeConnection × Host ε :=
  let policy :=
    keys.foldl (fun p key => p.addPduKey (resolveKey E src key)) (ImmediatePolicy.new true)
  let (policyRef, h₁) := s.2.newPolicy (.immediate policy)
  let (transfer, h₂) := newTransferAtomicPduGroup E keys policyRef src dst h₁
  (s.1.addTransferPdu transfer, h₂)

/-- Source: `build`, the body of the loop over `transferPdus` for one destination. -/
def addEntry (E : Env ε) (cfg : BridgeConfig) (src dst : EndpointRef) (entry : TransferPduConfig)
    (s : BridgeConnection × Host ε) : (BridgeConnection × Host ε) × Option String :=
  match cfg.transferPolicies.lookup entry.policyId with
  | none => (s, some ("BridgeLoader: Transfer policy not found: " ++ entry.policyId))
  | some policyDef =>
    match cfg.pduKeyGroups.lookup entry.pduKeyGroupId with
    | none => (s, some ("BridgeLoader: PduKeyGroup not found: " ++ entry.pduKeyGroupId))
    | some keys =>
      if policyDef.type = "immediate" ∧ policyDef.atomic.getD false = true then
        (addGroup E keys src dst s, none)
      else forEach (addSingle E policyDef src dst) keys s

/-- Source: `build`, the body of the loop over the destinations. -/
def addDestination (E : Env ε) (cfg : BridgeConfig) (container : List String) (src : EndpointRef)
    (entries : List TransferPduConfig) (dest : String) (s : BridgeConnection × Host ε) :
    (BridgeConnection × Host ε) × Option String :=
  match containerRef container dest with
  | none => (s, some ("BridgeLoader: Destination endpoint not found: " ++ dest))
  | some dst => forEach (addEntry E cfg src dst) entries s

/-- Source: `build`, the body of the first loop over `transferPdus`. -/
def registerKeyGroup (cfg : BridgeConfig) (connectionId : String) (entry : TransferPduConfig)
    (core : BridgeCore) : BridgeCore × Option String :=
  match cfg.pduKeyGroups.lookup entry.pduKeyGroupId with
  | none => (core, some ("BridgeLoader: PduKeyGroup not found: " ++ entry.pduKeyGroupId))
  | some keys =>
    (keys.foldl (fun core key =>
      core.registerConnectionTransferPduKey connectionId key.robotName key.pduName) core, none)

/-- Source: `build`, the body of the loop over the connections. -/
def addConnection (E : Env ε) (cfg : BridgeConfig) (nodeName : String) (container : List String)
    (connDef : Connection) (s : BridgeCore × Host ε) : (BridgeCore × Host ε) × Option String :=
  if connDef.nodeId = nodeName then
    match containerRef container connDef.source with
    | none => (s, some ("BridgeLoader: Source endpoint not found: " ++ connDef.source))
    | some src =>
      let connection : BridgeConnection :=
        { nodeId := connDef.nodeId, connectionId := connDef.id, srcEndpoint := some src
          epochValidation := connDef.epochValidation.getD false }
      match forEach (registerKeyGroup cfg connDef.id) connDef.transferPdus s.1 with
      | (core, some message) => ((core, s.2), some message)
      | (core, none) =>
        match forEach (addDestination E cfg container src connDef.transferPdus)
            connDef.destinations (connection, s.2) with
        | ((_, h), some message) => ((core, h), some message)
        | ((connection, h), none) => ((core.addConnection connection, h), none)
  else (s, none)

end Builder

/-- Source: `bridge_builder.cpp`, `build`. -/
def build (E : Env ε) (cfg : BridgeConfig) (nodeName : String) (container : List String)
    (h : Host ε) : Host ε × Except String BridgeCore :=
  match forEach (Builder.addConnection E cfg nodeName container) cfg.connections
      ({ nodeName := nodeName, endpointIds := container }, h) with
  | ((_, h'), some message) => (h', .error message)
  | ((core, h'), none) => (h', .ok core)

/-- A small configuration: on one node one connection `conn` from `src` to `dst`, for the given
keys and policy. -/
def BridgeConfig.small (policy : TransferPolicy) (keys : List BridgePduKey)
    (epochValidation : Bool) : BridgeConfig where
  transferPolicies := AList.singleton "policy" policy
  pduKeyGroups := AList.singleton "group" keys
  connections :=
    [{ id := "conn", nodeId := "node", source := "src", destinations := ["dst"]
       transferPdus := [⟨"group", "policy"⟩], epochValidation := some epochValidation }]

/-- The host of a process that has built nothing yet. -/
def Host.boot (e : ε) : Host ε where
  env := e
  registry := []
  policies := fun _ => .immediate (.new false)
  nextPolicy := 0
  nextTransfer := 0

/-! ## What a build yields -/

/-- A transfer as `build` makes it. -/
structure BuiltTransfer (h₀ : Host ε) (t : ITransferPdu) : Prop where
  active : t.isActive = true
  self_ge : h₀.nextTransfer ≤ t.self
  policy_ge : h₀.nextPolicy ≤ t.policy
  src : ∃ id, t.srcEndpoint = .container id
  dst : ∃ id, t.dstEndpoint = .container id

/-- Connections as `build` makes them on the host `h₀`, with the host `h` it leaves. -/
structure BuiltConnections (h₀ : Host ε) (cs : List BridgeConnection) (h : Host ε) : Prop where
  wf : Wf cs h
  «extends» : Host.Extends h₀ h
  env : h.env = h₀.env
  policies : ∀ p < h₀.nextPolicy, h.policies p = h₀.policies p
  active : ∀ c ∈ cs, c.isActive = true
  epoch : ∀ c ∈ cs, c.epoch = 0
  src : ∀ c ∈ cs, ∃ id, c.srcEndpoint = some (.container id)
  transfers : ∀ c ∈ cs, ∀ t ∈ c.transferPdus, BuiltTransfer h₀ t
  owned : ∀ reg ∈ h.registry, ∀ r, reg.callback = .transfer r →
    reg ∈ h₀.registry ∨ r ∈ cs.flatMap (·.refs)

namespace BuiltConnections

variable {h₀ h h' : Host ε} {cs : List BridgeConnection}

/-- Changing the last of several connections. -/
theorem modify_length_append (c : BridgeConnection) (f : BridgeConnection → BridgeConnection) :
    (cs ++ [c]).modify cs.length f = cs ++ [f c] := by
  induction cs with
  | nil => rfl
  | cons c' cs ih => simp [ih]

/-- The connection under construction takes over one more transfer. -/
theorem add {c : BridgeConnection} {t : ITransferPdu} (hb : BuiltConnections h₀ (cs ++ [c]) h)
    (hc : Created h t h') (hsrc : ∃ id, t.srcEndpoint = .container id)
    (hdst : ∃ id, t.dstEndpoint = .container id) :
    BuiltConnections h₀ (cs ++ [c.addTransferPdu t]) h' := by
  have hlen : cs.length < (cs ++ [c]).length := by simp
  have hwf := hb.wf.add hlen hc
  rw [modify_length_append] at hwf
  have hrefs : (cs ++ [c.addTransferPdu t]).flatMap (·.refs) =
      (cs ++ [c]).flatMap (·.refs) ++ [t.self] := by
    simp
  have hnext := hb.extends.nextTransfer
  have hself := hc.self
  -- a property of all connections that the new transfer does not touch
  have hkeep : ∀ P : BridgeConnection → Prop, (∀ c' ∈ cs ++ [c], P c') →
      (P c → P (c.addTransferPdu t)) → ∀ c' ∈ cs ++ [c.addTransferPdu t], P c' := by
    intro P hP hlast c' hc'
    rcases List.mem_append.1 hc' with hc' | hc'
    · exact hP c' (List.mem_append_left _ hc')
    · rw [List.mem_singleton] at hc'
      subst hc'
      exact hlast (hP c (List.mem_append_right _ List.mem_cons_self))
  refine ⟨hwf, hb.extends.trans hc.extends, hc.env.trans hb.env, fun p hp => ?_,
    hkeep _ hb.active id, hkeep _ hb.epoch id, hkeep _ hb.src id,
    hkeep _ hb.transfers fun hold t' ht' => ?_, fun reg hreg r hr => ?_⟩
  · rw [hc.policies p (hp.trans_le hb.extends.nextPolicy), hb.policies p hp]
  · rcases List.mem_append.1 ht' with ht' | ht'
    · exact hold t' ht'
    · rw [List.mem_singleton] at ht'
      subst ht'
      exact ⟨hc.active, hself ▸ hnext, hb.extends.nextPolicy.trans hc.policy_ge, hsrc, hdst⟩
  · rw [hrefs]
    rcases hc.fresh reg hreg with hold | hnew
    · rcases hb.owned reg hold r hr with hold | hmem
      · exact Or.inl hold
      · exact Or.inr (List.mem_append_left _ hmem)
    · exact Or.inr (List.mem_append_right _ (List.mem_singleton.2 (hnew r hr).1))

/-- A connection that owns nothing yet. -/
theorem append (hb : BuiltConnections h₀ cs h) (c : BridgeConnection)
    (hempty : c.transferPdus = []) (hactive : c.isActive = true) (hepoch : c.epoch = 0)
    (hsrc : ∃ id, c.srcEndpoint = some (.container id)) : BuiltConnections h₀ (cs ++ [c]) h := by
  have hmem : ∀ P : BridgeConnection → Prop, (∀ c' ∈ cs, P c') → P c → ∀ c' ∈ cs ++ [c], P c' := by
    intro P hP hlast c' hc'
    rcases List.mem_append.1 hc' with hc' | hc'
    · exact hP c' hc'
    · rw [List.mem_singleton] at hc'
      exact hc' ▸ hlast
  refine ⟨hb.wf.append_empty c hempty, hb.extends, hb.env, hb.policies, hmem _ hb.active hactive,
    hmem _ hb.epoch hepoch, hmem _ hb.src hsrc,
    hmem _ hb.transfers fun t ht => absurd (hempty ▸ ht) List.not_mem_nil,
    fun reg hreg r hr => (hb.owned reg hreg r hr).imp_right fun hr => ?_⟩
  rw [List.flatMap_append]
  exact List.mem_append_left _ hr

end BuiltConnections

namespace Builder

variable {E : Env ε} {cfg : BridgeConfig} {container : List String} {h₀ : Host ε}
  {cs : List BridgeConnection}

/-- A reference into the container is the endpoint of that id. -/
theorem eq_of_containerRef {id : String} {ep : EndpointRef}
    (h : containerRef container id = some ep) : ep = .container id := by
  unfold containerRef at h
  split_ifs at h
  exact (Option.some.inj h).symm

theorem exists_of_containerRef {id : String} {ep : EndpointRef}
    (h : containerRef container id = some ep) : ∃ id', ep = .container id' :=
  ⟨id, eq_of_containerRef h⟩

/-- The step for a single transfer. -/
theorem built_addSingle {policyDef : TransferPolicy} {src dst : EndpointRef} {key : BridgePduKey}
    {s s' : BridgeConnection × Host ε} (hb : BuiltConnections h₀ (cs ++ [s.1]) s.2)
    (hsrc : ∃ id, src = .container id) (hdst : ∃ id, dst = .container id)
    (h : addSingle E policyDef src dst key s = (s', none)) :
    BuiltConnections h₀ (cs ++ [s'.1]) s'.2 := by
  unfold addSingle at h
  split at h
  · simp at h
  · next policy _ =>
    simp only [Prod.mk.injEq, and_true] at h
    subst h
    exact hb.add (created_newTransferPdu E key policy src dst s.2) hsrc hdst

/-- The step for an entry: a transfer for its group, or one for each PDU. -/
theorem built_addEntry {src dst : EndpointRef} {entry : TransferPduConfig}
    {s s' : BridgeConnection × Host ε} (hb : BuiltConnections h₀ (cs ++ [s.1]) s.2)
    (hsrc : ∃ id, src = .container id) (hdst : ∃ id, dst = .container id)
    (h : addEntry E cfg src dst entry s = (s', none)) :
    BuiltConnections h₀ (cs ++ [s'.1]) s'.2 := by
  unfold addEntry at h
  split at h
  · simp at h
  · split at h
    · simp at h
    · next keys _ =>
      split_ifs at h
      · simp only [Prod.mk.injEq, and_true] at h
        subst h
        exact hb.add (created_newTransferAtomicPduGroup E keys _ src dst s.2) hsrc hdst
      · exact forEach_ok (fun s => BuiltConnections h₀ (cs ++ [s.1]) s.2)
          (fun key _ s₁ s₂ hb₁ h₁ => built_addSingle hb₁ hsrc hdst h₁) hb h

/-- The step for a destination, with all entries. -/
theorem built_addDestination {src : EndpointRef} {entries : List TransferPduConfig}
    {dest : String} {s s' : BridgeConnection × Host ε}
    (hb : BuiltConnections h₀ (cs ++ [s.1]) s.2) (hsrc : ∃ id, src = .container id)
    (h : addDestination E cfg container src entries dest s = (s', none)) :
    BuiltConnections h₀ (cs ++ [s'.1]) s'.2 := by
  unfold addDestination at h
  split at h
  · simp at h
  · next dst hdst =>
    exact forEach_ok (fun s => BuiltConnections h₀ (cs ++ [s.1]) s.2)
      (fun entry _ s₁ s₂ hb₁ h₁ => built_addEntry hb₁ hsrc (exists_of_containerRef hdst) h₁) hb h

/-- The table of the PDUs is apart from the connections. -/
theorem registerConnectionTransferPduKey_core (core : BridgeCore) (id robot pduName : String) :
    (core.registerConnectionTransferPduKey id robot pduName).connections = core.connections ∧
      (core.registerConnectionTransferPduKey id robot pduName).isRunning = core.isRunning := by
  unfold BridgeCore.registerConnectionTransferPduKey
  split_ifs <;> exact ⟨rfl, rfl⟩

/-- Registering a key group touches the table of transferable PDUs only. -/
theorem registerKeyGroup_core {connectionId : String} {entry : TransferPduConfig}
    {core core' : BridgeCore} (h : registerKeyGroup cfg connectionId entry core = (core', none)) :
    core'.connections = core.connections ∧ core'.isRunning = core.isRunning := by
  unfold registerKeyGroup at h
  split at h
  · simp at h
  · next keys hkeys =>
    clear hkeys
    simp only [Prod.mk.injEq, and_true] at h
    subst h
    induction keys generalizing core with
    | nil => exact ⟨rfl, rfl⟩
    | cons key keys ih =>
      have hstep :=
        registerConnectionTransferPduKey_core core connectionId key.robotName key.pduName
      rw [List.foldl_cons]
      exact ⟨ih.1.trans hstep.1, ih.2.trans hstep.2⟩

/-- The step for a connection, with all destinations. -/
theorem built_addConnection {nodeName : String} {connDef : Connection} {s s' : BridgeCore × Host ε}
    (hb : BuiltConnections h₀ s.1.connections s.2 ∧ s.1.isRunning = false)
    (h : addConnection E cfg nodeName container connDef s = (s', none)) :
    BuiltConnections h₀ s'.1.connections s'.2 ∧ s'.1.isRunning = false := by
  unfold addConnection at h
  split_ifs at h with hnode
  · split at h
    · simp at h
    · next src hsrc =>
      dsimp only at h
      split at h
      · simp at h
      · next core hcore =>
        -- the first loop touches the table of transferable PDUs only
        have hkeep : core.connections = s.1.connections ∧ core.isRunning = s.1.isRunning :=
          forEach_ok (fun core' => core'.connections = s.1.connections ∧
              core'.isRunning = s.1.isRunning)
            (fun entry _ c₁ c₂ hc₁ h₁ =>
              ⟨(registerKeyGroup_core h₁).1.trans hc₁.1, (registerKeyGroup_core h₁).2.trans hc₁.2⟩)
            ⟨rfl, rfl⟩ hcore
        split at h
        · simp at h
        · next connection h₁ hconn =>
          simp only [Prod.mk.injEq, and_true] at h
          subst h
          obtain ⟨id, rfl⟩ := exists_of_containerRef hsrc
          have hstart := hb.1.append
            { nodeId := connDef.nodeId, connectionId := connDef.id
              srcEndpoint := some (.container id)
              epochValidation := connDef.epochValidation.getD false } rfl rfl rfl ⟨id, rfl⟩
          have hdone := forEach_ok
            (fun p => BuiltConnections h₀ (s.1.connections ++ [p.1]) p.2)
            (fun dest _ s₁ s₂ hb₁ h₁ => built_addDestination hb₁ ⟨id, rfl⟩ h₁) hstart hconn
          refine ⟨?_, hkeep.2.trans hb.2⟩
          simp only [BridgeCore.addConnection, hkeep.1]
          exact hdone
  · simp only [Prod.mk.injEq, and_true] at h
    exact h ▸ hb

end Builder

/-- A successful build on a host whose callbacks are below its counter. -/
theorem built_of_build {E : Env ε} {cfg : BridgeConfig} {nodeName : String}
    {container : List String} {h₀ h : Host ε} {core : BridgeCore}
    (hreg : ∀ reg ∈ h₀.registry, ∀ r, reg.callback = .transfer r → r < h₀.nextTransfer)
    (hbuild : build E cfg nodeName container h₀ = (h, .ok core)) :
    BuiltConnections h₀ core.connections h ∧ core.isRunning = false := by
  unfold build at hbuild
  split at hbuild
  · simp at hbuild
  · next core' h' heq =>
    simp only [Prod.mk.injEq, Except.ok.injEq] at hbuild
    obtain ⟨rfl, rfl⟩ := hbuild
    have hstart : BuiltConnections h₀ [] h₀ :=
      ⟨Wf.nil hreg, Host.Extends.refl h₀, rfl, fun _ _ => rfl, by simp, by simp, by simp,
        by simp, fun reg hreg _ _ => Or.inl hreg⟩
    exact forEach_ok (fun s : BridgeCore × Host ε =>
        BuiltConnections h₀ s.1.connections s.2 ∧ s.1.isRunning = false)
      (fun connDef _ s₁ s₂ hb h₁ => Builder.built_addConnection hb h₁) ⟨hstart, rfl⟩ heq

/-- A build in a fresh process. -/
theorem built_of_boot {E : Env ε} {cfg : BridgeConfig} {nodeName : String}
    {container : List String} {e : ε} {h : Host ε} {core : BridgeCore}
    (hbuild : build E cfg nodeName container (Host.boot e) = (h, .ok core)) :
    BuiltConnections (Host.boot e) core.connections h ∧ core.isRunning = false :=
  built_of_build (fun _ hreg => absurd hreg List.not_mem_nil) hbuild

end HakoniwaBridge
