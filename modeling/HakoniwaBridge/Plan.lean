import HakoniwaBridge.Builder
import Mathlib.Data.List.Forall2

/-!
# What a build makes of a configuration

The transfers that a configuration asks for, read off the configuration alone, and that a
successful build makes exactly these.

* `TransferPlan`, `planConnection` — for each destination and each entry of `transferPdus` one
  transfer per key of the group, or one group if the policy is atomic.
* `Assembled E h ts ps h'` — the transfers `ts` were made one after another between the hosts `h`
  and `h'`, according to the plans `ps`, each with a policy object of its own; it composes
  (`Assembled.append`).
* `assembled_of_build` — the connections of a built core, in the order of the configuration.
-/

namespace HakoniwaBridge

open Lib

variable {ε : Type} {E : Env ε}

/-- The keys that one transfer moves. -/
inductive PlannedKeys
  | single (key : BridgePduKey)
  | group (keys : List BridgePduKey)

/-- A transfer that a configuration asks for. -/
structure TransferPlan where
  src : EndpointRef
  dst : EndpointRef
  policyDef : TransferPolicy
  keys : PlannedKeys

namespace TransferPlan

/-- The keys of the plan on its source. -/
def resolvedKeys (E : Env ε) (p : TransferPlan) : List PduResolvedKey :=
  match p.keys with
  | .single key => [resolveKey E p.src key]
  | .group keys => keys.map (resolveKey E p.src)

/-- The part of the transfer that depends on its class. -/
def body (E : Env ε) (p : TransferPlan) : TransferBody :=
  match p.keys with
  | .single key => .transferPdu key (resolveKey E p.src key)
  | .group keys => .transferAtomicPduGroup (keys.map (resolveKey E p.src))

/-- A policy object of its own, which knows the keys and has seen nothing. -/
def freshPolicy (E : Env ε) (p : TransferPlan) : Except String Policy :=
  (Builder.createPolicyInstance p.policyDef).map fun policy =>
    (p.resolvedKeys E).foldl (fun q key => q.addPduKey key) policy

end TransferPlan

/-- Registering keys changes no class. -/
theorem isCyclicTrigger_foldl_addPduKey (keys : List PduResolvedKey) (policy : Policy) :
    (keys.foldl (fun q key => q.addPduKey key) policy).isCyclicTrigger =
      policy.isCyclicTrigger := by
  induction keys generalizing policy with
  | nil => rfl
  | cons key keys ih => exact (ih _).trans (Policy.isCyclicTrigger_addPduKey key policy)

/-- Tickers are the cyclic policies. -/
theorem TransferPlan.isCyclicTrigger_freshPolicy {p : TransferPlan} {policy : Policy}
    (h : p.freshPolicy E = .ok policy) :
    policy.isCyclicTrigger = decide (p.policyDef.type = "ticker") := by
  unfold freshPolicy at h
  cases hcreate : Builder.createPolicyInstance p.policyDef with
  | error message =>
    rw [hcreate] at h
    exact absurd h (by simp [Except.map])
  | ok base =>
    rw [hcreate] at h
    obtain rfl := Except.ok.inj h
    rw [isCyclicTrigger_foldl_addPduKey]
    unfold Builder.createPolicyInstance at hcreate
    split_ifs at hcreate with himmediate hthrottle hticker
    · rw [← Except.ok.inj hcreate, himmediate]
      rfl
    · cases hms : p.policyDef.intervalMs <;> rw [hms] at hcreate
      · exact absurd hcreate (by simp)
      · rw [← Except.ok.inj hcreate, hthrottle]
        rfl
    · cases hms : p.policyDef.intervalMs <;> rw [hms] at hcreate
      · exact absurd hcreate (by simp)
      · rw [← Except.ok.inj hcreate, hticker]
        rfl

/-- The transfers of one entry for one destination. -/
def planEntry (cfg : BridgeConfig) (src dst : EndpointRef) (entry : TransferPduConfig) :
    List TransferPlan :=
  match cfg.transferPolicies.lookup entry.policyId, cfg.pduKeyGroups.lookup entry.pduKeyGroupId with
  | some policyDef, some keys =>
    if policyDef.type = "immediate" ∧ policyDef.atomic.getD false = true then
      [⟨src, dst, policyDef, .group keys⟩]
    else keys.map fun key => ⟨src, dst, policyDef, .single key⟩
  | _, _ => []

/-- The transfers of a connection: destination by destination, entry by entry. -/
def planConnection (cfg : BridgeConfig) (connDef : Connection) : List TransferPlan :=
  connDef.destinations.flatMap fun dest =>
    connDef.transferPdus.flatMap
      (planEntry cfg (.container connDef.source) (.container dest))

/-! ## Transfers made according to a plan -/

/-- The callbacks that the constructor of a transfer registers. -/
def ITransferPdu.registrations (h : Host ε) (t : ITransferPdu) : List Registration :=
  match t.body with
  | .transferPdu _ key =>
    [⟨t.srcEndpoint, key,
      if (h.policies t.policy).isCyclicTrigger then .silent else .transfer t.self⟩]
  | .transferAtomicPduGroup keys => keys.map fun key => ⟨t.srcEndpoint, key, .transfer t.self⟩

/-- A transfer as its plan wants it, with a fresh policy object. -/
structure Realizes (E : Env ε) (h : Host ε) (t : ITransferPdu) (p : TransferPlan) : Prop where
  src : t.srcEndpoint = p.src
  dst : t.dstEndpoint = p.dst
  active : t.isActive = true
  body : t.body = p.body E
  policy : p.freshPolicy E = .ok (h.policies t.policy)
  group : ∀ keys, p.keys = .group keys → p.policyDef.type = "immediate"

/-- It is a matter of the policy object alone that the host takes part in. -/
theorem Realizes.congr {h h' : Host ε} {t : ITransferPdu} {p : TransferPlan}
    (hr : Realizes E h t p) (hpolicy : h'.policies t.policy = h.policies t.policy) :
    Realizes E h' t p :=
  ⟨hr.src, hr.dst, hr.active, hr.body, hr.policy.trans (by rw [hpolicy]), hr.group⟩

theorem ITransferPdu.registrations_congr {h h' : Host ε} {t : ITransferPdu}
    (hclass : (h'.policies t.policy).isCyclicTrigger = (h.policies t.policy).isCyclicTrigger) :
    t.registrations h' = t.registrations h := by
  unfold registrations
  rw [hclass]

/-- Between two hosts transfers were made according to plans. -/
structure Assembled (E : Env ε) (h : Host ε) (ts : List ITransferPdu) (ps : List TransferPlan)
    (h' : Host ε) : Prop where
  realizes : List.Forall₂ (Realizes E h') ts ps
  registry : h'.registry = h.registry ++ ts.flatMap (·.registrations h')
  policies : ∀ q < h.nextPolicy, h'.policies q = h.policies q
  nextPolicy : h.nextPolicy ≤ h'.nextPolicy
  bounds : ∀ t ∈ ts, h.nextPolicy ≤ t.policy ∧ t.policy < h'.nextPolicy
  nodup : (ts.map (·.policy)).Nodup

namespace Assembled

variable {h h₁ h₂ : Host ε} {ts us : List ITransferPdu} {ps qs : List TransferPlan}

theorem nil (h : Host ε) : Assembled E h [] [] h :=
  ⟨.nil, (List.append_nil _).symm, fun _ _ => rfl, le_rfl, by simp, List.nodup_nil⟩

/-- Making more transfers leaves those that were made as they are. -/
theorem kept (hts : Assembled E h ts ps h₁) (hus : Assembled E h₁ us qs h₂) :
    List.Forall₂ (Realizes E h₂) ts ps ∧
      ts.flatMap (·.registrations h₂) = ts.flatMap (·.registrations h₁) := by
  have hpolicy : ∀ t ∈ ts, h₂.policies t.policy = h₁.policies t.policy :=
    fun t ht => hus.policies t.policy (hts.bounds t ht).2
  constructor
  · have hboth := (List.forall₂_and_left ts ps).2 ⟨hpolicy, hts.realizes⟩
    exact hboth.imp fun t p ⟨heq, hr⟩ => hr.congr heq
  · refine List.flatMap_congr fun t ht => ITransferPdu.registrations_congr ?_
    rw [hpolicy t ht]

/-- **Composition.** First some transfers, then more. -/
theorem append (hts : Assembled E h ts ps h₁) (hus : Assembled E h₁ us qs h₂) :
    Assembled E h (ts ++ us) (ps ++ qs) h₂ := by
  obtain ⟨hrealizes, hregistrations⟩ := hts.kept hus
  refine ⟨List.rel_append hrealizes hus.realizes, ?_, fun q hq => ?_,
    hts.nextPolicy.trans hus.nextPolicy, fun t ht => ?_, ?_⟩
  · rw [hus.registry, hts.registry, List.append_assoc, List.flatMap_append, hregistrations]
  · rw [hus.policies q (hq.trans_le hts.nextPolicy), hts.policies q hq]
  · rcases List.mem_append.1 ht with ht | ht
    · exact ⟨(hts.bounds t ht).1, (hts.bounds t ht).2.trans_le hus.nextPolicy⟩
    · exact ⟨hts.nextPolicy.trans (hus.bounds t ht).1, (hus.bounds t ht).2⟩
  · rw [List.map_append]
    refine List.nodup_append.2 ⟨hts.nodup, hus.nodup, fun x hx y hy => ?_⟩
    obtain ⟨t, ht, rfl⟩ := List.mem_map.1 hx
    obtain ⟨u, hu, rfl⟩ := List.mem_map.1 hy
    exact Nat.ne_of_lt ((hts.bounds t ht).2.trans_le (hus.bounds u hu).1)

end Assembled

/-! ## The loops of a build -/

/-- A connection took over the transfers of the plans, which were made in between. -/
structure Grown (E : Env ε) (s : BridgeConnection × Host ε) (ps : List TransferPlan)
    (s' : BridgeConnection × Host ε) : Prop where
  header : s'.1.header = s.1.header
  made : ∃ ts, s'.1.transferPdus = s.1.transferPdus ++ ts ∧ Assembled E s.2 ts ps s'.2

namespace Grown

variable {s s₁ s₂ : BridgeConnection × Host ε} {ps qs : List TransferPlan}

theorem refl (s : BridgeConnection × Host ε) : Grown E s [] s :=
  ⟨rfl, [], (List.append_nil _).symm, Assembled.nil s.2⟩

theorem trans (h₁ : Grown E s ps s₁) (h₂ : Grown E s₁ qs s₂) : Grown E s (ps ++ qs) s₂ := by
  obtain ⟨ts, hts, hmade⟩ := h₁.made
  obtain ⟨us, hus, hmore⟩ := h₂.made
  exact ⟨h₂.header.trans h₁.header, ts ++ us, by rw [hus, hts, List.append_assoc],
    hmade.append hmore⟩

/-- A loop of which each turn makes the transfers of its element. -/
theorem loop {α : Type} {f : α → BridgeConnection × Host ε →
    (BridgeConnection × Host ε) × Option String} {plan : α → List TransferPlan} {xs : List α}
    (hf : ∀ x ∈ xs, ∀ s s', f x s = (s', none) → Grown E s (plan x) s')
    (h : forEach f xs s = (s₁, none)) : Grown E s (xs.flatMap plan) s₁ := by
  refine forEach_ok_done (fun done s' => Grown E s (done.flatMap plan) s')
    (fun done x hx s₁ s₂ hs₁ hturn => ?_) (refl s) h
  have hstep := hs₁.trans (hf x hx s₁ s₂ hturn)
  rw [List.flatMap_append, List.flatMap_singleton]
  exact hstep

end Grown

namespace Builder

variable {cfg : BridgeConfig} {container : List String} {src dst : EndpointRef}
  {s s' : BridgeConnection × Host ε}

theorem grown_addSingle {policyDef : TransferPolicy} {key : BridgePduKey}
    (h : addSingle E policyDef src dst key s = (s', none)) :
    Grown E s [⟨src, dst, policyDef, .single key⟩] s' := by
  unfold addSingle at h
  split at h
  · simp at h
  · next policy hpolicy =>
    simp only [Prod.mk.injEq, and_true] at h
    subst h
    refine ⟨rfl, _, rfl, ⟨?_, ?_, fun q hq => ?_, Nat.le_succ _, ?_, List.nodup_singleton _⟩⟩
    · refine .cons ⟨rfl, rfl, rfl, rfl, ?_, fun keys hkeys => by simp at hkeys⟩ .nil
      simp [TransferPlan.freshPolicy, hpolicy, TransferPlan.resolvedKeys, newTransferPdu,
        Host.newPolicy, ITransferPdu.setEpoch, ITransferPdu.setEpochValidation, Except.map]
    · simp [ITransferPdu.registrations, newTransferPdu, Host.newPolicy, ITransferPdu.setEpoch,
        ITransferPdu.setEpochValidation]
    · have hne : q ≠ s.2.nextPolicy := Nat.ne_of_lt hq
      simp [newTransferPdu, Host.newPolicy, Function.update_of_ne hne]
    · intro t ht
      rw [List.mem_singleton.1 ht]
      exact ⟨le_rfl, Nat.lt_succ_self _⟩

/-- The policy of a group knows its keys twice, which is as good as once. -/
theorem groupPolicy_eq (keys : List BridgePduKey) :
    (keys.map (resolveKey E src)).foldl (fun q key => q.addPduKey key)
        (Policy.immediate (keys.foldl (fun p key => p.addPduKey (resolveKey E src key))
          (ImmediatePolicy.new true))) =
      (keys.map (resolveKey E src)).foldl (fun q key => q.addPduKey key)
        (.immediate (ImmediatePolicy.new true)) := by
  have hmap : keys.foldl (fun p key => p.addPduKey (resolveKey E src key))
      (ImmediatePolicy.new true) =
      (keys.map (resolveKey E src)).foldl (fun p key => p.addPduKey key)
        (ImmediatePolicy.new true) := List.foldl_map.symm
  obtain ⟨-, hkeys, harrived⟩ := ImmediatePolicy.foldl_addPduKey
    (keys.map (resolveKey E src)) (ImmediatePolicy.new true)
  rw [Policy.foldl_addPduKey, Policy.foldl_addPduKey, hmap,
    ImmediatePolicy.foldl_addPduKey_of_known (fun key hkey => (hkeys key).2 (.inl hkey))]
  exact fun k hk => Barrier.not_arrived_empty k (harrived k hk)

theorem grown_addGroup {policyDef : TransferPolicy} {keys : List BridgePduKey}
    (hatomic : policyDef.type = "immediate" ∧ policyDef.atomic.getD false = true) :
    Grown E s [⟨src, dst, policyDef, .group keys⟩] (addGroup E keys src dst s) := by
  refine ⟨rfl, _, rfl, ⟨?_, ?_, fun q hq => ?_, Nat.le_succ _, ?_, List.nodup_singleton _⟩⟩
  · refine .cons ⟨rfl, rfl, rfl, rfl, ?_, fun _ _ => hatomic.1⟩ .nil
    have hpolicy : createPolicyInstance policyDef = .ok (.immediate (.new true)) := by
      unfold createPolicyInstance
      rw [if_pos hatomic.1, hatomic.2]
    simp [TransferPlan.freshPolicy, hpolicy, TransferPlan.resolvedKeys, addGroup,
      newTransferAtomicPduGroup, Host.newPolicy, ITransferPdu.setEpoch,
      ITransferPdu.setEpochValidation, Except.map, groupPolicy_eq]
  · simp [ITransferPdu.registrations, addGroup, newTransferAtomicPduGroup, Host.newPolicy,
      ITransferPdu.setEpoch, ITransferPdu.setEpochValidation]
  · have hne : q ≠ s.2.nextPolicy := Nat.ne_of_lt hq
    simp [addGroup, newTransferAtomicPduGroup, Host.newPolicy, Function.update_of_ne hne]
  · intro t ht
    rw [List.mem_singleton.1 ht]
    exact ⟨le_rfl, Nat.lt_succ_self _⟩

theorem grown_addEntry {entry : TransferPduConfig}
    (h : addEntry E cfg src dst entry s = (s', none)) :
    Grown E s (planEntry cfg src dst entry) s' := by
  unfold addEntry at h
  unfold planEntry
  split at h
  · simp at h
  · next policyDef hpolicy =>
    split at h
    · simp at h
    · next keys hkeys =>
      simp only [hpolicy, hkeys]
      split_ifs at h ⊢ with hatomic
      · simp only [Prod.mk.injEq, and_true] at h
        exact h ▸ grown_addGroup hatomic
      · have hloop := Grown.loop (fun key _ s s' hturn => grown_addSingle hturn) h
        rw [List.map_eq_flatMap]
        exact hloop

theorem grown_addDestination {entries : List TransferPduConfig} {dest : String}
    (h : addDestination E cfg container src entries dest s = (s', none)) :
    Grown E s (entries.flatMap (planEntry cfg src (.container dest))) s' := by
  unfold addDestination at h
  split at h
  · simp at h
  · next dst hdst =>
    obtain rfl := eq_of_containerRef hdst
    exact Grown.loop (fun entry _ s s' hturn => grown_addEntry hturn) h

end Builder

/-! ## A whole build -/

/-- A connection as its definition wants it. -/
structure RealizesConnection (E : Env ε) (cfg : BridgeConfig) (h : Host ε) (c : BridgeConnection)
    (connDef : Connection) : Prop where
  header : c.header = (connDef.nodeId, connDef.id, some (.container connDef.source),
    connDef.epochValidation.getD false)
  transfers : List.Forall₂ (Realizes E h) c.transferPdus (planConnection cfg connDef)

/-- The connections of a core were made according to the definitions `connDefs`. -/
structure AssembledCore (E : Env ε) (cfg : BridgeConfig) (h₀ : Host ε)
    (cs : List BridgeConnection) (connDefs : List Connection) (h : Host ε) : Prop where
  connections : List.Forall₂ (RealizesConnection E cfg h) cs connDefs
  assembled : Assembled E h₀ (cs.flatMap (·.transferPdus)) (connDefs.flatMap (planConnection cfg))
    h

theorem AssembledCore.addConnection {cfg : BridgeConfig} {h₀ h h' : Host ε}
    {cs : List BridgeConnection} {connDefs : List Connection} {c : BridgeConnection}
    {connDef : Connection} (hcs : AssembledCore E cfg h₀ cs connDefs h)
    (hheader : c.header = (connDef.nodeId, connDef.id, some (.container connDef.source),
      connDef.epochValidation.getD false))
    (hmade : Assembled E h c.transferPdus (planConnection cfg connDef) h') :
    AssembledCore E cfg h₀ (cs ++ [c]) (connDefs ++ [connDef]) h' := by
  constructor
  · refine List.rel_append ?_ (.cons ⟨hheader, hmade.realizes⟩ .nil)
    have hbounds : ∀ c' ∈ cs, ∀ t ∈ c'.transferPdus, h'.policies t.policy = h.policies t.policy :=
      fun c' hc' t ht =>
        hmade.policies t.policy (hcs.assembled.bounds t (List.mem_flatMap.2 ⟨c', hc', ht⟩)).2
    apply ((List.forall₂_and_left cs connDefs).2 ⟨hbounds, hcs.connections⟩).imp
    rintro c' connDef' ⟨heq, hc'⟩
    refine ⟨hc'.header, ((List.forall₂_and_left _ _).2 ⟨heq, hc'.transfers⟩).imp ?_⟩
    rintro t p ⟨hpolicy, hr⟩
    exact hr.congr hpolicy
  · rw [List.flatMap_append, List.flatMap_append, List.flatMap_singleton, List.flatMap_singleton]
    exact hcs.assembled.append hmade

namespace Builder

variable {cfg : BridgeConfig} {nodeName : String} {container : List String} {h₀ : Host ε}

theorem assembled_addConnection {connDefs : List Connection} {connDef : Connection}
    {s s' : BridgeCore × Host ε}
    (hs : AssembledCore E cfg h₀ s.1.connections
      (connDefs.filter fun connDef => connDef.nodeId = nodeName) s.2)
    (h : addConnection E cfg nodeName container connDef s = (s', none)) :
    AssembledCore E cfg h₀ s'.1.connections
      ((connDefs ++ [connDef]).filter fun connDef => connDef.nodeId = nodeName) s'.2 := by
  unfold addConnection at h
  split_ifs at h with hnode
  · split at h
    · simp at h
    · next src hsrc =>
      obtain rfl := eq_of_containerRef hsrc
      dsimp only at h
      split at h
      · simp at h
      · next core hcore =>
        -- the first loop touches the table of transferable PDUs only
        have hkeep : core.connections = s.1.connections :=
          forEach_ok (fun core' => core'.connections = s.1.connections)
            (fun entry _ c₁ c₂ hc₁ h₁ => (registerKeyGroup_core h₁).1.trans hc₁) rfl hcore
        split at h
        · simp at h
        · next connection h₁ hconn =>
          simp only [Prod.mk.injEq, and_true] at h
          subst h
          have hgrown := Grown.loop (fun dest _ s s' hturn => grown_addDestination hturn) hconn
          obtain ⟨ts, hts, hmade⟩ := hgrown.made
          rw [List.filter_append, List.filter_singleton, decide_eq_true hnode]
          simp only [BridgeCore.addConnection, hkeep]
          apply hs.addConnection hgrown.header
          rw [hts]
          exact hmade
  · simp only [Prod.mk.injEq, and_true] at h
    rw [List.filter_append, List.filter_singleton, decide_eq_false hnode, cond_false,
      List.append_nil]
    exact h ▸ hs

end Builder

/-- **What a build makes.** The connections of a built core are those of the node, in the order of
the configuration, each with the transfers that its definition asks for. -/
theorem assembled_of_build {cfg : BridgeConfig} {nodeName : String} {container : List String}
    {h₀ h : Host ε} {core : BridgeCore}
    (hbuild : build E cfg nodeName container h₀ = (h, .ok core)) :
    AssembledCore E cfg h₀ core.connections
      (cfg.connections.filter fun connDef => connDef.nodeId = nodeName) h := by
  unfold build at hbuild
  split at hbuild
  · simp at hbuild
  · next core' h' heq =>
    simp only [Prod.mk.injEq, Except.ok.injEq] at hbuild
    obtain ⟨rfl, rfl⟩ := hbuild
    exact forEach_ok_done (fun done (s : BridgeCore × Host ε) =>
        AssembledCore E cfg h₀ s.1.connections
          (done.filter fun connDef => connDef.nodeId = nodeName) s.2)
      (fun done connDef _ s s' hs hturn => Builder.assembled_addConnection hs hturn)
      ⟨.nil, Assembled.nil h₀⟩ heq

/-! ## Reading lists off each other -/

/-- An element of the left list has a partner in the right list. -/
theorem exists_of_forall₂ {α β : Type} {R : α → β → Prop} {xs : List α} {ys : List β}
    (h : List.Forall₂ R xs ys) {x : α} (hx : x ∈ xs) : ∃ y ∈ ys, R x y := by
  induction h with
  | nil => exact absurd hx List.not_mem_nil
  | @cons a b as bs hab _ ih =>
    rcases List.mem_cons.1 hx with rfl | hx
    · exact ⟨b, List.mem_cons_self, hab⟩
    · obtain ⟨y, hy, hxy⟩ := ih hx
      exact ⟨y, List.mem_cons_of_mem _ hy, hxy⟩

/-- A list of which one element alone contributes. -/
theorem flatMap_of_only {α β : Type} {xs : List α} (hnd : xs.Nodup) {x : α} (hx : x ∈ xs)
    {f : α → List β} (h : ∀ y ∈ xs, y ≠ x → f y = []) : xs.flatMap f = f x := by
  obtain ⟨as, bs, rfl⟩ := List.append_of_mem hx
  have hne : ∀ y ∈ as ++ bs, y ≠ x := by
    have hmid := List.nodup_middle.1 hnd
    exact fun y hy heq => (List.nodup_cons.1 hmid).1 (heq ▸ hy)
  have has : as.flatMap f = [] := List.flatMap_eq_nil_iff.2 fun y hy =>
    h y (List.mem_append_left _ hy) (hne y (List.mem_append_left _ hy))
  have hbs : bs.flatMap f = [] := List.flatMap_eq_nil_iff.2 fun y hy =>
    h y (List.mem_append_right _ (List.mem_cons_of_mem _ hy)) (hne y (List.mem_append_right _ hy))
  rw [List.flatMap_append, List.flatMap_cons, has, hbs, List.nil_append, List.append_nil]

end HakoniwaBridge
