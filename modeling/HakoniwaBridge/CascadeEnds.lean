import HakoniwaBridge.Cascade

/-!
# Cascades that end

Which ways a PDU can take is read off the configuration, and off the transfers that were added
after the build.

* `Bridge.NestedRun` — a run whose receptions may be cascades.
* `Bridge.Descends b₀ b` — the invariant of a run that began in `b₀`: the transfers that `b₀` made
  are still on their ways.
* `BridgeConfig.Leads` — a planned event-driven transfer leads from a key of its source to a key of
  its local destination; `Descends.ways`: nothing but such transfers, and those added later, leads
  anywhere.
* `cascade_ends` — at any moment of a run, the cascade of a PDU ends if no cycle can be reached
  from where it was received.

A build does not look for cycles: the cascades of a connection that leads back to its own source
have no end (`cascade_never_ends`).
-/

namespace HakoniwaBridge

open Lib Relation Cascade

variable {ε : Type} {E : Env ε}

/-! ## The ways of the transfers -/

/-- The same object, with the same endpoints and keys. -/
structure ITransferPdu.SameWay (t t₀ : ITransferPdu) : Prop where
  self : t.self = t₀.self
  src : t.srcEndpoint = t₀.srcEndpoint
  dst : t.dstEndpoint = t₀.dstEndpoint
  body : t.body = t₀.body

namespace ITransferPdu.SameWay

variable {t t₁ t₀ : ITransferPdu}

theorem refl (t : ITransferPdu) : t.SameWay t := ⟨rfl, rfl, rfl, rfl⟩

theorem trans (h : t.SameWay t₁) (h₁ : t₁.SameWay t₀) : t.SameWay t₀ :=
  ⟨h.self.trans h₁.self, h.src.trans h₁.src, h.dst.trans h₁.dst, h.body.trans h₁.body⟩

theorem sendKeys (h : t.SameWay t₀) : t.sendKeys = t₀.sendKeys := by
  unfold ITransferPdu.sendKeys
  rw [h.body]

end ITransferPdu.SameWay

/-- The transfers of `cs'` that were made before `n₀` were there in `cs`, on the same ways. -/
def Inherits (n₀ : Nat) (cs cs' : List BridgeConnection) : Prop :=
  ∀ c ∈ cs', ∀ t ∈ c.transferPdus, t.self < n₀ → ∃ c₀ ∈ cs, ∃ t₀ ∈ c₀.transferPdus, t.SameWay t₀

namespace Inherits

variable {n₀ : Nat} {cs cs₁ cs' : List BridgeConnection}

theorem refl (n₀ : Nat) (cs : List BridgeConnection) : Inherits n₀ cs cs :=
  fun c hc t ht _ => ⟨c, hc, t, ht, .refl t⟩

theorem trans (h : Inherits n₀ cs cs₁) (h₁ : Inherits n₀ cs₁ cs') : Inherits n₀ cs cs' := by
  intro c hc t ht hlt
  obtain ⟨c₁, hc₁, t₁, ht₁, hway₁⟩ := h₁ c hc t ht hlt
  obtain ⟨c₀, hc₀, t₀, ht₀, hway₀⟩ := h c₁ hc₁ t₁ ht₁ (hway₁.self ▸ hlt)
  exact ⟨c₀, hc₀, t₀, ht₀, hway₁.trans hway₀⟩

theorem without (n₀ : Nat) (cs : List BridgeConnection) (drop : List Nat) :
    Inherits n₀ cs (cs.map (·.without drop)) := by
  intro c hc t ht _
  obtain ⟨c₀, hc₀, rfl⟩ := List.mem_map.1 hc
  exact ⟨c₀, hc₀, t, (BridgeConnection.mem_without.1 ht).1, .refl t⟩

/-- One connection is changed: its transfers are the old ones up to flags and epochs, and later
ones. -/
theorem modify (cs : List BridgeConnection) (i : Nat) {f : BridgeConnection → BridgeConnection}
    (hf : ∀ c, ∀ t ∈ (f c).transferPdus, t.self < n₀ → ∃ t₀ ∈ c.transferPdus, t.SameWay t₀) :
    Inherits n₀ cs (cs.modify i f) := by
  intro c hc t ht hlt
  rcases mem_of_mem_modify hc with hc | ⟨c₀, hget, rfl⟩
  · exact ⟨c, hc, t, ht, .refl t⟩
  · obtain ⟨t₀, ht₀, hway⟩ := hf c₀ t ht hlt
    exact ⟨c₀, List.mem_of_getElem? hget, t₀, ht₀, hway⟩

/-- Later transfers are added to a connection. -/
theorem modify_append (cs : List BridgeConnection) (i : Nat)
    {f : BridgeConnection → BridgeConnection} (ts : List ITransferPdu)
    (g : BridgeConnection → ITransferPdu → ITransferPdu)
    (hf : ∀ c, (f c).transferPdus = c.transferPdus ++ ts.map (g c))
    (hg : ∀ c t, (g c t).self = t.self) (hlater : ∀ t ∈ ts, n₀ ≤ t.self) :
    Inherits n₀ cs (cs.modify i f) := by
  apply modify cs i
  intro c t ht hlt
  rw [hf] at ht
  rcases List.mem_append.1 ht with ht | ht
  · exact ⟨t, ht, .refl t⟩
  · obtain ⟨t₁, ht₁, rfl⟩ := List.mem_map.1 ht
    have hge := hlater t₁ ht₁
    rw [hg] at hlt
    omega

end Inherits

namespace Bridge

/-- The bridge `b'` is reached from `b` by operations, and by receptions with all that they cause at
local endpoints. -/
inductive NestedRun (E : Env ε) (isLocal : EndpointRef → Bool) (b : Bridge ε) : Bridge ε → Prop
  | refl : NestedRun E isLocal b b
  | step {b' : Bridge ε} (hrun : NestedRun E isLocal b b') (op : Op ε) :
      NestedRun E isLocal b (b'.step E op).1
  | reception {b' : Bridge ε} (hrun : NestedRun E isLocal b b') {fuel : Nat} {endpointId : String}
      {key : PduResolvedKey} {data : Bytes} {r : Host ε × List Event}
      (hreceive : receive E isLocal b'.core fuel (.container endpointId) key data b'.host =
        some r) :
      NestedRun E isLocal b { b' with host := r.1 }

/-- Every run without nesting is one of them. -/
theorem NestedRun.of_run (E : Env ε) (isLocal : EndpointRef → Bool) (b : Bridge ε)
    (ops : List (Op ε)) : NestedRun E isLocal b (Lib.run (Bridge.step E) b ops).1 :=
  run_invariant_of_forall (fun _ op hrun => hrun.step op) .refl ops

/-- The bridge `b` comes from `b₀`: callbacks were only added, and the transfers that `b₀` had made
are on their ways still. -/
structure Descends (b₀ b : Bridge ε) : Prop where
  wf : b.WellFormed
  host : Host.Extends b₀.host b.host
  transfers : Inherits b₀.host.nextTransfer b₀.core.connections b.core.connections

namespace Descends

variable {b₀ b : Bridge ε}

theorem closed (E : Env ε) (b₀ : Bridge ε) : ControlClosed E (Descends b₀) where
  host b h' hsame h :=
    ⟨(wellFormed_closed E).host b h' hsame h.wf, h.host.trans hsame.extends, h.transfers⟩
  core b core hcore h := by
    refine ⟨(wellFormed_closed E).core b core hcore h.wf, h.host, ?_⟩
    rw [hcore]
    exact h.transfers
  runtime _ _ _ h := ⟨h.wf, h.host, h.transfers⟩
  attached _ _ h := ⟨h.wf, h.host, h.transfers⟩
  accept b ep key h :=
    ⟨(wellFormed_closed E).accept b ep key h.wf, h.host.trans (extends_control b.host ep key),
      h.transfers⟩
  detach b sessionId h := by
    have hwf := wellFormed_detachMonitor h.wf sessionId
    by_cases hmem : sessionId ∈ b.runtime.monitorSessions
    · refine ⟨hwf, ?_, ?_⟩
      · rw [detachMonitor_host]
        exact h.host
      · rw [detachMonitor_core h.wf hmem]
        exact h.transfers.trans (Inherits.without _ _ _)
    · rw [detachMonitor_of_not_mem hmem]
      exact h
  shutdown b h := by
    refine ⟨(wellFormed_closed E).shutdown b h.wf, h.host.trans (shutdown_sameBook E b).extends, ?_⟩
    cases hinit : b.runtime.initialized with
    | false =>
      rw [shutdown_of_not_initialized E hinit]
      exact h.transfers
    | true =>
      rw [shutdown_core E h.wf hinit]
      exact h.transfers.trans (Inherits.without _ _ _)

/-- An attach adds later transfers. -/
theorem attachMonitor (h : Descends b₀ b) (stopAt : Option Nat) (spec : MonitorSessionSpec) :
    Descends b₀ (b.attachMonitor E stopAt spec).1 := by
  have hout := attachMonitor_outcome E stopAt spec h.wf
  have hwf := wellFormed_attachMonitor E stopAt spec h.wf
  revert hout hwf
  generalize b.attachMonitor E stopAt spec = r
  intro hout hwf
  cases hout with
  | rejected _ =>
    refine (closed E b₀).core b _ ?_ h
    unfold loadRunning
    split_ifs <;> rfl
  | rolledBack _ _ hcreated _ _ _ _ => exact ⟨hwf, h.host.trans hcreated.extends, h.transfers⟩
  | @attached selection ts h' i c src hadmitted hplace hcreated hmonitor hlen =>
    refine ⟨hwf, h.host.trans hcreated.extends, h.transfers.trans ?_⟩
    refine Inherits.modify_append _ i ts BridgeConnection.stamp
      (BridgeConnection.transferPdus_takeOver ts) (fun _ _ => rfl) fun t ht => ?_
    exact h.host.nextTransfer.trans (hcreated.bounds t ht).1

/-- **Step lemma.** -/
theorem step (h : Descends b₀ b) (op : Op ε) : Descends b₀ (b.step E op).1 := by
  refine (closed E b₀).step h (fun stopAt spec _ => h.attachMonitor stopAt spec)
    fun hconnection => ?_
  have hwf := wellFormed_step E h.wf op
  by_cases hadd : ∃ i transfer, op = .addTransferPdu i transfer
  · obtain ⟨i, transfer, rfl⟩ := hadd
    have hcreated := transfer.created E b.host
    refine ⟨hwf, h.host.trans hcreated.extends, h.transfers.trans ?_⟩
    refine Inherits.modify_append _ i [(transfer.create E b.host).1]
      (fun c t => (t.setEpoch c.epoch).setEpochValidation c.epochValidation) (fun _ => rfl)
      (fun _ _ => rfl) fun t ht => ?_
    rw [List.mem_singleton.1 ht, hcreated.self]
    exact h.host.nextTransfer
  · obtain ⟨hhost, -, hold⟩ := step_onConnection E b hconnection
      fun i transfer heq => hadd ⟨i, transfer, heq⟩
    refine ⟨hwf, ?_, h.transfers.trans fun c hc t ht _ => ?_⟩
    · rw [hhost]
      exact h.host
    · obtain ⟨c₀, hc₀, t₀, ht₀, hself, -, hsrc, hdst, hbody⟩ := hold c hc t ht
      exact ⟨c₀, hc₀, t₀, ht₀, hself, hsrc, hdst, hbody⟩

/-- **Run lemma.** A cascade leaves callbacks and transfers alone, at any depth. -/
theorem run {isLocal : EndpointRef → Bool} (hwf : b₀.WellFormed)
    (hrun : NestedRun E isLocal b₀ b) : Descends b₀ b := by
  induction hrun with
  | refl => exact ⟨hwf, .refl _, .refl _ _⟩
  | step _ op ih => exact ih.step op
  | reception _ hreceive ih =>
    exact (closed E b₀).host _ _ (receive_keepsBook _ _ _ _ _ _ _ hreceive) ih

end Descends

end Bridge

/-! ## The ways of a configuration -/

/-- The keys under which the planned transfer sends. -/
def TransferPlan.sendKeys (E : Env ε) (p : TransferPlan) : List ApiKey :=
  match p.keys with
  | .single key => [.named key.endpointKey]
  | .group keys => keys.map fun key => .resolved (resolveKey E p.src key)

namespace Realizes

variable {h : Host ε} {t : ITransferPdu} {p : TransferPlan}

theorem sendKeys_eq (hr : Realizes E h t p) : t.sendKeys = p.sendKeys E := by
  have hbody := hr.body
  unfold TransferPlan.body at hbody
  unfold ITransferPdu.sendKeys TransferPlan.sendKeys
  cases hkeys : p.keys with
  | single key =>
    rw [hkeys] at hbody
    rw [hbody]
  | group keys =>
    rw [hkeys] at hbody
    rw [hbody]
    exact List.map_map

end Realizes

/-- An event-driven transfer that the configuration asks for on this node leads from the one key to
the other one, on a local endpoint. -/
def BridgeConfig.Leads (E : Env ε) (isLocal : EndpointRef → Bool) (cfg : BridgeConfig)
    (nodeName : String) (n n' : Cascade.Node) : Prop :=
  ∃ connDef ∈ cfg.connections, connDef.nodeId = nodeName ∧ ∃ p ∈ planConnection cfg connDef,
    p.policyDef.type ≠ "ticker" ∧ p.src = n.1 ∧ n.2 ∈ p.resolvedKeys E ∧
      isLocal p.dst = true ∧ n' ∈ arrivals E p.dst (p.sendKeys E)

namespace Bridge

/-- The ways of the bridge `b`, which was built as `b₀`: those of the configuration, and those of
the transfers that were added since. -/
def Ways (E : Env ε) (isLocal : EndpointRef → Bool) (cfg : BridgeConfig) (nodeName : String)
    (b₀ b : Bridge ε) (n n' : Cascade.Node) : Prop :=
  cfg.Leads E isLocal nodeName n n' ∨
    ∃ self ≥ b₀.host.nextTransfer, LeadsBy E isLocal b.core b.host.registry self n n'

variable {isLocal : EndpointRef → Bool} {cfg : BridgeConfig} {nodeName : String}
  {container : List String} {e : ε} {b₀ b : Bridge ε}

/-- **No other ways.** -/
theorem Descends.ways (hboot : boot E cfg nodeName container e = some b₀) (h : Descends b₀ b)
    {n n' : Cascade.Node} (hleads : Cascade.Leads E isLocal b.core b.host.registry n n') :
    Ways E isLocal cfg nodeName b₀ b n n' := by
  obtain ⟨self, hself⟩ := hleads
  by_cases hge : b₀.host.nextTransfer ≤ self
  · exact .inr ⟨self, hge, hself⟩
  · left
    obtain ⟨-, hassembled⟩ := orderly_of_boot hboot
    obtain ⟨t, hcallback, hfind, -, hlocal, harrives⟩ := hself
    obtain ⟨reg, hreg, hself⟩ := List.mem_map.1 hcallback
    obtain ⟨hreg, hat⟩ := List.mem_filter.1 hreg
    obtain ⟨hep, hkey⟩ := of_decide_eq_true hat
    -- the callback is one of those that the build registered
    have hreg₀ : reg ∈ b₀.host.registry := by
      rcases h.host.fresh reg hreg self hself with hold | ⟨hlater, -⟩
      · exact hold
      · exact absurd hlater hge
    obtain ⟨c, hc, ht, rfl⟩ := mem_of_findTransfer hfind
    obtain ⟨c₀, hc₀, t₀, ht₀, hway⟩ := h.transfers c hc t ht (Nat.lt_of_not_le hge)
    have hlistens := (booted_of_boot hboot).wellFormed.listens reg hreg₀ c₀ hc₀ t₀ ht₀
      (hself.trans (congrArg Callback.transfer hway.self))
    obtain ⟨connDef, hdef, hrealizes⟩ := exists_of_forall₂ hassembled.connections hc₀
    obtain ⟨hdef, hnode⟩ := List.mem_filter.1 hdef
    obtain ⟨p, hp, hr⟩ := exists_of_forall₂ hrealizes.transfers ht₀
    obtain ⟨hsrc, hkeys, hevent⟩ := hr.of_listens hlistens
    rw [hway.dst, hr.dst] at hlocal harrives
    rw [hway.sendKeys, hr.sendKeys_eq] at harrives
    exact ⟨connDef, hdef, of_decide_eq_true hnode, p, hp, hevent, hsrc.trans hep, hkey ▸ hkeys,
      hlocal, harrives⟩

/-- **Cascades end.** Given any configuration that `build` accepts, any run, with cascades among its
receptions or without, and a PDU that arrives after it for a key from which no cycle of ways can be
reached. The cascade that the PDU triggers is finite; how deep it gets at most does not depend on
the PDU. -/
theorem cascade_ends (hboot : boot E cfg nodeName container e = some b₀)
    (hrun : NestedRun E isLocal b₀ b) {endpointId : String} {key : PduResolvedKey}
    (hacyclic : ∀ n,
      ReflTransGen (Ways E isLocal cfg nodeName b₀ b) (.container endpointId, key) n →
      ¬ TransGen (Ways E isLocal cfg nodeName b₀ b) n n) :
    ∃ N, ∀ fuel ≥ N, ∀ data, ∃ r,
      receive E isLocal b.core fuel (.container endpointId) key data b.host = some r := by
  have hdescends := Descends.run (booted_of_boot hboot).wellFormed hrun
  have hways : ∀ n n', Cascade.Leads E isLocal b.core b.host.registry n n' →
      Ways E isLocal cfg nodeName b₀ b n n' := fun n n' => hdescends.ways hboot
  have hacc := acc_of_acyclic (fun _ _ => Leads.mem_targets) (a := (.container endpointId, key))
    fun n hreach hcycle =>
      hacyclic n (ReflTransGen.mono hways _ _ hreach) (TransGen.mono hways _ _ hcycle)
  obtain ⟨N, hN⟩ := receive_ends hacc
  refine ⟨N, fun fuel hfuel data => ?_⟩
  obtain ⟨r, hr, -⟩ := hN fuel hfuel data b.host rfl
  exact ⟨r, hr⟩

/-- A connection between two local endpoints, after a cascade. -/
theorem cascade_ends_small :
    let E := (CacheSpec.small .latest).env none
    let b := (bootSmall .latest ⟨"immediate", none, none⟩ [⟨"k", "r", "pos"⟩] false).get rfl
    let b₁ := (Lib.run (step E) b [.start]).1
    let cascade := (receive E (fun _ => true) b₁.core 2 (.container "src") ⟨"r", 1⟩ [7, 7]
      b₁.host).get rfl
    let b' : Bridge CacheState := { b₁ with host := cascade.1 }
    ∃ N, ∀ fuel ≥ N, ∀ data, ∃ r,
      receive E (fun _ => true) b'.core fuel (.container "src") ⟨"r", 1⟩ data b'.host = some r := by
  intro E b b₁ cascade b'
  have hrun : NestedRun E (fun _ => true) b b' :=
    (NestedRun.of_run E _ b [.start]).reception (Option.some_get _).symm
  have hboot : boot E (BridgeConfig.small ⟨"immediate", none, none⟩ [⟨"k", "r", "pos"⟩] false)
      "node" ["src", "dst"] CacheState.empty = some b := (Option.some_get _).symm
  -- every way leads from the source to the destination
  have hways : ∀ n n', Ways E (fun _ => true)
      (BridgeConfig.small ⟨"immediate", none, none⟩ [⟨"k", "r", "pos"⟩] false) "node" b b' n n' →
      n.1 = .container "src" ∧ n'.1 = .container "dst" := by
    rintro n n'
      (⟨connDef, hdef, -, p, hp, -, hsrc, -, -, harrives⟩ | ⟨self, hlater, t, -, hfind, -⟩)
    · obtain rfl := List.mem_singleton.1 hdef
      obtain rfl := List.mem_singleton.1 hp
      obtain ⟨a, -, rfl⟩ := List.mem_map.1 harrives
      exact ⟨hsrc.symm, rfl⟩
    · obtain ⟨c, hc, ht, rfl⟩ := mem_of_findTransfer hfind
      obtain rfl := List.mem_singleton.1 hc
      obtain rfl := List.mem_singleton.1 ht
      exact absurd hlater (by decide)
  apply cascade_ends hboot hrun
  intro n _ hcycle
  obtain ⟨m, hfirst, -⟩ := TransGen.head'_iff.1 hcycle
  obtain ⟨m', -, hlast⟩ := TransGen.tail'_iff.1 hcycle
  have hnode := (hways _ _ hfirst).1.symm.trans (hways _ _ hlast).2
  exact absurd hnode (by decide)

/-- A connection whose source is also its destination. -/
def loopConfig : BridgeConfig where
  transferPolicies := AList.singleton "policy" ⟨"immediate", none, none⟩
  pduKeyGroups := AList.singleton "group" [⟨"k", "r", "pos"⟩]
  connections :=
    [{ id := "conn", nodeId := "node", source := "src", destinations := ["src"]
       transferPdus := [⟨"group", "policy"⟩], epochValidation := none }]

/-- The bridge of the loop. -/
def loopBridge : Bridge CacheState :=
  (boot ((CacheSpec.small .latest).env none) loopConfig "node" ["src"] CacheState.empty).get rfl

/-- The transfer of the loop. -/
def loopTransfer : ITransferPdu where
  self := 0
  srcEndpoint := .container "src"
  dstEndpoint := .container "src"
  policy := 0
  isActive := true
  ownerEpoch := 0
  epochValidation := false
  body := .transferPdu ⟨"k", "r", "pos"⟩ ⟨"r", 1⟩

theorem findTransfer_loop : loopBridge.core.findTransfer 0 = some loopTransfer := rfl

theorem callbacksFor_loop :
    callbacksFor loopBridge.host.registry (.container "src") ⟨"r", 1⟩ = [.transfer 0] := rfl

/-- What the transfer sends on the arrival of a PDU. -/
theorem outgoing_loop {data : Bytes} (hdata : data.length ≤ 2) (e : CacheState) :
    (loopTransfer.outgoing ((CacheSpec.small .latest).env none)
      ((CacheSpec.small .latest).deliver (.container "src") ⟨"r", 1⟩ data e)).2 =
      [(.named ⟨"r", "pos"⟩, fillBuffer 2 data)] := by
  have hread : (CacheSpec.small .latest).recv none (.container "src") (.named ⟨"r", "pos"⟩) 2
      ((CacheSpec.small .latest).deliver (.container "src") ⟨"r", 1⟩ data e) =
      ((CacheSpec.small .latest).deliver (.container "src") ⟨"r", 1⟩ data e, .ok data) := by
    simp [CacheSpec.recv, CacheSpec.deliver, CacheSpec.resolve, CacheSpec.small, hdata]
  have hsize : (CacheSpec.small .latest).getPduSize (.container "src") ⟨"r", "pos"⟩ = 2 := rfl
  have hrunning : (CacheSpec.small .latest).running (.container "src") = (.ok, true) := rfl
  simp [ITransferPdu.outgoing, ITransferPdu.prepare, loopTransfer, BridgePduKey.endpointKey,
    ITransferPdu.epochAccepted, hsize, hread, hrunning]

/-- **The loop.** Whatever the caches hold, each PDU is sent to where it came from. -/
theorem receive_loop (fuel : Nat) (data : Bytes) (hdata : data.length ≤ 2) {h : Host CacheState}
    (hreg : h.registry = loopBridge.host.registry) {p : ImmediatePolicy}
    (hpolicy : h.policies 0 = .immediate p) (hatomic : p.isAtomic = false) :
    receive ((CacheSpec.small .latest).env none) (fun _ => true) loopBridge.core fuel
      (.container "src") ⟨"r", 1⟩ data h = none := by
  induction fuel generalizing data h with
  | zero => rfl
  | succ fuel ih =>
    have hfires : ∀ e, (Policy.immediate p).shouldTransfer ((CacheSpec.small .latest).env none)
        (loopTransfer.askedKey ⟨"r", 1⟩) e = (.immediate p, e, true) := by
      intro e
      simp [Policy.shouldTransfer, ImmediatePolicy.shouldTransfer, hatomic]
    -- the transfer sends the PDU, and the reception that this causes has no end
    have hsend : ∀ e, sendAll ((CacheSpec.small .latest).env none) (fun _ => true)
        (receive ((CacheSpec.small .latest).env none) (fun _ => true) loopBridge.core fuel)
        loopTransfer [(.named ⟨"r", "pos"⟩, fillBuffer 2 data)] (h.put 0 (.immediate p) e) =
        none := by
      intro e
      have hnested := ih (fillBuffer 2 data) (by simp [fillBuffer]; omega)
        (h := h.put 0 (.immediate p) e) hreg (by simp [Host.put])
      rw [sendAll, sendOne, if_pos ⟨rfl, rfl⟩]
      exact congrArg (Option.bind · _) (congrArg (Option.map _) hnested)
    have hfire : fire ((CacheSpec.small .latest).env none) (fun _ => true)
        (receive ((CacheSpec.small .latest).env none) (fun _ => true) loopBridge.core fuel)
        loopTransfer ⟨"r", 1⟩ { h with env :=
          (CacheSpec.small .latest).deliver (.container "src") ⟨"r", 1⟩ data h.env } = none := by
      have hpolicy' : h.policies loopTransfer.policy = .immediate p := hpolicy
      have hactive : loopTransfer.isActive = true := rfl
      rw [fire, if_pos hactive, hpolicy', hfires]
      dsimp only
      rw [outgoing_loop hdata]
      exact congrArg (Option.map _) (hsend _)
    have hcallbacks : callbacksFor h.registry (.container "src") ⟨"r", 1⟩ = [.transfer 0] := by
      rw [hreg, callbacksFor_loop]
    rw [receive]
    dsimp only
    rw [hcallbacks, Cascade.fireCallbacks, Cascade.fireCallback, findTransfer_loop]
    exact Option.bind_eq_none_iff.2 fun r hr => absurd (hfire.symm.trans hr) (by simp)

/-- The cascade of a PDU in the loop has no end. -/
theorem cascade_never_ends :
    ¬ ∃ fuel r, receive ((CacheSpec.small .latest).env none) (fun _ => true) loopBridge.core fuel
      (.container "src") ⟨"r", 1⟩ [7, 7] loopBridge.host = some r := by
  rintro ⟨fuel, r, hr⟩
  have hnone := receive_loop fuel [7, 7] le_rfl (h := loopBridge.host) rfl
    (p := (ImmediatePolicy.new false).addPduKey ⟨"r", 1⟩) rfl rfl
  rw [hnone] at hr
  exact absurd hr (by simp)

end Bridge

end HakoniwaBridge
