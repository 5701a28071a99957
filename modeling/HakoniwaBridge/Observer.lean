import HakoniwaBridge.Traffic

/-!
# What a monitor transfer disturbs

A monitor transfer calls `recv` on the source of its connection. Over source caches (`CacheSpec`)
this leaves no trace in mode `latest`, nor where the transfer does not fire or finds nothing to
read; such a transfer changes its own policy object and nothing else.

* `ITransferPdu.Gets` — the call of a transfer gets an entry; `onRecvCallback_of_not_gets` — any
  other call leaves the outside as it was and sends nothing.
* `Traffic.Harmless` — the condition on a call of a monitor transfer.
* `Host.Agree p₀` — two hosts that the transfers with policy objects below `p₀` cannot tell apart.
* `fireCallbacks_own`, `triggerConnections_own` — the callbacks of a reception, and the loop of the
  trigger, against the same with the transfers made from `n₀` on left out: the PDUs that reach the
  destinations in `dests` are the same.
-/

namespace HakoniwaBridge

open Lib

/-! ## Calls that get an entry -/

namespace ITransferPdu

variable {C : CacheSpec} {t : ITransferPdu} {key : PduResolvedKey} {e : CacheState}
  {host : Host CacheState}

/-- A callback of a transfer with a source in mode `latest`. -/
theorem onRecvCallback_env (h : C.mode t.srcEndpoint = .latest) (key : PduResolvedKey)
    (host : Host CacheState) : (t.onRecvCallback (C.env none) key host).1.env = host.env :=
  onRecvCallback_keeps (R := fun e e' => e' = e) (fun _ => rfl)
    (fun _ _ _ h₁₂ h₂₃ => h₂₃.trans h₁₂) (fun a _ size e => C.recv_latest h a size e) key host

/-- The callback for a received key gets an entry: the transfer fires, and a cache that it reads is
not empty. -/
structure Gets (C : CacheSpec) (host : Host CacheState) (key : PduResolvedKey)
    (t : ITransferPdu) : Prop where
  fires : t.Fires C host (t.askedKey key)
  entry : ∃ a ∈ t.reads C, host.env.cells t.srcEndpoint (C.resolve t.srcEndpoint a) ≠ []

/-- The caches that a transfer reads are empty. -/
def Starved (C : CacheSpec) (t : ITransferPdu) (e : CacheState) : Prop :=
  ∀ a ∈ t.reads C, e.cells t.srcEndpoint (C.resolve t.srcEndpoint a) = []

theorem transfer_of_starved {k : BridgePduKey} {resolved : PduResolvedKey}
    (hbody : t.body = .transferPdu k resolved) (h : t.Starved C e) :
    t.transfer (C.env none) k.endpointKey e = (e, []) := by
  unfold transfer
  dsimp only [CacheSpec.env_getPduSize, CacheSpec.env_recv]
  split_ifs with hsize
  · rfl
  · have hcell := h (.named k.endpointKey) (by simp [reads, hbody, hsize])
    rw [C.recv_of_empty hcell]

/-- Every member is skipped. -/
theorem tryTransferGroup_of_starved {keys : List PduResolvedKey}
    (hbody : t.body = .transferAtomicPduGroup keys) (h : t.Starved C e) :
    t.tryTransferGroup (C.env none) keys e = (e, []) := by
  have hskipped : ∀ key ∈ keys, t.readMember (C.env none) key e = (e, .skipped) := by
    intro key hkey
    by_cases hsize : C.getPduSize t.srcEndpoint ⟨key.robot, C.getPduName t.srcEndpoint key⟩ = 0
    · exact if_pos hsize
    · exact readMember_of_empty (h (.resolved key) (by simp [reads, hbody, hkey, hsize]))
  have hread : ∀ keys : List PduResolvedKey,
      (∀ key ∈ keys, t.readMember (C.env none) key e = (e, .skipped)) →
        t.readGroup (C.env none) keys e = (e, some []) := by
    intro keys hkeys
    induction keys with
    | nil => rfl
    | cons key keys ih =>
      rw [readGroup, hkeys key List.mem_cons_self]
      exact ih fun key' hkey' => hkeys key' (List.mem_cons_of_mem _ hkey')
  unfold tryTransferGroup
  rw [hread keys hskipped]
  rfl

/-- A gate around an action that does nothing if it is let through. -/
theorem gated_of_idle {action : CacheState → CacheState × List Send}
    (h : t.Fires C host key → action host.env = (host.env, [])) :
    (t.gated (C.env none) key action host).1.env = host.env ∧
      (t.gated (C.env none) key action host).2 = [] := by
  by_cases hfires : t.Fires C host key
  · have hkeeps : ∀ e, e = host.env → (action e).1 = host.env := by
      rintro e rfl
      rw [h hfires]
    refine ⟨gated_keeps (C := C) (t := t) (R := fun e e' => e = host.env → e' = host.env)
      (fun _ he => he) key hkeeps host rfl, ?_⟩
    rw [gated_of_fires hfires, h hfires]
  · exact ⟨gated_env_of_not_fires hfires _, gated_of_not_fires hfires _⟩

/-- **A callback that gets nothing** leaves the outside as it was and sends nothing. -/
theorem onRecvCallback_of_not_gets (h : ¬ t.Gets C host key) :
    (t.onRecvCallback (C.env none) key host).1.env = host.env ∧
      (t.onRecvCallback (C.env none) key host).2 = [] := by
  have hstarved : t.Fires C host (t.askedKey key) → t.Starved C host.env := by
    intro hfires a ha
    by_contra hcell
    exact h ⟨hfires, a, ha, hcell⟩
  unfold askedKey at hstarved
  unfold onRecvCallback
  cases hbody : t.body with
  | transferPdu k resolved =>
    rw [hbody] at hstarved
    exact gated_of_idle fun hfires => transfer_of_starved hbody (hstarved hfires)
  | transferAtomicPduGroup keys =>
    rw [hbody] at hstarved
    exact gated_of_idle fun hfires => tryTransferGroup_of_starved hbody (hstarved hfires)

end ITransferPdu

/-- A call of a transfer made from `n₀` on that gets an entry leaves it where it is, and the
transfer sends to none of the destinations. -/
def Traffic.Harmless (C : CacheSpec) (n₀ : Nat) (dests : List EndpointRef) (s : Traffic) :
    TransferCall → Prop
  | .arrival _ _ _ => True
  | .environment _ => True
  | .onRecvCallback t key => n₀ ≤ t.self → t.Gets C s.host key →
      C.mode t.srcEndpoint = .latest ∧ t.dstEndpoint ∉ dests
  | .cyclicTrigger t => n₀ ≤ t.self → (s.host.policies t.policy).isCyclicTrigger = true →
      ∀ key, t.Gets C s.host key → C.mode t.srcEndpoint = .latest ∧ t.dstEndpoint ∉ dests

/-! ## Hosts that agree -/

/-- The outside state and the policy objects below `p₀` are the same. -/
structure Host.Agree {ε : Type} (p₀ : Nat) (h h' : Host ε) : Prop where
  env : h'.env = h.env
  policies : ∀ p < p₀, h'.policies p = h.policies p

namespace Host.Agree

variable {ε : Type} {p₀ : Nat} {h h' h'' : Host ε}

theorem refl (p₀ : Nat) (h : Host ε) : Agree p₀ h h := ⟨rfl, fun _ _ => rfl⟩

theorem symm (hagree : Agree p₀ h h') : Agree p₀ h' h :=
  ⟨hagree.env.symm, fun p hp => (hagree.policies p hp).symm⟩

theorem trans (hagree : Agree p₀ h h') (hagree' : Agree p₀ h' h'') : Agree p₀ h h'' :=
  ⟨hagree'.env.trans hagree.env, fun p hp => (hagree'.policies p hp).trans (hagree.policies p hp)⟩

/-- A gate of one of the agreed policies does the same on both hosts. -/
theorem gated {E : Env ε} {t : ITransferPdu} (hagree : Agree p₀ h h') (hp : t.policy < p₀)
    (key : PduResolvedKey) (action : ε → ε × List Send) :
    (t.gated E key action h').2 = (t.gated E key action h).2 ∧
      Agree p₀ (t.gated E key action h).1 (t.gated E key action h').1 := by
  have hput : ∀ p e, Agree p₀ (h.put t.policy p e) (h'.put t.policy p e) := by
    refine fun p e => ⟨rfl, fun q hq => ?_⟩
    by_cases hqt : q = t.policy
    · rw [hqt]
      simp [Host.put]
    · simp [Host.put, Function.update_of_ne hqt, hagree.policies q hq]
  unfold ITransferPdu.gated
  rw [hagree.env, hagree.policies t.policy hp]
  split_ifs
  · split
    · exact ⟨rfl, hput _ _⟩
    · exact ⟨rfl, hput _ _⟩
  · exact ⟨rfl, hagree⟩

theorem onRecvCallback {t : ITransferPdu} (hagree : Agree p₀ h h') (E : Env ε)
    (hp : t.policy < p₀) (key : PduResolvedKey) :
    (t.onRecvCallback E key h').2 = (t.onRecvCallback E key h).2 ∧
      Agree p₀ (t.onRecvCallback E key h).1 (t.onRecvCallback E key h').1 := by
  unfold ITransferPdu.onRecvCallback
  split
  · exact hagree.gated hp _ _
  · exact hagree.gated hp _ _

theorem cyclicTrigger {t : ITransferPdu} (hagree : Agree p₀ h h') (E : Env ε)
    (hp : t.policy < p₀) :
    (t.cyclicTrigger E h').2 = (t.cyclicTrigger E h).2 ∧
      Agree p₀ (t.cyclicTrigger E h).1 (t.cyclicTrigger E h').1 := by
  unfold ITransferPdu.cyclicTrigger
  rw [hagree.policies t.policy hp]
  split
  · split_ifs
    · exact hagree.gated hp _ _
    · exact ⟨rfl, hagree⟩
  · exact ⟨rfl, hagree⟩

end Host.Agree

/-! ## Leaving the monitor transfers out -/

/-- A transfer with a policy object of its own, whose callback for a received key gets nothing, or
only what it leaves in the cache and sends elsewhere. -/
structure Quiet (C : CacheSpec) (dests : List EndpointRef) (p₀ : Nat) (host : Host CacheState)
    (key : PduResolvedKey) (t : ITransferPdu) : Prop where
  policy : p₀ ≤ t.policy
  harmless : t.Gets C host key → C.mode t.srcEndpoint = .latest ∧ t.dstEndpoint ∉ dests

/-- The event is a send to one of the destinations. -/
def Event.reaches (dests : List EndpointRef) : Event → Bool
  | .send s => decide (s.dst ∈ dests)
  | _ => false

/-- The callback captures a transfer that was made before `n₀`. -/
def Callback.own (n₀ : Nat) : Callback → Bool
  | .transfer self => decide (self < n₀)
  | _ => false

/-- The connection with the transfers only that were made before `n₀`. -/
def BridgeConnection.configured (n₀ : Nat) (c : BridgeConnection) : BridgeConnection :=
  { c with transferPdus := c.transferPdus.filter fun t => decide (t.self < n₀) }

section callbacks

variable {C : CacheSpec} {dests : List EndpointRef} {n₀ p₀ : Nat}

theorem reaches_of_sent {E : Env CacheState} {t : ITransferPdu} {sends : List Send}
    (hsends : ∀ s ∈ sends, ITransferPdu.Sent E t s) (hdst : t.dstEndpoint ∉ dests) :
    (sends.map Event.send).filter (Event.reaches dests) = [] := by
  apply List.filter_eq_nil_iff.2
  intro ev hev
  obtain ⟨s, hs, rfl⟩ := List.mem_map.1 hev
  simp [Event.reaches, (hsends s hs).dst, hdst]

theorem ITransferPdu.onRecvCallback_policies {E : Env CacheState} (t : ITransferPdu)
    (key : PduResolvedKey) (h : Host CacheState) {q : Nat} (hq : q ≠ t.policy) :
    (t.onRecvCallback E key h).1.policies q = h.policies q := by
  unfold ITransferPdu.onRecvCallback
  split
  · exact ITransferPdu.gated_policies_of_ne E t _ _ h hq
  · exact ITransferPdu.gated_policies_of_ne E t _ _ h hq

/-- **A quiet callback** changes its own policy object only, and reaches nothing. -/
theorem Quiet.onRecvCallback {t : ITransferPdu} {key : PduResolvedKey} {h : Host CacheState}
    (hq : Quiet C dests p₀ h key t) :
    ((t.onRecvCallback (C.env none) key h).2.map Event.send).filter (Event.reaches dests) = [] ∧
      Host.Agree p₀ h (t.onRecvCallback (C.env none) key h).1 := by
  have hagree : (t.onRecvCallback (C.env none) key h).1.env = h.env →
      Host.Agree p₀ h (t.onRecvCallback (C.env none) key h).1 := by
    have hle := hq.policy
    exact fun henv => ⟨henv, fun q hlt => t.onRecvCallback_policies key h (by omega)⟩
  by_cases hgets : t.Gets C h key
  · obtain ⟨hlatest, helsewhere⟩ := hq.harmless hgets
    exact ⟨reaches_of_sent (fun s hs => ITransferPdu.sent_of_onRecvCallback hs) helsewhere,
      hagree (ITransferPdu.onRecvCallback_env hlatest key h)⟩
  · obtain ⟨henv, hnone⟩ := ITransferPdu.onRecvCallback_of_not_gets hgets
    rw [hnone]
    exact ⟨rfl, hagree henv⟩

/-- The callback of an earlier transfer runs alike on two hosts in agreement. -/
theorem fireCallback_own {core core' : BridgeCore} {callback : Callback} {h h' : Host CacheState}
    (hown : Callback.own n₀ callback = true)
    (hfind : ∀ r < n₀, core'.findTransfer r = core.findTransfer r)
    (hpolicy : ∀ r < n₀, ∀ t, core.findTransfer r = some t → t.policy < p₀)
    (hagree : Host.Agree p₀ h h') (key : PduResolvedKey) :
    (Bridge.fireCallback (C.env none) core' key callback h').2 =
        (Bridge.fireCallback (C.env none) core key callback h).2 ∧
      Host.Agree p₀ (Bridge.fireCallback (C.env none) core key callback h).1
        (Bridge.fireCallback (C.env none) core' key callback h').1 := by
  cases callback with
  | transfer self =>
    have hlt : self < n₀ := of_decide_eq_true hown
    unfold Bridge.fireCallback
    dsimp only
    rw [hfind self hlt]
    cases hget : core.findTransfer self with
    | none => exact ⟨rfl, hagree⟩
    | some t =>
      obtain ⟨hsends, hnext⟩ :=
        hagree.onRecvCallback (C.env none) (hpolicy self hlt t hget) key
      exact ⟨congrArg (List.map Event.send) hsends, hnext⟩
  | silent => exact Bool.noConfusion hown
  | control => exact Bool.noConfusion hown

/-- Any other callback reaches nothing and leaves the host as far as it is agreed on, if the
transfer it calls is quiet. -/
theorem fireCallback_quiet {core : BridgeCore} {callback : Callback} {key : PduResolvedKey}
    {s : Traffic} (hother : Callback.own n₀ callback = false)
    (hmonitor : ∀ r, n₀ ≤ r → ∀ t, core.findTransfer r = some t → p₀ ≤ t.policy)
    (hharmless : Along (Traffic.step C) (Traffic.Harmless C n₀ dests) s
      (callback.calls core key)) :
    (Bridge.fireCallback (C.env none) core key callback s.host).2.filter (Event.reaches dests) =
        [] ∧
      Host.Agree p₀ s.host (Bridge.fireCallback (C.env none) core key callback s.host).1 := by
  cases callback with
  | transfer self =>
    have hge : n₀ ≤ self := Nat.not_lt.1 (of_decide_eq_false hother)
    unfold Bridge.fireCallback
    unfold Callback.calls at hharmless
    dsimp only at hharmless ⊢
    cases hget : core.findTransfer self with
    | none => exact ⟨rfl, Host.Agree.refl p₀ s.host⟩
    | some t =>
      rw [hget] at hharmless
      have hself : t.self = self := by simpa using List.find?_some hget
      have hq : Quiet C dests p₀ s.host key t :=
        ⟨hmonitor self hge t hget, hharmless.1 (hself ▸ hge)⟩
      exact hq.onRecvCallback
  | silent => exact ⟨rfl, Host.Agree.refl p₀ s.host⟩
  | control => exact ⟨rfl, Host.Agree.refl p₀ s.host⟩

/-- **Receptions.** If the calls of the later transfers among the callbacks are harmless, what
reaches the destinations is what the callbacks of the earlier transfers send. -/
theorem fireCallbacks_own {core core' : BridgeCore} {key : PduResolvedKey}
    {callbacks : List Callback} {s : Traffic} {h' : Host CacheState}
    (hfind : ∀ r < n₀, core'.findTransfer r = core.findTransfer r)
    (hpolicy : ∀ r < n₀, ∀ t, core.findTransfer r = some t → t.policy < p₀)
    (hmonitor : ∀ r, n₀ ≤ r → ∀ t, core.findTransfer r = some t → p₀ ≤ t.policy)
    (hharmless : Along (Traffic.step C) (Traffic.Harmless C n₀ dests) s
      (callbacks.flatMap (Callback.calls core key)))
    (hagree : Host.Agree p₀ s.host h') :
    (Bridge.fireCallbacks (C.env none) core key callbacks s.host).2.filter
          (Event.reaches dests) =
        (Bridge.fireCallbacks (C.env none) core' key (callbacks.filter (Callback.own n₀))
          h').2.filter (Event.reaches dests) ∧
      Host.Agree p₀ (Bridge.fireCallbacks (C.env none) core key callbacks s.host).1
        (Bridge.fireCallbacks (C.env none) core' key
          (callbacks.filter (Callback.own n₀)) h').1 := by
  induction callbacks generalizing s h' with
  | nil => exact ⟨rfl, hagree⟩
  | cons callback rest ih =>
    rw [List.flatMap_cons, along_append, (Bridge.run_callback core key callback s).1] at hharmless
    obtain ⟨hfirst, hrest⟩ := hharmless
    cases hown : Callback.own n₀ callback with
    | true =>
      -- the callback of an earlier transfer runs on both sides
      rw [List.filter_cons_of_pos hown]
      obtain ⟨hsends, hnext⟩ := fireCallback_own hown hfind hpolicy hagree key
      obtain ⟨htail, hdone⟩ := ih hrest hnext
      refine ⟨?_, hdone⟩
      simp only [Bridge.fireCallbacks, List.filter_append, hsends]
      exact congrArg _ htail
    | false =>
      -- any other callback reaches nothing and leaves the hosts in agreement
      rw [List.filter_cons_of_neg (by simp [hown])]
      obtain ⟨hnone, hnext⟩ := fireCallback_quiet hown hmonitor hfirst
      obtain ⟨htail, hdone⟩ := ih hrest (hnext.symm.trans hagree)
      refine ⟨?_, hdone⟩
      simp only [Bridge.fireCallbacks, List.filter_append, hnone, List.nil_append]
      exact htail

/-- The trigger of a later transfer. -/
theorem cyclicTrigger_quiet {t : ITransferPdu} {s : Traffic} (hge : n₀ ≤ t.self)
    (hpolicy : p₀ ≤ t.policy) (hharmless : s.Harmless C n₀ dests (.cyclicTrigger t)) :
    ((t.cyclicTrigger (C.env none) s.host).2.map Event.send).filter (Event.reaches dests) = [] ∧
      Host.Agree p₀ s.host (t.cyclicTrigger (C.env none) s.host).1 := by
  rcases t.cyclicTrigger_cases (C.env none) s.host with hidle | ⟨hcyclic, ⟨-, resolved, -⟩, hsame⟩
  · rw [hidle]
    exact ⟨rfl, Host.Agree.refl p₀ s.host⟩
  · have hq : Quiet C dests p₀ s.host resolved t := ⟨hpolicy, hharmless hge hcyclic resolved⟩
    rw [hsame resolved]
    exact hq.onRecvCallback

/-- The trigger loop of a connection, with harmless calls of the later transfers. -/
theorem triggerAll_own {ts : List ITransferPdu} {s : Traffic} {h' : Host CacheState}
    (hpolicy : ∀ t ∈ ts, t.self < n₀ → t.policy < p₀)
    (hmonitor : ∀ t ∈ ts, n₀ ≤ t.self → p₀ ≤ t.policy)
    (hharmless : Along (Traffic.step C) (Traffic.Harmless C n₀ dests) s
      (ts.map .cyclicTrigger))
    (hagree : Host.Agree p₀ s.host h') :
    ((BridgeConnection.triggerAll (C.env none) ts s.host).2.map Event.send).filter
          (Event.reaches dests) =
        ((BridgeConnection.triggerAll (C.env none) (ts.filter fun t => decide (t.self < n₀))
          h').2.map Event.send).filter (Event.reaches dests) ∧
      Host.Agree p₀ (BridgeConnection.triggerAll (C.env none) ts s.host).1
        (BridgeConnection.triggerAll (C.env none) (ts.filter fun t => decide (t.self < n₀))
          h').1 := by
  induction ts generalizing s h' with
  | nil => exact ⟨rfl, hagree⟩
  | cons t ts ih =>
    obtain ⟨hfirst, hlater⟩ := hharmless
    have hrest := fun {h'' : Host CacheState}
        (hagree : Host.Agree p₀ (t.cyclicTrigger (C.env none) s.host).1 h'') =>
      ih (s := (s.step C (.cyclicTrigger t)).1)
        (fun t' ht' => hpolicy t' (List.mem_cons_of_mem _ ht'))
        (fun t' ht' => hmonitor t' (List.mem_cons_of_mem _ ht')) hlater hagree
    by_cases hown : t.self < n₀
    · rw [List.filter_cons_of_pos (by simpa using hown)]
      obtain ⟨hsends, hnext⟩ :=
        hagree.cyclicTrigger (C.env none) (hpolicy t List.mem_cons_self hown)
      obtain ⟨htail, hdone⟩ := hrest hnext
      refine ⟨?_, hdone⟩
      simp only [BridgeConnection.triggerAll, List.map_append, List.filter_append, hsends]
      exact congrArg _ htail
    · rw [List.filter_cons_of_neg (by simpa using hown)]
      have hge := Nat.not_lt.1 hown
      obtain ⟨hnone, hnext⟩ :=
        cyclicTrigger_quiet hge (hmonitor t List.mem_cons_self hge) hfirst
      obtain ⟨htail, hdone⟩ := hrest (hnext.symm.trans hagree)
      refine ⟨?_, hdone⟩
      simp only [BridgeConnection.triggerAll, List.map_append, List.filter_append, hnone,
        List.nil_append]
      exact htail

/-- **Triggers.** If the calls of the later transfers of active connections are harmless, what
reaches the destinations is what the earlier transfers send. -/
theorem triggerConnections_own {cs : List BridgeConnection} {s : Traffic} {h' : Host CacheState}
    (hpolicy : ∀ c ∈ cs, ∀ t ∈ c.transferPdus, t.self < n₀ → t.policy < p₀)
    (hmonitor : ∀ c ∈ cs, ∀ t ∈ c.transferPdus, n₀ ≤ t.self → p₀ ≤ t.policy)
    (hharmless : Along (Traffic.step C) (Traffic.Harmless C n₀ dests) s
      (((cs.filter (·.isActive)).flatMap (·.transferPdus)).map .cyclicTrigger))
    (hagree : Host.Agree p₀ s.host h') :
    ((BridgeCore.triggerConnections (C.env none) cs s.host).2.map Event.send).filter
          (Event.reaches dests) =
        ((BridgeCore.triggerConnections (C.env none) (cs.map (·.configured n₀))
          h').2.map Event.send).filter (Event.reaches dests) ∧
      Host.Agree p₀ (BridgeCore.triggerConnections (C.env none) cs s.host).1
        (BridgeCore.triggerConnections (C.env none) (cs.map (·.configured n₀)) h').1 := by
  induction cs generalizing s h' with
  | nil => exact ⟨rfl, hagree⟩
  | cons c cs ih =>
    have hsame : (c.configured n₀).isActive = c.isActive := rfl
    have hpolicy' := fun c' hc' => hpolicy c' (List.mem_cons_of_mem c hc')
    have hmonitor' := fun c' hc' => hmonitor c' (List.mem_cons_of_mem c hc')
    by_cases hactive : c.isActive = true
    · rw [List.filter_cons_of_pos hactive, List.flatMap_cons, List.map_append, along_append,
        (Bridge.run_triggers c.transferPdus s).1] at hharmless
      obtain ⟨hsends, hnext⟩ := triggerAll_own (hpolicy c List.mem_cons_self)
        (hmonitor c List.mem_cons_self) hharmless.1 hagree
      obtain ⟨htail, hdone⟩ := ih hpolicy' hmonitor' hharmless.2 hnext
      simp only [BridgeCore.triggerConnections, List.map_cons, BridgeConnection.cyclicTrigger,
        hsame, if_pos hactive, List.map_append, List.filter_append]
      exact ⟨congrArg₂ _ hsends htail, hdone⟩
    · rw [List.filter_cons_of_neg hactive] at hharmless
      simp only [BridgeCore.triggerConnections, List.map_cons, BridgeConnection.cyclicTrigger,
        hsame, if_neg hactive, List.nil_append]
      exact ih hpolicy' hmonitor' hharmless hagree

end callbacks

end HakoniwaBridge
