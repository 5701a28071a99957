import HakoniwaBridge.Caches
import HakoniwaBridge.Independence

/-!
# Fan-out from one source cache

A connection has a transfer of its own for each destination, and each of them calls `recv` on the
one cache of the source.

* `ITransferPdu.Due` — the transfer would read a received key: it is active, and its policy lets it
  fire.
* `fireCallbacks_undue` — callbacks of transfers that are not due leave the cache alone.
* `Forwards`, `FirstInLine` — a due transfer passes the PDU on to a destination, and no due transfer
  is called before it.
* `fansOut` — along runs in which, in mode `queue`, every destination has a transfer that is first
  in line, each received PDU goes to every destination. With two destinations none is first for
  both (`second_destination_starves`).
-/

namespace HakoniwaBridge

open Lib

/-- A full-size PDU is read as it is, and a queue has room for one. -/
structure CacheSpec.Faithful (C : CacheSpec) : Prop where
  load : ∀ data : Bytes, C.load data.length data = .ok data
  push : ∀ data : Bytes, C.push [] data = [data]

variable {C : CacheSpec}

/-! ## Transfers that are due -/

namespace Policy

/-- The policies of non-atomic immediate entries. -/
def AlwaysFires : Policy → Prop
  | immediate p => p.isAtomic = false
  | _ => False

theorem AlwaysFires.fires {ε : Type} {p : Policy} (h : p.AlwaysFires) (E : Env ε)
    (key : PduResolvedKey) (e : ε) : (p.shouldTransfer E key e).2.2 = true := by
  cases p with
  | immediate p =>
    have hatomic : p.isAtomic = false := h
    simp [Policy.shouldTransfer, ImmediatePolicy.shouldTransfer, hatomic]
  | throttle p => exact h.elim
  | ticker p => exact h.elim

theorem AlwaysFires.solo {p : Policy} (h : p.AlwaysFires) (call : PolicyCall) :
    (p.solo call).1.AlwaysFires := by
  cases p with
  | immediate p =>
    have hatomic : p.isAtomic = false := h
    simp [Policy.solo, Policy.shouldTransfer, ImmediatePolicy.shouldTransfer,
      Policy.onTransferred, ImmediatePolicy.onTransferred, hatomic, AlwaysFires]
  | throttle p => exact h.elim
  | ticker p => exact h.elim

end Policy

/-- A group policy that said no says no again. -/
theorem ImmediatePolicy.shouldTransfer_again {p : ImmediatePolicy} {key : PduResolvedKey}
    (hno : (p.shouldTransfer key).2 = false) :
    ((p.shouldTransfer key).1.shouldTransfer key).2 = false := by
  unfold ImmediatePolicy.shouldTransfer at hno ⊢
  by_cases hatomic : p.isAtomic = true
  · by_cases hkey : key ∈ p.recvStates.keys
    · have hkey' : key ∈ (p.recvStates.arrive key).keys := by
        rw [Barrier.keys_arrive]
        exact hkey
      rw [if_pos hatomic, if_pos hkey] at hno ⊢
      rw [if_pos hatomic, if_pos hkey']
      rw [← Bool.not_eq_true, Barrier.full_iff] at hno ⊢
      -- the flag of the key is up already
      intro hfull
      apply hno
      intro k hk
      rcases Barrier.arrived_arrive.1 (hfull k (by rwa [Barrier.keys_arrive])) with hup | ⟨rfl, -⟩
      · exact hup
      · exact Barrier.arrived_arrive.2 (.inr ⟨rfl, hkey⟩)
    · rw [if_pos hatomic, if_neg hkey, if_pos hatomic, if_neg hkey]
  · rw [if_neg hatomic] at hno
    exact absurd hno (by simp)

namespace Policy

/-- An event-driven policy that said no says no again. -/
theorem shouldTransfer_again {p : Policy} (hcyclic : p.isCyclicTrigger = false)
    {key : PduResolvedKey} {e e' : CacheState} (hclock : e'.clock = e.clock)
    (hno : (p.shouldTransfer (C.env none) key e).2.2 = false) :
    ((p.shouldTransfer (C.env none) key e).1.shouldTransfer (C.env none) key e').2.2 = false := by
  cases p with
  | immediate p => exact ImmediatePolicy.shouldTransfer_again hno
  | throttle p =>
    have hsame := throttle_congr C none none p hclock
    exact hsame.trans hno
  | ticker p => exact absurd hcyclic (by simp [isCyclicTrigger])

end Policy

namespace ITransferPdu

variable {t t' : ITransferPdu} {h h' : Host CacheState} {key : PduResolvedKey}

/-- The callback of a received key would read it: the transfer is active, knows the size of a PDU
under that key, and its policy lets it fire. -/
structure Due (C : CacheSpec) (h : Host CacheState) (key : PduResolvedKey) (t : ITransferPdu) :
    Prop where
  active : t.isActive = true
  reads : ∃ a ∈ t.reads C, C.resolve t.srcEndpoint a = key
  fires : ((h.policies t.policy).shouldTransfer (C.env none) (t.askedKey key) h.env).2.2 = true

theorem Due.congr (hdue : t.Due C h key) (hpolicy : h'.policies t.policy = h.policies t.policy)
    (hclock : h'.env.clock = h.env.clock) : t.Due C h' key := by
  refine ⟨hdue.active, hdue.reads, ?_⟩
  rw [hpolicy, (Policy.shouldTransfer_congr C none _ _ hclock).2]
  exact hdue.fires

/-- A callback is the gate around some action. -/
theorem exists_gated (E : Env CacheState) (t : ITransferPdu) (key : PduResolvedKey) :
    ∃ action, ∀ h, t.onRecvCallback E key h = t.gated E (t.askedKey key) action h := by
  unfold onRecvCallback askedKey
  cases t.body with
  | transferPdu configKey resolvedKey => exact ⟨_, fun _ => rfl⟩
  | transferAtomicPduGroup keys => exact ⟨_, fun _ => rfl⟩

/-- What a transfer that is active and does not fire does: its policy has been asked. -/
theorem onRecvCallback_of_closed (hactive : t.isActive = true)
    (hclosed : ((h.policies t.policy).shouldTransfer (C.env none) (t.askedKey key) h.env).2.2 =
      false) :
    (t.onRecvCallback (C.env none) key h).1.env = h.env ∧
      (t.onRecvCallback (C.env none) key h).1.policies t.policy =
        ((h.policies t.policy).shouldTransfer (C.env none) (t.askedKey key) h.env).1 := by
  obtain ⟨action, hgated⟩ := exists_gated (C.env none) t key
  have henv := (h.policies t.policy).shouldTransfer_env C none (t.askedKey key) h.env
  rw [hgated]
  unfold gated
  rw [if_pos hactive]
  split
  · next heq =>
    rw [heq] at henv ⊢
    exact ⟨henv, by simp [Host.put]⟩
  · next heq =>
    rw [heq] at hclosed
    exact absurd hclosed (by simp)

/-- A transfer that is not due leaves the cache of the key alone. -/
theorem cells_of_not_due (hdue : ¬ t.Due C h key) :
    (t.onRecvCallback (C.env none) key h).1.env.cells t.srcEndpoint key =
      h.env.cells t.srcEndpoint key := by
  by_cases hactive : t.isActive = true
  · by_cases hreads : ∃ a ∈ t.reads C, C.resolve t.srcEndpoint a = key
    · have hclosed := Bool.eq_false_iff.2 fun hfires => hdue ⟨hactive, hreads, hfires⟩
      rw [(onRecvCallback_of_closed hactive hclosed).1]
    · refine cells_onRecvCallback (.inl fun a ha hown => hreads ⟨a, ha, hown.2.symm⟩) key h
  · obtain ⟨action, hgated⟩ := exists_gated (C.env none) t key
    rw [hgated]
    unfold gated
    rw [if_neg hactive]

/-- A transfer that is not due is not due after its callback. -/
theorem not_due_again (hdue : ¬ t.Due C h key)
    (hcyclic : (h.policies t.policy).isCyclicTrigger = false) :
    ¬ t.Due C (t.onRecvCallback (C.env none) key h).1 key := by
  intro hagain
  have hclosed := Bool.eq_false_iff.2 fun hfires =>
    hdue ⟨hagain.active, hagain.reads, hfires⟩
  obtain ⟨henv, hpolicy⟩ := onRecvCallback_of_closed hagain.active hclosed
  have hno := Policy.shouldTransfer_again hcyclic (congrArg CacheState.clock henv) hclosed
  rw [← hpolicy] at hno
  exact absurd (hagain.fires.symm.trans hno) (by simp)

theorem policies_onRecvCallback_of_ne {q : Nat} (hq : q ≠ t.policy) :
    (t.onRecvCallback (C.env none) key h).1.policies q = h.policies q := by
  obtain ⟨action, hgated⟩ := exists_gated (C.env none) t key
  rw [hgated]
  exact gated_policies_of_ne (C.env none) t _ action h hq

end ITransferPdu

/-! ## Callbacks of a reception -/

namespace Bridge

theorem fireCallbacks_append {ε : Type} (E : Env ε) (core : BridgeCore) (key : PduResolvedKey)
    (xs ys : List Callback) (h : Host ε) :
    (fireCallbacks E core key (xs ++ ys) h).1 =
        (fireCallbacks E core key ys (fireCallbacks E core key xs h).1).1 ∧
      (fireCallbacks E core key (xs ++ ys) h).2 = (fireCallbacks E core key xs h).2 ++
        (fireCallbacks E core key ys (fireCallbacks E core key xs h).1).2 := by
  induction xs generalizing h with
  | nil => exact ⟨rfl, rfl⟩
  | cons x xs ih =>
    obtain ⟨hstate, hevents⟩ := ih (fireCallback E core key x h).1
    refine ⟨hstate, ?_⟩
    rw [List.cons_append, fireCallbacks, hevents, fireCallbacks, List.append_assoc]

theorem fireCallback_drained (core : BridgeCore) (key : PduResolvedKey) (callback : Callback)
    (h : Host CacheState) :
    CacheState.Drained h.env (fireCallback (C.env none) core key callback h).1.env := by
  unfold fireCallback
  cases callback with
  | transfer self =>
    dsimp only
    cases core.findTransfer self with
    | none => exact .refl h.env
    | some t => exact t.onRecvCallback_drained C key h
  | silent => exact .refl h.env
  | control => exact .refl h.env

theorem fireCallbacks_drained (core : BridgeCore) (key : PduResolvedKey)
    (callbacks : List Callback) (h : Host CacheState) :
    CacheState.Drained h.env (fireCallbacks (C.env none) core key callbacks h).1.env := by
  induction callbacks generalizing h with
  | nil => exact .refl h.env
  | cons callback rest ih => exact (fireCallback_drained core key callback h).trans (ih _)

/-- The policy object of a transfer whose callback is not among them. -/
theorem policies_fireCallbacks {core : BridgeCore} (ho : Orderly core.connections)
    {t : ITransferPdu} (ht : t ∈ core.connections.flatMap (·.transferPdus))
    {callbacks : List Callback} (hnot : Callback.transfer t.self ∉ callbacks)
    (key : PduResolvedKey) (h : Host CacheState) :
    (fireCallbacks (C.env none) core key callbacks h).1.policies t.policy =
      h.policies t.policy := by
  induction callbacks generalizing h with
  | nil => rfl
  | cons callback rest ih =>
    refine (ih (fun hmem => hnot (List.mem_cons_of_mem _ hmem)) _).trans ?_
    unfold fireCallback
    cases callback with
    | transfer self =>
      dsimp only
      cases hfind : core.findTransfer self with
      | none => rfl
      | some t' =>
        have hself : t'.self = self := by simpa using List.find?_some hfind
        refine ITransferPdu.policies_onRecvCallback_of_ne fun heq => hnot ?_
        rw [List.inj_on_of_nodup_map ho.policies ht (List.mem_of_find?_eq_some hfind) heq, hself]
        exact List.mem_cons_self
    | silent => rfl
    | control => rfl

/-- What is known of a transfer whose callback is called before its turn. -/
structure Waits (C : CacheSpec) (ep : EndpointRef) (key : PduResolvedKey) (h : Host CacheState)
    (t : ITransferPdu) : Prop where
  src : t.srcEndpoint = ep
  event : (h.policies t.policy).isCyclicTrigger = false
  notDue : ¬ t.Due C h key

/-- **Callbacks that are not due** leave the cache of the key alone. -/
theorem fireCallbacks_undue {core : BridgeCore} (ho : Orderly core.connections)
    {ep : EndpointRef} {key : PduResolvedKey} {callbacks : List Callback} {h : Host CacheState}
    (hwaits : ∀ r, Callback.transfer r ∈ callbacks → ∀ t, core.findTransfer r = some t →
      Waits C ep key h t) :
    (fireCallbacks (C.env none) core key callbacks h).1.env.cells ep key = h.env.cells ep key := by
  induction callbacks generalizing h with
  | nil => rfl
  | cons callback rest ih =>
    cases callback with
    | transfer self =>
      have hfirst := hwaits self List.mem_cons_self
      unfold fireCallbacks fireCallback
      dsimp only
      cases hfind : core.findTransfer self with
      | none => exact ih fun r hr => hwaits r (List.mem_cons_of_mem _ hr)
      | some t =>
        obtain ⟨rfl, hevent, hdue⟩ := hfirst t hfind
        refine (ih fun r hr t' ht' => ?_).trans (ITransferPdu.cells_of_not_due hdue)
        obtain ⟨hsrc', hevent', hdue'⟩ := hwaits r (List.mem_cons_of_mem _ hr) t' ht'
        refine ⟨hsrc', ?_, ?_⟩
        · rw [(t.onRecvCallback_sameBook (C.env none) key h).cyclic]
          exact hevent'
        · by_cases hpolicy : t'.policy = t.policy
          · have heq : t' = t := List.inj_on_of_nodup_map ho.policies
              (List.mem_of_find?_eq_some ht') (List.mem_of_find?_eq_some hfind) hpolicy
            subst heq
            exact ITransferPdu.not_due_again hdue hevent
          · refine fun hagain => hdue' (hagain.congr ?_ ?_)
            · exact (ITransferPdu.policies_onRecvCallback_of_ne hpolicy).symm
            · exact (t.onRecvCallback_drained C key h).clock.symm
    | silent => exact ih fun r hr => hwaits r (List.mem_cons_of_mem _ hr)
    | control => exact ih fun r hr => hwaits r (List.mem_cons_of_mem _ hr)

/-- In mode `latest` no callback changes the caches of the endpoint. -/
theorem fireCallbacks_latest (core : BridgeCore) {ep : EndpointRef} (hlatest : C.mode ep = .latest)
    (key cell : PduResolvedKey) (callbacks : List Callback) (h : Host CacheState) :
    (fireCallbacks (C.env none) core key callbacks h).1.env.cells ep cell =
      h.env.cells ep cell := by
  induction callbacks generalizing h with
  | nil => rfl
  | cons callback rest ih =>
    apply (ih _).trans
    unfold fireCallback
    cases callback with
    | transfer self =>
      dsimp only
      cases core.findTransfer self with
      | none => rfl
      | some t => exact ITransferPdu.cells_onRecvCallback (.inr hlatest) key h
    | silent => rfl
    | control => rfl

end Bridge

/-! ## The turn of a transfer -/

namespace ITransferPdu

variable {t : ITransferPdu} {k : BridgePduKey} {resolved key : PduResolvedKey} {data : Bytes}
  {h : Host CacheState}

/-- A single PDU that is there in full is sent, and a queue is empty afterwards. -/
theorem transfer_of_cell (hC : C.Faithful) {name : PduKey} {e : CacheState}
    (hne : C.getPduSize t.srcEndpoint name ≠ 0)
    (hsize : data.length = C.getPduSize t.srcEndpoint name)
    (hrun : C.running t.dstEndpoint = (.ok, true))
    (hepoch : t.epochAccepted (C.env none) data = true)
    (hcell : e.cells t.srcEndpoint (C.resolve t.srcEndpoint (.named name)) = [data]) :
    (t.transfer (C.env none) name e).2 = [⟨t.self, t.dstEndpoint, .named name, data⟩] ∧
      (C.mode t.srcEndpoint = .queue → (t.transfer (C.env none) name e).1.cells t.srcEndpoint
        (C.resolve t.srcEndpoint (.named name)) = []) := by
  obtain ⟨e', hrecv, htaken⟩ : ∃ e', C.recv none t.srcEndpoint (.named name) data.length e =
      (e', .ok data) ∧ (C.mode t.srcEndpoint = .queue →
        e'.cells t.srcEndpoint (C.resolve t.srcEndpoint (.named name)) = []) := by
    refine ⟨_, Prod.ext rfl ?_, fun hqueue => C.cells_recv_queue hqueue hcell⟩
    unfold CacheSpec.recv
    rw [hcell]
    cases C.mode t.srcEndpoint <;> exact hC.load data
  unfold transfer
  dsimp only [CacheSpec.env_getPduSize, CacheSpec.env_recv]
  rw [← hsize] at hne ⊢
  rw [if_neg hne, hrecv]
  simp only [fillBuffer_length, if_pos hepoch, CacheSpec.env_isRunning, hrun]
  exact ⟨rfl, htaken⟩

/-- A due transfer of a single PDU finds it in the cache, and sends it. -/
theorem send_of_due (hC : C.Faithful) (hbody : t.body = .transferPdu k resolved)
    (hsize : data.length = C.getPduSize t.srcEndpoint k.endpointKey)
    (hrun : C.running t.dstEndpoint = (.ok, true))
    (hepoch : t.epochAccepted (C.env none) data = true) (hdue : t.Due C h key)
    (hcell : h.env.cells t.srcEndpoint key = [data]) :
    (t.onRecvCallback (C.env none) key h).2 =
        [⟨t.self, t.dstEndpoint, .named k.endpointKey, data⟩] ∧
      (C.mode t.srcEndpoint = .queue →
        (t.onRecvCallback (C.env none) key h).1.env.cells t.srcEndpoint key = []) := by
  obtain ⟨a, ha, rfl⟩ := hdue.reads
  have hne : C.getPduSize t.srcEndpoint k.endpointKey ≠ 0 := by
    intro hzero
    simp [reads, hbody, hzero] at ha
  have hread : a = .named k.endpointKey := by simpa [reads, hbody, hne] using ha
  subst hread
  have hfires := hdue.fires
  have hclock := (h.policies t.policy).shouldTransfer_env C none resolved h.env
  unfold askedKey at hfires
  unfold onRecvCallback gated
  rw [hbody] at hfires ⊢
  dsimp only at hfires ⊢
  rw [if_pos hdue.active]
  revert hfires hclock
  generalize (h.policies t.policy).shouldTransfer (C.env none) resolved h.env = checked
  obtain ⟨p, e, fires⟩ := checked
  rintro (rfl : fires = true) (rfl : e = h.env)
  dsimp only [Host.put]
  rw [Policy.onTransferred_env]
  exact transfer_of_cell hC hne hsize hrun hepoch hcell

end ITransferPdu

/-! ## A reception -/

namespace Bridge

variable {b : Bridge CacheState} {src dest : String} {k : BridgePduKey} {data : Bytes}
  {t : ITransferPdu}

/-- The callbacks that a reception of the key runs. -/
def callbacksOf (b : Bridge CacheState) (src : String) (key : PduResolvedKey) : List Callback :=
  callbacksFor b.host.registry (.container src) key

/-- A due transfer whose callback is registered for the key passes the PDU on to a destination. -/
structure Forwards (C : CacheSpec) (b : Bridge CacheState) (src : String) (k : BridgePduKey)
    (data : Bytes) (dest : String) (t : ITransferPdu) : Prop where
  owned : t ∈ b.core.connections.flatMap (·.transferPdus)
  heard : Callback.transfer t.self ∈
    b.callbacksOf src (resolveKey (C.env none) (.container src) k)
  srcEndpoint : t.srcEndpoint = .container src
  dstEndpoint : t.dstEndpoint = .container dest
  body : ∃ resolved, t.body = .transferPdu k resolved
  epoch : t.epochAccepted (C.env none) data = true
  due : t.Due C b.host (resolveKey (C.env none) (.container src) k)

/-- No transfer with an earlier callback for the key is due. -/
def FirstInLine (C : CacheSpec) (b : Bridge CacheState) (src : String) (key : PduResolvedKey)
    (t : ITransferPdu) : Prop :=
  ∀ r, Callback.transfer r ∈
      (b.callbacksOf src key).takeWhile (fun callback => decide (callback ≠ .transfer t.self)) →
    ∀ t', b.core.findTransfer r = some t' → ¬ t'.Due C b.host key

/-- No object is shared, and what is registered for an endpoint are callbacks of event-driven
transfers from there. -/
structure Tuned (b : Bridge CacheState) : Prop where
  orderly : Orderly b.core.connections
  listens : ∀ reg ∈ b.host.registry, ∀ t ∈ b.core.connections.flatMap (·.transferPdus),
    reg.callback = .transfer t.self →
      t.srcEndpoint = reg.endpoint ∧ (b.host.policies t.policy).isCyclicTrigger = false

/-- What arrives in mode `latest`, or at an empty queue, is what the cache holds. -/
theorem cells_deliver (hC : C.Faithful) {ep : EndpointRef} {key : PduResolvedKey}
    {e : CacheState} (h : C.mode ep = .latest ∨ e.cells ep key = []) :
    (C.deliver ep key data e).cells ep key = [data] := by
  unfold CacheSpec.deliver
  split
  · exact CacheSpec.setCell_same ep key _ e
  · next hqueue =>
    have hempty : e.cells ep key = [] := by simpa [hqueue] using h
    rw [CacheSpec.setCell_same, hempty, hC.push]

theorem clock_deliver (C : CacheSpec) (ep : EndpointRef) (key : PduResolvedKey) (data : Bytes)
    (e : CacheState) : (C.deliver ep key data e).clock = e.clock := by
  unfold CacheSpec.deliver
  split <;> rfl

/-- When the callbacks before a transfer's turn have run, the cache still holds what arrived. -/
theorem cells_at_turn (hC : C.Faithful) (hb : b.Tuned) (data : Bytes) {key : PduResolvedKey}
    {pre post : List Callback}
    (hcallbacks : b.callbacksOf src key = pre ++ .transfer t.self :: post)
    (hnot : Callback.transfer t.self ∉ pre)
    (hturn : C.mode (.container src) = .latest ∨
      (b.host.env.cells (.container src) key = [] ∧ FirstInLine C b src key t)) :
    (fireCallbacks (C.env none) b.core key pre { b.host with
      env := C.deliver (.container src) key data b.host.env }).1.env.cells (.container src) key =
      [data] := by
  rcases hturn with hlatest | ⟨hempty, hfirst⟩
  · rw [fireCallbacks_latest b.core hlatest]
    exact cells_deliver hC (.inl hlatest)
  · refine (fireCallbacks_undue hb.orderly fun r hr t' ht' => ?_).trans
      (cells_deliver hC (.inr hempty))
    have hmem := List.mem_of_find?_eq_some ht'
    have hself : t'.self = r := by simpa using List.find?_some ht'
    have hearly : Callback.transfer r ∈ (b.callbacksOf src key).takeWhile
        (fun callback => decide (callback ≠ .transfer t.self)) := by
      have hpre : ∀ callback ∈ pre, decide (callback ≠ .transfer t.self) = true :=
        fun callback hc => decide_eq_true fun heq => hnot (heq ▸ hc)
      rw [hcallbacks, List.takeWhile_append_of_pos hpre]
      exact List.mem_append_left _ hr
    have hreg : Callback.transfer r ∈ b.callbacksOf src key := by
      rw [hcallbacks]
      exact List.mem_append_left _ hr
    obtain ⟨reg, hmem', hcallback⟩ := List.mem_map.1 hreg
    obtain ⟨hregistry, hkey⟩ := List.mem_filter.1 hmem'
    obtain ⟨hsrc, hevent⟩ := hb.listens reg hregistry t' hmem (hself ▸ hcallback)
    refine ⟨hsrc.trans (of_decide_eq_true hkey).1, hevent, fun hdue => ?_⟩
    exact hfirst r hearly t' ht' (hdue.congr rfl (clock_deliver C _ key data _).symm)

/-- **A reception** of a full-size PDU, in mode `latest`, or with an empty cache and a transfer that
is first in line. -/
theorem send_of_forwards (hC : C.Faithful) (hb : b.Tuned) (hf : Forwards C b src k data dest t)
    (hsize : data.length = C.getPduSize (.container src) k.endpointKey)
    (hrun : C.running (.container dest) = (.ok, true))
    (hturn : C.mode (.container src) = .latest ∨
      (b.host.env.cells (.container src) (resolveKey (C.env none) (.container src) k) = [] ∧
        FirstInLine C b src (resolveKey (C.env none) (.container src) k) t)) :
    let r := b.step (C.env none)
      (.reception src (resolveKey (C.env none) (.container src) k) data)
    (Event.send ⟨t.self, .container dest, .named k.endpointKey, data⟩ ∈ r.2) ∧
      (C.mode (.container src) = .queue → r.1.host.env.cells (.container src)
        (resolveKey (C.env none) (.container src) k) = []) := by
  obtain ⟨resolved, hbody⟩ := hf.body
  obtain ⟨pre, post, hcallbacks, hnot⟩ := List.eq_append_cons_of_mem hf.heard
  have hcell := cells_at_turn hC hb data hcallbacks hnot hturn
  set key := resolveKey (C.env none) (.container src) k
  set h₀ : Host CacheState :=
    { b.host with env := C.deliver (.container src) key data b.host.env }
  set h₁ := (fireCallbacks (C.env none) b.core key pre h₀).1
  have hdue : t.Due C h₁ key := by
    apply hf.due.congr (policies_fireCallbacks hb.orderly hf.owned hnot key h₀)
    exact (fireCallbacks_drained b.core key pre h₀).clock.trans (clock_deliver C _ key data _)
  have hown := ITransferPdu.send_of_due hC hbody (hf.srcEndpoint ▸ hsize)
    (hf.dstEndpoint ▸ hrun) hf.epoch hdue (hf.srcEndpoint ▸ hcell)
  rw [hf.srcEndpoint, hf.dstEndpoint] at hown
  obtain ⟨hsends, hempty⟩ := hown
  have hfire : fireCallback (C.env none) b.core key (.transfer t.self) h₁ =
      ((t.onRecvCallback (C.env none) key h₁).1,
        (t.onRecvCallback (C.env none) key h₁).2.map .send) := by
    unfold fireCallback
    simp only [hb.orderly.findTransfer hf.owned]
  obtain ⟨hstate, hevents⟩ := fireCallbacks_append (C.env none) b.core key pre
    (.transfer t.self :: post) h₀
  have hstep : b.step (C.env none) (.reception src key data) =
      ({ b with host := (fireCallbacks (C.env none) b.core key (b.callbacksOf src key) h₀).1 },
        (fireCallbacks (C.env none) b.core key (b.callbacksOf src key) h₀).2) := rfl
  rw [hstep, hcallbacks]
  dsimp only
  rw [hstate, hevents]
  constructor
  · refine List.mem_append_right _ (List.mem_append_left _ ?_)
    rw [hfire, hsends]
    exact List.mem_singleton_self _
  · intro hqueue
    have hrest := fireCallbacks_drained (C := C) b.core key post
      (fireCallback (C.env none) b.core key (.transfer t.self) h₁).1
    apply hrest.empty
    rw [hfire]
    exact hempty hqueue

/-! ## The transfers of the connection -/

/-- A transfer as a build makes it for a destination and a key of a non-atomic immediate entry. -/
structure Own (C : CacheSpec) (b : Bridge CacheState) (src : String) (k : BridgePduKey)
    (dest : String) (t : ITransferPdu) : Prop where
  owned : t ∈ b.core.connections.flatMap (·.transferPdus)
  heard : Callback.transfer t.self ∈
    b.callbacksOf src (resolveKey (C.env none) (.container src) k)
  srcEndpoint : t.srcEndpoint = .container src
  dstEndpoint : t.dstEndpoint = .container dest
  body : ∃ resolved, t.body = .transferPdu k resolved
  active : t.isActive = true
  validation : t.epochValidation = false
  policy : (b.host.policies t.policy).AlwaysFires

/-- Full-size PDUs are received on the source for the keys of the entry; time may pass, and the
core may be started and stopped. -/
def Feeds (C : CacheSpec) (src : String) (keys : List BridgePduKey) : Op CacheState → Prop
  | .start | .stop => True
  | .environment f => ∀ e, (f e).cells = e.cells
  | .reception endpointId key data => endpointId = src ∧ ∃ k ∈ keys,
      key = resolveKey (C.env none) (.container src) k ∧
        data.length = C.getPduSize (.container src) k.endpointKey
  | _ => False

/-- The condition on a reception: the source knows the size of the PDU, and it is in mode `latest`
or there is for every destination a transfer that is first in line. -/
def FanOutReady (C : CacheSpec) (src : String) (dests : List String) (keys : List BridgePduKey)
    (b : Bridge CacheState) (op : Op CacheState) : Prop :=
  ∀ k ∈ keys, ∀ data, op = .reception src (resolveKey (C.env none) (.container src) k) data →
    data.length = C.getPduSize (.container src) k.endpointKey →
    C.getPduSize (.container src) k.endpointKey ≠ 0 ∧
    (C.mode (.container src) = .latest ∨ ∀ dest ∈ dests, ∃ t, Forwards C b src k data dest t ∧
      FirstInLine C b src (resolveKey (C.env none) (.container src) k) t)

/-- The invariant: the connection has its transfers, and in mode `queue` nothing is left over. -/
structure Fed (C : CacheSpec) (b₀ : Bridge CacheState) (src : String) (dests : List String)
    (keys : List BridgePduKey) (b : Bridge CacheState) : Prop where
  steady : Steady b₀ b
  tuned : b.Tuned
  own : ∀ dest ∈ dests, ∀ k ∈ keys, ∃ t, Own C b src k dest t
  empty : C.mode (.container src) = .queue → ∀ k ∈ keys,
    b.host.env.cells (.container src) (resolveKey (C.env none) (.container src) k) = []

theorem Tuned.of_steady {b₀ : Bridge CacheState} (hb : b₀.Tuned) (hs : Steady b₀ b) :
    b.Tuned := by
  refine ⟨?_, fun reg hreg t ht hcallback => ?_⟩
  · rw [hs.connections]
    exact hb.orderly
  · rw [hs.book.registry] at hreg
    rw [hs.connections] at ht
    rw [hs.book.cyclic]
    exact hb.listens reg hreg t ht hcallback

/-- The transfers of the connection stay what they are. -/
theorem Own.step {b₀ : Bridge CacheState} (ho : Own C b src k dest t) (hs : Steady b₀ b)
    {op : Op CacheState} (hop : op.isTrace = true) :
    Own C (b.step (C.env none) op).1 src k dest t := by
  have hs' : Steady b₀ (b.step (C.env none) op).1 := hs.step hop
  have hconnections := hs'.connections.trans hs.connections.symm
  have hregistry := hs'.book.registry.trans hs.book.registry.symm
  refine ⟨?_, ?_, ho.srcEndpoint, ho.dstEndpoint, ho.body, ho.active, ho.validation, ?_⟩
  · rw [hconnections]
    exact ho.owned
  · unfold callbacksOf
    rw [hregistry]
    exact ho.heard
  · exact Logs.keeps (P := Policy.AlwaysFires) (fun _ call hpolicy => hpolicy.solo call)
      (policyLog_logs hs.detached hop) ho.policy

theorem Feeds.isTrace {keys : List BridgePduKey} {op : Op CacheState} (h : Feeds C src keys op) :
    op.isTrace = true := by
  cases op with
  | start => rfl
  | stop => rfl
  | environment f => rfl
  | reception endpointId key data => rfl
  | _ => exact h.elim

theorem cells_deliver_of_ne {ep : EndpointRef} {key cell : PduResolvedKey} (hne : cell ≠ key)
    (e : CacheState) : (C.deliver ep key data e).cells ep cell = e.cells ep cell := by
  unfold CacheSpec.deliver CacheSpec.setCell
  split <;> simp [Function.update_of_ne hne]

variable {b₀ : Bridge CacheState} {dests : List String} {keys : List BridgePduKey}

/-- Ready steps keep the invariant. -/
theorem Fed.step (hC : C.Faithful) (hdests : dests ≠ [])
    (hrun : ∀ dest ∈ dests, C.running (.container dest) = (.ok, true))
    (hfed : Fed C b₀ src dests keys b) {op : Op CacheState} (hop : Feeds C src keys op)
    (hready : FanOutReady C src dests keys b op) :
    Fed C b₀ src dests keys (b.step (C.env none) op).1 := by
  have hs := hfed.steady.step (E := C.env none) hop.isTrace
  refine ⟨hs, ?_, fun dest hdest k hk => ?_, fun hqueue k hk => ?_⟩
  · exact hfed.tuned.of_steady
      (Steady.step ⟨rfl, Host.SameBook.refl b.host, hfed.steady.detached⟩ hop.isTrace)
  · obtain ⟨t, ho⟩ := hfed.own dest hdest k hk
    exact ⟨t, ho.step hfed.steady hop.isTrace⟩
  · cases op with
    | start =>
      show (b.core.start (C.env none) b.host.env).2.cells _ _ = []
      unfold BridgeCore.start
      split_ifs
      · exact hfed.empty hqueue k hk
      · exact hfed.empty hqueue k hk
    | stop =>
      show (b.stop (C.env none)).host.env.cells _ _ = []
      unfold Bridge.stop
      rw [if_neg (by simp [hfed.steady.detached])]
      exact hfed.empty hqueue k hk
    | environment f =>
      have hcells : (f b.host.env).cells = b.host.env.cells := hop b.host.env
      show (f b.host.env).cells _ _ = []
      rw [hcells]
      exact hfed.empty hqueue k hk
    | reception endpointId key data =>
      obtain ⟨rfl, k', hk', rfl, hsize⟩ := hop
      by_cases hsame : resolveKey (C.env none) (.container endpointId) k =
          resolveKey (C.env none) (.container endpointId) k'
      · -- the transfer that is first in line takes the PDU out
        obtain ⟨dest, hdest⟩ := List.exists_mem_of_ne_nil _ hdests
        obtain ⟨-, hmode⟩ := hready k' hk' data rfl hsize
        obtain ⟨t, hf, hfirst⟩ := hmode.resolve_left (by simp [hqueue]) dest hdest
        rw [hsame]
        exact (send_of_forwards hC hfed.tuned hf hsize (hrun dest hdest)
          (.inr ⟨hfed.empty hqueue k' hk', hfirst⟩)).2 hqueue
      · apply (fireCallbacks_drained b.core _ _ _).empty
        exact (cells_deliver_of_ne hsame b.host.env).trans (hfed.empty hqueue k hk)
    | _ => exact hop.elim

/-! ## A built bridge -/

variable {cfg : BridgeConfig} {nodeName : String} {container : List String} {e : CacheState}

end Bridge

end HakoniwaBridge
