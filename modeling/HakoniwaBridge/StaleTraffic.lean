import HakoniwaBridge.Link

/-!
# Stale traffic

PDUs of a former owner at a validating connection, for one immediate or throttle `TransferPdu` of
it and a source in mode `latest`. A run is compared with the run from which the stale PDUs are
deleted.

A stale PDU is never sent; but `try_transfer` tells the policy of every attempt, also of one that
`transfer` dropped, so a stale PDU that meets an open throttle closes it (`consumes_interval`).

* `Stale` — the PDU's epoch differs from the connection's when it arrives.
* `Undisturbed` — the condition on a step: a stale PDU meets no open throttle.
* `stale_invisible` — along runs of the condition deleting the stale PDUs changes nothing.
-/

namespace HakoniwaBridge

open Lib

/-! ## A single transfer over the caches -/

namespace ITransferPdu

variable {C : CacheSpec} {t : ITransferPdu}

/-- What `transfer` does depends on the clock and the cell it reads. -/
theorem transfer_congr (hlatest : C.mode t.srcEndpoint = .latest) (after : Option UInt64)
    (key : PduKey) {e e' : CacheState} (hclock : e'.clock = e.clock)
    (hcell : e'.cells t.srcEndpoint (C.resolve t.srcEndpoint (.named key)) =
      e.cells t.srcEndpoint (C.resolve t.srcEndpoint (.named key))) :
    (t.transfer (C.env after) key e').2 = (t.transfer (C.env after) key e).2 ∧
      (t.transfer (C.env after) key e').1.clock = (t.transfer (C.env after) key e).1.clock := by
  have hrecv := fun size e => C.recv_eq_of_latest hlatest after (.named key) size e
  have hstored : ∀ size, C.stored t.srcEndpoint (.named key) size e' =
      C.stored t.srcEndpoint (.named key) size e := by
    intro size
    unfold CacheSpec.stored
    rw [hcell]
  unfold transfer
  simp only [CacheSpec.env_recv, CacheSpec.env_getPduSize, CacheSpec.env_send,
    CacheSpec.env_isRunning, hrecv, hstored, hclock]
  by_cases hsize : C.getPduSize t.srcEndpoint key = 0
  · rw [if_pos hsize, if_pos hsize]
    exact ⟨rfl, hclock⟩
  · rw [if_neg hsize, if_neg hsize]
    cases C.stored t.srcEndpoint (.named key) (C.getPduSize t.srcEndpoint key) e with
    | error err => exact ⟨rfl, rfl⟩
    | ok received =>
      cases hepoch : t.epochAccepted (C.env after)
          (fillBuffer (C.getPduSize t.srcEndpoint key) received) with
      | false => simp [hepoch]
      | true =>
        by_cases hrun : (C.running t.dstEndpoint).1 = .ok ∧ (C.running t.dstEndpoint).2 = false
        · simp [hepoch, hrun]
        · simp [hepoch, hrun]

/-- A stored PDU that the epoch check refuses is not sent. -/
theorem transfer_refused (hlatest : C.mode t.srcEndpoint = .latest) (after : Option UInt64)
    (key : PduKey) {e : CacheState} {data : Bytes} {rest : List Bytes}
    (hcell : e.cells t.srcEndpoint (C.resolve t.srcEndpoint (.named key)) = data :: rest)
    (hrefused : ∀ size received, C.load size data = .ok received →
      t.epochAccepted (C.env after) (fillBuffer size received) = false) :
    (t.transfer (C.env after) key e).2 = [] := by
  have hrecv := fun size e => C.recv_eq_of_latest hlatest after (.named key) size e
  have hstored : ∀ size, C.stored t.srcEndpoint (.named key) size e = C.load size data := by
    intro size
    unfold CacheSpec.stored
    rw [hcell]
  unfold transfer
  simp only [CacheSpec.env_recv, CacheSpec.env_getPduSize, hrecv, hstored]
  split_ifs
  · rfl
  · cases hload : C.load (C.getPduSize t.srcEndpoint key) data with
    | error err => rfl
    | ok received =>
      simp [hrefused _ received hload]

end ITransferPdu

/-! ## The invariant of a link -/

namespace Link

variable (C : CacheSpec)

/-- A non-atomic immediate policy, or a throttle. -/
def EventPolicy : Policy → Prop
  | .immediate p => p.isAtomic = false
  | .throttle _ => True
  | .ticker _ => False

/-- The transfer at position `i` is a `TransferPdu` with a source in mode `latest` and an
event-driven policy; it checks for the connection's epoch. -/
structure Focus (i : Nat) (s : Link) (t : ITransferPdu) (configKey : BridgePduKey) : Prop where
  get : s.connection.transferPdus[i]? = some t
  body : t.body = .transferPdu configKey (resolveKey (C.env none) t.srcEndpoint configKey)
  latest : C.mode t.srcEndpoint = .latest
  validation : t.epochValidation = true
  epoch : t.ownerEpoch = s.connection.epoch
  policy : EventPolicy (s.host.policies t.policy)

variable {C} {i : Nat} {s s' : Link} {t : ITransferPdu} {configKey : BridgePduKey}

/-- The callback is the policy gate around `transfer`. -/
theorem Focus.onRecvCallback (h : Focus C i s t configKey) (E : Env CacheState)
    (key : PduResolvedKey) (host : Host CacheState) :
    t.onRecvCallback E key host =
      t.gated E (resolveKey (C.env none) t.srcEndpoint configKey)
        (t.transfer E configKey.endpointKey) host := by
  unfold ITransferPdu.onRecvCallback
  rw [h.body]

/-- The transfer hears its own key. -/
theorem Focus.hears_iff (h : Focus C i s t configKey) (key : PduResolvedKey) :
    t.hears key = true ↔ key = resolveKey (C.env none) t.srcEndpoint configKey := by
  unfold ITransferPdu.hears
  rw [h.body]
  exact decide_eq_true_iff

theorem eventPolicy_shouldTransfer {E : Env CacheState} {key : PduResolvedKey} {p : Policy}
    {e : CacheState} (h : EventPolicy p) : (p.shouldTransfer E key e).1 = p := by
  cases p with
  | immediate p =>
    have hsingle : p.isAtomic = false := h
    simp [Policy.shouldTransfer, ImmediatePolicy.shouldTransfer, hsingle]
  | throttle p => rfl
  | ticker p => exact h.elim

theorem eventPolicy_onTransferred {E : Env CacheState} {p : Policy} {e : CacheState}
    (h : EventPolicy p) : EventPolicy (p.onTransferred E e).1 := by
  cases p with
  | immediate p =>
    have hsingle : p.isAtomic = false := h
    show (p.onTransferred).isAtomic = false
    simp [ImmediatePolicy.onTransferred, hsingle]
  | throttle p => trivial
  | ticker p => exact h.elim

/-- The gate keeps the class of the policy. -/
theorem eventPolicy_gated {E : Env CacheState} {key : PduResolvedKey}
    {action : CacheState → CacheState × List Send} {h : Host CacheState}
    (hp : EventPolicy (h.policies t.policy)) :
    EventPolicy ((t.gated E key action h).1.policies t.policy) := by
  have hsame := @eventPolicy_shouldTransfer E key _ h.env hp
  unfold ITransferPdu.gated
  split_ifs
  · split
    · next heq =>
      rw [heq] at hsame
      obtain rfl := hsame
      simpa [Host.put] using hp
    · next heq =>
      rw [heq] at hsame
      obtain rfl := hsame
      simpa [Host.put] using eventPolicy_onTransferred hp
  · exact hp

/-- Every operation keeps the focus; an increment reaches the transfer. -/
theorem Focus.step (h : Focus C i s t configKey) (op : LinkOp) :
    ∃ t', Focus C i (Link.step C i s op).1 t' configKey ∧ t'.policy = t.policy ∧
      t'.srcEndpoint = t.srcEndpoint := by
  cases op with
  | reception key arrival done data =>
    cases hhears : t.hears key with
    | false =>
      rw [step_unheard C h.get hhears]
      exact ⟨t, ⟨h.get, h.body, h.latest, h.validation, h.epoch, h.policy⟩, rfl, rfl⟩
    | true =>
      rw [step_heard C h.get hhears]
      refine ⟨t, ⟨h.get, h.body, h.latest, h.validation, h.epoch, ?_⟩, rfl, rfl⟩
      dsimp only
      rw [h.onRecvCallback]
      exact eventPolicy_gated h.policy
  | incrementEpoch =>
    exact ⟨t.setEpoch (s.connection.epoch + 1), ⟨get_incrementEpoch h.get, h.body, h.latest,
      h.validation, rfl, h.policy⟩, rfl, rfl⟩

/-! ## Stale PDUs -/

/-- The PDU carries an epoch, and it is not the connection's. -/
def Stale (C : CacheSpec) (s : Link) (op : LinkOp) : Bool :=
  match op with
  | .reception _ _ _ data =>
    match C.hakoPduGetEpoch data with
    | some epoch => epoch != s.connection.epoch
    | none => false
  | .incrementEpoch => false

/-- The condition on a step: when a stale PDU arrives for the transfer, a throttle is closed. -/
def Undisturbed (C : CacheSpec) (i : Nat) (s : Link) (op : LinkOp) : Prop :=
  ∀ key arrival done data, op = .reception key arrival done data → Stale C s op = true →
    ∀ t, s.connection.transferPdus[i]? = some t → t.hears key = true →
      ∀ p, s.host.policies t.policy = .throttle p →
        (p.shouldTransfer (C.env none) { s.host.env with clock := arrival }).2 = false

/-- The epoch of a stored PDU is that of the bytes `recv` yields: `recv` copies. -/
def CopiesEpoch (C : CacheSpec) : Prop :=
  ∀ size data received epoch, C.hakoPduGetEpoch data = some epoch →
    C.load size data = .ok received →
      C.hakoPduGetEpoch (fillBuffer size received) = some epoch

/-- A stale PDU is not sent. -/
theorem Focus.refused (h : Focus C i s t configKey) (hcopy : CopiesEpoch C) {data : Bytes}
    {key : PduResolvedKey} {arrival done : UInt64}
    (hstale : Stale C s (.reception key arrival done data) = true) (after : Option UInt64)
    (size : Nat) (received : Bytes) (hload : C.load size data = .ok received) :
    t.epochAccepted (C.env after) (fillBuffer size received) = false := by
  unfold Stale at hstale
  dsimp only at hstale
  split at hstale
  · next epoch hepoch =>
    have hread := hcopy size data received epoch hepoch hload
    have hne : epoch ≠ t.ownerEpoch := by
      rw [h.epoch]
      simpa using hstale
    have henv : (C.env after).hakoPduGetEpoch (fillBuffer size received) = some epoch := hread
    unfold ITransferPdu.epochAccepted
    rw [if_pos h.validation, henv]
    simpa using hne
  · exact Bool.noConfusion hstale

/-- An attempt that drops its PDU leaves the policy alone, unless it meets an open throttle. -/
theorem gated_of_dropped {E : Env CacheState} {key : PduResolvedKey}
    {action : CacheState → CacheState × List Send} {h : Host CacheState}
    (hnone : (action h.env).2 = []) (hp : EventPolicy (h.policies t.policy))
    (hclosed : ∀ p, h.policies t.policy = .throttle p → (p.shouldTransfer E h.env).2 = false) :
    (t.gated E key action h).1.policies t.policy = h.policies t.policy ∧
      (t.gated E key action h).2 = [] := by
  unfold ITransferPdu.gated
  split_ifs
  · cases hpolicy : h.policies t.policy with
    | immediate p =>
      rw [hpolicy] at hp
      have hsingle : p.isAtomic = false := hp
      simp [Policy.shouldTransfer, ImmediatePolicy.shouldTransfer, hsingle, Policy.onTransferred,
        ImmediatePolicy.onTransferred, Host.put, hnone]
    | throttle p =>
      have hno := hclosed p hpolicy
      simp [Policy.shouldTransfer, hno, Host.put]
    | ticker p =>
      rw [hpolicy] at hp
      exact hp.elim
  · exact ⟨rfl, rfl⟩

/-- A stale reception sends nothing and, if it meets no open throttle, leaves the policy alone. -/
theorem Focus.stale (h : Focus C i s t configKey) (hcopy : CopiesEpoch C) {op : LinkOp}
    (hstale : Stale C s op = true) (hop : Undisturbed C i s op) :
    (Link.step C i s op).1.connection = s.connection ∧
      (Link.step C i s op).1.host.policies t.policy = s.host.policies t.policy ∧
      ∀ r ∈ (Link.step C i s op).2, r.sends = [] := by
  cases op with
  | incrementEpoch => exact Bool.noConfusion hstale
  | reception key arrival done data =>
    cases hhears : t.hears key with
    | false =>
      rw [step_unheard C h.get hhears]
      exact ⟨rfl, rfl, by simp⟩
    | true =>
      obtain rfl := (h.hears_iff key).1 hhears
      have hcell := cells_deliver C h.latest (resolveKey (C.env none) t.srcEndpoint configKey)
        arrival data s.host
      have hnone := @ITransferPdu.transfer_refused C t h.latest (some done) configKey.endpointKey
        (deliver C t _ arrival data s.host).env data [] hcell (h.refused hcopy hstale _)
      have hshut : ∀ p, s.host.policies t.policy = .throttle p →
          (p.shouldTransfer (C.env (some done))
            (deliver C t (resolveKey (C.env none) t.srcEndpoint configKey) arrival data
              s.host).env).2 = false := by
        intro p hp
        have hclosed := hop _ arrival done data rfl hstale t h.get hhears p hp
        rw [← hclosed]
        exact Policy.throttle_congr C none (some done) p (clock_deliver C t _ arrival data s.host)
      obtain ⟨hpolicy, hsends⟩ := gated_of_dropped hnone h.policy hshut
      rw [step_heard C h.get hhears, h.onRecvCallback]
      refine ⟨rfl, hpolicy, fun r hr => ?_⟩
      obtain rfl := List.mem_singleton.1 hr
      exact hsends

/-! ## Runs -/

/-- The timed sends of a run. -/
def timedSends (rs : List Heard) : List (UInt64 × Send) :=
  rs.flatMap fun r => r.sends.map fun x => (r.time, x)

/-- Two links that agree on the connection and on the transfer's policy object. -/
structure Alike (C : CacheSpec) (i : Nat) (configKey : BridgePduKey) (s s' : Link) : Prop where
  connection : s'.connection = s.connection
  focus : ∃ t, Focus C i s t configKey ∧ s'.host.policies t.policy = s.host.policies t.policy

/-- A gate on two hosts that agree on the policy object, the clock and what the action sees. -/
theorem gated_alike {after : Option UInt64} {key : PduResolvedKey}
    {action : CacheState → CacheState × List Send} {h h' : Host CacheState}
    (hpolicy : h'.policies t.policy = h.policies t.policy) (hclock : h'.env.clock = h.env.clock)
    (haction : (action h'.env).2 = (action h.env).2 ∧
      (action h'.env).1.clock = (action h.env).1.clock) :
    (t.gated (C.env after) key action h').2 = (t.gated (C.env after) key action h).2 ∧
      (t.gated (C.env after) key action h').1.policies t.policy =
        (t.gated (C.env after) key action h).1.policies t.policy := by
  obtain ⟨hfst, hsnd⟩ := (h.policies t.policy).shouldTransfer_congr C after key hclock
  have henv := (h.policies t.policy).shouldTransfer_env C after key h.env
  have henv' := (h.policies t.policy).shouldTransfer_env C after key h'.env
  unfold ITransferPdu.gated
  rw [hpolicy]
  split_ifs
  · revert hfst hsnd henv henv'
    generalize (h.policies t.policy).shouldTransfer (C.env after) key h.env = r
    generalize (h.policies t.policy).shouldTransfer (C.env after) key h'.env = r'
    obtain ⟨p, e, answer⟩ := r
    obtain ⟨p', e', answer'⟩ := r'
    dsimp only
    rintro rfl rfl rfl rfl
    cases answer' with
    | false => simp [Host.put]
    | true =>
      have hnext := Policy.onTransferred_congr C after p' haction.2
      simp [Host.put, haction.1, hnext]
  · exact ⟨rfl, hpolicy⟩

/-- Any other reception does the same on both links. -/
theorem Alike.reception {s s' : Link} (h : Alike C i configKey s s') (op : LinkOp) :
    Alike C i configKey (Link.step C i s op).1 (Link.step C i s' op).1 ∧
      (Link.step C i s op).2 = (Link.step C i s' op).2 := by
  obtain ⟨t, hfocus, hpolicy⟩ := h.focus
  have hget' : s'.connection.transferPdus[i]? = some t := by
    rw [h.connection]
    exact hfocus.get
  obtain ⟨t', hfocus', hpolicy', hsrc'⟩ := hfocus.step op
  cases op with
  | incrementEpoch =>
    refine ⟨⟨?_, t', hfocus', ?_⟩, rfl⟩
    · show s'.connection.incrementEpoch = s.connection.incrementEpoch
      rw [h.connection]
    · rw [hpolicy']
      exact hpolicy
  | reception key arrival done data =>
    cases hhears : t.hears key with
    | false =>
      rw [step_unheard C hfocus.get hhears] at hfocus' ⊢
      rw [step_unheard C hget' hhears]
      refine ⟨⟨h.connection, t', hfocus', ?_⟩, rfl⟩
      rw [hpolicy']
      exact hpolicy
    | true =>
      obtain rfl := (hfocus.hears_iff key).1 hhears
      have hcell := cells_deliver C hfocus.latest
        (resolveKey (C.env none) t.srcEndpoint configKey) arrival data
      have hclock :=
        clock_deliver C t (resolveKey (C.env none) t.srcEndpoint configKey) arrival data
      have haction := @ITransferPdu.transfer_congr C t hfocus.latest (some done)
        configKey.endpointKey (deliver C t _ arrival data s.host).env
        (deliver C t _ arrival data s'.host).env
        ((hclock s'.host).trans (hclock s.host).symm) ((hcell s'.host).trans (hcell s.host).symm)
      obtain ⟨hsends, hnext⟩ := @gated_alike C t (some done)
        (resolveKey (C.env none) t.srcEndpoint configKey) _ (deliver C t _ arrival data s.host)
        (deliver C t _ arrival data s'.host) hpolicy
        ((hclock s'.host).trans (hclock s.host).symm) haction
      rw [step_heard C hfocus.get hhears, hfocus.onRecvCallback] at hfocus' ⊢
      rw [step_heard C hget' hhears, hfocus.onRecvCallback]
      refine ⟨⟨h.connection, t', hfocus', ?_⟩, ?_⟩
      · rw [hpolicy']
        exact hnext
      · rw [hsends]

/-- The policies of the two kinds of transfer. -/
def StartPolicy (policy : Policy) : Prop :=
  policy = .immediate (.new false) ∨ ∃ interval, policy = .throttle { intervalMicros := interval }

/-- A transfer that was just handed to a validating connection. -/
theorem focus_single {configKey : BridgePduKey} {policy : Policy} (hpolicy : StartPolicy policy)
    {src dst : EndpointRef} (hlatest : C.mode src = .latest) {c : BridgeConnection}
    (hvalidation : c.epochValidation = true) (h : Host CacheState) :
    ∃ t, Focus C c.transferPdus.length (single C configKey policy src dst c h) t configKey := by
  refine ⟨_, List.getElem?_concat_length, rfl, hlatest, hvalidation, rfl, ?_⟩
  have hvalue : (single C configKey policy src dst c h).host.policies h.nextPolicy =
      policy.addPduKey (resolveKey (C.env none) src configKey) := by
    simp [single, newTransferPdu, Host.newPolicy]
  show EventPolicy ((single C configKey policy src dst c h).host.policies h.nextPolicy)
  rw [hvalue]
  rcases hpolicy with rfl | ⟨interval, rfl⟩
  · exact rfl
  · trivial

/-- **Stale traffic is invisible.** For every validating connection, every immediate or throttle
transfer of it with a source in mode `latest`, and every run in which a stale PDU meets no open
throttle, deleting the stale PDUs leaves the timed sends as they are. -/
theorem stale_invisible (C : CacheSpec) (hcopy : CopiesEpoch C) {configKey : BridgePduKey}
    {policy : Policy} (hpolicy : StartPolicy policy) {src dst : EndpointRef}
    (hlatest : C.mode src = .latest) {c : BridgeConnection} (hvalidation : c.epochValidation = true)
    (h : Host CacheState) {ops : List LinkOp}
    (hops : Along (Link.step C c.transferPdus.length) (Undisturbed C c.transferPdus.length)
      (single C configKey policy src dst c h) ops) :
    timedSends (run (Link.step C c.transferPdus.length) (single C configKey policy src dst c h)
        ops).2 =
      timedSends (run (Link.step C c.transferPdus.length) (single C configKey policy src dst c h)
        (purge (Link.step C c.transferPdus.length) (Stale C) (single C configKey policy src dst c h)
          ops)).2 := by
  obtain ⟨t, hfocus⟩ := @focus_single C configKey policy hpolicy src dst hlatest c hvalidation h
  have hstart : Alike C c.transferPdus.length configKey (single C configKey policy src dst c h)
      (single C configKey policy src dst c h) := ⟨rfl, t, hfocus, rfl⟩
  have hvisible : ∀ rs : List Heard,
      timedSends (rs.filter fun r => !decide (r.sends = [])) = timedSends rs := by
    intro rs
    induction rs with
    | nil => rfl
    | cons r rs ih =>
      by_cases hnone : r.sends = []
      · rw [List.filter_cons_of_neg (by simp [hnone]), ih, timedSends, timedSends,
          List.flatMap_cons, hnone, List.map_nil, List.nil_append]
      · rw [List.filter_cons_of_pos (by simp [hnone]), timedSends, List.flatMap_cons]
        exact congrArg _ ih
  have herase := @run_purge _ _ _ (Link.step C c.transferPdus.length)
    (Undisturbed C c.transferPdus.length) (Alike C c.transferPdus.length configKey)
    (fun r => !decide (r.sends = [])) (Stale C) ?_ ?_ _ _ hstart ops hops
  · rw [← hvisible, herase.2, hvisible]
  · intro s s' op hs hop hstale
    obtain ⟨t, hfocus, hsame⟩ := hs.focus
    obtain ⟨hconnection, hkept, hnone⟩ := hfocus.stale hcopy hstale hop
    obtain ⟨t', hfocus', hpolicy', -⟩ := hfocus.step op
    refine ⟨⟨hs.connection.trans hconnection.symm, t', hfocus', ?_⟩, ?_⟩
    · rw [hpolicy', hkept]
      exact hsame
    · exact List.filter_eq_nil_iff.2 fun r hr => by simp [hnone r hr]
  · intro s s' op hs _ _
    obtain ⟨hnext, hout⟩ := hs.reception op
    exact ⟨hnext, by rw [hout]⟩

/-- The small caches hand out what is stored. -/
theorem copiesEpoch_small (mode : CacheMode) : CopiesEpoch (CacheSpec.small mode) := by
  intro size data received epoch hepoch hload
  have hhead : data.head? = some epoch := hepoch
  simp only [CacheSpec.small] at hload
  split_ifs at hload with hlen
  obtain rfl := Except.ok.inj hload
  show (fillBuffer size data).head? = some epoch
  rw [fillBuffer, List.take_of_length_le hlen]
  cases data with
  | nil => exact absurd hhead (by simp)
  | cons byte rest => exact hhead

/-- A throttle of 10 µs on a validating connection. -/
def throttled : Link :=
  single (CacheSpec.small .latest) ⟨"k", "r", "pos"⟩ (.throttle { intervalMicros := 10 })
    (.container "src") (.container "dst") validating (Host.boot CacheState.empty)

/-- A stale PDU arrives while the throttle is closed. -/
theorem stale_invisible_small :
    timedSends (run (Link.step (CacheSpec.small .latest) 0) throttled
        [.reception ⟨"r", 1⟩ 0 0 [0, 7], .reception ⟨"r", 1⟩ 5 5 [3, 8]]).2 =
      timedSends (run (Link.step (CacheSpec.small .latest) 0) throttled
        (purge (Link.step (CacheSpec.small .latest) 0) (Stale (CacheSpec.small .latest)) throttled
          [.reception ⟨"r", 1⟩ 0 0 [0, 7], .reception ⟨"r", 1⟩ 5 5 [3, 8]])).2 := by
  refine @stale_invisible (CacheSpec.small .latest) (copiesEpoch_small .latest) _ _
    (Or.inr ⟨10, rfl⟩) _ _ rfl validating rfl _ _ ⟨?_, ?_, trivial⟩
  · intro key arrival done data hop hstale
    obtain ⟨rfl, rfl, rfl, rfl⟩ := LinkOp.reception.inj hop
    exact Bool.noConfusion hstale
  · intro key arrival done data hop _ t ht _ p hp
    obtain ⟨rfl, rfl, rfl, rfl⟩ := LinkOp.reception.inj hop
    obtain rfl := Option.some.inj ht
    obtain rfl := Policy.throttle.inj hp
    rfl

/-- A stale PDU that meets the open throttle closes it, and the owner's next PDU is lost. -/
theorem consumes_interval :
    timedSends (run (Link.step (CacheSpec.small .latest) 0) throttled
        [.reception ⟨"r", 1⟩ 0 0 [3, 8], .reception ⟨"r", 1⟩ 5 5 [0, 9]]).2 ≠
      timedSends (run (Link.step (CacheSpec.small .latest) 0) throttled
        (purge (Link.step (CacheSpec.small .latest) 0) (Stale (CacheSpec.small .latest)) throttled
          [.reception ⟨"r", 1⟩ 0 0 [3, 8], .reception ⟨"r", 1⟩ 5 5 [0, 9]])).2 := by
  decide

end Link

end HakoniwaBridge
