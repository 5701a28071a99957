import HakoniwaBridge.Lib.Product
import HakoniwaBridge.Plan
import HakoniwaBridge.Run

/-!
# A bridge as the product of its transfers

The calls that the transfers of a built bridge make of their policies, over any trace of
receptions, cyclic triggers and changes outside (the passing of time among them).

* `PolicyCall`, `Policy.solo` — one call of a policy, with what the clock says at the check and
  after the action, and a policy that runs alone on such calls.
* `Bridge.policyLog` — the calls of a step with the answers; `policyLog_logs`: they are a log of
  the policies side by side.
* `TransferPlan.part` — a transfer's own part of a trace, read off its plan.
* `independent` — **the product**: each transfer is asked exactly on its own part of the trace,
  and answers what a fresh policy answers that runs alone on the same calls.
-/

namespace HakoniwaBridge

open Lib

variable {ε : Type} {E : Env ε}

/-! ## Policies on their own -/

/-- A call of a policy by the gate of a transfer: the key, and what the clock says at the check
and after the action. -/
structure PolicyCall where
  key : PduResolvedKey
  checkTime : UInt64
  doneTime : UInt64

/-- Nothing but a clock; the state is what it says. -/
def Env.clock : Env UInt64 where
  getPduChannelId _ _ := -1
  getPduName _ _ := ""
  getPduSize _ _ := 0
  recv _ _ _ now := (now, .error .noEntry)
  isRunning _ _ := (.ok, false)
  send _ _ _ now := (now, .ok)
  processRecvEvents _ now := now
  deliver _ _ _ now := now
  stop _ now := now
  close _ now := now
  getMicroseconds now := (now, now)
  hakoPduGetEpoch _ := none
  errorCode _ := 0

namespace Policy

/-- A policy that runs alone: the check, and if it lets the transfer fire, the note that it
did. -/
def solo (p : Policy) (call : PolicyCall) : Policy × Bool :=
  let checked := p.shouldTransfer .clock call.key call.checkTime
  (if checked.2.2 then (checked.1.onTransferred .clock call.doneTime).1 else checked.1,
    checked.2.2)

/-- Of the world a check takes in what the clock says, and nothing else. -/
theorem shouldTransfer_clock (key : PduResolvedKey) (p : Policy) (e : ε) :
    (p.shouldTransfer E key e).1 = (p.shouldTransfer .clock key (E.getMicroseconds e).2).1 ∧
      (p.shouldTransfer E key e).2.2 =
        (p.shouldTransfer .clock key (E.getMicroseconds e).2).2.2 := by
  cases p with
  | immediate p => exact ⟨rfl, rfl⟩
  | throttle p =>
    refine ⟨rfl, ?_⟩
    simp only [Policy.shouldTransfer, ThrottlePolicy.shouldTransfer]
    split_ifs <;> rfl
  | ticker p =>
    simp only [Policy.shouldTransfer, TickerPolicy.shouldTransfer]
    split_ifs <;> exact ⟨rfl, rfl⟩

theorem onTransferred_clock (p : Policy) (e : ε) :
    (p.onTransferred E e).1 = (p.onTransferred .clock (E.getMicroseconds e).2).1 := by
  cases p <;> rfl

end Policy

/-! ## The log of a bridge -/

/-- The entries of a log: the policy object called, the call and the answer. -/
abbrev PolicyLog := List (Nat × PolicyCall × Bool)

namespace ITransferPdu

/-- The call that the gate makes, as it is answered. -/
def gateLog (E : Env ε) (t : ITransferPdu) (key : PduResolvedKey) (action : ε → ε × List Send)
    (h : Host ε) : PolicyLog :=
  if t.isActive then
    let checked := (h.policies t.policy).shouldTransfer E key h.env
    [(t.policy, ⟨key, (E.getMicroseconds h.env).2, (E.getMicroseconds (action checked.2.1).1).2⟩,
      checked.2.2)]
  else []

/-- The call of `on_recv_callback`. -/
def recvLog (E : Env ε) (t : ITransferPdu) (pduKey : PduResolvedKey) (h : Host ε) : PolicyLog :=
  match t.body with
  | .transferPdu configKey resolvedKey =>
    t.gateLog E resolvedKey (t.transfer E configKey.endpointKey) h
  | .transferAtomicPduGroup keys => t.gateLog E pduKey (t.tryTransferGroup E keys) h

/-- The call of `cyclic_trigger`. -/
def cyclicLog (E : Env ε) (t : ITransferPdu) (h : Host ε) : PolicyLog :=
  match t.body with
  | .transferPdu configKey resolvedKey =>
    if (h.policies t.policy).isCyclicTrigger then
      t.gateLog E resolvedKey (t.transfer E configKey.endpointKey) h
    else []
  | .transferAtomicPduGroup _ => []

/-- **The gate step.** A gate moves the policy objects as the called policy alone does. -/
theorem gated_logs (t : ITransferPdu) (key : PduResolvedKey) (action : ε → ε × List Send)
    (h : Host ε) :
    Logs Policy.solo h.policies (t.gateLog E key action h) (t.gated E key action h).1.policies := by
  by_cases hactive : t.isActive = true
  · obtain ⟨hpolicy, hanswer⟩ :=
      Policy.shouldTransfer_clock (E := E) key (h.policies t.policy) h.env
    unfold gateLog gated
    rw [if_pos hactive, if_pos hactive]
    generalize hcheck : (h.policies t.policy).shouldTransfer E key h.env = checked at *
    obtain ⟨p, e, fires⟩ := checked
    dsimp only at hpolicy hanswer ⊢
    -- the same call, made of the policy alone
    have hsolo : (h.policies t.policy).solo
        ⟨key, (E.getMicroseconds h.env).2, (E.getMicroseconds (action e).1).2⟩ =
        (if fires then (p.onTransferred E (action e).1).1 else p, fires) := by
      unfold Policy.solo
      rw [hpolicy, hanswer, Policy.onTransferred_clock (E := E)]
    have hcall := @Logs.cons _ _ _ _ _ Policy.solo h.policies _ [] t.policy
      ⟨key, (E.getMicroseconds h.env).2, (E.getMicroseconds (action e).1).2⟩ (.nil _)
    rw [hsolo] at hcall
    cases fires with
    | true => exact hcall
    | false => exact hcall
  · unfold gateLog gated
    rw [if_neg hactive, if_neg hactive]
    exact .nil _

theorem onRecvCallback_logs (t : ITransferPdu) (key : PduResolvedKey) (h : Host ε) :
    Logs Policy.solo h.policies (t.recvLog E key h) (t.onRecvCallback E key h).1.policies := by
  unfold recvLog onRecvCallback
  cases t.body with
  | transferPdu configKey resolvedKey => exact gated_logs t resolvedKey _ h
  | transferAtomicPduGroup keys => exact gated_logs t key _ h

theorem cyclicTrigger_logs (t : ITransferPdu) (h : Host ε) :
    Logs Policy.solo h.policies (t.cyclicLog E h) (t.cyclicTrigger E h).1.policies := by
  unfold cyclicLog cyclicTrigger
  cases t.body with
  | transferPdu configKey resolvedKey =>
    dsimp only
    split_ifs
    · exact gated_logs t resolvedKey _ h
    · exact .nil _
  | transferAtomicPduGroup keys => exact .nil _

end ITransferPdu

namespace BridgeCore

/-- The calls of the transfers of a connection. -/
def triggerAllLog (E : Env ε) : List ITransferPdu → Host ε → PolicyLog
  | [], _ => []
  | t :: ts, h => t.cyclicLog E h ++ triggerAllLog E ts (t.cyclicTrigger E h).1

/-- The calls of `BridgeCore::cyclic_trigger`. -/
def triggerConnectionsLog (E : Env ε) : List BridgeConnection → Host ε → PolicyLog
  | [], _ => []
  | c :: cs, h =>
    (if c.isActive then triggerAllLog E c.transferPdus h else []) ++
      triggerConnectionsLog E cs (c.cyclicTrigger E h).1

theorem triggerAll_logs (ts : List ITransferPdu) (h : Host ε) :
    Logs Policy.solo h.policies (triggerAllLog E ts h)
      (BridgeConnection.triggerAll E ts h).1.policies := by
  induction ts generalizing h with
  | nil => exact .nil _
  | cons t ts ih => exact (t.cyclicTrigger_logs h).append (ih _)

theorem triggerConnections_logs (cs : List BridgeConnection) (h : Host ε) :
    Logs Policy.solo h.policies (triggerConnectionsLog E cs h)
      (triggerConnections E cs h).1.policies := by
  induction cs generalizing h with
  | nil => exact .nil _
  | cons c cs ih =>
    refine Logs.append ?_ (ih _)
    unfold BridgeConnection.cyclicTrigger
    split_ifs
    · exact triggerAll_logs c.transferPdus h
    · exact .nil _

end BridgeCore

namespace Bridge

/-- The call of one callback. -/
def callbackLog (E : Env ε) (core : BridgeCore) (key : PduResolvedKey) (callback : Callback)
    (h : Host ε) : PolicyLog :=
  match callback with
  | .transfer self =>
    match core.findTransfer self with
    | some t => t.recvLog E key h
    | none => []
  | _ => []

/-- The calls of the callbacks of a reception. -/
def callbacksLog (E : Env ε) (core : BridgeCore) (key : PduResolvedKey) :
    List Callback → Host ε → PolicyLog
  | [], _ => []
  | callback :: rest, h =>
    callbackLog E core key callback h ++
      callbacksLog E core key rest (fireCallback E core key callback h).1

/-- The calls that a step makes of policies, with the answers. -/
def policyLog (E : Env ε) (b : Bridge ε) (op : Op ε) : PolicyLog :=
  match op with
  | .reception endpointId key data =>
    callbacksLog E b.core key (callbacksFor b.host.registry (.container endpointId) key)
      { b.host with env := E.deliver (.container endpointId) key data b.host.env }
  | .cyclicTrigger _ =>
    if b.core.isRunning = false then []
    else
      let env := b.core.endpointIds.foldl (fun e id => E.processRecvEvents (.container id) e)
        b.host.env
      BridgeCore.triggerConnectionsLog E b.core.connections { b.host with env := env }
  | _ => []

/-- The bridge as a machine that puts out the calls of its policies. -/
def logStep (E : Env ε) (b : Bridge ε) (op : Op ε) : Bridge ε × PolicyLog :=
  ((b.step E op).1, b.policyLog E op)

theorem fireCallbacks_logs (core : BridgeCore) (key : PduResolvedKey) (callbacks : List Callback)
    (h : Host ε) :
    Logs Policy.solo h.policies (callbacksLog E core key callbacks h)
      (fireCallbacks E core key callbacks h).1.policies := by
  induction callbacks generalizing h with
  | nil => exact .nil _
  | cons callback rest ih =>
    refine Logs.append ?_ (ih _)
    unfold callbackLog fireCallback
    cases callback with
    | transfer self =>
      dsimp only
      cases core.findTransfer self with
      | some t => exact t.onRecvCallback_logs key h
      | none => exact .nil _
    | _ => exact .nil _

end Bridge

/-! ## Traces -/

/-- Receptions, cyclic triggers and changes outside, and the start and stop of the core. -/
def Op.isTrace : Op ε → Bool
  | .start | .stop | .environment _ | .reception _ _ _ | .cyclicTrigger _ => true
  | _ => false

namespace Bridge

/-- What a trace leaves as it is. -/
structure Steady (b₀ b : Bridge ε) : Prop where
  connections : b.core.connections = b₀.core.connections
  book : Host.SameBook b₀.host b.host
  detached : b.runtimeAttached = false

theorem Steady.step {b₀ b : Bridge ε} (hs : Steady b₀ b) {op : Op ε} (hop : op.isTrace = true) :
    Steady b₀ (b.step E op).1 := by
  cases op with
  | start =>
    refine ⟨?_, hs.book.trans (Host.sameBook_env b.host _), hs.detached⟩
    rw [← hs.connections]
    show (b.core.start E b.host.env).1.connections = b.core.connections
    unfold BridgeCore.start
    split_ifs <;> rfl
  | stop =>
    show Steady b₀ (b.stop E)
    unfold Bridge.stop
    rw [if_neg (by simp [hs.detached])]
    exact ⟨hs.connections, hs.book, hs.detached⟩
  | environment f =>
    exact ⟨hs.connections, hs.book.trans (Host.sameBook_env b.host _), hs.detached⟩
  | reception endpointId key data =>
    refine ⟨hs.connections, hs.book.trans ?_, hs.detached⟩
    exact (Host.sameBook_env b.host _).trans
      (ControlClosed.fireCallbacks_sameBook E b.core key _ _)
  | cyclicTrigger accepted =>
    show Steady b₀ (b.cyclicTrigger E accepted).1
    unfold Bridge.cyclicTrigger
    dsimp only
    split_ifs with hstopped hattached
    · exact hs
    · exact absurd (hs.detached.symm.trans hattached) Bool.false_ne_true
    · exact ⟨hs.connections, hs.book.trans ((Host.sameBook_env b.host _).trans
        (ControlClosed.triggerConnections_sameBook E b.core.connections _)), hs.detached⟩
  | _ => exact absurd hop Bool.false_ne_true

/-- **The step of a trace.** It moves the policy objects as they move side by side. -/
theorem policyLog_logs {b : Bridge ε} (hdetached : b.runtimeAttached = false) {op : Op ε}
    (hop : op.isTrace = true) :
    Logs Policy.solo b.host.policies (b.policyLog E op) (b.step E op).1.host.policies := by
  cases op with
  | start => exact .nil _
  | stop =>
    show Logs Policy.solo b.host.policies [] (b.stop E).host.policies
    unfold Bridge.stop
    rw [if_neg (by simp [hdetached])]
    exact .nil _
  | environment f => exact .nil _
  | reception endpointId key data =>
    exact fireCallbacks_logs b.core key _
      { b.host with env := E.deliver (.container endpointId) key data b.host.env }
  | cyclicTrigger accepted =>
    show Logs Policy.solo b.host.policies (b.policyLog E (.cyclicTrigger accepted))
      (b.cyclicTrigger E accepted).1.host.policies
    unfold policyLog Bridge.cyclicTrigger
    dsimp only
    split_ifs with hstopped hattached
    · exact .nil _
    · exact absurd (hdetached.symm.trans hattached) Bool.false_ne_true
    · let env := b.core.endpointIds.foldl (fun e id => E.processRecvEvents (.container id) e)
        b.host.env
      exact BridgeCore.triggerConnections_logs b.core.connections { b.host with env := env }
  | _ => exact absurd hop Bool.false_ne_true

end Bridge

/-! ## Who is asked -/

namespace ITransferPdu

/-- A constructor registers callbacks of its own object, or empty ones. -/
theorem callback_of_mem_registrations {h : Host ε} (t : ITransferPdu) {reg : Registration}
    (hreg : reg ∈ t.registrations h) :
    reg.callback = .silent ∨ reg.callback = .transfer t.self := by
  unfold registrations at hreg
  split at hreg
  · rw [List.mem_singleton.1 hreg]
    dsimp only
    split_ifs
    · exact Or.inl rfl
    · exact Or.inr rfl
  · obtain ⟨key, -, rfl⟩ := List.mem_map.1 hreg
    exact Or.inr rfl

/-- The key about which the gate asks when the callback runs. -/
def askedKey (t : ITransferPdu) (pduKey : PduResolvedKey) : PduResolvedKey :=
  match t.body with
  | .transferPdu _ resolvedKey => resolvedKey
  | .transferAtomicPduGroup _ => pduKey

/-- The keys about which the gate asks at a cyclic trigger. -/
def cyclicKeys (h : Host ε) (t : ITransferPdu) : List PduResolvedKey :=
  match t.body with
  | .transferPdu _ resolvedKey =>
    if (h.policies t.policy).isCyclicTrigger then [resolvedKey] else []
  | .transferAtomicPduGroup _ => []

end ITransferPdu

/-- The keys about which one policy object was asked. -/
def askedKeys (i : Nat) (log : PolicyLog) : List PduResolvedKey := (own i log).map (·.1.key)

theorem askedKeys_append (i : Nat) (log log' : PolicyLog) :
    askedKeys i (log ++ log') = askedKeys i log ++ askedKeys i log' := by
  simp [askedKeys, own_append]

theorem askedKeys_gateLog {t : ITransferPdu} (hactive : t.isActive = true) (i : Nat)
    (key : PduResolvedKey) (action : ε → ε × List Send) (h : Host ε) :
    askedKeys i (t.gateLog E key action h) = if t.policy = i then [key] else [] := by
  unfold askedKeys ITransferPdu.gateLog
  rw [if_pos hactive]
  by_cases hi : t.policy = i
  · subst hi
    simp [own]
  · simp [own, hi]

theorem askedKeys_recvLog {t : ITransferPdu} (hactive : t.isActive = true) (i : Nat)
    (key : PduResolvedKey) (h : Host ε) :
    askedKeys i (t.recvLog E key h) = if t.policy = i then [t.askedKey key] else [] := by
  unfold ITransferPdu.recvLog ITransferPdu.askedKey
  cases t.body with
  | transferPdu configKey resolvedKey => exact askedKeys_gateLog hactive i resolvedKey _ h
  | transferAtomicPduGroup keys => exact askedKeys_gateLog hactive i key _ h

theorem askedKeys_cyclicLog {t : ITransferPdu} (hactive : t.isActive = true) (i : Nat)
    (h : Host ε) :
    askedKeys i (t.cyclicLog E h) = if t.policy = i then t.cyclicKeys h else [] := by
  unfold ITransferPdu.cyclicLog ITransferPdu.cyclicKeys
  cases t.body with
  | transferPdu configKey resolvedKey =>
    dsimp only
    by_cases hcyclic : (h.policies t.policy).isCyclicTrigger = true
    · rw [if_pos hcyclic, if_pos hcyclic]
      exact askedKeys_gateLog hactive i resolvedKey _ h
    · rw [if_neg hcyclic, if_neg hcyclic, ite_self]
      rfl
  | transferAtomicPduGroup keys => exact (ite_self _).symm

/-- At a cyclic trigger each transfer is asked once, if it is cyclic. -/
theorem askedKeys_triggerAllLog {ts : List ITransferPdu} (hactive : ∀ t ∈ ts, t.isActive = true)
    (i : Nat) (h : Host ε) :
    askedKeys i (BridgeCore.triggerAllLog E ts h) =
      ts.flatMap fun t => if t.policy = i then t.cyclicKeys h else [] := by
  induction ts generalizing h with
  | nil => rfl
  | cons t ts ih =>
    have hclass := (t.cyclicTrigger_sameBook E h).cyclic
    have hkeys : ∀ t' : ITransferPdu, t'.cyclicKeys (t.cyclicTrigger E h).1 = t'.cyclicKeys h := by
      intro t'
      unfold ITransferPdu.cyclicKeys
      rw [hclass]
    unfold BridgeCore.triggerAllLog
    rw [askedKeys_append, askedKeys_cyclicLog (hactive t List.mem_cons_self),
      ih fun t' ht' => hactive t' (List.mem_cons_of_mem _ ht'), List.flatMap_cons]
    simp only [hkeys]

/-- Active connections trigger their transfers one after another. -/
theorem triggerConnectionsLog_eq {cs : List BridgeConnection}
    (hactive : ∀ c ∈ cs, c.isActive = true) (h : Host ε) :
    BridgeCore.triggerConnectionsLog E cs h =
      BridgeCore.triggerAllLog E (cs.flatMap (·.transferPdus)) h := by
  have happend : ∀ (ts us : List ITransferPdu) (h : Host ε),
      BridgeCore.triggerAllLog E (ts ++ us) h = BridgeCore.triggerAllLog E ts h ++
        BridgeCore.triggerAllLog E us (BridgeConnection.triggerAll E ts h).1 := by
    intro ts us
    induction ts with
    | nil => exact fun h => rfl
    | cons t ts ih =>
      intro h
      simp only [List.cons_append, BridgeCore.triggerAllLog, BridgeConnection.triggerAll, ih,
        List.append_assoc]
  induction cs generalizing h with
  | nil => rfl
  | cons c cs ih =>
    have hc := hactive c List.mem_cons_self
    unfold BridgeCore.triggerConnectionsLog BridgeConnection.cyclicTrigger
    rw [if_pos hc, if_pos hc, List.flatMap_cons, happend,
      ih fun c' hc' => hactive c' (List.mem_cons_of_mem _ hc')]

/-- Connections as a build leaves them: no object and no policy object is shared, and everything
is active. -/
structure Orderly (cs : List BridgeConnection) : Prop where
  selfs : ((cs.flatMap (·.transferPdus)).map (·.self)).Nodup
  policies : ((cs.flatMap (·.transferPdus)).map (·.policy)).Nodup
  active : ∀ c ∈ cs, c.isActive = true
  transfers : ∀ t ∈ cs.flatMap (·.transferPdus), t.isActive = true

namespace Orderly

variable {core : BridgeCore} {t : ITransferPdu}

theorem findTransfer (ho : Orderly core.connections)
    (ht : t ∈ core.connections.flatMap (·.transferPdus)) : core.findTransfer t.self = some t := by
  cases hfind : core.findTransfer t.self with
  | none =>
    have hnone := List.find?_eq_none.1 hfind t ht
    simp at hnone
  | some t' =>
    have hself : t'.self = t.self := by simpa using List.find?_some hfind
    rw [List.inj_on_of_nodup_map ho.selfs (List.mem_of_find?_eq_some hfind) ht hself]

/-- At a reception a transfer is asked once for each of its callbacks. -/
theorem askedKeys_callbacksLog (ho : Orderly core.connections)
    (ht : t ∈ core.connections.flatMap (·.transferPdus)) (key : PduResolvedKey)
    (callbacks : List Callback) (h : Host ε) :
    askedKeys t.policy (Bridge.callbacksLog E core key callbacks h) =
      (callbacks.filter fun callback => decide (callback = .transfer t.self)).map
        fun _ => t.askedKey key := by
  induction callbacks generalizing h with
  | nil => rfl
  | cons callback rest ih =>
    have hfirst : askedKeys t.policy (Bridge.callbackLog E core key callback h) =
        if callback = .transfer t.self then [t.askedKey key] else [] := by
      cases callback with
      | transfer self =>
        unfold Bridge.callbackLog
        by_cases hself : self = t.self
        · subst hself
          simp only [ho.findTransfer ht, if_true]
          rw [askedKeys_recvLog (ho.transfers t ht), if_pos rfl]
        · rw [if_neg (by simpa using hself)]
          cases hfind : core.findTransfer self with
          | none =>
            simp only [hfind]
            rfl
          | some t' =>
            have hmem := List.mem_of_find?_eq_some hfind
            have hself' : t'.self = self := by simpa using List.find?_some hfind
            have hne : t'.policy ≠ t.policy := fun heq => hself
              (hself' ▸ congrArg _ (List.inj_on_of_nodup_map ho.policies hmem ht heq))
            simp only [hfind]
            rw [askedKeys_recvLog (ho.transfers t' hmem), if_neg hne]
      | silent => rfl
      | control => rfl
    unfold Bridge.callbacksLog
    rw [askedKeys_append, hfirst, ih, List.filter_cons]
    by_cases heq : callback = .transfer t.self <;> simp [heq]

/-- At a cyclic trigger a transfer is asked once, if it is cyclic. -/
theorem askedKeys_triggerConnectionsLog (ho : Orderly core.connections)
    (ht : t ∈ core.connections.flatMap (·.transferPdus)) (h : Host ε) :
    askedKeys t.policy (BridgeCore.triggerConnectionsLog E core.connections h) =
      t.cyclicKeys h := by
  have hnd : (core.connections.flatMap (·.transferPdus)).Nodup := ho.selfs.of_map
  rw [triggerConnectionsLog_eq ho.active, askedKeys_triggerAllLog ho.transfers,
    flatMap_of_only hnd ht, if_pos rfl]
  exact fun t' ht' hne => if_neg fun heq =>
    hne (List.inj_on_of_nodup_map ho.policies ht' ht heq)

end Orderly

/-! ## The part of a transfer -/

namespace TransferPlan

/-- What an operation asks of a transfer: a cyclic one at the triggers of a running core, any other
at the receptions of its keys, once for each callback. -/
def hears (E : Env ε) (p : TransferPlan) (running : Bool) : Op ε → List PduResolvedKey
  | .reception endpointId key _ =>
    if p.src = .container endpointId ∧ p.policyDef.type ≠ "ticker" then
      List.replicate ((p.resolvedKeys E).count key) key
    else []
  | .cyclicTrigger _ => if running ∧ p.policyDef.type = "ticker" then p.resolvedKeys E else []
  | _ => []

/-- Whether the core runs after an operation of a trace. -/
def runsAfter (running : Bool) : Op ε → Bool
  | .start => true
  | .stop => false
  | _ => running

/-- A transfer's own part of a trace. -/
def part (E : Env ε) (p : TransferPlan) : Bool → List (Op ε) → List PduResolvedKey
  | _, [] => []
  | running, op :: ops => p.hears E running op ++ part E p (runsAfter running op) ops

end TransferPlan

namespace Realizes

variable {h : Host ε} {t : ITransferPdu} {p : TransferPlan}

theorem isCyclicTrigger (hr : Realizes E h t p) :
    (h.policies t.policy).isCyclicTrigger = decide (p.policyDef.type = "ticker") :=
  TransferPlan.isCyclicTrigger_freshPolicy hr.policy

/-- What a transfer listens on, as its plan has it. -/
theorem of_listens (hr : Realizes E h t p) {ep : EndpointRef} {key : PduResolvedKey}
    (hlistens : t.Listens h ep key) :
    p.src = ep ∧ key ∈ p.resolvedKeys E ∧ p.policyDef.type ≠ "ticker" := by
  have hbody := hr.body
  unfold TransferPlan.body at hbody
  unfold ITransferPdu.Listens at hlistens
  unfold TransferPlan.resolvedKeys
  cases hkeys : p.keys with
  | single configKey =>
    rw [hkeys] at hbody
    rw [hbody] at hlistens
    obtain ⟨hsrc, hkey, hevent⟩ := hlistens
    rw [hr.isCyclicTrigger, decide_eq_false_iff_not] at hevent
    exact ⟨(hsrc.trans hr.src).symm, List.mem_singleton.2 hkey, hevent⟩
  | group keys =>
    rw [hkeys] at hbody
    rw [hbody] at hlistens
    refine ⟨(hlistens.1.trans hr.src).symm, hlistens.2, ?_⟩
    rw [hr.group keys hkeys]
    decide

/-- The callbacks of a transfer for a key. -/
theorem callbacksFor_registrations (hr : Realizes E h t p) (ep : EndpointRef)
    (key : PduResolvedKey) :
    (Bridge.callbacksFor (t.registrations h) ep key).filter
        (fun callback => decide (callback = .transfer t.self)) =
      if p.src = ep ∧ p.policyDef.type ≠ "ticker" then
        List.replicate ((p.resolvedKeys E).count key) (.transfer t.self)
      else [] := by
  have hbody := hr.body
  have hcyclic := hr.isCyclicTrigger
  unfold TransferPlan.body at hbody
  unfold ITransferPdu.registrations TransferPlan.resolvedKeys Bridge.callbacksFor
  cases hkeys : p.keys with
  | single configKey =>
    rw [hkeys] at hbody
    rw [hbody, hr.src, hcyclic]
    by_cases hsrc : p.src = ep
    · subst hsrc
      by_cases hkey : resolveKey E p.src configKey = key
      · subst hkey
        by_cases hticker : p.policyDef.type = "ticker" <;> simp [hticker]
      · simp [hkey]
    · simp [hsrc]
  | group keys =>
    have htype : p.policyDef.type ≠ "ticker" := by
      rw [hr.group keys hkeys]
      decide
    rw [hkeys] at hbody
    rw [hbody, hr.src]
    by_cases hsrc : p.src = ep
    · have hfilter : ∀ ks : List PduResolvedKey,
          (ks.filter fun k => decide (k = key)).map (fun _ => Callback.transfer t.self) =
            List.replicate (ks.count key) (.transfer t.self) := by
        intro ks
        rw [List.filter_eq, List.map_replicate]
      subst hsrc
      simp [htype, ← hfilter, List.filter_map, Function.comp_def]
    · simp [hsrc, List.filter_map, Function.comp_def]

/-- What the callbacks of a transfer ask about is the received key. -/
theorem askedKey_eq (hr : Realizes E h t p) {key : PduResolvedKey}
    (hkey : key ∈ p.resolvedKeys E) : t.askedKey key = key := by
  have hbody := hr.body
  unfold TransferPlan.body at hbody
  unfold TransferPlan.resolvedKeys at hkey
  unfold ITransferPdu.askedKey
  cases hkeys : p.keys with
  | single configKey =>
    rw [hkeys] at hbody hkey
    rw [hbody]
    exact (List.mem_singleton.1 hkey).symm
  | group keys =>
    rw [hkeys] at hbody
    rw [hbody]

theorem cyclicKeys_eq (hr : Realizes E h t p) :
    t.cyclicKeys h = if p.policyDef.type = "ticker" then p.resolvedKeys E else [] := by
  have hbody := hr.body
  have hcyclic := hr.isCyclicTrigger
  unfold TransferPlan.body at hbody
  unfold TransferPlan.resolvedKeys ITransferPdu.cyclicKeys
  cases hkeys : p.keys with
  | single configKey =>
    rw [hkeys] at hbody
    rw [hbody, hcyclic]
    simp
  | group keys =>
    rw [hkeys] at hbody
    rw [hbody, hr.group keys hkeys]
    rfl

end Realizes

/-! ## The product -/

/-- A built bridge, with the transfers that its configuration asks for. -/
theorem orderly_of_boot {cfg : BridgeConfig} {nodeName : String} {container : List String} {e : ε}
    {b : Bridge ε} (hboot : Bridge.boot E cfg nodeName container e = some b) :
    Orderly b.core.connections ∧ AssembledCore E cfg (Host.boot e) b.core.connections
      (cfg.connections.filter fun connDef => connDef.nodeId = nodeName) b.host := by
  have hbooted := Bridge.booted_of_boot hboot
  obtain ⟨e', hbuilt⟩ := hbooted.built
  have hassembled : AssembledCore E cfg (Host.boot e) b.core.connections
      (cfg.connections.filter fun connDef => connDef.nodeId = nodeName) b.host := by
    unfold Bridge.boot at hboot
    split at hboot
    · next h core heq =>
      obtain rfl := Option.some.inj hboot
      exact assembled_of_build heq
    · simp at hboot
  refine ⟨⟨?_, hassembled.assembled.nodup, hbuilt.active, fun t ht => ?_⟩, hassembled⟩
  · have hnd := hbuilt.wf.nodup
    rw [List.map_flatMap]
    exact hnd
  · obtain ⟨c, hc, ht⟩ := List.mem_flatMap.1 ht
    exact (hbuilt.transfers c hc t ht).active

namespace Bridge

variable {b₀ b : Bridge ε} {t : ITransferPdu} {p : TransferPlan}

/-- Among the callbacks for a key, those that capture a transfer are the ones that it registered. -/
theorem callbacksFor_captured (ho : Orderly b₀.core.connections)
    (hregistry : b₀.host.registry =
      (b₀.core.connections.flatMap (·.transferPdus)).flatMap (·.registrations b₀.host))
    (ht : t ∈ b₀.core.connections.flatMap (·.transferPdus)) (ep : EndpointRef)
    (key : PduResolvedKey) :
    (callbacksFor b₀.host.registry ep key).filter
        (fun callback => decide (callback = .transfer t.self)) =
      (callbacksFor (t.registrations b₀.host) ep key).filter
        fun callback => decide (callback = .transfer t.self) := by
  rw [hregistry]
  simp only [callbacksFor, List.filter_flatMap, List.map_flatMap]
  apply flatMap_of_only ho.selfs.of_map ht
  intro t' ht' hne
  have hself : t'.self ≠ t.self := fun heq =>
    hne (List.inj_on_of_nodup_map ho.selfs ht' ht heq)
  apply List.filter_eq_nil_iff.2
  intro callback hmem heq
  obtain ⟨reg, hreg, rfl⟩ := List.mem_map.1 hmem
  have hcallback := of_decide_eq_true heq
  rcases t'.callback_of_mem_registrations (List.mem_filter.1 hreg).1 with hsilent | htransfer
  · exact absurd (hsilent.symm.trans hcallback) (by simp)
  · exact hself (Callback.transfer.inj (htransfer.symm.trans hcallback))

/-- **The step of one transfer.** It is asked exactly what the operation asks of it. -/
theorem askedKeys_policyLog (ho : Orderly b₀.core.connections)
    (hregistry : b₀.host.registry =
      (b₀.core.connections.flatMap (·.transferPdus)).flatMap (·.registrations b₀.host))
    (hs : Steady b₀ b) (ht : t ∈ b₀.core.connections.flatMap (·.transferPdus))
    (hr : Realizes E b₀.host t p) (op : Op ε) :
    askedKeys t.policy (b.policyLog E op) = p.hears E b.core.isRunning op := by
  have ho' : Orderly b.core.connections := by
    rw [hs.connections]
    exact ho
  have ht' : t ∈ b.core.connections.flatMap (·.transferPdus) := by
    rw [hs.connections]
    exact ht
  cases op with
  | reception endpointId key data =>
    have hasked := ho'.askedKeys_callbacksLog (E := E) ht' key
      (callbacksFor b.host.registry (.container endpointId) key)
      { b.host with env := E.deliver (.container endpointId) key data b.host.env }
    apply hasked.trans
    rw [hs.book.registry, callbacksFor_captured ho hregistry ht, hr.callbacksFor_registrations]
    show _ = if p.src = .container endpointId ∧ p.policyDef.type ≠ "ticker" then
      List.replicate ((p.resolvedKeys E).count key) key else []
    split_ifs with hown
    · rw [List.map_replicate]
      by_cases hkey : key ∈ p.resolvedKeys E
      · rw [hr.askedKey_eq hkey]
      · rw [List.count_eq_zero_of_not_mem hkey]
        rfl
    · rfl
  | cyclicTrigger accepted =>
    have hcyclic : t.cyclicKeys b.host = t.cyclicKeys b₀.host := by
      unfold ITransferPdu.cyclicKeys
      rw [hs.book.cyclic]
    unfold policyLog TransferPlan.hears
    cases hrun : b.core.isRunning with
    | false => rfl
    | true =>
      dsimp only
      rw [if_neg (by simp), ho'.askedKeys_triggerConnectionsLog ht']
      apply hcyclic.trans
      rw [hr.cyclicKeys_eq]
      simp
  | _ => rfl

theorem isRunning_step (hdetached : b.runtimeAttached = false) {op : Op ε}
    (hop : op.isTrace = true) :
    (b.step E op).1.core.isRunning = TransferPlan.runsAfter b.core.isRunning op := by
  cases op with
  | start =>
    show (b.core.start E b.host.env).1.isRunning = true
    unfold BridgeCore.start
    split_ifs with hrun
    · exact hrun
    · rfl
  | stop =>
    show (b.stop E).core.isRunning = false
    unfold Bridge.stop
    rw [if_neg (by simp [hdetached])]
  | environment f => rfl
  | reception endpointId key data => rfl
  | cyclicTrigger accepted =>
    show (b.cyclicTrigger E accepted).1.core.isRunning = b.core.isRunning
    unfold Bridge.cyclicTrigger
    dsimp only
    split_ifs with hstopped hattached
    · rfl
    · exact absurd (hdetached.symm.trans hattached) Bool.false_ne_true
    · rfl
  | _ => exact absurd hop Bool.false_ne_true

/-- **The run of a trace.** The log is one of the policies side by side, and each transfer is asked
on its own part. -/
theorem logs_run (ho : Orderly b₀.core.connections)
    (hregistry : b₀.host.registry =
      (b₀.core.connections.flatMap (·.transferPdus)).flatMap (·.registrations b₀.host))
    (hs : Steady b₀ b) {ops : List (Op ε)} (hops : ∀ op ∈ ops, op.isTrace = true) :
    Logs Policy.solo b.host.policies (run (logStep E) b ops).2
        (run (logStep E) b ops).1.host.policies ∧
      ∀ t ∈ b₀.core.connections.flatMap (·.transferPdus), ∀ p, Realizes E b₀.host t p →
        askedKeys t.policy (run (logStep E) b ops).2 = p.part E b.core.isRunning ops := by
  induction ops generalizing b with
  | nil => exact ⟨.nil _, fun _ _ _ _ => rfl⟩
  | cons op ops ih =>
    have hop := hops op List.mem_cons_self
    obtain ⟨hlogs, hasked⟩ := ih (hs.step (E := E) hop)
      fun op' hop' => hops op' (List.mem_cons_of_mem _ hop')
    refine ⟨(policyLog_logs hs.detached hop).append hlogs, fun t ht p hr => ?_⟩
    have hrest := hasked t ht p hr
    rw [isRunning_step hs.detached hop] at hrest
    rw [run_cons_snd, askedKeys_append]
    exact congrArg₂ (· ++ ·) (askedKeys_policyLog ho hregistry hs ht hr op) hrest

/-- A transfer of a bridge answers as a fresh policy answers that runs alone on the same part of
the trace. -/
structure RunsAlone (E : Env ε) (b : Bridge ε) (ops : List (Op ε)) (t : ITransferPdu)
    (p : TransferPlan) (policy : Policy) : Prop where
  fresh : p.freshPolicy E = .ok policy
  asked : askedKeys t.policy (run (logStep E) b ops).2 = p.part E false ops
  answers : (own t.policy (run (logStep E) b ops).2).map Prod.snd =
    (run (alone Policy.solo) policy ((own t.policy (run (logStep E) b ops).2).map Prod.fst)).2

/-- **The product.** A built core has, for each connection of its node, in the order of the
configuration, exactly the transfers that the connection asks for, each with a policy object of
its own; and over every trace each of them is asked on its own part alone, and answers as if it
ran alone. -/
theorem independent {cfg : BridgeConfig} {nodeName : String} {container : List String} {e : ε}
    (hboot : boot E cfg nodeName container e = some b) {ops : List (Op ε)}
    (hops : ∀ op ∈ ops, op.isTrace = true) :
    ((b.core.connections.flatMap (·.transferPdus)).map (·.policy)).Nodup ∧
    List.Forall₂ (fun c connDef =>
        c.header = (connDef.nodeId, connDef.id, some (.container connDef.source),
          connDef.epochValidation.getD false) ∧
        List.Forall₂ (fun t p => t.srcEndpoint = p.src ∧ t.dstEndpoint = p.dst ∧
            t.body = p.body E ∧ ∃ policy, RunsAlone E b ops t p policy)
          c.transferPdus (planConnection cfg connDef))
      b.core.connections (cfg.connections.filter fun connDef => connDef.nodeId = nodeName) := by
  obtain ⟨ho, hassembled⟩ := orderly_of_boot hboot
  have hbooted := booted_of_boot hboot
  have hsteady : Steady b b := ⟨rfl, Host.SameBook.refl b.host, hbooted.notAttached⟩
  obtain ⟨hlogs, hasked⟩ := logs_run ho hassembled.assembled.registry hsteady hops
  rw [hbooted.idle] at hasked
  refine ⟨ho.policies, ?_⟩
  have hmem : ∀ c ∈ b.core.connections, ∀ t ∈ c.transferPdus,
      t ∈ b.core.connections.flatMap (·.transferPdus) :=
    fun c hc t ht => List.mem_flatMap.2 ⟨c, hc, ht⟩
  apply ((List.forall₂_and_left _ _).2 ⟨hmem, hassembled.connections⟩).imp
  rintro c connDef ⟨hc, hrealizes⟩
  refine ⟨hrealizes.header, ((List.forall₂_and_left _ _).2 ⟨hc, hrealizes.transfers⟩).imp ?_⟩
  rintro t p ⟨ht, hr⟩
  exact ⟨hr.src, hr.dst, hr.body, _, hr.policy, hasked t ht p hr, (logs_own hlogs t.policy).2⟩

/-- A throttle over two receptions of its key, with one of another key between them. -/
theorem independent_small :
    let E := (CacheSpec.small .latest).env none
    let b := (bootSmall .latest ⟨"throttle", some 1, none⟩ [⟨"k", "r", "pos"⟩] false).get rfl
    let ops : List (Op CacheState) := [.reception "src" ⟨"r", 1⟩ [7], .reception "src" ⟨"r", 2⟩ [8],
      .environment fun e => { e with clock := 1 }, .reception "src" ⟨"r", 1⟩ [9]]
    ∃ t p policy, b.core.connections.flatMap (·.transferPdus) = [t] ∧
      RunsAlone E b ops t p policy := by
  intro E b ops
  have hboot : boot E (BridgeConfig.small ⟨"throttle", some 1, none⟩ [⟨"k", "r", "pos"⟩] false)
      "node" ["src", "dst"] CacheState.empty = some b := (Option.some_get _).symm
  have hops : ∀ op ∈ ops, op.isTrace = true := by decide
  obtain ⟨-, hconnections⟩ := independent hboot hops
  obtain ⟨c, t, hc, ht⟩ : ∃ c t, b.core.connections = [c] ∧ c.transferPdus = [t] :=
    ⟨_, _, rfl, rfl⟩
  rw [hc] at hconnections
  obtain ⟨connDef, _, ⟨-, htransfers⟩, -, -⟩ := List.forall₂_cons_left_iff.1 hconnections
  rw [ht] at htransfers
  obtain ⟨p, _, ⟨-, -, -, policy, halone⟩, -, -⟩ := List.forall₂_cons_left_iff.1 htransfers
  exact ⟨t, p, policy, by rw [hc, List.flatMap_singleton, ht], halone⟩

end Bridge

end HakoniwaBridge
