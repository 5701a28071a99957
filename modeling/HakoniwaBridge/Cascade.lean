import HakoniwaBridge.Independence
import HakoniwaBridge.Lib.Acyclic

/-!
# Forwarding cascades

A local endpoint (one without a communication of its own) runs its receive callbacks inside `send`.
So a reception can cause receptions, before the transfer that caused them goes on. `Cascade` is the
model of receptions with this nesting; the depth is bounded by a fuel, and a result is `none` if
the bound does not suffice.

* `Cascade.receive` — a reception; it agrees with `Bridge.reception` if no destination is local
  (`receive_of_not_local`), and more fuel changes no result (`receive_mono`).
* `Cascade.Leads` — an active transfer leads from a key that it has a callback for to a key of its
  local destination. If all ways from a key end, so do the cascades of its PDUs, whatever policies
  and caches hold (`receive_ends`).
-/

namespace HakoniwaBridge

open Lib

variable {ε : Type}

/-! ## The messages of a transfer -/

namespace ITransferPdu

/-- What `TransferPdu::transfer` does before it sends: the buffer, unless it returns early. -/
def prepare (E : Env ε) (t : ITransferPdu) (key : PduKey) (e : ε) : ε × Option Bytes :=
  let pduSize := E.getPduSize t.srcEndpoint key
  if pduSize = 0 then (e, none)
  else
    match E.recv t.srcEndpoint (.named key) pduSize e with
    | (e₁, .error _) => (e₁, none)
    | (e₁, .ok received) =>
      let buffer := fillBuffer pduSize received
      if t.epochAccepted E buffer then
        if (E.isRunning t.dstEndpoint e₁).1 = .ok ∧ (E.isRunning t.dstEndpoint e₁).2 = false then
          (e₁, none)
        else (e₁, some buffer)
      else (e₁, none)

/-- What a transfer has to send, once it has read its source. -/
def outgoing (E : Env ε) (t : ITransferPdu) (e : ε) : ε × List (ApiKey × Bytes) :=
  match t.body with
  | .transferPdu configKey _ =>
    let r := t.prepare E configKey.endpointKey e
    (r.1, r.2.toList.map fun buffer => (.named configKey.endpointKey, buffer))
  | .transferAtomicPduGroup keys =>
    let r := t.readGroup E keys e
    (r.1, (r.2.getD []).map fun b => (.resolved b.1, b.2))

/-- The keys under which a transfer sends. -/
def sendKeys (t : ITransferPdu) : List ApiKey :=
  match t.body with
  | .transferPdu configKey _ => [.named configKey.endpointKey]
  | .transferAtomicPduGroup keys => keys.map .resolved

/-- A group has the destination process each PDU that it sent. -/
def processes (t : ITransferPdu) : Bool :=
  match t.body with
  | .transferPdu _ _ => false
  | .transferAtomicPduGroup _ => true

end ITransferPdu

/-- The key under which an endpoint takes in what is sent to it. -/
def arrivalKey (E : Env ε) (ep : EndpointRef) : ApiKey → PduResolvedKey
  | .named key => ⟨key.robot, E.getPduChannelId ep key⟩
  | .resolved key => key

/-! ## Nested receptions -/

namespace Cascade

/-- A reception that is nested in a call of `send`. -/
abbrev Nested (ε : Type) :=
  EndpointRef → PduResolvedKey → Bytes → Host ε → Option (Host ε × List Event)

variable (E : Env ε) (isLocal : EndpointRef → Bool) (nested : Nested ε)

/-- One `send`, with the reception that it causes at a local destination, and for a group the
`process_recv_events` after it. -/
def sendOne (t : ITransferPdu) (m : ApiKey × Bytes) (h : Host ε) : Option (Host ε × List Event) :=
  let sent := E.send t.dstEndpoint m.1 m.2 h.env
  let h₁ := { h with env := sent.1 }
  let caused :=
    if isLocal t.dstEndpoint = true ∧ sent.2 = .ok then
      nested t.dstEndpoint (arrivalKey E t.dstEndpoint m.1) m.2 h₁
    else some (h₁, [])
  caused.map fun r =>
    (if t.processes = true ∧ sent.2 = .ok then
      { r.1 with env := E.processRecvEvents t.dstEndpoint r.1.env } else r.1,
      .send ⟨t.self, t.dstEndpoint, m.1, m.2⟩ :: r.2)

/-- One `send` after another. -/
def sendAll (t : ITransferPdu) : List (ApiKey × Bytes) → Host ε → Option (Host ε × List Event)
  | [], h => some (h, [])
  | m :: ms, h =>
    (sendOne E isLocal nested t m h).bind fun r =>
      (sendAll t ms r.1).map fun r' => (r'.1, r.2 ++ r'.2)

/-- The callback of a transfer. The policy is told after the last send has returned, and finds what
the nested receptions made of it. -/
def fire (t : ITransferPdu) (key : PduResolvedKey) (h : Host ε) : Option (Host ε × List Event) :=
  if t.isActive then
    match (h.policies t.policy).shouldTransfer E (t.askedKey key) h.env with
    | (p, e, false) => some (h.put t.policy p e, [])
    | (p, e, true) =>
      let out := t.outgoing E e
      (sendAll E isLocal nested t out.2 (h.put t.policy p out.1)).map fun r =>
        let told := (r.1.policies t.policy).onTransferred E r.1.env
        (r.1.put t.policy told.1 told.2, r.2)
  else some (h, [])

/-- One callback. -/
def fireCallback (core : BridgeCore) (key : PduResolvedKey) (callback : Callback) (h : Host ε) :
    Option (Host ε × List Event) :=
  match callback with
  | .transfer self =>
    match core.findTransfer self with
    | some t => fire E isLocal nested t key h
    | none => some (h, [.dangling self])
  | .silent => some (h, [])
  | .control => some (h, [])

/-- The callbacks of a reception. -/
def fireCallbacks (core : BridgeCore) (key : PduResolvedKey) :
    List Callback → Host ε → Option (Host ε × List Event)
  | [], h => some (h, [])
  | callback :: rest, h =>
    (fireCallback E isLocal nested core key callback h).bind fun r =>
      (fireCallbacks core key rest r.1).map fun r' => (r'.1, r.2 ++ r'.2)

/-- A reception, with at most `fuel` receptions inside each other. -/
def receive (core : BridgeCore) : Nat → Nested ε
  | 0 => fun _ _ _ _ => none
  | fuel + 1 => fun ep key data h =>
    fireCallbacks E isLocal (receive core fuel) core key (Bridge.callbacksFor h.registry ep key)
      { h with env := E.deliver ep key data h.env }

/-! ### Without local destinations -/

variable {E isLocal nested}

/-- A send to an endpoint elsewhere. -/
theorem sendOne_of_not_local {t : ITransferPdu} (hlocal : isLocal t.dstEndpoint = false)
    (m : ApiKey × Bytes) (h : Host ε) :
    sendOne E isLocal nested t m h =
      some ({ h with env :=
          if t.processes = true ∧ (E.send t.dstEndpoint m.1 m.2 h.env).2 = .ok then
            E.processRecvEvents t.dstEndpoint (E.send t.dstEndpoint m.1 m.2 h.env).1
          else (E.send t.dstEndpoint m.1 m.2 h.env).1 },
        [.send ⟨t.self, t.dstEndpoint, m.1, m.2⟩]) := by
  simp only [sendOne, hlocal, Bool.false_eq_true, false_and, if_false, Option.map_some]
  split_ifs <;> rfl

/-- The sends of a group. -/
theorem sendAll_of_not_local {t : ITransferPdu} (hlocal : isLocal t.dstEndpoint = false)
    (hgroup : t.processes = true) (buffers : List (PduResolvedKey × Bytes)) (h : Host ε) :
    sendAll E isLocal nested t (buffers.map fun b => (.resolved b.1, b.2)) h =
      some ({ h with env := (t.sendGroup E buffers h.env).1 },
        (t.sendGroup E buffers h.env).2.map .send) := by
  induction buffers generalizing h with
  | nil => rfl
  | cons b rest ih =>
    simp only [List.map_cons, sendAll, sendOne_of_not_local hlocal, Option.bind_some, ih,
      Option.map_some, ITransferPdu.sendGroup, hgroup, true_and]
    rfl

/-- The transfer of a single PDU, cut where it sends. -/
theorem transfer_eq_prepare (t : ITransferPdu) (key : PduKey) (e : ε) :
    t.transfer E key e = match t.prepare E key e with
      | (e₁, none) => (e₁, [])
      | (e₁, some buffer) => ((E.send t.dstEndpoint (.named key) buffer e₁).1,
          [⟨t.self, t.dstEndpoint, .named key, buffer⟩]) := by
  unfold ITransferPdu.transfer ITransferPdu.prepare
  dsimp only
  split_ifs
  · rfl
  · rcases E.recv t.srcEndpoint (.named key) (E.getPduSize t.srcEndpoint key) e with
      ⟨e₁, err | received⟩
    · rfl
    · dsimp only
      split_ifs <;> rfl

theorem put_put (h : Host ε) (ref : Nat) (p p' : Policy) (e e' : ε) :
    (h.put ref p e).put ref p' e' = h.put ref p' e' := by
  simp [Host.put]

/-- A callback whose sends are those of an action is a gate around this action. -/
theorem fire_eq_gated {t : ITransferPdu} {h : Host ε} {action : ε → ε × List Send}
    (hsends : ∀ p e, sendAll E isLocal nested t (t.outgoing E e).2
        (h.put t.policy p (t.outgoing E e).1) =
      some (h.put t.policy p (action e).1, (action e).2.map .send)) (key : PduResolvedKey) :
    fire E isLocal nested t key h =
      some ((t.gated E (t.askedKey key) action h).1,
        (t.gated E (t.askedKey key) action h).2.map .send) := by
  unfold fire ITransferPdu.gated
  split_ifs
  · rcases (h.policies t.policy).shouldTransfer E (t.askedKey key) h.env with ⟨p, e, fires⟩
    cases fires with
    | false => rfl
    | true =>
      dsimp only
      rw [hsends, Option.map_some, put_put]
      simp [Host.put]
  · rfl

/-- **No nesting.** A callback whose destination is elsewhere is the one of the model without
nesting. -/
theorem fire_of_not_local {t : ITransferPdu} (hlocal : isLocal t.dstEndpoint = false)
    (key : PduResolvedKey) (h : Host ε) :
    fire E isLocal nested t key h =
      some ((t.onRecvCallback E key h).1, (t.onRecvCallback E key h).2.map .send) := by
  unfold ITransferPdu.onRecvCallback
  cases hbody : t.body with
  | transferPdu configKey resolvedKey =>
    have hasked : t.askedKey key = resolvedKey := by
      unfold ITransferPdu.askedKey
      rw [hbody]
    rw [← hasked]
    refine fire_eq_gated (fun p e => ?_) key
    rw [transfer_eq_prepare]
    unfold ITransferPdu.outgoing
    rw [hbody]
    dsimp only
    rcases t.prepare E configKey.endpointKey e with ⟨e₁, none | buffer⟩
    · rfl
    · simp [sendAll, sendOne_of_not_local hlocal, ITransferPdu.processes, hbody, Host.put]
  | transferAtomicPduGroup keys =>
    have hasked : t.askedKey key = key := by
      unfold ITransferPdu.askedKey
      rw [hbody]
    have hgroup : t.processes = true := by
      unfold ITransferPdu.processes
      rw [hbody]
    conv_rhs => rw [← hasked]
    refine fire_eq_gated (fun p e => ?_) key
    unfold ITransferPdu.outgoing ITransferPdu.tryTransferGroup
    rw [hbody]
    dsimp only
    rcases t.readGroup E keys e with ⟨e₁, none | buffers⟩
    · rfl
    · exact sendAll_of_not_local hlocal hgroup buffers _

/-- Callbacks of transfers whose destinations are elsewhere. -/
theorem fireCallbacks_of_not_local {core : BridgeCore}
    (hlocal : ∀ t ∈ core.connections.flatMap (·.transferPdus), isLocal t.dstEndpoint = false)
    (key : PduResolvedKey) (callbacks : List Callback) (h : Host ε) :
    fireCallbacks E isLocal nested core key callbacks h =
      some (Bridge.fireCallbacks E core key callbacks h) := by
  induction callbacks generalizing h with
  | nil => rfl
  | cons callback rest ih =>
    have hfirst : fireCallback E isLocal nested core key callback h =
        some (Bridge.fireCallback E core key callback h) := by
      unfold fireCallback Bridge.fireCallback
      cases callback with
      | transfer self =>
        dsimp only
        cases hfind : core.findTransfer self with
        | none => rfl
        | some t => exact fire_of_not_local (hlocal t (List.mem_of_find?_eq_some hfind)) key h
      | silent => rfl
      | control => rfl
    rw [fireCallbacks, hfirst, Option.bind_some, ih]
    rfl

/-- **Without local destinations** a reception is the one of the model without nesting. -/
theorem receive_of_not_local {b : Bridge ε}
    (hlocal : ∀ t ∈ b.core.connections.flatMap (·.transferPdus), isLocal t.dstEndpoint = false)
    (fuel : Nat) (endpointId : String) (key : PduResolvedKey) (data : Bytes) :
    receive E isLocal b.core (fuel + 1) (.container endpointId) key data b.host =
      some ((b.reception E endpointId key data).1.host, (b.reception E endpointId key data).2) :=
  fireCallbacks_of_not_local hlocal key _ _

/-! ### More fuel -/

/-- The results of `nested` are results of `nested'`. -/
def Nested.Le (nested nested' : Nested ε) : Prop :=
  ∀ ep key data h r, nested ep key data h = some r → nested' ep key data h = some r

variable {nested' : Nested ε} {r : Host ε × List Event}

theorem sendOne_le (hle : nested.Le nested') {t : ITransferPdu} {m : ApiKey × Bytes} {h : Host ε}
    (hr : sendOne E isLocal nested t m h = some r) : sendOne E isLocal nested' t m h = some r := by
  unfold sendOne at hr ⊢
  dsimp only at hr ⊢
  by_cases hlocal : isLocal t.dstEndpoint = true ∧
      (E.send t.dstEndpoint m.1 m.2 h.env).2 = .ok
  · rw [if_pos hlocal] at hr ⊢
    obtain ⟨r', hr', rfl⟩ := Option.map_eq_some_iff.1 hr
    rw [hle _ _ _ _ _ hr']
    rfl
  · rw [if_neg hlocal] at hr ⊢
    exact hr

theorem sendAll_le (hle : nested.Le nested') {t : ITransferPdu} {ms : List (ApiKey × Bytes)}
    {h : Host ε} (hr : sendAll E isLocal nested t ms h = some r) :
    sendAll E isLocal nested' t ms h = some r := by
  induction ms generalizing h r with
  | nil => exact hr
  | cons m ms ih =>
    obtain ⟨r₁, hr₁, hrest⟩ := Option.bind_eq_some_iff.1 hr
    obtain ⟨r₂, hr₂, rfl⟩ := Option.map_eq_some_iff.1 hrest
    rw [sendAll, sendOne_le hle hr₁, Option.bind_some, ih hr₂]
    rfl

theorem fire_le (hle : nested.Le nested') {t : ITransferPdu} {key : PduResolvedKey} {h : Host ε}
    (hr : fire E isLocal nested t key h = some r) : fire E isLocal nested' t key h = some r := by
  unfold fire at hr ⊢
  split_ifs at hr ⊢
  · split at hr
    · exact hr
    · obtain ⟨r', hr', rfl⟩ := Option.map_eq_some_iff.1 hr
      dsimp only
      rw [sendAll_le hle hr']
      rfl
  · exact hr

theorem fireCallbacks_le (hle : nested.Le nested') {core : BridgeCore} {key : PduResolvedKey}
    {callbacks : List Callback} {h : Host ε}
    (hr : fireCallbacks E isLocal nested core key callbacks h = some r) :
    fireCallbacks E isLocal nested' core key callbacks h = some r := by
  induction callbacks generalizing h r with
  | nil => exact hr
  | cons callback rest ih =>
    obtain ⟨r₁, hr₁, hrest⟩ := Option.bind_eq_some_iff.1 hr
    obtain ⟨r₂, hr₂, rfl⟩ := Option.map_eq_some_iff.1 hrest
    have hfirst : fireCallback E isLocal nested' core key callback h = some r₁ := by
      unfold fireCallback at hr₁ ⊢
      cases callback with
      | transfer self =>
        dsimp only at hr₁ ⊢
        cases hfind : core.findTransfer self with
        | none =>
          rw [hfind] at hr₁
          exact hr₁
        | some t =>
          rw [hfind] at hr₁
          exact fire_le hle hr₁
      | silent => exact hr₁
      | control => exact hr₁
    rw [fireCallbacks, hfirst, Option.bind_some, ih hr₂]
    rfl

/-- **Fuel.** More fuel changes no result. -/
theorem receive_mono (core : BridgeCore) {fuel fuel' : Nat} (hle : fuel ≤ fuel') :
    (receive E isLocal core fuel).Le (receive E isLocal core fuel') := by
  induction fuel generalizing fuel' with
  | zero => exact fun _ _ _ _ _ hr => absurd hr (by simp [receive])
  | succ fuel ih =>
    obtain ⟨fuel', rfl⟩ := Nat.exists_eq_add_of_lt (Nat.lt_of_succ_le hle)
    exact fun _ _ _ _ _ hr => fireCallbacks_le (ih (by omega)) hr

/-! ### What a cascade changes -/

/-- Whatever the computation results in, only caches and policies have changed. -/
def KeepsBook (f : Host ε → Option (Host ε × List Event)) : Prop :=
  ∀ h r, f h = some r → Host.SameBook h r.1

theorem sendOne_keepsBook (hnested : ∀ ep key data, KeepsBook (nested ep key data))
    (t : ITransferPdu) (m : ApiKey × Bytes) : KeepsBook (sendOne E isLocal nested t m) := by
  intro h r hr
  unfold sendOne at hr
  obtain ⟨r₁, hr₁, rfl⟩ := Option.map_eq_some_iff.1 hr
  have hsent : Host.SameBook h { h with env := (E.send t.dstEndpoint m.1 m.2 h.env).1 } :=
    h.sameBook_env _
  have hcaused : Host.SameBook h r₁.1 := by
    split_ifs at hr₁
    · exact hsent.trans (hnested _ _ _ _ _ hr₁)
    · obtain rfl := Option.some.inj hr₁
      exact hsent
  dsimp only
  split_ifs
  · exact hcaused.trans (r₁.1.sameBook_env _)
  · exact hcaused

theorem sendAll_keepsBook (hnested : ∀ ep key data, KeepsBook (nested ep key data))
    (t : ITransferPdu) (ms : List (ApiKey × Bytes)) :
    KeepsBook (sendAll E isLocal nested t ms) := by
  induction ms with
  | nil =>
    intro h r hr
    obtain rfl := Option.some.inj hr
    exact .refl h
  | cons m ms ih =>
    intro h r hr
    obtain ⟨r₁, hr₁, hrest⟩ := Option.bind_eq_some_iff.1 hr
    obtain ⟨r₂, hr₂, rfl⟩ := Option.map_eq_some_iff.1 hrest
    exact (sendOne_keepsBook hnested t m h r₁ hr₁).trans (ih r₁.1 r₂ hr₂)

/-- The policy keeps its class before the sends and after them. -/
theorem fire_keepsBook (hnested : ∀ ep key data, KeepsBook (nested ep key data))
    (t : ITransferPdu) (key : PduResolvedKey) : KeepsBook (fire E isLocal nested t key) := by
  intro h r hr
  have hclass := Policy.isCyclicTrigger_shouldTransfer E (t.askedKey key) (h.policies t.policy)
    h.env
  unfold fire at hr
  split_ifs at hr
  · split at hr
    · next p e heq =>
      obtain rfl := Option.some.inj hr
      rw [heq] at hclass
      exact h.sameBook_put t.policy p e hclass
    · next p e heq =>
      obtain ⟨r₁, hr₁, rfl⟩ := Option.map_eq_some_iff.1 hr
      rw [heq] at hclass
      have hsent := sendAll_keepsBook hnested t _ _ _ hr₁
      have htold := r₁.1.sameBook_put t.policy
        ((r₁.1.policies t.policy).onTransferred E r₁.1.env).1
        ((r₁.1.policies t.policy).onTransferred E r₁.1.env).2
        (Policy.isCyclicTrigger_onTransferred E _ _)
      exact ((h.sameBook_put t.policy p (t.outgoing E e).1 hclass).trans hsent).trans htold
  · obtain rfl := Option.some.inj hr
    exact .refl h

theorem fireCallbacks_keepsBook (hnested : ∀ ep key data, KeepsBook (nested ep key data))
    (core : BridgeCore) (key : PduResolvedKey) (callbacks : List Callback) :
    KeepsBook (fireCallbacks E isLocal nested core key callbacks) := by
  induction callbacks with
  | nil =>
    intro h r hr
    obtain rfl := Option.some.inj hr
    exact .refl h
  | cons callback rest ih =>
    intro h r hr
    obtain ⟨r₁, hr₁, hrest⟩ := Option.bind_eq_some_iff.1 hr
    obtain ⟨r₂, hr₂, rfl⟩ := Option.map_eq_some_iff.1 hrest
    refine Host.SameBook.trans ?_ (ih r₁.1 r₂ hr₂)
    unfold fireCallback at hr₁
    split at hr₁
    · split at hr₁
      · exact fire_keepsBook hnested _ key h r₁ hr₁
      · obtain rfl := Option.some.inj hr₁
        exact .refl h
    all_goals
      obtain rfl := Option.some.inj hr₁
      exact .refl h

/-- **A cascade changes caches and policies only**, however deep it gets. -/
theorem receive_keepsBook (core : BridgeCore) (fuel : Nat) (ep : EndpointRef)
    (key : PduResolvedKey) (data : Bytes) :
    KeepsBook (receive E isLocal core fuel ep key data) := by
  induction fuel generalizing ep key data with
  | zero => exact fun h r hr => absurd hr (by simp [receive])
  | succ fuel ih =>
    intro h r hr
    exact (h.sameBook_env _).trans (fireCallbacks_keepsBook ih core key _ _ r hr)

/-! ### Computations that end -/

/-- The computation ends on every host with the given callbacks, and leaves the callbacks as they
are. -/
def Ends (registry : List Registration) (f : Host ε → Option (Host ε × List Event)) : Prop :=
  ∀ h, h.registry = registry → ∃ r, f h = some r ∧ r.1.registry = registry

variable {registry : List Registration}

theorem sendOne_ends {t : ITransferPdu} {m : ApiKey × Bytes}
    (hnested : isLocal t.dstEndpoint = true →
      Ends registry (nested t.dstEndpoint (arrivalKey E t.dstEndpoint m.1) m.2)) :
    Ends registry (sendOne E isLocal nested t m) := by
  intro h hreg
  obtain ⟨r, hr, hkept⟩ : ∃ r, (if isLocal t.dstEndpoint = true ∧
        (E.send t.dstEndpoint m.1 m.2 h.env).2 = .ok then
      nested t.dstEndpoint (arrivalKey E t.dstEndpoint m.1) m.2
        { h with env := (E.send t.dstEndpoint m.1 m.2 h.env).1 }
    else some ({ h with env := (E.send t.dstEndpoint m.1 m.2 h.env).1 }, [])) = some r ∧
      r.1.registry = registry := by
    split_ifs with hlocal
    · exact hnested hlocal.1 _ hreg
    · exact ⟨_, rfl, hreg⟩
  unfold sendOne
  dsimp only
  rw [hr]
  refine ⟨_, rfl, ?_⟩
  dsimp only
  split_ifs
  · exact hkept
  · exact hkept

theorem sendAll_ends {t : ITransferPdu} {ms : List (ApiKey × Bytes)}
    (hsends : ∀ m ∈ ms, Ends registry (sendOne E isLocal nested t m)) :
    Ends registry (sendAll E isLocal nested t ms) := by
  induction ms with
  | nil => exact fun h hreg => ⟨_, rfl, hreg⟩
  | cons m ms ih =>
    intro h hreg
    obtain ⟨r₁, hr₁, hreg₁⟩ := hsends m List.mem_cons_self h hreg
    obtain ⟨r₂, hr₂, hreg₂⟩ := ih (fun m' hm' => hsends m' (List.mem_cons_of_mem _ hm')) r₁.1 hreg₁
    refine ⟨(r₂.1, r₁.2 ++ r₂.2), ?_, hreg₂⟩
    rw [sendAll, hr₁, Option.bind_some, hr₂]
    rfl

/-- The read loop gathers members of the group. -/
theorem mem_of_readGroup {t : ITransferPdu} {keys : List PduResolvedKey} {e : ε}
    {buffers : List (PduResolvedKey × Bytes)} (hread : (t.readGroup E keys e).2 = some buffers) :
    ∀ b ∈ buffers, b.1 ∈ keys := by
  induction keys generalizing e buffers with
  | nil =>
    obtain rfl := Option.some.inj hread
    simp
  | cons key keys ih =>
    unfold ITransferPdu.readGroup at hread
    split at hread
    · simp at hread
    · exact fun b hb => List.mem_cons_of_mem _ (ih hread b hb)
    · obtain ⟨rest, hrest, rfl⟩ := Option.map_eq_some_iff.1 hread
      intro b hb
      rcases List.mem_cons.1 hb with rfl | hb
      · exact List.mem_cons_self
      · exact List.mem_cons_of_mem _ (ih hrest b hb)

theorem mem_sendKeys {t : ITransferPdu} {e : ε} {m : ApiKey × Bytes}
    (hm : m ∈ (t.outgoing E e).2) : m.1 ∈ t.sendKeys := by
  unfold ITransferPdu.outgoing at hm
  unfold ITransferPdu.sendKeys
  cases hbody : t.body with
  | transferPdu configKey resolvedKey =>
    rw [hbody] at hm
    obtain ⟨buffer, -, rfl⟩ := List.mem_map.1 hm
    exact List.mem_singleton_self _
  | transferAtomicPduGroup keys =>
    rw [hbody] at hm
    obtain ⟨b, hb, rfl⟩ := List.mem_map.1 hm
    cases hread : (t.readGroup E keys e).2 with
    | none =>
      rw [hread] at hb
      exact absurd hb List.not_mem_nil
    | some buffers =>
      rw [hread] at hb
      exact List.mem_map_of_mem (mem_of_readGroup hread b hb)

theorem fire_ends {t : ITransferPdu}
    (hsends : t.isActive = true → ∀ m : ApiKey × Bytes, m.1 ∈ t.sendKeys →
      Ends registry (sendOne E isLocal nested t m)) (key : PduResolvedKey) :
    Ends registry (fire E isLocal nested t key) := by
  intro h hreg
  unfold fire
  split_ifs with hactive
  · split
    · exact ⟨_, rfl, hreg⟩
    · next p e _ =>
      obtain ⟨r, hr, hkept⟩ := sendAll_ends
        (fun m hm => hsends hactive m (mem_sendKeys hm)) (h.put t.policy p (t.outgoing E e).1) hreg
      dsimp only
      rw [hr]
      exact ⟨_, rfl, hkept⟩
  · exact ⟨_, rfl, hreg⟩

theorem fireCallbacks_ends {core : BridgeCore} {key : PduResolvedKey} {callbacks : List Callback}
    (hfire : ∀ self t, Callback.transfer self ∈ callbacks → core.findTransfer self = some t →
      Ends registry (fire E isLocal nested t key)) :
    Ends registry (fireCallbacks E isLocal nested core key callbacks) := by
  induction callbacks with
  | nil => exact fun h hreg => ⟨_, rfl, hreg⟩
  | cons callback rest ih =>
    intro h hreg
    obtain ⟨r₁, hr₁, hreg₁⟩ : ∃ r, fireCallback E isLocal nested core key callback h = some r ∧
        r.1.registry = registry := by
      unfold fireCallback
      cases callback with
      | transfer self =>
        dsimp only
        cases hfind : core.findTransfer self with
        | none => exact ⟨_, rfl, hreg⟩
        | some t => exact hfire self t List.mem_cons_self hfind h hreg
      | silent => exact ⟨_, rfl, hreg⟩
      | control => exact ⟨_, rfl, hreg⟩
    obtain ⟨r₂, hr₂, hreg₂⟩ :=
      ih (fun self t hmem => hfire self t (List.mem_cons_of_mem _ hmem)) r₁.1 hreg₁
    refine ⟨(r₂.1, r₁.2 ++ r₂.2), ?_, hreg₂⟩
    rw [fireCallbacks, hr₁, Option.bind_some, hr₂]
    rfl

/-! ### Ways from a key -/

/-- A key of an endpoint. -/
abbrev Node := EndpointRef × PduResolvedKey

/-- Where sends to `dst` under the given keys arrive. -/
def arrivals (E : Env ε) (dst : EndpointRef) (keys : List ApiKey) : List Node :=
  keys.map fun a => (dst, arrivalKey E dst a)

/-- The callback of the transfer `self` is registered for the one key, and sends to the other one,
on a local endpoint. -/
def LeadsBy (E : Env ε) (isLocal : EndpointRef → Bool) (core : BridgeCore)
    (registry : List Registration) (self : Nat) (n n' : Node) : Prop :=
  ∃ t, Callback.transfer self ∈ Bridge.callbacksFor registry n.1 n.2 ∧
    core.findTransfer self = some t ∧ t.isActive = true ∧ isLocal t.dstEndpoint = true ∧
    n' ∈ arrivals E t.dstEndpoint t.sendKeys

/-- Some transfer leads from the one key to the other one. -/
def Leads (E : Env ε) (isLocal : EndpointRef → Bool) (core : BridgeCore)
    (registry : List Registration) (n n' : Node) : Prop :=
  ∃ self, LeadsBy E isLocal core registry self n n'

/-- Finitely many keys are led to. -/
theorem Leads.mem_targets {core : BridgeCore} {n n' : Node}
    (h : Leads E isLocal core registry n n') :
    n' ∈ (core.connections.flatMap (·.transferPdus)).flatMap fun t =>
      arrivals E t.dstEndpoint t.sendKeys := by
  obtain ⟨self, t, -, hfind, -, -, harrives⟩ := h
  exact List.mem_flatMap.2 ⟨t, List.mem_of_find?_eq_some hfind, harrives⟩

/-- **Cascades end** from a key from which all ways end. The fuel that suffices does not depend on
what the hosts and the PDU hold. -/
theorem receive_ends {core : BridgeCore} {n : Node}
    (hacc : Acc (flip (Leads E isLocal core registry)) n) :
    ∃ N, ∀ fuel ≥ N, ∀ data, Ends registry (receive E isLocal core fuel n.1 n.2 data) := by
  induction hacc with
  | intro n _ ih =>
    obtain ⟨N, hN⟩ := exists_common_bound
      ((core.connections.flatMap (·.transferPdus)).flatMap fun t =>
        arrivals E t.dstEndpoint t.sendKeys)
      (P := fun n' fuel => Leads E isLocal core registry n n' →
        ∀ data, Ends registry (receive E isLocal core fuel n'.1 n'.2 data)) (fun n' _ => by
          by_cases hleads : Leads E isLocal core registry n n'
          · obtain ⟨N, hN⟩ := ih n' hleads
            exact ⟨N, fun fuel hfuel _ => hN fuel hfuel⟩
          · exact ⟨0, fun _ _ h => absurd h hleads⟩)
    refine ⟨N + 1, fun fuel hfuel data => ?_⟩
    obtain ⟨fuel, rfl⟩ := Nat.exists_eq_add_of_le' (Nat.le_of_add_left_le hfuel)
    intro h hreg
    have hends : Ends registry (fireCallbacks E isLocal (receive E isLocal core fuel) core n.2
        (Bridge.callbacksFor registry n.1 n.2)) := by
      refine fireCallbacks_ends fun self t hcallback hfind =>
        fire_ends (fun hactive m hm => sendOne_ends fun hlocal => ?_) n.2
      have hleads : Leads E isLocal core registry n
          (t.dstEndpoint, arrivalKey E t.dstEndpoint m.1) :=
        ⟨self, t, hcallback, hfind, hactive, hlocal, List.mem_map_of_mem hm⟩
      exact hN fuel (Nat.le_of_add_le_add_right hfuel) _ hleads.mem_targets hleads m.2
    subst hreg
    exact hends _ rfl

end Cascade

end HakoniwaBridge
