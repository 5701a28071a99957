import HakoniwaBridge.Policy
import Mathlib.Logic.Function.Basic

/-!
# Transfer objects

`TransferPdu` and `TransferAtomicPduGroup` of `transfer_pdu.cpp`, over the state `Host ε` that
they share with everything else: the outside state, the callbacks registered on the endpoints,
and the policy objects (which live behind `shared_ptr`s, so a transfer holds a reference). A
transfer object and a policy object are named by the number of their allocation.

* `newTransferPdu`, `newTransferAtomicPduGroup` — the constructors. They register the receive
  callbacks; an event-driven transfer registers a callback that captures `this`.
* `transfer`, `tryTransferGroup` — the two read–check–send paths, yielding the sends they attempt.
* `tryTransfer` (both classes) — the policy gate around them, `gated`.

The null-endpoint branch of the constructors is left out: both callers of each constructor check
the pointers before the call.
-/

namespace HakoniwaBridge

/-- A callback kept by an endpoint: one that captures a transfer, the empty callback of a cyclic
transfer, or the control callback of a session endpoint. -/
inductive Callback
  | transfer (self : Nat)
  | silent
  | control
  deriving DecidableEq

/-- A callback with the endpoint and key it is registered for. -/
structure Registration where
  endpoint : EndpointRef
  key : PduResolvedKey
  callback : Callback
  deriving DecidableEq

/-- The state around the bridge objects: the outside state, the registered callbacks in
registration order (nothing in the repository removes one), the policy objects, and the
allocation counters of policy and transfer objects. -/
structure Host (ε : Type) where
  env : ε
  registry : List Registration
  policies : Nat → Policy
  nextPolicy : Nat
  nextTransfer : Nat

/-- A call of a destination's `send` by a transfer. -/
structure Send where
  transfer : Nat
  dst : EndpointRef
  key : ApiKey
  data : Bytes
  deriving DecidableEq

/-- What the two transfer classes do not share. -/
inductive TransferBody
  | transferPdu (configKey : BridgePduKey) (resolvedKey : PduResolvedKey)
  | transferAtomicPduGroup (keys : List PduResolvedKey)

/-- A transfer object. The fields from `policy` on are declared alike in both classes. -/
structure ITransferPdu where
  self : Nat
  body : TransferBody
  policy : Nat
  srcEndpoint : EndpointRef
  dstEndpoint : EndpointRef
  isActive : Bool
  ownerEpoch : UInt8
  epochValidation : Bool

variable {ε : Type}

/-! ## The host -/

namespace Host

/-- `make_shared` of a policy object. -/
def newPolicy (h : Host ε) (p : Policy) : Nat × Host ε :=
  (h.nextPolicy,
    { h with
      policies := Function.update h.policies h.nextPolicy p, nextPolicy := h.nextPolicy + 1 })

/-- Write back a policy object and the outside state. -/
def put (h : Host ε) (ref : Nat) (p : Policy) (e : ε) : Host ε :=
  { h with env := e, policies := Function.update h.policies ref p }

/-- The host is as before, apart from the outside state and the fields of policy objects. -/
structure SameBook (h h' : Host ε) : Prop where
  registry : h'.registry = h.registry
  nextPolicy : h'.nextPolicy = h.nextPolicy
  nextTransfer : h'.nextTransfer = h.nextTransfer
  cyclic : ∀ p, (h'.policies p).isCyclicTrigger = (h.policies p).isCyclicTrigger

theorem SameBook.refl (h : Host ε) : SameBook h h := ⟨rfl, rfl, rfl, fun _ => rfl⟩

theorem SameBook.trans {h₁ h₂ h₃ : Host ε} (h₁₂ : SameBook h₁ h₂) (h₂₃ : SameBook h₂ h₃) :
    SameBook h₁ h₃ :=
  ⟨h₂₃.registry.trans h₁₂.registry, h₂₃.nextPolicy.trans h₁₂.nextPolicy,
    h₂₃.nextTransfer.trans h₁₂.nextTransfer, fun p => (h₂₃.cyclic p).trans (h₁₂.cyclic p)⟩

/-- Changing the outside state alone keeps the books. -/
theorem sameBook_env (h : Host ε) (e : ε) : SameBook h { h with env := e } :=
  ⟨rfl, rfl, rfl, fun _ => rfl⟩

/-- Writing back a policy of the same class keeps the books. -/
theorem sameBook_put (h : Host ε) (ref : Nat) (p : Policy) (e : ε)
    (hp : p.isCyclicTrigger = (h.policies ref).isCyclicTrigger) : SameBook h (h.put ref p e) := by
  refine ⟨rfl, rfl, rfl, fun q => ?_⟩
  by_cases hq : q = ref
  · subst hq
    simpa [put] using hp
  · simp [put, Function.update_of_ne hq]

end Host

/-! ## The constructors -/

/-- The resolved form of a configured key on a source endpoint. -/
def resolveKey (E : Env ε) (src : EndpointRef) (key : BridgePduKey) : PduResolvedKey :=
  ⟨key.robotName, E.getPduChannelId src key.endpointKey⟩

/-- Source: `transfer_pdu.cpp`, `TransferPdu::TransferPdu`. -/
def newTransferPdu (E : Env ε) (configKey : BridgePduKey) (policy : Nat)
    (src dst : EndpointRef) (h : Host ε) : ITransferPdu × Host ε :=
  let self := h.nextTransfer
  let key := resolveKey E src configKey
  -- A cyclic transfer registers an empty callback, only to silence the endpoint's log.
  let callback := if (h.policies policy).isCyclicTrigger then .silent else .transfer self
  ({ self := self, body := .transferPdu configKey key, policy := policy, srcEndpoint := src,
     dstEndpoint := dst, isActive := true, ownerEpoch := 0, epochValidation := false },
   { h with
     registry := h.registry ++ [⟨src, key, callback⟩]
     policies := Function.update h.policies policy ((h.policies policy).addPduKey key)
     nextTransfer := self + 1 })

/-- Source: `transfer_pdu.cpp`, `TransferAtomicPduGroup::TransferAtomicPduGroup`. -/
def newTransferAtomicPduGroup (E : Env ε) (configKeys : List BridgePduKey) (policy : Nat)
    (src dst : EndpointRef) (h : Host ε) : ITransferPdu × Host ε :=
  let self := h.nextTransfer
  let keys := configKeys.map (resolveKey E src)
  ({ self := self, body := .transferAtomicPduGroup keys, policy := policy, srcEndpoint := src,
     dstEndpoint := dst, isActive := true, ownerEpoch := 0, epochValidation := false },
   { h with
     registry := h.registry ++ keys.map fun key => ⟨src, key, .transfer self⟩
     policies := Function.update h.policies policy
       (keys.foldl (fun p key => p.addPduKey key) (h.policies policy))
     nextTransfer := self + 1 })

namespace ITransferPdu

/-- Source: `transfer_pdu.cpp`, `TransferPdu::set_active`, `TransferAtomicPduGroup::set_active`. -/
def setActive (t : ITransferPdu) (isActive : Bool) : ITransferPdu := { t with isActive := isActive }

/-- Source: `transfer_pdu.cpp`, `TransferPdu::set_epoch`, `TransferAtomicPduGroup::set_epoch`. -/
def setEpoch (t : ITransferPdu) (epoch : UInt8) : ITransferPdu := { t with ownerEpoch := epoch }

/-- Source: `transfer_pdu.hpp`, `set_epoch_validation` of both classes. -/
def setEpochValidation (t : ITransferPdu) (enable : Bool) : ITransferPdu :=
  { t with epochValidation := enable }

@[simp] theorem setActive_self (t : ITransferPdu) (b : Bool) : (t.setActive b).self = t.self := rfl
@[simp] theorem setEpoch_self (t : ITransferPdu) (n : UInt8) : (t.setEpoch n).self = t.self := rfl
@[simp] theorem setEpochValidation_self (t : ITransferPdu) (b : Bool) :
    (t.setEpochValidation b).self = t.self := rfl

/-! ## The transfer of a single PDU -/

/-- The epoch check of both paths: passed without validation, else the buffer's epoch must be
readable and equal to the owner epoch. -/
def epochAccepted (E : Env ε) (t : ITransferPdu) (buffer : Bytes) : Bool :=
  if t.epochValidation then
    match E.hakoPduGetEpoch buffer with
    | none => false
    | some pduEpoch => pduEpoch == t.ownerEpoch
  else true

/-- Source: `transfer_pdu.cpp`, `TransferPdu::transfer`. A received size above the PDU size is
only warned about. -/
def transfer (E : Env ε) (t : ITransferPdu) (key : PduKey) (e : ε) : ε × List Send :=
  let pduSize := E.getPduSize t.srcEndpoint key
  if pduSize = 0 then (e, [])
  else
    match E.recv t.srcEndpoint (.named key) pduSize e with
    | (e₁, .error _) => (e₁, [])
    | (e₁, .ok received) =>
      let buffer := fillBuffer pduSize received
      if t.epochAccepted E buffer then
        -- An error of `is_running` does not stop the transfer.
        if (E.isRunning t.dstEndpoint e₁).1 = .ok ∧ (E.isRunning t.dstEndpoint e₁).2 = false then
          (e₁, [])
        else
          ((E.send t.dstEndpoint (.named key) buffer e₁).1,
            [⟨t.self, t.dstEndpoint, .named key, buffer⟩])
      else (e₁, [])

/-! ## The transfer of an atomic group -/

/-- How the read loop of `try_transfer_group` leaves a member: with its bytes, by `continue`, or
by `return`. -/
inductive MemberRead
  | read (buffer : Bytes)
  | skipped
  | rejected
  deriving DecidableEq

/-- Source: `transfer_pdu.cpp`, `TransferAtomicPduGroup::try_transfer_group`, one turn of the
read loop. -/
def readMember (E : Env ε) (t : ITransferPdu) (key : PduResolvedKey) (e : ε) : ε × MemberRead :=
  let pduSize := E.getPduSize t.srcEndpoint ⟨key.robot, E.getPduName t.srcEndpoint key⟩
  if pduSize = 0 then (e, .skipped)
  else
    match E.recv t.srcEndpoint (.resolved key) pduSize e with
    | (e₁, .error _) => (e₁, .skipped)
    | (e₁, .ok received) =>
      if received.length = pduSize then
        if t.epochAccepted E (fillBuffer pduSize received) then
          (e₁, .read (fillBuffer pduSize received))
        else (e₁, .rejected)
      else (e₁, .skipped)

/-- Source: `try_transfer_group`, the read loop: the gathered buffers, or `none` when a member's
epoch made the function return. -/
def readGroup (E : Env ε) (t : ITransferPdu) :
    List PduResolvedKey → ε → ε × Option (List (PduResolvedKey × Bytes))
  | [], e => (e, some [])
  | key :: keys, e =>
    match readMember E t key e with
    | (e₁, .rejected) => (e₁, none)
    | (e₁, .skipped) => readGroup E t keys e₁
    | (e₁, .read buffer) =>
      ((readGroup E t keys e₁).1, (readGroup E t keys e₁).2.map ((key, buffer) :: ·))

/-- Source: `try_transfer_group`, the send loop. A failed send goes on with the next member. -/
def sendGroup (E : Env ε) (t : ITransferPdu) :
    List (PduResolvedKey × Bytes) → ε → ε × List Send
  | [], e => (e, [])
  | (key, buffer) :: rest, e =>
    let (e₁, err) := E.send t.dstEndpoint (.resolved key) buffer e
    let e₂ := if err = .ok then E.processRecvEvents t.dstEndpoint e₁ else e₁
    ((sendGroup E t rest e₂).1,
      ⟨t.self, t.dstEndpoint, .resolved key, buffer⟩ :: (sendGroup E t rest e₂).2)

/-- Source: `transfer_pdu.cpp`, `TransferAtomicPduGroup::try_transfer_group`. -/
def tryTransferGroup (E : Env ε) (t : ITransferPdu) (keys : List PduResolvedKey) (e : ε) :
    ε × List Send :=
  match readGroup E t keys e with
  | (e₁, none) => (e₁, [])
  | (e₁, some buffers) => sendGroup E t buffers e₁

/-! ## The policy gate -/

/-- The gate written alike in both `try_transfer` functions: an inactive transfer does nothing;
if the policy answers true the action runs and the policy is told, whatever came of it. -/
def gated (E : Env ε) (t : ITransferPdu) (key : PduResolvedKey) (action : ε → ε × List Send)
    (h : Host ε) : Host ε × List Send :=
  if t.isActive then
    match (h.policies t.policy).shouldTransfer E key h.env with
    | (p, e, false) => (h.put t.policy p e, [])
    | (p, e, true) =>
      let (p', e') := p.onTransferred E (action e).1
      (h.put t.policy p' e', (action e).2)
  else (h, [])

/-- Source: `transfer_pdu.hpp`, `on_recv_callback` of both classes, which call
`TransferPdu::try_transfer` and `TransferAtomicPduGroup::try_transfer`. The single transfer asks
the policy about its own key, the group about the received one. -/
def onRecvCallback (E : Env ε) (t : ITransferPdu) (pduKey : PduResolvedKey) (h : Host ε) :
    Host ε × List Send :=
  match t.body with
  | .transferPdu configKey resolvedKey =>
    t.gated E resolvedKey (t.transfer E configKey.endpointKey) h
  | .transferAtomicPduGroup keys => t.gated E pduKey (t.tryTransferGroup E keys) h

/-- Source: `transfer_pdu.hpp`, `TransferPdu::cyclic_trigger`;
`transfer_pdu.cpp`, `TransferAtomicPduGroup::cyclic_trigger`, which is intentionally empty. -/
def cyclicTrigger (E : Env ε) (t : ITransferPdu) (h : Host ε) : Host ε × List Send :=
  match t.body with
  | .transferPdu configKey resolvedKey =>
    if (h.policies t.policy).isCyclicTrigger then
      t.gated E resolvedKey (t.transfer E configKey.endpointKey) h
    else (h, [])
  | .transferAtomicPduGroup _ => (h, [])

/-! ### What a call of a transfer can do -/

/-- The gate keeps the books. -/
theorem gated_sameBook (E : Env ε) (t : ITransferPdu) (key : PduResolvedKey)
    (action : ε → ε × List Send) (h : Host ε) : Host.SameBook h (t.gated E key action h).1 := by
  have hclass := Policy.isCyclicTrigger_shouldTransfer E key (h.policies t.policy) h.env
  unfold gated
  split_ifs
  · split
    · next p e heq =>
      rw [heq] at hclass
      exact Host.sameBook_put h t.policy p e hclass
    · next p e heq =>
      rw [heq] at hclass
      apply Host.sameBook_put h t.policy _ _
      rw [Policy.isCyclicTrigger_onTransferred]
      exact hclass
  · exact Host.SameBook.refl h

/-- The gate writes no policy object but the transfer's own. -/
theorem gated_policies_of_ne (E : Env ε) (t : ITransferPdu) (key : PduResolvedKey)
    (action : ε → ε × List Send) (h : Host ε) {q : Nat} (hq : q ≠ t.policy) :
    (t.gated E key action h).1.policies q = h.policies q := by
  unfold gated
  split_ifs
  · split <;> simp [Host.put, Function.update_of_ne hq]
  · rfl

/-- What the gate lets out is what the action sends, in some outside state, and the transfer is
active. -/
theorem mem_gated {E : Env ε} {t : ITransferPdu} {key : PduResolvedKey}
    {action : ε → ε × List Send} {h : Host ε} {s : Send} (hs : s ∈ (t.gated E key action h).2) :
    t.isActive = true ∧ ∃ e, s ∈ (action e).2 := by
  unfold gated at hs
  split_ifs at hs with hactive
  · split at hs
    · simp at hs
    · next p e _ => exact ⟨hactive, e, hs⟩
  · simp at hs

/-- A single transfer sends to its own destination, and only a buffer that passed the epoch
check. -/
theorem mem_transfer {E : Env ε} {t : ITransferPdu} {key : PduKey} {e : ε} {s : Send}
    (hs : s ∈ (t.transfer E key e).2) :
    s.transfer = t.self ∧ s.dst = t.dstEndpoint ∧ t.epochAccepted E s.data = true := by
  unfold transfer at hs
  dsimp only at hs
  split_ifs at hs with hsize
  · simp at hs
  · split at hs
    · simp at hs
    · split_ifs at hs with hepoch hrun
      · simp at hs
      · rw [List.mem_singleton] at hs
        subst hs
        exact ⟨rfl, rfl, hepoch⟩
      · simp at hs

/-- The read loop gathers only buffers that passed the epoch check. -/
theorem epochAccepted_of_readGroup {E : Env ε} {t : ITransferPdu} {keys : List PduResolvedKey}
    {e : ε} {buffers : List (PduResolvedKey × Bytes)}
    (h : (t.readGroup E keys e).2 = some buffers) :
    ∀ b ∈ buffers, t.epochAccepted E b.2 = true := by
  induction keys generalizing e buffers with
  | nil =>
    simp only [readGroup, Option.some.injEq] at h
    subst h
    simp
  | cons key keys ih =>
    unfold readGroup at h
    split at h
    · simp at h
    · exact ih h
    · next e₁ buffer heq =>
      obtain ⟨rest, hrest, rfl⟩ := Option.map_eq_some_iff.1 h
      have hacc : t.epochAccepted E buffer = true := by
        unfold readMember at heq
        dsimp only at heq
        split_ifs at heq with hsize
        · simp at heq
        · split at heq
          · simp at heq
          · split_ifs at heq with hlen hepoch
            · simp only [Prod.mk.injEq, MemberRead.read.injEq] at heq
              rw [← heq.2]
              exact hepoch
            · simp at heq
            · simp at heq
      intro b hb
      rcases List.mem_cons.1 hb with rfl | hb
      · exact hacc
      · exact ih hrest b hb

/-- The send loop attempts one send for each gathered buffer, in order. -/
theorem sendGroup_snd (E : Env ε) (t : ITransferPdu) (buffers : List (PduResolvedKey × Bytes))
    (e : ε) :
    (t.sendGroup E buffers e).2 =
      buffers.map fun b => ⟨t.self, t.dstEndpoint, .resolved b.1, b.2⟩ := by
  induction buffers generalizing e with
  | nil => rfl
  | cons b rest ih =>
    obtain ⟨key, buffer⟩ := b
    simp only [sendGroup, List.map_cons, ih]

/-- A group sends to its own destination, and only buffers that passed the epoch check. -/
theorem mem_tryTransferGroup {E : Env ε} {t : ITransferPdu} {keys : List PduResolvedKey} {e : ε}
    {s : Send} (hs : s ∈ (t.tryTransferGroup E keys e).2) :
    s.transfer = t.self ∧ s.dst = t.dstEndpoint ∧ t.epochAccepted E s.data = true := by
  unfold tryTransferGroup at hs
  split at hs
  · simp at hs
  · next e₁ buffers heq =>
    rw [sendGroup_snd] at hs
    obtain ⟨b, hb, rfl⟩ := List.mem_map.1 hs
    exact ⟨rfl, rfl, epochAccepted_of_readGroup (congrArg Prod.snd heq) b hb⟩

/-- What a send of a transfer's callback or cyclic trigger satisfies. -/
structure Sent (E : Env ε) (t : ITransferPdu) (s : Send) : Prop where
  transfer : s.transfer = t.self
  dst : s.dst = t.dstEndpoint
  active : t.isActive = true
  epoch : t.epochAccepted E s.data = true

theorem sent_of_onRecvCallback {E : Env ε} {t : ITransferPdu} {key : PduResolvedKey}
    {h : Host ε} {s : Send} (hs : s ∈ (t.onRecvCallback E key h).2) : Sent E t s := by
  unfold onRecvCallback at hs
  split at hs
  · obtain ⟨hactive, e, he⟩ := mem_gated hs
    obtain ⟨htransfer, hdst, hepoch⟩ := mem_transfer he
    exact ⟨htransfer, hdst, hactive, hepoch⟩
  · obtain ⟨hactive, e, he⟩ := mem_gated hs
    obtain ⟨htransfer, hdst, hepoch⟩ := mem_tryTransferGroup he
    exact ⟨htransfer, hdst, hactive, hepoch⟩

/-- A cyclic trigger does nothing, or what the callback of a single transfer does. -/
theorem cyclicTrigger_cases (E : Env ε) (t : ITransferPdu) (h : Host ε) :
    t.cyclicTrigger E h = (h, []) ∨ (h.policies t.policy).isCyclicTrigger = true ∧
      (∃ configKey resolvedKey, t.body = .transferPdu configKey resolvedKey) ∧
        ∀ key, t.cyclicTrigger E h = t.onRecvCallback E key h := by
  unfold cyclicTrigger onRecvCallback
  cases t.body with
  | transferPdu configKey resolvedKey =>
    dsimp only
    split_ifs with hcyclic
    · exact .inr ⟨hcyclic, ⟨configKey, resolvedKey, rfl⟩, fun _ => rfl⟩
    · exact .inl rfl
  | transferAtomicPduGroup keys => exact .inl rfl

theorem sent_of_cyclicTrigger {E : Env ε} {t : ITransferPdu} {h : Host ε} {s : Send}
    (hs : s ∈ (t.cyclicTrigger E h).2) :
    Sent E t s ∧ (h.policies t.policy).isCyclicTrigger = true := by
  rcases cyclicTrigger_cases E t h with hidle | ⟨hcyclic, ⟨-, resolved, -⟩, hsame⟩
  · rw [hidle] at hs
    exact absurd hs List.not_mem_nil
  · rw [hsame resolved] at hs
    exact ⟨sent_of_onRecvCallback hs, hcyclic⟩

theorem onRecvCallback_sameBook (E : Env ε) (t : ITransferPdu) (key : PduResolvedKey)
    (h : Host ε) : Host.SameBook h (t.onRecvCallback E key h).1 := by
  unfold onRecvCallback
  split
  · exact gated_sameBook E t _ _ h
  · exact gated_sameBook E t _ _ h

theorem cyclicTrigger_sameBook (E : Env ε) (t : ITransferPdu) (h : Host ε) :
    Host.SameBook h (t.cyclicTrigger E h).1 := by
  rcases cyclicTrigger_cases E t h with hidle | ⟨-, ⟨-, resolved, -⟩, hsame⟩
  · rw [hidle]
    exact Host.SameBook.refl h
  · rw [hsame resolved]
    exact onRecvCallback_sameBook E t resolved h

end ITransferPdu

end HakoniwaBridge
