import HakoniwaBridge.Transfer

/-!
# What a single transfer sends of what it received

One call of `TransferPdu::transfer`, for any endpoint behaviour and any state. The buffer has the
size of the PDU's definition whatever `recv` says it received, so that a short PDU is sent with
zeros at its end and a long one is cut off.

* `Forwards` — the call gets to its send with a PDU that it received.
* `mem_transfer_iff` — the sends of the call.
* `payloadExact_iff` — **the call sends what it received, byte for byte, if and only if every PDU
  that it gets to its send with has the size of its definition.**
-/

namespace HakoniwaBridge

variable {ε : Type}

namespace ITransferPdu

/-- The call gets to its send with a PDU: it was received, its epoch is accepted, and the
destination does not say that it is stopped. -/
structure Forwards (E : Env ε) (t : ITransferPdu) (key : PduKey) (e e₁ : ε) (received : Bytes) :
    Prop where
  sized : E.getPduSize t.srcEndpoint key ≠ 0
  recv : E.recv t.srcEndpoint (.named key) (E.getPduSize t.srcEndpoint key) e = (e₁, .ok received)
  epoch : t.epochAccepted E (fillBuffer (E.getPduSize t.srcEndpoint key) received) = true
  running : ¬ ((E.isRunning t.dstEndpoint e₁).1 = .ok ∧ (E.isRunning t.dstEndpoint e₁).2 = false)

variable {E : Env ε} {t : ITransferPdu} {key : PduKey} {e e₁ : ε} {received : Bytes} {s : Send}

/-- What is sent is the buffer. -/
theorem Forwards.transfer_snd (h : t.Forwards E key e e₁ received) :
    (t.transfer E key e).2 =
      [⟨t.self, t.dstEndpoint, .named key,
        fillBuffer (E.getPduSize t.srcEndpoint key) received⟩] := by
  unfold transfer
  dsimp only
  rw [if_neg h.sized, h.recv]
  dsimp only
  rw [if_pos h.epoch, if_neg h.running]

/-- The sends of a call. -/
theorem mem_transfer_iff :
    s ∈ (t.transfer E key e).2 ↔ ∃ e₁ received, t.Forwards E key e e₁ received ∧
      s = ⟨t.self, t.dstEndpoint, .named key,
        fillBuffer (E.getPduSize t.srcEndpoint key) received⟩ := by
  constructor
  · intro hs
    have hcopy := hs
    unfold transfer at hs
    dsimp only at hs
    split_ifs at hs with hsize
    · cases hs
    · split at hs
      · cases hs
      · next e₁ received hrecv =>
        split_ifs at hs with hepoch hrunning
        · cases hs
        · have hforwards : t.Forwards E key e e₁ received := ⟨hsize, hrecv, hepoch, hrunning⟩
          rw [hforwards.transfer_snd] at hcopy
          exact ⟨e₁, received, hforwards, List.mem_singleton.1 hcopy⟩
        · cases hs
  · rintro ⟨e₁, received, hforwards, rfl⟩
    rw [hforwards.transfer_snd]
    exact List.mem_singleton_self _

/-- Everything that a call sends is what it received. -/
def PayloadExact (E : Env ε) (t : ITransferPdu) (key : PduKey) (e : ε) : Prop :=
  ∀ s ∈ (t.transfer E key e).2,
    (E.recv t.srcEndpoint (.named key) (E.getPduSize t.srcEndpoint key) e).2 = .ok s.data

/-- **A call sends what it received exactly when** no PDU of another size than its definition's
gets to the send. -/
theorem payloadExact_iff (E : Env ε) (t : ITransferPdu) (key : PduKey) (e : ε) :
    PayloadExact E t key e ↔
      ∀ e₁ received, t.Forwards E key e e₁ received →
        received.length = E.getPduSize t.srcEndpoint key := by
  constructor
  · intro h e₁ received hforwards
    have hsent := h _ (mem_transfer_iff.2 ⟨e₁, received, hforwards, rfl⟩)
    rw [hforwards.recv] at hsent
    exact fillBuffer_eq_iff.1 (Except.ok.inj hsent).symm
  · intro h s hs
    obtain ⟨e₁, received, hforwards, rfl⟩ := mem_transfer_iff.1 hs
    have hfull := fillBuffer_eq_iff.2 (h e₁ received hforwards)
    rw [hforwards.recv]
    exact congrArg Except.ok hfull.symm

/-- A transfer of the PDU `pos` of a robot `r`. -/
def sampleSingle : ITransferPdu where
  self := 0
  body := .transferPdu ⟨"r.pos", "r", "pos"⟩ ⟨"r", 1⟩
  policy := 0
  srcEndpoint := .container "src"
  dstEndpoint := .container "dst"
  isActive := true
  ownerEpoch := 0
  epochValidation := false

/-- A PDU of one byte where the definition has two is sent with a zero behind it. -/
theorem short_payload_padded :
    ¬ PayloadExact ((CacheSpec.small .latest).env none) sampleSingle ⟨"r", "pos"⟩
      (CacheSpec.setCell (.container "src") ⟨"r", 1⟩ [[5]] CacheState.empty) := by
  intro h
  have hsent := h ⟨0, .container "dst", .named ⟨"r", "pos"⟩, [5, 0]⟩ (by decide)
  have hread : Except.ok [5] = (Except.ok [5, 0] : Except HakoPduErrorType Bytes) := hsent
  cases hread

end ITransferPdu

end HakoniwaBridge
