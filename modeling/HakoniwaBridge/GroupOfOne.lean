import HakoniwaBridge.AtomicFrame
import HakoniwaBridge.FanOut
import HakoniwaBridge.Payload
import HakoniwaBridge.Readiness

/-!
# A group of one and a single transfer

The same key of the same source, moved to the same destination by a non-atomic immediate
`TransferPdu` and by an atomic group that holds nothing else. Both hear the same receptions, with
the same state outside and the same settings, for any endpoint behaviour.

* `attempts_single`, `attempts_group` — what each of them attempts to send at a reception.
* `sameAttempts_iff` — **they make the same attempts if and only if at each reception at which they
  read a PDU, its size is that of its definition just when the destination is not reported as
  stopped**: the single transfer does not check the size, and the group not the destination.
-/

namespace HakoniwaBridge

open Lib

variable {ε : Type} {E : Env ε}

/-- The source resolves the key to a channel and back, and reads the same PDU under both forms. -/
structure KeyDefined (E : Env ε) (src : EndpointRef) (k : BridgePduKey) : Prop where
  name : E.getPduName src (resolveKey E src k) = k.pduName
  recv : ∀ size e, E.recv src (.resolved (resolveKey E src k)) size e =
    E.recv src (.named k.endpointKey) size e

/-- A reception: the state outside when the callback runs, and how the transfer is set by then. -/
structure Moment (ε : Type) where
  outside : ε
  isActive : Bool
  ownerEpoch : UInt8
  epochValidation : Bool

namespace Moment

/-- The transfer with these settings. -/
def set (m : Moment ε) (t : ITransferPdu) : ITransferPdu :=
  ((t.setActive m.isActive).setEpoch m.ownerEpoch).setEpochValidation m.epochValidation

/-- The epoch check under these settings. -/
def accepts (E : Env ε) (m : Moment ε) (buffer : Bytes) : Bool :=
  if m.epochValidation then
    match E.hakoPduGetEpoch buffer with
    | none => false
    | some pduEpoch => pduEpoch == m.ownerEpoch
  else true

theorem epochAccepted_set (E : Env ε) (m : Moment ε) (t : ITransferPdu) (buffer : Bytes) :
    (m.set t).epochAccepted E buffer = m.accepts E buffer := rfl

/-- A PDU is read: the transfer is active, the source knows the size, `recv` succeeds and the epoch
is accepted. -/
structure Reads (E : Env ε) (src : EndpointRef) (k : BridgePduKey) (m : Moment ε) (e₁ : ε)
    (received : Bytes) : Prop where
  active : m.isActive = true
  sized : E.getPduSize src k.endpointKey ≠ 0
  recv : E.recv src (.named k.endpointKey) (E.getPduSize src k.endpointKey) m.outside =
    (e₁, .ok received)
  epoch : m.accepts E (fillBuffer (E.getPduSize src k.endpointKey) received) = true

end Moment

/-- The destination is reported as stopped. -/
def Stopped (E : Env ε) (dst : EndpointRef) (e : ε) : Prop :=
  (E.isRunning dst e).1 = .ok ∧ (E.isRunning dst e).2 = false

/-- Where a send goes, and what is sent. -/
def Send.payload (s : Send) : EndpointRef × Bytes := (s.dst, s.data)

namespace Gate

/-- The host when the callback runs. -/
def hostAt (g : Gate ε) (m : Moment ε) : Host ε := { g.host with env := m.outside }

/-- The transfer hears the key; the sends that it attempts are put out. -/
def hear (E : Env ε) (key : PduResolvedKey) (g : Gate ε) (m : Moment ε) :
    Gate ε × List (List Send) :=
  let r := (m.set g.transfer).onRecvCallback E key (g.hostAt m)
  (⟨m.set g.transfer, r.1⟩, [r.2])

/-- What the transfer attempts to send at each reception. -/
def attempts (E : Env ε) (key : PduResolvedKey) (made : ITransferPdu × Host ε)
    (ms : List (Moment ε)) : List (List (EndpointRef × Bytes)) :=
  (run (hear E key) ⟨made.1, made.2⟩ ms).2.map fun sends => sends.map Send.payload

/-- A single transfer of the key. -/
structure IsSingle (E : Env ε) (src dst : EndpointRef) (k : BridgePduKey) (g : Gate ε) : Prop where
  body : g.transfer.body = .transferPdu k (resolveKey E src k)
  srcEndpoint : g.transfer.srcEndpoint = src
  dstEndpoint : g.transfer.dstEndpoint = dst
  policy : g.policy.AlwaysFires

/-- A group of the key alone. -/
structure IsGroup (E : Env ε) (src dst : EndpointRef) (k : BridgePduKey) (g : Gate ε) : Prop where
  body : g.transfer.body = .transferAtomicPduGroup [resolveKey E src k]
  srcEndpoint : g.transfer.srcEndpoint = src
  dstEndpoint : g.transfer.dstEndpoint = dst
  policy : ∃ L p, g.policy = .immediate p ∧ FlagsSince [resolveKey E src k] L p

end Gate

theorem Policy.AlwaysFires.exists_immediate {p : Policy} (h : p.AlwaysFires) :
    ∃ q, p = .immediate q := by
  cases p with
  | immediate q => exact ⟨q, rfl⟩
  | throttle q => exact h.elim
  | ticker q => exact h.elim

namespace ITransferPdu

variable {t : ITransferPdu} {key : PduResolvedKey} {h : Host ε}

/-- An active gate whose immediate policy says yes. -/
theorem gated_immediate {p : ImmediatePolicy} (hactive : t.isActive = true)
    (hpolicy : h.policies t.policy = .immediate p) (hyes : (p.shouldTransfer key).2 = true)
    (action : ε → ε × List Send) : (t.gated E key action h).2 = (action h.env).2 := by
  unfold gated
  rw [if_pos hactive, hpolicy]
  simp only [Policy.shouldTransfer, hyes]

/-- A group of one sends what its only member reads. -/
theorem tryTransferGroup_singleton (E : Env ε) (t : ITransferPdu) (key : PduResolvedKey) (e : ε) :
    (t.tryTransferGroup E [key] e).2 = (t.memberSend (key, (t.readMember E key e).2)).toList := by
  rw [tryTransferGroup_snd, memberTurns, memberTurns]
  cases hout : (t.readMember E key e).2 with
  | rejected => simp [hout, memberSend]
  | skipped => simp [hout, turnSend, memberSend]
  | read buffer => simp [hout, turnSend, memberSend]

end ITransferPdu

namespace Gate

variable {src dst : EndpointRef} {k : BridgePduKey} {g : Gate ε} {m : Moment ε} {e₁ : ε}
  {received : Bytes}

/-- What the transfer attempts to send at a reception. -/
def attempt (E : Env ε) (key : PduResolvedKey) (g : Gate ε) (m : Moment ε) :
    List (EndpointRef × Bytes) :=
  ((m.set g.transfer).onRecvCallback E key (g.hostAt m)).2.map Send.payload

/-! ## The single transfer -/

/-- It stays what it is. -/
theorem IsSingle.hear (hg : g.IsSingle E src dst k) (m : Moment ε) :
    (hear E (resolveKey E src k) g m).1.IsSingle E src dst k := by
  refine ⟨hg.body, hg.srcEndpoint, hg.dstEndpoint, ?_⟩
  have hlogs := (m.set g.transfer).onRecvCallback_logs (E := E) (resolveKey E src k) (g.hostAt m)
  exact Logs.keeps (P := Policy.AlwaysFires) (fun _ call hpolicy => hpolicy.solo call) hlogs
    hg.policy

/-- The callback of an active one is a call of `transfer`. -/
theorem IsSingle.attempt_eq (hg : g.IsSingle E src dst k) (m : Moment ε) :
    attempt E (resolveKey E src k) g m = if m.isActive then
      ((m.set g.transfer).transfer E k.endpointKey m.outside).2.map Send.payload else [] := by
  have hbody : (m.set g.transfer).body = .transferPdu k (resolveKey E src k) := hg.body
  have hfires : ((((g.hostAt m).policies (m.set g.transfer).policy).shouldTransfer E
      (resolveKey E src k) (g.hostAt m).env).2.2) = true := hg.policy.fires E _ _
  have hclass : ∃ p, (g.hostAt m).policies (m.set g.transfer).policy = .immediate p :=
    hg.policy.exists_immediate
  unfold attempt ITransferPdu.onRecvCallback
  rw [hbody]
  dsimp only
  split_ifs with hactive
  · obtain ⟨p, hp⟩ := hclass
    rw [hp] at hfires
    rw [ITransferPdu.gated_immediate hactive hp hfires]
    rfl
  · rw [(ITransferPdu.gateLog_of_inactive E _ _ _ (Bool.eq_false_iff.2 hactive)).2]
    rfl

/-- It sends the PDU that it reads to a destination that is not reported as stopped. -/
theorem IsSingle.attempt_of_running (hg : g.IsSingle E src dst k)
    (hreads : m.Reads E src k e₁ received) (hrun : ¬ Stopped E dst e₁) :
    attempt E (resolveKey E src k) g m =
      [(dst, fillBuffer (E.getPduSize src k.endpointKey) received)] := by
  obtain ⟨hactive, hsized, hrecv, hepoch⟩ := hreads
  have hsrc : (m.set g.transfer).srcEndpoint = src := hg.srcEndpoint
  have hdst : (m.set g.transfer).dstEndpoint = dst := hg.dstEndpoint
  have hforwards : (m.set g.transfer).Forwards E k.endpointKey m.outside e₁ received := by
    constructor
    · rw [hsrc]
      exact hsized
    · rw [hsrc]
      exact hrecv
    · rw [hsrc]
      exact hepoch
    · rw [hdst]
      exact hrun
  rw [hg.attempt_eq, if_pos hactive, hforwards.transfer_snd, hsrc, hdst]
  rfl

/-- Otherwise it attempts nothing. -/
theorem IsSingle.attempt_of_stopped (hg : g.IsSingle E src dst k)
    (hstopped : ∀ e₁ received, m.Reads E src k e₁ received → Stopped E dst e₁) :
    attempt E (resolveKey E src k) g m = [] := by
  have hsrc : (m.set g.transfer).srcEndpoint = src := hg.srcEndpoint
  have hdst : (m.set g.transfer).dstEndpoint = dst := hg.dstEndpoint
  rw [hg.attempt_eq]
  split_ifs with hactive
  · rw [List.map_eq_nil_iff, List.eq_nil_iff_forall_not_mem]
    intro s hs
    obtain ⟨e₁, received, hforwards, -⟩ := ITransferPdu.mem_transfer_iff.1 hs
    obtain ⟨hsized, hrecv, hepoch, hrun⟩ := hforwards
    rw [hsrc] at hsized hrecv hepoch
    rw [hdst] at hrun
    exact hrun (hstopped e₁ received ⟨hactive, hsized, hrecv, hepoch⟩)
  · rfl

/-! ## The group -/

/-- It stays what it is. -/
theorem IsGroup.hear (hg : g.IsGroup E src dst k) (m : Moment ε) :
    (hear E (resolveKey E src k) g m).1.IsGroup E src dst k := by
  refine ⟨hg.body, hg.srcEndpoint, hg.dstEndpoint, ?_⟩
  have hbody : (m.set g.transfer).body = .transferAtomicPduGroup [resolveKey E src k] := hg.body
  obtain ⟨L, p, hpolicy, hflags⟩ := hg.policy
  have hpolicy' : (g.hostAt m).policies (m.set g.transfer).policy = .immediate p := hpolicy
  show ∃ L p, ((m.set g.transfer).onRecvCallback E (resolveKey E src k)
    (g.hostAt m)).1.policies (m.set g.transfer).policy = .immediate p ∧ FlagsSince _ L p
  unfold ITransferPdu.onRecvCallback
  rw [hbody]
  dsimp only
  by_cases hactive : (m.set g.transfer).isActive = true
  · obtain ⟨call, -, -, hnext, -⟩ := ITransferPdu.gateLog_of_active E (resolveKey E src k)
      ((m.set g.transfer).tryTransferGroup E [resolveKey E src k]) (g.hostAt m) hactive
    rw [hpolicy'] at hnext
    obtain ⟨p', hp', hflags'⟩ := hflags.next
      (show (⟨call, ((Policy.immediate p).solo call).2, []⟩ : GateEntry).fired = _ from rfl)
    exact ⟨_, p', hnext.trans hp', hflags'⟩
  · rw [(ITransferPdu.gateLog_of_inactive E _ _ _ (Bool.eq_false_iff.2 hactive)).2]
    exact ⟨L, p, hpolicy', hflags⟩

/-- The callback of an active one reads its only member. -/
theorem IsGroup.attempt_eq (hg : g.IsGroup E src dst k) (m : Moment ε) :
    attempt E (resolveKey E src k) g m = if m.isActive then
      ((m.set g.transfer).memberSend (resolveKey E src k, ((m.set g.transfer).readMember E
        (resolveKey E src k) m.outside).2)).toList.map Send.payload else [] := by
  have hbody : (m.set g.transfer).body = .transferAtomicPduGroup [resolveKey E src k] := hg.body
  obtain ⟨L, p, hpolicy, hflags⟩ := hg.policy
  have hpolicy' : (g.hostAt m).policies (m.set g.transfer).policy = .immediate p := hpolicy
  -- the only member completes every round
  have hyes : (p.shouldTransfer (resolveKey E src k)).2 = true :=
    (hflags.answer _).2 ⟨List.mem_cons_self, fun key hkey => .inl (List.mem_singleton.1 hkey)⟩
  unfold attempt ITransferPdu.onRecvCallback
  rw [hbody]
  dsimp only
  split_ifs with hactive
  · rw [ITransferPdu.gated_immediate hactive hpolicy' hyes,
      ITransferPdu.tryTransferGroup_singleton]
    rfl
  · rw [(ITransferPdu.gateLog_of_inactive E _ _ _ (Bool.eq_false_iff.2 hactive)).2]
    rfl

/-- What the group does with its member: it has the same size and the same `recv` under both forms
of the key. -/
theorem IsGroup.readMember (hg : g.IsGroup E src dst k) (hkey : KeyDefined E src k)
    (m : Moment ε) : ((m.set g.transfer).readMember E (resolveKey E src k) m.outside).2 =
      if E.getPduSize src k.endpointKey = 0 then .skipped
      else
        match E.recv src (.named k.endpointKey) (E.getPduSize src k.endpointKey) m.outside with
        | (_, .error _) => .skipped
        | (_, .ok received) =>
          if received.length = E.getPduSize src k.endpointKey then
            if m.accepts E (fillBuffer (E.getPduSize src k.endpointKey) received) then
              .read (fillBuffer (E.getPduSize src k.endpointKey) received)
            else .rejected
          else .skipped := by
  have hsrc : (m.set g.transfer).srcEndpoint = src := hg.srcEndpoint
  have hname : (⟨(resolveKey E src k).robot, E.getPduName src (resolveKey E src k)⟩ : PduKey) =
      k.endpointKey := by
    rw [hkey.name]
    rfl
  unfold ITransferPdu.readMember
  dsimp only
  rw [hsrc, hname, hkey.recv]
  split_ifs
  · rfl
  · generalize E.recv src (.named k.endpointKey) (E.getPduSize src k.endpointKey) m.outside = r
    obtain ⟨e₁, error | received⟩ := r
    · rfl
    · dsimp only
      rw [Moment.epochAccepted_set]
      split_ifs
      · rfl
      · rfl
      · rfl

/-- It sends the PDU that it reads if that has the size of its definition. -/
theorem IsGroup.attempt_of_full (hg : g.IsGroup E src dst k) (hkey : KeyDefined E src k)
    (hreads : m.Reads E src k e₁ received)
    (hsize : received.length = E.getPduSize src k.endpointKey) :
    attempt E (resolveKey E src k) g m =
      [(dst, fillBuffer (E.getPduSize src k.endpointKey) received)] := by
  obtain ⟨hactive, hsized, hrecv, hepoch⟩ := hreads
  have hdst : (m.set g.transfer).dstEndpoint = dst := hg.dstEndpoint
  rw [hg.attempt_eq, if_pos hactive, hg.readMember hkey, if_neg hsized, hrecv]
  dsimp only
  rw [if_pos hsize, if_pos hepoch, ITransferPdu.memberSend_read, hdst]
  rfl

/-- Otherwise it attempts nothing. -/
theorem IsGroup.attempt_of_other_size (hg : g.IsGroup E src dst k) (hkey : KeyDefined E src k)
    (hsize : ∀ e₁ received, m.Reads E src k e₁ received →
      received.length ≠ E.getPduSize src k.endpointKey) :
    attempt E (resolveKey E src k) g m = [] := by
  rw [hg.attempt_eq]
  split_ifs with hactive
  · rw [hg.readMember hkey]
    split_ifs with hsized
    · rfl
    · split
      · rfl
      · next e₁ received hrecv =>
        split_ifs with hlen hepoch
        · exact absurd hlen (hsize e₁ received ⟨hactive, hsized, hrecv, hepoch⟩)
        · rfl
        · rfl
  · rfl

/-! ## Both -/

/-- The condition on a reception: what is read has the size of its definition just when the
destination is not reported as stopped. -/
def Agree (E : Env ε) (src dst : EndpointRef) (k : BridgePduKey) (m : Moment ε) : Prop :=
  ∀ e₁ received, m.Reads E src k e₁ received →
    (received.length = E.getPduSize src k.endpointKey ↔ ¬ Stopped E dst e₁)

/-- **One reception.** -/
theorem attempt_eq_iff {g' : Gate ε} (hg : g.IsSingle E src dst k) (hg' : g'.IsGroup E src dst k)
    (hkey : KeyDefined E src k) (m : Moment ε) :
    attempt E (resolveKey E src k) g m = attempt E (resolveKey E src k) g' m ↔
      Agree E src dst k m := by
  by_cases hreads : ∃ e₁ received, m.Reads E src k e₁ received
  · obtain ⟨e₁, received, hreads⟩ := hreads
    -- `recv` has one result
    have honly : ∀ e₂ received', m.Reads E src k e₂ received' → e₂ = e₁ ∧ received' = received := by
      intro e₂ received' hreads'
      have hsame := hreads'.recv.symm.trans hreads.recv
      exact ⟨congrArg Prod.fst hsame, Except.ok.inj (congrArg Prod.snd hsame)⟩
    have hagree : Agree E src dst k m ↔
        (received.length = E.getPduSize src k.endpointKey ↔ ¬ Stopped E dst e₁) := by
      constructor
      · intro h
        exact h e₁ received hreads
      · intro h e₂ received' hreads'
        obtain ⟨rfl, rfl⟩ := honly e₂ received' hreads'
        exact h
    rw [hagree]
    by_cases hrun : Stopped E dst e₁
    · have hsingle := hg.attempt_of_stopped (m := m) fun e₂ received' hreads' =>
        (honly e₂ received' hreads').1 ▸ hrun
      by_cases hsize : received.length = E.getPduSize src k.endpointKey
      · rw [hsingle, hg'.attempt_of_full hkey hreads hsize]
        simp [hsize, hrun]
      · have hgroup := hg'.attempt_of_other_size hkey (m := m) fun e₂ received' hreads' =>
          (honly e₂ received' hreads').2 ▸ hsize
        rw [hsingle, hgroup]
        simp [hsize, hrun]
    · have hsingle := hg.attempt_of_running hreads hrun
      by_cases hsize : received.length = E.getPduSize src k.endpointKey
      · rw [hsingle, hg'.attempt_of_full hkey hreads hsize]
        simp [hsize, hrun]
      · have hgroup := hg'.attempt_of_other_size hkey (m := m) fun e₂ received' hreads' =>
          (honly e₂ received' hreads').2 ▸ hsize
        rw [hsingle, hgroup]
        simp [hsize, hrun]
  · have hnone : ∀ e₁ received, ¬ m.Reads E src k e₁ received := fun e₁ received h =>
      hreads ⟨e₁, received, h⟩
    rw [hg.attempt_of_stopped fun e₁ received h => absurd h (hnone e₁ received),
      hg'.attempt_of_other_size hkey fun e₁ received h => absurd h (hnone e₁ received)]
    exact ⟨fun _ e₁ received h => absurd h (hnone e₁ received), fun _ => rfl⟩

/-- **A run of receptions.** -/
theorem run_hear_eq_iff (hkey : KeyDefined E src k) {g' : Gate ε} (hg : g.IsSingle E src dst k)
    (hg' : g'.IsGroup E src dst k) (ms : List (Moment ε)) :
    (run (hear E (resolveKey E src k)) g ms).2.map (fun sends => sends.map Send.payload) =
        (run (hear E (resolveKey E src k)) g' ms).2.map (fun sends => sends.map Send.payload) ↔
      ∀ m ∈ ms, Agree E src dst k m := by
  induction ms generalizing g g' with
  | nil => simp
  | cons m ms ih =>
    rw [run_cons_snd, run_cons_snd, List.map_append, List.map_append, List.forall_mem_cons,
      ← attempt_eq_iff hg hg' hkey m, ← ih (hg.hear m) (hg'.hear m)]
    exact List.cons_eq_cons

/-- A single transfer of the key, as `build` makes it for a non-atomic immediate entry. -/
def singleTransfer (k : BridgePduKey) (src dst : EndpointRef) : NewTransfer :=
  .transferPdu k (.immediate (.new false)) src dst

/-- A group of the key alone, as `build` makes it: the key is registered with the policy first. -/
def groupOfOne (E : Env ε) (k : BridgePduKey) (src dst : EndpointRef) : NewTransfer :=
  .transferAtomicPduGroup [k]
    (.immediate ((ImmediatePolicy.new true).addPduKey (resolveKey E src k))) src dst

theorem isSingle_create (E : Env ε) (k : BridgePduKey) (src dst : EndpointRef) (h : Host ε) :
    IsSingle E src dst k
      ⟨((singleTransfer k src dst).create E h).1, ((singleTransfer k src dst).create E h).2⟩ := by
  refine ⟨rfl, rfl, rfl, ?_⟩
  have hpolicy : ((singleTransfer k src dst).create E h).2.policies h.nextPolicy =
      .immediate ((ImmediatePolicy.new false).addPduKey (resolveKey E src k)) := by
    simp [singleTransfer, NewTransfer.create, newTransferPdu, Host.newPolicy, Policy.addPduKey]
  unfold policy
  rw [show ((singleTransfer k src dst).create E h).1.policy = h.nextPolicy from rfl, hpolicy]
  rfl

theorem isGroup_create (E : Env ε) (k : BridgePduKey) (src dst : EndpointRef) (h : Host ε) :
    IsGroup E src dst k
      ⟨((groupOfOne E k src dst).create E h).1, ((groupOfOne E k src dst).create E h).2⟩ := by
  refine ⟨rfl, rfl, rfl, [], _, ?_, FlagsSince.registered [resolveKey E src k]⟩
  have hpolicy : ((groupOfOne E k src dst).create E h).2.policies h.nextPolicy =
      [resolveKey E src k].foldl (fun p key => p.addPduKey key)
        (.immediate ((ImmediatePolicy.new true).addPduKey (resolveKey E src k))) := by
    simp [groupOfOne, NewTransfer.create, newTransferAtomicPduGroup, Host.newPolicy]
  rw [← Policy.foldl_addPduKey]
  exact hpolicy.trans (Builder.groupPolicy_eq [k])

/-- **The two paths agree exactly when** at each reception at which they read a PDU, its size is
that of its definition just when the destination is not reported as stopped. -/
theorem attempts_eq_iff (E : Env ε) {k : BridgePduKey} {src : EndpointRef}
    (hkey : KeyDefined E src k) (dst : EndpointRef) (h h' : Host ε) (ms : List (Moment ε)) :
    attempts E (resolveKey E src k) ((singleTransfer k src dst).create E h) ms =
        attempts E (resolveKey E src k) ((groupOfOne E k src dst).create E h') ms ↔
      ∀ m ∈ ms, Agree E src dst k m :=
  run_hear_eq_iff hkey (isSingle_create E k src dst h) (isGroup_create E k src dst h') ms

/-! ## One full PDU, and a short one -/

/-- A reception of `pos` on `src`. -/
def samplePos (data : Bytes) : Moment CacheState where
  outside := CacheSpec.setCell (.container "src") ⟨"r", 1⟩ [data] CacheState.empty
  isActive := true
  ownerEpoch := 0
  epochValidation := true

theorem keyDefined_small (mode : CacheMode) :
    KeyDefined ((CacheSpec.small mode).env none) (.container "src") ⟨"r.pos", "r", "pos"⟩ :=
  ⟨rfl, fun _ _ => rfl⟩

/-- A PDU of the size of its definition, to a destination that runs. -/
theorem attempts_eq_small :
    let E := (CacheSpec.small .latest).env none
    let k : BridgePduKey := ⟨"r.pos", "r", "pos"⟩
    let h := Host.boot CacheState.empty
    attempts E ⟨"r", 1⟩ ((singleTransfer k (.container "src") (.container "dst")).create E h)
        [samplePos [0, 7]] =
      attempts E ⟨"r", 1⟩ ((groupOfOne E k (.container "src") (.container "dst")).create E h)
        [samplePos [0, 7]] := by
  intro E k h
  refine (attempts_eq_iff E (keyDefined_small .latest) (.container "dst") h h _).2 ?_
  intro m hm e₁ received hreads
  obtain rfl := List.mem_singleton.1 hm
  have hread : received = [0, 7] := by
    have hrecv := congrArg Prod.snd hreads.recv
    exact (Except.ok.inj hrecv).symm
  rw [hread]
  exact ⟨fun _ hstopped => Bool.noConfusion (show true = false from hstopped.2), fun _ => rfl⟩

/-- A short PDU: the single transfer sends it with a zero behind it, and the group skips it. -/
theorem short_pdu_disagrees :
    let E := (CacheSpec.small .latest).env none
    let k : BridgePduKey := ⟨"r.pos", "r", "pos"⟩
    let h := Host.boot CacheState.empty
    (attempts E ⟨"r", 1⟩ ((singleTransfer k (.container "src") (.container "dst")).create E h)
        [samplePos [0]]).flatten ≠
      (attempts E ⟨"r", 1⟩ ((groupOfOne E k (.container "src") (.container "dst")).create E h)
        [samplePos [0]]).flatten := by
  intro E k h hsame
  exact absurd hsame (by decide)

end Gate

end HakoniwaBridge
