import HakoniwaBridge.AtomicFrame
import HakoniwaBridge.Link

/-!
# Atomic frames at an ownership change

An atomic group of a validating connection, with a source in mode `latest`, under receptions and
epoch increments. `ImmediatePolicy` keeps a flag for each member and clears all of them after every
attempt, also after one that a stale member made return; so the flags agree with what was received
since the last frame (`seen`) as long as no attempt fails.

* `Contributable` — the member's stored PDU can be read whole and carries the owner epoch.
* `AttemptsReady` — the condition on a step: when it sets the last missing flag, every member is
  contributable.
* `FlagsSeen` — the invariant of flags and history.
* `frame_on_time` — along runs of the condition, a reception that completes the members received
  since the last frame emits a frame. Without it frames are lost (`forgets_fresh_member`).
-/

namespace HakoniwaBridge

open Lib

/-! ## Reading a group in mode `latest` -/

namespace ITransferPdu

variable {C : CacheSpec} {t : ITransferPdu}

/-- The stored PDU of the member can be read whole and passes the epoch check. -/
def Contributable (C : CacheSpec) (t : ITransferPdu) (e : CacheState) (key : PduResolvedKey) :
    Prop :=
  let size := C.getPduSize t.srcEndpoint ⟨key.robot, C.getPduName t.srcEndpoint key⟩
  size ≠ 0 ∧ ∃ received, C.stored t.srcEndpoint (.resolved key) size e = .ok received ∧
    received.length = size ∧ t.epochAccepted (C.env none) (fillBuffer size received) = true

/-- A contributable member is read; the caches stay as they are. -/
theorem readMember_of_contributable (hlatest : C.mode t.srcEndpoint = .latest)
    (after : Option UInt64) {e : CacheState} {key : PduResolvedKey}
    (h : Contributable C t e key) :
    ∃ buffer, t.readMember (C.env after) key e =
      ({ e with clock := after.getD e.clock }, .read buffer) := by
  obtain ⟨hsize, received, hstored, hlen, hepoch⟩ := h
  have hname : (C.env after).getPduName = C.getPduName := rfl
  have hepoch' : t.epochAccepted (C.env after) (fillBuffer _ received) = true := hepoch
  unfold readMember
  simp only [CacheSpec.env_getPduSize, CacheSpec.env_recv, hname,
    C.recv_eq_of_latest hlatest after, hstored, hlen, if_neg hsize, if_true, hepoch']
  exact ⟨_, rfl⟩

/-- If every member is contributable, every turn of the call contributes its member. -/
theorem contributed_of_contributable (hlatest : C.mode t.srcEndpoint = .latest)
    (after : Option UInt64) {keys : List PduResolvedKey} {e : CacheState}
    (h : ∀ key ∈ keys, Contributable C t e key) :
    ∀ m ∈ t.memberTurns (C.env after) keys e,
      ¬ NotRead (C.env after) t m.1 m.2 ∧ ¬ WrongEpoch (C.env after) t m.1 m.2 := by
  induction keys generalizing e with
  | nil => simp [memberTurns]
  | cons key keys ih =>
    obtain ⟨buffer, hread⟩ :=
      readMember_of_contributable hlatest after (h key List.mem_cons_self)
    have hstate := (readMember_turn (C.env after) t key e).1
    have hrest := @ih { e with clock := after.getD e.clock } fun key' hkey' =>
      h key' (List.mem_cons_of_mem _ hkey')
    rw [hread] at hstate
    rw [memberTurns, ← hstate]
    intro m hm
    rcases List.mem_cons.1 hm with rfl | hm
    · rw [← readMember_skipped_iff, ← readMember_rejected_iff, hread]
      exact ⟨MemberRead.noConfusion, MemberRead.noConfusion⟩
    · exact hrest m hm

/-- Then a whole frame goes out. -/
theorem frame_of_contributable (hlatest : C.mode t.srcEndpoint = .latest) (after : Option UInt64)
    {keys : List PduResolvedKey} {e : CacheState} (h : ∀ key ∈ keys, Contributable C t e key) :
    (t.tryTransferGroup (C.env after) keys e).2.map Send.key = keys.map .resolved := by
  rw [keys_of_carried (frame_of_contributed (contributed_of_contributable hlatest after h)),
    memberTurns_map_fst]

end ITransferPdu

/-! ## The invariant of flags and history -/

namespace Link

/-- The reception emitted a frame: one send for each member, in group order. -/
def isFrame (keys : List PduResolvedKey) (r : Heard) : Bool :=
  decide (r.sends.map Send.key = keys.map ApiKey.resolved)

/-- The keys received since the last frame. -/
def seen (keys : List PduResolvedKey) (rs : List Heard) : List PduResolvedKey :=
  rs.foldl (fun acc r => if isFrame keys r then [] else r.key :: acc) []

theorem seen_append_singleton (keys : List PduResolvedKey) (rs : List Heard) (r : Heard) :
    seen keys (rs ++ [r]) = if isFrame keys r then [] else r.key :: seen keys rs := by
  rw [seen, List.foldl_append]
  rfl

variable {C : CacheSpec} {i : Nat} {s : Link} {t : ITransferPdu} {keys : List PduResolvedKey}
  {rs : List Heard}

/-- The transfer at position `i` is an active group of the connection with these members and a
source in mode `latest`. -/
structure GroupFocus (C : CacheSpec) (i : Nat) (s : Link) (t : ITransferPdu)
    (keys : List PduResolvedKey) : Prop where
  get : s.connection.transferPdus[i]? = some t
  body : t.body = .transferAtomicPduGroup keys
  latest : C.mode t.srcEndpoint = .latest
  active : t.isActive = true

/-- The policy of the group: its keys are the members, its flags are up for those that were
received since the last frame. -/
structure FlagsSeen (keys : List PduResolvedKey) (rs : List Heard) (policy : Policy)
    (p : ImmediatePolicy) : Prop where
  policy : policy = .immediate p
  atomic : p.isAtomic = true
  mem_keys : ∀ k, k ∈ p.recvStates.keys ↔ k ∈ keys
  arrived : ∀ k ∈ keys, p.recvStates.Arrived k ↔ k ∈ seen keys rs

/-- The flags are all up once the missing members are received. -/
theorem FlagsSeen.full {policy : Policy} {p : ImmediatePolicy} (h : FlagsSeen keys rs policy p)
    {key : PduResolvedKey} (hkey : key ∈ keys) :
    (p.shouldTransfer key).2 = true ↔ ∀ k ∈ keys, k = key ∨ k ∈ seen keys rs := by
  have hmem : key ∈ p.recvStates.keys := (h.mem_keys key).2 hkey
  unfold ImmediatePolicy.shouldTransfer
  rw [if_pos h.atomic, if_pos hmem, Barrier.full_iff, Barrier.keys_arrive]
  constructor
  · intro hfull k hk
    rcases Barrier.arrived_arrive.1 (hfull k ((h.mem_keys k).2 hk)) with hup | ⟨hk', -⟩
    · exact Or.inr ((h.arrived k hk).1 hup)
    · exact Or.inl hk'
  · intro hall k hk
    have hk' := (h.mem_keys k).1 hk
    apply Barrier.arrived_arrive.2
    rcases hall k hk' with rfl | hseen
    · exact Or.inr ⟨rfl, hmem⟩
    · exact Or.inl ((h.arrived k hk').2 hseen)

/-- The condition on a step: when all flags are up, every member is contributable. -/
def AttemptsReady (C : CacheSpec) (i : Nat) (keys : List PduResolvedKey) (s : Link) (op : LinkOp) :
    Prop :=
  ∀ key arrival done data, op = .reception key arrival done data → key ∈ keys →
    ∀ t, s.connection.transferPdus[i]? = some t →
      ∀ p, s.host.policies t.policy = .immediate p → (p.shouldTransfer key).2 = true →
        ∀ k ∈ keys, t.Contributable C (deliver C t key arrival data s.host).env k

theorem GroupFocus.hears_iff (h : GroupFocus C i s t keys) (key : PduResolvedKey) :
    t.hears key = true ↔ key ∈ keys := by
  unfold ITransferPdu.hears
  rw [h.body]
  exact decide_eq_true_iff

/-- What a reception of a member does under the condition: it sets the member's flag, or it emits
a frame and clears the flags. -/
theorem GroupFocus.received (h : GroupFocus C i s t keys) {p : ImmediatePolicy}
    (hflags : FlagsSeen keys rs (s.host.policies t.policy) p) {key : PduResolvedKey}
    (hkey : key ∈ keys) {arrival done : UInt64} {data : Bytes}
    (hready : AttemptsReady C i keys s (.reception key arrival done data)) :
    ∃ r p', (Link.step C i s (.reception key arrival done data)).2 = [r] ∧ r.key = key ∧
      (Link.step C i s (.reception key arrival done data)).1.host.policies t.policy =
        .immediate p' ∧
      if (p.shouldTransfer key).2 then isFrame keys r = true ∧
        p' = { p with recvStates := (p.recvStates.arrive key).clear }
      else r.sends = [] ∧ p' = { p with recvStates := p.recvStates.arrive key } := by
  have hmem : key ∈ p.recvStates.keys := (hflags.mem_keys key).2 hkey
  have hcallback : ∀ (E : Env CacheState) (host : Host CacheState),
      t.onRecvCallback E key host = t.gated E key (t.tryTransferGroup E keys) host := by
    intro E host
    unfold ITransferPdu.onRecvCallback
    rw [h.body]
  have hshould : ∀ e, (Policy.immediate p).shouldTransfer (C.env (some done)) key e =
      (.immediate { p with recvStates := p.recvStates.arrive key }, e,
        (p.recvStates.arrive key).full) := by
    intro e
    simp only [Policy.shouldTransfer, ImmediatePolicy.shouldTransfer, if_pos hflags.atomic,
      if_pos hmem]
  have hanswer : (p.shouldTransfer key).2 = (p.recvStates.arrive key).full := by
    unfold ImmediatePolicy.shouldTransfer
    rw [if_pos hflags.atomic, if_pos hmem]
  rw [step_heard C h.get ((h.hears_iff key).2 hkey), hcallback]
  have hpolicy : (deliver C t key arrival data s.host).policies t.policy = .immediate p :=
    hflags.policy
  cases hfull : (p.recvStates.arrive key).full with
  | false =>
    refine ⟨_, { p with recvStates := p.recvStates.arrive key }, rfl, rfl, ?_, ?_⟩
    · unfold ITransferPdu.gated
      rw [if_pos h.active, hpolicy, hshould, hfull]
      simp [Host.put]
    · rw [hanswer, hfull, if_neg Bool.false_ne_true]
      refine ⟨?_, rfl⟩
      unfold ITransferPdu.gated
      rw [if_pos h.active, hpolicy, hshould, hfull]
  | true =>
    have hall := hready key arrival done data rfl hkey t h.get p hflags.policy
      (hanswer.trans hfull)
    have hframe := ITransferPdu.frame_of_contributable h.latest (some done) hall
    refine ⟨_, { p with recvStates := (p.recvStates.arrive key).clear }, rfl, rfl, ?_, ?_⟩
    · unfold ITransferPdu.gated
      rw [if_pos h.active, hpolicy, hshould, hfull]
      simp [Host.put, Policy.onTransferred, ImmediatePolicy.onTransferred, hflags.atomic]
    · rw [hanswer, hfull, if_pos rfl]
      refine ⟨?_, rfl⟩
      unfold ITransferPdu.gated
      rw [if_pos h.active, hpolicy, hshould, hfull]
      exact decide_eq_true hframe

/-- The invariant: a group whose flags are up for the members received since the last frame. -/
def FlagsInv (C : CacheSpec) (i : Nat) (keys : List PduResolvedKey) (s : Link)
    (rs : List Heard) : Prop :=
  ∃ t p, GroupFocus C i s t keys ∧ FlagsSeen keys rs (s.host.policies t.policy) p

/-- A setting of the flags, or a frame that clears them, keeps flags and history together. -/
theorem FlagsSeen.next {policy policy' : Policy} {p p' : ImmediatePolicy}
    (h : FlagsSeen keys rs policy p) {key : PduResolvedKey} (hkey : key ∈ keys) {r : Heard}
    (hr : r.key = key) (hpolicy : policy' = .immediate p')
    (hcase : if (p.shouldTransfer key).2 then isFrame keys r = true ∧
        p' = { p with recvStates := (p.recvStates.arrive key).clear }
      else r.sends = [] ∧ p' = { p with recvStates := p.recvStates.arrive key }) :
    FlagsSeen keys (rs ++ [r]) policy' p' := by
  have hmem : key ∈ p.recvStates.keys := (h.mem_keys key).2 hkey
  cases hfull : (p.shouldTransfer key).2 with
  | true =>
    rw [hfull, if_pos rfl] at hcase
    obtain ⟨hframe, rfl⟩ := hcase
    refine ⟨hpolicy, h.atomic, fun k => ?_, fun k _ => ?_⟩
    · dsimp only
      rw [Barrier.keys_clear, Barrier.keys_arrive]
      exact h.mem_keys k
    · rw [seen_append_singleton, if_pos hframe]
      exact ⟨fun hk => absurd hk (Barrier.not_arrived_clear _ k),
        fun hk => absurd hk List.not_mem_nil⟩
  | false =>
    rw [hfull, if_neg Bool.false_ne_true] at hcase
    obtain ⟨hnone, rfl⟩ := hcase
    have hframe : isFrame keys r = false := by
      apply decide_eq_false
      intro heq
      rw [hnone, List.map_nil] at heq
      have hnil := List.map_eq_nil_iff.1 heq.symm
      rw [hnil] at hkey
      exact absurd hkey List.not_mem_nil
    refine ⟨hpolicy, h.atomic, fun k => ?_, fun k hk => ?_⟩
    · dsimp only
      rw [Barrier.keys_arrive]
      exact h.mem_keys k
    · rw [seen_append_singleton, hframe, if_neg Bool.false_ne_true, hr, Barrier.arrived_arrive,
        h.arrived k hk, List.mem_cons]
      constructor
      · rintro (hseen | ⟨hk', -⟩)
        · exact Or.inr hseen
        · exact Or.inl hk'
      · rintro (hk' | hseen)
        · exact Or.inr ⟨hk', hmem⟩
        · exact Or.inl hseen

/-- Every step of the condition keeps the invariant. -/
theorem FlagsInv.step (h : FlagsInv C i keys s rs) {op : LinkOp}
    (hready : AttemptsReady C i keys s op) :
    FlagsInv C i keys (Link.step C i s op).1 (rs ++ (Link.step C i s op).2) := by
  obtain ⟨t, p, hfocus, hflags⟩ := h
  cases op with
  | incrementEpoch =>
    refine ⟨t.setEpoch (s.connection.epoch + 1), p,
      ⟨get_incrementEpoch hfocus.get, hfocus.body, hfocus.latest, hfocus.active⟩, ?_⟩
    show FlagsSeen keys (rs ++ []) (s.host.policies t.policy) p
    rw [List.append_nil]
    exact hflags
  | reception key arrival done data =>
    by_cases hkey : key ∈ keys
    · obtain ⟨r, p', hout, hr, hpolicy, hcase⟩ := hfocus.received hflags hkey hready
      have hget : (Link.step C i s (.reception key arrival done data)).1.connection =
          s.connection := by
        rw [step_heard C hfocus.get ((hfocus.hears_iff key).2 hkey)]
      rw [hout]
      refine ⟨t, p', ⟨?_, hfocus.body, hfocus.latest, hfocus.active⟩,
        hflags.next hkey hr hpolicy hcase⟩
      rw [hget]
      exact hfocus.get
    · have hhears : t.hears key = false := by
        rw [← Bool.not_eq_true, hfocus.hears_iff]
        exact hkey
      rw [step_unheard C hfocus.get hhears, List.append_nil]
      exact ⟨t, p, ⟨hfocus.get, hfocus.body, hfocus.latest, hfocus.active⟩, hflags⟩

/-- A group that `build` has just made. -/
theorem flagsInv_group {configKeys : List BridgePduKey} {src dst : EndpointRef}
    (hlatest : C.mode src = .latest) (c : BridgeConnection) (h : Host CacheState) :
    FlagsInv C c.transferPdus.length (configKeys.map (resolveKey (C.env none) src))
      (group C configKeys src dst c h) [] := by
  obtain ⟨hatomic, hkeys, harrived⟩ := ImmediatePolicy.foldl_addPduKey
    (configKeys.map (resolveKey (C.env none) src)) (ImmediatePolicy.new true)
  obtain ⟨hatomic', hkeys', harrived'⟩ := ImmediatePolicy.foldl_addPduKey
    (configKeys.map (resolveKey (C.env none) src))
    ((configKeys.map (resolveKey (C.env none) src)).foldl (fun p key => p.addPduKey key)
      (ImmediatePolicy.new true))
  refine ⟨_, _, ⟨List.getElem?_concat_length, rfl, hlatest, rfl⟩, ⟨?_, hatomic'.trans hatomic,
    fun k => ?_, fun k _ => ?_⟩⟩
  · have hvalue : (group C configKeys src dst c h).host.policies h.nextPolicy =
        (configKeys.map (resolveKey (C.env none) src)).foldl (fun p key => p.addPduKey key)
          (.immediate (configKeys.foldl
            (fun p key => p.addPduKey (resolveKey (C.env none) src key)) (.new true))) := by
      simp [group, Builder.addGroup, newTransferAtomicPduGroup, Host.newPolicy]
    have hmap : configKeys.foldl (fun p key => p.addPduKey (resolveKey (C.env none) src key))
          (.new true) =
        (configKeys.map (resolveKey (C.env none) src)).foldl (fun p key => p.addPduKey key)
          (ImmediatePolicy.new true) := List.foldl_map.symm
    apply hvalue.trans
    rw [hmap, Policy.foldl_addPduKey]
  · rw [hkeys', hkeys]
    refine ⟨?_, Or.inl⟩
    rintro (hk | hk | hk)
    · exact hk
    · exact hk
    · exact absurd hk List.not_mem_nil
  · refine ⟨fun hk => absurd (harrived k (harrived' k hk)) (Barrier.not_arrived_empty k),
      fun hk => absurd hk List.not_mem_nil⟩

/-! ## Runs -/

/-- The epoch of the PDU that the source holds for a key. -/
def storedEpoch (C : CacheSpec) (t : ITransferPdu) (e : CacheState) (key : PduResolvedKey) :
    Option UInt8 :=
  (e.cells t.srcEndpoint key).head?.bind C.hakoPduGetEpoch

/-- If the operation is a reception after which every member was received since the last frame,
and every member's stored PDU carries the owner epoch, then it emits a frame. -/
def FrameOnTime (C : CacheSpec) (i : Nat) (keys : List PduResolvedKey) (rs : List Heard)
    (s : Link) (op : LinkOp) : Prop :=
  ∀ key arrival done data, op = .reception key arrival done data → key ∈ keys →
    ∀ t, s.connection.transferPdus[i]? = some t →
      (∀ k ∈ keys, k = key ∨ k ∈ seen keys rs) →
      (∀ k ∈ keys, storedEpoch C t (deliver C t key arrival data s.host).env k =
        some s.connection.epoch) →
      ∃ r, (Link.step C i s op).2 = [r] ∧ isFrame keys r = true

/-- **Frames on time.** For every atomic group with a source in mode `latest` and every run in
which every attempt finds all members contributable, each reception that completes the members
received since the last frame emits a frame. -/
theorem frame_on_time (C : CacheSpec) {configKeys : List BridgePduKey} {src dst : EndpointRef}
    (hlatest : C.mode src = .latest) (c : BridgeConnection) (h : Host CacheState)
    {ops : List LinkOp} {op : LinkOp}
    (hops : Along (Link.step C c.transferPdus.length)
      (AttemptsReady C c.transferPdus.length (configKeys.map (resolveKey (C.env none) src)))
      (group C configKeys src dst c h) (ops ++ [op])) :
    FrameOnTime C c.transferPdus.length (configKeys.map (resolveKey (C.env none) src))
      (run (Link.step C c.transferPdus.length) (group C configKeys src dst c h) ops).2
      (run (Link.step C c.transferPdus.length) (group C configKeys src dst c h) ops).1 op := by
  obtain ⟨hbefore, hlast, -⟩ := along_append.1 hops
  have hstart := @flagsInv_group C configKeys src dst hlatest c h
  have hinv := run_history
    (fun s rs op (hinv : FlagsInv C c.transferPdus.length _ s rs) hop => hinv.step hop) hstart
    hbefore
  rw [List.nil_append] at hinv
  obtain ⟨t, p, hfocus, hflags⟩ := hinv
  intro key arrival done data hop hkey _ _ hall _
  subst hop
  obtain ⟨r, p', hout, -, -, hcase⟩ := hfocus.received hflags hkey hlast
  rw [(hflags.full hkey).2 hall, if_pos rfl] at hcase
  exact ⟨r, hout, hcase.1⟩

/-- The group of `pos` and `vel` of a robot, on a validating connection. -/
def pair : Link :=
  group (CacheSpec.small .latest) [⟨"p", "r", "pos"⟩, ⟨"v", "r", "vel"⟩] (.container "src")
    (.container "dst") validating (Host.boot CacheState.empty)

/-- The members of `pair`. -/
def pairKeys : List PduResolvedKey := [⟨"r", 1⟩, ⟨"r", 2⟩]

/-- Both members of the current epoch are received, and the frame goes out. -/
theorem frame_on_time_small :
    FrameOnTime (CacheSpec.small .latest) 0 pairKeys
      (run (Link.step (CacheSpec.small .latest) 0) pair [.reception ⟨"r", 1⟩ 0 0 [0, 7]]).2
      (run (Link.step (CacheSpec.small .latest) 0) pair [.reception ⟨"r", 1⟩ 0 0 [0, 7]]).1
      (.reception ⟨"r", 2⟩ 1 1 [0, 8]) := by
  refine @frame_on_time (CacheSpec.small .latest) [⟨"p", "r", "pos"⟩, ⟨"v", "r", "vel"⟩]
    (.container "src") (.container "dst") rfl validating (Host.boot CacheState.empty)
    [.reception ⟨"r", 1⟩ 0 0 [0, 7]] _ ⟨?_, ?_, trivial⟩
  · intro key arrival done data hop _ t ht p hp hfull
    obtain ⟨rfl, rfl, rfl, rfl⟩ := LinkOp.reception.inj hop
    obtain rfl := Option.some.inj ht
    obtain rfl := Policy.immediate.inj hp
    exact absurd hfull (by decide)
  · intro key arrival done data hop _ t ht p hp _ k hk
    obtain ⟨rfl, rfl, rfl, rfl⟩ := LinkOp.reception.inj hop
    obtain rfl := Option.some.inj ht
    rcases List.mem_cons.1 hk with rfl | hk
    · exact ⟨by decide, [0, 7], rfl, rfl, rfl⟩
    · obtain rfl := List.mem_singleton.1 hk
      exact ⟨by decide, [0, 8], rfl, rfl, rfl⟩

/-- `pos` of epoch 0, an increment, `vel` of epoch 1: the attempt fails on the stale `pos`, and
`vel` is forgotten. The next `pos` completes a fresh pair and no frame goes out. -/
theorem forgets_fresh_member :
    ¬ FrameOnTime (CacheSpec.small .latest) 0 pairKeys
      (run (Link.step (CacheSpec.small .latest) 0) pair
        [.reception ⟨"r", 1⟩ 0 0 [0, 7], .incrementEpoch, .reception ⟨"r", 2⟩ 1 1 [1, 8]]).2
      (run (Link.step (CacheSpec.small .latest) 0) pair
        [.reception ⟨"r", 1⟩ 0 0 [0, 7], .incrementEpoch, .reception ⟨"r", 2⟩ 1 1 [1, 8]]).1
      (.reception ⟨"r", 1⟩ 2 2 [1, 9]) := by
  intro hontime
  obtain ⟨r, hout, hframe⟩ := hontime ⟨"r", 1⟩ 2 2 [1, 9] rfl (by decide) _ rfl (by decide)
    (by decide)
  have hnone : r.sends = [] := by
    have hsame := congrArg (List.map Heard.sends) hout
    exact (List.cons.inj hsame).1.symm
  rw [isFrame, hnone] at hframe
  exact absurd hframe (by decide)

end Link

end HakoniwaBridge
