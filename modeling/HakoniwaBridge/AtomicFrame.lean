import HakoniwaBridge.Transfer

/-!
# Atomic frames

Whether one call of `try_transfer_group` is all or nothing, for any group, any endpoint behaviour
and any state.

* `memberTurns` — the members, each with the outside state in which the read loop comes to it.
* `NotRead`, `WrongEpoch` — the ways in which a member is not contributed, by what `get_pdu_size`,
  `recv` and `hako_pdu_get_epoch` answer; `readMember_turn` ties them to the loop's code.
* `tryTransferGroup_snd` — the sends of the call, as a function of these.
* `AllOrNothing` — if some member is not contributed nothing is sent, otherwise every member is.
* `allOrNothing_iff` — the call is all or nothing unless some member is not read, another is, and
  none has a wrong epoch.
-/

namespace HakoniwaBridge

variable {ε : Type}

namespace ITransferPdu

/-! ## The turns of the read loop -/

/-- The size of a member: what `get_pdu_size` answers at the name that `get_pdu_name` gives. -/
def memberPduSize (E : Env ε) (t : ITransferPdu) (key : PduResolvedKey) : Nat :=
  E.getPduSize t.srcEndpoint ⟨key.robot, E.getPduName t.srcEndpoint key⟩

/-- The `recv` of a member into a buffer of that size. -/
def memberRecv (E : Env ε) (t : ITransferPdu) (key : PduResolvedKey) (e : ε) :
    ε × Except HakoPduErrorType Bytes :=
  E.recv t.srcEndpoint (.resolved key) (t.memberPduSize E key) e

/-- The outside state after a member's turn: a member of size 0 is not received. -/
def afterTurn (E : Env ε) (t : ITransferPdu) (key : PduResolvedKey) (e : ε) : ε :=
  if t.memberPduSize E key = 0 then e else (t.memberRecv E key e).1

/-- The members of the group in order, each with the outside state in which its turn begins (or
would begin: the loop ends at the first wrong epoch). -/
def memberTurns (E : Env ε) (t : ITransferPdu) :
    List PduResolvedKey → ε → List (PduResolvedKey × ε)
  | [], _ => []
  | key :: keys, e => (key, e) :: memberTurns E t keys (t.afterTurn E key e)

/-- Every member has its turn, in group order. -/
@[simp] theorem memberTurns_map_fst (E : Env ε) (t : ITransferPdu) (keys : List PduResolvedKey)
    (e : ε) : (t.memberTurns E keys e).map Prod.fst = keys := by
  induction keys generalizing e with
  | nil => rfl
  | cons key keys ih => rw [memberTurns, List.map_cons, ih]

section MemberTurn

variable {E : Env ε} {t : ITransferPdu} {key : PduResolvedKey} {e : ε} {data : Bytes}

/-- `recv` hands over the bytes of a member, as many as its size says. -/
structure Arrives (E : Env ε) (t : ITransferPdu) (key : PduResolvedKey) (e : ε) (data : Bytes) :
    Prop where
  sized : t.memberPduSize E key ≠ 0
  recv : (t.memberRecv E key e).2 = .ok data
  length : data.length = t.memberPduSize E key

/-- The three ways in which a member is not read. -/
inductive NotRead (E : Env ε) (t : ITransferPdu) (key : PduResolvedKey) (e : ε) : Prop
  | noSize (h : t.memberPduSize E key = 0)
  | recvFails (error : HakoPduErrorType) (h : (t.memberRecv E key e).2 = .error error)
  | otherLength (data : Bytes) (h : (t.memberRecv E key e).2 = .ok data)
      (hlen : data.length ≠ t.memberPduSize E key)

/-- The two ways in which a member that is read fails the epoch validation. -/
inductive WrongEpoch (E : Env ε) (t : ITransferPdu) (key : PduResolvedKey) (e : ε) : Prop
  | unreadable (data : Bytes) (harrives : Arrives E t key e data) (hon : t.epochValidation = true)
      (h : E.hakoPduGetEpoch data = none)
  | differs (data : Bytes) (epoch : UInt8) (harrives : Arrives E t key e data)
      (hon : t.epochValidation = true) (h : E.hakoPduGetEpoch data = some epoch)
      (hne : epoch ≠ t.ownerEpoch)

theorem WrongEpoch.arrives (h : WrongEpoch E t key e) : ∃ data, Arrives E t key e data := by
  cases h with
  | unreadable data harrives => exact ⟨data, harrives⟩
  | differs data _ harrives => exact ⟨data, harrives⟩

theorem NotRead.not_arrives (h : NotRead E t key e) : ¬ Arrives E t key e data := by
  intro harrives
  cases h with
  | noSize h => exact harrives.sized h
  | recvFails error h => exact absurd (h.symm.trans harrives.recv) (by simp)
  | otherLength data' h hlen =>
    obtain rfl : data' = data := Except.ok.inj (h.symm.trans harrives.recv)
    exact hlen harrives.length

/-- A member that is not read has no epoch. -/
theorem NotRead.not_wrongEpoch (h : NotRead E t key e) : ¬ WrongEpoch E t key e := by
  intro hwrong
  obtain ⟨data, harrives⟩ := hwrong.arrives
  exact h.not_arrives harrives

/-- The epoch check refuses exactly the members with a wrong epoch. -/
theorem Arrives.epochAccepted_iff (h : Arrives E t key e data) :
    t.epochAccepted E data = true ↔ ¬ WrongEpoch E t key e := by
  unfold epochAccepted
  constructor
  · rintro haccepted (⟨data', harrives, hon, hepoch⟩ | ⟨data', epoch, harrives, hon, hepoch, hne⟩)
    · obtain rfl : data' = data := Except.ok.inj (harrives.recv.symm.trans h.recv)
      rw [if_pos hon, hepoch] at haccepted
      exact Bool.false_ne_true haccepted
    · obtain rfl : data' = data := Except.ok.inj (harrives.recv.symm.trans h.recv)
      rw [if_pos hon, hepoch] at haccepted
      exact hne (beq_iff_eq.1 haccepted)
  · intro hnot
    split_ifs with hon
    · cases hepoch : E.hakoPduGetEpoch data with
      | none => exact absurd (.unreadable data h hon hepoch) hnot
      | some epoch =>
        by_contra hne
        exact hnot (.differs data epoch h hon hepoch fun heq => hne (beq_iff_eq.2 heq))
    · rfl

/-- The outcome of a turn, by what became of the member. -/
inductive MemberTurn (E : Env ε) (t : ITransferPdu) (key : PduResolvedKey) (e : ε) :
    MemberRead → Prop
  | skipped (h : NotRead E t key e) : MemberTurn E t key e .skipped
  | rejected (h : WrongEpoch E t key e) : MemberTurn E t key e .rejected
  | read (data : Bytes) (h : Arrives E t key e data) (haccepted : ¬ WrongEpoch E t key e) :
      MemberTurn E t key e (.read data)

/-- A turn in which `recv` fails. -/
theorem readMember_of_error {e₁ : ε} {error : HakoPduErrorType}
    (hsize : t.memberPduSize E key ≠ 0) (hrecv : t.memberRecv E key e = (e₁, .error error)) :
    t.readMember E key e = (e₁, .skipped) := by
  unfold memberPduSize at hsize
  unfold memberRecv memberPduSize at hrecv
  unfold readMember
  dsimp only
  rw [if_neg hsize, hrecv]

/-- A turn in which `recv` hands over some bytes. -/
theorem readMember_of_ok {e₁ : ε} (hsize : t.memberPduSize E key ≠ 0)
    (hrecv : t.memberRecv E key e = (e₁, .ok data)) :
    t.readMember E key e =
      if data.length = t.memberPduSize E key then
        if t.epochAccepted E (fillBuffer (t.memberPduSize E key) data) then
          (e₁, .read (fillBuffer (t.memberPduSize E key) data))
        else (e₁, .rejected)
      else (e₁, .skipped) := by
  unfold memberPduSize at hsize ⊢
  unfold memberRecv memberPduSize at hrecv
  unfold readMember
  dsimp only
  rw [if_neg hsize, hrecv]

/-- One turn of the read loop. -/
theorem readMember_turn (E : Env ε) (t : ITransferPdu) (key : PduResolvedKey) (e : ε) :
    (t.readMember E key e).1 = t.afterTurn E key e ∧
      MemberTurn E t key e (t.readMember E key e).2 := by
  unfold afterTurn
  by_cases hsize : t.memberPduSize E key = 0
  · have hturn : t.readMember E key e = (e, .skipped) := if_pos hsize
    rw [hturn, if_pos hsize]
    exact ⟨rfl, .skipped (.noSize hsize)⟩
  · rw [if_neg hsize]
    rcases hrecv : t.memberRecv E key e with ⟨e₁, error | received⟩
    · rw [readMember_of_error hsize hrecv]
      exact ⟨rfl, .skipped (.recvFails error (congrArg Prod.snd hrecv))⟩
    · have hok : (t.memberRecv E key e).2 = .ok received := congrArg Prod.snd hrecv
      rw [readMember_of_ok hsize hrecv]
      by_cases hlen : received.length = t.memberPduSize E key
      · have harrives : Arrives E t key e received := ⟨hsize, hok, hlen⟩
        rw [if_pos hlen, ← hlen, fillBuffer_length]
        split_ifs with hepoch
        · exact ⟨rfl, .read received harrives (harrives.epochAccepted_iff.1 hepoch)⟩
        · exact ⟨rfl, .rejected (by_contra fun h => hepoch (harrives.epochAccepted_iff.2 h))⟩
      · rw [if_neg hlen]
        exact ⟨rfl, .skipped (.otherLength received hok hlen)⟩

/-- A member is left by `continue` exactly when it is not read. -/
theorem readMember_skipped_iff : (t.readMember E key e).2 = .skipped ↔ NotRead E t key e := by
  have hturn := (readMember_turn E t key e).2
  constructor
  · intro hout
    rw [hout] at hturn
    cases hturn with
    | skipped h => exact h
  · intro hnot
    generalize (t.readMember E key e).2 = out at hturn
    cases hturn with
    | skipped h => rfl
    | rejected h => exact absurd h hnot.not_wrongEpoch
    | read data h haccepted => exact absurd h hnot.not_arrives

/-- It makes the function return exactly when its epoch is wrong. -/
theorem readMember_rejected_iff : (t.readMember E key e).2 = .rejected ↔ WrongEpoch E t key e := by
  have hturn := (readMember_turn E t key e).2
  constructor
  · intro hout
    rw [hout] at hturn
    cases hturn with
    | rejected h => exact h
  · intro hwrong
    generalize (t.readMember E key e).2 = out at hturn
    cases hturn with
    | skipped h => exact absurd hwrong h.not_wrongEpoch
    | rejected h => rfl
    | read data h haccepted => exact absurd hwrong haccepted

/-- What is read are the bytes that `recv` handed over. -/
theorem recv_of_readMember (h : (t.readMember E key e).2 = .read data) :
    (t.memberRecv E key e).2 = .ok data := by
  have hturn := (readMember_turn E t key e).2
  rw [h] at hturn
  cases hturn with
  | read _ harrives => exact harrives.recv

end MemberTurn

/-! ## The sends of a call -/

/-- The send of a member that was read. -/
def memberSend (t : ITransferPdu) (m : PduResolvedKey × MemberRead) : Option Send :=
  match m.2 with
  | .read buffer => some ⟨t.self, t.dstEndpoint, .resolved m.1, buffer⟩
  | .skipped => none
  | .rejected => none

@[simp] theorem memberSend_read (t : ITransferPdu) (key : PduResolvedKey) (buffer : Bytes) :
    t.memberSend (key, .read buffer) = some ⟨t.self, t.dstEndpoint, .resolved key, buffer⟩ := rfl

/-- The send that a member's turn ends in. -/
def turnSend (E : Env ε) (t : ITransferPdu) (m : PduResolvedKey × ε) : Option Send :=
  t.memberSend (m.1, (t.readMember E m.1 m.2).2)

/-- The read loop ends with the buffers of the members that were read, or returns. -/
theorem readGroup_snd (E : Env ε) (t : ITransferPdu) (keys : List PduResolvedKey) (e : ε) :
    ((t.readGroup E keys e).2.map fun buffers =>
        buffers.map fun b => (⟨t.self, t.dstEndpoint, .resolved b.1, b.2⟩ : Send)) =
      if ∃ m ∈ t.memberTurns E keys e, (t.readMember E m.1 m.2).2 = .rejected then none
      else some ((t.memberTurns E keys e).filterMap (t.turnSend E)) := by
  induction keys generalizing e with
  | nil => simp [readGroup, memberTurns]
  | cons key keys ih =>
    have hafter := (readMember_turn E t key e).1
    unfold readGroup
    split
    · next e₁ heq =>
      rw [if_pos ⟨(key, e), List.mem_cons_self, congrArg Prod.snd heq⟩]
      rfl
    · next e₁ heq =>
      rw [heq] at hafter
      have hnone : t.turnSend E (key, e) = none := by rw [turnSend, heq, memberSend]
      rw [memberTurns, ← hafter, ih e₁, List.filterMap_cons_none hnone]
      simp only [List.mem_cons, exists_eq_or_imp, heq, reduceCtorEq, false_or]
    · next e₁ buffer heq =>
      rw [heq] at hafter
      have hsome : t.turnSend E (key, e) =
          some ⟨t.self, t.dstEndpoint, .resolved key, buffer⟩ := by
        rw [turnSend, heq, memberSend_read]
      have hrest := ih e₁
      rw [memberTurns, ← hafter, List.filterMap_cons_some hsome]
      simp only [List.mem_cons, exists_eq_or_imp, heq, reduceCtorEq, false_or]
      split_ifs at hrest ⊢ with hrejected
      · rw [Option.map_eq_none_iff] at hrest
        rw [hrest]
        rfl
      · obtain ⟨buffers, hbuffers, hsends⟩ := Option.map_eq_some_iff.1 hrest
        rw [hbuffers, ← hsends]
        rfl

/-- The sends of one call. -/
theorem tryTransferGroup_snd (E : Env ε) (t : ITransferPdu) (keys : List PduResolvedKey) (e : ε) :
    (t.tryTransferGroup E keys e).2 =
      if ∃ m ∈ t.memberTurns E keys e, (t.readMember E m.1 m.2).2 = .rejected then []
      else (t.memberTurns E keys e).filterMap (t.turnSend E) := by
  have hread := readGroup_snd E t keys e
  unfold tryTransferGroup
  split
  · next e₁ heq =>
    rw [heq] at hread
    split_ifs at hread ⊢ with hrejected
    · rfl
    · simp at hread
  · next e₁ buffers heq =>
    rw [heq] at hread
    split_ifs at hread ⊢ with hrejected
    · simp at hread
    · rw [sendGroup_snd]
      exact Option.some.inj hread

section Sends

variable {E : Env ε} {t : ITransferPdu} {keys : List PduResolvedKey} {e : ε}

/-- Nothing is sent if some member's epoch is wrong. -/
theorem sends_of_wrongEpoch (h : ∃ m ∈ t.memberTurns E keys e, WrongEpoch E t m.1 m.2) :
    (t.tryTransferGroup E keys e).2 = [] := by
  obtain ⟨m, hm, hwrong⟩ := h
  rw [tryTransferGroup_snd, if_pos ⟨m, hm, readMember_rejected_iff.2 hwrong⟩]

/-- Otherwise every member that is read is sent. -/
theorem sends_of_no_wrongEpoch (h : ∀ m ∈ t.memberTurns E keys e, ¬ WrongEpoch E t m.1 m.2) :
    (t.tryTransferGroup E keys e).2 = (t.memberTurns E keys e).filterMap (t.turnSend E) := by
  rw [tryTransferGroup_snd, if_neg]
  rintro ⟨m, hm, hrejected⟩
  exact h m hm (readMember_rejected_iff.1 hrejected)

/-- Without a wrong epoch, a turn ends in no send exactly when its member is not read. -/
theorem turnSend_eq_none_iff {m : PduResolvedKey × ε} (h : ¬ WrongEpoch E t m.1 m.2) :
    t.turnSend E m = none ↔ NotRead E t m.1 m.2 := by
  rw [← readMember_skipped_iff, turnSend]
  cases hout : (t.readMember E m.1 m.2).2 with
  | read buffer => simp
  | skipped => simp [memberSend]
  | rejected => exact absurd (readMember_rejected_iff.1 hout) h

/-- The member is sent to the transfer's destination with the bytes that `recv` handed over. -/
structure Carried (E : Env ε) (t : ITransferPdu) (m : PduResolvedKey × ε) (s : Send) : Prop where
  transfer : s.transfer = t.self
  dst : s.dst = t.dstEndpoint
  key : s.key = .resolved m.1
  data : (t.memberRecv E m.1 m.2).2 = .ok s.data

/-- What a turn ends in carries its member. -/
theorem carried_of_turnSend {m : PduResolvedKey × ε} {s : Send} (h : t.turnSend E m = some s) :
    Carried E t m s := by
  unfold turnSend memberSend at h
  split at h
  · next buffer hread =>
    obtain rfl := Option.some.inj h
    exact ⟨rfl, rfl, rfl, recv_of_readMember hread⟩
  · simp at h
  · simp at h

/-- A list of turns that all end in a send yields one send for each, in order. -/
theorem forall₂_carried {ms : List (PduResolvedKey × ε)} (h : ∀ m ∈ ms, t.turnSend E m ≠ none) :
    List.Forall₂ (Carried E t) ms (ms.filterMap (t.turnSend E)) := by
  induction ms with
  | nil => exact .nil
  | cons m ms ih =>
    obtain ⟨s, hs⟩ := Option.ne_none_iff_exists'.1 (h m List.mem_cons_self)
    rw [List.filterMap_cons_some hs]
    exact .cons (carried_of_turnSend hs) (ih fun m' hm' => h m' (List.mem_cons_of_mem _ hm'))

/-- If every member is contributed, every member is sent, in group order with the bytes read. -/
theorem frame_of_contributed
    (h : ∀ m ∈ t.memberTurns E keys e, ¬ NotRead E t m.1 m.2 ∧ ¬ WrongEpoch E t m.1 m.2) :
    List.Forall₂ (Carried E t) (t.memberTurns E keys e) (t.tryTransferGroup E keys e).2 := by
  rw [sends_of_no_wrongEpoch fun m hm => (h m hm).2]
  exact forall₂_carried fun m hm hnone => (h m hm).1 ((turnSend_eq_none_iff (h m hm).2).1 hnone)

/-- The keys of a frame are those of the group. -/
theorem keys_of_carried {ms : List (PduResolvedKey × ε)} {sends : List Send}
    (h : List.Forall₂ (Carried E t) ms sends) :
    sends.map Send.key = (ms.map Prod.fst).map .resolved := by
  induction h with
  | nil => rfl
  | cons hcarried _ ih => rw [List.map_cons, List.map_cons, List.map_cons, hcarried.key, ih]

end Sends

/-! ## All or nothing -/

/-- One call of `try_transfer_group` is all or nothing. -/
structure AllOrNothing (E : Env ε) (t : ITransferPdu) (keys : List PduResolvedKey) (e : ε) :
    Prop where
  nothing : (∃ m ∈ t.memberTurns E keys e, NotRead E t m.1 m.2 ∨ WrongEpoch E t m.1 m.2) →
    (t.tryTransferGroup E keys e).2 = []
  all : (∀ m ∈ t.memberTurns E keys e, ¬ NotRead E t m.1 m.2 ∧ ¬ WrongEpoch E t m.1 m.2) →
    List.Forall₂ (Carried E t) (t.memberTurns E keys e) (t.tryTransferGroup E keys e).2

/-- **Frames are all or nothing exactly when** every member is read, or some member has a wrong
epoch, or no member is read at all. -/
theorem allOrNothing_iff (E : Env ε) (t : ITransferPdu) (keys : List PduResolvedKey) (e : ε) :
    AllOrNothing E t keys e ↔
      (∀ m ∈ t.memberTurns E keys e, ¬ NotRead E t m.1 m.2) ∨
      (∃ m ∈ t.memberTurns E keys e, WrongEpoch E t m.1 m.2) ∨
      (∀ m ∈ t.memberTurns E keys e, NotRead E t m.1 m.2) := by
  constructor
  · intro h
    by_cases hwrong : ∃ m ∈ t.memberTurns E keys e, WrongEpoch E t m.1 m.2
    · exact .inr (.inl hwrong)
    · by_cases hnot : ∃ m ∈ t.memberTurns E keys e, NotRead E t m.1 m.2
      · refine .inr (.inr fun m hm => ?_)
        -- a member that was read would be sent although another one was not
        obtain ⟨m₀, hm₀, hnot₀⟩ := hnot
        have hnone : ∀ m ∈ t.memberTurns E keys e, ¬ WrongEpoch E t m.1 m.2 :=
          fun m hm hw => hwrong ⟨m, hm, hw⟩
        have hsends := h.nothing ⟨m₀, hm₀, .inl hnot₀⟩
        rw [sends_of_no_wrongEpoch hnone, List.filterMap_eq_nil_iff] at hsends
        exact (turnSend_eq_none_iff (hnone m hm)).1 (hsends m hm)
      · exact .inl fun m hm h => hnot ⟨m, hm, h⟩
  · intro h
    refine ⟨fun ⟨m, hm, hfails⟩ => ?_, frame_of_contributed⟩
    by_cases hwrong : ∃ m ∈ t.memberTurns E keys e, WrongEpoch E t m.1 m.2
    · exact sends_of_wrongEpoch hwrong
    · have hnone : ∀ m ∈ t.memberTurns E keys e, ¬ WrongEpoch E t m.1 m.2 :=
        fun m hm hw => hwrong ⟨m, hm, hw⟩
      rw [sends_of_no_wrongEpoch hnone, List.filterMap_eq_nil_iff]
      rcases h with hread | hsome | hall
      · exact absurd hfails (not_or_intro (hread m hm) (hnone m hm))
      · exact absurd hsome hwrong
      · exact fun m' hm' => (turnSend_eq_none_iff (hnone m' hm')).2 (hall m' hm')

/-! ## A partial frame -/

/-- A group of the two PDUs of a robot `r`. -/
def samplePair : ITransferPdu where
  self := 0
  body := .transferAtomicPduGroup [⟨"r", 1⟩, ⟨"r", 2⟩]
  policy := 0
  srcEndpoint := .container "src"
  dstEndpoint := .container "dst"
  isActive := true
  ownerEpoch := 0
  epochValidation := false

/-- `pos` was received whole, `vel` one byte short. -/
def halfReceived : CacheState :=
  CacheSpec.setCell (.container "src") ⟨"r", 1⟩ [[0, 7]]
    (CacheSpec.setCell (.container "src") ⟨"r", 2⟩ [[0]] CacheState.empty)

/-- A member that comes up short is skipped, and the rest of the frame goes out without it. -/
theorem partial_frame :
    ¬ AllOrNothing ((CacheSpec.small .latest).env none) samplePair [⟨"r", 1⟩, ⟨"r", 2⟩]
      halfReceived := by
  intro h
  have hshort : NotRead ((CacheSpec.small .latest).env none) samplePair ⟨"r", 2⟩
      (samplePair.afterTurn ((CacheSpec.small .latest).env none) ⟨"r", 1⟩ halfReceived) :=
    .otherLength [0] (by decide) (by decide)
  have hsends := h.nothing
    ⟨_, List.mem_cons_of_mem _ List.mem_cons_self, .inl hshort⟩
  exact absurd hsends (by decide)

end ITransferPdu

end HakoniwaBridge
