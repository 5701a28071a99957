import HakoniwaBridge.Gate

/-!
# When an atomic policy is ready

An atomic `ImmediatePolicy` on which the keys `K` were registered, as the groups use it: every true
answer of `should_transfer` is followed by `on_transferred`.

* `FlagsSince` — the invariant: the flags are up for the keys that were received since the last true
  answer.
* `ReadyExactly` — the answers as a function of the receptions, and their number.
* `Gate.ready_exact` — **over any sequence of receptions the policy answers true exactly when a
  round is complete, and as often as there are complete rounds.**
-/

namespace HakoniwaBridge

open Lib

variable {ε : Type}

/-- The keys of entries. -/
def GateEntry.keys (L : List GateEntry) : List PduResolvedKey := L.map fun e => e.call.key

/-- Every key was received; with no keys there are no rounds. -/
def CompleteRound (K : List PduResolvedKey) (L : List GateEntry) : Prop :=
  K ≠ [] ∧ ∀ k ∈ K, k ∈ GateEntry.keys L

/-- The answers of an atomic policy with the keys `K`. -/
structure ReadyExactly (K : List PduResolvedKey) (log : List GateEntry) : Prop where
  /-- True just when the received key is one of `K`, and every key of `K` was received since the
  last true answer, this reception included. -/
  answers : Each (fun before entry => entry.fired = true ↔ entry.call.key ∈ K ∧
    ∀ k ∈ K, k = entry.call.key ∨ k ∈ GateEntry.keys (sinceFiring GateEntry.fired before)) log
  /-- The number of true answers is the greatest number of complete rounds, one after the other. -/
  rounds : IsGreatest {n | ∃ (blocks : List (List GateEntry)) (rest : List GateEntry),
      log = blocks.flatten ++ rest ∧ blocks.length = n ∧ ∀ b ∈ blocks, CompleteRound K b}
    (firings GateEntry.fired log).length
  /-- A reception that is answered with false sends nothing. -/
  quiet : ∀ e ∈ log, e.fired = false → e.sends = []

/-! ## The invariant -/

/-- The flags of an atomic policy are those of the keys received since the last true answer. -/
structure FlagsSince (K : List PduResolvedKey) (L : List GateEntry) (p : ImmediatePolicy) :
    Prop where
  atomic : p.isAtomic = true
  mem_keys : ∀ k, k ∈ p.recvStates.keys ↔ k ∈ K
  arrived : ∀ k ∈ K, p.recvStates.Arrived k ↔
    k ∈ GateEntry.keys (sinceFiring GateEntry.fired L)

namespace FlagsSince

variable {K : List PduResolvedKey} {L : List GateEntry} {p : ImmediatePolicy} {entry : GateEntry}

/-- A policy on which the keys were just registered. -/
theorem registered (K : List PduResolvedKey) :
    FlagsSince K [] (K.foldl (fun p key => p.addPduKey key) (.new true)) := by
  obtain ⟨hatomic, hkeys, harrived⟩ := ImmediatePolicy.foldl_addPduKey K (.new true)
  refine ⟨hatomic, fun k => ?_, fun k _ => ?_⟩
  · rw [hkeys]
    exact ⟨fun h => h.resolve_right List.not_mem_nil, Or.inl⟩
  · constructor
    · intro h
      exact absurd (harrived k h) (Barrier.not_arrived_empty k)
    · intro h
      cases h

/-- The answer, as a function of what came before. -/
theorem answer (h : FlagsSince K L p) (key : PduResolvedKey) :
    (p.shouldTransfer key).2 = true ↔ key ∈ K ∧
      ∀ k ∈ K, k = key ∨ k ∈ GateEntry.keys (sinceFiring GateEntry.fired L) := by
  unfold ImmediatePolicy.shouldTransfer
  rw [if_pos h.atomic]
  by_cases hkey : key ∈ K
  · have hmem := (h.mem_keys key).2 hkey
    rw [if_pos hmem, Barrier.full_iff, Barrier.keys_arrive]
    constructor
    · intro hfull
      refine ⟨hkey, fun k hk => ?_⟩
      rcases Barrier.arrived_arrive.1 (hfull k ((h.mem_keys k).2 hk)) with hup | ⟨heq, -⟩
      · exact Or.inr ((h.arrived k hk).1 hup)
      · exact Or.inl heq
    · rintro ⟨-, hall⟩ k hk
      have hk' := (h.mem_keys k).1 hk
      apply Barrier.arrived_arrive.2
      rcases hall k hk' with rfl | hseen
      · exact Or.inr ⟨rfl, hmem⟩
      · exact Or.inl ((h.arrived k hk').2 hseen)
  · rw [if_neg (mt (h.mem_keys key).1 hkey)]
    constructor
    · intro hfalse
      cases hfalse
    · intro hready
      exact absurd hready.1 hkey

/-- The flags after a question. -/
theorem next (h : FlagsSince K L p)
    (hfired : entry.fired = ((Policy.immediate p).solo entry.call).2) :
    ∃ p', ((Policy.immediate p).solo entry.call).1 = .immediate p' ∧
      FlagsSince K (L ++ [entry]) p' := by
  have hanswer : ((Policy.immediate p).solo entry.call).2 =
      (p.shouldTransfer entry.call.key).2 := rfl
  have hnext : ((Policy.immediate p).solo entry.call).1 =
      .immediate (if (p.shouldTransfer entry.call.key).2 then
        (p.shouldTransfer entry.call.key).1.onTransferred
      else (p.shouldTransfer entry.call.key).1) := by
    unfold Policy.solo
    simp only [Policy.shouldTransfer, Policy.onTransferred]
    exact (apply_ite Policy.immediate _ _ _).symm
  refine ⟨_, hnext, ?_⟩
  rw [hanswer] at hfired
  rw [← hfired]
  have hchecked : (p.shouldTransfer entry.call.key).1.isAtomic = true ∧
      (p.shouldTransfer entry.call.key).1.recvStates =
        if entry.call.key ∈ p.recvStates.keys then p.recvStates.arrive entry.call.key
        else p.recvStates := by
    unfold ImmediatePolicy.shouldTransfer
    rw [if_pos h.atomic]
    split_ifs
    · exact ⟨h.atomic, rfl⟩
    · exact ⟨h.atomic, rfl⟩
  obtain ⟨hatomic, hstates⟩ := hchecked
  have hkeys : ∀ k, k ∈ (p.shouldTransfer entry.call.key).1.recvStates.keys ↔ k ∈ K := by
    intro k
    rw [hstates, ← h.mem_keys k]
    split_ifs
    · rw [Barrier.keys_arrive]
    · exact Iff.rfl
  cases hcase : entry.fired with
  | true =>
    -- a true answer clears the flags
    rw [if_pos rfl]
    unfold ImmediatePolicy.onTransferred
    rw [if_pos hatomic]
    refine ⟨hatomic, fun k => ?_, fun k _ => ?_⟩
    · dsimp only
      rw [Barrier.keys_clear]
      exact hkeys k
    · rw [sinceFiring_concat_of_fired hcase]
      constructor
      · intro hup
        exact absurd hup (Barrier.not_arrived_clear _ k)
      · intro hmem
        cases hmem
  | false =>
    rw [if_neg Bool.false_ne_true]
    refine ⟨hatomic, hkeys, fun k hk => ?_⟩
    rw [sinceFiring_concat_of_not hcase, hstates]
    simp only [GateEntry.keys, List.map_append, List.map_cons, List.map_nil, List.mem_append,
      List.mem_singleton]
    have hold := h.arrived k hk
    unfold GateEntry.keys at hold
    split_ifs with hkey
    · rw [Barrier.arrived_arrive, hold]
      exact or_congr_right (and_iff_left hkey)
    · rw [hold]
      -- a key that is not registered is not `k`
      refine ⟨Or.inl, fun hor => hor.resolve_right fun heq => hkey ?_⟩
      rw [← heq]
      exact (h.mem_keys k).2 hk

end FlagsSince

/-! ## Rounds -/

/-- Between true answers no round is complete, so that a round is complete at a reception just when
the answer is true. -/
theorem complete_of_answers {K : List PduResolvedKey} {L : List GateEntry}
    (h : Each (fun before entry => entry.fired = true ↔ entry.call.key ∈ K ∧
      ∀ k ∈ K, k = entry.call.key ∨ k ∈ GateEntry.keys (sinceFiring GateEntry.fired before)) L) :
    Each (fun before entry => entry.fired = true ↔
        CompleteRound K (sinceFiring GateEntry.fired before ++ [entry])) L ∧
      ¬ CompleteRound K (sinceFiring GateEntry.fired L) := by
  induction L using List.reverseRecOn with
  | nil => exact ⟨each_nil, fun hround => hround.1 (List.eq_nil_iff_forall_not_mem.2 fun k hk =>
      absurd (hround.2 k hk) List.not_mem_nil)⟩
  | append_singleton L entry ih =>
    obtain ⟨hL, hentry⟩ := each_concat.1 h
    obtain ⟨heach, hopen⟩ := ih hL
    have hmem : ∀ k, k ∈ GateEntry.keys (sinceFiring GateEntry.fired L ++ [entry]) ↔
        k = entry.call.key ∨ k ∈ GateEntry.keys (sinceFiring GateEntry.fired L) := by
      intro k
      simp [GateEntry.keys, or_comm]
    have hround : entry.fired = true ↔
        CompleteRound K (sinceFiring GateEntry.fired L ++ [entry]) := by
      constructor
      · intro hfired
        obtain ⟨hkey, hall⟩ := hentry.1 hfired
        exact ⟨List.ne_nil_of_mem hkey, fun k hk => (hmem k).2 (hall k hk)⟩
      · rintro ⟨hne, hall⟩
        apply hentry.2
        refine ⟨?_, fun k hk => (hmem k).1 (hall k hk)⟩
        -- otherwise the round was complete before
        by_contra hkey
        refine hopen ⟨hne, fun k hk => ((hmem k).1 (hall k hk)).resolve_left fun heq => hkey ?_⟩
        rw [← heq]
        exact hk
    refine ⟨each_concat.2 ⟨heach, hround⟩, ?_⟩
    cases hfired : entry.fired with
    | true =>
      rw [sinceFiring_concat_of_fired hfired]
      rintro ⟨hne, hall⟩
      obtain ⟨k, hk⟩ := List.exists_mem_of_ne_nil K hne
      exact absurd (hall k hk) List.not_mem_nil
    | false =>
      rw [sinceFiring_concat_of_not hfired]
      intro hcomplete
      rw [hround.2 hcomplete] at hfired
      cases hfired

theorem readyExactly_of_answers {K : List PduResolvedKey} {L : List GateEntry}
    (h : Each (fun before entry => entry.fired = true ↔ entry.call.key ∈ K ∧
      ∀ k ∈ K, k = entry.call.key ∨ k ∈ GateEntry.keys (sinceFiring GateEntry.fired before)) L)
    (hquiet : ∀ e ∈ L, e.fired = false → e.sends = []) : ReadyExactly K L := by
  refine ⟨h, greatest_rounds ?_ ?_ (complete_of_answers h).1, hquiet⟩
  · rintro ⟨hne, hall⟩
    obtain ⟨k, hk⟩ := List.exists_mem_of_ne_nil K hne
    exact absurd (hall k hk) List.not_mem_nil
  · rintro xs ys ⟨hne, hall⟩
    refine ⟨hne, fun k hk => ?_⟩
    have hmem := hall k hk
    unfold GateEntry.keys at hmem ⊢
    rw [List.map_append]
    exact List.mem_append_right _ hmem

/-- **Atomic readiness is exact.** An active group whose policy object is a fresh atomic policy
with the keys `K`: it asks the policy about every received key, and the answers are those of
`ReadyExactly`. -/
theorem Gate.ready_exact {E : Env ε} {g : Gate ε} {members K : List PduResolvedKey}
    (hbody : g.transfer.body = .transferAtomicPduGroup members)
    (hactive : g.transfer.isActive = true)
    (hpolicy : g.policy = .immediate (K.foldl (fun p key => p.addPduKey key) (.new true)))
    (arrivals : List ((ε → ε) × PduResolvedKey)) :
    GateEntry.keys (run (Gate.step E) g (arrivals.map fun a => .reception a.1 a.2)).2 =
        arrivals.map Prod.snd ∧
      ReadyExactly K (run (Gate.step E) g (arrivals.map fun a => .reception a.1 a.2)).2 := by
  constructor
  · have hasked := Gate.receptions (E := E) hactive arrivals
    unfold Gate.askedKey at hasked
    rw [hbody] at hasked
    exact hasked
  · refine readyExactly_of_answers ?_ (Gate.sends_of_unfired g _)
    -- the flags say what was received, and so each answer is the one stated
    have hrun := Gate.history (E := E) (g := g) (H := fun L policy =>
      Each (fun before entry => entry.fired = true ↔ entry.call.key ∈ K ∧ ∀ k ∈ K,
          k = entry.call.key ∨ k ∈ GateEntry.keys (sinceFiring GateEntry.fired before)) L ∧
        ∃ p, policy = .immediate p ∧ FlagsSince K L p) ?_
      ⟨each_nil, _, hpolicy, FlagsSince.registered K⟩ (arrivals.map fun a => .reception a.1 a.2)
    · exact hrun.1
    · rintro L _ entry ⟨heach, p, rfl, hflags⟩ hfired
      refine ⟨each_concat.2 ⟨heach, ?_⟩, hflags.next hfired⟩
      rw [hfired]
      exact hflags.answer entry.call.key

/-- A group of two PDUs, with a fresh policy for them. -/
def Gate.pair : Gate UInt64 where
  transfer :=
    { self := 0, body := .transferAtomicPduGroup [⟨"r", 1⟩, ⟨"r", 2⟩], policy := 0
      srcEndpoint := .container "src", dstEndpoint := .container "dst", isActive := true
      ownerEpoch := 0, epochValidation := false }
  host :=
    { Host.boot 0 with
      policies := fun _ => .immediate ([⟨"r", 1⟩, ⟨"r", 2⟩].foldl (fun p key => p.addPduKey key)
        (.new true)) }

/-- The first PDU twice, then the second: one round. -/
theorem Gate.ready_exact_pair :
    GateEntry.keys (run (Gate.step .clock) Gate.pair
        ([(id, ⟨"r", 1⟩), (id, ⟨"r", 1⟩), (id, ⟨"r", 2⟩)].map fun a => .reception a.1 a.2)).2 =
        [⟨"r", 1⟩, ⟨"r", 1⟩, ⟨"r", 2⟩] ∧
      ReadyExactly [⟨"r", 1⟩, ⟨"r", 2⟩] (run (Gate.step .clock) Gate.pair
        ([(id, ⟨"r", 1⟩), (id, ⟨"r", 1⟩), (id, ⟨"r", 2⟩)].map fun a => .reception a.1 a.2)).2 :=
  Gate.ready_exact rfl rfl rfl [(id, ⟨"r", 1⟩), (id, ⟨"r", 1⟩), (id, ⟨"r", 2⟩)]

end HakoniwaBridge
