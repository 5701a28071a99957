import HakoniwaBridge.Gate

/-!
# The throttle as a rate limiter

The throttle policy remembers the completion of its last firing, and nothing else of its history
(`Remembers`). So it lets a reception through just when the interval has passed since then.

* `throttle_answers` — the answers in the arithmetic of the policy, over any clock.
* `GreedyLimiter` — the greedy rate limiter, in the arithmetic of numbers.
* `Gate.throttle_greedy` — **over a clock that does not go back the two are the same.**
-/

namespace HakoniwaBridge

open Lib

variable {ε : Type}

/-- The greedy rate limiter of interval `I`. -/
structure GreedyLimiter (I : UInt64) (log : List GateEntry) : Prop where
  /-- A reception is attempted just when there was no attempt before, or its decision time is at
  least the interval after the completion of the last one. -/
  attempts : Each (fun before entry => entry.fired = true ↔
    ∀ last ∈ lastFiring GateEntry.fired before,
      last.call.doneTime.toNat + I.toNat ≤ entry.call.checkTime.toNat) log
  /-- Any two attempts are at least the interval apart. -/
  spacing : (firings GateEntry.fired log).Pairwise fun a b =>
    a.call.doneTime.toNat + I.toNat ≤ b.call.checkTime.toNat
  /-- The subtraction of the policy does not wrap. -/
  noWrap : Each (fun before entry => ∀ last ∈ lastFiring GateEntry.fired before,
    (entry.call.checkTime - last.call.doneTime).toNat =
      entry.call.checkTime.toNat - last.call.doneTime.toNat ∧
    last.call.doneTime.toNat ≤ entry.call.checkTime.toNat) log
  /-- A reception that is not attempted sends nothing. -/
  quiet : ∀ e ∈ log, e.fired = false → e.sends = []

/-! ## What the policy remembers -/

namespace ThrottlePolicy

/-- The policy remembers the completion of its last firing. -/
structure Remembers (I : UInt64) (L : List GateEntry) (p : ThrottlePolicy) : Prop where
  interval : p.intervalMicros = I
  transferred : p.hasTransferred = (lastFiring GateEntry.fired L).isSome
  last : ∀ last ∈ lastFiring GateEntry.fired L, p.lastTransferTimeMicros = last.call.doneTime

variable {I : UInt64} {L : List GateEntry} {p : ThrottlePolicy} {entry : GateEntry}

/-- The answer, in the arithmetic of the policy. -/
theorem Remembers.answer (h : Remembers I L p) (call : PolicyCall) :
    ((Policy.throttle p).solo call).2 = true ↔
      ∀ last ∈ lastFiring GateEntry.fired L, I ≤ call.checkTime - last.call.doneTime := by
  have hanswer : ((Policy.throttle p).solo call).2 =
      (p.shouldTransfer .clock call.checkTime).2 := rfl
  rw [hanswer]
  unfold shouldTransfer
  rw [h.transferred]
  cases hlast : lastFiring GateEntry.fired L with
  | none => simp
  | some last =>
    have hdone := h.last last hlast
    simp [Env.clock, hdone, h.interval]

/-- After a question the policy still remembers. -/
theorem Remembers.next (h : Remembers I L p)
    (hfired : entry.fired = ((Policy.throttle p).solo entry.call).2) :
    ∃ p', ((Policy.throttle p).solo entry.call).1 = .throttle p' ∧
      Remembers I (L ++ [entry]) p' := by
  have hnext : ((Policy.throttle p).solo entry.call).1 = if entry.fired then
      .throttle { p with
        lastTransferTimeMicros := entry.call.doneTime, hasTransferred := true }
      else .throttle p := by
    rw [hfired]
    rfl
  rw [hnext]
  cases hcase : entry.fired with
  | true =>
    refine ⟨_, if_pos rfl, h.interval, ?_, fun last hlast => ?_⟩
    · rw [lastFiring_concat_of_fired hcase]
      rfl
    · rw [lastFiring_concat_of_fired hcase] at hlast
      rw [← Option.some.inj hlast]
  | false =>
    refine ⟨p, if_neg Bool.false_ne_true, h.interval, ?_, fun last hlast => ?_⟩
    · rw [lastFiring_concat_of_not hcase]
      exact h.transferred
    · rw [lastFiring_concat_of_not hcase] at hlast
      exact h.last last hlast

end ThrottlePolicy

/-- The answers over a run, whatever the clock says. -/
theorem Gate.throttle_answers {E : Env ε} {g : Gate ε} {I : UInt64}
    (hpolicy : g.policy = .throttle { intervalMicros := I }) (ops : List (GateOp ε)) :
    Each (fun before entry => entry.fired = true ↔
      ∀ last ∈ lastFiring GateEntry.fired before,
        I ≤ entry.call.checkTime - last.call.doneTime) (run (Gate.step E) g ops).2 := by
  have hrun := Gate.history (E := E) (g := g) (H := fun L policy =>
    Each (fun before entry => entry.fired = true ↔ ∀ last ∈ lastFiring GateEntry.fired before,
        I ≤ entry.call.checkTime - last.call.doneTime) L ∧
      ∃ p, policy = .throttle p ∧ p.Remembers I L) ?_ ⟨each_nil, _, hpolicy, rfl, rfl, ?_⟩ ops
  · exact hrun.1
  · rintro L _ entry ⟨heach, p, rfl, hremembers⟩ hfired
    refine ⟨each_concat.2 ⟨heach, ?_⟩, hremembers.next hfired⟩
    rw [hfired]
    exact hremembers.answer entry.call
  · intro last hlast
    cases hlast

/-! ## The rate limiter -/

/-- Over a clock that does not go back, the subtraction of the policy is that of numbers. -/
theorem interval_le_iff {I now last : UInt64} (h : last ≤ now) :
    I ≤ now - last ↔ last.toNat + I.toNat ≤ now.toNat := by
  have hnat := UInt64.le_iff_toNat_le.1 h
  rw [UInt64.le_iff_toNat_le, UInt64.toNat_sub_of_le now last h]
  omega

/-- Answers in the arithmetic of the policy, over a clock that does not go back. -/
theorem greedyLimiter_of_answers {I : UInt64} {log : List GateEntry} (hclock : Chronological log)
    (h : Each (fun before entry => entry.fired = true ↔
      ∀ last ∈ lastFiring GateEntry.fired before,
        I ≤ entry.call.checkTime - last.call.doneTime) log)
    (hquiet : ∀ e ∈ log, e.fired = false → e.sends = []) : GreedyLimiter I log := by
  have hle := hclock.lastFiring_le
  have hattempts : Each (fun before entry => entry.fired = true ↔
      ∀ last ∈ lastFiring GateEntry.fired before,
        last.call.doneTime.toNat + I.toNat ≤ entry.call.checkTime.toNat) log := by
    intro before entry post heq
    apply (h before entry post heq).trans
    exact forall₂_congr fun last hlast => interval_le_iff (hle before entry post heq last hlast)
  refine ⟨hattempts, ?_, fun before entry post heq last hlast => ?_, hquiet⟩
  · apply hclock.spaced
    intro before entry post heq hfired
    exact (hattempts before entry post heq).1 hfired
  · have hlast_le := hle before entry post heq last hlast
    exact ⟨UInt64.toNat_sub_of_le _ _ hlast_le, UInt64.le_iff_toNat_le.1 hlast_le⟩

/-- **The throttle is the greedy rate limiter.** An active single transfer with a fresh throttle of
interval `I`, over any endpoints: each reception is decided on, and attempted just when the greedy
limiter attempts it. -/
theorem Gate.throttle_greedy {E : Env ε} {g : Gate ε} {configKey : BridgePduKey}
    {resolvedKey : PduResolvedKey} {I : UInt64}
    (hbody : g.transfer.body = .transferPdu configKey resolvedKey)
    (hactive : g.transfer.isActive = true)
    (hpolicy : g.policy = .throttle { intervalMicros := I })
    (arrivals : List ((ε → ε) × PduResolvedKey))
    (hclock : Chronological
      (run (Gate.step E) g (arrivals.map fun a => .reception a.1 a.2)).2) :
    (run (Gate.step E) g (arrivals.map fun a => .reception a.1 a.2)).2.map (fun e => e.call.key) =
        arrivals.map (fun _ => resolvedKey) ∧
      GreedyLimiter I (run (Gate.step E) g (arrivals.map fun a => .reception a.1 a.2)).2 := by
  constructor
  · have hasked := Gate.receptions (E := E) hactive arrivals
    unfold Gate.askedKey at hasked
    rw [hbody] at hasked
    exact hasked
  · exact greedyLimiter_of_answers hclock (Gate.throttle_answers hpolicy _)
      (Gate.sends_of_unfired g _)

/-- A transfer with a throttle of 100 microseconds, over a clock that shows 0. -/
def Gate.throttled : Gate UInt64 where
  transfer :=
    { self := 0, body := .transferPdu ⟨"r.pos", "r", "pos"⟩ ⟨"r", 1⟩, policy := 0
      srcEndpoint := .container "src", dstEndpoint := .container "dst", isActive := true
      ownerEpoch := 0, epochValidation := false }
  host := { Host.boot 0 with policies := fun _ => .throttle { intervalMicros := 100 } }

/-- Receptions at 0, 60, 100 and 130 microseconds. -/
def Gate.arrivals : List ((UInt64 → UInt64) × PduResolvedKey) :=
  [(fun _ => 0, ⟨"r", 1⟩), (fun _ => 60, ⟨"r", 1⟩), (fun _ => 100, ⟨"r", 1⟩),
    (fun _ => 130, ⟨"r", 1⟩)]

/-- The clock starts at 0, and the second attempt comes just when the interval has passed. -/
theorem Gate.throttle_greedy_arrivals :
    (run (Gate.step .clock) Gate.throttled (Gate.arrivals.map fun a => .reception a.1 a.2)).2.map
        (fun e => e.call.key) = Gate.arrivals.map (fun _ => ⟨"r", 1⟩) ∧
      GreedyLimiter 100 (run (Gate.step .clock) Gate.throttled
        (Gate.arrivals.map fun a => .reception a.1 a.2)).2 :=
  Gate.throttle_greedy rfl rfl rfl Gate.arrivals (by decide)

end HakoniwaBridge
