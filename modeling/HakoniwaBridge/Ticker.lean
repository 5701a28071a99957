import HakoniwaBridge.Gate

/-!
# The cadence of the ticker

The ticker policy remembers when it is next due (`Remembers`): the interval after the completion of
its last firing or, before the first, the interval after the first trigger.

* `dueFrom` — that time, as a number, read off the history.
* `Cadence` — the first trigger does not fire, no later one fires before it is due, and every one
  fires that is due; so any two firings are the interval apart, pauses or no.
* `Gate.ticker_cadence` — **over a clock that does not go back, and is far from its end, a ticker
  keeps the cadence**; each firing comes less than the gap between triggers late, and on a grid
  whose step divides the interval none is late.
-/

namespace HakoniwaBridge

open Lib

variable {ε : Type}

/-! ## What the policy remembers -/

/-- The reading from which the interval runs: the completion of the last firing, or the first
trigger. -/
def origin (before : List GateEntry) : Option UInt64 :=
  match lastFiring GateEntry.fired before with
  | some last => some last.call.doneTime
  | none => before.head?.map fun first => first.call.checkTime

section origin

variable {L : List GateEntry} {entry : GateEntry} {t : UInt64}

theorem origin_concat_of_fired (h : entry.fired = true) :
    origin (L ++ [entry]) = some entry.call.doneTime := by
  unfold origin
  rw [lastFiring_concat_of_fired h]

theorem origin_concat_of_not (h : entry.fired = false) :
    origin (L ++ [entry]) = some ((origin L).getD entry.call.checkTime) := by
  unfold origin
  rw [lastFiring_concat_of_not h]
  cases hlast : lastFiring GateEntry.fired L with
  | some last => rfl
  | none => cases L <;> rfl

/-- There is nothing to count from before the first trigger only. -/
theorem nil_of_origin (h : origin L = none) : L = [] := by
  unfold origin at h
  cases hlast : lastFiring GateEntry.fired L with
  | some last =>
    rw [hlast] at h
    cases h
  | none =>
    rw [hlast] at h
    exact List.head?_eq_none_iff.1 (Option.map_eq_none_iff.1 h)

/-- The interval runs from a reading for an earlier entry. -/
theorem mem_readings_of_origin (h : t ∈ origin L) : ∃ e ∈ L, t ∈ e.readings := by
  unfold origin at h
  cases hlast : lastFiring GateEntry.fired L with
  | some last =>
    rw [hlast] at h
    obtain ⟨hmem, hfired⟩ := mem_of_lastFiring hlast
    refine ⟨last, hmem, ?_⟩
    unfold GateEntry.readings
    rw [if_pos hfired, ← Option.some.inj h]
    exact List.mem_cons_of_mem _ List.mem_cons_self
  | none =>
    rw [hlast] at h
    obtain ⟨first, hfirst, rfl⟩ := Option.map_eq_some_iff.1 h
    refine ⟨first, List.mem_of_head? hfirst, ?_⟩
    unfold GateEntry.readings
    split_ifs
    · exact List.mem_cons_self
    · exact List.mem_cons_self

end origin

namespace TickerPolicy

/-- The policy remembers when it is next due. -/
structure Remembers (I : UInt64) (L : List GateEntry) (p : TickerPolicy) : Prop where
  interval : p.interval = I
  initialized : p.initialized = (origin L).isSome
  next : ∀ t ∈ origin L, p.nextTickTime = t + I

variable {I : UInt64} {L : List GateEntry} {p : TickerPolicy} {entry : GateEntry}

/-- The answer, in the arithmetic of the policy. -/
theorem Remembers.answer (h : Remembers I L p) (call : PolicyCall) :
    ((Policy.ticker p).solo call).2 = true ↔ ∃ t ∈ origin L, t + I ≤ call.checkTime := by
  have hanswer : ((Policy.ticker p).solo call).2 =
      (p.shouldTransfer .clock call.checkTime).2.2 := rfl
  rw [hanswer]
  unfold shouldTransfer
  rw [h.initialized]
  cases horigin : origin L with
  | none => simp
  | some t =>
    have hnext := h.next t horigin
    simp [Env.clock, hnext]

/-- The policy after a question. -/
theorem solo_ticker (p : TickerPolicy) (call : PolicyCall) :
    ((Policy.ticker p).solo call).1 = .ticker
      { p with
        initialized := true
        nextTickTime := if ((Policy.ticker p).solo call).2 then call.doneTime + p.interval
          else if p.initialized then p.nextTickTime else call.checkTime + p.interval } := by
  obtain ⟨interval, next, initialized⟩ := p
  unfold Policy.solo
  simp only [Policy.shouldTransfer, shouldTransfer, Policy.onTransferred, onTransferred, Env.clock]
  cases initialized with
  | false => simp
  | true => by_cases hdue : next ≤ call.checkTime <;> simp [hdue]

/-- After a question the policy still remembers. -/
theorem Remembers.after (h : Remembers I L p)
    (hfired : entry.fired = ((Policy.ticker p).solo entry.call).2) :
    ∃ p', ((Policy.ticker p).solo entry.call).1 = .ticker p' ∧
      Remembers I (L ++ [entry]) p' := by
  refine ⟨_, solo_ticker p entry.call, ?_⟩
  rw [← hfired, h.interval, h.initialized]
  cases hcase : entry.fired with
  | true =>
    rw [if_pos rfl]
    refine ⟨rfl, ?_, fun t ht => ?_⟩
    · rw [origin_concat_of_fired hcase]
      rfl
    · rw [origin_concat_of_fired hcase] at ht
      rw [← Option.some.inj ht]
  | false =>
    rw [if_neg Bool.false_ne_true]
    refine ⟨rfl, ?_, fun t ht => ?_⟩
    · rw [origin_concat_of_not hcase]
      rfl
    · rw [origin_concat_of_not hcase] at ht
      rw [← Option.some.inj ht]
      cases hold : origin L with
      | none => rfl
      | some t => exact h.next t hold

end TickerPolicy

/-- The answers over a run, whatever the clock says. -/
theorem Gate.ticker_answers {E : Env ε} {g : Gate ε} {I unset : UInt64}
    (hpolicy : g.policy = .ticker { interval := I, nextTickTime := unset })
    (ops : List (GateOp ε)) :
    Each (fun before entry => entry.fired = true ↔
      ∃ t ∈ origin before, t + I ≤ entry.call.checkTime) (run (Gate.step E) g ops).2 := by
  have hrun := Gate.history (E := E) (g := g) (H := fun L policy =>
    Each (fun before entry => entry.fired = true ↔
        ∃ t ∈ origin before, t + I ≤ entry.call.checkTime) L ∧
      ∃ p, policy = .ticker p ∧ p.Remembers I L) ?_ ⟨each_nil, _, hpolicy, rfl, rfl, ?_⟩ ops
  · exact hrun.1
  · rintro L _ entry ⟨heach, p, rfl, hremembers⟩ hfired
    refine ⟨each_concat.2 ⟨heach, ?_⟩, hremembers.after hfired⟩
    rw [hfired]
    exact hremembers.answer entry.call
  · intro t ht
    cases ht

/-! ## The cadence -/

/-- The cadence of interval `I`. -/
structure Cadence (I : UInt64) (log : List GateEntry) : Prop where
  /-- The first trigger does not fire. -/
  first : ∀ e ∈ log.head?, e.fired = false
  /-- A trigger fires just when the interval has passed. -/
  answers : Each (fun before e => e.fired = true ↔
    ∃ t ∈ origin before, t.toNat + I.toNat ≤ e.call.checkTime.toNat) log
  /-- There is no burst: after a firing the next one is the interval away. -/
  spacing : (firings GateEntry.fired log).Pairwise fun a b =>
    a.call.doneTime.toNat + I.toNat ≤ b.call.checkTime.toNat
  /-- A trigger that does not fire sends nothing. -/
  quiet : ∀ e ∈ log, e.fired = false → e.sends = []

/-- Consecutive triggers are at most `d` apart. -/
def Gaps (d : Nat) (log : List GateEntry) : Prop :=
  Each (fun before e => ∀ prev ∈ before.getLast?,
    e.call.checkTime.toNat ≤ prev.call.checkTime.toNat + d) log

/-- Each firing is decided less than `d` after the interval has passed. -/
def Punctual (I : UInt64) (d : Nat) (log : List GateEntry) : Prop :=
  Each (fun before e => e.fired = true → ∃ t ∈ origin before,
    t.toNat + I.toNat ≤ e.call.checkTime.toNat ∧
      e.call.checkTime.toNat < t.toNat + I.toNat + d) log

/-- All readings leave room for the interval below the end of the clock. -/
def Room (I : UInt64) (log : List GateEntry) : Prop :=
  ∀ e ∈ log, ∀ r ∈ e.readings, r.toNat + I.toNat < 2 ^ 64

variable {I : UInt64} {log : List GateEntry}

/-- With room for the interval, the addition of the policy is that of numbers. -/
theorem add_le_iff {t now : UInt64} (h : t.toNat + I.toNat < 2 ^ 64) :
    t + I ≤ now ↔ t.toNat + I.toNat ≤ now.toNat := by
  rw [UInt64.le_iff_toNat_le, UInt64.toNat_add, Nat.mod_eq_of_lt h]

theorem cadence_of_answers (hclock : Chronological log) (hroom : Room I log)
    (h : Each (fun before e => e.fired = true ↔
      ∃ t ∈ origin before, t + I ≤ e.call.checkTime) log)
    (hquiet : ∀ e ∈ log, e.fired = false → e.sends = []) : Cadence I log := by
  have hanswers : Each (fun before e => e.fired = true ↔
      ∃ t ∈ origin before, t.toNat + I.toNat ≤ e.call.checkTime.toNat) log := by
    intro before e post heq
    apply (h before e post heq).trans
    apply exists_congr
    intro t
    refine and_congr_right fun ht => add_le_iff ?_
    obtain ⟨e', he', hr⟩ := mem_readings_of_origin ht
    apply hroom e' _ t hr
    rw [heq]
    exact List.mem_append_left _ he'
  refine ⟨fun e he => ?_, hanswers, ?_, hquiet⟩
  · cases log with
    | nil => cases he
    | cons e' rest =>
      obtain rfl : e' = e := Option.some.inj he
      apply Bool.eq_false_iff.2
      intro hfired
      obtain ⟨t, ht, -⟩ := (hanswers [] e' rest rfl).1 hfired
      cases ht
  · apply hclock.spaced
    intro before e post heq hfired last hlast
    obtain ⟨t, ht, hle⟩ := (hanswers before e post heq).1 hfired
    unfold origin at ht
    rw [hlast] at ht
    rw [Option.some.inj ht]
    exact hle

namespace Cadence

variable {L : List GateEntry} {prev : GateEntry}

/-- After a trigger the ticker is not due yet. -/
theorem not_due (h : Cadence I log) (hclock : Chronological log) (hI : 0 < I.toNat)
    {post : List GateEntry} (heq : log = (L ++ [prev]) ++ post) :
    ∀ t ∈ origin (L ++ [prev]), prev.call.checkTime.toNat < t.toNat + I.toNat := by
  intro t ht
  have hmem : prev ∈ log := by
    rw [heq]
    simp
  cases hfired : prev.fired with
  | true =>
    have hdone := UInt64.le_iff_toNat_le.1 (hclock.check_le_done prev hmem hfired)
    rw [origin_concat_of_fired hfired] at ht
    rw [← Option.some.inj ht]
    omega
  | false =>
    rw [origin_concat_of_not hfired] at ht
    have hanswer := h.answers L prev post (by rw [heq, List.append_assoc]; rfl)
    cases horigin : origin L with
    | none =>
      rw [horigin] at ht
      rw [← Option.some.inj ht]
      exact Nat.lt_add_of_pos_right hI
    | some t' =>
      rw [horigin] at ht
      rw [← Option.some.inj ht]
      by_contra hlate
      rw [hanswer.2 ⟨t', horigin, Nat.le_of_not_lt hlate⟩] at hfired
      cases hfired

/-- No firing is later than the gap between triggers. -/
theorem punctual (h : Cadence I log) (hclock : Chronological log) (hI : 0 < I.toNat) {d : Nat}
    (hgaps : Gaps d log) : Punctual I d log := by
  intro before e post heq hfired
  obtain ⟨t, ht, hle⟩ := (h.answers before e post heq).1 hfired
  refine ⟨t, ht, hle, ?_⟩
  rcases List.eq_nil_or_concat before with rfl | ⟨L, prev, rfl⟩
  · cases ht
  · rw [List.concat_eq_append] at heq ht
    have hprev := h.not_due hclock hI heq t ht
    have hgap := hgaps (L ++ [prev]) e post heq prev List.getLast?_concat
    omega

end Cadence

/-! ## On a grid -/

/-- Triggers at every point `t₀`, `t₀ + s`, `t₀ + 2 * s`, … of a grid, and time stands still within
a step. -/
structure OnGrid (t₀ s : Nat) (log : List GateEntry) : Prop where
  pos : 0 < s
  times : Each (fun before e => e.call.checkTime.toNat = t₀ + before.length * s) log
  still : ∀ e ∈ log, e.fired = true → e.call.doneTime = e.call.checkTime

/-- The firings come at `t₀ + I`, `t₀ + 2 * I`, … -/
structure OnTime (t₀ I : Nat) (log : List GateEntry) : Prop where
  fires : ∀ e ∈ log, e.fired = true ↔ ∃ k, e.call.checkTime.toNat = t₀ + (k + 1) * I
  kth : ∀ k f, (firings GateEntry.fired log)[k]? = some f →
    f.call.checkTime.toNat = t₀ + (k + 1) * I

namespace OnGrid

variable {t₀ s : Nat} {L : List GateEntry} {e : GateEntry}

/-- The points of the grid follow one another. -/
theorem lt_of_mem (hgrid : OnGrid t₀ s log) {post : List GateEntry} (heq : log = L ++ e :: post)
    {a : GateEntry} (ha : a ∈ L) : a.call.checkTime.toNat < e.call.checkTime.toNat := by
  obtain ⟨pre, rest, rfl⟩ := List.append_of_mem ha
  have hearlier : a.call.checkTime.toNat = t₀ + pre.length * s :=
    hgrid.times pre a (rest ++ e :: post) (by rw [heq, List.append_assoc]; rfl)
  have hlater : e.call.checkTime.toNat = t₀ + (pre ++ a :: rest).length * s :=
    hgrid.times (pre ++ a :: rest) e post heq
  have hindex : pre.length * s < (pre ++ a :: rest).length * s := by
    apply Nat.mul_lt_mul_of_pos_right _ hgrid.pos
    rw [List.length_append, List.length_cons]
    omega
  omega

/-- Where the schedule is after a beginning of the run. -/
structure Progress (t₀ I : Nat) (L : List GateEntry) : Prop where
  origin : ∀ t ∈ origin L, t.toNat = t₀ + (firings GateEntry.fired L).length * I
  kth : ∀ k f, (firings GateEntry.fired L)[k]? = some f →
    f.call.checkTime.toNat = t₀ + (k + 1) * I

/-- A firing is on time: the trigger before it was too early, and the grid has no point in
between. -/
theorem check_of_fired (hgrid : OnGrid t₀ s log) (hdvd : s ∣ I.toNat) (hI : 0 < I.toNat)
    (hcadence : Cadence I log) (hclock : Chronological log) {post : List GateEntry}
    (heq : log = L ++ e :: post) (hfired : e.fired = true) {m : Nat}
    (horigin : ∀ t ∈ origin L, t.toNat = t₀ + m * I.toNat) :
    e.call.checkTime.toNat = t₀ + (m + 1) * I.toNat := by
  obtain ⟨t, ht, hle⟩ := (hcadence.answers L e post heq).1 hfired
  have hcheck : e.call.checkTime.toNat = t₀ + L.length * s := hgrid.times L e post heq
  have ht' := horigin t ht
  obtain ⟨q, hq⟩ := hdvd
  have hdue : (m + 1) * I.toNat = (m + 1) * q * s := by
    rw [hq, Nat.mul_comm s q, Nat.mul_assoc]
  have hsum : (m + 1) * I.toNat = m * I.toNat + I.toNat := Nat.succ_mul m I.toNat
  rcases List.eq_nil_or_concat L with rfl | ⟨M, prev, rfl⟩
  · cases ht
  · rw [List.concat_eq_append] at *
    have hearly := hcadence.not_due hclock hI heq t ht
    have hprev : prev.call.checkTime.toNat = t₀ + M.length * s :=
      hgrid.times M prev (e :: post) (by rw [heq, List.append_assoc]; rfl)
    have hindex : M.length * s < (m + 1) * q * s := by omega
    have hlt : M.length < (m + 1) * q := Nat.lt_of_mul_lt_mul_right hindex
    have hpoint : (M.length + 1) * s ≤ (m + 1) * q * s := Nat.mul_le_mul_right s hlt
    rw [List.length_append, List.length_singleton] at hcheck
    omega

/-- The schedule over a run on the grid. -/
theorem progress (hgrid : OnGrid t₀ s log) (hdvd : s ∣ I.toNat) (hI : 0 < I.toNat)
    (hcadence : Cadence I log) (hclock : Chronological log) {post : List GateEntry}
    (heq : log = L ++ post) : Progress t₀ I.toNat L := by
  induction L using List.reverseRecOn generalizing post with
  | nil => exact ⟨fun t ht => absurd ht (by simp [HakoniwaBridge.origin]), by simp⟩
  | append_singleton L e ih =>
    rw [List.append_assoc, List.singleton_append] at heq
    obtain ⟨horigin, hkth⟩ := ih heq
    have hmem : e ∈ log := by
      rw [heq]
      simp
    cases hfired : e.fired with
    | true =>
      have hcheck := hgrid.check_of_fired hdvd hI hcadence hclock heq hfired horigin
      constructor
      · intro t ht
        rw [origin_concat_of_fired hfired] at ht
        rw [← Option.some.inj ht, hgrid.still e hmem hfired, hcheck,
          firings_concat_of_fired hfired, List.length_append, List.length_singleton]
      · intro k f hf
        rw [firings_concat_of_fired hfired, List.getElem?_append] at hf
        split_ifs at hf with hk
        · exact hkth k f hf
        · obtain ⟨hzero, hlast⟩ := List.getElem?_eq_some_iff.1 hf
          have hk' : k = (firings GateEntry.fired L).length := by
            rw [List.length_singleton] at hzero
            omega
          rw [List.getElem_singleton] at hlast
          rw [hk', ← hlast]
          exact hcheck
    | false =>
      constructor
      · intro t ht
        rw [firings_concat_of_not hfired]
        rw [origin_concat_of_not hfired] at ht
        cases hold : HakoniwaBridge.origin L with
        | some t' =>
          rw [hold] at ht
          rw [← Option.some.inj ht]
          exact horigin t' hold
        | none =>
          -- the first trigger of the run, and no firing before it
          obtain rfl := nil_of_origin hold
          rw [hold] at ht
          have hfirst : e.call.checkTime.toNat = t₀ + 0 * s := hgrid.times [] e post heq
          rw [← Option.some.inj ht]
          simpa using hfirst
      · intro k f hf
        rw [firings_concat_of_not hfired] at hf
        exact hkth k f hf

/-- **No drift.** On a grid whose step divides the interval, the firings are those of a fixed
schedule. -/
theorem onTime (hgrid : OnGrid t₀ s log) (hdvd : s ∣ I.toNat) (hI : 0 < I.toNat)
    (hcadence : Cadence I log) (hclock : Chronological log) : OnTime t₀ I.toNat log := by
  refine ⟨fun e he => ?_, (hgrid.progress hdvd hI hcadence hclock (List.append_nil log).symm).kth⟩
  obtain ⟨before, post, heq⟩ := List.append_of_mem he
  obtain ⟨horigin, hkth⟩ := hgrid.progress hdvd hI hcadence hclock heq
  constructor
  · intro hfired
    exact ⟨_, hgrid.check_of_fired hdvd hI hcadence hclock heq hfired horigin⟩
  · rintro ⟨k, hk⟩
    by_contra hquiet
    have hpos : 0 < (k + 1) * I.toNat := Nat.mul_pos (Nat.succ_pos k) hI
    cases hold : HakoniwaBridge.origin before with
    | none =>
      obtain rfl := nil_of_origin hold
      have hfirst : e.call.checkTime.toNat = t₀ + 0 * s := hgrid.times [] e post heq
      omega
    | some t =>
      -- the ticker is not due before the next point of the schedule
      have ht := horigin t hold
      have hearly : e.call.checkTime.toNat < t.toNat + I.toNat := by
        by_contra hlate
        exact hquiet ((hcadence.answers before e post heq).2 ⟨t, hold, Nat.le_of_not_lt hlate⟩)
      have hsum := Nat.succ_mul (firings GateEntry.fired before).length I.toNat
      have hcount : k + 1 < (firings GateEntry.fired before).length + 1 := by
        apply Nat.lt_of_mul_lt_mul_right (a := I.toNat)
        rw [Nat.succ_eq_add_one] at hsum
        omega
      -- and the last point of the schedule is behind
      have hk' : k < (firings GateEntry.fired before).length := by omega
      have hmem := (List.mem_filter.1 (List.getElem_mem hk')).1
      have hbehind := hgrid.lt_of_mem heq hmem
      rw [hkth k _ (List.getElem?_eq_getElem hk')] at hbehind
      omega

end OnGrid

/-- **The cadence of a ticker.** A single transfer with a fresh ticker of interval `I`, over any
endpoints and any run of triggers and pauses:
* it keeps the cadence, with at most one firing for each trigger (and one decision for each trigger
  of an active transfer),
* if consecutive triggers are at most `d` apart, each firing is decided less than `d` after the
  interval has passed,
* on a grid whose step divides the interval, the firings are those of a fixed schedule. -/
theorem Gate.ticker_cadence {E : Env ε} {g : Gate ε} {configKey : BridgePduKey}
    {resolvedKey : PduResolvedKey} {I unset : UInt64}
    (hbody : g.transfer.body = .transferPdu configKey resolvedKey)
    (hpolicy : g.policy = .ticker { interval := I, nextTickTime := unset }) (hI : 0 < I)
    {ops : List (GateOp ε)} (hops : ∀ op ∈ ops, op.isReception = false)
    (hclock : Chronological (run (Gate.step E) g ops).2)
    (hroom : Room I (run (Gate.step E) g ops).2) :
    (Cadence I (run (Gate.step E) g ops).2 ∧
      (run (Gate.step E) g ops).2.length ≤ (ops.filter GateOp.isTrigger).length ∧
      ∀ worlds : List (ε → ε), ops = worlds.map .cyclicTrigger → g.transfer.isActive = true →
        (run (Gate.step E) g ops).2.length = worlds.length) ∧
    (∀ d, Gaps d (run (Gate.step E) g ops).2 → Punctual I d (run (Gate.step E) g ops).2) ∧
    ∀ t₀ s, OnGrid t₀ s (run (Gate.step E) g ops).2 → s ∣ I.toNat →
      OnTime t₀ I.toNat (run (Gate.step E) g ops).2 := by
  have hpos : 0 < I.toNat := UInt64.lt_iff_toNat_lt.1 hI
  have hcadence := cadence_of_answers hclock hroom (Gate.ticker_answers hpolicy ops)
    (Gate.sends_of_unfired g ops)
  refine ⟨⟨hcadence, Gate.length_le_triggers g hops, ?_⟩, ?_, ?_⟩
  · rintro worlds rfl hactive
    apply Gate.triggers hbody hactive _ worlds
    rw [hpolicy]
    rfl
  · intro d hgaps
    exact hcadence.punctual hclock hpos hgaps
  · intro t₀ s hgrid hdvd
    exact hgrid.onTime hdvd hpos hcadence hclock

/-- A transfer with a ticker of 20 microseconds, over a clock that shows 0. -/
def Gate.ticking : Gate UInt64 where
  transfer :=
    { self := 0, body := .transferPdu ⟨"r.pos", "r", "pos"⟩ ⟨"r", 1⟩, policy := 0
      srcEndpoint := .container "src", dstEndpoint := .container "dst", isActive := true
      ownerEpoch := 0, epochValidation := false }
  host := { Host.boot 0 with policies := fun _ => .ticker { interval := 20 } }

/-- Triggers every 10 microseconds from 5 on, with a pause from 35 to 65. -/
def Gate.pausedTriggers : List (GateOp UInt64) :=
  [.cyclicTrigger fun _ => 5, .cyclicTrigger fun _ => 15, .cyclicTrigger fun _ => 25,
    .setActive false, .cyclicTrigger fun _ => 35, .setActive true, .cyclicTrigger fun _ => 65,
    .cyclicTrigger fun _ => 75]

theorem Gate.readings_paused :
    ∀ e ∈ (run (Gate.step .clock) Gate.ticking Gate.pausedTriggers).2, ∀ r ∈ e.readings,
      r.toNat ≤ 75 := by
  have hall : ((run (Gate.step .clock) Gate.ticking Gate.pausedTriggers).2.all fun e =>
      e.readings.all fun r => decide (r.toNat ≤ 75)) = true := by decide
  intro e he r hr
  exact of_decide_eq_true (List.all_eq_true.1 (List.all_eq_true.1 hall e he) r hr)

/-- The firings are at 25 and at 65. -/
theorem Gate.ticker_cadence_paused :
    (Cadence 20 (run (Gate.step .clock) Gate.ticking Gate.pausedTriggers).2 ∧
      (run (Gate.step .clock) Gate.ticking Gate.pausedTriggers).2.length ≤
        (Gate.pausedTriggers.filter GateOp.isTrigger).length ∧
      ∀ worlds : List (UInt64 → UInt64), Gate.pausedTriggers = worlds.map .cyclicTrigger →
        Gate.ticking.transfer.isActive = true →
        (run (Gate.step .clock) Gate.ticking Gate.pausedTriggers).2.length = worlds.length) ∧
    (∀ d, Gaps d (run (Gate.step .clock) Gate.ticking Gate.pausedTriggers).2 →
      Punctual 20 d (run (Gate.step .clock) Gate.ticking Gate.pausedTriggers).2) ∧
    ∀ t₀ s, OnGrid t₀ s (run (Gate.step .clock) Gate.ticking Gate.pausedTriggers).2 →
      s ∣ (20 : UInt64).toNat →
      OnTime t₀ (20 : UInt64).toNat
        (run (Gate.step .clock) Gate.ticking Gate.pausedTriggers).2 := by
  have hroom : Room 20 (run (Gate.step .clock) Gate.ticking Gate.pausedTriggers).2 := by
    intro e he r hr
    have hle := Gate.readings_paused e he r hr
    have hinterval : (20 : UInt64).toNat = 20 := rfl
    omega
  exact Gate.ticker_cadence rfl rfl (by decide) (by decide) (by decide) hroom

end HakoniwaBridge
