import HakoniwaBridge.Independence
import HakoniwaBridge.Lib.Firing

/-!
# The history of one transfer

A `Gate` is a transfer with the host around it. Its runs are made of receptions and cyclic triggers,
each after whatever happened outside, and of pauses of its connection; over any endpoints and any
clock.

* `GateEntry` — the record of one question to the policy: the call, the answer, and what the
  transfer sent.
* `Gate.history` — **the rule**: what every call of a policy keeps, about the policy object and the
  entries so far, holds after every run.
* `Gate.receptions` — an active transfer asks its policy once for each reception.
-/

namespace HakoniwaBridge

open Lib

variable {ε : Type} {E : Env ε}

/-- A transfer with the host around it. -/
structure Gate (ε : Type) where
  transfer : ITransferPdu
  host : Host ε

/-- A PDU for which the transfer has a callback, or a cyclic trigger, after a change outside; or
the connection is paused or resumed. -/
inductive GateOp (ε : Type)
  | reception (world : ε → ε) (key : PduResolvedKey)
  | cyclicTrigger (world : ε → ε)
  | setActive (isActive : Bool)

/-- A cyclic trigger. -/
def GateOp.isTrigger : GateOp ε → Bool
  | .cyclicTrigger _ => true
  | _ => false

def GateOp.isReception : GateOp ε → Bool
  | .reception _ _ => true
  | _ => false

/-- A question to the policy, the answer, and what was sent. -/
structure GateEntry where
  call : PolicyCall
  fired : Bool
  sends : List Send

namespace ITransferPdu

variable {t : ITransferPdu} {key : PduResolvedKey} {action : ε → ε × List Send} {h : Host ε}

/-- What an active gate asks, and what comes of it. -/
theorem gateLog_of_active (E : Env ε) (key : PduResolvedKey) (action : ε → ε × List Send)
    (h : Host ε) (hactive : t.isActive = true) :
    ∃ call, t.gateLog E key action h =
        [(t.policy, call, ((h.policies t.policy).solo call).2)] ∧ call.key = key ∧
      (t.gated E key action h).1.policies t.policy = ((h.policies t.policy).solo call).1 ∧
      (((h.policies t.policy).solo call).2 = false → (t.gated E key action h).2 = []) := by
  have hlogs := gated_logs (E := E) t key action h
  obtain ⟨hstate, hanswers⟩ := logs_own hlogs t.policy
  unfold gateLog at hstate hanswers ⊢
  rw [if_pos hactive] at hstate hanswers ⊢
  rw [own_cons_self, own_nil] at hstate hanswers
  simp only [List.map_cons, List.map_nil, run_cons_fst, run_nil] at hstate
  simp only [List.map_cons, List.map_nil, run_cons_snd, run_nil, alone, List.append_nil,
    List.cons.injEq, and_true] at hanswers
  refine ⟨_, by rw [← hanswers], rfl, hstate, fun hunfired => ?_⟩
  rw [← hanswers] at hunfired
  unfold gated
  rw [if_pos hactive]
  split
  · rfl
  · next heq =>
    rw [heq] at hunfired
    cases hunfired

theorem gateLog_of_inactive (E : Env ε) (key : PduResolvedKey) (action : ε → ε × List Send)
    (h : Host ε) (hactive : t.isActive = false) :
    t.gateLog E key action h = [] ∧ t.gated E key action h = (h, []) := by
  constructor
  · simp [gateLog, hactive]
  · simp [gated, hactive]

end ITransferPdu

namespace Gate

/-- The policy object of the transfer. -/
def policy (g : Gate ε) : Policy := g.host.policies g.transfer.policy

/-- The host when something changed outside. -/
def after (g : Gate ε) (world : ε → ε) : Host ε := { g.host with env := world g.host.env }

/-- The entries for the calls of a log. -/
def entries (log : PolicyLog) (sends : List Send) : List GateEntry :=
  log.map fun e => ⟨e.2.1, e.2.2, sends⟩

def step (E : Env ε) (g : Gate ε) : GateOp ε → Gate ε × List GateEntry
  | .reception world key =>
    ({ g with host := (g.transfer.onRecvCallback E key (g.after world)).1 },
      entries (g.transfer.recvLog E key (g.after world))
        (g.transfer.onRecvCallback E key (g.after world)).2)
  | .cyclicTrigger world =>
    ({ g with host := (g.transfer.cyclicTrigger E (g.after world)).1 },
      entries (g.transfer.cyclicLog E (g.after world))
        (g.transfer.cyclicTrigger E (g.after world)).2)
  | .setActive isActive => ({ g with transfer := g.transfer.setActive isActive }, [])

/-- What a step puts out: nothing, or one entry that the policy answered. -/
inductive Answered (g g' : Gate ε) : List GateEntry → Prop
  | silent : g'.policy = g.policy → Answered g g' []
  | asked (entry : GateEntry) : entry.fired = (g.policy.solo entry.call).2 →
      g'.policy = (g.policy.solo entry.call).1 → (entry.fired = false → entry.sends = []) →
      Answered g g' [entry]

/-- A gate call as a step. -/
theorem answered_gated (g : Gate ε) (world : ε → ε) (key : PduResolvedKey)
    (action : ε → ε × List Send) :
    Answered g { g with host := (g.transfer.gated E key action (g.after world)).1 }
      (entries (g.transfer.gateLog E key action (g.after world))
        (g.transfer.gated E key action (g.after world)).2) := by
  cases hactive : g.transfer.isActive with
  | true =>
    obtain ⟨call, hlog, -, hpolicy, hsends⟩ :=
      ITransferPdu.gateLog_of_active E key action (g.after world) hactive
    rw [hlog]
    exact .asked _ rfl hpolicy hsends
  | false =>
    obtain ⟨hlog, hgated⟩ :=
      ITransferPdu.gateLog_of_inactive E key action (g.after world) hactive
    rw [hlog, hgated]
    exact .silent rfl

theorem answered_step (g : Gate ε) (op : GateOp ε) :
    Answered g (step E g op).1 (step E g op).2 := by
  cases op with
  | setActive isActive => exact .silent rfl
  | reception world key =>
    unfold step ITransferPdu.onRecvCallback ITransferPdu.recvLog
    cases g.transfer.body with
    | transferPdu configKey resolvedKey => exact answered_gated g world resolvedKey _
    | transferAtomicPduGroup keys => exact answered_gated g world key _
  | cyclicTrigger world =>
    unfold step ITransferPdu.cyclicTrigger ITransferPdu.cyclicLog
    cases g.transfer.body with
    | transferPdu configKey resolvedKey =>
      dsimp only
      split_ifs
      · exact answered_gated g world resolvedKey _
      · exact .silent rfl
    | transferAtomicPduGroup keys => exact .silent rfl

/-- **History rule.** What each call of a policy keeps holds after a run. -/
theorem history {H : List GateEntry → Policy → Prop}
    (hstep : ∀ L p (entry : GateEntry), H L p → entry.fired = (p.solo entry.call).2 →
      H (L ++ [entry]) (p.solo entry.call).1)
    {g : Gate ε} (hstart : H [] g.policy) (ops : List (GateOp ε)) :
    H (run (step E) g ops).2 (run (step E) g ops).1.policy := by
  refine run_history_of_forall (H := fun (g : Gate ε) L => H L g.policy) ?_ hstart ops
  intro g L op hL
  have hanswered := answered_step (E := E) g op
  generalize (step E g op).2 = out at hanswered ⊢
  cases hanswered with
  | silent hpolicy =>
    rw [List.append_nil, hpolicy]
    exact hL
  | asked entry hfired hpolicy _ =>
    rw [hpolicy]
    exact hstep L g.policy entry hL hfired

/-- An entry that did not fire sent nothing. -/
theorem sends_of_unfired (g : Gate ε) (ops : List (GateOp ε)) :
    ∀ entry ∈ (run (step E) g ops).2, entry.fired = false → entry.sends = [] := by
  refine run_history_of_forall
    (H := fun _ L => ∀ entry : GateEntry, entry ∈ L → entry.fired = false → entry.sends = []) ?_
    (by simp) ops
  intro g L op hL entry hentry
  rcases List.mem_append.1 hentry with hold | hnew
  · exact hL entry hold
  · have hanswered := answered_step (E := E) g op
    generalize (step E g op).2 = out at hanswered hnew
    cases hanswered with
    | silent _ => exact absurd hnew List.not_mem_nil
    | asked entry' _ _ hsends =>
      rw [List.mem_singleton.1 hnew]
      exact hsends

/-- The key that an active transfer asks its policy about when a PDU arrives. -/
def askedKey (t : ITransferPdu) (key : PduResolvedKey) : PduResolvedKey :=
  match t.body with
  | .transferPdu _ resolvedKey => resolvedKey
  | .transferAtomicPduGroup _ => key

/-- An active transfer asks its policy once for each reception. -/
theorem receptions {g : Gate ε} (hactive : g.transfer.isActive = true)
    (arrivals : List ((ε → ε) × PduResolvedKey)) :
    (run (step E) g (arrivals.map fun a => .reception a.1 a.2)).2.map (fun e => e.call.key) =
      arrivals.map fun a => askedKey g.transfer a.2 := by
  induction arrivals generalizing g with
  | nil => rfl
  | cons a arrivals ih =>
    obtain ⟨world, key⟩ := a
    have hrest := @ih { g with host := (g.transfer.onRecvCallback E key (g.after world)).1 } hactive
    have hfirst : (step E g (.reception world key)).2.map (fun e => e.call.key) =
        [askedKey g.transfer key] := by
      unfold step ITransferPdu.recvLog askedKey
      cases g.transfer.body with
      | transferPdu configKey resolvedKey =>
        obtain ⟨call, hlog, hkey, -⟩ := ITransferPdu.gateLog_of_active E resolvedKey
          (g.transfer.transfer E configKey.endpointKey) (g.after world) hactive
        simp [entries, hlog, hkey]
      | transferAtomicPduGroup keys =>
        obtain ⟨call, hlog, hkey, -⟩ := ITransferPdu.gateLog_of_active E key
          (g.transfer.tryTransferGroup E keys) (g.after world) hactive
        simp [entries, hlog, hkey]
    rw [List.map_cons, run_cons_snd, List.map_append, hfirst, List.map_cons]
    exact congrArg _ hrest

/-- A step asks at most once. -/
theorem length_step_le (g : Gate ε) (op : GateOp ε) : (step E g op).2.length ≤ 1 := by
  have hanswered := answered_step (E := E) g op
  generalize (step E g op).2 = out at hanswered ⊢
  cases hanswered with
  | silent _ => exact Nat.zero_le 1
  | asked _ _ _ _ => exact le_rfl

/-- Triggers and pauses: at most one question for each trigger. -/
theorem length_le_triggers (g : Gate ε) {ops : List (GateOp ε)}
    (hops : ∀ op ∈ ops, op.isReception = false) :
    (run (step E) g ops).2.length ≤ (ops.filter GateOp.isTrigger).length := by
  induction ops generalizing g with
  | nil => exact Nat.zero_le _
  | cons op ops ih =>
    have hrest := ih (step E g op).1 fun op' hop' => hops op' (List.mem_cons_of_mem _ hop')
    have hfirst := length_step_le (E := E) g op
    rw [run_cons_snd, List.length_append]
    cases op with
    | reception world key => exact absurd (hops _ List.mem_cons_self) (by simp [GateOp.isReception])
    | cyclicTrigger world =>
      rw [List.filter_cons_of_pos rfl, List.length_cons]
      omega
    | setActive isActive =>
      rw [List.filter_cons_of_neg (by simp [GateOp.isTrigger])]
      exact le_of_eq_of_le (Nat.zero_add _) hrest

/-- An active single transfer with a cyclic policy asks it once for each trigger. -/
theorem triggers {g : Gate ε} {configKey : BridgePduKey} {resolvedKey : PduResolvedKey}
    (hbody : g.transfer.body = .transferPdu configKey resolvedKey)
    (hactive : g.transfer.isActive = true) (hcyclic : g.policy.isCyclicTrigger = true)
    (worlds : List (ε → ε)) :
    (run (step E) g (worlds.map .cyclicTrigger)).2.length = worlds.length := by
  induction worlds generalizing g with
  | nil => rfl
  | cons world worlds ih =>
    have hbook := g.transfer.cyclicTrigger_sameBook E (g.after world)
    have hrest := @ih { g with host := (g.transfer.cyclicTrigger E (g.after world)).1 } hbody
      hactive ((hbook.cyclic _).trans hcyclic)
    have hfirst : (step E g (.cyclicTrigger world)).2.length = 1 := by
      obtain ⟨call, hlog, -⟩ := ITransferPdu.gateLog_of_active E resolvedKey
        (g.transfer.transfer E configKey.endpointKey) (g.after world) hactive
      have hcyclic' : ((g.after world).policies g.transfer.policy).isCyclicTrigger = true := hcyclic
      unfold step ITransferPdu.cyclicLog
      rw [hbody]
      dsimp only
      rw [if_pos hcyclic', hlog]
      rfl
    rw [List.map_cons, run_cons_snd, List.length_append, hfirst, List.length_cons, Nat.add_comm]
    exact congrArg (· + 1) hrest

end Gate

/-! ## Readings of the clock -/

/-- The readings of the clock for an entry. -/
def GateEntry.readings (e : GateEntry) : List UInt64 :=
  if e.fired then [e.call.checkTime, e.call.doneTime] else [e.call.checkTime]

/-- The clock does not go back. -/
def Chronological (log : List GateEntry) : Prop :=
  (log.flatMap GateEntry.readings).Pairwise (· ≤ ·)

instance (log : List GateEntry) : Decidable (Chronological log) :=
  inferInstanceAs (Decidable (List.Pairwise _ _))

namespace Chronological

variable {log before : List GateEntry} {entry last : GateEntry}

/-- At a decision the clock is not behind any earlier reading. -/
theorem reading_le (h : Chronological log) :
    Each (fun before entry => ∀ e ∈ before, ∀ r ∈ e.readings, r ≤ entry.call.checkTime) log := by
  rintro before entry post rfl e he r hr
  unfold Chronological at h
  rw [List.flatMap_append, List.flatMap_cons] at h
  apply (List.pairwise_append.1 h).2.2 r (List.mem_flatMap.2 ⟨e, he, hr⟩)
  apply List.mem_append_left
  unfold GateEntry.readings
  split_ifs
  · exact List.mem_cons_self
  · exact List.mem_cons_self

/-- Nor is it behind the completion of the last firing. -/
theorem lastFiring_le (h : Chronological log) :
    Each (fun before entry => ∀ last ∈ lastFiring GateEntry.fired before,
      last.call.doneTime ≤ entry.call.checkTime) log := by
  refine h.reading_le.imp fun before entry hle last hlast => ?_
  obtain ⟨hmem, hfired⟩ := mem_of_lastFiring hlast
  apply hle last hmem
  unfold GateEntry.readings
  rw [if_pos hfired]
  exact List.mem_cons_of_mem _ List.mem_cons_self

/-- A firing is complete after its decision. -/
theorem check_le_done (h : Chronological log) :
    ∀ e ∈ log, e.fired = true → e.call.checkTime ≤ e.call.doneTime := by
  intro e he hfired
  obtain ⟨before, post, rfl⟩ := List.append_of_mem he
  unfold Chronological at h
  rw [List.flatMap_append, List.flatMap_cons] at h
  have hown := (List.pairwise_append.1 (List.pairwise_append.1 h).2.1).1
  unfold GateEntry.readings at hown
  rw [if_pos hfired] at hown
  exact (List.pairwise_cons.1 hown).1 _ List.mem_cons_self

/-- If each attempt comes `n` after the completion of the last one, then of any. -/
theorem spaced (h : Chronological log) {n : Nat}
    (hlast : Each (fun before entry => entry.fired = true →
      ∀ last ∈ lastFiring GateEntry.fired before,
        last.call.doneTime.toNat + n ≤ entry.call.checkTime.toNat) log) :
    (firings GateEntry.fired log).Pairwise fun a b =>
      a.call.doneTime.toNat + n ≤ b.call.checkTime.toNat := by
  have hpairs : (firings GateEntry.fired log).Pairwise fun a b =>
      a.call.doneTime.toNat + n ≤ b.call.checkTime.toNat ∧
        b.call.checkTime.toNat ≤ b.call.doneTime.toNat := by
    apply pairwise_firings
    · intro a b c hab hbc
      constructor
      · omega
      · exact hbc.2
    · intro before entry post heq hfired last hmem
      constructor
      · exact hlast before entry post heq hfired last hmem
      · apply UInt64.le_iff_toNat_le.1
        apply h.check_le_done entry _ hfired
        rw [heq]
        exact List.mem_append_right _ List.mem_cons_self
  exact hpairs.imp fun hab => hab.1

end Chronological

end HakoniwaBridge
