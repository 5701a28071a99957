import HakoniwaBridge.Endpoint
import HakoniwaBridge.Lib.Barrier

/-!
# Transfer policies

The three policy classes of `src/policy/`, each as the record of its fields with the two calls of
`IPduTransferPolicy`: `shouldTransfer` (which may change the policy) and `onTransferred`. The
received flags of `ImmediatePolicy` are a `Lib.Barrier` over the resolved keys.
-/

namespace HakoniwaBridge

open Lib

variable {ε : Type}

/-- Source: `immediate_policy.hpp`, `ImmediatePolicy`. -/
structure ImmediatePolicy where
  isAtomic : Bool
  recvStates : Barrier PduResolvedKey

/-- Source: `throttle_policy.hpp`, `ThrottlePolicy`. -/
structure ThrottlePolicy where
  intervalMicros : UInt64
  lastTransferTimeMicros : UInt64 := 0
  hasTransferred : Bool := false

/-- Source: `ticker_policy.hpp`, `TickerPolicy`; `next_tick_time_` is not initialised by the
constructor and is not read before `initialized_` is set. -/
structure TickerPolicy where
  interval : UInt64
  nextTickTime : UInt64 := 0
  initialized : Bool := false

namespace ImmediatePolicy

/-- Source: `ImmediatePolicy::ImmediatePolicy`. -/
def new (isAtomic : Bool) : ImmediatePolicy := ⟨isAtomic, Barrier.empty⟩

/-- Source: `ImmediatePolicy::add_pdu_key`. -/
def addPduKey (p : ImmediatePolicy) (key : PduResolvedKey) : ImmediatePolicy :=
  { p with recvStates := p.recvStates.register key }

/-- Source: `ImmediatePolicy::should_transfer`. An unknown key answers `false` and leaves the
flags alone. -/
def shouldTransfer (p : ImmediatePolicy) (key : PduResolvedKey) : ImmediatePolicy × Bool :=
  if p.isAtomic then
    if key ∈ p.recvStates.keys then
      ({ p with recvStates := p.recvStates.arrive key }, (p.recvStates.arrive key).full)
    else (p, false)
  else (p, true)

/-- Source: `ImmediatePolicy::on_transferred`. -/
def onTransferred (p : ImmediatePolicy) : ImmediatePolicy :=
  if p.isAtomic then { p with recvStates := p.recvStates.clear } else p

end ImmediatePolicy

namespace ThrottlePolicy

/-- Source: `ThrottlePolicy::should_transfer`. The clock is read only after a first transfer;
the subtraction is unsigned 64-bit. -/
def shouldTransfer (E : Env ε) (p : ThrottlePolicy) (e : ε) : ε × Bool :=
  if p.hasTransferred then
    let (e', now) := E.getMicroseconds e
    (e', decide (now - p.lastTransferTimeMicros ≥ p.intervalMicros))
  else (e, true)

/-- Source: `ThrottlePolicy::on_transferred`. -/
def onTransferred (E : Env ε) (p : ThrottlePolicy) (e : ε) : ThrottlePolicy × ε :=
  let (e', now) := E.getMicroseconds e
  ({ p with lastTransferTimeMicros := now, hasTransferred := true }, e')

end ThrottlePolicy

namespace TickerPolicy

/-- Source: `TickerPolicy::should_transfer`. The first check only sets the schedule. -/
def shouldTransfer (E : Env ε) (p : TickerPolicy) (e : ε) : TickerPolicy × ε × Bool :=
  let (e', now) := E.getMicroseconds e
  if p.initialized then (p, e', decide (now ≥ p.nextTickTime))
  else ({ p with nextTickTime := now + p.interval, initialized := true }, e', false)

/-- Source: `TickerPolicy::on_transferred`. -/
def onTransferred (E : Env ε) (p : TickerPolicy) (e : ε) : TickerPolicy × ε :=
  let (e', now) := E.getMicroseconds e
  ({ p with nextTickTime := now + p.interval }, e')

end TickerPolicy

/-- An `IPduTransferPolicy` object. -/
inductive Policy
  | immediate (p : ImmediatePolicy)
  | throttle (p : ThrottlePolicy)
  | ticker (p : TickerPolicy)

namespace Policy

/-- Source: `IPduTransferPolicy::is_cyclic_trigger` and its overrides. -/
def isCyclicTrigger : Policy → Bool
  | immediate _ => false
  | throttle _ => false
  | ticker _ => true

/-- Source: `IPduTransferPolicy::should_transfer`. -/
def shouldTransfer (E : Env ε) (key : PduResolvedKey) : Policy → ε → Policy × ε × Bool
  | immediate p, e => (immediate (p.shouldTransfer key).1, e, (p.shouldTransfer key).2)
  | throttle p, e => (throttle p, (p.shouldTransfer E e).1, (p.shouldTransfer E e).2)
  | ticker p, e =>
    (ticker (p.shouldTransfer E e).1, (p.shouldTransfer E e).2.1, (p.shouldTransfer E e).2.2)

/-- Source: `IPduTransferPolicy::on_transferred`. -/
def onTransferred (E : Env ε) : Policy → ε → Policy × ε
  | immediate p, e => (immediate p.onTransferred, e)
  | throttle p, e => (throttle (p.onTransferred E e).1, (p.onTransferred E e).2)
  | ticker p, e => (ticker (p.onTransferred E e).1, (p.onTransferred E e).2)

/-- `dynamic_pointer_cast<ImmediatePolicy>` followed by `add_pdu_key`: other policies are left
alone. -/
def addPduKey (key : PduResolvedKey) : Policy → Policy
  | immediate p => immediate (p.addPduKey key)
  | throttle p => throttle p
  | ticker p => ticker p

/-- No call changes the class of a policy object. -/
@[simp] theorem isCyclicTrigger_shouldTransfer (E : Env ε) (key : PduResolvedKey) (p : Policy)
    (e : ε) : (p.shouldTransfer E key e).1.isCyclicTrigger = p.isCyclicTrigger := by
  cases p <;> rfl

@[simp] theorem isCyclicTrigger_onTransferred (E : Env ε) (p : Policy) (e : ε) :
    (p.onTransferred E e).1.isCyclicTrigger = p.isCyclicTrigger := by
  cases p <;> rfl

@[simp] theorem isCyclicTrigger_addPduKey (key : PduResolvedKey) (p : Policy) :
    (p.addPduKey key).isCyclicTrigger = p.isCyclicTrigger := by
  cases p <;> rfl

/-! ## Registering keys -/

end Policy

namespace ImmediatePolicy

/-- Registering keys: they become keys, and no flag goes up. -/
theorem foldl_addPduKey (keys : List PduResolvedKey) (p : ImmediatePolicy) :
    (keys.foldl (fun p key => p.addPduKey key) p).isAtomic = p.isAtomic ∧
      (∀ k, k ∈ (keys.foldl (fun p key => p.addPduKey key) p).recvStates.keys ↔
        k ∈ keys ∨ k ∈ p.recvStates.keys) ∧
      ∀ k, (keys.foldl (fun p key => p.addPduKey key) p).recvStates.Arrived k →
        p.recvStates.Arrived k := by
  induction keys generalizing p with
  | nil => simp
  | cons key keys ih =>
    obtain ⟨hatomic, hkeys, harrived⟩ := ih (p.addPduKey key)
    refine ⟨hatomic, fun k => ?_, fun k hk => ?_⟩
    · rw [List.foldl_cons, hkeys, addPduKey, Barrier.mem_keys_register, List.mem_cons]
      constructor
      · rintro (hk | hk | hk)
        · exact Or.inl (Or.inr hk)
        · exact Or.inl (Or.inl hk)
        · exact Or.inr hk
      · rintro ((hk | hk) | hk)
        · exact Or.inr (Or.inl hk)
        · exact Or.inl hk
        · exact Or.inr (Or.inr hk)
    · exact (Barrier.arrived_register.1 (harrived k hk)).1

/-- Registering keys again that are registered and have not arrived changes nothing. -/
theorem foldl_addPduKey_of_known {keys : List PduResolvedKey} {p : ImmediatePolicy}
    (hkeys : ∀ key ∈ keys, key ∈ p.recvStates.keys) (hdown : ∀ k, ¬ p.recvStates.Arrived k) :
    keys.foldl (fun p key => p.addPduKey key) p = p := by
  induction keys with
  | nil => rfl
  | cons key keys ih =>
    have hsame : p.addPduKey key = p := by
      unfold addPduKey
      rw [Barrier.register_of_known (hkeys key List.mem_cons_self) hdown]
    rw [List.foldl_cons, hsame, ih fun k hk => hkeys k (List.mem_cons_of_mem _ hk)]

end ImmediatePolicy

/-- Registering keys with a policy object that is an `ImmediatePolicy`. -/
theorem Policy.foldl_addPduKey (keys : List PduResolvedKey) (p : ImmediatePolicy) :
    keys.foldl (fun p key => p.addPduKey key) (Policy.immediate p) =
      .immediate (keys.foldl (fun p key => p.addPduKey key) p) := by
  induction keys generalizing p with
  | nil => rfl
  | cons key keys ih => exact ih (p.addPduKey key)

namespace Policy

/-! ### Policies over the caches -/

/-- Over the caches a check changes nothing outside. -/
theorem shouldTransfer_env (C : CacheSpec) (after : Option UInt64) (key : PduResolvedKey)
    (p : Policy) (e : CacheState) : (p.shouldTransfer (C.env after) key e).2.1 = e := by
  cases p with
  | immediate p => rfl
  | throttle p =>
    simp only [Policy.shouldTransfer, ThrottlePolicy.shouldTransfer]
    split_ifs <;> rfl
  | ticker p =>
    simp only [Policy.shouldTransfer, TickerPolicy.shouldTransfer]
    split_ifs <;> rfl

theorem onTransferred_env (C : CacheSpec) (after : Option UInt64) (p : Policy) (e : CacheState) :
    (p.onTransferred (C.env after) e).2 = e := by
  cases p <;> rfl

/-- The check of a throttle depends on the outside through the clock only. -/
theorem throttle_congr (C : CacheSpec) (after after' : Option UInt64) (p : ThrottlePolicy)
    {e e' : CacheState} (hclock : e'.clock = e.clock) :
    (p.shouldTransfer (C.env after') e').2 = (p.shouldTransfer (C.env after) e).2 := by
  simp only [ThrottlePolicy.shouldTransfer, CacheSpec.env, hclock]
  split_ifs <;> rfl

/-- So does that of every policy. -/
theorem shouldTransfer_congr (C : CacheSpec) (after : Option UInt64) (key : PduResolvedKey)
    (p : Policy) {e e' : CacheState} (hclock : e'.clock = e.clock) :
    (p.shouldTransfer (C.env after) key e').1 = (p.shouldTransfer (C.env after) key e).1 ∧
      (p.shouldTransfer (C.env after) key e').2.2 = (p.shouldTransfer (C.env after) key e).2.2 := by
  cases p with
  | immediate p => exact ⟨rfl, rfl⟩
  | throttle p => exact ⟨rfl, throttle_congr C after after p hclock⟩
  | ticker p =>
    simp only [Policy.shouldTransfer, TickerPolicy.shouldTransfer, CacheSpec.env, hclock]
    split_ifs <;> exact ⟨rfl, rfl⟩

theorem onTransferred_congr (C : CacheSpec) (after : Option UInt64) (p : Policy)
    {e e' : CacheState} (hclock : e'.clock = e.clock) :
    (p.onTransferred (C.env after) e').1 = (p.onTransferred (C.env after) e).1 := by
  cases p with
  | immediate p => rfl
  | throttle p =>
    simp only [Policy.onTransferred, ThrottlePolicy.onTransferred, CacheSpec.env, hclock]
  | ticker p =>
    simp only [Policy.onTransferred, TickerPolicy.onTransferred, CacheSpec.env, hclock]

end Policy

end HakoniwaBridge
