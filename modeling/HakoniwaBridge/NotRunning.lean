import HakoniwaBridge.Run

/-!
# A bridge that is not running

`BridgeCore::cyclic_trigger` checks the running flag; the receive callbacks registered when the
bridge was built do not. So a configured transfer sends while the bridge is not running only
through a reception on a key that the transfer listens on, and only if it is event-driven:

* `QuietWhileStopped` — the property of a step: nothing configured sends while not running.
* `NoStrayReception` — the condition on a step: while not running, no PDU arrives on a key that
  an active configured transfer listens on.
* `quietWhileStopped_run` — along every run of the condition the property holds.
-/

namespace HakoniwaBridge

open Lib

variable {ε : Type} {E : Env ε}

namespace Bridge

/-- While the bridge is not running, no transfer of `configured` sends. -/
def QuietWhileStopped (E : Env ε) (configured : List Nat) (b : Bridge ε) (op : Op ε) : Prop :=
  b.core.isRunning = false → ∀ s, Event.send s ∈ (b.step E op).2 → s.transfer ∉ configured

/-- While the bridge is not running, no PDU arrives on a key that an active event-driven transfer
of `configured` listens on. -/
def NoStrayReception (configured : List Nat) (b : Bridge ε) (op : Op ε) : Prop :=
  ∀ endpointId key data, op = .reception endpointId key data → b.core.isRunning = false →
    ∀ c ∈ b.core.connections, ∀ t ∈ c.transferPdus, t.self ∈ configured → t.isActive = true →
      ¬ t.Listens b.host (.container endpointId) key

/-- A step that meets the condition is quiet. -/
theorem quietWhileStopped_of_wellFormed {configured : List Nat} {b : Bridge ε} {op : Op ε}
    (hwf : b.WellFormed) (hop : NoStrayReception configured b op) :
    QuietWhileStopped E configured b op := by
  intro hstopped s hs hconf
  obtain ⟨c, hc, t, ht, hsent, hpath⟩ := send_of_step hs
  cases hpath with
  | reception reg hreg hendpoint hkey hcallback =>
    have hlistens := hwf.listens reg hreg c hc t ht hcallback
    rw [hendpoint, hkey] at hlistens
    rw [hsent.transfer] at hconf
    exact hop _ _ _ rfl hstopped c hc t ht hconf hsent.active hlistens
  | cyclicTrigger hrunning _ _ =>
    rw [hrunning] at hstopped
    exact Bool.noConfusion hstopped

/-- **Quiet while stopped.** In every run of a built bridge in which no PDU arrives, while the
bridge is not running, on a key that an active event-driven configured transfer listens on, no
configured transfer sends while the bridge is not running. -/
theorem quietWhileStopped_run {cfg : BridgeConfig} {nodeName : String} {container : List String}
    {e : ε} {b : Bridge ε} (hboot : boot E cfg nodeName container e = some b) {ops : List (Op ε)}
    (hops : Along (step E) (NoStrayReception b.core.ownedRefs) b ops) :
    Along (step E) (QuietWhileStopped E b.core.ownedRefs) b ops := by
  have hstep : ∀ (b' : Bridge ε) (op : Op ε), b'.WellFormed →
      NoStrayReception b.core.ownedRefs b' op → (b'.step E op).1.WellFormed :=
    fun b' op hwf _ => wellFormed_step E hwf op
  have hquiet : ∀ (b' : Bridge ε) (op : Op ε), b'.WellFormed →
      NoStrayReception b.core.ownedRefs b' op → QuietWhileStopped E b.core.ownedRefs b' op :=
    fun b' op hwf hop => quietWhileStopped_of_wellFormed hwf hop
  exact along_of_invariant hstep hquiet (booted_of_boot hboot).wellFormed hops

/-- A ticker bridge receives before its start and after its stop. -/
theorem quietWhileStopped_ticker :
    Along (step ((CacheSpec.small .latest).env none))
      (QuietWhileStopped ((CacheSpec.small .latest).env none) [0])
      ((bootSmall .latest ⟨"ticker", some 1, none⟩ [⟨"k", "r", "pos"⟩] false).get rfl)
      [.reception "src" ⟨"r", 1⟩ [0, 7], .start, .cyclicTrigger [], .stop,
        .reception "src" ⟨"r", 1⟩ [0, 8], .cyclicTrigger []] := by
  have hboot : bootSmall .latest ⟨"ticker", some 1, none⟩ [⟨"k", "r", "pos"⟩] false =
      some ((bootSmall .latest ⟨"ticker", some 1, none⟩ [⟨"k", "r", "pos"⟩] false).get rfl) :=
    (Option.some_get rfl).symm
  apply quietWhileStopped_run hboot
  refine ⟨?_, ?_, ?_, ?_, ?_, ?_, trivial⟩
  all_goals
    intro endpointId key data hop _ c hc t ht _ _
  · obtain rfl := List.mem_singleton.1 hc
    obtain rfl := List.mem_singleton.1 ht
    refine ITransferPdu.not_listens_of_isCyclic ?_ _ _
    exact rfl
  · exact absurd hop (by simp)
  · exact absurd hop (by simp)
  · exact absurd hop (by simp)
  · obtain rfl := List.mem_singleton.1 hc
    obtain rfl := List.mem_singleton.1 ht
    refine ITransferPdu.not_listens_of_isCyclic ?_ _ _
    exact rfl
  · exact absurd hop (by simp)

/-- An immediate bridge that was never started forwards what it receives. -/
theorem forwards_before_start :
    ¬ QuietWhileStopped ((CacheSpec.small .latest).env none) [0]
      ((bootSmall .latest ⟨"immediate", none, none⟩ [⟨"k", "r", "pos"⟩] false).get rfl)
      (.reception "src" ⟨"r", 1⟩ [0, 7]) := by
  intro hquiet
  have hmem : (0 : Nat) ∉ [0] :=
    hquiet rfl ⟨0, .container "dst", .named ⟨"r", "pos"⟩, [0, 7]⟩ List.mem_cons_self
  exact hmem List.mem_cons_self

end Bridge

end HakoniwaBridge
