import HakoniwaBridge.Run

/-!
# The epoch gate

Every transfer keeps its own copy of its connection's epoch and validation flag. The copies agree
with the connection after every step (`BridgeConnection.InSync`, a part of `Wf`), and both transfer
paths check before they send; so a validating connection lets out only PDUs of its own epoch,
whatever has happened before: transfers added, sessions attached and detached, epochs incremented
past the wrap, pauses.
-/

namespace HakoniwaBridge

open Lib

variable {ε : Type} {E : Env ε}

namespace Bridge

/-- What the step sends from validating connections carries their epoch. -/
def EpochGated (E : Env ε) (b : Bridge ε) (op : Op ε) : Prop :=
  ∀ s, Event.send s ∈ (b.step E op).2 → ∀ c ∈ b.core.connections, s.transfer ∈ c.refs →
    c.epochValidation = true → E.hakoPduGetEpoch s.data = some c.epoch

/-- A buffer that a validating transfer accepts carries the owner epoch. -/
theorem epoch_of_accepted {t : ITransferPdu} {buffer : Bytes}
    (hvalidation : t.epochValidation = true) (h : t.epochAccepted E buffer = true) :
    E.hakoPduGetEpoch buffer = some t.ownerEpoch := by
  unfold ITransferPdu.epochAccepted at h
  rw [if_pos hvalidation] at h
  split at h
  · exact Bool.noConfusion h
  · next pduEpoch heq =>
    rw [heq, eq_of_beq h]

/-- On well-formed connections the gate holds at every step. -/
theorem epochGated_of_wellFormed {b : Bridge ε} (hwf : b.WellFormed) (op : Op ε) :
    EpochGated E b op := by
  intro s hs c hc hown hvalidation
  obtain ⟨c', hc', t, ht, hsent, -⟩ := send_of_step hs
  -- the sender has one owner, the connection `c`
  obtain ⟨t', ht', hself⟩ := List.mem_map.1 hown
  have hsame : t'.self = t.self := hself.trans hsent.transfer
  obtain ⟨rfl, rfl⟩ := hwf.unique hc hc' ht' ht hsame
  obtain ⟨hepoch, hflag⟩ := hwf.inSync c hc t' ht'
  rw [← hepoch]
  exact epoch_of_accepted (hflag.trans hvalidation) hsent.epoch

/-- **Epoch gate.** In every run of a built bridge, every PDU that a transfer of a validating
connection passes to its destination carries the connection's epoch at that moment. -/
theorem epochGated_run {cfg : BridgeConfig} {nodeName : String} {container : List String} {e : ε}
    {b : Bridge ε} (hboot : boot E cfg nodeName container e = some b) (ops : List (Op ε)) :
    Along (step E) (EpochGated E) b ops := by
  have hstep : ∀ (b : Bridge ε) (op : Op ε), b.WellFormed → True → (b.step E op).1.WellFormed :=
    fun b op hwf _ => wellFormed_step E hwf op
  have hgate : ∀ (b : Bridge ε) (op : Op ε), b.WellFormed → True → EpochGated E b op :=
    fun b op hwf _ => epochGated_of_wellFormed hwf op
  exact along_of_invariant hstep hgate (booted_of_boot hboot).wellFormed
    (along_of_forall (fun _ _ => trivial) b ops)

/-- The gate on a validating connection whose epoch is raised between two receptions. -/
theorem epochGated_small :
    Along (step ((CacheSpec.small .latest).env none))
      (EpochGated ((CacheSpec.small .latest).env none))
      ((bootSmall .latest ⟨"immediate", none, none⟩ [⟨"k", "r", "pos"⟩] true).get rfl)
      [.reception "src" ⟨"r", 1⟩ [0, 7], .incrementConnectionEpoch "conn",
        .reception "src" ⟨"r", 1⟩ [0, 8], .reception "src" ⟨"r", 1⟩ [1, 9]] :=
  epochGated_run (Option.some_get rfl).symm _

end Bridge

end HakoniwaBridge
