import HakoniwaBridge.Statics

/-!
# What holds of every listed session

The rows of the session table are written once, by the attach that issues the session id, and are
never changed: what holds of every row that is written holds of every session that is listed.

* `EverySession P` — `P` holds of every session in the table, with the id that it is listed under.
* `everySession_step` — a step keeps it, if it holds of the session that an attach would list.
* `keyed_step` — every session is listed under the id of its row.
-/

namespace HakoniwaBridge

open Lib

variable {ε : Type} {E : Env ε}

namespace Bridge

variable {P : String → MonitorSessionInfo → Prop} {b : Bridge ε}

/-- A property of all sessions in the table. -/
def EverySession (P : String → MonitorSessionInfo → Prop) (b : Bridge ε) : Prop :=
  ∀ id info, b.runtime.monitorSessions.lookup id = some info → P id info

/-- The control plane writes no row. -/
theorem everySession_closed (E : Env ε) (P : String → MonitorSessionInfo → Prop) :
    ControlClosed E (EverySession P) where
  runtime b rt hsame h := by
    intro id info hinfo
    rw [hsame.monitorSessions] at hinfo
    exact h id info hinfo
  accept _ _ _ h := h
  host _ _ _ h := h
  core _ _ _ h := h
  attached _ _ h := h
  detach b sessionId h := by
    intro id info hinfo
    unfold detachMonitor at hinfo
    split_ifs at hinfo
    · by_cases hid : id = sessionId
      · subst hid
        rw [AList.lookup_erase] at hinfo
        exact absurd hinfo (by simp)
      · rw [AList.lookup_erase_ne hid] at hinfo
        exact h id info hinfo
    · exact h id info hinfo
  shutdown b h := by
    intro id info hinfo
    unfold shutdown at hinfo
    split_ifs at hinfo
    · exact h id info hinfo
    · exact absurd hinfo (by simp)

/-- The row that an attach writes. -/
def newInfo (b : Bridge ε) (spec : MonitorSessionSpec) (selection : ResolvedMonitorSelection) :
    MonitorSessionInfo :=
  { sessionInfo spec selection with sessionId := b.runtime.nextSessionId }

/-- An attach leaves the table as it is, or writes one row unless the id is in use. -/
theorem monitorSessions_attachMonitor (E : Env ε) (stopAt : Option Nat) (spec : MonitorSessionSpec)
    (b : Bridge ε) :
    (b.attachMonitor E stopAt spec).1.runtime = b.runtime ∨
      ∃ selection, b.core.admitMonitor E spec = some selection ∧
        (b.attachMonitor E stopAt spec).1.runtime.monitorSessions =
          emplace b.runtime.monitorSessions b.runtime.nextSessionId (b.newInfo spec selection) := by
  unfold attachMonitor
  dsimp only
  split
  · exact Or.inl rfl
  · next selection hadmitted =>
    split
    · exact Or.inl rfl
    · exact Or.inr ⟨selection, (admitMonitor_of_loadRunning hadmitted).2, rfl⟩

theorem everySession_attachMonitor (stopAt : Option Nat) (spec : MonitorSessionSpec)
    (h : b.EverySession P) (hnew : ∀ selection, b.core.admitMonitor E spec = some selection →
      P b.runtime.nextSessionId (b.newInfo spec selection)) :
    (b.attachMonitor E stopAt spec).1.EverySession P := by
  rcases monitorSessions_attachMonitor E stopAt spec b with hsame | ⟨selection, hadmitted, hnext⟩
  · unfold EverySession
    rw [hsame]
    exact h
  · intro id info hinfo
    rw [hnext] at hinfo
    unfold emplace at hinfo
    split_ifs at hinfo
    · exact h id info hinfo
    · by_cases hid : id = b.runtime.nextSessionId
      · subst hid
        rw [AList.lookup_insert] at hinfo
        rw [← Option.some.inj hinfo]
        exact hnew selection hadmitted
      · rw [AList.lookup_insert_ne hid] at hinfo
        exact h id info hinfo

/-- **Step.** What holds of every listed session, and of each one that could be listed next, holds
of every session that is listed after a step. -/
theorem everySession_step (E : Env ε) (h : b.EverySession P)
    (hnew : ∀ spec selection, b.core.admitMonitor E spec = some selection →
      P b.runtime.nextSessionId (b.newInfo spec selection)) (op : Op ε) :
    (b.step E op).1.EverySession P := by
  refine (everySession_closed E P).step h
    (fun stopAt spec _ => everySession_attachMonitor stopAt spec h (hnew spec))
    fun hconnection => ?_
  unfold EverySession
  rw [runtime_step_onConnection E b hconnection]
  exact h

/-- The sessions are listed under the ids of their rows. -/
abbrev Keyed (b : Bridge ε) : Prop := b.EverySession fun id info => info.sessionId = id

theorem keyed_step (E : Env ε) (h : b.Keyed) (op : Op ε) : (b.step E op).1.Keyed :=
  everySession_step E h (fun _ _ _ => rfl) op

/-- A bridge that was just built lists nothing. -/
theorem everySession_of_boot {cfg : BridgeConfig} {nodeName : String} {container : List String}
    {e : ε} (hboot : boot E cfg nodeName container e = some b) : b.EverySession P := by
  intro id info hinfo
  rw [(booted_of_boot hboot).noSessions] at hinfo
  exact absurd hinfo (by simp)

theorem keyed_run {cfg : BridgeConfig} {nodeName : String} {container : List String} {e : ε}
    (hboot : boot E cfg nodeName container e = some b) (ops : List (Op ε)) :
    (run (step E) b ops).1.Keyed := by
  have hkeep : ∀ (b : Bridge ε) (op : Op ε), b.Keyed → (b.step E op).1.Keyed :=
    fun b op h => keyed_step E h op
  exact run_invariant_of_forall hkeep (everySession_of_boot hboot) ops

/-- The rows of the session list with a certain id: that of the session in the table. -/
theorem mem_listMonitorInfos_iff (h : b.Keyed) {id : String} {info : MonitorSessionInfo} :
    info ∈ b.runtime.listMonitorInfos ∧ info.sessionId = id ↔
      b.runtime.monitorSessions.lookup id = some info := by
  have hmem : info ∈ b.runtime.listMonitorInfos ↔
      ∃ s ∈ b.runtime.monitorSessions.entries, s.2 = info := by
    unfold BridgeMonitorRuntime.listMonitorInfos
    rw [(List.mergeSort_perm _ _).mem_iff, List.mem_map]
  constructor
  · rintro ⟨hlisted, hid⟩
    obtain ⟨⟨key, info'⟩, hs, hinfo⟩ := hmem.1 hlisted
    obtain rfl : info' = info := hinfo
    have hlookup := AList.mem_lookup_iff.2 hs
    have hkey : info'.sessionId = key := h key info' hlookup
    rw [← hid, hkey]
    exact hlookup
  · intro hlookup
    exact ⟨hmem.2 ⟨⟨id, info⟩, AList.mem_lookup_iff.1 hlookup, rfl⟩, h id info hlookup⟩

end Bridge

end HakoniwaBridge
