import HakoniwaBridge.Lib.Machine
import Mathlib.Logic.Function.Basic

/-!
# Machines side by side

A family of machines with the same step function `σ → α → σ × β`, each with a state of its own.
A call names a machine and hands it an input; a log lists the calls with their answers.

* `Logs step s log s'` — the log is one of the family: each answer is that of the named machine,
  in the state which its earlier calls left.
* `logs_own` — **the family is the independent product of its machines**: cut down to one machine,
  a log is a run of this machine alone.
-/

namespace HakoniwaBridge.Lib

variable {ι σ α β : Type*}

/-- One machine on its own. -/
def alone (step : σ → α → σ × β) (s : σ) (a : α) : σ × List β := ((step s a).1, [(step s a).2])

variable [DecidableEq ι]

/-- The entries of one machine. -/
def own (i : ι) (log : List (ι × α × β)) : List (α × β) :=
  (log.filter fun entry => decide (entry.1 = i)).map Prod.snd

@[simp] theorem own_nil (i : ι) : own i ([] : List (ι × α × β)) = [] := rfl

theorem own_append (i : ι) (log log' : List (ι × α × β)) :
    own i (log ++ log') = own i log ++ own i log' := by
  simp [own]

theorem own_cons_self (i : ι) (e : α × β) (log : List (ι × α × β)) :
    own i ((i, e) :: log) = e :: own i log := by
  simp [own]

theorem own_cons_of_ne {i j : ι} (h : j ≠ i) (e : α × β) (log : List (ι × α × β)) :
    own i ((j, e) :: log) = own i log := by
  simp [own, h]

/-- A log of the family, from one family of states to another. -/
inductive Logs (step : σ → α → σ × β) : (ι → σ) → List (ι × α × β) → (ι → σ) → Prop
  | nil (s : ι → σ) : Logs step s [] s
  | cons {s s' : ι → σ} {log : List (ι × α × β)} (i : ι) (a : α) :
      Logs step (Function.update s i (step (s i) a).1) log s' →
      Logs step s ((i, a, (step (s i) a).2) :: log) s'

variable {step : σ → α → σ × β} {s s₁ s₂ : ι → σ} {log log' : List (ι × α × β)}

theorem Logs.append (h₁ : Logs step s log s₁) (h₂ : Logs step s₁ log' s₂) :
    Logs step s (log ++ log') s₂ := by
  induction h₁ with
  | nil s => exact h₂
  | cons i a _ ih => exact .cons i a (ih h₂)

/-- What a machine keeps on every call, it keeps in the family. -/
theorem Logs.keeps {P : σ → Prop} (hP : ∀ s a, P s → P (step s a).1) (h : Logs step s log s₁)
    {i : ι} (hi : P (s i)) : P (s₁ i) := by
  induction h with
  | nil s => exact hi
  | @cons s s' log j a _ ih =>
    apply ih
    by_cases hj : i = j
    · subst hj
      rw [Function.update_self]
      exact hP (s i) a hi
    · rw [Function.update_of_ne hj]
      exact hi

/-- **Independence.** The part of a log that belongs to one machine is a run of it alone, from its
own state on its own inputs. -/
theorem logs_own (h : Logs step s log s₁) (i : ι) :
    s₁ i = (run (alone step) (s i) ((own i log).map Prod.fst)).1 ∧
      (own i log).map Prod.snd = (run (alone step) (s i) ((own i log).map Prod.fst)).2 := by
  induction h with
  | nil s => exact ⟨rfl, rfl⟩
  | @cons s s' log j a _ ih =>
    obtain ⟨hstate, houtputs⟩ := ih
    by_cases hj : j = i
    · subst hj
      rw [Function.update_self] at hstate houtputs
      rw [own_cons_self]
      exact ⟨hstate, by rw [List.map_cons, List.map_cons, houtputs]; rfl⟩
    · rw [Function.update_of_ne (Ne.symm hj)] at hstate houtputs
      rw [own_cons_of_ne hj]
      exact ⟨hstate, houtputs⟩

end HakoniwaBridge.Lib
