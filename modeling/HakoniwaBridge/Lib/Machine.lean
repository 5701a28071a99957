import Mathlib.Data.List.Basic

/-!
# Machines with outputs and their runs

A machine is a step function `S → O → S × List E`: in every state every operation yields a next
state and the outputs of the step. Everything here is over arbitrary types.

* `run step s os` — the final state and all outputs, in order.
* `Along step G s os` — each operation of the run meets the condition `G` in the state in which
  it is taken.
* **Invariant rule** (`run_invariant`): what one admitted step preserves, a run of admitted
  steps preserves. `along_of_invariant` turns an invariant into a fact about every step;
  `run_invariant_of_forall` is for what every step preserves.
* **History rule** (`run_history`): the same for an invariant that speaks of the outputs so far.
* **Erasure rule** (`run_purge`): if the hidden operations move a state inside one class of a
  relation and say nothing visible, deleting them leaves the visible outputs unchanged.
-/

namespace HakoniwaBridge.Lib

variable {S T O E : Type*}

section runs

variable (step : S → O → S × List E)

/-- The final state and the outputs of a run. -/
def run : S → List O → S × List E
  | s, [] => (s, [])
  | s, o :: os => ((run (step s o).1 os).1, (step s o).2 ++ (run (step s o).1 os).2)

@[simp] theorem run_nil (s : S) : run step s [] = (s, []) := rfl

@[simp] theorem run_cons_fst (s : S) (o : O) (os : List O) :
    (run step s (o :: os)).1 = (run step (step s o).1 os).1 := rfl

@[simp] theorem run_cons_snd (s : S) (o : O) (os : List O) :
    (run step s (o :: os)).2 = (step s o).2 ++ (run step (step s o).1 os).2 := rfl

theorem run_append_fst (s : S) (xs ys : List O) :
    (run step s (xs ++ ys)).1 = (run step (run step s xs).1 ys).1 := by
  induction xs generalizing s with
  | nil => rfl
  | cons x xs ih => exact ih (step s x).1

theorem run_append_snd (s : S) (xs ys : List O) :
    (run step s (xs ++ ys)).2 = (run step s xs).2 ++ (run step (run step s xs).1 ys).2 := by
  induction xs generalizing s with
  | nil => rfl
  | cons x xs ih =>
    rw [List.cons_append, run_cons_snd, ih, run_cons_snd, run_cons_fst, List.append_assoc]

/-- Every operation of the run meets `G` in the state in which it is taken. -/
def Along (G : S → O → Prop) : S → List O → Prop
  | _, [] => True
  | s, o :: os => G s o ∧ Along G (step s o).1 os

variable {step} {G Q : S → O → Prop} {P : S → Prop}

theorem along_append {s : S} {xs ys : List O} :
    Along step G s (xs ++ ys) ↔ Along step G s xs ∧ Along step G (run step s xs).1 ys := by
  induction xs generalizing s with
  | nil => simp [Along]
  | cons x xs ih => simp only [List.cons_append, Along, ih, run_cons_fst, and_assoc]

/-- A condition that every step meets is met along every run. -/
theorem along_of_forall (h : ∀ s o, G s o) : ∀ (s : S) (os : List O), Along step G s os
  | _, [] => trivial
  | s, o :: os => ⟨h s o, along_of_forall h (step s o).1 os⟩

/-- A condition on operations alone is met along a run as soon as each operation meets it. -/
theorem along_of_ops {R : O → Prop} {s : S} {os : List O} (h : ∀ o ∈ os, R o) :
    Along step (fun _ o => R o) s os := by
  induction os generalizing s with
  | nil => trivial
  | cons o os ih =>
    exact ⟨h o List.mem_cons_self, ih fun o' ho' => h o' (List.mem_cons_of_mem _ ho')⟩

theorem Along.and {s : S} {os : List O} (hG : Along step G s os) (hQ : Along step Q s os) :
    Along step (fun s o => G s o ∧ Q s o) s os := by
  induction os generalizing s with
  | nil => trivial
  | cons o os ih => exact ⟨⟨hG.1, hQ.1⟩, ih hG.2 hQ.2⟩

theorem Along.mono {s : S} {os : List O} (hG : Along step G s os)
    (h : ∀ s o, G s o → Q s o) : Along step Q s os := by
  induction os generalizing s with
  | nil => trivial
  | cons o os ih => exact ⟨h s o hG.1, ih hG.2⟩

/-- **Invariant rule.** What one admitted step preserves holds after a run of admitted steps. -/
theorem run_invariant (hstep : ∀ s o, P s → G s o → P (step s o).1) {s : S} (hs : P s)
    {os : List O} (hG : Along step G s os) : P (run step s os).1 := by
  induction os generalizing s with
  | nil => exact hs
  | cons o os ih => exact ih (hstep s o hs hG.1) hG.2

/-- What every step preserves holds after every run. -/
theorem run_invariant_of_forall (hstep : ∀ s o, P s → P (step s o).1) {s : S} (hs : P s)
    (os : List O) : P (run step s os).1 :=
  run_invariant (G := fun _ _ => True) (fun s o h _ => hstep s o h) hs
    (along_of_forall (fun _ _ => trivial) s os)

/-- An invariant that yields `Q` at every admitted step yields `Q` along the run. -/
theorem along_of_invariant (hstep : ∀ s o, P s → G s o → P (step s o).1)
    (hQ : ∀ s o, P s → G s o → Q s o) {s : S} (hs : P s) {os : List O}
    (hG : Along step G s os) : Along step Q s os := by
  induction os generalizing s with
  | nil => trivial
  | cons o os ih => exact ⟨hQ s o hs hG.1, ih (hstep s o hs hG.1) hG.2⟩

/-- **History rule.** An invariant of the state and of all outputs so far. -/
theorem run_history {H : S → List E → Prop}
    (hstep : ∀ s es o, H s es → G s o → H (step s o).1 (es ++ (step s o).2)) {s : S} {es : List E}
    (hs : H s es) {os : List O} (hG : Along step G s os) :
    H (run step s os).1 (es ++ (run step s os).2) := by
  induction os generalizing s es with
  | nil => simpa using hs
  | cons o os ih =>
    have hrest := ih (hstep s es o hs hG.1) hG.2
    rw [List.append_assoc] at hrest
    exact hrest

/-- From the start, over all steps. -/
theorem run_history_of_forall {H : S → List E → Prop}
    (hstep : ∀ s es o, H s es → H (step s o).1 (es ++ (step s o).2)) {s : S} (hs : H s [])
    (os : List O) : H (run step s os).1 (run step s os).2 := by
  have hrun := run_history (G := fun _ _ => True) (fun s es o h _ => hstep s es o h) hs
    (along_of_forall (fun _ _ => trivial) s os)
  rwa [List.nil_append] at hrun

end runs

/-! ## Erasing hidden operations -/

section purge

variable (step : S → O → S × List E)

/-- Delete from a run the operations that are hidden in the state in which they are taken. -/
def purge (hidden : S → O → Bool) : S → List O → List O
  | _, [] => []
  | s, o :: os =>
    if hidden s o then purge hidden (step s o).1 os else o :: purge hidden (step s o).1 os

variable {step} {G : S → O → Prop} {R : S → S → Prop} {visible : E → Bool} {hidden : S → O → Bool}

/-- **Erasure rule.** Let hidden operations keep the left state related and be silent, and let
the other operations move related states to related states with the same visible outputs. Then
a run and the run with the hidden operations deleted show the same visible outputs. -/
theorem run_purge
    (hhidden : ∀ s t o, R s t → G s o → hidden s o = true →
      R (step s o).1 t ∧ (step s o).2.filter visible = [])
    (hshown : ∀ s t o, R s t → G s o → hidden s o = false →
      R (step s o).1 (step t o).1 ∧ (step s o).2.filter visible = (step t o).2.filter visible)
    {s t : S} (hR : R s t) {os : List O} (hG : Along step G s os) :
    R (run step s os).1 (run step t (purge step hidden s os)).1 ∧
      (run step s os).2.filter visible =
        (run step t (purge step hidden s os)).2.filter visible := by
  induction os generalizing s t with
  | nil => exact ⟨hR, rfl⟩
  | cons o os ih =>
    cases hh : hidden s o with
    | true =>
      obtain ⟨hR', hout⟩ := hhidden s t o hR hG.1 hh
      have hrest := ih hR' hG.2
      simp only [purge, hh, if_true, run_cons_fst, run_cons_snd, List.filter_append, hout,
        List.nil_append]
      exact hrest
    | false =>
      obtain ⟨hR', hout⟩ := hshown s t o hR hG.1 hh
      have hrest := ih hR' hG.2
      simp only [purge, hh, Bool.false_eq_true, if_false, run_cons_fst, run_cons_snd,
        List.filter_append, hout]
      exact ⟨hrest.1, by rw [hrest.2]⟩

end purge

end HakoniwaBridge.Lib
