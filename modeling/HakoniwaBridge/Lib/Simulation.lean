import HakoniwaBridge.Lib.Machine

/-!
# Simulations

One machine simulates another if related states stay related while the first takes a step and the
second takes the steps that this one stands for. Everything here is over arbitrary types.

* **Simulation rule** (`run_simulation`): related starts lead to related ends, with the same
  outputs.
* **View rule** (`run_view`): the same where the relation is a function of the state, and the second
  machine has no outputs.
-/

namespace HakoniwaBridge.Lib

variable {S T O U E F : Type*} {step : S → O → S × List E} {step' : T → U → T × List F}
  {G : S → O → Prop} {R : S → T → Prop} {translate : O → List U} {shown : E → List F}

/-- **Simulation rule.** -/
theorem run_simulation
    (hstep : ∀ s t o, R s t → G s o → R (step s o).1 (run step' t (translate o)).1 ∧
      (step s o).2.flatMap shown = (run step' t (translate o)).2)
    {s : S} {t : T} (hR : R s t) {os : List O} (hG : Along step G s os) :
    R (run step s os).1 (run step' t (os.flatMap translate)).1 ∧
      (run step s os).2.flatMap shown = (run step' t (os.flatMap translate)).2 := by
  induction os generalizing s t with
  | nil => exact ⟨hR, rfl⟩
  | cons o os ih =>
    obtain ⟨hR', hout⟩ := hstep s t o hR hG.1
    obtain ⟨hrest, houts⟩ := ih hR' hG.2
    rw [List.flatMap_cons, run_append_fst, run_append_snd, run_cons_fst, run_cons_snd,
      List.flatMap_append, hout, houts]
    exact ⟨hrest, rfl⟩

/-- **View rule.** -/
theorem run_view (view : S → T) {next : T → U → T}
    (hstep : ∀ s o, G s o → view (step s o).1 = (translate o).foldl next (view s))
    {s : S} {os : List O} (hG : Along step G s os) :
    view (run step s os).1 = (os.flatMap translate).foldl next (view s) := by
  induction os generalizing s with
  | nil => rfl
  | cons o os ih => rw [run_cons_fst, ih hG.2, hstep s o hG.1, List.flatMap_cons, List.foldl_append]

end HakoniwaBridge.Lib
