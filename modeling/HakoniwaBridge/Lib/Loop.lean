import Mathlib.Data.List.Basic
import Mathlib.Data.List.TakeWhile

/-!
# Loops that end at the first error

`forEach f xs s` is a `for` loop over `xs` whose body changes a state and may end the enclosing
function with an error; the state reached by then is kept.

* `forEach_ok` — the rule for a loop that runs to its end: what every turn without an error
  preserves holds afterwards.
* `forEach_ok_done` — the same for an invariant that speaks of the elements already done.
* `forEach_filter` — elements for which the body does nothing can be left out.
* `Performs` — a program works off a list of tasks until the first one that has a fault; nested
  loops do so for the concatenated tasks (`Performs.forEach`).
-/

namespace HakoniwaBridge.Lib

variable {α σ ε : Type*}

/-- Run the body for each element, until it yields an error. -/
def forEach (f : α → σ → σ × Option ε) : List α → σ → σ × Option ε
  | [], s => (s, none)
  | x :: xs, s =>
    match f x s with
    | (s', none) => forEach f xs s'
    | (s', some e) => (s', some e)

/-- **Loop rule.** What each turn that yields no error preserves, holds when the loop ends
without an error. -/
theorem forEach_ok (P : σ → Prop) {f : α → σ → σ × Option ε} {xs : List α}
    (hf : ∀ x ∈ xs, ∀ s s', P s → f x s = (s', none) → P s') {s s' : σ} (hs : P s)
    (h : forEach f xs s = (s', none)) : P s' := by
  induction xs generalizing s with
  | nil =>
    simp only [forEach, Prod.mk.injEq, and_true] at h
    exact h ▸ hs
  | cons x xs ih =>
    unfold forEach at h
    split at h
    · next s₁ heq =>
      have hs₁ : P s₁ := hf x List.mem_cons_self s s₁ hs heq
      exact ih (fun y hy => hf y (List.mem_cons_of_mem x hy)) hs₁ h
    · simp at h

/-- **Loop rule with history.** An invariant of the state and of the elements already done. -/
theorem forEach_ok_done (P : List α → σ → Prop) {f : α → σ → σ × Option ε} {xs : List α}
    (hf : ∀ done, ∀ x ∈ xs, ∀ s s', P done s → f x s = (s', none) → P (done ++ [x]) s')
    {s s' : σ} (hs : P [] s) (h : forEach f xs s = (s', none)) : P xs s' := by
  have hloop : ∀ ys ⊆ xs, ∀ done s, P done s → forEach f ys s = (s', none) →
      P (done ++ ys) s' := by
    intro ys
    induction ys with
    | nil =>
      intro _ done s hs h
      simp only [forEach, Prod.mk.injEq, and_true] at h
      rw [List.append_nil]
      exact h ▸ hs
    | cons y ys ih =>
      intro hsub done s hs h
      unfold forEach at h
      split at h
      · next s₁ heq =>
        have hs₁ : P (done ++ [y]) s₁ := hf done y (hsub List.mem_cons_self) s s₁ hs heq
        have hrest := ih (fun z hz => hsub (List.mem_cons_of_mem y hz)) (done ++ [y]) s₁ hs₁ h
        rw [List.append_assoc] at hrest
        exact hrest
      · simp at h
  exact hloop xs (List.Subset.refl xs) [] s hs h

/-- Elements for which the body does nothing can be left out. -/
theorem forEach_filter {f : α → σ → σ × Option ε} {p : α → Prop} [DecidablePred p]
    (hf : ∀ x, ¬ p x → ∀ s, f x s = (s, none)) (xs : List α) (s : σ) :
    forEach f (xs.filter p) s = forEach f xs s := by
  induction xs generalizing s with
  | nil => rfl
  | cons x xs ih =>
    by_cases hx : p x
    · rw [List.filter_cons_of_pos (by simpa using hx)]
      unfold forEach
      split
      · exact ih _
      · rfl
    · rw [List.filter_cons_of_neg (by simpa using hx), ih]
      conv_rhs => unfold forEach
      rw [hf x hx s]

/-! ## Tasks -/

variable {τ η : Type*}

/-- From the state `a` a program works off the tasks `ts`: it ends at the first task with a fault,
with that fault, and the tasks before it are done. -/
structure Performs (fault : τ → Option ε) (Done : List τ → η → η → Prop) (ts : List τ) (a : η)
    (r : η × Option ε) : Prop where
  error : r.2 = ts.findSome? fault
  done : Done (ts.takeWhile fun t => (fault t).isNone) a r.1

/-- Tasks are done one after another. -/
structure Sequential (Done : List τ → η → η → Prop) : Prop where
  nil : ∀ a, Done [] a a
  append : ∀ {ts us a b c}, Done ts a b → Done us b c → Done (ts ++ us) a c

namespace Performs

variable {fault : τ → Option ε} {Done : List τ → η → η → Prop} {ts us : List τ} {a b : η}

theorem nil (hseq : Sequential Done) (a : η) : Performs fault Done [] a (a, none) :=
  ⟨rfl, hseq.nil a⟩

/-- A task without a fault. -/
theorem of_ok {t : τ} (ht : fault t = none) (hdone : Done [t] a b) :
    Performs fault Done [t] a (b, none) :=
  ⟨by simp [ht], by simpa [ht] using hdone⟩

/-- A task with a fault. -/
theorem of_fault (hseq : Sequential Done) {t : τ} {e : ε} (ht : fault t = some e) (a : η) :
    Performs fault Done [t] a (a, some e) :=
  ⟨by simp [ht], by simpa [ht] using hseq.nil a⟩

/-- After tasks without a fault the work goes on. -/
theorem append (hseq : Sequential Done) {r : η × Option ε}
    (hts : Performs fault Done ts a (b, none)) (hus : Performs fault Done us b r) :
    Performs fault Done (ts ++ us) a r := by
  have hnone : ∀ t ∈ ts, (fault t).isNone = true := by
    simpa using List.findSome?_eq_none_iff.1 hts.error.symm
  refine ⟨?_, ?_⟩
  · rw [List.findSome?_append, ← hts.error]
    exact hus.error
  · have hdone := hts.done
    rw [List.takeWhile_append_of_pos hnone]
    rw [List.takeWhile_eq_self_iff.2 hnone] at hdone
    exact hseq.append hdone hus.done

/-- After a fault the other tasks are left. -/
theorem append_of_error {e : ε} (hts : Performs fault Done ts a (b, some e)) (us : List τ) :
    Performs fault Done (ts ++ us) a (b, some e) := by
  obtain ⟨t, ht, hfault⟩ := List.exists_of_findSome?_eq_some hts.error.symm
  refine ⟨?_, ?_⟩
  · rw [List.findSome?_append, ← hts.error]
    rfl
  · have htake : (ts ++ us).takeWhile (fun t => (fault t).isNone) =
        ts.takeWhile fun t => (fault t).isNone := by
      rw [List.takeWhile_append, if_neg]
      intro hlen
      have hall := List.takeWhile_eq_self_iff.1 (List.takeWhile_sublist _ |>.eq_of_length hlen)
      simpa [hfault] using hall t ht
    rw [htake]
    exact hts.done

/-- **Nested loops.** If each turn works off the tasks of its element, the loop works off those of
its elements, one after another; the tasks may concern a part of the state only. -/
theorem forEach (hseq : Sequential Done) (part : σ → η) {f : α → σ → σ × Option ε}
    {tasks : α → List τ} (xs : List α)
    (hf : ∀ x ∈ xs, ∀ s, Performs fault Done (tasks x) (part s) (part (f x s).1, (f x s).2))
    (s : σ) : Performs fault Done (xs.flatMap tasks) (part s)
      (part (Lib.forEach f xs s).1, (Lib.forEach f xs s).2) := by
  induction xs generalizing s with
  | nil => exact nil hseq (part s)
  | cons x xs ih =>
    have hx := hf x List.mem_cons_self s
    rw [List.flatMap_cons]
    unfold Lib.forEach
    split
    · next s' heq =>
      rw [heq] at hx
      exact hx.append hseq (ih (fun y hy => hf y (List.mem_cons_of_mem x hy)) s')
    · next s' e heq =>
      rw [heq] at hx
      exact hx.append_of_error _

end Performs

end HakoniwaBridge.Lib
