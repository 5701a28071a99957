import Mathlib.Data.Fintype.Card
import Mathlib.Data.Set.Finite.Lemmas
import Mathlib.Logic.Relation
import Mathlib.Order.Filter.AtTopBot.Basic
import Mathlib.Order.Filter.Finite

/-!
# Acyclic graphs of which finitely many nodes are entered

* `acc_of_acyclic` — if no cycle can be reached from a node, every way from there ends: the node is
  accessible, so that one may argue by induction along the edges.
* `exists_common_bound` — finitely many bounds have a common one.
-/

namespace HakoniwaBridge.Lib

open Relation

variable {α : Type*} {r : α → α → Prop}

/-- **Ways end.** All edges lead to finitely many nodes, and none of those that can be reached from
`a` lies on a cycle. -/
theorem acc_of_acyclic {targets : List α} (htargets : ∀ x y, r x y → y ∈ targets) {a : α}
    (hacyclic : ∀ x, ReflTransGen r a x → ¬ TransGen r x x) : Acc (flip r) a := by
  let reached := {x // ReflTransGen r a x}
  have hfinite : Finite reached := by
    apply Set.Finite.subset ((List.finite_toSet targets).insert a)
    intro x hx
    rcases ReflTransGen.cases_tail hx with rfl | ⟨y, -, hyx⟩
    · exact Set.mem_insert _ _
    · exact Set.mem_insert_of_mem _ (htargets y x hyx)
  let before : reached → reached → Prop := fun x y => TransGen r y.1 x.1
  have htrans : IsTrans reached before := ⟨fun _ _ _ hxy hyz => hyz.trans hxy⟩
  have hirrefl : Std.Irrefl before := ⟨fun x hx => hacyclic x.1 x.2 hx⟩
  have hwf : WellFounded before := Finite.wellFounded_of_trans_of_irrefl before
  have hacc : ∀ x : reached, Acc (flip r) x.1 := by
    intro x
    induction x using hwf.induction with
    | _ x ih => exact ⟨x.1, fun y hy => ih ⟨y, x.2.tail hy⟩ (.single hy)⟩
  exact hacc ⟨a, .refl⟩

/-- Bounds for the elements of a list have a common one. -/
theorem exists_common_bound {P : α → Nat → Prop} (xs : List α)
    (h : ∀ x ∈ xs, ∃ N, ∀ n ≥ N, P x n) : ∃ N, ∀ n ≥ N, ∀ x ∈ xs, P x n := by
  simp only [← Filter.eventually_atTop] at h ⊢
  exact (Filter.eventually_all_finite (List.finite_toSet xs)).2 h

end HakoniwaBridge.Lib
