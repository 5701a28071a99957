import Mathlib.Data.List.Basic

/-!
# Cutting a list behind its ends

A list cut into the pieces that end with an element of a given kind, and what is left behind the
last of them. Everything here is over arbitrary types.

* `Cut` — a cut: the pieces and the rest. `cut` computes it (`cut_spec`).
* `exists_first` — the first element without a property.
* `cut_append_end`, `cut_open` — the cut of a list that begins with a whole piece, or has none.
-/

namespace HakoniwaBridge.Lib

variable {α : Type*} {ends : α → Bool}

/-- The first element that has not a property. -/
theorem exists_first {P : α → Prop} {l : List α} (h : ¬ ∀ x ∈ l, P x) :
    ∃ before x after, l = before ++ x :: after ∧ (∀ y ∈ before, P y) ∧ ¬ P x := by
  induction l with
  | nil => exact absurd (List.forall_mem_nil P) h
  | cons x l ih =>
    by_cases hx : P x
    · obtain ⟨before, y, after, rfl, hbefore, hy⟩ :=
        ih fun hl => h (List.forall_mem_cons.2 ⟨hx, hl⟩)
      exact ⟨x :: before, y, after, rfl, List.forall_mem_cons.2 ⟨hx, hbefore⟩, hy⟩
    · exact ⟨[], x, l, rfl, List.forall_mem_nil P, hx⟩

/-- The pieces of a list, each with its end as the last element, and the rest without an end. -/
structure Cut (ends : α → Bool) (l : List α) (pieces : List (List α)) (rest : List α) : Prop where
  flatten : pieces.flatten ++ rest = l
  piece : ∀ p ∈ pieces, ∃ q a, p = q ++ [a] ∧ ends a = true ∧ ∀ x ∈ q, ends x = false
  «open» : ∀ x ∈ rest, ends x = false

/-- The pieces, and the rest. -/
def cut (ends : α → Bool) : List α → List (List α) × List α
  | [] => ([], [])
  | a :: l =>
    if ends a then ([a] :: (cut ends l).1, (cut ends l).2)
    else match (cut ends l).1 with
      | [] => ([], a :: (cut ends l).2)
      | p :: ps => ((a :: p) :: ps, (cut ends l).2)

@[simp] theorem cut_nil : cut ends [] = ([], []) := rfl

theorem cut_open {l : List α} (h : ∀ x ∈ l, ends x = false) : cut ends l = ([], l) := by
  induction l with
  | nil => rfl
  | cons a l ih =>
    rw [List.forall_mem_cons] at h
    rw [cut, ih h.2, if_neg (by simp [h.1])]

/-- A piece at the front is cut off. -/
theorem cut_append_end {q : List α} {a : α} (hq : ∀ x ∈ q, ends x = false) (ha : ends a = true)
    (l : List α) : cut ends (q ++ a :: l) = ((q ++ [a]) :: (cut ends l).1, (cut ends l).2) := by
  induction q with
  | nil => rw [List.nil_append, cut, if_pos ha]; rfl
  | cons b q ih =>
    rw [List.forall_mem_cons] at hq
    rw [List.cons_append, cut, ih hq.2, if_neg (by simp [hq.1])]
    rfl

theorem cut_spec (ends : α → Bool) (l : List α) : Cut ends l (cut ends l).1 (cut ends l).2 := by
  induction l with
  | nil => exact ⟨rfl, nofun, nofun⟩
  | cons a l ih =>
    rw [cut]
    by_cases ha : ends a = true
    · rw [if_pos ha]
      refine ⟨by simpa using ih.flatten, List.forall_mem_cons.2 ⟨?_, ih.piece⟩, ih.open⟩
      exact ⟨[], a, rfl, ha, nofun⟩
    · have ha' : ends a = false := by simpa using ha
      rw [if_neg ha]
      obtain ⟨hflatten, hpiece, hopen⟩ := ih
      cases hcut : (cut ends l).1 with
      | nil =>
        rw [hcut] at hflatten
        exact ⟨by simpa using hflatten, nofun, List.forall_mem_cons.2 ⟨ha', hopen⟩⟩
      | cons p ps =>
        rw [hcut] at hflatten hpiece
        rw [List.forall_mem_cons] at hpiece
        obtain ⟨⟨q, b, rfl, hb, hq⟩, hpieces⟩ := hpiece
        refine ⟨by simpa using hflatten, List.forall_mem_cons.2 ⟨?_, hpieces⟩, hopen⟩
        exact ⟨a :: q, b, rfl, hb, List.forall_mem_cons.2 ⟨ha', hq⟩⟩

end HakoniwaBridge.Lib
