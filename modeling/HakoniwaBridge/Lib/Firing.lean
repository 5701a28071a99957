import Mathlib.Data.List.Basic
import Mathlib.Data.List.Induction
import Mathlib.Order.Bounds.Basic

/-!
# Histories of a device that fires now and then

A history is the list of the entries so far; `fired` tells the entries at which the device fired.

* `firings`, `lastFiring`, `sinceFiring` — the entries that fired, the last of them, and the
  entries after it.
* `Each Q L` — every entry of `L` meets `Q`, given the entries before it; `each_concat` adds one
  entry.
* `greatest_rounds` — **counting rounds**: a device that fires just when the entries since the last
  firing are a complete round has fired as often as the history can be cut into complete rounds.
-/

namespace HakoniwaBridge.Lib

variable {α : Type*}

section

variable (fired : α → Bool)

/-- The entries that fired. -/
def firings (L : List α) : List α := L.filter fired

/-- The last entry that fired. -/
def lastFiring (L : List α) : Option α := (firings fired L).getLast?

/-- The entries after the last one that fired. -/
def sinceFiring (L : List α) : List α :=
  L.foldl (fun acc a => if fired a then [] else acc ++ [a]) []

@[simp] theorem firings_nil : firings fired [] = [] := rfl

@[simp] theorem lastFiring_nil : lastFiring fired [] = none := rfl

@[simp] theorem sinceFiring_nil : sinceFiring fired [] = [] := rfl

variable {fired} {L : List α} {a : α}

/-- A new last entry that fires is a firing. -/
theorem firings_concat_of_fired (h : fired a = true) :
    firings fired (L ++ [a]) = firings fired L ++ [a] := by
  simp [firings, h]

theorem firings_concat_of_not (h : fired a = false) :
    firings fired (L ++ [a]) = firings fired L := by
  simp [firings, h]

/-- A new last entry that fires is the last firing. -/
theorem lastFiring_concat_of_fired (h : fired a = true) :
    lastFiring fired (L ++ [a]) = some a := by
  rw [lastFiring, firings_concat_of_fired h, List.getLast?_concat]

theorem lastFiring_concat_of_not (h : fired a = false) :
    lastFiring fired (L ++ [a]) = lastFiring fired L := by
  rw [lastFiring, firings_concat_of_not h, lastFiring]

/-- Nothing is behind a last entry that fires. -/
theorem sinceFiring_concat_of_fired (h : fired a = true) : sinceFiring fired (L ++ [a]) = [] := by
  rw [sinceFiring, List.foldl_append]
  exact if_pos h

/-- An entry that does not fire is behind the last firing. -/
theorem sinceFiring_concat_of_not (h : fired a = false) :
    sinceFiring fired (L ++ [a]) = sinceFiring fired L ++ [a] := by
  rw [sinceFiring, List.foldl_append]
  exact if_neg (by simp [h])

theorem mem_of_sinceFiring (h : a ∈ sinceFiring fired L) : a ∈ L := by
  induction L using List.reverseRecOn with
  | nil => exact h
  | append_singleton L last ih =>
    cases hfired : fired last with
    | true =>
      rw [sinceFiring_concat_of_fired hfired] at h
      exact absurd h List.not_mem_nil
    | false =>
      rw [sinceFiring_concat_of_not hfired] at h
      rcases List.mem_append.1 h with h | h
      · exact List.mem_append_left _ (ih h)
      · exact List.mem_append_right _ h

/-- The last firing is an entry, and it fired. -/
theorem mem_of_lastFiring (h : lastFiring fired L = some a) : a ∈ L ∧ fired a = true := by
  have hmem := List.mem_of_getLast? h
  exact List.mem_filter.1 hmem

end

/-! ## Each entry in its history -/

/-- Every entry meets `Q`, given the entries before it. -/
def Each (Q : List α → α → Prop) (L : List α) : Prop :=
  ∀ pre a post, L = pre ++ a :: post → Q pre a

variable {Q R : List α → α → Prop} {L M : List α} {a : α}

theorem each_nil : Each Q [] := fun _ _ _ h => absurd h (by simp)

/-- A property of every entry and what is before it, at a new last entry. -/
theorem each_concat : Each Q (L ++ [a]) ↔ Each Q L ∧ Q L a := by
  constructor
  · intro h
    refine ⟨fun pre b post hL => ?_, h L a [] rfl⟩
    apply h pre b (post ++ [a])
    rw [hL, List.append_assoc]
    rfl
  · rintro ⟨hL, ha⟩ pre b post heq
    rcases List.eq_nil_or_concat post with rfl | ⟨post', c, rfl⟩
    · obtain ⟨rfl, hab⟩ := List.append_inj' heq rfl
      cases hab
      exact ha
    · rw [List.concat_eq_append, ← List.cons_append, ← List.append_assoc] at heq
      exact hL pre b post' (List.append_inj' heq rfl).1

theorem Each.imp (h : Each Q L) (himp : ∀ pre a, Q pre a → R pre a) : Each R L :=
  fun pre a post hL => himp pre a (h pre a post hL)

/-- The entries of a beginning have the same history. -/
theorem Each.of_append (h : Each Q (L ++ M)) : Each Q L := by
  intro pre a post hL
  apply h pre a (post ++ M)
  rw [hL, List.append_assoc]
  rfl

/-- What holds between each firing and the last one before it, holds between any two. -/
theorem pairwise_firings {fired : α → Bool} {R : α → α → Prop}
    (htrans : ∀ a b c, R a b → R b c → R a c)
    (h : Each (fun pre a => fired a = true → ∀ l ∈ lastFiring fired pre, R l a) L) :
    (firings fired L).Pairwise R := by
  induction L using List.reverseRecOn with
  | nil => exact .nil
  | append_singleton L a ih =>
    obtain ⟨hL, ha⟩ := each_concat.1 h
    have hpairs := ih hL
    cases hfired : fired a with
    | false =>
      rw [firings_concat_of_not hfired]
      exact hpairs
    | true =>
      rw [firings_concat_of_fired hfired]
      apply List.pairwise_append.2 ⟨hpairs, List.pairwise_singleton R a, fun b hb c hc => ?_⟩
      rw [List.mem_singleton.1 hc]
      rcases List.eq_nil_or_concat (firings fired L) with hnil | ⟨init, l, hinit⟩
      · rw [hnil] at hb
        cases hb
      · rw [List.concat_eq_append] at hinit
        have hlast : lastFiring fired L = some l := by
          rw [lastFiring, hinit, List.getLast?_concat]
        have hla := ha hfired l hlast
        rw [hinit] at hb hpairs
        rcases List.mem_append.1 hb with hb | hb
        · have hbl := (List.pairwise_append.1 hpairs).2.2 b hb l (List.mem_singleton_self l)
          exact htrans b l a hbl hla
        · rw [List.mem_singleton.1 hb]
          exact hla

/-! ## Rounds -/

section rounds

variable {fired : α → Bool} {complete : List α → Prop}

/-- In a complete block of the history the device fires. -/
theorem exists_fired_of_complete (hnil : ¬ complete [])
    (hmono : ∀ xs ys, complete ys → complete (xs ++ ys))
    (h : Each (fun pre a => fired a = true ↔ complete (sinceFiring fired pre ++ [a])) (L ++ M))
    (hM : complete M) : ∃ a ∈ M, fired a = true := by
  by_contra hnone
  have hquiet : ∀ a ∈ M, fired a = false := fun a ha =>
    Bool.eq_false_iff.2 fun hfired => hnone ⟨a, ha, hfired⟩
  -- without a firing, all of the block is still pending
  have hsince : ∀ N, (∀ a ∈ N, fired a = false) →
      sinceFiring fired (L ++ N) = sinceFiring fired L ++ N := by
    intro N
    induction N using List.reverseRecOn with
    | nil => simp
    | append_singleton N a ih =>
      intro hN
      have ha := hN a (by simp)
      rw [← List.append_assoc, sinceFiring_concat_of_not ha,
        ih fun b hb => hN b (List.mem_append_left _ hb), List.append_assoc]
  rcases List.eq_nil_or_concat M with rfl | ⟨N, a, rfl⟩
  · exact hnil hM
  · rw [List.concat_eq_append] at h hM hquiet
    have hfires := (h (L ++ N) a [] (by simp)).2
    rw [hsince N fun b hb => hquiet b (List.mem_append_left _ hb), List.append_assoc] at hfires
    have hquiet' := hquiet a (by simp)
    rw [hfires (hmono _ _ hM)] at hquiet'
    cases hquiet'

/-- There are at most as many complete blocks as firings. -/
theorem length_le_firings (hnil : ¬ complete [])
    (hmono : ∀ xs ys, complete ys → complete (xs ++ ys)) {blocks : List (List α)}
    (hblocks : ∀ b ∈ blocks, complete b) {rest : List α}
    (h : Each (fun pre a => fired a = true ↔ complete (sinceFiring fired pre ++ [a]))
      (L ++ blocks.flatten ++ rest)) :
    blocks.length ≤ (firings fired (blocks.flatten ++ rest)).length := by
  induction blocks generalizing L with
  | nil => simp
  | cons b blocks ih =>
    rw [List.flatten_cons, ← List.append_assoc] at h
    have hrest := ih (fun b' hb' => hblocks b' (List.mem_cons_of_mem _ hb')) h
    have hfirst : Each (fun pre a => fired a = true ↔
        complete (sinceFiring fired pre ++ [a])) (L ++ b) := by
      rw [List.append_assoc] at h
      exact h.of_append
    obtain ⟨a, ha, hfired⟩ :=
      exists_fired_of_complete hnil hmono hfirst (hblocks b List.mem_cons_self)
    have hpos : 0 < (firings fired b).length :=
      List.length_pos_of_mem (List.mem_filter.2 ⟨ha, hfired⟩)
    have hsplit : firings fired ((b :: blocks).flatten ++ rest) =
        firings fired b ++ firings fired (blocks.flatten ++ rest) := by
      simp [firings]
    rw [hsplit, List.length_append, List.length_cons]
    omega

/-- The firings cut the history into complete blocks. -/
theorem exists_blocks
    (h : Each (fun pre a => fired a = true ↔ complete (sinceFiring fired pre ++ [a])) L) :
    ∃ blocks : List (List α), L = blocks.flatten ++ sinceFiring fired L ∧
      blocks.length = (firings fired L).length ∧ ∀ b ∈ blocks, complete b := by
  induction L using List.reverseRecOn with
  | nil => exact ⟨[], rfl, rfl, by simp⟩
  | append_singleton L a ih =>
    obtain ⟨hL, ha⟩ := each_concat.1 h
    obtain ⟨blocks, hcut, hlen, hcomplete⟩ := ih hL
    cases hfired : fired a with
    | true =>
      refine ⟨blocks ++ [sinceFiring fired L ++ [a]], ?_, ?_, fun b hb => ?_⟩
      · rw [sinceFiring_concat_of_fired hfired, List.flatten_append, List.append_nil,
          List.flatten_singleton, ← List.append_assoc, ← hcut]
      · rw [firings_concat_of_fired hfired, List.length_append, List.length_append, hlen]
        rfl
      · rcases List.mem_append.1 hb with hb | hb
        · exact hcomplete b hb
        · rw [List.mem_singleton.1 hb]
          exact ha.1 hfired
    | false =>
      refine ⟨blocks, ?_, ?_, hcomplete⟩
      · rw [sinceFiring_concat_of_not hfired, ← List.append_assoc, ← hcut]
      · rw [firings_concat_of_not hfired, hlen]

/-- **Counting rounds.** -/
theorem greatest_rounds (hnil : ¬ complete [])
    (hmono : ∀ xs ys, complete ys → complete (xs ++ ys))
    (h : Each (fun pre a => fired a = true ↔ complete (sinceFiring fired pre ++ [a])) L) :
    IsGreatest {n | ∃ (blocks : List (List α)) (rest : List α), L = blocks.flatten ++ rest ∧
      blocks.length = n ∧ ∀ b ∈ blocks, complete b} (firings fired L).length := by
  constructor
  · obtain ⟨blocks, hcut, hlen, hcomplete⟩ := exists_blocks h
    exact ⟨blocks, sinceFiring fired L, hcut, hlen, hcomplete⟩
  · rintro n ⟨blocks, rest, rfl, rfl, hcomplete⟩
    exact @length_le_firings _ [] _ _ hnil hmono blocks hcomplete rest h

end rounds

end HakoniwaBridge.Lib
