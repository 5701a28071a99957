import Mathlib.Order.Basic
import Mathlib.Data.Nat.Find
import Mathlib.Data.List.TakeWhile
import Mathlib.Tactic.ByContra

/-!
# Nesting by indentation

Lines are numbered; `indent i` is the indentation of line `i`, `opens i` says that it opens a
block, `key i` is its name.

* `Nearest indent i j` — `j` is the nearest line before `i` of smaller indentation;
  `Outermost indent i` — there is none.
* `Nested` — each line stands in the block that its nearest line opened, and the lines of a block
  are aligned. `Stepwise` says the same of neighbouring lines (`nested_iff`).
* `outer`, `opened` — the path to the block of a line, along its nearest lines, and along those of
  them that open a block; they agree for nested lines (`Nested.opened_eq_outer`).
* `IsOpen` — **the stack rule**: a stack of open blocks from which those of no smaller indentation
  are popped, and onto which a line that opens a block is pushed, holds the path `opened` on top.
-/

namespace HakoniwaBridge.Lib.Offside

variable {κ : Type*} {indent : ℕ → ℕ} {opens : ℕ → Bool} {key : ℕ → κ} {n : ℕ}

/-- `j` is the nearest line before `i` of smaller indentation. -/
structure Nearest (indent : ℕ → ℕ) (i j : ℕ) : Prop where
  lt : j < i
  smaller : indent j < indent i
  between : ∀ k, j < k → k < i → indent i ≤ indent k

/-- No line before `i` has a smaller indentation. -/
def Outermost (indent : ℕ → ℕ) (i : ℕ) : Prop :=
  ∀ k < i, indent i ≤ indent k

/-- Each line stands in a block that its nearest line opened, and the lines of a block have one
indentation. -/
structure Nested (indent : ℕ → ℕ) (opens : ℕ → Bool) (n : ℕ) : Prop where
  opened : ∀ i < n, ∀ j, Nearest indent i j → opens j = true
  aligned : ∀ i < n, ∀ i' < n, ∀ j, Nearest indent i j → Nearest indent i' j →
    indent i = indent i'
  outermost : ∀ i < n, ∀ i' < n, Outermost indent i → Outermost indent i' → indent i = indent i'

/-- A line is deeper than the line before it only if this opens a block; and if it is less deep, it
has exactly the indentation of an earlier line, with no shallower line in between. -/
structure Stepwise (indent : ℕ → ℕ) (opens : ℕ → Bool) (n : ℕ) : Prop where
  deeper : ∀ i, i + 1 < n → indent i < indent (i + 1) → opens i = true
  back : ∀ i, i + 1 < n → indent (i + 1) < indent i →
    ∃ l < i, indent l = indent (i + 1) ∧ ∀ k, l < k → k ≤ i → indent (i + 1) ≤ indent k

/-! ## Nearest lines -/

theorem Nearest.unique {i j j' : ℕ} (h : Nearest indent i j) (h' : Nearest indent i j') :
    j = j' := by
  have hsmaller := h.smaller
  have hsmaller' := h'.smaller
  rcases Nat.lt_trichotomy j j' with hlt | heq | hlt
  · have := h.between j' hlt h'.lt
    omega
  · exact heq
  · have := h'.between j hlt h.lt
    omega

/-- A line has a nearest one, or is outermost. -/
theorem nearest_or_outermost (indent : ℕ → ℕ) (i : ℕ) :
    (∃ j, Nearest indent i j) ∨ Outermost indent i := by
  by_cases h : ∃ j < i, indent j < indent i
  · left
    have hbound : ∃ d, ∃ j, j + d + 1 = i ∧ indent j < indent i := by
      obtain ⟨j, hlt, hsmaller⟩ := h
      exact ⟨i - j - 1, j, by omega, hsmaller⟩
    classical
    obtain ⟨j, hj, hsmaller⟩ := Nat.find_spec hbound
    refine ⟨j, by omega, hsmaller, fun k hjk hki => ?_⟩
    by_contra hk
    exact Nat.find_min hbound (m := i - k - 1) (by omega) ⟨k, by omega, by omega⟩
  · right
    intro k hk
    by_contra hlt
    exact h ⟨k, hk, by omega⟩

/-- The line right after a nearest line has it as its own nearest line. -/
theorem Nearest.first {i j : ℕ} (h : Nearest indent i j) : Nearest indent (j + 1) j := by
  refine ⟨Nat.lt_succ_self j, ?_, fun k hjk hk => by omega⟩
  rcases Nat.lt_or_ge (j + 1) i with hlt | hge
  · exact h.smaller.trans_le (h.between (j + 1) (Nat.lt_succ_self j) hlt)
  · obtain rfl : i = j + 1 := by have := h.lt; omega
    exact h.smaller

theorem outermost_zero (indent : ℕ → ℕ) : Outermost indent 0 :=
  fun k hk => absurd hk (Nat.not_lt_zero k)

/-- In a stepwise list of lines, each line is aligned with the first one of its block. -/
theorem Stepwise.first (h : Stepwise indent opens n) (i : ℕ) (hi : i < n) :
    (∀ j, Nearest indent i j → indent i = indent (j + 1)) ∧
      (Outermost indent i → indent i = indent 0) := by
  induction i using Nat.strong_induction_on with
  | _ i ih =>
    cases i with
    | zero => exact ⟨fun j hj => absurd hj.lt (Nat.not_lt_zero j), fun _ => rfl⟩
    | succ i =>
      rcases Nat.lt_trichotomy (indent i) (indent (i + 1)) with hdeeper | hsame | hback
      · -- the first line of a block
        have hnear : Nearest indent (i + 1) i :=
          ⟨Nat.lt_succ_self i, hdeeper, fun k hik hk => by omega⟩
        refine ⟨fun j hj => by rw [hj.unique hnear], fun houter => ?_⟩
        have := houter i (Nat.lt_succ_self i)
        omega
      · obtain ⟨hnear, houter⟩ := ih i (Nat.lt_succ_self i) (by omega)
        refine ⟨fun j hj => ?_, fun hall => ?_⟩
        · have hne : j ≠ i := by
            rintro rfl
            have := hj.smaller
            omega
          have hsmaller := hj.smaller
          have hlt := hj.lt
          rw [← hsame]
          exact hnear j ⟨by omega, by omega,
            fun k hjk hk => hsame ▸ hj.between k hjk (by omega)⟩
        · rw [← hsame]
          exact houter fun k hk => hsame ▸ hall k (by omega)
      · -- back to the block of an earlier line
        obtain ⟨l, hl, heq, hbetween⟩ := h.back i hi hback
        obtain ⟨hnear, houter⟩ := ih l (by omega) (by omega)
        refine ⟨fun j hj => ?_, fun hall => ?_⟩
        · have hsmaller := hj.smaller
          have hjl : j < l := by
            by_contra hge
            rcases Nat.lt_or_ge l j with hlj | hlj
            · have := hbetween j hlj (by have := hj.lt; omega)
              omega
            · obtain rfl : l = j := by omega
              omega
          rw [← heq]
          exact hnear j ⟨hjl, by omega, fun k hjk hk => heq ▸ hj.between k hjk (by omega)⟩
        · rw [← heq]
          exact houter fun k hk => heq ▸ hall k (by omega)

/-- **Nesting is a matter of neighbouring lines.** -/
theorem nested_iff : Nested indent opens n ↔ Stepwise indent opens n := by
  constructor
  · rintro ⟨hopened, haligned, houtermost⟩
    refine ⟨fun i hi hdeeper => ?_, fun i hi hback => ?_⟩
    · exact hopened (i + 1) hi i ⟨Nat.lt_succ_self i, hdeeper, fun k hik hk => by omega⟩
    · -- the first line of the block has the same indentation
      rcases nearest_or_outermost indent (i + 1) with ⟨j, hj⟩ | houter
      · have hlt := hj.lt
        have hsmaller := hj.smaller
        have hfirst : indent (j + 1) = indent (i + 1) :=
          haligned (j + 1) (by omega) (i + 1) hi j hj.first hj
        have hne : j + 1 ≠ i := fun heq => by rw [heq] at hfirst; omega
        have hji : j ≠ i := fun heq => by rw [heq] at hsmaller; omega
        exact ⟨j + 1, by omega, hfirst, fun k hjk hk => hj.between k (by omega) (by omega)⟩
      · have hfirst : indent 0 = indent (i + 1) :=
          houtermost 0 (by omega) (i + 1) hi (outermost_zero indent) houter
        have hne : i ≠ 0 := fun heq => by rw [heq] at hback hfirst; omega
        exact ⟨0, by omega, hfirst, fun k _ hk => houter k (by omega)⟩
  · intro h
    refine ⟨fun i hi j hj => ?_, fun i hi i' hi' j hj hj' => ?_, fun i hi i' hi' hout hout' => ?_⟩
    · have := hj.lt
      exact h.deeper j (by omega) hj.first.smaller
    · rw [(h.first i hi).1 j hj, (h.first i' hi').1 j hj']
    · rw [(h.first i hi).2 hout, (h.first i' hi').2 hout']

/-! ## Paths -/

/-- The path to the block in which the next line of indentation `bound` stands after `m` lines: the
names of its nearest line, of the nearest line of this one, and so on. -/
def outer (indent : ℕ → ℕ) (key : ℕ → κ) (bound : ℕ) : ℕ → List κ
  | 0 => []
  | m + 1 =>
    if indent m < bound then outer indent key (indent m) m ++ [key m] else outer indent key bound m

/-- The same along the lines that open a block: the others are passed over. -/
def opened (indent : ℕ → ℕ) (opens : ℕ → Bool) (key : ℕ → κ) (bound : ℕ) : ℕ → List κ
  | 0 => []
  | m + 1 =>
    if indent m < bound then
      if opens m then opened indent opens key (indent m) m ++ [key m]
      else opened indent opens key (indent m) m
    else opened indent opens key bound m

section paths

variable (key) {bound i j m : ℕ}

/-- Lines that are not less deep are passed over. -/
theorem outer_of_le (hjm : j ≤ m) (h : ∀ k, j ≤ k → k < m → bound ≤ indent k) :
    outer indent key bound m = outer indent key bound j := by
  induction m, hjm using Nat.le_induction with
  | base => rfl
  | succ m hjm ih =>
    rw [outer, if_neg (by have := h m hjm (Nat.lt_succ_self m); omega)]
    exact ih fun k hjk hk => h k hjk (by omega)

theorem opened_of_le (hjm : j ≤ m) (h : ∀ k, j ≤ k → k < m → bound ≤ indent k) :
    opened indent opens key bound m = opened indent opens key bound j := by
  induction m, hjm using Nat.le_induction with
  | base => rfl
  | succ m hjm ih =>
    rw [opened, if_neg (by have := h m hjm (Nat.lt_succ_self m); omega)]
    exact ih fun k hjk hk => h k hjk (by omega)

/-- **A line stands below its nearest line.** -/
theorem Nearest.outer (h : Nearest indent i j) :
    outer indent key (indent i) i = outer indent key (indent j) j ++ [key j] := by
  rw [outer_of_le key (j := j + 1) (by have := h.lt; omega)
    fun k hjk hk => h.between k (by omega) hk, Offside.outer, if_pos h.smaller]

theorem Outermost.outer (h : Outermost indent i) : outer indent key (indent i) i = [] := by
  rw [outer_of_le key (j := 0) (Nat.zero_le i) fun k _ hk => h k hk, Offside.outer]

/-- The path leads to the outermost block or to one that an earlier line opened. -/
theorem opened_eq (bound m : ℕ) : opened indent opens key bound m = [] ∨
    ∃ j < m, opens j = true ∧
      opened indent opens key bound m = opened indent opens key (indent j) j ++ [key j] := by
  induction m generalizing bound with
  | zero => exact Or.inl rfl
  | succ m ih =>
    have hstep : ∀ bound, opened indent opens key bound m = [] ∨ ∃ j < m + 1, opens j = true ∧
        opened indent opens key bound m = opened indent opens key (indent j) j ++ [key j] :=
      fun bound => (ih bound).imp_right fun ⟨j, hj, hrest⟩ => ⟨j, by omega, hrest⟩
    rw [opened]
    split_ifs with hlt hopens
    · exact Or.inr ⟨m, Nat.lt_succ_self m, hopens, rfl⟩
    · exact hstep (indent m)
    · exact hstep bound

/-- In nested lines, the nearest lines are those that opened a block. -/
theorem Nested.opened_eq_outer (h : Nested indent opens n) (hi : i < n) :
    Offside.opened indent opens key (indent i) i = Offside.outer indent key (indent i) i := by
  induction i using Nat.strong_induction_on with
  | _ i ih =>
    rcases nearest_or_outermost indent i with ⟨j, hj⟩ | houter
    · have hlt := hj.lt
      rw [hj.outer, ← ih j hlt (by omega), opened_of_le key (j := j + 1) (by omega)
        fun k hjk hk => hj.between k (by omega) hk, Offside.opened, if_pos hj.smaller,
        if_pos (h.opened i hi j hj)]
    · rw [houter.outer, opened_of_le key (j := 0) (Nat.zero_le i) fun k _ hk => houter k hk,
        Offside.opened]

end paths

/-! ## The stack -/

/-- The blocks that are open for a next line of indentation `bound` after `m` lines, the innermost
one first, each with its indentation and its path. The outermost block has indentation `-1`. -/
def openStack (indent : ℕ → ℕ) (opens : ℕ → Bool) (key : ℕ → κ) (bound : ℕ) :
    ℕ → List (ℤ × List κ)
  | 0 => [(-1, [])]
  | m + 1 =>
    if indent m < bound then
      if opens m then
        (indent m, opened indent opens key (indent m) m ++ [key m]) ::
          openStack indent opens key (indent m) m
      else openStack indent opens key (indent m) m
    else openStack indent opens key bound m

/-- Popping the blocks of no smaller indentation off a stack leaves the open ones. -/
def IsOpen (indent : ℕ → ℕ) (opens : ℕ → Bool) (key : ℕ → κ) (stack : List (ℤ × List κ))
    (m : ℕ) : Prop :=
  ∀ bound : ℕ, stack.dropWhile (fun entry => decide ((bound : ℤ) ≤ entry.1)) =
    openStack indent opens key bound m

/-- The innermost open block is the one that `opened` leads to. -/
theorem exists_openStack (bound m : ℕ) : ∃ d below,
    openStack indent opens key bound m = (d, opened indent opens key bound m) :: below := by
  induction m generalizing bound with
  | zero => exact ⟨-1, [], rfl⟩
  | succ m ih =>
    rw [openStack, opened]
    split_ifs
    · exact ⟨_, _, rfl⟩
    · exact ih (indent m)
    · exact ih bound

/-- Open blocks are less deep than the line they are open for. -/
theorem lt_of_mem_openStack {bound m : ℕ} {entry : ℤ × List κ}
    (h : entry ∈ openStack indent opens key bound m) : entry.1 < bound := by
  induction m generalizing bound with
  | zero =>
    rw [openStack, List.mem_singleton] at h
    subst h
    dsimp only
    omega
  | succ m ih =>
    unfold openStack at h
    split_ifs at h with hlt hopens
    · rcases List.mem_cons.1 h with rfl | h
      · dsimp only
        omega
      · have := ih h
        omega
    · have := ih h
      omega
    · exact ih h

/-- What a weaker condition drops, it also drops after a stronger one. -/
theorem dropWhile_dropWhile {α : Type*} {p q : α → Bool} (h : ∀ a, p a = true → q a = true)
    (l : List α) : (l.dropWhile p).dropWhile q = l.dropWhile q := by
  induction l with
  | nil => rfl
  | cons a l ih =>
    by_cases hp : p a = true
    · rw [List.dropWhile_cons_of_pos hp, List.dropWhile_cons_of_pos (h a hp), ih]
    · rw [List.dropWhile_cons_of_neg hp]

/-- At first the outermost block is open. -/
theorem isOpen_zero : IsOpen indent opens key [(-1, [])] 0 := by
  intro bound
  rw [List.dropWhile_cons_of_neg (by simp; omega)]
  rfl

/-- **The stack rule.** For a line, the blocks of no smaller indentation are popped; then the line
is pushed, if it opens a block. -/
theorem IsOpen.push {stack : List (ℤ × List κ)} {m : ℕ} (h : IsOpen indent opens key stack m) :
    IsOpen indent opens key
      (if opens m then
        ((indent m : ℤ), opened indent opens key (indent m) m ++ [key m]) ::
          stack.dropWhile fun entry => decide ((indent m : ℤ) ≤ entry.1)
      else stack.dropWhile fun entry => decide ((indent m : ℤ) ≤ entry.1)) (m + 1) := by
  intro bound
  unfold openStack
  by_cases hlt : indent m < bound
  · -- nothing of what is open for line `m` is popped
    rw [if_pos hlt, h (indent m)]
    have hkeep : (openStack indent opens key (indent m) m).dropWhile
        (fun entry => decide ((bound : ℤ) ≤ entry.1)) =
        openStack indent opens key (indent m) m := by
      apply List.dropWhile_eq_self_iff.2
      intro hlen
      have := lt_of_mem_openStack (List.getElem_mem hlen)
      simp only [decide_eq_true_eq]
      omega
    split_ifs
    · rw [List.dropWhile_cons_of_neg (by simp; omega)]
    · exact hkeep
  · -- line `m` and all that it left are popped by the larger bound already
    rw [if_neg hlt, ← h bound]
    have hpop : (stack.dropWhile fun entry => decide ((indent m : ℤ) ≤ entry.1)).dropWhile
        (fun entry => decide ((bound : ℤ) ≤ entry.1)) =
        stack.dropWhile fun entry => decide ((bound : ℤ) ≤ entry.1) := by
      apply dropWhile_dropWhile
      intro entry
      simp only [decide_eq_true_eq]
      omega
    split_ifs
    · rw [List.dropWhile_cons_of_pos (by simp; omega), hpop]
    · exact hpop

end HakoniwaBridge.Lib.Offside
