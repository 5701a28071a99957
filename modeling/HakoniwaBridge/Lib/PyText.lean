import HakoniwaBridge.Lib.PyString
import Mathlib.Algebra.Group.Nat.Defs

/-!
# Text that Python writes

What `"\n".join(lines)` and `str(n)` write, and how it is read again.

* `joinLines` — `"\n".join(lines)`; `splitlines_joinLines`: lines without breaks in them are split
  again; `rstrip_joinLines`: `rstrip` takes the empty lines at the end.
* `splitlinesFrom_newline` — every text is split at its newlines; `unbroken_splitlines`: no break
  is left.
* `int?_toString` — **`int` reads back what `str` writes**; `digitCount_of_int?`: and what `int`
  reads can be written.
-/

namespace HakoniwaBridge.Lib.PyStr

/-- `"\n".join(lines)`. -/
def joinLines (lines : List PyStr) : PyStr := List.intercalate [cp '\n'] lines

@[simp] theorem joinLines_nil : joinLines [] = [] := rfl

@[simp] theorem joinLines_singleton (line : PyStr) : joinLines [line] = line :=
  List.intercalate_singleton

theorem joinLines_cons {lines : List PyStr} (h : lines ≠ []) (line : PyStr) :
    joinLines (line :: lines) = line ++ cp '\n' :: joinLines lines := by
  cases lines with
  | nil => exact absurd rfl h
  | cons second lines => simp [joinLines, List.intercalate_cons_cons]

theorem joinLines_append {xs ys : List PyStr} (hx : xs ≠ []) (hy : ys ≠ []) :
    joinLines (xs ++ ys) = joinLines xs ++ cp '\n' :: joinLines ys := by
  induction xs with
  | nil => exact absurd rfl hx
  | cons x xs ih =>
    by_cases hxs : xs = []
    · rw [hxs, List.singleton_append, joinLines_cons hy, joinLines_singleton]
    · rw [List.cons_append, joinLines_cons (by simp [hxs]), joinLines_cons hxs, ih hxs,
        List.append_assoc, List.cons_append]

/-- The lines of a part can be joined before the others. -/
theorem joinLines_part {part : List PyStr} (hpart : part ≠ []) {xs ys : List PyStr}
    (hnil : xs = [] ↔ ys = []) (h : joinLines xs = joinLines ys) :
    joinLines (joinLines part :: xs) = joinLines (part ++ ys) := by
  by_cases hx : xs = []
  · rw [hx, hnil.1 hx, List.append_nil, joinLines_singleton]
  · rw [joinLines_cons hx, joinLines_append hpart (hx ∘ hnil.2), h]

/-! ## Splitting -/

/-- A text is split at a newline. -/
theorem splitlinesFrom_newline (line text rest : PyStr) :
    splitlinesFrom line (text ++ cp '\n' :: rest) =
      splitlinesFrom line (text ++ [cp '\n']) ++ splitlinesFrom [] rest := by
  have hone : ∀ line, splitlinesFrom line (cp '\n' :: rest) =
      splitlinesFrom line [cp '\n'] ++ splitlinesFrom [] rest := by
    intro line
    cases rest with
    | nil => simp [splitlinesFrom]
    | cons c rest =>
      have hbreak : isLineBreak (cp '\n') = true := rfl
      rw [splitlinesFrom.eq_3, if_neg (by simp), if_pos hbreak, splitlinesFrom.eq_2, if_pos hbreak,
        List.singleton_append]
  induction text using List.twoStepInduction generalizing line with
  | nil => exact hone line
  | singleton c =>
    simp only [List.singleton_append]
    rw [splitlinesFrom.eq_3, splitlinesFrom.eq_3]
    split_ifs with hcrlf hbreak
    · rfl
    · rw [hone, List.cons_append]
    · exact hone _
  | cons_cons c d text ih ih' =>
    simp only [List.cons_append] at ih' ⊢
    rw [splitlinesFrom.eq_3, splitlinesFrom.eq_3]
    split_ifs with hcrlf hbreak
    · rw [ih, List.cons_append]
    · rw [ih' d, List.cons_append]
    · exact ih' d _

/-- Up to a line break, everything is of the current line. -/
theorem splitlinesFrom_append {text : PyStr} (h : ∀ c ∈ text, isLineBreak c = false)
    (line rest : PyStr) : splitlinesFrom line (text ++ rest) =
      splitlinesFrom (line ++ text) rest := by
  induction text generalizing line with
  | nil => simp
  | cons c text ih =>
    rw [List.forall_mem_cons] at h
    have hreturn : c ≠ cp '\r' := by
      rintro rfl
      exact absurd h.1 (by decide)
    have hstep : splitlinesFrom line (c :: (text ++ rest)) =
        splitlinesFrom (line ++ [c]) (text ++ rest) := by
      cases text ++ rest with
      | nil => simp [splitlinesFrom, h.1]
      | cons d more =>
        rw [splitlinesFrom.eq_3, if_neg fun hcrlf => hreturn hcrlf.1, if_neg (by simp [h.1])]
    rw [List.cons_append, hstep, ih h.2, List.append_assoc, List.singleton_append]

theorem splitlinesFrom_unbroken_newline {text : PyStr} (h : ∀ c ∈ text, isLineBreak c = false)
    (line : PyStr) : splitlinesFrom line (text ++ [cp '\n']) = [line ++ text] := by
  rw [splitlinesFrom_append h]
  simp [splitlinesFrom, isLineBreak, cp]

/-- Lines without breaks in them, joined and ended by a newline, are split again. -/
theorem splitlines_joinLines {lines : List PyStr} (hne : lines ≠ [])
    (h : ∀ line ∈ lines, ∀ c ∈ line, isLineBreak c = false) :
    splitlines (joinLines lines ++ [cp '\n']) = lines := by
  unfold splitlines
  induction lines with
  | nil => exact absurd rfl hne
  | cons line lines ih =>
    rw [List.forall_mem_cons] at h
    by_cases hlines : lines = []
    · rw [hlines, joinLines_singleton, splitlinesFrom_unbroken_newline h.1, List.nil_append]
    · rw [joinLines_cons hlines, List.append_assoc, List.cons_append, splitlinesFrom_newline,
        splitlinesFrom_unbroken_newline h.1, ih hlines h.2, List.nil_append, List.singleton_append]

/-- A text that is broken at a character. -/
theorem splitlinesFrom_break {a : PyStr} (ha : ∀ c ∈ a, isLineBreak c = false) {c : CodePoint}
    (hc : isLineBreak c = true) (line b : PyStr) :
    ∃ lines, splitlinesFrom line (a ++ c :: b) = (line ++ a) :: lines := by
  rw [splitlinesFrom_append ha]
  cases b with
  | nil => exact ⟨[], by rw [splitlinesFrom, if_pos hc]⟩
  | cons d b =>
    rw [splitlinesFrom.eq_3]
    split_ifs
    · exact ⟨_, rfl⟩
    · exact ⟨_, rfl⟩

/-- The first lines, up to the first break in one of them. -/
theorem splitlines_break {before : List PyStr}
    (h : ∀ line ∈ before, ∀ c ∈ line, isLineBreak c = false) {a : PyStr}
    (ha : ∀ c ∈ a, isLineBreak c = false) {c : CodePoint} (hc : isLineBreak c = true)
    (b : PyStr) (after : List PyStr) :
    ∃ lines,
      splitlines (joinLines (before ++ (a ++ c :: b) :: after) ++ [cp '\n']) =
        before ++ a :: lines := by
  unfold splitlines
  induction before with
  | nil =>
    by_cases hafter : after = []
    · rw [hafter, List.nil_append, joinLines_singleton, List.append_assoc, List.cons_append]
      exact splitlinesFrom_break ha hc [] _
    · rw [List.nil_append, joinLines_cons hafter]
      simp only [List.append_assoc, List.cons_append]
      exact splitlinesFrom_break ha hc [] _
  | cons line before ih =>
    obtain ⟨hline, hrest⟩ := List.forall_mem_cons.1 h
    obtain ⟨lines, hlines⟩ := ih hrest
    refine ⟨lines, ?_⟩
    rw [List.cons_append, joinLines_cons (by simp), List.append_assoc, List.cons_append,
      splitlinesFrom_newline, splitlinesFrom_unbroken_newline hline, hlines, List.nil_append,
      List.singleton_append, List.cons_append]

/-- What was read of a line begins it. -/
theorem exists_splitlinesFrom {line : PyStr} (hline : line ≠ []) (text : PyStr) :
    ∃ tail lines, splitlinesFrom line text = (line ++ tail) :: lines := by
  fun_induction splitlinesFrom line text with
  | case1 => exact absurd rfl hline
  | case2 line _ => exact ⟨[], [], by simp⟩
  | case3 line c _ => exact ⟨[], [], by simp⟩
  | case4 line c _ => exact ⟨[c], [], rfl⟩
  | case5 line c d text _ _ => exact ⟨[], _, by rw [List.append_nil]⟩
  | case6 line c d text _ _ _ => exact ⟨[], _, by rw [List.append_nil]⟩
  | case7 line c d text _ _ ih =>
    obtain ⟨tail, lines, heq⟩ := ih (by simp)
    exact ⟨c :: tail, lines, by rw [heq]; simp⟩

theorem unbroken_concat {line : PyStr} (hline : ∀ c ∈ line, isLineBreak c = false) {c : CodePoint}
    (hc : ¬ isLineBreak c = true) : ∀ d ∈ line ++ [c], isLineBreak d = false :=
  List.forall_mem_append.2 ⟨hline, List.forall_mem_singleton.2 (by simpa using hc)⟩

theorem unbroken_splitlinesFrom {line : PyStr} (hline : ∀ c ∈ line, isLineBreak c = false)
    (text : PyStr) : ∀ l ∈ splitlinesFrom line text, ∀ c ∈ l, isLineBreak c = false := by
  fun_induction splitlinesFrom line text with
  | case1 => exact List.forall_mem_nil _
  | case2 line _ => exact List.forall_mem_singleton.2 hline
  | case3 line c _ => exact List.forall_mem_singleton.2 hline
  | case4 line c hc => exact List.forall_mem_singleton.2 (unbroken_concat hline hc)
  | case5 line c d text _ ih => exact List.forall_mem_cons.2 ⟨hline, ih (List.forall_mem_nil _)⟩
  | case6 line c d text _ _ ih => exact List.forall_mem_cons.2 ⟨hline, ih (List.forall_mem_nil _)⟩
  | case7 line c d text _ hc ih => exact ih (unbroken_concat hline hc)

/-- No line has a break in it. -/
theorem unbroken_splitlines {text line : PyStr} (h : line ∈ splitlines text) :
    ∀ c ∈ line, isLineBreak c = false :=
  unbroken_splitlinesFrom (List.forall_mem_nil _) text line h

/-! ## The end of a text -/

theorem rstrip_concat {c : CodePoint} (hspace : isspace c = true) (s : PyStr) :
    rstrip (s ++ [c]) = rstrip s := by
  rw [rstrip, List.rdropWhile_concat_pos _ _ _ hspace, rstrip]

/-- `rstrip` takes the empty lines at the end, where no other line ends with a blank. -/
theorem rstrip_joinLines {lines : List PyStr} (h : ∀ line ∈ lines, rstrip line = line) :
    rstrip (joinLines lines ++ [cp '\n']) = joinLines (lines.rdropWhile (· = [])) := by
  induction lines using List.reverseRecOn with
  | nil => rfl
  | append_singleton lines line ih =>
    have hinit := ih fun l hl => h l (List.mem_append_left _ hl)
    rw [rstrip_concat rfl]
    by_cases hline : line = []
    · subst hline
      rw [List.rdropWhile_concat_pos _ _ _ (by simp), ← hinit]
      by_cases hlines : lines = []
      · rw [hlines]
        rfl
      · rw [joinLines_append hlines (by simp), joinLines_singleton]
    · have hlast := h line (by simp)
      rw [rstrip, List.rdropWhile_eq_self_iff] at hlast
      obtain ⟨front, last, rfl⟩ := (List.eq_nil_or_concat' line).resolve_left hline
      rw [List.rdropWhile_concat_neg _ _ _ (by simp)]
      have hspace : isspace last = false := by simpa using hlast (by simp)
      by_cases hlines : lines = []
      · rw [hlines, List.nil_append, joinLines_singleton, rstrip_append_cons hspace]
        rfl
      · rw [joinLines_append hlines (by simp), joinLines_singleton, ← List.cons_append,
          ← List.append_assoc, rstrip_append_cons hspace]
        rfl

/-! ## Numerals -/

theorem decimal?_of_isDigit {c : Char} (h : c.isDigit) :
    decimal? (cp c) = some (c.toNat - '0'.toNat) := by
  have hrange : 0x30 ≤ c.toNat ∧ c.toNat < 0x30 + 10 := by
    simp only [Char.isDigit, Bool.and_eq_true, decide_eq_true_eq, ge_iff_le, UInt32.le_iff_toNat_le]
      at h
    exact ⟨h.1, Nat.lt_succ_of_le h.2⟩
  rw [decimal?, decimalZeros, List.find?_cons_of_pos (by simp [cp, hrange])]
  rfl

theorem digitsFrom_of_isDigit {cs : List Char} (h : ∀ c ∈ cs, c.isDigit) :
    digitsFrom (cs.map cp) = some (cs.map fun c => c.toNat - '0'.toNat) := by
  induction cs with
  | nil => rfl
  | cons c cs ih =>
    rw [List.forall_mem_cons] at h
    rw [List.map_cons, digitsFrom.eq_def]
    dsimp only
    rw [decimal?_of_isDigit h.1]
    simp [ih h.2]

/-- Digits are read as the number that they denote. -/
theorem nat?_of_isDigit {cs : List Char} (hne : cs ≠ []) (h : ∀ c ∈ cs, c.isDigit)
    (hlength : cs.length ≤ 4300) : nat? (cs.map cp) = some (Nat.ofDigitChars 10 cs 0) := by
  cases cs with
  | nil => exact absurd rfl hne
  | cons c cs =>
    have hdigits := List.forall_mem_cons.1 h
    rw [List.map_cons, nat?, decimal?_of_isDigit hdigits.1, digitsFrom_of_isDigit hdigits.2]
    dsimp only
    rw [if_pos (by simpa using hlength), List.foldl_cons, List.foldl_map, Nat.ofDigitChars,
      List.foldl_cons]

/-- The decimal digits of a number. -/
def digitCount (n : ℕ) : ℕ := (Nat.toDigits 10 n).length

theorem nat?_toDigits {n : ℕ} (h : digitCount n ≤ 4300) :
    nat? ((Nat.toDigits 10 n).map cp) = some n := by
  rw [nat?_of_isDigit Nat.toDigits_ne_nil
    (fun c hc => Nat.isDigit_of_mem_toDigits (by decide) (by decide) hc) h,
    Nat.ofDigitChars_ten_toDigits]

/-- What `str` writes for an integer. -/
theorem py_toString (n : ℤ) : py (toString n) =
    (if n < 0 then [cp '-'] else []) ++ (Nat.toDigits 10 n.natAbs).map cp := by
  cases n with
  | ofNat n =>
    rw [if_neg (by simp), Int.natAbs_ofNat', py, ← Nat.toList_repr]
    rfl
  | negSucc n =>
    rw [if_pos (Int.negSucc_lt_zero n), Int.natAbs_negSucc, py, ← Nat.toList_repr]
    simp [toString, Int.repr]

theorem toDigits_range {n : ℕ} {c : CodePoint} (h : c ∈ (Nat.toDigits 10 n).map cp) :
    0x30 ≤ c.val ∧ c.val ≤ 0x39 := by
  obtain ⟨d, hd, rfl⟩ := List.mem_map.1 h
  have hdigit : d.isDigit := Nat.isDigit_of_mem_toDigits (by decide) (by decide) hd
  simp only [Char.isDigit, Bool.and_eq_true, decide_eq_true_eq, ge_iff_le, UInt32.le_iff_toNat_le]
    at hdigit
  exact hdigit

/-- **`int` reads back what `str` writes**, for a number that it reads at all. -/
theorem int?_toString {n : ℤ} (h : digitCount n.natAbs ≤ 4300) :
    int? (py (toString n)) = some n := by
  have hread := nat?_toDigits h
  rw [py_toString]
  split_ifs with hneg
  · rw [List.singleton_append, int?, if_neg (by simp), if_pos rfl, hread]
    exact congrArg some (by omega : -(n.natAbs : ℤ) = n)
  · cases htext : (Nat.toDigits 10 n.natAbs).map cp with
    | nil => exact absurd (List.map_eq_nil_iff.1 htext) Nat.toDigits_ne_nil
    | cons c cs =>
      have hrange := @toDigits_range n.natAbs c (htext ▸ List.mem_cons_self)
      have hplus : c ≠ cp '+' := by
        rintro rfl
        exact absurd hrange (by decide)
      have hminus : c ≠ cp '-' := by
        rintro rfl
        exact absurd hrange (by decide)
      rw [htext] at hread
      rw [List.nil_append, int?, if_neg hplus, if_neg hminus, hread]
      exact congrArg some (by omega : (n.natAbs : ℤ) = n)

theorem lt_of_decimal? {c : CodePoint} {d : ℕ} (h : decimal? c = some d) : d < 10 := by
  obtain ⟨z, hz, rfl⟩ := Option.map_eq_some_iff.1 h
  have hrange := List.find?_some hz
  simp only [Bool.and_eq_true, decide_eq_true_eq] at hrange
  omega

theorem lt_of_digitsFrom {s : PyStr} {ds : List ℕ} (h : digitsFrom s = some ds) :
    ∀ d ∈ ds, d < 10 := by
  have hstep : ∀ {c : CodePoint} {d : ℕ} {tail : Option (List ℕ)} {ds : List ℕ},
      decimal? c = some d → (∀ {ds}, tail = some ds → ∀ d ∈ ds, d < 10) →
      tail.map (d :: ·) = some ds → ∀ d ∈ ds, d < 10 := by
    intro c d tail ds hd ih h
    obtain ⟨rest, hrest, rfl⟩ := Option.map_eq_some_iff.1 h
    exact List.forall_mem_cons.2 ⟨lt_of_decimal? hd, ih hrest⟩
  fun_induction digitsFrom s generalizing ds with
  | case1 =>
    obtain rfl := Option.some.inj h
    exact List.forall_mem_nil _
  | case2 c s d hd ih => exact hstep hd ih h
  | case4 c s d hd _ ih => exact hstep hd ih h
  | _ => cases h

/-- A decimal number is bounded by the number of its digits. -/
theorem foldl_digits_lt {ds : List ℕ} (h : ∀ d ∈ ds, d < 10) (n : ℕ) :
    ds.foldl (fun n d => 10 * n + d) n < (n + 1) * 10 ^ ds.length := by
  induction ds generalizing n with
  | nil => simp
  | cons d ds ih =>
    rw [List.forall_mem_cons] at h
    calc (d :: ds).foldl (fun n d => 10 * n + d) n
        < (10 * n + d + 1) * 10 ^ ds.length := ih h.2 (10 * n + d)
      _ ≤ (10 * (n + 1)) * 10 ^ ds.length := Nat.mul_le_mul_right _ (by omega)
      _ = (n + 1) * 10 ^ (d :: ds).length := by
        rw [List.length_cons, Nat.pow_succ, Nat.mul_comm 10, Nat.mul_assoc, Nat.mul_comm 10]

theorem digitCount_of_nat? {s : PyStr} {n : ℕ} (h : nat? s = some n) : digitCount n ≤ 4300 := by
  cases s with
  | nil => cases h
  | cons c s =>
    rw [nat?] at h
    cases hd : decimal? c with
    | none => simp [hd] at h
    | some d =>
      cases hds : digitsFrom s with
      | none => simp [hd, hds] at h
      | some ds =>
        rw [hd, hds] at h
        dsimp only at h
        split_ifs at h with hlength
        obtain rfl := Option.some.inj h
        have hdigits : ∀ x ∈ d :: ds, x < 10 :=
          List.forall_mem_cons.2 ⟨lt_of_decimal? hd, lt_of_digitsFrom hds⟩
        have hlt := foldl_digits_lt hdigits 0
        rw [Nat.zero_add, Nat.one_mul] at hlt
        exact ((Nat.length_toDigits_le_iff (by omega) (by simp)).2 hlt).trans hlength

/-- What `int` reads has no more digits than it takes. -/
theorem digitCount_of_int? {s : PyStr} {n : ℤ} (h : int? s = some n) :
    digitCount n.natAbs ≤ 4300 := by
  cases s with
  | nil => cases h
  | cons c s =>
    rw [int?] at h
    split_ifs at h with hplus hminus
    all_goals
      obtain ⟨m, hm, rfl⟩ : ∃ m, nat? _ = some m ∧ _ = n := by
        simpa [Option.bind_eq_some_iff] using h
      simpa using digitCount_of_nat? hm

end HakoniwaBridge.Lib.PyStr
