import Mathlib.Data.List.DropRight
import Mathlib.Data.Fin.Basic
import Mathlib.Tactic.SplitIfs

/-!
# Python strings

A Python `str` as the list of its code points, surrogates included, with the methods of `str` that
parsers of lines use: `splitlines`, `strip`, `rstrip`, `lstrip(" ")`, `lower` on ASCII letters,
`replace` of a doubled character, and `int`.

* `splitlinesFrom_of_unbroken` — a string without line breaks is one line.
* `rstrip_append_cons`, `count_rstrip` — only blanks at the end are stripped.
* `replacePairs_doubled` — doubling a character is undone by `replace`.
-/

namespace HakoniwaBridge.Lib

/-- A code point. -/
abbrev CodePoint := Fin 0x110000

/-- A Python string. -/
abbrev PyStr := List CodePoint

/-- The code point of a character. -/
def cp (c : Char) : CodePoint :=
  ⟨c.toNat, by
    have hvalid := c.valid
    change c.val.toNat < 0x110000
    rcases hvalid with h | h <;> omega⟩

/-- A string literal. -/
def py (s : String) : PyStr := s.toList.map cp

@[simp] theorem cp_inj {c d : Char} : cp c = cp d ↔ c = d := by
  constructor
  · intro h
    have hval : c.toNat = d.toNat := Fin.mk.inj h
    exact Char.ext (UInt32.toNat_inj.1 hval)
  · rintro rfl
    rfl

namespace PyStr

/-- `c.isspace()`. -/
def isspace (c : CodePoint) : Bool :=
  (0x09 ≤ c.val && c.val ≤ 0x0D) || (0x1C ≤ c.val && c.val ≤ 0x20) || c.val == 0x85 ||
    c.val == 0xA0 || c.val == 0x1680 || (0x2000 ≤ c.val && c.val ≤ 0x200A) || c.val == 0x2028 ||
    c.val == 0x2029 || c.val == 0x202F || c.val == 0x205F || c.val == 0x3000

/-- A character at which `splitlines` breaks a line. -/
def isLineBreak (c : CodePoint) : Bool :=
  (0x0A ≤ c.val && c.val ≤ 0x0D) || (0x1C ≤ c.val && c.val ≤ 0x1E) || c.val == 0x85 ||
    c.val == 0x2028 || c.val == 0x2029

/-- `splitlines`, where `line` was read of the current line already. -/
def splitlinesFrom (line : PyStr) : PyStr → List PyStr
  | [] => if line = [] then [] else [line]
  | [c] => if isLineBreak c then [line] else [line ++ [c]]
  | c :: d :: text =>
    if c = cp '\r' ∧ d = cp '\n' then line :: splitlinesFrom [] text
    else if isLineBreak c then line :: splitlinesFrom [] (d :: text)
    else splitlinesFrom (line ++ [c]) (d :: text)

/-- `text.splitlines()`. -/
def splitlines (text : PyStr) : List PyStr := splitlinesFrom [] text

/-- `s.rstrip()`. -/
def rstrip (s : PyStr) : PyStr := s.rdropWhile isspace

/-- `s.strip()`. -/
def strip (s : PyStr) : PyStr := rstrip (s.dropWhile isspace)

/-- `s.lstrip(" ")`. -/
def lstripBlanks (s : PyStr) : PyStr := s.dropWhile (· = cp ' ')

/-- `s.lower()` on ASCII letters. No other character becomes an ASCII letter but the Kelvin sign,
which becomes `k`. -/
def lower (s : PyStr) : PyStr :=
  s.map fun c => if h : 0x41 ≤ c.val ∧ c.val ≤ 0x5A then ⟨c.val + 0x20, by omega⟩ else c

/-- `s.replace(q + q, q)`, for a character `q`. -/
def replacePairs (q : CodePoint) : PyStr → PyStr
  | c :: d :: s =>
    if c = q ∧ d = q then q :: replacePairs q s else c :: replacePairs q (d :: s)
  | [c] => [c]
  | [] => []

/-- `s.replace(q, q + q)`, for a character `q`. -/
def doubled (q : CodePoint) (s : PyStr) : PyStr :=
  s.flatMap fun c => if c = q then [q, q] else [c]

/-! ## Lines -/

theorem splitlinesFrom_of_unbroken {line rest : PyStr} (h : ∀ c ∈ rest, isLineBreak c = false) :
    splitlinesFrom line rest = if line ++ rest = [] then [] else [line ++ rest] := by
  fun_induction splitlinesFrom line rest with
  | case1 => rfl
  | case2 line hline => simp [hline]
  | case3 line c hbreak => simp [h c] at hbreak
  | case4 line c hbreak => simp
  | case5 line c d text hcrlf ih =>
    have := h c List.mem_cons_self
    rw [hcrlf.1] at this
    cases this
  | case6 line c d text hcrlf hbreak ih => simp [h c] at hbreak
  | case7 line c d text hcrlf hbreak ih =>
    rw [ih fun c' hc' => h c' (List.mem_cons_of_mem c hc')]
    simp

/-! ## Blanks -/

/-- Only the end of a string is stripped. -/
theorem rstrip_append_cons {c : CodePoint} (hspace : isspace c = false) (x y : PyStr) :
    rstrip (x ++ c :: y) = x ++ c :: rstrip y := by
  unfold rstrip List.rdropWhile
  rw [List.reverse_append, List.reverse_cons, List.append_assoc, List.singleton_append,
    List.dropWhile_append]
  by_cases hall : (y.reverse.dropWhile isspace).isEmpty = true
  · rw [if_pos hall, List.dropWhile_cons_of_neg (by simp [hspace]), List.isEmpty_iff.1 hall]
    simp
  · rw [if_neg hall]
    simp

theorem count_rstrip {c : CodePoint} (hspace : isspace c = false) (s : PyStr) :
    (rstrip s).count c = s.count c := by
  have hrest : (s.rtakeWhile isspace).count c = 0 := by
    rw [List.count_eq_zero]
    intro hmem
    have := List.mem_rtakeWhile_imp hmem
    rw [hspace] at this
    cases this
  conv_rhs => rw [← List.rdropWhile_append_rtakeWhile (p := isspace) (l := s)]
  rw [List.count_append, hrest, Nat.add_zero, rstrip]

theorem strip_ne_nil {c : CodePoint} {s : PyStr} (hc : c ∈ s) (hspace : isspace c = false) :
    strip s ≠ [] := by
  have hrest : c ∈ s.dropWhile isspace := by
    rw [← List.takeWhile_append_dropWhile (p := isspace) (l := s)] at hc
    rcases List.mem_append.1 hc with htake | hdrop
    · have := List.mem_takeWhile_imp htake
      rw [hspace] at this
      cases this
    · exact hdrop
  intro hnil
  have := List.rdropWhile_eq_nil_iff.1 hnil c hrest
  rw [hspace] at this
  cases this

/-- A stripped string does not begin with a blank. -/
theorem isspace_of_strip_eq {c : CodePoint} {s : PyStr} (h : strip (c :: s) = c :: s) :
    isspace c = false := by
  by_contra hspace
  rw [Bool.not_eq_false] at hspace
  have hle : (strip (c :: s)).length ≤ s.length := by
    rw [strip, List.dropWhile_cons_of_pos hspace]
    exact (List.rdropWhile_prefix isspace _).length_le.trans (List.length_dropWhile_le isspace s)
  rw [h, List.length_cons] at hle
  omega

/-! ## Doubled characters -/

section doubled

variable {q c : CodePoint}

@[simp] theorem doubled_nil (q : CodePoint) : doubled q [] = [] := rfl

@[simp] theorem doubled_cons_self (q : CodePoint) (s : PyStr) :
    doubled q (q :: s) = q :: q :: doubled q s := by
  simp [doubled]

theorem doubled_cons_of_ne (h : c ≠ q) (s : PyStr) : doubled q (c :: s) = c :: doubled q s := by
  simp [doubled, h]

@[simp] theorem doubled_append (q : CodePoint) (s t : PyStr) :
    doubled q (s ++ t) = doubled q s ++ doubled q t :=
  List.flatMap_append

theorem mem_of_mem_doubled {s : PyStr} (h : c ∈ doubled q s) : c ∈ s := by
  obtain ⟨d, hd, hc⟩ := List.mem_flatMap.1 h
  split_ifs at hc with heq <;> simp_all

theorem count_doubled (h : c ≠ q) (s : PyStr) : (doubled q s).count c = s.count c := by
  induction s with
  | nil => rfl
  | cons d s ih =>
    by_cases hd : d = q
    · rw [hd, doubled_cons_self, List.count_cons_of_ne h.symm, List.count_cons_of_ne h.symm,
        List.count_cons_of_ne h.symm, ih]
    · rw [doubled_cons_of_ne hd, List.count_cons, List.count_cons, ih]

theorem count_replacePairs (h : c ≠ q) (s : PyStr) : (replacePairs q s).count c = s.count c := by
  fun_induction replacePairs q s with
  | case1 d e s hpair ih =>
    rw [hpair.1, hpair.2, List.count_cons_of_ne h.symm, List.count_cons_of_ne h.symm,
      List.count_cons_of_ne h.symm, ih]
  | case2 d e s hpair ih => rw [List.count_cons, List.count_cons, ih]
  | case3 d => rfl
  | case4 => rfl

/-- `replace` undoes the doubling of a character. -/
theorem replacePairs_doubled (q : CodePoint) (s : PyStr) : replacePairs q (doubled q s) = s := by
  induction s with
  | nil => rfl
  | cons c s ih =>
    by_cases hc : c = q
    · rw [hc, doubled_cons_self, replacePairs, if_pos ⟨rfl, rfl⟩, ih]
    · rw [doubled_cons_of_ne hc]
      cases hrest : doubled q s with
      | nil =>
        rw [hrest] at ih
        rw [← ih]
        rfl
      | cons d rest => rw [replacePairs, if_neg fun hpair => hc hpair.1, ← hrest, ih]

end doubled

/-! ## Numbers -/

/-- The characters of decimal value 0 (category `Nd`, Unicode 14); the nine after each have the
values 1 to 9. -/
def decimalZeros : List ℕ :=
  [0x30, 0x660, 0x6F0, 0x7C0, 0x966, 0x9E6, 0xA66, 0xAE6, 0xB66, 0xBE6, 0xC66, 0xCE6, 0xD66, 0xDE6,
    0xE50, 0xED0, 0xF20, 0x1040, 0x1090, 0x17E0, 0x1810, 0x1946, 0x19D0, 0x1A80, 0x1A90, 0x1B50,
    0x1BB0, 0x1C40, 0x1C50, 0xA620, 0xA8D0, 0xA900, 0xA9D0, 0xA9F0, 0xAA50, 0xABF0, 0xFF10, 0x104A0,
    0x10D30, 0x11066, 0x110F0, 0x11136, 0x111D0, 0x112F0, 0x11450, 0x114D0, 0x11650, 0x116C0,
    0x11730, 0x118E0, 0x11950, 0x11C50, 0x11D50, 0x11DA0, 0x16A60, 0x16AC0, 0x16B50, 0x1D7CE,
    0x1D7D8, 0x1D7E2, 0x1D7EC, 0x1D7F6, 0x1E140, 0x1E2F0, 0x1E950, 0x1FBF0]

/-- The decimal value of a character. -/
def decimal? (c : CodePoint) : Option ℕ :=
  (decimalZeros.find? fun z => z ≤ c.val && c.val < z + 10).map fun z => c.val - z

/-- The digits that follow a digit: each may have one `_` in front. -/
def digitsFrom : PyStr → Option (List ℕ)
  | [] => some []
  | c :: s =>
    match decimal? c with
    | some d => (digitsFrom s).map (d :: ·)
    | none =>
      if c = cp '_' then
        match s with
        | [] => none
        | c' :: s =>
          match decimal? c' with
          | some d => (digitsFrom s).map (d :: ·)
          | none => none
      else none

/-- A number without sign. Texts of more than 4300 digits are refused, as `int` refuses them. -/
def nat? : PyStr → Option ℕ
  | [] => none
  | c :: s =>
    match decimal? c, digitsFrom s with
    | some d, some ds =>
      if (d :: ds).length ≤ 4300 then some ((d :: ds).foldl (fun n d => 10 * n + d) 0) else none
    | _, _ => none

/-- `int(s)` for a stripped string, none where it raises `ValueError`. -/
def int? : PyStr → Option ℤ
  | [] => none
  | c :: s =>
    if c = cp '+' then (nat? s).map fun n => (n : ℤ)
    else if c = cp '-' then (nat? s).map fun n => -(n : ℤ)
    else (nat? (c :: s)).map fun n => (n : ℤ)

example : int? (py "-1_0") = some (-10) := by decide

end PyStr

end HakoniwaBridge.Lib
