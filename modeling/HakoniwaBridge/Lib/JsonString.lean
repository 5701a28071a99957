import HakoniwaBridge.Lib.PyString
import Mathlib.Tactic.IntervalCases

/-!
# JSON string literals

Reading and writing of JSON strings by Python's `json` module.

* `scanString` — the scanner: what stands between the quotes, and what follows the closing one.
* `loads?` — `json.loads(text)` for a text that begins with a quote.
* `JsonChars text s` — between quotes, `text` denotes the string `s`.
* `dumpsChars` — `json.dumps(s, ensure_ascii=False)` between its quotes; `jsonChars_dumpsChars`: it
  denotes `s`.
* `loads?_of_jsonChars` — **a literal that denotes `s` is loaded as `s`.**
-/

namespace HakoniwaBridge.Lib.JsonString

/-- The value of a hexadecimal digit. -/
def hexDigit? (c : CodePoint) : Option ℕ :=
  if 0x30 ≤ c.val ∧ c.val ≤ 0x39 then some (c.val - 0x30)
  else if 0x41 ≤ c.val ∧ c.val ≤ 0x46 then some (c.val - 0x41 + 10)
  else if 0x61 ≤ c.val ∧ c.val ≤ 0x66 then some (c.val - 0x61 + 10)
  else none

/-- The code unit that four hexadecimal digits denote. -/
def hex4? (a b c d : CodePoint) : Option CodePoint :=
  match hexDigit? a, hexDigit? b, hexDigit? c, hexDigit? d with
  | some a, some b, some c, some d => some (Fin.ofNat _ (((a * 16 + b) * 16 + c) * 16 + d))
  | _, _, _, _ => none

/-- The character behind a backslash, for the escapes of two characters. -/
def escape? (c : CodePoint) : Option CodePoint :=
  if c = cp '"' then some (cp '"')
  else if c = cp '\\' then some (cp '\\')
  else if c = cp '/' then some (cp '/')
  else if c = cp 'b' then some 0x08
  else if c = cp 'f' then some 0x0C
  else if c = cp 'n' then some 0x0A
  else if c = cp 'r' then some 0x0D
  else if c = cp 't' then some 0x09
  else none

def IsHigh (c : CodePoint) : Prop := 0xD800 ≤ c.val ∧ c.val ≤ 0xDBFF

def IsLow (c : CodePoint) : Prop := 0xDC00 ≤ c.val ∧ c.val ≤ 0xDFFF

instance (c : CodePoint) : Decidable (IsHigh c) := inferInstanceAs (Decidable (_ ∧ _))

instance (c : CodePoint) : Decidable (IsLow c) := inferInstanceAs (Decidable (_ ∧ _))

/-- The character of a surrogate pair. -/
def joinPair (high low : CodePoint) : CodePoint :=
  Fin.ofNat _ (0x10000 + (high.val - 0xD800) * 0x400 + (low.val - 0xDC00))

/-- The characters of what was scanned: two `\u` escapes (marked) that are a surrogate pair are one
character. -/
def join : List (CodePoint × Bool) → PyStr
  | (high, true) :: (low, true) :: units =>
    if IsHigh high ∧ IsLow low then joinPair high low :: join units
    else high :: join ((low, true) :: units)
  | (c, _) :: units => c :: join units
  | [] => []

/-- What stands before the closing quote, and what follows it; none if there is no closing quote,
or an escape is wrong, or there is a control character. -/
def scanString : PyStr → Option (List (CodePoint × Bool) × PyStr)
  | [] => none
  | c :: text =>
    if c = cp '"' then some ([], text)
    else if c = cp '\\' then
      match text with
      | [] => none
      | e :: text =>
        if e = cp 'u' then
          match text with
          | a :: b :: c :: d :: text =>
            match hex4? a b c d, scanString text with
            | some u, some (units, rest) => some ((u, true) :: units, rest)
            | _, _ => none
          | _ => none
        else
          match escape? e, scanString text with
          | some c, some (units, rest) => some ((c, false) :: units, rest)
          | _, _ => none
    else if c.val < 0x20 then none
    else
      match scanString text with
      | some (units, rest) => some ((c, false) :: units, rest)
      | none => none

/-- A character that may follow a literal. -/
def isBlank (c : CodePoint) : Bool := c = cp ' ' || c = cp '\t' || c = cp '\n' || c = cp '\r'

/-- `json.loads(text)`, for a text that begins with a quote; only blanks may follow the literal. -/
def loads? : PyStr → Option PyStr
  | [] => none
  | c :: text =>
    if c = cp '"' then
      match scanString text with
      | some (units, rest) =>
        if rest.all isBlank then some (join units) else none
      | none => none
    else none

/-! ## What a literal denotes -/

/-- A text begins with a `\u` escape of a low surrogate. -/
def BeginsLow (text : PyStr) : Prop :=
  ∃ a b c d low rest, text = cp '\\' :: cp 'u' :: a :: b :: c :: d :: rest ∧
    hex4? a b c d = some low ∧ IsLow low

/-- Between quotes, a text denotes a string. A `\u` escape is a character of its own unless it is
the first half of a surrogate pair. -/
inductive JsonChars : PyStr → PyStr → Prop
  | nil : JsonChars [] []
  | plain {c text s} (hquote : c ≠ cp '"') (hslash : c ≠ cp '\\') (hcontrol : 0x20 ≤ c.val) :
      JsonChars text s → JsonChars (c :: text) (c :: s)
  | escape {e c text s} (h : escape? e = some c) :
      JsonChars text s → JsonChars (cp '\\' :: e :: text) (c :: s)
  | unicode {a b c d u text s} (h : hex4? a b c d = some u) (halone : IsHigh u → ¬ BeginsLow text) :
      JsonChars text s → JsonChars (cp '\\' :: cp 'u' :: a :: b :: c :: d :: text) (u :: s)
  | pair {a b c d high a' b' c' d' low text s} (h : hex4? a b c d = some high)
      (h' : hex4? a' b' c' d' = some low) (hhigh : IsHigh high) (hlow : IsLow low) :
      JsonChars text s →
      JsonChars (cp '\\' :: cp 'u' :: a :: b :: c :: d ::
        cp '\\' :: cp 'u' :: a' :: b' :: c' :: d' :: text) (joinPair high low :: s)

@[simp] theorem join_plain (c : CodePoint) (units : List (CodePoint × Bool)) :
    join ((c, false) :: units) = c :: join units := by
  rw [join.eq_def]

theorem join_unicode {u : CodePoint} {units : List (CodePoint × Bool)}
    (h : ∀ low rest, units = (low, true) :: rest → ¬ (IsHigh u ∧ IsLow low)) :
    join ((u, true) :: units) = u :: join units := by
  cases units with
  | nil => rfl
  | cons unit units =>
    obtain ⟨c, escaped⟩ := unit
    cases escaped with
    | false => rw [join.eq_def]
    | true => rw [join, if_neg (h c units rfl)]

theorem scanString_quote (rest : PyStr) : scanString (cp '"' :: rest) = some ([], rest) := by
  rw [scanString.eq_def]
  exact if_pos rfl

theorem scanString_plain {c : CodePoint} (hquote : c ≠ cp '"') (hslash : c ≠ cp '\\')
    (hcontrol : 0x20 ≤ c.val) {text rest : PyStr} {units : List (CodePoint × Bool)}
    (hscan : scanString text = some (units, rest)) :
    scanString (c :: text) = some ((c, false) :: units, rest) := by
  rw [scanString.eq_def]
  dsimp only
  rw [if_neg hquote, if_neg hslash, if_neg (by omega), hscan]

theorem scanString_escape {e c : CodePoint} (h : escape? e = some c) {text rest : PyStr}
    {units : List (CodePoint × Bool)} (hscan : scanString text = some (units, rest)) :
    scanString (cp '\\' :: e :: text) = some ((c, false) :: units, rest) := by
  have he : e ≠ cp 'u' := by
    rintro rfl
    cases h
  rw [scanString.eq_def]
  dsimp only
  rw [if_neg (by decide), if_pos rfl, if_neg he, h, hscan]

theorem scanString_unicode {a b c d u : CodePoint} (h : hex4? a b c d = some u)
    {text rest : PyStr} {units : List (CodePoint × Bool)}
    (hscan : scanString text = some (units, rest)) :
    scanString (cp '\\' :: cp 'u' :: a :: b :: c :: d :: text) =
      some ((u, true) :: units, rest) := by
  rw [scanString.eq_def]
  dsimp only
  rw [if_neg (by decide), if_pos rfl, if_pos rfl, h, hscan]

/-- A literal that denotes `s` is scanned to its closing quote and yields `s`. What was scanned
begins with an escaped low surrogate only if the literal does. -/
theorem scanString_of_jsonChars {text s : PyStr} (h : JsonChars text s) (rest : PyStr) :
    ∃ units, scanString (text ++ cp '"' :: rest) = some (units, rest) ∧ join units = s ∧
      ∀ low units', units = (low, true) :: units' → IsLow low → BeginsLow text := by
  induction h with
  | nil => exact ⟨[], scanString_quote rest, rfl, nofun⟩
  | plain hquote hslash hcontrol _ ih =>
    obtain ⟨units, hscan, hjoin, -⟩ := ih
    exact ⟨_, scanString_plain hquote hslash hcontrol hscan, by rw [join_plain, hjoin], nofun⟩
  | escape h _ ih =>
    obtain ⟨units, hscan, hjoin, -⟩ := ih
    exact ⟨_, scanString_escape h hscan, by rw [join_plain, hjoin], nofun⟩
  | unicode h halone _ ih =>
    obtain ⟨units, hscan, hjoin, hlow⟩ := ih
    refine ⟨_, scanString_unicode h hscan, ?_, ?_⟩
    · rw [join_unicode fun low units' heq hpair => halone hpair.1 (hlow low units' heq hpair.2),
        hjoin]
    · rintro low units' heq hlow'
      obtain ⟨rfl, -⟩ := Prod.mk.inj (List.cons.inj heq).1
      exact ⟨_, _, _, _, _, _, rfl, h, hlow'⟩
  | pair h h' hhigh hlow _ ih =>
    obtain ⟨units, hscan, hjoin, -⟩ := ih
    refine ⟨_, scanString_unicode h (scanString_unicode h' hscan), ?_, ?_⟩
    · rw [join, if_pos ⟨hhigh, hlow⟩, hjoin]
    · rintro low' units' heq hlow'
      obtain ⟨rfl, -⟩ := Prod.mk.inj (List.cons.inj heq).1
      exact ⟨_, _, _, _, _, _, rfl, h, hlow'⟩

/-- **A literal that denotes `s` is loaded as `s`.** -/
theorem loads?_of_jsonChars {text s : PyStr} (h : JsonChars text s) :
    loads? (cp '"' :: (text ++ [cp '"'])) = some s := by
  obtain ⟨units, hscan, hjoin, -⟩ := scanString_of_jsonChars h []
  rw [loads?, if_pos rfl, hscan]
  simp [hjoin]

/-- What follows the literal is not looked at. -/
theorem scanString_append {text : PyStr} {units : List (CodePoint × Bool)} {rest : PyStr}
    (h : scanString text = some (units, rest)) (more : PyStr) :
    scanString (text ++ more) = some (units, rest ++ more) := by
  fun_induction scanString text generalizing units rest with
  | case2 text =>
    obtain ⟨rfl, rfl⟩ := Prod.mk.inj (Option.some.inj h)
    exact scanString_quote _
  | case4 a b c d text u units' rest' hscan hu _ ih =>
    obtain ⟨rfl, rfl⟩ := Prod.mk.inj (Option.some.inj h)
    exact scanString_unicode hu (ih hscan)
  | case7 e text _ c units' rest' hscan hc _ ih =>
    obtain ⟨rfl, rfl⟩ := Prod.mk.inj (Option.some.inj h)
    exact scanString_escape hc (ih hscan)
  | case10 c text hquote hslash hcontrol units' rest' hscan ih =>
    obtain ⟨rfl, rfl⟩ := Prod.mk.inj (Option.some.inj h)
    exact scanString_plain hquote hslash (by omega) (ih hscan)
  | _ => cases h

/-- The first part of what stands between quotes is not closed. -/
theorem scanString_part {part more s : PyStr} (h : JsonChars (part ++ more) s) :
    scanString part = none := by
  by_contra hsome
  obtain ⟨⟨units, rest⟩, hscan⟩ := Option.ne_none_iff_exists'.1 hsome
  have hlonger := scanString_append hscan (more ++ [cp '"'])
  obtain ⟨units', hwhole, -⟩ := scanString_of_jsonChars h []
  rw [← List.append_assoc, hwhole] at hlonger
  have hrest := (Prod.mk.inj (Option.some.inj hlonger)).2
  simp at hrest

/-! ## The characters of a literal -/

theorem hexDigit?_range {c : CodePoint} {n : ℕ} (h : hexDigit? c = some n) :
    0x30 ≤ c.val ∧ c.val ≤ 0x66 ∧ c.val ≠ 0x5C := by
  unfold hexDigit? at h
  split_ifs at h <;> omega

theorem hex4?_range {a b c d u : CodePoint} (h : hex4? a b c d = some u) :
    ∀ x ∈ [a, b, c, d], 0x30 ≤ x.val ∧ x.val ≤ 0x66 ∧ x.val ≠ 0x5C := by
  unfold hex4? at h
  split at h
  case h_1 ha hb hc hd =>
    simp only [List.forall_mem_cons]
    exact ⟨hexDigit?_range ha, hexDigit?_range hb, hexDigit?_range hc, hexDigit?_range hd, nofun⟩
  case h_2 => cases h

theorem escape?_range {e c : CodePoint} (h : escape? e = some c) :
    0x20 ≤ e.val ∧ e.val < 0x7F := by
  unfold escape? at h
  split_ifs at h <;> subst e <;> decide

/-- A character of a `\u` escape is printable ASCII. -/
theorem mem_unicode {a b c d u x : CodePoint} (h : hex4? a b c d = some u) {rest : PyStr}
    (hx : x ∈ cp '\\' :: cp 'u' :: a :: b :: c :: d :: rest) :
    x ∈ rest ∨ 0x20 ≤ x.val ∧ x.val < 0x7F := by
  rcases List.mem_cons.1 hx with rfl | hx
  · exact Or.inr (by decide)
  rcases List.mem_cons.1 hx with rfl | hx
  · exact Or.inr (by decide)
  have hsplit : x ∈ [a, b, c, d] ++ rest := hx
  rcases List.mem_append.1 hsplit with hx | hx
  · have := hex4?_range h x hx
    exact Or.inr ⟨by omega, by omega⟩
  · exact Or.inl hx

/-- A character of a literal is one of the string, or printable ASCII. -/
theorem JsonChars.mem_or {text s : PyStr} (h : JsonChars text s) :
    ∀ c ∈ text, c ∈ s ∨ 0x20 ≤ c.val ∧ c.val < 0x7F := by
  induction h with
  | nil => exact nofun
  | @plain c text s _ _ _ _ ih =>
    refine List.forall_mem_cons.2 ⟨Or.inl List.mem_cons_self, fun x hx => ?_⟩
    exact (ih x hx).imp_left (List.mem_cons_of_mem c)
  | @escape e c text s h _ ih =>
    refine List.forall_mem_cons.2 ⟨Or.inr (by decide), ?_⟩
    refine List.forall_mem_cons.2 ⟨Or.inr (escape?_range h), fun x hx => ?_⟩
    exact (ih x hx).imp_left (List.mem_cons_of_mem c)
  | unicode h _ _ ih =>
    intro x hx
    rcases mem_unicode h hx with hx | hx
    · exact (ih x hx).imp_left (List.mem_cons_of_mem _)
    · exact Or.inr hx
  | pair h h' _ _ _ ih =>
    intro x hx
    rcases mem_unicode h hx with hx | hx
    · rcases mem_unicode h' hx with hx | hx
      · exact (ih x hx).imp_left (List.mem_cons_of_mem _)
      · exact Or.inr hx
    · exact Or.inr hx

/-! ## Writing -/

/-- A hexadecimal digit. -/
def hexChar (n : ℕ) : CodePoint := Fin.ofNat _ (if n < 10 then 0x30 + n else 0x61 + (n - 10))

/-- `json.dumps`, one character, with `ensure_ascii=False`. -/
def dumpsChar (c : CodePoint) : PyStr :=
  if c = cp '"' then [cp '\\', cp '"']
  else if c = cp '\\' then [cp '\\', cp '\\']
  else if c.val = 0x0A then [cp '\\', cp 'n']
  else if c.val = 0x0D then [cp '\\', cp 'r']
  else if c.val = 0x09 then [cp '\\', cp 't']
  else if c.val = 0x0C then [cp '\\', cp 'f']
  else if c.val = 0x08 then [cp '\\', cp 'b']
  else if c.val < 0x20 then
    [cp '\\', cp 'u', cp '0', cp '0', hexChar (c.val / 16), hexChar (c.val % 16)]
  else [c]

/-- What `json.dumps(s, ensure_ascii=False)` writes between the quotes. -/
def dumpsChars (s : PyStr) : PyStr := s.flatMap dumpsChar

/-- A control character is written as an escape that denotes it. -/
theorem hex4?_control {c : CodePoint} (hcontrol : c.val < 0x20) :
    hex4? (cp '0') (cp '0') (hexChar (c.val / 16)) (hexChar (c.val % 16)) = some c := by
  obtain ⟨n, hn⟩ := c
  dsimp only at hcontrol ⊢
  interval_cases n <;> rfl

/-- What is written for a character denotes it. -/
theorem jsonChars_dumpsChar {text s : PyStr} (c : CodePoint) (h : JsonChars text s) :
    JsonChars (dumpsChar c ++ text) (c :: s) := by
  unfold dumpsChar
  split_ifs with hquote hslash hnewline hreturn htab hfeed hback hcontrol
  · exact .escape (by rw [hquote]; rfl) h
  · exact .escape (by rw [hslash]; rfl) h
  · exact .escape (congrArg some (Fin.ext hnewline.symm)) h
  · exact .escape (congrArg some (Fin.ext hreturn.symm)) h
  · exact .escape (congrArg some (Fin.ext htab.symm)) h
  · exact .escape (congrArg some (Fin.ext hfeed.symm)) h
  · exact .escape (congrArg some (Fin.ext hback.symm)) h
  · refine .unicode (hex4?_control hcontrol) (fun hhigh => ?_) h
    have := hhigh.1
    omega
  · exact .plain hquote hslash (by omega) h

/-- What is written denotes the string. -/
theorem jsonChars_dumpsChars (s : PyStr) : JsonChars (dumpsChars s) s := by
  induction s with
  | nil => exact .nil
  | cons c s ih => exact jsonChars_dumpsChar c ih

/-- No control character is written. -/
theorem le_of_mem_dumpsChars {c : CodePoint} {s : PyStr} (h : c ∈ dumpsChars s) :
    0x20 ≤ c.val := by
  have hhex : ∀ n < 16, 0x20 ≤ (hexChar n).val := by decide
  have hescape : ∀ e : CodePoint, 0x20 ≤ e.val → c ∈ [cp '\\', e] → 0x20 ≤ c.val := by
    intro e he hc
    simp only [List.mem_cons, List.not_mem_nil, or_false] at hc
    rcases hc with rfl | rfl
    · decide
    · exact he
  obtain ⟨d, -, hc⟩ := List.mem_flatMap.1 h
  unfold dumpsChar at hc
  split_ifs at hc with hquote hslash hnewline hreturn htab hfeed hback hcontrol
  · exact hescape (cp '"') (by decide) hc
  · exact hescape (cp '\\') (by decide) hc
  · exact hescape (cp 'n') (by decide) hc
  · exact hescape (cp 'r') (by decide) hc
  · exact hescape (cp 't') (by decide) hc
  · exact hescape (cp 'f') (by decide) hc
  · exact hescape (cp 'b') (by decide) hc
  · simp only [List.mem_cons, List.not_mem_nil, or_false] at hc
    rcases hc with rfl | rfl | rfl | rfl | rfl | rfl
    · decide
    · decide
    · decide
    · decide
    · exact hhex _ (by omega)
    · exact hhex _ (by omega)
  · rw [List.mem_singleton.1 hc]
    omega

end HakoniwaBridge.Lib.JsonString
