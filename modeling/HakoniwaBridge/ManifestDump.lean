import HakoniwaBridge.ManifestQuotes
import HakoniwaBridge.Lib.NestedSpine
import HakoniwaBridge.Lib.PyText

/-!
# Writing a manifest

`dump_yaml` of `tools/hako.py`, which writes nested mappings of scalars and lists.

* `dumpEntries`, `dumpYaml` — the writer.
* `Writable` — the data that keep to lines: plain keys, none twice, scalars without line breaks.
* `dumpLines` — the lines of an entry after another; `Writable.splitlines_dumpYaml`: they are the
  lines of what is written.
* `readLine_scalar`, `readLine_opening`, `parseScalar_yamlScalar` — what the loader reads of one.
-/

namespace HakoniwaBridge

open Lib PyStr

/-- What `dump_yaml` finds at a key other than a mapping. -/
inductive DumpLeaf
  | scalar (value : ManifestScalar)
  | list (items : List ManifestScalar)

/-- A value for `dump_yaml`. -/
abbrev DumpValue := NestedMap PyStr DumpLeaf

/-- `" " * indent`. -/
def blanks (indent : ℕ) : PyStr := List.replicate indent (cp ' ')

mutual

/-- Source: `tools/hako.py`, `dump_yaml`, the loop; yields its `lines`. -/
def dumpEntries (indent : ℕ) : List (PyStr × DumpValue) → List PyStr
  | [] => []
  | entry :: entries => dumpEntry indent entry ++ dumpEntries indent entries

/-- Source: `dump_yaml`, the body of the loop. -/
def dumpEntry (indent : ℕ) : PyStr × DumpValue → List PyStr
  | (key, value) => dumpValue indent key value

/-- Source: `dump_yaml`, the cases of the body. For a mapping the text of the inner call is one
element. -/
def dumpValue (indent : ℕ) (key : PyStr) : DumpValue → List PyStr
  | .map entries =>
    [blanks indent ++ (key ++ py ":"),
      rstrip (joinLines (dumpEntries (indent + 2) entries) ++ py "\n")]
  | .scalar (.list items) =>
    (blanks indent ++ (key ++ py ":")) ::
      items.map fun item => blanks indent ++ (py "  - " ++ yamlScalar item)
  | .scalar (.scalar value) => [blanks indent ++ (key ++ (py ": " ++ yamlScalar value))]

end

/-- Source: `tools/hako.py`, `dump_yaml`. -/
def dumpYaml (indent : ℕ) (data : List (PyStr × DumpValue)) : PyStr :=
  joinLines (dumpEntries indent data) ++ py "\n"

/-! ## The lines of the text -/

/-- Lines without the empty ones at the end, but at least one. -/
def trimmed (lines : List PyStr) : List PyStr :=
  if lines.rdropWhile (· = []) = [] then [[]] else lines.rdropWhile (· = [])

mutual

/-- The lines of the text that `dump_yaml` writes for the entries of a mapping. -/
def dumpLines (indent : ℕ) : List (PyStr × DumpValue) → List PyStr
  | [] => []
  | entry :: entries => entryLines indent entry ++ dumpLines indent entries

/-- The lines of one entry. -/
def entryLines (indent : ℕ) : PyStr × DumpValue → List PyStr
  | (key, value) => valueLines indent key value

/-- The lines of a key and its value. -/
def valueLines (indent : ℕ) (key : PyStr) : DumpValue → List PyStr
  | .map entries => (blanks indent ++ (key ++ py ":")) :: trimmed (dumpLines (indent + 2) entries)
  | .scalar (.list items) =>
    (blanks indent ++ (key ++ py ":")) ::
      items.map fun item => blanks indent ++ (py "  - " ++ yamlScalar item)
  | .scalar (.scalar value) => [blanks indent ++ (key ++ (py ": " ++ yamlScalar value))]

end

example : dumpLines 0 [(py "a", .map [(py "b", .scalar (.scalar (.int 3))), (py "c", .map [])]),
    (py "d", .scalar (.list [.bool true]))] =
      [py "a:", py "  b: 3", py "  c:", py "d:", py "  - true"] := by
  decide

theorem trimmed_ne_nil (lines : List PyStr) : trimmed lines ≠ [] := by
  unfold trimmed
  split_ifs with h
  · exact List.cons_ne_nil _ _
  · exact h

/-- The trimmed lines make up the text without the empty lines at the end. -/
theorem joinLines_trimmed (lines : List PyStr) :
    joinLines (trimmed lines) = joinLines (lines.rdropWhile (· = [])) := by
  unfold trimmed
  split_ifs with h
  · rw [h]
    rfl
  · rfl

/-! ## Scalars -/

/-- A text of lower case letters, digits and signs. -/
structure Unquoted (t : PyStr) : Prop where
  nonempty : t ≠ []
  range : ∀ c ∈ t, c.val = 0x2D ∨ (0x30 ≤ c.val ∧ c.val ≤ 0x39) ∨ (0x61 ≤ c.val ∧ c.val ≤ 0x7A)

/-- A scalar that is written on one line and can be read back: in a string, the line breaks that
JSON does not escape are missing, and an integer has no more digits than `int` reads. -/
def Written : ManifestScalar → Prop
  | .str s => ∀ c ∈ s, c.val ≠ 0x85 ∧ c.val ≠ 0x2028 ∧ c.val ≠ 0x2029
  | .int n => digitCount n.natAbs ≤ 4300
  | _ => True

/-- A number is written without quotes. -/
theorem unquoted_toString (n : ℤ) : Unquoted (py (toString n)) := by
  rw [py_toString]
  refine ⟨by simp [Nat.toDigits_ne_nil], fun c hc => ?_⟩
  rcases List.mem_append.1 hc with hc | hc
  · left
    split_ifs at hc
    · rw [List.mem_singleton.1 hc]
      rfl
    · cases hc
  · exact Or.inr (Or.inl (toDigits_range hc))

/-- A scalar is written without quotes, or as a string. -/
theorem yamlScalar_cases (value : ManifestScalar) :
    Unquoted (yamlScalar value) ∨ ∃ s, value = .str s := by
  cases value with
  | none => exact Or.inl ⟨by decide, by simp [yamlScalar, py, cp]⟩
  | bool b => cases b <;> exact Or.inl ⟨by decide, by simp [yamlScalar, py, cp]⟩
  | int n => exact Or.inl (unquoted_toString n)
  | str s => exact Or.inr ⟨s, rfl⟩

section unquoted

variable {t : PyStr}

/-- Nothing in it is a blank. -/
theorem Unquoted.isspace (h : Unquoted t) {c : CodePoint} (hc : c ∈ t) : isspace c = false := by
  have hrange := h.range c hc
  simp only [PyStr.isspace, Bool.or_eq_false_iff, Bool.and_eq_false_iff, decide_eq_false_iff_not,
    beq_eq_false_iff_ne]
  omega

theorem Unquoted.inline (h : Unquoted t) : Inline t := by
  intro c hc
  have hrange := h.range c hc
  constructor
  · rintro rfl
    exact absurd hrange (by decide)
  · simp only [isLineBreak, Bool.or_eq_false_iff, Bool.and_eq_false_iff, decide_eq_false_iff_not,
      beq_eq_false_iff_ne]
    omega

/-- Nothing in it is a quote or begins a comment. -/
theorem Unquoted.plain (h : Unquoted t) :
    ∀ c ∈ t, c ≠ cp '\'' ∧ c ≠ cp '"' ∧ c ≠ cp '#' := by
  intro c hc
  have hrange := h.range c hc
  refine ⟨?_, ?_, ?_⟩ <;> rintro rfl <;> exact absurd hrange (by decide)

/-- It has no capital letters. -/
theorem Unquoted.lower (h : Unquoted t) : PyStr.lower t = t := by
  refine (List.map_congr_left fun c hc => ?_).trans (List.map_id t)
  have hrange := h.range c hc
  rw [dif_neg (by omega), id]

theorem Unquoted.strip (h : Unquoted t) : PyStr.strip (cp ' ' :: t) = t := by
  obtain ⟨front, last, hlast⟩ := (List.eq_nil_or_concat' t).resolve_left h.nonempty
  obtain ⟨c, t', hhead⟩ := List.exists_cons_of_ne_nil h.nonempty
  have hspace : PyStr.isspace last = false := h.isspace (by simp [hlast])
  have hspace' : PyStr.isspace c = false := h.isspace (by simp [hhead])
  have hdrop : (cp ' ' :: t).dropWhile PyStr.isspace = t := by
    rw [List.dropWhile_cons_of_pos rfl, hhead, List.dropWhile_cons_of_neg (by simp [hspace'])]
  rw [PyStr.strip, hdrop, hlast, rstrip_append_cons hspace]
  rfl

/-- A text without quotes is one of the words, or a number, or stands for itself. -/
theorem parseScalar_unquoted (h : Unquoted t) : parseScalar (cp ' ' :: t) =
    if t = py "true" then .ok (.scalar (.bool true))
    else if t = py "false" then .ok (.scalar (.bool false))
    else if t = py "null" then .ok (.scalar .none)
    else .ok (.scalar ((int? t).elim (.str t) .int)) := by
  have hhead : ∀ q, q = cp '"' ∨ q = cp '\'' → t.head? ≠ some q := by
    rintro q hq heq
    have hplain := h.plain q (List.mem_of_head? heq)
    rcases hq with rfl | rfl
    · exact hplain.2.1 rfl
    · exact hplain.1 rfl
  have htilde : t ≠ py "~" := by
    rintro rfl
    exact absurd (h.range (cp '~') (by decide)) (by decide)
  unfold parseScalar
  dsimp only
  rw [h.strip, h.lower, if_neg h.nonempty,
    if_neg (not_or_intro (hhead _ (Or.inl rfl)) (hhead _ (Or.inr rfl)))]
  simp only [htilde, or_false]
  cases int? t <;> rfl

end unquoted

/-- What is written for a scalar is read as the scalar. -/
theorem parseScalar_yamlScalar {value : ManifestScalar} (h : Written value) :
    parseScalar (cp ' ' :: yamlScalar value) = .ok (.scalar value) := by
  cases value with
  | none => rfl
  | bool b => cases b <;> rfl
  | int n =>
    have hnumber : int? (py (toString n)) = some n := int?_toString h
    have hword : ∀ w, int? w = none → py (toString n) ≠ w := by
      rintro w hw heq
      rw [heq, hw] at hnumber
      cases hnumber
    rw [yamlScalar, parseScalar_unquoted (unquoted_toString n), hnumber,
      if_neg (hword _ rfl), if_neg (hword _ rfl), if_neg (hword _ rfl), Option.elim_some]
  | str s => exact parseScalar_doubleQuoted (JsonString.jsonChars_dumpsChars s)

/-- A scalar is kept by `_strip_comment`, and has no blank at its end. -/
theorem stripCommentFrom_yamlScalar (value : ManifestScalar) :
    stripCommentFrom none false (cp ' ' :: yamlScalar value) = cp ' ' :: yamlScalar value := by
  have hblank := strip_outside (c := cp ' ') (by decide) (by decide) (by decide)
  rw [hblank]
  rcases yamlScalar_cases value with h | ⟨s, rfl⟩
  · have := strip_plain h.plain []
    rw [List.append_nil] at this
    rw [this]
    simp [stripCommentFrom]
  · have := strip_doubleQuoted (JsonString.jsonChars_dumpsChars s) []
    rw [List.append_nil] at this
    rw [yamlScalar, this]
    simp [stripCommentFrom]

/-- A written scalar ends in no blank. -/
theorem rstrip_yamlScalar (value : ManifestScalar) (x : PyStr) :
    rstrip (x ++ yamlScalar value) = x ++ yamlScalar value := by
  rcases yamlScalar_cases value with h | ⟨s, rfl⟩
  · obtain ⟨front, last, hlast⟩ := (List.eq_nil_or_concat' _).resolve_left h.nonempty
    have hspace : PyStr.isspace last = false := h.isspace (by simp [hlast])
    rw [hlast, ← List.append_assoc, rstrip_append_cons hspace]
    rfl
  · rw [yamlScalar, doubleQuoted, ← List.cons_append, ← List.append_assoc,
      rstrip_append_cons rfl]
    rfl

/-- A written scalar stays on its line. -/
theorem inline_yamlScalar {value : ManifestScalar} (h : Written value) :
    Inline (yamlScalar value) := by
  rcases yamlScalar_cases value with hunquoted | ⟨s, rfl⟩
  · exact hunquoted.inline
  · refine .cons (by decide) (.append (fun c hc => ?_) (.cons (by decide) nofun))
    have hlow := JsonString.le_of_mem_dumpsChars hc
    constructor
    · rintro rfl
      exact absurd hlow (by decide)
    · have hchar : c.val < 0x7F ∨ c.val ≠ 0x85 ∧ c.val ≠ 0x2028 ∧ c.val ≠ 0x2029 :=
        ((JsonString.jsonChars_dumpsChars s).mem_or c hc).symm.imp (·.2) (h c)
      simp only [isLineBreak, Bool.or_eq_false_iff, Bool.and_eq_false_iff,
        decide_eq_false_iff_not, beq_eq_false_iff_ne]
      omega

/-! ## Reading a line -/

section reading

variable {key value : PyStr}

/-- A line with a key and a text that is kept. -/
theorem readLine_dumped (hkey : PlainKey key) (htab : cp '\t' ∉ value)
    (hcomment : stripCommentFrom none false value = value) (hend : rstrip value = value)
    (indent : ℕ) : readLine (blanks indent ++ (key ++ cp ':' :: value)) =
      .ok (some ⟨indent, key, value⟩) := by
  obtain ⟨k, key', hcons, hk, hitem⟩ := hkey.head
  have hcolon : ∀ c ∈ key, c ≠ cp ':' := fun c hc => (hkey.plain c hc).1
  have htab' : cp '\t' ∉ blanks indent ++ (key ++ cp ':' :: value) := by
    intro hmem
    rcases List.mem_append.1 hmem with hmem | hmem
    · exact absurd (List.eq_of_mem_replicate hmem) (by decide)
    rcases List.mem_append.1 hmem with hmem | hmem
    · exact (hkey.inline _ hmem).1 rfl
    · rcases List.mem_cons.1 hmem with hmem | hmem
      · exact absurd hmem (by decide)
      · exact htab hmem
  have hline : stripComment (blanks indent ++ (key ++ cp ':' :: value)) =
      blanks indent ++ (key ++ cp ':' :: value) := by
    have hblank : ∀ c ∈ blanks indent, c ≠ cp '\'' ∧ c ≠ cp '"' ∧ c ≠ cp '#' :=
      fun c hc => List.eq_of_mem_replicate hc ▸ by decide
    have hplain : ∀ c ∈ key, c ≠ cp '\'' ∧ c ≠ cp '"' ∧ c ≠ cp '#' := by
      intro c hc
      obtain ⟨-, hhash, hsingle, hdouble⟩ := hkey.plain c hc
      exact ⟨hsingle, hdouble, hhash⟩
    rw [stripComment, strip_plain hblank, strip_plain hplain,
      strip_outside (by decide) (by decide) (by decide), hcomment, ← List.append_assoc,
      rstrip_append_cons rfl, hend]
  have hblanks : lstripBlanks (blanks indent ++ (key ++ cp ':' :: value)) =
      key ++ cp ':' :: value := by
    have hk' : k ≠ cp ' ' := by
      rintro rfl
      cases hk
    rw [lstripBlanks, blanks, List.dropWhile_append_of_pos (by simp), hcons, List.cons_append,
      List.dropWhile_cons_of_neg (by simpa using hk')]
  have hne : PyStr.strip (blanks indent ++ (key ++ cp ':' :: value)) ≠ [] :=
    PyStr.strip_ne_nil (c := k) (by simp [hcons]) hk
  rw [readLine, if_neg htab', hline]
  dsimp only
  rw [if_neg hne, hblanks, if_neg (by rw [hcons]; simpa using hitem), if_neg (by simp),
    List.takeWhile_append_of_pos (by simpa using hcolon),
    List.dropWhile_append_of_pos (by simpa using hcolon)]
  simp [blanks, hkey.stripped, hkey.nonempty]

/-- The line of a key with a scalar. -/
theorem readLine_scalar (hkey : PlainKey key) {value : ManifestScalar} (hvalue : Written value)
    (indent : ℕ) : readLine (blanks indent ++ (key ++ (py ": " ++ yamlScalar value))) =
      .ok (some ⟨indent, key, cp ' ' :: yamlScalar value⟩) := by
  have htab : cp '\t' ∉ cp ' ' :: yamlScalar value := by
    intro hmem
    rcases List.mem_cons.1 hmem with hmem | hmem
    · exact absurd hmem (by decide)
    · exact (inline_yamlScalar hvalue _ hmem).1 rfl
  exact readLine_dumped hkey htab (stripCommentFrom_yamlScalar value)
    (rstrip_yamlScalar value [cp ' ']) indent

/-- The line of a key that opens a mapping. -/
theorem readLine_opening (hkey : PlainKey key) (indent : ℕ) :
    readLine (blanks indent ++ (key ++ py ":")) = .ok (some ⟨indent, key, []⟩) :=
  readLine_dumped hkey List.not_mem_nil rfl rfl indent

end reading

/-! ## The data that keep to lines -/

/-- Plain keys, none twice in one mapping, scalars that can be written on one line, and no list with
an item. -/
inductive Writable : List (PyStr × DumpValue) → Prop
  | nil : Writable []
  | scalar {key value rest} (hkey : PlainKey key) (hnew : key ∉ rest.map Prod.fst)
      (hvalue : Written value) : Writable rest → Writable ((key, .scalar (.scalar value)) :: rest)
  | emptyList {key rest} (hkey : PlainKey key) (hnew : key ∉ rest.map Prod.fst) :
      Writable rest → Writable ((key, .scalar (.list [])) :: rest)
  | map {key entries rest} (hkey : PlainKey key) (hnew : key ∉ rest.map Prod.fst) :
      Writable entries → Writable rest → Writable ((key, .map entries) :: rest)

/-- One line, with no blank at its end. -/
structure OneLine (line : PyStr) : Prop where
  inline : Inline line
  stripped : rstrip line = line

theorem inline_blanks (indent : ℕ) : Inline (blanks indent) :=
  fun c hc => List.eq_of_mem_replicate hc ▸ by decide

/-- A line that opens a mapping is one line. -/
theorem oneLine_opening {key : PyStr} (hkey : PlainKey key) (indent : ℕ) :
    OneLine (blanks indent ++ (key ++ py ":")) := by
  refine ⟨(inline_blanks indent).append (hkey.inline.append (by decide)), ?_⟩
  rw [← List.append_assoc]
  exact rstrip_append_cons rfl _ []

/-- A line with a scalar is one line. -/
theorem oneLine_scalar {key : PyStr} (hkey : PlainKey key) {value : ManifestScalar}
    (hvalue : Written value) (indent : ℕ) :
    OneLine (blanks indent ++ (key ++ (py ": " ++ yamlScalar value))) := by
  constructor
  · exact (inline_blanks indent).append
      (hkey.inline.append (Inline.append (by decide) (inline_yamlScalar hvalue)))
  · rw [← List.append_assoc, ← List.append_assoc, rstrip_yamlScalar]

theorem oneLine_trimmed {lines : List PyStr} (h : ∀ line ∈ lines, OneLine line) :
    ∀ line ∈ trimmed lines, OneLine line := by
  unfold trimmed
  split_ifs
  · exact List.forall_mem_singleton.2 ⟨nofun, rfl⟩
  · exact fun line hline => h line ((List.rdropWhile_prefix _ _).subset hline)

/-- Each line that is written is one line. -/
theorem Writable.oneLine {entries : List (PyStr × DumpValue)} (h : Writable entries) (indent : ℕ) :
    ∀ line ∈ dumpLines indent entries, OneLine line := by
  induction h generalizing indent with
  | nil => exact nofun
  | scalar hkey _ hvalue _ ih => exact List.forall_mem_cons.2 ⟨oneLine_scalar hkey hvalue _, ih _⟩
  | emptyList hkey _ _ ih => exact List.forall_mem_cons.2 ⟨oneLine_opening hkey _, ih _⟩
  | map hkey _ _ _ ihentries ih =>
    exact List.forall_mem_cons.2 ⟨oneLine_opening hkey _,
      List.forall_mem_append.2 ⟨oneLine_trimmed (ihentries _), ih _⟩⟩

theorem Writable.joinLines_eq {entries : List (PyStr × DumpValue)} (h : Writable entries)
    (indent : ℕ) : (dumpEntries indent entries = [] ↔ dumpLines indent entries = []) ∧
      joinLines (dumpEntries indent entries) = joinLines (dumpLines indent entries) := by
  -- a line of an entry is a part of its own
  have hline : ∀ (line : PyStr) {xs ys : List PyStr},
      (xs = [] ↔ ys = []) ∧ joinLines xs = joinLines ys →
      (line :: xs = [] ↔ line :: ys = []) ∧ joinLines (line :: xs) = joinLines (line :: ys) := by
    intro line xs ys h
    have := joinLines_part (List.cons_ne_nil line []) h.1 h.2
    rw [joinLines_singleton] at this
    exact ⟨by simp, this⟩
  induction h generalizing indent with
  | nil => exact ⟨Iff.rfl, rfl⟩
  | scalar _ _ _ _ ih => exact hline _ (ih indent)
  | emptyList _ _ _ ih => exact hline _ (ih indent)
  | @map key entries rest _ _ hentries _ ihentries ih =>
    have hnested : rstrip (joinLines (dumpEntries (indent + 2) entries) ++ py "\n") =
        joinLines (trimmed (dumpLines (indent + 2) entries)) := by
      rw [(ihentries _).2, joinLines_trimmed]
      exact rstrip_joinLines fun line hline => (hentries.oneLine _ line hline).stripped
    have hrest := ih indent
    refine hline _ ⟨by simp [trimmed_ne_nil], ?_⟩
    rw [hnested]
    exact joinLines_part (trimmed_ne_nil _) hrest.1 hrest.2

/-- The lines of the text. -/
theorem Writable.splitlines_dumpYaml {entries : List (PyStr × DumpValue)} (h : Writable entries) :
    splitlines (dumpYaml 0 entries) = if entries = [] then [[]] else dumpLines 0 entries := by
  have hlines : entries ≠ [] → dumpLines 0 entries ≠ [] := by
    cases h <;> simp [dumpLines, entryLines, valueLines]
  rw [dumpYaml, (h.joinLines_eq 0).2]
  split_ifs with hnil
  · rw [hnil]
    rfl
  · exact splitlines_joinLines (hlines hnil) fun line hline c hc =>
      ((h.oneLine 0 line hline).inline c hc).2

end HakoniwaBridge
