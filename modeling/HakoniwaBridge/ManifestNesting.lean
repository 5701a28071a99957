import HakoniwaBridge.Manifest
import HakoniwaBridge.Lib.Offside

/-!
# How a manifest nests

The stack of `load_simple_yaml` holds open dictionaries only: a line with a scalar is never pushed.
So a line below a scalar, or one between two levels, is taken into the innermost dictionary of
smaller indentation; and since the root has indentation -1, the stack is never empty and the check
for an invalid indentation never fails.

* `KeyLine`, `keyLines` — the lines of a text that have a key, with what they say.
* `place` — where the loader puts a key line; `nestedPath` — where it belongs by its indentation.
* `Accepted` — no line of a text is wrong in itself, and no key comes twice in one dictionary.
* `loadSimpleYaml_cases` — **what is accepted, and what the result holds at which path**.
* `keepsNesting_iff` — **a text is loaded as it is indented, or rejected, exactly when, if it is
  accepted, its key lines are `Stepwise`** (see `Lib.Offside`).
-/

namespace HakoniwaBridge

open Lib Lib.Offside

/-- A line with a key; the value is none for a line that opens a dictionary. -/
structure KeyLine where
  indent : ℕ
  key : PyStr
  value : Option ManifestScalar

/-- What a line says, none for a blank line; or what is wrong with it, in its form or its value. -/
def readKeyLine (raw : PyStr) : Except PyStr (Option KeyLine) :=
  match readLine raw with
  | .error message => .error message
  | .ok none => .ok none
  | .ok (some line) =>
    match parseScalar line.rawValue with
    | .error e => .error e.message
    | .ok parsed => .ok (some ⟨line.indent, line.key, parsed.head⟩)

/-- The key line that a line is, if it is one. -/
def keyLine? (raw : PyStr) : Option KeyLine :=
  match readKeyLine raw with
  | .ok line => line
  | .error _ => none

/-- The key lines of a text. -/
def keyLines (text : PyStr) : List KeyLine := (PyStr.splitlines text).filterMap keyLine?

section lines

variable (L : List KeyLine) (i : ℕ)

def indentAt : ℕ := (L[i]?).elim 0 (·.indent)

def keyAt : PyStr := (L[i]?).elim [] (·.key)

def valueAt : Option ManifestScalar := (L[i]?).bind (·.value)

/-- The line opens a dictionary. -/
def opensAt : Bool := (L[i]?).elim false (·.value.isNone)

/-- Where the loader puts a line: in the innermost dictionary of smaller indentation. -/
def place : List PyStr :=
  opened (indentAt L) (opensAt L) (keyAt L) (indentAt L i) i ++ [keyAt L i]

/-- Where a line belongs by its indentation: below the nearest line of smaller indentation. -/
def nestedPath : List PyStr := outer (indentAt L) (keyAt L) (indentAt L i) i ++ [keyAt L i]

/-- No earlier line has the same key in the same dictionary. -/
def Fresh : Prop := ∀ k < i, place L k ≠ place L i

end lines

/-- No line of a text is wrong, and no key comes twice in the dictionary in which it is put. -/
def Accepted (text : PyStr) : Prop :=
  (∀ raw ∈ PyStr.splitlines text, ∃ line, readKeyLine raw = .ok line) ∧
    ∀ i < (keyLines text).length, Fresh (keyLines text) i

/-- A mapping nests as the key lines are indented: each line is in the mapping opened by the nearest
preceding line of smaller indentation, which is a line that opened one, and the keys directly in
one mapping have the same indentation. -/
structure NestsByIndentation (L : List KeyLine) (root : ManifestValue) : Prop where
  nested : Nested (indentAt L) (opensAt L) L.length
  placed : ∀ i < L.length, root.look (nestedPath L i) = some (valueAt L i)

/-- What is loaded nests as it is indented, and what cannot nest so is rejected. -/
structure KeepsNesting (path text : PyStr) : Prop where
  loaded : ∀ root, loadSimpleYaml path text = .ok root → NestsByIndentation (keyLines text) root
  rejected : (¬ ∃ root, NestsByIndentation (keyLines text) root) →
    ∃ e, loadSimpleYaml path text = .error e

/-! ## One line -/

variable {L : List KeyLine} {m : ℕ}

/-- The loader after `m` of the lines: the open dictionaries are on the stack, and the root holds
these lines at their places and nothing else. -/
structure Loaded (L : List KeyLine) (m : ℕ) (s : Loader) : Prop where
  stack : IsOpen (indentAt L) (opensAt L) (keyAt L) s.stack m
  look : ∀ q v, s.root.look q = some v ↔
    (q = [] ∧ v = none) ∨ ∃ i < m, q = place L i ∧ v = valueAt L i

theorem loaded_initial (L : List KeyLine) : Loaded L 0 Loader.initial := by
  refine ⟨isOpen_zero, fun q v => ?_⟩
  cases q with
  | nil => simp [Loader.initial, NestedMap.head, eq_comm]
  | cons k q => simp [Loader.initial, NestedMap.look_map_cons]

/-- A line opens a dictionary iff it has no scalar. -/
theorem opensAt_eq (h : m < L.length) : opensAt L m = (valueAt L m).isNone := by
  simp [opensAt, valueAt, h]

namespace Loaded

variable {s : Loader}

/-- The innermost open dictionary is in the root. -/
theorem look_parent (h : Loaded L m s) (hm : m ≤ L.length) (bound : ℕ) :
    s.root.look (opened (indentAt L) (opensAt L) (keyAt L) bound m) = some none := by
  rw [h.look]
  rcases opened_eq (keyAt L) bound m with hnil | ⟨j, hj, hopens, hpath⟩
  · exact Or.inl ⟨hnil, rfl⟩
  · refine Or.inr ⟨j, hj, hpath, ?_⟩
    rw [opensAt_eq (by omega), Option.isNone_iff_eq_none] at hopens
    exact hopens.symm

/-- A place is free iff no earlier line was put there. -/
theorem look_place (h : Loaded L m s) : s.root.look (place L m) = none ↔ Fresh L m := by
  constructor
  · intro hnone k hk hsame
    have htaken := (h.look (place L k) (valueAt L k)).2 (Or.inr ⟨k, hk, rfl, rfl⟩)
    rw [hsame, hnone] at htaken
    cases htaken
  · intro hfresh
    cases hlook : s.root.look (place L m) with
    | none => rfl
    | some v =>
      rcases (h.look _ v).1 hlook with ⟨hnil, -⟩ | ⟨k, hk, hsame, -⟩
      · simp [place] at hnil
      · exact absurd hsame.symm (hfresh k hk)

/-- The stack of the loader after a line. -/
theorem stack_next (h : Loaded L m s) {indent : ℕ} {key : PyStr} {parsed : ManifestValue}
    (hline : L[m]? = some ⟨indent, key, parsed.head⟩) {d : ℤ} {below : List (ℤ × List PyStr)}
    {parent : List PyStr} (hparent : opened (indentAt L) (opensAt L) (keyAt L) indent m = parent)
    (hpop : (s.stack.dropWhile fun entry => decide ((indent : ℤ) ≤ entry.1)) =
      (d, parent) :: below) :
    IsOpen (indentAt L) (opensAt L) (keyAt L)
      (pushParsed ((d, parent) :: below) (indent, parent ++ [key]) parsed) (m + 1) := by
  have hindent : indentAt L m = indent := by simp [indentAt, hline]
  have hkey : keyAt L m = key := by simp [keyAt, hline]
  have hopens : opensAt L m = parsed.head.isNone := by simp [opensAt, hline]
  have hnext := h.stack.push
  rw [hindent, hkey, hopens, hpop, hparent] at hnext
  cases parsed with
  | map entries => exact hnext
  | scalar value => exact hnext

/-- **One line.** A line is put at its place if this is free, and is a duplicate else; no
indentation is invalid. -/
theorem placeLine (h : Loaded L m s) (path : PyStr) (lineno : ℕ) {line : LineHead}
    {parsed : ManifestValue} (hparse : parseScalar line.rawValue = .ok parsed)
    (hline : L[m]? = some ⟨line.indent, line.key, parsed.head⟩) :
    (Fresh L m ∧ ∃ s', HakoniwaBridge.placeLine path lineno line s = .ok s' ∧ Loaded L (m + 1) s') ∨
      (¬ Fresh L m ∧ HakoniwaBridge.placeLine path lineno line s =
        .error (located path lineno (py "duplicate key: " ++ line.key))) := by
  have hindent : indentAt L m = line.indent := by simp [indentAt, hline]
  have hkey : keyAt L m = line.key := by simp [keyAt, hline]
  have hvalue : valueAt L m = parsed.head := by simp [valueAt, hline]
  have hlength : m < L.length := (List.getElem?_eq_some_iff.1 hline).1
  -- the stack is not empty after the loop that pops it
  obtain ⟨d, below, htop⟩ :=
    @exists_openStack _ (indentAt L) (opensAt L) (keyAt L) line.indent m
  have hpop := (h.stack line.indent).trans htop
  generalize hparent : opened (indentAt L) (opensAt L) (keyAt L) line.indent m = parent at hpop
  have hplace : place L m = parent ++ [line.key] := by rw [place, hindent, hparent, hkey]
  have hlook := h.look_place
  rw [hplace] at hlook
  unfold HakoniwaBridge.placeLine
  rw [hpop]
  dsimp only
  by_cases hfresh : Fresh L m
  · have hnone := hlook.2 hfresh
    rw [hnone, hparse]
    refine Or.inl ⟨hfresh, _, rfl, h.stack_next hline hparent hpop, fun q v => ?_⟩
    rw [NestedMap.look_assign (bare_of_parseScalar hparse)
      (hparent ▸ h.look_parent hlength.le line.indent) hnone q, ← hplace]
    constructor
    · intro hq
      split_ifs at hq with hsame
      · exact Or.inr ⟨m, Nat.lt_succ_self m, hsame, by rw [hvalue]; exact (Option.some.inj hq).symm⟩
      · rcases (h.look q v).1 hq with hroot | ⟨i, hi, hrest⟩
        · exact Or.inl hroot
        · exact Or.inr ⟨i, by omega, hrest⟩
    · rintro (⟨rfl, rfl⟩ | ⟨i, hi, rfl, rfl⟩)
      · rw [if_neg (by simp [place]), h.look]
        exact Or.inl ⟨rfl, rfl⟩
      · rcases Nat.lt_succ_iff_lt_or_eq.1 hi with hi | rfl
        · rw [if_neg (hfresh i hi), h.look]
          exact Or.inr ⟨i, hi, rfl, rfl⟩
        · rw [if_pos rfl, hvalue]
  · right
    have hsome : (s.root.look (parent ++ [line.key])).isSome = true := by
      rw [Option.isSome_iff_ne_none]
      exact fun hnone => hfresh (hlook.1 hnone)
    rw [if_pos hsome]
    exact ⟨hfresh, rfl⟩

end Loaded

/-! ## All lines -/

/-- A key line is one that is read and has a scalar that parses. -/
theorem readKeyLine_of_parseScalar {raw : PyStr} {line : LineHead} {parsed : ManifestValue}
    (hread : readLine raw = .ok (some line)) (hparse : parseScalar line.rawValue = .ok parsed) :
    readKeyLine raw = .ok (some ⟨line.indent, line.key, parsed.head⟩) := by
  rw [readKeyLine, hread]
  dsimp only
  rw [hparse]

/-- A line whose value is wrong is an error wherever it would be put. -/
theorem placeLine_of_parseScalar_error (path : PyStr) (lineno : ℕ) {line : LineHead}
    {e : ConfigError} (hparse : parseScalar line.rawValue = .error e) (s : Loader) :
    ∃ e, placeLine path lineno line s = .error e := by
  unfold placeLine
  rw [hparse]
  split
  · exact ⟨_, rfl⟩
  · split_ifs <;> exact ⟨_, rfl⟩

/-- None of the lines to come, from key line `m` on, is wrong or a duplicate. -/
structure GoodFrom (L : List KeyLine) (m : ℕ) (raws : List PyStr) : Prop where
  readable : ∀ raw ∈ raws, ∃ line, readKeyLine raw = .ok line
  fresh : ∀ i, m ≤ i → i < L.length → Fresh L i

theorem not_goodFrom_of_error {raw message : PyStr} (h : readKeyLine raw = .error message)
    (raws : List PyStr) : ¬ GoodFrom L m (raw :: raws) := by
  intro hgood
  obtain ⟨line, hline⟩ := hgood.readable raw List.mem_cons_self
  rw [h] at hline
  cases hline

theorem goodFrom_cons_blank {raw : PyStr} (h : readKeyLine raw = .ok none) (raws : List PyStr) :
    GoodFrom L m (raw :: raws) ↔ GoodFrom L m raws := by
  constructor
  · exact fun hgood => ⟨(List.forall_mem_cons.1 hgood.readable).2, hgood.fresh⟩
  · exact fun hgood => ⟨List.forall_mem_cons.2 ⟨⟨none, h⟩, hgood.readable⟩, hgood.fresh⟩

theorem goodFrom_cons_key {raw : PyStr} {line : KeyLine} (h : readKeyLine raw = .ok (some line))
    (hfresh : Fresh L m) (raws : List PyStr) :
    GoodFrom L m (raw :: raws) ↔ GoodFrom L (m + 1) raws := by
  constructor
  · exact fun hgood => ⟨(List.forall_mem_cons.1 hgood.readable).2,
      fun i hi => hgood.fresh i (by omega)⟩
  · intro hgood
    refine ⟨List.forall_mem_cons.2 ⟨⟨some line, h⟩, hgood.readable⟩, fun i hmi hi => ?_⟩
    rcases Nat.eq_or_lt_of_le hmi with rfl | hlt
    · exact hfresh
    · exact hgood.fresh i hlt hi

/-- **The loop**, by induction on the lines to come: they are all put at their places, or one of
them is wrong or a duplicate. -/
theorem Loaded.loadLines {s : Loader} (h : Loaded L m s) (path : PyStr) (lineno : ℕ)
    {raws : List PyStr} (hm : m ≤ L.length) (hraws : L.drop m = raws.filterMap keyLine?) :
    (GoodFrom L m raws ∧
        ∃ s', HakoniwaBridge.loadLines path lineno raws s = .ok s' ∧ Loaded L L.length s') ∨
      (¬ GoodFrom L m raws ∧ ∃ e, HakoniwaBridge.loadLines path lineno raws s = .error e) := by
  induction raws generalizing m s lineno with
  | nil =>
    have hlength : m = L.length := le_antisymm hm (List.drop_eq_nil_iff.1 hraws)
    have hgood : GoodFrom L m [] :=
      ⟨fun raw hraw => absurd hraw List.not_mem_nil, fun i hmi hi => by omega⟩
    exact Or.inl ⟨hgood, s, rfl, hlength ▸ h⟩
  | cons raw raws ih =>
    unfold HakoniwaBridge.loadLines
    cases hread : readLine raw with
    | error message =>
      have hkey : readKeyLine raw = .error message := by rw [readKeyLine, hread]
      exact Or.inr ⟨not_goodFrom_of_error hkey raws, _, rfl⟩
    | ok line? =>
      cases line? with
      | none =>
        have hkey : readKeyLine raw = .ok none := by rw [readKeyLine, hread]
        have hnone : keyLine? raw = none := by rw [keyLine?, hkey]
        rw [List.filterMap_cons_none hnone] at hraws
        rw [goodFrom_cons_blank hkey]
        exact ih h (lineno + 1) hm hraws
      | some line =>
        dsimp only
        cases hparse : parseScalar line.rawValue with
        | error e =>
          have hkey : readKeyLine raw = .error e.message := by
            rw [readKeyLine, hread]
            dsimp only
            rw [hparse]
          obtain ⟨e', he'⟩ := placeLine_of_parseScalar_error path lineno hparse s
          rw [he']
          exact Or.inr ⟨not_goodFrom_of_error hkey raws, _, rfl⟩
        | ok parsed =>
          have hkey := readKeyLine_of_parseScalar hread hparse
          have hsome : keyLine? raw = some ⟨line.indent, line.key, parsed.head⟩ := by
            rw [keyLine?, hkey]
          rw [List.filterMap_cons_some hsome] at hraws
          have hline : L[m]? = some ⟨line.indent, line.key, parsed.head⟩ := by
            rw [← List.head?_drop, hraws, List.head?_cons]
          have hlength : m < L.length := (List.getElem?_eq_some_iff.1 hline).1
          have hrest : L.drop (m + 1) = raws.filterMap keyLine? := by
            rw [← List.tail_drop, hraws, List.tail_cons]
          rcases h.placeLine path lineno hparse hline with ⟨hfresh, s', hs', hnext⟩ | ⟨hdup, herror⟩
          · rw [goodFrom_cons_key hkey hfresh, hs']
            exact ih hnext (lineno + 1) hlength hrest
          · rw [herror]
            exact Or.inr ⟨fun hgood => hdup (hgood.fresh m le_rfl hlength), _, rfl⟩

/-- **What is accepted, and what the result holds.** An accepted text is loaded, with its key lines
at their places and nothing else; any other text is an error. -/
theorem loadSimpleYaml_cases (path text : PyStr) :
    (Accepted text ∧ ∃ root, loadSimpleYaml path text = .ok root ∧ ∀ q v, root.look q = some v ↔
      (q = [] ∧ v = none) ∨
        ∃ i < (keyLines text).length, q = place (keyLines text) i ∧ v = valueAt (keyLines text) i) ∨
      (¬ Accepted text ∧ ∃ e, loadSimpleYaml path text = .error e) := by
  have haccepted : Accepted text ↔ GoodFrom (keyLines text) 0 (PyStr.splitlines text) :=
    ⟨fun ⟨hall, hfresh⟩ => ⟨hall, fun i _ => hfresh i⟩,
      fun h => ⟨h.readable, fun i => h.fresh i (Nat.zero_le i)⟩⟩
  have hlines : (keyLines text).drop 0 = (PyStr.splitlines text).filterMap keyLine? :=
    List.drop_zero
  rw [haccepted, loadSimpleYaml]
  rcases (loaded_initial (keyLines text)).loadLines path 1 (Nat.zero_le _) hlines with
    ⟨hgood, s, hs, hloaded⟩ | ⟨hbad, e, he⟩
  · exact Or.inl ⟨hgood, s.root, by rw [hs]; rfl, hloaded.look⟩
  · exact Or.inr ⟨hbad, e, by rw [he]; rfl⟩

/-- **A text is loaded as it is indented, or rejected, exactly when, if it is accepted, its key
lines are stepwise.** -/
theorem keepsNesting_iff (path text : PyStr) : KeepsNesting path text ↔
    (Accepted text →
      Stepwise (indentAt (keyLines text)) (opensAt (keyLines text)) (keyLines text).length) := by
  rw [← nested_iff]
  rcases loadSimpleYaml_cases path text with ⟨haccepted, root, hroot, hlook⟩ | ⟨hnot, e, he⟩
  · constructor
    · exact fun h _ => (h.loaded root hroot).nested
    · intro h
      have hnested := h haccepted
      have hnests : NestsByIndentation (keyLines text) root := by
        refine ⟨hnested, fun i hi => (hlook _ _).2 (Or.inr ⟨i, hi, ?_, rfl⟩)⟩
        rw [nestedPath, place, hnested.opened_eq_outer _ hi]
      refine ⟨fun root' hroot' => ?_, fun hnone => absurd ⟨root, hnests⟩ hnone⟩
      obtain rfl : root = root' := Except.ok.inj (hroot.symm.trans hroot')
      exact hnests
  · constructor
    · exact fun _ haccepted => absurd haccepted hnot
    · refine fun _ => ⟨fun root hroot => ?_, fun _ => ⟨e, he⟩⟩
      rw [he] at hroot
      cases hroot

/-- A key below a scalar is taken into the root. -/
theorem key_below_scalar_accepted :
    ¬ KeepsNesting (py "hakoniwa.yaml") (py "a: 1\n  b: 2") := by
  intro h
  have hnested := (h.loaded (.map [(py "a", .scalar (.int 1)), (py "b", .scalar (.int 2))])
    rfl).nested
  have hopens := hnested.opened 1 (by decide) 0
    ⟨by decide, by decide, fun k hk hk' => by omega⟩
  exact absurd hopens (by decide)

end HakoniwaBridge
