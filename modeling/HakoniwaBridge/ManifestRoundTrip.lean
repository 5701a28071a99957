import HakoniwaBridge.ManifestDump

/-!
# Reading back what was written

`load_simple_yaml` on what `dump_yaml` writes. The loader fills the mappings one after another, each
at the end of the one above it. It knows no lists.

* `Stands` — the loader stands at the end of an open mapping; `Writable.stands`: the lines of
  entries fill it.
* `loadSimpleYaml_dumpYaml` — **what is written is read back**, an empty list as an empty mapping.
* `not_loaded_of_hasItem` — **data with an item in a list are never read back.**
-/

namespace HakoniwaBridge

open Lib PyStr

/-! ## Loading the lines -/

theorem loadLines_append (path : PyStr) (xs ys : List PyStr) (n : ℕ) (s : Loader) :
    loadLines path n (xs ++ ys) s =
      (loadLines path n xs s).bind fun s => loadLines path (n + xs.length) ys s := by
  induction xs generalizing n s with
  | nil => rfl
  | cons raw xs ih =>
    have hlength : n + (raw :: xs).length = n + 1 + xs.length := by
      rw [List.length_cons]
      omega
    rw [List.cons_append, loadLines, loadLines, hlength]
    cases readLine raw with
    | error message => rfl
    | ok line =>
      cases line with
      | none => exact ih (n + 1) s
      | some line =>
        dsimp only
        cases placeLine path n line s with
        | error e => rfl
        | ok s => exact ih (n + 1) s

theorem loadLines_blank (path : PyStr) {lines : List PyStr} (h : ∀ line ∈ lines, line = [])
    (n : ℕ) (s : Loader) : loadLines path n lines s = .ok s := by
  induction lines generalizing n with
  | nil => rfl
  | cons line lines ih =>
    rw [List.forall_mem_cons] at h
    rw [h.1]
    exact ih h.2 (n + 1)

/-- Empty lines at the end do not matter. -/
theorem loadLines_trimmed (path : PyStr) (lines : List PyStr) (n : ℕ) (s : Loader) :
    loadLines path n (trimmed lines) s = loadLines path n lines s := by
  have hblank : ∀ line ∈ lines.rtakeWhile (· = []), line = [] :=
    fun line hline => by simpa using List.mem_rtakeWhile_imp hline
  have hsplit : loadLines path n lines s =
      (loadLines path n (lines.rdropWhile (· = [])) s).bind .ok := by
    conv_lhs => rw [← List.rdropWhile_append_rtakeWhile (p := (· = [])) (l := lines)]
    rw [loadLines_append]
    congr 1
    funext s
    exact loadLines_blank path hblank _ s
  have hbind : ∀ r : Except ConfigError Loader, r.bind .ok = r := by
    rintro (e | s) <;> rfl
  rw [hsplit, hbind]
  unfold trimmed
  split_ifs with hnil
  · rw [hnil]
    rfl
  · rfl

/-- What is loaded for a value that was written: an empty list is written like an empty mapping. -/
def readBack : DumpLeaf → ManifestValue
  | .scalar value => .scalar value
  | .list _ => .map []

/-- The loader stands in the open mapping at the end of the root, which holds the entries `done`,
and a line of the indentation goes there. -/
structure Stands (s : Loader) (indent : ℕ) (spine : NestedMap.Spine PyStr ManifestScalar)
    (done : List (PyStr × ManifestValue)) (d : ℤ) (below : List (ℤ × List PyStr)) : Prop where
  root : s.root = spine.fill done
  fresh : spine.Fresh
  stack : (s.stack.dropWhile fun entry => decide ((indent : ℤ) ≤ entry.1)) =
    (d, spine.path) :: below

theorem dropWhile_dropWhile_of_imp {α : Type*} {p q : α → Bool} {l : List α}
    (h : ∀ x, p x = true → q x = true) : (l.dropWhile p).dropWhile q = l.dropWhile q := by
  induction l with
  | nil => rfl
  | cons x l ih =>
    by_cases hx : p x = true
    · rw [List.dropWhile_cons_of_pos hx, List.dropWhile_cons_of_pos (h x hx), ih]
    · rw [List.dropWhile_cons_of_neg hx]

namespace Stands

variable {s : Loader} {indent n : ℕ} {spine : NestedMap.Spine PyStr ManifestScalar}
  {done inner : List (PyStr × ManifestValue)} {d : ℤ} {below : List (ℤ × List PyStr)}
  {key raw rawValue : PyStr} {parsed : ManifestValue}

theorem lt (h : Stands s indent spine done d below) : d < indent := by
  have hhead := List.head?_dropWhile_not (fun entry : ℤ × List PyStr =>
    decide ((indent : ℤ) ≤ entry.1)) s.stack
  rw [h.stack] at hhead
  simpa using hhead

/-- A line with a new key. -/
theorem line (h : Stands s indent spine done d below) (hnew : key ∉ done.map Prod.fst)
    (hraw : readLine raw = .ok (some ⟨indent, key, rawValue⟩))
    (hparse : parseScalar rawValue = .ok parsed) (path : PyStr) (lines : List PyStr) :
    loadLines path n (raw :: lines) s = loadLines path (n + 1) lines
      ⟨spine.fill (done ++ [(key, parsed)]),
        pushParsed ((d, spine.path) :: below) (indent, spine.path ++ [key]) parsed⟩ := by
  have hfree : (s.root.look (spine.path ++ [key])).isSome = false := by
    rw [h.root, NestedMap.look_fill h.fresh, NestedMap.look_map_cons,
      NestedMap.lookup_eq_none_of_new hnew]
    rfl
  rw [loadLines, hraw]
  dsimp only
  rw [placeLine, h.stack]
  dsimp only
  rw [hfree, if_neg Bool.false_ne_true, hparse, h.root]
  dsimp only
  rw [NestedMap.assign_fill h.fresh hnew]

/-- After a key with a scalar. -/
theorem scalar (h : Stands s indent spine done d below) (value : ManifestScalar) :
    Stands ⟨spine.fill (done ++ [(key, .scalar value)]), (d, spine.path) :: below⟩ indent spine
      (done ++ [(key, .scalar value)]) d below :=
  ⟨rfl, h.fresh, List.dropWhile_cons_of_neg (by simpa using h.lt)⟩

/-- After a key that opens a mapping. -/
theorem opening (h : Stands s indent spine done d below) (hnew : key ∉ done.map Prod.fst) :
    Stands ⟨spine.fill (done ++ [(key, .map [])]),
      (indent, spine.path ++ [key]) :: (d, spine.path) :: below⟩ (indent + 2)
      (spine ++ [(done, key)]) [] indent ((d, spine.path) :: below) := by
  refine ⟨(NestedMap.Spine.fill_concat ..).symm, h.fresh.concat hnew, ?_⟩
  rw [NestedMap.Spine.path_concat]
  exact List.dropWhile_cons_of_neg (by simp)

/-- Back from the mapping at a key. -/
theorem closing (hlt : d < indent) (hfresh : spine.Fresh)
    (h : Stands s (indent + 2) (spine ++ [(done, key)]) inner indent ((d, spine.path) :: below)) :
    Stands s indent spine (done ++ [(key, .map inner)]) d below := by
  refine ⟨h.root.trans (NestedMap.Spine.fill_concat ..), hfresh, ?_⟩
  have hpop := dropWhile_dropWhile_of_imp (l := s.stack)
    (p := fun entry => decide (((indent + 2 : ℕ) : ℤ) ≤ entry.1))
    (q := fun entry => decide ((indent : ℤ) ≤ entry.1)) fun entry hentry => by
      have := of_decide_eq_true hentry
      exact decide_eq_true (by omega)
  rw [← hpop, h.stack, List.dropWhile_cons_of_pos (by simp),
    List.dropWhile_cons_of_neg (by simpa using hlt)]

end Stands

/-- The lines of entries with new keys fill the open mapping. -/
theorem Writable.stands {entries : List (PyStr × DumpValue)} (h : Writable entries)
    {indent n : ℕ} {s : Loader} {spine : NestedMap.Spine PyStr ManifestScalar}
    {done : List (PyStr × ManifestValue)} {d : ℤ} {below : List (ℤ × List PyStr)}
    (hs : Stands s indent spine done d below)
    (hnew : ∀ key ∈ entries.map Prod.fst, key ∉ done.map Prod.fst) (path : PyStr) :
    ∃ s', loadLines path n (dumpLines indent entries) s = .ok s' ∧
      Stands s' indent spine (done ++ NestedMap.substEntries readBack entries) d below := by
  -- the keys behind an entry are new after it
  have hnext : ∀ {key : PyStr} {value : ManifestValue} {done : List (PyStr × ManifestValue)}
      {rest : List (PyStr × DumpValue)}, key ∉ rest.map Prod.fst →
      (∀ k ∈ rest.map Prod.fst, k ∉ done.map Prod.fst) →
      ∀ k ∈ rest.map Prod.fst, k ∉ (done ++ [(key, value)]).map Prod.fst := by
    intro key value done rest hkey hrest k hk hmem
    rw [List.map_append, List.mem_append] at hmem
    rcases hmem with hmem | hmem
    · exact hrest k hk hmem
    · obtain rfl : k = key := by simpa using hmem
      exact hkey hk
  induction h generalizing indent n s spine done d below with
  | nil => exact ⟨s, rfl, by simpa using hs⟩
  | @scalar key value rest hkey hfirst hvalue _ ih =>
    obtain ⟨hkeyNew, hrestNew⟩ := List.forall_mem_cons.1 hnew
    obtain ⟨s', hload, hs'⟩ := @ih indent (n + 1) _ spine _ d below (hs.scalar value)
      (hnext hfirst hrestNew)
    refine ⟨s', ?_, by simpa [readBack] using hs'⟩
    exact (hs.line hkeyNew (readLine_scalar hkey hvalue indent) (parseScalar_yamlScalar hvalue)
      path _).trans hload
  | @emptyList key rest hkey hfirst _ ih =>
    obtain ⟨hkeyNew, hrestNew⟩ := List.forall_mem_cons.1 hnew
    obtain ⟨s', hload, hs'⟩ := @ih indent (n + 1) _ spine _ d below
      ((hs.opening hkeyNew).closing hs.lt hs.fresh) (hnext hfirst hrestNew)
    refine ⟨s', ?_, by simpa [readBack] using hs'⟩
    exact (hs.line hkeyNew (readLine_opening hkey indent) rfl path _).trans hload
  | @map key entries rest hkey hfirst _ _ ihentries ih =>
    obtain ⟨hkeyNew, hrestNew⟩ := List.forall_mem_cons.1 hnew
    obtain ⟨s₁, hload₁, hs₁⟩ := @ihentries (indent + 2) (n + 1) _ _ _ _ _ (hs.opening hkeyNew)
      (by simp)
    obtain ⟨s₂, hload₂, hs₂⟩ := @ih indent
      (n + 1 + (trimmed (dumpLines (indent + 2) entries)).length) s₁ spine _ d below
      (hs₁.closing hs.lt hs.fresh) (hnext hfirst hrestNew)
    refine ⟨s₂, ?_, by simpa using hs₂⟩
    have hlines : dumpLines indent ((key, .map entries) :: rest) =
        (blanks indent ++ (key ++ py ":")) ::
          (trimmed (dumpLines (indent + 2) entries) ++ dumpLines indent rest) := rfl
    rw [hlines, hs.line hkeyNew (readLine_opening hkey indent) rfl path _, loadLines_append,
      loadLines_trimmed]
    exact (congrArg (Except.bind · _) hload₁).trans hload₂

/-- **Writing and reading back.** What `dump_yaml` writes for data that keep to lines is loaded as
the data, an empty list as an empty mapping. -/
theorem loadSimpleYaml_dumpYaml {entries : List (PyStr × DumpValue)} (h : Writable entries)
    (path : PyStr) : loadSimpleYaml path (dumpYaml 0 entries) =
      .ok (.map (NestedMap.substEntries readBack entries)) := by
  have hinitial : Stands Loader.initial 0 [] [] (-1) [] := ⟨rfl, nofun, rfl⟩
  obtain ⟨s, hload, hs⟩ := h.stands hinitial (n := 1) (by simp) path
  have hlines : loadLines path 1 (splitlines (dumpYaml 0 entries)) Loader.initial = .ok s := by
    rw [h.splitlines_dumpYaml]
    split_ifs with hnil
    · rw [hnil] at hload
      exact hload
    · exact hload
  rw [loadSimpleYaml, hlines]
  exact congrArg Except.ok hs.root

/-- A small build section, with a string that needs its quotes. -/
theorem loadSimpleYaml_dumpYaml_small : loadSimpleYaml [] (dumpYaml 0
    [(py "build", .map [(py "dir", .scalar (.scalar (.str (py "a: b # c")))),
      (py "flags", .scalar (.list []))])]) =
    .ok (.map [(py "build", .map [(py "dir", .scalar (.str (py "a: b # c"))),
      (py "flags", .map [])])]) := by
  have hkey : ∀ key ∈ [py "build", py "dir", py "flags"], PlainKey key := by
    simp only [List.forall_mem_cons]
    refine ⟨?_, ?_, ?_, nofun⟩ <;>
      exact ⟨by decide, by decide, by simp [py], by decide, by decide⟩
  have hinner : Writable [(py "dir", .scalar (.scalar (.str (py "a: b # c")))),
      (py "flags", .scalar (.list []))] :=
    .scalar (hkey _ (by simp)) (by decide) (by simp [Written, py, cp])
      (.emptyList (hkey _ (by simp)) (by decide) .nil)
  exact loadSimpleYaml_dumpYaml (.map (hkey _ (by simp)) (by decide) hinner .nil) []

/-! ## Lists -/

/-- Somewhere in the data there is a list with an item. -/
inductive HasItem : List (PyStr × DumpValue) → Prop
  | here {key item items rest} : HasItem ((key, .scalar (.list (item :: items))) :: rest)
  | inside {key entries rest} : HasItem entries → HasItem ((key, .map entries) :: rest)
  | later {entry rest} : HasItem rest → HasItem (entry :: rest)

/-- Behind a newline, a text has an item of a list. -/
def ItemLine (text : PyStr) : Prop :=
  ∃ before indent after, text = before ++ cp '\n' :: (blanks indent ++ cp '-' :: after)

theorem ItemLine.append {text : PyStr} (h : ItemLine text) (rest : PyStr) :
    ItemLine (text ++ rest) := by
  obtain ⟨before, indent, after, rfl⟩ := h
  exact ⟨before, indent, after ++ rest, by simp⟩

theorem ItemLine.behind {text : PyStr} (h : ItemLine text) (front : PyStr) :
    ItemLine (front ++ text) := by
  obtain ⟨before, indent, after, rfl⟩ := h
  exact ⟨front ++ before, indent, after, by simp⟩

theorem ItemLine.rstrip {text : PyStr} (h : ItemLine text) : ItemLine (PyStr.rstrip text) := by
  obtain ⟨before, indent, after, rfl⟩ := h
  refine ⟨before, indent, PyStr.rstrip after, ?_⟩
  have hsplit : ∀ x, before ++ cp '\n' :: (blanks indent ++ cp '-' :: x) =
      (before ++ cp '\n' :: blanks indent) ++ cp '-' :: x := by simp
  rw [hsplit, rstrip_append_cons rfl, ← hsplit]

theorem exists_joinLines_cons (line : PyStr) (lines : List PyStr) :
    ∃ rest, joinLines (line :: lines) = line ++ rest := by
  by_cases h : lines = []
  · exact ⟨[], by rw [h, joinLines_singleton, List.append_nil]⟩
  · exact ⟨_, joinLines_cons h line⟩

theorem dumpValue_ne_nil (indent : ℕ) (key : PyStr) (value : DumpValue) :
    dumpValue indent key value ≠ [] := by
  rcases value with (value | items) | entries <;> exact List.cons_ne_nil _ _

/-- An item of a list is written on a line of its own. -/
theorem itemLine_dumpEntries {entries : List (PyStr × DumpValue)} (h : HasItem entries)
    (indent : ℕ) : ItemLine (joinLines (dumpEntries indent entries)) := by
  induction h generalizing indent with
  | @here key item items rest =>
    have hlines : dumpEntries indent ((key, .scalar (.list (item :: items))) :: rest) =
        (blanks indent ++ (key ++ py ":")) :: (blanks indent ++ (py "  - " ++ yamlScalar item)) ::
          (items.map (fun item => blanks indent ++ (py "  - " ++ yamlScalar item)) ++
            dumpEntries indent rest) := rfl
    obtain ⟨after, hafter⟩ := exists_joinLines_cons
      (blanks indent ++ (py "  - " ++ yamlScalar item))
      (items.map (fun item => blanks indent ++ (py "  - " ++ yamlScalar item)) ++
        dumpEntries indent rest)
    have hitem : blanks indent ++ (py "  - " ++ yamlScalar item) =
        blanks (indent + 2) ++ cp '-' :: (cp ' ' :: yamlScalar item) := by
      rw [blanks, blanks, List.replicate_add, List.append_assoc]
      rfl
    rw [hlines, joinLines_cons (List.cons_ne_nil _ _), hafter, hitem]
    exact ⟨blanks indent ++ (key ++ py ":"), indent + 2, cp ' ' :: (yamlScalar item ++ after),
      by simp⟩
  | @inside key entries rest _ ih =>
    have hlines : dumpEntries indent ((key, .map entries) :: rest) =
        (blanks indent ++ (key ++ py ":")) ::
          PyStr.rstrip (joinLines (dumpEntries (indent + 2) entries) ++ py "\n") ::
            dumpEntries indent rest := rfl
    obtain ⟨after, hafter⟩ := exists_joinLines_cons
      (PyStr.rstrip (joinLines (dumpEntries (indent + 2) entries) ++ py "\n"))
      (dumpEntries indent rest)
    rw [hlines, joinLines_cons (List.cons_ne_nil _ _), hafter, List.append_cons]
    exact ((((ih (indent + 2)).append _).rstrip).append after).behind _
  | @later entry rest _ ih =>
    have hrest : dumpEntries indent rest ≠ [] := by
      intro hnil
      have hitem := ih indent
      rw [hnil] at hitem
      obtain ⟨before, _, _, heq⟩ := hitem
      cases before <;> cases heq
    obtain ⟨key, value⟩ := entry
    have hlines : dumpEntries indent ((key, value) :: rest) =
        dumpValue indent key value ++ dumpEntries indent rest := rfl
    rw [hlines, joinLines_append (dumpValue_ne_nil indent key value) hrest, List.append_cons]
    exact (ih indent).behind _

/-- The line of an item is rejected. -/
theorem readLine_item (indent : ℕ) (after : PyStr) :
    ∃ message, readLine (blanks indent ++ cp '-' :: after) = .error message := by
  rw [readLine]
  split_ifs with htab
  · exact ⟨_, rfl⟩
  · obtain ⟨kept, hkept⟩ : ∃ kept, stripComment (blanks indent ++ cp '-' :: after) =
        blanks indent ++ cp '-' :: kept := by
      have hblank : ∀ c ∈ blanks indent, c ≠ cp '\'' ∧ c ≠ cp '"' ∧ c ≠ cp '#' :=
        fun c hc => List.eq_of_mem_replicate hc ▸ by decide
      rw [stripComment, strip_plain hblank, strip_outside (by decide) (by decide) (by decide),
        rstrip_append_cons rfl]
      exact ⟨_, rfl⟩
    have hne : PyStr.strip (blanks indent ++ cp '-' :: kept) ≠ [] :=
      PyStr.strip_ne_nil (c := cp '-') (by simp) rfl
    have hblanks : lstripBlanks (blanks indent ++ cp '-' :: kept) = cp '-' :: kept := by
      rw [lstripBlanks, blanks, List.dropWhile_append_of_pos (by simp),
        List.dropWhile_cons_of_neg (by simp)]
    rw [hkept]
    dsimp only
    rw [if_neg hne, hblanks, List.head?_cons, if_pos rfl]
    exact ⟨_, rfl⟩

/-- A text with a line that is rejected is not loaded. -/
theorem loadSimpleYaml_of_readLine_error {raw message text : PyStr}
    (hraw : raw ∈ splitlines text) (herror : readLine raw = .error message) (path : PyStr) :
    ∃ e, loadSimpleYaml path text = .error e := by
  obtain ⟨before, after, hlines⟩ := List.append_of_mem hraw
  rw [loadSimpleYaml, hlines, loadLines_append]
  cases loadLines path 1 before Loader.initial with
  | error e => exact ⟨e, rfl⟩
  | ok s =>
    refine ⟨located path (1 + before.length) message, ?_⟩
    rw [Except.bind, loadLines, herror]
    rfl

/-- **Lists are written but not read.** What `dump_yaml` writes for data with an item in a list is
rejected, whatever the keys and the strings are. -/
theorem not_loaded_of_hasItem {entries : List (PyStr × DumpValue)} (h : HasItem entries)
    (path : PyStr) : ∃ e, loadSimpleYaml path (dumpYaml 0 entries) = .error e := by
  obtain ⟨before, indent, after, htext⟩ := (itemLine_dumpEntries h 0).append (py "\n")
  have hunbroken : ∀ c ∈ blanks indent ++ [cp '-'], isLineBreak c = false := by
    intro c hc
    rcases List.mem_append.1 hc with hc | hc
    · exact List.eq_of_mem_replicate hc ▸ rfl
    · exact List.mem_singleton.1 hc ▸ rfl
  obtain ⟨tail, lines, hfirst⟩ :=
    @exists_splitlinesFrom (blanks indent ++ [cp '-']) (by simp) after
  have hraw : blanks indent ++ cp '-' :: tail ∈ splitlines (dumpYaml 0 entries) := by
    rw [dumpYaml, htext, splitlines, splitlinesFrom_newline, List.append_cons (blanks indent),
      splitlinesFrom_append hunbroken, List.nil_append, hfirst]
    simp
  obtain ⟨message, hmessage⟩ := readLine_item indent tail
  exact loadSimpleYaml_of_readLine_error hraw hmessage path

/-- A list of options. -/
theorem not_loaded_small : ∃ e, loadSimpleYaml [] (dumpYaml 0
    [(py "version", .scalar (.scalar (.int 1))),
      (py "cmake_args", .scalar (.list [.str (py "-DX=ON")]))]) = .error e :=
  not_loaded_of_hasItem (.later .here) []

end HakoniwaBridge
