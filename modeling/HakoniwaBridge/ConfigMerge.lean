import HakoniwaBridge.Manifest
import Mathlib.Data.List.Lex
import Mathlib.Order.Fin.Basic

/-!
# Merging a manifest into the defaults

`_merge_known` of `tools/hako.py`.

* `unknownKeys`, `mergeEntries`, `mergeKnown` — the merge.
* `Fits` — where a default is a mapping, the override is one, with no other keys.
* `Overlaid` — the defaults with the values of the override in their places.
* `Misfit` — the first place where an override does not fit.
* `mergeKnown_cases` — **a merge succeeds exactly for what fits, and its result is overlaid; it
  fails with the error of a misfit.**
-/

namespace HakoniwaBridge

open Lib NestedMap

/-- The entries of a mapping. -/
abbrev ManifestEntries := List (PyStr × ManifestValue)

/-- Source: `_merge_known`, `sorted(set(overrides) - set(defaults))`. -/
def unknownKeys (defaults overrides : ManifestEntries) : List PyStr :=
  ((overrides.map Prod.fst).filter fun key => !decide (key ∈ defaults.map Prod.fst)).mergeSort
    fun a b => decide (a ≤ b)

/-- The error for unknown keys; the empty prefix is called `root`. -/
def unknownKeysError (pref : PyStr) (unknown : List PyStr) : ConfigError :=
  ⟨py "unknown key(s) under " ++ (if pref = [] then py "root" else pref) ++ py ": " ++
    List.intercalate (py ", ") unknown⟩

/-- Source: `_merge_known`, `path`. -/
def keyPath (pref key : PyStr) : PyStr := if pref = [] then key else pref ++ py "." ++ key

mutual

/-- Source: `tools/hako.py`, `_merge_known`, the loop over the defaults. -/
def mergeEntries (overrides : ManifestEntries) (pref : PyStr) :
    ManifestEntries → Except ConfigError ManifestEntries
  | [] => .ok []
  | entry :: defaults =>
    (mergeEntry overrides pref entry).bind fun merged =>
      (mergeEntries overrides pref defaults).map (merged :: ·)

/-- Source: `_merge_known`, the body of the loop. -/
def mergeEntry (overrides : ManifestEntries) (pref : PyStr) :
    PyStr × ManifestValue → Except ConfigError (PyStr × ManifestValue)
  | (key, default) =>
    (mergeValue ((valueOf key overrides).getD default) (keyPath pref key) default).map (Prod.mk key)

/-- Source: `_merge_known`, the value of a key, with the check for unknown keys in which the call
for a mapping begins. -/
def mergeValue (value : ManifestValue) (path : PyStr) :
    ManifestValue → Except ConfigError ManifestValue
  | .scalar _ => .ok value
  | .map defaults =>
    match value with
    | .scalar _ => .error ⟨path ++ py " must be a mapping"⟩
    | .map overrides =>
      if unknownKeys defaults overrides = [] then
        (mergeEntries overrides path defaults).map .map
      else .error (unknownKeysError path (unknownKeys defaults overrides))

end

/-- Source: `tools/hako.py`, `_merge_known`. -/
def mergeKnown (defaults overrides : ManifestEntries) (pref : PyStr) :
    Except ConfigError ManifestEntries :=
  if unknownKeys defaults overrides = [] then mergeEntries overrides pref defaults
  else .error (unknownKeysError pref (unknownKeys defaults overrides))

/-! ## What a merge yields -/

/-- As in a Python dictionary, no mapping has a key twice. -/
def UniqueKeys (t : ManifestValue) : Prop :=
  ∀ path entries, t.get path = some (.map entries) → (entries.map Prod.fst).Nodup

/-- Where the default is a mapping, the value is one with keys of the default only, if it has
anything there. -/
def Fits (default value : ManifestValue) : Prop :=
  ∀ path defaults, default.get path = some (.map defaults) →
    ∀ v, value.get path = some v → ∃ overrides, v = .map overrides ∧
      ∀ key ∈ overrides.map Prod.fst, key ∈ defaults.map Prod.fst

/-- The mappings have the keys of the defaults, and where a default is not a mapping stands the
value, if there is one, or else the default. -/
structure Overlaid (default value merged : ManifestValue) : Prop where
  keys : ∀ path defaults, default.get path = some (.map defaults) →
    ∃ entries, merged.get path = some (.map entries) ∧
      entries.map Prod.fst = defaults.map Prod.fst
  values : ∀ path s, default.get path = some (.scalar s) →
    merged.get path = some ((value.get path).getD (.scalar s))

/-- No key is unknown exactly when the defaults have them all. -/
theorem unknownKeys_eq_nil {defaults overrides : ManifestEntries} :
    unknownKeys defaults overrides = [] ↔
      ∀ key ∈ overrides.map Prod.fst, key ∈ defaults.map Prod.fst := by
  rw [unknownKeys, ← List.length_eq_zero_iff, List.length_mergeSort, List.length_eq_zero_iff,
    List.filter_eq_nil_iff]
  simp only [Bool.not_eq_true', decide_eq_false_iff_not, not_not]

/-! ## The loop -/

section loop

variable {overrides defaults merged : ManifestEntries} {pref key : PyStr} {default : ManifestValue}

/-- The value that the loop merges into a default. -/
def chosen (overrides : ManifestEntries) (key : PyStr) (default : ManifestValue) : ManifestValue :=
  (valueOf key overrides).getD default

/-- The entries are merged one after the other. -/
theorem mergeEntries_cons_eq_ok_iff : mergeEntries overrides pref ((key, default) :: defaults) =
    .ok merged ↔ ∃ value rest,
      mergeValue (chosen overrides key default) (keyPath pref key) default = .ok value ∧
        mergeEntries overrides pref defaults = .ok rest ∧
        merged = (key, value) :: rest := by
  rw [mergeEntries, mergeEntry, chosen]
  generalize mergeValue _ _ default = value
  generalize mergeEntries overrides pref defaults = rest
  cases value with
  | error e => simp [Except.map, Except.bind]
  | ok value =>
    cases rest with
    | error e => simp [Except.map, Except.bind]
    | ok rest => simp [Except.map, Except.bind, eq_comm]

/-- The result has the keys of the defaults, in their order. -/
theorem keys_of_mergeEntries (h : mergeEntries overrides pref defaults = .ok merged) :
    merged.map Prod.fst = defaults.map Prod.fst := by
  induction defaults generalizing merged with
  | nil =>
    obtain rfl := Except.ok.inj h
    rfl
  | cons entry defaults ih =>
    obtain ⟨value, rest, -, hrest, rfl⟩ := mergeEntries_cons_eq_ok_iff.1 h
    rw [List.map_cons, List.map_cons, ih hrest]

/-- Under each key stands what the merge makes of its two values. -/
theorem lookup_of_mergeEntries (h : mergeEntries overrides pref defaults = .ok merged)
    (hkey : valueOf key defaults = some default) : ∃ value, valueOf key merged = some value ∧
      mergeValue (chosen overrides key default) (keyPath pref key) default = .ok value := by
  induction defaults generalizing merged with
  | nil => cases hkey
  | cons entry defaults ih =>
    obtain ⟨key', default'⟩ := entry
    obtain ⟨value, rest, hvalue, hrest, rfl⟩ := mergeEntries_cons_eq_ok_iff.1 h
    rw [valueOf_cons] at hkey ⊢
    split_ifs at hkey ⊢ with heq
    · subst heq
      obtain rfl := Option.some.inj hkey
      exact ⟨value, rfl, hvalue⟩
    · exact ih hrest hkey

/-- If each entry merges, all of them do. -/
theorem exists_mergeEntries (h : ∀ entry ∈ defaults, ∃ value,
    mergeValue (chosen overrides entry.1 entry.2) (keyPath pref entry.1) entry.2 = .ok value) :
    ∃ merged, mergeEntries overrides pref defaults = .ok merged := by
  induction defaults with
  | nil => exact ⟨[], rfl⟩
  | cons entry defaults ih =>
    rw [List.forall_mem_cons] at h
    obtain ⟨⟨value, hvalue⟩, hdefaults⟩ := h
    obtain ⟨rest, hrest⟩ := ih hdefaults
    exact ⟨_, mergeEntries_cons_eq_ok_iff.2 ⟨value, rest, hvalue, hrest, rfl⟩⟩

/-- An error comes from one of the values. -/
theorem exists_of_mergeEntries_error {e : ConfigError}
    (h : mergeEntries overrides pref defaults = .error e) : ∃ entry ∈ defaults,
      mergeValue (chosen overrides entry.1 entry.2) (keyPath pref entry.1) entry.2 = .error e := by
  induction defaults with
  | nil => cases h
  | cons entry defaults ih =>
    obtain ⟨key, default⟩ := entry
    cases hvalue : mergeValue (chosen overrides key default) (keyPath pref key) default with
    | error e' =>
      rw [mergeEntries, mergeEntry, ← chosen, hvalue] at h
      obtain rfl : e' = e := Except.error.inj h
      exact ⟨(key, default), List.mem_cons_self, hvalue⟩
    | ok value =>
      have hrest : mergeEntries overrides pref defaults = .error e := by
        cases hrest : mergeEntries overrides pref defaults with
        | error e' =>
          rw [mergeEntries, mergeEntry, ← chosen, hvalue, hrest] at h
          exact congrArg _ (Except.error.inj h)
        | ok rest =>
          rw [mergeEntries_cons_eq_ok_iff.2 ⟨value, rest, hvalue, hrest, rfl⟩] at h
          cases h
      obtain ⟨entry, hentry, herror⟩ := ih hrest
      exact ⟨entry, List.mem_cons_of_mem _ hentry, herror⟩

/-- Anything takes the place of a scalar. -/
theorem mergeValue_scalar (value : ManifestValue) (path : PyStr) (s : ManifestScalar) :
    mergeValue value path (.scalar s) = .ok value := by
  cases value <;> rfl

/-- A mapping takes only a mapping with keys of its own. -/
theorem mergeValue_map_eq_ok_iff {value result : ManifestValue} {path : PyStr} :
    mergeValue value path (.map defaults) = .ok result ↔ ∃ overrides merged,
      value = .map overrides ∧ (∀ key ∈ overrides.map Prod.fst, key ∈ defaults.map Prod.fst) ∧
        mergeEntries overrides path defaults = .ok merged ∧ result = .map merged := by
  cases value with
  | scalar s =>
    have herror : mergeValue (.scalar s) path (.map defaults) =
        .error ⟨path ++ py " must be a mapping"⟩ := rfl
    simp [herror]
  | map overrides =>
    have hmap : mergeValue (.map overrides) path (.map defaults) =
        if unknownKeys defaults overrides = [] then
          (mergeEntries overrides path defaults).map .map
        else .error (unknownKeysError path (unknownKeys defaults overrides)) := rfl
    rw [hmap]
    split_ifs with hknown
    · rw [unknownKeys_eq_nil] at hknown
      constructor
      · intro h
        cases hmerged : mergeEntries overrides path defaults with
        | error e =>
          rw [hmerged] at h
          cases h
        | ok merged =>
          rw [hmerged] at h
          exact ⟨overrides, merged, rfl, hknown, hmerged, (Except.ok.inj h).symm⟩
      · rintro ⟨overrides', merged, heq, -, hmerged, rfl⟩
        obtain rfl := NestedMap.map.inj heq
        rw [hmerged]
        rfl
    · constructor
      · nofun
      · rintro ⟨overrides', merged, heq, hkeys, -, -⟩
        obtain rfl := NestedMap.map.inj heq
        exact absurd (unknownKeys_eq_nil.2 hkeys) hknown

end loop

/-! ## Success -/

variable {default value merged : ManifestValue}

theorem fits_scalar (s : ManifestScalar) (value : ManifestValue) : Fits (.scalar s) value := by
  intro path defaults hpath
  cases path with
  | nil => simp at hpath
  | cons key path => cases hpath

/-- What fits a mapping is a mapping, with known keys, that fits entry by entry. -/
theorem fits_map_iff {defaults : ManifestEntries} : Fits (.map defaults) value ↔ ∃ overrides,
    value = .map overrides ∧ (∀ key ∈ overrides.map Prod.fst, key ∈ defaults.map Prod.fst) ∧
      ∀ key default, valueOf key defaults = some default →
        Fits default (chosen overrides key default) := by
  constructor
  · intro h
    obtain ⟨overrides, rfl, hkeys⟩ := h [] defaults (get_nil _) value (get_nil _)
    refine ⟨overrides, rfl, hkeys, fun key default hkey path inner hpath v hv => ?_⟩
    unfold chosen at hv
    cases hover : valueOf key overrides with
    | none =>
      -- the default fits itself
      rw [hover, Option.getD_none, hpath] at hv
      exact ⟨inner, (Option.some.inj hv).symm, fun key hkey => hkey⟩
    | some w =>
      rw [hover, Option.getD_some] at hv
      refine h (key :: path) inner ?_ v ?_
      · rw [get_map_cons, hkey]
        exact hpath
      · rw [get_map_cons, hover]
        exact hv
  · rintro ⟨overrides, rfl, hkeys, hinner⟩ path inner hpath v hv
    cases path with
    | nil =>
      rw [get_nil] at hpath hv
      obtain rfl := NestedMap.map.inj (Option.some.inj hpath)
      exact ⟨overrides, (Option.some.inj hv).symm, hkeys⟩
    | cons key path =>
      rw [get_map_cons] at hpath hv
      obtain ⟨default, hdefault, hpath⟩ := Option.bind_eq_some_iff.1 hpath
      obtain ⟨w, hw, hv⟩ := Option.bind_eq_some_iff.1 hv
      refine hinner key default hdefault path inner hpath v ?_
      rw [chosen, hw]
      exact hv

/-- The defaults fit themselves. -/
theorem fits_self (default : ManifestValue) : Fits default default := by
  intro path defaults hpath v hv
  rw [hpath] at hv
  exact ⟨defaults, (Option.some.inj hv).symm, fun key hkey => hkey⟩

theorem UniqueKeys.nodup {entries : ManifestEntries} (h : UniqueKeys (.map entries)) :
    (entries.map Prod.fst).Nodup :=
  h [] entries (get_nil _)

theorem UniqueKeys.inner {entries : ManifestEntries} (h : UniqueKeys (.map entries))
    {entry : PyStr × ManifestValue} (hmem : entry ∈ entries) : UniqueKeys entry.2 := by
  intro path inner hpath
  refine h (entry.1 :: path) inner ?_
  rw [get_map_cons, valueOf_of_mem h.nodup hmem]
  exact hpath

/-- What is merged into a default fits. -/
theorem exists_merge_iff_fits (hunique : UniqueKeys default) (value : ManifestValue)
    (path : PyStr) : (∃ merged, mergeValue value path default = .ok merged) ↔
      Fits default value := by
  induction default using NestedMap.induct generalizing value path with
  | hscalar s => exact ⟨fun _ => fits_scalar s value, fun _ => ⟨value, mergeValue_scalar ..⟩⟩
  | hmap defaults ih =>
    rw [fits_map_iff]
    constructor
    · rintro ⟨merged, hmerged⟩
      obtain ⟨overrides, merged, rfl, hkeys, hentries, -⟩ := mergeValue_map_eq_ok_iff.1 hmerged
      refine ⟨overrides, rfl, hkeys, fun key default hkey => ?_⟩
      obtain ⟨v, -, hv⟩ := lookup_of_mergeEntries hentries hkey
      have hmem : (key, default) ∈ defaults := mem_of_valueOf hkey
      exact (ih _ hmem (hunique.inner hmem) _ _).1 ⟨v, hv⟩
    · rintro ⟨overrides, rfl, hkeys, hinner⟩
      obtain ⟨merged, hmerged⟩ := @exists_mergeEntries overrides defaults path fun entry hmem =>
        (ih entry hmem (hunique.inner hmem) _ _).2
          (hinner entry.1 entry.2 (valueOf_of_mem hunique.nodup hmem))
      exact ⟨_, mergeValue_map_eq_ok_iff.2 ⟨overrides, merged, rfl, hkeys, hmerged, rfl⟩⟩

/-- The result of a merge. -/
theorem overlaid_of_mergeValue {path : PyStr} (h : mergeValue value path default = .ok merged) :
    Overlaid default value merged := by
  induction default using NestedMap.induct generalizing value merged path with
  | hscalar s =>
    rw [mergeValue_scalar] at h
    obtain rfl := Except.ok.inj h
    refine ⟨fun q defaults hq => ?_, fun q s' hq => ?_⟩
    · cases q with
      | nil => simp at hq
      | cons key q => cases hq
    · cases q with
      | nil => simp
      | cons key q => cases hq
  | hmap defaults ih =>
    obtain ⟨overrides, entries, rfl, -, hentries, rfl⟩ := mergeValue_map_eq_ok_iff.1 h
    -- below a key the result is that of its default and what is chosen for it
    have hbelow : ∀ key default, valueOf key defaults = some default → ∃ v,
        valueOf key entries = some v ∧ Overlaid default (chosen overrides key default) v := by
      intro key default hkey
      obtain ⟨v, hv, hmerge⟩ := lookup_of_mergeEntries hentries hkey
      exact ⟨v, hv, ih _ (mem_of_valueOf hkey) hmerge⟩
    refine ⟨fun q inner hq => ?_, fun q s hq => ?_⟩
    · cases q with
      | nil =>
        rw [get_nil] at hq
        obtain rfl := NestedMap.map.inj (Option.some.inj hq)
        exact ⟨entries, get_nil _, keys_of_mergeEntries hentries⟩
      | cons key q =>
        rw [get_map_cons] at hq ⊢
        obtain ⟨default, hkey, hq⟩ := Option.bind_eq_some_iff.1 hq
        obtain ⟨v, hv, hover⟩ := hbelow key default hkey
        rw [hv]
        exact hover.keys q inner hq
    · cases q with
      | nil => simp at hq
      | cons key q =>
        rw [get_map_cons] at hq ⊢
        obtain ⟨default, hkey, hq⟩ := Option.bind_eq_some_iff.1 hq
        obtain ⟨v, hv, hover⟩ := hbelow key default hkey
        rw [hv, get_map_cons, Option.bind_some, hover.values q s hq, chosen]
        cases valueOf key overrides with
        | none => rw [Option.getD_none, hq]; rfl
        | some w => rfl

/-! ## Errors -/

/-- The place of an error, as its message names it. -/
def dottedPath (pref : PyStr) (path : List PyStr) : PyStr := path.foldl keyPath pref

/-- What is wrong with a value: at a path where the default is a mapping it is none, or has keys
that the default does not have; and the error says so. -/
inductive Misfit (default value : ManifestValue) (pref : PyStr) (e : ConfigError) : Prop
  | scalar {path defaults s} (hdefault : default.get path = some (.map defaults))
      (hvalue : value.get path = some (.scalar s))
      (he : e = ⟨dottedPath pref path ++ py " must be a mapping"⟩)
  | unknown {path defaults overrides} (hdefault : default.get path = some (.map defaults))
      (hvalue : value.get path = some (.map overrides))
      (hunknown : unknownKeys defaults overrides ≠ [])
      (he : e = unknownKeysError (dottedPath pref path) (unknownKeys defaults overrides))

/-- An error is about the value at the path that it names. -/
theorem misfit_of_mergeValue (hunique : UniqueKeys default) {path : PyStr} {e : ConfigError}
    (h : mergeValue value path default = .error e) : Misfit default value path e := by
  induction default using NestedMap.induct generalizing value path with
  | hscalar s =>
    rw [mergeValue_scalar] at h
    cases h
  | hmap defaults ih =>
    cases hvalue : value with
    | scalar s =>
      rw [hvalue] at h
      obtain rfl := Except.error.inj h
      exact .scalar (get_nil _) (get_nil _) rfl
    | map overrides =>
      have hmap : mergeValue (.map overrides) path (.map defaults) =
          if unknownKeys defaults overrides = [] then
            (mergeEntries overrides path defaults).map .map
          else .error (unknownKeysError path (unknownKeys defaults overrides)) := rfl
      rw [hvalue, hmap] at h
      split_ifs at h with hknown
      · obtain ⟨entry, hmem, herror⟩ : ∃ entry ∈ defaults, mergeValue
            (chosen overrides entry.1 entry.2) (keyPath path entry.1) entry.2 = .error e := by
          cases hentries : mergeEntries overrides path defaults with
          | ok merged =>
            rw [hentries] at h
            cases h
          | error e' =>
            rw [hentries] at h
            obtain rfl : e' = e := Except.error.inj h
            exact exists_of_mergeEntries_error hentries
        have hkey := valueOf_of_mem hunique.nodup hmem
        -- a default merged with itself is no error
        obtain ⟨v, hv⟩ : ∃ v, valueOf entry.1 overrides = some v := by
          cases hover : valueOf entry.1 overrides with
          | some v => exact ⟨v, rfl⟩
          | none =>
            rw [chosen, hover, Option.getD_none] at herror
            obtain ⟨merged, hmerged⟩ := (exists_merge_iff_fits (hunique.inner hmem) entry.2
              (keyPath path entry.1)).2 (fits_self entry.2)
            rw [hmerged] at herror
            cases herror
        rw [chosen, hv, Option.getD_some] at herror
        have hbelow : ∀ q w, v.get q = some w →
            (NestedMap.map overrides).get (entry.1 :: q) = some w := by
          intro q w hq
          rwa [get_map_cons, hv]
        have hbelow' : ∀ q w, entry.2.get q = some w →
            (NestedMap.map defaults).get (entry.1 :: q) = some w := by
          intro q w hq
          rwa [get_map_cons, hkey]
        cases ih entry hmem (hunique.inner hmem) herror with
        | @scalar q inner s hdefault hvalue he =>
          exact .scalar (hbelow' q _ hdefault) (hbelow q _ hvalue) he
        | @unknown q inner overrides' hdefault hvalue hunknown he =>
          exact .unknown (hbelow' q _ hdefault) (hbelow q _ hvalue) hunknown he
      · obtain rfl := Except.error.inj h
        exact .unknown (get_nil _) (get_nil _) hknown rfl

/-- A value with something amiss does not fit. -/
theorem Misfit.not_fits {pref : PyStr} {e : ConfigError} (h : Misfit default value pref e) :
    ¬ Fits default value := by
  intro hfits
  cases h with
  | scalar hdefault hvalue =>
    obtain ⟨overrides, heq, -⟩ := hfits _ _ hdefault _ hvalue
    cases heq
  | unknown hdefault hvalue hunknown =>
    obtain ⟨overrides, heq, hkeys⟩ := hfits _ _ hdefault _ hvalue
    obtain rfl := NestedMap.map.inj heq
    exact hunknown (unknownKeys_eq_nil.2 hkeys)

/-- **Merging.** Where the overrides fit the defaults, the result is overlaid; otherwise there is an
error, and it is about the value at the path that it names. -/
theorem mergeKnown_cases {defaults overrides : ManifestEntries}
    (hunique : UniqueKeys (.map defaults)) (pref : PyStr) :
    (Fits (.map defaults) (.map overrides) ∧ ∃ merged,
      mergeKnown defaults overrides pref = .ok merged ∧
        Overlaid (.map defaults) (.map overrides) (.map merged)) ∨
    (¬ Fits (.map defaults) (.map overrides) ∧ ∃ e,
      mergeKnown defaults overrides pref = .error e ∧
        Misfit (.map defaults) (.map overrides) pref e) := by
  have hvalue : mergeValue (.map overrides) pref (.map defaults) =
      (mergeKnown defaults overrides pref).map .map := by
    rw [mergeKnown]
    have hmap : mergeValue (.map overrides) pref (.map defaults) =
        if unknownKeys defaults overrides = [] then
          (mergeEntries overrides pref defaults).map .map
        else .error (unknownKeysError pref (unknownKeys defaults overrides)) := rfl
    rw [hmap]
    split_ifs <;> rfl
  cases hmerged : mergeKnown defaults overrides pref with
  | ok merged =>
    rw [hmerged] at hvalue
    exact Or.inl ⟨(exists_merge_iff_fits hunique _ pref).1 ⟨_, hvalue⟩, merged, rfl,
      overlaid_of_mergeValue hvalue⟩
  | error e =>
    rw [hmerged] at hvalue
    have hmisfit := misfit_of_mergeValue hunique hvalue
    exact Or.inr ⟨hmisfit.not_fits, e, rfl, hmisfit⟩

theorem uniqueKeys_scalar (s : ManifestScalar) : UniqueKeys (.scalar s) := by
  intro path entries hpath
  cases path with
  | nil => simp at hpath
  | cons key path => cases hpath

theorem uniqueKeys_map {entries : ManifestEntries} (hnodup : (entries.map Prod.fst).Nodup)
    (h : ∀ entry ∈ entries, UniqueKeys entry.2) : UniqueKeys (.map entries) := by
  intro path inner hpath
  cases path with
  | nil =>
    rw [get_nil] at hpath
    obtain rfl := NestedMap.map.inj (Option.some.inj hpath)
    exact hnodup
  | cons key path =>
    rw [get_map_cons] at hpath
    obtain ⟨t, ht, hpath⟩ := Option.bind_eq_some_iff.1 hpath
    exact h _ (mem_of_valueOf ht) path inner hpath

/-- A key that the defaults do not have. -/
theorem mergeKnown_cases_small : ∃ e,
    mergeKnown [(py "dir", .scalar (.str (py "build")))]
        [(py "type", .scalar (.str (py "Debug")))] [] = .error e ∧
      Misfit (.map [(py "dir", .scalar (.str (py "build")))])
        (.map [(py "type", .scalar (.str (py "Debug")))]) [] e := by
  have hunique : UniqueKeys (.map [(py "dir", .scalar (.str (py "build")))]) :=
    uniqueKeys_map (by decide) (List.forall_mem_singleton.2 (uniqueKeys_scalar _))
  rcases @mergeKnown_cases _ [(py "type", .scalar (.str (py "Debug")))] hunique [] with
    ⟨-, merged, hmerged, -⟩ | ⟨-, herror⟩
  · rw [mergeKnown, if_neg (by rw [unknownKeys_eq_nil]; decide)] at hmerged
    cases hmerged
  · exact herror

end HakoniwaBridge
