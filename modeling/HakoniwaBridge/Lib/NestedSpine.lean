import HakoniwaBridge.Lib.NestedMap

/-!
# Nested maps that grow

A nested map that is built from the front to the back always has its open maps at the end: each is
the last value of the one above it.

* `subst` — a nested map with every scalar replaced.
* `Spine` — the way down to the open map; `fill`: the whole, for what the open map holds.
* `look_fill`, `assign_fill` — what stands below the open map, and **an assignment of a new key to
  it**.
-/

namespace HakoniwaBridge.Lib.NestedMap

variable {κ σ τ : Type*}

/-! ## Substitution -/

mutual

/-- Every scalar below a key is replaced. -/
def substEntries (f : σ → NestedMap κ τ) : List (κ × NestedMap κ σ) → List (κ × NestedMap κ τ)
  | [] => []
  | entry :: entries => substEntry f entry :: substEntries f entries

/-- One entry with its scalars replaced. -/
def substEntry (f : σ → NestedMap κ τ) : κ × NestedMap κ σ → κ × NestedMap κ τ
  | (key, value) => (key, subst f value)

/-- Every scalar is replaced. -/
def subst (f : σ → NestedMap κ τ) : NestedMap κ σ → NestedMap κ τ
  | scalar s => f s
  | map entries => map (substEntries f entries)

end

@[simp] theorem substEntries_nil (f : σ → NestedMap κ τ) : substEntries f [] = [] := rfl

@[simp] theorem substEntries_cons (f : σ → NestedMap κ τ) (key : κ) (value : NestedMap κ σ)
    (entries : List (κ × NestedMap κ σ)) :
    substEntries f ((key, value) :: entries) = (key, subst f value) :: substEntries f entries := rfl

@[simp] theorem subst_scalar (f : σ → NestedMap κ τ) (s : σ) : subst f (scalar s) = f s := rfl

@[simp] theorem subst_map (f : σ → NestedMap κ τ) (entries : List (κ × NestedMap κ σ)) :
    subst f (map entries) = map (substEntries f entries) := rfl

/-! ## Growing at the end -/

/-- The way down to an open map: of each map above it, the entries before the last one, and the
key of the last one. -/
abbrev Spine (κ σ : Type*) := List (List (κ × NestedMap κ σ) × κ)

namespace Spine

/-- The whole map, where the open map has the entries. -/
def fill : Spine κ σ → List (κ × NestedMap κ σ) → NestedMap κ σ
  | [], entries => map entries
  | level :: spine, entries => map (level.1 ++ [(level.2, fill spine entries)])

/-- The path to the open map. -/
def path (spine : Spine κ σ) : List κ := spine.map (·.2)

/-- On the way down no key was there before. -/
def Fresh (spine : Spine κ σ) : Prop := ∀ level ∈ spine, level.2 ∉ level.1.map Prod.fst

theorem fill_concat (spine : Spine κ σ) (before : List (κ × NestedMap κ σ)) (key : κ)
    (entries : List (κ × NestedMap κ σ)) :
    fill (spine ++ [(before, key)]) entries = fill spine (before ++ [(key, map entries)]) := by
  induction spine with
  | nil => rfl
  | cons level spine ih => rw [List.cons_append, fill, fill, ih]

theorem path_concat (spine : Spine κ σ) (before : List (κ × NestedMap κ σ)) (key : κ) :
    path (spine ++ [(before, key)]) = path spine ++ [key] := by
  simp [path]

theorem Fresh.concat {spine : Spine κ σ} (h : spine.Fresh) {before : List (κ × NestedMap κ σ)}
    {key : κ} (hkey : key ∉ before.map Prod.fst) : Fresh (spine ++ [(before, key)]) := by
  intro level hlevel
  rcases List.mem_append.1 hlevel with hlevel | hlevel
  · exact h level hlevel
  · rw [List.mem_singleton.1 hlevel]
    exact hkey

end Spine

variable [DecidableEq κ]

theorem lookup_eq_none_of_new {key : κ} {entries : List (κ × NestedMap κ σ)}
    (h : key ∉ entries.map Prod.fst) : entries.lookup key = none := by
  rw [List.lookup_eq_none_iff]
  intro entry hentry
  have hne : key ≠ entry.1 := fun heq => h (heq ▸ List.mem_map_of_mem hentry)
  simpa using hne

theorem setEntry_of_new {key : κ} {entries : List (κ × NestedMap κ σ)}
    (h : key ∉ entries.map Prod.fst) (value : NestedMap κ σ) :
    setEntry key value entries = entries ++ [(key, value)] := by
  rw [setEntry, lookup_eq_none_of_new h]
  rfl

theorem mem_setEntry {key : κ} {value : NestedMap κ σ} {entries : List (κ × NestedMap κ σ)}
    {entry : κ × NestedMap κ σ} (h : entry ∈ setEntry key value entries) :
    entry = (key, value) ∨ entry ∈ entries := by
  unfold setEntry at h
  split_ifs at h with hkey
  · obtain ⟨old, hold, rfl⟩ := List.mem_map.1 h
    split_ifs
    · exact Or.inl rfl
    · exact Or.inr hold
  · simpa [or_comm] using h

/-- A map keeps its keys distinct. -/
theorem nodup_setEntry {entries : List (κ × NestedMap κ σ)} (h : (entries.map Prod.fst).Nodup)
    (key : κ) (value : NestedMap κ σ) : ((setEntry key value entries).map Prod.fst).Nodup := by
  by_cases hkey : key ∈ entries.map Prod.fst
  · have hsame : (setEntry key value entries).map Prod.fst = entries.map Prod.fst := by
      have hsome : (entries.lookup key).isSome := by
        rw [List.lookup_isSome_iff]
        obtain ⟨entry, hentry, heq⟩ := List.mem_map.1 hkey
        exact ⟨entry, hentry, by simp [heq]⟩
      rw [setEntry, if_pos hsome, List.map_map]
      refine List.map_congr_left fun entry _ => ?_
      dsimp only [Function.comp_apply]
      split_ifs with heq
      · exact heq.symm
      · rfl
    rw [hsame]
    exact h
  · rw [setEntry_of_new hkey, List.map_append]
    refine List.nodup_append.2 ⟨h, by simp, ?_⟩
    rintro k hk _ hk' rfl
    obtain rfl : k = key := List.mem_singleton.1 hk'
    exact hkey hk

/-- What stands below an open map. -/
theorem look_fill {spine : Spine κ σ} (h : spine.Fresh) (entries : List (κ × NestedMap κ σ))
    (q : List κ) : (spine.fill entries).look (spine.path ++ q) = (map entries).look q := by
  induction spine with
  | nil => rfl
  | cons level spine ih =>
    obtain ⟨hlevel, hspine⟩ := List.forall_mem_cons.1 h
    have hpath : Spine.path (level :: spine) = level.2 :: Spine.path spine := rfl
    rw [hpath, List.cons_append, Spine.fill, look_map_cons, List.lookup_append,
      lookup_eq_none_of_new hlevel]
    simpa using ih hspine

/-- A new key of an open map gets a value. -/
theorem assign_fill {spine : Spine κ σ} (h : spine.Fresh) {entries : List (κ × NestedMap κ σ)}
    {key : κ} (hkey : key ∉ entries.map Prod.fst) (value : NestedMap κ σ) :
    (spine.fill entries).assign spine.path key value = spine.fill (entries ++ [(key, value)]) := by
  induction spine with
  | nil =>
    rw [Spine.fill, Spine.fill, Spine.path, List.map_nil, assign, setEntry_of_new hkey]
  | cons level spine ih =>
    obtain ⟨hlevel, hspine⟩ := List.forall_mem_cons.1 h
    have hpath : Spine.path (level :: spine) = level.2 :: Spine.path spine := rfl
    have hbefore : level.1.map (fun entry : κ × NestedMap κ σ =>
        if entry.1 = level.2 then (entry.1, entry.2.assign (Spine.path spine) key value)
        else entry) = level.1 := by
      refine (List.map_congr_left fun entry hentry => ?_).trans (List.map_id _)
      have hne : entry.1 ≠ level.2 := fun heq => hlevel (heq ▸ List.mem_map_of_mem hentry)
      rw [if_neg hne, id]
    rw [hpath, Spine.fill, assign, List.map_append, hbefore, Spine.fill, List.map_singleton,
      if_pos rfl, ih hspine]

end HakoniwaBridge.Lib.NestedMap
