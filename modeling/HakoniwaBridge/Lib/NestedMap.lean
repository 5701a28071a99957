import Mathlib.Data.List.Basic
import Mathlib.Tactic.SplitIfs

/-!
# Nested maps

A `NestedMap` is a scalar or a map from keys to nested maps, its entries in the order in which they
were inserted. A map in it is named by the keys that lead to it.

* `induct` — induction over a map and the values of its entries.
* `valueOf`, `get`, `look` — the value of a key, and at a path; what it is: a scalar, or a map
  (`none`).
* `assign` — the assignment of a value to a key of the map at a path.
* `look_assign` — **an assignment of a new key adds one path and changes nothing else.**
-/

namespace HakoniwaBridge.Lib

/-- A scalar, or a map. -/
inductive NestedMap (κ σ : Type*)
  | scalar (value : σ)
  | map (entries : List (κ × NestedMap κ σ))

namespace NestedMap

section induct

variable {κ σ : Type*} {motive : NestedMap κ σ → Prop}

/-- Induction over the values of the entries. -/
@[elab_as_elim]
theorem induct (hscalar : ∀ s, motive (scalar s))
    (hmap : ∀ entries, (∀ entry ∈ entries, motive entry.2) → motive (map entries)) :
    ∀ t, motive t
  | scalar s => hscalar s
  | map entries => hmap entries (inductEntries hscalar hmap entries)
where
  /-- The values of all entries. -/
  inductEntries (hscalar : ∀ s, motive (scalar s))
      (hmap : ∀ entries, (∀ entry ∈ entries, motive entry.2) → motive (map entries)) :
      ∀ entries : List (κ × NestedMap κ σ), ∀ entry ∈ entries, motive entry.2
    | [] => nofun
    | (_, t) :: entries => List.forall_mem_cons.2
        ⟨induct hscalar hmap t, inductEntries hscalar hmap entries⟩

end induct

variable {κ σ : Type*} [DecidableEq κ]

/-- The value of a key among the entries of a map. -/
def valueOf (key : κ) (entries : List (κ × NestedMap κ σ)) : Option (NestedMap κ σ) :=
  entries.lookup key

/-- The value at a path. -/
def get : NestedMap κ σ → List κ → Option (NestedMap κ σ)
  | t, [] => some t
  | scalar _, _ :: _ => none
  | map entries, k :: path => (valueOf k entries).bind fun t => t.get path

/-- The value itself: a scalar, or `none` for a map. -/
def head : NestedMap κ σ → Option σ
  | scalar value => some value
  | map _ => none

/-- What stands at a path. -/
def look : NestedMap κ σ → List κ → Option (Option σ)
  | t, [] => some t.head
  | scalar _, _ :: _ => none
  | map entries, k :: path =>
    match entries.lookup k with
    | none => none
    | some t => t.look path

/-- The entries with a value for a key: in the place of the old one, or at the end. -/
def setEntry (key : κ) (value : NestedMap κ σ) (entries : List (κ × NestedMap κ σ)) :
    List (κ × NestedMap κ σ) :=
  if (entries.lookup key).isSome then
    entries.map fun entry => if entry.1 = key then (key, value) else entry
  else entries ++ [(key, value)]

/-- The map at a path gets a value for a key. -/
def assign : NestedMap κ σ → List κ → κ → NestedMap κ σ → NestedMap κ σ
  | scalar s, _, _, _ => scalar s
  | map entries, [], key, value => map (setEntry key value entries)
  | map entries, k :: path, key, value =>
    map (entries.map fun entry =>
      if entry.1 = k then (entry.1, entry.2.assign path key value) else entry)

@[simp] theorem look_nil (t : NestedMap κ σ) : t.look [] = some t.head := by
  unfold look
  rfl

@[simp] theorem look_scalar_cons (s : σ) (k : κ) (path : List κ) :
    (scalar s : NestedMap κ σ).look (k :: path) = none := rfl

@[simp] theorem valueOf_nil (key : κ) : valueOf key ([] : List (κ × NestedMap κ σ)) = none := rfl

theorem valueOf_cons (key k : κ) (t : NestedMap κ σ) (entries : List (κ × NestedMap κ σ)) :
    valueOf key ((k, t) :: entries) = if key = k then some t else valueOf key entries := by
  unfold valueOf
  by_cases h : key = k
  · simp [h]
  · have hne : (key == k) = false := by simpa using h
    simp [List.lookup_cons, hne, h]

theorem mem_of_valueOf {key : κ} {t : NestedMap κ σ} {entries : List (κ × NestedMap κ σ)}
    (h : valueOf key entries = some t) : (key, t) ∈ entries := by
  induction entries with
  | nil => cases h
  | cons entry entries ih =>
    rw [valueOf_cons] at h
    split_ifs at h with heq
    · rw [heq, ← Option.some.inj h]
      exact List.mem_cons_self
    · exact List.mem_cons_of_mem _ (ih h)

/-- Where no key comes twice, an entry is the one that is found. -/
theorem valueOf_of_mem {key : κ} {t : NestedMap κ σ} {entries : List (κ × NestedMap κ σ)}
    (h : (entries.map Prod.fst).Nodup) (hmem : (key, t) ∈ entries) :
    valueOf key entries = some t := by
  induction entries with
  | nil => cases hmem
  | cons entry entries ih =>
    rw [List.map_cons, List.nodup_cons] at h
    rw [valueOf_cons]
    rcases List.mem_cons.1 hmem with rfl | hmem
    · rw [if_pos rfl]
    · have hne : key ≠ entry.1 := fun heq => h.1 (List.mem_map.2 ⟨(key, t), hmem, heq⟩)
      rw [if_neg hne, ih h.2 hmem]

@[simp] theorem get_nil (t : NestedMap κ σ) : t.get [] = some t := by
  unfold get
  rfl

theorem get_map_cons (entries : List (κ × NestedMap κ σ)) (k : κ) (path : List κ) :
    (map entries).get (k :: path) = (valueOf k entries).bind fun t => t.get path := by
  rw [get]

theorem look_map_cons (entries : List (κ × NestedMap κ σ)) (k : κ) (path : List κ) :
    (map entries).look (k :: path) = (entries.lookup k).bind fun t => t.look path := by
  rw [look]
  cases entries.lookup k <;> rfl

/-- Changing the value of one key. -/
theorem lookup_map_entry (f : NestedMap κ σ → NestedMap κ σ) (k k' : κ)
    (entries : List (κ × NestedMap κ σ)) :
    (entries.map fun entry => if entry.1 = k then (entry.1, f entry.2) else entry).lookup k' =
      if k' = k then (entries.lookup k').map f else entries.lookup k' := by
  induction entries with
  | nil => simp
  | cons entry entries ih =>
    obtain ⟨key, value⟩ := entry
    rw [List.map_cons]
    by_cases hk : k' = key
    · subst hk
      by_cases hkey : k' = k <;> simp [hkey]
    · have hne : (k' == key) = false := by simpa using hk
      split_ifs at ih ⊢ <;> simp only [List.lookup_cons, hne, ih]

/-- A value without keys. -/
def Bare : NestedMap κ σ → Prop
  | scalar _ => True
  | map entries => entries = []

theorem look_cons_of_bare {t : NestedMap κ σ} (h : t.Bare) (k : κ) (path : List κ) :
    t.look (k :: path) = none := by
  cases t with
  | scalar s => rfl
  | map entries =>
    obtain rfl : entries = [] := h
    rfl

/-- **Assignment.** Where the path leads to a map that does not have the key, the assignment of a
value without keys adds the path to it, and changes nothing else. -/
theorem look_assign {key : κ} {value : NestedMap κ σ} (hvalue : value.Bare) {path : List κ}
    {t : NestedMap κ σ} (hparent : t.look path = some none) (hnew : t.look (path ++ [key]) = none)
    (q : List κ) :
    (t.assign path key value).look q = if q = path ++ [key] then some value.head else t.look q := by
  induction path generalizing t q with
  | nil =>
    cases t with
    | scalar s => simp [head] at hparent
    | map entries =>
      rw [List.nil_append, look_map_cons] at hnew
      have hnone : entries.lookup key = none := by
        cases hfound : entries.lookup key with
        | none => rfl
        | some child => simp [hfound] at hnew
      rw [assign, setEntry, hnone]
      cases q with
      | nil => simp [head]
      | cons k q =>
        simp only [Option.isSome_none, Bool.false_eq_true, if_false]
        rw [look_map_cons, look_map_cons, List.lookup_append]
        by_cases hk : k = key
        · subst hk
          rw [hnone]
          cases q with
          | nil => simp
          | cons k' q => simp [look_cons_of_bare hvalue]
        · have hne : (k == key) = false := by simpa using hk
          simp [hk, hne, List.lookup_cons]
  | cons k path ih =>
    cases t with
    | scalar s => simp at hparent
    | map entries =>
      rw [List.cons_append, look_map_cons] at hnew
      rw [look_map_cons] at hparent
      obtain ⟨child, hchild, hinner⟩ := Option.bind_eq_some_iff.1 hparent
      rw [hchild] at hnew
      rw [assign]
      cases q with
      | nil => simp [head]
      | cons k' q =>
        rw [look_map_cons, look_map_cons, lookup_map_entry (·.assign path key value)]
        by_cases hk : k' = k
        · subst hk
          rw [if_pos rfl, hchild]
          simpa using ih hinner hnew q
        · simp [hk]

end NestedMap

end HakoniwaBridge.Lib
