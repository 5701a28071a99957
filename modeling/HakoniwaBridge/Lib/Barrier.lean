import Mathlib.Data.List.Nodup

/-!
# A barrier: one arrival flag per registered key

The state of a rendezvous over an open set of keys, kept as a duplicate-free list of keys with a
flag each (an ordered map from keys to flags).

* `register k` adds `k` with its flag down (and puts the flag of a known key down),
* `arrive k` puts the flag of a registered key up and ignores any other key,
* `clear` puts every flag down,
* `full` asks whether every flag is up.

`Arrived b k` is the flag of `k` read as a proposition; `full_iff` and the `arrived_*` and
`mem_*` lemmas say how the operations compose, so that users never look at the list.
-/

namespace HakoniwaBridge.Lib

/-- A duplicate-free list of keys, each with its arrival flag. -/
@[ext]
structure Barrier (κ : Type*) where
  /-- The keys with their flags. -/
  flags : List (κ × Bool)
  /-- No key occurs twice. -/
  nodup : (flags.map Prod.fst).Nodup

namespace Barrier

variable {κ : Type*}

/-- No key registered. -/
def empty : Barrier κ := ⟨[], List.nodup_nil⟩

/-- The registered keys. -/
def keys (b : Barrier κ) : List κ := b.flags.map Prod.fst

/-- The flag of `k` is up. -/
def Arrived (b : Barrier κ) (k : κ) : Prop := (k, true) ∈ b.flags

/-- Every flag is up. -/
def full (b : Barrier κ) : Bool := b.flags.all Prod.snd

/-- All flags down. -/
def clear (b : Barrier κ) : Barrier κ where
  flags := b.flags.map fun f => (f.1, false)
  nodup := by simpa [Function.comp_def] using b.nodup

variable [DecidableEq κ]

/-- The flag of `k` goes up, if `k` is registered. -/
def arrive (b : Barrier κ) (k : κ) : Barrier κ where
  flags := b.flags.map fun f => (f.1, f.2 || decide (f.1 = k))
  nodup := by simpa [Function.comp_def] using b.nodup

/-- `k` becomes a registered key whose flag is down. -/
def register (b : Barrier κ) (k : κ) : Barrier κ where
  flags :=
    if k ∈ b.keys then b.flags.map fun f => (f.1, f.2 && !decide (f.1 = k))
    else b.flags ++ [(k, false)]
  nodup := by
    split_ifs with hk
    · simpa [Function.comp_def] using b.nodup
    · rw [List.map_append, List.map_singleton]
      exact List.nodup_append.2 ⟨b.nodup, List.nodup_singleton k, fun a ha c hc hac =>
        hk ((hac.trans (List.mem_singleton.1 hc) : a = k) ▸ ha)⟩

theorem flags_register_of_mem {b : Barrier κ} {k : κ} (hk : k ∈ b.keys) :
    (b.register k).flags = b.flags.map fun f => (f.1, f.2 && !decide (f.1 = k)) := if_pos hk

theorem flags_register_of_not_mem {b : Barrier κ} {k : κ} (hk : k ∉ b.keys) :
    (b.register k).flags = b.flags ++ [(k, false)] := if_neg hk

omit [DecidableEq κ] in
@[simp] theorem keys_clear (b : Barrier κ) : b.clear.keys = b.keys := by
  simp [keys, clear, Function.comp_def]

@[simp] theorem keys_arrive (b : Barrier κ) (k : κ) : (b.arrive k).keys = b.keys := by
  simp [keys, arrive, Function.comp_def]

/-- Registering adds exactly the registered key. -/
@[simp] theorem mem_keys_register {b : Barrier κ} {j k : κ} :
    j ∈ (b.register k).keys ↔ j = k ∨ j ∈ b.keys := by
  by_cases hk : k ∈ b.keys
  · have hkeys : (b.register k).keys = b.keys := by
      rw [keys, flags_register_of_mem hk, List.map_map]
      rfl
    rw [hkeys]
    exact ⟨Or.inr, fun h => h.elim (fun hj => hj ▸ hk) id⟩
  · have hkeys : (b.register k).keys = b.keys ++ [k] := by
      rw [keys, flags_register_of_not_mem hk, List.map_append]
      rfl
    rw [hkeys, List.mem_append, List.mem_singleton, or_comm]

omit [DecidableEq κ] in
theorem Arrived.mem_keys {b : Barrier κ} {k : κ} (h : b.Arrived k) : k ∈ b.keys :=
  List.mem_map_of_mem h

omit [DecidableEq κ] in
@[simp] theorem not_arrived_clear (b : Barrier κ) (k : κ) : ¬ b.clear.Arrived k := by
  simp [Arrived, clear]

omit [DecidableEq κ] in
@[simp] theorem not_arrived_empty (k : κ) : ¬ (empty : Barrier κ).Arrived k := by
  simp [Arrived, empty]

/-- After an arrival the flag of a key is up iff it was, or it is the arriving registered key. -/
@[simp] theorem arrived_arrive {b : Barrier κ} {j k : κ} :
    (b.arrive k).Arrived j ↔ b.Arrived j ∨ (j = k ∧ k ∈ b.keys) := by
  simp only [Arrived, arrive, keys, List.mem_map, Prod.mk.injEq, Prod.exists]
  constructor
  · rintro ⟨a, v, hmem, rfl, hv⟩
    cases v with
    | true => exact Or.inl hmem
    | false =>
      have hak : a = k := by simpa using hv
      exact Or.inr ⟨hak, a, false, hmem, hak⟩
  · rintro (h | ⟨rfl, a, v, hmem, rfl⟩)
    · exact ⟨j, true, h, rfl, rfl⟩
    · exact ⟨a, v, hmem, rfl, by simp⟩

/-- Registering a key puts its flag down and leaves the other flags alone. -/
@[simp] theorem arrived_register {b : Barrier κ} {j k : κ} :
    (b.register k).Arrived j ↔ b.Arrived j ∧ j ≠ k := by
  by_cases hk : k ∈ b.keys
  · simp only [Arrived, flags_register_of_mem hk, List.mem_map, Prod.mk.injEq, Prod.exists]
    constructor
    · rintro ⟨a, v, hmem, rfl, hv⟩
      have hv' : v = true ∧ a ≠ k := by simpa using hv
      exact ⟨hv'.1 ▸ hmem, hv'.2⟩
    · rintro ⟨hmem, hne⟩
      exact ⟨j, true, hmem, rfl, by simpa using hne⟩
  · simp only [Arrived, flags_register_of_not_mem hk, List.mem_append, List.mem_singleton,
      Prod.mk.injEq, Bool.true_eq_false, and_false, or_false]
    exact ⟨fun h => ⟨h, fun hjk => hk (hjk ▸ Arrived.mem_keys h)⟩, fun h => h.1⟩

/-- Registering a known key changes nothing as long as no flag is up. -/
theorem register_of_known {b : Barrier κ} {k : κ} (hk : k ∈ b.keys)
    (hdown : ∀ j, ¬ b.Arrived j) : b.register k = b := by
  have hflags : b.flags.map (fun f => (f.1, f.2 && !decide (f.1 = k))) = b.flags := by
    refine (List.map_congr_left fun f hf => ?_).trans (List.map_id _)
    obtain ⟨j, v⟩ := f
    cases v with
    | true => exact absurd hf (hdown j)
    | false => rfl
  ext1
  rw [flags_register_of_mem hk, hflags]

omit [DecidableEq κ] in
/-- The barrier is full iff every registered key has arrived. -/
theorem full_iff {b : Barrier κ} : b.full = true ↔ ∀ k ∈ b.keys, b.Arrived k := by
  simp only [full, List.all_eq_true, keys, List.mem_map, Arrived, Prod.exists,
    forall_exists_index, and_imp]
  constructor
  · rintro h k a v hmem rfl
    have hv : v = true := h (a, v) hmem
    exact hv ▸ hmem
  · rintro h ⟨a, v⟩ hmem
    have hup := h a a v hmem rfl
    -- one key, one flag: the entry that is up is the entry we started from
    have := List.inj_on_of_nodup_map b.nodup hmem hup rfl
    exact congrArg Prod.snd this

end Barrier

end HakoniwaBridge.Lib
