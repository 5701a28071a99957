import Mathlib.Data.List.Basic

/-!
# Changing the first element with a key

A list whose elements have keys, not necessarily distinct, and commands that each change the first
element with their key.

* `modifyFirst` — one command; `modifyFirst_eq`: it is a search followed by a change at the place
  that was found.
* `commandAll` — one command after another.
* `getElem?_commandAll` — **the first element with a key gets all the commands for the key, in their
  order; the others get none.**
-/

namespace HakoniwaBridge.Lib

variable {α κ : Type*} [DecidableEq κ] (key : α → κ)

/-- Change the first element with the key. -/
def modifyFirst (k : κ) (f : α → α) : List α → List α
  | [] => []
  | a :: l => if key a = k then f a :: l else a :: modifyFirst k f l

/-- A search from the front, then a change in place. -/
theorem modifyFirst_eq (k : κ) (f : α → α) (l : List α) : modifyFirst key k f l =
    (l.findIdx? fun a => decide (key a = k)).elim l fun i => l.modify i f := by
  induction l with
  | nil => rfl
  | cons a l ih =>
    rw [modifyFirst, List.findIdx?_cons]
    by_cases hkey : key a = k
    · simp [hkey]
    · rw [if_neg hkey, ih]
      cases l.findIdx? fun a => decide (key a = k) <;> simp [hkey]

/-- A change commutes with a view that keeps the keys. -/
theorem map_modifyFirst {β : Type*} (key' : β → κ) (view : α → β) {f : α → α} {g : β → β}
    (hkey : ∀ a, key' (view a) = key a) (hview : ∀ a, view (f a) = g (view a)) (k : κ)
    (l : List α) : (modifyFirst key k f l).map view = modifyFirst key' k g (l.map view) := by
  induction l with
  | nil => rfl
  | cons a l ih =>
    rw [modifyFirst, List.map_cons, modifyFirst, hkey, ← hview, ← ih]
    split_ifs <;> rfl

/-- One command after another: each is a key and a change. -/
def commandAll (commands : List (κ × (α → α))) (l : List α) : List α :=
  commands.foldl (fun l command => modifyFirst key command.1 command.2 l) l

/-- What the commands for its key make of an element. -/
def commanded (commands : List (κ × (α → α))) (a : α) : α :=
  (commands.filter fun command => decide (command.1 = key a)).foldl
    (fun a command => command.2 a) a

variable {key} {commands : List (κ × (α → α))}

theorem commandAll_nil (commands : List (κ × (α → α))) :
    commandAll key commands [] = [] := by
  unfold commandAll
  induction commands with
  | nil => rfl
  | cons command commands ih => exact ih

/-- The commands for the key of the head go to the head, the others to the tail. -/
theorem commandAll_cons (hkey : ∀ command ∈ commands, ∀ a, key (command.2 a) = key a) (a : α)
    (l : List α) : commandAll key commands (a :: l) = commanded key commands a ::
      commandAll key (commands.filter fun command => !decide (command.1 = key a)) l := by
  induction commands generalizing a l with
  | nil => rfl
  | cons command commands ih =>
    rw [List.forall_mem_cons] at hkey
    have hstep : commandAll key (command :: commands) (a :: l) =
        commandAll key commands (modifyFirst key command.1 command.2 (a :: l)) := rfl
    rw [hstep, modifyFirst]
    by_cases hhead : key a = command.1
    · rw [if_pos hhead, ih hkey.2, hkey.1, commanded, commanded, hkey.1,
        List.filter_cons_of_pos (by simp [hhead]), List.filter_cons_of_neg (by simp [hhead]),
        List.foldl_cons]
    · have hne : ¬ command.1 = key a := fun heq => hhead heq.symm
      rw [if_neg hhead, ih hkey.2, commanded, commanded, List.filter_cons_of_neg (by simp [hne]),
        List.filter_cons_of_pos (by simp [hne])]
      rfl

theorem key_commanded (hkey : ∀ command ∈ commands, ∀ a, key (command.2 a) = key a) (a : α) :
    key (commanded key commands a) = key a := by
  have hfold : ∀ (l : List (κ × (α → α))), (∀ command ∈ l, command ∈ commands) →
      ∀ b, key (l.foldl (fun a command => command.2 a) b) = key b := by
    intro l hl
    induction l with
    | nil => exact fun b => rfl
    | cons command l ih =>
      rw [List.forall_mem_cons] at hl
      exact fun b => (ih hl.2 _).trans (hkey command hl.1 b)
  exact hfold _ (fun command hcommand => List.mem_of_mem_filter hcommand) a

theorem commanded_append {before after : List (κ × (α → α))}
    (hkey : ∀ command ∈ before, ∀ a, key (command.2 a) = key a) (a : α) :
    commanded key (before ++ after) a = commanded key after (commanded key before a) := by
  rw [commanded.eq_def key after, key_commanded hkey, commanded, commanded, List.filter_append,
    List.foldl_append]

/-- **Where commands go.** -/
theorem getElem?_commandAll (hkey : ∀ command ∈ commands, ∀ a, key (command.2 a) = key a)
    (l : List α) (i : ℕ) : (commandAll key commands l)[i]? = l[i]?.map fun a =>
      if key a ∈ (l.take i).map key then a else commanded key commands a := by
  induction l generalizing commands i with
  | nil => simp [commandAll_nil]
  | cons a l ih =>
    rw [commandAll_cons hkey]
    cases i with
    | zero => simp
    | succ i =>
      have hkey' : ∀ command ∈ commands.filter fun command => !decide (command.1 = key a),
          ∀ a, key (command.2 a) = key a :=
        fun command hcommand => hkey command (List.mem_of_mem_filter hcommand)
      rw [List.getElem?_cons_succ, List.getElem?_cons_succ, ih hkey']
      refine Option.map_congr fun b _ => ?_
      simp only [List.take_succ_cons, List.map_cons, List.mem_cons]
      by_cases hsame : key b = key a
      · -- its commands have gone to the head
        have hnone : commanded key (commands.filter fun command => !decide (command.1 = key a)) b =
            b := by
          rw [commanded, List.filter_filter, hsame]
          simp
        rw [if_pos (Or.inl hsame), hnone, ite_self]
      · have hall : commanded key (commands.filter fun command => !decide (command.1 = key a)) b =
            commanded key commands b := by
          rw [commanded, commanded, List.filter_filter]
          congr 1
          refine List.filter_congr fun command _ => ?_
          by_cases hb : command.1 = key b
          · simp [hb, hsame]
          · simp [hb]
        rw [hall]
        simp only [hsame, false_or]

end HakoniwaBridge.Lib
