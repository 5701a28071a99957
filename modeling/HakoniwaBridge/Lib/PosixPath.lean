import Mathlib.Data.List.Basic
import Mathlib.Tactic.SplitIfs

/-!
# POSIX path names

Path names as lists of characters, with the two operations of `std::filesystem::path` that are
computed from the name alone.

* `append` — `p / q` for a relative `q`: a separator is put in between unless `p` is empty or ends
  with one.
* `lexicallyNormal` — `p.lexically_normal()`: names `.` are dropped, a name followed by `..` is
  dropped with it, `..` directly under the root is dropped, and an empty result is `.`.
* `extension` — `p.extension()` of a file name.

`lexicallyNormal_ne_nil`: the normal form of a path that is not empty is not empty.
-/

namespace HakoniwaBridge.Lib.PosixPath

/-- `p / q`, for a relative path `q`. -/
def append (p q : List Char) : List Char :=
  if p = [] ∨ p.getLast? = some '/' then p ++ q else p ++ '/' :: q

/-- What a normal form is made of: the names read so far, the last one first, and whether a
separator follows the last one. -/
structure Normal where
  names : List (List Char)
  trailing : Bool

/-- Reading one name. -/
def Normal.push (absolute : Bool) (n : Normal) (name : List Char) : Normal :=
  if name = ['.'] then { n with trailing := true }
  else if name = ['.', '.'] then
    match n.names with
    | [] => if absolute then n else ⟨[name], false⟩
    | last :: rest => if last = ['.', '.'] then ⟨name :: n.names, false⟩ else ⟨rest, true⟩
  else ⟨name :: n.names, false⟩

/-- The text of a normal form. A separator after `..` is dropped. -/
def Normal.text (absolute : Bool) (n : Normal) : List Char :=
  match n.names with
  | [] => if absolute then ['/'] else ['.']
  | last :: _ =>
    (if absolute then ['/'] else []) ++ List.intercalate ['/'] n.names.reverse ++
      if n.trailing = true ∧ last ≠ ['.', '.'] then ['/'] else []

/-- Reading the names of a path in turn. -/
def Normal.read (absolute : Bool) (names : List (List Char)) : Normal :=
  names.foldl (Normal.push absolute) ⟨[], false⟩

/-- `p.lexically_normal()`. -/
def lexicallyNormal (p : List Char) : List Char :=
  if p = [] then []
  else
    let absolute := p.head? = some '/'
    let n := Normal.read absolute ((p.splitOn '/').filter (· ≠ []))
    Normal.text absolute { n with trailing := n.trailing || p.getLast? = some '/' }

/-- `p.extension()`, for a file name: from the last dot on, unless this is the first character. -/
def extension (name : List Char) : List Char :=
  if name = ['.', '.'] then []
  else
    match name.reverse.dropWhile (· ≠ '.') with
    | [] => []
    | [_] => []
    | _ :: _ => '.' :: (name.reverse.takeWhile (· ≠ '.')).reverse

namespace Normal

variable {absolute : Bool} {n : Normal}

/-- Reading a name adds no empty one. -/
theorem names_push {name : List Char} (hname : [] ≠ name) (hn : [] ∉ n.names) :
    [] ∉ (n.push absolute name).names := by
  unfold push
  split
  · exact hn
  split
  · cases hnames : n.names with
    | nil =>
      cases absolute
      · simpa using hname
      · simp [hnames]
    | cons last rest =>
      rw [hnames, List.mem_cons, not_or] at hn
      dsimp only
      split
      · simpa [hname] using hn
      · exact hn.2
  · simpa [hname] using hn

/-- No name of a normal form is empty. -/
theorem names_read {names : List (List Char)} (hnames : [] ∉ names) :
    [] ∉ (read absolute names).names := by
  have hloop : ∀ n : Normal, [] ∉ n.names →
      [] ∉ (names.foldl (push absolute) n).names := by
    induction names with
    | nil => exact fun n hn => hn
    | cons name names ih =>
      intro n hn
      rw [List.mem_cons, not_or] at hnames
      exact ih hnames.2 _ (names_push hnames.1 hn)
  exact hloop ⟨[], false⟩ List.not_mem_nil

/-- The text of a normal form is not empty. -/
theorem text_ne_nil (hn : [] ∉ n.names) : n.text absolute ≠ [] := by
  unfold text
  split
  · split <;> simp
  · next last rest heq =>
    -- the first name is part of the text
    have hjoin : List.intercalate ['/'] n.names.reverse ≠ [] := by
      intro hnil
      rw [List.intercalate, List.flatten_eq_nil_iff] at hnil
      cases hrev : n.names.reverse with
      | nil => simp [heq] at hrev
      | cons first names =>
        have hfirst : first = [] := by
          apply hnil
          rw [hrev]
          cases names <;> simp [List.intersperse]
        exact hn (List.mem_reverse.1 (hrev ▸ hfirst ▸ List.mem_cons_self))
    simp [hjoin]

end Normal

/-- The normal form of a path that is not empty is not empty. -/
theorem lexicallyNormal_ne_nil {p : List Char} (hp : p ≠ []) : lexicallyNormal p ≠ [] := by
  unfold lexicallyNormal
  rw [if_neg hp]
  exact Normal.text_ne_nil (n := { Normal.read _ _ with trailing := _ })
    (Normal.names_read (by simp))

example : lexicallyNormal "conf/./web//../bridge/bridge.json".toList =
    "conf/bridge/bridge.json".toList := by
  decide

end HakoniwaBridge.Lib.PosixPath
