import Mathlib.Algebra.Group.Int.Defs
import Mathlib.Algebra.Group.Nat.Defs
import Mathlib.Data.List.Basic

/-!
# JSON values

What the control plane uses of `nlohmann::json`. A parsed document arrives as a value of `Json`;
the text form and its parser are outside the repository.

* `get?` — `contains` and the access: of an object the first member of a name counts; a value that
  is not an object contains nothing.
* `integer?` — `is_number_integer` and the number: an integer outside 64 bits is a number of the
  document that the parser keeps as a `double`.
* `getInt` — `get<int>()` of an integer, which keeps the low 32 bits.
-/

namespace HakoniwaBridge

/-- A JSON value; a number that is not an integer is kept by its text. -/
inductive Json
  | null
  | bool (b : Bool)
  | int (n : Int)
  | float (text : String)
  | str (s : String)
  | arr (elems : List Json)
  | obj (members : List (String × Json))

namespace Json

/-- Source: `json::contains` and `operator[]`. -/
def get? : Json → String → Option Json
  | obj members, name => (members.find? fun m => m.1 == name).map Prod.snd
  | _, _ => none

/-- The member of an object, if it is a string: `contains` and `is_string`. -/
def getString? (j : Json) (name : String) : Option String :=
  match j.get? name with
  | some (str s) => some s
  | _ => none

def isObject : Json → Bool
  | obj _ => true
  | _ => false

def isArray : Json → Bool
  | arr _ => true
  | _ => false

/-- Only an object has members. -/
theorem isObject_of_getString? {j : Json} {name s : String} (h : j.getString? name = some s) :
    j.isObject = true := by
  cases j with
  | obj members => rfl
  | _ => exact absurd h (by simp [getString?, get?])

/-- A member that is a string. -/
theorem get?_of_getString? {j : Json} {name s : String} (h : j.getString? name = some s) :
    j.get? name = some (str s) := by
  unfold getString? at h
  split at h
  · next heq => rw [heq, Option.some.inj h]
  · simp at h

/-- What is found under a name is a member of that name. -/
theorem mem_of_get? {members : List (String × Json)} {name : String} {v : Json}
    (h : (obj members).get? name = some v) : (name, v) ∈ members := by
  obtain ⟨m, hm, rfl⟩ := Option.map_eq_some_iff.1 h
  have hname : m.1 = name := by simpa using List.find?_some hm
  rw [← hname]
  exact List.mem_of_find?_eq_some hm

/-- Every member's name is found. -/
theorem isSome_get? {members : List (String × Json)} {name : String}
    (h : name ∈ members.map Prod.fst) : ((obj members).get? name).isSome = true := by
  obtain ⟨m, hm, rfl⟩ := List.mem_map.1 h
  rw [get?, Option.isSome_map, List.find?_isSome]
  exact ⟨m, hm, by simp⟩

/-- A member at the end is seen if there is none of that name before. -/
theorem get?_append (members : List (String × Json)) (name : String) (v : Json) (name' : String) :
    (obj (members ++ [(name, v)])).get? name' =
      ((obj members).get? name').or (if name = name' then some v else none) := by
  simp only [Json.get?, List.find?_append]
  cases hfind : members.find? fun m => m.1 == name' with
  | some m => simp
  | none => by_cases hname : name = name' <;> simp [hname]

/-- A member at the end hides nothing. -/
theorem get?_append_of_some {members : List (String × Json)} {name' : String} {w : Json}
    (h : (obj members).get? name' = some w) (name : String) (v : Json) :
    (obj (members ++ [(name, v)])).get? name' = some w := by
  rw [get?_append, h]
  rfl

/-- Source: `json::empty`. -/
def isEmpty : Json → Bool
  | null => true
  | arr elems => elems.isEmpty
  | obj members => members.isEmpty
  | _ => false

/-- The integers that the parser keeps as integers: `int64_t` with a sign, `uint64_t` without. Any
other becomes a `double`. -/
def FitsInt64 (n : Int) : Prop := -2 ^ 63 ≤ n ∧ n < 2 ^ 64

instance (n : Int) : Decidable (FitsInt64 n) := inferInstanceAs (Decidable (_ ∧ _))

/-- Source: `json::is_number_integer`, and the number. -/
def integer? : Json → Option Int
  | int n => if FitsInt64 n then some n else none
  | _ => none

/-- Source: `get<int>()` of a 64-bit integer. -/
def getInt (n : Int) : Int := n.bmod (2 ^ 32)

mutual

/-- Equality of JSON values: the order of an object's members is of no account, and numbers are
compared by `number`. -/
def same (number : Json → Json → Bool) : Json → Json → Bool
  | null, null => true
  | bool a, bool b => a == b
  | str a, str b => a == b
  | arr xs, arr ys => sameElems number xs ys
  | obj ms, obj ns => ms.length == ns.length && sameMembers number ms ns
  | int n, j => number (int n) j
  | float text, j => number (float text) j
  | _, _ => false

def sameElems (number : Json → Json → Bool) : List Json → List Json → Bool
  | [], [] => true
  | x :: xs, y :: ys => same number x y && sameElems number xs ys
  | _, _ => false

def sameMembers (number : Json → Json → Bool) :
    List (String × Json) → List (String × Json) → Bool
  | [], _ => true
  | (name, v) :: ms, ns =>
    ((obj ns).get? name).any (same number v) && sameMembers number ms ns

end

end Json

end HakoniwaBridge
