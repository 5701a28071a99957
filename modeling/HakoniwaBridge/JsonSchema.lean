import HakoniwaBridge.Json

/-!
# JSON Schemas

The keywords of draft 7 that the schemas of the control plane use, each a predicate on JSON values
(`Schema`). A keyword for objects, arrays or strings accepts every value of another type, as in
the standard; `allOf` is also what keywords that stand side by side mean.

A number counts as an integer if its fraction is zero. What integer the text of such a number is,
is the parameter `integral`.

* `record` — the common shape of an object schema: type, closed properties, required ones.
* `record_iff`, `record_append` — when an object is accepted, and that one more member that is
  accepted for itself does no harm.
-/

namespace HakoniwaBridge

/-- A JSON Schema: the values that it accepts. -/
abbrev Schema := Json → Bool

namespace Schema

/-- `type: string`. -/
def string : Schema
  | .str _ => true
  | _ => false

/-- `type: boolean`. -/
def boolean : Schema
  | .bool _ => true
  | _ => false

/-- `type: integer` with `minimum: least`. -/
def integerFrom (integral : String → Option Int) (least : Int) : Schema
  | .int n => decide (least ≤ n)
  | .float text => (integral text).any fun n => decide (least ≤ n)
  | _ => false

def minLength (n : Nat) : Schema
  | .str s => decide (n ≤ s.length)
  | _ => true

def minItems (n : Nat) : Schema
  | .arr elems => decide (n ≤ elems.length)
  | _ => true

def maxItems (n : Nat) : Schema
  | .arr elems => decide (elems.length ≤ n)
  | _ => true

/-- `enum`, of strings. -/
def enum (values : List String) : Schema
  | .str s => decide (s ∈ values)
  | _ => false

/-- `const`, of a string. -/
def const (value : String) : Schema := enum [value]

def allOf (schemas : List Schema) : Schema := fun j => schemas.all fun schema => schema j

def anyOf (schemas : List Schema) : Schema := fun j => schemas.any fun schema => schema j

def not (schema : Schema) : Schema := fun j => !schema j

/-- `if` and `then`. -/
def ifThen (cond schema : Schema) : Schema := fun j => !cond j || schema j

def items (schema : Schema) : Schema
  | .arr elems => elems.all schema
  | _ => true

def properties (props : List (String × Schema)) : Schema := fun j =>
  props.all fun p => (j.get? p.1).all p.2

def required (names : List String) : Schema := fun j =>
  !j.isObject || names.all fun name => (j.get? name).isSome

/-- `additionalProperties: false`, beside the properties `names`. -/
def closed (names : List String) : Schema
  | .obj members => members.all fun m => decide (m.1 ∈ names)
  | _ => true

/-- A closed object with the given properties. -/
def record (names : List String) (props : List (String × Schema)) : Schema :=
  allOf [Json.isObject, closed (props.map Prod.fst), required names, properties props]

/-- A string that is not empty. -/
def nonempty : Schema := allOf [string, minLength 1]

/-- `pattern`, given by the strings that match. -/
def pattern (isMatch : String → Bool) : Schema
  | .str s => isMatch s
  | _ => true

def minProperties (n : Nat) : Schema
  | .obj members => decide (n ≤ members.length)
  | _ => true

/-- `patternProperties` of one pattern, with `additionalProperties: false` beside it. -/
def patternProperties (isMatch : String → Bool) (schema : Schema) : Schema
  | .obj members => members.all fun m => isMatch m.1 && schema m.2
  | _ => true

/-- A list of at least `n` values. -/
def arrayFrom (n : Nat) (schema : Schema) : Schema :=
  allOf [Json.isArray, minItems n, items schema]

/-- A map with at least one entry, closed apart from the keys that match. -/
def mapOf (isMatch : String → Bool) (schema : Schema) : Schema :=
  allOf [Json.isObject, minProperties 1, patternProperties isMatch schema]

/-- `uniqueItems: true`. -/
def uniqueItems (number : Json → Json → Bool) : Schema
  | .arr elems => decide (elems.Pairwise fun x y => x.same number y = false)
  | _ => true

/-! ## Acceptance -/

@[simp] theorem allOf_nil (j : Json) : allOf [] j = true := rfl

@[simp] theorem allOf_cons (schema : Schema) (schemas : List Schema) (j : Json) :
    allOf (schema :: schemas) j = (schema j && allOf schemas j) := rfl

/-- A string with the keyword `minLength` of 1. -/
theorem nonempty_iff {j : Json} : nonempty j = true ↔ ∃ s, j = .str s ∧ s ≠ "" := by
  cases j with
  | str s =>
    have hlen : 1 ≤ s.length ↔ s ≠ "" := by
      rw [Nat.one_le_iff_ne_zero, ne_eq, ne_eq, String.length_eq_zero_iff]
    simp [nonempty, string, minLength, hlen]
  | _ => simp [nonempty, string]

/-- The keyword `properties` constrains only the members that are there. -/
theorem properties_iff {props : List (String × Schema)} {j : Json} :
    properties props j = true ↔
      ∀ p ∈ props, ∀ v, j.get? p.1 = some v → p.2 v = true := by
  simp [properties, Option.all_eq_true]

/-- The keyword `required`, on an object. -/
theorem required_iff {names : List String} {members : List (String × Json)} :
    required names (.obj members) = true ↔
      ∀ name ∈ names, ((Json.obj members).get? name).isSome = true := by
  simp [required, Json.isObject]

/-- The keyword `additionalProperties`, on an object. -/
theorem closed_iff {names : List String} {members : List (String × Json)} :
    closed names (.obj members) = true ↔ ∀ m ∈ members, m.1 ∈ names := by
  simp [closed]

/-- When an object is accepted. -/
theorem record_iff {names : List String} {props : List (String × Schema)}
    {members : List (String × Json)} :
    record names props (.obj members) = true ↔
      (∀ m ∈ members, m.1 ∈ props.map Prod.fst) ∧
      (∀ name ∈ names, ((Json.obj members).get? name).isSome = true) ∧
      ∀ p ∈ props, ∀ v, (Json.obj members).get? p.1 = some v → p.2 v = true := by
  simp only [record, allOf_cons, allOf_nil, Bool.and_eq_true, Bool.and_true, closed_iff,
    required_iff, properties_iff, Json.isObject, true_and]

/-! ## One more member -/

/-- A further member takes no required one away. -/
theorem required_append {names : List String} {members : List (String × Json)}
    (h : required names (.obj members) = true) (name : String) (v : Json) :
    required names (.obj (members ++ [(name, v)])) = true := by
  apply required_iff.2
  intro n hn
  obtain ⟨w, hw⟩ := Option.isSome_iff_exists.1 (required_iff.1 h n hn)
  rw [Json.get?_append_of_some hw]
  rfl

/-- One more member that is accepted for itself. -/
theorem record_append {names : List String} {props : List (String × Schema)}
    {members : List (String × Json)} (h : record names props (.obj members) = true)
    {name : String} {v : Json} (hname : name ∈ props.map Prod.fst)
    (hv : ∀ schema, (name, schema) ∈ props → schema v = true) :
    record names props (.obj (members ++ [(name, v)])) = true := by
  obtain ⟨hclosed, hrequired, hprops⟩ := record_iff.1 h
  refine record_iff.2 ⟨fun m hm => ?_, ?_, fun p hp w hw => ?_⟩
  · rcases List.mem_append.1 hm with hm | hm
    · exact hclosed m hm
    · rw [List.mem_singleton.1 hm]
      exact hname
  · exact required_iff.1 (required_append (required_iff.2 hrequired) name v)
  · rw [Json.get?_append] at hw
    cases hold : (Json.obj members).get? p.1 with
    | some w' =>
      rw [hold] at hw
      exact hprops p hp w (hold.trans hw)
    | none =>
      rw [hold] at hw
      by_cases heq : name = p.1
      · rw [if_pos heq] at hw
        obtain rfl := Option.some.inj hw
        exact hv p.2 (heq ▸ hp)
      · rw [if_neg heq] at hw
        exact absurd hw (by simp)

end Schema

end HakoniwaBridge
