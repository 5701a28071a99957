import HakoniwaBridge.MonitorCli
import HakoniwaBridge.Types

/-!
# The decoders of the bridge configuration

The `from_json` functions of `bridge_types.hpp`: from the parsed `bridge.json` to the records that
`build` works on. A `Decoder` ends with the exception that the access of `nlohmann::json` throws.

* `DecodedConfig` — `BridgeConfig` with the fields that `build` does not read.
* `member`, `optional`, `array`, `object` — `at`, `contains` followed by `at`, and the conversions
  to `vector` and `map`; the `_eq_ok` lemmas say when they succeed.
* `FromJson.transferPolicy`, …, `FromJson.bridgeConfig` — the decoders, each under the name of its
  record.

`get<int>()` is `Json.toInt`, with its parameter `cast`.
-/

namespace HakoniwaBridge

/-- Source: `bridge_types.hpp`, `Node`. -/
structure Node where
  id : String
  deriving DecidableEq

/-- Source: `bridge_types.hpp`, `WireLink`. -/
structure WireLink where
  «from» : String
  «to» : String
  deriving DecidableEq

/-- Source: `bridge_types.hpp`, `BridgeConfig`, all fields. -/
structure DecodedConfig extends BridgeConfig where
  version : String
  nodes : List Node
  endpointsConfigPath : Option String
  wireLinks : List WireLink

/-- Source: the exceptions of `nlohmann::json` that end a decoder: a value of another type, or
(`out_of_range`) a member that is missing. -/
inductive DecodeException
  | json (e : JsonException)
  | outOfRange (id : Nat)
  deriving DecidableEq

/-- A `from_json`. -/
abbrev Decoder (α : Type) := Json → Except DecodeException α

namespace FromJson

variable {α : Type}

/-! ## Access -/

/-- The conversion of a value that is read on its own. -/
def scalar (get : Json → Except JsonException α) : Decoder α := fun j => (get j).mapError .json

/-- Source: `json::at` and the conversion of the member. -/
def member (get : Decoder α) (name : String) : Decoder α := fun j =>
  if j.isObject then
    match j.get? name with
    | some v => get v
    | none => .error (.outOfRange 403)
  else .error (.json (.typeError 304))

/-- Source: `json::contains`, and the member if there is one. -/
def optional (get : Decoder α) (name : String) : Decoder (Option α) := fun j =>
  match j.get? name with
  | some v => do return some (← get v)
  | none => return none

/-- Source: the conversion to a `vector`. -/
def array (get : Decoder α) : Decoder (List α)
  | .arr elems => elems.mapM get
  | _ => .error (.json (.typeError 302))

/-- Source: the conversion to a `map`, the loop over the members. -/
def entries (get : Decoder α) :
    List (String × Json) → Except DecodeException (AList fun _ : String => α)
  | [] => return ∅
  | (name, v) :: rest => do
    let a ← get v
    let m ← entries get rest
    return m.insert name a

/-- Source: the conversion to a `map`. -/
def object (get : Decoder α) : Decoder (AList fun _ : String => α)
  | .obj members => entries get members
  | _ => .error (.json (.typeError 302))

abbrev string : Decoder String := scalar Json.toStr
abbrev boolean : Decoder Bool := scalar Json.toBool

/-! ## The records -/

variable (cast : String → Int)

/-- Source: `bridge_types.hpp`, `from_json(const json&, TransferPolicy&)`. -/
def transferPolicy : Decoder TransferPolicy := fun j => do
  let type ← member string "type" j
  let intervalMs ← optional (scalar (Json.toInt cast)) "intervalMs" j
  let atomic ← optional boolean "atomic" j
  return { type := type, intervalMs := intervalMs, atomic := atomic }

/-- Source: `bridge_types.hpp`, `from_json(const json&, Node&)`. -/
def node : Decoder Node := fun j => do
  let id ← member string "id" j
  return { id := id }

/-- Source: `bridge_types.hpp`, `from_json(const json&, WireLink&)`. -/
def wireLink : Decoder WireLink := fun j => do
  let «from» ← member string "from" j
  let «to» ← member string "to" j
  return { «from» := «from», «to» := «to» }

/-- Source: `bridge_types.hpp`, `from_json(const json&, PduKey&)`. -/
def pduKey : Decoder BridgePduKey := fun j => do
  let id ← member string "id" j
  let robotName ← member string "robot_name" j
  let pduName ← member string "pdu_name" j
  return { id := id, robotName := robotName, pduName := pduName }

/-- Source: `bridge_types.hpp`, `from_json(const json&, ConnectionSource&)` and
`from_json(const json&, ConnectionDestination&)`. -/
def endpointRef : Decoder String := member string "endpointId"

/-- Source: `bridge_types.hpp`, `from_json(const json&, TransferPduConfig&)`. -/
def transferPduConfig : Decoder TransferPduConfig := fun j => do
  let pduKeyGroupId ← member string "pduKeyGroupId" j
  let policyId ← member string "policyId" j
  return { pduKeyGroupId := pduKeyGroupId, policyId := policyId }

/-- Source: `bridge_types.hpp`, `from_json(const json&, Connection&)`. -/
def connection : Decoder Connection := fun j => do
  let id ← member string "id" j
  let nodeId ← member string "nodeId" j
  let source ← member endpointRef "source" j
  let destinations ← member (array endpointRef) "destinations" j
  let transferPdus ← member (array transferPduConfig) "transferPdus" j
  let epochValidation ← optional boolean "epoch_validation" j
  return { id := id, nodeId := nodeId, source := source, destinations := destinations
           transferPdus := transferPdus, epochValidation := epochValidation }

/-- Source: `bridge_types.hpp`, `from_json(const json&, BridgeConfig&)`. -/
def bridgeConfig : Decoder DecodedConfig := fun j => do
  let version ← member string "version" j
  let transferPolicies ← member (object (transferPolicy cast)) "transferPolicies" j
  let nodes ← member (array node) "nodes" j
  let endpointsConfigPath ← optional string "endpoints_config_path" j
  let wireLinks ← optional (array wireLink) "wireLinks" j
  let pduKeyGroups ← member (object (array pduKey)) "pduKeyGroups" j
  let connections ← member (array connection) "connections" j
  return { version := version, transferPolicies := transferPolicies, nodes := nodes
           endpointsConfigPath := endpointsConfigPath, wireLinks := wireLinks.getD []
           pduKeyGroups := pduKeyGroups, connections := connections }

/-! ## When they succeed -/

variable {get : Decoder α} {name : String} {members : List (String × Json)} {v : Json} {a : α}

/-- A computation that goes on with the value of another. -/
theorem bind_eq_ok {β : Type} {x : Except DecodeException α} {f : α → Except DecodeException β}
    {b : β} : (x >>= f) = .ok b ↔ ∃ a, x = .ok a ∧ f a = .ok b := by
  cases x with
  | error e =>
    constructor
    · intro h
      cases h
    · rintro ⟨a, ha, -⟩
      cases ha
  | ok a =>
    constructor
    · intro h
      exact ⟨a, rfl, h⟩
    · rintro ⟨a', ha, h⟩
      cases ha
      exact h

theorem member_of_get? (hname : (Json.obj members).get? name = some v) :
    member get name (.obj members) = get v := by
  simp only [member, Json.isObject, if_true, hname]

/-- A member that is read is there. -/
theorem exists_of_member {j : Json} (h : member get name j = .ok a) :
    ∃ v, j.get? name = some v ∧ get v = .ok a := by
  unfold member at h
  split_ifs at h with hobj
  cases hv : j.get? name with
  | none =>
    rw [hv] at h
    cases h
  | some v =>
    rw [hv] at h
    exact ⟨v, rfl, h⟩

theorem optional_of_get? (hname : (Json.obj members).get? name = some v) (hv : get v = .ok a) :
    optional get name (.obj members) = .ok (some a) := by
  simp only [optional, hname, hv]
  rfl

/-- Nothing is read under a name that does not occur. -/
theorem optional_of_missing {j : Json} (hname : j.get? name = none) :
    optional get name j = .ok none := by
  simp only [optional, hname]
  rfl

/-- An array is decoded element by element. -/
theorem array_map {xs : List α} {encode : α → Json} (h : ∀ x ∈ xs, get (encode x) = .ok x) :
    array get (.arr (xs.map encode)) = .ok xs := by
  change (xs.map encode).mapM get = .ok xs
  induction xs with
  | nil => rfl
  | cons x xs ih =>
    have hhead := h x List.mem_cons_self
    have hrest := ih fun y hy => h y (List.mem_cons_of_mem _ hy)
    rw [List.map_cons, List.mapM_cons, hhead]
    exact bind_eq_ok.2 ⟨x, rfl, bind_eq_ok.2 ⟨xs, hrest, rfl⟩⟩

/-- What an array is decoded to comes from its elements. -/
theorem exists_of_array {j : Json} {xs : List α} (h : array get j = .ok xs) :
    ∃ elems, j = .arr elems ∧ ∀ x ∈ xs, ∃ v ∈ elems, get v = .ok x := by
  unfold array at h
  split at h
  · next elems =>
    refine ⟨elems, rfl, ?_⟩
    induction elems generalizing xs with
    | nil =>
      cases h
      simp
    | cons v elems ih =>
      rw [List.mapM_cons] at h
      obtain ⟨x, hx, h⟩ := bind_eq_ok.1 h
      obtain ⟨rest, hrest, h⟩ := bind_eq_ok.1 h
      cases h
      intro y hy
      rcases List.mem_cons.1 hy with rfl | hy
      · exact ⟨v, List.mem_cons_self, hx⟩
      · obtain ⟨w, hw, hget⟩ := ih hrest y hy
        exact ⟨w, List.mem_cons_of_mem _ hw, hget⟩
  · cases h

/-- A map is decoded entry by entry. -/
theorem object_map {m : AList fun _ : String => α} {encode : α → Json}
    (h : ∀ e ∈ m.entries, get (encode e.2) = .ok e.2) :
    object get (.obj (m.entries.map fun e => (e.1, encode e.2))) = .ok m := by
  change entries get (m.entries.map fun e => (e.1, encode e.2)) = .ok m
  obtain ⟨es, hnodup⟩ := m
  induction es with
  | nil => rfl
  | cons e es ih =>
    obtain ⟨name, a⟩ := e
    obtain ⟨hfresh, hes⟩ := List.nodupKeys_cons.1 hnodup
    have hhead : get (encode a) = .ok a := h ⟨name, a⟩ List.mem_cons_self
    have hrest := ih hes fun e he => h e (List.mem_cons_of_mem _ he)
    have hinsert : AList.insert name a ⟨es, hes⟩ = ⟨⟨name, a⟩ :: es, hnodup⟩ :=
      AList.ext (AList.entries_insert_of_notMem hfresh)
    exact bind_eq_ok.2 ⟨a, hhead, bind_eq_ok.2 ⟨⟨es, hes⟩, hrest, congrArg Except.ok hinsert⟩⟩

end FromJson

end HakoniwaBridge
