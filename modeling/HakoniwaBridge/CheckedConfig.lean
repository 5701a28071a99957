import HakoniwaBridge.Expressible
import HakoniwaBridge.References

/-!
# What a valid configuration has in order

The way of a `bridge.json` that is valid under `bridge-schema.json`: through the decoders into
`build`.

* `PatternSchema.schema` — the schema, for any reading of its two patterns: the `$` of Python's `re`
  also matches before a line feed at the end.
* `Guards` — what a schema accepts is decoded, to a value with a given property.
* `DecodedConfig.Valid` — what is known of a configuration from a valid document.
* `valid_loads` — **a valid document is decoded, and a build from it fails for a missing reference
  only**: for an endpoint that is not in the container, or a group or a policy without a definition.
-/

namespace HakoniwaBridge

open Lib Schema

/-! ## The schema for any patterns -/

namespace PatternSchema

variable (isKey isId : String → Bool) (integral : String → Option Int)
  (number : Json → Json → Bool)

/-- Source: `bridge-schema.json`, `$defs/id`. -/
def id : Schema := allOf [string, minLength 1, pattern isId]

/-- Source: `bridge-schema.json`, `$defs/node`. -/
def node : Schema := record ["id"] [("id", id isId)]

/-- Source: `bridge-schema.json`, `$defs/wireLink`. -/
def wireLink : Schema := record ["from", "to"] [("from", id isId), ("to", id isId)]

/-- Source: `bridge-schema.json`, `$defs/pduKey`. -/
def pduKey : Schema :=
  record ["id", "robot_name", "pdu_name"]
    [("id", id isId), ("robot_name", nonempty), ("pdu_name", nonempty)]

/-- Source: `bridge-schema.json`, `$defs/endpointRef`. -/
def endpointRef : Schema := record ["endpointId"] [("endpointId", id isId)]

/-- Source: `bridge-schema.json`, `$defs/transferPdu`. -/
def transferPdu : Schema :=
  record ["pduKeyGroupId", "policyId"] [("pduKeyGroupId", id isId), ("policyId", id isId)]

/-- Source: `bridge-schema.json`, `$defs/connection`. -/
def connection : Schema :=
  record ["id", "nodeId", "source", "destinations", "transferPdus"]
    [("id", id isId),
      ("nodeId", id isId),
      ("source", endpointRef isId),
      ("destinations", arrayFrom 1 (endpointRef isId)),
      ("transferPdus", arrayFrom 1 (transferPdu isId))]

/-- Source: `bridge-schema.json`. -/
def schema : Schema :=
  record ["version", "transferPolicies", "nodes", "pduKeyGroups", "connections"]
    [("version", allOf [string, const "2.0.0"]),
      ("transferPolicies", mapOf isKey (BridgeSchema.transferPolicy integral)),
      ("nodes", allOf [arrayFrom 1 (node isId), uniqueItems number]),
      ("endpoints_config_path", nonempty),
      ("wireLinks", arrayFrom 0 (wireLink isId)),
      ("pduKeyGroups", mapOf isKey (arrayFrom 1 (pduKey isId))),
      ("connections", arrayFrom 1 (connection isId))]

end PatternSchema

/-- The schema whose patterns match up to the end of the text. -/
theorem BridgeSchema.schema_eq (integral : String → Option Int) (number : Json → Json → Bool) :
    BridgeSchema.schema integral number =
      PatternSchema.schema BridgeSchema.isKey BridgeSchema.isId integral number := rfl

/-! ## Schemas and decoders -/

/-- What the schema accepts is decoded, to a value with `P`. -/
def Guards {α : Type} (schema : Schema) (get : Decoder α) (P : α → Prop) : Prop :=
  ∀ doc, schema doc = true → ∃ a, get doc = .ok a ∧ P a

namespace Guards

variable {α : Type} {schema : Schema} {get : Decoder α} {P : α → Prop}

/-- A string of at least one character. -/
theorem nonempty : Guards Schema.nonempty FromJson.string (· ≠ "") := by
  intro doc hvalid
  obtain ⟨s, rfl, hs⟩ := nonempty_iff.1 hvalid
  exact ⟨s, rfl, hs⟩

/-- One of some strings. -/
theorem enum (values : List String) :
    Guards (allOf [Schema.string, Schema.enum values]) FromJson.string (· ∈ values) := by
  intro doc hvalid
  cases doc with
  | str s =>
    simp only [allOf_cons, allOf_nil, Bool.and_eq_true, Schema.enum, decide_eq_true_eq] at hvalid
    exact ⟨s, rfl, hvalid.2.1⟩
  | _ => cases hvalid

/-- An identifier, as the pattern has it. -/
theorem id (isId : String → Bool) :
    Guards (PatternSchema.id isId) FromJson.string (isId · = true) := by
  intro doc hvalid
  cases doc with
  | str s =>
    simp only [PatternSchema.id, allOf_cons, allOf_nil, Bool.and_eq_true] at hvalid
    exact ⟨s, rfl, hvalid.2.2.1⟩
  | _ => cases hvalid

/-- The two booleans are all that the decoder takes. -/
theorem boolean : Guards Schema.boolean FromJson.boolean fun _ => True := by
  intro doc hvalid
  cases doc with
  | bool b => exact ⟨b, rfl, trivial⟩
  | _ => cases hvalid

/-- A number, which the decoder narrows if need be. -/
theorem integer (integral : String → Option Int) (least : Int) (cast : String → Int) :
    Guards (integerFrom integral least) (FromJson.scalar (Json.toInt cast)) fun _ => True := by
  intro doc hvalid
  cases doc with
  | int n => exact ⟨_, rfl, trivial⟩
  | float text => exact ⟨_, rfl, trivial⟩
  | _ => cases hvalid

/-- Elements that each are accepted. -/
theorem mapM (h : Guards schema get P) {elems : List Json}
    (hitems : ∀ v ∈ elems, schema v = true) :
    ∃ xs, elems.mapM get = .ok xs ∧ xs.length = elems.length ∧ ∀ x ∈ xs, P x := by
  induction elems with
  | nil => exact ⟨[], rfl, rfl, List.forall_mem_nil _⟩
  | cons v elems ih =>
    obtain ⟨hv, hothers⟩ := List.forall_mem_cons.1 hitems
    obtain ⟨x, hx, hPx⟩ := h v hv
    obtain ⟨xs, hxs, hsame, hP⟩ := ih hothers
    refine ⟨x :: xs, ?_, congrArg (· + 1) hsame, List.forall_mem_cons.2 ⟨hPx, hP⟩⟩
    rw [List.mapM_cons]
    exact FromJson.bind_eq_ok.2 ⟨x, hx, FromJson.bind_eq_ok.2 ⟨xs, hxs, rfl⟩⟩

/-- An array is decoded element by element. -/
theorem array (h : Guards schema get P) (n : Nat) :
    Guards (arrayFrom n schema) (FromJson.array get) fun xs => n ≤ xs.length ∧ ∀ x ∈ xs, P x := by
  intro doc hvalid
  cases doc with
  | arr elems =>
    simp only [arrayFrom, allOf_cons, allOf_nil, Bool.and_eq_true, minItems, items,
      decide_eq_true_eq, List.all_eq_true] at hvalid
    obtain ⟨-, hlen, hitems, -⟩ := hvalid
    obtain ⟨xs, hxs, hsame, hP⟩ := h.mapM hitems
    exact ⟨xs, hxs, hsame ▸ hlen, hP⟩
  | _ => cases hvalid

/-- Members whose names match, with values that each are accepted. -/
theorem entries (h : Guards schema get P) (isMatch : String → Bool)
    {members : List (String × Json)}
    (hmembers : ∀ m ∈ members, isMatch m.1 = true ∧ schema m.2 = true) :
    ∃ m, FromJson.entries get members = .ok m ∧ (members ≠ [] → m.entries ≠ []) ∧
      ∀ e ∈ m.entries, isMatch e.1 = true ∧ P e.2 := by
  induction members with
  | nil => exact ⟨∅, rfl, fun hne => absurd rfl hne, List.forall_mem_nil _⟩
  | cons member members ih =>
    obtain ⟨name, v⟩ := member
    obtain ⟨⟨hname, hv⟩, hothers⟩ := List.forall_mem_cons.1 hmembers
    obtain ⟨a, ha, hPa⟩ := h v hv
    obtain ⟨m, hm, -, hP⟩ := ih hothers
    refine ⟨m.insert name a, ?_, fun _ => ?_, fun e he => ?_⟩
    · exact FromJson.bind_eq_ok.2 ⟨a, ha, FromJson.bind_eq_ok.2 ⟨m, hm, rfl⟩⟩
    · rw [AList.entries_insert]
      exact List.cons_ne_nil _ _
    · rw [AList.entries_insert, List.mem_cons] at he
      rcases he with rfl | he
      · exact ⟨hname, hPa⟩
      · exact hP e ((List.kerase_sublist name m.entries).subset he)

/-- A map is decoded entry by entry. -/
theorem object (h : Guards schema get P) (isMatch : String → Bool) :
    Guards (mapOf isMatch schema) (FromJson.object get)
      fun m => m.entries ≠ [] ∧ ∀ e ∈ m.entries, isMatch e.1 = true ∧ P e.2 := by
  intro doc hvalid
  cases doc with
  | obj members =>
    simp only [mapOf, allOf_cons, allOf_nil, Bool.and_eq_true, minProperties, patternProperties,
      decide_eq_true_eq, List.all_eq_true] at hvalid
    obtain ⟨-, hlen, hmembers, -⟩ := hvalid
    obtain ⟨m, hm, hne, hP⟩ := h.entries isMatch hmembers
    exact ⟨m, hm, hne (List.length_pos_iff.1 hlen), hP⟩
  | _ => cases hvalid

/-- A keyword beside others. -/
theorem allOf_head (h : Guards schema get P) (schemas : List Schema) :
    Guards (allOf (schema :: schemas)) get P := by
  intro doc hvalid
  rw [allOf_cons, Bool.and_eq_true] at hvalid
  exact h doc hvalid.1

/-! ## Members -/

variable {names : List String} {props : List (String × Schema)} {doc : Json}

/-- A member that a schema requires. -/
theorem member (h : Guards schema get P) (name : String) (hvalid : record names props doc = true)
    (hrequired : name ∈ names) (hprop : (name, schema) ∈ props) :
    ∃ a, FromJson.member get name doc = .ok a ∧ P a := by
  cases doc with
  | obj members =>
    obtain ⟨-, hnames, hprops⟩ := record_iff.1 hvalid
    obtain ⟨v, hv⟩ := Option.isSome_iff_exists.1 (hnames name hrequired)
    rw [FromJson.member_of_get? hv]
    exact h v (hprops (name, schema) hprop v hv)
  | _ => cases hvalid

/-- A member that may be absent. -/
theorem optional (h : Guards schema get P) (name : String) (hvalid : record names props doc = true)
    (hprop : (name, schema) ∈ props) :
    ∃ a?, FromJson.optional get name doc = .ok a? ∧ (a?.isSome = (doc.get? name).isSome) ∧
      ∀ a ∈ a?, P a := by
  cases doc with
  | obj members =>
    obtain ⟨-, -, hprops⟩ := record_iff.1 hvalid
    cases hv : (Json.obj members).get? name with
    | none => exact ⟨none, FromJson.optional_of_missing hv, rfl, nofun⟩
    | some v =>
      obtain ⟨a, ha, hP⟩ := h v (hprops (name, schema) hprop v hv)
      refine ⟨some a, FromJson.optional_of_get? hv ha, rfl, fun a' ha' => ?_⟩
      obtain rfl := Option.some.inj ha'
      exact hP
  | _ => cases hvalid

end Guards

/-- A closed object has no member of another name. -/
theorem get?_of_closed {names : List String} {props : List (String × Schema)} {doc : Json}
    {name : String} (hvalid : record names props doc = true)
    (hname : name ∉ props.map Prod.fst) : doc.get? name = none := by
  cases doc with
  | obj members =>
    by_contra hsome
    obtain ⟨v, hv⟩ := Option.ne_none_iff_exists'.1 hsome
    exact hname ((record_iff.1 hvalid).1 _ (Json.mem_of_get? hv))
  | _ => rfl

/-! ## The records -/

/-- What the schema leaves of the settings of a policy. An interval is at least 1 in the document;
as an `int` it may be anything. -/
def TransferPolicy.Valid (p : TransferPolicy) : Prop :=
  (p.type = "immediate" ∧ p.intervalMs = none) ∨
    ((p.type = "throttle" ∨ p.type = "ticker") ∧ p.atomic = none ∧ p.intervalMs.isSome = true)

/-- Only a string is read as one. -/
theorem FromJson.string_eq_ok {v : Json} {s : String} (h : FromJson.string v = .ok s) :
    v = .str s := by
  cases v with
  | str t => exact congrArg Json.str (Except.ok.inj h)
  | _ => cases h

/-- What is known of a key of a group. -/
structure BridgePduKey.Valid (isId : String → Bool) (k : BridgePduKey) : Prop where
  id : isId k.id = true
  robotName : k.robotName ≠ ""
  pduName : k.pduName ≠ ""

/-- What is known of a connection; the schema has no `epoch_validation`. -/
structure Connection.Valid (isId : String → Bool) (c : Connection) : Prop where
  id : isId c.id = true
  nodeId : isId c.nodeId = true
  source : isId c.source = true
  destinations : c.destinations ≠ [] ∧ ∀ d ∈ c.destinations, isId d = true
  transferPdus : c.transferPdus ≠ [] ∧
    ∀ t ∈ c.transferPdus, isId t.pduKeyGroupId = true ∧ isId t.policyId = true
  epochValidation : c.epochValidation = none

/-- What is known of a configuration from a valid document. -/
structure DecodedConfig.Valid (isKey isId : String → Bool) (cfg : DecodedConfig) : Prop where
  version : cfg.version = "2.0.0"
  policies : cfg.transferPolicies.entries ≠ [] ∧
    ∀ e ∈ cfg.transferPolicies.entries, isKey e.1 = true ∧ e.2.Valid
  nodes : cfg.nodes ≠ [] ∧ ∀ n ∈ cfg.nodes, isId n.id = true
  path : cfg.endpointsConfigPath ≠ some ""
  wireLinks : ∀ w ∈ cfg.wireLinks, isId w.from = true ∧ isId w.to = true
  groups : cfg.pduKeyGroups.entries ≠ [] ∧
    ∀ e ∈ cfg.pduKeyGroups.entries, isKey e.1 = true ∧ e.2 ≠ [] ∧ ∀ k ∈ e.2, k.Valid isId
  connections : cfg.connections ≠ [] ∧
    ∀ c ∈ cfg.connections, c.Valid isId

section guards

variable (isKey isId : String → Bool)

/-- A policy is decoded with the settings that its type needs. -/
theorem guards_transferPolicy (integral : String → Option Int) (cast : String → Int) :
    Guards (BridgeSchema.transferPolicy integral) (FromJson.transferPolicy cast)
      TransferPolicy.Valid := by
  intro doc hvalid
  simp only [BridgeSchema.transferPolicy, allOf_cons, allOf_nil, Bool.and_eq_true] at hvalid
  obtain ⟨hrecord, himmediate, htimed, hplain, -⟩ := hvalid
  obtain ⟨type, htype, hvalues⟩ := (Guards.enum ["immediate", "throttle", "ticker"]).member
    "type" hrecord (by simp) (by simp)
  obtain ⟨ms, hms, hsome, -⟩ :=
    (Guards.integer integral 1 cast).optional "intervalMs" hrecord (by simp)
  obtain ⟨atomic, hatomic, hflag, -⟩ := Guards.boolean.optional "atomic" hrecord (by simp)
  refine ⟨⟨type, ms, atomic⟩, ?_, ?_⟩
  · refine FromJson.bind_eq_ok.2 ⟨type, htype, ?_⟩
    exact FromJson.bind_eq_ok.2 ⟨ms, hms, FromJson.bind_eq_ok.2 ⟨atomic, hatomic, rfl⟩⟩
  -- the settings that go with the type
  obtain ⟨v, hv, hstr⟩ := FromJson.exists_of_member htype
  obtain rfl := FromJson.string_eq_ok hstr
  have hobject : doc.isObject = true := (Bool.and_eq_true _ _).mp hrecord |>.1
  have hcond : ∀ schema : Schema, properties [("type", schema)] doc = schema (.str type) := by
    simp [properties, hv]
  have hneeds : ∀ name, required [name] doc = (doc.get? name).isSome := by
    simp [required, hobject]
  simp only [ifThen, Schema.not, hcond, hneeds, ← hsome, ← hflag] at himmediate htimed hplain
  simp only [List.mem_cons, List.not_mem_nil, or_false] at hvalues
  rcases hvalues with rfl | rfl | rfl
  · left
    simpa [const, enum] using himmediate
  · right
    simpa [enum] using And.intro hplain htimed
  · right
    simpa [enum] using And.intro hplain htimed

/-- A node is decoded with its identifier. -/
theorem guards_node : Guards (PatternSchema.node isId) FromJson.node (isId ·.id = true) := by
  intro doc hvalid
  obtain ⟨id, hid, hisId⟩ := (Guards.id isId).member "id" hvalid (by simp) (by simp)
  exact ⟨⟨id⟩, FromJson.bind_eq_ok.2 ⟨id, hid, rfl⟩, hisId⟩

/-- A wire link is decoded with two identifiers. -/
theorem guards_wireLink : Guards (PatternSchema.wireLink isId) FromJson.wireLink
    fun w => isId w.from = true ∧ isId w.to = true := by
  intro doc hvalid
  obtain ⟨src, hsrc, hsrcId⟩ := (Guards.id isId).member "from" hvalid (by simp) (by simp)
  obtain ⟨dst, hdst, hdstId⟩ := (Guards.id isId).member "to" hvalid (by simp) (by simp)
  exact ⟨⟨src, dst⟩, FromJson.bind_eq_ok.2 ⟨src, hsrc, FromJson.bind_eq_ok.2 ⟨dst, hdst, rfl⟩⟩,
    hsrcId, hdstId⟩

/-- A key is decoded with names that are not empty. -/
theorem guards_pduKey :
    Guards (PatternSchema.pduKey isId) FromJson.pduKey (BridgePduKey.Valid isId) := by
  intro doc hvalid
  obtain ⟨id, hid, hisId⟩ := (Guards.id isId).member "id" hvalid (by simp) (by simp)
  obtain ⟨robot, hrobot, hrobotName⟩ :=
    Guards.nonempty.member "robot_name" hvalid (by simp) (by simp)
  obtain ⟨pdu, hpdu, hpduName⟩ := Guards.nonempty.member "pdu_name" hvalid (by simp) (by simp)
  refine ⟨⟨id, robot, pdu⟩, ?_, hisId, hrobotName, hpduName⟩
  refine FromJson.bind_eq_ok.2 ⟨id, hid, ?_⟩
  exact FromJson.bind_eq_ok.2 ⟨robot, hrobot, FromJson.bind_eq_ok.2 ⟨pdu, hpdu, rfl⟩⟩

theorem guards_endpointRef :
    Guards (PatternSchema.endpointRef isId) FromJson.endpointRef (isId · = true) :=
  fun _ hvalid => (Guards.id isId).member "endpointId" hvalid (by simp) (by simp)

/-- An entry is decoded with the identifiers of its group and its policy. -/
theorem guards_transferPdu : Guards (PatternSchema.transferPdu isId) FromJson.transferPduConfig
    fun t => isId t.pduKeyGroupId = true ∧ isId t.policyId = true := by
  intro doc hvalid
  obtain ⟨group, hgroup, hgroupId⟩ :=
    (Guards.id isId).member "pduKeyGroupId" hvalid (by simp) (by simp)
  obtain ⟨policy, hpolicy, hpolicyId⟩ :=
    (Guards.id isId).member "policyId" hvalid (by simp) (by simp)
  refine ⟨⟨group, policy⟩, ?_, hgroupId, hpolicyId⟩
  exact FromJson.bind_eq_ok.2 ⟨group, hgroup, FromJson.bind_eq_ok.2 ⟨policy, hpolicy, rfl⟩⟩

/-- A connection is decoded with destinations and entries, each at least one. -/
theorem guards_connection : Guards (PatternSchema.connection isId) FromJson.connection
    (Connection.Valid isId) := by
  intro doc hvalid
  obtain ⟨id, hid, hisId⟩ := (Guards.id isId).member "id" hvalid (by simp) (by simp)
  obtain ⟨node, hnode, hnodeId⟩ := (Guards.id isId).member "nodeId" hvalid (by simp) (by simp)
  obtain ⟨source, hsource, hsourceId⟩ :=
    (guards_endpointRef isId).member "source" hvalid (by simp) (by simp)
  obtain ⟨dests, hdests, hdestsLen, hdestIds⟩ :=
    ((guards_endpointRef isId).array 1).member "destinations" hvalid (by simp) (by simp)
  obtain ⟨entries, hentries, hentriesLen, hentryIds⟩ :=
    ((guards_transferPdu isId).array 1).member "transferPdus" hvalid (by simp) (by simp)
  have hepoch : FromJson.optional FromJson.boolean "epoch_validation" doc = .ok none :=
    FromJson.optional_of_missing (get?_of_closed hvalid (by simp))
  refine ⟨⟨id, node, source, dests, entries, none⟩, ?_, ⟨hisId, hnodeId, hsourceId,
    ⟨List.length_pos_iff.1 hdestsLen, hdestIds⟩, ⟨List.length_pos_iff.1 hentriesLen, hentryIds⟩,
    rfl⟩⟩
  refine FromJson.bind_eq_ok.2 ⟨id, hid, FromJson.bind_eq_ok.2 ⟨node, hnode, ?_⟩⟩
  refine FromJson.bind_eq_ok.2 ⟨source, hsource, FromJson.bind_eq_ok.2 ⟨dests, hdests, ?_⟩⟩
  exact FromJson.bind_eq_ok.2 ⟨entries, hentries, FromJson.bind_eq_ok.2 ⟨none, hepoch, rfl⟩⟩

/-- **A valid document is decoded.** -/
theorem guards_bridgeConfig (integral : String → Option Int) (number : Json → Json → Bool)
    (cast : String → Int) : Guards (PatternSchema.schema isKey isId integral number)
      (FromJson.bridgeConfig cast) (DecodedConfig.Valid isKey isId) := by
  intro doc hvalid
  obtain ⟨version, hversion, hvalue⟩ :=
    (Guards.enum ["2.0.0"]).member "version" hvalid (by simp) (by simp [const])
  obtain ⟨policies, hpolicies, hpolicy⟩ :=
    ((guards_transferPolicy integral cast).object isKey).member "transferPolicies" hvalid
      (by simp) (by simp)
  obtain ⟨groups, hgroups, hgroup⟩ := (((guards_pduKey isId).array 1).object isKey).member
    "pduKeyGroups" hvalid (by simp) (by simp)
  obtain ⟨path, hpath, -, hpathText⟩ :=
    Guards.nonempty.optional "endpoints_config_path" hvalid (by simp)
  obtain ⟨links, hlinks, -, hlink⟩ :=
    ((guards_wireLink isId).array 0).optional "wireLinks" hvalid (by simp)
  obtain ⟨nodes, hnodes, hnodesLen, hnodeIds⟩ := (((guards_node isId).array 1).allOf_head
    [uniqueItems number]).member "nodes" hvalid (by simp) (by simp)
  obtain ⟨connections, hconnections, hlen, hconnection⟩ :=
    ((guards_connection isId).array 1).member "connections" hvalid (by simp) (by simp)
  refine ⟨⟨⟨policies, groups, connections⟩, version, nodes, path, links.getD []⟩, ?_, ?_⟩
  · refine FromJson.bind_eq_ok.2 ⟨version, hversion, ?_⟩
    refine FromJson.bind_eq_ok.2 ⟨policies, hpolicies, ?_⟩
    refine FromJson.bind_eq_ok.2 ⟨nodes, hnodes, FromJson.bind_eq_ok.2 ⟨path, hpath, ?_⟩⟩
    refine FromJson.bind_eq_ok.2 ⟨links, hlinks, FromJson.bind_eq_ok.2 ⟨groups, hgroups, ?_⟩⟩
    exact FromJson.bind_eq_ok.2 ⟨connections, hconnections, rfl⟩
  · refine ⟨List.mem_singleton.1 hvalue, hpolicy, ⟨List.length_pos_iff.1 hnodesLen, hnodeIds⟩,
      fun heq => hpathText "" heq rfl, fun w hw => ?_, ⟨hgroup.1, fun e he => ?_⟩,
      List.length_pos_iff.1 hlen, hconnection⟩
    · cases links with
      | none => exact absurd hw List.not_mem_nil
      | some ws => exact (hlink ws rfl).2 w hw
    · obtain ⟨hkey, hkeys, hconventional⟩ := hgroup.2 e he
      exact ⟨hkey, List.length_pos_iff.1 hkeys, hconventional⟩

end guards

/-! ## The build -/

/-- The references of a connection lead somewhere. -/
structure Connection.Refers (cfg : BridgeConfig) (container : List String)
    (connDef : Connection) : Prop where
  source : connDef.source ∈ container
  destinations : ∀ dest ∈ connDef.destinations, dest ∈ container
  entries : ∀ entry ∈ connDef.transferPdus,
    entry.pduKeyGroupId ∈ cfg.pduKeyGroups ∧ entry.policyId ∈ cfg.transferPolicies

/-- A policy from a valid document can be created. -/
theorem TransferPolicy.Valid.created {p : TransferPolicy} (h : p.Valid) :
    ∃ policy, Builder.createPolicyInstance p = .ok policy := by
  obtain ⟨type, intervalMs, atomic⟩ := p
  rcases h with ⟨rfl, rfl⟩ | ⟨htype, rfl, hsome⟩
  · exact ⟨_, rfl⟩
  · obtain ⟨ms, rfl⟩ := Option.isSome_iff_exists.1 hsome
    rcases htype with rfl | rfl
    · exact ⟨_, rfl⟩
    · exact ⟨_, rfl⟩

variable {ε : Type}

/-- Of a valid configuration the checks of a build leave the references. -/
theorem DecodedConfig.Valid.checked_iff {isKey isId : String → Bool} {cfg : DecodedConfig}
    (h : cfg.Valid isKey isId)
    (container : List String) {connDef : Connection} (hmem : connDef ∈ cfg.connections) :
    connDef.Checked cfg.toBridgeConfig container ↔
      connDef.Refers cfg.toBridgeConfig container := by
  have hvalid := h.connections.2 connDef hmem
  have hgroup : ∀ entry : TransferPduConfig, entry.HasGroup cfg.toBridgeConfig ↔
      entry.pduKeyGroupId ∈ cfg.pduKeyGroups := fun entry => by
    rw [← AList.lookup_isSome, Option.isSome_iff_exists]
    rfl
  constructor
  · rintro ⟨hsource, hdests, hgroups, hfound, -⟩
    refine ⟨hsource, hdests, fun entry he => ⟨(hgroup entry).1 (hgroups entry he), ?_⟩⟩
    rw [← AList.lookup_isSome, Option.isSome_iff_exists]
    exact hfound hvalid.destinations.1 entry he
  · rintro ⟨hsource, hdests, hentries⟩
    have hlookup : ∀ entry ∈ connDef.transferPdus, ∃ policyDef,
        cfg.transferPolicies.lookup entry.policyId = some policyDef := fun entry he =>
      Option.isSome_iff_exists.1 (AList.lookup_isSome.2 (hentries entry he).2)
    refine ⟨hsource, hdests, fun entry he => (hgroup entry).2 (hentries entry he).1,
      fun _ => hlookup, fun entry he _ => ?_⟩
    obtain ⟨policyDef, hpolicy⟩ := hlookup entry he
    obtain ⟨-, hvalid⟩ := h.policies.2 ⟨entry.policyId, policyDef⟩
      (AList.mem_lookup_iff.1 hpolicy)
    obtain ⟨policy, hcreated⟩ := hvalid.created
    exact ⟨policyDef, policy, hpolicy, hcreated⟩

/-- **A valid configuration.** Whatever the patterns match, a document that is valid under the
schema is decoded, and whatever the node and the endpoint container, a build yields a core iff the
connections of the node refer to endpoints of the container and to groups and policies of the
configuration. -/
theorem valid_loads (isKey isId : String → Bool) (integral : String → Option Int)
    (number : Json → Json → Bool) (cast : String → Int) {doc : Json}
    (hvalid : PatternSchema.schema isKey isId integral number doc = true) :
    ∃ cfg, FromJson.bridgeConfig cast doc = .ok cfg ∧ cfg.Valid isKey isId ∧
      ∀ (E : Env ε) (nodeName : String) (container : List String) (h : Host ε),
        (∃ core, (build E cfg.toBridgeConfig nodeName container h).2 = .ok core) ↔
          cfg.toBridgeConfig.OfNode nodeName (·.Refers cfg.toBridgeConfig container) := by
  obtain ⟨cfg, hcfg, hok⟩ := guards_bridgeConfig isKey isId integral number cast doc hvalid
  refine ⟨cfg, hcfg, hok, fun E nodeName container h => ?_⟩
  rw [build_ok_iff]
  constructor
  · intro hchecked connDef hmem hnode
    exact (hok.checked_iff container hmem).1 (hchecked connDef hmem hnode)
  · intro hrefers connDef hmem hnode
    exact (hok.checked_iff container hmem).2 (hrefers connDef hmem hnode)

end HakoniwaBridge
