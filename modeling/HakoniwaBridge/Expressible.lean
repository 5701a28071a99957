import HakoniwaBridge.BridgeJson
import HakoniwaBridge.BridgeSchema

/-!
# Which configurations the schema can express

`Document.bridgeConfig` writes a configuration down. What it writes is valid under
`bridge-schema.json` and is decoded to the configuration again, if the configuration keeps the
conventions of the schema (`DecodedConfig.Conventional`) and no connection says whether it
validates epochs: the schema of a connection is closed and does not name `epoch_validation`, which
the decoder of a connection reads.

* `Expresses` — a document is valid, and is decoded to a given value.
* `DecodedConfig.expressible_iff` — **the schema expresses a conventional configuration if and only
  if none of its connections has an `epoch_validation`.**
-/

namespace HakoniwaBridge

open Schema

/-- A document for a value: valid under the schema, and decoded to the value. -/
structure Expresses {α : Type} (schema : Schema) (get : Decoder α) (a : α) (doc : Json) :
    Prop where
  valid : schema doc = true
  decodes : get doc = .ok a

/-! ## Documents -/

namespace Document

/-- A member for a value that may be absent. -/
def optional {α : Type} (name : String) (encode : α → Json) (a : Option α) :
    List (String × Json) :=
  (a.map fun a => (name, encode a)).toList

/-- A map, with the members in the order of its entries. -/
def object {α : Type} (encode : α → Json) (m : AList fun _ : String => α) : Json :=
  .obj (m.entries.map fun e => (e.1, encode e.2))

def array {α : Type} (encode : α → Json) (xs : List α) : Json := .arr (xs.map encode)

def transferPolicy (p : TransferPolicy) : Json :=
  .obj ([("type", .str p.type)] ++ optional "intervalMs" .int p.intervalMs ++
    optional "atomic" .bool p.atomic)

def node (n : Node) : Json := .obj [("id", .str n.id)]

def wireLink (w : WireLink) : Json := .obj [("from", .str w.from), ("to", .str w.to)]

def pduKey (k : BridgePduKey) : Json :=
  .obj [("id", .str k.id), ("robot_name", .str k.robotName), ("pdu_name", .str k.pduName)]

def endpointRef (id : String) : Json := .obj [("endpointId", .str id)]

def transferPduConfig (t : TransferPduConfig) : Json :=
  .obj [("pduKeyGroupId", .str t.pduKeyGroupId), ("policyId", .str t.policyId)]

def connection (c : Connection) : Json :=
  .obj ([("id", .str c.id), ("nodeId", .str c.nodeId), ("source", endpointRef c.source),
    ("destinations", array endpointRef c.destinations),
    ("transferPdus", array transferPduConfig c.transferPdus)] ++
    optional "epoch_validation" .bool c.epochValidation)

def bridgeConfig (cfg : DecodedConfig) : Json :=
  .obj ([("version", .str cfg.version),
    ("transferPolicies", object transferPolicy cfg.transferPolicies),
    ("nodes", array node cfg.nodes), ("wireLinks", array wireLink cfg.wireLinks),
    ("pduKeyGroups", object (array pduKey) cfg.pduKeyGroups),
    ("connections", array connection cfg.connections)] ++
    optional "endpoints_config_path" .str cfg.endpointsConfigPath)

end Document

/-! ## The conventions -/

open BridgeSchema (isId isKey)

/-- The settings that go with the type of a policy; `intervalMs` is an `int`. -/
def TransferPolicy.Conventional (p : TransferPolicy) : Prop :=
  (p.type = "immediate" ∧ p.intervalMs = none) ∨
    ((p.type = "throttle" ∨ p.type = "ticker") ∧ p.atomic = none ∧
      ∃ ms, p.intervalMs = some ms ∧ 1 ≤ ms ∧ ms < 2 ^ 31)

structure BridgePduKey.Conventional (k : BridgePduKey) : Prop where
  id : isId k.id = true
  robotName : k.robotName ≠ ""
  pduName : k.pduName ≠ ""

structure Connection.Conventional (c : Connection) : Prop where
  id : isId c.id = true
  nodeId : isId c.nodeId = true
  source : isId c.source = true
  destinations : c.destinations ≠ [] ∧ ∀ d ∈ c.destinations, isId d = true
  transferPdus : c.transferPdus ≠ [] ∧
    ∀ t ∈ c.transferPdus, isId t.pduKeyGroupId = true ∧ isId t.policyId = true

/-- The conventions of the schema, apart from what it says of `epoch_validation`. -/
structure DecodedConfig.Conventional (cfg : DecodedConfig) : Prop where
  version : cfg.version = "2.0.0"
  policies : cfg.transferPolicies.entries ≠ [] ∧
    ∀ e ∈ cfg.transferPolicies.entries, isKey e.1 = true ∧ e.2.Conventional
  nodes : cfg.nodes ≠ [] ∧ cfg.nodes.Nodup ∧ ∀ n ∈ cfg.nodes, isId n.id = true
  path : cfg.endpointsConfigPath ≠ some ""
  wireLinks : ∀ w ∈ cfg.wireLinks, isId w.from = true ∧ isId w.to = true
  groups : cfg.pduKeyGroups.entries ≠ [] ∧
    ∀ e ∈ cfg.pduKeyGroups.entries, isKey e.1 = true ∧ e.2 ≠ [] ∧ ∀ k ∈ e.2, k.Conventional
  connections : cfg.connections ≠ [] ∧ ∀ c ∈ cfg.connections, c.Conventional

/-! ## What the documents express -/

theorem id_str {s : String} (h : isId s = true) : BridgeSchema.id (.str s) = true := by
  have hne : 1 ≤ s.length := by
    rw [Nat.one_le_iff_ne_zero, ne_eq, String.length_eq_zero_iff]
    rintro rfl
    exact absurd h (by decide)
  simp [BridgeSchema.id, string, minLength, pattern, h, hne]

namespace Expresses

variable {α : Type} {schema : Schema} {get : Decoder α} {encode : α → Json}

/-- A list of values that each have a document. -/
theorem array {n : Nat} {xs : List α} (hlen : n ≤ xs.length)
    (h : ∀ x ∈ xs, Expresses schema get x (encode x)) :
    Expresses (arrayFrom n schema) (FromJson.array get) xs (Document.array encode xs) := by
  refine ⟨?_, FromJson.array_map fun x hx => (h x hx).decodes⟩
  simp only [arrayFrom, allOf_cons, allOf_nil, Bool.and_true, Bool.and_eq_true]
  refine ⟨rfl, by simpa [minItems, Document.array] using hlen, ?_⟩
  simpa [items, Document.array] using fun x hx => (h x hx).valid

/-- A map with at least one entry, whose keys match. -/
theorem object {m : AList fun _ : String => α} {isMatch : String → Bool} (hne : m.entries ≠ [])
    (h : ∀ e ∈ m.entries, isMatch e.1 = true ∧ Expresses schema get e.2 (encode e.2)) :
    Expresses (mapOf isMatch schema) (FromJson.object get) m (Document.object encode m) := by
  have hlen : 1 ≤ m.entries.length := List.length_pos_iff.2 hne
  refine ⟨?_, FromJson.object_map fun e he => (h e he).2.decodes⟩
  simp only [mapOf, allOf_cons, allOf_nil, Bool.and_true, Bool.and_eq_true]
  refine ⟨rfl, by simpa [minProperties, Document.object] using hlen, ?_⟩
  simp only [patternProperties, Document.object, List.all_map, List.all_eq_true,
    Function.comp_apply, Bool.and_eq_true]
  exact fun e he => ⟨(h e he).1, (h e he).2.valid⟩

end Expresses

section records

variable {integral : String → Option Int} {number : Json → Json → Bool} {cast : String → Int}

theorem expresses_transferPolicy {p : TransferPolicy} (h : p.Conventional) :
    Expresses (BridgeSchema.transferPolicy integral) (FromJson.transferPolicy cast) p
      (Document.transferPolicy p) := by
  obtain ⟨type, intervalMs, atomic⟩ := p
  rcases h with ⟨rfl, rfl⟩ | ⟨htype, rfl, ms, rfl, hlow, hhigh⟩
  · -- an immediate policy, with or without the flag
    cases atomic with
    | none => exact ⟨rfl, rfl⟩
    | some b => exact ⟨rfl, rfl⟩
  · have hint : Json.narrow cast ms = ms := Json.narrow_of_bounds cast (by omega) hhigh
    constructor
    · have hmin : integerFrom integral 1 (.int ms) = true := by simpa [integerFrom] using hlow
      rcases htype with rfl | rfl
      · simp [BridgeSchema.transferPolicy, Document.transferPolicy, Document.optional, record_iff,
          Json.get?, string, enum, hmin, ifThen, properties, const, required, Json.isObject,
          Schema.not]
      · simp [BridgeSchema.transferPolicy, Document.transferPolicy, Document.optional, record_iff,
          Json.get?, string, enum, hmin, ifThen, properties, const, required, Json.isObject,
          Schema.not]
    · change Except.ok (TransferPolicy.mk type (some (Json.narrow cast ms)) none) = _
      rw [hint]

theorem expresses_node {n : Node} (h : isId n.id = true) :
    Expresses BridgeSchema.node FromJson.node n (Document.node n) := by
  refine ⟨record_iff.2 ⟨by simp, by simp [Json.get?], ?_⟩, rfl⟩
  simp [Json.get?, id_str h]

theorem expresses_wireLink {w : WireLink} (hfrom : isId w.from = true) (hto : isId w.to = true) :
    Expresses BridgeSchema.wireLink FromJson.wireLink w (Document.wireLink w) := by
  refine ⟨record_iff.2 ⟨by simp, by simp [Json.get?], ?_⟩, rfl⟩
  simp [Json.get?, id_str hfrom, id_str hto]

theorem expresses_pduKey {k : BridgePduKey} (h : k.Conventional) :
    Expresses BridgeSchema.pduKey FromJson.pduKey k (Document.pduKey k) := by
  refine ⟨record_iff.2 ⟨by simp, by simp [Json.get?], ?_⟩, rfl⟩
  simp [Json.get?, id_str h.id, nonempty_iff, h.robotName, h.pduName]

theorem expresses_endpointRef {id : String} (h : isId id = true) :
    Expresses BridgeSchema.endpointRef FromJson.endpointRef id (Document.endpointRef id) := by
  refine ⟨record_iff.2 ⟨by simp, by simp [Json.get?], ?_⟩, rfl⟩
  simp [Json.get?, id_str h]

theorem expresses_transferPdu {t : TransferPduConfig} (hgroup : isId t.pduKeyGroupId = true)
    (hpolicy : isId t.policyId = true) :
    Expresses BridgeSchema.transferPdu FromJson.transferPduConfig t
      (Document.transferPduConfig t) := by
  refine ⟨record_iff.2 ⟨by simp, by simp [Json.get?], ?_⟩, rfl⟩
  simp [Json.get?, id_str hgroup, id_str hpolicy]

/-- A connection that leaves `epoch_validation` out. -/
theorem expresses_connection {c : Connection} (h : c.Conventional)
    (hepoch : c.epochValidation = none) :
    Expresses BridgeSchema.connection FromJson.connection c (Document.connection c) := by
  obtain ⟨id, nodeId, source, destinations, transferPdus, epochValidation⟩ := c
  obtain ⟨hid, hnode, hsource, ⟨hne, hdestinations⟩, hne', htransferPdus⟩ := h
  dsimp only at *
  subst hepoch
  have hsrc := expresses_endpointRef hsource
  have hdsts := Expresses.array (List.length_pos_iff.2 hne) fun d hd =>
    expresses_endpointRef (hdestinations d hd)
  have hpdus := Expresses.array (List.length_pos_iff.2 hne') fun t ht =>
    expresses_transferPdu (htransferPdus t ht).1 (htransferPdus t ht).2
  constructor
  · refine record_iff.2 ⟨by simp [Document.optional], by simp [Json.get?, Document.optional], ?_⟩
    simp [Json.get?, Document.optional, id_str hid, id_str hnode, hsrc.valid, hdsts.valid,
      hpdus.valid]
  · refine FromJson.bind_eq_ok.2 ⟨id, rfl, ?_⟩
    refine FromJson.bind_eq_ok.2 ⟨nodeId, rfl, ?_⟩
    refine FromJson.bind_eq_ok.2 ⟨source, rfl, ?_⟩
    refine FromJson.bind_eq_ok.2 ⟨destinations, hdsts.decodes, ?_⟩
    exact FromJson.bind_eq_ok.2 ⟨transferPdus, hpdus.decodes, rfl⟩

/-- Nodes with different ids are different values. -/
theorem uniqueItems_nodes {nodes : List Node} (h : nodes.Nodup) :
    uniqueItems number (Document.array Document.node nodes) = true := by
  simp only [uniqueItems, Document.array, decide_eq_true_eq, List.pairwise_map]
  apply List.Pairwise.imp _ h
  intro a b hne
  have hid : a.id ≠ b.id := fun heq => hne (by
    cases a
    cases b
    exact congrArg Node.mk heq)
  simpa [Document.node, Json.same, Json.sameMembers, Json.get?] using hid

theorem expresses_bridgeConfig {cfg : DecodedConfig} (h : cfg.Conventional)
    (hepoch : ∀ c ∈ cfg.connections, c.epochValidation = none) :
    Expresses (BridgeSchema.schema integral number) (FromJson.bridgeConfig cast) cfg
      (Document.bridgeConfig cfg) := by
  have hpolicy : ∀ p : TransferPolicy, p.Conventional →
      Expresses (BridgeSchema.transferPolicy integral) (FromJson.transferPolicy cast) p
        (Document.transferPolicy p) := fun _ hp => expresses_transferPolicy hp
  have hpolicies := Expresses.object h.policies.1 fun e he =>
    ⟨(h.policies.2 e he).1, hpolicy _ (h.policies.2 e he).2⟩
  have hnodes := Expresses.array (List.length_pos_iff.2 h.nodes.1) fun n hn =>
    expresses_node (h.nodes.2.2 n hn)
  have hdistinct : allOf [arrayFrom 1 BridgeSchema.node, uniqueItems number]
      (Document.array Document.node cfg.nodes) = true := by
    simp only [allOf_cons, allOf_nil, Bool.and_eq_true, and_true]
    exact ⟨hnodes.valid, uniqueItems_nodes h.nodes.2.1⟩
  have hlinks := Expresses.array (Nat.zero_le cfg.wireLinks.length) fun w hw =>
    expresses_wireLink (h.wireLinks w hw).1 (h.wireLinks w hw).2
  have hgroups := Expresses.object h.groups.1 fun e he =>
    ⟨(h.groups.2 e he).1, Expresses.array (List.length_pos_iff.2 (h.groups.2 e he).2.1)
      fun k hk => expresses_pduKey ((h.groups.2 e he).2.2 k hk)⟩
  have hconnections := Expresses.array (List.length_pos_iff.2 h.connections.1) fun c hc =>
    expresses_connection (h.connections.2 c hc) (hepoch c hc)
  have hversion := h.version
  have hpath := h.path
  obtain ⟨⟨transferPolicies, pduKeyGroups, connections⟩, version, nodes, path, wireLinks⟩ := cfg
  dsimp only at *
  subst hversion
  have hversion : allOf [string, const "2.0.0"] (.str "2.0.0") = true := rfl
  constructor
  · cases path with
    | none =>
      refine record_iff.2 ⟨by simp [Document.optional], by simp [Json.get?, Document.optional], ?_⟩
      simp [Json.get?, Document.optional, -allOf_cons, hversion, hpolicies.valid, hdistinct,
        hlinks.valid, hgroups.valid, hconnections.valid]
    | some path =>
      have hne : nonempty (.str path) = true :=
        nonempty_iff.2 ⟨path, rfl, fun heq => hpath (congrArg some heq)⟩
      refine record_iff.2 ⟨by simp [Document.optional], by simp [Json.get?, Document.optional], ?_⟩
      simp [Json.get?, Document.optional, -allOf_cons, hversion, hpolicies.valid, hdistinct,
        hlinks.valid, hgroups.valid, hconnections.valid, hne]
  · refine FromJson.bind_eq_ok.2 ⟨"2.0.0", rfl, ?_⟩
    refine FromJson.bind_eq_ok.2 ⟨transferPolicies, hpolicies.decodes, ?_⟩
    refine FromJson.bind_eq_ok.2 ⟨nodes, hnodes.decodes, ?_⟩
    refine FromJson.bind_eq_ok.2 ⟨path, ?_, ?_⟩
    · cases path <;> rfl
    refine FromJson.bind_eq_ok.2 ⟨some wireLinks, ?_, ?_⟩
    · exact FromJson.optional_of_get? rfl hlinks.decodes
    refine FromJson.bind_eq_ok.2 ⟨pduKeyGroups, hgroups.decodes, ?_⟩
    exact FromJson.bind_eq_ok.2 ⟨connections, hconnections.decodes, rfl⟩

/-! ## What no document expresses -/

/-- The schema of a connection does not let `epoch_validation` in. -/
theorem epochValidation_of_valid {doc : Json} {c : Connection}
    (hvalid : BridgeSchema.connection doc = true) (h : FromJson.connection doc = .ok c) :
    c.epochValidation = none := by
  have hmissing : doc.get? "epoch_validation" = none := by
    cases doc with
    | obj members =>
      by_contra hsome
      obtain ⟨v, hv⟩ := Option.ne_none_iff_exists'.1 hsome
      have hname := (record_iff.1 hvalid).1 _ (Json.mem_of_get? hv)
      exact absurd hname (by simp)
    | _ => rfl
  obtain ⟨id, -, h⟩ := FromJson.bind_eq_ok.1 h
  obtain ⟨nodeId, -, h⟩ := FromJson.bind_eq_ok.1 h
  obtain ⟨source, -, h⟩ := FromJson.bind_eq_ok.1 h
  obtain ⟨destinations, -, h⟩ := FromJson.bind_eq_ok.1 h
  obtain ⟨transferPdus, -, h⟩ := FromJson.bind_eq_ok.1 h
  rw [FromJson.optional_of_missing hmissing] at h
  cases h
  rfl

/-- Nor does the schema of the whole file, anywhere. -/
theorem epochValidation_of_schema {doc : Json} {cfg : DecodedConfig}
    (hvalid : BridgeSchema.schema integral number doc = true)
    (h : FromJson.bridgeConfig cast doc = .ok cfg) :
    ∀ c ∈ cfg.connections, c.epochValidation = none := by
  obtain ⟨version, -, h⟩ := FromJson.bind_eq_ok.1 h
  obtain ⟨policies, -, h⟩ := FromJson.bind_eq_ok.1 h
  obtain ⟨nodes, -, h⟩ := FromJson.bind_eq_ok.1 h
  obtain ⟨path, -, h⟩ := FromJson.bind_eq_ok.1 h
  obtain ⟨links, -, h⟩ := FromJson.bind_eq_ok.1 h
  obtain ⟨groups, -, h⟩ := FromJson.bind_eq_ok.1 h
  obtain ⟨connections, hconnections, h⟩ := FromJson.bind_eq_ok.1 h
  cases h
  obtain ⟨v, hv, hget⟩ := FromJson.exists_of_member hconnections
  obtain ⟨elems, rfl, helems⟩ := FromJson.exists_of_array hget
  intro c hc
  obtain ⟨w, hw, hdecodes⟩ := helems c hc
  -- the element is under the schema of a connection
  have harray : arrayFrom 1 BridgeSchema.connection (.arr elems) = true := by
    cases doc with
    | obj members =>
      have hprops := (record_iff.1 hvalid).2.2
      exact hprops ("connections", arrayFrom 1 BridgeSchema.connection) (by simp) _ hv
    | _ => cases hv
  simp only [arrayFrom, allOf_cons, allOf_nil, Bool.and_eq_true, and_true, items,
    List.all_eq_true] at harray
  exact epochValidation_of_valid (harray.2.2 w hw) hdecodes

/-! ## Which configurations the schema expresses -/

/-- **The schema expresses a conventional configuration if and only if none of its connections
has an `epoch_validation`.** -/
theorem DecodedConfig.expressible_iff (integral : String → Option Int)
    (number : Json → Json → Bool) (cast : String → Int) {cfg : DecodedConfig}
    (h : cfg.Conventional) :
    (∃ doc, BridgeSchema.schema integral number doc = true ∧
      FromJson.bridgeConfig cast doc = .ok cfg) ↔
      ∀ c ∈ cfg.connections, c.epochValidation = none := by
  constructor
  · rintro ⟨doc, hvalid, hdecodes⟩
    exact epochValidation_of_schema hvalid hdecodes
  · intro hepoch
    have hexpresses : Expresses (BridgeSchema.schema integral number)
        (FromJson.bridgeConfig cast) cfg (Document.bridgeConfig cfg) :=
      expresses_bridgeConfig h hepoch
    exact ⟨Document.bridgeConfig cfg, hexpresses.1, hexpresses.2⟩

end records

/-- A small configuration: one atomic group of one PDU, over a connection with the given setting. -/
def DecodedConfig.small (epochValidation : Option Bool) : DecodedConfig where
  version := "2.0.0"
  transferPolicies := AList.singleton "atomic" ⟨"immediate", none, some true⟩
  nodes := [⟨"node1"⟩]
  endpointsConfigPath := none
  wireLinks := []
  pduKeyGroups := AList.singleton "group" [⟨"Robot.pos", "Robot", "pos"⟩]
  connections :=
    [{ id := "conn", nodeId := "node1", source := "src", destinations := ["dst"]
       transferPdus := [⟨"group", "atomic"⟩], epochValidation := epochValidation }]

theorem conventional_small (epochValidation : Option Bool) :
    (DecodedConfig.small epochValidation).Conventional where
  version := rfl
  policies := by
    refine ⟨List.cons_ne_nil _ _, fun e he => ?_⟩
    obtain rfl := List.mem_singleton.1 he
    exact ⟨by decide, Or.inl ⟨rfl, rfl⟩⟩
  nodes := by
    refine ⟨List.cons_ne_nil _ _, List.nodup_singleton _, fun n hn => ?_⟩
    obtain rfl := List.mem_singleton.1 hn
    decide
  path := by simp [DecodedConfig.small]
  wireLinks := by simp [DecodedConfig.small]
  groups := by
    refine ⟨List.cons_ne_nil _ _, fun e he => ?_⟩
    obtain rfl := List.mem_singleton.1 he
    refine ⟨by decide, List.cons_ne_nil _ _, fun k hk => ?_⟩
    obtain rfl := List.mem_singleton.1 hk
    exact ⟨by decide, by decide, by decide⟩
  connections := by
    have hid : ∀ id ∈ ["conn", "node1", "src", "dst", "group", "atomic"], isId id = true := by
      decide
    refine ⟨List.cons_ne_nil _ _, fun c hc => ?_⟩
    obtain rfl := List.mem_singleton.1 hc
    constructor
    · exact hid "conn" (by simp)
    · exact hid "node1" (by simp)
    · exact hid "src" (by simp)
    · refine ⟨List.cons_ne_nil _ _, fun d hd => ?_⟩
      obtain rfl := List.mem_singleton.1 hd
      exact hid "dst" (by simp)
    · refine ⟨List.cons_ne_nil _ _, fun t ht => ?_⟩
      obtain rfl := List.mem_singleton.1 ht
      exact ⟨hid "group" (by simp), hid "atomic" (by simp)⟩

/-- The small configuration without the setting can be written down. -/
theorem DecodedConfig.expressible_small :
    ∃ doc, BridgeSchema.schema (fun _ => none) (fun _ _ => false) doc = true ∧
      FromJson.bridgeConfig (fun _ => 0) doc = .ok (DecodedConfig.small none) :=
  (DecodedConfig.expressible_iff _ _ _ (conventional_small none)).2 (by simp [DecodedConfig.small])

/-- **A connection that validates epochs cannot be written down.** It keeps every other
convention, and no valid document is decoded to it. -/
theorem DecodedConfig.validating_inexpressible :
    (DecodedConfig.small (some true)).Conventional ∧
      ∀ (integral : String → Option Int) (number : Json → Json → Bool) (cast : String → Int),
        ¬ ∃ doc, BridgeSchema.schema integral number doc = true ∧
          FromJson.bridgeConfig cast doc = .ok (DecodedConfig.small (some true)) := by
  refine ⟨conventional_small (some true), ?_⟩
  rintro integral number cast ⟨doc, hvalid, hdecodes⟩
  have hnone := epochValidation_of_schema hvalid hdecodes _ List.mem_cons_self
  simp at hnone

end HakoniwaBridge
