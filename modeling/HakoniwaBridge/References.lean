import HakoniwaBridge.FailedBuild

/-!
# Which references a build checks

The source endpoint and the key groups of a connection are looked up once for the connection, its
policies only inside the loop over the destinations, and a policy is created only for a key. So a
policy that does not exist is not seen where there is no destination, and one that cannot be
created is not seen where there is no destination or no key.

* `Connection.Resolves` — all references of a connection are in order.
* `Connection.Checked` — those are that `build` looks at.
* `build_ok_iff` — a build yields a core iff all connections of its node are `Checked`.
* `checksReferences_iff` — **it does so iff they all resolve, and the other nodes have no
  influence, exactly when every overlooked entry has a policy** (or another reference is wrong).
-/

namespace HakoniwaBridge

open Lib

variable {ε : Type} {E : Env ε} {cfg : BridgeConfig} {nodeName : String} {container : List String}

/-- The `pduKeyGroupId` of an entry names a group. -/
def TransferPduConfig.HasGroup (cfg : BridgeConfig) (entry : TransferPduConfig) : Prop :=
  ∃ keys, cfg.pduKeyGroups.lookup entry.pduKeyGroupId = some keys

/-- The `policyId` of an entry names a policy that `create_policy_instance` accepts. -/
def TransferPduConfig.HasPolicy (cfg : BridgeConfig) (entry : TransferPduConfig) : Prop :=
  ∃ policyDef policy, cfg.transferPolicies.lookup entry.policyId = some policyDef ∧
    Builder.createPolicyInstance policyDef = .ok policy

/-- All references of a connection are in order. -/
structure Connection.Resolves (cfg : BridgeConfig) (container : List String)
    (connDef : Connection) : Prop where
  source : connDef.source ∈ container
  destinations : ∀ dest ∈ connDef.destinations, dest ∈ container
  groups : ∀ entry ∈ connDef.transferPdus, entry.HasGroup cfg
  policies : ∀ entry ∈ connDef.transferPdus, entry.HasPolicy cfg

/-- An entry for which no policy is created: there is nowhere to send to, or nothing to send. -/
def Connection.Overlooks (cfg : BridgeConfig) (connDef : Connection)
    (entry : TransferPduConfig) : Prop :=
  connDef.destinations = [] ∨ cfg.pduKeyGroups.lookup entry.pduKeyGroupId = some []

/-- The references of a connection that `build` looks at are in order. -/
structure Connection.Checked (cfg : BridgeConfig) (container : List String)
    (connDef : Connection) : Prop where
  source : connDef.source ∈ container
  destinations : ∀ dest ∈ connDef.destinations, dest ∈ container
  groups : ∀ entry ∈ connDef.transferPdus, entry.HasGroup cfg
  found : connDef.destinations ≠ [] → ∀ entry ∈ connDef.transferPdus,
    ∃ policyDef, cfg.transferPolicies.lookup entry.policyId = some policyDef
  created : ∀ entry ∈ connDef.transferPdus, ¬ connDef.Overlooks cfg entry → entry.HasPolicy cfg

/-- All connections of the node satisfy `P`. -/
def BridgeConfig.OfNode (cfg : BridgeConfig) (nodeName : String) (P : Connection → Prop) : Prop :=
  ∀ connDef ∈ cfg.connections, connDef.nodeId = nodeName → P connDef

/-- A build yields a core iff all references of the node are in order, and connections of other
nodes have no influence on what it yields. -/
structure ChecksReferences (E : Env ε) (cfg : BridgeConfig) (nodeName : String)
    (container : List String) (h : Host ε) : Prop where
  ok_iff : (∃ core, (build E cfg nodeName container h).2 = .ok core) ↔
    cfg.OfNode nodeName (·.Resolves cfg container)
  others : ∀ cfg' : BridgeConfig, cfg'.transferPolicies = cfg.transferPolicies →
    cfg'.pduKeyGroups = cfg.pduKeyGroups →
    (cfg'.connections.filter fun connDef => connDef.nodeId = nodeName) =
      (cfg.connections.filter fun connDef => connDef.nodeId = nodeName) →
    build E cfg' nodeName container h = build E cfg nodeName container h

namespace BuildTask

theorem source_fault (id : String) :
    (BuildTask.source id).fault cfg container = none ↔ id ∈ container := by
  simp [fault]

theorem destination_fault (id : String) :
    (BuildTask.destination id).fault cfg container = none ↔ id ∈ container := by
  simp [fault]

theorem keyGroup_fault (entry : TransferPduConfig) :
    (BuildTask.keyGroup entry.pduKeyGroupId).fault cfg container = none ↔ entry.HasGroup cfg := by
  simp [fault, TransferPduConfig.HasGroup, Option.isSome_iff_exists]

/-- The work on an entry for one destination. -/
theorem transfers_fault (entry : TransferPduConfig) :
    (BuildTask.transfers entry).fault cfg container = none ↔
      entry.HasGroup cfg ∧
      (∃ policyDef, cfg.transferPolicies.lookup entry.policyId = some policyDef) ∧
      (cfg.pduKeyGroups.lookup entry.pduKeyGroupId ≠ some [] → entry.HasPolicy cfg) := by
  unfold TransferPduConfig.HasGroup TransferPduConfig.HasPolicy
  cases hpolicy : cfg.transferPolicies.lookup entry.policyId with
  | none => simp [fault, hpolicy]
  | some policyDef =>
    cases hgroup : cfg.pduKeyGroups.lookup entry.pduKeyGroupId with
    | none => simp [fault, hpolicy, hgroup]
    | some keys =>
      cases keys with
      | nil => simp [fault, hpolicy, hgroup]
      | cons key keys =>
        cases hcreate : Builder.createPolicyInstance policyDef with
        | error message => simp [fault, hpolicy, hgroup, hcreate]
        | ok policy => simp [fault, hpolicy, hgroup, hcreate]

end BuildTask

/-- The work on a connection goes through iff what is looked at is in order. -/
theorem Connection.checked_iff (connDef : Connection) :
    (∀ task ∈ connDef.tasks, task.fault cfg container = none) ↔
      connDef.Checked cfg container := by
  simp only [tasks, List.cons_append, List.forall_mem_cons, List.forall_mem_append,
    List.forall_mem_map, List.forall_mem_flatMap, BuildTask.source_fault,
    BuildTask.keyGroup_fault, BuildTask.destination_fault, BuildTask.transfers_fault]
  constructor
  · rintro ⟨hsource, hgroups, hdests⟩
    refine ⟨hsource, fun dest hmem => (hdests dest hmem).1, hgroups, fun hne entry he => ?_,
      fun entry he hseen => ?_⟩
    · obtain ⟨dest, hmem⟩ := List.exists_mem_of_ne_nil _ hne
      exact ((hdests dest hmem).2 entry he).2.1
    · obtain ⟨hne, hkeys⟩ := not_or.1 hseen
      obtain ⟨dest, hmem⟩ := List.exists_mem_of_ne_nil _ hne
      exact ((hdests dest hmem).2 entry he).2.2 hkeys
  · rintro ⟨hsource, hdest, hgroups, hfound, hcreated⟩
    refine ⟨hsource, hgroups, fun dest hmem => ⟨hdest dest hmem, fun entry he => ?_⟩⟩
    have hne := List.ne_nil_of_mem hmem
    exact ⟨hgroups entry he, hfound hne entry he,
      fun hkeys => hcreated entry he (not_or.2 ⟨hne, hkeys⟩)⟩

/-- A build yields a core iff what it looks at is in order. -/
theorem build_ok_iff (h : Host ε) :
    (∃ core, (build E cfg nodeName container h).2 = .ok core) ↔
      cfg.OfNode nodeName (·.Checked cfg container) := by
  have herror := (performs_build E cfg nodeName container h).error
  have hfault : (∃ core, (build E cfg nodeName container h).2 = .ok core) ↔
      (cfg.tasks nodeName).findSome? (BuildTask.fault cfg container) = none := by
    rw [← herror]
    cases (build E cfg nodeName container h).2 <;> simp
  rw [hfault, List.findSome?_eq_none_iff]
  simp only [BridgeConfig.tasks, List.mem_flatMap, List.mem_filter, decide_eq_true_eq,
    forall_exists_index, and_imp, BridgeConfig.OfNode, ← Connection.checked_iff]
  exact ⟨fun hall connDef hmem hnode task htask => hall task connDef hmem hnode htask,
    fun hall task connDef hmem hnode htask => hall connDef hmem hnode task htask⟩

/-- A build reads the connections of its node only. -/
theorem build_of_same_node {cfg' : BridgeConfig}
    (hpolicies : cfg'.transferPolicies = cfg.transferPolicies)
    (hgroups : cfg'.pduKeyGroups = cfg.pduKeyGroups)
    (hconns : (cfg'.connections.filter fun connDef => connDef.nodeId = nodeName) =
      cfg.connections.filter fun connDef => connDef.nodeId = nodeName) (h : Host ε) :
    build E cfg' nodeName container h = build E cfg nodeName container h := by
  have hskip : ∀ (cfg : BridgeConfig) (connDef : Connection), ¬ connDef.nodeId = nodeName →
      ∀ s, Builder.addConnection E cfg nodeName container connDef s = (s, none) :=
    fun cfg connDef hother s => if_neg hother
  -- the configuration of a turn is read for its policies and groups
  have hturn : Builder.addConnection E cfg' nodeName container =
      Builder.addConnection E cfg nodeName container := by
    funext connDef s
    unfold Builder.addConnection Builder.addDestination Builder.addEntry Builder.registerKeyGroup
    rw [hpolicies, hgroups]
  unfold build
  rw [← forEach_filter (hskip cfg'), ← forEach_filter (hskip cfg), hturn, hconns]

/-- A connection whose references are all in order is one where those that are looked at are, and
every overlooked entry has a policy. -/
theorem Connection.resolves_iff (connDef : Connection) :
    connDef.Resolves cfg container ↔ connDef.Checked cfg container ∧
      ∀ entry ∈ connDef.transferPdus, connDef.Overlooks cfg entry → entry.HasPolicy cfg := by
  constructor
  · rintro ⟨hsource, hdest, hgroups, hpolicies⟩
    refine ⟨⟨hsource, hdest, hgroups, fun _ entry he => ?_, fun entry he _ => hpolicies entry he⟩,
      fun entry he _ => hpolicies entry he⟩
    obtain ⟨policyDef, -, hlookup, -⟩ := hpolicies entry he
    exact ⟨policyDef, hlookup⟩
  · rintro ⟨⟨hsource, hdest, hgroups, -, hcreated⟩, hoverlooked⟩
    refine ⟨hsource, hdest, hgroups, fun entry he => ?_⟩
    by_cases hover : connDef.Overlooks cfg entry
    · exact hoverlooked entry he hover
    · exact hcreated entry he hover

/-- **References.** A build yields a core iff every reference of its node is in order, and the
connections of other nodes have no influence on it, if and only if: where all that it looks at is
in order, each overlooked entry names a policy that can be created. -/
theorem checksReferences_iff (E : Env ε) (cfg : BridgeConfig) (nodeName : String)
    (container : List String) (h : Host ε) :
    ChecksReferences E cfg nodeName container h ↔
      (cfg.OfNode nodeName (·.Checked cfg container) →
        cfg.OfNode nodeName fun connDef =>
          ∀ entry ∈ connDef.transferPdus, connDef.Overlooks cfg entry → entry.HasPolicy cfg) := by
  constructor
  · rintro ⟨hok, -⟩ hchecked connDef hmem hnode
    have hresolves := hok.1 ((build_ok_iff h).2 hchecked) connDef hmem hnode
    exact (connDef.resolves_iff.1 hresolves).2
  · intro hoverlooked
    refine ⟨?_, fun cfg' hpolicies hgroups hconns =>
      build_of_same_node hpolicies hgroups hconns h⟩
    rw [build_ok_iff]
    constructor
    · intro hchecked connDef hmem hnode
      exact connDef.resolves_iff.2
        ⟨hchecked connDef hmem hnode, hoverlooked hchecked connDef hmem hnode⟩
    · intro hresolves connDef hmem hnode
      exact (connDef.resolves_iff.1 (hresolves connDef hmem hnode)).1

/-- A connection without a destination whose entry names a policy that the configuration does not
have. -/
theorem missing_policy_accepted :
    let E := (CacheSpec.small .latest).env none
    let small := BridgeConfig.small ⟨"immediate", none, none⟩ [⟨"k", "r", "pos"⟩] false
    let cfg := { small with connections := small.connections.map fun connDef =>
      { connDef with destinations := [], transferPdus := [⟨"group", "missing"⟩] } }
    ¬ ChecksReferences E cfg "node" ["src", "dst"] (Host.boot CacheState.empty) := by
  intro E small cfg hchecks
  have hresolves := hchecks.ok_iff.1 ⟨_, rfl⟩ _ List.mem_cons_self rfl
  obtain ⟨policyDef, -, hlookup, -⟩ := hresolves.policies ⟨"group", "missing"⟩ List.mem_cons_self
  have hnone : cfg.transferPolicies.lookup "missing" = none := rfl
  rw [hnone] at hlookup
  cases hlookup

end HakoniwaBridge
