import HakoniwaBridge.Plan

/-!
# What a failed build leaves behind

`build` registers callbacks as it goes, and no error path takes them back.

* `BuildTask`, `BridgeConfig.tasks` — what a build of a node has to do, in its order: the checks of
  endpoints and key groups, and the entries whose transfers it constructs.
* `performs_build` — a build works off these tasks up to the first one with a fault, which is read
  off the configuration and the container alone.
* `unchanged_iff` — when a failed build leaves the callbacks of all endpoints as they were.
-/

namespace HakoniwaBridge

open Lib

variable {ε : Type} {E : Env ε}

/-- A piece of the work of a build. -/
inductive BuildTask
  | source (id : String)
  | keyGroup (id : String)
  | destination (id : String)
  | transfers (entry : TransferPduConfig)

namespace BuildTask

/-- What is wrong with a task, if anything is. -/
def fault (cfg : BridgeConfig) (container : List String) : BuildTask → Option String
  | .source id =>
    if id ∈ container then none else some ("BridgeLoader: Source endpoint not found: " ++ id)
  | .keyGroup id =>
    if (cfg.pduKeyGroups.lookup id).isSome then none
    else some ("BridgeLoader: PduKeyGroup not found: " ++ id)
  | .destination id =>
    if id ∈ container then none else some ("BridgeLoader: Destination endpoint not found: " ++ id)
  | .transfers entry =>
    match cfg.transferPolicies.lookup entry.policyId with
    | none => some ("BridgeLoader: Transfer policy not found: " ++ entry.policyId)
    | some policyDef =>
      match cfg.pduKeyGroups.lookup entry.pduKeyGroupId with
      | none => some ("BridgeLoader: PduKeyGroup not found: " ++ entry.pduKeyGroupId)
      | some [] => none
      | some (_ :: _) =>
        match Builder.createPolicyInstance policyDef with
        | .error message => some message
        | .ok _ => none

/-- The tasks that register callbacks: the entries with a key. -/
def Registers (cfg : BridgeConfig) : BuildTask → Prop
  | .transfers entry => (cfg.pduKeyGroups.lookup entry.pduKeyGroupId).getD [] ≠ []
  | _ => False

end BuildTask

/-- The work on one connection. -/
def Connection.tasks (connDef : Connection) : List BuildTask :=
  .source connDef.source :: connDef.transferPdus.map (.keyGroup ·.pduKeyGroupId) ++
    connDef.destinations.flatMap fun dest =>
      .destination dest :: connDef.transferPdus.map .transfers

/-- The work on the connections of a node. -/
def BridgeConfig.tasks (cfg : BridgeConfig) (nodeName : String) : List BuildTask :=
  (cfg.connections.filter fun connDef => connDef.nodeId = nodeName).flatMap (·.tasks)

/-- The tasks before the first fault. -/
def BridgeConfig.tasksBeforeFault (cfg : BridgeConfig) (nodeName : String)
    (container : List String) : List BuildTask :=
  (cfg.tasks nodeName).takeWhile fun task => (task.fault cfg container).isNone

/-- Tasks were done between two hosts: callbacks were added on endpoints of the container, and none
only if no task registers any. -/
def Registered (cfg : BridgeConfig) (container : List String) (done : List BuildTask)
    (h h' : Host ε) : Prop :=
  ∃ regs, h'.registry = h.registry ++ regs ∧
    (∀ reg ∈ regs, ∃ id ∈ container, reg.endpoint = .container id) ∧
    (regs = [] ↔ ∀ task ∈ done, ¬ task.Registers cfg)

theorem sequential_registered (cfg : BridgeConfig) (container : List String) :
    Sequential (Registered (ε := ε) cfg container) where
  nil h := ⟨[], by simp, by simp, by simp⟩
  append := by
    rintro ts us h h₁ h₂ ⟨regs₁, hreg₁, hends₁, hempty₁⟩ ⟨regs₂, hreg₂, hends₂, hempty₂⟩
    refine ⟨regs₁ ++ regs₂, ?_, fun reg hreg => ?_, ?_⟩
    · rw [hreg₂, hreg₁, List.append_assoc]
    · rcases List.mem_append.1 hreg with hreg | hreg
      · exact hends₁ reg hreg
      · exact hends₂ reg hreg
    · rw [List.append_eq_nil_iff, hempty₁, hempty₂]
      simp only [List.mem_append, or_imp, forall_and]

/-- A task that registers nothing. -/
theorem registered_single {cfg : BridgeConfig} {container : List String} {task : BuildTask}
    (htask : ¬ task.Registers cfg) (h : Host ε) : Registered cfg container [task] h h :=
  ⟨[], by simp, by simp, by simpa using htask⟩

namespace Builder

variable {cfg : BridgeConfig} {nodeName : String} {container : List String} {src dst : EndpointRef}

/-- A check does its task. -/
theorem performs_check (cfg : BridgeConfig) (container : List String) (task : BuildTask)
    (htask : ¬ task.Registers cfg) (h : Host ε) :
    Performs (BuildTask.fault cfg container) (Registered cfg container) [task] h
      (h, task.fault cfg container) := by
  cases hfault : task.fault cfg container with
  | none => exact .of_ok hfault (registered_single htask h)
  | some message => exact .of_fault (sequential_registered cfg container) hfault h

/-- If the policy can be created, the loop over the keys makes one transfer for each. -/
theorem registry_addSingle (E : Env ε) (src dst : EndpointRef) {policyDef : TransferPolicy}
    {policy : Policy} (hpolicy : createPolicyInstance policyDef = .ok policy)
    (keys : List BridgePduKey) (s : BridgeConnection × Host ε) :
    (forEach (addSingle E policyDef src dst) keys s).2 = none ∧
    ∃ regs, (forEach (addSingle E policyDef src dst) keys s).1.2.registry =
        s.2.registry ++ regs ∧ (∀ reg ∈ regs, reg.endpoint = src) ∧ (regs = [] ↔ keys = []) := by
  induction keys generalizing s with
  | nil => exact ⟨rfl, [], by simp [forEach], by simp, by simp⟩
  | cons key keys ih =>
    obtain ⟨s', hturn, hmade⟩ : ∃ s', addSingle E policyDef src dst key s = (s', none) ∧
        ∃ reg : Registration, reg.endpoint = src ∧ s'.2.registry = s.2.registry ++ [reg] := by
      unfold addSingle
      rw [hpolicy]
      exact ⟨_, rfl, _, rfl, rfl⟩
    obtain ⟨reg, hend, hreg⟩ := hmade
    obtain ⟨hok, regs, hregs, hends, -⟩ := ih s'
    unfold forEach
    rw [hturn]
    refine ⟨hok, reg :: regs, ?_, ?_, by simp⟩
    · rw [hregs, hreg, List.append_assoc, List.singleton_append]
    · rintro reg' hreg'
      rcases List.mem_cons.1 hreg' with rfl | hreg'
      · exact hend
      · exact hends reg' hreg'

/-- An entry does its task. -/
theorem performs_addEntry (hsrc : ∃ id ∈ container, src = .container id)
    (entry : TransferPduConfig) (s : BridgeConnection × Host ε) :
    Performs (BuildTask.fault cfg container) (Registered cfg container) [.transfers entry] s.2
      ((addEntry E cfg src dst entry s).1.2, (addEntry E cfg src dst entry s).2) := by
  obtain ⟨srcId, hmem, rfl⟩ := hsrc
  have hseq := sequential_registered (ε := ε) cfg container
  cases hpolicy : cfg.transferPolicies.lookup entry.policyId with
  | none =>
    simp only [addEntry, hpolicy]
    exact .of_fault hseq (by simp [BuildTask.fault, hpolicy]) s.2
  | some policyDef =>
    cases hgroup : cfg.pduKeyGroups.lookup entry.pduKeyGroupId with
    | none =>
      simp only [addEntry, hpolicy, hgroup]
      exact .of_fault hseq (by simp [BuildTask.fault, hpolicy, hgroup]) s.2
    | some keys =>
      have hregisters : (∀ task ∈ [BuildTask.transfers entry], ¬ task.Registers cfg) ↔
          keys = [] := by
        simp [BuildTask.Registers, hgroup]
      simp only [addEntry, hpolicy, hgroup]
      split_ifs with hatomic
      · -- an atomic group needs no policy that could be wrong
        have hok : (BuildTask.transfers entry).fault cfg container = none := by
          cases keys <;> simp [BuildTask.fault, hpolicy, hgroup, createPolicyInstance, hatomic.1]
        refine .of_ok hok ⟨keys.map fun key =>
          ⟨.container srcId, resolveKey E (.container srcId) key, .transfer s.2.nextTransfer⟩,
          ?_, ?_, ?_⟩
        · simp [addGroup, newTransferAtomicPduGroup, Host.newPolicy]
        · intro reg hreg
          obtain ⟨key, -, rfl⟩ := List.mem_map.1 hreg
          exact ⟨srcId, hmem, rfl⟩
        · rw [hregisters, List.map_eq_nil_iff]
      · cases keys with
        | nil =>
          exact .of_ok (by simp [BuildTask.fault, hpolicy, hgroup])
            ⟨[], by simp [forEach], by simp, by simpa using hregisters⟩
        | cons key keys =>
          cases hcreate : createPolicyInstance policyDef with
          | error message =>
            simp only [forEach, addSingle, hcreate]
            exact .of_fault hseq (by simp [BuildTask.fault, hpolicy, hgroup, hcreate]) s.2
          | ok policy =>
            obtain ⟨hok, regs, hregs, hends, hempty⟩ :=
              registry_addSingle E (.container srcId) dst hcreate (key :: keys) s
            rw [hok]
            refine .of_ok (by simp [BuildTask.fault, hpolicy, hgroup, hcreate])
              ⟨regs, hregs, fun reg hreg => ⟨srcId, hmem, hends reg hreg⟩, ?_⟩
            rw [hregisters]
            exact hempty

/-- A reference is found exactly for the endpoints of the container. -/
theorem containerRef_eq (container : List String) (id : String) :
    (id ∈ container ∧ containerRef container id = some (.container id)) ∨
      (id ∉ container ∧ containerRef container id = none) := by
  unfold containerRef
  split_ifs with hmem
  · exact .inl ⟨hmem, rfl⟩
  · exact .inr ⟨hmem, rfl⟩

/-- A destination does its tasks. -/
theorem performs_addDestination (hsrc : ∃ id ∈ container, src = .container id)
    (entries : List TransferPduConfig) (dest : String) (s : BridgeConnection × Host ε) :
    Performs (BuildTask.fault cfg container) (Registered cfg container)
      (.destination dest :: entries.map .transfers) s.2
      ((addDestination E cfg container src entries dest s).1.2,
        (addDestination E cfg container src entries dest s).2) := by
  have hseq := sequential_registered (ε := ε) cfg container
  have hcheck :=
    performs_check cfg container (.destination dest) (by simp [BuildTask.Registers]) s.2
  rw [← List.singleton_append]
  rcases containerRef_eq container dest with ⟨hmem, href⟩ | ⟨hmem, href⟩
  · simp only [BuildTask.fault, if_pos hmem] at hcheck
    simp only [addDestination, href]
    apply hcheck.append hseq
    rw [List.map_eq_flatMap]
    exact .forEach hseq Prod.snd entries (fun entry _ s => performs_addEntry hsrc entry s) s
  · simp only [BuildTask.fault, if_neg hmem] at hcheck
    simp only [addDestination, href]
    exact hcheck.append_of_error _

/-- The first loop checks the key groups and leaves the host alone. -/
theorem performs_registerKeyGroup (cfg : BridgeConfig) (container : List String)
    (connectionId : String) (entries : List TransferPduConfig)
    (core : BridgeCore) (h : Host ε) :
    Performs (BuildTask.fault cfg container) (Registered cfg container)
      (entries.map (.keyGroup ·.pduKeyGroupId)) h
      (h, (forEach (registerKeyGroup cfg connectionId) entries core).2) := by
  rw [List.map_eq_flatMap]
  refine .forEach (sequential_registered cfg container) (fun _ : BridgeCore => h)
    entries (fun entry _ core => ?_) core
  have hcheck := performs_check cfg container (.keyGroup entry.pduKeyGroupId)
    (by simp [BuildTask.Registers]) h
  unfold registerKeyGroup
  cases hgroup : cfg.pduKeyGroups.lookup entry.pduKeyGroupId with
  | none => simpa [BuildTask.fault, hgroup] using hcheck
  | some keys => simpa [BuildTask.fault, hgroup] using hcheck

/-- A connection of the node does its tasks, another one has none. -/
theorem performs_addConnection (nodeName : String) (connDef : Connection)
    (s : BridgeCore × Host ε) :
    Performs (BuildTask.fault cfg container) (Registered cfg container)
      (if connDef.nodeId = nodeName then connDef.tasks else []) s.2
      ((addConnection E cfg nodeName container connDef s).1.2,
        (addConnection E cfg nodeName container connDef s).2) := by
  have hseq := sequential_registered (ε := ε) cfg container
  unfold addConnection
  split_ifs with hnode
  · unfold Connection.tasks
    rw [← List.singleton_append, List.append_assoc]
    have hcheck :=
      performs_check cfg container (.source connDef.source) (by simp [BuildTask.Registers]) s.2
    rcases containerRef_eq container connDef.source with ⟨hmem, href⟩ | ⟨hmem, href⟩
    · simp only [BuildTask.fault, if_pos hmem] at hcheck
      rw [href]
      apply hcheck.append hseq
      have hgroups := performs_registerKeyGroup cfg container connDef.id connDef.transferPdus s.1
        s.2
      dsimp only
      split
      · next core message heq =>
        rw [heq] at hgroups
        exact hgroups.append_of_error _
      · next core heq =>
        rw [heq] at hgroups
        apply hgroups.append hseq
        have hloop := Performs.forEach hseq Prod.snd connDef.destinations
          (fun dest _ s => performs_addDestination (E := E) ⟨connDef.source, hmem, rfl⟩
            connDef.transferPdus dest s)
          ({ nodeId := connDef.nodeId, connectionId := connDef.id
             srcEndpoint := some (.container connDef.source)
             epochValidation := connDef.epochValidation.getD false }, s.2)
        split
        · next heq =>
          rw [heq] at hloop
          exact hloop
        · next heq =>
          rw [heq] at hloop
          exact hloop
    · simp only [BuildTask.fault, if_neg hmem] at hcheck
      rw [href]
      exact hcheck.append_of_error _
  · exact .nil hseq s.2

end Builder

/-- **The work of a build.** It ends at the first task with a fault, if there is one, and has
registered callbacks for the tasks before it. -/
theorem performs_build (E : Env ε) (cfg : BridgeConfig) (nodeName : String)
    (container : List String) (h : Host ε) :
    Performs (BuildTask.fault cfg container) (Registered cfg container) (cfg.tasks nodeName) h
      ((build E cfg nodeName container h).1,
        match (build E cfg nodeName container h).2 with
        | .error message => some message
        | .ok _ => none) := by
  have hloop := Performs.forEach (sequential_registered cfg container) Prod.snd cfg.connections
    (fun connDef _ s => Builder.performs_addConnection (E := E) nodeName connDef s)
    ({ nodeName := nodeName, endpointIds := container }, h)
  have htasks : (cfg.connections.flatMap fun connDef =>
      if connDef.nodeId = nodeName then connDef.tasks else []) = cfg.tasks nodeName := by
    unfold BridgeConfig.tasks
    induction cfg.connections with
    | nil => rfl
    | cons connDef connDefs ih =>
      rw [List.flatMap_cons, ih, List.filter_cons]
      split_ifs <;> simp_all
  rw [htasks] at hloop
  unfold build
  split
  · next heq =>
    rw [heq] at hloop
    exact hloop
  · next heq =>
    rw [heq] at hloop
    exact hloop

/-- **Failed builds.** A build ends with an error. It has left the callbacks of every endpoint of
the container as they were iff no entry with a key comes before the first fault. -/
theorem unchanged_iff {cfg : BridgeConfig} {nodeName : String} {container : List String}
    {h h' : Host ε} {message : String}
    (hbuild : build E cfg nodeName container h = (h', .error message)) :
    (∀ id ∈ container, h'.registry.filter (fun reg => reg.endpoint = .container id) =
      h.registry.filter fun reg => reg.endpoint = .container id) ↔
      ∀ task ∈ cfg.tasksBeforeFault nodeName container, ¬ task.Registers cfg := by
  have hdone := (performs_build E cfg nodeName container h).done
  rw [hbuild] at hdone
  obtain ⟨regs, hregistry, hends, hempty⟩ := hdone
  rw [BridgeConfig.tasksBeforeFault, ← hempty, hregistry]
  constructor
  · intro hsame
    apply List.eq_nil_iff_forall_not_mem.2
    intro reg hreg
    obtain ⟨id, hid, hend⟩ := hends reg hreg
    have hnone := hsame id hid
    rw [List.filter_append, List.append_right_eq_self, List.filter_eq_nil_iff] at hnone
    exact hnone reg hreg (by simpa using hend)
  · rintro rfl id -
    rw [List.append_nil]

/-- A second destination that the container does not have, behind a first one that it has: without
a key nothing has been registered, with a key something has. -/
theorem unchanged_small :
    let cfg (keys : List BridgePduKey) : BridgeConfig :=
      { BridgeConfig.small ⟨"immediate", none, none⟩ keys false with
        connections := [⟨"conn", "node", "src", ["dst", "other"], [⟨"group", "policy"⟩], none⟩] }
    let h : Host CacheState := Host.boot CacheState.empty
    let h' (keys : List BridgePduKey) :=
      (build ((CacheSpec.small .latest).env none) (cfg keys) "node" ["src", "dst"] h).1
    (∀ id ∈ ["src", "dst"], (h' []).registry.filter (fun reg => reg.endpoint = .container id) =
      h.registry.filter fun reg => reg.endpoint = .container id) ∧
    ¬ ∀ id ∈ ["src", "dst"],
      (h' [⟨"k", "r", "pos"⟩]).registry.filter (fun reg => reg.endpoint = .container id) =
        h.registry.filter fun reg => reg.endpoint = .container id := by
  intro cfg h h'
  have hnoKey : build ((CacheSpec.small .latest).env none) (cfg []) "node" ["src", "dst"] h =
      (h' [], .error "BridgeLoader: Destination endpoint not found: other") := rfl
  have hkey : build ((CacheSpec.small .latest).env none) (cfg [⟨"k", "r", "pos"⟩]) "node"
      ["src", "dst"] h =
      (h' [⟨"k", "r", "pos"⟩], .error "BridgeLoader: Destination endpoint not found: other") := rfl
  rw [unchanged_iff hnoKey, unchanged_iff hkey]
  have hbefore : ∀ keys, keys = [] ∨ keys = [⟨"k", "r", "pos"⟩] →
      (cfg keys).tasksBeforeFault "node" ["src", "dst"] =
        [.source "src", .keyGroup "group", .destination "dst", .transfers ⟨"group", "policy"⟩] := by
    rintro keys (rfl | rfl) <;> rfl
  have hgroup : ∀ keys, (cfg keys).pduKeyGroups.lookup "group" = some keys := fun _ => rfl
  rw [hbefore [] (.inl rfl), hbefore _ (.inr rfl)]
  simp [BuildTask.Registers, hgroup]

/-- A first destination that the container has and a second one that it does not have. -/
theorem callback_after_failed_build :
    let E := (CacheSpec.small .latest).env none
    let small := BridgeConfig.small ⟨"immediate", none, none⟩ [⟨"k", "r", "pos"⟩] false
    let cfg := { small with connections := small.connections.map fun connDef =>
      { connDef with destinations := ["dst", "other"] } }
    let r := build E cfg "node" ["src", "dst"] (Host.boot CacheState.empty)
    r.2.toOption.isNone ∧
      r.1.registry = [⟨.container "src", resolveKey E (.container "src") ⟨"k", "r", "pos"⟩,
        .transfer 0⟩] := by
  decide

end HakoniwaBridge
