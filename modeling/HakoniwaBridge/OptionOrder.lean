import HakoniwaBridge.ArgGrammar

/-!
# The order of the options

`--config-root` sets four paths, three of which and the mux path have an option of their own.
Whichever stands later wins.

* `ConfigPath` — the four paths, each with its field, its option, and what a root makes of it.
* `apply_comm_of_ne_configRoot`, `apply_configRoot_comm` — two options commute, unless one is
  `--config-root` and the other an explicit path that differs from what the root makes of it.
* `orderFree_iff` — **all orders of a list of distinct options give the same answer, with every
  explicit path in use, exactly when a step value is refused, or the explicit paths are the ones
  the given root stands for, or no root is given**.
-/

namespace HakoniwaBridge

open WebBridgeOption

variable {fs : FileSystem}

/-- The paths that `--config-root` sets. -/
inductive ConfigPath
  | bridgeConfig
  | endpointContainer
  | assetConfig
  | ondemandMuxConfig

namespace ConfigPath

/-- The option for a path. -/
def option : ConfigPath → String → WebBridgeOption
  | bridgeConfig => .bridgeConfig
  | endpointContainer => .endpointContainer
  | assetConfig => .assetConfig
  | ondemandMuxConfig => .ondemandMuxConfig

/-- The field that holds a path. -/
def get : ConfigPath → WebBridgeDaemonOptions → String
  | bridgeConfig => (·.bridgeConfigPath)
  | endpointContainer => (·.endpointContainerPath)
  | assetConfig => (·.assetConfigPath)
  | ondemandMuxConfig => (·.ondemandMuxConfigPath)

/-- What a configuration root makes of a path. -/
def underRoot (fs : FileSystem) (root : String) (p : ConfigPath) : String :=
  p.get (applyConfigRoot fs { configRootPath := root })

end ConfigPath

/-- Two command lines that list the same options in some order get the same answer and, when they
are accepted, the same options; and each explicitly given path is the one used. -/
structure OrderFree (fs : FileSystem) (program : String) (os : List WebBridgeOption) : Prop where
  same : ∀ os' : List WebBridgeOption, os'.Perm os →
    (parseArgs fs (program :: os'.flatMap (·.render))).toOption =
      (parseArgs fs (program :: os.flatMap (·.render))).toOption
  explicit : ∀ os' : List WebBridgeOption, os'.Perm os → ∀ options,
    parseArgs fs (program :: os'.flatMap (·.render)) = .ok options →
    ∀ (p : ConfigPath) (path : String), p.option path ∈ os → p.get options = path

/-! ## What the options do to the paths -/

section paths

variable (options : WebBridgeDaemonOptions)

@[simp] theorem get_apply_option (p : ConfigPath) (path : String) :
    p.get ((p.option path).apply fs options) = path := by
  cases p <;> rfl

@[simp] theorem get_apply_configRoot (p : ConfigPath) (root : String) :
    p.get ((configRoot root).apply fs options) = p.underRoot fs root := by
  cases p <;> rfl

end paths

/-! ## Options that commute -/

/-- Two options with different names commute if neither is `--config-root`. -/
theorem apply_comm_of_ne_configRoot {o o' : WebBridgeOption} (hname : o.name ≠ o'.name)
    (ho : ∀ root, o ≠ configRoot root) (ho' : ∀ root, o' ≠ configRoot root)
    (options : WebBridgeDaemonOptions) :
    o'.apply fs (o.apply fs options) = o.apply fs (o'.apply fs options) := by
  cases o with
  | configRoot root => exact absurd rfl (ho root)
  | _ =>
    cases o' with
    | configRoot root => exact absurd rfl (ho' root)
    | _ => first | rfl | exact absurd rfl hname

/-- `--config-root` commutes with another option that agrees with what the root makes of its
path. -/
theorem apply_configRoot_comm {root : String} {o : WebBridgeOption}
    (hne : ∀ root', o ≠ configRoot root')
    (hagrees : ∀ (p : ConfigPath) path, o = p.option path → path = p.underRoot fs root)
    (options : WebBridgeDaemonOptions) :
    o.apply fs ((configRoot root).apply fs options) =
      (configRoot root).apply fs (o.apply fs options) := by
  cases o with
  | configRoot root' => exact absurd rfl (hne root')
  | bridgeConfig path =>
    obtain rfl := hagrees .bridgeConfig path rfl
    rfl
  | endpointContainer path =>
    obtain rfl := hagrees .endpointContainer path rfl
    rfl
  | assetConfig path =>
    obtain rfl := hagrees .assetConfig path rfl
    rfl
  | ondemandMuxConfig path =>
    obtain rfl := hagrees .ondemandMuxConfig path rfl
    rfl
  | _ => rfl

/-- The explicit paths of a list of options are the ones that the given root stands for. -/
def AgreesWithRoot (fs : FileSystem) (os : List WebBridgeOption) : Prop :=
  ∀ root, configRoot root ∈ os → ∀ (p : ConfigPath) (path : String), p.option path ∈ os →
    path = p.underRoot fs root

/-- Where the explicit paths agree with the root, the order of distinct options does not matter. -/
theorem applyAll_perm {os os' : List WebBridgeOption} (hperm : os'.Perm os)
    (hdistinct : (os.map (·.name)).Nodup) (hagrees : AgreesWithRoot fs os)
    (options : WebBridgeDaemonOptions) : applyAll fs os' options = applyAll fs os options := by
  refine (hperm.symm.foldl_eq' (fun o ho o' ho' options => ?_) options).symm
  by_cases heq : o = o'
  · rw [heq]
  have hname : o.name ≠ o'.name := fun hname =>
    heq (List.inj_on_of_nodup_map hdistinct ho ho' hname)
  by_cases hroot : ∃ root, o = configRoot root
  · obtain ⟨root, rfl⟩ := hroot
    refine apply_configRoot_comm ?_ (fun p path hpath => ?_) options
    · rintro root' rfl
      exact hname rfl
    · exact hagrees root ho p path (hpath ▸ ho')
  · by_cases hroot' : ∃ root, o' = configRoot root
    · obtain ⟨root, rfl⟩ := hroot'
      exact (apply_configRoot_comm (fun root' heq => hroot ⟨root', heq⟩)
        (fun p path hpath => hagrees root ho' p path (hpath ▸ ho)) options).symm
    · exact apply_comm_of_ne_configRoot hname (not_exists.1 hroot) (not_exists.1 hroot') options

/-! ## Answers -/

/-- The answer to a list of options. -/
theorem toOption_parseArgs (program : String) (os : List WebBridgeOption) :
    (parseArgs fs (program :: os.flatMap (·.render))).toOption =
      if ∀ o ∈ os, o.error? = none then
        (checkOptions (applyAll fs os (initialOptions fs))).toOption
      else none := by
  have hread := @parseArgsFrom_flatMap_render fs os (initialOptions fs)
  rw [parseArgs, List.drop_succ_cons, List.drop_zero, hread]
  split
  · next message herror =>
    rw [if_neg]
    · rfl
    · intro hall
      rw [List.findSome?_eq_none_iff.2 hall] at herror
      cases herror
  · next herror => rw [if_pos (List.findSome?_eq_none_iff.1 herror)]

/-- Options that are accepted are the ones that were read, and no step value was refused. -/
theorem applyAll_of_parseArgs {program : String} {os : List WebBridgeOption}
    {options : WebBridgeDaemonOptions}
    (hok : parseArgs fs (program :: os.flatMap (·.render)) = .ok options) :
    (∀ o ∈ os, o.error? = none) ∧ applyAll fs os (initialOptions fs) = options := by
  obtain ⟨os', hargs, herror, -, hall⟩ := parseArgs_eq_ok.1 hok
  obtain rfl := @flatMap_render_injective os os' hargs
  exact ⟨herror, hall⟩

/-- A path under a root is not empty. -/
theorem makeConfigRootedPath_ne_empty (root : String) {relativePath : String}
    (hrel : relativePath ≠ "") : makeConfigRootedPath root relativePath ≠ "" := by
  have hnil : relativePath.toList ≠ [] := by
    intro hnil
    exact hrel (String.toList_inj.1 (by simpa using hnil))
  have hjoin : Lib.PosixPath.append root.toList relativePath.toList ≠ [] := by
    unfold Lib.PosixPath.append
    split <;> simp [hnil]
  intro hempty
  have htext := congrArg String.toList hempty
  simp only [makeConfigRootedPath, lexicallyNormal, joinPath, String.toList_ofList] at htext
  exact Lib.PosixPath.lexicallyNormal_ne_nil hjoin htext

/-- With the root as the last option, options that are all taken are accepted. -/
theorem parseArgs_root_last (program : String) {os : List WebBridgeOption} {root : String}
    (herror : ∀ o ∈ os ++ [configRoot root], o.error? = none) :
    parseArgs fs (program :: (os ++ [configRoot root]).flatMap (·.render)) =
      .ok (applyAll fs (os ++ [configRoot root]) (initialOptions fs)) := by
  refine parseArgs_eq_ok.2 ⟨os ++ [configRoot root], rfl, herror, ?_, rfl⟩
  rintro ⟨-, hempty⟩
  have hmux : finalMuxPath fs (os ++ [configRoot root]) =
      makeConfigRootedPath root "monitor/mux_endpoint.json" := by
    unfold finalMuxPath
    rw [List.reverse_append, List.reverse_singleton, List.singleton_append, List.findSome?_cons]
    rfl
  exact makeConfigRootedPath_ne_empty root (by decide) (hmux.symm.trans hempty)

/-- **The order of the options.** Every order of a list of distinct options gives the same answer
and uses every explicit path, if and only if a step value is refused or the explicit paths are the
ones that the given root stands for. -/
theorem orderFree_iff {os : List WebBridgeOption} (hdistinct : (os.map (·.name)).Nodup)
    (fs : FileSystem) (program : String) :
    OrderFree fs program os ↔
      (∃ value, deltaTimeStepUsec value ∈ os ∧ parseUint64Arg value = none) ∨
        AgreesWithRoot fs os := by
  constructor
  · rintro ⟨-, hexplicit⟩
    by_cases hrefused : ∃ value, deltaTimeStepUsec value ∈ os ∧ parseUint64Arg value = none
    · exact Or.inl hrefused
    · right
      intro root hroot p path hpath
      -- the order in which the root stands last
      have hperm : (os.erase (configRoot root) ++ [configRoot root]).Perm os :=
        (List.perm_append_comm).trans (List.perm_cons_erase hroot).symm
      have herror : ∀ o ∈ os.erase (configRoot root) ++ [configRoot root], o.error? = none :=
        fun o ho => (error_eq_none_iff os).2
          (fun value hmem hnone => hrefused ⟨value, hmem, hnone⟩) o (hperm.mem_iff.1 ho)
      have hused := hexplicit _ hperm _ (parseArgs_root_last program herror) p path hpath
      rw [applyAll_concat, get_apply_configRoot] at hused
      exact hused.symm
  · intro hcondition
    rcases hcondition with ⟨value, hmem, hnone⟩ | hagrees
    · -- refused in every order
      have hrefused : ∀ os' : List WebBridgeOption, os'.Perm os →
          ¬ ∀ o ∈ os', o.error? = none := by
        intro os' hperm hall
        exact (error_eq_none_iff os').1 hall value (hperm.mem_iff.2 hmem) hnone
      refine ⟨fun os' hperm => ?_, fun os' hperm options hok => ?_⟩
      · rw [toOption_parseArgs, toOption_parseArgs, if_neg (hrefused os' hperm),
          if_neg (hrefused os (List.Perm.refl os))]
      · exact absurd (applyAll_of_parseArgs hok).1 (hrefused os' hperm)
    · refine ⟨fun os' hperm => ?_, fun os' hperm options hok p path hpath => ?_⟩
      · rw [toOption_parseArgs, toOption_parseArgs, applyAll_perm hperm hdistinct hagrees]
        simp only [hperm.mem_iff]
      · obtain ⟨-, rfl⟩ := applyAll_of_parseArgs hok
        -- the order in which the path stands last
        have hlast : (os.erase (p.option path) ++ [p.option path]).Perm os :=
          (List.perm_append_comm).trans (List.perm_cons_erase hpath).symm
        rw [applyAll_perm hperm hdistinct hagrees, ← applyAll_perm hlast hdistinct hagrees,
          applyAll_concat, get_apply_option]

/-- A root, and an explicit path that is the one it stands for. -/
theorem orderFree_small :
    OrderFree .bare "web_bridge" [configRoot "r", bridgeConfig "r/bridge/bridge.json",
      enableOndemand, deltaTimeStepUsec "1000"] := by
  refine (orderFree_iff (by decide) .bare "web_bridge").2 (.inr fun root hroot p path hpath => ?_)
  obtain rfl : root = "r" := by simpa using hroot
  cases p with
  | bridgeConfig =>
    obtain rfl : path = "r/bridge/bridge.json" := by simpa [ConfigPath.option] using hpath
    decide
  | _ => simp [ConfigPath.option] at hpath

/-- A root after an explicit path replaces it. -/
theorem root_replaces_path :
    (∃ options, parseArgs .bare ["web_bridge", "--bridge-config", "a.json", "--config-root", "r"] =
        .ok options ∧ options.bridgeConfigPath = "r/bridge/bridge.json") ∧
      ¬ OrderFree .bare "web_bridge" [bridgeConfig "a.json", configRoot "r"] := by
  have hok : parseArgs .bare ["web_bridge", "--bridge-config", "a.json", "--config-root", "r"] =
      .ok (applyAll .bare [bridgeConfig "a.json", configRoot "r"] (initialOptions .bare)) := rfl
  have hpath : (applyAll .bare [bridgeConfig "a.json", configRoot "r"]
      (initialOptions .bare)).bridgeConfigPath = "r/bridge/bridge.json" := by decide
  refine ⟨⟨_, hok, hpath⟩, fun horder => ?_⟩
  have hused := horder.explicit _ (List.Perm.refl _) _ hok .bridgeConfig "a.json"
    List.mem_cons_self
  exact absurd (hused.symm.trans hpath) (by decide)

end HakoniwaBridge
