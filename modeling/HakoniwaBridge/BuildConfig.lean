import HakoniwaBridge.ConfigMerge

/-!
# The build configuration

`resolve_config` of `tools/hako.py`: a manifest is merged into the defaults, and the result is
checked, one setting after another.

* `defaultConfig`, `resolveConfig` — the defaults and the checks.
* `Settings` — the values of a merged configuration; `BuildConfig` — those that pass the checks,
  which it carries as fields.
* `resolveConfig_eq_ok_iff` — **what is accepted is the overlaid manifest, and it is a
  `BuildConfig`.**
* `resolveConfig_fixed` — **the accepted configurations are the `BuildConfig`s, and resolving one
  again changes nothing.**
-/

namespace HakoniwaBridge

open Lib NestedMap

/-- Source: `tools/hako.py`, `DEFAULT_CONFIG`. -/
def defaultConfig : ManifestEntries :=
  [(py "version", .scalar (.int 1)),
   (py "build", .map
     [(py "type", .scalar (.str (py "Release"))),
      (py "dir", .scalar (.str (py "build"))),
      (py "parallel", .scalar (.int 0))]),
   (py "components", .map
     [(py "library", .scalar (.bool true)),
      (py "standalone_app", .scalar (.bool true)),
      (py "hakoniwa_app", .scalar (.bool false)),
      (py "monitor", .scalar (.bool true))]),
   (py "validation", .map
     [(py "tests", .scalar (.bool true)),
      (py "examples", .scalar (.bool false)),
      (py "integration_tcp", .scalar (.bool false))]),
   (py "paths", .map
     [(py "pdu_endpoint_root", .scalar (.str [])),
      (py "hakoniwa_core_root", .scalar (.str [])),
      (py "vcpkg_root", .scalar (.str []))])]

/-- Source: `tools/hako.py`, `VALID_BUILD_TYPES`. -/
def validBuildTypes : List PyStr :=
  [py "Debug", py "Release", py "RelWithDebInfo", py "MinSizeRel"]

/-- What `resolve_config` can raise: its own errors, and those of Python for a key that is missing
and for a value of a wrong type. -/
inductive PyError
  | config (e : ConfigError)
  | keyError
  | typeError

/-! ## The checks -/

/-- `cfg[key]`. -/
def topItem (cfg : ManifestEntries) (key : PyStr) : Except PyError ManifestValue :=
  (valueOf key cfg).elim (.error .keyError) .ok

/-- `cfg[part][key]`. Only a dictionary can be subscripted with a string. -/
def item (cfg : ManifestEntries) (part key : PyStr) : Except PyError ManifestValue := do
  match ← topItem cfg part with
  | .scalar _ => .error .typeError
  | .map entries => topItem entries key

/-- `if not holds: raise ConfigError(message)`. -/
def require (holds : Bool) (message : PyStr) : Except PyError Unit :=
  if holds then .ok () else .error (.config ⟨message⟩)

/-- `value == 1`; `True` is equal to 1. -/
def equalsOne : ManifestValue → Bool
  | .scalar (.int n) => n = 1
  | .scalar (.bool b) => b
  | _ => false

/-- `isinstance(value, str)`. -/
def isStr : ManifestValue → Bool
  | .scalar (.str _) => true
  | _ => false

/-- `isinstance(value, bool)`. -/
def isBool : ManifestValue → Bool
  | .scalar (.bool _) => true
  | _ => false

/-- `bool(value)`. -/
def truthy : ManifestValue → Bool
  | .scalar .none => false
  | .scalar (.bool b) => b
  | .scalar (.int n) => n ≠ 0
  | .scalar (.str s) => s ≠ []
  | .map entries => !entries.isEmpty

/-- Source: `resolve_config`, the check of `build.type`. A dictionary is unhashable, so the test for
membership in a set raises an error of its own. -/
def checkType (cfg : ManifestEntries) : Except PyError Unit := do
  match ← item cfg (py "build") (py "type") with
  | .map _ => .error .typeError
  | .scalar (.str s) =>
    require (validBuildTypes.contains s)
      (py "build.type must be one of: Debug, MinSizeRel, RelWithDebInfo, Release")
  | .scalar _ =>
    require false (py "build.type must be one of: Debug, MinSizeRel, RelWithDebInfo, Release")

/-- Source: `resolve_config`, the check of `build.dir`. -/
def checkDir (cfg : ManifestEntries) : Except PyError Unit := do
  match ← item cfg (py "build") (py "dir") with
  | .scalar (.str s) => require (PyStr.strip s ≠ []) (py "build.dir must be a non-empty string")
  | _ => require false (py "build.dir must be a non-empty string")

/-- Source: `resolve_config`, the check of `build.parallel`. -/
def checkParallel (cfg : ManifestEntries) : Except PyError Unit := do
  match ← item cfg (py "build") (py "parallel") with
  | .scalar (.int n) => require (0 ≤ n) (py "build.parallel must be a non-negative integer")
  | _ => require false (py "build.parallel must be a non-negative integer")

/-- Source: `resolve_config`, the check of a flag. -/
def checkFlag (cfg : ManifestEntries) (part key : PyStr) : Except PyError Unit := do
  require (isBool (← item cfg part key)) (part ++ py "." ++ key ++ py " must be true or false")

/-- Source: `resolve_config`, the check of a path. -/
def checkPath (cfg : ManifestEntries) (key : PyStr) : Except PyError Unit := do
  require (isStr (← item cfg (py "paths") key)) (py "paths." ++ key ++ py " must be a string")

/-- Source: `resolve_config`, the check that applications have their library. -/
def checkLibrary (cfg : ManifestEntries) : Except PyError Unit := do
  if truthy (← item cfg (py "components") (py "library")) then return
  let apps ← [py "standalone_app", py "hakoniwa_app", py "monitor"].anyM fun name => do
    return truthy (← item cfg (py "components") name)
  require (!apps)
    (py "components.library=false is incompatible with enabled applications/monitor")

/-- Source: `resolve_config`, the check that the TCP test has its application. -/
def checkTcp (cfg : ManifestEntries) : Except PyError Unit := do
  if truthy (← item cfg (py "validation") (py "integration_tcp")) then
    require (truthy (← item cfg (py "components") (py "standalone_app")))
      (py "validation.integration_tcp=true requires components.standalone_app=true")

/-- The flags, in the order of their checks. -/
def flags : List (PyStr × PyStr) :=
  [(py "components", py "library"), (py "components", py "standalone_app"),
   (py "components", py "hakoniwa_app"), (py "components", py "monitor"),
   (py "validation", py "tests"), (py "validation", py "examples"),
   (py "validation", py "integration_tcp")]

/-- Source: `resolve_config`, the checks. -/
def checkConfig (cfg : ManifestEntries) : Except PyError Unit := do
  require (equalsOne (← topItem cfg (py "version"))) (py "version must be 1")
  checkType cfg
  checkDir cfg
  checkParallel cfg
  flags.forM fun flag => checkFlag cfg flag.1 flag.2
  [py "pdu_endpoint_root", py "hakoniwa_core_root", py "vcpkg_root"].forM (checkPath cfg)
  checkLibrary cfg
  checkTcp cfg

/-- Source: `tools/hako.py`, `resolve_config`. -/
def resolveConfig (raw : ManifestEntries) : Except PyError ManifestEntries :=
  match mergeKnown defaultConfig raw [] with
  | .error e => .error (.config e)
  | .ok cfg => (checkConfig cfg).map fun _ => cfg

/-! ## Settings -/

/-- The values of a merged configuration. -/
structure Settings where
  version : ManifestValue
  type : ManifestValue
  dir : ManifestValue
  parallel : ManifestValue
  library : ManifestValue
  standaloneApp : ManifestValue
  hakoniwaApp : ManifestValue
  monitor : ManifestValue
  tests : ManifestValue
  examples : ManifestValue
  integrationTcp : ManifestValue
  pduEndpointRoot : ManifestValue
  hakoniwaCoreRoot : ManifestValue
  vcpkgRoot : ManifestValue

/-- The configuration with the settings, in the order of the defaults. -/
def Settings.entries (s : Settings) : ManifestEntries :=
  [(py "version", s.version),
   (py "build", .map
     [(py "type", s.type), (py "dir", s.dir), (py "parallel", s.parallel)]),
   (py "components", .map
     [(py "library", s.library), (py "standalone_app", s.standaloneApp),
      (py "hakoniwa_app", s.hakoniwaApp), (py "monitor", s.monitor)]),
   (py "validation", .map
     [(py "tests", s.tests), (py "examples", s.examples),
      (py "integration_tcp", s.integrationTcp)]),
   (py "paths", .map
     [(py "pdu_endpoint_root", s.pduEndpointRoot), (py "hakoniwa_core_root", s.hakoniwaCoreRoot),
      (py "vcpkg_root", s.vcpkgRoot)])]

/-- A configuration that passes the checks. -/
structure BuildConfig where
  version : ManifestScalar
  type : PyStr
  dir : PyStr
  parallel : ℤ
  library : Bool
  standaloneApp : Bool
  hakoniwaApp : Bool
  monitor : Bool
  tests : Bool
  examples : Bool
  integrationTcp : Bool
  pduEndpointRoot : PyStr
  hakoniwaCoreRoot : PyStr
  vcpkgRoot : PyStr
  version_one : version = .int 1 ∨ version = .bool true
  type_valid : type ∈ validBuildTypes
  dir_nonempty : PyStr.strip dir ≠ []
  parallel_nonneg : 0 ≤ parallel
  apps_have_library : library = true ∨
    (standaloneApp = false ∧ hakoniwaApp = false ∧ monitor = false)
  tcp_has_app : integrationTcp = true → standaloneApp = true

/-- The settings of a configuration. -/
def BuildConfig.settings (c : BuildConfig) : Settings where
  version := .scalar c.version
  type := .scalar (.str c.type)
  dir := .scalar (.str c.dir)
  parallel := .scalar (.int c.parallel)
  library := .scalar (.bool c.library)
  standaloneApp := .scalar (.bool c.standaloneApp)
  hakoniwaApp := .scalar (.bool c.hakoniwaApp)
  monitor := .scalar (.bool c.monitor)
  tests := .scalar (.bool c.tests)
  examples := .scalar (.bool c.examples)
  integrationTcp := .scalar (.bool c.integrationTcp)
  pduEndpointRoot := .scalar (.str c.pduEndpointRoot)
  hakoniwaCoreRoot := .scalar (.str c.hakoniwaCoreRoot)
  vcpkgRoot := .scalar (.str c.vcpkgRoot)

/-- The configuration as a Python dictionary. -/
def BuildConfig.entries (c : BuildConfig) : ManifestEntries := c.settings.entries

/-! ## The settings that pass -/

section except

variable {α β : Type} {x : Except PyError α} {f : α → Except PyError β} {b : β}

/-- A computation succeeds exactly when both of its parts do. -/
theorem bind_eq_ok_iff : (x >>= f) = .ok b ↔ ∃ a, x = .ok a ∧ f a = .ok b := by
  cases x with
  | error e => exact ⟨nofun, fun ⟨_, h, _⟩ => nomatch h⟩
  | ok a =>
    refine ⟨fun h => ⟨a, rfl, h⟩, ?_⟩
    rintro ⟨a', ha, h⟩
    obtain rfl := Except.ok.inj ha
    exact h

/-- A check in front of a computation. -/
theorem andThen_eq_ok_iff {x : Except PyError Unit} {y : Except PyError β} :
    (x >>= fun _ => y) = .ok b ↔ x = .ok () ∧ y = .ok b := by
  rw [bind_eq_ok_iff]
  exact ⟨fun ⟨_, hx, hy⟩ => ⟨hx, hy⟩, fun ⟨hx, hy⟩ => ⟨(), hx, hy⟩⟩

/-- A loop of checks passes exactly when each check does. -/
theorem forM_eq_ok_iff {f : α → Except PyError Unit} {l : List α} :
    l.forM f = .ok () ↔ ∀ x ∈ l, f x = .ok () := by
  induction l with
  | nil => exact ⟨fun _ => nofun, fun _ => rfl⟩
  | cons x l ih =>
    have hstep : (x :: l).forM f = (f x >>= fun _ => l.forM f) := rfl
    rw [hstep, andThen_eq_ok_iff, List.forall_mem_cons, ih]

theorem require_eq_ok_iff {holds : Bool} {message : PyStr} :
    require holds message = .ok () ↔ holds = true := by
  cases holds
  · exact ⟨nofun, nofun⟩
  · exact ⟨fun _ => rfl, fun _ => rfl⟩

end except

section checks

variable (s : Settings)

/-- The build type is one of the valid ones. -/
theorem checkType_eq_ok_iff : checkType s.entries = .ok () ↔
    ∃ type ∈ validBuildTypes, s.type = .scalar (.str type) := by
  have hitem : item s.entries (py "build") (py "type") = .ok s.type := rfl
  rw [checkType, hitem, bind_eq_ok_iff]
  simp only [Except.ok.injEq, exists_eq_left']
  rcases s.type with (_ | b | n | t) | entries
  case scalar.str => rw [require_eq_ok_iff]; simp
  all_goals simp [require]

/-- The build directory is a string that is not blank. -/
theorem checkDir_eq_ok_iff : checkDir s.entries = .ok () ↔
    ∃ dir, PyStr.strip dir ≠ [] ∧ s.dir = .scalar (.str dir) := by
  have hitem : item s.entries (py "build") (py "dir") = .ok s.dir := rfl
  rw [checkDir, hitem, bind_eq_ok_iff]
  simp only [Except.ok.injEq, exists_eq_left']
  rcases s.dir with (_ | b | n | t) | entries
  case scalar.str => rw [require_eq_ok_iff]; simp
  all_goals simp [require]

/-- The number of jobs is an integer, and not negative. -/
theorem checkParallel_eq_ok_iff : checkParallel s.entries = .ok () ↔
    ∃ n : ℤ, 0 ≤ n ∧ s.parallel = .scalar (.int n) := by
  have hitem : item s.entries (py "build") (py "parallel") = .ok s.parallel := rfl
  rw [checkParallel, hitem, bind_eq_ok_iff]
  simp only [Except.ok.injEq, exists_eq_left']
  rcases s.parallel with (_ | b | n | t) | entries
  case scalar.int => rw [require_eq_ok_iff]; simp
  all_goals simp [require]

/-- In Python `True == 1`, so a version `true` passes. -/
theorem equalsOne_iff {v : ManifestValue} :
    equalsOne v = true ↔ v = .scalar (.int 1) ∨ v = .scalar (.bool true) := by
  rcases v with (_ | b | n | t) | entries <;> simp [equalsOne]

theorem isStr_iff {v : ManifestValue} : isStr v = true ↔ ∃ s, v = .scalar (.str s) := by
  rcases v with (_ | b | n | t) | entries <;> simp [isStr]

theorem isBool_iff {v : ManifestValue} : isBool v = true ↔ ∃ b, v = .scalar (.bool b) := by
  rcases v with (_ | b | n | t) | entries <;> simp [isBool]

/-- A flag is a boolean. -/
theorem checkFlag_eq_ok_iff {cfg : ManifestEntries} {part key : PyStr} {v : ManifestValue}
    (hitem : item cfg part key = .ok v) :
    checkFlag cfg part key = .ok () ↔ ∃ b, v = .scalar (.bool b) := by
  rw [checkFlag, hitem, bind_eq_ok_iff, ← isBool_iff]
  simp only [Except.ok.injEq, exists_eq_left', require_eq_ok_iff]

/-- A path is a string. -/
theorem checkPath_eq_ok_iff {cfg : ManifestEntries} {key : PyStr} {v : ManifestValue}
    (hitem : item cfg (py "paths") key = .ok v) :
    checkPath cfg key = .ok () ↔ ∃ s, v = .scalar (.str s) := by
  rw [checkPath, hitem, bind_eq_ok_iff, ← isStr_iff]
  simp only [Except.ok.injEq, exists_eq_left', require_eq_ok_iff]

end checks

section flags

variable {s : Settings} {library standaloneApp hakoniwaApp monitor integrationTcp : Bool}

/-- Applications and the monitor are built only with the library. -/
theorem checkLibrary_eq_ok_iff (hlibrary : s.library = .scalar (.bool library))
    (hstandalone : s.standaloneApp = .scalar (.bool standaloneApp))
    (hhakoniwa : s.hakoniwaApp = .scalar (.bool hakoniwaApp))
    (hmonitor : s.monitor = .scalar (.bool monitor)) : checkLibrary s.entries = .ok () ↔
      library = true ∨ (standaloneApp = false ∧ hakoniwaApp = false ∧ monitor = false) := by
  have hcheck : checkLibrary s.entries =
      require (library || !(standaloneApp || (hakoniwaApp || monitor)))
        (py "components.library=false is incompatible with enabled applications/monitor") := by
    rw [Settings.entries, hlibrary, hstandalone, hhakoniwa, hmonitor]
    cases library <;> cases standaloneApp <;> cases hakoniwaApp <;> cases monitor <;> rfl
  rw [hcheck, require_eq_ok_iff]
  simp

/-- The TCP test is built only with the standalone application. -/
theorem checkTcp_eq_ok_iff (htcp : s.integrationTcp = .scalar (.bool integrationTcp))
    (hstandalone : s.standaloneApp = .scalar (.bool standaloneApp)) :
    checkTcp s.entries = .ok () ↔ (integrationTcp = true → standaloneApp = true) := by
  have hcheck : checkTcp s.entries = require (!integrationTcp || standaloneApp)
      (py "validation.integration_tcp=true requires components.standalone_app=true") := by
    rw [Settings.entries, htcp, hstandalone]
    cases integrationTcp <;> cases standaloneApp <;> rfl
  rw [hcheck, require_eq_ok_iff]
  cases integrationTcp <;> simp

end flags

/-- The checks pass for the settings of a configuration, and for no others. -/
theorem checkConfig_eq_ok_iff (s : Settings) :
    checkConfig s.entries = .ok () ↔ ∃ c : BuildConfig, c.settings = s := by
  have hsteps : checkConfig s.entries = .ok () ↔ equalsOne s.version = true ∧
      checkType s.entries = .ok () ∧ checkDir s.entries = .ok () ∧
      checkParallel s.entries = .ok () ∧
      (∀ flag ∈ flags, checkFlag s.entries flag.1 flag.2 = .ok ()) ∧
      (∀ key ∈ [py "pdu_endpoint_root", py "hakoniwa_core_root", py "vcpkg_root"],
        checkPath s.entries key = .ok ()) ∧
      checkLibrary s.entries = .ok () ∧ checkTcp s.entries = .ok () := by
    have hversion : topItem s.entries (py "version") = .ok s.version := rfl
    rw [checkConfig, hversion]
    change (require (equalsOne s.version) _ >>= fun _ => _) = .ok () ↔ _
    rw [andThen_eq_ok_iff, andThen_eq_ok_iff, andThen_eq_ok_iff, andThen_eq_ok_iff,
      andThen_eq_ok_iff, andThen_eq_ok_iff, andThen_eq_ok_iff, require_eq_ok_iff, forM_eq_ok_iff,
      forM_eq_ok_iff]
  rw [hsteps, equalsOne_iff, checkType_eq_ok_iff, checkDir_eq_ok_iff, checkParallel_eq_ok_iff]
  constructor
  · rintro ⟨hversion, ⟨type, htype, hstype⟩, ⟨dir, hdir, hsdir⟩, ⟨n, hn, hsn⟩, hflags, hpaths,
      hlibrary, htcp⟩
    simp only [flags, List.forall_mem_cons] at hflags hpaths
    obtain ⟨h₁, h₂, h₃, h₄, h₅, h₆, h₇, -⟩ := hflags
    obtain ⟨library, h₁⟩ := (checkFlag_eq_ok_iff (v := s.library) rfl).1 h₁
    obtain ⟨standaloneApp, h₂⟩ := (checkFlag_eq_ok_iff (v := s.standaloneApp) rfl).1 h₂
    obtain ⟨hakoniwaApp, h₃⟩ := (checkFlag_eq_ok_iff (v := s.hakoniwaApp) rfl).1 h₃
    obtain ⟨monitor, h₄⟩ := (checkFlag_eq_ok_iff (v := s.monitor) rfl).1 h₄
    obtain ⟨tests, h₅⟩ := (checkFlag_eq_ok_iff (v := s.tests) rfl).1 h₅
    obtain ⟨examples, h₆⟩ := (checkFlag_eq_ok_iff (v := s.examples) rfl).1 h₆
    obtain ⟨integrationTcp, h₇⟩ := (checkFlag_eq_ok_iff (v := s.integrationTcp) rfl).1 h₇
    obtain ⟨h₈, h₉, h₁₀, -⟩ := hpaths
    obtain ⟨endpointRoot, h₈⟩ := (checkPath_eq_ok_iff (v := s.pduEndpointRoot) rfl).1 h₈
    obtain ⟨coreRoot, h₉⟩ := (checkPath_eq_ok_iff (v := s.hakoniwaCoreRoot) rfl).1 h₉
    obtain ⟨vcpkgRoot, h₁₀⟩ := (checkPath_eq_ok_iff (v := s.vcpkgRoot) rfl).1 h₁₀
    rw [checkLibrary_eq_ok_iff h₁ h₂ h₃ h₄] at hlibrary
    rw [checkTcp_eq_ok_iff h₇ h₂] at htcp
    obtain ⟨version, hone, hsversion⟩ : ∃ v : ManifestScalar, (v = .int 1 ∨ v = .bool true) ∧
        s.version = .scalar v := by
      rcases hversion with h | h
      · exact ⟨_, Or.inl rfl, h⟩
      · exact ⟨_, Or.inr rfl, h⟩
    refine ⟨⟨version, type, dir, n, library, standaloneApp, hakoniwaApp, monitor, tests, examples,
      integrationTcp, endpointRoot, coreRoot, vcpkgRoot, hone, htype, hdir, hn, hlibrary, htcp⟩, ?_⟩
    cases s
    simp only [BuildConfig.settings, Settings.mk.injEq]
    exact ⟨hsversion.symm, hstype.symm, hsdir.symm, hsn.symm, h₁.symm, h₂.symm, h₃.symm, h₄.symm,
      h₅.symm, h₆.symm, h₇.symm, h₈.symm, h₉.symm, h₁₀.symm⟩
  · rintro ⟨c, rfl⟩
    refine ⟨?_, ⟨c.type, c.type_valid, rfl⟩, ⟨c.dir, c.dir_nonempty, rfl⟩,
      ⟨c.parallel, c.parallel_nonneg, rfl⟩, ?_, ?_,
      (checkLibrary_eq_ok_iff rfl rfl rfl rfl).2 c.apps_have_library,
      (checkTcp_eq_ok_iff rfl rfl).2 c.tcp_has_app⟩
    · exact c.version_one.imp (congrArg _) (congrArg _)
    · simp only [flags, List.forall_mem_cons]
      exact ⟨rfl, rfl, rfl, rfl, rfl, rfl, rfl, nofun⟩
    · simp only [List.forall_mem_cons]
      exact ⟨rfl, rfl, rfl, nofun⟩

/-! ## Resolving -/

/-- The merge succeeds if the overrides name known keys only, and every entry merges. -/
theorem mergeKnown_eq_ok_iff {defaults overrides merged : ManifestEntries} {pref : PyStr} :
    mergeKnown defaults overrides pref = .ok merged ↔
      (∀ key ∈ overrides.map Prod.fst, key ∈ defaults.map Prod.fst) ∧
        mergeEntries overrides pref defaults = .ok merged := by
  rw [mergeKnown, ← unknownKeys_eq_nil]
  split_ifs with hknown
  · exact ⟨fun h => ⟨hknown, h⟩, And.right⟩
  · exact ⟨fun h => absurd h (by simp), fun h => absurd h.1 hknown⟩

/-- A merged configuration has all settings. -/
theorem exists_settings {raw cfg : ManifestEntries}
    (h : mergeKnown defaultConfig raw [] = .ok cfg) : ∃ s : Settings, cfg = s.entries := by
  obtain ⟨-, hcfg⟩ := mergeKnown_eq_ok_iff.1 h
  obtain ⟨version, _, -, hcfg₁, rfl⟩ := mergeEntries_cons_eq_ok_iff.1 hcfg
  obtain ⟨_, _, hbuild, hcfg₂, rfl⟩ := mergeEntries_cons_eq_ok_iff.1 hcfg₁
  obtain ⟨_, _, hcomponents, hcfg₃, rfl⟩ := mergeEntries_cons_eq_ok_iff.1 hcfg₂
  obtain ⟨_, _, hvalidation, hcfg₄, rfl⟩ := mergeEntries_cons_eq_ok_iff.1 hcfg₃
  obtain ⟨_, _, hpaths, hcfg₅, rfl⟩ := mergeEntries_cons_eq_ok_iff.1 hcfg₄
  obtain rfl := Except.ok.inj hcfg₅
  obtain ⟨_, _, -, -, hbuild₀, rfl⟩ := mergeValue_map_eq_ok_iff.1 hbuild
  obtain ⟨type, _, -, hbuild₁, rfl⟩ := mergeEntries_cons_eq_ok_iff.1 hbuild₀
  obtain ⟨dir, _, -, hbuild₂, rfl⟩ := mergeEntries_cons_eq_ok_iff.1 hbuild₁
  obtain ⟨parallel, _, -, hbuild₃, rfl⟩ := mergeEntries_cons_eq_ok_iff.1 hbuild₂
  obtain rfl := Except.ok.inj hbuild₃
  obtain ⟨_, _, -, -, hcomponents₀, rfl⟩ := mergeValue_map_eq_ok_iff.1 hcomponents
  obtain ⟨library, _, -, hcomponents₁, rfl⟩ := mergeEntries_cons_eq_ok_iff.1 hcomponents₀
  obtain ⟨standaloneApp, _, -, hcomponents₂, rfl⟩ := mergeEntries_cons_eq_ok_iff.1 hcomponents₁
  obtain ⟨hakoniwaApp, _, -, hcomponents₃, rfl⟩ := mergeEntries_cons_eq_ok_iff.1 hcomponents₂
  obtain ⟨monitor, _, -, hcomponents₄, rfl⟩ := mergeEntries_cons_eq_ok_iff.1 hcomponents₃
  obtain rfl := Except.ok.inj hcomponents₄
  obtain ⟨_, _, -, -, hvalidation₀, rfl⟩ := mergeValue_map_eq_ok_iff.1 hvalidation
  obtain ⟨tests, _, -, hvalidation₁, rfl⟩ := mergeEntries_cons_eq_ok_iff.1 hvalidation₀
  obtain ⟨examples, _, -, hvalidation₂, rfl⟩ := mergeEntries_cons_eq_ok_iff.1 hvalidation₁
  obtain ⟨integrationTcp, _, -, hvalidation₃, rfl⟩ := mergeEntries_cons_eq_ok_iff.1 hvalidation₂
  obtain rfl := Except.ok.inj hvalidation₃
  obtain ⟨_, _, -, -, hpaths₀, rfl⟩ := mergeValue_map_eq_ok_iff.1 hpaths
  obtain ⟨endpointRoot, _, -, hpaths₁, rfl⟩ := mergeEntries_cons_eq_ok_iff.1 hpaths₀
  obtain ⟨coreRoot, _, -, hpaths₂, rfl⟩ := mergeEntries_cons_eq_ok_iff.1 hpaths₁
  obtain ⟨vcpkgRoot, _, -, hpaths₃, rfl⟩ := mergeEntries_cons_eq_ok_iff.1 hpaths₂
  obtain rfl := Except.ok.inj hpaths₃
  exact ⟨⟨version, type, dir, parallel, library, standaloneApp, hakoniwaApp, monitor, tests,
    examples, integrationTcp, endpointRoot, coreRoot, vcpkgRoot⟩, rfl⟩

/-- The settings of a configuration are merged into the defaults as they are. -/
theorem mergeKnown_entries (s : Settings) :
    mergeKnown defaultConfig s.entries [] = .ok s.entries := by
  -- a mapping with the keys of its defaults, whose values are merged as they are
  have hpart : ∀ {overrides defaults rest merged : ManifestEntries} {key : PyStr},
      chosen s.entries key (.map defaults) = .map overrides →
      (∀ key ∈ overrides.map Prod.fst, key ∈ defaults.map Prod.fst) →
      mergeEntries overrides (keyPath [] key) defaults = .ok overrides →
      mergeEntries s.entries [] rest = .ok merged →
      mergeEntries s.entries [] ((key, .map defaults) :: rest) =
        .ok ((key, .map overrides) :: merged) := by
    intro overrides defaults rest merged key hchosen hkeys hentries hrest
    exact mergeEntries_cons_eq_ok_iff.2 ⟨_, _, mergeValue_map_eq_ok_iff.2
      ⟨overrides, overrides, hchosen, hkeys, hentries, rfl⟩, hrest, rfl⟩
  have hscalar : ∀ {overrides rest merged : ManifestEntries} {pref key : PyStr}
      {default : ManifestScalar} {value : ManifestValue},
      chosen overrides key (.scalar default) = value →
      mergeEntries overrides pref rest = .ok merged →
      mergeEntries overrides pref ((key, .scalar default) :: rest) =
        .ok ((key, value) :: merged) := by
    intro overrides rest merged pref key default value hchosen hrest
    exact mergeEntries_cons_eq_ok_iff.2 ⟨value, _, hchosen ▸ mergeValue_scalar _ _ _, hrest, rfl⟩
  refine mergeKnown_eq_ok_iff.2 ⟨fun key hkey => hkey, hscalar rfl ?_⟩
  refine hpart rfl (fun key hkey => hkey) (hscalar rfl (hscalar rfl (hscalar rfl rfl))) ?_
  refine hpart rfl (fun key hkey => hkey)
    (hscalar rfl (hscalar rfl (hscalar rfl (hscalar rfl rfl)))) ?_
  refine hpart rfl (fun key hkey => hkey) (hscalar rfl (hscalar rfl (hscalar rfl rfl))) ?_
  exact hpart rfl (fun key hkey => hkey) (hscalar rfl (hscalar rfl (hscalar rfl rfl))) rfl

/-- **Resolving.** What is accepted is the manifest merged into the defaults, where that is a
configuration. -/
theorem resolveConfig_eq_ok_iff {raw cfg : ManifestEntries} : resolveConfig raw = .ok cfg ↔
    mergeKnown defaultConfig raw [] = .ok cfg ∧ ∃ c : BuildConfig, cfg = c.entries := by
  rw [resolveConfig]
  cases hmerge : mergeKnown defaultConfig raw [] with
  | error e => simp
  | ok merged =>
    obtain ⟨s, rfl⟩ := exists_settings hmerge
    have hcheck := checkConfig_eq_ok_iff s
    dsimp only
    constructor
    · intro h
      cases hresult : checkConfig s.entries with
      | error e =>
        rw [hresult] at h
        cases h
      | ok u =>
        rw [hresult] at h
        obtain rfl := Except.ok.inj h
        obtain ⟨c, rfl⟩ := hcheck.1 hresult
        exact ⟨rfl, c, rfl⟩
    · rintro ⟨hcfg, c, rfl⟩
      rw [Except.ok.inj hcfg]
      have hresult : checkConfig c.entries = .ok () := (checkConfig_eq_ok_iff _).2 ⟨c, rfl⟩
      rw [hresult]
      rfl

/-- **The configurations.** What is accepted from any manifest are the configurations, and resolving
one again changes nothing. -/
theorem resolveConfig_fixed (cfg : ManifestEntries) :
    ((∃ raw, resolveConfig raw = .ok cfg) ↔ ∃ c : BuildConfig, cfg = c.entries) ∧
      ∀ c : BuildConfig, resolveConfig c.entries = .ok c.entries := by
  have hfixed : ∀ c : BuildConfig, resolveConfig c.entries = .ok c.entries :=
    fun c => resolveConfig_eq_ok_iff.2 ⟨mergeKnown_entries c.settings, c, rfl⟩
  refine ⟨⟨fun ⟨raw, h⟩ => (resolveConfig_eq_ok_iff.1 h).2, ?_⟩, hfixed⟩
  rintro ⟨c, rfl⟩
  exact ⟨c.entries, hfixed c⟩

end HakoniwaBridge
