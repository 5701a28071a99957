import HakoniwaBridge.CheckedConfig

/-!
# The configuration checker

`check_bridge_config.py`, over the files that it sees (`CheckFiles`). `jsonschema` is given by the
schema that it applies; there is none if it is not installed or the schema file cannot be read.

The loader has a parser of its own (`LoaderFiles`). Neither parser is part of the repository; that
they read the same document from a file is the assumption `ReadAlike`.

* `checkBridgeConfig` — `main`, which yields the exit code; a value of a type that Python cannot
  handle ends it with an exception.
* `LoaderFiles.parse` — what `build` makes of the path that it is given.
* `passed_of_checkBridgeConfig` — what a configuration has passed if the exit code is 0.
* `checked_loads` — **a configuration that the checker accepts is loaded**: the container is
  complete, the decoders succeed, and a build fails for a missing reference only.
-/

namespace HakoniwaBridge

open Lib Schema

/-- The exceptions of Python that end the checker. -/
inductive CheckError
  | attributeError
  | typeError

/-- What the checker sees of the files. -/
structure CheckFiles (π : Type) where
  /-- Source: `check_bridge_config.py`, `load_json`. -/
  loadJson : π → Option Json
  /-- `path.is_file()`. -/
  isFile : π → Bool
  /-- `(path.parent / text).resolve()`. -/
  beside : π → String → π
  /-- A number, by its text, that is equal to 0. -/
  isZero : String → Bool

variable {π : Type} (files : CheckFiles π)

/-- `for ok in ...`: the checks of a loop, all of which are made. -/
def checkEach {α : Type} (check : α → Except CheckError Bool) : List α → Except CheckError Bool
  | [] => .ok true
  | x :: xs => do
    let ok ← check x
    let rest ← checkEach check xs
    return ok && rest

/-- The elements that a `for` loop visits: keys of a dictionary, characters of a string. -/
def iterate : Json → Except CheckError (List Json)
  | .arr elems => .ok elems
  | .obj members => .ok (members.map fun m => .str m.1)
  | .str s => .ok (s.toList.map fun c => .str (String.singleton c))
  | _ => .error .typeError

/-- `not value`. -/
def CheckFiles.isFalsy : Json → Bool
  | .null => true
  | .bool b => !b
  | .int n => n = 0
  | .float text => files.isZero text
  | .str s => s = ""
  | .arr elems => elems.isEmpty
  | .obj members => members.isEmpty

/-- Source: `check_endpoint_container_paths`, the body of the inner loop. -/
def checkEndpoint (container : π) (ep : Json) : Except CheckError Bool :=
  let configPath := (ep.get? "config_path").getD .null
  if files.isFalsy configPath then .ok true
  else
    match configPath with
    | .str text => .ok (files.isFile (files.beside container text))
    | _ => .error .typeError

/-- Source: `check_endpoint_container_paths`, the body of the outer loop. -/
def checkNode (container : π) (node : Json) : Except CheckError Bool := do
  let endpoints ← iterate ((node.get? "endpoints").getD (.arr []))
  checkEach (checkEndpoint files container) endpoints

/-- Source: `check_bridge_config.py`, `check_endpoint_container_paths`. -/
def checkEndpointContainerPaths (container : π) : Except CheckError Bool :=
  match files.loadJson container with
  | some (.arr nodes) => checkEach (checkNode files container) nodes
  | _ => .ok false

/-- Source: `check_bridge_config.py`, `main`, from the choice of the endpoint container on. -/
def checkContainer (ok : Bool) (container : Option π) : Except CheckError Nat := do
  let found ← container.elim (.ok true) (checkEndpointContainerPaths files)
  return if ok && found then 0 else 1

/-- Source: `check_bridge_config.py`, `main`. `null` is loaded as `None`. -/
def checkBridgeConfig (schema : Option Schema) (bridgeJson : π) (endpointContainer : Option π) :
    Except CheckError Nat :=
  match files.loadJson bridgeJson with
  | none | some .null => .ok 1
  | some doc =>
    let ok := schema.any fun schema => schema doc
    match endpointContainer with
    | some container => checkContainer files ok (some container)
    | none =>
      if doc.isObject = false then .error .attributeError
      else
        match doc.getString? "endpoints_config_path" with
        | some text =>
          if text = "" then checkContainer files ok none
          else
            let container := files.beside bridgeJson text
            if files.isFile container then checkContainer files ok (some container)
            else checkContainer files false none
        | none => checkContainer files ok none

/-! ## The loader -/

/-- What the loader sees of the files. -/
structure LoaderFiles (π : Type) where
  /-- The path, as it stands in a message. -/
  text : π → String
  /-- `ifs.is_open()`. -/
  isOpen : π → Bool
  /-- `nlohmann::json::parse`, unless the result is discarded. -/
  document : π → Option Json
  /-- `e.what()`. -/
  what : DecodeException → String

/-- Source: `bridge_builder.cpp`, `parse`. -/
def LoaderFiles.parse (loader : LoaderFiles π) (cast : String → Int) (configPath : π) :
    Except String DecodedConfig :=
  if loader.isOpen configPath = false then
    .error ("BridgeLoader: Failed to open bridge config file: " ++ loader.text configPath)
  else
    match loader.document configPath with
    | none =>
      .error ("BridgeLoader: Failed to parse bridge config JSON: " ++ loader.text configPath)
    | some doc =>
      match FromJson.bridgeConfig cast doc with
      | .ok cfg => .ok cfg
      | .error e => .error ("BridgeLoader: Failed to decode bridge config: " ++ loader.what e)

/-- What is assumed of the two parsers at a file: where Python reads a document, `nlohmann::json`
reads the same one. It is so for a text that both take for JSON; Python alone takes an escape for
half of a surrogate pair, `NaN`, and a number that is too large for a `double`. -/
def ReadAlike (loader : LoaderFiles π) (path : π) : Prop :=
  ∀ doc, files.loadJson path = some doc →
    loader.isOpen path = true ∧ loader.document path = some doc

/-! ## When it accepts -/

variable {files}

theorem checkEach_iff {α : Type} {check : α → Except CheckError Bool} {xs : List α} :
    checkEach check xs = .ok true ↔ ∀ x ∈ xs, check x = .ok true := by
  induction xs with
  | nil => exact ⟨nofun, fun _ => rfl⟩
  | cons x xs ih =>
    rw [List.forall_mem_cons, ← ih, checkEach]
    cases check x with
    | error e => exact ⟨nofun, nofun⟩
    | ok b =>
      cases checkEach check xs with
      | error e => exact ⟨nofun, nofun⟩
      | ok rest => cases b <;> cases rest <;> simp [bind, Except.bind, pure, Except.pure]

/-- The files that an endpoint container names are there. -/
structure PathsFound (files : CheckFiles π) (container : π) (nodes : List Json) : Prop where
  loaded : files.loadJson container = some (.arr nodes)
  found : ∀ node ∈ nodes, ∀ endpoints, node.get? "endpoints" = some (.arr endpoints) →
    ∀ ep ∈ endpoints, ∀ text, ep.get? "config_path" = some (.str text) → text ≠ "" →
      files.isFile (files.beside container text) = true

theorem pathsFound_of_check {container : π}
    (h : checkEndpointContainerPaths files container = .ok true) :
    ∃ nodes, PathsFound files container nodes := by
  unfold checkEndpointContainerPaths at h
  split at h
  · next nodes hload =>
    refine ⟨nodes, hload, fun node hnode endpoints hendpoints ep hep text htext hne => ?_⟩
    have hchecked := checkEach_iff.1 h node hnode
    unfold checkNode at hchecked
    rw [hendpoints] at hchecked
    have hendpoint := checkEach_iff.1 hchecked ep hep
    unfold checkEndpoint at hendpoint
    simpa [htext, CheckFiles.isFalsy, hne] using hendpoint
  · exact absurd h (by simp)

theorem checkContainer_eq_zero_iff {ok : Bool} {container : Option π} :
    checkContainer files ok container = .ok 0 ↔
      ok = true ∧ ∀ path ∈ container, checkEndpointContainerPaths files path = .ok true := by
  unfold checkContainer
  cases container with
  | none => cases ok <;> simp [bind, Except.bind, pure, Except.pure]
  | some path =>
    dsimp only [Option.elim_some]
    cases hcheck : checkEndpointContainerPaths files path with
    | error e => simp [bind, Except.bind, hcheck]
    | ok found => cases ok <;> cases found <;> simp [bind, Except.bind, pure, Except.pure, hcheck]

/-- The endpoint container that is checked: the one that is given, or that of the document. -/
def chosenContainer (files : CheckFiles π) (bridgeJson : π) (given : Option π) (doc : Json) :
    Option π :=
  given.or (((doc.getString? "endpoints_config_path").filter (· ≠ "")).map
    (files.beside bridgeJson))

/-- What an accepted configuration has passed. -/
theorem passed_of_checkBridgeConfig {schema : Schema} {bridgeJson : π} {given : Option π}
    (h : checkBridgeConfig files (some schema) bridgeJson given = .ok 0) :
    ∃ doc, files.loadJson bridgeJson = some doc ∧ schema doc = true ∧
      ∀ path ∈ chosenContainer files bridgeJson given doc,
        checkEndpointContainerPaths files path = .ok true := by
  unfold checkBridgeConfig at h
  split at h
  · exact absurd h (by simp)
  · exact absurd h (by simp)
  · next doc _ hload =>
    refine ⟨doc, hload, ?_⟩
    unfold chosenContainer
    cases given with
    | some container => exact checkContainer_eq_zero_iff.1 h
    | none =>
      dsimp only at h
      split_ifs at h with hobject
      rw [Option.none_or]
      cases hpath : doc.getString? "endpoints_config_path" with
      | none =>
        rw [hpath] at h
        exact ⟨(checkContainer_eq_zero_iff.1 h).1, by simp⟩
      | some text =>
        rw [hpath] at h
        dsimp only at h
        split_ifs at h with hempty hfile
        · obtain ⟨hvalid, -⟩ := checkContainer_eq_zero_iff.1 h
          exact ⟨hvalid, by simp [hempty]⟩
        · simpa [hempty] using checkContainer_eq_zero_iff.1 h
        · exact absurd (checkContainer_eq_zero_iff.1 h).1 Bool.false_ne_true

/-- The path of a decoded configuration is that of the document. -/
theorem getString?_of_bridgeConfig {cast : String → Int} {doc : Json} {cfg : DecodedConfig}
    (h : FromJson.bridgeConfig cast doc = .ok cfg) :
    ∀ text ∈ cfg.endpointsConfigPath, doc.getString? "endpoints_config_path" = some text := by
  obtain ⟨version, -, h⟩ := FromJson.bind_eq_ok.1 h
  obtain ⟨policies, -, h⟩ := FromJson.bind_eq_ok.1 h
  obtain ⟨nodes, -, h⟩ := FromJson.bind_eq_ok.1 h
  obtain ⟨path, hpath, h⟩ := FromJson.bind_eq_ok.1 h
  obtain ⟨links, -, h⟩ := FromJson.bind_eq_ok.1 h
  obtain ⟨groups, -, h⟩ := FromJson.bind_eq_ok.1 h
  obtain ⟨connections, -, h⟩ := FromJson.bind_eq_ok.1 h
  cases h
  rintro text rfl
  cases hv : doc.get? "endpoints_config_path" with
  | none =>
    rw [FromJson.optional_of_missing hv] at hpath
    exact absurd hpath (by simp)
  | some v =>
    unfold FromJson.optional at hpath
    rw [hv] at hpath
    obtain ⟨s, hs, heq⟩ := FromJson.bind_eq_ok.1 hpath
    obtain rfl := FromJson.string_eq_ok hs
    obtain rfl : s = text := Option.some.inj (Except.ok.inj heq)
    unfold Json.getString?
    rw [hv]

/-- A document that the loader reads and decodes is what it loads. -/
theorem LoaderFiles.parse_eq_ok {loader : LoaderFiles π} {cast : String → Int} {path : π}
    {doc : Json} {cfg : DecodedConfig} (hopen : loader.isOpen path = true)
    (hdoc : loader.document path = some doc) (hcfg : FromJson.bridgeConfig cast doc = .ok cfg) :
    loader.parse cast path = .ok cfg := by
  unfold LoaderFiles.parse
  rw [if_neg (by rw [hopen]; exact Bool.noConfusion), hdoc]
  dsimp only
  rw [hcfg]

variable {ε : Type}

/-- **An accepted configuration is loaded.** Whatever the patterns of the schema match, if the
checker ends with 0, the loader's `parse` succeeds on the file, given that its parser reads what
Python has read. Every `config_path` that is not empty, of the endpoint container that is given or
that the configuration names, leads to a file. And whatever the node and the endpoints, a build
yields a core iff the connections of the node refer to endpoints that are there, and to groups and
policies of the configuration. -/
theorem checked_loads (isKey isId : String → Bool) (integral : String → Option Int)
    (number : Json → Json → Bool) (cast : String → Int) {loader : LoaderFiles π} {bridgeJson : π}
    {given : Option π}
    (haccepted : checkBridgeConfig files (some (PatternSchema.schema isKey isId integral number))
      bridgeJson given = .ok 0)
    (halike : ReadAlike files loader bridgeJson) :
    ∃ cfg, loader.parse cast bridgeJson = .ok cfg ∧ cfg.Valid isKey isId ∧
      (∀ path ∈ given.or (cfg.endpointsConfigPath.map (files.beside bridgeJson)),
        ∃ nodes, PathsFound files path nodes) ∧
      ∀ (E : Env ε) (nodeName : String) (container : List String) (h : Host ε),
        (∃ core, (build E cfg.toBridgeConfig nodeName container h).2 = .ok core) ↔
          cfg.toBridgeConfig.OfNode nodeName (·.Refers cfg.toBridgeConfig container) := by
  obtain ⟨doc, hload, hvalid, hpaths⟩ := passed_of_checkBridgeConfig haccepted
  obtain ⟨cfg, hcfg, hok, hbuild⟩ := valid_loads isKey isId integral number cast hvalid
  obtain ⟨hopen, hdoc⟩ := halike doc hload
  refine ⟨cfg, LoaderFiles.parse_eq_ok hopen hdoc hcfg, hok, fun path hpath => ?_, hbuild⟩
  apply pathsFound_of_check
  apply hpaths path
  unfold chosenContainer
  cases given with
  | some container => exact hpath
  | none =>
    rw [Option.none_or] at hpath ⊢
    obtain ⟨text, htext, rfl⟩ := Option.map_eq_some_iff.1 hpath
    have hne : text ≠ "" := by
      rintro rfl
      exact hok.path htext
    rw [getString?_of_bridgeConfig hcfg text htext, Option.filter_some, if_pos (by simpa using hne)]
    rfl

/-- A small configuration, which names its endpoint container. -/
def DecodedConfig.smallAt (path : String) : DecodedConfig :=
  { DecodedConfig.small none with endpointsConfigPath := some path }

/-- The files of the small configuration: two endpoints in a container, and their own files. -/
def CheckFiles.small : CheckFiles String where
  loadJson path :=
    if path = "bridge.json" then
      some (Document.bridgeConfig (DecodedConfig.smallAt "container.json"))
    else if path = "container.json" then
      some (.arr [.obj [("nodeId", .str "node1"), ("endpoints", .arr [
        .obj [("id", .str "src"), ("config_path", .str "src.json")],
        .obj [("id", .str "dst"), ("config_path", .str "dst.json")]])]])
    else none
  isFile path := path ∈ ["bridge.json", "container.json", "src.json", "dst.json"]
  beside _ text := text
  isZero _ := false

/-- The loader on the same files. -/
def LoaderFiles.small : LoaderFiles String where
  text path := path
  isOpen path := CheckFiles.small.isFile path
  document path := CheckFiles.small.loadJson path
  what _ := "[json.exception]"

/-- The small configuration is accepted, and leads to a core. -/
theorem checked_loads_small :
    ∃ cfg, LoaderFiles.small.parse (fun _ => 0) "bridge.json" = .ok cfg ∧
      ∃ core, (build ((CacheSpec.small .latest).env none) cfg.toBridgeConfig "node1"
        ["src", "dst"] (Host.boot CacheState.empty)).2 = .ok core := by
  have haccepted : checkBridgeConfig CheckFiles.small (some (PatternSchema.schema BridgeSchema.isKey
      BridgeSchema.isId (fun _ => none) (fun _ _ => false))) "bridge.json" none = .ok 0 := rfl
  have halike : ReadAlike CheckFiles.small LoaderFiles.small "bridge.json" :=
    fun _ hload => ⟨rfl, hload⟩
  obtain ⟨cfg, hcfg, -, -, hbuild⟩ := checked_loads _ _ _ _ (fun _ => 0) haccepted halike
  refine ⟨cfg, hcfg, (hbuild _ _ _ _).2 ?_⟩
  -- what is loaded is the configuration
  obtain rfl : DecodedConfig.smallAt "container.json" = cfg := Except.ok.inj hcfg
  intro connDef hmem _
  obtain rfl := List.mem_singleton.1 hmem
  refine ⟨by decide, by decide, fun entry he => ?_⟩
  obtain rfl := List.mem_singleton.1 he
  exact ⟨List.mem_singleton.2 rfl, List.mem_singleton.2 rfl⟩

end HakoniwaBridge
