import Mathlib.Data.List.Infix
import HakoniwaBridge.ManifestDump
import HakoniwaBridge.BuildConfig

/-!
# Component receipts

`write_receipt` of `tools/hako.py`, which describes an installed bridge, and
`_read_dependency_receipt`, with which it reads the receipts of the components that the bridge was
built on. From there it takes the build limits that the bridge passes on.

* `readDependencyReceipt` — the reader; it remembers the part in which a line stands.
* `receiptLines`, `writeReceipt` — the writer.
* `cmakeCacheValue`, `bridgeArtifacts` — what the writer looks up.
-/

namespace HakoniwaBridge

open Lib PyStr NestedMap

/-- Whether a character occurs in a text is decided. -/
instance : LawfulBEq CodePoint := inferInstance

/-! ## Reading -/

/-- Source: `_read_dependency_receipt`, its result. -/
structure DependencyReceipt where
  version : ManifestValue
  sourceRevision : ManifestValue
  buildLimits : ManifestEntries

/-- What the loop of `_read_dependency_receipt` holds: the part in which it is, and the result. -/
structure ReceiptReader where
  part : PyStr
  version : Option ManifestValue
  sourceRevision : Option ManifestValue
  buildLimits : ManifestEntries

namespace ReceiptReader

/-- Source: `_read_dependency_receipt`, before the loop. -/
def initial : ReceiptReader := ⟨[], none, none, []⟩

/-- Source: `_read_dependency_receipt`, the end of the body of the loop. -/
def store (s : ReceiptReader) (key : PyStr) (parsed : ManifestValue) : ReceiptReader :=
  if s.part = py "component" ∧ key = py "version" then { s with version := some parsed }
  else if s.part = py "component" ∧ key = py "source_revision" then
    { s with sourceRevision := some parsed }
  else if s.part = py "build_limits" then
    { s with buildLimits := setEntry key parsed s.buildLimits }
  else s

/-- Source: `_read_dependency_receipt`, the body of the loop. -/
def line (s : ReceiptReader) (raw : PyStr) : Except ConfigError ReceiptReader :=
  if raw ≠ [] ∧ raw.head? ≠ some (cp ' ') ∧ raw.getLast? = some (cp ':') then
    .ok { s with part := raw.dropLast }
  else if ¬ blanks 2 <+: raw ∨ blanks 4 <+: raw ∨ cp ':' ∉ raw then .ok s
  else
    let stripped := strip raw
    (parseScalar (stripped.dropWhile (· ≠ cp ':')).tail).map
      (s.store (stripped.takeWhile (· ≠ cp ':')))

end ReceiptReader

/-- The path of a receipt, and its text if there is such a file. -/
structure ReceiptFile where
  path : PyStr
  text : Option PyStr

/-- Source: `tools/hako.py`, `_read_dependency_receipt`. -/
def readDependencyReceipt (file : ReceiptFile) : Except ConfigError DependencyReceipt :=
  match file.text with
  | none => .ok ⟨.scalar (.str (py "unknown")), .scalar (.str (py "unknown")), []⟩
  | some text =>
    match (splitlines text).foldlM ReceiptReader.line ReceiptReader.initial with
    | .error e => .error e
    | .ok s =>
      match s.version.filter truthy, s.sourceRevision.filter truthy with
      | some version, some sourceRevision => .ok ⟨version, sourceRevision, s.buildLimits⟩
      | _, _ => .error ⟨py "incomplete dependency receipt: " ++ file.path⟩

/-! ## What the writer looks up -/

/-- Source: `tools/hako.py`, `_cmake_cache_value`; the text of the cache, if there is one. -/
def cmakeCacheValue (cache : Option PyStr) (key : PyStr) : PyStr :=
  let value := ((cache.elim [] splitlines).find? fun line =>
    decide (key ++ py ":" <+: line) && decide (cp '=' ∈ line)).map fun line =>
      (line.dropWhile (· ≠ cp '=')).tail
  (value.filter (· ≠ [])).getD (py "unknown")

/-- What stands in an install directory: the two fixed paths, and the names of the files in `bin`
and `lib`. -/
structure InstallTree where
  cmakePackage : Bool
  fleetsConfig : Bool
  bin : List PyStr
  lib : List PyStr

/-- Source: `_bridge_artifacts`, the condition on the name of a file. -/
def isBridgeFile (name : PyStr) : Bool :=
  decide (py "hakoniwa-pdu-bridge" <:+: name) ||
    (decide (py "hakoniwa-pdu-" <+: name) && decide (py "bridge" <:+: name)) ||
    decide (py "hakoniwa_pdu_bridge" <:+: name) || decide (name = py "run-web-bridge.bash")

/-- Source: `tools/hako.py`, `_bridge_artifacts`: the paths with their kinds. -/
def bridgeArtifacts (tree : InstallTree) : List (PyStr × PyStr) :=
  let package := if tree.cmakePackage then
    [(py "lib/cmake/hakoniwa_pdu_bridge", py "cmake-package")] else []
  let config := if tree.fleetsConfig then
    [(py "share/hakoniwa-pdu-bridge/config/web_bridge_fleets", py "config-format")] else []
  let files := fun (names : List PyStr) (child kind : PyStr) =>
    (names.filter isBridgeFile).map fun name => (child ++ (cp '/' :: name), kind)
  (package ++ config ++ files tree.bin (py "bin") (py "executable") ++
    files tree.lib (py "lib") (py "library")).dedup.mergeSort fun a b => decide (a.1 ≤ b.1)

/-! ## Writing -/

/-- What `write_receipt` works on: the context of the build, the revision that `git` tells, the
cache of CMake, the receipts below the roots of the dependencies that are known, and the install
directory. -/
structure InstallContext where
  cfg : BuildConfig
  platformName : PyStr
  arch : PyStr
  revision : PyStr
  cmakeCache : Option PyStr
  endpointReceipt : Option ReceiptFile
  coreReceipt : Option ReceiptFile
  installDir : PyStr
  tree : InstallTree

/-- Source: `write_receipt`, the receipt of a dependency whose root is known. -/
def dependencyReceipt (id : PyStr) (file : Option ReceiptFile) :
    Except ConfigError (List (PyStr × DependencyReceipt)) :=
  file.elim (.ok []) fun file => (readDependencyReceipt file).map fun receipt => [(id, receipt)]

/-- Source: `write_receipt`, `dependencies`. -/
def InstallContext.dependencies (ctx : InstallContext) :
    Except ConfigError (List (PyStr × DependencyReceipt)) := do
  let endpoint ← dependencyReceipt (py "hakoniwa-pdu-endpoint") ctx.endpointReceipt
  let core ← dependencyReceipt (py "hakoniwa-core-pro") ctx.coreReceipt
  return endpoint ++ core

/-- `dependencies.get(id, {}).get("build_limits", {})`. -/
def limitsOf (deps : List (PyStr × DependencyReceipt)) (id : PyStr) : ManifestEntries :=
  (deps.lookup id).elim [] (·.buildLimits)

/-- Source: `write_receipt`, `build_limits`. -/
def passedLimits (deps : List (PyStr × DependencyReceipt)) : ManifestEntries :=
  if limitsOf deps (py "hakoniwa-core-pro") ≠ [] then limitsOf deps (py "hakoniwa-core-pro")
  else limitsOf deps (py "hakoniwa-pdu-endpoint")

/-- What `_yaml_scalar` writes for a value: `str` makes a text of a dictionary. Those that
`_parse_scalar` yields are empty. -/
def shownScalar : ManifestValue → ManifestScalar
  | .scalar value => value
  | .map _ => .str (py "\x7b\x7d")

/-- A line with a key and a scalar. -/
def scalarLine (indent : ℕ) (key : PyStr) (value : ManifestScalar) : PyStr :=
  blanks indent ++ (key ++ (py ": " ++ yamlScalar value))

/-- Source: `write_receipt`, the lines of build limits. -/
def limitLines (indent : ℕ) (limits : ManifestEntries) : List PyStr :=
  if limits = [] then [blanks indent ++ py "build_limits: \x7b\x7d"]
  else
    (blanks indent ++ py "build_limits:") ::
      limits.map fun entry => scalarLine (indent + 2) entry.1 (shownScalar entry.2)

/-- Source: `write_receipt`, the lines of the dependencies. -/
def dependencyLines (deps : List (PyStr × DependencyReceipt)) : List PyStr :=
  if deps = [] then [py "dependencies: \x7b\x7d"]
  else
    py "dependencies:" :: deps.flatMap fun dep =>
      [blanks 2 ++ (dep.1 ++ py ":"),
        scalarLine 4 (py "version") (shownScalar dep.2.version),
        scalarLine 4 (py "source_revision") (shownScalar dep.2.sourceRevision)] ++
      limitLines 4 dep.2.buildLimits

/-- Source: `write_receipt`, the lines of the artifacts. -/
def artifactLines (artifacts : List (PyStr × PyStr)) : List PyStr :=
  py "artifacts:" :: artifacts.flatMap fun artifact =>
    [scalarLine 2 (py "- path") (.str artifact.1), blanks 4 ++ (py "kind: " ++ artifact.2)]

/-- Source: `write_receipt`, the lines of a part with scalars. -/
def partLines (name : PyStr) (entries : List (PyStr × ManifestScalar)) : List PyStr :=
  (name ++ py ":") :: entries.map fun entry => scalarLine 2 entry.1 entry.2

/-- Source: `write_receipt`, the lines before the build limits. -/
def InstallContext.headLines (ctx : InstallContext) : List PyStr :=
  [py "schema_version: 1",
    py "component:",
    py "  id: hakoniwa-pdu-bridge-core",
    py "  version: 1.0.0",
    scalarLine 2 (py "source_revision") (.str ctx.revision)] ++
  partLines (py "platform")
    [(py "os", .str ctx.platformName),
     (py "architecture", .str ctx.arch),
     (py "toolchain", .str (cmakeCacheValue ctx.cmakeCache (py "CMAKE_CXX_COMPILER")))] ++
  partLines (py "install") [(py "prefix", .str ctx.installDir)] ++
  partLines (py "capabilities")
    [(py "library", .bool ctx.cfg.library),
     (py "standalone_app", .bool ctx.cfg.standaloneApp),
     (py "hakoniwa_app", .bool ctx.cfg.hakoniwaApp),
     (py "web_bridge", .bool ctx.cfg.hakoniwaApp),
     (py "monitor", .bool ctx.cfg.monitor),
     (py "web_bridge_fleets_config_format", .bool true),
     (py "cmake_package", .bool true)]

/-- Source: `write_receipt`, `lines`. -/
def InstallContext.receiptLines (ctx : InstallContext) (deps : List (PyStr × DependencyReceipt)) :
    List PyStr :=
  ctx.headLines ++
  limitLines 0 (passedLimits deps) ++
  dependencyLines deps ++
  artifactLines (bridgeArtifacts ctx.tree) ++
  [scalarLine 0 (py "resolved_manifest")
    (.str (py "share/hakoniwa/receipts/resolved/hakoniwa-pdu-bridge-core.yaml"))]

/-- What `write_receipt` can raise: its own errors, and that of `write_text` for a surrogate. -/
inductive ReceiptError
  | config (e : ConfigError)
  | unicodeEncodeError

/-- A code point that UTF-8 does not encode. -/
def isSurrogate (c : CodePoint) : Bool := decide (0xD800 ≤ c.val) && decide (c.val ≤ 0xDFFF)

/-- Source: `tools/hako.py`, `write_receipt`: the text of the receipt. -/
def InstallContext.writeReceipt (ctx : InstallContext) : Except ReceiptError PyStr :=
  if (bridgeArtifacts ctx.tree).any fun artifact => decide (artifact.2 = py "cmake-package") then
    match ctx.dependencies with
    | .error e => .error (.config e)
    | .ok deps =>
      let text := joinLines (ctx.receiptLines deps) ++ py "\n"
      if text.any isSurrogate then .error .unicodeEncodeError else .ok text
  else .error (.config
    ⟨py "installed Bridge CMake package not found under: " ++ ctx.installDir⟩)

end HakoniwaBridge
