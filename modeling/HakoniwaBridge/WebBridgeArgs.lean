import HakoniwaBridge.Lib.PosixPath
import Mathlib.Algebra.Group.Nat.Defs
import Mathlib.Data.List.Infix
import Mathlib.Data.List.Sort
import Mathlib.Tactic.Cases

/-!
# The command line of the web bridge

`parse_args` of `web_bridge_daemon.cpp` with the functions it calls. The file system is read and
not changed: a `FileSystem` answers `current_path`, `exists`, `is_directory`, and lists the regular
files of a directory.

* `parseArgs` — the loop over the arguments, as the source has it.
* `WebBridgeOption` — one option with its value; `render` writes it as arguments, `apply` is what it
  does to the options, `error?` what is wrong with it.
* `parseArgsFrom_render` — **one turn of the loop** reads one option;
  `parseArgsFrom_flatMap_render` — a sequence of options is read in its order.
* `exists_render_of_parseArgsFrom` — nothing else is accepted.
-/

namespace HakoniwaBridge

open Lib

/-- What the daemon asks the file system; `regularFiles` holds the names of the regular files that
a `directory_iterator` yields. -/
structure FileSystem where
  currentPath : String
  «exists» : String → Bool
  isDirectory : String → Bool
  regularFiles : String → List String

/-- Source: `web_bridge_daemon.cpp`, `WebBridgeDaemonOptions`. -/
structure WebBridgeDaemonOptions where
  configRootPath : String := ""
  bridgeConfigPath : String := ""
  endpointContainerPath : String := ""
  assetConfigPath : String := ""
  ondemandMuxConfigPath : String := ""
  nodeName : String := ""
  assetName : String := ""
  deltaTimeStepUsec : UInt64 := 20000
  enableRealSleep : Bool := true
  enableOndemand : Bool := false
  deriving DecidableEq

/-! ## Paths -/

/-- Source: `fs::path(directory) / name`. -/
def joinPath (directory name : String) : String :=
  String.ofList (PosixPath.append directory.toList name.toList)

/-- Source: `path.lexically_normal().string()`. -/
def lexicallyNormal (path : String) : String :=
  String.ofList (PosixPath.lexicallyNormal path.toList)

/-- Source: `web_bridge_daemon.cpp`, `make_default_config_path`. -/
def makeDefaultConfigPath (fs : FileSystem) (relativePath : String) : String :=
  lexicallyNormal (joinPath fs.currentPath relativePath)

/-- Source: `web_bridge_daemon.cpp`, `make_config_rooted_path`. -/
def makeConfigRootedPath (configRootPath relativePath : String) : String :=
  lexicallyNormal (joinPath configRootPath relativePath)

/-- Source: `resolve_default_asset_config_path`, `preferred`. -/
def preferredAssetConfigs : List String := ["drone-pdudef.json", "drone-visual-state.json"]

/-- Source: `resolve_default_asset_config_path`, the two conditions on a file name. -/
def isAssetCandidate (filename : String) : Bool :=
  PosixPath.extension filename.toList = ".json".toList ∧
    ¬ "pdutypes".toList <:+: filename.toList

/-- Source: `web_bridge_daemon.cpp`, `resolve_default_asset_config_path`. The candidates lie in one
directory, so their order is that of their names. -/
def resolveDefaultAssetConfigPath (fs : FileSystem) (configRootPath : String) : String :=
  let pduDir := joinPath configRootPath "pdu"
  match preferredAssetConfigs.find? fun filename => fs.exists (joinPath pduDir filename) with
  | some filename => lexicallyNormal (joinPath pduDir filename)
  | none =>
    let candidates :=
      if fs.exists pduDir && fs.isDirectory pduDir then
        ((fs.regularFiles pduDir).filter isAssetCandidate).mergeSort fun a b => decide (¬ b < a)
      else []
    match candidates.head? with
    | some filename => lexicallyNormal (joinPath pduDir filename)
    | none => makeConfigRootedPath configRootPath "pdu/drone-pdudef.json"

/-- Source: `web_bridge_daemon.cpp`, `apply_config_root`. -/
def applyConfigRoot (fs : FileSystem) (options : WebBridgeDaemonOptions) :
    WebBridgeDaemonOptions :=
  { options with
    bridgeConfigPath := makeConfigRootedPath options.configRootPath "bridge/bridge.json"
    endpointContainerPath :=
      makeConfigRootedPath options.configRootPath "endpoint/endpoint_container.json"
    assetConfigPath := resolveDefaultAssetConfigPath fs options.configRootPath
    ondemandMuxConfigPath :=
      makeConfigRootedPath options.configRootPath "monitor/mux_endpoint.json" }

/-! ## Numbers -/

/-- The number that decimal digits denote. -/
def numberOf (digits : List Char) : Nat :=
  digits.foldl (fun n digit => 10 * n + (digit.toNat - '0'.toNat)) 0

/-- Source: `std::from_chars` on a `uint64_t`, base 10: the longest prefix of digits is read. The
result is the number with what was not read, or none if there is no digit or the number does not
fit. -/
def fromChars (value : String) : Option (UInt64 × String) :=
  let digits := value.toList.takeWhile Char.isDigit
  if digits = [] then none
  else if numberOf digits < 2 ^ 64 then
    some (UInt64.ofNat (numberOf digits), String.ofList (value.toList.dropWhile Char.isDigit))
  else none

/-- Source: `web_bridge_daemon.cpp`, `parse_uint64_arg`. What `from_chars` did not read is not
looked at. -/
def parseUint64Arg (value : String) : Option UInt64 :=
  (fromChars value).map (·.1)

/-! ## The loop over the arguments -/

/-- Source: `parse_args`, before the loop. -/
def initialOptions (fs : FileSystem) : WebBridgeDaemonOptions :=
  { applyConfigRoot fs { configRootPath := makeDefaultConfigPath fs "config/web_bridge" } with
    nodeName := "web_bridge_node1"
    assetName := "WebBridge" }

/-- Source: `parse_args`, after the loop. -/
def checkOptions (options : WebBridgeDaemonOptions) : Except String WebBridgeDaemonOptions :=
  if options.enableOndemand = true ∧ options.ondemandMuxConfigPath = "" then
    .error "--enable-ondemand requires --ondemand-mux-config"
  else .ok options

/-- Source: `parse_args`, the loop and what follows it, for the arguments that are left. The error
is the message on `cerr`. -/
def parseArgsFrom (fs : FileSystem) :
    List String → WebBridgeDaemonOptions → Except String WebBridgeDaemonOptions
  | [], options => checkOptions options
  | arg :: rest, options =>
    if arg = "--config-root" then
      match rest with
      | [] => .error "--config-root requires a path"
      | value :: rest =>
        parseArgsFrom fs rest (applyConfigRoot fs { options with configRootPath := value })
    else if arg = "--bridge-config" then
      match rest with
      | [] => .error "--bridge-config requires a path"
      | value :: rest => parseArgsFrom fs rest { options with bridgeConfigPath := value }
    else if arg = "--endpoint-container" then
      match rest with
      | [] => .error "--endpoint-container requires a path"
      | value :: rest => parseArgsFrom fs rest { options with endpointContainerPath := value }
    else if arg = "--asset-config" then
      match rest with
      | [] => .error "--asset-config requires a path"
      | value :: rest => parseArgsFrom fs rest { options with assetConfigPath := value }
    else if arg = "--enable-ondemand" then
      parseArgsFrom fs rest { options with enableOndemand := true }
    else if arg = "--ondemand-mux-config" then
      match rest with
      | [] => .error "--ondemand-mux-config requires a path"
      | value :: rest => parseArgsFrom fs rest { options with ondemandMuxConfigPath := value }
    else if arg = "--node-name" then
      match rest with
      | [] => .error "--node-name requires a value"
      | value :: rest => parseArgsFrom fs rest { options with nodeName := value }
    else if arg = "--asset-name" then
      match rest with
      | [] => .error "--asset-name requires a value"
      | value :: rest => parseArgsFrom fs rest { options with assetName := value }
    else if arg = "--delta-time-step-usec" then
      match rest with
      | [] => .error "--delta-time-step-usec requires a value"
      | value :: rest =>
        match parseUint64Arg value with
        | none => .error ("Invalid delta_time_step_usec: " ++ value)
        | some usec => parseArgsFrom fs rest { options with deltaTimeStepUsec := usec }
    else if arg = "--disable-real-sleep" then
      parseArgsFrom fs rest { options with enableRealSleep := false }
    else .error ("Unknown argument: " ++ arg)

/-- Source: `web_bridge_daemon.cpp`, `parse_args`; the first argument is the program name. -/
def parseArgs (fs : FileSystem) (argv : List String) : Except String WebBridgeDaemonOptions :=
  parseArgsFrom fs (argv.drop 1) (initialOptions fs)

/-! ## Options -/

/-- A documented option with its value. -/
inductive WebBridgeOption
  | configRoot (path : String)
  | bridgeConfig (path : String)
  | endpointContainer (path : String)
  | assetConfig (path : String)
  | enableOndemand
  | ondemandMuxConfig (path : String)
  | nodeName (name : String)
  | assetName (name : String)
  | deltaTimeStepUsec (value : String)
  | disableRealSleep
  deriving DecidableEq

namespace WebBridgeOption

/-- Source: `print_usage`, the name of an option. -/
def name : WebBridgeOption → String
  | configRoot _ => "--config-root"
  | bridgeConfig _ => "--bridge-config"
  | endpointContainer _ => "--endpoint-container"
  | assetConfig _ => "--asset-config"
  | enableOndemand => "--enable-ondemand"
  | ondemandMuxConfig _ => "--ondemand-mux-config"
  | nodeName _ => "--node-name"
  | assetName _ => "--asset-name"
  | deltaTimeStepUsec _ => "--delta-time-step-usec"
  | disableRealSleep => "--disable-real-sleep"

/-- The value of an option that takes one. -/
def value? : WebBridgeOption → Option String
  | configRoot value | bridgeConfig value | endpointContainer value | assetConfig value
  | ondemandMuxConfig value | nodeName value | assetName value | deltaTimeStepUsec value =>
    some value
  | enableOndemand | disableRealSleep => none

/-- The arguments that make up an option: its name, and right after it its value. -/
def render (o : WebBridgeOption) : List String := o.name :: o.value?.toList

/-- What is wrong with the value of an option, if anything is. -/
def error? : WebBridgeOption → Option String
  | deltaTimeStepUsec value =>
    if parseUint64Arg value = none then some ("Invalid delta_time_step_usec: " ++ value) else none
  | _ => none

/-- What an option does to the options read so far. -/
def apply (fs : FileSystem) (options : WebBridgeDaemonOptions) :
    WebBridgeOption → WebBridgeDaemonOptions
  | configRoot path => applyConfigRoot fs { options with configRootPath := path }
  | bridgeConfig path => { options with bridgeConfigPath := path }
  | endpointContainer path => { options with endpointContainerPath := path }
  | assetConfig path => { options with assetConfigPath := path }
  | enableOndemand => { options with enableOndemand := true }
  | ondemandMuxConfig path => { options with ondemandMuxConfigPath := path }
  | nodeName name => { options with nodeName := name }
  | assetName name => { options with assetName := name }
  | deltaTimeStepUsec value =>
    { options with deltaTimeStepUsec := (parseUint64Arg value).getD options.deltaTimeStepUsec }
  | disableRealSleep => { options with enableRealSleep := false }

end WebBridgeOption

/-- The options after a list of options was read. -/
def applyAll (fs : FileSystem) (os : List WebBridgeOption) (options : WebBridgeDaemonOptions) :
    WebBridgeDaemonOptions :=
  os.foldl (WebBridgeOption.apply fs) options

variable {fs : FileSystem}

/-- **One turn of the loop** reads one option. -/
theorem parseArgsFrom_render (o : WebBridgeOption) (rest : List String)
    (options : WebBridgeDaemonOptions) :
    parseArgsFrom fs (o.render ++ rest) options =
      match o.error? with
      | some message => .error message
      | none => parseArgsFrom fs rest (o.apply fs options) := by
  cases o with
  | deltaTimeStepUsec value =>
    cases hparse : parseUint64Arg value <;>
      simp [WebBridgeOption.render, WebBridgeOption.name, WebBridgeOption.value?,
        WebBridgeOption.error?, WebBridgeOption.apply, parseArgsFrom, hparse]
  | enableOndemand | disableRealSleep =>
    conv_lhs => unfold parseArgsFrom
    simp [WebBridgeOption.render, WebBridgeOption.name, WebBridgeOption.value?,
      WebBridgeOption.error?, WebBridgeOption.apply]
  | _ =>
    simp [WebBridgeOption.render, WebBridgeOption.name, WebBridgeOption.value?,
      WebBridgeOption.error?, WebBridgeOption.apply, parseArgsFrom]

/-- A list of options is read in its order, up to the first one with an error. -/
theorem parseArgsFrom_flatMap_render (os : List WebBridgeOption)
    (options : WebBridgeDaemonOptions) :
    parseArgsFrom fs (os.flatMap (·.render)) options =
      match os.findSome? (·.error?) with
      | some message => .error message
      | none => checkOptions (applyAll fs os options) := by
  induction os generalizing options with
  | nil => rfl
  | cons o os ih =>
    rw [List.flatMap_cons, parseArgsFrom_render, List.findSome?_cons]
    cases o.error? with
    | some message => rfl
    | none => exact ih (o.apply fs options)

/-- Only a sequence of options is accepted. -/
theorem exists_render_of_parseArgsFrom {args : List String}
    {options result : WebBridgeDaemonOptions} (h : parseArgsFrom fs args options = .ok result) :
    ∃ os : List WebBridgeOption, args = os.flatMap (·.render) := by
  have hcons : ∀ (o : WebBridgeOption) (rest : List String),
      (∃ os : List WebBridgeOption, rest = os.flatMap (·.render)) →
      ∃ os : List WebBridgeOption, o.render ++ rest = os.flatMap (·.render) := by
    rintro o rest ⟨os, rfl⟩
    exact ⟨o :: os, rfl⟩
  fun_induction parseArgsFrom fs args options with
  | case1 => exact ⟨[], rfl⟩
  | case3 options value rest ih => exact hcons (.configRoot value) rest (ih h)
  | case5 options value rest _ ih => exact hcons (.bridgeConfig value) rest (ih h)
  | case7 options value rest _ _ ih => exact hcons (.endpointContainer value) rest (ih h)
  | case9 options value rest _ _ _ ih => exact hcons (.assetConfig value) rest (ih h)
  | case10 rest options _ _ _ _ ih => exact hcons .enableOndemand rest (ih h)
  | case12 options value rest _ _ _ _ _ ih => exact hcons (.ondemandMuxConfig value) rest (ih h)
  | case14 options value rest _ _ _ _ _ _ ih => exact hcons (.nodeName value) rest (ih h)
  | case16 options value rest _ _ _ _ _ _ _ ih => exact hcons (.assetName value) rest (ih h)
  | case19 options value rest _ _ _ _ _ _ _ _ usec hparse ih =>
    exact hcons (.deltaTimeStepUsec value) rest (ih h)
  | case20 rest options _ _ _ _ _ _ _ _ _ ih => exact hcons .disableRealSleep rest (ih h)
  | _ => cases h

end HakoniwaBridge
