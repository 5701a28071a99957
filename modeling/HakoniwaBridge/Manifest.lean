import HakoniwaBridge.Lib.NestedMap
import HakoniwaBridge.Lib.JsonString

/-!
# The build manifest

`load_simple_yaml` of `tools/hako.py` with `_strip_comment` and `_parse_scalar`. A manifest is the
text that `read_text` yields. A Python dictionary in the result is named by the keys that lead to it
from the root, so the stack holds such paths where the source holds references; the top of the
stack is its head.

* `stripComment`, `parseScalar` — the two helpers.
* `readLine`, `placeLine` — the body of the loop, up to the key and from the stack on.
* `loadSimpleYaml` — the loader.
* `bare_of_parseScalar` — a dictionary is empty when its line is read.
-/

namespace HakoniwaBridge

open Lib

/-- Source: `tools/hako.py`, `ConfigError`. -/
structure ConfigError where
  message : PyStr

/-- The scalars that `_parse_scalar` yields. -/
inductive ManifestScalar
  | none
  | bool (b : Bool)
  | int (n : ℤ)
  | str (s : PyStr)
  deriving DecidableEq

/-- A value of a manifest: a scalar, or a dictionary. -/
abbrev ManifestValue := NestedMap PyStr ManifestScalar

/-! ## Comments and scalars -/

/-- Source: `_strip_comment`, the loop, with its variables `quote` and `escaped`. -/
def stripCommentFrom (quote : Option CodePoint) (escaped : Bool) : PyStr → PyStr
  | [] => []
  | ch :: text =>
    if escaped then ch :: stripCommentFrom quote false text
    else if ch = cp '\\' ∧ quote ≠ none then ch :: stripCommentFrom quote true text
    else if ch = cp '\'' ∨ ch = cp '"' then
      let quote' := if quote = none then some ch else if quote = some ch then none else quote
      ch :: stripCommentFrom quote' false text
    else if ch = cp '#' ∧ quote = none then []
    else ch :: stripCommentFrom quote false text

/-- Source: `tools/hako.py`, `_strip_comment`. -/
def stripComment (text : PyStr) : PyStr :=
  PyStr.rstrip (stripCommentFrom none false text)

/-- Source: `tools/hako.py`, `_parse_scalar`. -/
def parseScalar (text : PyStr) : Except ConfigError ManifestValue :=
  let value := PyStr.strip text
  if value = [] then .ok (.map [])
  else
    let lowered := PyStr.lower value
    if lowered = py "true" then .ok (.scalar (.bool true))
    else if lowered = py "false" then .ok (.scalar (.bool false))
    else if lowered = py "null" ∨ lowered = py "~" then .ok (.scalar .none)
    else if value.head? = some (cp '"') ∨ value.head? = some (cp '\'') then
      if value.length < 2 ∨ value.getLast? ≠ value.head? then
        .error ⟨py "unterminated quoted scalar: " ++ value⟩
      else if value.head? = some (cp '"') then
        match JsonString.loads? value with
        | some s => .ok (.scalar (.str s))
        | none => .error ⟨py "invalid quoted scalar: " ++ value⟩
      else .ok (.scalar (.str (PyStr.replacePairs (cp '\'') value.tail.dropLast)))
    else
      match PyStr.int? value with
      | some n => .ok (.scalar (.int n))
      | none => .ok (.scalar (.str value))

/-! ## Lines -/

/-- A line with a key: its indentation, the key, and the text after the colon. -/
structure LineHead where
  indent : ℕ
  key : PyStr
  rawValue : PyStr

/-- Source: `load_simple_yaml`, the body of the loop up to the check for an empty key; none for a
blank line. The error is the message behind the place. -/
def readLine (raw : PyStr) : Except PyStr (Option LineHead) :=
  if cp '\t' ∈ raw then .error (py "tabs are not allowed")
  else
    let line := stripComment raw
    if PyStr.strip line = [] then .ok none
    else
      let stripped := PyStr.lstripBlanks line
      if stripped.head? = some (cp '-') then
        .error (py "sequences are not supported in build manifest v1")
      else if cp ':' ∉ stripped then .error (py "expected 'key: value'")
      else
        let key := PyStr.strip (stripped.takeWhile (· ≠ cp ':'))
        if key = [] then .error (py "empty key")
        else
          .ok (some
            { indent := line.length - stripped.length
              key := key
              rawValue := (stripped.dropWhile (· ≠ cp ':')).tail })

/-! ## The loader -/

/-- What the loop of `load_simple_yaml` holds: the root and the stack of open dictionaries. -/
structure Loader where
  root : ManifestValue
  stack : List (ℤ × List PyStr)

/-- Source: `load_simple_yaml`, before the loop. -/
def Loader.initial : Loader := ⟨.map [], [(-1, [])]⟩

/-- An error at a line. -/
def located (path : PyStr) (lineno : ℕ) (message : PyStr) : ConfigError :=
  ⟨path ++ py ":" ++ py (toString lineno) ++ py ": " ++ message⟩

/-- Source: `load_simple_yaml`, the last step of the loop: only a dictionary goes on the stack. -/
def pushParsed (stack : List (ℤ × List PyStr)) (entry : ℤ × List PyStr) :
    ManifestValue → List (ℤ × List PyStr)
  | .map _ => entry :: stack
  | .scalar _ => stack

/-- Source: `load_simple_yaml`, the body of the loop from the stack on. -/
def placeLine (path : PyStr) (lineno : ℕ) (line : LineHead) (s : Loader) :
    Except ConfigError Loader :=
  match s.stack.dropWhile fun entry => decide ((line.indent : ℤ) ≤ entry.1) with
  | [] => .error (located path lineno (py "invalid indentation"))
  | (indent, parent) :: below =>
    if (s.root.look (parent ++ [line.key])).isSome then
      .error (located path lineno (py "duplicate key: " ++ line.key))
    else
      match parseScalar line.rawValue with
      | .error e => .error e
      | .ok parsed =>
        .ok
          { root := s.root.assign parent line.key parsed
            stack :=
              pushParsed ((indent, parent) :: below) (line.indent, parent ++ [line.key]) parsed }

/-- Source: `load_simple_yaml`, the loop over the lines from number `lineno` on. -/
def loadLines (path : PyStr) : ℕ → List PyStr → Loader → Except ConfigError Loader
  | _, [], s => .ok s
  | lineno, raw :: raws, s =>
    match readLine raw with
    | .error message => .error (located path lineno message)
    | .ok none => loadLines path (lineno + 1) raws s
    | .ok (some line) =>
      match placeLine path lineno line s with
      | .error e => .error e
      | .ok s => loadLines path (lineno + 1) raws s

/-- Source: `tools/hako.py`, `load_simple_yaml`, for the text of the file at `path`. -/
def loadSimpleYaml (path text : PyStr) : Except ConfigError ManifestValue :=
  (loadLines path 1 (PyStr.splitlines text) Loader.initial).map (·.root)

/-- A parsed value has no keys yet. -/
theorem bare_of_parseScalar {text : PyStr} {parsed : ManifestValue}
    (h : parseScalar text = .ok parsed) : parsed.Bare := by
  unfold parseScalar at h
  dsimp only at h
  split_ifs at h
  · obtain rfl := Except.ok.inj h
    rfl
  all_goals first
    | cases h <;> exact trivial
    | (split at h <;> cases h <;> exact trivial)

end HakoniwaBridge
