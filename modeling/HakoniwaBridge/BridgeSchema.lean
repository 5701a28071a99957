import HakoniwaBridge.JsonSchema

/-!
# The schema of the bridge configuration

`bridge-schema.json`, keyword by keyword. Two notions of a number are left open: `integral` reads a
number with a zero fraction, and `number` compares two numbers (see `JsonSchema` and `Json.same`).

An identifier is a letter followed by letters, digits, `_`, `-` and, outside the names of policies
and key groups, `.`.
-/

namespace HakoniwaBridge

open Schema

namespace BridgeSchema

variable (integral : String → Option Int) (number : Json → Json → Bool)

/-- A letter, and then letters, digits and characters of `extra`. -/
def isIdentifier (extra : List Char) (s : String) : Bool :=
  match s.toList with
  | [] => false
  | c :: cs => c.isAlpha && cs.all fun c => c.isAlphanum || decide (c ∈ extra)

/-- Source: `bridge-schema.json`, the pattern `^[A-Za-z][A-Za-z0-9_\-]*$`. -/
def isKey : String → Bool := isIdentifier ['_', '-']

/-- Source: `bridge-schema.json`, the pattern `^[A-Za-z][A-Za-z0-9_\-\.]*$`. -/
def isId : String → Bool := isIdentifier ['_', '-', '.']

/-- Source: `bridge-schema.json`, `$defs/id`. -/
def id : Schema := allOf [string, minLength 1, pattern isId]

/-- Source: `bridge-schema.json`, `$defs/node`. -/
def node : Schema := record ["id"] [("id", id)]

/-- Source: `bridge-schema.json`, `$defs/wireLink`. -/
def wireLink : Schema := record ["from", "to"] [("from", id), ("to", id)]

/-- Source: `bridge-schema.json`, `$defs/pduKey`. -/
def pduKey : Schema :=
  record ["id", "robot_name", "pdu_name"]
    [("id", id), ("robot_name", nonempty), ("pdu_name", nonempty)]

/-- Source: `bridge-schema.json`, `$defs/transferPolicy`. -/
def transferPolicy : Schema :=
  allOf
    [record ["type"]
      [("type", allOf [string, enum ["immediate", "throttle", "ticker"]]),
        ("atomic", boolean),
        ("intervalMs", integerFrom integral 1)],
      ifThen (properties [("type", const "immediate")]) (not (required ["intervalMs"])),
      ifThen (properties [("type", enum ["throttle", "ticker"])]) (required ["intervalMs"]),
      ifThen (properties [("type", enum ["throttle", "ticker"])]) (not (required ["atomic"]))]

/-- Source: `bridge-schema.json`, `$defs/endpointRef`. -/
def endpointRef : Schema := record ["endpointId"] [("endpointId", id)]

/-- Source: `bridge-schema.json`, `$defs/transferPdu`. -/
def transferPdu : Schema :=
  record ["pduKeyGroupId", "policyId"] [("pduKeyGroupId", id), ("policyId", id)]

/-- Source: `bridge-schema.json`, `$defs/connection`. -/
def connection : Schema :=
  record ["id", "nodeId", "source", "destinations", "transferPdus"]
    [("id", id),
      ("nodeId", id),
      ("source", endpointRef),
      ("destinations", arrayFrom 1 endpointRef),
      ("transferPdus", arrayFrom 1 transferPdu)]

/-- Source: `bridge-schema.json`. -/
def schema : Schema :=
  record ["version", "transferPolicies", "nodes", "pduKeyGroups", "connections"]
    [("version", allOf [string, const "2.0.0"]),
      ("transferPolicies", mapOf isKey (transferPolicy integral)),
      ("nodes", allOf [arrayFrom 1 node, uniqueItems number]),
      ("endpoints_config_path", nonempty),
      ("wireLinks", arrayFrom 0 wireLink),
      ("pduKeyGroups", mapOf isKey (arrayFrom 1 pduKey)),
      ("connections", arrayFrom 1 connection)]

end BridgeSchema

end HakoniwaBridge
