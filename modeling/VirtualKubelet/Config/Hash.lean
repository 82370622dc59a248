import VirtualKubelet.Config.Encoding
import VirtualKubelet.Config.Engine

/-!
# The hash of an intent

`intent/hash.go`: the fields of a resolved intent that decide what is written
to the device, as one JSON text with the names of all maps in order, and the
digest of that text. The digest itself is a parameter.
-/

namespace VirtualKubelet.Config

open Go

variable [Encoding]

omit [Encoding] in
def joinCommas : List (List Char) → List Char
  | [] => []
  | [text] => text
  | text :: rest => text ++ ',' :: joinCommas rest

mutual

/-- `canonicalJSON`: maps are written here, name by name; what `normalise`
leaves as it is goes to `json.Marshal`. -/
def canonicalJSON : Value → Option (List Char)
  | .map fields => (canonicalFields fields).map fun fields =>
    '{' :: joinCommas ((sortFields fields).map fun f => Json.renderText f.1.toList ++ ':' :: f.2)
      ++ ['}']
  | .list items => (canonicalItems items).map fun items => '[' :: joinCommas items ++ [']']
  | v => (toJson v).map Json.render

def canonicalItems : List Value → Option (List (List Char))
  | [] => some []
  | v :: rest => do
      let v ← canonicalJSON v
      let rest ← canonicalItems rest
      pure (v :: rest)

def canonicalFields : List (String × Value) → Option (List (String × List Char))
  | [] => some []
  | (k, v) :: rest => do
      let v ← canonicalJSON v
      let rest ← canonicalFields rest
      pure ((k, v) :: rest)

end

omit [Encoding] in
def DriftPolicy.text : DriftPolicy → String
  | .revert => "revert"
  | .report => "report"
  | .pause => "pause"

omit [Encoding] in
def mapValue (m : Map Value) : Value :=
  .map ((m.keys.sort (· ≤ ·)).map fun k => (k, m.get .nil k))

structure DeviceIntent where
  deviceName : String
  resolved : ResolvedIntent

omit [Encoding] in
/-- The payload of `CanonicalHash`. A copy of no families is a nil slice. -/
def DeviceIntent.payload (i : DeviceIntent) : Value :=
  .map [
    ("deviceName", .text i.deviceName),
    ("managedFamilies",
      if i.resolved.managedFamilies = [] then .nil
      else .list (i.resolved.managedFamilies.map .text)),
    ("modelVersion", .text i.resolved.modelVersion),
    ("targetYangVersion", .text i.resolved.targetYangVersion),
    ("transactional", .bool i.resolved.transactional),
    ("writeStartup", .bool i.resolved.writeStartup),
    ("driftPolicy", .text i.resolved.driftPolicy.text),
    ("configuration", mapValue i.resolved.configuration),
    ("cliBlocks", .maps (i.resolved.cliBlocks.map fun b =>
      [("name", .text b.templateName), ("cli", .text b.cli)]))]

def canonicalHash (digest : List Char → String) (i : DeviceIntent) : Option String :=
  (canonicalJSON i.payload).map fun text => "sha256:" ++ digest text

end VirtualKubelet.Config
