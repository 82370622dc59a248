import VirtualKubelet.Config.Transport
import VirtualKubelet.Go.Map
import VirtualKubelet.Go.Number

/-!
# The writers that prune

The writers whose entries have a key and which can delete those an intent no
longer lists: the generic writer of keyed lists, the one whose entries hold
keyed lists of their own, and the handwritten ones for VLANs, DHCP pools and
the VLANs of NX-OS. Of each, the two methods the engine scopes a prune with
are here: `KeysOf`, the keys of a block or of what was observed, and
`PruneDiff`, the operations that delete what is observed and not desired.

The element paths, envelope keys and key fields of a writer depend on the
release of the device; a writer here has them already resolved.
-/

namespace VirtualKubelet.Config

open Go

/-- How values are printed, floats converted and bodies encoded. -/
class Formatting where
  /-- The verb `%T`. -/
  typeName : Value → String
  /-- The verb `%v`. -/
  sprint : Value → String
  /-- The verb `%g`. -/
  formatFloat : UInt64 → String
  /-- `int(f)`. -/
  truncate : UInt64 → Int64
  /-- `f == math.Trunc(f) && !math.IsInf(f, 0)`. -/
  integral : UInt64 → Bool
  /-- `f == float64(int(f))`. -/
  fitsInt : UInt64 → Bool
  marshal : Value → Except Failure Raw

export Formatting (typeName sprint formatFloat truncate integral fitsInt marshal)

def sortStrings (keys : List String) : List String := keys.insertionSort (· ≤ ·)

def sortInts (ids : List Int64) : List Int64 := ids.insertionSort (·.toInt ≤ ·.toInt)

variable [Formatting]

/-! ## Shapes -/

def coerceItems (origin : String) : Nat → List Value → Except Failure (List Fields)
  | _, [] => .ok []
  | i, .map m :: rest => do
      let out ← coerceItems origin (i + 1) rest
      pure (m :: out)
  | i, item :: _ => .error {
      message := origin ++ "[" ++ toString i ++ "]: element is " ++ typeName item ++ ", want map" }

def coerceList (v : Value) (origin : String) : Except Failure (List Fields) :=
  match v with
  | .nil => .ok []
  | .maps items => .ok items
  | .list items => coerceItems origin 0 items
  | v => .error { message := origin ++ ": list is " ++ typeName v ++ ", want slice" }

/-- A family's block, which holds its list under a name, or the bare list. -/
def coerceBlock (innerKey : String) (v : Value) (origin : String) : Except Failure (List Fields) :=
  match v with
  | .map m =>
    match Fields.find m innerKey with
    | some inner => coerceList inner (origin ++ "." ++ innerKey)
    | none => .ok []
  | v => coerceList v origin

def entryKey (e : Fields) (field : String) : Except Failure String :=
  match e.find field with
  | none => .error { message := "entry missing " ++ quote field }
  | some (.text s) => .ok s
  | some (.bool b) => .ok (if b then "true" else "false")
  | some (.float bits) => .ok (formatFloat bits)
  | some (.int n) => .ok (decimal n.toInt)
  | some raw => .error {
      message := "entry key " ++ sprint raw ++ " has unsupported type " ++ typeName raw }

/-! ## Paths -/

section

omit [Formatting]

def stripModule (segment : List Char) : List Char :=
  match segment.span (· ≠ ':') with
  | (_ :: _, ':' :: rest) => rest
  | _ => segment

def splitYANGPathSegments (p : String) : List String :=
  let path := match p.toList with
    | '/' :: rest => rest
    | path => path
  ((path.splitOn '/').filter (!·.isEmpty)).map fun segment => String.ofList (stripModule segment)

def pathSpecForKeyedListEntry (yangPath keyField key : String) : List PathElement :=
  match (splitYANGPathSegments yangPath).reverse with
  | [] => []
  | last :: before =>
    before.reverse.map (fun name => { name := name }) ++ [{ name := last, keys := [(keyField, key)] }]

def deleteEntry (yangPath keyField key : String) : Op where
  verb := .delete
  path := yangPath ++ "=" ++ key
  pathSpec := pathSpecForKeyedListEntry yangPath keyField key

end

/-! ## Keyed lists -/

structure KeyedListWriter where
  family : String
  yangPath : String
  envelopeKey : String := ""
  innerKey : String
  keyField : String
  managedLeaves : List String := []

namespace KeyedListWriter

/-- The keys of the entries that have one. -/
def keysIn (w : KeyedListWriter) (list : List Fields) : List String :=
  list.filterMap fun e => (entryKey e w.keyField).toOption

def keysOf (w : KeyedListWriter) (v : Value) : List String :=
  match coerceBlock w.innerKey v "keysOf" with
  | .error _ => []
  | .ok list => sortStrings (w.keysIn list)

/-- The keys of the desired entries, all of which must have one. -/
def desiredKeys (w : KeyedListWriter) : List Fields → Except Failure (List String)
  | [] => .ok []
  | e :: rest =>
    match entryKey e w.keyField with
    | .error err => .error (err.wrap (w.family ++ ": desired: "))
    | .ok k => do
        let keys ← w.desiredKeys rest
        pure (k :: keys)

def deleteOp (w : KeyedListWriter) (key : String) : Op := deleteEntry w.yangPath w.keyField key

def pruneDiff (w : KeyedListWriter) (desired observed : Value) : Except Failure (List Op) := do
  let desiredList ← coerceBlock w.innerKey desired "desired"
  let observedList ← coerceList observed "observed"
  let want ← w.desiredKeys desiredList
  let orphans := (w.keysIn observedList).filter fun k => !want.contains k
  pure ((sortStrings orphans).map w.deleteOp)

end KeyedListWriter

/-! ## Keyed lists in keyed lists -/

structure NestedListSpec where
  leaf : String
  keyField : String
  yangInner : String := ""

structure NestedKeyedListWriter where
  base : KeyedListWriter
  specs : List NestedListSpec

namespace NestedKeyedListWriter

omit [Formatting] in
def coerceInner (v : Value) (spec : NestedListSpec) : List Value :=
  match v with
  | .list items => items
  | .map m =>
    let candidate (name : String) : Option (List Value) :=
      if name = "" then none
      else
        match Fields.find m name with
        | some (.list items) => some items
        | _ => none
    ((candidate spec.yangInner).orElse fun _ => candidate spec.leaf).getD []
  | _ => []

/-- The inner entries by the text of their key; a later one replaces an
earlier. -/
def indexNested (v : Value) (spec : NestedListSpec) : Map Fields :=
  (coerceInner v spec).foldl (fun out e =>
    match e with
    | .map m =>
      match Fields.find m spec.keyField with
      | some key => out.set (sprint key) m
      | none => out
    | _ => out) ∅

section

omit [Formatting]

def innerHasOrphans (want got : Map Fields) : Bool := !(decide (got.keys ⊆ want.keys))

def desiredInnerSlice (m : Map Fields) : Value :=
  .list ((m.keys.sort (· ≤ ·)).map fun k => .map (m.get [] k))

/-- `projectManagedLeavesExcept` with no exception. -/
def projectManagedLeaves (leaves : List String) (e : Fields) : Fields :=
  leaves.filterMap fun leaf => (e.find leaf).map fun v => (leaf, v)

def put (m : Fields) (name : String) (v : Value) : Fields :=
  (name, v) :: m.filter fun field => field.1 ≠ name

end

/-- The replacement of one entry that has inner entries the intent lacks, or
none when it has not. -/
def replaceInner (w : NestedKeyedListWriter) (key : String) (desired observed : Fields) :
    Except Failure (Option Op) :=
  let body := projectManagedLeaves w.base.managedLeaves desired
  let body := match desired.find w.base.keyField with
    | some kv => put body w.base.keyField kv
    | none => body
  let orphaned := w.specs.filter fun spec =>
    innerHasOrphans (indexNested (desired.get spec.leaf) spec)
      (indexNested (observed.get spec.leaf) spec)
  if orphaned.isEmpty then .ok none
  else do
    let body := orphaned.foldl (fun body spec =>
      put body spec.leaf (desiredInnerSlice (indexNested (desired.get spec.leaf) spec))) body
    let payload ← marshal (.map [(w.base.envelopeKey, .list [.map body])])
    pure (some { w.base.deleteOp key with verb := .replace, body := payload })

def entriesByKey (w : NestedKeyedListWriter) (list : List Fields) : Map Fields :=
  list.foldl (fun out e =>
    match entryKey e w.base.keyField with
    | .ok k => out.set k e
    | .error _ => out) ∅

def innerOps (w : NestedKeyedListWriter) (want got : Map Fields) :
    List String → Except Failure (List Op)
  | [] => .ok []
  | k :: rest =>
    match want.find k with
    | none => w.innerOps want got rest
    | some desired => do
        let op ← w.replaceInner k desired (got.get [] k)
        let ops ← w.innerOps want got rest
        pure (op.toList ++ ops)

def keysOf (w : NestedKeyedListWriter) (v : Value) : List String := w.base.keysOf v

def pruneDiff (w : NestedKeyedListWriter) (desired observed : Value) : Except Failure (List Op) :=
  if w.specs.isEmpty then w.base.pruneDiff desired observed
  else do
    let outer ← w.base.pruneDiff desired observed
    let desiredList ← coerceBlock w.base.innerKey desired "desired"
    let observedList ← coerceList observed "observed"
    let _ ← w.base.desiredKeys desiredList
    let got := w.entriesByKey observedList
    let inner ← w.innerOps (w.entriesByKey desiredList) got (got.keys.sort (· ≤ ·))
    pure (outer ++ inner)

end NestedKeyedListWriter

/-! ## VLANs -/

structure VLANWriter where
  path : String
  keyField : String

namespace VLANWriter

def vlanID (e : Fields) : Except Failure Int64 :=
  match e.find "id" with
  | none => .error { message := "vlan entry missing 'id'" }
  | some (.int n) => .ok n
  | some (.float bits) => .ok (truncate bits)
  | some (.text s) =>
    match scanInt s with
    | some id => .ok id
    | none => .error { message := "vlan id " ++ quote s ++ " is not numeric" }
  | some raw => .error {
      message := "vlan id " ++ sprint raw ++ " has unsupported type " ++ typeName raw }

def coerceVLANBlock (v : Value) (origin : String) : Except Failure (List Fields) :=
  coerceBlock "vlans" v origin

def keysOf (v : Value) : List String :=
  match coerceVLANBlock v "keysOf" with
  | .error _ => []
  | .ok list => sortStrings (list.filterMap fun e => (vlanID e).toOption.map fun id => decimal id.toInt)

def idsIn (origin : String) : List Fields → Except Failure (List Int64)
  | [] => .ok []
  | e :: rest =>
    match vlanID e with
    | .error err => .error (err.wrap (origin ++ ": "))
    | .ok id => do
        let ids ← idsIn origin rest
        pure (id :: ids)

omit [Formatting] in
def deleteOp (w : VLANWriter) (key : String) : Op := deleteEntry w.path w.keyField key

def pruneDiff (w : VLANWriter) (desired observed : Value) : Except Failure (List Op) := do
  let desiredList ← coerceVLANBlock desired "desired"
  let observedList ← coerceList observed "observed"
  let want ← idsIn "desired" desiredList
  let got ← idsIn "observed" observedList
  let orphans := got.filter fun id => !want.contains id
  pure ((sortInts orphans).map fun id => w.deleteOp (decimal id.toInt))

end VLANWriter

/-! ## DHCP pools -/

structure DHCPWriter where
  envelopeKey : String
  keyField : String

namespace DHCPWriter

def dhcpParentPath : String := "/Cisco-IOS-XE-native:native/ip/dhcp"

def sprintPoolName : Value → String
  | .text s => s
  | .int n => decimal n.toInt
  | .float bits => if integral bits then decimal (truncate bits).toInt else sprint (.float bits)
  | v => sprint v

def coerceDHCPBlock (v : Value) (origin : String) : Except Failure (List Fields) :=
  coerceBlock "pools" v origin

def namesIn (list : List Fields) : List String :=
  list.filterMap fun p =>
    match p.find "name" with
    | none => none
    | some raw => if sprintPoolName raw = "" then none else some (sprintPoolName raw)

def keysOf (v : Value) : List String :=
  match coerceDHCPBlock v "keysOf" with
  | .error _ => []
  | .ok list => sortStrings (namesIn list)

omit [Formatting] in
def deleteOp (w : DHCPWriter) (key : String) : Op :=
  deleteEntry (dhcpParentPath ++ "/" ++ w.envelopeKey) w.keyField key

def pruneDiff (w : DHCPWriter) (desired observed : Value) : Except Failure (List Op) := do
  let desiredPools ← coerceDHCPBlock desired "desired"
  let observedPools ← coerceList observed "observed"
  let want := namesIn desiredPools
  let orphans := (namesIn observedPools).filter fun name => !want.contains name
  pure ((sortStrings orphans).map w.deleteOp)

end DHCPWriter

/-! ## The VLANs of NX-OS -/

namespace NXOS

omit [Formatting] in
theorem find_sizeOf {m : Fields} (h : m.find name = some v) : sizeOf v < sizeOf m := by
  induction m with
  | nil => cases h
  | cons field rest ih =>
    obtain ⟨key, value⟩ := field
    rw [Fields.find, List.lookup_cons] at h
    split at h
    · obtain rfl := Option.some.inj h
      simp
      omega
    · have := ih h
      simp
      omega

def coerceItems (origin : String) : Nat → List Value → Except Failure (List Fields)
  | _, [] => .ok []
  | i, .map m :: rest => do
      let out ← coerceItems origin (i + 1) rest
      pure (m :: out)
  | i, item :: _ => .error {
      message := origin ++ "[" ++ toString i ++ "]: want map, got " ++ typeName item }

def coerceList (innerKey : String) (v : Value) (origin : String) : Except Failure (List Fields) :=
  match v with
  | .nil => .ok []
  | .map m =>
    match _hinner : Fields.find m innerKey with
    | some inner => coerceList innerKey inner (origin ++ "." ++ innerKey)
    | none => .error { message := origin ++ ": want list, got " ++ typeName (.map m) }
  | .maps items => .ok items
  | .list items => coerceItems origin 0 items
  | v => .error { message := origin ++ ": want list, got " ++ typeName v }
termination_by v
decreasing_by
  have := find_sizeOf _hinner
  simp
  omega

def intLeaf : Value → Option Int64
  | .int n => some n
  | .float bits => if fitsInt bits then some (truncate bits) else none
  | .text s => atoi (trimSpace s)
  | _ => none

def keysOf (v : Value) : List String :=
  match coerceList "vlans" v "vlan.keys" with
  | .error _ => []
  | .ok list => list.filterMap fun item => (intLeaf (item.get "id")).map fun id => decimal id.toInt

/-- The ids of the desired VLANs, which must be ids of VLANs. -/
def desiredIDs : List Fields → Except Failure (List Int64)
  | [] => .ok []
  | item :: rest =>
    let invalid : Failure :=
      { message := "vlan prune desired id " ++ sprint (item.get "id") ++ " is invalid" }
    match intLeaf (item.get "id") with
    | none => .error invalid
    | some id =>
      if id.toInt < 1 ∨ 4094 < id.toInt then .error invalid
      else do
        let ids ← desiredIDs rest
        pure (id :: ids)

omit [Formatting] in
def deleteOp (key : String) : Op where
  verb := .delete
  path := "sys/bd/bd-[vlan-" ++ key ++ "]"

omit [Formatting] in
/-- The loop over the observed ids, which stops at VLAN 1. -/
def pruneLoop (want : List Int64) : List Int64 → Except Failure (List Op)
  | [] => .ok []
  | id :: rest =>
    if want.contains id then pruneLoop want rest
    else if id.toInt = 1 then
      .error { message := "vlan 1 cannot be pruned through NXOSConfig" }
    else do
      let ops ← pruneLoop want rest
      pure (deleteOp (decimal id.toInt) :: ops)

def pruneDiff (desired observed : Value) : Except Failure (List Op) := do
  let wantList ← coerceList "vlans" desired "vlan.prune.desired"
  let gotList ← coerceList "vlans" observed "vlan.prune.observed"
  let want ← desiredIDs wantList
  let got := (gotList.filterMap fun item => intLeaf (item.get "id")).eraseDups
  pruneLoop want (sortInts got)

end NXOS

/-! ## All of them -/

/-- The registered writers that can both prune and name their keys. -/
inductive PruneWriter
  | keyedList (w : KeyedListWriter)
  | nestedKeyedList (w : NestedKeyedListWriter)
  | vlan (w : VLANWriter)
  | dhcp (w : DHCPWriter)
  | nxosVLAN

namespace PruneWriter

def keysOf : PruneWriter → Value → List String
  | keyedList w => w.keysOf
  | nestedKeyedList w => w.keysOf
  | vlan _ => VLANWriter.keysOf
  | dhcp _ => DHCPWriter.keysOf
  | nxosVLAN => NXOS.keysOf

def pruneDiff : PruneWriter → Value → Value → Except Failure (List Op)
  | keyedList w => w.pruneDiff
  | nestedKeyedList w => w.pruneDiff
  | vlan w => w.pruneDiff
  | dhcp w => w.pruneDiff
  | nxosVLAN => NXOS.pruneDiff

omit [Formatting] in
def deleteOp : PruneWriter → String → Op
  | keyedList w => w.deleteOp
  | nestedKeyedList w => w.base.deleteOp
  | vlan w => w.deleteOp
  | dhcp w => w.deleteOp
  | nxosVLAN => NXOS.deleteOp

end PruneWriter

end VirtualKubelet.Config
