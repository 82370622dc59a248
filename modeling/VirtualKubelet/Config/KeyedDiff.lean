import VirtualKubelet.Config.Encoding

/-!
# The difference of a keyed list

`Diff` of the generic writer of keyed lists: for each desired entry that the
device lacks or has with other leaves, one operation that merges the entry.
The writer is one without shape transforms, on a release without overrides.
-/

namespace VirtualKubelet.Config

open Go

variable [Encoding]

/-! ## Comparing -/

section

omit [Encoding]

def floatEq (a b : UInt64) : Bool :=
  let nan (bits : UInt64) : Bool := 2047 * 2 ^ 52 < bits.toNat % 2 ^ 63
  let zero (bits : UInt64) : Bool := bits.toNat % 2 ^ 63 = 0
  !nan a && !nan b && (a == b || (zero a && zero b))

def isComparable : Value → Bool
  | .list _ | .maps _ | .map _ => false
  | _ => true

/-- `a == b` of two comparable values. -/
def sameScalar : Value → Value → Bool
  | .nil, .nil => true
  | .bool a, .bool b => a == b
  | .int a, .int b => a == b
  | .float a, .float b => floatEq a b
  | .text a, .text b => a == b
  | _, _ => false

end

mutual

def deepEqual : Value → Value → Bool
  | .list a, b =>
    match b with
    | .list b => deepEqualItems a b
    | _ => false
  | .maps a, b =>
    match b with
    | .maps b => deepEqualMaps a b
    | _ => false
  | .map a, b =>
    match b with
    | .map b => a.length == b.length && deepEqualFields a b
    | _ => false
  | a, b => sameScalar a b

def deepEqualItems : List Value → List Value → Bool
  | [], b => b.isEmpty
  | v :: rest, b =>
    match b with
    | w :: b => deepEqual v w && deepEqualItems rest b
    | [] => false

def deepEqualMaps : List (List (String × Value)) → List (List (String × Value)) → Bool
  | [], b => b.isEmpty
  | m :: rest, b =>
    match b with
    | n :: b => m.length == n.length && deepEqualFields m n && deepEqualMaps rest b
    | [] => false

def deepEqualFields : List (String × Value) → Fields → Bool
  | [], _ => true
  | (k, v) :: rest, b =>
    match b.find k with
    | some w => deepEqual v w && deepEqualFields rest b
    | none => false

end

mutual

/-- A desired value against an observed one. -/
def scalarEqual : Value → Value → Bool
  | .map a, b =>
    match b with
    | .map b => deepEqual (.map a) (.map b) || fieldsEqual a b
    | b => printValue (.map a) == printValue b
  | a, b =>
    if isComparable a && isComparable b then sameScalar a b || printValue a == printValue b
    else deepEqual a b || printValue a == printValue b

def fieldsEqual : List (String × Value) → Fields → Bool
  | [], _ => true
  | (k, v) :: rest, b =>
    match b.find k with
    | some w => scalarEqual v w && fieldsEqual rest b
    | none => false

end

omit [Encoding] in
def isExplicitFalse : Value → Bool
  | .bool b => !b
  | .text s => s = "false" || s = "no" || s = "0"
  | .int n => n == 0
  | .float bits => floatEq bits 0
  | _ => false

def leafEqual (desired observed : Fields) (key : String) : Bool :=
  match desired.find key with
  | none => true
  | some dv =>
    match observed.find key with
    | none => isExplicitFalse dv
    | some ov => scalarEqual dv ov

def leavesEqual (desired observed : Fields) (managed : List String) : Bool :=
  managed.all (leafEqual desired observed)

omit [Encoding] in
def projectManagedLeaves (src : Fields) (managed : List String) : Fields :=
  managed.foldl (fun out key =>
    match src.find key with
    | some v => out.put key v
    | none => out) src

/-! ## The operations -/

omit [Encoding] in
def pathSpecForKeyedListParent (yangPath : String) : List PathElement :=
  (splitYANGPathSegments yangPath).map fun name => { name := name }

def wrapYANGPayload (envelopeKey : String) (body : Value) : Except Failure Raw :=
  marshalJson (.map [(envelopeKey, body)])

namespace KeyedListWriter

/-- The desired entries by their keys; a later one replaces an earlier. -/
def want (w : KeyedListWriter) (out : Map Fields) : List Fields → Except Failure (Map Fields)
  | [] => .ok out
  | e :: rest =>
    match entryKey e w.keyField with
    | .error err => .error (err.wrap (w.family ++ ": desired: "))
    | .ok k => w.want (out.set k e) rest

/-- The observed entries by their keys; those without one are dropped. -/
def got (w : KeyedListWriter) (observed : List Fields) : Map Fields :=
  observed.foldl (fun out e =>
    match entryKey e w.keyField with
    | .ok k => out.set k e
    | .error _ => out) ∅

/-- The operation that merges one entry, at its own path if the device has it
and else at the path of the list. -/
def mergeOp (w : KeyedListWriter) (k : String) (entry : Fields) (inDevice : Bool) :
    Except Failure Op := do
  let proj := projectManagedLeaves entry w.managedLeaves
  let proj := match entry.find w.keyField with
    | some kv => proj.put w.keyField kv
    | none => proj
  let body ← wrapYANGPayload w.envelopeKey (.list [.map proj])
  pure (if inDevice then
    { verb := .merge, path := w.yangPath ++ "=" ++ k,
      pathSpec := pathSpecForKeyedListEntry w.yangPath w.keyField k, body := body }
  else
    { verb := .merge, path := w.yangPath, pathSpec := pathSpecForKeyedListParent w.yangPath,
      body := body })

/-- The loop over the sorted keys. -/
def diffKeys (w : KeyedListWriter) (want got : Map Fields) : List String → Except Failure (List Op)
  | [] => .ok []
  | k :: rest =>
    let entry := want.get [] k
    if (got.find k).any fun o => leavesEqual entry o w.managedLeaves then w.diffKeys want got rest
    else do
      let op ← w.mergeOp k entry (got.find k).isSome
      let ops ← w.diffKeys want got rest
      pure (op :: ops)

def diff (w : KeyedListWriter) (desired observed : Value) : Except Failure (List Op) := do
  let desiredList ← coerceBlock w.innerKey desired "desired"
  let observedList ← coerceList observed "observed"
  let want ← w.want ∅ desiredList
  w.diffKeys want (w.got observedList) (want.keys.sort (· ≤ ·))

end KeyedListWriter

end VirtualKubelet.Config
