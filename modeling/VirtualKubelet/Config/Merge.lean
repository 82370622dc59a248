import VirtualKubelet.Config.Writers

/-!
# Merging scopes

`intent/merge.go`: the scopes of a configuration are merged one over the other,
maps name by name, lists whose entries have a key entry by entry, and whatever
else the later scope sets replaces what was there. The key of a list is given
by a rule for its path or guessed from the fields its entries have in common.

Values are immutable here, so that `deepCopy` is the value itself.
-/

namespace VirtualKubelet.Config

open Go

/-- From the path of a list to the field that identifies its entries. -/
abbrev KeyRules := Go.Map String

def joinPath (path : List String) : String :=
  String.ofList (['.'].intercalate (path.map String.toList))

def keyFromRules (path : List String) (rules : KeyRules) : Option String :=
  if rules.len = 0 ∨ path = [] then none else rules.find (joinPath path)

def keyFieldCandidates : List String := ["name", "id", "sequence", "seq", "tag", "type"]

def listElementsHaveKey (list : List Value) (key : String) : Bool :=
  list.all fun
    | .map m => (Fields.find m key).isSome
    | _ => false

def detectKeyField (dst src : List Value) : Option String :=
  if dst.isEmpty || src.isEmpty then none
  else keyFieldCandidates.find? fun candidate =>
    listElementsHaveKey dst candidate && listElementsHaveKey src candidate

/-- The field by which `mergeLists` matches the entries, `none` if it lets `src`
replace `dst`. -/
def mergeKey (path : List String) (rules : KeyRules) (dst src : List Value) : Option String :=
  match keyFromRules path rules with
  | some keyField =>
    if keyField ≠ "" && listElementsHaveKey dst keyField && listElementsHaveKey src keyField then
      some keyField
    else none
  | none => detectKeyField dst src

/-- `m, _ := el.(map[string]any)`. -/
def entryFields : Value → Fields
  | .map m => m
  | _ => []

variable [Formatting]

def keyText (keyField : String) (el : Value) : String := sprint ((entryFields el).get keyField)

/-- Where the entries of `dst` stand. -/
def indexEntries (keyField : String) (dst : List Value) : Go.Map Nat :=
  dst.zipIdx.foldl (fun index e => index.set (keyText keyField e.1) e.2) ∅

mutual

def mergeAt (path : List String) (rules : KeyRules) (dst : Value) : Value → Value
  | .nil => dst
  | .map src =>
    match dst with
    | .map dst => .map (mergeMaps path rules dst src)
    | _ => .map src
  | .list src =>
    match dst with
    | .list dst =>
      match mergeKey path rules dst src with
      | some keyField =>
        .list (mergeKeyedLists path rules keyField (indexEntries keyField dst) dst src)
      | none => .list src
    | _ => .list src
  | src => src

/-- The loop over the fields of `src`. -/
def mergeMaps (path : List String) (rules : KeyRules) (out : Fields) :
    List (String × Value) → Fields
  | [] => out
  | (k, v) :: rest =>
    match out.find k with
    | some existing =>
      mergeMaps path rules (out.put k (mergeAt (path ++ [k]) rules existing v)) rest
    | none => mergeMaps path rules (out.put k v) rest

/-- The loop over the entries of `src`. -/
def mergeKeyedLists (path : List String) (rules : KeyRules) (keyField : String)
    (index : Go.Map Nat) (out : List Value) : List Value → List Value
  | [] => out
  | el :: rest =>
    match index.find (keyText keyField el) with
    | some pos =>
      mergeKeyedLists path rules keyField index
        (out.set pos (mergeAt path rules (out.getD pos .nil) el)) rest
    | none =>
      mergeKeyedLists path rules keyField (index.set (keyText keyField el) out.length)
        (out ++ [el]) rest

end

def mergeWithRules (dst src : Value) (rules : KeyRules) : Value := mergeAt [] rules dst src

end VirtualKubelet.Config
