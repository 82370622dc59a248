import VirtualKubelet.Drivers.Naming
import VirtualKubelet.Go.Value

/-!
# The inventory of an IOS-XE device

`listPods` rebuilds the Pods of a device from two sources, the configured apps
and the operational data. As evidence for a drain it must be complete, and then
it refuses whatever it cannot attribute.
-/

namespace VirtualKubelet.Drivers.Iosxe

open Go

/-- A configured app, with the lines of its run options in the order the device
returns them. -/
structure App where
  applicationName : Option String
  runOptss : Option (List (Option String)) := none
  deriving DecidableEq

structure AppOper where
  state : Option String
  pkgPolicyInvalid : Bool := false
  deriving DecidableEq

/-- The operational data by app name, in the order a loop visits it. -/
structure OperData where
  entries : List (String × Option AppOper)
  nodup : (entries.map Prod.fst).Nodup
  deriving DecidableEq

namespace OperData

def names (oper : OperData) : List String := oper.entries.map Prod.fst

def find (oper : OperData) (appName : String) : Option AppOper :=
  (oper.entries.lookup appName).join

def empty : OperData := ⟨[], List.nodup_nil⟩

end OperData

def stableName (app : Option App) : Option String :=
  match app with
  | none => none
  | some app =>
    match app.applicationName with
    | none => none
    | some name => if blank name then none else some name

/-- An app known only from operational data. -/
def operOnlyApp (appName : String) : Option App := some { applicationName := some appName }

def App.lines (app : App) : List String := (app.runOptss.getD []).filterMap id

structure PodDiscoveryInfo where
  «namespace» : String
  name : String
  uid : String
  containers : Go.Map String

/-- `uuid.Parse` of 32 hexadecimal digits, and `String` of the result. -/
def canonicalUUID (digits : String) : Option String :=
  let chars := digits.toList
  if chars.length = 32 && chars.all isLowerHex then
    let part (from' len : Nat) := String.ofList ((chars.drop from').take len)
    some (part 0 8 ++ "-" ++ part 8 4 ++ "-" ++ part 12 4 ++ "-" ++ part 16 4 ++ "-" ++ part 20 12)
  else none

section ListPods

variable (requireComplete : Bool)

def configAppNames : List (Option App) → List String → Except String (List String)
  | [], known => .ok known
  | app :: apps, known =>
    match stableName app with
    | none => configAppNames apps known
    | some name =>
      if requireComplete && known.contains name then
        .error ("complete app inventory contains duplicate app name " ++ quote name)
      else configAppNames apps (name :: known)

/-- Apps visible only in the operational data must still be found. -/
def operOnlyApps (known : List String) : List String → Except String (List (Option App))
  | [] => .ok []
  | appName :: names =>
    if known.contains appName then operOnlyApps known names
    else if !isCVKManagedApp appName then
      if requireComplete then
        .error "complete app inventory contains an app without CVK workload identity"
      else operOnlyApps known names
    else do
      let rest ← operOnlyApps known names
      .ok (operOnlyApp appName :: rest)

/-- What the labels and the name say of an app: its Pod and its container. -/
def attributeApp (app : App) (appName : String) : Except String (Option PodIdentity) :=
  let parsed := parseCVKAppName appName
  if requireComplete && parsed.isNone then
    .error "complete app inventory contains an app without CVK workload identity"
  else
    let appUID := (parsed.map Prod.snd).getD ""
    match if requireComplete then canonicalUUID appUID else some appUID with
    | none => .error "complete app inventory contains an invalid CVK workload UID"
    | some canonicalAppUID =>
      let labels := podIdentityFromRunOpts app.lines
      if requireComplete && labels.uid ≠ "" && cleanUID labels.uid ≠ appUID then
        .error ("complete app inventory contains CVK app identity that disagrees with its " ++
          "workload labels")
      else
        -- The name survives every lifecycle state, the labels do not.
        let identity : PodIdentity :=
          if requireComplete then
            { labels with uid := canonicalAppUID, «namespace» := "default", name := "cvk-" ++ appUID }
          else labels
        if identity.uid = "" || identity.name = "" || identity.container = "" then
          match parsed with
          | none =>
            if requireComplete then
              .error "complete app inventory contains an app without CVK workload identity"
            else .ok none
          | some (appIndex, _) =>
            .ok (some
              { uid := canonicalAppUID
                name := if requireComplete then identity.name else appName
                «namespace» := if identity.namespace = "" then "default" else identity.namespace
                container := "container-" ++ decimal appIndex })
        else .ok (some identity)

def addToGroup (groups : Go.Map PodDiscoveryInfo) (appName : String) (identity : PodIdentity) :
    Except String (Go.Map PodDiscoveryInfo) :=
  let group := groups.get ⟨identity.namespace, identity.name, identity.uid, ∅⟩ identity.uid
  if requireComplete &&
      (group.namespace ≠ identity.namespace || group.name ≠ identity.name) then
    .error "complete app inventory contains conflicting metadata for one workload UID"
  else if requireComplete && (group.containers.find identity.container).any (· ≠ appName) then
    .error "complete app inventory contains conflicting apps for one workload container"
  else
    .ok (groups.set identity.uid
      { group with containers := group.containers.set identity.container appName })

/-- One round of the grouping loop. -/
def groupApp (groups : Go.Map PodDiscoveryInfo) (app : Option App) :
    Except String (Go.Map PodDiscoveryInfo) :=
  match app, stableName app with
  | some app, some appName => do
      match ← attributeApp requireComplete app appName with
      | none => .ok groups
      | some identity => addToGroup requireComplete groups appName identity
  | _, _ =>
    if requireComplete then
      .error "complete app inventory contains an app without a stable name"
    else .ok groups

/-- The Pods of the device, in no particular order: one for each group. -/
def listPods (apps : Except String (List (Option App))) (oper : Except String OperData) :
    Except String (Multiset PodDiscoveryInfo) := do
  let apps ← match apps with
    | .error e => .error ("failed to list apps: " ++ e)
    | .ok apps => .ok apps
  let oper ← match oper with
    | .error e =>
      if requireComplete then
        .error ("failed to list complete operational app inventory: " ++ e)
      else .ok OperData.empty
    | .ok oper => .ok oper
  let known ← configAppNames requireComplete apps []
  let more ← operOnlyApps requireComplete known oper.names
  let groups ← (apps ++ more).foldlM (groupApp requireComplete) ∅
  .ok (groups.entries.map Sigma.snd)

end ListPods

end VirtualKubelet.Drivers.Iosxe
