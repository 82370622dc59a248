import VirtualKubelet.Api.Slot
import VirtualKubelet.Config.Writers
import VirtualKubelet.Go.Range
import VirtualKubelet.Go.Sha256

/-!
# Device adoption from Nexus Dashboard

The adapter turns each complete inventory of a Nexus Dashboard into
`CiscoDevice` objects of one namespace: a switch gets a device named after its
serial number, a device that exists and carries the controller's label is
brought up to date by a merge patch, and one whose switch has left the
inventory is stamped with the time and, if the policy says so, deleted after a
grace period.
-/

namespace VirtualKubelet.ControllerAdapter.NexusDashboard

open Go Api Program

/-! ## Names -/

def isLowerAlnum (c : Char) : Bool := ('a' ≤ c && c ≤ 'z') || isDigit c

def isAlnum (c : Char) : Bool := isLowerAlnum c || ('A' ≤ c && c ≤ 'Z')

/-- `[first]([inner]*[first])?` for two classes of characters. -/
def delimited (first inner : Char → Bool) (l : List Char) : Bool :=
  match l with
  | [] => false
  | c :: rest => first c && (c :: rest).all inner && first ((c :: rest).getLast (by simp))

/-- `utilvalidation.IsDNS1123Subdomain` finds nothing to complain about. -/
def isDNS1123Subdomain (s : String) : Bool :=
  s.utf8ByteSize ≤ 253 &&
    (s.toList.splitOn '.').all (delimited isLowerAlnum fun c => isLowerAlnum c || c = '-')

/-- `utilvalidation.IsValidLabelValue` finds nothing to complain about. -/
def isValidLabelValue (s : String) : Bool :=
  s.utf8ByteSize ≤ 63 &&
    (s = "" || delimited isAlnum (fun c => isAlnum c || c = '-' || c = '_' || c = '.') s.toList)

def deviceNamePrefix : List Char := ['n', 'd', '-']

def maxNameLen : Nat := 63

/-- `unicode.ToLower`, as far as the result is a letter or digit of ASCII. -/
def toLowerRune (c : Char) : Char :=
  if 'A' ≤ c && c ≤ 'Z' then c.toLower
  else if c.val = 0x212A then 'k'
  else if c.val = 0x130 then 'i'
  else c

def nameChar (c : Char) : Char :=
  let c := toLowerRune c
  if isLowerAlnum c then c else '-'

def trimDashes (l : List Char) : List Char :=
  ((l.dropWhile (· = '-')).reverse.dropWhile (· = '-')).reverse

/-- A name beyond the limit is cut and gets eight digits of a hash instead. -/
def shortened (serial : String) (name : List Char) : List Char :=
  if name.length ≤ maxNameLen then name
  else ((name.take (maxNameLen - 9)).reverse.dropWhile (· = '-')).reverse ++
    '-' :: (sha256Hex 1 serial).toList

/-- The name of the device of a serial number, if one can be made. -/
def deviceName (serial : String) : Option String :=
  let core := trimDashes (serial.toList.map nameChar)
  if core = [] then none
  else
    let name := String.ofList (shortened serial (deviceNamePrefix ++ core))
    if isDNS1123Subdomain name then some name else none

/-- `physicalIdentityRE.MatchString`. -/
def validIdentity (serial : String) : Bool :=
  serial.length ≤ 128 &&
    delimited isAlnum (fun c => isAlnum c || c = '.' || c = '_' || c = ':' || c = '/' || c = '-')
      serial.toList

def nodeNameFromHostname (hostname : String) : String :=
  let h := trimSpace hostname
  if h = "" || h.utf8ByteSize > maxNameLen || !isDNS1123Subdomain h then "" else h

def labelValue (v : String) : String := if isValidLabelValue v then v else ""

/-! ## Settings -/

abbrev Labels := Go.Map String

structure TLSConfig where
  enabled : Bool
  insecureSkipVerify : Bool := false
  certFile : String := ""
  keyFile : String := ""
  caFile : String := ""
  /-- The name in the reference. -/
  caSecretRef : Option String := none
  deriving DecidableEq

structure NetworkControllerDeviceAccess where
  username : String
  credentialSecretRef : String
  tls : Option TLSConfig := none
  labels : Labels := ∅
  deriving DecidableEq

structure NetworkControllerDeviceScopeOverride where
  scope : String
  username : String := ""
  credentialSecretRef : Option String := none
  tls : Option TLSConfig := none
  labels : Labels := ∅
  deriving DecidableEq

inductive RemovalPolicy
  | retain
  | prune
  deriving DecidableEq

/-- Durations are nanoseconds. -/
structure NetworkControllerDeviceRemoval where
  /-- `none` is the empty string. -/
  policy : Option RemovalPolicy := none
  gracePeriod : Option Int := none
  maxPrunePercent : Option Int32 := none
  deriving DecidableEq

structure NetworkControllerDeviceAdoption where
  enabled : Bool
  defaults : Option NetworkControllerDeviceAccess := none
  scopeOverrides : List NetworkControllerDeviceScopeOverride := []
  removal : Option NetworkControllerDeviceRemoval := none
  deriving DecidableEq

def effectivePolicy (r : Option NetworkControllerDeviceRemoval) : RemovalPolicy :=
  (r.bind (·.policy)).getD .retain

def defaultDeviceRemovalGracePeriod : Int := 24 * 3600 * nanosPerSecond

def effectiveGracePeriod (r : Option NetworkControllerDeviceRemoval) : Int :=
  (r.bind (·.gracePeriod)).getD defaultDeviceRemovalGracePeriod

def effectiveMaxPrunePercent (r : Option NetworkControllerDeviceRemoval) : Int :=
  ((r.bind (·.maxPrunePercent)).getD 25).toInt

def NetworkControllerDeviceScopeOverride.over (o : NetworkControllerDeviceScopeOverride)
    (access : NetworkControllerDeviceAccess) : NetworkControllerDeviceAccess where
  username := if o.username ≠ "" then o.username else access.username
  credentialSecretRef := o.credentialSecretRef.getD access.credentialSecretRef
  tls := o.tls.or access.tls
  labels := access.labels.merge o.labels

def NetworkControllerDeviceAdoption.resolveAccess (a : NetworkControllerDeviceAdoption)
    (scope : String) : Option NetworkControllerDeviceAccess :=
  if !a.enabled then none
  else a.defaults.map fun access =>
    match a.scopeOverrides.find? fun o => o.scope = scope with
    | none => access
    | some o => o.over access

/-! ## Devices and inventories -/

structure InventoryItem where
  serial : String
  hostname : String
  mgmtAddress : String
  model : String
  fabric : String
  role : String
  reachable : Bool
  skipReason : String
  deriving DecidableEq

structure CiscoDevice where
  name : String
  uid : Nat := 0
  labels : Labels := ∅
  /-- The annotation `cisco.vk/nd-managed-labels`, empty if it is missing. -/
  managedLabels : String := ""
  /-- The annotation `cisco.vk/nd-missing-since`. -/
  missingSince : Option String := none
  deleting : Bool := false
  nodeName : String := ""
  address : String
  physicalIdentity : String := ""
  username : String
  credentialSecretRef : Option String := none
  tls : Option TLSConfig := none
  specLabels : Labels := ∅
  deriving DecidableEq

def labelController : String := "cisco.vk/network-controller-uid"

def labelManagedBy : String := "app.kubernetes.io/managed-by"

def managedByValue : String := "cvk-nexus-dashboard"

/-- The labels of an item that can be label values. -/
def desiredLabels (it : InventoryItem) : Labels :=
  let add (m : Labels) (key value : String) : Labels :=
    if labelValue value = "" then m else m.set key (labelValue value)
  add (add (add ∅ "nd.cisco.vk/fabric" it.fabric) "nd.cisco.vk/role" it.role)
    "nd.cisco.vk/model" it.model

def nodeLabels (access : NetworkControllerDeviceAccess) (it : InventoryItem) : Labels :=
  access.labels.merge (desiredLabels it)

/-- The keys in order, joined with commas. -/
def managedKeys (labels : Labels) : String :=
  String.ofList ([','].intercalate ((labels.keys.sort (· ≤ ·)).map String.toList))

def staleKeys (listed : String) (want : Labels) : List String :=
  ((listed.toList.splitOn ',').map String.ofList).filter fun k =>
    k ≠ "" && (want.find k).isNone

/-! ## Merge patches -/

/-- The members that a patch of labels sets, with `none` for a removal. -/
abbrev LabelPatch := Go.Map (Option String)

/-- A stale key that is present is removed, also if it is wanted. -/
def labelPatch («have» want : Labels) (stale : List String) : LabelPatch :=
  let changed : LabelPatch := want.filterMap fun k v =>
    if «have».find k = some v then none else some (some v)
  stale.foldl (fun out k => if («have».find k).isSome then out.set k none else out) changed

/-- A value of a member of the TLS block. -/
inductive TLSValue
  | bool (b : Bool)
  | text (s : String)
  /-- An object whose only member is the name. -/
  | ref (name : String)
  deriving DecidableEq

namespace TLSConfig

def addMember (present : Bool) (key : String) (value : TLSValue) (m : Go.Map TLSValue) :
    Go.Map TLSValue :=
  if present then m.set key value else m

/-- The object that `json.Marshal` makes: what has its zero value is left out,
except for `enabled`. -/
def members (t : TLSConfig) : Go.Map TLSValue :=
  addMember true "enabled" (.bool t.enabled) <|
    addMember t.insecureSkipVerify "insecureSkipVerify" (.bool t.insecureSkipVerify) <|
    addMember (t.certFile ≠ "") "certFile" (.text t.certFile) <|
    addMember (t.keyFile ≠ "") "keyFile" (.text t.keyFile) <|
    addMember (t.caFile ≠ "") "caFile" (.text t.caFile) <|
    addMember t.caSecretRef.isSome "caSecretRef" (.ref (t.caSecretRef.getD "")) ∅

/-- The block of an object. What is missing has its zero value. -/
def ofMembers (m : Go.Map TLSValue) : TLSConfig :=
  let bool (key : String) : Bool :=
    match m.find key with
    | some (.bool b) => b
    | _ => false
  let text (key : String) : String :=
    match m.find key with
    | some (.text s) => s
    | _ => ""
  { enabled := bool "enabled"
    insecureSkipVerify := bool "insecureSkipVerify"
    certFile := text "certFile"
    keyFile := text "keyFile"
    caFile := text "caFile"
    caSecretRef :=
      match m.find "caSecretRef" with
      | some (.ref name) => some name
      | _ => none }

end TLSConfig

/-- The fields a merge patch sets. -/
structure Patch where
  address : Option String := none
  username : Option String := none
  credentialSecretRef : Option String := none
  tls : Option TLSConfig := none
  physicalIdentity : Option String := none
  specLabels : LabelPatch := ∅
  labels : LabelPatch := ∅
  managedLabels : Option String := none
  deriving DecidableEq

/-- The patch is not the empty object. -/
def Patch.changed (p : Patch) : Bool := p ≠ {}

def mergePatch (cur : CiscoDevice) (it : InventoryItem) (access : NetworkControllerDeviceAccess)
    (nodeLabels : Labels) : Patch :=
  let stale := staleKeys cur.managedLabels nodeLabels
  let managedBy : Labels := (∅ : Labels).set labelManagedBy managedByValue
  { address := if cur.address ≠ it.mgmtAddress then some it.mgmtAddress else none
    username := if cur.username ≠ access.username then some access.username else none
    credentialSecretRef :=
      if cur.credentialSecretRef ≠ some access.credentialSecretRef then
        some access.credentialSecretRef
      else none
    tls := if access.tls ≠ none ∧ cur.tls ≠ access.tls then access.tls else none
    physicalIdentity := if cur.physicalIdentity = "" then some it.serial else none
    specLabels := labelPatch cur.specLabels nodeLabels stale
    labels := labelPatch cur.labels (nodeLabels.merge managedBy) stale
    managedLabels :=
      if cur.managedLabels ≠ managedKeys nodeLabels then some (managedKeys nodeLabels) else none }

/-- A map of strings under a merge patch: `null` removes a member. -/
def LabelPatch.apply (p : LabelPatch) (labels : Labels) : Labels :=
  Map.merge (labels.filterMap fun k v => if (p.find k).isSome then none else some v)
    (p.filterMap fun _ v => v)

/-- An object under a merge patch: its members are merged one by one. -/
def TLSConfig.patched (old : Option TLSConfig) (new : TLSConfig) : TLSConfig :=
  match old with
  | none => .ofMembers new.members
  | some old => .ofMembers (old.members.merge new.members)

def Patch.apply (p : Patch) (d : CiscoDevice) : CiscoDevice :=
  { d with
    address := p.address.getD d.address
    username := p.username.getD d.username
    credentialSecretRef := p.credentialSecretRef.or d.credentialSecretRef
    tls := (p.tls.map (TLSConfig.patched d.tls)).or d.tls
    physicalIdentity := p.physicalIdentity.getD d.physicalIdentity
    specLabels := p.specLabels.apply d.specLabels
    labels := p.labels.apply d.labels
    managedLabels := p.managedLabels.getD d.managedLabels }

/-! ## Requests -/

inductive Request
  | list
  /-- The context is done. -/
  | cancelled
  /-- The binding is still active. -/
  | permit
  | now
  | create (d : CiscoDevice)
  | patch (cur : CiscoDevice) (p : Patch)
  /-- Sets the stamp, or removes it. -/
  | patchMissingSince (d : CiscoDevice) (stamp : Option String)
  /-- With the UID as a precondition. -/
  | delete (d : CiscoDevice)

abbrev Reply : Request → Type
  | .list => Answer (List CiscoDevice)
  | .cancelled | .permit => Bool
  | .now => Int
  | .create _ | .patch .. | .patchMissingSince .. | .delete _ => Answer Unit

abbrev Worker (α : Type) := Program Request Reply α

def ask (c : Request) : Worker (Reply c) := request c

/-! ## `Sync` -/

structure DeviceSyncResult where
  created : Nat := 0
  updated : Nat := 0
  unchanged : Nat := 0
  unreachable : Nat := 0
  invalid : Nat := 0
  conflicts : Nat := 0
  failed : Nat := 0
  missing : Nat := 0
  pruned : Nat := 0
  pruneGuarded : Nat := 0
  deriving DecidableEq

inductive SyncError
  | list (text : String)
  | cancelled
  | bindingInactive
  deriving DecidableEq

inductive ApplyError
  | bindingInactive
  | api (e : Error)

inductive ApplyOutcome
  | unchanged
  | created
  | updated
  deriving DecidableEq

/-- One call of `Sync`: the syncer's own settings and the inventory. -/
structure Job where
  uid : String
  adoption : NetworkControllerDeviceAdoption
  items : List InventoryItem
  deriving DecidableEq

/-- What `Sync` builds of its listing before it goes through the items. -/
structure Snapshot where
  devices : List CiscoDevice
  takenNodes : List String

def Snapshot.of (devices : List CiscoDevice) : Snapshot :=
  ⟨devices, devices.map fun d => if d.nodeName ≠ "" then d.nodeName else d.name⟩

def Snapshot.find (s : Snapshot) (name : String) : Option CiscoDevice :=
  s.devices.find? fun d => d.name = name

namespace Job

variable (k : Job)

def owned (d : CiscoDevice) : Bool := k.uid ≠ "" && d.labels.get "" labelController = k.uid

/-- Neither skipped nor unreachable, in the order of their serial numbers. -/
def adoptable : List InventoryItem :=
  (k.items.filter fun it => it.skipReason = "" && it.reachable).insertionSort fun a b =>
    a.serial ≤ b.serial

def unreachable : Nat := k.items.countP fun it => it.skipReason = "" && !it.reachable

def uniqueHostname (hostname : String) : Bool :=
  k.adoptable.countP (fun it => it.hostname = hostname) = 1

/-- The name of the Node is taken from the host name only if that is free. -/
def newNodeName (it : InventoryItem) (takenNodes : List String) : String :=
  let nn := nodeNameFromHostname it.hostname
  if nn ≠ "" && k.uniqueHostname it.hostname && !takenNodes.contains nn then nn else ""

def newDevice (name : String) (it : InventoryItem) (access : NetworkControllerDeviceAccess)
    (takenNodes : List String) : CiscoDevice where
  name := name
  labels := (nodeLabels access it).merge
    (((∅ : Labels).set labelController k.uid).set labelManagedBy managedByValue)
  managedLabels := managedKeys (nodeLabels access it)
  nodeName := k.newNodeName it takenNodes
  address := it.mgmtAddress
  physicalIdentity := it.serial
  username := access.username
  credentialSecretRef := some access.credentialSecretRef
  tls := access.tls
  specLabels := nodeLabels access it

/-- A mutation behind the guard. -/
def permitted (send : Worker (Answer Unit)) : Worker (Except ApplyError Unit) := do
  if !(← ask .permit) then pure (.error .bindingInactive) else
  match ← send with
  | .error e => pure (.error (.api e))
  | .ok () => pure (.ok ())

def apply (name : String) (it : InventoryItem) (access : NetworkControllerDeviceAccess)
    (cur : Option CiscoDevice) (takenNodes : List String) :
    Worker (Except ApplyError ApplyOutcome) :=
  match cur with
  | none => do
      return (← permitted (ask (.create (k.newDevice name it access takenNodes)))).map
        fun _ => .created
  | some cur =>
    let p := mergePatch cur it access (nodeLabels access it)
    if !p.changed then pure (.ok .unchanged) else do
    return (← permitted (ask (.patch cur p))).map fun _ => .updated

/-- A chosen Node name is taken, also if the creation then fails. -/
def takenAfter (it : InventoryItem) (cur : Option CiscoDevice) (takenNodes : List String) :
    List String :=
  if cur.isNone && k.newNodeName it takenNodes ≠ "" then k.newNodeName it takenNodes :: takenNodes
  else takenNodes

/-- How the result of one item counts, unless it stops the whole sync. -/
def tally (res : DeviceSyncResult) : Except ApplyError ApplyOutcome → Option DeviceSyncResult
  | .error .bindingInactive => none
  | .error (.api e) =>
    if e.reason = .alreadyExists then some { res with conflicts := res.conflicts + 1 }
    else some { res with failed := res.failed + 1 }
  | .ok .created => some { res with created := res.created + 1 }
  | .ok .updated => some { res with updated := res.updated + 1 }
  | .ok .unchanged => some { res with unchanged := res.unchanged + 1 }

abbrev Step := Except (DeviceSyncResult × SyncError) DeviceSyncResult

def adopt (devices : Snapshot) : List InventoryItem → List String → DeviceSyncResult → Worker Step
  | [], _, res => pure (.ok res)
  | it :: rest, taken, res => do
      if ← ask .cancelled then pure (.error (res, .cancelled)) else
      match if validIdentity it.serial then deviceName it.serial else none with
      | none => adopt devices rest taken { res with invalid := res.invalid + 1 }
      | some name =>
        match k.adoption.resolveAccess it.fabric with
        | none => adopt devices rest taken { res with failed := res.failed + 1 }
        | some access =>
          let cur := devices.find name
          if cur.any (!k.owned ·) then
            adopt devices rest taken { res with conflicts := res.conflicts + 1 }
          else do
            match tally res (← k.apply name it access cur taken) with
            | none => pure (.error (res, .bindingInactive))
            | some res => adopt devices rest (k.takenAfter it cur taken) res

/-! ### Devices whose switch is gone -/

/-- The inventory has the switch of the device, by name or by serial number. -/
def present (items : List InventoryItem) (d : CiscoDevice) : Bool :=
  items.any (fun it => it.serial ≠ "" && deviceName it.serial = some d.name) ||
    (d.physicalIdentity ≠ "" && items.any fun it => it.serial = d.physicalIdentity)

/-- The time in the stamp, if there is one that can be read. -/
def stampedAt (d : CiscoDevice) : Option Int := d.missingSince.bind parseRFC3339Nano

structure MissingPass where
  res : DeviceSyncResult
  owned : Nat := 0
  due : List CiscoDevice := []

def MissingPass.fail (pass : MissingPass) : MissingPass :=
  { pass with res := { pass.res with failed := pass.res.failed + 1 } }

def patchMissingSince (d : CiscoDevice) (stamp : Option String) :
    Worker (Except ApplyError Unit) :=
  permitted (ask (.patchMissingSince d stamp))

/-- Of the devices in the listing, those due for deletion are collected; the
stamps of the others are set or cleared on the way. -/
def missingPass (now : Int) : List CiscoDevice → MissingPass →
    Worker (Except DeviceSyncResult MissingPass)
  | [], pass => pure (.ok pass)
  | d :: rest, pass =>
    if !k.owned d || d.deleting then missingPass now rest pass else
    let pass := { pass with owned := pass.owned + 1 }
    if present k.items d then
      if d.missingSince.isSome then do
        match ← patchMissingSince d none with
        | .error .bindingInactive => pure (.error pass.res)
        | .error (.api _) => missingPass now rest pass.fail
        | .ok () => missingPass now rest pass
      else missingPass now rest pass
    else
      let pass := { pass with res := { pass.res with missing := pass.res.missing + 1 } }
      match stampedAt d with
      | none => do
          match ← patchMissingSince d (some (formatRFC3339 now)) with
          | .error .bindingInactive => pure (.error pass.res)
          | .error (.api _) => missingPass now rest pass.fail
          | .ok () => missingPass now rest pass
      | some first =>
        if effectivePolicy k.adoption.removal = .prune ∧
            effectiveGracePeriod k.adoption.removal ≤ now - first then
          missingPass now rest { pass with due := pass.due ++ [d] }
        else missingPass now rest pass

def pruneLimit (owned : Nat) : Int :=
  let limit := (owned * effectiveMaxPrunePercent k.adoption.removal).tdiv 100
  if limit < 1 then 1 else limit

def prune : List CiscoDevice → DeviceSyncResult → Worker Step
  | [], res => pure (.ok res)
  | d :: rest, res => do
      if !(← ask .permit) then pure (.error (res, .bindingInactive)) else
      match ← ask (.delete d) with
      | .ok () => prune rest { res with pruned := res.pruned + 1 }
      | .error e =>
        if e.reason = .notFound then prune rest { res with pruned := res.pruned + 1 }
        else prune rest { res with failed := res.failed + 1 }

def reconcileMissing (devices : List CiscoDevice) (res : DeviceSyncResult) : Worker Step :=
  if k.items = [] then pure (.ok res) else do
  let now ← ask .now
  match ← k.missingPass now devices { res := res } with
  | .error res => pure (.error (res, .bindingInactive))
  | .ok pass =>
    if pass.due = [] then pure (.ok pass.res)
    else if (pass.due.length : Int) > k.pruneLimit pass.owned then
      pure (.ok { pass.res with pruneGuarded := pass.res.pruneGuarded + pass.due.length })
    else prune pass.due pass.res

def sync : Worker Step := do
  match ← ask .list with
  | .error e => pure (.error ({}, .list ("list CiscoDevices: " ++ e.text)))
  | .ok devices =>
    let snapshot := Snapshot.of devices
    match ← k.adopt snapshot k.adoptable snapshot.takenNodes { unreachable := k.unreachable } with
    | .error stop => pure (.error stop)
    | .ok res => k.reconcileMissing devices res

end Job

end VirtualKubelet.ControllerAdapter.NexusDashboard
