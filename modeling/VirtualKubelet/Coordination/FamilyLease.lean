import VirtualKubelet.Api.Slot
import VirtualKubelet.Go.Map
import VirtualKubelet.Go.Sha256
import VirtualKubelet.Go.Text

/-!
# The Lease of one device and family

`FamilyLeaser` serialises the writers of one configuration family, and the
disruptive operations of one device, by a coordination Lease. Its three
operations sample the clock once, read the Lease and write it back under the
resourceVersion they read. Times are microseconds, as the API stores them.
-/

namespace VirtualKubelet.Coordination

open Go Api Program

def mutationLeaseFamily : String := "device-disruptive-mutation"

def retainLeaseAnnotation : String := "topology.cisco.vk/retain-lease"

/-- The annotations that make up one maintenance request. -/
def maintenanceRequestKeys : List String :=
  ["topology.cisco.vk/maintenance-request-version",
   "topology.cisco.vk/maintenance-session-token",
   "topology.cisco.vk/maintenance-requested-at",
   "topology.cisco.vk/maintenance-operation-namespace",
   "topology.cisco.vk/maintenance-operation-name",
   "topology.cisco.vk/maintenance-operation-uid",
   "topology.cisco.vk/maintenance-control-revision", "topology.cisco.vk/maintenance-purpose"]

structure Lease where
  uid : Nat := 0
  annotations : Go.Map String := ∅
  holderIdentity : Option String := none
  leaseDurationSeconds : Option Int := none
  acquireTime : Option Int := none
  renewTime : Option Int := none
  leaseTransitions : Option Int32 := none
  deriving DecidableEq

/-- Conversion to `int32`. -/
def int32 (n : Int) : Int := n.bmod (2 ^ 32)

def microsPerSecond : Int := 1000000

namespace Lease

/-- The holder, empty if there is none. -/
def holder (lease : Lease) : String := lease.holderIdentity.getD ""

def retained (lease : Lease) : Bool := lease.annotations.get "" retainLeaseAnnotation == "true"

/-- Request annotations belong to one holder only. -/
def clearMaintenanceRequest (lease : Lease) : Lease :=
  if lease.retained then
    { lease with annotations := maintenanceRequestKeys.foldl Go.Map.delete lease.annotations }
  else lease

/-- When the window of the last renewal ends. -/
def expiry (lease : Lease) : Option Int := do
  let renewTime ← lease.renewTime
  let seconds ← lease.leaseDurationSeconds
  pure (renewTime + seconds * microsPerSecond)

/-- A Lease without a renewal is treated as expired. -/
def leaseExpired (lease : Lease) (now : Int) : Bool :=
  match lease.expiry with
  | none => true
  | some expiry => expiry < now

def nextTransitions (lease : Lease) : Int32 :=
  match lease.leaseTransitions with
  | none => 1
  | some transitions => transitions + 1

/-- The Lease as a caller that finds none creates it. -/
def created (identity : String) (ttlSeconds now : Int) : Lease where
  holderIdentity := some identity
  leaseDurationSeconds := some ttlSeconds
  acquireTime := some now
  renewTime := some now
  leaseTransitions := some 1

def renewed (lease : Lease) (ttlSeconds now : Int) : Lease :=
  { lease with renewTime := some now, leaseDurationSeconds := some ttlSeconds }

/-- A new acquisition: the request of the holder before goes with it. -/
def takenOver (lease : Lease) (identity : String) (ttlSeconds now : Int) : Lease :=
  { lease.clearMaintenanceRequest with
    holderIdentity := some identity
    acquireTime := some now
    renewTime := some now
    leaseDurationSeconds := some ttlSeconds
    leaseTransitions := some lease.nextTransitions }

/-- A retained Lease after its release. The mutation family keeps counting its
transitions, the others return to the empty form. -/
def released (lease : Lease) (family : String) : Lease :=
  { lease.clearMaintenanceRequest with
    holderIdentity := none
    acquireTime := none
    renewTime := none
    leaseDurationSeconds := none
    leaseTransitions :=
      if family ≠ mutationLeaseFamily then none else lease.leaseTransitions }

end Lease

/-! ## Lease names -/

/-- Lowercases ASCII letters, passes digits, and replaces every other
character by a dash. -/
def sanitiseChar (c : Char) : Char :=
  if 'a' ≤ c && c ≤ 'z' then c
  else if 'A' ≤ c && c ≤ 'Z' then c.toLower
  else if isDigit c then c
  else '-'

/-- Runs of dashes become one. -/
def collapseDashes : List Char → List Char
  | '-' :: '-' :: rest => collapseDashes ('-' :: rest)
  | c :: rest => c :: collapseDashes rest
  | [] => []

def sanitiseLeaseSegment (s : String) : String :=
  let collapsed := collapseDashes (s.toList.map sanitiseChar)
  let trimmed := ((collapsed.dropWhile (· == '-')).reverse.dropWhile (· == '-')).reverse
  if trimmed.isEmpty then "x" else String.ofList trimmed

def maxNameLen : Nat := 253

def leaseName (device family : String) : String :=
  let d := sanitiseLeaseSegment device
  let f := sanitiseLeaseSegment family
  let hash := sha256Hex 1 (device ++ "/" ++ family)
  let name := "cvk-" ++ d ++ "-" ++ f ++ "-" ++ hash
  if name.utf8ByteSize > maxNameLen then
    let tail := "-" ++ hash
    let room := maxNameLen - 4 - tail.utf8ByteSize
    let middle := String.ofList ((d ++ "-" ++ f).toList.take room)
    "cvk-" ++ trimRight ['-'] middle ++ tail
  else name

/-! ## The operations -/

/-- The requests of the leaser: the clock, and the API calls on its Lease. -/
inductive Verb
  | now
  | get
  | create (lease : Lease)
  | update (copy : Object Lease) (lease : Lease)
  | delete (uid resourceVersion : Nat)

abbrev Reply : Verb → Type
  | .now => Int
  | .get => Answer (Object Lease)
  | .create _ | .update .. | .delete .. => Answer Unit

abbrev Lessee (α : Type) := Program Verb Reply α

def timeNow : Lessee Int := request Verb.now

def getLease : Lessee (Answer (Object Lease)) := request Verb.get

def createLease (lease : Lease) : Lessee (Answer Unit) := request (Verb.create lease)

def updateLease (copy : Object Lease) (lease : Lease) : Lessee (Answer Unit) :=
  request (Verb.update copy lease)

def deleteLease (uid resourceVersion : Nat) : Lessee (Answer Unit) :=
  request (Verb.delete uid resourceVersion)

structure LeaseResult where
  owned : Bool
  holder : String
  deriving DecidableEq

structure FamilyLeaser where
  /-- A client is configured. -/
  client : Bool
  «namespace» : String
  deviceKey : String
  requireExisting : Bool
  /-- Nanoseconds; zero means thirty seconds. -/
  ttl : Int
  deriving DecidableEq

namespace FamilyLeaser

variable (l : FamilyLeaser)

def leaseDeviceKey (device : String) : String :=
  if l.deviceKey ≠ "" then l.deviceKey else device

def ttlSeconds : Int :=
  let ttl := if l.ttl ≤ 0 then 30 * 1000000000 else l.ttl
  let seconds := int32 (ttl / 1000000000)
  if seconds < 1 then 1 else seconds

/-- The two checks every operation starts with. -/
def unusable : Option String :=
  if !l.client then some "FamilyLeaser: nil Client"
  else if l.namespace = "" then some "FamilyLeaser: empty Namespace"
  else none

/-- The shared path for an existing Lease. -/
def renewOrReport (copy : Object Lease) (identity : String) (now : Int) :
    Lessee (Except String LeaseResult) := do
  let lease := copy.content
  if lease.holder = identity then
    match ← updateLease copy (lease.renewed l.ttlSeconds now) with
    | .error e =>
      -- A stale read is no proof that the Lease is still ours.
      if e.reason = .conflict then pure (.ok ⟨false, lease.holder⟩)
      else pure (.error ("renew lease: " ++ e.text))
    | .ok _ => pure (.ok ⟨true, identity⟩)
  else if lease.leaseExpired now then
    match ← updateLease copy (lease.takenOver identity l.ttlSeconds now) with
    | .error e =>
      if e.reason = .conflict then pure (.ok ⟨false, lease.holder⟩)
      else pure (.error ("takeover lease: " ++ e.text))
    | .ok _ => pure (.ok ⟨true, identity⟩)
  else pure (.ok ⟨false, lease.holder⟩)

/-- Creates the Lease, or goes on with the one another caller created first. -/
def createOr (identity : String) (now : Int)
    (existing : Object Lease → Lessee (Except String LeaseResult)) :
    Lessee (Except String LeaseResult) := do
  match ← createLease (.created identity l.ttlSeconds now) with
  | .error e =>
    if e.reason ≠ .alreadyExists then pure (.error ("create lease: " ++ e.text))
    else
      match ← getLease with
      | .error e => pure (.error ("re-read lease after conflict: " ++ e.text))
      | .ok copy => existing copy
  | .ok _ => pure (.ok ⟨true, identity⟩)

/-- The first read of both acquiring operations. -/
def readOrCreate (name identity : String) (now : Int)
    (existing : Object Lease → Lessee (Except String LeaseResult)) :
    Lessee (Except String LeaseResult) := do
  match ← getLease with
  | .error e =>
    if e.reason ≠ .notFound then pure (.error ("get lease: " ++ e.text))
    else if l.requireExisting then
      pure (.error ("required pre-created lease " ++ name ++ " is missing"))
    else l.createOr identity now existing
  | .ok copy => existing copy

/-- Creates or renews the Lease with `identity` as the holder, or takes over
one that has expired. -/
def acquire (device family identity : String) : Lessee (Except String LeaseResult) :=
  match l.unusable with
  | some e => pure (.error e)
  | none => do
      let now ← timeNow
      l.readOrCreate (leaseName (l.leaseDeviceKey device) family) identity now
        fun copy => l.renewOrReport copy identity now

/-- What `acquireIfFree` does with an existing Lease. -/
def claimIfFree (copy : Object Lease) (identity : String) (now : Int) :
    Lessee (Except String LeaseResult) := do
  let lease := copy.content
  if lease.holder = "" || lease.holder = identity then
    -- An empty holder is a new acquisition; the same holder is only a renewal.
    let written :=
      if lease.holder ≠ identity then lease.takenOver identity l.ttlSeconds now
      else { lease.renewed l.ttlSeconds now with holderIdentity := some identity }
    match ← updateLease copy written with
    | .error e =>
      if e.reason = .conflict then pure (.ok ⟨false, lease.holder⟩)
      else pure (.error ("renew lease: " ++ e.text))
    | .ok _ => pure (.ok ⟨true, identity⟩)
  else pure (.ok ⟨false, lease.holder⟩)

/-- Owns the Lease only if it is unheld or already held by `identity`, never by
taking over from another holder. -/
def acquireIfFree (device family identity : String) : Lessee (Except String LeaseResult) :=
  match l.unusable with
  | some e => pure (.error e)
  | none => do
      let now ← timeNow
      l.readOrCreate (leaseName (l.leaseDeviceKey device) family) identity now
        fun copy => l.claimIfFree copy identity now

/-- One attempt of `release`. A retained Lease is cleared, any other is deleted
under the preconditions of the copy. -/
def releaseOnce (family identity : String) : Lessee (Answer Unit) := do
  match ← getLease with
  | .error e =>
    if e.reason = .notFound && !l.requireExisting then pure (.ok ()) else pure (.error e)
  | .ok copy =>
    if copy.content.holderIdentity ≠ some identity then pure (.ok ())
    else if copy.content.retained then
      updateLease copy (copy.content.released family)
    else
      match ← deleteLease copy.content.uid copy.resourceVersion with
      | .error e =>
        if e.reason = .notFound || e.reason = .conflict then pure (.ok ())
        else pure (.error e)
      | .ok _ => pure (.ok ())

/-- Clears our ownership if we still have it. -/
def release (device family identity : String) : Lessee (Except String Unit) :=
  match l.unusable with
  | some e => pure (.error e)
  | none => do
      let name := leaseName (l.leaseDeviceKey device) family
      match ← retryOnConflict (l.releaseOnce family identity) defaultBackoff with
      | .error e =>
        if e.reason = .notFound && l.requireExisting then
          pure (.error ("required pre-created lease " ++ name ++ " is missing during release"))
        else pure (.error ("release lease " ++ name ++ ": " ++ e.text))
      | .ok _ => pure (.ok ())

end FamilyLeaser

end VirtualKubelet.Coordination
