import VirtualKubelet.Go.Sha256
import VirtualKubelet.Rollout.Store

/-!
# The topology lock on a device

A campaign publishes a lock on the status of a device before it reserves the
device in the ledger, marks the lock `Releasing` before it cleans up, and
clears it last. The lock carries the whole identity of the transaction, and an
acquisition ID that tells it from every other lock of the same transaction.

Each function of the source reads an object, decides, and perhaps patches. The
decisions are modelled here as functions of what was read.
-/

namespace VirtualKubelet.Rollout

open Go Api

/-! ## Campaigns and their targets -/

structure CampaignDomain where
  topologyKey : String
  maxConcurrentTransfers : Option Int
  maxUnavailable : Option Int

/-- The rollout as the lock and the reservation name it, with the parts of its
spec that a reservation request reads. -/
structure Campaign where
  campaignNamespace : String
  campaignName : String
  campaignUID : String
  planHash : String
  controlRevision : Nat
  maxConcurrentTransfers : Int
  maxUnavailable : Int
  domains : List CampaignDomain

structure PlannedTarget where
  deviceName : String
  deviceUID : String
  deviceGeneration : Int
  physicalIdentity : String
  nodeName : String
  nodeUID : String
  projectionHash : String
  topology : List (String × String)
  riskGroups : List String
  canaryCohort : String
  wave : Int
  childName : String
  deriving DecidableEq

def deviceKey (c : Campaign) (target : PlannedTarget) : String :=
  c.campaignNamespace ++ "/" ++ target.deviceName

/-- Sixteen bytes of the digest, which are four of its words. -/
def reservationID (rolloutUID deviceUID : String) : String :=
  sha256Hex 4 (rolloutUID ++ "/" ++ deviceUID)

def targetDomains (target : PlannedTarget) : Map String :=
  target.topology.foldl (fun out entry => out.set entry.1 entry.2) ∅

def defaultInt32 (value fallback : Int) : Int := if 0 < value then value else fallback

/-- The campaign's own limits, transfers first. A campaign may limit only what
the administrator does. -/
def campaignDomainLimits (c : Campaign) (policy : Policy) :
    Except String (Map Int × Map Int) :=
  c.domains.foldlM (fun (transfers, unavailable) domain =>
    if policy.domainTransferBudgets.find domain.topologyKey = none ∧
        domain.maxConcurrentTransfers ≠ none then
      .error s!"campaign transfer domain {domain.topologyKey} is not administrator-controlled"
    else if policy.domainBudgets.find domain.topologyKey = none ∧
        domain.maxUnavailable ≠ none then
      .error s!"campaign unavailable domain {domain.topologyKey} is not administrator-controlled"
    else
      .ok (match domain.maxConcurrentTransfers with
          | some limit => transfers.set domain.topologyKey limit
          | none => transfers,
        match domain.maxUnavailable with
          | some limit => unavailable.set domain.topologyKey limit
          | none => unavailable)) (∅, ∅)

/-- The request of one target; the lock ID is filled in once it is known. -/
def rolloutReservationRequest (c : Campaign) (policy : Policy) (target : PlannedTarget)
    (topologyLockID : String) : Except String ReservationRequest :=
  match campaignDomainLimits c policy with
  | .error e => .error e
  | .ok (transferLimits, unavailableLimits) => .ok {
      id := reservationID c.campaignUID target.deviceUID
      campaignUID := c.campaignUID
      planHash := c.planHash
      policyUID := policy.uid
      policyVersion := policy.version
      policyEpoch := policy.epoch
      topologyLockID
      physicalID := target.physicalIdentity
      deviceUID := target.deviceUID
      nodeUID := target.nodeUID
      childNamespace := c.campaignNamespace
      childName := target.childName
      domains := targetDomains target
      riskGroups := target.riskGroups
      campaignMaxConcurrentTransfers := defaultInt32 c.maxConcurrentTransfers 1
      campaignMaxUnavailable := defaultInt32 c.maxUnavailable 1
      campaignTransferLimits := transferLimits
      campaignLimits := unavailableLimits
      controlRevision := c.controlRevision }

/-! ## Locks and devices -/

inductive LockState
  | active
  | releasing
  | other (text : String)
  deriving DecidableEq

structure DeviceTopologyLock where
  state : LockState
  policyEpoch : Int
  acquisitionID : String
  campaignNamespace : String
  campaignName : String
  campaignUID : String
  planHash : String
  reservationID : String
  deviceUID : String
  deviceGeneration : Int
  nodeUID : String
  projectionHash : String
  acquiredAt : Time
  deriving DecidableEq

structure NodeIdentity where
  deviceUID : String
  nodeName : String
  nodeUID : String
  deriving DecidableEq

/-- A CiscoDevice, as far as the lock functions look at it. -/
structure Device where
  uid : String
  generation : Int
  driver : String
  deleting : Bool
  nodeIdentity : Option NodeIdentity
  effectiveLabelHash : Option String
  topologyLock : Option DeviceTopologyLock
  deriving DecidableEq

def expectedDeviceTopologyLock (c : Campaign) (target : PlannedTarget) (policyEpoch : Int)
    (acquisitionID : String) (acquiredAt : Time) : DeviceTopologyLock where
  state := .active
  policyEpoch
  acquisitionID
  campaignNamespace := c.campaignNamespace
  campaignName := c.campaignName
  campaignUID := c.campaignUID
  planHash := c.planHash
  reservationID := reservationID c.campaignUID target.deviceUID
  deviceUID := target.deviceUID
  deviceGeneration := target.deviceGeneration
  nodeUID := target.nodeUID
  projectionHash := target.projectionHash
  acquiredAt

def DeviceTopologyLock.acquisition (lock : DeviceTopologyLock) : DeviceTopologyLock :=
  { lock with state := .other "", acquiredAt := 0 }

def topologyLockAcquisitionEqual (actual expected : DeviceTopologyLock) : Bool :=
  !Time.isZero actual.acquiredAt && actual.acquisition == expected.acquisition

def topologyLockIdentityEqual (actual expected : DeviceTopologyLock) : Bool :=
  !Time.isZero actual.acquiredAt && actual.state == expected.state &&
    topologyLockAcquisitionEqual actual expected

/-- Everything but the acquisition ID: a lock of the same transaction. -/
def topologyLockCoordinatesEqual (actual expected : DeviceTopologyLock) : Bool :=
  !Time.isZero actual.acquiredAt &&
    { actual.acquisition with acquisitionID := "" } ==
      { expected.acquisition with acquisitionID := "" }

def validateTopologyLockTarget (d : Device) (target : PlannedTarget) : Option String :=
  firstError
    [(d.deleting || d.uid != target.deviceUID || d.generation != target.deviceGeneration ||
        d.driver != "XE",
      "CiscoDevice incarnation, generation, or driver changed before topology reservation"),
     (d.nodeIdentity != some ⟨target.deviceUID, target.nodeName, target.nodeUID⟩,
      "CiscoDevice Node identity changed before topology reservation"),
     (d.effectiveLabelHash != some target.projectionHash,
      "CiscoDevice topology projection changed before topology reservation")]

/-! ## The decisions -/

/-- What `acquireDeviceTopologyLock` does with the device it read. -/
inductive AcquireRead
  | fail (text : String)
  | recovered (lock : DeviceTopologyLock)
  | publish

def acquireRead (d : Device) (target : PlannedTarget) (expected : DeviceTopologyLock) :
    AcquireRead :=
  match validateTopologyLockTarget d target with
  | some e => .fail e
  | none =>
    match d.topologyLock with
    | none => .publish
    | some lock =>
      if !topologyLockCoordinatesEqual lock expected then
        .fail "CiscoDevice already has a different active topology lock"
      else
        match lock.state with
        | .releasing => .fail "CiscoDevice topology lock is being released"
        | .other _ => .fail "CiscoDevice topology lock has invalid state"
        | .active => .recovered lock

def revalidateDeviceTopologyLock (d : Device) (c : Campaign) (target : PlannedTarget)
    (policyEpoch : Int) (acquisitionID : String) : Option String :=
  (validateTopologyLockTarget d target).or <|
    match d.topologyLock with
    | some lock =>
      if topologyLockIdentityEqual lock
          (expectedDeviceTopologyLock c target policyEpoch acquisitionID 0) then none
      else some "CiscoDevice topology lock no longer matches the reservation transaction"
    | none => some "CiscoDevice topology lock no longer matches the reservation transaction"

/-- What the two release functions do with the device they read: give up,
return at once, or patch. -/
inductive ReleaseRead
  | fail (text : String)
  | done
  | patch
  deriving DecidableEq

def beginReleaseRead (d : Device) (expected : DeviceTopologyLock) : ReleaseRead :=
  match d.topologyLock with
  | none => .done
  | some lock =>
    if !topologyLockAcquisitionEqual lock expected then
      .fail "refusing to release a different CiscoDevice topology lock"
    else
      match lock.state with
      | .releasing => .done
      | .active => .patch
      | .other _ => .fail "CiscoDevice topology lock has invalid state"

/-- The first half of `releaseDeviceTopologyLock`: the ledger holds no
reservation for the device, and exactly this acquisition's fence. -/
def releaseLedgerError (l : Ledger) (expected : DeviceTopologyLock) : Option String :=
  firstError
    [(decide (¬ l.reservations.Every fun _ r => r.deviceUID ≠ expected.deviceUID),
      "topology lock cannot be released while a reservation remains"),
     (!hasReleaseFence l expected.reservationID expected.policyEpoch expected.acquisitionID,
      "topology lock cannot be cleared before its exact ledger release fence is durable")]

def clearReleaseRead (d : Device) (expected : DeviceTopologyLock) : ReleaseRead :=
  match d.topologyLock with
  | none => .done
  | some lock =>
    if !topologyLockAcquisitionEqual lock expected then
      .fail "refusing to release a different CiscoDevice topology lock"
    else if lock.state ≠ .releasing then
      .fail "refusing to clear a topology lock before its durable release fence"
    else .patch

end VirtualKubelet.Rollout
