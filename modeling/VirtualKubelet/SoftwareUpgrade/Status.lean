import Mathlib.Data.List.Sort
import VirtualKubelet.Rollout.Leaf

/-!
# Software upgrades

The `IOSXESoftwareUpgrade` object as its worker reads and writes it. Texts
meant for people, the observed generation, the running version and the
inventory state are left out; no decision of the worker depends on them.

A device mutation has six stages. Each has a requested marker in the status
that is written before its RPC is sent, and three of the markers can also be
read off a condition, which is how older workers recorded them. On a managed
leaf the marker comes with a claim.
-/

namespace VirtualKubelet.SoftwareUpgrade

open Go Rollout

inductive ExecutionModel
  | absent
  | atMostOnceV1
  | other (name : String)
  deriving DecidableEq

inductive Stage
  | staging
  | primaryInstall
  | standbyInstall
  | standbyActivation
  | primaryActivation
  | rollbackActivation
  deriving DecidableEq

def Stage.text : Stage → String
  | .staging => "Staging"
  | .primaryInstall => "PrimaryInstall"
  | .standbyInstall => "StandbyInstall"
  | .standbyActivation => "StandbyActivation"
  | .primaryActivation => "PrimaryActivation"
  | .rollbackActivation => "RollbackActivation"

structure ManagedMutationClaim where
  stage : Stage
  reservationID : String
  policyEpoch : Int
  controlRevision : Int
  claimedAt : Time
  deriving DecidableEq

inductive WorkerControlState
  | denied
  | ready
  | paused
  | cancelled
  | claimed
  | settled
  deriving DecidableEq

structure WorkerControl where
  observedAdmissionState : AdmissionState
  observedPolicyEpoch : Int
  observedControlRevision : Int
  observedWorkerConfigRevision : String
  effectiveState : WorkerControlState
  updatedAt : Time
  message : String
  deriving DecidableEq

inductive ConditionType
  | ready
  | imageResolved
  | staged
  | transferred
  | validated
  | activated
  | deviceReachable
  | verified
  | rollback
  | mutationSettled
  deriving DecidableEq

structure Condition where
  status : Bool
  reason : String
  deriving DecidableEq

structure TransferProgress where
  bytesTransferred : Nat
  totalBytes : Nat
  deriving DecidableEq

/-- `conditions` is the condition list, which holds at most one of each type.
Receipts and invalidations are only ever compared as a whole; they are kept as
their hashes. -/
structure Status where
  phase : UpgradePhase := .unset
  executionModel : ExecutionModel := .absent
  managerAdmission : Option ManagerAdmission := none
  managerControl : Option ManagerControl := none
  managerInvalidation : Option String := none
  preparedInvalidation : Option String := none
  workerControl : Option WorkerControl := none
  managedMutationClaims : List ManagedMutationClaim := []
  conditions : ConditionType → Option Condition := fun _ => none
  transferProgress : Option TransferProgress := none
  sourceDigest : String := ""
  sourceSize : Nat := 0
  preparedReceipt : Option String := none
  stagingOperationID : String := ""
  stagingRequested : Bool := false
  previousVersion : String := ""
  validatedVersion : String := ""
  individualSupervisorInstall : Bool := false
  primarySupervisorInstalled : Bool := false
  primarySupervisorInstallRequested : Bool := false
  standbySupervisorInstalled : Bool := false
  standbySupervisorInstallRequested : Bool := false
  primarySupervisorActivationRequested : Bool := false
  standbySupervisorActivationRequested : Bool := false
  standbySupervisorActivated : Bool := false
  rollbackActivationRequested : Bool := false
  noRebootActivationAccepted : Bool := false
  startTime : Option Time := none
  installStartTime : Option Time := none
  activationStartTime : Option Time := none
  activationControlStartTime : Option Time := none
  rollbackStartTime : Option Time := none
  completionTime : Option Time := none
  failureReason : String := ""

inductive Strategy
  | reload
  | noReboot
  | issu
  | prepareOnly
  deriving DecidableEq

inductive ImageSource
  | streamed
  | deviceFile
  | preinstalled
  | localPath
  deriving DecidableEq

/-- `managed` says that the managed annotation is `"true"`; `bindings` stands
for the other annotations that a stale copy is recognised by. -/
structure Upgrade where
  uid : String
  resourceVersion : Nat
  managed : Bool
  bindings : List String
  generation : Int
  creationTimestamp : Time
  targetVersion : String
  strategy : Strategy
  imageSource : ImageSource
  deleting : Bool
  finalizer : Bool
  status : Status

/-! ## Conditions -/

def Status.setCondition (s : Status) (type : ConditionType) (status : Bool) (reason : String) :
    Status :=
  { s with conditions := Function.update s.conditions type (some ⟨status, reason⟩) }

def Status.setReady (s : Status) (status : Bool) (reason : String) : Status :=
  s.setCondition .ready status reason

def Status.hasReason (s : Status) (type : ConditionType) (reason : String) : Bool :=
  (s.conditions type).any (·.reason == reason)

def Status.isConditionTrue (s : Status) (type : ConditionType) : Bool :=
  (s.conditions type).any (·.status)

def readyReason (s : Status) : String :=
  ((s.conditions .ready).map (·.reason)).getD ""

/-! ## Phases -/

def isTerminalFailurePhase : UpgradePhase → Bool
  | .failed | .preflightFailed | .validationFailed | .rolledBack | .rebootTimeout
  | .cancelled => true
  | _ => false

def terminalUpgradePhase (phase : UpgradePhase) : Bool :=
  phase == .succeeded || phase == .prepared || phase == .preparedInvalidated ||
    phase == .stagedForNextBoot || isTerminalFailurePhase phase

def successfulUpgradeOutcome (phase : UpgradePhase) : Bool :=
  phase == .succeeded || phase == .prepared || phase == .stagedForNextBoot ||
    phase == .rolledBack

def upgradePhaseMayHaveDispatchedMutation : UpgradePhase → Bool
  | .unset | .pending | .resolving | .succeeded | .stagedForNextBoot | .preflightFailed
  | .rolledBack | .cancelled => false
  | _ => true

/-! ## Markers -/

def Status.requested (s : Status) : Stage → Bool
  | .staging => s.stagingRequested
  | .primaryInstall => s.primarySupervisorInstallRequested
  | .standbyInstall => s.standbySupervisorInstallRequested
  | .standbyActivation => s.standbySupervisorActivationRequested
  | .primaryActivation => s.primarySupervisorActivationRequested
  | .rollbackActivation => s.rollbackActivationRequested

def stagingRequestSubmitted (s : Status) : Bool :=
  s.stagingRequested || s.hasReason .staged "StagingRequested"

def installAttemptRequested (s : Status) (standby : Bool) : Bool :=
  if standby then s.standbySupervisorInstallRequested else s.primarySupervisorInstallRequested

def primaryActivationRequestSubmitted (s : Status) : Bool :=
  s.primarySupervisorActivationRequested || s.hasReason .activated "ActivationRequested"

def rollbackRequestSubmitted (s : Status) : Bool :=
  s.rollbackActivationRequested || s.hasReason .rollback "RollbackRequested" ||
    s.hasReason .rollback "RollbackDispatched"

def managedMutationMarkers (s : Status) : Stage → Bool
  | .staging => stagingRequestSubmitted s
  | .primaryInstall => s.primarySupervisorInstallRequested
  | .standbyInstall => s.standbySupervisorInstallRequested
  | .standbyActivation => s.standbySupervisorActivationRequested
  | .primaryActivation => primaryActivationRequestSubmitted s
  | .rollbackActivation => rollbackRequestSubmitted s

/-- The standby supervisor's install is looked at first. -/
def unresolvedInstallAttempt (s : Status) : Option Bool :=
  if s.standbySupervisorInstallRequested && !s.standbySupervisorInstalled then some true
  else if s.primarySupervisorInstallRequested && !s.primarySupervisorInstalled then some false
  else none

def managedMutationNeedsObservation (s : Status) : Bool :=
  if terminalUpgradePhase s.phase then false
  else
    match s.phase with
    | .staging | .validating => stagingRequestSubmitted s
    | .transferring | .transferInterrupted =>
      s.primarySupervisorInstallRequested && !s.primarySupervisorInstalled ||
        s.standbySupervisorInstallRequested && !s.standbySupervisorInstalled
    | .activating | .awaitingReachability | .verifying =>
      s.standbySupervisorActivationRequested && !s.standbySupervisorActivated ||
        primaryActivationRequestSubmitted s
    | .rollingBack => rollbackRequestSubmitted s
    | _ => false

/-! ## What may have reached the device -/

def unsupportedExecutionModel (s : Status) : Bool :=
  s.executionModel != .absent && s.executionModel != .atMostOnceV1

/-- Failure reasons that say an outcome is unknown although no marker says so. -/
def outcomeUnknownReason (reason : String) : Bool :=
  reason == "LegacyStateOutcomeUnknown" || reason == "InstallAttemptMarkerMissing" ||
    reason == "StagingOperationMissing"

def conditionImpliesMutation (s : Status) : Bool :=
  s.hasReason .staged "StagingRequested" ||
    s.hasReason .mutationSettled "MutationRequested" ||
    s.hasReason .transferred "InstallRequested" ||
    s.hasReason .transferred "InstallObservationPending" ||
    s.hasReason .transferred "InstallInProgress" ||
    s.hasReason .transferred "SupervisorSync" ||
    s.hasReason .transferred "Transferred" ||
    s.hasReason .activated "ActivationRequested" ||
    s.hasReason .activated "StandbyActivationRequested" ||
    s.hasReason .rollback "RollbackRequested" ||
    s.hasReason .rollback "RollbackDispatched"

def upgradeMutationSubmitted (s : Status) : Bool :=
  unsupportedExecutionModel s ||
    (s.executionModel == .absent && upgradePhaseMayHaveDispatchedMutation s.phase) ||
    outcomeUnknownReason s.failureReason ||
    (s.stagingRequested || s.installStartTime.isSome || s.activationStartTime.isSome ||
      s.rollbackStartTime.isSome || s.transferProgress.isSome ||
      s.primarySupervisorInstallRequested || s.primarySupervisorInstalled ||
      s.standbySupervisorInstallRequested || s.standbySupervisorInstalled ||
      s.standbySupervisorActivationRequested || s.standbySupervisorActivated ||
      s.primarySupervisorActivationRequested || s.noRebootActivationAccepted ||
      s.rollbackActivationRequested) ||
    conditionImpliesMutation s

def retainMutationLeaseUntilExpiry (s : Status) : Bool :=
  if unsupportedExecutionModel s then true
  else if outcomeUnknownReason s.failureReason then true
  else if !upgradeMutationSubmitted s then false
  else !successfulUpgradeOutcome s.phase && !s.isConditionTrue .mutationSettled

/-- `LegacyIOSXEQuarantineTTL`, 26 hours in nanoseconds. -/
def legacyIOSXEQuarantineTTL : Int := 26 * 60 * 60 * 1000000000

/-- The latest of the times the object carries. -/
def Upgrade.quarantineAnchor (up : Upgrade) : Time :=
  [up.status.startTime, up.status.installStartTime, up.status.activationStartTime,
    up.status.rollbackStartTime, up.status.completionTime].foldl
      (fun anchor candidate => match candidate with
        | some t => if anchor < t then t else anchor
        | none => anchor)
      up.creationTimestamp

def upgradeRequiresQuarantineAt (up : Upgrade) (now : Time) : Bool :=
  if unsupportedExecutionModel up.status then true
  else if up.status.executionModel != .absent then false
  else
    match up.status.phase with
    | .unset | .pending | .resolving | .succeeded | .stagedForNextBoot | .preflightFailed
    | .rolledBack | .cancelled => false
    | .failed | .validationFailed | .rebootTimeout =>
      Time.isZero up.quarantineAnchor ||
        decide (0 < up.quarantineAnchor + legacyIOSXEQuarantineTTL - now)
    | _ => true

/-! ## Stale copies -/

def managedStatusCASMatches (expected current : Upgrade) : Bool :=
  expected.uid == current.uid && expected.managed == current.managed &&
    expected.bindings == current.bindings &&
    expected.status.managerAdmission == current.status.managerAdmission &&
    expected.status.managerControl == current.status.managerControl &&
    expected.status.workerControl == current.status.workerControl &&
    expected.status.managedMutationClaims == current.status.managedMutationClaims

def upgradeStatusCASMatches (expected current : Upgrade) : Bool :=
  let e := expected.status
  let c := current.status
  expected.generation == current.generation && e.phase == c.phase &&
    e.executionModel == c.executionModel && managedStatusCASMatches expected current &&
    e.sourceDigest == c.sourceDigest && e.sourceSize == c.sourceSize &&
    e.preparedReceipt == c.preparedReceipt &&
    e.managerInvalidation == c.managerInvalidation &&
    e.preparedInvalidation == c.preparedInvalidation &&
    e.stagingOperationID == c.stagingOperationID &&
    e.stagingRequested == c.stagingRequested &&
    e.previousVersion == c.previousVersion && e.validatedVersion == c.validatedVersion &&
    e.individualSupervisorInstall == c.individualSupervisorInstall &&
    e.primarySupervisorInstalled == c.primarySupervisorInstalled &&
    e.primarySupervisorInstallRequested == c.primarySupervisorInstallRequested &&
    e.standbySupervisorInstalled == c.standbySupervisorInstalled &&
    e.standbySupervisorInstallRequested == c.standbySupervisorInstallRequested &&
    e.primarySupervisorActivationRequested == c.primarySupervisorActivationRequested &&
    e.standbySupervisorActivationRequested == c.standbySupervisorActivationRequested &&
    e.standbySupervisorActivated == c.standbySupervisorActivated &&
    e.rollbackActivationRequested == c.rollbackActivationRequested &&
    e.noRebootActivationAccepted == c.noRebootActivationAccepted &&
    e.installStartTime.isNone == c.installStartTime.isNone &&
    e.activationControlStartTime.isNone == c.activationControlStartTime.isNone

/-! ## Claims -/

def claimsOf (s : Status) (stage : Stage) : Nat :=
  s.managedMutationClaims.countP (·.stage == stage)

/-- The first claim the coverage check rejects, and then the first stage whose
marker and claim disagree. The source walks the markers in map order. -/
def validateManagedClaimCoverage (s : Status) (currentRevision : Int) : Option String :=
  match s.managerAdmission with
  | none => some "managed mutation claims have no manager admission"
  | some admission =>
    let claims := s.managedMutationClaims
    let rejected := claims.findSome? fun claim =>
      if 1 < claimsOf s claim.stage then
        some ("duplicate managed mutation claim for stage " ++ claim.stage.text)
      else if claim.reservationID != admission.reservationID then
        some ("managed " ++ claim.stage.text ++ " claim reservation does not match admission")
      else if decide (claim.policyEpoch < 1) || claim.policyEpoch != admission.policyEpoch then
        some ("managed " ++ claim.stage.text ++ " claim policy epoch does not match admission")
      else if decide (claim.controlRevision < 0) || decide (currentRevision < claim.controlRevision)
      then some ("managed " ++ claim.stage.text ++ " claim revision is outside current revision")
      else if Time.isZero claim.claimedAt then
        some ("managed " ++ claim.stage.text ++ " claim has no durable claim timestamp")
      else none
    match rejected with
    | some e => some e
    | none =>
      [Stage.staging, .primaryInstall, .standbyInstall, .standbyActivation, .primaryActivation,
        .rollbackActivation].findSome? fun stage =>
          if managedMutationMarkers s stage != decide (0 < claimsOf s stage) then
            some ("managed " ++ stage.text ++ " durable marker/claim mismatch")
          else none

/-- `none` is the error: no admitted reservation, or a claim of the stage
without its marker. The claims stay sorted by stage. -/
def addManagedMutationClaim (s : Status) (stage : Stage) (policyEpoch revision : Int)
    (now : Time) : Option Status :=
  match s.managerAdmission with
  | none => none
  | some admission =>
    if blank admission.reservationID then none
    else if s.managedMutationClaims.any (·.stage == stage) then none
    else
      let claim := ⟨stage, admission.reservationID, policyEpoch, revision, now⟩
      some { s with
        managedMutationClaims :=
          (s.managedMutationClaims ++ [claim]).insertionSort (·.stage.text ≤ ·.stage.text) }

end VirtualKubelet.SoftwareUpgrade
