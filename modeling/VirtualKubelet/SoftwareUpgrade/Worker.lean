import VirtualKubelet.Program
import VirtualKubelet.SoftwareUpgrade.Status

/-!
# The upgrade worker

The reconciler of one upgrade object as a program. Its calls are the reads and
writes of the object, the mutation Lease, the device, the clock, and questions:
every test of the source whose answer lies outside the object (the device's
inventory and versions, other API objects, deadlines, the image) is a question,
and its answer picks the branch. What the object itself decides is computed.

The reconcile result, events, logs and metrics are left out. A call that fails
ends the reconcile as in the source.
-/

namespace VirtualKubelet.SoftwareUpgrade

open Go Rollout Program

/-- One of the values of a table. -/
abbrev OneOf {α : Type} (table : List α) := { a : α // a ∈ table }

/-! ## Calls -/

inductive Fetched
  | failed
  | missing
  | found (up : Upgrade)

inductive Written
  | ok
  | conflict
  | failed

/-- What `ensureCanonicalLegacyQuarantine` and `Acquire` come to. -/
inductive LeaseReply
  | guardError
  /-- Another object's unknown outcome is quarantined first. -/
  | quarantined
  /-- The upgrade itself is the canonical risk, and its Lease was renewed. -/
  | ownsRisk
  | acquireError
  | blocked
  | owned

inductive QuarantineReply
  | error
  | blocked
  | owned

/-- Reasons of `permanentGNOIError`. -/
def gnoiFailures : List String :=
  ["DeviceNotProvisioned", "GNOIUnsupported", "GNOIUnauthenticated", "GNOIPermissionDenied",
    "GNOIInvalidArgument", "GNOIFailedPrecondition", "GNOINotFound"]

/-- Install errors that the device reports as final. -/
inductive InstallErrorType
  | incompatible
  | tooLarge
  | parseFail
  | integrityFail
  | installRunPackage
  | notSupportedBackup

inductive InstallError
  | installInProgress
  | hard (type : InstallErrorType)
  /-- An unexpected switchover or a failed synchronisation. -/
  | uncertain
  | otherTyped
  | permanent (reason : OneOf gnoiFailures)
  | untyped

inductive InstallEvent
  | err (e : InstallError)
  | transferReady
  | transferProgress (bytesReceived : Nat)
  | syncProgress (percentage : Nat)
  | validated (version : String)

inductive StagingResponse
  | rejected
  | lost
  | mismatched
  | accepted

inductive ActivateResponse
  | accepted
  | mayHaveStarted
  | rejected

/-- How the device answers the RPC of a stage. An install is a stream. -/
abbrev Response : Stage → Type
  | .staging => StagingResponse
  | .primaryInstall | .standbyInstall => Except InstallError (List InstallEvent)
  | .standbyActivation | .primaryActivation | .rollbackActivation => ActivateResponse

/-! ### Questions -/

/-- What bars a claim once the manager's grant allows it. -/
inductive ClaimBar
  | networkEvidence (e : String)
  | workloadGate (e : String)
  | campaignPeer (e : String)
  | workloadCheck (e : String)
  | workloadsRunning (text : String)
  | deviceWorkloadCheck (text : String)
  | deviceWorkloadsRunning (text : String)

def ClaimBar.reason : ClaimBar → String
  | .networkEvidence _ => "NetworkEvidenceAuthorityInvalid"
  | .workloadGate _ => "WorkloadGateUnavailable"
  | .campaignPeer _ => "CampaignTargetFailed"
  | .workloadCheck _ => "WorkloadCheckFailed"
  | .workloadsRunning _ => "WorkloadsRunning"
  | .deviceWorkloadCheck _ => "DeviceWorkloadCheckFailed"
  | .deviceWorkloadsRunning _ => "DeviceWorkloadsRunning"

def ClaimBar.message : ClaimBar → String
  | .networkEvidence e | .workloadGate e | .campaignPeer e | .workloadCheck e
  | .workloadsRunning e | .deviceWorkloadCheck e | .deviceWorkloadsRunning e => e

def pendingFailures : List String :=
  ["InvalidMaintenanceWindow", "MaintenanceWindowExpired", "ManagedNetworkEvidenceRequired",
    "InvalidImageSource", "InvalidTargetVersion", "ISSUVerificationUnsupported",
    "UnsupportedUpgradeStrategy", "SoftwareLifecycleUnsupported", "PrepareSourceUnsupported",
    "ActivationReceiptBindingInvalid", "NoGNOIProvider"]

inductive PendingVerdict
  | fails (reason : OneOf pendingFailures)
  | waits (reason : OneOf ["WindowPending", "DeviceUpgradeLocked"])
  | error
  | passes

def preflightGNOIFailures : List (UpgradePhase × String) :=
  gnoiFailures.map (UpgradePhase.preflightFailed, ·) ++ [(.validationFailed, "InstallTimeout")]

def resolvingFailures : List (UpgradePhase × String) :=
  preflightGNOIFailures ++
  [(.preflightFailed, "ActivationReceiptBindingInvalid"), (.preflightFailed, "NoGNOIProvider"),
    (.validationFailed, "SupervisorTargetTimeout"),
    (.preflightFailed, "SupervisorTargetMismatch"),
    (.preflightFailed, "IndividualSupervisorNoRebootUnsupported"),
    (.preflightFailed, "NoImageResolver"), (.preflightFailed, "SoftwareLifecycleUnsupported"),
    (.preflightFailed, "InvalidDevicePath"), (.validationFailed, "SourceDigestMismatch"),
    (.validationFailed, "DeviceFileHashFailed")]

inductive ResolvingVerdict
  | fails (f : OneOf resolvingFailures)
  | error
  | verifyPending
  | standbyUnavailable
  | alreadyRunning (individual : Bool)
  | transfers (running : String) (individual : Bool)
  | fileVerified (running digest : String) (individual : Bool)
  | inspects (running : String) (individual : Bool)

def inventoryFailures : List (UpgradePhase × String) :=
  [(.preflightFailed, "TargetNotInstalled"), (.preflightFailed, "AmbiguousTargetVersion"),
    (.preflightFailed, "SoftwareLifecycleUnsupported"), (.preflightFailed, "InventoryTimeout"),
    (.validationFailed, "UncorrelatedDeviceFileInventory"),
    (.preflightFailed, "ActivationReceiptBindingInvalid"),
    (.preflightFailed, "TargetNotActivatable")]

inductive InventoryVerdict
  | fails (f : OneOf inventoryFailures)
  | absent (operationID : String)
  | waits (reason : OneOf ["InventoryUnavailable", "InstallInProgress"])
  | corroborated (version : String)
  | resolved (version : String)

def targetFailures : List String :=
  ["InventoryVersionMismatch", "TargetNotActivatable", "InventorySourceUnknown",
    "InventorySourceMismatch"]

def preparationFailures : List String :=
  ["InvalidPreparationState", "PreparedIdentityIncomplete", "PreparedInventoryMismatch",
    "NoGNOIProvider", "PreparedRunningVersionChanged", "PreparedStandbyMismatch",
    "PreparedDeviceIdentityMismatch", "PreparedSourceIdentityIncomplete", "PreparedReceiptInvalid"]

inductive PreparationVerdict
  | fails (reason : OneOf preparationFailures)
  | waits (reason : OneOf ["PreparedVerifyPending", "PreparedStandbyVerifyPending"])
  | error
  | receipt (hash : String)

def stagingFailures : List (UpgradePhase × String) :=
  preflightGNOIFailures ++
  [(.validationFailed, "UncorrelatedDeviceFileInventory"),
    (.validationFailed, "TargetNotActivatable"), (.validationFailed, "AmbiguousTargetVersion"),
    (.failed, "SoftwareLifecycleUnsupported"), (.validationFailed, "InventoryTimeout"),
    (.failed, "MaintenanceWindowExpired"), (.validationFailed, "InvalidDevicePath"),
    (.failed, "NoGNOIProvider"), (.validationFailed, "DeviceFileChanged")]

inductive StagingVerdict
  | fails (f : OneOf stagingFailures)
  | waits
  | verifyPending
  | error
  | passes

def validatingFailures : List String :=
  ["AmbiguousTargetVersion", "SoftwareLifecycleUnsupported", "StagingOperationMismatch",
    "InvalidInventoryState"]

inductive ValidatingVerdict
  | fails (reason : OneOf validatingFailures)
  | stagingFailed
  | waits (reason : OneOf ["StagingObservationPending", "StagingInProgress"])
  | staged (version : String)

inductive PreparedInventoryVerdict
  | waits (reason : OneOf ["PreparedInventoryPending", "PreparedInventoryUnavailable"])
  | fails (reason : OneOf ["AmbiguousTargetVersion", "SoftwareLifecycleUnsupported",
      "PreparedInventoryMismatch"])
  | prepared

def transferFailures : List (UpgradePhase × String) :=
  gnoiFailures.map (UpgradePhase.failed, ·) ++
  [(.failed, "NoGNOIProvider"), (.validationFailed, "InstallTimeout"),
    (.validationFailed, "SupervisorTargetTimeout"),
    (.validationFailed, "SupervisorTargetMismatch"),
    (.validationFailed, "IndividualSupervisorNoRebootUnsupported"),
    (.validationFailed, "TransferPacingUnsupported"), (.failed, "ImageResolveFailed"),
    (.validationFailed, "InvalidResolvedImage"), (.validationFailed, "ImageDigestMismatch"),
    (.failed, "MaintenanceWindowExpired")]

inductive TransferVerdict
  | fails (f : OneOf transferFailures)
  | waits (reason : OneOf ["DeviceUnreachable", "VerifyPending"])
  | standbyUnavailable
  | alreadyRunning
  | resolveRetry
  | error
  | resolved (digest : String) (size : Nat) (individual : Bool)

inductive UncertainVerdict
  | inGrace
  | timedOut
  | invalidProof
  | completed (version : String)
  | pending (reason : OneOf ["InstallObservationPending", "InstallInProgress"])

def activationFailures : List (UpgradePhase × String) :=
  gnoiFailures.map (UpgradePhase.failed, ·) ++
  [(.validationFailed, "ActivationReceiptBindingInvalid"), (.failed, "MaintenanceWindowExpired"),
    (.failed, "ActivationControlTimeout"), (.failed, "NoGNOIProvider"),
    (.validationFailed, "PreparedInventoryChanged")]

inductive ActivationVerdict
  | fails (f : OneOf activationFailures)
  | waits
  | passes

def noRebootFailures : List (UpgradePhase × String) :=
  gnoiFailures.map (UpgradePhase.failed, ·) ++
  [(.failed, "NoGNOIProvider"), (.failed, "ActivationControlTimeout"),
    (.failed, "ActivationRejected"),
    (.validationFailed, "IndividualSupervisorNoRebootUnsupported"),
    (.failed, "UnexpectedRunningVersion")]

inductive NoRebootVerdict
  | fails (f : OneOf noRebootFailures)
  | waits
  | runsTarget
  | stagedForNextBoot

def reachabilityFailures : List (UpgradePhase × String) :=
  gnoiFailures.map (UpgradePhase.failed, ·) ++
  [(.failed, "NoGNOIProvider"), (.rebootTimeout, "RebootTimeout"),
    (.failed, "StandbyActivationRejected"),
    (.validationFailed, "StandbyVerificationUnavailable"),
    (.failed, "StandbyActivationDidNotConverge")]

/-- The two standby answers are only asked for while the standby activation is
outstanding. -/
inductive ReachabilityVerdict
  | fails (f : OneOf reachabilityFailures)
  | unreachable
  | activationFailed
  | onTarget
  | settling
  | deadlineElapsed

inductive StandbyVerdict
  | fails (f : OneOf reachabilityFailures)
  | unreachable
  | onTarget
  | waits

inductive FinalVerdict
  | fails (f : OneOf (gnoiFailures.map (UpgradePhase.failed, ·) ++
      [(.failed, "NoGNOIProvider"), (.rebootTimeout, "RebootTimeout")]))
  | unreachable
  | reported (individual : Bool)

def verifyingFailures : List (UpgradePhase × String) :=
  [(.failed, "StandbyActivationDidNotConverge"),
    (.validationFailed, "StandbyVerificationUnavailable"),
    (.failed, "DualSupervisorVerificationFailed"), (.failed, "RollbackVersionMissing"),
    (.failed, "RollbackInventoryUnavailable"), (.failed, "RollbackTargetUnavailable"),
    (.validationFailed, "SupervisorTargetMismatch")]

inductive VerifyingVerdict
  | fails (f : OneOf verifyingFailures)
  | standbyWaits
  | onPrevious
  | rollsBack (version : String)
  | mismatch
  | verified

inductive RollbackVerdict
  | fails (reason : OneOf ["RollbackDidNotConverge", "NoGNOIProvider", "MaintenanceWindowExpired"])
  | inGrace
  | unreachable
  | onPrevious
  | stillOn
  | passes

inductive InvalidationVerdict
  | error
  | proven (evidence : String)

inductive Question
  | binding
  | claimBars
  | deniedChanged
  | beforeMutation
  | pending
  | resolving
  | inventory
  | target
  | preparation
  | stagingBefore
  | stagingGrace
  | staging
  | validatingBefore
  | validating
  | preparedInventory
  | transferring
  | pacing
  | uncertainInstall
  | activationGrace
  | activation
  | noReboot
  | reachability
  | standby
  | finalVerify
  | verifying
  | rollback
  | terminalOutcome
  | invalidationRequest
  | invalidation

abbrev Answer : Question → Type
  | .binding => Option String
  | .claimBars => Option ClaimBar
  | .deniedChanged => Bool
  | .beforeMutation => Bool
  | .pending => PendingVerdict
  | .resolving => ResolvingVerdict
  | .inventory => InventoryVerdict
  | .target => Option (OneOf targetFailures)
  | .preparation => PreparationVerdict
  | .stagingBefore => Option (OneOf [(UpgradePhase.failed, "SoftwareLifecycleUnsupported"),
      (.validationFailed, "DeviceFileNotVerified")])
  | .stagingGrace => Bool
  | .staging => StagingVerdict
  | .validatingBefore => Option (OneOf ["SoftwareLifecycleUnsupported", "InstallTimeout"])
  | .validating => ValidatingVerdict
  | .preparedInventory => PreparedInventoryVerdict
  | .transferring => TransferVerdict
  | .pacing => Bool
  | .uncertainInstall => UncertainVerdict
  | .activationGrace => Bool
  | .activation => ActivationVerdict
  | .noReboot => NoRebootVerdict
  | .reachability => ReachabilityVerdict
  | .standby => StandbyVerdict
  | .finalVerify => FinalVerdict
  | .verifying => VerifyingVerdict
  | .rollback => RollbackVerdict
  | .terminalOutcome => Bool
  | .invalidationRequest => Bool
  | .invalidation => InvalidationVerdict

inductive Call
  | now
  | get
  /-- `Status().Update` of the object as it was read, with this status. -/
  | updateStatus (cur : Upgrade) (status : Status)
  /-- `Update` of the object with the cleanup finalizer set or cleared. -/
  | update (cur : Upgrade) (finalizer : Bool)
  | acquire
  | quarantine
  | release
  | dispatch (stage : Stage)
  | ask (question : Question)

abbrev Reply : Call → Type
  | .now => Time
  | .get => Fetched
  | .updateStatus .. => Written
  | .update .. => Written
  | .acquire => LeaseReply
  | .quarantine => QuarantineReply
  | .release => Bool
  | .dispatch stage => Response stage
  | .ask question => Answer question

abbrev Worker := Program Call Reply

abbrev WorkerEvent := Event Call Reply

def clock : Worker Time := request Call.now

def fetch : Worker Fetched := request Call.get

def putStatus (cur : Upgrade) (status : Status) : Worker Written :=
  request (Call.updateStatus cur status)

def putFinalizer (cur : Upgrade) (finalizer : Bool) : Worker Written :=
  request (Call.update cur finalizer)

def acquireLease : Worker LeaseReply := request Call.acquire

def acquireQuarantineLease : Worker QuarantineReply := request Call.quarantine

def releaseMutationLease : Worker Bool := request Call.release

def dispatch (stage : Stage) : Worker (Response stage) := request (Call.dispatch stage)

def ask (question : Question) : Worker (Answer question) := request (Call.ask question)

structure Reconciler where
  managedTopology : Bool
  workerRevision : String

/-! ## Writing -/

/-- How one attempt of a retried function ends. -/
inductive Attempt (α : Type)
  | returns (a : α)
  | conflict
  | error

/-- `RetryOnConflict`; `none` is the error it gives up with. -/
def retryOnConflict {α : Type} (attempt : Worker (Attempt α)) : Nat → Worker (Option α)
  | 0 => pure none
  | steps + 1 => do
    match ← attempt with
    | .returns a => pure (some a)
    | .conflict => retryOnConflict attempt steps
    | .error => pure none

/-- `retry.DefaultBackoff.Steps`. -/
def defaultBackoffSteps : Nat := 4

/-- `Status().Update`, and what the attempt returns once it went through. -/
def writeStatus {α : Type} (cur : Upgrade) (status : Status) (a : α) : Worker (Attempt α) := do
  match ← putStatus cur status with
  | .ok => pure (.returns a)
  | .conflict => pure .conflict
  | .failed => pure .error

/-- The writer of every phase: it changes what it finds only if that still is
what the reconcile started from. `false` is an error. -/
def updateStatus (up : Upgrade) (mutate : Status → Status) : Worker Bool := do
  let written ← retryOnConflict (α := Unit) (do
    match ← fetch with
    | .failed | .missing => pure .error
    | .found cur =>
      if !upgradeStatusCASMatches up cur || terminalUpgradePhase cur.status.phase then
        pure (.returns ())
      else writeStatus cur (mutate cur.status) ())
    defaultBackoffSteps
  pure written.isSome

/-! ## The manager's gate -/

structure ManagedLeafDecision where
  applies : Bool
  bindingDenied : Bool
  allowProgress : Bool
  allowClaim : Bool
  admissionState : AdmissionState
  policyEpoch : Int
  controlRevision : Int
  workerRevision : String
  effectiveState : WorkerControlState
  reason : String
  message : String

/-- At most 256 characters. -/
def boundedWorkerMessage (message : String) : String :=
  String.ofList (message.toList.take 256)

def safeAdmissionState (admission : Option ManagerAdmission) : AdmissionState :=
  (admission.map (·.state)).getD .pending

/-- The part of the binding check that the object decides. What it compares
with the runtime, the device, the Node and the Secrets is the question. -/
def validateManagedLeafBinding (up : Upgrade) : Worker (Option String) := do
  match ← ask .binding with
  | some e => pure (some e)
  | none =>
    match up.status.managerAdmission, up.status.managerControl with
    | none, _ => pure (some "status.managerAdmission is absent")
    | some admission, none =>
      pure (some (if admission.controlRevision.isNone then
        "status.managerAdmission.controlRevision is absent" else "status.managerControl is absent"))
    | some admission, some control =>
      match admission.controlRevision with
      | none => pure (some "status.managerAdmission.controlRevision is absent")
      | some revision =>
        if revision < 0 then pure (some "status.managerAdmission.controlRevision is negative")
        else if control.revision < 0 then
          pure (some "status.managerControl has invalid revision or updatedAt")
        else if control.revision < revision then
          pure (some "manager control revision is older than admitted revision")
        else pure (validateManagedClaimCoverage up.status control.revision)

def managedTerminalMutationSettled (s : Status) : Bool :=
  terminalUpgradePhase s.phase &&
    (s.managedMutationClaims.isEmpty || s.isConditionTrue .mutationSettled)

def admissionText : AdmissionState → String
  | .pending => "Pending"
  | .granted => "Granted"
  | .revoked => "Revoked"
  | .settled => "Settled"

/-- The decision for a bound leaf that is not terminal. -/
def decideAdmitted (decision : ManagedLeafDecision) (admission : ManagerAdmission)
    (control : ManagerControl) (inFlight : Bool) : ManagedLeafDecision :=
  let cancelled (message : String) : ManagedLeafDecision :=
    { decision with
      effectiveState := .cancelled, reason := "ManagerCancelled", message := message }
  let paused (message : String) : ManagedLeafDecision :=
    { decision with effectiveState := .paused, reason := "ManagerPaused", message := message }
  let observing (message : String) : ManagedLeafDecision :=
    { decision with
      allowProgress := true, effectiveState := .claimed, reason := "ManagedClaimObservation",
      message := message }
  match admission.state with
  | .pending =>
    if control.cancel then
      cancelled "manager cancellation is effective while admission is pending"
    else if control.pause then paused "manager pause is effective while admission is pending"
    else { decision with
      effectiveState := .ready, reason := "ManagedAdmissionPending",
      message := "managed identity binding is ready; waiting for manager admission" }
  | .revoked =>
    if inFlight then
      observing "manager admission was revoked after a durable mutation claim; observing without authorizing another claim"
    else if control.cancel then
      cancelled "manager cancelled and revoked admission before a durable mutation claim"
    else { decision with
      message := "manager admission is " ++ admissionText admission.state ++ ", not Granted" }
  | .settled =>
    { decision with
      effectiveState := .settled, reason := "ManagerAdmissionSettled",
      message := "manager admission is settled; no further worker progress is authorized" }
  | .granted =>
    if control.cancel then
      if inFlight then
        observing "manager cancellation is effective for new claims; observing the existing durable mutation claim"
      else cancelled "manager cancellation is effective; no new mutation claim is authorized"
    else if control.pause then
      if inFlight then
        observing "manager pause is effective for new claims; observing the existing durable mutation claim"
      else paused "manager pause is effective; no new mutation claim is authorized"
    else
      { decision with
        allowProgress := true, allowClaim := true, effectiveState := .ready,
        reason := "ManagedAdmissionReady",
        message := "manager grant and control revision are ready for worker progress" }

def ManagedLeafDecision.unmanaged : ManagedLeafDecision :=
  ⟨false, false, true, true, .pending, 0, 0, "", .denied, "", ""⟩

def evaluateManagedLeaf (r : Reconciler) (up : Upgrade) : Worker ManagedLeafDecision := do
  if !r.managedTopology && !up.managed then pure .unmanaged
  else
    let decision : ManagedLeafDecision :=
      { applies := true, bindingDenied := false, allowProgress := false, allowClaim := false,
        admissionState := safeAdmissionState up.status.managerAdmission,
        policyEpoch := (up.status.managerAdmission.map (·.policyEpoch)).getD 0,
        controlRevision := (up.status.managerControl.map (·.revision)).getD 0,
        workerRevision := r.workerRevision, effectiveState := .denied,
        reason := "ManagedAdmissionDenied", message := "" }
    if !r.managedTopology then
      pure { decision with
        message := "managed upgrade leaf cannot execute on a standalone worker" }
    else if !up.managed then
      pure { decision with
        message := "managed worker requires topology.cisco.vk/managed=true on every upgrade leaf" }
    else
      match ← validateManagedLeafBinding up with
      | some e =>
        pure { decision with
          bindingDenied := true,
          message := boundedWorkerMessage ("managed upgrade binding denied: " ++ e) }
      | none =>
        if terminalUpgradePhase up.status.phase then
          if managedTerminalMutationSettled up.status then
            pure { decision with
              allowProgress := true, effectiveState := .settled,
              reason := "ManagedOutcomeSettled",
              message := "managed upgrade has a terminal and conclusively settled worker outcome" }
          else
            pure { decision with
              allowProgress := true, effectiveState := .claimed,
              reason := "ManagedOutcomeUnresolved",
              message := "managed upgrade is terminal but its claimed device mutation outcome remains unresolved" }
        else
          -- the binding check has found both
          match up.status.managerAdmission, up.status.managerControl with
          | some admission, some control =>
            pure (decideAdmitted decision admission control
              (managedMutationNeedsObservation up.status))
          | _, _ => pure decision

def workerControlForDecision (existing : Option WorkerControl) (decision : ManagedLeafDecision)
    (now : Time) : WorkerControl :=
  let desired : WorkerControl :=
    { observedAdmissionState := decision.admissionState
      observedPolicyEpoch := decision.policyEpoch
      observedControlRevision := decision.controlRevision
      observedWorkerConfigRevision := decision.workerRevision
      effectiveState := decision.effectiveState
      updatedAt := now
      message := boundedWorkerMessage decision.message }
  match existing with
  | none => desired
  -- the same but for the time of the observation
  | some existing =>
    if existing = { desired with updatedAt := existing.updatedAt } then existing else desired

/-- The decision, the leaf as it was read, and whether it was acknowledged just
now. `none` is an error. -/
def syncManagedLeafGate (r : Reconciler) (up : Upgrade) (now : Time) :
    Worker (Option (ManagedLeafDecision × Upgrade × Bool)) := do
  if !r.managedTopology && !up.managed then pure (some (.unmanaged, up, false))
  else if r.managedTopology && !up.managed then
    let decision ← evaluateManagedLeaf r up
    pure (some (decision, up, false))
  else
    retryOnConflict (do
      match ← fetch with
      | .failed | .missing => pure .error
      | .found current =>
        let decision ← evaluateManagedLeaf r current
        if decision.bindingDenied then pure (.returns (decision, current, false))
        else
          let desired := workerControlForDecision current.status.workerControl decision now
          if current.status.workerControl = some desired then
            pure (.returns (decision, current, false))
          else
            let status := { current.status with workerControl := some desired }
            writeStatus current status (decision, { current with status := status }, true))
      defaultBackoffSteps

def managedCancellationCanReleaseMutationLease (up : Upgrade) (decision : ManagedLeafDecision) :
    Bool :=
  if !decision.applies || decision.allowProgress || decision.effectiveState != .cancelled ||
      !up.status.managedMutationClaims.isEmpty || upgradeMutationSubmitted up.status then false
  else
    match up.status.managerAdmission, up.status.managerControl, up.status.workerControl with
    | some admission, some control, some worker =>
      control.cancel && decision.admissionState == admission.state &&
        decision.policyEpoch == admission.policyEpoch &&
        decision.controlRevision == control.revision &&
        worker.observedAdmissionState == admission.state &&
        worker.observedPolicyEpoch == admission.policyEpoch &&
        worker.observedControlRevision == control.revision &&
        worker.observedWorkerConfigRevision == decision.workerRevision &&
        worker.effectiveState == .cancelled
    | _, _, _ => false

/-! ## Claims -/

/-- What `prepareManagedMutationClaim` comes to: the status to go on with, or
the status the caller's copy gets when the claim is refused. -/
inductive Prepared
  | ready (status : Status)
  | refused (status : Status)
  | conflict
  | error

/-- The first bar that applies takes the grant back for this claim. -/
def ManagedLeafDecision.barred (decision : ManagedLeafDecision) : Option ClaimBar →
    ManagedLeafDecision
  | none => decision
  | some bar =>
    { decision with
      allowClaim := false, effectiveState := .denied, reason := bar.reason,
      message := boundedWorkerMessage bar.message }

def acknowledgeRefusal (s : Status) (desired : WorkerControl) (shown : Bool) (reason : String) :
    Status :=
  let acknowledged := { s with workerControl := some desired }
  if shown then acknowledged.setReady false reason else acknowledged

/-- A refused claim is acknowledged in the object if that does not say so yet. -/
def refuseManagedMutationClaim (current : Upgrade) (decision : ManagedLeafDecision) (now : Time) :
    Worker Prepared := do
  let desired := workerControlForDecision current.status.workerControl decision now
  -- the text shown in the object is not modelled, so whether it differs is asked
  let textChanged ← ask .deniedChanged
  let shown := acknowledgeRefusal current.status desired
    (textChanged || readyReason current.status != decision.reason) decision.reason
  if current.status.workerControl = some desired ∧ !textChanged ∧
      readyReason current.status = decision.reason then
    pure (.refused current.status)
  else
    match ← putStatus current shown with
    | .ok => pure (.refused shown)
    | .conflict => pure .conflict
    | .failed => pure .error

def admitManagedMutationClaim (s : Status) (stage : Stage) (decision : ManagedLeafDecision)
    (now : Time) : Prepared :=
  match addManagedMutationClaim s stage decision.policyEpoch decision.controlRevision now with
  | none => .error
  | some claimed =>
    let decision : ManagedLeafDecision :=
      { decision with
        effectiveState := .claimed, reason := "ManagedMutationClaimed",
        message := "claimed " ++ stage.text ++ " at manager control revision " ++
          toString decision.controlRevision }
    .ready { claimed with
      workerControl := some (workerControlForDecision claimed.workerControl decision now) }

def concludeManagedMutationClaim (current : Upgrade) (stage : Stage)
    (decision : ManagedLeafDecision) (now : Time) : Worker Prepared :=
  if !decision.allowClaim then refuseManagedMutationClaim current decision now
  else pure (admitManagedMutationClaim current.status stage decision now)

def prepareManagedMutationClaim (r : Reconciler) (current : Upgrade) (stage : Stage)
    (now : Time) : Worker Prepared := do
  let decision ← evaluateManagedLeaf r current
  if !decision.applies then pure (.ready current.status)
  else
    let bar ← if decision.allowClaim then ask .claimBars else pure none
    concludeManagedMutationClaim current stage (decision.barred bar) now

/-- How a claim function returns: with the caller's copy updated, or with an
object to clean up. -/
inductive Claimed
  | claimed (up : Upgrade)
  | refused (up : Upgrade)
  | deleting (up : Upgrade)

/-- The object a replica cleans up when it finds the upgrade gone: its own copy,
unless that says a mutation was submitted. -/
def missingUpgradeCleanupCandidate (up : Upgrade) : Option Upgrade :=
  if upgradeMutationSubmitted up.status then none else some { up with deleting := true }

/-- One claim function. `requested` is its own test that the request was made
before, `mark` what it records. -/
def claimStage (r : Reconciler) (up : Upgrade) (stage : Stage) (requested : Status → Bool)
    (mark : Status → Status) (now : Time) : Worker (Option Claimed) :=
  retryOnConflict (do
    match ← fetch with
    | .failed => pure .error
    | .missing =>
      match missingUpgradeCleanupCandidate up with
      | some missing => pure (.returns (.deleting missing))
      | none => pure (.returns (.refused up))
    | .found cur =>
      if cur.deleting then pure (.returns (.deleting cur))
      else if !upgradeStatusCASMatches up cur then pure (.returns (.refused up))
      else if requested cur.status || terminalUpgradePhase cur.status.phase then
        pure (.returns (.refused up))
      else
        match ← prepareManagedMutationClaim r cur stage now with
        | .conflict => pure .conflict
        | .error => pure .error
        | .refused status => pure (.returns (.refused { up with status := status }))
        | .ready status =>
          let status := mark status
          writeStatus cur status (.claimed { up with status := status }))
    defaultBackoffSteps

def claimStaging (r : Reconciler) (up : Upgrade) (now : Time) : Worker (Option Claimed) :=
  claimStage r up .staging stagingRequestSubmitted
    (fun s => (({ s with
      installStartTime := s.installStartTime <|> some now
      stagingRequested := true
      phase := .staging
      failureReason := "" }.setCondition .mutationSettled false "MutationRequested").setCondition
        .staged false "StagingRequested").setReady false "StagingRequested")
    now

def claimActivation (r : Reconciler) (up : Upgrade) (standby : Bool) (now : Time) :
    Worker (Option Claimed) :=
  let reason := if standby then "StandbyActivationRequested" else "ActivationRequested"
  claimStage r up (if standby then .standbyActivation else .primaryActivation)
    (fun s => if standby then s.standbySupervisorActivationRequested
      else primaryActivationRequestSubmitted s)
    (fun s => (({ s with
      activationStartTime := s.activationStartTime <|> some now
      standbySupervisorActivationRequested := s.standbySupervisorActivationRequested || standby
      primarySupervisorActivationRequested := s.primarySupervisorActivationRequested || !standby
      phase := .activating
      failureReason := "" }.setCondition .mutationSettled false "MutationRequested").setCondition
        .activated false reason).setReady false reason)
    now

def claimInstallAttempt (r : Reconciler) (up : Upgrade) (standby : Bool) (now : Time) :
    Worker (Option Claimed) :=
  claimStage r up (if standby then .standbyInstall else .primaryInstall)
    (installAttemptRequested · standby)
    (fun s => (({ s with
      standbySupervisorInstallRequested := s.standbySupervisorInstallRequested || standby
      primarySupervisorInstallRequested := s.primarySupervisorInstallRequested || !standby
      installStartTime := s.installStartTime <|> some now
      }.setCondition .mutationSettled false "MutationRequested").setCondition
        .transferred false "InstallRequested").setReady false "InstallRequested")
    now

def claimRollbackActivation (r : Reconciler) (up : Upgrade) (version : String) (now : Time) :
    Worker (Option Claimed) :=
  claimStage r up .rollbackActivation rollbackRequestSubmitted
    (fun s => (({ s with
      rollbackStartTime := s.rollbackStartTime <|> some now
      rollbackActivationRequested := true
      phase := .rollingBack
      validatedVersion := version
      failureReason := "" }.setCondition .mutationSettled false "MutationRequested").setCondition
        .rollback false "RollbackRequested").setReady false "RollbackRequested")
    now

/-! ## Deletion and terminal outcomes -/

def removeFinalizer (up : Upgrade) : Worker Unit := do
  if up.finalizer then
    let _ ← putFinalizer up false
    pure ()
  else pure ()

/-- The Lease of an object whose outcome may be unknown is quarantined first;
it is released only if nothing is outstanding. -/
def handleDelete (up : Upgrade) (now : Time) : Worker Unit := do
  if upgradeRequiresQuarantineAt up now then
    match ← acquireQuarantineLease with
    | .error | .blocked => pure ()
    | .owned => removeFinalizer up
  else if (terminalUpgradePhase up.status.phase && !retainMutationLeaseUntilExpiry up.status) ||
      !upgradeMutationSubmitted up.status then
    if ← releaseMutationLease then removeFinalizer up else pure ()
  else removeFinalizer up

/-- A terminal outcome is written and, if what the object then says settles it,
the Lease is released. -/
def updateTerminalStatus (up : Upgrade) (mutate : Status → Status) : Worker Unit := do
  let updated ← updateStatus up fun s =>
    let s := mutate s
    if successfulUpgradeOutcome s.phase then
      s.setCondition .mutationSettled true "OutcomeVerified"
    else s
  if updated then
    match ← fetch with
    | .failed | .missing => pure ()
    | .found current =>
      if !terminalUpgradePhase current.status.phase then pure ()
      else if retainMutationLeaseUntilExpiry current.status then pure ()
      else
        let _ ← releaseMutationLease
        pure ()
  else pure ()

def markTransferComplete (s : Status) : Status :=
  { s with
    transferProgress := s.transferProgress.map fun progress =>
      if progress.totalBytes = 0 then progress
      else { progress with bytesTransferred := progress.totalBytes } }

def terminalWithEvidence (up : Upgrade) (phase : UpgradePhase) (reason : String) (now : Time)
    (settled : Bool) : Worker Unit :=
  updateTerminalStatus up fun s =>
    let s := { s with phase := phase, failureReason := reason, completionTime := some now }
    let s := if settled then s.setCondition .mutationSettled true "MutationCompleted" else s
    let s := if phase = .succeeded then markTransferComplete s else s
    s.setReady (phase == .succeeded) reason

def terminal (up : Upgrade) (phase : UpgradePhase) (reason : String) (now : Time) :
    Worker Unit :=
  terminalWithEvidence up phase reason now false

/-- For a definitive response to a mutation only. -/
def terminalAfterMutation (up : Upgrade) (phase : UpgradePhase) (reason : String) (now : Time) :
    Worker Unit :=
  terminalWithEvidence up phase reason now true

/-! ## The Lease -/

def prepareMutation (up : Upgrade) : Worker Bool := do
  if ← ask .beforeMutation then pure true
  else
    let _ ← updateStatus up fun s => s.setReady false "MutationPreparationBlocked"
    pure false

def waitForLease (up : Upgrade) (reason : String) : Worker Bool := do
  let _ ← updateStatus up fun s => { s with failureReason := "" }.setReady false reason
  pure false

/-- `true` if the Lease is held and the device is prepared. -/
def ensureMutationLease (up : Upgrade) : Worker Bool := do
  match ← acquireLease with
  | .guardError => waitForLease up "LegacyMutationGuardError"
  | .quarantined => waitForLease up "LegacyMutationQuarantine"
  | .acquireError => waitForLease up "MutationLeaseError"
  | .blocked => waitForLease up "MutationLeaseBlocked"
  | .ownsRisk | .owned => prepareMutation up

end VirtualKubelet.SoftwareUpgrade
