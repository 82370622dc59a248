import VirtualKubelet.Rollout.DeviceLock
import VirtualKubelet.Rollout.PolicyEpoch

/-!
# Leaves

A leaf is the `IOSXESoftwareUpgrade` object a campaign creates for one target.
The manager writes its admission into the status, the worker its phase and its
claims. The spec of a leaf is a copy of the approved plan and the manager never
reads it but to choose the protocol, so only the fields that choose it are kept.
-/

namespace VirtualKubelet.Rollout

open Go

inductive UpgradePhase
  | unset
  | pending
  | resolving
  | staging
  | transferring
  | transferInterrupted
  | validating
  | activating
  | awaitingReachability
  | verifying
  | rollingBack
  | succeeded
  | prepared
  | preparedInvalidated
  | stagedForNextBoot
  | failed
  | preflightFailed
  | validationFailed
  | rolledBack
  | rebootTimeout
  | cancelled
  deriving DecidableEq

def UpgradePhase.text : UpgradePhase → String
  | .unset => ""
  | .pending => "Pending"
  | .resolving => "Resolving"
  | .staging => "Staging"
  | .transferring => "Transferring"
  | .transferInterrupted => "TransferInterrupted"
  | .validating => "Validating"
  | .activating => "Activating"
  | .awaitingReachability => "AwaitingReachability"
  | .verifying => "Verifying"
  | .rollingBack => "RollingBack"
  | .succeeded => "Succeeded"
  | .prepared => "Prepared"
  | .preparedInvalidated => "PreparedInvalidated"
  | .stagedForNextBoot => "StagedForNextBoot"
  | .failed => "Failed"
  | .preflightFailed => "PreflightFailed"
  | .validationFailed => "ValidationFailed"
  | .rolledBack => "RolledBack"
  | .rebootTimeout => "RebootTimeout"
  | .cancelled => "Cancelled"

def terminalLeafPhase : UpgradePhase → Bool
  | .succeeded | .prepared | .preparedInvalidated | .stagedForNextBoot | .failed
  | .preflightFailed | .validationFailed | .rolledBack | .rebootTimeout | .cancelled => true
  | _ => false

def terminalLeafFailure : UpgradePhase → Bool
  | .failed | .preflightFailed | .validationFailed | .rolledBack | .rebootTimeout
  | .cancelled => true
  | _ => false

/-! ## Protocols -/

inductive ManagedUpgradeProtocol
  | rolloutV1
  | rolloutBytePacingV1
  | stagedActivationV1
  | networkEvidenceV1
  deriving DecidableEq

structure LeafSpec where
  prepareOnly : Bool
  preinstalled : Bool
  requireNetworkEvidence : Bool
  maxTransferBytesPerSecond : Int
  deriving DecidableEq

def expectedManagedUpgradeProtocol (maxTransferBytesPerSecond : Int) : ManagedUpgradeProtocol :=
  if 0 < maxTransferBytesPerSecond then .rolloutBytePacingV1 else .rolloutV1

def requiredManagedUpgradeProtocol (spec : LeafSpec) : ManagedUpgradeProtocol :=
  if spec.prepareOnly || spec.preinstalled then .stagedActivationV1
  else if spec.requireNetworkEvidence then .networkEvidenceV1
  else expectedManagedUpgradeProtocol spec.maxTransferBytesPerSecond

/-! ## The manager's part of a leaf -/

inductive AdmissionState
  | pending
  | granted
  | revoked
  | settled
  deriving DecidableEq

structure ManagerAdmission where
  protocolVersion : ManagedUpgradeProtocol
  state : AdmissionState
  campaignUID : String
  planHash : String
  policyUID : String
  policyResourceVersion : String
  policyEpoch : Int
  ledgerUID : String
  reservationID : String
  topologyLockID : String
  leafUID : String
  deviceUID : String
  deviceGeneration : Int
  physicalIdentity : String
  nodeUID : String
  controlRevision : Option Int
  revocationReason : String
  networkEvidenceHash : String
  networkEvidenceProducerRevision : String
  networkEvidenceWorkerPodUID : String
  networkEvidenceSampleSequence : Option Int
  networkEvidenceNotAfter : Option Time
  deriving DecidableEq

structure ManagerControl where
  revision : Int
  pause : Bool
  cancel : Bool
  deriving DecidableEq

inductive ManagerDrainState
  | preparing
  | guarded
  | evicting
  | drained
  | promoting
  | promoted
  | recovering
  | settled
  deriving DecidableEq

/-- `claims` holds the policy epoch of each managed mutation claim, and
`workerSettled` says that the worker control has reached `Settled`. -/
structure Leaf where
  leafNamespace : String
  leafName : String
  uid : String
  spec : LeafSpec
  phase : UpgradePhase
  message : String
  claims : List Int
  managerAdmission : Option ManagerAdmission
  managerControl : Option ManagerControl
  managerDrain : Option ManagerDrainState
  workerSettled : Bool
  deriving DecidableEq

/-- Settled records of the staged lifecycle may still carry the older protocol. -/
def managedUpgradeProtocolMatches (leaf : Leaf) (admission : ManagerAdmission) : Bool :=
  admission.protocolVersion == requiredManagedUpgradeProtocol leaf.spec ||
    (requiredManagedUpgradeProtocol leaf.spec == .stagedActivationV1 &&
      admission.protocolVersion ==
        expectedManagedUpgradeProtocol leaf.spec.maxTransferBytesPerSecond &&
      admission.state == .settled && leaf.workerSettled &&
      (leaf.phase == .prepared || leaf.phase == .preparedInvalidated || leaf.phase == .succeeded))

def networkGrantEvidenceCompleteOrAbsent (admission : ManagerAdmission) : Bool :=
  let present := admission.networkEvidenceHash != ""
  (admission.networkEvidenceProducerRevision != "") == present &&
  (admission.networkEvidenceWorkerPodUID != "") == present &&
  admission.networkEvidenceSampleSequence.isSome == present &&
  admission.networkEvidenceNotAfter.isSome == present &&
  (!present || (admission.networkEvidenceSampleSequence.any (fun n => decide (1 ≤ n)) &&
    admission.networkEvidenceNotAfter.any (fun t => !Time.isZero t)))

/-! ## Approved rollouts -/

/-- What the admission of a target reads of the rollout: the approved plan, the
frozen policy, the control fields, and the spec each target's leaf gets. -/
structure RolloutPlan where
  campaign : Campaign
  policy : PolicySnapshot
  targets : List PlannedTarget
  maxTargets : Int
  maxObservationAgeSeconds : Int
  pause : Bool
  cancel : Bool
  expectedLeafSpec : PlannedTarget → LeafSpec

def RolloutPlan.epochs (plan : RolloutPlan) : EpochPlan :=
  ⟨plan.policy, plan.targets.length, plan.maxTargets⟩

def RolloutPlan.reservationID (plan : RolloutPlan) (target : PlannedTarget) : String :=
  Rollout.reservationID plan.campaign.campaignUID target.deviceUID

/-- `effective` is the policy the rollout has published. -/
def validateManagerAdmission (plan : RolloutPlan) (effective : PolicyEpoch)
    (target : PlannedTarget) (leaf : Leaf) : Option String :=
  if effective.epoch < 1 then some "rollout has no published effective policy epoch"
  else
    match leaf.managerAdmission with
    | none => some "leaf manager admission does not match the approved identity binding"
    | some admission =>
      let live := admission.state == .pending || admission.state == .granted
      firstError
        [(!managedUpgradeProtocolMatches leaf admission ||
            requiredManagedUpgradeProtocol leaf.spec !=
              requiredManagedUpgradeProtocol (plan.expectedLeafSpec target) ||
            admission.campaignUID != plan.campaign.campaignUID ||
            admission.planHash != plan.campaign.planHash ||
            admission.policyUID != plan.policy.uid ||
            blank admission.policyResourceVersion || decide (admission.policyEpoch < 1) ||
            decide (effective.epoch < admission.policyEpoch) ||
            admission.ledgerUID != plan.policy.ledgerUID ||
            admission.reservationID != plan.reservationID target ||
            (admission.topologyLockID != "" &&
              !validTopologyLockID admission.topologyLockID) ||
            (live && admission.topologyLockID == "") ||
            admission.leafUID != leaf.uid || admission.deviceUID != target.deviceUID ||
            admission.deviceGeneration != target.deviceGeneration ||
            admission.physicalIdentity != target.physicalIdentity ||
            admission.nodeUID != target.nodeUID || admission.controlRevision.isNone,
          "leaf manager admission does not match the approved identity binding"),
         (admission.policyUID != effective.policy.uid ||
            (admission.state == .revoked) != (admission.revocationReason != ""),
          "leaf has an invalid policy-epoch revocation binding"),
         (!networkGrantEvidenceCompleteOrAbsent admission,
          "leaf has an incomplete network evidence authority"),
         (decide (admission.policyEpoch < effective.epoch) && leaf.claims.isEmpty && live,
          "leaf retains unclaimed authority from stale policy epoch"),
         (leaf.claims.any (· != admission.policyEpoch),
          "leaf claim policy epoch does not match its admission")]

end VirtualKubelet.Rollout
