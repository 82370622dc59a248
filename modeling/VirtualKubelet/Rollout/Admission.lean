import VirtualKubelet.Rollout.Leaf
import VirtualKubelet.Rollout.Protocol

/-!
# Admitting one target

`admitTarget` locks the device, reserves in the ledger, creates the leaf, binds
it to the reservation and records the admission on it. Each of these is a write
of its own, and a manager that dies between two of them leaves the objects as
they are: the next reconcile finds no leaf, a leaf without an admission, or a
leaf with one, and goes on from there (`rerunAdmission`).

Here one manager works alone; `Protocol.lean` is about several. The evidence
about the target that is read again on the way (fleet health, workloads, the
campaign's control) enters as the fleet members it yields: a run whose evidence
fails ends there. A run that fails is known by its error only.
-/

namespace VirtualKubelet.Rollout

open Go Api

/-! ## The effective policy as the ledger takes it -/

/-- Every frozen target names exactly the required keys. -/
def validateFrozenRequiredTopologyKeys (targets : List PlannedTarget)
    (currentKeys : List String) : Option String :=
  let targetError (target : PlannedTarget) : Option String :=
    let frozen := target.topology.map (·.1)
    firstError
      [(decide (¬ frozen.Nodup), "approved target contains duplicate topology key"),
       (frozen.toFinset.card != currentKeys.toFinset.card,
        "administrator required-topology set changed after approval"),
       (currentKeys.any fun key => decide (key ∉ frozen),
        "administrator required topology was not included in approved target")]
  if targets.isEmpty then some "approved plan has no frozen targets"
  else targets.findSome? targetError

def domainBudgetMap (limit : DomainBudget → Option Int) (domains : List DomainBudget) :
    Map Int :=
  domains.foldl (fun out domain =>
    match limit domain with
    | some n => out.set domain.topologyKey n
    | none => out) ∅

section

variable [Upstream] [Selectors]

/-- `effectiveAdmissionPolicy` after its checks. -/
def admissionPolicy (plan : RolloutPlan) (effective : PolicyEpoch)
    (current : ParsedAdminPolicy) (now : Time) : Policy where
  uid := effective.policy.uid
  version := effective.policy.resourceVersion
  epoch := effective.epoch
  globalMaxConcurrentTransfers := effective.policy.maxConcurrentTransfers
  globalMaxUnavailable := effective.policy.maxUnavailable
  domainTransferBudgets := domainBudgetMap (·.maxConcurrentTransfers) effective.policy.domains
  domainBudgets := domainBudgetMap (·.maxUnavailable) effective.policy.domains
  riskGroupBudgets := current.config.1.riskGroups.foldl (fun out group =>
    out.set group.name ⟨group.maxConcurrentTransfers, group.maxUnavailable⟩) ∅
  maxActiveRecords := effective.policy.maxActiveReservations
  maxSerializedBytes := effective.policy.maxLedgerSizeBytes
  requiredHealthFreshBy := now - 1000000000 * minPositive
    [effective.policy.healthFreshnessSeconds, defaultInt32 plan.maxObservationAgeSeconds 300]

def effectiveAdmissionPolicy [PolicyDigests] (plan : RolloutPlan) (effective : PolicyEpoch)
    (current : ParsedAdminPolicy) (now : Time) : Except String Policy :=
  let frozen := plan.policy
  let requestedCap := plan.epochs.requestedCap
  if frozen.policyNamespace ≠ current.policyNamespace ∨ frozen.policyName ≠ current.policyName ∨
      frozen.uid ≠ current.policyUID then
    .error "administrator policy identity changed after approval"
  else if frozen.ledgerNamespace ≠ current.policyNamespace ∨
      frozen.ledgerName ≠ current.config.1.ledgerName ∨ frozen.ledgerUID ≠ current.ledgerUID then
    .error "reservation ledger identity changed after approval"
  else
    match freezePolicy current with
    | .error e => .error e
    | .ok snapshot =>
      match validateFrozenRequiredTopologyKeys plan.targets
          current.config.1.requiredTopologyKeys with
      | some e => .error e
      | none =>
        if minPositive [requestedCap, current.config.1.maxCampaignTargets,
            effective.policy.maxTargets, maxRolloutTargets] < plan.targets.length then
          .error "administrator target ceiling tightened for the approved plan"
        else if snapshot.structuralHash ≠ effective.policy.structuralHash ∨
            snapshot.semanticHash ≠ effective.policy.semanticHash then
          .error "administrator policy is not published in the effective epoch"
        else if effective.epoch < 1 ∨ effective.policy.uid ≠ frozen.uid ∨
            effective.policy.ledgerUID ≠ frozen.ledgerUID then
          .error "effective policy epoch identity is invalid"
        else if minPositive [requestedCap, effective.policy.maxTargets, maxRolloutTargets] <
            plan.targets.length then
          .error "effective target ceiling is below the frozen target count"
        else .ok (admissionPolicy plan effective current now)

end

/-! ## The objects an admission writes -/

structure Cluster where
  device : Device
  ledger : Object ConfigMap
  leaf : Option Leaf

/-- What one reconcile brings to an admission: the policy it runs under, the
fleet it observed, and what it is given if it has to make something new. -/
structure AdmissionRun where
  effective : PolicyEpoch
  policy : Policy
  members : List Member
  acquisitionID : String
  leafUID : String
  now : Time

section

variable [Upstream]

/-- `Store.Mutate` when nobody else writes. -/
def Store.mutate (store : Store) (cm : Object ConfigMap) (callback : Ledger → Outcome) :
    Except LedgerError (Object ConfigMap) :=
  match store.read cm with
  | .error e => .error e
  | .ok l =>
    match store.commit cm cm (callback l) with
    | .failed e => .error e
    | .conflict => .error (plainError "update rollout ledger")
    | .committed cm' => .ok cm'

variable (plan : RolloutPlan) (store : Store) (target : PlannedTarget)

def AdmissionRun.attempt (run : AdmissionRun) (lockID : String) : Attempt :=
  ⟨plan.campaign, target, run.policy.epoch, lockID⟩

def revalidateLock (run : AdmissionRun) (lockID : String) (s : Cluster) : Option LedgerError :=
  (revalidateDeviceTopologyLock s.device plan.campaign target run.policy.epoch lockID).map
    plainError

/-- An Active lock without its reservation is retired and the admission tried
again; the writes of that are in `Protocol.lean`. -/
def acquireDeviceTopologyLock (run : AdmissionRun) (s : Cluster) :
    Except LedgerError (String × Cluster) :=
  let expected := (run.attempt plan target run.acquisitionID).expected run.now
  let revalidated (lockID : String) (s : Cluster) : Except LedgerError (String × Cluster) :=
    match revalidateLock plan target run lockID s with
    | some e => .error e
    | none => .ok (lockID, s)
  match acquireRead s.device target expected with
  | .fail e => .error (plainError e)
  | .publish =>
    revalidated run.acquisitionID
      { s with device := { s.device with topologyLock := some expected } }
  | .recovered lock =>
    match store.read s.ledger with
    | .error e => .error e
    | .ok l =>
      match l.find (plan.reservationID target) with
      | some reservation =>
        if recoveredReservationMatches reservation (run.attempt plan target lock.acquisitionID)
            run.effective.policy.uid run.effective.policy.resourceVersion &&
            run.effective.epoch == run.policy.epoch then
          revalidated lock.acquisitionID s
        else
          .error (Sentinel.ledgerIdentity.wrap
            "existing reservation does not match the device topology lock")
      | none =>
        .error (Sentinel.staleControlRevision.wrap
          "retired incomplete topology-lock acquisition; retry admission")

/-- The callback of `admitTarget`: the lock is checked again on every attempt. -/
def reserveLocked (run : AdmissionRun) (lockID : String) (s : Cluster) (l : Ledger) : Outcome :=
  match revalidateLock plan target run lockID s with
  | some e => .fail l e
  | none => reserveFor l run.policy run.members (run.attempt plan target lockID)

def reserveTarget (run : AdmissionRun) (lockID : String) (s : Cluster) :
    Except LedgerError Cluster :=
  match store.mutate s.ledger (reserveLocked plan target run lockID s) with
  | .error e => .error e
  | .ok cm =>
    match revalidateLock plan target run lockID s with
    | some e => .error e
    | none => .ok { s with ledger := cm }

def newLeaf (run : AdmissionRun) : Leaf where
  leafNamespace := plan.campaign.campaignNamespace
  leafName := target.childName
  uid := run.leafUID
  spec := plan.expectedLeafSpec target
  phase := .unset
  message := ""
  claims := []
  managerAdmission := none
  managerControl := none
  managerDrain := none
  workerSettled := false

/-- `Create`; a leaf that is already there is taken as it is. -/
def createLeaf (run : AdmissionRun) (s : Cluster) : Leaf × Cluster :=
  match s.leaf with
  | some leaf => (leaf, s)
  | none => (newLeaf plan target run, { s with leaf := some (newLeaf plan target run) })

/-- The callback of `ensureChildAdmission`. -/
def bindMatching (id childUID : String) (policyEpoch : Int) (l : Ledger) : Outcome :=
  let unmatched := Sentinel.ledgerIdentity.wrap
    "reservation has no matching topology-lock acquisition"
  match l.find id with
  | none => .fail l unmatched
  | some current =>
    if current.policyEpoch ≠ policyEpoch ∨ current.topologyLockID = "" then .fail l unmatched
    else bindChild l id childUID

/-- The first half of `ensureChildAdmission`. -/
def bindLeaf (run : AdmissionRun) (leaf : Leaf) (s : Cluster) : Except LedgerError Cluster :=
  match store.mutate s.ledger
      (bindMatching (plan.reservationID target) leaf.uid run.effective.epoch) with
  | .error e => .error e
  | .ok cm => .ok { s with ledger := cm }

/-- The admission `ensureChildAdmission` writes. -/
def newAdmission (run : AdmissionRun) (topologyLockID : String) (leaf : Leaf) :
    ManagerAdmission where
  protocolVersion := requiredManagedUpgradeProtocol (plan.expectedLeafSpec target)
  state := .pending
  campaignUID := plan.campaign.campaignUID
  planHash := plan.campaign.planHash
  policyUID := run.effective.policy.uid
  policyResourceVersion := run.effective.policy.resourceVersion
  policyEpoch := run.effective.epoch
  ledgerUID := plan.policy.ledgerUID
  reservationID := plan.reservationID target
  topologyLockID := topologyLockID
  leafUID := leaf.uid
  deviceUID := target.deviceUID
  deviceGeneration := target.deviceGeneration
  physicalIdentity := target.physicalIdentity
  nodeUID := target.nodeUID
  controlRevision := some plan.campaign.controlRevision
  revocationReason := ""
  networkEvidenceHash := ""
  networkEvidenceProducerRevision := ""
  networkEvidenceWorkerPodUID := ""
  networkEvidenceSampleSequence := none
  networkEvidenceNotAfter := none

/-- The second half: `topologyLockID` is what the bound reservation says. -/
def recordAdmission (run : AdmissionRun) (leaf : Leaf) (s : Cluster) :
    Except LedgerError Cluster :=
  match leaf.managerAdmission with
  | some _ =>
    match validateManagerAdmission plan run.effective target leaf with
    | some e => .error (plainError e)
    | none => .ok s
  | none =>
    let topologyLockID := match s.ledger.content.ledger.find (plan.reservationID target) with
      | some reservation => reservation.topologyLockID
      | none => ""
    .ok { s with leaf := some { leaf with
      managerAdmission := some (newAdmission plan target run topologyLockID leaf)
      managerControl := some ⟨plan.campaign.controlRevision, plan.pause, plan.cancel⟩ } }

def ensureChildAdmission (run : AdmissionRun) (leaf : Leaf) (s : Cluster) :
    Except LedgerError Cluster :=
  if run.effective.epoch < 1 then
    .error (plainError "rollout has no published effective policy epoch")
  else
    match bindLeaf plan store target run leaf s with
    | .error e => .error e
    | .ok s => recordAdmission plan target run leaf s

def admitTarget (run : AdmissionRun) (s : Cluster) : Except LedgerError Cluster :=
  match rolloutReservationRequest plan.campaign run.policy target "" with
  | .error e => .error (plainError e)
  | .ok _ =>
    match acquireDeviceTopologyLock plan store target run s with
    | .error e => .error e
    | .ok (lockID, s) =>
      match reserveTarget plan store target run lockID s with
      | .error e => .error e
      | .ok s =>
        let (leaf, s) := createLeaf plan target run s
        if leaf.managerAdmission.any fun a => a.state == .revoked || a.state == .settled then
          .error (Sentinel.staleControlRevision.bare)
        else ensureChildAdmission plan store target run leaf s

/-- What `tryGrantLeaf` asks of a recorded admission before it grants: it is the
campaign's own, and the reservation and the lock are those it names. -/
def checkManagerAdmission (run : AdmissionRun) (leaf : Leaf) (admission : ManagerAdmission)
    (s : Cluster) : Option LedgerError :=
  ((validateManagerAdmission plan run.effective target leaf).map plainError).or <|
  match store.read s.ledger with
  | .error e => some e
  | .ok l =>
    let unmatched := Sentinel.ledgerIdentity.wrap
      "leaf admission no longer matches its topology-lock reservation"
    match l.find (plan.reservationID target) with
    | none => some unmatched
    | some reservation =>
      if reservation.policyEpoch ≠ admission.policyEpoch ∨
          reservation.topologyLockID ≠ admission.topologyLockID then some unmatched
      else
        (revalidateDeviceTopologyLock s.device plan.campaign target admission.policyEpoch
          admission.topologyLockID).map plainError

/-- How `reconcileExecution` takes up an admission that was interrupted, by what
it finds of the leaf. -/
def rerunAdmission (run : AdmissionRun) (s : Cluster) : Except LedgerError Cluster :=
  match s.leaf with
  | none => admitTarget plan store target run s
  | some leaf =>
    match leaf.managerAdmission with
    | none => ensureChildAdmission plan store target run leaf s
    | some admission =>
      match checkManagerAdmission plan store target run leaf admission s with
      | some e => .error e
      | none => .ok s

/-- The identity a claimed leaf must still share with its reservation. -/
def verifyClaimedReservation (leaf : Leaf) (s : Cluster) : Option LedgerError :=
  match leaf.managerAdmission with
  | none => some (Sentinel.ledgerIdentity.wrap "claimed leaf has no manager admission")
  | some admission =>
    match store.read s.ledger with
    | .error e => some e
    | .ok l =>
      match l.find (plan.reservationID target) with
      | none => some (Sentinel.ledgerIdentity.wrap "claimed leaf has no durable reservation")
      | some r =>
        if r.childUID ≠ leaf.uid ∨ r.childNamespace ≠ leaf.leafNamespace ∨
            r.childName ≠ leaf.leafName ∨ r.campaignUID ≠ plan.campaign.campaignUID ∨
            r.planHash ≠ plan.campaign.planHash ∨ r.deviceUID ≠ target.deviceUID ∨
            r.nodeUID ≠ target.nodeUID ∨ r.physicalID ≠ target.physicalIdentity ∨
            r.policyUID ≠ admission.policyUID ∨ r.policyEpoch ≠ admission.policyEpoch ∨
            r.topologyLockID ≠ admission.topologyLockID ∨
            r.policyVersion ≠ admission.policyResourceVersion ∨
            r.domains ≠ targetDomains target then
          some (Sentinel.ledgerIdentity.wrap
            "claimed reservation identity no longer matches its retained leaf")
        else none

/-! ## Where a run may be cut off -/

/-- The states a first admission of the target leaves behind when its manager
dies after the reservation and before anything is granted. -/
inductive Interrupted (run : AdmissionRun) (s : Cluster) : Cluster → Prop
  | reserved {lockID : String} {locked reserved : Cluster} :
    s.ledger.content.ledger.find (plan.reservationID target) = none → s.leaf = none →
    acquireDeviceTopologyLock plan store target run s = .ok (lockID, locked) →
    reserveTarget plan store target run lockID locked = .ok reserved →
    Interrupted run s reserved
  | created {cut : Cluster} : Interrupted run s cut → cut.leaf = none →
    Interrupted run s (createLeaf plan target run cut).2
  | bound {cut bound : Cluster} {leaf : Leaf} : Interrupted run s cut → cut.leaf = some leaf →
    leaf.managerAdmission = none → bindLeaf plan store target run leaf cut = .ok bound →
    Interrupted run s bound
  | recorded {cut recorded : Cluster} {leaf : Leaf} : Interrupted run s cut →
    cut.leaf = some leaf → leaf.managerAdmission = none →
    ensureChildAdmission plan store target run leaf cut = .ok recorded →
    Interrupted run s recorded

end

end VirtualKubelet.Rollout
