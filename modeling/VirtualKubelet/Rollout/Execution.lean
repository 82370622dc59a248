import VirtualKubelet.Rollout.Admission

/-!
# One reconcile of an approved rollout

`reconcileExecution` looks at every target of the plan, settles, grants or
rearms what it can, and admits at most one target that has no leaf yet. What it
sees on the way is collected in flags that decide, after the loop, whether the
rollout has failed, is done, waits for an operator, or may go on.

The steps it calls talk to the cluster, and their outcomes are inputs of the
model (`Outcomes`); what the steps do to the ledger and the lock is the subject
of `Admission.lean` and `Protocol.lean`. The exception is the fence inside
`admitTarget`, which reads the rollout and its leaves once more before a leaf is
created: what it reads is an input, and the decision is modelled.
-/

namespace VirtualKubelet.Rollout

open Go

/-! ## The rollout object -/

inductive RolloutPhase
  | unset
  | awaitingApproval
  | paused
  | executing
  | soaking
  | cancelling
  | succeeded
  | failed
  | cancelled
  deriving DecidableEq

def RolloutPhase.text : RolloutPhase → String
  | .unset => ""
  | .awaitingApproval => "AwaitingApproval"
  | .paused => "Paused"
  | .executing => "Executing"
  | .soaking => "Soaking"
  | .cancelling => "Cancelling"
  | .succeeded => "Succeeded"
  | .failed => "Failed"
  | .cancelled => "Cancelled"

inductive TargetPhase
  | unset
  | planned
  | waitingForAdmission
  | admitted
  | running
  | soaking
  | succeeded
  | failed
  | blocked
  | cancelling
  | cancelled
  deriving DecidableEq

/-- `IOSXESoftwareRolloutTargetStatus`. -/
structure TargetSummary where
  deviceName : String
  deviceUID : String
  leafName : String
  leafUID : String
  phase : TargetPhase
  reason : String
  message : String
  lastTransitionTime : Time
  deriving DecidableEq

def TargetSummary.zero : TargetSummary := ⟨"", "", "", "", .unset, "", "", 0⟩

inductive ConditionStatus
  | yes
  | no
  | unknown
  deriving DecidableEq

/-- What is read of the `CanaryResumeRequired` condition. -/
structure CanaryCondition where
  status : ConditionStatus
  reason : String
  observedGeneration : Int
  deriving DecidableEq

/-- The window of an activation approval. The receipts it names are checked by
`validateActivationApproval`, whose answer is an outcome. -/
structure ActivationApproval where
  notBefore : Time
  notAfter : Time

/-- The audit fields of `spec.control`; `plan` holds the others. -/
structure ControlRequest where
  requestedBy : String
  requestedAt : Option Time
  reason : String
  deriving DecidableEq

/-- A rollout with a frozen plan. `approval` is the approved plan hash,
`requestedRevision` that of `status.control`, and `networkHealth` says that the
plan asks for network evidence. -/
structure SoftwareRollout where
  plan : RolloutPlan
  generation : Int
  approval : Option String
  control : ControlRequest
  pauseAfterCanary : Option Bool
  networkHealth : Bool
  activationApproval : Option ActivationApproval
  epochs : EpochStatus
  phase : RolloutPhase
  targets : List TargetSummary
  requestedRevision : Option Nat
  canaryResumeRequired : Option CanaryCondition

def pauseAfterCanary (rollout : SoftwareRollout) : Bool := rollout.pauseAfterCanary.getD true

def canaryResumeAuthorized (rollout : SoftwareRollout) : Bool :=
  match rollout.canaryResumeRequired with
  | none => false
  | some condition =>
    (condition.status == .no && condition.reason == "ResumeAuthorized") ||
    (condition.status == .yes &&
      rollout.requestedRevision.any (fun requested =>
        decide (requested < rollout.plan.campaign.controlRevision)) &&
      decide (condition.observedGeneration < rollout.generation) &&
      !rollout.plan.pause && !rollout.plan.cancel)

/-! ## Targets and their leaves -/

/-- Child names are DNS names, so a byte is a character. -/
def activationChildName (preparedName : String) : String :=
  let suffix := "-activate-" ++ sha256Hex 1 preparedName
  let maxBase := 253 - suffix.utf8ByteSize
  let base := trimRight ['-', '.'] preparedName
  let base := if maxBase < base.utf8ByteSize then
    trimRight ['-', '.'] (String.ofList (base.toList.take maxBase)) else base
  base ++ suffix

def activationTarget (target : PlannedTarget) : PlannedTarget :=
  { target with childName := activationChildName target.childName }

/-- The wave the planner gives a target: canaries come first. -/
def plannedWave (cohort : String) : Int := if cohort ≠ "" then 0 else 1

/-- The targets a reconcile works on: under an activation approval each frozen
target has a second leaf of its own. -/
def SoftwareRollout.executionTargets (rollout : SoftwareRollout) : List PlannedTarget :=
  match rollout.activationApproval with
  | none => rollout.plan.targets
  | some _ => rollout.plan.targets.map activationTarget

def expectedLeafNames (rollout : SoftwareRollout) : List String :=
  rollout.plan.targets.flatMap fun target =>
    target.childName ::
      (if rollout.activationApproval.isSome then [activationChildName target.childName] else [])

def collectLeaves (expected : List String) : Map Leaf → List Leaf → Except String (Map Leaf)
  | children, [] => .ok children
  | children, leaf :: rest =>
    if leaf.leafName ∉ expected then
      .error s!"campaign UID label appears on unexpected leaf {leaf.leafNamespace}/{leaf.leafName}"
    else if (children.find leaf.leafName).isSome then
      .error s!"duplicate leaf name {leaf.leafName}"
    else collectLeaves expected (children.set leaf.leafName leaf) rest

def maxRolloutLeaves (rollout : SoftwareRollout) : Nat :=
  if rollout.activationApproval.isSome then rollout.plan.targets.length * 2
  else rollout.plan.targets.length

/-- `rolloutChildren`, given what the API server lists. -/
def rolloutChildren (rollout : SoftwareRollout) (listed : Except String (List Leaf)) :
    Except String (Map Leaf) :=
  match listed with
  | .error e => .error s!"list rollout leaves: {e}"
  | .ok items =>
    if maxRolloutLeaves rollout < items.length then
      .error s!"campaign has {items.length} leaves; at most {maxRolloutLeaves rollout} preparation and activation leaves are expected"
    else collectLeaves (expectedLeafNames rollout) ∅ items

def anyTerminalFailure (children : Map Leaf) : Bool :=
  decide (¬ children.Every fun _ leaf => terminalLeafFailure leaf.phase = false)

/-! ## Errors of the steps -/

/-- What `errors.Is` is asked about. -/
inductive StepSentinel
  | ledger (sentinel : Sentinel)
  | workloadsRunning
  | drainSafetyBlocked
  | preparedOwnershipRetained
  deriving DecidableEq

/-- An error may join several, and wrap a sentinel each. -/
structure StepError where
  sentinels : List StepSentinel
  text : String

def StepError.is (e : StepError) (sentinel : StepSentinel) : Bool :=
  e.sentinels.contains sentinel

def StepError.blocksRearm (e : StepError) : Bool :=
  e.is (.ledger .budgetExceeded) || e.is (.ledger .targetUnavailable) ||
    e.is .workloadsRunning || e.is .drainSafetyBlocked || e.is (.ledger .staleControlRevision)

def StepError.blocksAdmission (e : StepError) : Bool :=
  e.is (.ledger .budgetExceeded) || e.is (.ledger .targetUnavailable) ||
    e.is .workloadsRunning || e.is .drainSafetyBlocked || e.is .preparedOwnershipRetained

/-! ## The fence of an admission -/

/-- What the last `revalidateCampaignExecution` of an admission reads. A rollout
that has lost its plan counts as one that cannot be read. -/
structure CampaignRead where
  current : Except String SoftwareRollout
  leaves : Except String (List Leaf)

def revalidateCampaignExecution (rollout : SoftwareRollout) (read : CampaignRead) : Option String :=
  let campaign := rollout.plan.campaign
  if campaign.campaignUID = "" then some "campaign execution identity is incomplete"
  else
    match read.current with
    | .error e => some s!"re-read campaign execution control: {e}"
    | .ok current =>
      let binding (epoch : PolicyEpoch) := (epoch.epoch, epoch.policy.semanticHash)
      if current.plan.campaign.campaignUID ≠ campaign.campaignUID ∨
          current.plan.campaign.planHash ≠ campaign.planHash ∨
          current.approval ≠ some campaign.planHash then
        some "campaign identity, plan, or approval changed before admission"
      else if current.epochs.transition.isSome ∨ current.epochs.effective.isNone ∨
          rollout.epochs.effective.isNone ∨
          current.epochs.effective.map binding ≠ rollout.epochs.effective.map binding then
        some "campaign policy epoch changed or is transitioning before admission"
      else if current.phase ∈ [.failed, .cancelling, .cancelled, .succeeded] then
        some s!"campaign phase {current.phase.text} does not permit admission"
      else if current.plan.campaign.controlRevision ≠ campaign.controlRevision ∨
          current.plan.pause ≠ rollout.plan.pause ∨ current.plan.cancel ≠ rollout.plan.cancel ∨
          current.control ≠ rollout.control ∨ current.plan.pause ∨ current.plan.cancel then
        some "campaign control changed before admission"
      else
        match rolloutChildren current read.leaves with
        | .error e => some s!"re-read campaign leaves before admission: {e}"
        | .ok children =>
          if anyTerminalFailure children then
            some "campaign leaf is terminal; admission is fenced"
          else none

/-- An admission: an error of the steps up to the reservation, what the fence
reads after it, and an error of the steps that make the leaf. -/
structure AdmitOutcome where
  reserving : Option StepError
  read : CampaignRead
  creating : Option StepError

def admitTargetError (rollout : SoftwareRollout) (outcome : AdmitOutcome) : Option StepError :=
  (outcome.reserving.or ((revalidateCampaignExecution rollout outcome.read).map (⟨[], ·⟩))).or
    outcome.creating

/-- `settled`, and otherwise the gate that holds the reservation. -/
structure Settlement where
  settled : Bool
  gateReason : String
  gateMessage : String

def Settlement.soaking (s : Settlement) : Bool := s.gateReason == "HealthyPostMutationSoak"

/-- Everything the cluster answers in one call. An `Option` is the error a step
returned, if it did. -/
structure Outcomes where
  verifyFrozenSource : Option String
  leaves : Except String (List Leaf)
  validateActivationApproval : Option String
  ensureFailureFences : Option String
  leavesAfterFences : Except String (List Leaf)
  validateManagedLeafBinding : PlannedTarget → Option String
  validateActivationLeafAnnotations : PlannedTarget → Option String
  ensureChildAdmission : PlannedTarget → Option String
  rearmPolicyEpochLeaf : PlannedTarget → Option StepError
  trySettleDrainedLeaf : PlannedTarget → Except String Settlement
  trySettleLeaf : PlannedTarget → Except String Settlement
  tryGrantLeaf : PlannedTarget → Except StepError Bool
  refreshNetworkGrantEvidence : PlannedTarget → Except String Bool
  admitTarget : PlannedTarget → AdmitOutcome

/-! ## How a call ends -/

/-- What `patchExecutionStatus` writes; `condition` is the update of
`CanaryResumeRequired`, if there is one. -/
structure Report where
  phase : RolloutPhase
  message : String
  targets : List TargetSummary
  condition : Option CanaryCondition

/-- A status report, `failRollout`, `reconcileSourceChanged`, or an error. The
middle two pause the rollout. -/
inductive Ending
  | reported (report : Report)
  | refused (reason message : String)
  | replan (detail : String)
  | returned (error : String)

def Ending.phase : Ending → Option RolloutPhase
  | .reported report => some report.phase
  | .refused _ _ | .replan _ => some .paused
  | .returned _ => none

def truncateRolloutText (value : String) (limit : Nat) : String :=
  String.ofList (value.toList.take limit)

def transitionTarget (summary : TargetSummary) (phase : TargetPhase) (reason message : String)
    (now : Time) : TargetSummary :=
  { summary with
    lastTransitionTime :=
      if summary.phase ≠ phase ∨ summary.reason ≠ reason then now
      else summary.lastTransitionTime
    phase := phase
    reason := truncateRolloutText reason 128
    message := truncateRolloutText message 512 }

def indexTargetSummaries (summaries : List TargetSummary) : Map TargetSummary :=
  Map.indexBy (·.deviceUID) summaries

/-- `summaries[target.DeviceUID]` moved to another phase. -/
def moveSummary (summaries : Map TargetSummary) (target : PlannedTarget) (phase : TargetPhase)
    (reason message : String) (now : Time) : Map TargetSummary :=
  summaries.set target.deviceUID (transitionTarget
    (summaries.get .zero target.deviceUID) phase reason message now)

def orderedTargetSummaries (rollout : SoftwareRollout) (indexed : Map TargetSummary) (now : Time) :
    List TargetSummary :=
  rollout.plan.targets.map fun target =>
    (indexed.find target.deviceUID).getD
      ⟨target.deviceName, target.deviceUID, target.childName, "", .planned, "", "", now⟩

def patchExecutionStatus (rollout : SoftwareRollout) (indexed : Map TargetSummary)
    (phase : RolloutPhase) (message : String) (now : Time)
    (condition : Option CanaryCondition) : Ending :=
  .reported ⟨phase, truncateRolloutText message 512,
    orderedTargetSummaries rollout indexed now, condition⟩

/-! ## Up to the loop -/

/-- What the loop over the targets works on. -/
structure Execution where
  policyEpoch : Int
  children : Map Leaf
  windowOpen : Bool
  failurePresent : Bool

section

variable (rollout : SoftwareRollout) (outcomes : Outcomes) (now : Time)

/-- The leaves of the execution targets among all of the rollout's. -/
def activationChildren (children : Map Leaf) : Map Leaf :=
  rollout.executionTargets.foldl (fun out target =>
    match children.find target.childName with
    | some leaf => out.set target.childName leaf
    | none => out) ∅

def shouldInitializeActivationExecution (activationChildren : Map Leaf) : Bool :=
  rollout.phase == .succeeded && activationChildren.len == 0

def moveAll (phase : TargetPhase) (reason message : String) : Map TargetSummary :=
  rollout.executionTargets.foldl
    (fun summaries target => moveSummary summaries target phase reason message now)
    (indexTargetSummaries rollout.targets)

/-- An activation waits for its window, and once resets the status of the
preparation that came before it. -/
def enterActivation (approval : ActivationApproval) (policyEpoch : Int)
    (children : Map Leaf) : Except Ending Execution :=
  match outcomes.validateActivationApproval with
  | some e => .error (.refused "ActivationAuthorizationInvalid" e)
  | none =>
    let children := activationChildren rollout children
    let windowOpen := decide (now < approval.notAfter)
    if now < approval.notBefore then
      .error (patchExecutionStatus rollout
        (moveAll rollout now .blocked "ActivationWindowNotOpen"
          s!"activation is authorized but cannot begin before {formatRFC3339 approval.notBefore}")
        .paused "prepared receipts are retained until the authorized activation window opens"
        now none)
    else if shouldInitializeActivationExecution rollout children then
      .error (if windowOpen then
        patchExecutionStatus rollout
          (moveAll rollout now .blocked "ActivationAuthorized"
            "exact prepared receipt is authorized for a separate activation reservation")
          .executing
          "activation authorization accepted; preparing distinct activation reservations"
          now none
      else
        patchExecutionStatus rollout
          (moveAll rollout now .blocked "ActivationWindowClosed"
            "activation window closed before a separate activation leaf was admitted")
          .paused "activation authorization is retained but its claim window has closed"
          now none)
    else .ok ⟨policyEpoch, children, windowOpen, false⟩

/-- A failed leaf stops the campaign: everything that is not claimed is fenced
before the failure is reported. -/
def fenceFailures (x : Execution) : Except Ending Execution :=
  if anyTerminalFailure x.children then
    match outcomes.ensureFailureFences with
    | some e => .error (.returned e)
    | none =>
      match rolloutChildren rollout outcomes.leavesAfterFences with
      | .error e => .error (.returned e)
      | .ok children =>
        if rollout.phase ≠ .failed then
          let summaries := rollout.executionTargets.foldl (fun summaries target =>
            match children.find target.childName with
            | some leaf =>
              if terminalLeafFailure leaf.phase then
                moveSummary (summaries.set target.deviceUID
                    { summaries.get .zero target.deviceUID with
                      leafUID := leaf.uid, leafName := leaf.leafName })
                  target .failed leaf.phase.text leaf.message now
              else summaries
            | none => summaries) (indexTargetSummaries rollout.targets)
          .error (patchExecutionStatus rollout summaries .failed
            "one or more targets failed; campaign-wide admission is stopped" now none)
        else .ok { x with children := children, failurePresent := true }
  else .ok x

/-- Everything before the loop. -/
def enterExecution [Upstream] [Selectors] [PolicyDigests] (current : ParsedAdminPolicy) :
    Except Ending Execution :=
  match rollout.epochs.effective with
  | none => .error (.refused "PolicyChangedIncompatibly" "rollout policy inputs are incomplete")
  | some effective =>
    match effectiveAdmissionPolicy rollout.plan effective current now with
    | .error e => .error (.refused "PolicyChangedIncompatibly" e)
    | .ok policy =>
      match outcomes.verifyFrozenSource with
      | some e => .error (.replan e)
      | none =>
        match rolloutChildren rollout outcomes.leaves with
        | .error e => .error (.returned e)
        | .ok children =>
          match rollout.activationApproval with
          | none => fenceFailures rollout outcomes now ⟨policy.epoch, children, true, false⟩
          | some approval =>
            match enterActivation rollout outcomes now approval policy.epoch children with
            | .error ending => .error ending
            | .ok x => fenceFailures rollout outcomes now x

end

/-! ## The loop over the targets -/

/-- What a reconcile finds of one target, after the step it called for it. -/
inductive TargetVerdict
  | absent
  | bindingRecovered
  | rearmed
  | rearmBlocked (text : String)
  | drainAborted
  | drainHeld (gate : Settlement)
  | failed
  | succeeded
  | held (failure : Bool) (gate : Settlement)
  | granted
  | awaitingWorker
  | grantBlocked (text : String)
  | evidenceRenewed
  | evidenceInvalid (text : String)
  | windowClosed
  | running

section

variable (rollout : SoftwareRollout) (outcomes : Outcomes)

/-- A leaf that is neither terminal nor recovering from a drain. -/
def visitRunning (x : Execution) (target : PlannedTarget) (admission : ManagerAdmission) :
    Except Ending TargetVerdict :=
  if admission.state = .pending ∧ x.failurePresent = false ∧ x.windowOpen = true then
    match outcomes.tryGrantLeaf target with
    | .error e =>
      if e.is .drainSafetyBlocked then .ok (.grantBlocked e.text) else .error (.returned e.text)
    | .ok true => .ok .granted
    | .ok false => .ok .awaitingWorker
  else if admission.state = .granted ∧ rollout.networkHealth = true then
    match outcomes.refreshNetworkGrantEvidence target with
    | .error e => .ok (.evidenceInvalid e)
    | .ok true => .ok .evidenceRenewed
    | .ok false => .ok .running
  else if x.windowOpen = false ∧ admission.state = .pending then .ok .windowClosed
  else .ok .running

/-- The admission was revoked when a newer policy epoch was published. -/
def rearmable (x : Execution) (rearmed : Bool) (leaf : Leaf) (admission : ManagerAdmission) :
    Bool :=
  !x.failurePresent && !rearmed && admission.state == .revoked &&
    admission.revocationReason == "PolicyEpochTransition" &&
    decide (admission.policyEpoch < x.policyEpoch) && leaf.claims.isEmpty

def drainRecovering (leaf : Leaf) : Bool :=
  leaf.managerDrain == some .recovering || leaf.managerDrain == some .settled

def visitAdmitted (x : Execution) (rearmed : Bool) (target : PlannedTarget) (leaf : Leaf)
    (admission : ManagerAdmission) : Except Ending TargetVerdict :=
  if rearmable x rearmed leaf admission then
    match outcomes.rearmPolicyEpochLeaf target with
    | none => .ok .rearmed
    | some e => if e.blocksRearm then .ok (.rearmBlocked e.text) else .error (.returned e.text)
  else if terminalLeafPhase leaf.phase = false ∧ drainRecovering leaf = true then
    match outcomes.trySettleDrainedLeaf target with
    | .error e => .error (.returned e)
    | .ok gate => if gate.settled then .ok .drainAborted else .ok (.drainHeld gate)
  else if terminalLeafPhase leaf.phase then
    match outcomes.trySettleLeaf target with
    | .error e => .error (.returned e)
    | .ok gate =>
      if gate.settled then
        if terminalLeafFailure leaf.phase then .ok .failed else .ok .succeeded
      else .ok (.held (terminalLeafFailure leaf.phase) gate)
  else visitRunning rollout outcomes x target admission

def visitTarget (x : Execution) (rearmed : Bool) (target : PlannedTarget) :
    Except Ending TargetVerdict :=
  match x.children.find target.childName with
  | none => .ok .absent
  | some leaf =>
    match outcomes.validateManagedLeafBinding target with
    | some e => .error (.refused "ChildIdentityConflict" e)
    | none =>
      match rollout.activationApproval.bind
          (fun _ => outcomes.validateActivationLeafAnnotations target) with
      | some e => .error (.refused "ActivationChildIdentityConflict" e)
      | none =>
        match leaf.managerAdmission with
        | none =>
          match outcomes.ensureChildAdmission target with
          | some e => .error (.returned e)
          | none => .ok .bindingRecovered
        | some admission => visitAdmitted rollout outcomes x rearmed target leaf admission

end

structure Flags where
  allCanariesSettled : Bool
  allTargetsSettled : Bool
  hasFailure : Bool
  hasRunning : Bool
  hasSoaking : Bool
  progressionBlocked : Bool
  rearmedPolicyLeaf : Bool

def Flags.initial : Flags := ⟨true, true, false, false, false, false, false⟩

/-- The target is not settled, and if it is a canary, not every canary is. -/
def Flags.unsettled (f : Flags) (target : PlannedTarget) : Flags :=
  { f with
    allTargetsSettled := false
    allCanariesSettled := f.allCanariesSettled && target.canaryCohort == "" }

def Flags.note (f : Flags) (target : PlannedTarget) : TargetVerdict → Flags
  | .absent | .bindingRecovered | .awaitingWorker => f.unsettled target
  | .rearmed => { f.unsettled target with rearmedPolicyLeaf := true }
  | .rearmBlocked _ | .grantBlocked _ | .evidenceInvalid _ | .windowClosed =>
    { f.unsettled target with progressionBlocked := true }
  | .drainAborted => { f.unsettled target with hasFailure := true }
  | .drainHeld gate =>
    { f.unsettled target with
      hasSoaking := f.hasSoaking || gate.soaking, progressionBlocked := true }
  | .failed => { f with hasFailure := true }
  | .succeeded => f
  | .held failure gate =>
    { f.unsettled target with
      hasFailure := f.hasFailure || failure
      hasSoaking := f.hasSoaking || gate.soaking, progressionBlocked := true }
  | .granted | .evidenceRenewed | .running => { f.unsettled target with hasRunning := true }

/-- The phase, reason and message a verdict gives the target's summary. -/
def TargetVerdict.summary (leaf : Leaf) : TargetVerdict → TargetPhase × String × String
  | .absent => (.unset, "", "")
  | .bindingRecovered =>
    (.waitingForAdmission, "AdmissionBindingRecovered",
      "manager restored the durable reservation binding; waiting for worker acknowledgement")
  | .rearmed =>
    (.waitingForAdmission, "PolicyEpochRearmed",
      "reservation rebound; waiting for worker acknowledgement of the new policy epoch")
  | .rearmBlocked text => (.blocked, "PolicyEpochRearmBlocked", text)
  | .drainAborted =>
    (.failed, "DrainAborted", "workload drain recovered without granting a device mutation")
  | .drainHeld gate | .held _ gate =>
    (if gate.soaking then .soaking else .blocked, gate.gateReason, gate.gateMessage)
  | .failed => (.failed, leaf.phase.text, leaf.message)
  | .succeeded => (.succeeded, "HealthGatePassed", leaf.message)
  | .granted =>
    (.admitted, "ReservationGranted",
      "worker acknowledged the managed protocol and admission was granted")
  | .awaitingWorker =>
    (.waitingForAdmission, "WorkerProtocolPending", "waiting for worker protocol acknowledgement")
  | .grantBlocked text => (.blocked, "DrainSafetyBlocked", text)
  | .evidenceRenewed =>
    (.running, "NetworkEvidenceRenewed",
      "manager renewed claim authority from current accepted network evidence")
  | .evidenceInvalid text => (.blocked, "NetworkEvidenceAuthorityInvalid", text)
  | .windowClosed =>
    (.blocked, "ActivationWindowClosed",
      "activation window closed before the manager granted a device mutation")
  | .running => (.running, leaf.phase.text, leaf.message)

/-- The summaries after a verdict. A recovered binding leaves the leaf's name as
it was. -/
def summarize (children : Map Leaf) (summaries : Map TargetSummary) (target : PlannedTarget)
    (verdict : TargetVerdict) (now : Time) : Map TargetSummary :=
  match children.find target.childName with
  | none => summaries
  | some leaf =>
    let old := summaries.get .zero target.deviceUID
    let named := match verdict with
      | .bindingRecovered => { old with leafUID := leaf.uid }
      | _ => { old with leafUID := leaf.uid, leafName := leaf.leafName }
    let (phase, reason, message) := verdict.summary leaf
    moveSummary (summaries.set target.deviceUID named) target phase reason message now

/-- The loop's variables. `verdicts` records the loop for the statements about
it; nothing reads it. -/
structure Visited where
  flags : Flags
  summaries : Map TargetSummary
  verdicts : List (PlannedTarget × TargetVerdict)

section

variable (rollout : SoftwareRollout) (outcomes : Outcomes) (now : Time) (x : Execution)

def visitNext (visited : Visited) (target : PlannedTarget) : Except Ending Visited :=
  match visitTarget rollout outcomes x visited.flags.rearmedPolicyLeaf target with
  | .error ending => .error ending
  | .ok verdict =>
    .ok ⟨visited.flags.note target verdict,
      summarize x.children visited.summaries target verdict now,
      visited.verdicts ++ [(target, verdict)]⟩

def visitTargets : List PlannedTarget → Visited → Except Ending Visited
  | [], visited => .ok visited
  | target :: rest, visited =>
    match visitNext rollout outcomes now x visited target with
    | .error ending => .error ending
    | .ok visited => visitTargets rest visited

/-! ## After the loop -/

/-- The loop that admits: the targets for which `admitTarget` returned nil, and
the summaries. -/
def admitTargets (flags : Flags) :
    List PlannedTarget → Map TargetSummary →
      Except Ending (List PlannedTarget × Map TargetSummary)
  | [], summaries => .ok ([], summaries)
  | target :: rest, summaries =>
    if flags.progressionBlocked then .ok ([], summaries)
    else if (x.children.find target.childName).isSome then admitTargets flags rest summaries
    else if flags.allCanariesSettled = false ∧ 0 < target.wave then
      admitTargets flags rest summaries
    else if x.windowOpen = false then
      admitTargets flags rest (moveSummary summaries target .blocked "ActivationWindowClosed"
        "activation window closed before this target acquired a reservation" now)
    else
      match admitTargetError rollout (outcomes.admitTarget target) with
      -- One reservation and child per reconcile.
      | none => .ok ([target], summaries)
      | some e =>
        if e.blocksAdmission then
          admitTargets flags rest (moveSummary summaries target .blocked
            (if e.is .preparedOwnershipRetained then "PreparedOwnershipRetained"
              else "AdmissionBlocked") e.text now)
        else .error (.returned e.text)

structure ExecutionResult where
  ending : Ending
  admitted : List PlannedTarget

/-- The condition that an operator resumed after the canaries, when it is due. -/
def resumedCondition (flags : Flags) : Option CanaryCondition :=
  if flags.allCanariesSettled && pauseAfterCanary rollout && canaryResumeAuthorized rollout &&
      rollout.canaryResumeRequired.any (·.status == .yes) then
    some ⟨.no, "ResumeAuthorized", rollout.generation⟩
  else none

def concludeExecution (visited : Visited) : ExecutionResult :=
  let flags := visited.flags
  if flags.hasFailure then
    ⟨patchExecutionStatus rollout visited.summaries .failed
      "one or more targets failed; no additional targets will be admitted" now none, []⟩
  else if flags.allTargetsSettled then
    ⟨patchExecutionStatus rollout visited.summaries .succeeded
      "all targets completed and passed their post-mutation health gates" now none, []⟩
  else if flags.allCanariesSettled && pauseAfterCanary rollout &&
      !canaryResumeAuthorized rollout then
    ⟨patchExecutionStatus rollout visited.summaries .paused
      "canaries passed; increment spec.control.revision with pause=false to authorize wider rollout"
      now (some ⟨.yes, "CanariesPassed", rollout.generation⟩), []⟩
  else
    match admitTargets rollout outcomes now x flags rollout.executionTargets
        visited.summaries with
    | .error ending => ⟨ending, []⟩
    | .ok (admitted, summaries) =>
      let report (phase : RolloutPhase) (message : String) : ExecutionResult :=
        ⟨patchExecutionStatus rollout summaries phase message now (resumedCondition rollout flags),
          admitted⟩
      if admitted ≠ [] then
        report .executing "campaign is executing within frozen topology budgets"
      else if flags.hasSoaking && !flags.hasRunning then
        report .soaking
          "campaign is holding reservations during the continuous post-mutation health soak"
      else
        report .executing
          "campaign is waiting for a reservation, worker acknowledgement, or health gate"

end

def reconcileExecution [Upstream] [Selectors] [PolicyDigests] (rollout : SoftwareRollout)
    (current : ParsedAdminPolicy) (outcomes : Outcomes) (now : Time) : ExecutionResult :=
  match enterExecution rollout outcomes now current with
  | .error ending => ⟨ending, []⟩
  | .ok x =>
    match visitTargets rollout outcomes now x rollout.executionTargets
        ⟨.initial, indexTargetSummaries rollout.targets, []⟩ with
    | .error ending => ⟨ending, []⟩
    | .ok visited => concludeExecution rollout outcomes now x visited

end VirtualKubelet.Rollout
