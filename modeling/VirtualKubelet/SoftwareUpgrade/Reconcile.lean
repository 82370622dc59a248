import VirtualKubelet.SoftwareUpgrade.Worker

/-!
# The phases of an upgrade

`Reconcile` and the handler of each phase. A handler asks what it has to know
of the device, writes one step of the state machine, and in four places claims
a stage and sends its RPC.
-/

namespace VirtualKubelet.SoftwareUpgrade

open Go Rollout Program

/-! ## Steps of the state machine -/

def persist (up : Upgrade) (mutate : Status → Status) : Worker Unit := do
  let _ ← updateStatus up mutate
  pure ()

def Status.begin (s : Status) (now : Time) : Status :=
  { s with startTime := s.startTime <|> some now }

def rememberPreviousVersion (s : Status) (previous : String) : Status :=
  { s with previousVersion := if s.previousVersion = "" then previous else s.previousVersion }

def advance (up : Upgrade) (phase : UpgradePhase) (reason : String) : Worker Unit := do
  let now ← clock
  persist up fun s =>
    { (if phase = UpgradePhase.pending then s else s.begin now) with
      phase := phase, failureReason := "" }.setReady false reason

def pendingMessage (up : Upgrade) (reason : String) : Worker Unit :=
  persist up fun s => { s with phase := .pending }.setReady false reason

def advanceStagingValidation (up : Upgrade)
    (reason : OneOf ["StagingObservationPending", "StagingResponseLost", "StagingAccepted"]) :
    Worker Unit :=
  persist up fun s =>
    (({ s with phase := .validating, failureReason := "" }.setCondition .staged false
      reason.1).setCondition .validated false reason.1).setReady false reason.1

def waitForInventory (up : Upgrade) (reason : String) (now : Time) : Worker Unit :=
  persist up fun s =>
    ({ s.begin now with failureReason := "" }.setCondition .validated false reason).setReady
      false reason

def waitForValidation (up : Upgrade) (reason : String) : Worker Unit :=
  persist up fun s =>
    ({ s with phase := .validating, failureReason := "" }.setCondition .validated false
      reason).setReady false reason

/-- The timeout of `waitForSupervisorTarget` is among the failures of its
callers. -/
def waitForSupervisorTarget (up : Upgrade) (phase : UpgradePhase) (now : Time) : Worker Unit :=
  persist up fun s =>
    { s.begin now with phase := phase, failureReason := "" }.setReady false "StandbyUnavailable"

/-- What `handlePreflightGNOIError` writes for an error that may pass. -/
def preflightPending (up : Upgrade) (now : Time) : Worker Unit :=
  persist up fun s =>
    { s.begin now with phase := .resolving, failureReason := "" }.setReady false "VerifyPending"

def waitForTransferPreflight (up : Upgrade) (reason : String) (now : Time) : Worker Unit :=
  persist up fun s =>
    ({ s.begin now with phase := .transferring, failureReason := "" }.setCondition .transferred
      false reason).setReady false reason

def upgradeWaitStarted (s : Status) : Bool :=
  s.activationStartTime.isSome || s.isConditionTrue .activated

def waitForActivationControl (up : Upgrade) (now : Time) : Worker Unit :=
  persist up fun s =>
    { s with
      activationControlStartTime :=
        if upgradeWaitStarted s then s.activationControlStartTime
        else s.activationControlStartTime <|> some now
      phase := .activating
      failureReason := "" }.setReady false "ActivationControlPending"

def awaitActivationConvergence (up : Upgrade) (standby : Bool)
    (reason : OneOf ["StandbyActivationRecorded", "ActivationRecorded", "ActivationResponseLost",
      "StandbyActivationAccepted"]) : Worker Unit :=
  persist up fun s =>
    ((({ s with phase := .awaitingReachability, failureReason := "" }.setCondition .activated
      (!standby) reason.1).setCondition .deviceReachable false "ReloadExpected").setCondition
        .verified false "VerifyPending").setReady false
          (if standby then "StandbyRebooting" else "Rebooting")

def waitForStandbyActivation (up : Upgrade) : Worker Unit :=
  persist up fun s =>
    ({ s with phase := .awaitingReachability, failureReason := "" }.setCondition .activated
      false "StandbyActivationPending").setReady false "StandbyActivationPending"

def requeueAwaitingReachability (up : Upgrade) : Worker Unit :=
  persist up fun s =>
    ({ s with phase := .awaitingReachability }.setCondition .deviceReachable false
      "DeviceUnreachable").setReady false "DeviceUnreachable"

/-- The condition keeps saying that the rollback was dispatched if it was. -/
def requeueRollback (up : Upgrade) : Worker Unit :=
  let reason :=
    if rollbackRequestSubmitted up.status then "RollbackDispatched" else "RollbackWaiting"
  persist up fun s =>
    ({ s with phase := .rollingBack, failureReason := "" }.setCondition .rollback false
      reason).setReady false reason

/-! ## Preparation -/

def completePreparation (up : Upgrade) (individual : Bool) (now : Time) : Worker Unit := do
  let primaryProof := up.status.primarySupervisorInstalled ||
    (up.status.stagingRequested && up.status.stagingOperationID != "")
  match ← ask .preparation with
  | .fails reason => terminalAfterMutation up .validationFailed reason.1 now
  | .waits reason => waitForValidation up reason.1
  | .error => pure ()
  | .receipt hash =>
    if !primaryProof || (individual && !up.status.standbySupervisorInstalled) then
      terminalAfterMutation up .validationFailed "PreparedSupervisorProofIncomplete" now
    else if up.status.installStartTime.isNone then
      terminalAfterMutation up .validationFailed "PreparedInstallClaimMissing" now
    else
      updateTerminalStatus up fun s =>
        ((((({ s with
          phase := .prepared
          preparedReceipt := some hash
          completionTime := some now
          failureReason := "" }.setCondition .mutationSettled true
            "PreparationCompleted").setCondition .staged true "Prepared").setCondition .validated
              true "Prepared").setCondition .activated false
                "ActivationNotAuthorized").setCondition .deviceReachable true "Prepared").setReady
                  true "Prepared"

def validatePreparedInstall (up : Upgrade) (now : Time) : Worker Unit := do
  if blank up.status.validatedVersion then
    terminalAfterMutation up .validationFailed "PreparedVersionMissing" now
  else
    match ← ask .preparedInventory with
    | .waits reason => waitForValidation up reason.1
    | .fails reason => terminalAfterMutation up .validationFailed reason.1 now
    | .prepared => completePreparation up up.status.individualSupervisorInstall now

def targetReadyForActivation (up : Upgrade) (version previous : String) (individual : Bool)
    (reason : OneOf ["PreparedNativeInstallCorroborated", "PreinstalledVersionResolved",
      "DeviceFileStaged"]) (now : Time) : Worker Unit := do
  match ← ask .target with
  | some failure => terminal up .validationFailed failure.1 now
  | none =>
    if up.strategy = .prepareOnly then completePreparation up individual now
    else
      persist up fun s =>
        ((((({ rememberPreviousVersion (s.begin now) previous with
          phase := .activating
          validatedVersion := version
          individualSupervisorInstall := s.individualSupervisorInstall || individual
          failureReason := "" }.setCondition .mutationSettled true
            "InstallCompleted").setCondition .staged true reason.1).setCondition .validated true
              reason.1).setCondition .transferred true "TransferNotRequired").setCondition
                .activated false "ActivationPending").setReady false reason.1

/-! ## Before the device is touched -/

def runPending (up : Upgrade) (now : Time) : Worker Unit := do
  match ← ask .pending with
  | .fails reason => terminal up .preflightFailed reason.1 now
  | .waits reason => pendingMessage up reason.1
  | .error => pure ()
  | .passes =>
    if ← ensureMutationLease up then advance up .resolving "Resolving" else pure ()

def runResolving (up : Upgrade) (now : Time) : Worker Unit := do
  match ← ask .resolving with
  | .fails f => terminal up f.1.1 f.1.2 now
  | .error => pure ()
  | .verifyPending => preflightPending up now
  | .standbyUnavailable => waitForSupervisorTarget up .resolving now
  | .alreadyRunning individual =>
    updateTerminalStatus up fun s =>
      ((((({ s.begin now with
        phase := .succeeded
        individualSupervisorInstall := s.individualSupervisorInstall || individual
        failureReason := ""
        completionTime := some now }.setCondition .imageResolved true
          "AlreadyRunning").setCondition .transferred true "AlreadyRunning").setCondition
            .activated true "AlreadyRunning").setCondition .deviceReachable true
              "AlreadyRunning").setCondition .verified true "AlreadyRunning").setReady true
                "AlreadyRunning"
  | .transfers running individual =>
    persist up fun s =>
      ({ rememberPreviousVersion (s.begin now) running with
        phase := .transferring
        individualSupervisorInstall := s.individualSupervisorInstall || individual
        failureReason := "" }.setCondition .transferred false "TransferPending").setReady false
          "TransferPending"
  | .fileVerified running digest individual =>
    persist up fun s =>
      ({ rememberPreviousVersion (s.begin now) running with
        sourceDigest := digest
        individualSupervisorInstall := s.individualSupervisorInstall || individual
        failureReason := "" }.setCondition .imageResolved true "DeviceFileVerified").setReady
          false "InventoryPending"
  | .inspects running individual =>
    if up.imageSource = .deviceFile ∧ stagingRequestSubmitted up.status then
      advanceStagingValidation up ⟨"StagingObservationPending", by simp⟩
    else
      let previous := if up.status.previousVersion = "" then running else up.status.previousVersion
      match ← ask .inventory with
      | .fails f => terminal up f.1.1 f.1.2 now
      | .absent operationID =>
        if up.imageSource = .deviceFile then
          persist up fun s =>
            ({ rememberPreviousVersion (s.begin now) previous with
              phase := .staging
              stagingOperationID :=
                if up.status.stagingOperationID = "" then operationID
                else up.status.stagingOperationID
              individualSupervisorInstall := s.individualSupervisorInstall || individual
              failureReason := "" }.setCondition .staged false "StagingPending").setReady false
                "StagingPending"
        else terminal up .preflightFailed "TargetNotInstalled" now
      | .waits reason => waitForInventory up reason.1 now
      | .corroborated version =>
        targetReadyForActivation up version previous individual
          ⟨"PreparedNativeInstallCorroborated", by simp⟩ now
      | .resolved version =>
        targetReadyForActivation up version previous individual
          ⟨"PreinstalledVersionResolved", by simp⟩ now

/-! ## Staging a device file -/

def runStaging (r : Reconciler) (up : Upgrade) (now : Time) : Worker Unit := do
  if up.imageSource ≠ .deviceFile then terminal up .failed "InvalidStagingState" now
  else
    match ← ask .stagingBefore with
    | some f => terminal up f.1.1 f.1.2 now
    | none =>
      if stagingRequestSubmitted up.status then
        if ← ask .stagingGrace then pure ()
        else advanceStagingValidation up ⟨"StagingObservationPending", by simp⟩
      else
        match ← ask .staging with
        | .fails f => terminal up f.1.1 f.1.2 now
        | .waits => waitForInventory up "InventoryUnavailable" now
        | .verifyPending => preflightPending up now
        | .error => pure ()
        | .passes =>
          if ← ensureMutationLease up then
            match ← claimStaging r up now with
            | none => pure ()
            | some (.deleting object) => handleDelete object now
            | some (.refused _) => pure ()
            | some (.claimed up) =>
              let response ← dispatch .staging
              let now ← clock
              match response with
              | .rejected => terminalAfterMutation up .validationFailed "StagingRejected" now
              | .lost => advanceStagingValidation up ⟨"StagingResponseLost", by simp⟩
              | .mismatched => terminal up .validationFailed "StagingOperationMismatch" now
              | .accepted => advanceStagingValidation up ⟨"StagingAccepted", by simp⟩
          else pure ()

def runValidating (up : Upgrade) (now : Time) : Worker Unit := do
  match ← ask .validatingBefore with
  | some reason => terminal up .validationFailed reason.1 now
  | none =>
    if up.strategy = .prepareOnly ∧ up.status.stagingOperationID = "" then
      validatePreparedInstall up now
    else if up.status.stagingOperationID = "" then
      terminal up .validationFailed "StagingOperationMissing" now
    else
      match ← ask .validating with
      | .fails reason => terminal up .validationFailed reason.1 now
      | .stagingFailed => terminalAfterMutation up .validationFailed "StagingFailed" now
      | .waits reason => waitForValidation up reason.1
      | .staged version =>
        targetReadyForActivation up version up.status.previousVersion
          up.status.individualSupervisorInstall ⟨"DeviceFileStaged", by simp⟩ now

/-! ## Transfer and install -/

def versionMatches (deviceVersion target : String) : Bool :=
  deviceVersion == target || (target ++ ".").toList.isPrefixOf deviceVersion.toList

/-- Where the phase after a completed install leads. -/
def installNextPhase (strategy : Strategy) : UpgradePhase :=
  if strategy = .prepareOnly then .validating else .activating

def installActivationReason (strategy : Strategy) : String :=
  if strategy = .prepareOnly then "ActivationNotAuthorized" else "ActivationPending"

def acceptObservedInstall (up : Upgrade) (version : String) : Worker Unit :=
  if up.status.individualSupervisorInstall then
    persist up fun s =>
      (({ s with
        primarySupervisorInstalled := true
        validatedVersion := version
        failureReason := "" }.setCondition .mutationSettled true
          "NativeInstallCorroborated").setCondition .validated false
            "StandbyInstallPending").setReady false "StandbyInstallPending"
  else
    persist up fun s =>
      (((((markTransferComplete { s with
        phase := installNextPhase up.strategy
        primarySupervisorInstalled := true
        validatedVersion := version
        failureReason := "" }).setCondition .mutationSettled true
          "NativeInstallCorroborated").setCondition .transferred true
            "NativeInstallCorroborated").setCondition .validated true
              "NativeInstallCorroborated").setCondition .activated false
                (installActivationReason up.strategy)).setReady false "NativeInstallCorroborated"

/-- Only the primary's install can be proven by the native observer. -/
def observeUncertainInstall (up : Upgrade) (standby : Bool) (now : Time) : Worker Unit := do
  let pending (reason : String) : Worker Unit :=
    persist up fun s =>
      ({ s with failureReason := "" }.setCondition .transferred false reason).setReady false reason
  match ← ask .uncertainInstall with
  | .inGrace => pure ()
  | .timedOut => terminal up .validationFailed "InstallOutcomeUnknown" now
  | .invalidProof =>
    if standby then pending "InstallObservationPending"
    else terminalAfterMutation up .validationFailed "InvalidNativeInstallProof" now
  | .completed version =>
    if standby then pending "InstallObservationPending" else acceptObservedInstall up version
  | .pending reason => pending reason.1

def runTransferInterrupted (up : Upgrade) (now : Time) : Worker Unit :=
  match unresolvedInstallAttempt up.status with
  | none => terminal up .validationFailed "InstallAttemptMarkerMissing" now
  | some standby => observeUncertainInstall up standby now

/-- The caller's copy with the image pinned, or nothing if it was not pinned. -/
def pinResolvedImage (up : Upgrade) (digest : String) (size : Nat) (individual : Bool) :
    Worker (Option (Option Upgrade)) :=
  retryOnConflict (do
    match ← fetch with
    | .failed | .missing => pure .error
    | .found cur =>
      if !upgradeStatusCASMatches up cur || terminalUpgradePhase cur.status.phase ||
          cur.status.sourceDigest != "" then pure (.returns none)
      else
        let status := ({ cur.status with
          sourceDigest := digest
          sourceSize := size
          individualSupervisorInstall := cur.status.individualSupervisorInstall || individual
          failureReason := "" }.setCondition .imageResolved true "ImagePinned").setReady false
            "ImagePinned"
        writeStatus cur status (some { up with status := status }))
    defaultBackoffSteps

/-- The least progress worth writing down. -/
def progressStep : Nat := 64 * 1024

/-- Progress is not written if the counter went back or hardly moved. -/
def progressThrottled (progress : Option TransferProgress) (received : Nat) : Bool :=
  progress.any fun progress =>
    decide (0 < progress.bytesTransferred) &&
      (decide (received ≤ progress.bytesTransferred) ||
        decide (received - progress.bytesTransferred < progressStep))

/-- The bytes written down are not more than there are. -/
def cappedBytes (received total : Nat) : Nat := if 0 < total then min received total else received

def updateTransferProgress (up : Upgrade) (received total : Nat) : Worker Upgrade := do
  if progressThrottled up.status.transferProgress received then pure up
  else
    let received := cappedBytes received total
    let progress : TransferProgress := ⟨received, total⟩
    let updated ← retryOnConflict (do
      match ← fetch with
      | .failed | .missing => pure .error
      | .found cur =>
        if cur.generation ≠ up.generation ∨ cur.status.phase ≠ up.status.phase ∨
            terminalUpgradePhase cur.status.phase then pure (.returns false)
        else if progressThrottled cur.status.transferProgress received then pure (.returns false)
        else writeStatus cur { cur.status with transferProgress := some progress } true)
      defaultBackoffSteps
    if updated = some true then
      pure { up with status := { up.status with transferProgress := some progress } }
    else pure up

def updateSyncProgress (up : Upgrade) : Worker Unit :=
  persist up fun s =>
    (s.setCondition .transferred false "SupervisorSync").setReady false "SupervisorSync"

def InstallErrorType.text : InstallErrorType → String
  | .incompatible => "INCOMPATIBLE"
  | .tooLarge => "TOO_LARGE"
  | .parseFail => "PARSE_FAIL"
  | .integrityFail => "INTEGRITY_FAIL"
  | .installRunPackage => "INSTALL_RUN_PACKAGE"
  | .notSupportedBackup => "NOT_SUPPORTED_ON_BACKUP"

def handleInstallErr (up : Upgrade) (e : InstallError) (now : Time) : Worker Unit :=
  match e with
  | .installInProgress =>
    persist up fun s =>
      ({ s with phase := .transferInterrupted, failureReason := "" }.setCondition .transferred
        false "InstallInProgress").setReady false "InstallInProgress"
  | .hard type => terminalAfterMutation up .validationFailed type.text now
  | .otherTyped => terminal up .validationFailed "InstallFailed" now
  | .permanent reason => terminalAfterMutation up .validationFailed reason.1 now
  | .uncertain | .untyped =>
    persist up fun s =>
      { s with phase := .transferInterrupted, failureReason := "TransferInterrupted" }.setReady
        false "TransferInterrupted"

/-- What the loop over the install events has gathered. -/
structure InstallProgress where
  validated : Option String := none
  transferObserved : Bool := false
  contentProven : Bool := false

/-- The loop over the install events: the first error ends it. -/
def pumpInstall (standby : Bool) (size : Nat) :
    List InstallEvent → Upgrade → InstallProgress →
      Worker (Upgrade × Except InstallError InstallProgress)
  | [], up, progress => pure (up, .ok progress)
  | .err e :: _, up, _ => pure (up, .error e)
  | .transferReady :: events, up, progress =>
    pumpInstall standby size events up
      { progress with transferObserved := true, contentProven := true }
  | .transferProgress received :: events, up, progress => do
    let up ← updateTransferProgress up received size
    pumpInstall standby size events up { progress with transferObserved := true }
  | .syncProgress _ :: events, up, progress => do
    updateSyncProgress up
    pumpInstall standby size events up
      { progress with
        transferObserved := true
        contentProven := standby && up.status.primarySupervisorInstalled }
  | .validated version :: events, up, progress =>
    pumpInstall standby size events up { progress with validated := some version }

/-- The decision once the stream has closed. -/
def finishInstall (up : Upgrade) (standby individual : Bool) (progress : InstallProgress)
    (now : Time) : Worker Unit :=
  match progress.validated with
  | none => handleInstallErr up .untyped now
  | some version =>
    if !progress.contentProven then
      terminalAfterMutation up .validationFailed "ImageContentNotTransferred" now
    else if blank version then
      terminalAfterMutation up .validationFailed "EmptyValidatedVersion" now
    else if !versionMatches version up.targetVersion then
      terminalAfterMutation up .validationFailed "VersionMismatch" now
    else if standby ∧ up.status.validatedVersion ≠ "" ∧ version ≠ up.status.validatedVersion then
      terminalAfterMutation up .validationFailed "SupervisorValidatedVersionMismatch" now
    else if individual && !standby then
      persist up fun s =>
        (({ s with
          individualSupervisorInstall := true
          primarySupervisorInstalled := true
          validatedVersion := version
          failureReason := "" }.setCondition .mutationSettled true
            "InstallCompleted").setCondition .validated false "StandbyInstallPending").setReady
              false "StandbyInstallPending"
    else
      persist up fun s =>
        ((((markTransferComplete ({ s.begin now with
          phase := installNextPhase up.strategy
          validatedVersion := version
          individualSupervisorInstall := individual
          standbySupervisorInstalled := s.standbySupervisorInstalled || standby
          primarySupervisorInstalled := s.primarySupervisorInstalled || !standby
          failureReason := "" }.setCondition .mutationSettled true
            "InstallCompleted")).setCondition .transferred true
              (if progress.transferObserved then "Transferred"
                else "AlreadyInstalled")).setCondition .validated true "Validated").setCondition
                  .activated false (installActivationReason up.strategy)).setReady false "Validated"

/-- What follows the start of an install. -/
def receiveInstall (up : Upgrade) (standby individual : Bool) (size : Nat)
    (response : Except InstallError (List InstallEvent)) : Worker Unit := do
  match response with
  | .error e => handleInstallErr up e (← clock)
  | .ok events =>
    let (up, outcome) ← pumpInstall standby size events up {}
    match outcome with
    | .error e => handleInstallErr up e (← clock)
    | .ok progress => finishInstall up standby individual progress (← clock)

def dispatchInstall (up : Upgrade) (standby individual : Bool) (size : Nat) : Worker Unit := do
  if standby then receiveInstall up standby individual size (← dispatch .standbyInstall)
  else receiveInstall up standby individual size (← dispatch .primaryInstall)

def claimAndInstall (r : Reconciler) (up : Upgrade) (digest : String) (size : Nat)
    (individual : Bool) (now : Time) : Worker Unit := do
  if digest ≠ up.status.sourceDigest ∨ size ≠ up.status.sourceSize then
    terminal up .validationFailed "ImageSourceChanged" now
  else if ← ensureMutationLease up then
    let standby := individual && up.status.primarySupervisorInstalled
    match ← claimInstallAttempt r up standby now with
    | none => pure ()
    | some (.deleting object) => handleDelete object now
    | some (.refused _) => pure ()
    | some (.claimed up) =>
      if ← ask .pacing then dispatchInstall up standby individual size
      else handleInstallErr up .untyped (← clock)
  else pure ()

def runTransferring (r : Reconciler) (up : Upgrade) (now : Time) : Worker Unit := do
  match unresolvedInstallAttempt up.status with
  | some standby => observeUncertainInstall up standby now
  | none =>
    match ← ask .transferring with
    | .fails f => terminal up f.1.1 f.1.2 now
    | .waits reason => waitForTransferPreflight up reason.1 now
    | .standbyUnavailable => waitForSupervisorTarget up .transferring now
    | .alreadyRunning =>
      updateTerminalStatus up fun s =>
        { s with phase := .succeeded, completionTime := some now }.setReady true "AlreadyRunning"
    | .resolveRetry =>
      persist up fun s =>
        ({ s with failureReason := "" }.setCondition .imageResolved false
          "ImageResolveRetry").setReady false "ImageResolveRetry"
    | .error => pure ()
    | .resolved digest size verified =>
      let now ← clock
      let individual := up.status.individualSupervisorInstall || verified
      if up.status.sourceDigest = "" then
        match ← pinResolvedImage up digest size individual with
        | none | some none => pure ()
        | some (some up) => claimAndInstall r up digest size individual now
      else claimAndInstall r up digest size individual now

/-! ## Activation -/

/-- What follows the activation of a supervisor. -/
def receiveActivation (up : Upgrade) (standby noReboot : Bool) (response : ActivateResponse) :
    Worker Unit := do
  let now ← clock
  match response with
  | .mayHaveStarted =>
    if noReboot then terminal up .failed "ActivationOutcomeUnknown" now
    else awaitActivationConvergence up standby ⟨"ActivationResponseLost", by simp⟩
  | .rejected =>
    terminalAfterMutation up .failed (if standby then "StandbyActivateFailed" else "ActivateFailed")
      now
  | .accepted =>
    if noReboot then
      persist up fun s =>
        (({ s with
          phase := .activating
          noRebootActivationAccepted := true
          failureReason := "" }.setCondition .activated true "NoRebootAccepted").setCondition
            .verified false "NoRebootVerificationPending").setReady false
              "NoRebootVerificationPending"
    else if standby then
      awaitActivationConvergence up true ⟨"StandbyActivationAccepted", by simp⟩
    else
      persist up fun s =>
        ((({ s with phase := .awaitingReachability, failureReason := "" }.setCondition .activated
          true "Activated").setCondition .deviceReachable false "ReloadExpected").setCondition
            .verified false "VerifyPending").setReady false "Rebooting"

def submitActivation (r : Reconciler) (up : Upgrade) (standby noReboot : Bool) (now : Time) :
    Worker Unit := do
  match ← ask .activation with
  | .fails f => terminal up f.1.1 f.1.2 now
  | .waits => waitForActivationControl up now
  | .passes =>
    let now ← clock
    if blank up.status.validatedVersion then
      terminal up .validationFailed "ValidatedVersionMissing" now
    else
      match ← claimActivation r up standby now with
      | none => pure ()
      | some (.deleting object) => handleDelete object now
      | some (.refused _) => pure ()
      | some (.claimed up) =>
        if standby then receiveActivation up standby noReboot (← dispatch .standbyActivation)
        else receiveActivation up standby noReboot (← dispatch .primaryActivation)

def verifyNoRebootActivation (up : Upgrade) (now : Time) : Worker Unit := do
  match ← ask .noReboot with
  | .fails f => terminal up f.1.1 f.1.2 now
  | .waits => waitForActivationControl up now
  | .runsTarget =>
    updateTerminalStatus up fun s =>
      ({ s with
        phase := .succeeded
        failureReason := ""
        completionTime := some now }.setCondition .verified true "Verified").setReady true
          "Succeeded"
  | .stagedForNextBoot =>
    updateTerminalStatus up fun s =>
      (({ s with
        phase := .stagedForNextBoot
        failureReason := ""
        completionTime := some now }.setCondition .activated true
          "StagedForNextBoot").setCondition .verified false "RebootRequired").setReady true
            "StagedForNextBoot"

def runActivating (r : Reconciler) (up : Upgrade) (now : Time) : Worker Unit := do
  let individual := up.status.individualSupervisorInstall
  let noReboot := up.strategy == .noReboot
  if individual && noReboot then
    terminal up .validationFailed "IndividualSupervisorNoRebootUnsupported" now
  else if individual && !up.status.standbySupervisorActivated then
    if up.status.standbySupervisorActivationRequested then
      if ← ask .activationGrace then pure ()
      else awaitActivationConvergence up true ⟨"StandbyActivationRecorded", by simp⟩
    else submitActivation r up true false now
  else if primaryActivationRequestSubmitted up.status then
    if noReboot && up.status.noRebootActivationAccepted then verifyNoRebootActivation up now
    else if ← ask .activationGrace then pure ()
    else if noReboot then terminal up .failed "ActivationOutcomeUnknown" now
    else awaitActivationConvergence up false ⟨"ActivationRecorded", by simp⟩
  else submitActivation r up false noReboot now

def runAwaitingReachability (up : Upgrade) (now : Time) : Worker Unit := do
  if up.status.individualSupervisorInstall && up.status.standbySupervisorActivationRequested &&
      !up.status.standbySupervisorActivated then
    match ← ask .standby with
    | .fails f => terminal up f.1.1 f.1.2 now
    | .unreachable => requeueAwaitingReachability up
    | .onTarget =>
      persist up fun s =>
        ((({ s with
          phase := .activating
          standbySupervisorActivated := true
          failureReason := "" }.setCondition .mutationSettled true
            "StandbyActivationVerified").setCondition .deviceReachable true
              "DeviceReachable").setCondition .activated false "StandbyVerified").setReady false
                "StandbyVerified"
    | .waits => waitForStandbyActivation up
  else
    match ← ask .reachability with
    | .fails f => terminal up f.1.1 f.1.2 now
    | .unreachable => requeueAwaitingReachability up
    | .activationFailed =>
      persist up fun s =>
        (({ s with phase := .verifying, failureReason := "" }.setCondition .deviceReachable true
          "DeviceReachable").setCondition .verified false "ActivationFailed").setReady false
            "ActivationFailed"
    | .onTarget =>
      persist up fun s =>
        (({ s with phase := .verifying, failureReason := "" }.setCondition .deviceReachable true
          "DeviceReachable").setCondition .verified false "VerifyPending").setReady false
            "DeviceReachable"
    | .settling =>
      persist up fun s =>
        (({ s with phase := .awaitingReachability, failureReason := "" }.setCondition
          .deviceReachable true "ReachableOldVersion").setCondition .verified false
            "VersionPending").setReady false "ActivationSettling"
    | .deadlineElapsed =>
      persist up fun s =>
        (({ s with phase := .verifying, failureReason := "" }.setCondition .deviceReachable true
          "DeviceReachable").setCondition .verified false "ConvergenceDeadlineElapsed").setReady
            false "ConvergenceDeadlineElapsed"

/-! ## Verification and rollback -/

/-- The end of a rollback, whether the worker asked for it or not. -/
def rolledBack (up : Upgrade) (now : Time) : Worker Unit :=
  updateTerminalStatus up fun s =>
    ({ s with
      phase := .rolledBack
      failureReason := "RolledBack"
      completionTime := some now }.setCondition .rollback true "RolledBack").setReady false
        "RolledBack"

/-- The decision on what the final `OS.Verify` reported. -/
def verifyReported (up : Upgrade) (individual : Bool) (now : Time) : Worker Unit := do
  if individual && up.imageSource == .streamed &&
      (!up.status.primarySupervisorInstalled || !up.status.standbySupervisorInstalled) then
    terminal up .validationFailed "SupervisorInstallIncomplete" now
  else if individual && (!up.status.standbySupervisorActivated ||
      !primaryActivationRequestSubmitted up.status) then
    terminal up .validationFailed "SupervisorActivationIncomplete" now
  else
    match ← ask .verifying with
    | .fails f => terminal up f.1.1 f.1.2 now
    | .standbyWaits => waitForStandbyActivation up
    | .onPrevious => rolledBack up now
    | .rollsBack version =>
      persist up fun s =>
        (({ s with
          phase := .rollingBack
          validatedVersion := version
          rollbackStartTime := s.rollbackStartTime <|> some now
          failureReason := "" }.setCondition .verified false "VerifyMismatch").setCondition
            .rollback false "RollbackPending").setReady false "RollbackPending"
    | .mismatch =>
      updateTerminalStatus up fun s =>
        ({ s with
          phase := .failed
          failureReason := "VerifyMismatch"
          completionTime := some now }.setCondition .verified false "VerifyMismatch").setReady
            false "VerifyMismatch"
    | .verified =>
      updateTerminalStatus up fun s =>
        (((markTransferComplete { s with
          phase := .succeeded
          completionTime := some now }).setCondition .deviceReachable true
            "DeviceReachable").setCondition .verified true "Verified").setReady true "Succeeded"

def runVerifying (up : Upgrade) (now : Time) : Worker Unit := do
  match ← ask .finalVerify with
  | .fails f => terminal up f.1.1 f.1.2 now
  | .unreachable => requeueAwaitingReachability up
  | .reported individual =>
    verifyReported up (up.status.individualSupervisorInstall || individual) now

def rollbackWaitStarted (s : Status) : Bool :=
  s.rollbackStartTime.isSome || s.hasReason .rollback "RollbackPending" ||
    s.hasReason .rollback "RollbackRequested" || s.hasReason .rollback "RollbackDispatched"

def rollbackVersion (s : Status) : String :=
  if s.validatedVersion ≠ "" ∧ versionMatches s.validatedVersion s.previousVersion then
    s.validatedVersion
  else s.previousVersion

def runRollingBack (r : Reconciler) (up : Upgrade) (now : Time) : Worker Unit := do
  if up.status.previousVersion = "" then terminal up .failed "RollbackVersionMissing" now
  else if !rollbackWaitStarted up.status then
    persist up fun s =>
      ({ s with
        rollbackStartTime := s.rollbackStartTime <|> some now
        phase := .rollingBack
        failureReason := "" }.setCondition .rollback false "RollbackPending").setReady false
          "RollbackPending"
  else
    match ← ask .rollback with
    | .fails reason => terminal up .failed reason.1 now
    | .inGrace => pure ()
    | .unreachable => requeueRollback up
    | .onPrevious =>
      if rollbackRequestSubmitted up.status then rolledBack up now else pure ()
    | .stillOn => requeueRollback up
    | .passes =>
      if rollbackRequestSubmitted up.status then requeueRollback up
      else
        let now ← clock
        match ← claimRollbackActivation r up (rollbackVersion up.status) now with
        | none => pure ()
        | some (.deleting object) => handleDelete object now
        | some (.refused _) => pure ()
        | some (.claimed up) =>
          let response ← dispatch .rollbackActivation
          let now ← clock
          match response with
          | .rejected => terminalAfterMutation up .failed "RollbackActivateFailed" now
          | .mayHaveStarted | .accepted =>
            persist up fun s =>
              (s.setCondition .rollback false "RollbackDispatched").setReady false
                "RollbackDispatched"

/-! ## Outside the phases -/

/-- `true` if the object still has to be adopted or quarantined, and nothing
else is done with it now. -/
def ensureExecutionModel (up : Upgrade) (now : Time) : Worker Bool := do
  if up.status.executionModel = .atMostOnceV1 then pure false
  else
    match up.status.phase with
    | .unset | .pending | .resolving =>
      persist up fun s =>
        { s with
          executionModel := .atMostOnceV1
          phase := if s.phase = .unset then .pending else s.phase }
      pure true
    | _ =>
      match ← acquireQuarantineLease with
      | .error | .blocked => pure true
      | .owned =>
        terminal up .validationFailed "LegacyStateOutcomeUnknown" now
        pure true

/-- The only correction of a terminal record: a lost activation whose target is
found running. -/
def recordRecoveredOutcome (up : Upgrade) (mutate : Status → Status) : Worker (Option Bool) :=
  retryOnConflict (do
    match ← fetch with
    | .failed | .missing => pure .error
    | .found cur =>
      if !upgradeStatusCASMatches up cur || cur.status.phase != .failed ||
          cur.status.failureReason != "ActivationOutcomeUnknown" ||
          !retainMutationLeaseUntilExpiry cur.status then pure (.returns false)
      else
        let status := mutate cur.status
        if status.phase ≠ .succeeded ∨ status.isConditionTrue .verified = false then pure .error
        else writeStatus cur (status.setCondition .mutationSettled true "OutcomeVerified") true)
    defaultBackoffSteps

def recoverTerminalActivationOutcome (up : Upgrade) (mutate : Status → Status) :
    Worker Unit := do
  if (← recordRecoveredOutcome up mutate) = some true then
    let _ ← releaseMutationLease
    pure ()
  else pure ()

def holdQuarantineLease : Worker Unit := do
  let _ ← acquireQuarantineLease
  pure ()

/-- The claims of a managed leaf do not cover its markers. -/
def managedClaimsUncovered (up : Upgrade) : Bool :=
  up.managed && match up.status.managerControl with
    | none => true
    | some control => (validateManagedClaimCoverage up.status control.revision).isSome

def observeTerminalActivationOutcome (up : Upgrade) (now : Time) : Worker Unit := do
  if up.strategy ≠ .noReboot ∨ up.status.primarySupervisorActivationRequested = false ∨
      up.status.activationStartTime.isNone ∨ blank up.status.validatedVersion then
    holdQuarantineLease
  else if managedClaimsUncovered up then holdQuarantineLease
  else if ← ask .terminalOutcome then
    recoverTerminalActivationOutcome up fun s =>
      ((({ s with
        phase := .succeeded
        failureReason := ""
        completionTime := some now }.setCondition .activated true
          "ActivationOutcomeRecovered").setCondition .deviceReachable true
            "DeviceReachable").setCondition .verified true "Verified").setReady true "Succeeded"
  else pure ()

/-- The checks of `ValidatePreparedInvalidationRequest` that the status decides
and that bear on a mutation; the bindings of receipt, admission and drain are
the question. -/
def preparedSettled (s : Status) : Bool :=
  (s.phase == .prepared || s.phase == .preparedInvalidated) &&
    s.executionModel == .atMostOnceV1 && s.managerInvalidation.isSome &&
    s.preparedReceipt.isSome && s.isConditionTrue .mutationSettled &&
    !s.primarySupervisorActivationRequested && !s.standbySupervisorActivationRequested &&
    !s.rollbackActivationRequested && !s.noRebootActivationAccepted &&
    s.activationStartTime.isNone && s.activationControlStartTime.isNone &&
    s.rollbackStartTime.isNone && !s.standbySupervisorActivated && s.primarySupervisorInstalled

def validatePreparedInvalidationRequest (s : Status) : Worker Bool := do
  pure (preparedSettled s && (← ask .invalidationRequest))

/-- The write of the invalidation, under the Lease. -/
def publishInvalidation (up : Upgrade) (evidence : String) : Worker Unit := do
  match ← fetch with
  | .failed | .missing => pure ()
  | .found current =>
    if current.uid ≠ up.uid ∨ upgradeStatusCASMatches up current = false then pure ()
    else if ← validatePreparedInvalidationRequest current.status then
      match ← validateManagedLeafBinding current with
      | some _ => pure ()
      | none =>
        match ← acquireLease with
        | .owned =>
          let _ ← putStatus current ({ current.status with
            phase := .preparedInvalidated
            preparedInvalidation := some evidence }.setReady false "PreparedInvalidated")
          pure ()
        | _ => pure ()
    else pure ()

/-- The device is inspected under the Lease, which is given back in any case. -/
def proveInvalidation (up : Upgrade) : Worker Unit := do
  match ← ask .invalidation with
  | .proven evidence => publishInvalidation up evidence
  | .error => pure ()

def reconcilePreparedInvalidation (up : Upgrade) : Worker Unit := do
  if ← validatePreparedInvalidationRequest up.status then
    match ← acquireLease with
    | .owned =>
      proveInvalidation up
      let _ ← releaseMutationLease
      pure ()
    | _ => pure ()
  else pure ()

def runPhase (r : Reconciler) (up : Upgrade) (now : Time) : Worker Unit :=
  match up.status.phase with
  | .unset | .pending => runPending up now
  | .resolving => runResolving up now
  | .staging => runStaging r up now
  | .transferring => runTransferring r up now
  | .transferInterrupted => runTransferInterrupted up now
  | .validating => runValidating up now
  | .activating => runActivating r up now
  | .awaitingReachability => runAwaitingReachability up now
  | .verifying => runVerifying up now
  | .rollingBack => runRollingBack r up now
  | _ => pure ()

/-- The rest of `Reconcile` once the manager's gate lets the object through. -/
def reconcileAdmitted (r : Reconciler) (up : Upgrade) (now : Time) : Worker Unit := do
  let unsupportedModel := unsupportedExecutionModel up.status
  let isTerminal := !unsupportedModel && terminalUpgradePhase up.status.phase
  let terminalLegacyRisk := isTerminal && upgradeRequiresQuarantineAt up now
  let terminalUnsettled := isTerminal && retainMutationLeaseUntilExpiry up.status
  if terminalUnsettled && up.status.failureReason == "ActivationOutcomeUnknown" then
    observeTerminalActivationOutcome up now
  else if isTerminal && !terminalLegacyRisk then
    if retainMutationLeaseUntilExpiry up.status then pure ()
    else
      let _ ← releaseMutationLease
      pure ()
  else if !up.finalizer then
    let _ ← putFinalizer up true
    pure ()
  else if unsupportedModel || terminalLegacyRisk then holdQuarantineLease
  else if ← ensureExecutionModel up now then pure ()
  else if up.status.phase = .unset ∨ up.status.phase = .pending then runPhase r up now
  else if ← ensureMutationLease up then runPhase r up now
  else pure ()

def reconcile (r : Reconciler) : Worker Unit := do
  match ← fetch with
  | .failed | .missing => pure ()
  | .found up =>
    if r.managedTopology && !up.managed then pure ()
    else
      let now ← clock
      if up.deleting then handleDelete up now
      else
        match ← syncManagedLeafGate r up now with
        | none => pure ()
        | some (decision, up, acknowledged) =>
          if acknowledged then pure ()
          else if decision.applies && !decision.allowProgress then
            if managedCancellationCanReleaseMutationLease up decision then
              let _ ← releaseMutationLease
              pure ()
            else pure ()
          else if up.status.phase = .prepared ∧ up.status.managerInvalidation.isSome then
            reconcilePreparedInvalidation up
          else reconcileAdmitted r up now

end VirtualKubelet.SoftwareUpgrade
