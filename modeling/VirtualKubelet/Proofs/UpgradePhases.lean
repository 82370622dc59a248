import VirtualKubelet.Proofs.UpgradeClaims

/-!
# Every phase keeps to the rule

The handlers of the phases and `reconcile` itself. Most of them ask and write,
which is lawful whatever came before. The four that claim a stage have to know
that their copy has the markers of the last read, since they fall back on it
when the object is missing.
-/

namespace VirtualKubelet.SoftwareUpgrade

open Go Rollout Program

variable {up : Upgrade} {past : List WorkerEvent}

/-! ## Steps of the state machine -/

theorem lawful_advance : Lawful (advance up phase reason) := by
  refine lawful_clock fun now => lawful_persist fun cur _ hopen => ?_
  refine (progress_open hopen ?_).setReady
  split <;> rfl

theorem lawful_pendingMessage : Lawful (pendingMessage up reason) :=
  lawful_persist (keeps (by rfl)).setReady

theorem lawful_advanceStagingValidation
    {reason : OneOf ["StagingObservationPending", "StagingResponseLost", "StagingAccepted"]} :
    Lawful (advanceStagingValidation up reason) := by
  have hmark : requestMarked .staged reason.1 = none :=
    (by decide : ∀ text ∈ ["StagingObservationPending", "StagingResponseLost", "StagingAccepted"],
      requestMarked .staged text = none) reason.1 reason.2
  exact lawful_persist (((keeps (by rfl)).setCondition hmark).setCondition rfl).setReady

theorem lawful_waitForInventory : Lawful (waitForInventory up reason now) :=
  lawful_persist ((keeps (by rfl)).setCondition rfl).setReady

theorem lawful_waitForValidation : Lawful (waitForValidation up reason) :=
  lawful_persist ((keeps (by rfl)).setCondition rfl).setReady

theorem lawful_waitForSupervisorTarget : Lawful (waitForSupervisorTarget up phase now) :=
  lawful_persist (keeps (by rfl)).setReady

theorem lawful_preflightPending : Lawful (preflightPending up now) :=
  lawful_persist (keeps (by rfl)).setReady

theorem lawful_waitForTransferPreflight : Lawful (waitForTransferPreflight up reason now) :=
  lawful_persist ((keeps (by rfl)).setCondition rfl).setReady

theorem lawful_waitForActivationControl : Lawful (waitForActivationControl up now) :=
  lawful_persist (keeps (by rfl)).setReady

theorem lawful_awaitActivationConvergence
    {reason : OneOf ["StandbyActivationRecorded", "ActivationRecorded", "ActivationResponseLost",
      "StandbyActivationAccepted"]} :
    Lawful (awaitActivationConvergence up standby reason) := by
  have hmark : requestMarked .activated reason.1 = none :=
    (by decide : ∀ text ∈ ["StandbyActivationRecorded", "ActivationRecorded",
      "ActivationResponseLost", "StandbyActivationAccepted"],
      requestMarked .activated text = none) reason.1 reason.2
  exact lawful_persist ((((keeps (by rfl)).setCondition hmark).setCondition rfl).setCondition
    rfl).setReady

theorem lawful_waitForStandbyActivation : Lawful (waitForStandbyActivation up) :=
  lawful_persist ((keeps (by rfl)).setCondition (by decide)).setReady

theorem lawful_requeueAwaitingReachability : Lawful (requeueAwaitingReachability up) :=
  lawful_persist ((keeps (by rfl)).setCondition rfl).setReady

/-- The condition that keeps saying a rollback was dispatched is written only
while the marker is set. -/
theorem lawful_requeueRollback (hup : Honest up.status) : Lawful (requeueRollback up) := by
  refine lawful_persist fun cur hcas hopen => ?_
  refine Progress.setReady (Progress.setMark (progress_open hopen (by rfl)) fun stage hstage => ?_)
  cases hsubmitted : rollbackRequestSubmitted up.status with
  | false =>
    rw [hsubmitted] at hstage
    cases hstage
  | true =>
    rw [hsubmitted] at hstage
    cases hstage
    show cur.status.requested .rollbackActivation = true
    rw [requested_of_cas hcas, ← hup.markers .rollbackActivation]
    exact hsubmitted

/-! ## Preparation -/

theorem lawful_completePreparation :
    Lawful (completePreparation up individual now) := by
  refine lawful_ask fun verdict => ?_
  cases verdict with
  | fails reason => exact lawful_terminalAfterMutation
  | waits reason => exact lawful_waitForValidation
  | error => exact lawful_pure
  | receipt hash =>
    dsimp only
    split
    · exact lawful_terminalAfterMutation
    split
    · exact lawful_terminalAfterMutation
    exact lawful_updateTerminalStatus ((((((keeps (by rfl)).setCondition rfl).setCondition
      (by decide)).setCondition rfl).setCondition (by decide)).setCondition rfl).setReady

theorem lawful_validatePreparedInstall : Lawful (validatePreparedInstall up now) := by
  rw [validatePreparedInstall]
  split
  · exact lawful_terminalAfterMutation
  refine lawful_ask fun verdict => ?_
  cases verdict with
  | waits reason => exact lawful_waitForValidation
  | fails reason => exact lawful_terminalAfterMutation
  | prepared => exact lawful_completePreparation

theorem lawful_targetReadyForActivation
    {reason : OneOf ["PreparedNativeInstallCorroborated", "PreinstalledVersionResolved",
      "DeviceFileStaged"]} :
    Lawful (targetReadyForActivation up version previous individual reason now) := by
  have hmark : requestMarked .staged reason.1 = none :=
    (by decide : ∀ text ∈ ["PreparedNativeInstallCorroborated", "PreinstalledVersionResolved",
      "DeviceFileStaged"], requestMarked .staged text = none) reason.1 reason.2
  refine lawful_ask fun verdict => ?_
  cases verdict with
  | some failure => exact lawful_terminal
  | none =>
    dsimp only
    split
    · exact lawful_completePreparation
    exact lawful_persist ((((((keeps (by rfl)).setCondition rfl).setCondition hmark).setCondition
      rfl).setCondition rfl).setCondition (by decide)).setReady

/-! ## Before the device is touched -/

theorem lawful_ensureMutationLease {β : Type} {f : Bool → Worker β}
    (hf : ∀ held, Lawful (f held)) : Lawful (ensureMutationLease up >>= f) :=
  fun _ => obeys_ensureMutationLease.bind fun past' held _ _ => hf held past'

theorem lawful_runPending : Lawful (runPending up now) := by
  refine lawful_ask fun verdict => ?_
  cases verdict with
  | fails reason => exact lawful_terminal
  | waits reason => exact lawful_pendingMessage
  | error => exact lawful_pure
  | passes =>
    refine lawful_ensureMutationLease fun held => ?_
    cases held with
    | true => exact lawful_advance
    | false => exact lawful_pure

theorem lawful_runResolving : Lawful (runResolving up now) := by
  refine lawful_ask fun verdict => ?_
  cases verdict with
  | fails f => exact lawful_terminal
  | error => exact lawful_pure
  | verifyPending => exact lawful_preflightPending
  | standbyUnavailable => exact lawful_waitForSupervisorTarget
  | alreadyRunning individual =>
    exact lawful_updateTerminalStatus ((((((keeps (by rfl)).setCondition rfl).setCondition
      rfl).setCondition (by decide)).setCondition rfl).setCondition rfl).setReady
  | transfers running individual | fileVerified running digest individual =>
    exact lawful_persist ((keeps (by rfl)).setCondition rfl).setReady
  | inspects running individual =>
    dsimp only
    split
    · exact lawful_advanceStagingValidation
    refine lawful_ask fun inventory => ?_
    cases inventory with
    | fails f => exact lawful_terminal
    | absent operationID =>
      dsimp only
      split
      · exact lawful_persist ((keeps (by rfl)).setCondition (by decide)).setReady
      · exact lawful_terminal
    | waits reason => exact lawful_waitForInventory
    | corroborated version | resolved version => exact lawful_targetReadyForActivation

/-! ## Staging a device file -/

/-- After a claim the RPC is sent, or the object is cleaned up, or nothing is
done. -/
theorem obeys_claimed (hclaim : Obeys rely Rule claim past (Returns stage))
    (hnone : f none = pure ()) (hrefused : ∀ up, f (some (.refused up)) = pure ())
    (hdeleting : ∀ object, f (some (.deleting object)) = handleDelete object now)
    (hclaimed : ∀ past up, Pending past stage → up.status.requested stage = true →
      Obeys rely Rule (f (some (.claimed up))) past fun _ _ => True) :
    Obeys rely Rule (claim >>= f) past fun _ _ => True := by
  refine hclaim.bind fun past' outcome _ hreturns => ?_
  rcases outcome with _ | up | up | object
  · rw [hnone]
    trivial
  · exact hclaimed past' up hreturns.1 hreturns.2
  · rw [hrefused]
    trivial
  · rw [hdeleting]
    exact obeys_handleDelete hreturns

theorem obeys_dispatch {β : Type} {f : Response stage → Worker β} (hpending : Pending past stage)
    (hf : ∀ response, Lawful (f response)) :
    Obeys rely Rule (dispatch stage >>= f) past fun _ _ => True :=
  obeys_bind.mpr ⟨hpending, fun response _ => hf response _⟩

theorem Tracks.of_last (h : Tracks past up) (hlast : (sight past').last = (sight past).last) :
    Tracks past' up := by
  obtain ⟨read, hread, hsame⟩ := h
  exact ⟨read, hlast.trans hread, hsame⟩

theorem tracks_ask (h : Tracks past up) : Tracks (past ++ [⟨.ask question, answer⟩]) up :=
  h.of_last (congrArg Sight.last sight_snoc)

theorem tracks_clock (h : Tracks past up) : Tracks (past ++ [⟨.now, now⟩]) up :=
  h.of_last (by rw [sight_snoc]; rfl)

theorem obeys_runStaging (htracks : Tracks past up) :
    Obeys rely Rule (runStaging r up now) past fun _ _ => True := by
  rw [runStaging]
  split
  · exact lawful_terminal past
  refine obeys_ask fun before => ?_
  cases before with
  | some f => exact lawful_terminal _
  | none =>
    dsimp only
    split
    · refine lawful_ask (fun grace => ?_) _
      cases grace with
      | true => exact lawful_pure
      | false => exact lawful_advanceStagingValidation
    refine obeys_ask fun verdict => ?_
    cases verdict with
    | fails f => exact lawful_terminal _
    | waits => exact lawful_waitForInventory _
    | verifyPending => exact lawful_preflightPending _
    | error => trivial
    | passes =>
      refine obeys_ensureMutationLease.bind fun past' held _ hlast => ?_
      cases held with
      | false => trivial
      | true =>
        have htracks' : Tracks past' up :=
          (tracks_ask (tracks_ask htracks)).of_last (hlast rfl)
        refine obeys_claimed (obeys_claimStaging htracks') rfl (fun _ => rfl)
          (fun _ => rfl) fun past up hpending _ => ?_
        refine obeys_dispatch hpending fun response => lawful_clock fun now => ?_
        cases response with
        | rejected => exact lawful_terminalAfterMutation
        | lost => exact lawful_advanceStagingValidation
        | mismatched => exact lawful_terminal
        | accepted => exact lawful_advanceStagingValidation

theorem lawful_runValidating : Lawful (runValidating up now) := by
  refine lawful_ask fun before => ?_
  cases before with
  | some reason => exact lawful_terminal
  | none =>
    dsimp only
    split
    · exact lawful_validatePreparedInstall
    split
    · exact lawful_terminal
    refine lawful_ask fun verdict => ?_
    cases verdict with
    | fails reason => exact lawful_terminal
    | stagingFailed => exact lawful_terminalAfterMutation
    | waits reason => exact lawful_waitForValidation
    | staged version => exact lawful_targetReadyForActivation

/-! ## Transfer and install -/

theorem requestMarked_installActivation :
    requestMarked .activated (installActivationReason strategy) = none := by
  cases strategy <;> decide

theorem lawful_acceptObservedInstall : Lawful (acceptObservedInstall up version) := by
  rw [acceptObservedInstall]
  split
  · exact lawful_persist (((keeps (by rfl)).setCondition rfl).setCondition rfl).setReady
  · exact lawful_persist (((((keeps (by rfl)).setCondition rfl).setCondition rfl).setCondition
      rfl).setCondition requestMarked_installActivation).setReady

theorem lawful_observeUncertainInstall :
    Lawful (observeUncertainInstall up standby now) := by
  have hpending : ∀ reason, Lawful (persist up fun s =>
      (Status.setCondition { s with failureReason := "" } .transferred false reason).setReady false
        reason) := fun reason =>
    lawful_persist ((keeps (by rfl)).setCondition rfl).setReady
  refine lawful_ask fun verdict => ?_
  cases verdict with
  | inGrace => exact lawful_pure
  | timedOut => exact lawful_terminal
  | invalidProof =>
    cases standby with
    | true => exact hpending _
    | false => exact lawful_terminalAfterMutation
  | completed version =>
    cases standby with
    | true => exact hpending _
    | false => exact lawful_acceptObservedInstall
  | pending reason => exact hpending _

theorem lawful_runTransferInterrupted : Lawful (runTransferInterrupted up now) := by
  rw [runTransferInterrupted]
  split
  · exact lawful_terminal
  · exact lawful_observeUncertainInstall

/-- A pinned copy tracks the version that was read for it. -/
def Pinned (past : List WorkerEvent) : Option (Option Upgrade) → Prop
  | some (some up) => Tracks past up
  | _ => True

theorem obeys_pinResolvedImage :
    Obeys rely Rule (pinResolvedImage up digest size individual) past Pinned := by
  refine obeys_retryOnConflict (I := fun _ => True) (fun past _ => ?_) (fun _ _ => trivial) _
    trivial
  refine obeys_fetch trivial trivial fun cur _ => ?_
  dsimp only
  split
  · trivial
  rename_i hopen
  rw [Bool.or_eq_true, Bool.or_eq_true, not_or, not_or, Bool.not_eq_true, Bool.not_eq_true]
    at hopen
  refine obeys_writeStatus read_snoc
    (.inl ((progress_open hopen.1.2 (by rfl)).setCondition rfl).setReady) ?_ trivial trivial
  exact ⟨cur, last_snoc_write.trans (by rw [sight_snoc]; rfl), rfl⟩

theorem lawful_updateTransferProgress : Lawful (updateTransferProgress up received total) := by
  rw [updateTransferProgress]
  split
  · exact lawful_pure
  refine Lawful.bind (lawful_retryOnConflict (fun past => ?_) _) fun updated => ?_
  · refine obeys_fetch trivial trivial fun cur _ => ?_
    dsimp only
    split
    · trivial
    split
    · trivial
    · exact obeys_writeStatus read_snoc (.inl (progress_of_marks (by rfl) fun h => h)) trivial
        trivial trivial
  · split <;> exact lawful_pure

theorem lawful_updateSyncProgress : Lawful (updateSyncProgress up) :=
  lawful_persist ((keeps (by rfl)).setCondition rfl).setReady

theorem lawful_handleInstallErr : Lawful (handleInstallErr up e now) := by
  cases e with
  | installInProgress =>
    exact lawful_persist ((keeps (by rfl)).setCondition rfl).setReady
  | hard type => exact lawful_terminalAfterMutation
  | otherTyped => exact lawful_terminal
  | permanent reason => exact lawful_terminalAfterMutation
  | uncertain | untyped =>
    exact lawful_persist (keeps (by rfl)).setReady

/-- One event of the stream at a time; only the progress events write. -/
theorem lawful_pumpInstall (events : List InstallEvent) :
    ∀ up progress, Lawful (pumpInstall standby size events up progress) := by
  induction events with
  | nil => exact fun _ _ => lawful_pure
  | cons event events ih =>
    intro up progress
    cases event with
    | err e => exact lawful_pure
    | transferReady => exact ih _ _
    | transferProgress received => exact lawful_updateTransferProgress.bind fun up => ih up _
    | syncProgress percentage => exact lawful_updateSyncProgress.bind fun _ => ih _ _
    | validated version => exact ih _ _

theorem lawful_finishInstall : Lawful (finishInstall up standby individual progress now) := by
  rw [finishInstall]
  split
  · exact lawful_handleInstallErr
  split
  · exact lawful_terminalAfterMutation
  split
  · exact lawful_terminalAfterMutation
  split
  · exact lawful_terminalAfterMutation
  split
  · exact lawful_terminalAfterMutation
  split
  · exact lawful_persist (((keeps (by rfl)).setCondition rfl).setCondition rfl).setReady
  · exact lawful_persist fun _ _ hopen =>
      (((((progress_open hopen (by rfl)).setCondition rfl).markTransferComplete.setCondition
        rfl).setCondition rfl).setCondition requestMarked_installActivation).setReady

theorem lawful_receiveInstall : Lawful (receiveInstall up standby individual size response) := by
  cases response with
  | error e => exact lawful_clock fun _ => lawful_handleInstallErr
  | ok events =>
    refine (lawful_pumpInstall events up {}).bind fun pumped => ?_
    obtain ⟨up, outcome⟩ := pumped
    cases outcome with
    | error e => exact lawful_clock fun _ => lawful_handleInstallErr
    | ok progress => exact lawful_clock fun _ => lawful_finishInstall

theorem obeys_dispatchInstall
    (hpending : Pending past (if standby then .standbyInstall else .primaryInstall)) :
    Obeys rely Rule (dispatchInstall up standby individual size) past fun _ _ => True := by
  cases standby with
  | true | false => exact obeys_dispatch hpending fun _ => lawful_receiveInstall

theorem pending_ask (h : Pending past stage) :
    Pending (past ++ [⟨.ask question, answer⟩]) stage := by
  obtain ⟨cur, status, hwrote, hread, hclaims⟩ := h
  refine ⟨cur, status, ?_, hread.mono (List.prefix_append ..), hclaims⟩
  rw [sight_snoc]
  exact hwrote

theorem obeys_claimAndInstall (htracks : Tracks past up) :
    Obeys rely Rule (claimAndInstall r up digest size individual now) past fun _ _ => True := by
  rw [claimAndInstall]
  split
  · exact lawful_terminal past
  refine obeys_ensureMutationLease.bind fun past' held _ hlast => ?_
  cases held with
  | false => trivial
  | true =>
    refine obeys_claimed (obeys_claimInstallAttempt (htracks.of_last (hlast rfl))) rfl
      (fun _ => rfl) (fun _ => rfl) fun past up hpending _ => ?_
    refine obeys_ask fun paced => ?_
    cases paced with
    | true => exact obeys_dispatchInstall (pending_ask hpending)
    | false => exact lawful_clock (fun _ => lawful_handleInstallErr) _

theorem obeys_runTransferring (htracks : Tracks past up) :
    Obeys rely Rule (runTransferring r up now) past fun _ _ => True := by
  rw [runTransferring]
  split
  · exact lawful_observeUncertainInstall past
  refine obeys_ask fun verdict => ?_
  cases verdict with
  | fails f => exact lawful_terminal _
  | waits reason => exact lawful_waitForTransferPreflight _
  | standbyUnavailable => exact lawful_waitForSupervisorTarget _
  | alreadyRunning =>
    exact lawful_updateTerminalStatus
      (keeps (by rfl)).setReady _
  | resolveRetry =>
    exact lawful_persist
      (((keeps (by rfl)).setCondition rfl).setReady) _
  | error => trivial
  | resolved digest size verified =>
    refine obeys_clock fun now => ?_
    dsimp only
    split
    · refine obeys_pinResolvedImage.bind fun past' pinned _ hpinned => ?_
      rcases pinned with _ | _ | up
      · trivial
      · trivial
      · exact obeys_claimAndInstall hpinned
    · exact obeys_claimAndInstall (tracks_clock (tracks_ask htracks))

/-! ## Activation -/

theorem lawful_receiveActivation : Lawful (receiveActivation up standby noReboot response) := by
  refine lawful_clock fun now => ?_
  cases response with
  | mayHaveStarted =>
    show Lawful (ite ..)
    split
    · exact lawful_terminal
    · exact lawful_awaitActivationConvergence
  | rejected => exact lawful_terminalAfterMutation
  | accepted =>
    show Lawful (ite ..)
    split
    · exact lawful_persist (((keeps (by rfl)).setCondition (by decide)).setCondition rfl).setReady
    split
    · exact lawful_awaitActivationConvergence
    exact lawful_persist ((((keeps (by rfl)).setCondition (by decide)).setCondition
      rfl).setCondition rfl).setReady

theorem obeys_submitActivation (htracks : Tracks past up) :
    Obeys rely Rule (submitActivation r up standby noReboot now) past fun _ _ => True := by
  refine obeys_ask fun verdict => ?_
  cases verdict with
  | fails f => exact lawful_terminal _
  | waits => exact lawful_waitForActivationControl _
  | passes =>
    refine obeys_clock fun now => ?_
    split
    · exact lawful_terminal _
    refine obeys_claimed (obeys_claimActivation (tracks_clock (tracks_ask htracks))) rfl
      (fun _ => rfl) (fun _ => rfl) fun past up hpending _ => ?_
    cases standby with
    | true | false => exact obeys_dispatch hpending fun _ => lawful_receiveActivation

theorem lawful_verifyNoRebootActivation : Lawful (verifyNoRebootActivation up now) := by
  refine lawful_ask fun verdict => ?_
  cases verdict with
  | fails f => exact lawful_terminal
  | waits => exact lawful_waitForActivationControl
  | runsTarget =>
    exact lawful_updateTerminalStatus ((keeps (by rfl)).setCondition rfl).setReady
  | stagedForNextBoot =>
    exact lawful_updateTerminalStatus (((keeps (by rfl)).setCondition (by decide)).setCondition
      rfl).setReady

theorem obeys_runActivating (htracks : Tracks past up) :
    Obeys rely Rule (runActivating r up now) past fun _ _ => True := by
  have hconverge : ∀ standby reason, Lawful (do
      if ← ask .activationGrace then pure () else awaitActivationConvergence up standby reason) := by
    intro standby reason
    refine lawful_ask fun grace => ?_
    cases grace with
    | true => exact lawful_pure
    | false => exact lawful_awaitActivationConvergence
  rw [runActivating]
  split
  · exact lawful_terminal past
  split
  · split
    · exact hconverge true _ past
    · exact obeys_submitActivation htracks
  split
  · split
    · exact lawful_verifyNoRebootActivation past
    refine lawful_ask (fun grace => ?_) past
    cases grace with
    | true => exact lawful_pure
    | false =>
      show Lawful (if (up.strategy == .noReboot) = true then _ else _)
      split
      · exact lawful_terminal
      · exact lawful_awaitActivationConvergence
  · exact obeys_submitActivation htracks

theorem lawful_runAwaitingReachability : Lawful (runAwaitingReachability up now) := by
  rw [runAwaitingReachability]
  split
  · refine lawful_ask fun verdict => ?_
    cases verdict with
    | fails f => exact lawful_terminal
    | unreachable => exact lawful_requeueAwaitingReachability
    | onTarget =>
      exact lawful_persist ((((keeps (by rfl)).setCondition rfl).setCondition rfl).setCondition
        (by decide)).setReady
    | waits => exact lawful_waitForStandbyActivation
  · refine lawful_ask fun verdict => ?_
    cases verdict with
    | fails f => exact lawful_terminal
    | unreachable => exact lawful_requeueAwaitingReachability
    | activationFailed | onTarget | settling | deadlineElapsed =>
      exact lawful_persist (((keeps (by rfl)).setCondition rfl).setCondition rfl).setReady

/-! ## Verification and rollback -/

theorem lawful_rolledBack : Lawful (rolledBack up now) :=
  lawful_updateTerminalStatus ((keeps (by rfl)).setCondition (by decide)).setReady

theorem lawful_verifyReported :
    Lawful (verifyReported up individual now) := by
  rw [verifyReported]
  split
  · exact lawful_terminal
  split
  · exact lawful_terminal
  refine lawful_ask fun verdict => ?_
  cases verdict with
  | fails f => exact lawful_terminal
  | standbyWaits => exact lawful_waitForStandbyActivation
  | onPrevious => exact lawful_rolledBack
  | rollsBack version =>
    exact lawful_persist (((keeps (by rfl)).setCondition rfl).setCondition (by decide)).setReady
  | mismatch =>
    exact lawful_updateTerminalStatus ((keeps (by rfl)).setCondition rfl).setReady
  | verified =>
    exact lawful_updateTerminalStatus (((keeps (by rfl)).setCondition rfl).setCondition
      rfl).setReady

theorem lawful_runVerifying : Lawful (runVerifying up now) := by
  refine lawful_ask fun verdict => ?_
  cases verdict with
  | fails f => exact lawful_terminal
  | unreachable => exact lawful_requeueAwaitingReachability
  | reported individual => exact lawful_verifyReported

theorem obeys_runRollingBack (hup : Honest up.status) (htracks : Tracks past up) :
    Obeys rely Rule (runRollingBack r up now) past fun _ _ => True := by
  rw [runRollingBack]
  split
  · exact lawful_terminal past
  split
  · exact lawful_persist (((keeps (by rfl)).setCondition (by decide)).setReady) past
  refine obeys_ask fun verdict => ?_
  cases verdict with
  | fails reason => exact lawful_terminal _
  | inGrace => trivial
  | unreachable => exact lawful_requeueRollback hup _
  | onPrevious =>
    dsimp only
    split
    · exact lawful_rolledBack _
    · trivial
  | stillOn => exact lawful_requeueRollback hup _
  | passes =>
    dsimp only
    split
    · exact lawful_requeueRollback hup _
    refine obeys_clock fun now => ?_
    refine obeys_claimed
      (obeys_claimRollbackActivation (tracks_clock (tracks_ask htracks))) rfl
      (fun _ => rfl) (fun _ => rfl) fun past up hpending hrequested => ?_
    refine obeys_dispatch hpending fun response => lawful_clock fun now => ?_
    cases response with
    | rejected => exact lawful_terminalAfterMutation
    | mayHaveStarted | accepted =>
      refine lawful_persist fun cur hcas hopen =>
        (Progress.setMark (progress_open hopen rfl) fun stage hstage => ?_).setReady
      cases hstage
      rw [requested_of_cas hcas]
      exact hrequested

/-! ## Outside the phases -/

theorem obeys_runPhase (hup : Honest up.status) (htracks : Tracks past up) :
    Obeys rely Rule (runPhase r up now) past fun _ _ => True := by
  rw [runPhase]
  split
  · exact lawful_runPending past
  · exact lawful_runPending past
  · exact lawful_runResolving past
  · exact obeys_runStaging htracks
  · exact obeys_runTransferring htracks
  · exact lawful_runTransferInterrupted past
  · exact lawful_runValidating past
  · exact obeys_runActivating htracks
  · exact lawful_runAwaitingReachability past
  · exact lawful_runVerifying past
  · exact obeys_runRollingBack hup htracks
  · trivial

/-- The rest of a reconcile only starts on an adopted object. -/
theorem obeys_ensureExecutionModel :
    Obeys rely Rule (ensureExecutionModel up now) past fun past' adopting =>
      adopting = false → past' = past := by
  have hdone : ∀ {p : Worker Unit} past', Lawful p →
      Obeys rely Rule (p >>= fun _ => pure true) past' fun past'' adopting =>
        adopting = false → past'' = past := fun past' hp =>
    (hp past').bind fun _ _ _ _ => nofun
  have hadopt : Lawful (persist up fun s => { s with
      executionModel := .atMostOnceV1
      phase := if s.phase = .unset then .pending else s.phase }) :=
    lawful_persist fun _ _ hopen => progress_open hopen (by rfl)
  rw [ensureExecutionModel]
  split
  · exact fun _ => rfl
  split
  · exact hdone past hadopt
  · exact hdone past hadopt
  · exact hdone past hadopt
  refine obeys_bind.mpr ⟨trivial, fun reply _ => ?_⟩
  cases reply with
  | error | blocked => exact nofun
  | owned => exact hdone _ lawful_terminal

/-- A record that was corrected to a success settles the upgrade. -/
theorem obeys_recordRecoveredOutcome (h : ∀ s, s.phase = .failed → Progress s (mutate s)) :
    Obeys rely Rule (recordRecoveredOutcome up mutate) past fun past' updated =>
      updated = some true → MayRelease past' := by
  refine obeys_retryOnConflict (I := fun _ => True) (fun past _ => ?_) (fun _ _ => nofun) _ trivial
  refine obeys_fetch nofun nofun fun cur _ => ?_
  dsimp only
  split
  · exact nofun
  rename_i hlost
  rw [Bool.or_eq_true, Bool.or_eq_true, Bool.or_eq_true, not_or, not_or, not_or, bne_iff_ne,
    not_not] at hlost
  split
  · exact nofun
  rename_i hsucceeded
  rw [not_or, not_not] at hsucceeded
  refine obeys_writeStatus read_snoc (.inl ((h cur.status hlost.1.1.2).setCondition rfl))
    (fun _ => .inl ?_) trivial nofun
  refine ⟨cur.next _, .inr ⟨cur, _, List.mem_append_right _ (List.mem_singleton_self _),
    rfl⟩, .inl ?_, .inr (.inl ?_)⟩
  · show terminalUpgradePhase (mutate cur.status).phase = true
    rw [hsucceeded.1]
    rfl
  · show successfulUpgradeOutcome (mutate cur.status).phase = true
    rw [hsucceeded.1]
    rfl

theorem lawful_holdQuarantineLease : Lawful holdQuarantineLease :=
  lawful_acquireQuarantineLease fun _ => lawful_pure

theorem lawful_observeTerminalActivationOutcome :
    Lawful (observeTerminalActivationOutcome up now) := by
  rw [observeTerminalActivationOutcome]
  split
  · exact lawful_holdQuarantineLease
  split
  · exact lawful_holdQuarantineLease
  refine lawful_ask fun running => ?_
  cases running with
  | false => exact lawful_pure
  | true =>
    intro past
    refine (obeys_recordRecoveredOutcome fun s _ => ?_).bind fun past' updated _ hmay => ?_
    · exact ((((progress_of_marks (by rfl) fun _ => rfl).setCondition (by decide)).setCondition
        rfl).setCondition rfl).setReady
    · split
      · next hupdated => exact obeys_release (hmay hupdated) fun _ => trivial
      · trivial

/-! ## A prepared image that is no longer wanted -/

theorem obeys_validatePreparedInvalidationRequest :
    Obeys rely Rule (validatePreparedInvalidationRequest s) past fun _ _ => True :=
  obeys_ask fun _ => trivial

theorem lawful_publishInvalidation : Lawful (publishInvalidation up evidence) := by
  intro past
  refine obeys_fetch trivial trivial fun current _ => ?_
  dsimp only
  split
  · trivial
  refine obeys_validatePreparedInvalidationRequest.bind fun past₁ valid hpast₁ _ => ?_
  cases valid with
  | false => trivial
  | true =>
    refine obeys_validateManagedLeafBinding.bind fun past₂ denied hpast₂ _ => ?_
    cases denied with
    | some e => trivial
    | none =>
      refine obeys_bind.mpr ⟨trivial, fun reply _ => ?_⟩
      cases reply with
      | owned =>
        refine obeys_bind.mpr (obeys_putStatus ?_ (.inl ?_) fun _ => trivial)
        · exact ((read_snoc.mono hpast₁).mono hpast₂).mono (List.prefix_append ..)
        · exact (progress_of_marks (by rfl) fun _ => rfl).setReady
      | _ => trivial

theorem lawful_proveInvalidation : Lawful (proveInvalidation up) := by
  refine lawful_ask fun verdict => ?_
  cases verdict with
  | proven evidence => exact lawful_publishInvalidation
  | error => exact lawful_pure

theorem obeys_reconcilePreparedInvalidation (hread : Read past up)
    (hphase : up.status.phase = .prepared) :
    Obeys rely Rule (reconcilePreparedInvalidation up) past fun _ _ => True := by
  refine obeys_validatePreparedInvalidationRequest.bind fun past₁ valid hpast₁ _ => ?_
  cases valid with
  | false => trivial
  | true =>
    refine obeys_bind.mpr ⟨trivial, fun reply _ => ?_⟩
    cases reply with
    | owned =>
      refine (lawful_proveInvalidation _).bind fun past₂ _ hpast₂ _ => ?_
      have hshown : Read past₂ up :=
        ((hread.mono hpast₁).mono (List.prefix_append ..)).mono hpast₂
      refine obeys_release (.inl ⟨up, .inl hshown, .inl ?_, .inr (.inl ?_)⟩) fun _ => trivial
      · rw [hphase]
        rfl
      · rw [hphase]
        rfl
    | _ => trivial

/-! ## Reconcile -/

theorem obeys_reconcileAdmitted (hup : Honest up.status) (hread : Read past up)
    (hlast : (sight past).last = some up) :
    Obeys rely Rule (reconcileAdmitted r up now) past fun _ _ => True := by
  have htracks : Tracks past up := ⟨up, hlast, rfl⟩
  rw [reconcileAdmitted]
  split
  · exact lawful_observeTerminalActivationOutcome past
  split
  · rename_i hterminal
    split
    · trivial
    rename_i hretain
    simp only [Bool.and_eq_true] at hterminal
    rw [Bool.not_eq_true] at hretain
    exact obeys_release (mayRelease_terminal hread hterminal.1.2 hretain) fun _ => trivial
  · split
    · exact lawful_putFinalizer (fun _ => lawful_pure) past
    split
    · exact lawful_holdQuarantineLease past
    refine obeys_ensureExecutionModel.bind fun past' adopting _ hsame => ?_
    cases adopting with
    | true => trivial
    | false =>
      rw [hsame rfl]
      show Obeys rely Rule (if up.status.phase = .unset ∨ up.status.phase = .pending then _
        else _) past _
      split
      · exact obeys_runPhase hup htracks
      refine obeys_ensureMutationLease.bind fun past'' held _ hlast' => ?_
      cases held with
      | true => exact obeys_runPhase hup (htracks.of_last (hlast' rfl))
      | false => trivial

/-- The gate comes back with a version that was read last, unless it was just
acknowledged. -/
def Gated (past : List WorkerEvent) : Option (ManagedLeafDecision × Upgrade × Bool) → Prop
  | some (decision, up, false) =>
    Decided up decision ∧ Honest up.status ∧ Read past up ∧ (sight past).last = some up
  | _ => True

theorem obeys_syncManagedLeafGate (hup : Honest up.status) (hread : Read past up)
    (hlast : (sight past).last = some up) :
    Obeys rely Rule (syncManagedLeafGate r up now) past Gated := by
  rw [syncManagedLeafGate]
  split
  · rename_i hboth
    rw [Bool.and_eq_true, Bool.not_eq_true', Bool.not_eq_true'] at hboth
    exact ⟨⟨fun _ => hboth.2, nofun, nofun⟩, hup, hread, hlast⟩
  split
  · refine obeys_evaluateManagedLeaf.bind fun past' decision hpast' hdecision => ?_
    obtain ⟨hsight, hdecided⟩ := hdecision
    exact ⟨hdecided, hup, hread.mono hpast', (congrArg Sight.last hsight).trans hlast⟩
  refine obeys_retryOnConflict (I := fun _ => True) (fun past _ => ?_) (fun _ _ => trivial) _
    trivial
  refine obeys_fetch trivial trivial fun current hcurrent => ?_
  refine obeys_evaluateManagedLeaf.bind fun past' decision hpast' hdecision => ?_
  obtain ⟨hsight, hdecided⟩ := hdecision
  have hread' : Read past' current := read_snoc.mono hpast'
  have hgated : Gated past' (some (decision, current, false)) := by
    refine ⟨hdecided, hcurrent, hread', ?_⟩
    rw [hsight, sight_snoc]
    rfl
  dsimp only
  split
  · exact hgated
  split
  · exact hgated
  · exact obeys_writeStatus hread' (.inl (progress_of_marks (by rfl) id)) trivial trivial
      trivial

/-- A cancellation that the manager recorded is not taken back, so nothing can
be claimed after it. -/
theorem mayRelease_cancelled (hread : Read past up) (hdecided : Decided up decision)
    (h : managedCancellationCanReleaseMutationLease up decision = true) : MayRelease past := by
  rw [managedCancellationCanReleaseMutationLease] at h
  split at h
  · cases h
  rename_i hopen
  simp only [Bool.or_eq_true, not_or, Bool.not_eq_true, Bool.not_eq_false', bne_eq_false_iff_eq]
    at hopen
  obtain ⟨⟨⟨⟨happlies, -⟩, hstate⟩, -⟩, hsubmitted⟩ := hopen
  split at h
  · rename_i admission control worker hadmission hcontrol hworker
    simp only [Bool.and_eq_true] at h
    have hmanaged : up.managed = true := hdecided.cancelled happlies hstate
    have hcancel : control.cancel = true := h.1.1.1.1.1.1.1.1
    exact .inl ⟨up, .inl hread, .inr (.inr ⟨hmanaged, control, hcontrol, hcancel⟩),
      .inl (unmarked_of_not_submitted hsubmitted)⟩
  · cases h

theorem obeys_reconcile : Obeys rely Rule (reconcile r) [] fun _ _ => True := by
  refine obeys_fetch trivial trivial fun up hup => ?_
  dsimp only
  split
  · trivial
  refine obeys_clock fun now => ?_
  have hread : Read ([] ++ [⟨.get, .found up⟩] ++ [⟨.now, now⟩]) up :=
    read_snoc.mono (List.prefix_append ..)
  split
  · next hdeleting => exact obeys_handleDelete ⟨hdeleting, .inl hread⟩
  refine (obeys_syncManagedLeafGate hup hread rfl).bind fun past' gate _ hgated => ?_
  rcases gate with _ | ⟨decision, up, acknowledged⟩
  · trivial
  cases acknowledged with
  | true => trivial
  | false =>
    obtain ⟨hdecided, hup, hread, hlast⟩ := hgated
    show Obeys rely Rule (if (decision.applies && !decision.allowProgress) = true then _
      else _) past' _
    split
    · split
      · rename_i hcancelled
        exact obeys_release (mayRelease_cancelled hread hdecided hcancelled)
          fun _ => trivial
      · trivial
    · split
      · next hprepared => exact obeys_reconcilePreparedInvalidation hread hprepared.1
      · exact obeys_reconcileAdmitted hup hread hlast

end VirtualKubelet.SoftwareUpgrade
