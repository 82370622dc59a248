import VirtualKubelet.Proofs.UpgradeRules

/-!
# Claims keep to the rule

The gate, the claim functions and the clean-up. A claim that goes through has
read the object open and, on a managed leaf, granted, and it sets one marker
with its claim; the RPC of that stage is then due.
-/

namespace VirtualKubelet.SoftwareUpgrade

open Go Rollout Program

variable {up cur : Upgrade} {stage : Stage} {past : List WorkerEvent}
  {decision : ManagedLeafDecision} {s : Status}

/-! ## The manager's gate -/

/-- What a decision says about the leaf it was made for. -/
structure Decided (up : Upgrade) (decision : ManagedLeafDecision) : Prop where
  unmanaged : decision.applies = false → up.managed = false
  granted : decision.applies = true → decision.allowClaim = true → up.managed = true ∧
    Granted up.status
  cancelled : decision.applies = true → decision.effectiveState = .cancelled → up.managed = true

theorem decided_barred (happlies : decision.applies = true) (hclaim : decision.allowClaim = false)
    (hstate : decision.effectiveState = .cancelled → up.managed = true) : Decided up decision := by
  refine ⟨fun h => ?_, fun _ h => ?_, fun _ => hstate⟩
  · rw [happlies] at h
    cases h
  · rw [hclaim] at h
    cases h

theorem decided_decideAdmitted {control : ManagerControl} (happlies : decision.applies = true)
    (hclaim : decision.allowClaim = false) (hmanaged : up.managed = true)
    (hadmission : up.status.managerAdmission = some admission)
    (hcontrol : up.status.managerControl = some control) :
    Decided up (decideAdmitted decision admission control inFlight) := by
  rw [decideAdmitted]
  cases hstate : admission.state with
  | granted =>
    cases hcancel : control.cancel with
    | true => cases inFlight <;> exact decided_barred happlies hclaim fun _ => hmanaged
    | false =>
      cases hpause : control.pause with
      | true => cases inFlight <;> exact decided_barred happlies hclaim fun _ => hmanaged
      | false =>
        refine ⟨fun h => ?_, fun _ _ => ⟨hmanaged, ?_⟩, fun _ _ => hmanaged⟩
        · exact absurd (happlies.symm.trans h) Bool.noConfusion
        · exact ⟨admission, control, hadmission, hstate, hcontrol, hpause, hcancel⟩
  | pending | revoked =>
    dsimp only
    split
    · exact decided_barred happlies hclaim fun _ => hmanaged
    · split <;> exact decided_barred happlies hclaim fun _ => hmanaged
  | settled => exact decided_barred happlies hclaim fun _ => hmanaged

theorem obeys_validateManagedLeafBinding :
    Obeys rely Rule (validateManagedLeafBinding up) past
      fun past' _ => sight past' = sight past := by
  refine obeys_ask fun answer => ?_
  cases answer with
  | some e => exact sight_snoc
  | none =>
    dsimp only
    split
    · exact sight_snoc
    · exact sight_snoc
    split
    · exact sight_snoc
    split
    · exact sight_snoc
    split
    · exact sight_snoc
    · split <;> exact sight_snoc

theorem obeys_evaluateManagedLeaf :
    Obeys rely Rule (evaluateManagedLeaf r up) past
      fun past' decision => sight past' = sight past ∧ Decided up decision := by
  rw [evaluateManagedLeaf]
  split
  · rename_i hboth
    rw [Bool.and_eq_true, Bool.not_eq_true', Bool.not_eq_true'] at hboth
    exact ⟨rfl, fun _ => hboth.2, nofun, nofun⟩
  dsimp only
  split
  · exact ⟨rfl, decided_barred rfl rfl nofun⟩
  split
  · exact ⟨rfl, decided_barred rfl rfl nofun⟩
  rename_i hmanaged
  rw [Bool.not_eq_true', Bool.not_eq_false] at hmanaged
  refine obeys_validateManagedLeafBinding.bind fun past' denied _ hsight => ?_
  cases denied with
  | some e => exact ⟨hsight, decided_barred rfl rfl nofun⟩
  | none =>
    dsimp only
    split
    · split <;> exact ⟨hsight, decided_barred rfl rfl nofun⟩
    split
    · rename_i admission control hadmission hcontrol
      exact ⟨hsight, decided_decideAdmitted rfl rfl hmanaged hadmission hcontrol⟩
    · exact ⟨hsight, decided_barred rfl rfl nofun⟩

/-! ## Preparing a claim -/

/-- The status a claim starts from: the object's, with the claim added if the
leaf is managed. -/
structure Prepares (stage : Stage) (cur : Upgrade) (status : Status) : Prop where
  granted : cur.managed = true → Granted cur.status
  requested : status.requested = cur.status.requested
  conditions : status.conditions = cur.status.conditions
  claims : ∀ other, claimsOf status other =
    if cur.managed = true ∧ other = stage then 1 else claimsOf cur.status other
  admission : status.managerAdmission = cur.status.managerAdmission
  control : status.managerControl = cur.status.managerControl

theorem claimsOf_addManagedMutationClaim
    (h : addManagedMutationClaim s stage policyEpoch revision now = some claimed) (other : Stage) :
    claimsOf claimed other = if other = stage then 1 else claimsOf s other := by
  rw [addManagedMutationClaim] at h
  split at h
  · cases h
  rename_i admission hadmission
  split at h
  · cases h
  split at h
  · cases h
  rename_i hfresh
  injection h with h
  subst h
  rw [Bool.not_eq_true, List.any_eq_false] at hfresh
  have hnone : claimsOf s stage = 0 := List.countP_eq_zero.mpr hfresh
  show List.countP _ (List.insertionSort ..) = _
  rw [(List.perm_insertionSort ..).countP_eq, List.countP_append, List.countP_singleton]
  by_cases hother : other = stage
  · rw [if_pos hother, if_pos (beq_iff_eq.mpr hother.symm), hother]
    show claimsOf s stage + 1 = 1
    rw [hnone]
  · rw [if_neg hother, if_neg fun heq => hother (beq_iff_eq.mp heq).symm]
    rfl

theorem addManagedMutationClaim_keeps
    (h : addManagedMutationClaim s stage policyEpoch revision now = some claimed) :
    claimed.requested = s.requested ∧ claimed.conditions = s.conditions ∧
      claimed.managerAdmission = s.managerAdmission ∧
      claimed.managerControl = s.managerControl := by
  rw [addManagedMutationClaim] at h
  split at h
  · cases h
  split at h
  · cases h
  split at h
  · cases h
  injection h with h
  subst h
  exact ⟨rfl, rfl, rfl, rfl⟩

theorem progress_acknowledgeRefusal : Progress s (acknowledgeRefusal s desired shown reason) := by
  have hacknowledged : Progress s { s with workerControl := some desired } :=
    progress_of_marks rfl fun h => h
  rw [acknowledgeRefusal]
  split
  · exact hacknowledged.setReady
  · exact hacknowledged

theorem obeys_refuseManagedMutationClaim (hread : Read past cur) :
    Obeys rely Rule (refuseManagedMutationClaim cur decision now) past fun past' prepared =>
      (sight past').last = (sight past).last ∧ ∀ status, prepared ≠ .ready status := by
  refine obeys_ask fun textChanged => ?_
  have hasked : (sight (past ++ [⟨.ask .deniedChanged, textChanged⟩])).last = (sight past).last :=
    congrArg Sight.last sight_snoc
  dsimp only
  split
  · exact ⟨hasked, fun _ h => Prepared.noConfusion h⟩
  refine obeys_bind.mpr (obeys_putStatus (hread.mono (List.prefix_append ..))
    (.inl progress_acknowledgeRefusal) fun reply => ?_)
  cases reply with
  | ok | conflict | failed =>
    exact ⟨last_snoc_write.trans hasked, fun _ h => Prepared.noConfusion h⟩

theorem prepares_admitted (hmanaged : cur.managed = true) (hgranted : Granted cur.status)
    (h : admitManagedMutationClaim cur.status stage decision now = .ready s) :
    Prepares stage cur s := by
  rw [admitManagedMutationClaim] at h
  split at h
  · cases h
  rename_i claimed hadd
  injection h with h
  subst h
  obtain ⟨hrequested, hconditions, hadmission, hcontrol⟩ := addManagedMutationClaim_keeps hadd
  refine ⟨fun _ => hgranted, hrequested, hconditions, fun other => ?_, hadmission, hcontrol⟩
  have hclaims : claimsOf claimed other = _ := claimsOf_addManagedMutationClaim hadd other
  simp only [hmanaged, true_and]
  exact hclaims

theorem prepares_unmanaged (hmanaged : cur.managed = false) :
    Prepares stage cur cur.status := by
  have hnot : ¬cur.managed = true := by
    rw [hmanaged]
    exact Bool.false_ne_true
  exact ⟨fun h => absurd h hnot, rfl, rfl, fun _ => (if_neg fun h => hnot h.1).symm, rfl, rfl⟩

theorem obeys_concludeManagedMutationClaim (hread : Read past cur)
    (hgranted : decision.allowClaim = true → cur.managed = true ∧ Granted cur.status) :
    Obeys rely Rule (concludeManagedMutationClaim cur stage decision now) past
      fun past' prepared => (sight past').last = (sight past).last ∧
        ∀ status, prepared = .ready status → Prepares stage cur status := by
  rw [concludeManagedMutationClaim]
  split
  · exact (obeys_refuseManagedMutationClaim hread).mono fun _ _ _ h =>
      ⟨h.1, fun status hready => absurd hready (h.2 status)⟩
  · rename_i hclaim
    rw [Bool.not_eq_true', Bool.not_eq_false] at hclaim
    exact ⟨rfl, fun status hready =>
      prepares_admitted (hgranted hclaim).1 (hgranted hclaim).2 hready⟩

theorem obeys_prepareManagedMutationClaim (hread : Read past cur) :
    Obeys rely Rule (prepareManagedMutationClaim r cur stage now) past fun past' prepared =>
      (sight past').last = (sight past).last ∧
        ∀ status, prepared = .ready status → Prepares stage cur status := by
  refine obeys_evaluateManagedLeaf.bind fun past₁ decision hpast₁ hdecision => ?_
  obtain ⟨hsight, hdecided⟩ := hdecision
  split
  · rename_i happlies
    rw [Bool.not_eq_true'] at happlies
    refine ⟨congrArg Sight.last hsight, ?_⟩
    rintro status ⟨⟩
    exact prepares_unmanaged (hdecided.unmanaged happlies)
  · rename_i happlies
    rw [Bool.not_eq_true', Bool.not_eq_false] at happlies
    have hgranted := hdecided.granted happlies
    dsimp only
    split
    · refine obeys_ask fun bar => ?_
      refine (obeys_concludeManagedMutationClaim
        ((hread.mono hpast₁).mono (List.prefix_append ..)) fun hclaim => ?_).mono
          fun _ _ _ h => ⟨h.1.trans (congrArg Sight.last (sight_snoc.trans hsight)), h.2⟩
      cases bar with
      | none => exact hgranted hclaim
      | some bar => cases hclaim
    · exact (obeys_concludeManagedMutationClaim (hread.mono hpast₁) hgranted).mono
        fun _ _ _ h => ⟨h.1.trans (congrArg Sight.last hsight), h.2⟩

/-! ## Claiming a stage -/

/-- The copy that a handler works on has the markers of the version that was
read last. -/
def Tracks (past : List WorkerEvent) (up : Upgrade) : Prop :=
  ∃ read, (sight past).last = some read ∧ read.status.requested = up.status.requested

theorem requested_of_cas (h : upgradeStatusCASMatches up cur = true) :
    cur.status.requested = up.status.requested := by
  simp only [upgradeStatusCASMatches, Bool.and_eq_true, beq_iff_eq] at h
  funext other
  cases other <;> simp only [Status.requested, h]

/-- An object to clean up: it was read while it was being deleted, or it was
found missing with nothing marked in what was read before. -/
def MayClean (past : List WorkerEvent) (up : Upgrade) : Prop :=
  up.deleting = true ∧ (Read past up ∨
    ((sight past).missing = true ∧ upgradeMutationSubmitted up.status = false ∧
      ∃ read, (sight past).last = some read ∧ Unmarked read.status))

/-- What a claim function tests and records for a stage. -/
structure Marking (stage : Stage) (requested : Status → Bool) (mark : Status → Status) :
    Prop where
  fresh : ∀ s, requested s = false → s.requested stage = false
  requested : ∀ s, (mark s).requested = Function.update s.requested stage true
  claims : ∀ s, (mark s).managedMutationClaims = s.managedMutationClaims
  admission : ∀ s, (mark s).managerAdmission = s.managerAdmission
  control : ∀ s, (mark s).managerControl = s.managerControl
  honest : ∀ s, Honest s → Honest (mark s)

theorem claims_of_prepares (hmark : Marking stage requested mark) (hpresent : cur.deleting = false)
    (hrunning : terminalUpgradePhase cur.status.phase = false)
    (hrequested : requested cur.status = false) (h : Prepares stage cur status) :
    Claims stage cur (mark status) where
  present := hpresent
  running := hrunning
  granted := h.granted
  fresh := hmark.fresh cur.status hrequested
  requested := by rw [hmark.requested, h.requested]
  claims other := by
    rw [← h.claims other, claimsOf, hmark.claims]
    rfl
  admission := (hmark.admission status).trans h.admission
  control := (hmark.control status).trans h.control
  honest hold := hmark.honest status (honest_mono h.conditions
    (fun other hother => (congrFun h.requested other).trans hother) hold)

def Returns (stage : Stage) (past : List WorkerEvent) : Option Claimed → Prop
  | some (.claimed up) => Pending past stage ∧ up.status.requested stage = true
  | some (.deleting object) => MayClean past object
  | _ => True

theorem obeys_claimStage (hmark : Marking stage requested mark) (htracks : Tracks past up) :
    Obeys rely Rule (claimStage r up stage requested mark now) past (Returns stage) := by
  refine obeys_retryOnConflict (I := fun past => Tracks past up) (fun past htracks => ?_)
    (fun _ _ => trivial) _ htracks
  refine obeys_fetch trivial ?_ fun cur _ => ?_
  · obtain ⟨read, hlast, hsame⟩ := htracks
    cases hsubmitted : upgradeMutationSubmitted up.status with
    | true =>
      simp only [missingUpgradeCleanupCandidate, hsubmitted]
      trivial
    | false =>
      simp only [missingUpgradeCleanupCandidate, hsubmitted]
      refine ⟨rfl, .inr ⟨by rw [sight_snoc]; rfl, hsubmitted, read, ?_, ?_⟩⟩
      · rw [sight_snoc]
        exact hlast
      · intro other
        rw [hsame]
        exact unmarked_of_not_submitted hsubmitted other
  · dsimp only
    split
    · next hdeleting => exact ⟨hdeleting, .inl read_snoc⟩
    rename_i hdeleting
    split
    · trivial
    rename_i hcas
    split
    · trivial
    rename_i hopen
    rw [Bool.not_eq_true] at hdeleting
    rw [Bool.not_eq_true', Bool.not_eq_false] at hcas
    rw [Bool.or_eq_true, not_or, Bool.not_eq_true, Bool.not_eq_true] at hopen
    have hnow : Tracks (past ++ [⟨.get, .found cur⟩]) up :=
      ⟨cur, by rw [sight_snoc]; rfl, requested_of_cas hcas⟩
    refine (obeys_prepareManagedMutationClaim read_snoc).bind
      fun past' prepared hpast' hprepared => ?_
    obtain ⟨hlast, hready⟩ := hprepared
    have htracks' : Tracks past' up := by
      obtain ⟨read, hread, hsame⟩ := hnow
      exact ⟨read, hlast.trans hread, hsame⟩
    cases prepared with
    | conflict => exact htracks'
    | error | refused status => trivial
    | ready status =>
      have hclaims := claims_of_prepares hmark hdeleting hopen.2 hopen.1
        (hready status rfl)
      have hread : Read past' cur := read_snoc.mono hpast'
      refine obeys_writeStatus hread (.inr ⟨stage, hclaims⟩) ?_ ?_ trivial
      · refine ⟨⟨cur, mark status, by rw [sight_snoc]; rfl, ?_, hclaims⟩, ?_⟩
        · exact hread.mono (List.prefix_append ..)
        · show (mark status).requested stage = true
          rw [hmark.requested, Function.update_self]
      · obtain ⟨read, hread, hsame⟩ := htracks'
        exact ⟨read, last_snoc_write.trans hread, hsame⟩

/-! ## The claim functions -/

/-- The marker is set together with two conditions, of which one may speak of
the request. -/
theorem marking_of_fields {requested : Status → Bool} {set : Status → Status}
    {type : ConditionType} {reason : String}
    (hfresh : ∀ s, requested s = false → s.requested stage = false)
    (hrequested : ∀ s, (set s).requested = Function.update s.requested stage true)
    (hfields : ∀ s, (set s).managedMutationClaims = s.managedMutationClaims ∧
      (set s).managerAdmission = s.managerAdmission ∧
      (set s).managerControl = s.managerControl ∧ (set s).conditions = s.conditions)
    (hmark : ∀ other, requestMarked type reason = some other → other = stage) :
    Marking stage requested fun s =>
      (((set s).setCondition .mutationSettled false "MutationRequested").setCondition type false
        reason).setReady false reason where
  fresh := hfresh
  requested := hrequested
  claims s := (hfields s).1
  admission s := (hfields s).2.1
  control s := (hfields s).2.2.1
  honest s hs := by
    have hset : Honest (set s) := by
      refine honest_mono (hfields s).2.2.2 (fun other hother => ?_) hs
      rw [hrequested, Function.update_apply]
      split
      · rfl
      · exact hother
    refine honest_setCondition (honest_setCondition (honest_setCondition hset nofun)
      fun other hother => ?_) nofun
    show (set s).requested other = true
    rw [hmark other hother, hrequested, Function.update_self]

theorem obeys_claimStaging (htracks : Tracks past up) :
    Obeys rely Rule (claimStaging r up now) past (Returns .staging) := by
  refine obeys_claimStage (marking_of_fields (fun s h => (Bool.or_eq_false_iff.mp h).1)
    (fun s => ?_) (fun s => ⟨rfl, rfl, rfl, rfl⟩) ?_) htracks
  · funext other
    cases other <;> rfl
  · rintro other ⟨⟩
    rfl

theorem obeys_claimRollbackActivation {version : String} (htracks : Tracks past up) :
    Obeys rely Rule (claimRollbackActivation r up version now) past
      (Returns .rollbackActivation) := by
  refine obeys_claimStage (marking_of_fields
    (fun s h => (Bool.or_eq_false_iff.mp (Bool.or_eq_false_iff.mp h).1).1) (fun s => ?_)
    (fun s => ⟨rfl, rfl, rfl, rfl⟩) ?_) htracks
  · funext other
    cases other <;> rfl
  · rintro other ⟨⟩
    rfl

theorem obeys_claimActivation {standby : Bool} (htracks : Tracks past up) :
    Obeys rely Rule (claimActivation r up standby now) past
      (Returns (if standby then .standbyActivation else .primaryActivation)) := by
  rw [claimActivation]
  refine obeys_claimStage ?_ htracks
  refine marking_of_fields (fun s h => ?_) (fun s => ?_) (fun s => ⟨rfl, rfl, rfl, rfl⟩)
    fun other hother => ?_
  · cases standby with
    | true => exact h
    | false => exact (Bool.or_eq_false_iff.mp h).1
  · funext other
    cases standby <;> cases other <;> first | rfl | exact Bool.or_true _ | exact Bool.or_false _
  cases standby with
  | true => cases hother
  | false =>
    cases hother
    rfl

theorem obeys_claimInstallAttempt {standby : Bool} (htracks : Tracks past up) :
    Obeys rely Rule (claimInstallAttempt r up standby now) past
      (Returns (if standby then .standbyInstall else .primaryInstall)) := by
  refine obeys_claimStage (marking_of_fields (fun s h => ?_) (fun s => ?_)
    (fun s => ⟨rfl, rfl, rfl, rfl⟩) nofun) htracks
  · cases standby <;> exact h
  · funext other
    cases standby <;> cases other <;> first | rfl | exact Bool.or_true _ | exact Bool.or_false _

/-! ## Clean-up and the Lease -/

theorem lawful_removeFinalizer : Lawful (removeFinalizer up) := by
  rw [removeFinalizer]
  split
  · exact lawful_putFinalizer fun _ => lawful_pure
  · exact lawful_pure

theorem mayRelease_deleted (h : MayClean past up)
    (hspent : ((terminalUpgradePhase up.status.phase && !retainMutationLeaseUntilExpiry up.status) ||
      !upgradeMutationSubmitted up.status) = true) : MayRelease past := by
  obtain ⟨hdeleting, hread | ⟨hmissing, -, read, hlast, hunmarked⟩⟩ := h
  · refine .inl ⟨up, .inl hread, .inr (.inl hdeleting), ?_⟩
    rw [Bool.or_eq_true, Bool.and_eq_true, Bool.not_eq_true', Bool.not_eq_true'] at hspent
    rcases hspent with hsettled | hsubmitted
    · exact spent_of_not_retained hsettled.2
    · exact .inl (unmarked_of_not_submitted hsubmitted)
  · exact .inr ⟨hmissing, read, hlast, hunmarked⟩

theorem obeys_handleDelete (h : MayClean past up) :
    Obeys rely Rule (handleDelete up now) past fun _ _ => True := by
  rw [handleDelete]
  split
  · refine lawful_acquireQuarantineLease (fun reply => ?_) past
    cases reply with
    | error | blocked => exact lawful_pure
    | owned => exact lawful_removeFinalizer
  split
  · rename_i hspent
    refine obeys_release (mayRelease_deleted h hspent) fun released => ?_
    cases released with
    | true => exact lawful_removeFinalizer _
    | false => trivial
  · exact lawful_removeFinalizer past

theorem obeys_waitForLease :
    Obeys rely Rule (waitForLease up reason) past fun _ held => held = false :=
  (lawful_updateStatus (fun _ _ hopen => (progress_open hopen (by rfl)).setReady) past).bind
    fun _ _ _ _ => rfl

theorem obeys_ensureMutationLease :
    Obeys rely Rule (ensureMutationLease up) past fun past' held =>
      held = true → (sight past').last = (sight past).last := by
  have hwaits : ∀ reason past', Obeys rely Rule (waitForLease up reason) past' fun past'' held =>
      held = true → (sight past'').last = (sight past).last := fun reason past' =>
    obeys_waitForLease.mono fun _ _ _ hfalse htrue => nomatch hfalse.symm.trans htrue
  have hprepare : ∀ reply, Obeys rely Rule (prepareMutation up) (past ++ [⟨.acquire, reply⟩])
      fun past' held => held = true → (sight past').last = (sight past).last := by
    intro reply
    refine obeys_ask fun prepared => ?_
    cases prepared with
    | true =>
      intro _
      rw [sight_snoc, sight_snoc]
      rfl
    | false =>
      exact (lawful_updateStatus (fun _ _ hopen => (progress_open hopen rfl).setReady) _).bind
        fun _ _ _ _ => nofun
  refine obeys_bind.mpr ⟨trivial, fun reply _ => ?_⟩
  cases reply with
  | ownsRisk => exact hprepare .ownsRisk
  | owned => exact hprepare .owned
  | guardError => exact hwaits "LegacyMutationGuardError" _
  | quarantined => exact hwaits "LegacyMutationQuarantine" _
  | acquireError => exact hwaits "MutationLeaseError" _
  | blocked => exact hwaits "MutationLeaseBlocked" _

end VirtualKubelet.SoftwareUpgrade
