import VirtualKubelet.SoftwareUpgrade.Protocol

/-!
# What a worker writes

Every write of the worker either claims a stage or leaves markers, claims and
the manager's fields alone. The second kind is `Progress`; nearly all status
writes are chains of record updates and conditions, and the rules here take
such a chain apart. What makes the markers readable is `Honest`: no condition
says a stage was requested whose marker is not set.
-/

namespace VirtualKubelet.SoftwareUpgrade

open Go Rollout

variable {reason : String}

/-! ## Markers and conditions -/

def Status.marked (s : Status) : Stage → Bool
  | .staging => s.hasReason .staged "StagingRequested"
  | .primaryActivation => s.hasReason .activated "ActivationRequested"
  | .rollbackActivation =>
    s.hasReason .rollback "RollbackRequested" || s.hasReason .rollback "RollbackDispatched"
  | .primaryInstall | .standbyInstall | .standbyActivation => false

variable {s s' : Status} {type : ConditionType} {status : Bool}

theorem managedMutationMarkers_eq :
    managedMutationMarkers s stage = (s.requested stage || s.marked stage) := by
  cases stage with
  | rollbackActivation => exact Bool.or_assoc ..
  | staging | primaryActivation => rfl
  | primaryInstall | standbyInstall | standbyActivation => exact (Bool.or_false _).symm

/-- No condition speaks of a request that has no marker. -/
def Honest (s : Status) : Prop :=
  ∀ stage, s.marked stage = true → s.requested stage = true

theorem Honest.markers (h : Honest s) (stage : Stage) :
    managedMutationMarkers s stage = s.requested stage := by
  rw [managedMutationMarkers_eq]
  cases hmarked : s.marked stage with
  | false => exact Bool.or_false _
  | true => rw [h stage hmarked, Bool.or_true]

theorem marked_congr (h : s'.conditions = s.conditions) : s'.marked = s.marked := by
  funext stage
  cases stage <;> simp only [Status.marked, Status.hasReason, h]

theorem honest_mono (hconditions : s'.conditions = s.conditions)
    (hrequested : ∀ stage, s.requested stage = true → s'.requested stage = true) (h : Honest s) :
    Honest s' := by
  intro stage hmarked
  rw [marked_congr hconditions] at hmarked
  exact hrequested stage (h stage hmarked)

/-- The stage that a condition says was requested. -/
def requestMarked (type : ConditionType) (reason : String) : Option Stage :=
  if type = .staged ∧ reason = "StagingRequested" then some .staging
  else if type = .activated ∧ reason = "ActivationRequested" then some .primaryActivation
  else if type = .rollback ∧ (reason = "RollbackRequested" ∨ reason = "RollbackDispatched") then
    some .rollbackActivation
  else none

theorem conditions_setCondition_self :
    (s.setCondition type status reason).conditions type = some ⟨status, reason⟩ :=
  Function.update_self ..

theorem conditions_setCondition_ne (h : other ≠ type) :
    (s.setCondition type status reason).conditions other = s.conditions other :=
  Function.update_of_ne h ..

theorem hasReason_setCondition
    (h : (s.setCondition type status reason).hasReason other reason' = true) :
    (type = other ∧ reason = reason') ∨ s.hasReason other reason' = true := by
  by_cases htype : other = type
  · subst htype
    rw [Status.hasReason, conditions_setCondition_self] at h
    exact .inl ⟨rfl, eq_of_beq h⟩
  · rw [Status.hasReason, conditions_setCondition_ne htype] at h
    exact .inr h

/-- A new condition marks its own stage and no other. -/
theorem marked_setCondition (h : (s.setCondition type status reason).marked stage = true) :
    requestMarked type reason = some stage ∨ s.marked stage = true := by
  cases stage with
  | staging | primaryActivation =>
    rcases hasReason_setCondition h with ⟨rfl, rfl⟩ | hold
    · exact .inl (by simp [requestMarked])
    · exact .inr hold
  | rollbackActivation =>
    simp only [Status.marked, Bool.or_eq_true] at h ⊢
    rcases h with h | h
    · rcases hasReason_setCondition h with ⟨rfl, rfl⟩ | hold
      · exact .inl (by simp [requestMarked])
      · exact .inr (.inl hold)
    · rcases hasReason_setCondition h with ⟨rfl, rfl⟩ | hold
      · exact .inl (by simp [requestMarked])
      · exact .inr (.inr hold)
  | primaryInstall | standbyInstall | standbyActivation => cases h

/-- A condition may only speak of a request whose marker is set. -/
theorem honest_setCondition (h : Honest s)
    (hmark : ∀ stage, requestMarked type reason = some stage → s.requested stage = true) :
    Honest (s.setCondition type status reason) := by
  intro stage hmarked
  rcases marked_setCondition hmarked with hnew | hold
  · exact hmark stage hnew
  · exact h stage hold

/-! ## Progress -/

/-- What a write must not disturb. -/
structure Marks where
  requested : Stage → Bool
  claims : List ManagedMutationClaim
  admission : Option ManagerAdmission
  control : Option ManagerControl
  conditions : ConditionType → Option Condition

def Status.marks (s : Status) : Marks :=
  ⟨s.requested, s.managedMutationClaims, s.managerAdmission, s.managerControl, s.conditions⟩

theorem honest_of_marks (h : s'.marks = s.marks) : Honest s → Honest s' := by
  have hrequested : s'.requested = s.requested := congrArg Marks.requested h
  refine honest_mono (congrArg Marks.conditions h) fun stage hstage => ?_
  rw [hrequested]
  exact hstage

/-- A write that claims nothing. -/
structure Progress (old new : Status) : Prop where
  requested : new.requested = old.requested
  claims : new.managedMutationClaims = old.managedMutationClaims
  admission : new.managerAdmission = old.managerAdmission
  control : new.managerControl = old.managerControl
  honest : Honest old → Honest new
  terminal : terminalUpgradePhase old.phase = true → terminalUpgradePhase new.phase = true

variable {old new : Status}

theorem progress_of_marks (h : new.marks = old.marks)
    (hphase : terminalUpgradePhase old.phase = true → terminalUpgradePhase new.phase = true) :
    Progress old new :=
  ⟨congrArg Marks.requested h, congrArg Marks.claims h, congrArg Marks.admission h,
    congrArg Marks.control h, honest_of_marks h, hphase⟩

/-- The rule for a record update of an object that is not terminal. -/
theorem progress_open (hopen : terminalUpgradePhase old.phase = false)
    (h : new.marks = old.marks) : Progress old new :=
  progress_of_marks h fun hterminal => absurd hterminal (by rw [hopen]; exact Bool.false_ne_true)

theorem Progress.markTransferComplete (h : Progress old new) :
    Progress old (markTransferComplete new) :=
  ⟨h.requested, h.claims, h.admission, h.control,
    fun hold => honest_of_marks rfl (h.honest hold), h.terminal⟩

theorem Progress.setMark (h : Progress old new)
    (hmark : ∀ stage, requestMarked type reason = some stage → new.requested stage = true) :
    Progress old (new.setCondition type status reason) :=
  ⟨h.requested, h.claims, h.admission, h.control,
    fun hold => honest_setCondition (h.honest hold) hmark, h.terminal⟩

theorem Progress.setCondition (h : Progress old new)
    (hmark : requestMarked type reason = none) :
    Progress old (new.setCondition type status reason) :=
  h.setMark fun _ hstage => nomatch hmark.symm.trans hstage

theorem Progress.setReady (h : Progress old new) :
    Progress old (new.setReady status reason) :=
  h.setCondition rfl

/-! ## Claims -/

def Granted (s : Status) : Prop :=
  ∃ admission control, s.managerAdmission = some admission ∧ admission.state = .granted ∧
    s.managerControl = some control ∧ control.pause = false ∧ control.cancel = false

/-- The write that claims a stage, and what its own read has shown. -/
structure Claims (stage : Stage) (cur : Upgrade) (new : Status) : Prop where
  present : cur.deleting = false
  running : terminalUpgradePhase cur.status.phase = false
  granted : cur.managed = true → Granted cur.status
  fresh : cur.status.requested stage = false
  requested : new.requested = Function.update cur.status.requested stage true
  claims : ∀ other, claimsOf new other =
    if cur.managed = true ∧ other = stage then 1 else claimsOf cur.status other
  admission : new.managerAdmission = cur.status.managerAdmission
  control : new.managerControl = cur.status.managerControl
  honest : Honest cur.status → Honest new

end VirtualKubelet.SoftwareUpgrade
