import Mathlib.Order.Bounds.Basic
import VirtualKubelet.Go.Checks
import VirtualKubelet.Go.Value
import VirtualKubelet.Rollout.Execution

/-!
# How old a device's health evidence is

An admission asks when a device was last known to be healthy. The loop keeps the
earliest time met so far and gives up at the first inconsistency, so a success
is best described by what it found: every piece of evidence agrees with what is
live, and the answer is the least of the times. Neither the live heartbeat nor
the order of the conditions occurs in that description.
-/

namespace VirtualKubelet.Rollout.HealthEvidence

open VirtualKubelet.Go

/-! ## What is read -/

structure NodeCondition where
  type : String
  status : ConditionStatus
  lastHeartbeatTime : Time
  lastTransitionTime : Time

structure DeviceCondition where
  type : String
  status : ConditionStatus
  observedGeneration : Int

structure ConditionObservation where
  type : String
  status : ConditionStatus
  observedGeneration : Int
  observedAt : Time

/-- The observations are a list keyed by their type. -/
structure HealthObservation where
  observedAt : Time
  nodeReadyHeartbeatTime : Time
  deviceConditionsHash : String
  conditionObservations : List ConditionObservation
  keyed : (conditionObservations.map (·.type)).Nodup

structure CiscoDevice where
  conditions : List DeviceCondition
  healthObservation : Option HealthObservation

def nodeReadyCondition (node : List NodeCondition) : Option NodeCondition :=
  node.find? (·.type == "Ready")

def findStatusCondition (conditions : List DeviceCondition) (conditionType : String) :
    Option DeviceCondition :=
  conditions.find? (·.type == conditionType)

/-- One turn of the loop up to the comparison: the time the producer of a
required condition reported. -/
def producerObservedAt (device : CiscoDevice) (observation : HealthObservation)
    (conditionType : String) : Except String Time :=
  let name := "required device condition " ++ quote conditionType
  match findStatusCondition device.conditions conditionType with
  | none => .error (name ++ " is absent")
  | some condition =>
    match observation.conditionObservations.find? (·.type == conditionType) with
    | none => .error (name ++ " has no producer observation time")
    | some candidate =>
      if candidate.status ≠ condition.status ∨
          candidate.observedGeneration ≠ condition.observedGeneration then
        .error (name ++ " changed after its producer observation")
      else if candidate.observedAt.isZero then
        .error (name ++ " has no producer observation time")
      else .ok candidate.observedAt

def earlier (observed t : Time) : Time := if t < observed then t else observed

/-- The loop over the required conditions. -/
def earliest (device : CiscoDevice) (observation : HealthObservation) (observed : Time)
    (conditionTypes : List String) : Except String Time :=
  conditionTypes.foldlM (fun observed conditionType =>
    earlier observed <$> producerObservedAt device observation conditionType) observed

/-- `conditionsHash` is what `deviceConditionsHash` makes of the device. -/
def managedDeviceHealthObservedAt (conditionsHash : Except String String) (device : CiscoDevice)
    (node : List NodeCondition) (now : Time) (conditionTypes : List String) :
    Except String Time :=
  match device.healthObservation with
  | none => .error "manager health snapshot is absent"
  | some observation =>
  match nodeReadyCondition node with
  | none => .error "live Node Ready heartbeat is absent"
  | some ready =>
    if ready.lastHeartbeatTime.isZero then .error "live Node Ready heartbeat is absent"
    else if observation.observedAt.isZero || observation.nodeReadyHeartbeatTime.isZero then
      .error "manager health snapshot timestamps are incomplete"
    else if ready.status ≠ .yes then .error "live Node Ready condition is not True"
    else if ready.lastHeartbeatTime < observation.nodeReadyHeartbeatTime then
      .error "live Node Ready heartbeat regressed behind the manager snapshot"
    else if ready.lastTransitionTime.isZero then
      .error "live Node Ready condition has no transition proof"
    else if observation.nodeReadyHeartbeatTime < ready.lastTransitionTime then
      .error "live Node Ready condition transitioned after the manager snapshot"
    else do
      let hash ← conditionsHash
      if observation.deviceConditionsHash ≠ hash then
        throw "CiscoDevice phase or conditions changed after the manager snapshot"
      let observed ← earliest device observation
        (earlier observation.observedAt observation.nodeReadyHeartbeatTime) conditionTypes
      return earlier observed now

/-! ## What a success found -/

/-- The device is as the snapshot has it, and the live Node has been Ready,
without a transition, since the heartbeat of the snapshot. -/
structure Agrees (conditionsHash : Except String String) (observation : HealthObservation)
    (ready : NodeCondition) : Prop where
  observed : observation.observedAt.isZero = false
  beaten : observation.nodeReadyHeartbeatTime.isZero = false
  unchanged : conditionsHash = .ok observation.deviceConditionsHash
  status : ready.status = .yes
  beats : ready.lastHeartbeatTime.isZero = false
  since : observation.nodeReadyHeartbeatTime ≤ ready.lastHeartbeatTime
  transitioned : ready.lastTransitionTime.isZero = false
  before : ready.lastTransitionTime ≤ observation.nodeReadyHeartbeatTime

/-- The condition still has the status and the generation its producer observed
at `t`. -/
def ProducedAt (device : CiscoDevice) (observation : HealthObservation) (conditionType : String)
    (t : Time) : Prop :=
  ∃ candidate ∈ observation.conditionObservations, ∃ condition,
    findStatusCondition device.conditions conditionType = some condition ∧
    candidate = ⟨conditionType, condition.status, condition.observedGeneration, t⟩ ∧
    t.isZero = false

/-- Everything the answer rests on. -/
def times (device : CiscoDevice) (observation : HealthObservation) (now : Time)
    (conditionTypes : List String) : Set Time :=
  insert now (insert observation.observedAt (insert observation.nodeReadyHeartbeatTime
    {t | ∃ type ∈ conditionTypes, ProducedAt device observation type t}))

section Minimum

theorem earlier_eq_min : earlier a b = min a b := by
  unfold earlier
  split
  case isTrue h => exact (min_eq_right (le_of_lt h)).symm
  case isFalse h => exact (min_eq_left (not_lt.mp h)).symm

/-- Keeping the earlier of two times loses nothing. -/
theorem isLeast_earlier (h : IsLeast (insert (earlier a b) s) t) :
    IsLeast (insert a (insert b s)) t := by
  simp only [IsLeast, earlier_eq_min, Set.mem_insert_iff, mem_lowerBounds, forall_eq_or_imp,
    le_min_iff, and_assoc] at h ⊢
  obtain ⟨rfl | hmem, hle⟩ := h
  · exact ⟨(min_choice a b).imp_right .inl, hle⟩
  · exact ⟨.inr (.inr hmem), hle⟩

end Minimum

section Success

variable {hash : Except String String} {device : CiscoDevice} {o : HealthObservation}
  {node : List NodeCondition} {now t observed : Time} {type : String} {types : List String}

/-- The search finds the one observation of the type. -/
theorem HealthObservation.find_iff :
    o.conditionObservations.find? (·.type == type) = some candidate ↔
      candidate ∈ o.conditionObservations ∧ candidate.type = type := by
  constructor
  · intro h
    exact ⟨List.mem_of_find?_eq_some h, by simpa using List.find?_some h⟩
  · rintro ⟨hmem, htype⟩
    cases hfind : o.conditionObservations.find? (·.type == type) with
    | none => exact absurd htype (by simpa using List.find?_eq_none.mp hfind _ hmem)
    | some other =>
      have hother : other.type = type := by simpa using List.find?_some hfind
      rw [List.inj_on_of_nodup_map o.keyed (List.mem_of_find?_eq_some hfind) hmem
        (hother.trans htype.symm)]

theorem producerObservedAt_ok :
    producerObservedAt device o type = .ok t ↔ ProducedAt device o type t := by
  constructor
  · intro h
    unfold producerObservedAt at h
    split at h
    case h_1 => cases h
    case h_2 condition hlive =>
      split at h
      case h_1 => cases h
      case h_2 candidate hfind =>
        obtain ⟨hmem, rfl⟩ := HealthObservation.find_iff.mp hfind
        split_ifs at h with hchanged hzero
        cases h
        push Not at hchanged
        refine ⟨candidate, hmem, condition, hlive, ?_, by simpa using hzero⟩
        rw [← hchanged.1, ← hchanged.2]
  · rintro ⟨_, hmem, condition, hlive, rfl, htimed⟩
    have hfind := HealthObservation.find_iff.mpr ⟨hmem, rfl⟩
    simp [producerObservedAt, hlive, hfind, htimed]

theorem earliest_cons : earliest device o observed (type :: types) = .ok t ↔
    ∃ p, producerObservedAt device o type = .ok p ∧
      earliest device o (earlier observed p) types = .ok t := by
  simp only [earliest, List.foldlM_cons, map_eq_pure_bind, bind_ok]
  constructor
  · rintro ⟨_, ⟨p, hp, hpure⟩, hrest⟩
    cases hpure
    exact ⟨p, hp, hrest⟩
  · rintro ⟨p, hp, hrest⟩
    exact ⟨_, ⟨p, hp, rfl⟩, hrest⟩

/-- The loop ends with the least of the times it met. -/
theorem earliest_ok (h : earliest device o observed types = .ok t) :
    (∀ type ∈ types, ∃ p, ProducedAt device o type p) ∧
      IsLeast (insert observed {t | ∃ type ∈ types, ProducedAt device o type t}) t := by
  simp only [← producerObservedAt_ok]
  induction types generalizing observed with
  | nil =>
    cases h
    simp
  | cons type rest ih =>
    obtain ⟨p, hp, hrest⟩ := earliest_cons.mp h
    obtain ⟨hall, hleast⟩ := ih hrest
    have hmet : {t | ∃ type' ∈ type :: rest, producerObservedAt device o type' = .ok t} =
        insert p {t | ∃ type ∈ rest, producerObservedAt device o type = .ok t} := by
      ext x
      simp [hp, eq_comm]
    rw [hmet]
    exact ⟨List.forall_mem_cons.mpr ⟨⟨p, hp⟩, hall⟩, isLeast_earlier hleast⟩

theorem earliest_total (observed : Time) (h : ∀ type ∈ types, ∃ p, ProducedAt device o type p) :
    ∃ t, earliest device o observed types = .ok t := by
  induction types generalizing observed with
  | nil => exact ⟨observed, rfl⟩
  | cons type rest ih =>
    obtain ⟨⟨p, hp⟩, hrest⟩ := List.forall_mem_cons.mp h
    obtain ⟨t, ht⟩ := ih (earlier observed p) hrest
    exact ⟨t, earliest_cons.mpr ⟨p, producerObservedAt_ok.mpr hp, ht⟩⟩

/-- A success says that everything agreed, and is the least of the times. -/
theorem managedDeviceHealthObservedAt_ok (hsnap : device.healthObservation = some o)
    (hready : nodeReadyCondition node = some ready) :
    managedDeviceHealthObservedAt hash device node now types = .ok t ↔
      Agrees hash o ready ∧ (∀ type ∈ types, ∃ p, ProducedAt device o type p) ∧
      IsLeast (times device o now types) t := by
  simp only [managedDeviceHealthObservedAt, hsnap, hready]
  constructor
  · intro h
    split_ifs at h with hbeat hstamps hstatus hsince htrans hbefore
    rw [bind_ok] at h
    obtain ⟨found, hhash, h⟩ := h
    by_cases hsame : o.deviceConditionsHash ≠ found
    · rw [if_pos hsame] at h
      cases h
    rw [if_neg hsame, bind_ok] at h
    obtain ⟨observed, hloop, hpure⟩ := h
    cases hpure
    obtain ⟨hall, hleast⟩ := earliest_ok hloop
    rw [Bool.or_eq_true, not_or, Bool.not_eq_true, Bool.not_eq_true] at hstamps
    refine ⟨⟨hstamps.1, hstamps.2, by rw [hhash, not_not.mp hsame], not_not.mp hstatus,
      by simpa using hbeat, not_lt.mp hsince, by simpa using htrans, not_lt.mp hbefore⟩, hall, ?_⟩
    rw [earlier_eq_min, min_comm]
    exact (isLeast_earlier hleast).insert now
  · rintro ⟨h, hall, hleast⟩
    obtain ⟨observed, hloop⟩ := earliest_total
      (earlier o.observedAt o.nodeReadyHeartbeatTime) hall
    have hrest := (isLeast_earlier (earliest_ok hloop).2).insert now
    rw [min_comm, ← earlier_eq_min] at hrest
    rw [h.unchanged, hleast.unique hrest, if_neg (by simp [h.beats]),
      if_neg (by simp [h.observed, h.beaten]), if_neg (not_not.mpr h.status),
      if_neg (not_lt.mpr h.since), if_neg (by simp [h.transitioned]),
      if_neg (not_lt.mpr h.before), bind_ok]
    refine ⟨_, rfl, ?_⟩
    rw [if_neg (not_not.mpr rfl), hloop]
    rfl

end Success

/-- A Node whose Ready condition differs from another's by a later heartbeat. -/
def LaterHeartbeat (node node' : List NodeCondition) : Prop :=
  ∃ ready heartbeat, nodeReadyCondition node = some ready ∧
    nodeReadyCondition node' = some { ready with lastHeartbeatTime := heartbeat } ∧
    ready.lastHeartbeatTime ≤ heartbeat ∧ heartbeat.isZero = false

/-- The age is conservative: it is that of the oldest piece of evidence, all of
which still holds, and neither a newer heartbeat nor another order of the
required conditions makes it younger. -/
theorem health_evidence_conservative {hash : Except String String} {device : CiscoDevice}
    {node : List NodeCondition} {now t : Time} {types : List String}
    (h : managedDeviceHealthObservedAt hash device node now types = .ok t) :
    (∃ o ready, device.healthObservation = some o ∧ nodeReadyCondition node = some ready ∧
      IsLeast (times device o now types) t ∧ Agrees hash o ready ∧
      ∀ type ∈ types, ∃ p, ProducedAt device o type p) ∧
    (∀ node', LaterHeartbeat node node' →
      managedDeviceHealthObservedAt hash device node' now types = .ok t) ∧
    ∀ types', types.Perm types' →
      managedDeviceHealthObservedAt hash device node now types' = .ok t := by
  cases hsnap : device.healthObservation with
  | none => simp [managedDeviceHealthObservedAt, hsnap] at h
  | some o =>
  cases hready : nodeReadyCondition node with
  | none => simp [managedDeviceHealthObservedAt, hsnap, hready] at h
  | some ready =>
  obtain ⟨hagrees, hall, hleast⟩ := (managedDeviceHealthObservedAt_ok hsnap hready).mp h
  refine ⟨⟨o, ready, rfl, rfl, hleast, hagrees, hall⟩, ?later, ?order⟩
  case later =>
    rintro node' ⟨_, heartbeat, hold, hnew, hle, hbeat⟩
    cases hready.symm.trans hold
    refine (managedDeviceHealthObservedAt_ok hsnap hnew).mpr ⟨?_, hall, hleast⟩
    exact { hagrees with beats := hbeat, since := hagrees.since.trans hle }
  case order =>
    intro types' hperm
    have hsame : times device o now types' = times device o now types := by
      simp only [times, hperm.mem_iff]
    refine (managedDeviceHealthObservedAt_ok hsnap hready).mpr ⟨hagrees, ?_, hsame ▸ hleast⟩
    intro type htype
    exact hall type (hperm.mem_iff.mpr htype)

def leaf : CiscoDevice where
  conditions := [⟨"Reachable", .yes, 3⟩, ⟨"SoftwareHealthy", .yes, 3⟩]
  healthObservation := some
    ⟨50, 40, "sha256:aa", [⟨"Reachable", .yes, 3, 45⟩, ⟨"SoftwareHealthy", .yes, 3, 30⟩], by decide⟩

def leafNode : List NodeCondition := [⟨"DiskPressure", .no, 60, 10⟩, ⟨"Ready", .yes, 60, 20⟩]

theorem leaf_evidence_conservative : managedDeviceHealthObservedAt (.ok "sha256:aa") leaf leafNode
    100 ["SoftwareHealthy", "Reachable"] = .ok 30 := by
  have h : managedDeviceHealthObservedAt (.ok "sha256:aa") leaf leafNode 100
      ["Reachable", "SoftwareHealthy"] = .ok 30 := by rfl
  exact (health_evidence_conservative h).2.2 _ (List.Perm.swap _ _ _)

end VirtualKubelet.Rollout.HealthEvidence
