import VirtualKubelet.Proofs.LedgerStep

/-!
# What validatePersistedLedger accepts

The validator restated as a property of the ledger. A record's part of it
falls into four pieces that the transitions touch differently: the request
fields, which none of them writes; the drain fields; what the state asks of the
child and of the drain fields; and the range of the control revision.
-/

namespace VirtualKubelet.Rollout

open Go

variable [Upstream]

/-! ## Risk groups -/

theorem riskGroupsError_none :
    ∀ {previous : Option String}, riskGroupsError previous groups = none ↔
      (∀ g ∈ groups, Upstream.isDNS1123Label g = []) ∧
      (∀ p, previous = some p → ∀ g ∈ groups, p < g) ∧ groups.Pairwise (· < ·) := by
  induction groups with
  | nil => intro previous; simp [riskGroupsError]
  | cons group rest ih =>
    intro previous
    rw [riskGroupsError]
    split
    · rename_i hlabel
      refine iff_of_false (by simp) fun h => hlabel (h.1 group (by simp))
    rename_i hlabel
    rw [not_not] at hlabel
    split
    · rename_i hprev
      refine iff_of_false (by simp) fun h => ?_
      rw [Option.any_eq_true] at hprev
      obtain ⟨p, hp, hle⟩ := hprev
      exact absurd (of_decide_eq_true hle)
        (not_le_of_gt (h.2.1 p hp group (by simp)))
    · rename_i hprev
      have hlt : ∀ p, previous = some p → p < group := by
        intro p hp
        refine lt_of_not_ge fun hle => hprev ?_
        rw [Option.any_eq_true]
        exact ⟨p, hp, decide_eq_true hle⟩
      rw [ih, List.forall_mem_cons, List.pairwise_cons]
      constructor
      · rintro ⟨hl, hg, hpair⟩
        refine ⟨⟨hlabel, hl⟩, fun p hp g hgmem => ?_, hg group rfl, hpair⟩
        rcases List.mem_cons.mp hgmem with rfl | hmem
        · exact hlt p hp
        · exact lt_trans (hlt p hp) (hg group rfl g hmem)
      · rintro ⟨⟨_, hl⟩, _, hg, hpair⟩
        refine ⟨hl, fun p hp => ?_, hpair⟩
        cases hp
        exact hg

theorem validateRiskGroupNames_none :
    validateRiskGroupNames groups = none ↔
      groups.length ≤ 16 ∧ (∀ g ∈ groups, Upstream.isDNS1123Label g = []) ∧
        groups.Pairwise (· < ·) := by
  rw [validateRiskGroupNames]
  split
  · next hlen => exact iff_of_false (by simp) fun h => absurd h.1 (by omega)
  rename_i hlen
  rw [riskGroupsError_none]
  constructor
  · rintro ⟨hl, _, hpair⟩
    exact ⟨by omega, hl, hpair⟩
  · rintro ⟨_, hl, hpair⟩
    refine ⟨hl, fun p hp => ?_, hpair⟩
    cases hp

/-! ## One record -/

/-- The drain fields carry a session, its start and, when it is set, a
completion that does not precede the start. -/
structure DrainProvenance (r : Reservation) : Prop where
  token : validDrainSessionToken r.drainSessionToken = true
  times : ∃ startedAt, parseCanonicalLedgerTime r.drainStartedAt = some startedAt ∧
    (r.drainCompletedAt = "" ∨ ∃ completedAt,
      parseCanonicalLedgerTime r.drainCompletedAt = some completedAt ∧ startedAt ≤ completedAt)

theorem drainProvenanceError_none : drainProvenanceError r = none ↔ DrainProvenance r := by
  rw [drainProvenanceError]
  split
  · rename_i htoken
    exact iff_of_false (by simp) fun h => absurd h.token (by simpa using htoken)
  rename_i htoken
  have htok : validDrainSessionToken r.drainSessionToken = true := by
    simpa using htoken
  cases hs : parseCanonicalLedgerTime r.drainStartedAt with
  | none =>
    refine iff_of_false (by simp) fun h => ?_
    obtain ⟨s, hs', _⟩ := h.times
    rw [hs] at hs'
    cases hs'
  | some startedAt =>
    simp only []
    split
    · rename_i hempty
      exact iff_of_true rfl ⟨htok, startedAt, hs, .inl (by simpa using hempty)⟩
    rename_i hempty
    have hne : r.drainCompletedAt ≠ "" := by simpa using hempty
    cases hc : parseCanonicalLedgerTime r.drainCompletedAt with
    | none =>
      refine iff_of_false (by simp) fun h => ?_
      obtain ⟨_, _, hor⟩ := h.times
      rcases hor with he | ⟨c, hc', _⟩
      · exact hne he
      · rw [hc] at hc'; cases hc'
    | some completedAt =>
      simp only []
      split
      · rename_i hlt
        refine iff_of_false (by simp) fun h => ?_
        obtain ⟨s, hs', hor⟩ := h.times
        rw [hs] at hs'
        cases hs'
        rcases hor with he | ⟨c, hc', hle⟩
        · exact hne he
        · rw [hc] at hc'
          cases hc'
          exact absurd hlt (not_lt_of_ge hle)
      · rename_i hlt
        exact iff_of_true rfl ⟨htok, startedAt, hs,
          .inr ⟨completedAt, hc, le_of_not_gt hlt⟩⟩

def StateFits (r : Reservation) : Prop :=
  match r.state with
  | .reserved => r.childUID = "" ∧ r.hasDrainProvenance = false
  | .bound => validBoundedIdentity r.childUID 128 = true ∧ r.hasDrainProvenance = false
  | .draining => validBoundedIdentity r.childUID 128 = true ∧
      r.hasDrainProvenance = true ∧ r.drainCompletedAt = ""
  | .granted => validBoundedIdentity r.childUID 128 = true ∧
      (r.hasDrainProvenance = true → r.drainCompletedAt ≠ "")
  | .revoked => validBoundedIdentity r.childUID 128 = true
  | .unknown _ => False

omit [Upstream] in
theorem stateError_none : stateError r = none ↔ StateFits r := by
  simp only [stateError, StateFits]
  cases r.state with
  | reserved | bound => simp
  | draining => simp [and_assoc]
  | granted | revoked | unknown name => simp

structure RecordValid (r : Reservation) : Prop where
  request : requestError r = none
  riskGroups : validateRiskGroupNames r.riskGroups = none
  drain : r.hasDrainProvenance = true → DrainProvenance r
  state : StateFits r
  revision : r.controlRevision ≤ 2 ^ 63 - 1

theorem validatePersistedReservation_none :
    validatePersistedReservation r = none ↔ RecordValid r := by
  simp only [validatePersistedReservation, Option.or_eq_none_iff, stateError_none]
  constructor
  · rintro ⟨hreq, hgroups, hdrain, hstate, hrev⟩
    refine ⟨hreq, hgroups, fun hp => ?_, hstate, ?_⟩
    · rw [if_pos hp] at hdrain
      exact drainProvenanceError_none.mp hdrain
    · by_contra hgt
      rw [if_pos (by omega)] at hrev
      cases hrev
  · rintro ⟨hreq, hgroups, hdrain, hstate, hrev⟩
    refine ⟨hreq, hgroups, ?_, hstate, if_neg (by omega)⟩
    split
    · next hp => exact drainProvenanceError_none.mpr (hdrain hp)
    · rfl

/-! ## The ledger -/

/-- A fence names an acquisition, and a drain session and a child or neither. -/
structure FenceValid (f : ReleaseFence) : Prop where
  names : FenceNames f.reservationID f.policyEpoch f.topologyLockID
  drain : (f.drainSessionToken = "" ∧ f.drainChildUID = "") ∨
    (validDrainSessionToken f.drainSessionToken = true ∧
      validBoundedIdentity f.drainChildUID 128 = true)

theorem not_validDrainSessionToken_empty : validDrainSessionToken "" = false := by
  simp only [validDrainSessionToken, Upstream.uuidParse_empty]

theorem fenceError_none : fenceError f = none ↔ FenceValid f := by
  have hempty : validBoundedIdentity "" 128 = false := by decide
  simp only [fenceError, firstError_cons, firstError_nil, and_true]
  constructor
  · rintro ⟨hnames, hdrain⟩
    refine ⟨by simpa [FenceNames, and_assoc] using hnames, ?_⟩
    by_cases ht : f.drainSessionToken = ""
    · by_cases hc : f.drainChildUID = ""
      · exact .inl ⟨ht, hc⟩
      · simp [ht, hc] at hdrain
    · simp only [Bool.or_eq_false_iff, Bool.and_eq_false_iff] at hdrain
      rcases hdrain.2 with h | h
      · exact absurd h (by simpa using ht)
      · exact .inr (by simpa using h)
  · rintro ⟨hnames, hdrain⟩
    refine ⟨by simpa [FenceNames, and_assoc] using hnames, ?_⟩
    rcases hdrain with ⟨ht, hc⟩ | ⟨ht, hc⟩
    · simp [ht, hc]
    have hne : f.drainSessionToken ≠ "" := by
      intro he
      rw [he, not_validDrainSessionToken_empty] at ht
      cases ht
    have hne' : f.drainChildUID ≠ "" := by
      intro he
      rw [he, hempty] at hc
      cases hc
    simp [ht, hc, hne, hne']

structure Valid (l : Ledger) : Prop where
  version : l.version = ledgerVersion
  uid : validBoundedIdentity l.uid 128 = true
  size : l.reservations.len ≤ defaultMaxActiveRecords
  fence : ∀ f, l.lastReleaseFence = some f → FenceValid f
  keys : l.reservations.Every fun key r => key ≠ "" ∧ key = r.id
  records : l.reservations.Every fun _ r => RecordValid r
  physicalIDs : l.reservations.Distinct (fun _ => True) (·.physicalID)
  deviceUIDs : l.reservations.Distinct (fun _ => True) (·.deviceUID)
  nodeUIDs : l.reservations.Distinct (fun _ => True) (·.nodeUID)
  children : l.reservations.Distinct (fun _ => True) Reservation.childKey
  childUIDs : l.reservations.Distinct (·.childUID ≠ "") (·.childUID)

theorem validatePersistedLedger_none : validatePersistedLedger l = none ↔ Valid l := by
  simp only [validatePersistedLedger, Option.or_eq_none_iff, firstError_cons,
    firstError_nil, and_true, Bool.or_eq_false_iff, bne_eq_false_iff_eq,
    Bool.not_eq_false', decide_eq_false_iff_not, not_lt, not_not,
    Option.bind_eq_none_iff, fenceError_none, validatePersistedReservation_none]
  constructor
  · rintro ⟨⟨⟨h₁, h₂⟩, h₃⟩, h₄, h₅, h₆, h₇, h₈, h₉, h₁₀, h₁₁⟩
    exact ⟨h₁, h₂, h₃, h₄, h₅, h₆, h₇, h₈, h₉, h₁₀, h₁₁⟩
  · rintro ⟨h₁, h₂, h₃, h₄, h₅, h₆, h₇, h₈, h₉, h₁₀, h₁₁⟩
    exact ⟨⟨⟨h₁, h₂⟩, h₃⟩, h₄, h₅, h₆, h₇, h₈, h₉, h₁₀, h₁₁⟩

theorem Valid.of_sub {l l' : Ledger} (hl : Valid l) (hversion : l'.version = l.version)
    (huid : l'.uid = l.uid) (hsub : l'.reservations.Sub l.reservations)
    (hfence : ∀ f, l'.lastReleaseFence = some f → FenceValid f) : Valid l' where
  version := hversion.trans hl.version
  uid := by
    rw [huid]
    exact hl.uid
  size := le_trans (Map.sub_len_le hsub) hl.size
  fence := hfence
  keys := Map.every_of_sub hsub hl.keys
  records := Map.every_of_sub hsub hl.records
  physicalIDs := Map.distinct_of_sub hsub hl.physicalIDs
  deviceUIDs := Map.distinct_of_sub hsub hl.deviceUIDs
  nodeUIDs := Map.distinct_of_sub hsub hl.nodeUIDs
  children := Map.distinct_of_sub hsub hl.children
  childUIDs := Map.distinct_of_sub hsub hl.childUIDs

end VirtualKubelet.Rollout
