import VirtualKubelet.Proofs.LedgerStep

/-!
# What the checks of Reserve ask

`admissionError` is a run of guards over counts and sets. Each group of guards
is restated here as the inequalities it stands for, in both directions: the
budget argument needs what a passed check implies, and the comparison of two
admissions needs to rebuild the checks of one from those of the other.
-/

namespace VirtualKubelet.Rollout

open Go

@[simp] theorem firstError_overBudget :
    firstError (overBudget what n limit :: rest) = none ↔
      (n : Int) ≤ limit ∧ firstError rest = none := by
  simp [overBudget, firstError_cons]

section

variable {l : Ledger} {policy : Policy} {members : Map Member}
  {request : ReservationRequest}

/-- The target is in the fleet as requested, available, in the domains and risk
groups the request names, and its device is free. -/
structure TargetReady (l : Ledger) (policy : Policy) (request : ReservationRequest)
    (target : Member) : Prop where
  deviceUID : target.deviceUID = request.deviceUID
  nodeUID : target.nodeUID = request.nodeUID
  available : target.unavailable policy = false
  domains : policy.domainBudgets.Every fun key _ => domainCurrent request target key
  transferDomains :
    policy.domainTransferBudgets.Every fun key _ => domainCurrent request target key
  riskGroups : request.riskGroups = target.riskGroups
  free : l.reservations.Every fun _ r => r.physicalID ≠ request.physicalID

theorem targetError_none :
    targetError l policy members request = none ↔
      ∃ target, members.find request.physicalID = some target ∧
        TargetReady l policy request target := by
  simp only [targetError]
  split
  · next hnone => simp [hnone]
  rename_i target hsome
  simp only [hsome, firstError_cons, firstError_nil, Option.some.injEq, exists_eq_left']
  simp only [Bool.or_eq_false_iff, bne_eq_false_iff_eq, decide_eq_false_iff_not,
    not_or, not_not, and_true]
  constructor
  · rintro ⟨⟨h₁, h₂⟩, h₃, ⟨h₄, h₅⟩, h₆, h₇⟩
    exact ⟨h₁, h₂, h₃, h₄, h₅, h₆, h₇⟩
  · rintro ⟨h₁, h₂, h₃, h₄, h₅, h₆, h₇⟩
    exact ⟨⟨h₁, h₂⟩, h₃, ⟨h₄, h₅⟩, h₆, h₇⟩

theorem globalError_none :
    globalError l policy members request = none ↔
      (l.reservations.len : Int) < activeLimit policy ∧
      ((insert request.physicalID (unavailablePhysicalIDs members l policy "" "")).card : Int) ≤
          policy.globalMaxUnavailable ∧
      ((activeReservationsForCampaign l request.campaignUID + 1 : Nat) : Int) ≤
        effectiveLimit policy.globalMaxUnavailable request.campaignMaxUnavailable ∧
      ((l.reservations.len + 1 : Nat) : Int) ≤ policy.globalMaxConcurrentTransfers ∧
      ((activeReservationsForCampaign l request.campaignUID + 1 : Nat) : Int) ≤
        effectiveLimit policy.globalMaxConcurrentTransfers
          request.campaignMaxConcurrentTransfers := by
  simp only [globalError, firstError_cons, firstError_overBudget, firstError_nil,
    decide_eq_false_iff_not, not_le, and_true]

/-- The domain budgets of one key leave room for the request. -/
structure DomainRoom (l : Ledger) (policy : Policy) (members : Map Member)
    (request : ReservationRequest) (key : String) : Prop where
  unavailable : ∀ ceiling, policy.domainBudgets.find key = some ceiling →
    ((insert request.physicalID (unavailablePhysicalIDs members l policy key
      (request.domains.get "" key))).card : Int) ≤ ceiling
  campaignUnavailable : ∀ ceiling, policy.domainBudgets.find key = some ceiling →
    ((activeReservationsForCampaignInDomain l request.campaignUID key
      (request.domains.get "" key) + 1 : Nat) : Int) ≤
        effectiveLimit ceiling (request.campaignLimits.get 0 key)
  transfers : ∀ ceiling, policy.domainTransferBudgets.find key = some ceiling →
    ((activeReservationsInDomain l key (request.domains.get "" key) + 1 : Nat) : Int) ≤
      ceiling
  campaignTransfers : ∀ ceiling, policy.domainTransferBudgets.find key = some ceiling →
    ((activeReservationsForCampaignInDomain l request.campaignUID key
      (request.domains.get "" key) + 1 : Nat) : Int) ≤
        effectiveLimit ceiling (request.campaignTransferLimits.get 0 key)

theorem domainError_none :
    domainError l policy members request key = none ↔
      DomainRoom l policy members request key := by
  simp only [domainError, Option.or_eq_none_iff]
  constructor
  · rintro ⟨hu, ht⟩
    refine ⟨?_, ?_, ?_, ?_⟩ <;> intro ceiling hc
    · simp only [hc, firstError_overBudget, firstError_nil] at hu
      exact hu.1
    · simp only [hc, firstError_overBudget, firstError_nil] at hu
      exact hu.2.1
    · simp only [hc, firstError_overBudget, firstError_nil] at ht
      exact ht.1
    · simp only [hc, firstError_overBudget, firstError_nil] at ht
      exact ht.2.1
  · intro h
    constructor
    · cases hc : policy.domainBudgets.find key with
      | none => rfl
      | some ceiling =>
        simp only [firstError_overBudget, firstError_nil, and_true]
        exact ⟨h.unavailable ceiling hc, h.campaignUnavailable ceiling hc⟩
    · cases hc : policy.domainTransferBudgets.find key with
      | none => rfl
      | some ceiling =>
        simp only [firstError_overBudget, firstError_nil, and_true]
        exact ⟨h.transfers ceiling hc, h.campaignTransfers ceiling hc⟩

/-- A key without a budget passes by itself, so the loop over the budgeted keys
passes exactly when every key does. -/
theorem domainsError_none :
    domainsError l policy members request = none ↔
      ∀ key, DomainRoom l policy members request key := by
  simp only [domainsError]
  obtain ⟨failing, hfailing⟩ : ∃ f, f = (policy.domainBudgets.keysWhere (fun _ => True) ∪
    policy.domainTransferBudgets.keysWhere (fun _ => True)).filter (fun key =>
      (domainError l policy members request key).isSome = true) := ⟨_, rfl⟩
  rw [← hfailing]
  have hmem : ∀ key, ¬ DomainRoom l policy members request key → key ∈ failing := by
    intro key hroom
    rw [hfailing, Finset.mem_filter, Finset.mem_union, Map.mem_keysWhere, Map.mem_keysWhere]
    constructor
    · by_contra hnone
      rw [not_or] at hnone
      refine hroom ⟨?_, ?_, ?_, ?_⟩ <;> intro ceiling hc
      · exact absurd ⟨ceiling, hc, trivial⟩ hnone.1
      · exact absurd ⟨ceiling, hc, trivial⟩ hnone.1
      · exact absurd ⟨ceiling, hc, trivial⟩ hnone.2
      · exact absurd ⟨ceiling, hc, trivial⟩ hnone.2
    · rw [Option.isSome_iff_ne_none]
      exact fun h => hroom (domainError_none.mp h)
  cases hmin : failing.min with
  | top =>
    have hempty := Finset.min_eq_top.mp hmin
    refine iff_of_true rfl fun key => ?_
    by_contra hroom
    have hkey := hmem key hroom
    rw [hempty] at hkey
    exact absurd hkey (Finset.notMem_empty key)
  | coe key =>
    have hkey := Finset.mem_of_min hmin
    rw [hfailing, Finset.mem_filter] at hkey
    have hne : domainError l policy members request key ≠ none :=
      Option.isSome_iff_ne_none.mp hkey.2
    exact iff_of_false hne fun hall => hne (domainError_none.mpr (hall key))

/-- The budgets of one risk group exist and leave room for the request. -/
def RiskGroupRoom (l : Ledger) (policy : Policy) (members : Map Member)
    (request : ReservationRequest) (group : String) : Prop :=
  ∃ budget, policy.riskGroupBudgets.find group = some budget ∧
    ((insert request.physicalID
      (unavailablePhysicalIDsInRiskGroup members l policy group)).card : Int) ≤
        budget.maxUnavailable ∧
    ((activeReservationsInRiskGroup l group + 1 : Nat) : Int) ≤
      budget.maxConcurrentTransfers

theorem riskGroupError_none :
    riskGroupError l policy members request group = none ↔
      RiskGroupRoom l policy members request group := by
  simp only [riskGroupError, RiskGroupRoom]
  split
  · next hnone => simp [hnone]
  · rename_i budget hsome
    simp only [hsome, firstError_overBudget, firstError_nil, Option.some.injEq,
      exists_eq_left', and_true]

theorem admissionError_none :
    admissionError l policy members request = none ↔
      (∃ target, members.find request.physicalID = some target ∧
        TargetReady l policy request target) ∧
      globalError l policy members request = none ∧
      (∀ key, DomainRoom l policy members request key) ∧
      ∀ group ∈ request.riskGroups, RiskGroupRoom l policy members request group := by
  simp only [admissionError, Option.or_eq_none_iff, targetError_none, domainsError_none,
    List.findSome?_eq_none_iff, riskGroupError_none]

end

end VirtualKubelet.Rollout
