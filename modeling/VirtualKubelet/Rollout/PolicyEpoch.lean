import VirtualKubelet.Rollout.AdminPolicy
import VirtualKubelet.Machine

/-!
# Policy epochs

A rollout freezes the administrator policy it was approved under. When the
policy changes afterwards, the new limits may only tighten the rollout:
`reconcilePolicyEpoch` first records the pending epoch as a transition, fences
the work that has not been claimed, and publishes the epoch in a later call.

`freezePolicy` is in `iosxesoftwarerollout_controller.go`, the rest in
`iosxesoftwarerollout_execution.go`. `strictestPolicySnapshot` writes its
domain budgets through a slice it shares with its last argument; when the
argument is the stored transition, the caller therefore compares and publishes
the transition with the budgets already tightened in place.
-/

namespace VirtualKubelet.Rollout

open Go

structure DomainBudget where
  topologyKey : String
  maxConcurrentTransfers : Option Int
  maxUnavailable : Option Int
  deriving DecidableEq

structure PolicySnapshot where
  policyName : String
  policyNamespace : String
  uid : String
  resourceVersion : String
  semanticHash : String
  structuralHash : String
  maxTargets : Int
  maxConcurrentTransfers : Int
  maxUnavailable : Int
  domains : List DomainBudget
  healthFreshnessSeconds : Int
  ledgerNamespace : String
  ledgerName : String
  ledgerUID : String
  maxActiveReservations : Int
  maxLedgerSizeBytes : Int
  deriving DecidableEq

def int32 (n : Int) : Int := (n + 2 ^ 31) % 2 ^ 32 - 2 ^ 31

section

variable [Upstream] [Selectors] [PolicyDigests]

def freezePolicy (policy : ParsedAdminPolicy) : Except String PolicySnapshot :=
  let cfg := policy.config.1
  match adminPolicyHashes cfg with
  | .error e => .error ("hash administrator policy: " ++ e)
  | .ok (semanticHash, structuralHash) => .ok {
      policyName := policy.policyName
      policyNamespace := policy.policyNamespace
      uid := policy.policyUID
      resourceVersion := policy.resourceVersion
      semanticHash, structuralHash
      maxTargets := int32 cfg.maxCampaignTargets
      maxConcurrentTransfers := int32 cfg.globalMaxConcurrentTransfers
      maxUnavailable := int32 cfg.globalMaxUnavailable
      domains := cfg.domainKeys.sort.map fun key =>
        { topologyKey := key
          maxConcurrentTransfers := (cfg.domainMaxConcurrentTransfers.find key).map int32
          maxUnavailable := (cfg.domainMaxUnavailable.find key).map int32 }
      healthFreshnessSeconds := int32 cfg.healthFreshnessSeconds
      ledgerNamespace := policy.policyNamespace
      ledgerName := cfg.ledgerName
      ledgerUID := policy.ledgerUID
      maxActiveReservations := int32 cfg.maxActiveReservations
      maxLedgerSizeBytes := int32 cfg.maxLedgerBytes }

end

/-! ## The strictest of three snapshots -/

def minPositiveStep (minimum value : Int) : Int :=
  if value ≤ 0 then minimum
  else if minimum = 0 ∨ value < minimum then value else minimum

def minPositive (values : List Int) : Int := values.foldl minPositiveStep 0

def policyDomainsByKey (domains : List DomainBudget) : Map DomainBudget :=
  Map.indexBy (·.topologyKey) domains

/-- A budget is set in all of the snapshots or in none. The minimum of `int32`
values is one of them, so converting it back changes nothing. -/
def strictestOptionalLimit (prior approved current : Option Int) :
    Except String (Option Int) :=
  match prior, approved, current with
  | none, none, none => .ok none
  | some a, some b, some c => .ok (some (minPositive [a, b, c]))
  | _, _, _ => .error "budget presence changed"

def strictestDomain (previous frozen : Map DomainBudget) (domain : DomainBudget) :
    Except String DomainBudget :=
  let key := domain.topologyKey
  match previous.find key, frozen.find key with
  | some prior, some approved =>
    match strictestOptionalLimit prior.maxConcurrentTransfers
        approved.maxConcurrentTransfers domain.maxConcurrentTransfers with
    | .error e => .error ("transfer budget for \"" ++ key ++ "\": " ++ e)
    | .ok transfer =>
      match strictestOptionalLimit prior.maxUnavailable approved.maxUnavailable
          domain.maxUnavailable with
      | .error e => .error ("unavailable budget for \"" ++ key ++ "\": " ++ e)
      | .ok unavailable =>
        .ok { domain with maxConcurrentTransfers := transfer, maxUnavailable := unavailable }
  | _, _ => .error ("policy risk-domain \"" ++ key ++ "\" changed")

def strictestPolicySnapshot (previous frozen current : PolicySnapshot) :
    Except String PolicySnapshot :=
  if previous.uid ≠ frozen.uid ∨ current.uid ≠ frozen.uid ∨
      previous.ledgerUID ≠ frozen.ledgerUID ∨ current.ledgerUID ≠ frozen.ledgerUID then
    .error "policy or ledger identity changed"
  else
    let previousDomains := policyDomainsByKey previous.domains
    let frozenDomains := policyDomainsByKey frozen.domains
    let currentDomains := policyDomainsByKey current.domains
    if previousDomains.len ≠ frozenDomains.len ∨ currentDomains.len ≠ frozenDomains.len then
      .error "policy risk-domain set changed"
    else
      match current.domains.mapM (strictestDomain previousDomains frozenDomains) with
      | .error e => .error e
      | .ok domains =>
        let strictest (ceiling : PolicySnapshot → Int) :=
          minPositive [ceiling previous, ceiling frozen, ceiling current]
        .ok { current with
          maxTargets := strictest (·.maxTargets)
          maxConcurrentTransfers := strictest (·.maxConcurrentTransfers)
          maxUnavailable := strictest (·.maxUnavailable)
          healthFreshnessSeconds := strictest (·.healthFreshnessSeconds)
          maxActiveReservations := strictest (·.maxActiveReservations)
          maxLedgerSizeBytes := strictest (·.maxLedgerSizeBytes)
          domains }

/-! ## The epoch of a rollout -/

/-- The effective policy and the pending transition have the same shape. -/
structure PolicyEpoch where
  epoch : Int
  policy : PolicySnapshot
  deriving DecidableEq

/-- The two status fields that `reconcilePolicyEpoch` owns. -/
structure EpochStatus where
  effective : Option PolicyEpoch
  transition : Option PolicyEpoch
  deriving DecidableEq

/-- What the epochs read of the approved plan and of the spec. -/
structure EpochPlan where
  policy : PolicySnapshot
  targetCount : Nat
  maxTargets : Int

def maxRolloutTargets : Int := 100

/-- The target count the spec asks for, zero meaning the maximum. -/
def EpochPlan.requestedCap (plan : EpochPlan) : Int :=
  if plan.maxTargets = 0 then maxRolloutTargets else plan.maxTargets

/-- How a call ends: the rollout goes on in this reconcile, is queued again,
is fenced off by `reconcilePolicyChanged`, or the call failed. -/
inductive EpochVerdict
  | proceed
  | requeue
  | policyChanged
  | failed (error : String)
  deriving DecidableEq

/-- One call: the policy it was given, and whether the fences of the old epoch
and the patch of the status went through. -/
structure EpochCall [Upstream] [Selectors] where
  current : ParsedAdminPolicy
  fenced : Bool
  patched : Bool

section

variable [Upstream] [Selectors]

/-- The status as a patch leaves it; a failed one leaves it alone. -/
def EpochCall.patch (call : EpochCall) (st st' : EpochStatus) (failure : String) :
    EpochStatus × EpochVerdict :=
  if call.patched then (st', .requeue) else (st, .failed failure)

/-- The approved plan no longer fits the policy object, whatever the epoch. -/
def planInvalidated (plan : EpochPlan) (current : PolicySnapshot) : Bool :=
  let frozen := plan.policy
  frozen.uid != current.uid || frozen.policyName != current.policyName ||
  frozen.policyNamespace != current.policyNamespace ||
  frozen.ledgerUID != current.ledgerUID || frozen.ledgerName != current.ledgerName ||
  frozen.ledgerNamespace != current.ledgerNamespace ||
  frozen.structuralHash == "" || current.structuralHash != frozen.structuralHash ||
  decide (minPositive [plan.requestedCap, current.maxTargets, maxRolloutTargets] < plan.targetCount)

def publishTransition (plan : EpochPlan) (st : EpochStatus) (effective transition : PolicyEpoch)
    (call : EpochCall) : EpochStatus × EpochVerdict :=
  if transition.epoch ≠ effective.epoch + 1 ∨ transition.policy.uid ≠ effective.policy.uid ∨
      transition.policy.ledgerUID ≠ effective.policy.ledgerUID ∨
      transition.policy.structuralHash ≠ effective.policy.structuralHash then
    (st, .failed "persisted policy transition identity is invalid")
  else
    match strictestPolicySnapshot effective.policy plan.policy transition.policy with
    | .error _ => (st, .failed "persisted policy transition weakens an effective ceiling")
    | .ok strictest =>
      -- The domain budgets of the transition were tightened in place.
      let pending := { transition.policy with domains := strictest.domains }
      if strictest ≠ pending then
        (st, .failed "persisted policy transition weakens an effective ceiling")
      else if !call.fenced then (st, .failed "fence the previous policy epoch")
      else
        call.patch st ⟨some ⟨transition.epoch, pending⟩, none⟩ "publish effective policy epoch"

def followPolicy (plan : EpochPlan) (st : EpochStatus) (effective : PolicyEpoch)
    (current : PolicySnapshot) (call : EpochCall) : EpochStatus × EpochVerdict :=
  if current.semanticHash = effective.policy.semanticHash then
    if current.resourceVersion = effective.policy.resourceVersion then (st, .proceed)
    else
      -- Metadata-only churn changes no admission semantics.
      let policy := { effective.policy with resourceVersion := current.resourceVersion }
      call.patch st { st with effective := some ⟨effective.epoch, policy⟩ }
        "record metadata-only policy update"
  else
    match strictestPolicySnapshot effective.policy plan.policy current with
    | .error _ => (st, .policyChanged)
    | .ok next =>
      if next.maxTargets < plan.targetCount then (st, .policyChanged)
      else
        call.patch st { st with transition := some ⟨effective.epoch + 1, next⟩ }
          "start administrator policy transition"

def reconcilePolicyEpoch [PolicyDigests] (plan : EpochPlan) (st : EpochStatus)
    (call : EpochCall) : EpochStatus × EpochVerdict :=
  match freezePolicy call.current with
  | .error e => (st, .failed e)
  | .ok current =>
    if planInvalidated plan current then (st, .policyChanged)
    else
      match st.effective with
      | none =>
        -- Plans from before epochs were recorded, while their policy is still there.
        if plan.policy.resourceVersion ≠ current.resourceVersion ∨
            plan.policy.semanticHash = "" then (st, .policyChanged)
        else
          call.patch st { st with effective := some ⟨1, plan.policy⟩ }
            "recover rollout effective policy epoch"
      | some effective =>
        if effective.epoch < 1 ∨ effective.policy.uid ≠ plan.policy.uid ∨
            effective.policy.ledgerUID ≠ plan.policy.ledgerUID ∨
            effective.policy.structuralHash ≠ plan.policy.structuralHash then
          (st, .failed "published effective policy epoch is invalid")
        else
          match st.transition with
          | some transition => publishTransition plan st effective transition call
          | none => followPolicy plan st effective current call

/-! ## Runs -/

/-- A status with two history variables: the administrator snapshots from
which the pending and the effective policy were computed. -/
structure EpochRun where
  status : EpochStatus
  pendingFrom : PolicySnapshot
  effectiveFrom : PolicySnapshot

def EpochRun.step [PolicyDigests] (plan : EpochPlan) (r : EpochRun) (call : EpochCall) :
    EpochRun :=
  let status := (reconcilePolicyEpoch plan r.status call).1
  match r.status.transition, status.transition with
  | none, some _ =>
    { r with status, pendingFrom := (freezePolicy call.current).toOption.getD r.pendingFrom }
  | some _, none => { r with status, effectiveFrom := r.pendingFrom }
  | _, _ => { r with status }

/-- A freshly approved plan publishes its own policy as the first epoch; one
from before epochs were recorded has published nothing. -/
def EpochRun.start (frozen : PolicySnapshot) (recorded : Bool) : EpochRun :=
  ⟨⟨if recorded then some ⟨1, frozen⟩ else none, none⟩, frozen, frozen⟩

def EpochRun.run [PolicyDigests] (plan : EpochPlan) (r : EpochRun) (calls : List EpochCall) :
    EpochRun :=
  Machine.run (EpochRun.step plan) r calls

end

end VirtualKubelet.Rollout
