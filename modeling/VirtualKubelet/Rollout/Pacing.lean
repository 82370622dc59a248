import Mathlib.Data.List.Sort
import VirtualKubelet.Rollout.AdminPolicy
import VirtualKubelet.Rollout.Transition

/-!
# Risk groups and transfer pacing

`internal/topologyrollout/policy.go`: what a parsed policy makes of the labels
of a device, the risk groups it belongs to and the byte rate at which an image
may be sent to it, and the budgets it hands to `Reserve`.

A reservation does not keep the labels it was made for. `Tracked` keeps them
beside the ledger.
-/

namespace VirtualKubelet.Rollout

open Go

def LabelSelectorRequirement.matches (r : LabelSelectorRequirement) (labels : Map String) : Bool :=
  match r.operator with
  | "In" => (labels.find r.key).any r.values.contains
  | "NotIn" => (labels.find r.key).all (!r.values.contains ·)
  | "Exists" => (labels.find r.key).isSome
  | "DoesNotExist" => (labels.find r.key).isNone
  | _ => false

/-- The selector that `LabelSelectorAsSelector` makes accepts the labels. -/
def LabelSelector.matches (s : LabelSelector) (labels : Map String) : Bool :=
  decide (s.matchLabels.Every fun key value => labels.find key = some value) &&
    s.matchExpressions.all (·.matches labels)

section

variable [Upstream] [Selectors]

def selectorInvalid (group : AdminRiskGroup) (e : String) : String :=
  "risk group \"" ++ group.name ++ "\" selector is invalid: " ++ e

def matchingGroups (labels : Map String) : List AdminRiskGroup → List String →
    Except String (List String)
  | [], groups => .ok groups
  | group :: rest, groups =>
    match Selectors.asSelectorError group.selector with
    | some e => .error (selectorInvalid group e)
    | none =>
      if group.selector.matches labels then matchingGroups labels rest (groups ++ [group.name])
      else matchingGroups labels rest groups

/-- The part of the ceiling that one transfer may use. -/
def AdminRiskGroup.share (group : AdminRiskGroup) : Int :=
  group.maxAggregateTransferBytesPerSecond.tdiv group.maxConcurrentTransfers

def smallestShare (labels : Map String) : List AdminRiskGroup → Int → Except String Int
  | [], effective => .ok effective
  | group :: rest, effective =>
    if group.maxAggregateTransferBytesPerSecond = 0 then smallestShare labels rest effective
    else
      match Selectors.asSelectorError group.selector with
      | some e => .error (selectorInvalid group e)
      | none =>
        if !group.selector.matches labels then smallestShare labels rest effective
        else if effective = 0 ∨ group.share < effective then smallestShare labels rest group.share
        else smallestShare labels rest effective

namespace ParsedAdminPolicy

variable (p : ParsedAdminPolicy)

def riskGroupBudgets : Map RiskGroupBudget :=
  p.config.1.riskGroups.foldl (fun out group =>
    out.set group.name ⟨group.maxConcurrentTransfers, group.maxUnavailable⟩) ∅

def admissionPolicy (now : Time) : Policy where
  uid := p.policyUID
  version := p.resourceVersion
  epoch := 1
  globalMaxConcurrentTransfers := p.config.1.globalMaxConcurrentTransfers
  globalMaxUnavailable := p.config.1.globalMaxUnavailable
  domainTransferBudgets := p.config.1.domainMaxConcurrentTransfers
  domainBudgets := p.config.1.domainMaxUnavailable
  riskGroupBudgets := p.riskGroupBudgets
  maxActiveRecords := p.config.1.maxActiveReservations
  maxSerializedBytes := p.config.1.maxLedgerBytes
  requiredHealthFreshBy := now - 1000000000 * p.config.1.healthFreshnessSeconds

def riskGroups (labels : Map String) : Except String (List String) :=
  match validateRiskGroups p.config.1 with
  | some e => .error e
  | none =>
    match matchingGroups labels p.config.1.riskGroups [] with
    | .error e => .error e
    | .ok groups => .ok (groups.insertionSort (· ≤ ·))

def maxTransferBytesPerSecond (labels : Map String) : Except String Int :=
  match validateRiskGroups p.config.1 with
  | some e => .error e
  | none => smallestShare labels p.config.1.riskGroups 0

end ParsedAdminPolicy

end

/-! ## The labels of the reservations -/

/-- The ledger, and for every reservation the labels its target had when it was
made. -/
structure Tracked where
  ledger : Ledger
  labels : Map (Map String)

/-- A call, with the labels of the target if it is a `Reserve`. -/
abbrev TrackedCall := Op × Map String

variable [Upstream]

def Tracked.step (s : Tracked) (c : TrackedCall) : Tracked where
  ledger := Rollout.step s.ledger c.1
  labels :=
    match c.1 with
    | .reserve _ _ request =>
      if (s.ledger.find request.id).isNone then s.labels.set request.id c.2 else s.labels
    | _ => s.labels

def Tracked.run (s : Tracked) (calls : List TrackedCall) : Tracked :=
  Machine.run Tracked.step s calls

variable [Selectors]

def transferRates (p : ParsedAdminPolicy) (s : Tracked) (group : String) : Multiset Int :=
  (s.ledger.reservations.entries.filter fun e => group ∈ e.2.riskGroups).map fun e =>
    (p.maxTransferBytesPerSecond (s.labels.get ∅ e.1)).toOption.getD 0

end VirtualKubelet.Rollout
