import Mathlib.Data.Finset.Max
import VirtualKubelet.Rollout.Ledger

/-!
# Reserve

The admission decision of `internal/topologyrollout/ledger.go`: every
dimension of the administrator budget and of the campaign's own limits is
checked against one snapshot of the ledger and of the fleet, and the record is
written only when all of them pass. The last two checks, validity and encoded
size, are made after the record is in the map and take it out again when they
fail, so the transition functions return the ledger they leave behind next to
their error.
-/

namespace VirtualKubelet.Rollout

open Go

/-- What a call leaves: its error, and the ledger it was given a pointer to. -/
structure Outcome where
  err : Option LedgerError
  ledger : Ledger

namespace Outcome

def done (l : Ledger) : Outcome := ⟨none, l⟩

def fail (l : Ledger) (e : LedgerError) : Outcome := ⟨some e, l⟩

/-- `if err := first; err != nil { return err }`, then the rest. -/
def andThen (first : Outcome) (rest : Ledger → Outcome) : Outcome :=
  match first.err with
  | some e => ⟨some e, first.ledger⟩
  | none => rest first.ledger

end Outcome

def releaseFenceMatches (fence : Option ReleaseFence) (reservationID : String)
    (policyEpoch : Int) (topologyLockID : String) : Bool :=
  match fence with
  | none => false
  | some f => f.reservationID == reservationID && f.policyEpoch == policyEpoch &&
      f.topologyLockID == topologyLockID

def hasReleaseFence (l : Ledger) (reservationID : String) (policyEpoch : Int)
    (topologyLockID : String) : Bool :=
  releaseFenceMatches l.lastReleaseFence reservationID policyEpoch topologyLockID

/-! ## Fleet members -/

/-- Equal lengths and, for every entry of `a`, the same value in `b`, where a
key missing from `b` reads as the empty string. -/
def equalStringMap (a b : Map String) : Bool :=
  a.len == b.len && decide (a.Every fun key value => b.get "" key = value)

def sameMembership (previous m : Member) : Bool :=
  previous.deviceUID == m.deviceUID && previous.nodeUID == m.nodeUID &&
    equalStringMap previous.domains m.domains && previous.riskGroups == m.riskGroups

/-- A duplicate observation never makes health more optimistic. -/
def mergeHealth (previous m : Member) : Member :=
  { previous with
    healthKnown := previous.healthKnown && m.healthKnown
    healthy := previous.healthy && m.healthy
    maintenance := previous.maintenance || m.maintenance
    healthObserved :=
      if m.healthObserved < previous.healthObserved then m.healthObserved
      else previous.healthObserved }

section

variable [Upstream]

def canonicalizeFrom : Map Member → List Member → Except LedgerError (Map Member)
  | out, [] => .ok out
  | out, m :: rest =>
    if m.physicalID == "" || m.deviceUID == "" || m.nodeUID == "" then
      .error (plainError "fleet member has incomplete identity")
    else
      match validateRiskGroupNames m.riskGroups with
      | some e => .error (plainError s!"fleet member {m.physicalID}: {e}")
      | none =>
        match out.find m.physicalID with
        | some previous =>
          if sameMembership previous m then
            canonicalizeFrom (out.set m.physicalID (mergeHealth previous m)) rest
          else
            .error (plainError
              s!"duplicate physical identity {m.physicalID} has conflicting membership")
        | none => canonicalizeFrom (out.set m.physicalID m) rest

def canonicalizeMembers (members : List Member) : Except LedgerError (Map Member) :=
  canonicalizeFrom ∅ members

end

/-! ## Counting -/

def activeReservationsInRiskGroup (l : Ledger) (group : String) : Nat :=
  l.reservations.count fun r => containsSorted r.riskGroups group = true

def activeReservationsInDomain (l : Ledger) (key value : String) : Nat :=
  l.reservations.count fun r => r.domains.get "" key = value

def activeReservationsForCampaign (l : Ledger) (campaignUID : String) : Nat :=
  l.reservations.count fun r => r.campaignUID = campaignUID

def activeReservationsForCampaignInDomain (l : Ledger)
    (campaignUID key value : String) : Nat :=
  l.reservations.count fun r => r.campaignUID = campaignUID ∧ r.domains.get "" key = value

/-- The physical devices that count as unavailable where `inScope` says the
budget looks: unhealthy members, and every reservation. -/
def unavailableWhere (memberIn : Member → Bool) (reservationIn : Reservation → Bool)
    (members : Map Member) (l : Ledger) (policy : Policy) : Finset String :=
  members.keysWhere (fun m => memberIn m = true ∧ m.unavailable policy = true) ∪
    l.reservations.collect (fun r => reservationIn r = true) (·.physicalID)

/-- The empty key means the whole fleet. -/
def inDomain (key value : String) (domains : Map String) : Bool :=
  key == "" || domains.get "" key == value

def unavailablePhysicalIDs (members : Map Member) (l : Ledger) (policy : Policy)
    (key value : String) : Finset String :=
  unavailableWhere (fun m => inDomain key value m.domains)
    (fun r => inDomain key value r.domains) members l policy

def unavailablePhysicalIDsInRiskGroup (members : Map Member) (l : Ledger)
    (policy : Policy) (group : String) : Finset String :=
  unavailableWhere (fun m => containsSorted m.riskGroups group)
    (fun r => containsSorted r.riskGroups group) members l policy

def effectiveLimit (admin campaign : Int) : Int :=
  if 0 < campaign ∧ campaign < admin then campaign else admin

/-! ## The checks of one admission -/

def requiredTexts (request : ReservationRequest) : List (String × String) :=
  [("reservation ID", request.id), ("campaign UID", request.campaignUID),
    ("plan hash", request.planHash), ("physical ID", request.physicalID),
    ("device UID", request.deviceUID), ("node UID", request.nodeUID),
    ("child namespace", request.childNamespace), ("child name", request.childName)]

def validateInputs [Upstream] (l : Ledger) (policy : Policy)
    (request : ReservationRequest) : Option LedgerError :=
  (firstError [(l.version != ledgerVersion || l.uid == "",
      Sentinel.ledgerIdentity.bare),
    (policy.uid == "" || policy.version == "" || decide (policy.epoch < 1) ||
        request.policyUID != policy.uid || request.policyVersion != policy.version ||
        request.policyEpoch != policy.epoch,
      Sentinel.ledgerIdentity.wrap "policy identity changed"),
    (!validTopologyLockID request.topologyLockID,
      Sentinel.ledgerIdentity.wrap "topology lock acquisition identity is invalid"),
    (decide (policy.globalMaxConcurrentTransfers < 1) ||
        decide (policy.globalMaxUnavailable < 1),
      plainError "administrator global transfer and unavailable budgets must be positive")]).or <|
  ((validateRiskGroupNames request.riskGroups).map plainError).or <|
  firstError ([(decide (16 < policy.riskGroupBudgets.len),
      plainError "administrator risk-group budgets exceed 16 entries"),
    (decide (¬ policy.riskGroupBudgets.Every fun name _ =>
        Upstream.isDNS1123Label name = []),
      plainError "administrator risk group is invalid"),
    (decide (¬ policy.riskGroupBudgets.Every fun _ budget =>
        1 ≤ budget.maxConcurrentTransfers ∧ 1 ≤ budget.maxUnavailable),
      plainError "administrator risk group budgets must be positive")] ++
    (requiredTexts request).map (fun (name, value) =>
      (blank value, plainError s!"{name} is required")) ++
    [(decide (¬ policy.domainBudgets.Every fun key _ => request.domains.get "" key ≠ ""),
      plainError "reservation domain is required"),
     (decide (¬ policy.domainTransferBudgets.Every fun key _ =>
        request.domains.get "" key ≠ ""), plainError "reservation transfer domain is required")])

/-- The domain is named, and the target still lies where the request says. -/
def domainCurrent (request : ReservationRequest) (target : Member) (key : String) : Prop :=
  request.domains.get "" key ≠ "" ∧
    request.domains.get "" key = target.domains.get "" key

instance {request : ReservationRequest} {target : Member} {key : String} :
    Decidable (domainCurrent request target key) :=
  inferInstanceAs (Decidable (_ ∧ _))

/-- Identity, health and membership of the target, and that no record holds
its physical device. -/
def targetError (l : Ledger) (policy : Policy) (members : Map Member)
    (request : ReservationRequest) : Option LedgerError :=
  match members.find request.physicalID with
  | none => some (Sentinel.targetUnavailable.wrap "target identity is absent or changed")
  | some target =>
    firstError
      [(target.deviceUID != request.deviceUID || target.nodeUID != request.nodeUID,
        Sentinel.targetUnavailable.wrap "target identity is absent or changed"),
       (target.unavailable policy, Sentinel.targetUnavailable.bare),
       (decide (¬ (policy.domainBudgets.Every fun key _ =>
            domainCurrent request target key) ∨
          ¬ (policy.domainTransferBudgets.Every fun key _ =>
            domainCurrent request target key)),
        plainError "invalid or stale domain for target"),
       (request.riskGroups != target.riskGroups,
        plainError "invalid or stale risk-group membership for target"),
       (decide (¬ l.reservations.Every fun _ r => r.physicalID ≠ request.physicalID),
        Sentinel.alreadyReserved.wrap "a reservation holds the device")]

def activeLimit (policy : Policy) : Int :=
  if policy.maxActiveRecords ≤ 0 then defaultMaxActiveRecords else policy.maxActiveRecords

/-- The guard `n > limit` with its `ErrBudgetExceeded`. -/
def overBudget (what : String) (n : Nat) (limit : Int) : Bool × LedgerError :=
  (decide (limit < n), Sentinel.budgetExceeded.wrap s!"{what}={n} limit={limit}")

def globalError (l : Ledger) (policy : Policy) (members : Map Member)
    (request : ReservationRequest) : Option LedgerError :=
  let unavailable :=
    insert request.physicalID (unavailablePhysicalIDs members l policy "" "")
  let campaign := activeReservationsForCampaign l request.campaignUID + 1
  firstError
    [(decide (activeLimit policy ≤ l.reservations.len),
      Sentinel.ledgerFull.wrap s!"active records reached {activeLimit policy}"),
     overBudget "administrator global unavailable" unavailable.card
      policy.globalMaxUnavailable,
     overBudget "campaign unavailable" campaign
      (effectiveLimit policy.globalMaxUnavailable request.campaignMaxUnavailable),
     overBudget "administrator global transfers" (l.reservations.len + 1)
      policy.globalMaxConcurrentTransfers,
     overBudget "campaign transfers" campaign
      (effectiveLimit policy.globalMaxConcurrentTransfers request.campaignMaxConcurrentTransfers)]

/-- The body of the loop over the budgeted domain keys. -/
def domainError (l : Ledger) (policy : Policy) (members : Map Member)
    (request : ReservationRequest) (key : String) : Option LedgerError :=
  let value := request.domains.get "" key
  let unavailable :=
    insert request.physicalID (unavailablePhysicalIDs members l policy key value)
  let campaign := activeReservationsForCampaignInDomain l request.campaignUID key value + 1
  (match policy.domainBudgets.find key with
    | none => none
    | some ceiling => firstError
      [overBudget s!"administrator {key}={value} unavailable" unavailable.card ceiling,
       overBudget s!"campaign {key}={value} unavailable" campaign
        (effectiveLimit ceiling (request.campaignLimits.get 0 key))]).or <|
  match policy.domainTransferBudgets.find key with
    | none => none
    | some ceiling => firstError
      [overBudget s!"administrator {key}={value} transfers"
        (activeReservationsInDomain l key value + 1) ceiling,
       overBudget s!"campaign {key}={value} transfers" campaign
        (effectiveLimit ceiling (request.campaignTransferLimits.get 0 key))]

/-- The loop visits the keys in sorted order, so the error is the one of the
least key that fails. -/
def domainsError (l : Ledger) (policy : Policy) (members : Map Member)
    (request : ReservationRequest) : Option LedgerError :=
  let keys := policy.domainBudgets.keysWhere (fun _ => True) ∪
    policy.domainTransferBudgets.keysWhere (fun _ => True)
  let failing := keys.filter fun key =>
    (domainError l policy members request key).isSome = true
  Option.bind failing.min (domainError l policy members request)

def riskGroupError (l : Ledger) (policy : Policy) (members : Map Member)
    (request : ReservationRequest) (group : String) : Option LedgerError :=
  match policy.riskGroupBudgets.find group with
  | none => some (plainError s!"target references unknown risk group {group}")
  | some budget =>
    let unavailable := insert request.physicalID
      (unavailablePhysicalIDsInRiskGroup members l policy group)
    firstError
      [overBudget s!"administrator risk group {group} unavailable" unavailable.card
        budget.maxUnavailable,
       overBudget s!"administrator risk group {group} transfers"
        (activeReservationsInRiskGroup l group + 1) budget.maxConcurrentTransfers]

/-- Every check between the lookup of the request ID and the insertion. -/
def admissionError (l : Ledger) (policy : Policy) (members : Map Member)
    (request : ReservationRequest) : Option LedgerError :=
  (targetError l policy members request).or <|
  (globalError l policy members request).or <|
  (domainsError l policy members request).or <|
  request.riskGroups.findSome? (riskGroupError l policy members request)

/-! ## Reserve -/

/-- The campaign limits bound the decision and are not part of the record. -/
def clearCampaignLimits (request : ReservationRequest) : ReservationRequest :=
  { request with
    campaignMaxConcurrentTransfers := 0, campaignMaxUnavailable := 0,
    campaignTransferLimits := ∅, campaignLimits := ∅ }

/-- Equality of the two JSON texts, which name every other field. -/
def sameRequest (a b : ReservationRequest) : Bool :=
  decide (clearCampaignLimits a = clearCampaignLimits b)

def newReservation (request : ReservationRequest) : Reservation :=
  { clearCampaignLimits request with
    childUID := "", state := .reserved, drainSessionToken := ""
    drainStartedAt := "", drainCompletedAt := "" }

def reserve [Upstream] (l : Ledger) (policy : Policy) (members : List Member)
    (request : ReservationRequest) : Outcome :=
  match validateInputs l policy request with
  | some e => .fail l e
  | none =>
    if releaseFenceMatches l.lastReleaseFence request.id request.policyEpoch
        request.topologyLockID then
      .fail l (Sentinel.staleControlRevision.wrap "topology-lock acquisition was durably released")
    else
      match l.find request.id with
      | some existing =>
        if sameRequest existing.toReservationRequest request then .done l
        else .fail l (Sentinel.alreadyReserved.wrap
          s!"reservation ID {request.id} has different identity")
      | none =>
        match canonicalizeMembers members with
        | .error e => .fail l e
        | .ok canonicalMembers =>
          match admissionError l policy canonicalMembers request with
          | some e => .fail l e
          | none =>
            let written := l.put request.id (newReservation request)
            match (validatePersistedLedger written).or
                (encodeError written policy.maxSerializedBytes) with
            | some e => .fail (written.remove request.id) e
            | none => .done written

/-! ## A small fleet to run the model on -/

namespace Sample

/-- Lower-case letters, digits and inner dashes. -/
def nameProblems (s : String) : List String :=
  let plain := fun c : Char => ('a' ≤ c && c ≤ 'z') || isDigit c
  if s.utf8ByteSize ≤ 63 && s.toList.all (fun c => plain c || c == '-') &&
      s.toList.head?.any plain && s.toList.getLast?.any plain then []
  else ["must consist of lower case alphanumeric characters or '-'"]

/-- The same with dots, and a slash for the part that names the domain. -/
def qualifiedNameProblems (s : String) : List String :=
  nameProblems (String.ofList (s.toList.map fun c => if c == '.' || c == '/' then '-' else c))

/-- A UUID in its lower-case 36-character form. -/
def uuidParse (s : String) : Option Uuid :=
  let hex := fun c : Char => isDigit c || ('a' ≤ c && c ≤ 'f')
  if s.toList.length == 36 && s.toList.zipIdx.all (fun (c, i) =>
      if i == 8 || i == 13 || i == 18 || i == 23 then c == '-' else hex c) then
    some ⟨(s.toList.getD 14 '0').toNat - 48, s⟩
  else none

abbrev upstream : Upstream where
  uuidParse := uuidParse
  isDNS1123Label := nameProblems
  isDNS1123Subdomain := nameProblems
  isQualifiedName := qualifiedNameProblems
  isValidLabelValue := nameProblems
  uuidParse_empty := by decide

def ledger : Ledger := ⟨ledgerVersion, "ledger", ∅, none⟩

def lockID : String := "0123456789abcdef0123456789abcdef"

def planHash : String :=
  "sha256:0123456789abcdef0123456789abcdef0123456789abcdef0123456789abcdef"

/-- One device of a rack may be out at a time. -/
def policy : Policy where
  uid := "policy"
  version := "7"
  epoch := 1
  globalMaxConcurrentTransfers := 2
  globalMaxUnavailable := 2
  domainTransferBudgets := Map.set ∅ "rack" 1
  domainBudgets := Map.set ∅ "rack" 1
  riskGroupBudgets := Map.set ∅ "power" ⟨1, 1⟩
  maxActiveRecords := 0
  maxSerializedBytes := 0
  requiredHealthFreshBy := 0

def member (name rack : String) : Member where
  physicalID := "chassis-" ++ name
  deviceUID := "device-" ++ name
  nodeUID := "node-" ++ name
  domains := Map.set ∅ "rack" rack
  riskGroups := []
  healthKnown := true
  healthy := true
  maintenance := false
  healthObserved := 0

def request (name rack : String) : ReservationRequest where
  id := "reservation-" ++ name
  campaignUID := "campaign"
  planHash := planHash
  policyUID := "policy"
  policyVersion := "7"
  policyEpoch := 1
  topologyLockID := lockID
  physicalID := "chassis-" ++ name
  deviceUID := "device-" ++ name
  nodeUID := "node-" ++ name
  childNamespace := "upgrades"
  childName := "leaf-" ++ name
  domains := Map.set ∅ "rack" rack
  riskGroups := []
  campaignMaxConcurrentTransfers := 0
  campaignMaxUnavailable := 0
  campaignTransferLimits := ∅
  campaignLimits := ∅
  controlRevision := 0

end Sample

end VirtualKubelet.Rollout
