import VirtualKubelet.Go.Checks
import VirtualKubelet.Go.Clock
import VirtualKubelet.Go.Map

/-!
# The rollout ledger: data, validation and size

`internal/topologyrollout/ledger.go`. The ledger is the one record of the
disruption the manager has admitted: a map of reservations and the fence of
the last acquisition that was cleaned up. It is stored as JSON in a ConfigMap
and read back as hostile input, so `validatePersistedLedger` is the file's
statement of which ledgers exist.

The names and label values it checks belong to two packages that are not part
of the repository. They enter as the fields of `Upstream`; the only thing the
ledger needs to know about them is that the empty string is no UUID.

An error raised while ranging over a map names whichever entry the iteration
met; the texts here leave the entry out, since nothing can depend on it.
-/

namespace VirtualKubelet.Rollout

open Go

/-- A parsed `uuid.UUID`: its version and its `String()`. -/
structure Uuid where
  version : Nat
  text : String

/-- What the ledger calls in `google/uuid` and `apimachinery/validation`. A
validation function returns the list of problems it found. -/
class Upstream where
  uuidParse : String → Option Uuid
  isDNS1123Label : String → List String
  isDNS1123Subdomain : String → List String
  isQualifiedName : String → List String
  isValidLabelValue : String → List String
  uuidParse_empty : uuidParse "" = none

def ledgerVersion : String := "v1"

def defaultMaxActiveRecords : Nat := 256

def defaultMaxSerializedBytes : Nat := 256 * 1024

/-! ## Errors -/

inductive Sentinel
  | ledgerIdentity
  | ledgerFull
  | alreadyReserved
  | budgetExceeded
  | targetUnavailable
  | invalidTransition
  | staleControlRevision
  deriving DecidableEq

def Sentinel.text : Sentinel → String
  | .ledgerIdentity => "rollout ledger identity mismatch"
  | .ledgerFull => "rollout ledger capacity exhausted"
  | .alreadyReserved => "physical device already has an active reservation"
  | .budgetExceeded => "topology disruption budget exhausted"
  | .targetUnavailable => "target device is unavailable"
  | .invalidTransition => "invalid reservation transition"
  | .staleControlRevision => "stale reservation control revision"

/-- An error value: the sentinel `errors.Is` finds in it, and its text. -/
structure LedgerError where
  sentinel : Option Sentinel
  text : String
  deriving DecidableEq

/-- `fmt.Errorf("%w: …", sentinel)`. -/
def Sentinel.wrap (s : Sentinel) (detail : String) : LedgerError :=
  ⟨some s, s.text ++ ": " ++ detail⟩

def Sentinel.bare (s : Sentinel) : LedgerError := ⟨some s, s.text⟩

/-- An error that wraps nothing. -/
def plainError (text : String) : LedgerError := ⟨none, text⟩

/-! ## Data -/

/-- `ReservationState` is a string type, so a decoded record can carry any
text; `unknown` is every text that is not one of the five. -/
inductive ReservationState
  | reserved
  | bound
  | draining
  | granted
  | revoked
  | unknown (name : String)
  deriving DecidableEq

def ReservationState.text : ReservationState → String
  | .reserved => "Reserved"
  | .bound => "Bound"
  | .draining => "Draining"
  | .granted => "Granted"
  | .revoked => "Revoked"
  | .unknown name => name

structure RiskGroupBudget where
  maxConcurrentTransfers : Int
  maxUnavailable : Int
  deriving DecidableEq

/-- The administrator ceiling one admission decision is taken under. -/
structure Policy where
  uid : String
  version : String
  epoch : Int
  globalMaxConcurrentTransfers : Int
  globalMaxUnavailable : Int
  domainTransferBudgets : Map Int
  domainBudgets : Map Int
  riskGroupBudgets : Map RiskGroupBudget
  maxActiveRecords : Int
  maxSerializedBytes : Int
  requiredHealthFreshBy : Time

structure Member where
  physicalID : String
  deviceUID : String
  nodeUID : String
  domains : Map String
  riskGroups : List String
  healthKnown : Bool
  healthy : Bool
  maintenance : Bool
  healthObserved : Time
  deriving DecidableEq

def Member.unavailable (m : Member) (policy : Policy) : Bool :=
  !m.healthKnown || !m.healthy || m.maintenance ||
    (!Time.isZero policy.requiredHealthFreshBy &&
      decide (m.healthObserved < policy.requiredHealthFreshBy))

structure ReservationRequest where
  id : String
  campaignUID : String
  planHash : String
  policyUID : String
  policyVersion : String
  policyEpoch : Int
  topologyLockID : String
  physicalID : String
  deviceUID : String
  nodeUID : String
  childNamespace : String
  childName : String
  domains : Map String
  riskGroups : List String
  campaignMaxConcurrentTransfers : Int
  campaignMaxUnavailable : Int
  campaignTransferLimits : Map Int
  campaignLimits : Map Int
  controlRevision : Nat
  deriving DecidableEq

structure Reservation extends ReservationRequest where
  childUID : String
  state : ReservationState
  drainSessionToken : String
  drainStartedAt : String
  drainCompletedAt : String
  deriving DecidableEq

/-- The last exact acquisition whose cleanup was committed. -/
structure ReleaseFence where
  reservationID : String
  policyEpoch : Int
  topologyLockID : String
  drainSessionToken : String
  drainChildUID : String
  deriving DecidableEq

structure Ledger where
  version : String
  uid : String
  reservations : Map Reservation
  lastReleaseFence : Option ReleaseFence
  deriving DecidableEq

def newLedger (uid : String) : Except LedgerError Ledger :=
  if blank uid then .error (Sentinel.ledgerIdentity.wrap "empty UID")
  else .ok ⟨ledgerVersion, uid, ∅, none⟩

namespace Ledger

def find (l : Ledger) (id : String) : Option Reservation := l.reservations.find id

def put (l : Ledger) (id : String) (r : Reservation) : Ledger :=
  { l with reservations := l.reservations.set id r }

def remove (l : Ledger) (id : String) : Ledger :=
  { l with reservations := l.reservations.delete id }

end Ledger

/-! ## Field checks -/

def validBoundedIdentity (value : String) (maxLength : Nat) : Bool :=
  value != "" && decide (value.utf8ByteSize ≤ maxLength) && trimSpace value == value &&
    value.toList.all fun c => '!' ≤ c && c ≤ '~'

def validSHA256PlanHash (value : String) : Bool :=
  value.utf8ByteSize == 71 && "sha256:".toList.isPrefixOf value.toList &&
    isLower (String.ofList (value.toList.drop 7)) &&
    hexDecodes (String.ofList (value.toList.drop 7))

def validTopologyLockID (value : String) : Bool :=
  value.utf8ByteSize == 32 && isLower value && hexDecodes value &&
    value.toList.length / 2 == 16

/-- The canonical UTC text; the zero time has none. -/
def canonicalLedgerTime (t : Time) : Option String :=
  if Time.isZero t then none else some (formatRFC3339Nano t)

/-- An instant is read only from the exact text `canonicalLedgerTime` writes. -/
def parseCanonicalLedgerTime (value : String) : Option Time :=
  (parseRFC3339Nano value).bind fun t =>
    if canonicalLedgerTime t = some value then some t else none

section

variable [Upstream]

def validDrainSessionToken (value : String) : Bool :=
  match Upstream.uuidParse value with
  | some parsed => parsed.version == 4 && parsed.text == value
  | none => false

/-- The loop of `validateRiskGroupNames`, with the group before. -/
def riskGroupsError : Option String → List String → Option String
  | _, [] => none
  | previous, group :: rest =>
    if Upstream.isDNS1123Label group ≠ [] then
      some s!"risk group {group} is invalid"
    else if previous.any (fun p => decide (group ≤ p)) then
      some "risk groups must be strictly sorted and unique"
    else riskGroupsError (some group) rest

def validateRiskGroupNames (groups : List String) : Option String :=
  if 16 < groups.length then some "risk groups may contain at most 16 entries"
  else riskGroupsError none groups

/-! ## Validation of persisted data -/

def boundedFields (r : Reservation) : List (String × String × Nat) :=
  [("id", r.id, 64), ("campaign UID", r.campaignUID, 128),
    ("plan hash", r.planHash, 71), ("policy UID", r.policyUID, 128),
    ("policy resourceVersion", r.policyVersion, 128),
    ("topology lock acquisition ID", r.topologyLockID, 64),
    ("physical identity", r.physicalID, 128), ("device UID", r.deviceUID, 128),
    ("node UID", r.nodeUID, 128), ("child namespace", r.childNamespace, 63),
    ("child name", r.childName, 253)]

def Reservation.hasDrainProvenance (r : Reservation) : Bool :=
  r.drainSessionToken != "" || r.drainStartedAt != "" || r.drainCompletedAt != ""

/-- The checks of the drain fields, made only when one of them is set. -/
def drainProvenanceError (r : Reservation) : Option String :=
  if !validDrainSessionToken r.drainSessionToken then
    some "drain session token must be a canonical UUIDv4"
  else
    match parseCanonicalLedgerTime r.drainStartedAt with
    | none => some "drain start time is invalid"
    | some startedAt =>
      if r.drainCompletedAt == "" then none
      else
        match parseCanonicalLedgerTime r.drainCompletedAt with
        | none => some "drain completion time is invalid"
        | some completedAt =>
          if completedAt < startedAt then
            some "drain completion time precedes its start"
          else none

/-- What each state requires of the child UID and of the drain fields. -/
def stateError (r : Reservation) : Option String :=
  let needsChild := s!"{r.state.text} state requires a bounded child UID"
  match r.state with
  | .reserved =>
    if r.childUID != "" || r.hasDrainProvenance then
      some "Reserved state must not have a child UID or drain provenance"
    else none
  | .bound =>
    firstError [(!validBoundedIdentity r.childUID 128, needsChild),
      (r.hasDrainProvenance, "Bound state must not have drain provenance")]
  | .draining =>
    if !validBoundedIdentity r.childUID 128 || !r.hasDrainProvenance ||
        r.drainCompletedAt != "" then
      some "Draining state requires a child UID and incomplete drain provenance"
    else none
  | .granted =>
    firstError [(!validBoundedIdentity r.childUID 128, needsChild),
      (r.hasDrainProvenance && r.drainCompletedAt == "",
        "drain-provenance Granted state requires completion evidence")]
  | .revoked => firstError [(!validBoundedIdentity r.childUID 128, needsChild)]
  | .unknown name => some s!"unknown state {name}"

/-- The part of `validatePersistedReservation` that reads the request fields
alone, which no transition writes. -/
def requestError (r : Reservation) : Option String :=
  firstError ((boundedFields r).map (fun (name, value, max) =>
      (!validBoundedIdentity value max, s!"{name} must contain 1-{max} characters")) ++
    [(!validSHA256PlanHash r.planHash, "plan hash is not a canonical SHA-256 value"),
      (decide (r.policyEpoch < 1), "policy epoch must be positive"),
      (!validTopologyLockID r.topologyLockID,
        "topology lock acquisition ID must be a 128-bit lowercase hexadecimal value"),
      (decide (Upstream.isDNS1123Label r.childNamespace ≠ []),
        "child namespace is invalid"),
      (decide (Upstream.isDNS1123Subdomain r.childName ≠ []), "child name is invalid"),
      (r.domains.len == 0 || decide (16 < r.domains.len),
        "domains must contain 1-16 entries"),
      (decide (¬ r.domains.Every fun key value =>
          key.utf8ByteSize ≤ 96 ∧ value.utf8ByteSize ≤ 63 ∧ blank value = false),
        "domain key/value exceeds the 96/63 character limit"),
      (decide (¬ r.domains.Every fun key _ => Upstream.isQualifiedName key = []),
        "domain key is invalid"),
      (decide (¬ r.domains.Every fun _ value => Upstream.isValidLabelValue value = []),
        "domain value is invalid")])

def validatePersistedReservation (r : Reservation) : Option String :=
  (requestError r).or <|
  (validateRiskGroupNames r.riskGroups).or <|
  (if r.hasDrainProvenance then drainProvenanceError r else none).or <|
  (stateError r).or <|
  if 2 ^ 63 - 1 < r.controlRevision then
    some "control revision exceeds the signed campaign revision range"
  else none

def Reservation.childKey (r : Reservation) : String :=
  r.childNamespace ++ "/" ++ r.childName

def fenceError (fence : ReleaseFence) : Option LedgerError :=
  firstError
    [(!validBoundedIdentity fence.reservationID 64 || decide (fence.policyEpoch < 1) ||
        !validTopologyLockID fence.topologyLockID,
      Sentinel.ledgerIdentity.wrap "last release fence is invalid"),
     ((fence.drainSessionToken == "") != (fence.drainChildUID == "") ||
        (fence.drainSessionToken != "" &&
          (!validDrainSessionToken fence.drainSessionToken ||
            !validBoundedIdentity fence.drainChildUID 128)),
      Sentinel.ledgerIdentity.wrap "last release fence has invalid drain provenance")]

def validatePersistedLedger (l : Ledger) : Option LedgerError :=
  let identity := Sentinel.ledgerIdentity.wrap
  let rs := l.reservations
  (firstError [(l.version != ledgerVersion || !validBoundedIdentity l.uid 128,
      identity "ledger version or UID is invalid"),
    (decide (defaultMaxActiveRecords < rs.len),
      identity "reservations exceed the absolute limit")]).or <|
  (l.lastReleaseFence.bind fenceError).or <|
  firstError
    [(decide (¬ rs.Every fun key r => key ≠ "" ∧ key = r.id),
      identity "reservation map key does not match id"),
     (decide (¬ rs.Every fun _ r => validatePersistedReservation r = none),
      identity "a reservation is invalid"),
     (decide (¬ rs.Distinct (fun _ => True) (·.physicalID)),
      identity "reservations reuse physical identity"),
     (decide (¬ rs.Distinct (fun _ => True) (·.deviceUID)),
      identity "reservations reuse device UID"),
     (decide (¬ rs.Distinct (fun _ => True) (·.nodeUID)),
      identity "reservations reuse node UID"),
     (decide (¬ rs.Distinct (fun _ => True) Reservation.childKey),
      identity "reservations reuse child"),
     (decide (¬ rs.Distinct (·.childUID ≠ "") (·.childUID)),
      identity "reservations reuse child UID")]

end

/-! ## The encoded size -/

/-- A member that `omitempty` drops when its value is empty. -/
def omitEmpty (name value : String) : List Nat :=
  if value == "" then [] else [jsonMemberSize name (jsonStringSize value)]

def jsonMapSize {α : Type} (size : α → Nat) (m : Map α) : Nat :=
  jsonSeqSize (m.entries.map fun e => jsonMemberSize e.1 (size e.2))

def Reservation.jsonSize (r : Reservation) : Nat :=
  let str (name value : String) := jsonMemberSize name (jsonStringSize value)
  jsonSeqSize (([str "id" r.id, str "campaignUID" r.campaignUID,
    str "planHash" r.planHash, str "policyUID" r.policyUID,
    str "policyVersion" r.policyVersion,
    jsonMemberSize "policyEpoch" (jsonIntSize r.policyEpoch),
    str "topologyLockID" r.topologyLockID, str "physicalID" r.physicalID,
    str "deviceUID" r.deviceUID, str "nodeUID" r.nodeUID,
    str "childNamespace" r.childNamespace, str "childName" r.childName,
    jsonMemberSize "domains" (jsonMapSize jsonStringSize r.domains),
    jsonMemberSize "controlRevision" (jsonIntSize r.controlRevision),
    str "state" r.state.text] ++
    (if r.riskGroups = [] then []
      else [jsonMemberSize "riskGroups" (jsonSeqSize (r.riskGroups.map jsonStringSize))]) ++
    omitEmpty "childUID" r.childUID ++
    omitEmpty "drainSessionToken" r.drainSessionToken ++
    omitEmpty "drainStartedAt" r.drainStartedAt ++
    omitEmpty "drainCompletedAt" r.drainCompletedAt : List Nat) : Multiset Nat)

def ReleaseFence.jsonSize (f : ReleaseFence) : Nat :=
  let str (name value : String) := jsonMemberSize name (jsonStringSize value)
  jsonSeqSize (([str "reservationID" f.reservationID,
    jsonMemberSize "policyEpoch" (jsonIntSize f.policyEpoch),
    str "topologyLockID" f.topologyLockID] ++
    omitEmpty "drainSessionToken" f.drainSessionToken ++
    omitEmpty "drainChildUID" f.drainChildUID : List Nat) : Multiset Nat)

def Ledger.jsonSize (l : Ledger) : Nat :=
  jsonSeqSize (([jsonMemberSize "version" (jsonStringSize l.version),
    jsonMemberSize "uid" (jsonStringSize l.uid),
    jsonMemberSize "reservations" (jsonMapSize Reservation.jsonSize l.reservations)] ++
    (l.lastReleaseFence.toList.map fun f =>
      jsonMemberSize "lastReleaseFence" f.jsonSize) : List Nat) : Multiset Nat)

/-- The ceiling `Encode` applies: the caller's, clipped to the absolute one. -/
def encodeLimit (maxBytes : Int) : Nat :=
  if maxBytes ≤ 0 ∨ (defaultMaxSerializedBytes : Int) < maxBytes then
    defaultMaxSerializedBytes
  else maxBytes.toNat

def encodeError (l : Ledger) (maxBytes : Int) : Option LedgerError :=
  firstError
    [(l.version != ledgerVersion || blank l.uid,
      Sentinel.ledgerIdentity.wrap "incomplete ledger"),
     (decide (encodeLimit maxBytes < l.jsonSize),
      Sentinel.ledgerFull.wrap
        s!"encoded ledger is {l.jsonSize} bytes (limit {encodeLimit maxBytes})")]

end VirtualKubelet.Rollout
