import VirtualKubelet.Machine
import VirtualKubelet.Rollout.Reserve

/-!
# The transitions of a reservation

The other eleven functions of `internal/topologyrollout/ledger.go` that write
the ledger, and the machine they form together with `Reserve`. A reservation
is bound to its child, granted directly or through a drain session, revoked,
and settled; the clean-ups remove the record and leave the fence of the
acquisition behind.

Three of them, `Settle`, `releaseUnclaimed` and `SettleDrainedReservation`,
also answer when the record is already gone, which is how a manager that
crashed after its write repeats it.
-/

namespace VirtualKubelet.Rollout

open Go

/-! ## Release fences -/

/-- The stored fence names this acquisition and carries a drain session. -/
def drainFenceMatches (fence : Option ReleaseFence) (reservationID : String)
    (policyEpoch : Int) (topologyLockID : String) : Bool :=
  releaseFenceMatches fence reservationID policyEpoch topologyLockID &&
    fence.any fun f => f.drainSessionToken != ""

def recordReleaseFence (l : Ledger) (reservationID : String) (policyEpoch : Int)
    (topologyLockID : String) : Outcome :=
  if !validBoundedIdentity reservationID 64 || decide (policyEpoch < 1) ||
      !validTopologyLockID topologyLockID then
    .fail l (Sentinel.ledgerIdentity.wrap "release-fence identity is invalid")
  else if drainFenceMatches l.lastReleaseFence reservationID policyEpoch
      topologyLockID then
    .fail l (Sentinel.invalidTransition.wrap
      "drain release fence cannot be replaced by generic cleanup")
  else
    .done { l with
      lastReleaseFence := some ⟨reservationID, policyEpoch, topologyLockID, "", ""⟩ }

/-- One of the drain fields, or the state, says that a drain session was
recorded. -/
def Reservation.drainMarked (r : Reservation) : Bool :=
  r.hasDrainProvenance || r.state == .draining

section

variable [Upstream]

def recordDrainReleaseFence (l : Ledger) (reservationID : String) (policyEpoch : Int)
    (topologyLockID childUID sessionToken : String) : Outcome :=
  if !validBoundedIdentity reservationID 64 || decide (policyEpoch < 1) ||
      !validTopologyLockID topologyLockID || !validBoundedIdentity childUID 128 ||
      !validDrainSessionToken sessionToken then
    .fail l (Sentinel.ledgerIdentity.wrap "drain release-fence identity is invalid")
  else if releaseFenceMatches l.lastReleaseFence reservationID policyEpoch
      topologyLockID then
    if l.lastReleaseFence.any fun f =>
        f.drainSessionToken == sessionToken && f.drainChildUID == childUID then
      .done l
    else
      .fail l (Sentinel.invalidTransition.wrap
        "release fence belongs to a different settlement protocol")
  else
    .done { l with
      lastReleaseFence :=
        some ⟨reservationID, policyEpoch, topologyLockID, sessionToken, childUID⟩ }

/-! ## Binding and granting -/

def bindChild (l : Ledger) (reservationID childUID : String) : Outcome :=
  let missing := Sentinel.invalidTransition.wrap "reservation or child UID missing"
  match l.find reservationID with
  | none => .fail l missing
  | some r =>
    if blank childUID then .fail l missing
    else if r.childUID == childUID && (r.state == .bound || r.state == .draining ||
        r.state == .granted || r.state == .revoked) then
      .done l
    else if r.state != .reserved || r.childUID != "" then
      .fail l (Sentinel.invalidTransition.wrap s!"cannot bind child in state {r.state.text}")
    else .done (l.put reservationID { r with childUID := childUID, state := .bound })

def tokenError : LedgerError :=
  Sentinel.invalidTransition.wrap "drain session token is not a canonical UUIDv4"

def beginDrain (l : Ledger) (reservationID ledgerUID childUID sessionToken : String)
    (controlRevision : Nat) (startedAt : Time) : Outcome :=
  if l.uid != ledgerUID then .fail l Sentinel.ledgerIdentity.bare
  else if !validDrainSessionToken sessionToken then .fail l tokenError
  else
    match canonicalLedgerTime startedAt with
    | none => .fail l (Sentinel.invalidTransition.wrap "drain start time is invalid")
    | some canonicalStart =>
      let unbound := Sentinel.invalidTransition.wrap "reservation is not bound to child"
      match l.find reservationID with
      | none => .fail l unbound
      | some r =>
        if r.childUID == "" || r.childUID != childUID then .fail l unbound
        else if r.state == .draining && r.drainSessionToken == sessionToken &&
            r.drainStartedAt == canonicalStart && r.drainCompletedAt == "" then
          if controlRevision < r.controlRevision then
            .fail l Sentinel.staleControlRevision.bare
          else .done (l.put reservationID { r with controlRevision := controlRevision })
        else if r.state != .bound || r.hasDrainProvenance then
          .fail l (Sentinel.invalidTransition.wrap
            "reservation is not an unclaimed bound drain candidate")
        else if controlRevision < r.controlRevision then
          .fail l Sentinel.staleControlRevision.bare
        else
          .done (l.put reservationID
            { r with
              controlRevision := controlRevision, state := .draining
              drainSessionToken := sessionToken, drainStartedAt := canonicalStart })

def promoteDrain (l : Ledger) (reservationID ledgerUID childUID sessionToken : String)
    (controlRevision : Nat) (completedAt : Time) : Outcome :=
  if l.uid != ledgerUID then .fail l Sentinel.ledgerIdentity.bare
  else if !validDrainSessionToken sessionToken then .fail l tokenError
  else
    match canonicalLedgerTime completedAt with
    | none =>
      .fail l (Sentinel.invalidTransition.wrap "drain completion time is invalid")
    | some canonicalCompletion =>
      let unbound :=
        Sentinel.invalidTransition.wrap "reservation is not bound to the drain session"
      match l.find reservationID with
      | none => .fail l unbound
      | some r =>
        if r.childUID == "" || r.childUID != childUID ||
            r.drainSessionToken != sessionToken then
          .fail l unbound
        else if r.state == .granted && r.drainCompletedAt == canonicalCompletion then
          if controlRevision < r.controlRevision then
            .fail l Sentinel.staleControlRevision.bare
          else .done (l.put reservationID { r with controlRevision := controlRevision })
        else if r.state != .draining || r.drainCompletedAt != "" then
          .fail l (Sentinel.invalidTransition.wrap "reservation is not draining")
        else if (parseCanonicalLedgerTime r.drainStartedAt).all
            fun startedAt => decide (completedAt < startedAt) then
          .fail l (Sentinel.invalidTransition.wrap "drain completion precedes its start")
        else if controlRevision < r.controlRevision then
          .fail l Sentinel.staleControlRevision.bare
        else
          .done (l.put reservationID
            { r with
              controlRevision := controlRevision, state := .granted
              drainCompletedAt := canonicalCompletion })

def grant (l : Ledger) (reservationID ledgerUID childUID : String)
    (controlRevision : Nat) : Outcome :=
  if l.uid != ledgerUID then .fail l Sentinel.ledgerIdentity.bare
  else
    let unbound := Sentinel.invalidTransition.wrap "reservation is not bound to child"
    match l.find reservationID with
    | none => .fail l unbound
    | some r =>
      if r.drainMarked then
        .fail l (Sentinel.invalidTransition.wrap
          "drain reservation requires session-bound promotion")
      else if r.state == .granted && r.childUID == childUID then
        if controlRevision < r.controlRevision then
          .fail l Sentinel.staleControlRevision.bare
        else .done (l.put reservationID { r with controlRevision := controlRevision })
      else if r.childUID == "" || r.childUID != childUID || r.state != .bound then
        .fail l unbound
      else if controlRevision < r.controlRevision then
        .fail l Sentinel.staleControlRevision.bare
      else
        .done (l.put reservationID { r with controlRevision := controlRevision, state := .granted })

/-! ## Revoking -/

def revoke (l : Ledger) (reservationID : String) (controlRevision : Nat) : Outcome :=
  match l.find reservationID with
  | none => .fail l (Sentinel.invalidTransition.wrap "reservation missing")
  | some r =>
    if r.drainMarked then
      .fail l (Sentinel.invalidTransition.wrap
        "drain reservation requires session-bound revocation")
    else if r.state == .revoked && controlRevision == r.controlRevision then .done l
    else if controlRevision ≤ r.controlRevision then
      .fail l Sentinel.staleControlRevision.bare
    else
      match r.state with
      | .reserved | .bound | .granted | .revoked =>
        .done (l.put reservationID { r with controlRevision := controlRevision, state := .revoked })
      | state =>
        .fail l (Sentinel.invalidTransition.wrap s!"cannot revoke state {state.text}")

def revokeDrain (l : Ledger) (reservationID ledgerUID childUID sessionToken : String)
    (controlRevision : Nat) : Outcome :=
  if l.uid != ledgerUID then .fail l Sentinel.ledgerIdentity.bare
  else if !validDrainSessionToken sessionToken then .fail l tokenError
  else
    let unbound :=
      Sentinel.invalidTransition.wrap "reservation is not bound to the drain session"
    match l.find reservationID with
    | none => .fail l unbound
    | some r =>
      if r.childUID != childUID || r.drainSessionToken != sessionToken ||
          r.drainStartedAt == "" then
        .fail l unbound
      else if r.state == .revoked && controlRevision == r.controlRevision then .done l
      else if controlRevision < r.controlRevision then
        .fail l Sentinel.staleControlRevision.bare
      else
        match r.state with
        | .draining | .granted | .revoked =>
          .done (l.put reservationID
            { r with controlRevision := controlRevision, state := .revoked })
        | state =>
          .fail l (Sentinel.invalidTransition.wrap s!"cannot revoke drain state {state.text}")

def revokeUnclaimedAtEpoch (l : Ledger) (reservationID topologyLockID childUID : String)
    (controlRevision : Nat) (policyEpoch : Int) : Outcome :=
  if policyEpoch < 1 then .fail l Sentinel.staleControlRevision.bare
  else
    match l.find reservationID with
    | none => .fail l (Sentinel.invalidTransition.wrap "reservation missing")
    | some r =>
      if r.policyEpoch != policyEpoch || r.topologyLockID != topologyLockID then
        .fail l Sentinel.staleControlRevision.bare
      else if r.drainSessionToken != "" then
        .fail l (Sentinel.invalidTransition.wrap
          "drain reservation cannot use unclaimed revocation")
      else if blank childUID || r.childUID != childUID then
        .fail l (Sentinel.invalidTransition.wrap "reservation is not bound to the proven child")
      else if controlRevision < r.controlRevision then
        .fail l Sentinel.staleControlRevision.bare
      else
        match r.state with
        | .bound | .granted | .revoked =>
          .done (l.put reservationID
            { r with controlRevision := controlRevision, state := .revoked })
        | state =>
          .fail l (Sentinel.invalidTransition.wrap s!"cannot revoke unclaimed state {state.text}")

/-! ## Settling and releasing -/

/-- The end of every generic clean-up: the fence first, then the record. -/
def fenceAndRemove (l : Ledger) (reservationID : String) (policyEpoch : Int)
    (topologyLockID : String) : Outcome :=
  (recordReleaseFence l reservationID policyEpoch topologyLockID).andThen fun l =>
    .done (l.remove reservationID)

def settle (l : Ledger) (reservationID topologyLockID childUID : String)
    (policyEpoch : Int) (outcomeResolved healthGatePassed : Bool) : Outcome :=
  let sessionBound := Sentinel.invalidTransition.wrap
    "drain reservation requires session-bound settlement"
  match l.find reservationID with
  | none =>
    if drainFenceMatches l.lastReleaseFence reservationID policyEpoch topologyLockID then
      .fail l sessionBound
    else recordReleaseFence l reservationID policyEpoch topologyLockID
  | some r =>
    if r.policyEpoch != policyEpoch || r.topologyLockID != topologyLockID then
      .fail l Sentinel.staleControlRevision.bare
    else if r.drainSessionToken != "" then .fail l sessionBound
    else if r.childUID != childUID || !outcomeResolved || !healthGatePassed then
      .fail l (Sentinel.invalidTransition.wrap "settlement evidence incomplete")
    else if r.state != .granted && r.state != .revoked then
      .fail l (Sentinel.invalidTransition.wrap s!"cannot settle state {r.state.text}")
    else fenceAndRemove l reservationID policyEpoch topologyLockID

/-- A bound record may be settled too: its drain intent was published and
aborted before a session was recorded. -/
def settleDrainedReservation (l : Ledger)
    (reservationID ledgerUID topologyLockID childUID sessionToken : String)
    (policyEpoch : Int)
    (outcomeResolved healthGatePassed workloadRecoveryPassed : Bool) : Outcome :=
  let incomplete :=
    Sentinel.invalidTransition.wrap "drain settlement evidence incomplete"
  let release := (recordDrainReleaseFence l reservationID policyEpoch topologyLockID
    childUID sessionToken).andThen fun l => .done (l.remove reservationID)
  if l.uid != ledgerUID then .fail l Sentinel.ledgerIdentity.bare
  else if !validDrainSessionToken sessionToken then .fail l tokenError
  else if !validBoundedIdentity childUID 128 || !outcomeResolved ||
      !healthGatePassed || !workloadRecoveryPassed then
    .fail l incomplete
  else
    match l.find reservationID with
    | none =>
      recordDrainReleaseFence l reservationID policyEpoch topologyLockID childUID
        sessionToken
    | some r =>
      if r.policyEpoch != policyEpoch || r.topologyLockID != topologyLockID then
        .fail l Sentinel.staleControlRevision.bare
      else if r.childUID != childUID then .fail l incomplete
      else if r.state == .bound then
        if r.hasDrainProvenance then
          .fail l (Sentinel.invalidTransition.wrap
            "bound drain intent carries partial ledger provenance")
        else release
      else if r.drainSessionToken != sessionToken then .fail l incomplete
      else
        match r.state with
        | .draining | .granted | .revoked => release
        | state =>
          .fail l (Sentinel.invalidTransition.wrap s!"cannot settle drain state {state.text}")

def releaseUnclaimed (l : Ledger) (reservationID topologyLockID childUID : String)
    (controlRevision : Nat) (policyEpoch : Int) : Outcome :=
  let drained := Sentinel.invalidTransition.wrap
    "drain reservation cannot use unclaimed release"
  match l.find reservationID with
  | none =>
    if drainFenceMatches l.lastReleaseFence reservationID policyEpoch topologyLockID then
      .fail l drained
    else recordReleaseFence l reservationID policyEpoch topologyLockID
  | some r =>
    if r.policyEpoch != policyEpoch || r.topologyLockID != topologyLockID then
      .fail l Sentinel.staleControlRevision.bare
    else if controlRevision < r.controlRevision then
      .fail l Sentinel.staleControlRevision.bare
    else if r.drainSessionToken != "" then .fail l drained
    else
      match r.state with
      | .reserved =>
        if r.childUID != "" then
          .fail l (Sentinel.invalidTransition.wrap "reserved entry has an unexpected child binding")
        else fenceAndRemove l reservationID policyEpoch topologyLockID
      | .revoked =>
        if blank childUID || r.childUID != childUID then
          .fail l (Sentinel.invalidTransition.wrap "reservation is not bound to the proven child")
        else fenceAndRemove l reservationID policyEpoch topologyLockID
      | state =>
        .fail l (Sentinel.invalidTransition.wrap
          s!"cannot release state {state.text} before an exact unclaimed revocation")

def releaseUnclaimedAtEpoch (l : Ledger) (reservationID topologyLockID childUID : String)
    (controlRevision : Nat) (policyEpoch : Int) : Outcome :=
  if policyEpoch < 1 then .fail l Sentinel.staleControlRevision.bare
  else releaseUnclaimed l reservationID topologyLockID childUID controlRevision policyEpoch

def fenceUnboundAcquisition (l : Ledger) (reservationID : String) (policyEpoch : Int)
    (topologyLockID : String) : Outcome :=
  match l.find reservationID with
  | none => fenceAndRemove l reservationID policyEpoch topologyLockID
  | some r =>
    if r.policyEpoch != policyEpoch || r.topologyLockID != topologyLockID then
      .fail l Sentinel.staleControlRevision.bare
    else if r.state != .reserved || r.childUID != "" then
      .fail l (Sentinel.invalidTransition.wrap "topology-lock acquisition is already bound")
    else fenceAndRemove l reservationID policyEpoch topologyLockID

/-! ## The machine -/

/-- A call of one of the twelve transition functions with its arguments. -/
inductive Op
  | reserve (policy : Policy) (members : List Member) (request : ReservationRequest)
  | bindChild (reservationID childUID : String)
  | beginDrain (reservationID ledgerUID childUID sessionToken : String)
      (controlRevision : Nat) (startedAt : Time)
  | promoteDrain (reservationID ledgerUID childUID sessionToken : String)
      (controlRevision : Nat) (completedAt : Time)
  | grant (reservationID ledgerUID childUID : String) (controlRevision : Nat)
  | revoke (reservationID : String) (controlRevision : Nat)
  | revokeDrain (reservationID ledgerUID childUID sessionToken : String)
      (controlRevision : Nat)
  | settle (reservationID topologyLockID childUID : String) (policyEpoch : Int)
      (outcomeResolved healthGatePassed : Bool)
  | settleDrained (reservationID ledgerUID topologyLockID childUID sessionToken : String)
      (policyEpoch : Int)
      (outcomeResolved healthGatePassed workloadRecoveryPassed : Bool)
  | releaseUnclaimed (reservationID topologyLockID childUID : String)
      (controlRevision : Nat) (policyEpoch : Int)
  | revokeUnclaimed (reservationID topologyLockID childUID : String)
      (controlRevision : Nat) (policyEpoch : Int)
  | fenceUnbound (reservationID : String) (policyEpoch : Int) (topologyLockID : String)

def Op.apply (l : Ledger) : Op → Outcome
  | .reserve policy members request => Rollout.reserve l policy members request
  | .bindChild id child => Rollout.bindChild l id child
  | .beginDrain id uid child token rev t => Rollout.beginDrain l id uid child token rev t
  | .promoteDrain id uid child token rev t =>
    Rollout.promoteDrain l id uid child token rev t
  | .grant id uid child rev => Rollout.grant l id uid child rev
  | .revoke id rev => Rollout.revoke l id rev
  | .revokeDrain id uid child token rev => Rollout.revokeDrain l id uid child token rev
  | .settle id lock child epoch resolved health =>
    Rollout.settle l id lock child epoch resolved health
  | .settleDrained id uid lock child token epoch resolved health recovered =>
    settleDrainedReservation l id uid lock child token epoch resolved health recovered
  | .releaseUnclaimed id lock child rev epoch =>
    releaseUnclaimedAtEpoch l id lock child rev epoch
  | .revokeUnclaimed id lock child rev epoch =>
    revokeUnclaimedAtEpoch l id lock child rev epoch
  | .fenceUnbound id epoch lock => fenceUnboundAcquisition l id epoch lock

/-- The reservation a call names. -/
def Op.target : Op → String
  | .reserve _ _ request => request.id
  | .bindChild id _ | .beginDrain id .. | .promoteDrain id .. | .grant id ..
  | .revoke id _ | .revokeDrain id .. | .settle id .. | .settleDrained id ..
  | .releaseUnclaimed id .. | .revokeUnclaimed id .. | .fenceUnbound id _ _ => id

/-- The ledger after a call, successful or not. -/
def step (l : Ledger) (op : Op) : Ledger := (op.apply l).ledger

def run (l : Ledger) (ops : List Op) : Ledger := Machine.run step l ops

end

end VirtualKubelet.Rollout
