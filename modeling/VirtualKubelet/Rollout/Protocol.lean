import VirtualKubelet.Rollout.DeviceLock

/-!
# Managers racing for a device

Any number of manager incarnations work on one ledger and the same devices.
Each read and each patch is a step of its own, so a manager holds copies that
may be old by the time it uses them; a crash forgets them.

`published` and `cleared` are not part of the program. They remember which
acquisition IDs were ever put on a device and which were taken off again, and
they carry the two things taken for granted of an ID: a lock is published under
an ID nobody has used, and a manager can only ask to release an ID it has seen,
in a lock, in a reservation or in a leaf.
-/

namespace VirtualKubelet.Rollout

open Go Api

/-- One transaction of a campaign on a device, as a manager carries it around. -/
structure Attempt where
  campaign : Campaign
  target : PlannedTarget
  policyEpoch : Int
  acquisitionID : String

namespace Attempt

def key (a : Attempt) : String := deviceKey a.campaign a.target

def expected (a : Attempt) (acquiredAt : Time) : DeviceTopologyLock :=
  expectedDeviceTopologyLock a.campaign a.target a.policyEpoch a.acquisitionID acquiredAt

def reservationID (a : Attempt) : String :=
  Rollout.reservationID a.campaign.campaignUID a.target.deviceUID

end Attempt

/-- Where a manager is, with the copies it holds. -/
inductive Proc
  | idle
  /-- Has read a device without a lock and is about to publish one. -/
  | acquiring (a : Attempt) (now : Time) (device : Object Device)
  /-- Has found its own lock and is about to look for the reservation. -/
  | recovering (a : Attempt)
  /-- Has published or recovered the lock and is about to revalidate it. -/
  | confirming (a : Attempt)
  /-- Is about to enter `Store.Mutate` with `Reserve`. -/
  | locked (a : Attempt)
  /-- `Mutate` has read the ledger. -/
  | reserving (a : Attempt) (cm : Object ConfigMap)
  /-- The callback has revalidated the lock. -/
  | admitted (a : Attempt) (cm : Object ConfigMap)
  /-- Is about to mark the lock `Releasing`. -/
  | releasing (a : Attempt)
  | marking (a : Attempt) (device : Object Device)
  /-- `beginDeviceTopologyLockRelease` has returned. -/
  | begun (a : Attempt)
  /-- `releaseDeviceTopologyLock` has read the ledger and found it clean. -/
  | verified (a : Attempt)
  /-- It has read the device and is about to clear the lock. -/
  | clearing (a : Attempt) (device : Object Device)
  /-- Some other `Store.Mutate` has read the ledger. A release goes back to
  where it was. -/
  | mutating (op : Op) (cm : Object ConfigMap) (back : Option Attempt)

structure World where
  ledger : Object ConfigMap
  devices : Map (Object Device)
  procs : Nat → Proc
  published : Finset String
  cleared : Finset String

namespace World

def goto (w : World) (p : Nat) (proc : Proc) : World :=
  { w with procs := Function.update w.procs p proc }

def writeDevice (w : World) (key : String) (o : Object Device) : World :=
  { w with devices := w.devices.set key o }

def lockAt (w : World) (key : String) : Option DeviceTopologyLock :=
  (w.devices.find key).bind (·.content.topologyLock)

end World

inductive Action
  | crash (p : Nat)
  /-- Anyone writes anything on a device but its UID and its lock. -/
  | edit (key : String) (d : Device)
  | acquire (p : Nat) (a : Attempt) (now : Time)
  | publish (p : Nat)
  | recover (p : Nat) (policyUID policyVersion : String)
  | confirm (p : Nat)
  | enter (p : Nat)
  | check (p : Nat)
  | reserve (p : Nat) (policy : Policy) (members : List Member)
  | release (p : Nat) (a : Attempt)
  | begin (p : Nat)
  | mark (p : Nat)
  | verify (p : Nat)
  | look (p : Nat)
  | clear (p : Nat)
  | mutate (p : Nat) (op : Op)
  | commit (p : Nat)

def Device.markReleasing (d : Device) : Device :=
  { d with topologyLock := d.topologyLock.map fun lock => { lock with state := .releasing } }

/-- Where a `Mutate` of its own returns to. -/
def Proc.resume : Option Attempt → Proc
  | none => .idle
  | some a => .begun a

/-- The recovered reservation is the one this transaction would have made. -/
def recoveredReservationMatches (r : Reservation) (a : Attempt)
    (policyUID policyVersion : String) : Bool :=
  r.campaignUID == a.campaign.campaignUID && r.planHash == a.campaign.planHash &&
    r.policyEpoch == a.policyEpoch && r.topologyLockID == a.acquisitionID &&
    r.policyUID == policyUID && r.policyVersion == policyVersion &&
    r.physicalID == a.target.physicalIdentity && r.deviceUID == a.target.deviceUID &&
    r.nodeUID == a.target.nodeUID && r.childNamespace == a.campaign.campaignNamespace &&
    r.childName == a.target.childName && decide (r.domains = targetDomains a.target)

def Op.isReserve : Op → Bool
  | .reserve .. => true
  | _ => false

section

variable [Upstream]

/-- The callback of `admitTarget` after its checks: the request is built for the
policy, and carries the lock the manager believes in. -/
def reserveFor (l : Ledger) (policy : Policy) (members : List Member) (a : Attempt) :
    Outcome :=
  match rolloutReservationRequest a.campaign policy a.target a.acquisitionID with
  | .error e => .fail l (plainError e)
  | .ok request => reserve l policy members request

/-- One step. An action that does not fit where the manager is does nothing. -/
def World.step (s : Store) (w : World) : Action → World
  | .crash p => w.goto p .idle
  | .edit key d =>
    match w.devices.find key with
    | none => w
    | some o => w.writeDevice key (o.write
        { d with uid := o.content.uid, topologyLock := o.content.topologyLock })
  | .acquire p a now =>
    match w.procs p, w.devices.find a.key with
    | .idle, some o =>
      match acquireRead o.content a.target (a.expected now) with
      | .fail _ => w
      | .publish => w.goto p (.acquiring a now o)
      | .recovered lock => w.goto p (.recovering { a with acquisitionID := lock.acquisitionID })
    | _, _ => w
  | .publish p =>
    match w.procs p with
    | .acquiring a now seen =>
      if a.acquisitionID ∈ w.published then w
      else
        match w.devices.find a.key with
        | none => w.goto p .idle
        | some o =>
          match o.patch seen { seen.content with topologyLock := some (a.expected now) } with
          | none => w.goto p .idle
          | some o' => { (w.writeDevice a.key o').goto p (.confirming a) with
              published := insert a.acquisitionID w.published }
    | _ => w
  | .recover p policyUID policyVersion =>
    match w.procs p with
    | .recovering a =>
      match s.read w.ledger with
      | .error _ => w.goto p .idle
      | .ok l =>
        match l.find a.reservationID with
        | none => w.goto p (.releasing a)
        | some r =>
          if recoveredReservationMatches r a policyUID policyVersion then
            w.goto p (.confirming a)
          else w.goto p .idle
    | _ => w
  | .confirm p =>
    match w.procs p with
    | .confirming a =>
      match w.devices.find a.key with
      | none => w.goto p .idle
      | some o =>
        match revalidateDeviceTopologyLock o.content a.campaign a.target a.policyEpoch
            a.acquisitionID with
        | some _ => w.goto p .idle
        | none => w.goto p (.locked a)
    | _ => w
  | .enter p =>
    match w.procs p with
    | .locked a =>
      match s.read w.ledger with
      | .error _ => w.goto p .idle
      | .ok _ => w.goto p (.reserving a w.ledger)
    | _ => w
  | .check p =>
    match w.procs p with
    | .reserving a cm =>
      match w.devices.find a.key with
      | none => w.goto p .idle
      | some o =>
        match revalidateDeviceTopologyLock o.content a.campaign a.target a.policyEpoch
            a.acquisitionID with
        | some _ => w.goto p .idle
        | none => w.goto p (.admitted a cm)
    | _ => w
  | .reserve p policy members =>
    match w.procs p with
    | .admitted a cm =>
      if policy.epoch = a.policyEpoch then
        match s.commit w.ledger cm (reserveFor cm.content.ledger policy members a) with
        | .failed _ => w.goto p .idle
        | .conflict => w.goto p (.locked a)
        | .committed cm' => { w.goto p .idle with ledger := cm' }
      else w
    | _ => w
  | .release p a =>
    match w.procs p with
    | .idle => if a.acquisitionID ∈ w.published then w.goto p (.releasing a) else w
    | _ => w
  | .begin p =>
    match w.procs p with
    | .releasing a =>
      match w.devices.find a.key with
      | none => w.goto p (.begun a)
      | some o =>
        match beginReleaseRead o.content (a.expected 0) with
        | .fail _ => w.goto p .idle
        | .done => w.goto p (.begun a)
        | .patch => w.goto p (.marking a o)
    | _ => w
  | .mark p =>
    match w.procs p with
    | .marking a seen =>
      match w.devices.find a.key with
      | none => w.goto p .idle
      | some o =>
        match o.patch seen seen.content.markReleasing with
        | none => w.goto p (.releasing a)
        | some o' => (w.writeDevice a.key o').goto p (.begun a)
    | _ => w
  | .verify p =>
    match w.procs p with
    | .begun a =>
      match s.read w.ledger with
      | .error _ => w.goto p .idle
      | .ok l =>
        match releaseLedgerError l (a.expected 0) with
        | some _ => w.goto p .idle
        | none => w.goto p (.verified a)
    | _ => w
  | .look p =>
    match w.procs p with
    | .verified a =>
      match w.devices.find a.key with
      | none => w.goto p .idle
      | some o =>
        match clearReleaseRead o.content (a.expected 0) with
        | .fail _ | .done => w.goto p .idle
        | .patch => w.goto p (.clearing a o)
    | _ => w
  | .clear p =>
    match w.procs p with
    | .clearing a seen =>
      match w.devices.find a.key with
      | none => w.goto p .idle
      | some o =>
        match o.patch seen { seen.content with topologyLock := none } with
        | none => w.goto p (.begun a)
        | some o' => { (w.writeDevice a.key o').goto p .idle with
            cleared := insert a.acquisitionID w.cleared }
    | _ => w
  | .mutate p op =>
    if op.isReserve then w
    else
      match w.procs p, s.read w.ledger with
      | .idle, .ok _ => w.goto p (.mutating op w.ledger none)
      | .begun a, .ok _ => w.goto p (.mutating op w.ledger (some a))
      | _, _ => w
  | .commit p =>
    match w.procs p with
    | .mutating op cm back =>
      match s.commit w.ledger cm (op.apply cm.content.ledger) with
      | .failed _ => w.goto p .idle
      | .conflict => w.goto p (.resume back)
      | .committed cm' => { w.goto p (.resume back) with ledger := cm' }
    | _ => w

def World.run (s : Store) (w : World) (actions : List Action) : World :=
  Machine.run (World.step s) w actions

end

end VirtualKubelet.Rollout
