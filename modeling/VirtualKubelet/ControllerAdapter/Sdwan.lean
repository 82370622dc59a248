import VirtualKubelet.Api.Slot
import VirtualKubelet.Config.Writers
import VirtualKubelet.Go.Sha256

/-!
# The SD-WAN adapter

A worker session applies a `NetworkControllerConfig` to an SD-WAN manager. What
it may write there is decided by one Lease per section, which names the session
that holds the section and carries a journal of the mutations made in it: an
entry `Dispatched` is saved before a request that may change the manager, and
is only settled by the session that wrote it.

Compiling the source and comparing a resource with what was observed are
parameters; the requests to the API server and to the manager are calls. Times
are microseconds, as the API stores them.
-/

namespace VirtualKubelet.ControllerAdapter

open Go Api Program

/-! ## The Lease of a section -/

inductive ReceiptState
  | unset
  | dispatched
  | accepted
  | verified
  | other (text : String)
  deriving DecidableEq

def ReceiptState.text : ReceiptState → String
  | .unset => ""
  | .dispatched => "Dispatched"
  | .accepted => "Accepted"
  | .verified => "Verified"
  | .other text => text

structure MutationReceipt where
  state : ReceiptState := .unset
  id : String := ""
  deriving DecidableEq

def MutationReceipt.jsonSize (r : MutationReceipt) : Nat :=
  let state := jsonMemberSize "state" (jsonStringSize r.state.text)
  if r.id = "" then jsonSeqSize {state}
  else jsonSeqSize {state, jsonMemberSize "id" (jsonStringSize r.id)}

abbrev SectionJournal := Go.Map MutationReceipt

namespace SectionJournal

def receipt (j : SectionJournal) (key : String) : MutationReceipt := j.get {} key

/-- Some mutation was dispatched and its outcome is not recorded. -/
def Unsettled (j : SectionJournal) : Prop := ¬ j.Every fun _ r => r.state ≠ .dispatched

instance (j : SectionJournal) : Decidable j.Unsettled := inferInstanceAs (Decidable (¬ _))

def jsonSize (j : SectionJournal) : Nat :=
  jsonSeqSize (j.entries.map fun e => jsonMemberSize e.1 e.2.jsonSize)

end SectionJournal

/-- A coordination Lease with the two annotations of a section. -/
structure Lease where
  holderIdentity : Option String := none
  leaseDurationSeconds : Option Int := none
  acquireTime : Option Int := none
  renewTime : Option Int := none
  /-- Empty if the annotation is missing. -/
  configUID : String := ""
  /-- `none` if the annotation is missing or no journal. -/
  journal : Option SectionJournal := none
  deriving DecidableEq

def leaseSeconds : Int := 90

def microsPerSecond : Int := 1000000

/-! ## Requests -/

structure Resource where
  key : String
  «section» : String
  /-- Its kind, its name and the body to write. -/
  document : String
  deriving DecidableEq

structure Observation where
  id : String
  body : String
  attached : Bool
  deriving DecidableEq

inductive Phase
  | failed
  | inSync
  | drifted
  | leaseBlocked
  | applying
  deriving DecidableEq

inductive Request
  | now
  | getLease (name : String)
  | createLease (name : String) (lease : Lease)
  | updateLease (name : String) (copy : Object Lease) (lease : Lease)
  /-- The controller object is the one the adapter was started for, and active. -/
  | live
  /-- `live`, and the config and its source are still the ones read. -/
  | guard
  | validateConfigContract
  /-- The text under the key of the ConfigMap that the config refers to. -/
  | readSource
  /-- The version of the manager. -/
  | discover
  | observe (r : Resource)
  | create (r : Resource)
  | update (r : Resource) (o : Observation)
  | patchStatus (phase : Phase) (reason : String) (count : Nat)

abbrev Reply : Request → Type
  | .now => Int
  | .getLease _ | .createLease .. | .updateLease .. => Answer (Object Lease)
  | .live | .guard | .validateConfigContract => Bool
  | .readSource | .discover => Option String
  | .observe _ => Except Unit (Option Observation)
  | .create _ => Except Unit String
  | .update .. => Except Unit Unit
  | .patchStatus .. => Unit

abbrev Adapter (α : Type) := Program Request Reply α

def ask (c : Request) : Adapter (Reply c) := request c

/-! ## `SectionLease` -/

structure SectionLease where
  controllerUID : String
  scope : String
  «section» : String
  configUID : String
  session : String

/-- A section that was acquired: its Lease as last written, and the journal. -/
structure Claim where
  lease : Object Lease
  journal : SectionJournal
  deriving DecidableEq

def errSectionOwned : String := "controller section is owned or has an unresolved mutation"

namespace SectionLease

variable (s : SectionLease)

def name : String :=
  "cvk-section-" ++ sha256Hex 5 (s.controllerUID ++ "\x00" ++ s.scope ++ "\x00" ++ s.section)

def incomplete : Bool :=
  s.controllerUID = "" || s.configUID = "" || s.session = "" || s.scope = "" || s.section = ""

def created (now : Int) : Lease where
  holderIdentity := some s.session
  leaseDurationSeconds := some leaseSeconds
  acquireTime := some now
  renewTime := some now
  configUID := s.configUID
  journal := some ∅

def takenOver (lease : Lease) (now : Int) : Lease :=
  { lease with
    holderIdentity := some s.session
    renewTime := some now
    leaseDurationSeconds := some leaseSeconds }

def create (now : Int) : Adapter (Except String Claim) := do
  match ← ask (.createLease s.name (s.created now)) with
  | .error e => pure (.error e.text)
  | .ok l => pure (.ok ⟨l, ∅⟩)

def take (l : Object Lease) (j : SectionJournal) (now : Int) : Adapter (Except String Claim) := do
  match ← ask (.updateLease s.name l (s.takenOver l.content now)) with
  | .error e => pure (.error e.text)
  | .ok l => pure (.ok ⟨l, j⟩)

def acquire : Adapter (Except String Claim) :=
  if s.incomplete then pure (.error "incomplete section ownership identity") else do
  let read ← ask (.getLease s.name)
  let now ← ask .now
  match read with
  | .error e => if e.reason = .notFound then s.create now else pure (.error e.text)
  | .ok l =>
    match l.content.journal with
    | none => pure (.error errSectionOwned)
    | some j =>
      if l.content.configUID ≠ s.configUID then pure (.error errSectionOwned) else
      match l.content.holderIdentity, l.content.renewTime, l.content.leaseDurationSeconds with
      | some holder, some renewTime, some duration =>
        if holder = s.session then s.take l j now
        else if j.Unsettled then pure (.error errSectionOwned)
        else do
          let later ← ask .now
          if later < renewTime + duration * microsPerSecond then
            pure (.error errSectionOwned)
          else s.take l j now
      | _, _, _ => pure (.error errSectionOwned)

/-- Fences remote dispatch against fresh API-server Lease state. -/
def check (l : Object Lease) : Adapter (Except String Unit) := do
  match ← ask (.getLease s.name) with
  | .error e => pure (.error e.text)
  | .ok live =>
    if live.resourceVersion ≠ l.resourceVersion || live.content.holderIdentity ≠ some s.session ||
        live.content.configUID ≠ s.configUID then pure (.error errSectionOwned) else
    match live.content.renewTime, live.content.leaseDurationSeconds with
    | some renewTime, some duration => do
        if (← ask .now) < renewTime + duration * microsPerSecond then pure (.ok ())
        else pure (.error errSectionOwned)
    | _, _ => pure (.error errSectionOwned)

/-- `Save` starts with the very test that `Check` makes. -/
def save (l : Object Lease) (j : SectionJournal) : Adapter (Except String Claim) := do
  match ← s.check l with
  | .error text => pure (.error text)
  | .ok () =>
    if j.len > 128 then pure (.error "section journal resource limit exceeded") else
    if j.jsonSize > 60000 then pure (.error "section journal size exceeded") else do
    let now ← ask .now
    match ← ask (.updateLease s.name l
        { l.content with journal := some j, renewTime := some now }) with
    | .error e => pure (.error e.text)
    | .ok l => pure (.ok ⟨l, j⟩)

end SectionLease

/-! ## The client of the manager -/

def isIDChar (c : Char) : Bool :=
  ('A' ≤ c && c ≤ 'Z') || ('a' ≤ c && c ≤ 'z') || ('0' ≤ c && c ≤ '9') || c = '_' || c = '-'

def validID (id : String) : Bool :=
  1 ≤ id.length && id.length ≤ 128 && id.toList.all isIDChar

section Client

variable (s : SectionLease) (l : Object Lease)

/-- The guard of a mutation: the Lease first, then the authorization. -/
def mutationGuard : Adapter Bool := do
  match ← s.check l with
  | .error _ => pure false
  | .ok () => ask .guard

/-- The guard is asked before the wait for the rate limit and again after it. -/
def guarded {α : Type} (send : Adapter (Except Unit α)) : Adapter (Except Unit α) := do
  if !(← mutationGuard s l) then pure (.error ())
  else if !(← mutationGuard s l) then pure (.error ())
  else send

def remoteCreate (r : Resource) : Adapter (Except Unit String) := guarded s l (ask (.create r))

def remoteUpdate (r : Resource) (o : Observation) : Adapter (Except Unit Unit) :=
  if !validID o.id || o.attached then pure (.error ()) else guarded s l (ask (.update r o))

end Client

/-! ## The reconciliation of one config -/

/-- `Compile`, and `Equal` with its error. -/
structure Model where
  compile : String → Option (List Resource)
  equal : Resource → String → Option Bool

inductive RetentionPolicy
  | retain
  | delete
  deriving DecidableEq

inductive Source
  | inline (raw : String)
  | configMapRef
  | missing
  deriving DecidableEq

structure NetworkControllerConfig where
  uid : String
  scope : String
  secretRefs : List String
  prunePolicy : RetentionPolicy
  deletionPolicy : RetentionPolicy
  source : Source
  managedSections : List String
  /-- The apply mode, and not one that only observes. -/
  apply : Bool
  deriving DecidableEq

/-- One reconciliation: the adapter's session and controller, and the config. -/
structure Job where
  session : String
  controllerUID : String
  config : NetworkControllerConfig
  deriving DecidableEq

def qualifiedVersion (v : String) : Bool := v = "20.18.2.2"

def resourceKey (r : Resource) : String := sha256Hex 8 r.key

abbrev Claims := Go.Map Claim

def receiptOf (claims : Claims) (r : Resource) : MutationReceipt :=
  match claims.find r.section with
  | none => {}
  | some claim => claim.journal.receipt (resourceKey r)

def publish (phase : Phase) (reason : String) (count : Nat) : Adapter Unit := do
  if ← ask .guard then ask (.patchStatus phase reason count) else pure ()

def fail (reason : String) : Adapter Unit := publish .failed reason 0

namespace Model

variable (m : Model)

abbrev Seen := Resource × Option Observation

def inSync (seen : Seen) : Bool :=
  match seen.2 with
  | none => false
  | some o => m.equal seen.1 o.body = some true

def observeAll : List Resource → Adapter (Option (List Seen))
  | [] => pure (some [])
  | r :: rest => do
      match ← ask (.observe r) with
      | .error _ => pure none
      | .ok none => pure ((← observeAll rest).map ((r, none) :: ·))
      | .ok (some o) =>
        match m.equal r o.body with
        | none => pure none
        | some _ => pure ((← observeAll rest).map ((r, some o) :: ·))

/-- What stands against the plan at one resource. -/
def verdict (claims : Claims) (total : Nat) (seen : Seen) : Option (Phase × String × Nat) :=
  let receipt := receiptOf claims seen.1
  if receipt.state = .dispatched then some (.failed, "OutcomeUnknown", 0) else
  match seen.2 with
  | none => if receipt.state = .accepted then some (.applying, "AwaitingReadback", total) else none
  | some o =>
    if receipt.id ≠ o.id || receipt.state = .unset then some (.failed, "UnownedResource", 0)
    else if o.attached && m.equal seen.1 o.body ≠ some true then
      some (.failed, "AttachedResourceUnsupported", 0)
    else none

end Model

namespace Job

variable (m : Model) (k : Job)

def lock («section» : String) : SectionLease :=
  ⟨k.controllerUID, "global", «section», k.config.uid, k.session⟩

def unsupported : Bool :=
  (k.config.scope ≠ "" && k.config.scope ≠ "global") || !k.config.secretRefs.isEmpty ||
    k.config.prunePolicy = .delete || k.config.deletionPolicy = .delete

/-- The source text. A config with neither source reads as empty. -/
def read : Adapter (Option String) :=
  match k.config.source with
  | .inline raw => pure (some raw)
  | .configMapRef => ask .readSource
  | .missing => pure (some "")

def acquireAll : List String → Claims → Adapter (Option Claims)
  | [], claims => pure (some claims)
  | name :: rest, claims => do
      match ← (k.lock name).acquire with
      | .error _ => pure none
      | .ok claim => acquireAll rest (claims.set name claim)

/-- What was accepted is read back. -/
def readBack (claim : Claim) (r : Resource) (id : String) (total : Nat) : Adapter Unit := do
  match ← ask (.observe r) with
  | .ok (some o) =>
    if o.id ≠ id || m.equal r o.body ≠ some true then fail "VerificationFailed" else
    match ← (k.lock r.section).save claim.lease
        (claim.journal.set (resourceKey r) ⟨.verified, id⟩) with
    | .error _ => fail "OwnershipChanged"
    | .ok _ => publish .applying "ResourceVerified" total
  | _ => fail "VerificationFailed"

def dispatch (claim : Claim) (r : Resource) : Option Observation → Adapter (Except Unit String)
  | none => remoteCreate (k.lock r.section) claim.lease r
  | some o => do
      return (← remoteUpdate (k.lock r.section) claim.lease r o).map fun _ => o.id

/-- The one mutation of a reconciliation, journalled before and after. -/
def mutate (claim : Claim) (r : Resource) (o : Option Observation) (total : Nat) :
    Adapter Unit := do
  let receipt : MutationReceipt := ⟨.dispatched, (o.map (·.id)).getD ""⟩
  let journal := claim.journal.set (resourceKey r) receipt
  if !(← ask .guard) then pure () else
  match ← (k.lock r.section).save claim.lease journal with
  | .error _ => fail "OwnershipChanged"
  | .ok saved => do
      if !(← ask .guard) then pure () else
      match ← k.dispatch saved r o with
      | .error _ => fail "OutcomeUnknown"
      | .ok id =>
        match ← (k.lock r.section).save saved.lease
            (saved.journal.set (resourceKey r) ⟨.accepted, id⟩) with
        | .error _ => fail "OutcomeUnknown"
        | .ok accepted => k.readBack m accepted r id total

/-- The plan in order, up to the first resource that is not in sync. -/
def applyAll (total : Nat) : List Model.Seen → Claims → Adapter Unit
  | [], _ => publish .inSync "Verified" total
  | (r, o) :: rest, claims =>
    match claims.find r.section with
    | none => pure ()
    | some claim =>
      if m.inSync (r, o) then
        let receipt := claim.journal.receipt (resourceKey r)
        if receipt.state = .accepted then do
          match ← (k.lock r.section).save claim.lease
              (claim.journal.set (resourceKey r) { receipt with state := .verified }) with
          | .error _ => fail "OwnershipChanged"
          | .ok saved => applyAll total rest (claims.set r.section saved)
        else applyAll total rest claims
      else k.mutate m claim r o total

/-- Check the entire plan before the first mutation. -/
def applyPlan (seen : List Model.Seen) : Adapter Unit := do
  match ← k.acquireAll (Config.sortStrings k.config.managedSections) ∅ with
  | none => publish .leaseBlocked "SectionOwned" seen.length
  | some claims =>
    match seen.findSome? (m.verdict claims seen.length) with
    | some (phase, reason, count) => publish phase reason count
    | none => k.applyAll m seen.length seen claims

def settle (resources : List Resource) : Adapter Unit := do
  match ← m.observeAll resources with
  | none => fail "ObservationFailed"
  | some seen =>
    if k.config.apply then k.applyPlan m seen
    else publish (if seen.all m.inSync then .inSync else .drifted) "Observed" resources.length

def reconcile : Adapter Unit := do
  if !(← ask .live) then pure () else
  if !(← ask .validateConfigContract) then fail "InvalidContract" else
  if k.unsupported then fail "UnsupportedPolicy" else
  match ← k.read with
  | none => fail "SourceUnavailable"
  | some data =>
    match m.compile data with
    | none => fail "UnsupportedOrInvalidModel"
    | some resources =>
      if resources.any fun r => !k.config.managedSections.contains r.section then
        fail "UnmanagedSourceSection"
      else do
        match ← ask .discover with
        | none => fail "ObservationFailed"
        | some version =>
          if !qualifiedVersion version then fail "UnsupportedManagerVersion"
          else k.settle m resources

end Job

end VirtualKubelet.ControllerAdapter
