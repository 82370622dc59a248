import VirtualKubelet.Config.Transport
import VirtualKubelet.Go.Map

/-!
# The configuration engine

`reconcile` is one tick of the engine over a resolved intent: it fetches each
managed family from the device, plans the operations that would bring it to the
declared state, applies and verifies them unless the drift policy forbids it,
pushes the CLI blocks, and ends a transaction it opened with a commit or a
discard. The deferred calls of the source are written out where they take
effect: the transaction is discarded, and then the maintenance barrier is
told the outcome, after the result is known.

Writers are arbitrary. A writer's `Fetch` is a program that only reads, its
`Apply` a program over the calls of the view it is handed, and what they do
with the replies is theirs. The optional interfaces a writer may implement are
optional fields.
-/

namespace VirtualKubelet.Config

open Go

/-- Text and digests whose form no decision of the engine depends on. -/
class Rendering where
  redactCredentials : String → String
  stableHash : Value → String
  stableHashMap : Map String → String

export Rendering (redactCredentials stableHash stableHashMap)

/-! ## The intent -/

/-- The values the API accepts; an empty policy was replaced by `revert` when
the intent was resolved. -/
inductive DriftPolicy
  | revert
  | report
  | pause
  deriving DecidableEq

structure CLIBlock where
  templateName : String
  cli : String

structure ResolvedIntent where
  managedFamilies : List String
  configuration : Map Value
  modelVersion : String := ""
  transactional : Bool := false
  driftPolicy : DriftPolicy := .revert
  writeStartup : Bool := false
  pruneOnRelinquish : Bool := false
  targetYangVersion : String := ""
  confirmTimeoutSeconds : Int := 0
  atomicReplace : Bool := false
  atomicReplaceOwnedKeys : Map (List String) := ∅
  cliBlocks : List CLIBlock := []

/-- `res.Configuration[family]`, nil when the family has no block. -/
def ResolvedIntent.desired (res : ResolvedIntent) (family : String) : Value :=
  (res.configuration.find family).getD .nil

/-- `res.AtomicReplaceOwnedKeys[family]`. -/
def ResolvedIntent.ownedKeys (res : ResolvedIntent) (family : String) : List String :=
  (res.atomicReplaceOwnedKeys.find family).getD []

/-! ## Writers -/

structure DiffContext where
  platform : String
  deviceVersion : String
  modelVersion : String

structure SectionWriter where
  yangPaths : List String := []
  writePrefixes : List String := []
  fetch : Reading (Except Failure Value)
  diff : Value → Value → Except Failure (List Op)
  apply : List Op → Writing (Option Failure)
  /-- `ContextualDiffer`. -/
  diffWithContext : Option (DiffContext → Value → Value → Except Failure (List Op)) := none
  /-- `PruneCapable`. -/
  pruneDiff : Option (Value → Value → Except Failure (List Op)) := none
  /-- `KeyExtractable`. -/
  keysOf : Option (Value → List String) := none

/-- `writers.Diff`. -/
def SectionWriter.diffIn (ctx : DiffContext) (w : SectionWriter) (desired observed : Value) :
    Except Failure (List Op) :=
  match w.diffWithContext with
  | some contextual => contextual ctx desired observed
  | none => w.diff desired observed

/-! ## The result of a tick -/

inductive FamilyState
  | inSync
  | drifted
  | applyError
  | skipped
  | unsupported
  deriving DecidableEq

def FamilyState.text : FamilyState → String
  | inSync => "InSync"
  | drifted => "Drifted"
  | applyError => "ApplyError"
  | skipped => "Skipped"
  | unsupported => "Unsupported"

structure FamilyStatus where
  name : String
  state : FamilyState
  message : String := ""
  opCount : Nat := 0
  plannedOps : Nat := 0
  appliedOps : Nat := 0
  verified : Bool := false
  observedHash : String := ""
  ownedKeys : List String := []
  deriving DecidableEq

inductive Phase
  | pending
  | validating
  | planning
  | applying
  | verifying
  | inSync
  | drifted
  | failed
  | paused
  | leaseBlocked
  deriving DecidableEq

structure DriftEntry where
  family : String
  path : String
  desired : String
  observed : String := ""
  deriving DecidableEq

structure Result where
  phase : Phase
  familyStatuses : List FamilyStatus := []
  drift : List DriftEntry := []
  err : Option String := none
  yangVersion : String := ""
  saveStartupOK : Bool := false
  saveStartupErr : Option String := none
  deviceTouched : Bool := false
  atomicReplaceOwnedKeys : Map (List String) := ∅
  confirmedCommitFallback : String := ""
  confirmedCommitUsed : Bool := false
  plannedOps : Nat := 0
  appliedOps : Nat := 0
  postApplyObservedHash : String := ""
  verifiedFamilies : List String := []

def errTransactionalCLIUnsupported : String :=
  "transactional NETCONF apply does not support CLI template blocks: " ++
    "Cisco-IA cli-config-data writes directly to running and cannot be " ++
    "rolled back via candidate-datastore Discard"

/-! ## The engine -/

structure ReconcilePolicy where
  stopOnRevertFailure : Bool := false

inductive ValidationMode
  | disabled
  | warn
  | strict
  deriving DecidableEq

structure ValidationContext where
  platform : String
  family : String
  deviceVersion : String
  releaseTag : String
  modelVersion : String
  allowedPaths : List String
  allowedWritePrefixes : List String

/-- The ordering hook, which "MUST return a permutation of the input". -/
structure FamilyOrder where
  order : List String → List String
  perm : ∀ families, (order families).Perm families

structure Engine where
  platform : String := ""
  policy : ReconcilePolicy := {}
  transport : Option Transport
  acquireMutation : Bool := false
  lookup : Option (String → String → Option SectionWriter)
  deviceVersion : String := ""
  familyOrder : Option FamilyOrder := none
  yangValidator : Option (ValidationContext → Op → Option Failure) := none
  yangValidationMode : ValidationMode := .disabled
  retryPolicy : RetryPolicy := {}

namespace Engine

/-- `validate`, with the transport it found. -/
def validate (e : Engine) (res : ResolvedIntent) : Except String Transport :=
  match e.transport with
  | none => .error "Transport not configured"
  | some t =>
    if e.lookup.isNone then .error "writer Lookup not configured"
    else if res.managedFamilies.isEmpty then .error "ManagedFamilies is empty"
    else .ok t

def lookupWriter (e : Engine) (family : String) : Option SectionWriter :=
  match e.lookup with
  | none => none
  | some lookup => lookup family e.deviceVersion

def diff (e : Engine) (res : ResolvedIntent) (w : SectionWriter) (desired observed : Value) :
    Except Failure (List Op) :=
  w.diffIn
    { platform := e.platform, deviceVersion := e.deviceVersion, modelVersion := res.modelVersion }
    desired observed

/-! ### Pruning what the object owned -/

/-- The value of a decoded entry holding only its key. The separator is looked
for past the first character. -/
def stubEntryFromKey (k : String) : Fields :=
  match k.toList.span (· ≠ '=') with
  | (first :: before, '=' :: after) =>
    [("type", .text (String.ofList (first :: before))), ("name", .text (String.ofList after))]
  | _ => [("name", .text k), ("id", .text k), ("sequence", .text k)]

/-- The keys `scopeObservedToOwned` keeps: those previously owned or desired,
each once, in the order in which they were observed. -/
def scopedKeys (observed desired owned : List String) : List String :=
  (observed.filter fun k => owned.contains k || desired.contains k).eraseDups

def scopeObservedToOwned (keysOf : Value → List String) (observed desired : Value)
    (priorOwned : List String) : Value :=
  let observedKeys := keysOf observed
  if observedKeys.isEmpty then observed
  else .maps ((scopedKeys observedKeys (keysOf desired) priorOwned).map stubEntryFromKey)

/-- The prune half of a family's plan, for an intent that prunes. The inner
error is the one of a writer that can prune but not name its keys. -/
def pruneOps (family : String) (res : ResolvedIntent) (w : SectionWriter)
    (desired observed : Value) : Except (Option Failure) (List Op) :=
  if !res.pruneOnRelinquish then .ok []
  else
    match w.pruneDiff, w.keysOf with
    | none, _ => .ok []
    | some _, none => .error none
    | some pruneDiff, some keysOf =>
      match pruneDiff desired
          (scopeObservedToOwned keysOf observed desired (res.ownedKeys family)) with
      | .error err => .error (some err)
      | .ok ops => .ok ops

/-! ### Checking the planned operations -/

def validationContext (e : Engine) (family : String) (res : ResolvedIntent)
    (w : SectionWriter) : ValidationContext where
  platform := e.platform
  family := family
  deviceVersion := e.deviceVersion
  releaseTag := res.targetYangVersion
  modelVersion := res.modelVersion
  allowedPaths := w.yangPaths
  allowedWritePrefixes := w.writePrefixes

/-- The loop of `validateYANGOps` from operation `i` on: a warning lets the
operation pass. -/
def firstInvalid (validator : ValidationContext → Op → Option Failure) (mode : ValidationMode)
    (ctx : ValidationContext) : Nat → List Op → Option String
  | _, [] => none
  | i, op :: ops =>
    match validator ctx op with
    | some err =>
      if mode = .warn then firstInvalid validator mode ctx (i + 1) ops
      else some ("op[" ++ toString i ++ "]: " ++ err.message)
    | none => firstInvalid validator mode ctx (i + 1) ops

def validateYANGOps (e : Engine) (family : String) (res : ResolvedIntent) (w : SectionWriter)
    (ops : List Op) : Option String :=
  match e.yangValidator with
  | none => none
  | some validator =>
    if e.yangValidationMode = .disabled then none
    else firstInvalid validator e.yangValidationMode (e.validationContext family res w) 0 ops

variable [Rendering]

/-! ### One family -/

def applyError (family message : String) : FamilyStatus where
  name := family
  state := .applyError
  message := redactCredentials message

/-- The status of a family whose operations were handed to `Apply`. -/
def attempted (family : String) (ops : List Op) (state : FamilyState) (message : String) :
    FamilyStatus where
  name := family
  state := state
  message := message
  opCount := ops.length
  plannedOps := ops.length
  appliedOps := ops.length

/-- From the observed state to the operations of this tick, or the status a
family ends with when the plan cannot be made. -/
def plan (e : Engine) (family : String) (res : ResolvedIntent) (w : SectionWriter)
    (desired observed : Value) : Except FamilyStatus (List Op) :=
  match e.diff res w desired observed with
  | .error err => .error (applyError family ("Diff: " ++ err.message))
  | .ok ops =>
    match pruneOps family res w desired observed with
    | .error none => .error {
        name := family
        state := .unsupported
        message := redactCredentials ("family " ++ family ++
          " is PruneCapable but not KeyExtractable; " ++
          "pruneOnRelinquish requires both so deletes can be " ++
          "scoped to CR-owned keys. Add KeysOf to the writer " ++
          "or remove pruneOnRelinquish from the CR.") }
    | .error (some err) => .error (applyError family ("PruneDiff: " ++ err.message))
    | .ok prune =>
      match e.validateYANGOps family res w (ops ++ prune) with
      | some err => .error (applyError family ("operation validation: " ++ err))
      | none => .ok (ops ++ prune)

/-- What is left to do on a verified state: the residual of the diff and, for
an intent that prunes, of the prune. A writer without keys is skipped here. -/
def residual (e : Engine) (family : String) (res : ResolvedIntent) (w : SectionWriter)
    (desired verify : Value) : Except String (List Op) :=
  match e.diff res w desired verify with
  | .error err => .error ("Verify: re-diff failed: " ++ err.message)
  | .ok ops =>
    match pruneOps family res w desired verify with
    | .error none => .ok ops
    | .error (some err) => .error ("Verify: prune re-diff failed: " ++ err.message)
    | .ok prune => .ok (ops ++ prune)

/-- The second half of `reconcileFamily`: hand the operations to the writer,
fetch again through the same view, and compare. -/
def applyAndVerify (e : Engine) (t : Transport) (view : View) (family : String)
    (res : ResolvedIntent) (w : SectionWriter) (desired : Value) (ownedKeys : List String)
    (ops : List Op) : Tick FamilyStatus := do
  match ← view.write t (w.apply ops) with
  | some err =>
    pure (attempted family ops .applyError (redactCredentials ("Apply: " ++ err.message)))
  | none =>
    match ← retryIdempotent (view.read t w.fetch) (e.retryPolicy.attempts - 1) with
    | .error err =>
      pure (attempted family ops .applyError
        (redactCredentials ("Verify: re-fetch failed: " ++ err.message)))
    | .ok verify =>
      match e.residual family res w desired verify with
      | .error err => pure (attempted family ops .applyError (redactCredentials err))
      | .ok [] => pure { attempted family ops .inSync "" with
          verified := true
          observedHash := stableHash verify
          ownedKeys := ownedKeys }
      | .ok (op :: rest) =>
        pure { attempted family ops .drifted (toString ops.length ++ " op(s) applied but " ++
            toString (op :: rest).length ++ " still pending") with
          verified := true
          observedHash := stableHash verify
          ownedKeys := ownedKeys }

def reconcileFamily (e : Engine) (t : Transport) (view : View) (family : String)
    (res : ResolvedIntent) : Tick FamilyStatus :=
  match e.lookupWriter family with
  | none => pure {
      name := family
      state := .unsupported
      message := redactCredentials ("no writer registered for family " ++ quote family) }
  | some w => do
      let desired := res.desired family
      let ownedKeys := match w.keysOf with
        | some keysOf => keysOf desired
        | none => []
      match ← retryIdempotent (View.direct.read t w.fetch) (e.retryPolicy.attempts - 1) with
      | .error err => pure (applyError family ("Fetch: " ++ err.message))
      | .ok observed =>
        match e.plan family res w desired observed with
        | .error status => pure status
        | .ok [] => pure {
            name := family
            state := .inSync
            verified := true
            observedHash := stableHash observed
            ownedKeys := ownedKeys }
        | .ok (op :: rest) =>
          if res.driftPolicy = .report then pure {
            name := family
            state := .drifted
            opCount := (op :: rest).length
            plannedOps := (op :: rest).length
            message := redactCredentials ("driftPolicy=report: " ++
              toString (op :: rest).length ++ " op(s) detected as drift but not applied; " ++
              "switch to driftPolicy=revert to reconcile") }
          else e.applyAndVerify t view family res w desired ownedKeys (op :: rest)

/-! ### The family loop -/

def shouldStopAfterFamily (e : Engine) (driftPolicy : DriftPolicy) (state : FamilyState) : Bool :=
  if !e.policy.stopOnRevertFailure || driftPolicy != .revert then false
  else
    match state with
    | .applyError | .unsupported | .drifted => true
    | .inSync | .skipped => false

/-- `allFamiliesEmpty` on one block: no inner list of it has an element. -/
def emptyBlock : Value → Bool
  | .map fields => fields.all fun field =>
    match field.2 with
    | .list items => items.isEmpty
    | .maps items => items.isEmpty
    | _ => true
  | .list items => items.isEmpty
  | _ => true

def allFamiliesEmpty (res : ResolvedIntent) (families : List String) : Bool :=
  res.configuration.len == 0 || families.all fun family => emptyBlock (res.desired family)

/-- The order in which the families are processed: the hook's, reversed for a
replacement whose intent is empty. -/
def processingOrder (e : Engine) (res : ResolvedIntent) : List String :=
  let families := match e.familyOrder with
    | none => res.managedFamilies
    | some hook => hook.order res.managedFamilies
  if res.atomicReplace && decide (1 < families.length) && allFamiliesEmpty res families then
    families.reverse
  else families

/-- What the loop has gathered: the result so far and the flags. -/
structure Progress where
  result : Result
  anyDrift : Bool := false
  anyFailure : Bool := false
  failFastHalted : Bool := false
  verifiedHashes : Map String := ∅

def Progress.note (p : Progress) (family : String) (fs : FamilyStatus) : Progress where
  result := { p.result with
    familyStatuses := p.result.familyStatuses ++ [fs]
    plannedOps := p.result.plannedOps + fs.plannedOps
    appliedOps := p.result.appliedOps + fs.appliedOps
    verifiedFamilies :=
      if fs.verified then p.result.verifiedFamilies ++ [fs.name] else p.result.verifiedFamilies
    drift :=
      if fs.state = .drifted then
        p.result.drift ++ [{ family := family, path := "(family-level)", desired := "intent",
                             observed := "device" }]
      else p.result.drift
    atomicReplaceOwnedKeys :=
      if fs.ownedKeys.isEmpty then p.result.atomicReplaceOwnedKeys
      else p.result.atomicReplaceOwnedKeys.set family fs.ownedKeys }
  anyDrift := p.anyDrift || fs.state == .drifted
  anyFailure := p.anyFailure || fs.state == .applyError || fs.state == .unsupported
  failFastHalted := p.failFastHalted
  verifiedHashes :=
    if fs.verified && fs.observedHash != "" then p.verifiedHashes.set fs.name fs.observedHash
    else p.verifiedHashes

def skippedStatus (failed : String) (state : FamilyState) (family : String) : FamilyStatus where
  name := family
  state := .skipped
  message := redactCredentials ("not attempted: fail-fast after family " ++ quote failed ++
    " returned " ++ state.text ++ " under driftPolicy=revert")

/-- The families after one that stopped the loop. -/
def Progress.halt (p : Progress) (failed : String) (state : FamilyState) (rest : List String) :
    Progress :=
  { p with
    failFastHalted := true
    result := { p.result with
      familyStatuses := p.result.familyStatuses ++ rest.map (skippedStatus failed state) } }

def reconcileFamilies (e : Engine) (t : Transport) (view : View) (res : ResolvedIntent) :
    List String → Progress → Tick Progress
  | [], p => pure p
  | family :: rest, p => do
      let fs ← e.reconcileFamily t view family res
      let p := p.note family fs
      if e.shouldStopAfterFamily res.driftPolicy fs.state then pure (p.halt family fs.state rest)
      else e.reconcileFamilies t view res rest p

/-! ### CLI blocks -/

def countCLILines (cli : String) : Nat :=
  ((cli.toList.splitOn '\n').filter fun line => !blank (String.ofList line)).length

def cliName (block : CLIBlock) : String := "cli:" ++ block.templateName

def applyCLIBlock (view : View) (block : CLIBlock) : Tick FamilyStatus := do
  match ← view.mutate "" [{ verb := .cli, body := block.cli }] with
  | some err => pure {
      name := cliName block
      state := .applyError
      opCount := countCLILines block.cli
      message := redactCredentials ("Apply: " ++ err.message) }
  | none => pure {
      name := cliName block
      state := .inSync
      opCount := countCLILines block.cli }

def pushCLIBlocks (view : View) : List CLIBlock → Progress → Tick Progress
  | [], p => pure p
  | block :: rest, p => do
      let fs ← applyCLIBlock view block
      pushCLIBlocks view rest { p with
        anyFailure := p.anyFailure || fs.state == .applyError
        result := { p.result with familyStatuses := p.result.familyStatuses ++ [fs] } }

omit [Rendering] in
def withheldStatus (block : CLIBlock) : FamilyStatus where
  name := cliName block
  state := .drifted
  opCount := countCLILines block.cli
  message := "CLI block withheld under driftPolicy=report"

omit [Rendering] in
/-- Under `report`, CLI blocks are drift. -/
def Progress.withhold (p : Progress) (blocks : List CLIBlock) : Progress :=
  { p with
    anyDrift := p.anyDrift || !blocks.isEmpty
    result := { p.result with
      familyStatuses := p.result.familyStatuses ++ blocks.map withheldStatus
      drift := p.result.drift ++ blocks.map fun block =>
        { family := cliName block, path := "(cli block)", desired := "cli template output" } } }

def applyCLIBlocks (view : View) (res : ResolvedIntent) (p : Progress) : Tick Progress :=
  if !p.anyFailure && !p.failFastHalted && res.driftPolicy != .report then
    pushCLIBlocks view res.cliBlocks p
  else if res.driftPolicy = .report then pure (p.withhold res.cliBlocks)
  else pure p

/-! ### Phase, commit, startup configuration -/

/-- The phase the statuses call for, with the hash over what was verified. -/
def Progress.conclude (p : Progress) (driftPolicy : DriftPolicy) : Result :=
  let result := { p.result with
    postApplyObservedHash :=
      if p.verifiedHashes.len = 0 then "" else stableHashMap p.verifiedHashes }
  if p.anyFailure then
    { result with phase := .failed, err := some "one or more families failed to reconcile" }
  else if p.anyDrift && driftPolicy == .report then { result with phase := .drifted }
  else if p.anyDrift then
    { result with phase := .failed, err := some "drift persisted after revert" }
  else { result with phase := .inSync }

/-- `confirmedCommitDecision`: whether to commit tentatively, and if not, why
the request for it was not met. -/
def confirmedCommitDecision (t : Transport) (res : ResolvedIntent) : Bool × String :=
  if res.confirmTimeoutSeconds ≤ 0 then (false, "")
  else if !t.confirmedCommitter then (false, "transport does not implement ConfirmedCommitter")
  else if !t.capabilities.supportsConfirmedCommit then
    (false, "device did not advertise confirmed-commit:1.0")
  else (true, "")

section

omit [Rendering]

/-- One family of `runningVerify`, read from the running configuration. -/
def verifyRunning (e : Engine) (t : Transport) (res : ResolvedIntent) (family : String) :
    Tick Bool :=
  if e.lookup.isNone then pure false
  else
    match e.lookupWriter family with
    | none => pure true
    | some w => do
        match ← View.direct.read t w.fetch with
        | .error _ => pure false
        | .ok observed =>
          match res.configuration.find family with
          | none => pure true
          | some desired =>
            match e.diff res w desired observed with
            | .error _ => pure false
            | .ok ops => pure ops.isEmpty

def runningVerify (e : Engine) (t : Transport) (res : ResolvedIntent) : List String → Tick Bool
  | [] => pure true
  | family :: rest => do
      if ← e.verifyRunning t res family then e.runningVerify t res rest else pure false

def fail (result : Result) (err : String) : Result :=
  { result with phase := .failed, err := some err }

/-- The end of a transaction: the result, and whether it was committed. -/
def commitTransaction (e : Engine) (t : Transport) (tx : TxHandle) (res : ResolvedIntent)
    (result : Result) : Tick (Result × Bool) :=
  match confirmedCommitDecision t res with
  | (true, _) => do
      match ← Tick.commitConfirmed tx (res.confirmTimeoutSeconds * 1000000000) with
      | some err => pure (fail result ("CommitConfirmed: " ++ err.message), false)
      | none =>
        if ← e.runningVerify t res res.managedFamilies then
          match ← Tick.confirmCommit with
          | some err => pure (fail result ("ConfirmCommit: " ++ err.message), false)
          | none => pure ({ result with confirmedCommitUsed := true }, true)
        else pure (fail result ("running-verify failed after CommitConfirmed; " ++
          "device will auto-revert at confirm-timeout"), false)
  | (false, fallbackReason) => do
      let result := { result with confirmedCommitFallback := fallbackReason }
      match ← Tick.commit tx with
      | some err => pure (fail result ("Commit: " ++ err.message), false)
      | none => pure (result, true)

def finishApply (e : Engine) (t : Transport) (view : View) (res : ResolvedIntent)
    (result : Result) : Tick (Result × Bool) :=
  match view with
  | .transactional tx =>
    if result.phase = .inSync then e.commitTransaction t tx res result else pure (result, false)
  | .direct =>
    if 0 < res.confirmTimeoutSeconds then
      pure ({ result with confirmedCommitFallback := "non-transactional reconcile" }, false)
    else pure (result, false)

def saveStartup (t : Transport) (res : ResolvedIntent) (result : Result) : Tick Result :=
  if result.phase == .inSync && res.writeStartup && t.capabilities.supportsSaveStartup &&
      res.driftPolicy != .report then do
    match ← Tick.saveStartup with
    | some err => pure { result with saveStartupErr := some err.message }
    | none => pure { result with saveStartupOK := true }
  else pure result

end

/-! ### The tick -/

def pruning (res : ResolvedIntent) : ResolvedIntent :=
  if res.atomicReplace then { res with pruneOnRelinquish := true } else res

def startProgress (res : ResolvedIntent) : Progress where
  result := {
    phase := .pending
    yangVersion := res.targetYangVersion
    deviceTouched := !res.managedFamilies.isEmpty }

/-- Everything between opening a transaction and leaving it: the result, and
whether the transaction was committed. -/
def applyIntent (e : Engine) (t : Transport) (view : View) (res : ResolvedIntent) :
    Tick (Result × Bool) := do
  let families ← e.reconcileFamilies t view (pruning res) (e.processingOrder (pruning res))
    (startProgress res)
  let blocks ← applyCLIBlocks view (pruning res) families
  let finished ← e.finishApply t view (pruning res) (blocks.conclude res.driftPolicy)
  let saved ← saveStartup t (pruning res) finished.1
  pure (saved, finished.2)

def transactional (t : Transport) (res : ResolvedIntent) : Bool :=
  res.transactional && t.capabilities.supportsTransactions && res.driftPolicy != .report

def transact (e : Engine) (t : Transport) (res : ResolvedIntent) : Tick Result :=
  if transactional t res then do
    match ← Tick.startTransaction with
    | .error err => pure {
        phase := .failed
        err := some ("StartTransaction: " ++ err.message)
        yangVersion := res.targetYangVersion }
    | .ok tx =>
      let applied ← e.applyIntent t (.transactional tx) res
      -- the deferred rollback of every path that did not reach a commit
      if !applied.2 then
        let _ ← Tick.discard tx
      pure applied.1
  else do
    let applied ← e.applyIntent t .direct res
    pure applied.1

/-- `errors.Join`. -/
def joinErrors : Option String → Option String → Option String
  | some a, some b => some (a ++ "\n" ++ b)
  | some a, none => some a
  | none, b => b

def guarded (e : Engine) (t : Transport) (res : ResolvedIntent) : Tick Result :=
  if transactional t res && !res.cliBlocks.isEmpty then pure {
    phase := .failed
    err := some errTransactionalCLIUnsupported
    yangVersion := res.targetYangVersion }
  else if e.acquireMutation && res.driftPolicy != .report then do
    match ← Tick.acquireMutation with
    | some err => pure {
        phase := .leaseBlocked
        err := some err.message
        yangVersion := res.targetYangVersion }
    | none =>
      let result ← e.transact t res
      let _ ← Tick.finishMutation (joinErrors result.err result.saveStartupErr)
      pure result
  else e.transact t res

def reconcile (e : Engine) : Option ResolvedIntent → Tick Result
  | none => pure { phase := .failed, err := some "engine.Reconcile: nil intent" }
  | some res =>
    if res.driftPolicy = .pause then
      pure { phase := .paused, yangVersion := res.targetYangVersion }
    else
      match e.validate res with
      | .error err => pure {
          phase := .failed
          err := some ("Validating: " ++ err)
          yangVersion := res.targetYangVersion }
      | .ok t => e.guarded t res

end Engine

end VirtualKubelet.Config
