import VirtualKubelet.Config.Hash
import VirtualKubelet.Config.Reconciler

/-!
# A tick of a config object

`reconcileOne` of the IOS-XE reconciler from its start: the intent is resolved,
overridden by a rollback or a replay and hashed, and if the object's status says
that this intent was applied last, nothing more is done. Otherwise the engine
runs and its result is recorded in the status.

What the scopes, revisions and apply logs hold when the tick reads them is its
surroundings; so are the clock, the leases and the engine.
-/

namespace VirtualKubelet.Config

open Go

/-! ## The object -/

/-- What of the spec goes into the intent as it is, and the interval of drift
checks, parsed and clamped. -/
structure ConfigSpec where
  deviceName : String
  modelVersion : String := ""
  transactional : Bool := false
  driftPolicy : DriftPolicy := .revert
  writeStartup : Bool := false
  pruneOnRelinquish : Bool := false
  confirmTimeoutSeconds : Int := 0
  atomicReplace : Bool := false
  driftDetectInterval : Time := 0

structure ConfigStatus where
  phase : Option Phase := none
  observedGeneration : Nat := 0
  lastAppliedHash : String := ""
  lastDeviceCheck : Option Time := none
  atomicReplaceOwnedKeys : Map (List String) := ∅

structure ConfigObject where
  spec : ConfigSpec
  generation : Nat := 1
  status : ConfigStatus := {}

/-! ## The surroundings -/

inductive ReconcileTrigger
  | event
  | poll
  | subscribe
  deriving DecidableEq

structure ResolvedScopes where
  managedFamilies : List String
  configuration : Map Value
  targetYangVersion : String := ""
  cliBlocks : List CLIBlock := []

/-- The body of a revision or of an entry of the apply log. -/
structure ReplayBody where
  configuration : Map Value
  cliBlocks : List CLIBlock := []

/-- What became of `spec.rollbackTo` or of the replay annotation. -/
inductive Override
  | absent
  | failed (err : String)
  | found (body : ReplayBody)

structure Surroundings where
  now : Time := 0
  trigger : ReconcileTrigger := .poll
  /-- Why the version of the device forbids to run the writers. -/
  blocked : Option String := none
  scopes : Except String ResolvedScopes
  rollback : Override := .absent
  replay : Override := .absent
  engine : Engine
  leaser : Leaser := none

/-! ## The tick -/

def ConfigObject.resolve (cr : ConfigObject) (scopes : ResolvedScopes) : DeviceIntent where
  deviceName := cr.spec.deviceName
  resolved := {
    managedFamilies := scopes.managedFamilies
    configuration := scopes.configuration
    modelVersion := cr.spec.modelVersion
    transactional := cr.spec.transactional
    driftPolicy := cr.spec.driftPolicy
    writeStartup := cr.spec.writeStartup
    pruneOnRelinquish := cr.spec.pruneOnRelinquish
    targetYangVersion := scopes.targetYangVersion
    confirmTimeoutSeconds := cr.spec.confirmTimeoutSeconds
    atomicReplace := cr.spec.atomicReplace
    atomicReplaceOwnedKeys := cr.status.atomicReplaceOwnedKeys
    cliBlocks := scopes.cliBlocks }

/-- `applyRollbackTo` and `applyReplayAnnotation`: the intent with the content
of the body, and whether there was one. -/
def Override.apply (o : Override) (i : DeviceIntent) : Option (DeviceIntent × Bool) :=
  match o with
  | .absent => some (i, false)
  | .failed _ => none
  | .found body => some ({ i with resolved := { i.resolved with
      configuration := body.configuration, cliBlocks := body.cliBlocks } }, true)

def dueForDriftCheck (cr : ConfigObject) (now : Time) : Bool :=
  match cr.status.lastDeviceCheck with
  | none => true
  | some t => cr.spec.driftDetectInterval ≤ now - t

/-- `recordFailure`, `recordRollbackFailure`, `recordPending` and
`recordDeviceVersionBlocked`, which differ in their conditions. -/
def ConfigObject.recordPhase (cr : ConfigObject) (phase : Phase) : ConfigStatus :=
  { cr.status with phase := some phase, observedGeneration := cr.generation }

def ConfigObject.recordResult (cr : ConfigObject) (result : Result) (hash : String) (now : Time) :
    ConfigStatus where
  phase := some result.phase
  observedGeneration := cr.generation
  lastAppliedHash := if result.phase = .inSync then hash else cr.status.lastAppliedHash
  lastDeviceCheck := if result.deviceTouched then some now else cr.status.lastDeviceCheck
  atomicReplaceOwnedKeys := recordOwnedKeys cr.status.atomicReplaceOwnedKeys result

/-- How a tick ended: what it writes to the status, whether it returned because
nothing had changed, and the intent if it got that far. -/
structure Ending where
  written : Option ConfigStatus := none
  shortCircuit : Bool := false
  intent : Option DeviceIntent := none

variable [Encoding] [Rendering]

def ConfigReconciler.tick (digest : List Char → String) (cr : ConfigObject) (env : Surroundings) :
    Tick Ending :=
  if env.blocked.isSome then pure { written := some (cr.recordPhase .pending) }
  else
    match env.scopes with
    | .error _ => pure { written := some (cr.recordPhase .failed) }
    | .ok scopes =>
      match env.rollback.apply (cr.resolve scopes) with
      | none => pure { written := some (cr.recordPhase .failed) }
      | some (rolledBack, _) =>
        match env.replay.apply rolledBack with
        | none => pure { written := some (cr.recordPhase .failed) }
        | some (resolved, applied) =>
          match canonicalHash digest resolved with
          | none => pure { written := some (cr.recordPhase .failed) }
          | some h =>
            if !applied && env.trigger ≠ .subscribe
                && cr.status.observedGeneration = cr.generation
                && cr.status.lastAppliedHash = h && cr.status.phase = some .inSync
                && !dueForDriftCheck cr env.now then
              pure { shortCircuit := true, intent := some resolved }
            else if env.engine.transport.isNone then
              if cr.status.phase = some .pending
                  && cr.status.observedGeneration = cr.generation then
                pure { intent := some resolved }
              else
                pure { written := some (cr.recordPhase .pending), intent := some resolved }
            else do
              let result ←
                ConfigReconciler.reconcileOne env.engine env.leaser resolved.resolved
              pure {
                written := some (cr.recordResult result h env.now)
                intent := some resolved }

/-! ## Histories -/

/-- A tick whose status was written: the object it read, its surroundings, the
calls it made and how it ended. -/
structure RecordedTick where
  object : ConfigObject
  surroundings : Surroundings
  calls : List TickEvent
  ending : Ending

/-- The object, and the last of its ticks that was recorded, after edits of the
spec and ticks. A tick whose write failed or met a conflict leaves no trace;
changes of the scopes show in the surroundings of later ticks. -/
inductive ObjectHistory (digest : List Char → String) :
    ConfigObject → Option RecordedTick → Prop
  | created (spec : ConfigSpec) (generation : Nat) :
      ObjectHistory digest { spec := spec, generation := generation } none
  | edited {cr : ConfigObject} {last : Option RecordedTick} (spec : ConfigSpec)
      (h : ObjectHistory digest cr last) :
      ObjectHistory digest { cr with spec := spec, generation := cr.generation + 1 } last
  | ticked {cr : ConfigObject} {last : Option RecordedTick} (env : Surroundings)
      {calls : List TickEvent} {ending : Ending} {status : ConfigStatus}
      (h : ObjectHistory digest cr last)
      (hrun : Program.Runs (ConfigReconciler.tick digest cr env) calls ending)
      (hwritten : ending.written = some status) :
      ObjectHistory digest { cr with status := status } (some ⟨cr, env, calls, ending⟩)

end VirtualKubelet.Config
