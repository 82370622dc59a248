import VirtualKubelet.Config.ConfigTick
import VirtualKubelet.Proofs.CanonicalHash
import VirtualKubelet.Proofs.KeyedConvergence
import VirtualKubelet.Proofs.Transaction

/-!
# Nothing has changed

A tick that returns early has the status to go by: the phase, the hash and the
generation it observed. These are written together, by the tick that brought
the object in sync, and every later write of the status takes the phase away;
so they speak about the last recorded tick. What the hash does not cover comes
from the spec, and the spec has not changed if the generation has not.
-/

namespace VirtualKubelet.Config

open Go Program

section

variable [Encoding] [Rendering]

/-! ## Leases -/

omit [Encoding] [Rendering] in
theorem leaseFamilies_no_conflict (h : (leaseFamilies acquire families).2 = []) :
    (leaseFamilies acquire families).1 = families := by
  induction families with
  | nil => rfl
  | cons family rest ih =>
    rw [leaseFamilies] at h ⊢
    cases hacquire : acquire family with
    | owned =>
      rw [hacquire] at h
      exact congrArg (family :: ·) (ih h)
    | held holder | failed err =>
      rw [hacquire] at h
      cases h

omit [Encoding] [Rendering] in
theorem acquireLeases_no_conflict (h : (ConfigReconciler.acquireLeases leaser resolved).2 = []) :
    (ConfigReconciler.acquireLeases leaser resolved).1 = resolved := by
  cases leaser with
  | none => rfl
  | some acquire =>
    have hall : (leaseFamilies acquire resolved.managedFamilies).1 = resolved.managedFamilies :=
      leaseFamilies_no_conflict h
    show { resolved with managedFamilies := _ } = resolved
    rw [hall]

omit [Encoding] in
theorem reconcileOne_inSync (h : Runs (ConfigReconciler.reconcileOne e leaser resolved) es result)
    (hphase : result.phase = .inSync) :
    ∃ r, Runs (e.reconcile (some resolved)) es r ∧ r.phase = .inSync := by
  rw [ConfigReconciler.reconcileOne] at h
  split at h
  · obtain ⟨-, rfl⟩ := runs_pure.mp h
    cases hphase
  dsimp only at h
  rw [reconcileLeased] at h
  split at h
  · obtain ⟨-, rfl⟩ := runs_pure.mp h
    cases hphase
  obtain ⟨r, first, second, hfirst, hsecond, rfl⟩ := runs_bind.mp h
  obtain ⟨rfl, rfl⟩ := runs_pure.mp hsecond
  rw [List.append_nil]
  dsimp only at hphase
  split at hphase
  · cases hphase
  rename_i hconflicts
  have hnone : (ConfigReconciler.acquireLeases leaser resolved).2 = [] := by
    simpa [hphase] using hconflicts
  rw [acquireLeases_no_conflict hnone] at hfirst
  exact ⟨r, hfirst, hphase⟩

/-! ## What a tick can do -/

/-- What the hash does not cover is the spec's. -/
def DeviceIntent.Carries (i : DeviceIntent) (spec : ConfigSpec) : Prop :=
  i.resolved.pruneOnRelinquish = spec.pruneOnRelinquish ∧
    i.resolved.atomicReplace = spec.atomicReplace ∧
    i.resolved.confirmTimeoutSeconds = spec.confirmTimeoutSeconds

omit [Encoding] [Rendering] in
theorem Override.apply_carries {o : Override} (h : o.apply i = some (i', applied))
    (hi : i.Carries spec) : i'.Carries spec := by
  cases o with
  | absent =>
    cases h
    exact hi
  | failed err => cases h
  | found body =>
    cases h
    exact hi

/-- The four ways a tick can end. -/
inductive TickEnds (digest : List Char → String) (cr : ConfigObject) (env : Surroundings)
    (calls : List TickEvent) : Ending → Prop
  | recorded (phase : Phase) (intent : Option DeviceIntent) (hphase : phase ≠ .inSync) :
      TickEnds digest cr env calls
        { written := some (cr.recordPhase phase), intent := intent }
  | waiting (intent : DeviceIntent) :
      TickEnds digest cr env calls { intent := some intent }
  | unchanged (intent : DeviceIntent) (hcarries : intent.Carries cr.spec)
      (hgeneration : cr.status.observedGeneration = cr.generation)
      (hhash : canonicalHash digest intent = some cr.status.lastAppliedHash)
      (hphase : cr.status.phase = some .inSync) :
      TickEnds digest cr env calls { shortCircuit := true, intent := some intent }
  | ran (intent : DeviceIntent) (hash : String) (result : Result)
      (hcarries : intent.Carries cr.spec) (hhash : canonicalHash digest intent = some hash)
      (hrun : Runs (ConfigReconciler.reconcileOne env.engine env.leaser intent.resolved) calls
        result) :
      TickEnds digest cr env calls
        { written := some (cr.recordResult result hash env.now), intent := some intent }

theorem tick_ends (h : Runs (ConfigReconciler.tick digest cr env) calls ending) :
    TickEnds digest cr env calls ending := by
  rw [ConfigReconciler.tick] at h
  split at h
  · obtain ⟨-, rfl⟩ := runs_pure.mp h
    exact .recorded .pending none (by decide)
  split at h
  · obtain ⟨-, rfl⟩ := runs_pure.mp h
    exact .recorded .failed none (by decide)
  next scopes _ =>
  split at h
  · obtain ⟨-, rfl⟩ := runs_pure.mp h
    exact .recorded .failed none (by decide)
  next rolledBack _ hrollback =>
  split at h
  · obtain ⟨-, rfl⟩ := runs_pure.mp h
    exact .recorded .failed none (by decide)
  next resolved applied hreplay =>
  have hcarries : resolved.Carries cr.spec :=
    Override.apply_carries hreplay (Override.apply_carries hrollback ⟨rfl, rfl, rfl⟩)
  split at h
  · obtain ⟨-, rfl⟩ := runs_pure.mp h
    exact .recorded .failed none (by decide)
  next hash hhash =>
  split at h
  · rename_i hshort
    obtain ⟨-, rfl⟩ := runs_pure.mp h
    simp only [Bool.and_eq_true, decide_eq_true_eq] at hshort
    obtain ⟨⟨⟨⟨-, hgeneration⟩, hsame⟩, hphase⟩, -⟩ := hshort
    exact .unchanged resolved hcarries hgeneration (hsame ▸ hhash) hphase
  split at h
  · split at h
    · obtain ⟨-, rfl⟩ := runs_pure.mp h
      exact .waiting resolved
    · obtain ⟨-, rfl⟩ := runs_pure.mp h
      exact .recorded .pending (some resolved) (by decide)
  · obtain ⟨result, first, second, hfirst, hsecond, rfl⟩ := runs_bind.mp h
    obtain ⟨rfl, rfl⟩ := runs_pure.mp hsecond
    rw [List.append_nil]
    exact .ran resolved hash result hcarries hhash hfirst

/-! ## What a status in sync says -/

/-- The tick ran the engine on the intent, and it ended in sync. -/
def RecordedTick.InSyncOn (t : RecordedTick) (i : DeviceIntent) : Prop :=
  t.ending.intent = some i ∧
    ∃ result, Runs (t.surroundings.engine.reconcile (some i.resolved)) t.calls result ∧
      result.phase = .inSync

/-- A status in sync is that of the last recorded tick. -/
def Vouched (digest : List Char → String) (cr : ConfigObject) (last : Option RecordedTick) : Prop :=
  cr.status.phase = some .inSync → ∃ t i, last = some t ∧ t.InSyncOn i ∧
    i.Carries t.object.spec ∧ canonicalHash digest i = some cr.status.lastAppliedHash ∧
    cr.status.observedGeneration = t.object.generation

/-- The spec has not changed as long as the generation has not. -/
def Unedited (cr : ConfigObject) (last : Option RecordedTick) : Prop :=
  ∀ t, last = some t → t.object.generation ≤ cr.generation ∧
    (t.object.generation = cr.generation → t.object.spec = cr.spec)

variable {digest : List Char → String} {cr : ConfigObject} {last : Option RecordedTick}

theorem ObjectHistory.unedited (h : ObjectHistory digest cr last) : Unedited cr last := by
  induction h with
  | created spec generation =>
    intro t ht
    cases ht
  | edited spec _ ih =>
    intro t ht
    obtain ⟨hle, -⟩ := ih t ht
    dsimp only
    refine ⟨by omega, fun heq => ?_⟩
    omega
  | ticked env _ _ _ _ =>
    intro t ht
    cases ht
    exact ⟨le_refl _, fun _ => rfl⟩

theorem ObjectHistory.vouched (h : ObjectHistory digest cr last) : Vouched digest cr last := by
  induction h with
  | created spec generation =>
    intro hphase
    cases hphase
  | edited spec _ ih => exact ih
  | @ticked cr last env calls ending status _ hrun hwritten _ =>
    intro hphase
    cases tick_ends hrun with
    | recorded phase intent hne =>
      cases hwritten
      exact absurd (Option.some.inj hphase) hne
    | waiting intent | unchanged intent => cases hwritten
    | ran intent hash result hcarries hhash hengine =>
      cases hwritten
      have hsync : result.phase = .inSync := Option.some.inj hphase
      refine ⟨_, intent, rfl, ⟨rfl, reconcileOne_inSync hengine hsync⟩, hcarries, ?_, rfl⟩
      rw [hhash]
      exact congrArg some (if_pos hsync).symm

/-! ## The short circuit -/

/-- Two intents agree in every field the engine reads: those of the hash, and
the ones that the spec alone decides. -/
structure SameIntent (i i' : DeviceIntent) : Prop extends SameHashed i i' where
  pruneOnRelinquish : i.resolved.pruneOnRelinquish = i'.resolved.pruneOnRelinquish
  atomicReplace : i.resolved.atomicReplace = i'.resolved.atomicReplace
  confirmTimeoutSeconds : i.resolved.confirmTimeoutSeconds = i'.resolved.confirmTimeoutSeconds

/-- For every history of an object: a tick that returns early because nothing
has changed does so on an intent on which the last recorded tick ran the engine
to an end in sync. -/
theorem short_circuit_sound (digest : List Char → String) (hdigest : Function.Injective digest)
    (cr : ConfigObject) (last : Option RecordedTick) (hhistory : ObjectHistory digest cr last)
    (env : Surroundings) (calls : List TickEvent) (ending : Ending)
    (hrun : Runs (ConfigReconciler.tick digest cr env) calls ending)
    (hearly : ending.shortCircuit = true) :
    ∃ t i i', last = some t ∧ t.InSyncOn i ∧ ending.intent = some i' ∧ SameIntent i i' := by
  cases tick_ends hrun with
  | recorded | waiting | ran => cases hearly
  | unchanged i' hcarries' hgeneration hhash' hphase =>
    obtain ⟨t, i, hlast, hsync, hcarries, hhash, hobserved⟩ := hhistory.vouched hphase
    have hspec : t.object.spec = cr.spec := by
      apply (hhistory.unedited t hlast).2
      rw [← hobserved, hgeneration]
    rw [hspec] at hcarries
    refine ⟨t, i, i', hlast, hsync, rfl, ?_⟩
    exact
      { toSameHashed := sameHashed_of_canonicalHash hdigest hhash hhash'
        pruneOnRelinquish := hcarries.1.trans hcarries'.1.symm
        atomicReplace := hcarries.2.1.trans hcarries'.2.1.symm
        confirmTimeoutSeconds := hcarries.2.2.trans hcarries'.2.2.symm }

end

namespace Sample

attribute [local instance] rendering KeyedListWriter.Loopback.encoding

def linkSpec : ConfigSpec where
  deviceName := "leaf-1"
  transactional := true
  writeStartup := true
  driftDetectInterval := 60

def linkObject : ConfigObject where
  spec := linkSpec

def linkSurroundings : Surroundings where
  scopes := .ok { managedFamilies := ["link"], configuration := ∅ }
  engine := engine

def firstTick : List TickEvent × Ending :=
  (ConfigReconciler.tick String.ofList linkObject linkSurroundings).run device ()

def syncedStatus : ConfigStatus := firstTick.2.written.getD {}

def secondTick : List TickEvent × Ending :=
  (ConfigReconciler.tick String.ofList { linkObject with status := syncedStatus }
    { linkSurroundings with now := 30 }).run device ()

theorem link_unchanged : secondTick.2.shortCircuit = true ∧
    ∃ (t : RecordedTick) (i i' : DeviceIntent), t.InSyncOn i ∧ secondTick.2.intent = some i' ∧ SameIntent i i' := by
  have hearly : secondTick.2.shortCircuit = true := by decide +kernel
  have hwritten : firstTick.2.written = some syncedStatus := by
    have hsome : firstTick.2.written.isSome = true := by decide +kernel
    obtain ⟨status, hstatus⟩ := Option.isSome_iff_exists.mp hsome
    rw [syncedStatus, hstatus, Option.getD_some]
  have hhistory := ObjectHistory.ticked linkSurroundings (ObjectHistory.created linkSpec 1)
    (run_runs device () _) hwritten
  obtain ⟨t, i, i', -, hsync, hintent, hsame⟩ := short_circuit_sound String.ofList
    (fun a b h => by simpa using congrArg String.toList h) _ _ hhistory _ _ _
    (run_runs device () _) hearly
  exact ⟨hearly, t, i, i', hsync, hintent, hsame⟩

end Sample

end VirtualKubelet.Config
