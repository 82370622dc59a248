import VirtualKubelet.Config.Reconciler
import VirtualKubelet.Proofs.ScopedPrune
import VirtualKubelet.Proofs.RunningVerify

/-!
# The owned keys over many ticks

A tick feeds the recorded keys to the engine and merges what the engine
harvested, which are keys of the desired blocks, back into the record. Nothing
is ever taken out. So a key stays owned once it was desired, also after the
tick that pruned it, and every later tick is ready to prune it again.
-/

namespace VirtualKubelet.Config

open Go Program

/-! ## The record -/

def Engine.Desires (e : Engine) (res : ResolvedIntent) (family k : String) : Prop :=
  ∃ w keysOf, e.lookupWriter family = some w ∧ w.keysOf = some keysOf ∧
    k ∈ keysOf (res.desired family)

section Ticks

variable [Rendering]

namespace Engine

variable {e : Engine} {res : ResolvedIntent}

omit [Rendering] in
/-- Only keys of desired blocks were harvested so far. -/
def Harvest (e : Engine) (res : ResolvedIntent) (result : Result) : Prop :=
  ∀ family, ∀ k ∈ result.atomicReplaceOwnedKeys.get [] family, e.Desires res family k

omit [Rendering] in
theorem Harvest.note {p : Progress} {fs : FamilyStatus} (h : e.Harvest res p.result)
    (hfs : ∀ k ∈ fs.ownedKeys, e.Desires res family k) :
    e.Harvest res (p.note family fs).result := by
  intro f k hk
  rw [Progress.note] at hk
  dsimp only at hk
  split at hk
  · exact h f k hk
  by_cases hf : f = family
  · subst hf
    rw [Map.get, Map.find_set_self] at hk
    exact hfs k hk
  · rw [Map.get, Map.find_set_ne hf] at hk
    exact h f k hk

section

omit [Rendering]

end

end Engine

/-! ## Runs of ticks -/

/-- The two reconcilers, the common one with the kind it serves. -/
inductive Reconciler
  | iosxe
  | common (kind : String)

namespace Reconciler

/-- The intent the engine is given. -/
def leased (leaser : Leaser) (resolved : ResolvedIntent) : Reconciler → ResolvedIntent
  | iosxe => (ConfigReconciler.acquireLeases leaser resolved).1
  | common _ => (CommonConfigReconciler.acquireLeases leaser resolved).1

def reconcileOne (e : Engine) (leaser : Leaser) (resolved : ResolvedIntent) : Reconciler → Tick Result
  | iosxe => ConfigReconciler.reconcileOne e leaser resolved
  | common kind => CommonConfigReconciler.reconcileOne kind e leaser resolved

end Reconciler

/-- One tick of an object, with what was called and what came of it. The owned
keys of the intent are those of the status, whatever `resolved` says. -/
structure ObjectTick where
  reconciler : Reconciler
  engine : Engine
  leaser : Leaser
  resolved : ResolvedIntent
  events : List TickEvent
  result : Result

namespace ObjectTick

def intent (tick : ObjectTick) (owned : Map (List String)) : ResolvedIntent :=
  { tick.resolved with atomicReplaceOwnedKeys := owned }

def Desires (tick : ObjectTick) (family k : String) : Prop :=
  tick.engine.Desires tick.resolved family k

end ObjectTick

section Record

variable {owned : Map (List String)} {tick : ObjectTick} {ticks : List ObjectTick} {family k : String}

end Record

/-! ## Pruning in a tick -/

namespace ObjectTick

/-- The intent as the engine works on it. -/
def handled (tick : ObjectTick) (owned : Map (List String)) : ResolvedIntent :=
  Engine.pruning (tick.reconciler.leased tick.leaser (tick.intent owned))

variable [Formatting]

variable {tick : ObjectTick} {owned : Map (List String)} {family k : String}

end ObjectTick

/-! ## Giving up a key -/

variable [Formatting]

end Ticks

/-! ## A key pruned twice -/

namespace Sample

open Engine

attribute [local instance] rendering formatting

def vrfEntries (names : List Char) : Value :=
  .maps (names.map fun name => [("name", .text (String.ofList [name]))])

/-- VRFs with names of one letter, which the device lists one after another. -/
def vrfSection : SectionWriter := vrfWriter.sectionWriter {
  fetch := do
    match ← Program.request "/vrf" with
    | .error err => pure (.error err)
    | .ok raw => pure (.ok (vrfEntries raw.toList))
  diff _ _ := .ok []
  apply ops := Program.request (WriterCall.mutate "" ops) }

def vrfEngine : Engine where
  transport := some { capabilities := {} }
  lookup := some fun _ _ => some vrfSection

/-- The device loses all but `a` by any change. -/
def vrfDevice : (c : TransportCall) → Raw → c.Reply × Raw
  | .fetch _, vrfs | .fetchTx _ _, vrfs => (.ok vrfs, vrfs)
  | .startTransaction, vrfs => (.ok "candidate", vrfs)
  | .mutate _ _, _ => (none, "a")
  | .commit _, vrfs | .discard _, vrfs | .commitConfirmed _ _, vrfs | .confirmCommit, vrfs
  | .saveStartup, vrfs | .acquireMutation, vrfs | .backoff, vrfs => (none, vrfs)
  | .finishMutation _, vrfs => ((), vrfs)

def vrfIntent (names : List Char) : ResolvedIntent where
  managedFamilies := ["vrf"]
  configuration := (∅ : Map Value).set "vrf" (vrfEntries names)
  pruneOnRelinquish := true

def vrfTick (names : List Char) (owned : Map (List String)) : ObjectTick :=
  let outcome := (ConfigReconciler.reconcileOne vrfEngine none
    { vrfIntent names with atomicReplaceOwnedKeys := owned }).run vrfDevice "ab"
  { reconciler := .iosxe
    engine := vrfEngine
    leaser := none
    resolved := vrfIntent names
    events := outcome.1
    result := outcome.2 }

def acquiring : ObjectTick := vrfTick ['a', 'b'] ∅

end Sample

end VirtualKubelet.Config
