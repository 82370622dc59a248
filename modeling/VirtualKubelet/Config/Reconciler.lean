import VirtualKubelet.Config.Engine
import VirtualKubelet.Config.Writers

/-!
# The two config reconcilers around the engine

A tick of a config object takes a lease for each family it declares, runs the
engine on the families it got, and reports the rest as skipped. IOS-XE objects
and those of the common reconciler do this in two separately written ways; the
loop over the families is the same, what becomes of the intent is not.

What a tick then writes back about ownership is the same in both: the keys the
engine harvested are merged into those the status already held.
-/

namespace VirtualKubelet.Config

open Go

/-! ## Leases -/

/-- What `Leaser.Acquire` says about one family. -/
inductive LeaseOutcome
  | owned
  | held (holder : String)
  | failed (err : String)
  deriving DecidableEq

/-- The lease backend of a reconciler during one tick, if it has one. -/
abbrev Leaser := Option (String → LeaseOutcome)

/-- The holder without the identity of the process that holds for it. -/
def stripRuntimeIDSuffix (holder : String) : String :=
  String.ofList (holder.toList.takeWhile (· ≠ '#'))

/-- The loop of both `acquireLeases`: the families that were leased, and for
each of the others why not. -/
def leaseFamilies (acquire : String → LeaseOutcome) :
    List String → List String × List (String × String)
  | [] => ([], [])
  | family :: rest =>
    let (owned, conflicts) := leaseFamilies acquire rest
    match acquire family with
    | .owned => (family :: owned, conflicts)
    | .held holder => (owned, (family, stripRuntimeIDSuffix holder) :: conflicts)
    | .failed err => (owned, (family, "lease error: " ++ err) :: conflicts)

def ConfigReconciler.acquireLeases (leaser : Leaser) (resolved : ResolvedIntent) :
    ResolvedIntent × List (String × String) :=
  match leaser with
  | none => (resolved, [])
  | some acquire =>
    let (owned, conflicts) := leaseFamilies acquire resolved.managedFamilies
    ({ resolved with managedFamilies := owned }, conflicts)

/-- The common reconciler does not save a part of the object. -/
def CommonConfigReconciler.acquireLeases (leaser : Leaser) (resolved : ResolvedIntent) :
    ResolvedIntent × List (String × String) :=
  match leaser with
  | none => (resolved, [])
  | some acquire =>
    let (owned, conflicts) := leaseFamilies acquire resolved.managedFamilies
    ({ resolved with
        managedFamilies := owned
        writeStartup := if conflicts.isEmpty then resolved.writeStartup else false }, conflicts)

/-! ## One tick -/

variable [Rendering]

def conflictStatus (conflict : String × String) : FamilyStatus where
  name := conflict.1
  state := .skipped
  message := "family leased by " ++ quote conflict.2

/-- The engine on what was leased. With nothing leased it is not run, and with
a part leased the tick is not in sync. -/
def reconcileLeased (e : Engine) (allBlocked : Result) (leased : ResolvedIntent)
    (conflicts : List (String × String)) : Tick Result :=
  if !conflicts.isEmpty && leased.managedFamilies.isEmpty then
    pure { allBlocked with
      familyStatuses := allBlocked.familyStatuses ++ conflicts.map conflictStatus }
  else do
    let result ← e.reconcile (some leased)
    pure { result with
      phase := if !conflicts.isEmpty && result.phase == .inSync then .leaseBlocked else result.phase
      familyStatuses := result.familyStatuses ++ conflicts.map conflictStatus }

def ConfigReconciler.reconcileOne (e : Engine) (leaser : Leaser) (resolved : ResolvedIntent) :
    Tick Result :=
  if e.transport.isNone then pure { phase := .pending }
  else
    let (leased, conflicts) := ConfigReconciler.acquireLeases leaser resolved
    reconcileLeased e { phase := .leaseBlocked, yangVersion := leased.targetYangVersion } leased
      conflicts

def CommonConfigReconciler.reconcileOne (kind : String) (e : Engine) (leaser : Leaser)
    (resolved : ResolvedIntent) : Tick Result :=
  if e.transport.isNone then pure { phase := .pending }
  else
    let (leased, conflicts) := CommonConfigReconciler.acquireLeases leaser resolved
    if e.lookup.isNone then
      pure { phase := .failed, err := some (kind ++ " reconciler: nil writer lookup") }
    else reconcileLeased e { phase := .leaseBlocked } leased conflicts

/-! ## Ownership -/

/-- The keys of both, each once, in sorted order. -/
def mergeOwnedKeys (prior fresh : List String) : List String :=
  sortStrings (prior ++ fresh).eraseDups

/-- The owned keys in the status after `recordResult`, whose loop goes over the
families with harvested keys. -/
def recordOwnedKeys (owned : Map (List String)) (result : Result) : Map (List String) :=
  (result.atomicReplaceOwnedKeys.keys.sort (· ≤ ·)).foldl (fun owned family =>
    owned.set family (mergeOwnedKeys (owned.get [] family)
      (result.atomicReplaceOwnedKeys.get [] family))) owned

end VirtualKubelet.Config
