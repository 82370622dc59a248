import VirtualKubelet.Pool
import VirtualKubelet.SoftwareUpgrade.Reconcile

/-!
# Replicas of the worker

Any number of replicas reconcile one upgrade object. The API server keeps its
last version and checks the resourceVersion of every write; a read may return
any version that was ever persisted, and a write may be persisted although an
error is returned. Meanwhile the manager writes admission and control, the user
edits or deletes the object, and anyone can clear its finalizer.

All replicas hold the mutation Lease under the identity of the object, so it is
one flag. `dispatched` is what the device was sent.
-/

namespace VirtualKubelet.SoftwareUpgrade

open Go Rollout

structure World where
  object : Upgrade
  older : List Upgrade
  gone : Bool
  dispatched : List Stage
  leaseHeld : Bool

namespace World

/-- The object as it is created; a new object has an empty status. -/
def created (up : Upgrade) : World :=
  ⟨{ up with deleting := false, status := {} }, [], false, [], false⟩

def persisted (w : World) : List Upgrade := w.object :: w.older

def write (w : World) (up : Upgrade) : World :=
  { w with
    object := { up with resourceVersion := w.object.resourceVersion + 1 }
    older := w.object :: w.older }

def writeStatus (w : World) (status : Status) : World :=
  w.write { w.object with status := status }

/-- An object that is being deleted goes with its finalizer. -/
def writeFinalizer (w : World) (finalizer : Bool) : World :=
  { w.write { w.object with finalizer := finalizer } with
    gone := w.gone || (w.object.deleting && !finalizer) }

def delete (w : World) : World :=
  if w.object.finalizer then w.write { w.object with deleting := true }
  else { w with gone := true }

/-- The server takes a write of this copy. -/
def Accepts (w : World) (cur : Upgrade) : Prop :=
  w.gone = false ∧ cur.resourceVersion = w.object.resourceVersion

end World

/-- How a call can be answered, and what that leaves. -/
inductive Serves (w : World) : (c : Call) → Reply c → World → Prop
  | now (t : Time) : Serves w .now t w
  | failed : Serves w .get .failed w
  | missing (h : w.gone = true) : Serves w .get .missing w
  | found {up : Upgrade} (h : up ∈ w.persisted) : Serves w .get (.found up) w
  | statusPersisted {cur : Upgrade} {status : Status} (reply : Written) (h : w.Accepts cur) :
      Serves w (.updateStatus cur status) reply (w.writeStatus status)
  | statusRefused {cur : Upgrade} {status : Status} {reply : Written} (h : reply ≠ .ok) :
      Serves w (.updateStatus cur status) reply w
  | finalizerPersisted {cur : Upgrade} {finalizer : Bool} (reply : Written) (h : w.Accepts cur) :
      Serves w (.update cur finalizer) reply (w.writeFinalizer finalizer)
  | finalizerRefused {cur : Upgrade} {finalizer : Bool} {reply : Written} (h : reply ≠ .ok) :
      Serves w (.update cur finalizer) reply w
  | acquired (reply : LeaseReply) : Serves w .acquire reply { w with leaseHeld := true }
  | notAcquired {reply : LeaseReply} (h : reply ≠ .owned) (h' : reply ≠ .ownsRisk) :
      Serves w .acquire reply w
  | quarantined (reply : QuarantineReply) : Serves w .quarantine reply { w with leaseHeld := true }
  | notQuarantined {reply : QuarantineReply} (h : reply ≠ .owned) :
      Serves w .quarantine reply w
  | released (reply : Bool) : Serves w .release reply { w with leaseHeld := false }
  | notReleased : Serves w .release false w
  | dispatched {stage : Stage} (response : Response stage) :
      Serves w (.dispatch stage) response { w with dispatched := w.dispatched ++ [stage] }
  | answered {question : Question} (answer : Answer question) : Serves w (.ask question) answer w

/-- What the API server lets the manager make of its control: the revision does
not go down, a change takes a larger one, and a cancellation stays. -/
def ControlFollows (old new : Option ManagerControl) : Prop :=
  match old, new with
  | none, _ => True
  | some _, none => False
  | some old, some new =>
    old.revision ≤ new.revision ∧ (new = old ∨ old.revision < new.revision) ∧
      (old.cancel = true → new.cancel = true)

/-- What happens without any replica. -/
inductive Drift (w : World) : World → Prop
  | manager (admission : Option ManagerAdmission) {control : Option ManagerControl}
      (invalidation : Option String) (hgone : w.gone = false)
      (hcontrol : ControlFollows w.object.status.managerControl control) :
      Drift w (w.writeStatus { w.object.status with
        managerAdmission := admission
        managerControl := control
        managerInvalidation := invalidation })
  | edited (generation : Int) (targetVersion : String) (strategy : Strategy)
      (imageSource : ImageSource) (hgone : w.gone = false) :
      Drift w (w.write { w.object with
        generation := generation
        targetVersion := targetVersion
        strategy := strategy
        imageSource := imageSource })
  /-- A write of anything the worker does not look at. -/
  | touched (hgone : w.gone = false) : Drift w (w.write w.object)
  | deleted (hgone : w.gone = false) : Drift w w.delete
  | finalizerCleared (hgone : w.gone = false) : Drift w (w.writeFinalizer false)
  /-- The Lease runs out or is taken over. -/
  | leaseLost : Drift w { w with leaseHeld := false }

def replicas : Setting World Call Reply Unit where
  starts p := ∃ r, p = reconcile r
  serve := Serves
  drift := Drift

abbrev Reachable (up : Upgrade) (log : List (Nat × WorkerEvent)) (s : Pool World Call Reply Unit) :
    Prop :=
  replicas.Run (fun _ _ => True) (World.created up) log s

end VirtualKubelet.SoftwareUpgrade
