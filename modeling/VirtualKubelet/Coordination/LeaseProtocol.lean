import VirtualKubelet.Coordination.FamilyLease

/-!
# Callers of one Lease

Any number of calls run against the Lease of one device and family, by any
identities and with any configured duration. The API server checks the
resourceVersion of a write and can fail any request without serving it; one
clock is sampled by all. Next to the three operations of the leaser, the holder
of a retained Lease publishes its maintenance request in the annotations.
-/

namespace VirtualKubelet.Coordination

open Go Api Program

/-- A holder's name. Callers build it from a workflow or namespace and a name
with a slash between, so it is never empty. -/
@[ext] structure Identity where
  text : String
  nonempty : text ≠ ""
  deriving DecidableEq

/-- The annotations of a maintenance request, and nothing else. -/
structure RequestEntries where
  entries : List (String × String)
  keys : ∀ e ∈ entries, e.1 ∈ maintenanceRequestKeys
  deriving DecidableEq

inductive Op
  | acquire
  | acquireIfFree
  | release
  | publish (request : RequestEntries)
  deriving DecidableEq

structure Call where
  op : Op
  leaser : FamilyLeaser
  device : String
  family : String
  identity : Identity
  deriving DecidableEq

/-- Which Lease a call is about. -/
structure Address where
  «namespace» : String
  device : String
  family : String

/-- The request is added to the Lease it was read with; the rest of it stays. -/
def publishRequest (request : RequestEntries) : Lessee (Answer Unit) := do
  match ← getLease with
  | .error e => pure (.error e)
  | .ok copy =>
    let annotations := request.entries.foldl (fun m e => m.set e.1 e.2) copy.content.annotations
    updateLease copy { copy.content with annotations := annotations }

inductive Outcome
  | acquired (result : Except String LeaseResult)
  | released (result : Except String Unit)
  | published (result : Answer Unit)

namespace Call

variable (k : Call)

def program : Lessee Outcome :=
  match k.op with
  | .acquire => do return .acquired (← k.leaser.acquire k.device k.family k.identity.text)
  | .acquireIfFree => do
      return .acquired (← k.leaser.acquireIfFree k.device k.family k.identity.text)
  | .release => do return .released (← k.leaser.release k.device k.family k.identity.text)
  | .publish request => do return .published (← publishRequest request)

def Addresses (a : Address) : Prop :=
  k.leaser.namespace = a.namespace ∧ k.leaser.leaseDeviceKey k.device = a.device ∧
    k.family = a.family

end Call

structure World where
  clock : Int
  lease : Slot Lease

namespace World

/-- What the Lease says of its holder, empty if there is none or no Lease. -/
def holder (w : World) : String := (w.lease.content.map Lease.holder).getD ""

end World

abbrev LeaseRequest := Call × Verb

abbrev LeaseReply (c : LeaseRequest) := Reply c.2

/-- How a request can be answered, and what that leaves. -/
inductive Serves (w : World) : (c : LeaseRequest) → LeaseReply c → World → Prop
  | now {k : Call} {t : Int} (h : w.clock ≤ t) : Serves w (k, .now) t { w with clock := t }
  | found {k : Call} {o : Object Lease} (h : w.lease.current = some o) :
      Serves w (k, .get) (.ok o) w
  | created {k : Call} {lease : Lease} (h : w.lease.current = none) :
      Serves w (k, .create lease) (.ok ())
        { w with lease := w.lease.put { lease with uid := w.lease.revision + 1 } }
  | updated {k : Call} {copy o : Object Lease} {lease : Lease} (h : w.lease.current = some o)
      (hversion : o.resourceVersion = copy.resourceVersion) :
      Serves w (k, .update copy lease) (.ok ()) { w with lease := w.lease.put lease }
  | deleted {k : Call} {o : Object Lease} (h : w.lease.current = some o) :
      Serves w (k, .delete o.content.uid o.resourceVersion) (.ok ())
        { w with lease := w.lease.remove }
  | getFailed {k : Call} (e : Error) : Serves w (k, .get) (.error e) w
  | createFailed {k : Call} {lease : Lease} (e : Error) :
      Serves w (k, .create lease) (.error e) w
  | updateFailed {k : Call} {copy : Object Lease} {lease : Lease} (e : Error) :
      Serves w (k, .update copy lease) (.error e) w
  | deleteFailed {k : Call} {uid resourceVersion : Nat} (e : Error) :
      Serves w (k, .delete uid resourceVersion) (.error e) w

/-- A server that serves every request it can, and whose clock goes on by `tick`
between two samples. -/
def clerk (tick : Nat) : (c : LeaseRequest) → World → LeaseReply c × World
  | (_, .now), w => (w.clock + tick, { w with clock := w.clock + tick })
  | (_, .get), w =>
    match w.lease.current with
    | some o => (.ok o, w)
    | none => (.error ⟨.notFound, "not found"⟩, w)
  | (_, .create lease), w =>
    match w.lease.current with
    | some _ => (.error ⟨.alreadyExists, "already exists"⟩, w)
    | none =>
      (.ok (), { w with lease := w.lease.put { lease with uid := w.lease.revision + 1 } })
  | (_, .update copy lease), w =>
    match w.lease.current with
    | some o =>
      if o.resourceVersion = copy.resourceVersion then
        (.ok (), { w with lease := w.lease.put lease })
      else (.error ⟨.conflict, "conflict"⟩, w)
    | none => (.error ⟨.notFound, "not found"⟩, w)
  | (_, .delete uid resourceVersion), w =>
    match w.lease.current with
    | some o =>
      if o.content.uid = uid ∧ o.resourceVersion = resourceVersion then
        (.ok (), { w with lease := w.lease.remove })
      else (.error ⟨.conflict, "conflict"⟩, w)
    | none => (.error ⟨.notFound, "not found"⟩, w)

theorem clerk_serves (tick : Nat) (c : LeaseRequest) (w : World) :
    Serves w c (clerk tick c w).1 (clerk tick c w).2 := by
  obtain ⟨k, verb⟩ := c
  cases verb with
  | now => exact .now (Int.le_add_of_nonneg_right (Int.natCast_nonneg tick))
  | get =>
    rw [clerk]
    split
    · next h => exact .found h
    · exact .getFailed _
  | create lease =>
    rw [clerk]
    split
    · exact .createFailed _
    · next h => exact .created h
  | update copy lease =>
    rw [clerk]
    split
    · rename_i h
      split
      · next hversion => exact .updated h hversion
      · exact .updateFailed _
    · exact .updateFailed _
  | delete uid resourceVersion =>
    rw [clerk]
    split
    · rename_i h
      split
      · rename_i hsame
        obtain ⟨rfl, rfl⟩ := hsame
        exact .deleted h
      · exact .deleteFailed _
    · exact .deleteFailed _

def callers (a : Address) : Setting World LeaseRequest LeaseReply Outcome where
  starts p := ∃ k : Call, k.Addresses a ∧ p = k.program.tag k
  serve := Serves
  drift _ _ := False

abbrev LeasePool := Pool World LeaseRequest LeaseReply Outcome

abbrev LeaseEvent := Event LeaseRequest LeaseReply

/-- Every run of calls on the Lease, from any state of it. -/
abbrev Reachable (a : Address) (start : World) (log : List (Nat × LeaseEvent)) (s : LeasePool) :
    Prop :=
  (callers a).Run (fun _ _ => True) start log s

end VirtualKubelet.Coordination
