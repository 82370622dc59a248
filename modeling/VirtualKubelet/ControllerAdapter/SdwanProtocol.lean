import VirtualKubelet.ControllerAdapter.Sdwan

/-!
# Sessions over the sections of a controller

Any number of adapter sessions reconcile any configs against the section Leases
of one namespace. A session reconciles one config at a time and can crash
anywhere. The API server checks the resourceVersion of a write; a write whose
answer is an error may still be applied, then or at any later time, as long as
the version it was computed from is the current one. The manager and the clock
answer as they like.
-/

namespace VirtualKubelet.ControllerAdapter

open Api Program

/-- A write whose answer was an error. -/
inductive Write
  | create (name : String) (lease : Lease)
  | update (name : String) (copy : Object Lease) (lease : Lease)

structure World where
  leases : String → Slot Lease
  pending : List Write

namespace World

variable (w : World)

def current (name : String) : Option (Object Lease) := (w.leases name).current

def put (name : String) (lease : Lease) : World :=
  { w with leases := Function.update w.leases name ((w.leases name).put lease) }

def written (name : String) (lease : Lease) : Object Lease := ⟨lease, (w.leases name).revision + 1⟩

def leave (write : Write) : World := { w with pending := write :: w.pending }

/-- A pending write is applied. -/
inductive Lands : World → Prop
  | created {name : String} {lease : Lease} (hpending : .create name lease ∈ w.pending)
      (h : w.current name = none) : Lands (w.put name lease)
  | updated {name : String} {copy o : Object Lease} {lease : Lease}
      (hpending : .update name copy lease ∈ w.pending) (h : w.current name = some o)
      (hversion : o.resourceVersion = copy.resourceVersion) : Lands (w.put name lease)

end World

def Request.elsewhere : Request → Bool
  | .getLease _ | .createLease .. | .updateLease .. => false
  | _ => true

abbrev SessionRequest := Job × Request

abbrev SessionReply (c : SessionRequest) := Reply c.2

/-- How a request can be answered, and what that leaves. -/
inductive Serves (w : World) : (c : SessionRequest) → SessionReply c → World → Prop
  | found {k : Job} {name : String} {o : Object Lease} (h : w.current name = some o) :
      Serves w (k, .getLease name) (.ok o) w
  | getFailed {k : Job} {name : String} (e : Error) : Serves w (k, .getLease name) (.error e) w
  | created {k : Job} {name : String} {lease : Lease} (h : w.current name = none) :
      Serves w (k, .createLease name lease) (.ok (w.written name lease)) (w.put name lease)
  | createFailed {k : Job} {name : String} {lease : Lease} (e : Error) :
      Serves w (k, .createLease name lease) (.error e) (w.leave (.create name lease))
  | updated {k : Job} {name : String} {copy o : Object Lease} {lease : Lease}
      (h : w.current name = some o) (hversion : o.resourceVersion = copy.resourceVersion) :
      Serves w (k, .updateLease name copy lease) (.ok (w.written name lease)) (w.put name lease)
  | updateFailed {k : Job} {name : String} {copy : Object Lease} {lease : Lease} (e : Error) :
      Serves w (k, .updateLease name copy lease) (.error e) (w.leave (.update name copy lease))
  | elsewhere {k : Job} {c : Request} {r : Reply c} (h : c.elsewhere = true) :
      Serves w (k, c) r w

def sessions (m : Model) : Setting World SessionRequest SessionReply Unit where
  starts p := ∃ k : Job, p = (k.reconcile m).tag k
  serve := Serves
  drift := World.Lands

abbrev SessionPool := Pool World SessionRequest SessionReply Unit

abbrev SessionEvent := Event SessionRequest SessionReply

/-- Whoever acts in a place is the session of that place. -/
def InPlace (names : Nat → String) (_ : SessionPool) (l : Option (Nat × SessionEvent)) : Prop :=
  ∀ i e, l = some (i, e) → e.1.1.session = names i

/-- Every run of sessions with the given names, from any state of the Leases. -/
abbrev Reachable (m : Model) (names : Nat → String) (start : World)
    (log : List (Nat × SessionEvent)) (s : SessionPool) : Prop :=
  (sessions m).Run (InPlace names) start log s

end VirtualKubelet.ControllerAdapter
