import VirtualKubelet.Api.Object
import VirtualKubelet.Pool

/-!
# One named object of the API server

The object may be created, written and deleted. Every write gets a fresh
resourceVersion, also that of an object created after another of its name was
deleted, so a copy read before a write never passes for the object after it.
-/

namespace VirtualKubelet.Api

/-- What the `apierrors.Is…` tests tell apart. -/
inductive Reason
  | notFound
  | alreadyExists
  | conflict
  | other
  deriving DecidableEq

structure Error where
  reason : Reason
  text : String
  deriving DecidableEq

abbrev Answer (α : Type) := Except Error α

structure Slot (α : Type) where
  current : Option (Object α)
  /-- The resourceVersion last given out. -/
  revision : Nat
  fresh : ∀ o, current = some o → o.resourceVersion ≤ revision

namespace Slot

variable {α : Type} {slot : Slot α} {o copy : Object α}

def empty : Slot α := ⟨none, 0, nofun⟩

/-- A creation or a write of the whole object. -/
def put (slot : Slot α) (content : α) : Slot α where
  current := some ⟨content, slot.revision + 1⟩
  revision := slot.revision + 1
  fresh := by
    intro o ho
    cases ho
    exact Nat.le_refl _

def remove (slot : Slot α) : Slot α := ⟨none, slot.revision, nofun⟩

/-- What is stored. -/
def content (slot : Slot α) : Option α := slot.current.map Object.content

@[simp] theorem content_put : (slot.put value).content = some value := rfl

/-- The copy was read from the slot, now or earlier. -/
structure Read (slot : Slot α) (copy : Object α) : Prop where
  older : copy.resourceVersion ≤ slot.revision
  same : ∀ o, slot.current = some o → o.resourceVersion = copy.resourceVersion → o = copy

theorem read_current (h : slot.current = some o) : slot.Read o := by
  refine ⟨slot.fresh o h, fun o' ho' _ => ?_⟩
  rw [h] at ho'
  exact (Option.some.inj ho').symm

theorem read_put (h : slot.Read copy) : (slot.put value).Read copy := by
  have hle := h.older
  refine ⟨Nat.le_succ_of_le hle, fun o ho heq => ?_⟩
  cases ho
  have hnew : slot.revision + 1 = copy.resourceVersion := heq
  omega

theorem read_remove (h : slot.Read copy) : slot.remove.Read copy :=
  ⟨h.older, nofun⟩

end Slot

section Retry

variable {C : Type} {R : C → Type} {α : Type}

/-- `retry.RetryOnConflict`: the attempt is repeated while it ends in a
conflict, and `n` times at most after the first. -/
def retryOnConflict (attempt : Program C R (Answer α)) : Nat → Program C R (Answer α)
  | 0 => attempt
  | n + 1 => do
      match ← attempt with
      | .error e =>
        if e.reason = .conflict then retryOnConflict attempt n else pure (.error e)
      | .ok a => pure (.ok a)

/-- The attempts `retry.DefaultBackoff` has after the first one. -/
def defaultBackoff : Nat := 3

open Program in
/-- An attempt that can be made again wherever a conflict leaves it can be
repeated. -/
theorem obeys_retryOnConflict {rely : (c : C) → R c → Prop} {G : List (Event C R) → C → Prop}
    {attempt : Program C R (Answer α)} {I : List (Event C R) → Prop}
    {Q : List (Event C R) → Answer α → Prop}
    (h : ∀ past, I past → attempt.Obeys rely G past Q)
    (hagain : ∀ past e, Q past (.error e) → e.reason = .conflict → I past)
    {past : List (Event C R)} (hI : I past) (n : Nat) :
    (retryOnConflict attempt n).Obeys rely G past Q := by
  induction n generalizing past with
  | zero => exact h past hI
  | succ n ih =>
    refine (h past hI).bind fun past' r _ hr => ?_
    cases r with
    | ok a => exact hr
    | error e =>
      show Obeys rely G (if e.reason = .conflict then _ else _) past' _
      split
      · next hconflict => exact ih (hagain past' e hr hconflict)
      · exact hr

end Retry

end VirtualKubelet.Api
