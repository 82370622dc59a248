import Mathlib.Tactic.Common

/-!
# Objects under optimistic concurrency

The API server counts the writes of each object, and a patch with an optimistic
lock carries the count of the copy it was computed from. It goes through only
if nothing was written in between. What a client can rely on is `Read`: a copy
is never newer than the object, and where the counts agree it is the object.
-/

namespace VirtualKubelet.Api

structure Object (α : Type) where
  content : α
  resourceVersion : Nat
  deriving DecidableEq

namespace Object

variable {α : Type} {o o' copy : Object α} {content : α}

def write (o : Object α) (content : α) : Object α := ⟨content, o.resourceVersion + 1⟩

/-- `none` is the server's conflict. -/
def patch (o before : Object α) (content : α) : Option (Object α) :=
  if before.resourceVersion = o.resourceVersion then some (o.write content) else none

/-- The copy was read from the object, now or earlier. -/
structure Read (o copy : Object α) : Prop where
  older : copy.resourceVersion ≤ o.resourceVersion
  same : copy.resourceVersion = o.resourceVersion → copy = o

theorem read_self (o : Object α) : o.Read o := ⟨Nat.le_refl _, fun _ => rfl⟩

theorem not_current_write (h : o.Read copy) :
    copy.resourceVersion ≠ (o.write content).resourceVersion := by
  have hle := h.older
  show copy.resourceVersion ≠ o.resourceVersion + 1
  omega

theorem read_write (h : o.Read copy) : (o.write content).Read copy := by
  have hle := h.older
  refine ⟨?_, fun heq => absurd heq (not_current_write h)⟩
  show copy.resourceVersion ≤ o.resourceVersion + 1
  omega

theorem patch_some (h : o.Read copy) (hp : o.patch copy content = some o') :
    copy = o ∧ o' = o.write content := by
  simp only [patch] at hp
  split at hp
  · rename_i heq
    cases hp
    exact ⟨h.same heq, rfl⟩
  · cases hp

end Object

end VirtualKubelet.Api
