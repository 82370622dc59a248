import VirtualKubelet.Api.Object
import VirtualKubelet.Rollout.Transition

/-!
# The ledger in its ConfigMap

`Store.Mutate` reads the ConfigMap, runs a transition on the decoded ledger,
checks and encodes the result, and patches the object under its
resourceVersion. The text in the object is represented by the ledger it decodes
to: the store only ever writes what `Encode` made of a ledger, so equal texts
are equal ledgers.
-/

namespace VirtualKubelet.Rollout

open Go Api

structure ConfigMap where
  uid : String
  ledger : Ledger
  deriving DecidableEq

/-- The administrator's policy names the one object the store may use. -/
structure Store where
  expectedUID : String

section

variable [Upstream]

/-- What `Decode` refuses, once the JSON has been read. -/
def decodeError (l : Ledger) (expectedUID : String) : Option LedgerError :=
  (firstError
    [(blank expectedUID, Sentinel.ledgerIdentity.wrap "expected UID is empty"),
     (decide (defaultMaxSerializedBytes < l.jsonSize),
      Sentinel.ledgerIdentity.wrap
        s!"encoded ledger is {l.jsonSize} bytes (absolute limit {defaultMaxSerializedBytes})"),
     (l.version != ledgerVersion || l.uid != expectedUID,
      Sentinel.ledgerIdentity.wrap
        s!"version={l.version} uid={l.uid} expected uid={expectedUID}")]).or
  (validatePersistedLedger l)

def Store.read (s : Store) (cm : Object ConfigMap) : Except LedgerError Ledger :=
  if s.expectedUID == "" then
    .error (Sentinel.ledgerIdentity.wrap "store is incomplete")
  else if cm.content.uid != s.expectedUID then
    .error (Sentinel.ledgerIdentity.wrap s!"object UID={cm.content.uid} expected={s.expectedUID}")
  else
    match decodeError cm.content.ledger s.expectedUID with
    | some e => .error e
    | none => .ok cm.content.ledger

/-- How one attempt of `Mutate` ends. A conflict makes `RetryOnConflict` start
again from the read. -/
inductive Commit
  | failed (e : LedgerError)
  | conflict
  | committed (cm : Object ConfigMap)

/-- The part of `Mutate` after the callback: `before` is the object it read and
`cm` the object as it now is. -/
def Store.commit (s : Store) (cm before : Object ConfigMap) (out : Outcome) : Commit :=
  match out.err with
  | some e => .failed e
  | none =>
    match (validatePersistedLedger out.ledger).or <|
        (firstError [(out.ledger.uid != s.expectedUID,
          Sentinel.ledgerIdentity.wrap "mutation changed ledger UID")]).or <|
        encodeError out.ledger defaultMaxSerializedBytes with
    | some e => .failed e
    | none =>
      if before.content.ledger = out.ledger then .committed cm
      else
        match cm.patch before { before.content with ledger := out.ledger } with
        | none => .conflict
        | some cm' => .committed cm'

/-- A commit went through: nothing had to be written, or the transition was run
on the ledger as it is and its result was written. -/
theorem commit_committed {s : Store} {cm before cm' : Object ConfigMap} (hread : cm.Read before)
    (h : s.commit cm before out = .committed cm') :
    out = .done out.ledger ∧ ((cm' = cm ∧ before.content.ledger = out.ledger) ∨
      (before = cm ∧ cm' = cm.write { cm.content with ledger := out.ledger })) := by
  simp only [Store.commit] at h
  split at h
  · cases h
  rename_i herr
  refine ⟨?_, ?_⟩
  · obtain ⟨l, e⟩ := out
    cases herr
    rfl
  split at h
  · cases h
  split at h
  · rename_i heq
    cases h
    exact .inl ⟨rfl, heq⟩
  split at h
  · cases h
  rename_i hpatch
  cases h
  obtain ⟨rfl, hwrite⟩ := Object.patch_some hread hpatch
  exact .inr ⟨rfl, hwrite⟩

end

end VirtualKubelet.Rollout
