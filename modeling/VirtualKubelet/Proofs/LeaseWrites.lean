import VirtualKubelet.Coordination.LeaseProtocol

/-!
# What a call may write to the Lease

`Rewrites` lists the ways a call changes an existing Lease, each with the
condition the operation has tested on the copy it read. Every request of every
operation is `Allowed` by what the call has seen before: it is never made after
a write that went through, so a write ends the call, and an acquiring call
reports the Lease as owned exactly if it ends so.
-/

namespace VirtualKubelet.Coordination

open Go Api Program

abbrev VerbEvent := Event Verb Reply

variable {k : Call} {past : List VerbEvent} {now : Int} {copy : Object Lease} {e : VerbEvent}

/-- The time the call has sampled, which is the first thing it does. -/
def sampled : List VerbEvent → Option Int
  | ⟨.now, t⟩ :: _ => some t
  | _ => none

theorem sampled_append (h : sampled past = some now) : sampled (past ++ more) = some now := by
  cases past with
  | nil => cases h
  | cons e past =>
    obtain ⟨verb, reply⟩ := e
    cases verb with
    | now => exact h
    | get | create | update | delete => cases h

def wrote : VerbEvent → Bool
  | ⟨.create _, .ok _⟩ | ⟨.update .., .ok _⟩ | ⟨.delete .., .ok _⟩ => true
  | _ => false

/-- The last thing the call did is no write that went through. -/
def Unwritten (past : List VerbEvent) : Prop := ∀ e, past.getLast? = some e → wrote e = false

theorem unwritten_nil : Unwritten [] := fun _ h => nomatch h

theorem unwritten_snoc (h : wrote e = false) : Unwritten (past ++ [e]) := by
  intro e' he'
  rw [List.getLast?_concat] at he'
  cases he'
  exact h

theorem not_unwritten_snoc (h : wrote e = true) : ¬ Unwritten (past ++ [e]) := by
  intro hun
  have hfalse := hun e (List.getLast?_concat ..)
  rw [h] at hfalse
  cases hfalse

def Op.acquires (op : Op) : Prop := op = .acquire ∨ op = .acquireIfFree

/-- What a call can make of a Lease it has read, by the time it has sampled. -/
inductive Rewrites (k : Call) : Option Int → Lease → Lease → Prop
  | renewed {now : Int} {old : Lease} (hop : k.op.acquires)
      (hholder : old.holderIdentity = some k.identity.text) :
      Rewrites k (some now) old (old.renewed k.leaser.ttlSeconds now)
  | taken {now : Int} {old : Lease} (hother : old.holder ≠ k.identity.text)
      (hfree : (k.op = .acquire ∧ old.leaseExpired now = true) ∨
        (k.op = .acquireIfFree ∧ old.holder = "")) :
      Rewrites k (some now) old (old.takenOver k.identity.text k.leaser.ttlSeconds now)
  | released {t : Option Int} {old : Lease} (hop : k.op = .release)
      (hholder : old.holderIdentity = some k.identity.text) (hretained : old.retained = true) :
      Rewrites k t old (old.released k.family)
  | published {t : Option Int} {old : Lease} {request : RequestEntries}
      (hop : k.op = .publish request) :
      Rewrites k t old { old with
        annotations := request.entries.foldl (fun m e => m.set e.1 e.2) old.annotations }

/-- The sample and the copies of the call that a request rests on. -/
def Grounded (k : Call) (past : List VerbEvent) : Verb → Prop
  | .now => past = []
  | .get => True
  | .create lease => k.op.acquires ∧ ∃ now, sampled past = some now ∧
      lease = .created k.identity.text k.leaser.ttlSeconds now
  | .update copy lease => (⟨.get, .ok copy⟩ : VerbEvent) ∈ past ∧
      Rewrites k (sampled past) copy.content lease
  | .delete uid resourceVersion => ∃ copy, (⟨.get, .ok copy⟩ : VerbEvent) ∈ past ∧
      uid = copy.content.uid ∧ resourceVersion = copy.resourceVersion ∧ k.op = .release ∧
      copy.content.holderIdentity = some k.identity.text ∧ copy.content.retained = false

def Allowed (k : Call) (past : List VerbEvent) (verb : Verb) : Prop :=
  Unwritten past ∧ Grounded k past verb

abbrev Obliged {α : Type} (k : Call) (p : Lessee α) (past : List VerbEvent)
    (Q : List VerbEvent → α → Prop) : Prop :=
  p.Obeys (fun _ _ => True) (Allowed k) past Q

/-- The Lease is owned exactly if the last thing done was to write it. -/
inductive EndsOwned (past : List VerbEvent) : Except String LeaseResult → Prop
  | owned {holder : String} (h : ¬ Unwritten past) : EndsOwned past (.ok ⟨true, holder⟩)
  | lost {holder : String} (h : Unwritten past) : EndsOwned past (.ok ⟨false, holder⟩)
  | failed {text : String} (h : Unwritten past) : EndsOwned past (.error text)

theorem holderIdentity_of_holder {lease : Lease} (identity : Identity)
    (h : lease.holder = identity.text) : lease.holderIdentity = some identity.text := by
  cases hid : lease.holderIdentity with
  | none =>
    rw [Lease.holder, hid] at h
    exact absurd h.symm identity.nonempty
  | some text =>
    rw [Lease.holder, hid] at h
    exact congrArg some h

theorem mem_read (past : List VerbEvent) (copy : Object Lease) :
    (⟨.get, .ok copy⟩ : VerbEvent) ∈ past ++ [⟨.get, .ok copy⟩] :=
  List.mem_append_right _ (List.mem_singleton_self _)

/-! ## The operations -/

/-- The common end of the acquiring operations: an error is reported, a
conflict is not ownership. -/
theorem obliged_update (h : Allowed k past (.update copy lease)) :
    Obliged k (do
      match ← updateLease copy lease with
      | .error e =>
        if e.reason = .conflict then pure (.ok ⟨false, holder⟩) else pure (.error (text ++ e.text))
      | .ok _ => pure (.ok ⟨true, owner⟩)) past EndsOwned := by
  refine ⟨h, fun r _ => ?_⟩
  cases r with
  | ok _ => exact .owned (not_unwritten_snoc rfl)
  | error e =>
    show Obliged k (if e.reason = .conflict then _ else _) _ _
    split
    · exact .lost (unwritten_snoc rfl)
    · exact .failed (unwritten_snoc rfl)

theorem obliged_renewOrReport (hop : k.op = .acquire) (hun : Unwritten past)
    (hnow : sampled past = some now) (hcopy : (⟨.get, .ok copy⟩ : VerbEvent) ∈ past) :
    Obliged k (k.leaser.renewOrReport copy k.identity.text now) past EndsOwned := by
  rw [FamilyLeaser.renewOrReport]
  split
  · rename_i hholder
    refine obliged_update ⟨hun, hcopy, ?_⟩
    rw [hnow]
    exact .renewed (.inl hop) (holderIdentity_of_holder _ hholder)
  rename_i hother
  split
  · rename_i hexpired
    refine obliged_update ⟨hun, hcopy, ?_⟩
    rw [hnow]
    exact .taken hother (.inl ⟨hop, hexpired⟩)
  · exact .lost hun

theorem obliged_claimIfFree (hop : k.op = .acquireIfFree) (hun : Unwritten past)
    (hnow : sampled past = some now) (hcopy : (⟨.get, .ok copy⟩ : VerbEvent) ∈ past) :
    Obliged k (k.leaser.claimIfFree copy k.identity.text now) past EndsOwned := by
  rw [FamilyLeaser.claimIfFree]
  split
  · rename_i hfree
    refine obliged_update ⟨hun, hcopy, ?_⟩
    rw [hnow]
    split
    · rename_i hother
      refine .taken hother (.inr ⟨hop, ?_⟩)
      simpa [hother] using hfree
    rename_i hholder
    -- Writing the holder it already has leaves a mere renewal.
    have hid := holderIdentity_of_holder _ (Decidable.not_not.mp hholder)
    have hsame : ({ copy.content.renewed k.leaser.ttlSeconds now with
        holderIdentity := some k.identity.text } : Lease) =
        copy.content.renewed k.leaser.ttlSeconds now := by
      rw [← hid]
      rfl
    rw [hsame]
    exact .renewed (.inr hop) hid
  · exact .lost hun

/-- The read and the creation before the shared path, whatever that is. -/
theorem obliged_readOrCreate (hop : k.op.acquires) (hun : Unwritten past)
    (hnow : sampled past = some now) (h : ∀ copy past, Unwritten past → sampled past = some now →
      (⟨.get, .ok copy⟩ : VerbEvent) ∈ past → Obliged k (existing copy) past EndsOwned) :
    Obliged k (k.leaser.readOrCreate name k.identity.text now existing) past EndsOwned := by
  refine ⟨⟨hun, trivial⟩, fun r _ => ?_⟩
  have hread : sampled (past ++ [⟨.get, r⟩]) = some now := sampled_append hnow
  cases r with
  | ok copy => exact h copy _ (unwritten_snoc rfl) hread (mem_read past copy)
  | error e =>
    show Obliged k (ite _ _ _) _ _
    split
    · exact .failed (unwritten_snoc rfl)
    split
    · exact .failed (unwritten_snoc rfl)
    refine ⟨⟨unwritten_snoc rfl, hop, now, hread, rfl⟩, fun r _ => ?_⟩
    cases r with
    | ok _ => exact .owned (not_unwritten_snoc rfl)
    | error e =>
      show Obliged k (ite _ _ _) _ _
      split
      · exact .failed (unwritten_snoc rfl)
      refine ⟨⟨unwritten_snoc rfl, trivial⟩, fun r _ => ?_⟩
      cases r with
      | error e => exact .failed (unwritten_snoc rfl)
      | ok copy =>
        exact h copy _ (unwritten_snoc rfl) (sampled_append (sampled_append hread))
          (mem_read _ copy)

theorem obliged_acquire (hop : k.op = .acquire) :
    Obliged k (k.leaser.acquire k.device k.family k.identity.text) [] EndsOwned := by
  rw [FamilyLeaser.acquire]
  split
  · exact .failed unwritten_nil
  refine ⟨⟨unwritten_nil, rfl⟩, fun now _ => ?_⟩
  refine obliged_readOrCreate (.inl hop) (unwritten_snoc rfl) rfl ?_
  intro copy past hun hnow hcopy
  exact obliged_renewOrReport hop hun hnow hcopy

theorem obliged_acquireIfFree (hop : k.op = .acquireIfFree) :
    Obliged k (k.leaser.acquireIfFree k.device k.family k.identity.text) [] EndsOwned := by
  rw [FamilyLeaser.acquireIfFree]
  split
  · exact .failed unwritten_nil
  refine ⟨⟨unwritten_nil, rfl⟩, fun now _ => ?_⟩
  refine obliged_readOrCreate (.inr hop) (unwritten_snoc rfl) rfl ?_
  intro copy past hun hnow hcopy
  exact obliged_claimIfFree hop hun hnow hcopy

theorem obliged_releaseOnce (hop : k.op = .release) (hun : Unwritten past) :
    Obliged k (k.leaser.releaseOnce k.family k.identity.text) past
      fun past' r => ∀ e, r = .error e → Unwritten past' := by
  refine ⟨⟨hun, trivial⟩, fun r _ => ?_⟩
  cases r with
  | error e =>
    show Obliged k (ite _ _ _) _ _
    split
    · exact fun _ _ => unwritten_snoc rfl
    · exact fun _ _ => unwritten_snoc rfl
  | ok copy =>
    show Obliged k (ite _ _ _) _ _
    split
    · exact fun _ _ => unwritten_snoc rfl
    rename_i hholder
    have hid := Decidable.not_not.mp hholder
    split
    · rename_i hretained
      refine ⟨⟨unwritten_snoc rfl, mem_read past copy, .released hop hid hretained⟩,
        fun r _ e he => ?_⟩
      rw [he]
      exact unwritten_snoc rfl
    · rename_i hretained
      refine ⟨⟨unwritten_snoc rfl, copy, mem_read past copy, rfl, rfl, hop, hid,
        by simpa using hretained⟩, fun r _ => ?_⟩
      cases r with
      | ok _ => exact fun _ h => nomatch h
      | error e =>
        show Obliged k (ite _ _ _) _ _
        split
        · exact fun _ _ => unwritten_snoc rfl
        · exact fun _ _ => unwritten_snoc rfl

theorem obliged_release (hop : k.op = .release) :
    Obliged k (k.leaser.release k.device k.family k.identity.text) [] fun _ _ => True := by
  rw [FamilyLeaser.release]
  split
  · trivial
  refine (obeys_retryOnConflict (fun past hun => obliged_releaseOnce hop hun)
    (fun past e h _ => h e rfl) unwritten_nil _).bind fun past r _ _ => ?_
  cases r with
  | ok _ => trivial
  | error e =>
    show Obliged k (ite _ _ _) _ _
    split
    · trivial
    · trivial

theorem obliged_publishRequest {request : RequestEntries} (hop : k.op = .publish request) :
    Obliged k (publishRequest request) [] fun _ _ => True := by
  refine ⟨⟨unwritten_nil, trivial⟩, fun r _ => ?_⟩
  cases r with
  | error e => trivial
  | ok copy => exact ⟨⟨unwritten_snoc rfl, mem_read [] copy, .published hop⟩, fun _ _ => trivial⟩

/-- How the call of an operation can end. -/
def Ends (k : Call) (past : List VerbEvent) : Outcome → Prop
  | .acquired result => k.op.acquires ∧ EndsOwned past result
  | .released _ | .published _ => ¬ k.op.acquires

theorem obliged_program (k : Call) : Obliged k k.program [] (Ends k) := by
  rw [Call.program]
  split
  · next hop => exact (obliged_acquire hop).bind fun _ _ _ h => ⟨.inl hop, h⟩
  · next hop => exact (obliged_acquireIfFree hop).bind fun _ _ _ h => ⟨.inr hop, h⟩
  · rename_i hop
    refine (obliged_release hop).bind fun _ _ _ _ => ?_
    show ¬ k.op.acquires
    simp [Op.acquires, hop]
  · rename_i hop
    refine (obliged_publishRequest hop).bind fun _ _ _ _ => ?_
    show ¬ k.op.acquires
    simp [Op.acquires, hop]

end VirtualKubelet.Coordination
