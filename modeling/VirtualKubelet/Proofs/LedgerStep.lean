import VirtualKubelet.Rollout.Transition

/-!
# What each ledger transition can do

One inversion lemma for each transition function: if the call returned no
error, these guards held of the record it named and this is the ledger it left.
Every later result about runs reads the functions through these lemmas only.

The second half is atomicity. It is a fact about the shape of the functions,
since all but one write the ledger in their last statement; `Reserve` writes
before its last two checks, and there the record it takes out again is one that
was not in the map before.
-/

namespace VirtualKubelet.Rollout

open Go

variable {l l' : Ledger} {id : String}

namespace Outcome

@[simp] theorem fail_eq_done :
    fail l e = done l' ↔ False := by simp [fail, done]

@[simp] theorem done_eq_done : done l = done l' ↔ l = l' := by
  simp [done]

theorem eq_done {o : Outcome} (h : o.err = none) : o = done o.ledger := by
  cases o with
  | mk err ledger => cases h; rfl

theorem guard {bad : Prop} [Decidable bad] (h : (if bad then fail l e else o) = done l') :
    ¬ bad ∧ o = done l' := by
  split at h
  · simp at h
  · next hpass => exact ⟨hpass, h⟩

theorem guard_same {a a' : α} {b b' : β} [BEq α] [LawfulBEq α] [BEq β] [LawfulBEq β]
    (h : (if a != a' || b != b' then fail l e else o) = done l') :
    (a = a' ∧ b = b') ∧ o = done l' := by
  obtain ⟨hsame, h⟩ := guard h
  simp only [bne_iff_ne, Bool.or_eq_true, not_or, not_not] at hsame
  exact ⟨hsame, h⟩

theorem andThen_eq_done {first : Outcome} :
    first.andThen rest = done l' ↔ ∃ l₁, first = done l₁ ∧ rest l₁ = done l' := by
  obtain ⟨err, ledger⟩ := first
  cases err with
  | none | some e => simp [andThen, done]

end Outcome

namespace Ledger

variable {l : Ledger} {id : String} {r : Reservation}

@[simp] theorem find_put_self : (l.put id r).find id = some r := Map.find_set_self

theorem find_put_ne (h : id' ≠ id) : (l.put id r).find id' = l.find id' :=
  Map.find_set_ne h

@[simp] theorem find_remove_self : (l.remove id).find id = none := Map.find_delete_self

theorem find_remove_ne (h : id' ≠ id) : (l.remove id).find id' = l.find id' :=
  Map.find_delete_ne h

end Ledger

/-! ## Release fences -/

theorem releaseFenceMatches_iff :
    releaseFenceMatches fence id epoch lock = true ↔
      ∃ f, fence = some f ∧ f.reservationID = id ∧ f.policyEpoch = epoch ∧
        f.topologyLockID = lock := by
  cases fence with
  | none => simp [releaseFenceMatches]
  | some f => simp [releaseFenceMatches, and_assoc]

theorem drainFenceMatches_iff :
    drainFenceMatches fence id epoch lock = true ↔
      ∃ f, fence = some f ∧ f.reservationID = id ∧ f.policyEpoch = epoch ∧
        f.topologyLockID = lock ∧ f.drainSessionToken ≠ "" := by
  cases fence with
  | none => simp [drainFenceMatches, releaseFenceMatches]
  | some f => simp [drainFenceMatches, releaseFenceMatches, and_assoc]

def genericFence (id : String) (epoch : Int) (lock : String) : ReleaseFence :=
  ⟨id, epoch, lock, "", ""⟩

/-- The names of an acquisition are fit to be recorded. -/
def FenceNames (id : String) (epoch : Int) (lock : String) : Prop :=
  validBoundedIdentity id 64 = true ∧ 1 ≤ epoch ∧ validTopologyLockID lock = true

theorem recordReleaseFence_ok (h : recordReleaseFence l id epoch lock = .done l') :
    FenceNames id epoch lock ∧
      drainFenceMatches l.lastReleaseFence id epoch lock = false ∧
      l' = { l with lastReleaseFence := some (genericFence id epoch lock) } := by
  obtain ⟨hnames, h⟩ := Outcome.guard h
  obtain ⟨hdrain, h⟩ := Outcome.guard h
  rw [Outcome.done_eq_done] at h
  exact ⟨by simpa [FenceNames, and_assoc] using hnames, by simpa using hdrain, h.symm⟩

theorem fenceAndRemove_ok (h : fenceAndRemove l id epoch lock = .done l') :
    FenceNames id epoch lock ∧
      drainFenceMatches l.lastReleaseFence id epoch lock = false ∧
      l' = { l.remove id with
        lastReleaseFence := some (genericFence id epoch lock) } := by
  obtain ⟨l₁, hfence, hrest⟩ := Outcome.andThen_eq_done.mp h
  obtain ⟨hnames, hdrain, rfl⟩ := recordReleaseFence_ok hfence
  simp only [Outcome.done_eq_done] at hrest
  exact ⟨hnames, hdrain, hrest.symm⟩

theorem remove_absent (h : l.find id = none) : l.remove id = l := by
  have hdel : l.reservations.delete id = l.reservations := Map.delete_absent h
  simp only [Ledger.remove, hdel]

section Plain

variable {l l' : Ledger} {id lock : String} {epoch : Int}

/-! ## Binding, granting and revoking -/

theorem bindChild_ok (h : bindChild l id child = .done l') :
    ∃ r, l.find id = some r ∧ blank child = false ∧
      ((r.childUID = child ∧ l' = l) ∨
        (r.state = .reserved ∧ r.childUID = "" ∧
          l' = l.put id { r with childUID := child, state := .bound })) := by
  simp only [bindChild] at h
  split at h
  · simp at h
  rename_i r hr
  obtain ⟨hblank, h⟩ := Outcome.guard h
  refine ⟨r, hr, by simpa using hblank, ?_⟩
  split at h
  · rename_i hsame
    simp only [Bool.and_eq_true, beq_iff_eq] at hsame
    exact .inl ⟨hsame.1, by simpa using h.symm⟩
  · obtain ⟨hstate, h⟩ := Outcome.guard_same h
    exact .inr ⟨hstate.1, hstate.2, by simpa using h.symm⟩

theorem grant_ok (h : grant l id uid child rev = .done l') :
    l.uid = uid ∧ ∃ r, l.find id = some r ∧ r.drainMarked = false ∧
      r.childUID = child ∧ r.controlRevision ≤ rev ∧
      (r.state = .granted ∨ (r.state = .bound ∧ child ≠ "")) ∧
      l' = l.put id { r with controlRevision := rev, state := .granted } := by
  simp only [grant] at h
  obtain ⟨huid, h⟩ := Outcome.guard h
  split at h
  · simp at h
  rename_i r hr
  obtain ⟨hdrain, h⟩ := Outcome.guard h
  refine ⟨by simpa using huid, r, hr, by simpa using hdrain, ?_⟩
  split at h
  · rename_i hsame
    simp only [Bool.and_eq_true, beq_iff_eq] at hsame
    obtain ⟨hrev, h⟩ := Outcome.guard h
    rw [Outcome.done_eq_done] at h
    refine ⟨hsame.2, by omega, .inl hsame.1, ?_⟩
    rw [← h, ← hsame.1]
  · obtain ⟨hbound, h⟩ := Outcome.guard h
    simp only [bne_iff_ne, beq_iff_eq, Bool.or_eq_true, not_or, not_not] at hbound
    obtain ⟨⟨hne, hchild⟩, hstate⟩ := hbound
    obtain ⟨hrev, h⟩ := Outcome.guard h
    exact ⟨hchild, by omega, .inr ⟨hstate, hchild ▸ hne⟩, by simpa using h.symm⟩

theorem revoke_ok (h : revoke l id rev = .done l') :
    ∃ r, l.find id = some r ∧ r.drainMarked = false ∧
      ((r.state = .revoked ∧ l' = l) ∨
        (r.controlRevision < rev ∧
          (r.state = .reserved ∨ r.state = .bound ∨ r.state = .granted ∨
            r.state = .revoked) ∧
          l' = l.put id { r with controlRevision := rev, state := .revoked })) := by
  simp only [revoke] at h
  split at h
  · simp at h
  rename_i r hr
  obtain ⟨hdrain, h⟩ := Outcome.guard h
  refine ⟨r, hr, by simpa using hdrain, ?_⟩
  split at h
  · rename_i hsame
    simp only [Bool.and_eq_true, beq_iff_eq] at hsame
    exact .inl ⟨hsame.1, by simpa using h.symm⟩
  obtain ⟨hrev, h⟩ := Outcome.guard h
  refine .inr ⟨by omega, ?_⟩
  split at h
  · next hs => exact ⟨.inl hs, by simpa using h.symm⟩
  · next hs => exact ⟨.inr (.inl hs), by simpa using h.symm⟩
  · next hs => exact ⟨.inr (.inr (.inl hs)), by simpa using h.symm⟩
  · next hs => exact ⟨.inr (.inr (.inr hs)), by simpa using h.symm⟩
  · simp at h

theorem revokeUnclaimedAtEpoch_ok
    (h : revokeUnclaimedAtEpoch l id lock child rev epoch = .done l') :
    ∃ r, l.find id = some r ∧ r.policyEpoch = epoch ∧ r.topologyLockID = lock ∧
      r.drainSessionToken = "" ∧ blank child = false ∧ r.childUID = child ∧
      r.controlRevision ≤ rev ∧
      (r.state = .bound ∨ r.state = .granted ∨ r.state = .revoked) ∧
      l' = l.put id { r with controlRevision := rev, state := .revoked } := by
  simp only [revokeUnclaimedAtEpoch] at h
  obtain ⟨-, h⟩ := Outcome.guard h
  split at h
  · simp at h
  rename_i r hr
  obtain ⟨hacq, h⟩ := Outcome.guard_same h
  obtain ⟨htoken, h⟩ := Outcome.guard h
  obtain ⟨hchild, h⟩ := Outcome.guard h
  simp only [bne_iff_ne, Bool.or_eq_true, not_or, not_not, Bool.not_eq_true] at hchild
  obtain ⟨hrev, h⟩ := Outcome.guard h
  refine ⟨r, hr, hacq.1, hacq.2, by simpa using htoken, hchild.1, hchild.2, by omega, ?_⟩
  split at h
  · next hs => exact ⟨.inl hs, by simpa using h.symm⟩
  · next hs => exact ⟨.inr (.inl hs), by simpa using h.symm⟩
  · next hs => exact ⟨.inr (.inr hs), by simpa using h.symm⟩
  · simp at h

/-! ## Generic clean-ups

All three end the same way whether or not the record is still there, so their
lemmas share one conclusion and differ in what they ask of the record. -/

/-- A generic clean-up of the acquisition went through, leaving `l'`. -/
def Cleaned (l : Ledger) (id : String) (epoch : Int) (lock : String) (l' : Ledger) :
    Prop :=
  FenceNames id epoch lock ∧
    drainFenceMatches l.lastReleaseFence id epoch lock = false ∧
    l' = { l.remove id with lastReleaseFence := some (genericFence id epoch lock) }

theorem cleaned_of_absent (habsent : l.find id = none)
    (h : recordReleaseFence l id epoch lock = .done l') : Cleaned l id epoch lock l' := by
  obtain ⟨hnames, hdrain, rfl⟩ := recordReleaseFence_ok h
  exact ⟨hnames, hdrain, by rw [remove_absent habsent]⟩

theorem settle_ok (h : settle l id lock child epoch resolved health = .done l') :
    Cleaned l id epoch lock l' ∧
      ∀ r, l.find id = some r → r.policyEpoch = epoch ∧ r.topologyLockID = lock ∧
        r.drainSessionToken = "" ∧ (r.state = .granted ∨ r.state = .revoked) := by
  simp only [settle] at h
  split at h
  · rename_i hr
    obtain ⟨-, h⟩ := Outcome.guard h
    exact ⟨cleaned_of_absent hr h, by simp [hr]⟩
  rename_i r hr
  obtain ⟨hacq, h⟩ := Outcome.guard_same h
  obtain ⟨htoken, h⟩ := Outcome.guard h
  obtain ⟨-, h⟩ := Outcome.guard h
  obtain ⟨hstate, h⟩ := Outcome.guard h
  refine ⟨fenceAndRemove_ok h, fun r' hr' => ?_⟩
  obtain rfl := Option.some.inj (hr.symm.trans hr')
  refine ⟨hacq.1, hacq.2, by simpa using htoken, ?_⟩
  simp only [bne_iff_ne, Bool.and_eq_true, not_and, not_not] at hstate
  by_cases hg : r.state = .granted
  · exact .inl hg
  · exact .inr (hstate hg)

theorem releaseUnclaimedAtEpoch_ok
    (h : releaseUnclaimedAtEpoch l id lock child rev epoch = .done l') :
    Cleaned l id epoch lock l' ∧
      ∀ r, l.find id = some r → r.policyEpoch = epoch ∧ r.topologyLockID = lock ∧
        r.drainSessionToken = "" ∧ (r.state = .reserved ∨ r.state = .revoked) := by
  obtain ⟨-, h⟩ := Outcome.guard h
  simp only [releaseUnclaimed] at h
  split at h
  · rename_i hr
    obtain ⟨-, h⟩ := Outcome.guard h
    exact ⟨cleaned_of_absent hr h, by simp [hr]⟩
  rename_i r hr
  obtain ⟨hacq, h⟩ := Outcome.guard_same h
  obtain ⟨-, h⟩ := Outcome.guard h
  obtain ⟨htoken, h⟩ := Outcome.guard h
  suffices hrest : fenceAndRemove l id epoch lock = .done l' ∧
      (r.state = .reserved ∨ r.state = .revoked) by
    refine ⟨fenceAndRemove_ok hrest.1, fun r' hr' => ?_⟩
    obtain rfl := Option.some.inj (hr.symm.trans hr')
    exact ⟨hacq.1, hacq.2, by simpa using htoken, hrest.2⟩
  split at h
  · next hs => exact ⟨(Outcome.guard h).2, .inl hs⟩
  · next hs => exact ⟨(Outcome.guard h).2, .inr hs⟩
  · simp at h

theorem fenceUnboundAcquisition_ok
    (h : fenceUnboundAcquisition l id epoch lock = .done l') :
    Cleaned l id epoch lock l' ∧
      ∀ r, l.find id = some r → r.policyEpoch = epoch ∧ r.topologyLockID = lock ∧
        r.state = .reserved := by
  simp only [fenceUnboundAcquisition] at h
  split at h
  · next hr => exact ⟨fenceAndRemove_ok h, by simp [hr]⟩
  rename_i r hr
  obtain ⟨hacq, h⟩ := Outcome.guard_same h
  obtain ⟨hstate, h⟩ := Outcome.guard_same h
  refine ⟨fenceAndRemove_ok h, fun r' hr' => ?_⟩
  obtain rfl := Option.some.inj (hr.symm.trans hr')
  exact ⟨hacq.1, hacq.2, hstate.1⟩

/-! ## Atomicity -/

/-- An error leaves the ledger as it was. -/
def Outcome.Atomic (l : Ledger) (o : Outcome) : Prop := o.err ≠ none → o.ledger = l

theorem atomic_fail : (Outcome.fail l e).Atomic l :=
  fun _ => rfl

theorem atomic_done : (Outcome.done l').Atomic l :=
  fun h => absurd rfl h

theorem atomic_andThen {first : Outcome} {f : Ledger → Ledger} (h : first.Atomic l) :
    (first.andThen fun l => .done (f l)).Atomic l := by
  obtain ⟨err, ledger⟩ := first
  cases err with
  | none => exact atomic_done
  | some e => exact fun _ => h (by simp)

theorem recordReleaseFence_atomic : (recordReleaseFence l id epoch lock).Atomic l := by
  unfold recordReleaseFence
  repeat' split
  all_goals first | exact atomic_fail | exact atomic_done

theorem fenceAndRemove_atomic : (fenceAndRemove l id epoch lock).Atomic l :=
  atomic_andThen recordReleaseFence_atomic

end Plain

section

variable [Upstream] {l l' : Ledger} {id lock child token : String} {epoch : Int}

theorem recordDrainReleaseFence_ok
    (h : recordDrainReleaseFence l id epoch lock child token = .done l') :
    FenceNames id epoch lock ∧ validBoundedIdentity child 128 = true ∧
      validDrainSessionToken token = true ∧
      (releaseFenceMatches l.lastReleaseFence id epoch lock = true →
        l.lastReleaseFence = some ⟨id, epoch, lock, token, child⟩) ∧
      l' = { l with lastReleaseFence := some ⟨id, epoch, lock, token, child⟩ } := by
  obtain ⟨hnames, h⟩ := Outcome.guard h
  have hn : FenceNames id epoch lock ∧ validBoundedIdentity child 128 = true ∧
      validDrainSessionToken token = true := by
    simpa [FenceNames, and_assoc] using hnames
  refine ⟨hn.1, hn.2.1, hn.2.2, ?_⟩
  split at h
  · rename_i hmatch
    split at h
    · rename_i hsame
      -- The fence is already this one, so writing it changes nothing.
      rw [Outcome.done_eq_done] at h
      obtain ⟨f, hf, h₁, h₂, h₃⟩ := releaseFenceMatches_iff.mp hmatch
      rw [hf] at hsame
      have hfence : l.lastReleaseFence = some ⟨id, epoch, lock, token, child⟩ := by
        rw [hf]
        cases f
        simp at hsame h₁ h₂ h₃ ⊢
        exact ⟨h₁, h₂, h₃, hsame⟩
      refine ⟨fun _ => hfence, ?_⟩
      rw [← h, ← hfence]
    · simp at h
  · rename_i hmatch
    rw [Outcome.done_eq_done] at h
    exact ⟨fun hm => absurd hm hmatch, h.symm⟩

theorem beginDrain_ok (h : beginDrain l id uid child token rev t = .done l') :
    l.uid = uid ∧ validDrainSessionToken token = true ∧
      ∃ start r, canonicalLedgerTime t = some start ∧ l.find id = some r ∧
        child ≠ "" ∧ r.childUID = child ∧ r.controlRevision ≤ rev ∧
        ((r.state = .draining ∧ r.drainSessionToken = token ∧
            r.drainStartedAt = start ∧ r.drainCompletedAt = "") ∨
          (r.state = .bound ∧ r.hasDrainProvenance = false)) ∧
        l' = l.put id { r with
          controlRevision := rev, state := .draining
          drainSessionToken := token, drainStartedAt := start } := by
  simp only [beginDrain] at h
  obtain ⟨huid, h⟩ := Outcome.guard h
  obtain ⟨htoken, h⟩ := Outcome.guard h
  split at h
  · simp at h
  rename_i start hstart
  split at h
  · simp at h
  rename_i r hr
  obtain ⟨hchild, h⟩ := Outcome.guard h
  have hc : r.childUID ≠ "" ∧ r.childUID = child := by simpa using hchild
  refine ⟨by simpa using huid, by simpa using htoken, start, r, hstart, hr, hc.2 ▸ hc.1, hc.2, ?_⟩
  split at h
  · rename_i hsame
    simp only [Bool.and_eq_true, beq_iff_eq] at hsame
    obtain ⟨⟨⟨hs, htok⟩, hst⟩, hdone⟩ := hsame
    obtain ⟨hrev, h⟩ := Outcome.guard h
    rw [Outcome.done_eq_done] at h
    refine ⟨by omega, .inl ⟨hs, htok, hst, hdone⟩, ?_⟩
    rw [← h, ← hs, ← htok, ← hst]
  · obtain ⟨hbound, h⟩ := Outcome.guard h
    simp only [bne_iff_ne, Bool.or_eq_true, not_or, not_not, Bool.not_eq_true] at hbound
    obtain ⟨hrev, h⟩ := Outcome.guard h
    exact ⟨by omega, .inr hbound, by simpa using h.symm⟩

theorem promoteDrain_ok (h : promoteDrain l id uid child token rev t = .done l') :
    l.uid = uid ∧ validDrainSessionToken token = true ∧
      ∃ completion r, canonicalLedgerTime t = some completion ∧ l.find id = some r ∧
        child ≠ "" ∧ r.childUID = child ∧ r.drainSessionToken = token ∧
        r.controlRevision ≤ rev ∧
        ((r.state = .granted ∧ r.drainCompletedAt = completion) ∨
          (r.state = .draining ∧ r.drainCompletedAt = "" ∧
            ∃ started, parseCanonicalLedgerTime r.drainStartedAt = some started ∧ started ≤ t)) ∧
        l' = l.put id { r with
          controlRevision := rev, state := .granted, drainCompletedAt := completion } := by
  simp only [promoteDrain] at h
  obtain ⟨huid, h⟩ := Outcome.guard h
  obtain ⟨htoken, h⟩ := Outcome.guard h
  split at h
  · simp at h
  rename_i completion hcomp
  split at h
  · simp at h
  rename_i r hr
  obtain ⟨hchild, h⟩ := Outcome.guard h
  simp only [bne_iff_ne, beq_iff_eq, Bool.or_eq_true, not_or, not_not] at hchild
  obtain ⟨⟨hne, hc⟩, htok⟩ := hchild
  refine ⟨by simpa using huid, by simpa using htoken, completion, r, hcomp, hr, hc ▸ hne, hc, htok, ?_⟩
  split at h
  · rename_i hsame
    simp only [Bool.and_eq_true, beq_iff_eq] at hsame
    obtain ⟨hrev, h⟩ := Outcome.guard h
    rw [Outcome.done_eq_done] at h
    refine ⟨by omega, .inl hsame, ?_⟩
    rw [← h, ← hsame.1, ← hsame.2]
  · obtain ⟨hdraining, h⟩ := Outcome.guard_same h
    obtain ⟨hstart, h⟩ := Outcome.guard h
    obtain ⟨hrev, h⟩ := Outcome.guard h
    refine ⟨by omega, .inr ⟨hdraining.1, hdraining.2, ?_⟩, by simpa using h.symm⟩
    cases hp : parseCanonicalLedgerTime r.drainStartedAt with
    | none => simp [hp] at hstart
    | some started => exact ⟨started, rfl, by simpa [hp] using hstart⟩

theorem revokeDrain_ok (h : revokeDrain l id uid child token rev = .done l') :
    l.uid = uid ∧ validDrainSessionToken token = true ∧
      ∃ r, l.find id = some r ∧ r.childUID = child ∧ r.drainSessionToken = token ∧
        r.drainStartedAt ≠ "" ∧
        ((r.state = .revoked ∧ l' = l) ∨
          (r.controlRevision ≤ rev ∧
            (r.state = .draining ∨ r.state = .granted ∨ r.state = .revoked) ∧
            l' = l.put id { r with controlRevision := rev, state := .revoked })) := by
  simp only [revokeDrain] at h
  obtain ⟨huid, h⟩ := Outcome.guard h
  obtain ⟨htoken, h⟩ := Outcome.guard h
  split at h
  · simp at h
  rename_i r hr
  obtain ⟨hbound, h⟩ := Outcome.guard h
  simp only [bne_iff_ne, beq_iff_eq, Bool.or_eq_true, not_or, not_not] at hbound
  obtain ⟨⟨hc, htok⟩, hstart⟩ := hbound
  refine ⟨by simpa using huid, by simpa using htoken, r, hr, hc, htok, hstart, ?_⟩
  split at h
  · rename_i hsame
    simp only [Bool.and_eq_true, beq_iff_eq] at hsame
    exact .inl ⟨hsame.1, by simpa using h.symm⟩
  obtain ⟨hrev, h⟩ := Outcome.guard h
  refine .inr ⟨by omega, ?_⟩
  split at h
  · next hs => exact ⟨.inl hs, by simpa using h.symm⟩
  · next hs => exact ⟨.inr (.inl hs), by simpa using h.symm⟩
  · next hs => exact ⟨.inr (.inr hs), by simpa using h.symm⟩
  · simp at h

/-- A drained settlement of the acquisition went through, leaving `l'`. The
fence it finds is either of another acquisition or already its own. -/
def DrainCleaned (l : Ledger) (id : String) (epoch : Int)
    (lock child token : String) (l' : Ledger) : Prop :=
  FenceNames id epoch lock ∧ validBoundedIdentity child 128 = true ∧
    validDrainSessionToken token = true ∧
    (releaseFenceMatches l.lastReleaseFence id epoch lock = true →
      l.lastReleaseFence = some ⟨id, epoch, lock, token, child⟩) ∧
    l' = { l.remove id with lastReleaseFence := some ⟨id, epoch, lock, token, child⟩ }

theorem drainCleaned_of_release
    (h : (recordDrainReleaseFence l id epoch lock child token).andThen
      (fun l => .done (l.remove id)) = .done l') :
    DrainCleaned l id epoch lock child token l' := by
  obtain ⟨l₁, hfence, hrest⟩ := Outcome.andThen_eq_done.mp h
  obtain ⟨hnames, hc, htok, hmatch, rfl⟩ := recordDrainReleaseFence_ok hfence
  simp only [Outcome.done_eq_done] at hrest
  exact ⟨hnames, hc, htok, hmatch, hrest.symm⟩

theorem drainCleaned_of_absent (habsent : l.find id = none)
    (h : recordDrainReleaseFence l id epoch lock child token = .done l') :
    DrainCleaned l id epoch lock child token l' := by
  obtain ⟨hnames, hc, htok, hmatch, rfl⟩ := recordDrainReleaseFence_ok h
  exact ⟨hnames, hc, htok, hmatch, by rw [remove_absent habsent]⟩

theorem settleDrained_ok
    (h : settleDrainedReservation l id uid lock child token epoch resolved health
      recovered = .done l') :
    l.uid = uid ∧ resolved = true ∧ health = true ∧ recovered = true ∧
      DrainCleaned l id epoch lock child token l' ∧
      ∀ r, l.find id = some r → r.policyEpoch = epoch ∧ r.topologyLockID = lock ∧
        r.childUID = child ∧
        ((r.state = .bound ∧ r.hasDrainProvenance = false) ∨
          (r.drainSessionToken = token ∧
            (r.state = .draining ∨ r.state = .granted ∨ r.state = .revoked))) := by
  simp only [settleDrainedReservation] at h
  obtain ⟨huid, h⟩ := Outcome.guard h
  obtain ⟨-, h⟩ := Outcome.guard h
  obtain ⟨hevidence, h⟩ := Outcome.guard h
  simp only [Bool.or_eq_true, Bool.not_eq_true', not_or, Bool.not_eq_false] at hevidence
  obtain ⟨⟨⟨-, hres⟩, hhealth⟩, hrec⟩ := hevidence
  refine ⟨by simpa using huid, hres, hhealth, hrec, ?_⟩
  split at h
  · next hr => exact ⟨drainCleaned_of_absent hr h, by simp [hr]⟩
  rename_i r hr
  obtain ⟨hacq, h⟩ := Outcome.guard_same h
  obtain ⟨hchild, h⟩ := Outcome.guard h
  suffices hrest : (recordDrainReleaseFence l id epoch lock child token).andThen
        (fun l => .done (l.remove id)) = .done l' ∧
      ((r.state = .bound ∧ r.hasDrainProvenance = false) ∨
        (r.drainSessionToken = token ∧
          (r.state = .draining ∨ r.state = .granted ∨ r.state = .revoked))) by
    refine ⟨drainCleaned_of_release hrest.1, fun r' hr' => ?_⟩
    obtain rfl := Option.some.inj (hr.symm.trans hr')
    exact ⟨hacq.1, hacq.2, by simpa using hchild, hrest.2⟩
  split at h
  · rename_i hbound
    obtain ⟨hprov, h⟩ := Outcome.guard h
    exact ⟨h, .inl ⟨by simpa using hbound, by simpa using hprov⟩⟩
  obtain ⟨htoken, h⟩ := Outcome.guard h
  have htok : r.drainSessionToken = token := by simpa using htoken
  split at h
  · next hs => exact ⟨h, .inr ⟨htok, .inl hs⟩⟩
  · next hs => exact ⟨h, .inr ⟨htok, .inr (.inl hs)⟩⟩
  · next hs => exact ⟨h, .inr ⟨htok, .inr (.inr hs)⟩⟩
  · simp at h

/-! ## Reserve -/

/-- The call adds the record: every check passes, the last two on the ledger
that already holds it. -/
structure Admits (l : Ledger) (policy : Policy) (members : List Member)
    (request : ReservationRequest) : Prop where
  inputs : validateInputs l policy request = none
  unfenced : releaseFenceMatches l.lastReleaseFence request.id request.policyEpoch
    request.topologyLockID = false
  absent : l.find request.id = none
  checks : ∃ canonical, canonicalizeMembers members = .ok canonical ∧
    admissionError l policy canonical request = none
  valid : validatePersistedLedger (l.put request.id (newReservation request)) = none
  encodes : encodeError (l.put request.id (newReservation request))
    policy.maxSerializedBytes = none

theorem reserve_ok (h : reserve l policy members request = .done l') :
    (∃ existing, validateInputs l policy request = none ∧
      releaseFenceMatches l.lastReleaseFence request.id request.policyEpoch
        request.topologyLockID = false ∧
      l.find request.id = some existing ∧
      sameRequest existing.toReservationRequest request = true ∧ l' = l) ∨
    (Admits l policy members request ∧
      l' = l.put request.id (newReservation request)) := by
  simp only [reserve] at h
  split at h
  · simp at h
  rename_i hinputs
  split at h
  · simp at h
  rename_i hfence
  have hf : releaseFenceMatches l.lastReleaseFence request.id request.policyEpoch
      request.topologyLockID = false := by simpa using hfence
  split at h
  · rename_i existing hex
    split at h
    · next hsame => exact .inl ⟨existing, hinputs, hf, hex, hsame, by simpa using h.symm⟩
    · simp at h
  rename_i habsent
  split at h
  · simp at h
  rename_i canonical hcanon
  split at h
  · simp at h
  rename_i hchecks
  split at h
  · simp at h
  rename_i hlate
  simp only [Option.or_eq_none_iff] at hlate
  exact .inr ⟨⟨hinputs, hf, habsent, ⟨canonical, hcanon, hchecks⟩, hlate.1,
    hlate.2⟩, by simpa using h.symm⟩

theorem reserve_admits (h : Admits l policy members request) :
    reserve l policy members request =
      .done (l.put request.id (newReservation request)) := by
  obtain ⟨canonical, hcanon, hchecks⟩ := h.checks
  simp only [reserve, h.inputs, h.unfenced, h.absent, hcanon, hchecks, h.valid,
    h.encodes, Option.or_none]
  rfl

theorem recordDrainReleaseFence_atomic :
    (recordDrainReleaseFence l id epoch lock child token).Atomic l := by
  unfold recordDrainReleaseFence
  repeat' split
  all_goals first | exact atomic_fail | exact atomic_done

/-- Reserve takes out exactly what it put in: the name was free. -/
theorem reserve_atomic : (reserve l policy members request).Atomic l := by
  unfold reserve
  split
  · exact atomic_fail
  split
  · exact atomic_fail
  split
  · split
    · exact atomic_done
    · exact atomic_fail
  rename_i habsent
  split
  · exact atomic_fail
  split
  · exact atomic_fail
  simp only []
  split
  · have hback : (l.put request.id (newReservation request)).remove
        request.id = l := by
      have hdel := Map.delete_set (newReservation request) habsent
      simp only [Ledger.put, Ledger.remove, hdel]
    rw [hback]
    exact atomic_fail
  · exact atomic_done

theorem apply_atomic (l : Ledger) (op : Op) : (op.apply l).Atomic l := by
  cases op with
  | reserve => exact reserve_atomic
  | bindChild | beginDrain | promoteDrain | grant | revoke | revokeDrain | revokeUnclaimed =>
    simp only [Op.apply, bindChild, beginDrain, promoteDrain, grant, revoke, revokeDrain,
      revokeUnclaimedAtEpoch]
    repeat' split
    all_goals first | exact atomic_fail | exact atomic_done
  | settle | releaseUnclaimed | fenceUnbound =>
    simp only [Op.apply, settle, releaseUnclaimedAtEpoch, releaseUnclaimed,
      fenceUnboundAcquisition]
    repeat' split
    all_goals
      first
        | exact atomic_fail
        | exact recordReleaseFence_atomic
        | exact fenceAndRemove_atomic
  | settleDrained =>
    simp only [Op.apply, settleDrainedReservation]
    repeat' split
    all_goals
      first
        | exact atomic_fail
        | exact recordDrainReleaseFence_atomic
        | exact atomic_andThen recordDrainReleaseFence_atomic

end

end VirtualKubelet.Rollout
