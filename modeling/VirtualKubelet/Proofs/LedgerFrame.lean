import VirtualKubelet.Proofs.LedgerStep

/-!
# Atomicity and framing

A call that succeeds does one of four things to the ledger: nothing, add the
record it was asked to reserve, overwrite the record it names by one with the
same identity, or remove that record and leave a fence. `apply_effect` says so
once for all twelve functions, and the results about runs split on it.

The identity of a record is everything `Reserve` wrote except the control
revision, which every grant and revocation moves.
-/

namespace VirtualKubelet.Rollout

open Go

/-- Everything the request fixed is the same; only the control revision, and
what is not part of the request, may differ. -/
def SameIdentity (r r' : Reservation) : Prop :=
  r'.toReservationRequest =
    { r.toReservationRequest with controlRevision := r'.controlRevision }

theorem sameIdentity_refl (r : Reservation) : SameIdentity r r := rfl

theorem sameIdentity_trans (h₁ : SameIdentity r₁ r₂) (h₂ : SameIdentity r₂ r₃) :
    SameIdentity r₁ r₃ := by
  unfold SameIdentity at h₁ h₂ ⊢
  rw [h₂, h₁]

namespace SameIdentity

variable {r r' : Reservation}

theorem request (h : SameIdentity r r') :
    ∃ rev, r'.toReservationRequest =
      { r.toReservationRequest with controlRevision := rev } := ⟨_, h⟩

theorem physicalID (h : SameIdentity r r') : r'.physicalID = r.physicalID := by
  rw [SameIdentity] at h
  rw [h]

theorem domains (h : SameIdentity r r') : r'.domains = r.domains := by
  rw [SameIdentity] at h
  rw [h]

theorem riskGroups (h : SameIdentity r r') : r'.riskGroups = r.riskGroups := by
  rw [SameIdentity] at h
  rw [h]

end SameIdentity

variable [Upstream] {l l' : Ledger} {op : Op}

/-- What a successful call does. -/
inductive Effect (l : Ledger) (op : Op) (l' : Ledger) : Prop
  | unchanged (h : l' = l)
  | added (policy : Policy) (members : List Member) (request : ReservationRequest)
      (hop : op = .reserve policy members request)
      (hadmits : Admits l policy members request)
      (h : l' = l.put request.id (newReservation request))
  | updated (r r' : Reservation) (hr : l.find op.target = some r)
      (h : l' = l.put op.target r') (hsame : SameIdentity r r')
      (hrev : r.controlRevision ≤ r'.controlRevision)
  | released (fence : ReleaseFence)
      (h : l' = { l.remove op.target with lastReleaseFence := some fence })

theorem apply_effect (h : op.apply l = .done l') : Effect l op l' := by
  cases op with
  | reserve policy members request =>
    rcases reserve_ok h with ⟨_, _, _, _, _, rfl⟩ | ⟨hadmits, rfl⟩
    · exact .unchanged rfl
    · exact .added policy members request rfl hadmits rfl
  | bindChild id child =>
    obtain ⟨r, hr, _, hor⟩ := bindChild_ok h
    rcases hor with ⟨_, rfl⟩ | ⟨_, _, rfl⟩
    · exact .unchanged rfl
    · exact .updated r _ hr rfl rfl (le_refl _)
  | beginDrain id uid child token rev t =>
    obtain ⟨_, _, start, r, _, hr, _, _, hrev, _, rfl⟩ := beginDrain_ok h
    exact .updated r _ hr rfl rfl hrev
  | promoteDrain id uid child token rev t =>
    obtain ⟨_, _, completion, r, _, hr, _, _, _, hrev, _, rfl⟩ := promoteDrain_ok h
    exact .updated r _ hr rfl rfl hrev
  | grant id uid child rev =>
    obtain ⟨_, r, hr, _, _, hrev, _, rfl⟩ := grant_ok h
    exact .updated r _ hr rfl rfl hrev
  | revoke id rev =>
    obtain ⟨r, hr, _, hor⟩ := revoke_ok h
    rcases hor with ⟨_, rfl⟩ | ⟨hrev, _, rfl⟩
    · exact .unchanged rfl
    · exact .updated r _ hr rfl rfl (le_of_lt hrev)
  | revokeDrain id uid child token rev =>
    obtain ⟨_, _, r, hr, _, _, _, hor⟩ := revokeDrain_ok h
    rcases hor with ⟨_, rfl⟩ | ⟨hrev, _, rfl⟩
    · exact .unchanged rfl
    · exact .updated r _ hr rfl rfl hrev
  | revokeUnclaimed id lock child rev epoch =>
    obtain ⟨r, hr, _, _, _, _, _, hrev, _, rfl⟩ := revokeUnclaimedAtEpoch_ok h
    exact .updated r _ hr rfl rfl hrev
  | settle id lock child epoch resolved health =>
    exact .released _ (settle_ok h).1.2.2
  | settleDrained id uid lock child token epoch resolved health recovered =>
    obtain ⟨_, _, _, _, hclean, _⟩ := settleDrained_ok h
    exact .released _ hclean.2.2.2.2
  | releaseUnclaimed id lock child rev epoch =>
    exact .released _ (releaseUnclaimedAtEpoch_ok h).1.2.2
  | fenceUnbound id epoch lock =>
    exact .released _ (fenceUnboundAcquisition_ok h).1.2.2

theorem step_cases (l : Ledger) (op : Op) : step l op = l ∨ Effect l op (step l op) := by
  cases herr : (op.apply l).err with
  | none => exact .inr (apply_effect (Outcome.eq_done herr))
  | some e => exact .inl (apply_atomic l op (by simp [herr]))

theorem run_append :
    run l (first ++ second) = run (run l first) second := Machine.run_append

theorem effect_find_ne (h : Effect l op l') {id : String} (hid : id ≠ op.target) :
    l'.find id = l.find id := by
  cases h with
  | unchanged h => rw [h]
  | added policy members request hop _ h =>
    subst hop
    rw [h]
    exact Ledger.find_put_ne hid
  | updated r r' _ h _ _ => rw [h, Ledger.find_put_ne hid]
  | released fence h => rw [h]; exact Ledger.find_remove_ne hid

theorem effect_names (h : Effect l op l') : l'.version = l.version ∧ l'.uid = l.uid := by
  cases h with
  | unchanged h | added policy members request hop _ h | updated r r' _ h _ _ | released fence h =>
    rw [h]; exact ⟨rfl, rfl⟩

theorem step_identity {id : String} (hr : l.find id = some r)
    (hpresent : (step l op).find id ≠ none) :
    ∃ r', (step l op).find id = some r' ∧ SameIdentity r r' ∧
      r.controlRevision ≤ r'.controlRevision := by
  rcases step_cases l op with hsame | heff
  · rw [hsame]
    exact ⟨r, hr, sameIdentity_refl r, le_refl _⟩
  by_cases hid : id = op.target
  · subst hid
    cases heff with
    | unchanged h => rw [h]; exact ⟨r, hr, sameIdentity_refl r, le_refl _⟩
    | added policy members request hop hadmits h =>
      subst hop
      rw [show Op.target (.reserve policy members request) = request.id from rfl,
        hadmits.absent] at hr
      cases hr
    | updated r₀ r' hr₀ h hsame hrev =>
      rw [hr] at hr₀
      cases hr₀
      exact ⟨r', by rw [h, Ledger.find_put_self], hsame, hrev⟩
    | released fence h =>
      rw [h] at hpresent
      exact absurd Ledger.find_remove_self hpresent
  · rw [effect_find_ne heff hid]
    exact ⟨r, hr, sameIdentity_refl r, le_refl _⟩

theorem run_identity {id : String} (hr : l.find id = some r)
    (hpresent : ∀ pre, pre <+: ops → (run l pre).find id ≠ none) :
    ∃ r', (run l ops).find id = some r' ∧ SameIdentity r r' := by
  -- The record may be overwritten many times; each version keeps the identity.
  refine Machine.run_while
    (P := fun s : Ledger => ∃ r', s.find id = some r' ∧ SameIdentity r r')
    (G := fun s : Ledger => s.find id ≠ none) ⟨r, hr, sameIdentity_refl r⟩ ?_ hpresent
  rintro s i ⟨r₁, hr₁, hsame₁⟩ hguard
  obtain ⟨r₂, hr₂, hsame₂, _⟩ := step_identity hr₁ hguard
  exact ⟨r₂, hr₂, sameIdentity_trans hsame₁ hsame₂⟩

/-- `Reserve` of what is already recorded looks at no fleet. -/
theorem reserve_existing (hinputs : validateInputs l policy request = none)
    (hfence : releaseFenceMatches l.lastReleaseFence request.id request.policyEpoch
      request.topologyLockID = false) (hfind : l.find request.id = some existing)
    (hsame : sameRequest existing.toReservationRequest request = true) (members : List Member) :
    reserve l policy members request = .done l := by
  simp only [reserve, hinputs, hfence, hfind, hsame, if_true]
  rfl

omit [Upstream] in
theorem sameRequest_newReservation (request : ReservationRequest) :
    sameRequest (newReservation request).toReservationRequest request = true := by
  simp only [sameRequest, decide_eq_true_eq]
  rfl

theorem reserve_replay (h : reserve l policy members request = .done l') (members' : List Member) :
    reserve l' policy members' request = .done l' := by
  rcases reserve_ok h with ⟨existing, hinputs, hfence, hfind, hsame, rfl⟩ | ⟨hadmits, rfl⟩
  · exact reserve_existing hinputs hfence hfind hsame members'
  · have hinputs : validateInputs (l.put request.id (newReservation request)) policy request =
        none := hadmits.inputs
    exact reserve_existing hinputs hadmits.unfenced Ledger.find_put_self
      (sameRequest_newReservation request) members'

/-- Every transition is atomic and framed. A call that errs leaves the whole
ledger as it was; one that succeeds changes at most the record it names and the
fence; a record keeps its identity for as long as it stays in the ledger; and a
successful `Reserve` can be repeated, whatever fleet is then observed. -/
theorem transitions_atomic_and_framed (l : Ledger) (op : Op) :
    ((op.apply l).err ≠ none → (op.apply l).ledger = l) ∧
    ((op.apply l).err = none →
      (op.apply l).ledger.version = l.version ∧ (op.apply l).ledger.uid = l.uid ∧
      ∀ id, id ≠ op.target → (op.apply l).ledger.find id = l.find id) ∧
    (∀ (ops : List Op) (id : String) (r : Reservation), l.find id = some r →
      (∀ pre, pre <+: ops → (run l pre).find id ≠ none) →
      ∃ r', (run l ops).find id = some r' ∧ SameIdentity r r') ∧
    (∀ (policy : Policy) (members members' : List Member)
        (request : ReservationRequest),
      (reserve l policy members request).err = none →
      reserve (reserve l policy members request).ledger policy members' request =
        .done (reserve l policy members request).ledger) := by
  refine ⟨apply_atomic l op, fun hok => ?_, fun ops id r hr hpre => ?_,
    fun policy members members' request hok => ?_⟩
  · have heff := apply_effect (Outcome.eq_done hok)
    exact ⟨(effect_names heff).1, (effect_names heff).2, fun id hid => effect_find_ne heff hid⟩
  · exact run_identity hr hpre
  · exact reserve_replay (Outcome.eq_done hok) members'

end VirtualKubelet.Rollout
