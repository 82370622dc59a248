import VirtualKubelet.Rollout.Admission
import VirtualKubelet.Proofs.LockProtocol
import VirtualKubelet.Proofs.Persist
import VirtualKubelet.Proofs.PolicyEpoch

/-!
# Taking up an interrupted admission after metadata-only churn

An edit of the policy object that changes none of its content still gives it a
new resourceVersion, and the rollout follows it within the epoch. A reservation
remembers the version it was made under. So does the admission on the leaf, but
that one is written later, and the two may differ by then.

What is left behind by a first admission is determined by how far it got
(`Cut`): which leaf is there, whether the reservation is bound to it, and that
everything else is as the admission wrote it. Going through the cases, the only
step that compares the recorded version with the current one is the recovery of
the lock, and that step is taken only while there is no leaf.
-/

namespace VirtualKubelet.Rollout

open Go Api

variable {r : Reservation}

section

variable [Upstream] {store : Store} {cm : Object ConfigMap} {callback : Ledger → Outcome}

/-! ## The store, used by one manager -/

/-- `Store.Read` succeeds on the object. -/
structure Store.Readable (store : Store) (cm : Object ConfigMap) : Prop where
  named : blank store.expectedUID = false
  object : cm.content.uid = store.expectedUID
  uid : cm.content.ledger.uid = store.expectedUID
  size : cm.content.ledger.jsonSize ≤ defaultMaxSerializedBytes
  valid : Valid cm.content.ledger

theorem decodeError_none : decodeError l uid = none ↔
    (blank uid = false ∧ l.jsonSize ≤ defaultMaxSerializedBytes ∧ l.version = ledgerVersion ∧
      l.uid = uid) ∧ Valid l := by
  simp only [decodeError, Option.or_eq_none_iff, firstError_cons, firstError_nil, and_true,
    decide_eq_false_iff_not, not_lt, Bool.or_eq_false_iff, bne_eq_false_iff_eq,
    validatePersistedLedger_none]

theorem Store.read_iff :
    store.read cm = .ok l ↔ store.Readable cm ∧ l = cm.content.ledger := by
  simp only [Store.read]
  constructor
  · intro h
    split at h
    · cases h
    split at h
    · cases h
    rename_i huid
    split at h
    · cases h
    rename_i hdecode
    cases h
    obtain ⟨⟨hblank, hsize, -, hid⟩, hvalid⟩ := decodeError_none.mp hdecode
    exact ⟨⟨hblank, by simpa using huid, hid, hsize, hvalid⟩, rfl⟩
  · rintro ⟨⟨hnamed, hobject, huid, hsize, hvalid⟩, rfl⟩
    have hne : store.expectedUID ≠ "" := by
      rintro heq
      rw [heq, blank_empty] at hnamed
      cases hnamed
    have hdecode := decodeError_none.mpr ⟨⟨hnamed, hsize, hvalid.version, huid⟩, hvalid⟩
    rw [if_neg (by simpa using hne), if_neg (by simpa using hobject), hdecode]

theorem encodeError_none (hvalid : Valid l) (hblank : blank l.uid = false)
    (hsize : l.jsonSize ≤ defaultMaxSerializedBytes) :
    encodeError l defaultMaxSerializedBytes = none := by
  have hlimit : encodeLimit defaultMaxSerializedBytes = defaultMaxSerializedBytes := by
    decide
  simp only [encodeError, firstError_cons, firstError_nil, and_true, hlimit,
    Bool.or_eq_false_iff, bne_eq_false_iff_eq, decide_eq_false_iff_not, not_lt]
  exact ⟨⟨hvalid.version, hblank⟩, hsize⟩

/-- What `Mutate` says when the callback went through and left a valid ledger:
only the absolute size can be in the way. -/
theorem Store.mutate_done (hr : store.Readable cm) (hcall : callback cm.content.ledger = .done l')
    (hvalid : Valid l') (huid : l'.uid = cm.content.ledger.uid) :
    (∃ cm', store.mutate cm callback = .ok cm' ∧ cm'.content.ledger = l' ∧ store.Readable cm') ∨
    (∃ e, store.mutate cm callback = .error e ∧ e.sentinel = some .ledgerFull ∧
      defaultMaxSerializedBytes < l'.jsonSize) := by
  have hblank : blank l'.uid = false := by rw [huid, hr.uid]; exact hr.named
  have huid' : l'.uid = store.expectedUID := huid.trans hr.uid
  have hlimit : encodeLimit defaultMaxSerializedBytes = defaultMaxSerializedBytes := by
    decide
  rw [Store.mutate, Store.read_iff.mpr ⟨hr, rfl⟩]
  simp only [hcall, Store.commit, Outcome.done, validatePersistedLedger_none.mpr hvalid,
    Option.none_or, huid', bne_self_eq_false, firstError, Bool.false_eq_true, if_false]
  by_cases hsize : l'.jsonSize ≤ defaultMaxSerializedBytes
  · left
    rw [encodeError_none hvalid hblank hsize]
    by_cases hsame : cm.content.ledger = l'
    · refine ⟨cm, ?_, hsame, hr⟩
      rw [if_pos hsame]
    · refine ⟨cm.write { cm.content with ledger := l' }, ?_, rfl,
        ⟨hr.named, hr.object, huid', hsize, hvalid⟩⟩
      simp only [hsame, if_false, Object.patch, if_true]
  · right
    obtain ⟨text, hfull⟩ : ∃ text, encodeError l' defaultMaxSerializedBytes =
        some (Sentinel.ledgerFull.wrap text) := by
      simp only [encodeError, firstError, hvalid.version, hblank, hlimit, bne_self_eq_false,
        Bool.or_self, Bool.false_eq_true, if_false, decide_eq_true_eq]
      rw [if_pos (by omega)]
      exact ⟨_, rfl⟩
    rw [hfull]
    exact ⟨_, rfl, rfl, by omega⟩

theorem Store.mutate_same (hr : store.Readable cm)
    (hcall : callback cm.content.ledger = .done cm.content.ledger) :
    ∃ cm', store.mutate cm callback = .ok cm' ∧
      cm'.content.ledger = cm.content.ledger ∧ store.Readable cm' := by
  rcases Store.mutate_done hr hcall hr.valid rfl with h | ⟨e, -, -, hsize⟩
  · exact h
  · have hle := hr.size
    omega

theorem Store.mutate_ok (h : store.mutate cm callback = .ok cm') :
    store.Readable cm ∧ callback cm.content.ledger = .done cm'.content.ledger ∧
      store.Readable cm' := by
  have hmutate := h
  rw [Store.mutate] at h
  split at h
  · cases h
  rename_i l hread
  obtain ⟨hr, rfl⟩ := Store.read_iff.mp hread
  split at h
  · cases h
  · cases h
  rename_i cm₁ hcommit
  cases h
  have hcall := (commit_committed (Object.read_self cm) hcommit).1
  -- The commit checked the ledger, so `mutate_done` knows what was written.
  simp only [Store.commit] at hcommit
  split at hcommit
  · cases hcommit
  split at hcommit
  · cases hcommit
  rename_i hchecks
  simp only [Option.or_eq_none_iff, validatePersistedLedger_none,
    firstError_cons, firstError_nil, and_true, bne_eq_false_iff_eq] at hchecks
  obtain ⟨hvalid, huid, -⟩ := hchecks
  rcases Store.mutate_done hr hcall hvalid (huid.trans hr.uid.symm) with
    ⟨cm₂, hok, hledger, hread'⟩ | ⟨e, herr, -⟩
  · rw [hmutate] at hok
    cases hok
    exact ⟨hr, by rw [hledger]; exact hcall, hread'⟩
  · rw [hmutate] at herr
    cases herr

end

/-! ## Metadata-only churn -/

section

variable [Upstream] [Selectors]

/-- The same policy object, rewritten without a change to its content. -/
def ParsedAdminPolicy.withVersion (p : ParsedAdminPolicy) (version : String) :
    ParsedAdminPolicy :=
  { p with resourceVersion := version }

omit [Upstream] [Selectors] in
def PolicyEpoch.withVersion (e : PolicyEpoch) (version : String) : PolicyEpoch :=
  ⟨e.epoch, { e.policy with resourceVersion := version }⟩

variable [PolicyDigests] {plan : RolloutPlan} {effective : PolicyEpoch}

theorem freezePolicy_withVersion (h : freezePolicy current = .ok s) (version : String) :
    freezePolicy (current.withVersion version) = .ok { s with resourceVersion := version } := by
  have hhashes : adminPolicyHashes (current.withVersion version).config.1 =
      adminPolicyHashes current.config.1 := rfl
  unfold freezePolicy at h ⊢
  simp only [] at h ⊢
  rw [hhashes]
  cases hh : adminPolicyHashes current.config.1 with
  | error e => rw [hh] at h; cases h
  | ok hashes =>
    rw [hh] at h
    cases h
    rfl

theorem effectiveAdmissionPolicy_ok
    (h : effectiveAdmissionPolicy plan effective current now = .ok policy) :
    policy = admissionPolicy plan effective current now ∧ 1 ≤ effective.epoch ∧
    effective.policy.uid = plan.policy.uid ∧
    ∃ snapshot, freezePolicy current = .ok snapshot ∧
      snapshot.semanticHash = effective.policy.semanticHash := by
  unfold effectiveAdmissionPolicy at h
  simp only [] at h
  split at h
  · cases h
  split at h
  · cases h
  split at h
  · cases h
  rename_i snapshot hsnapshot
  split at h
  · cases h
  split at h
  · cases h
  split at h
  · cases h
  rename_i hhashes
  split at h
  · cases h
  rename_i hidentity
  split at h
  · cases h
  cases h
  rw [not_or, not_not, not_not] at hhashes
  rw [not_or, not_or, not_not, not_lt] at hidentity
  exact ⟨rfl, hidentity.1, hidentity.2.1, snapshot, hsnapshot, hhashes.2⟩

omit [PolicyDigests] in
theorem admissionPolicy_withVersion (effective : PolicyEpoch) (version : String)
    (now now' : Time) :
    admissionPolicy plan (effective.withVersion version) (current.withVersion version) now' =
      { admissionPolicy plan effective current now with
        version := version
        requiredHealthFreshBy := (admissionPolicy plan effective current now').requiredHealthFreshBy } :=
  rfl

/-- The status after any number of reconciles under rewritten policies. -/
def churned (plan : RolloutPlan) (effective : PolicyEpoch) (calls : List EpochCall) :
    EpochStatus :=
  Machine.run (fun st call => (reconcilePolicyEpoch plan.epochs st call).1)
    ⟨some effective, none⟩ calls

theorem churned_eq (hfreeze : freezePolicy current = .ok snapshot)
    (hsemantic : snapshot.semanticHash = effective.policy.semanticHash)
    (hcalls : ∀ call ∈ calls, ∃ version, call.current = current.withVersion version) :
    ∃ version, churned plan effective calls = ⟨some (effective.withVersion version), none⟩ := by
  refine Machine.run_invariant
    (P := fun st : EpochStatus => ∃ version, st = ⟨some (effective.withVersion version), none⟩)
    (Q := fun call : EpochCall => ∃ version, call.current = current.withVersion version)
    ⟨effective.policy.resourceVersion, rfl⟩ ?_ hcalls
  rintro st call ⟨version, hversion⟩ ⟨seen, rfl⟩
  have hmove := reconcilePolicyEpoch_move plan.epochs
    ⟨some (effective.withVersion seen), none⟩ call
  generalize (reconcilePolicyEpoch plan.epochs
    ⟨some (effective.withVersion seen), none⟩ call).1 = st' at hmove
  have hsnapshot := freezePolicy_withVersion hfreeze version
  rw [← hversion] at hsnapshot
  cases hmove with
  | keep => exact ⟨seen, rfl⟩
  | recover he => cases he
  | publish _ ht => cases ht
  | @churn e s he _ hs _ =>
    cases he
    rw [hsnapshot] at hs
    cases hs
    exact ⟨version, rfl⟩
  | @begin e s _ he _ hs hdiffer =>
    cases he
    rw [hsnapshot] at hs
    cases hs
    exact absurd hsemantic hdiffer

/-- Execution goes on only under the version it has recorded. -/
theorem proceed_version {st : EpochStatus} (he : st.effective = some effective)
    (h : reconcilePolicyEpoch plan.epochs st call = (st', .proceed)) :
    st' = st ∧ ∃ snapshot, freezePolicy call.current = .ok snapshot ∧
      snapshot.resourceVersion = effective.policy.resourceVersion := by
  have hpatch : ∀ st₁ failure, call.patch st st₁ failure ≠ (st', .proceed) := by
    intro st₁ failure hp
    unfold EpochCall.patch at hp
    split at hp <;> cases hp
  unfold reconcilePolicyEpoch at h
  split at h
  · cases h
  rename_i snapshot hsnapshot
  split at h
  · cases h
  split at h
  · next hnone => rw [he] at hnone; cases hnone
  rename_i e he'
  cases he.symm.trans he'
  split at h
  · cases h
  split at h
  · unfold publishTransition at h
    split at h
    · cases h
    split at h
    · cases h
    simp only [] at h
    split at h
    · cases h
    split at h
    · cases h
    · exact absurd h (hpatch _ _)
  · unfold followPolicy at h
    split at h
    · split at h
      · rename_i hversion
        cases h
        exact ⟨rfl, snapshot, hsnapshot, hversion⟩
      · exact absurd h (hpatch _ _)
    · split at h
      · cases h
      split at h
      · cases h
      · exact absurd h (hpatch _ _)

end

/-! ## What an interrupted admission leaves -/

/-- A request of this target for this policy and lock. -/
structure RequestOf (c : Campaign) (policy : Policy) (target : PlannedTarget)
    (lockID : String) (request : ReservationRequest) : Prop where
  built : rolloutReservationRequest c policy target lockID = .ok request
  id : request.id = reservationID c.campaignUID target.deviceUID
  campaignUID : request.campaignUID = c.campaignUID
  planHash : request.planHash = c.planHash
  policyUID : request.policyUID = policy.uid
  policyVersion : request.policyVersion = policy.version
  policyEpoch : request.policyEpoch = policy.epoch
  topologyLockID : request.topologyLockID = lockID
  physicalID : request.physicalID = target.physicalIdentity
  deviceUID : request.deviceUID = target.deviceUID
  nodeUID : request.nodeUID = target.nodeUID
  childNamespace : request.childNamespace = c.campaignNamespace
  childName : request.childName = target.childName
  domains : request.domains = targetDomains target

section

variable {target : PlannedTarget} {request : ReservationRequest}

theorem requestOf (h : rolloutReservationRequest c policy target lockID = .ok request) :
    RequestOf c policy target lockID request := by
  have hbuilt := h
  rw [rolloutReservationRequest] at h
  split at h
  · cases h
  · cases h
    exact ⟨hbuilt, rfl, rfl, rfl, rfl, rfl, rfl, rfl, rfl, rfl, rfl, rfl, rfl, rfl⟩

theorem request_withVersion (h : rolloutReservationRequest c policy target lockID = .ok request)
    (version : String) (freshBy : Time) (lockID' : String) :
    rolloutReservationRequest c
        { policy with version := version, requiredHealthFreshBy := freshBy } target lockID' =
      .ok { request with policyVersion := version, topologyLockID := lockID' } := by
  rw [rolloutReservationRequest] at h ⊢
  have hlimits : campaignDomainLimits c
      { policy with version := version, requiredHealthFreshBy := freshBy } =
      campaignDomainLimits c policy := rfl
  rw [hlimits]
  split at h
  · cases h
  · cases h
    rfl

end

def boundReservation (request : ReservationRequest) (leafUID : String) : Reservation :=
  { newReservation request with childUID := leafUID, state := .bound }

def recordedLeaf (plan : RolloutPlan) (target : PlannedTarget) (run : AdmissionRun)
    (lockID : String) (leaf : Leaf) : Leaf :=
  { leaf with
    managerAdmission := some (newAdmission plan target run lockID leaf)
    managerControl := some ⟨plan.campaign.controlRevision, plan.pause, plan.cancel⟩ }

section

variable (plan : RolloutPlan) (target : PlannedTarget) (run : AdmissionRun)
  (request : ReservationRequest)

/-- How far the admission got: the leaf, and the record in the ledger. -/
inductive Progress : Option Leaf → Reservation → Prop
  | reserved : Progress none (newReservation request)
  | created : Progress (some (newLeaf plan target run)) (newReservation request)
  | bound : Progress (some (newLeaf plan target run)) (boundReservation request run.leafUID)
  | recorded : Progress
      (some (recordedLeaf plan target run run.acquisitionID (newLeaf plan target run)))
      (boundReservation request run.leafUID)

structure Cut [Upstream] (store : Store) (cut : Cluster) : Prop where
  made : RequestOf plan.campaign run.policy target run.acquisitionID request
  lock : revalidateDeviceTopologyLock cut.device plan.campaign target run.policy.epoch
    run.acquisitionID = none
  readable : store.Readable cut.ledger
  inputs : validateInputs cut.ledger.content.ledger run.policy request = none
  unfenced : releaseFenceMatches cut.ledger.content.ledger.lastReleaseFence request.id
    request.policyEpoch request.topologyLockID = false
  progress : ∃ r, cut.ledger.content.ledger.find (plan.reservationID target) = some r ∧
    Progress plan target run request cut.leaf r

end

section

variable {plan : RolloutPlan} {target : PlannedTarget} {run : AdmissionRun}
  {request : ReservationRequest} {id : String}

theorem Progress.record (h : Progress plan target run request leaf r) :
    r.toReservationRequest = clearCampaignLimits request ∧
      (r = newReservation request ∨ r = boundReservation request run.leafUID) := by
  cases h with
  | reserved | created => exact ⟨rfl, .inl rfl⟩
  | bound | recorded => exact ⟨rfl, .inr rfl⟩

theorem bindMatching_eq (hfind : l.find id = some r) (hlock : r.topologyLockID ≠ "") :
    bindMatching id leafUID r.policyEpoch l = bindChild l id leafUID := by
  unfold bindMatching
  simp only [hfind, ne_eq, not_true_eq_false, hlock, or_self, if_false]

theorem bindChild_new (hfind : l.find id = some (newReservation request))
    (hblank : blank leafUID = false) :
    bindChild l id leafUID = .done (l.put id (boundReservation request leafUID)) := by
  have hne : leafUID ≠ "" := by
    intro h
    rw [h, blank_empty] at hblank
    cases hblank
  have hdiffer : ((newReservation request).childUID == leafUID) = false := by
    simpa [newReservation] using hne.symm
  unfold bindChild
  simp only [hfind, hblank, hdiffer, Bool.false_and, Bool.false_eq_true, if_false]
  rfl

theorem bindChild_again (hfind : l.find id = some (boundReservation request leafUID))
    (hblank : blank leafUID = false) : bindChild l id leafUID = .done l := by
  unfold bindChild
  simp only [hfind, hblank, boundReservation, Bool.false_eq_true, if_false, beq_self_eq_true,
    Bool.true_or, Bool.and_self, if_true]

/-- Whether the record is still free or bound to this very leaf, the ledger
holds it bound to the leaf afterwards. -/
theorem bindChild_record (hfind : l.find id = some r)
    (hr : r = newReservation request ∨ r = boundReservation request leafUID)
    (h : bindChild l id leafUID = .done l') :
    l'.find id = some (boundReservation request leafUID) ∧ l'.version = l.version ∧
      l'.uid = l.uid ∧ l'.lastReleaseFence = l.lastReleaseFence := by
  obtain ⟨-, -, hblank, -⟩ := bindChild_ok h
  rcases hr with rfl | rfl
  · rw [bindChild_new hfind hblank] at h
    cases h
    exact ⟨Ledger.find_put_self, rfl, rfl, rfl⟩
  · rw [bindChild_again hfind hblank] at h
    cases h
    exact ⟨hfind, rfl, rfl, rfl⟩

end

section

variable [Upstream] {plan : RolloutPlan} {store : Store} {target : PlannedTarget}
  {run : AdmissionRun} {request : ReservationRequest} {cut : Cluster} {leaf : Leaf}

theorem acquire_new (habsent : s.ledger.content.ledger.find (plan.reservationID target) = none)
    (h : acquireDeviceTopologyLock plan store target run s = .ok (lockID, locked)) :
    lockID = run.acquisitionID ∧ locked.ledger = s.ledger ∧ locked.leaf = s.leaf ∧
    revalidateDeviceTopologyLock locked.device plan.campaign target run.policy.epoch
      run.acquisitionID = none := by
  unfold acquireDeviceTopologyLock at h
  simp only [] at h
  split at h
  · cases h
  · split at h
    · cases h
    rename_i hlock
    cases h
    simp only [revalidateLock, Option.map_eq_none_iff] at hlock
    exact ⟨rfl, rfl, rfl, hlock⟩
  · split at h
    · cases h
    rename_i l hread
    obtain ⟨-, rfl⟩ := Store.read_iff.mp hread
    rw [habsent] at h
    cases h

theorem cut_reserved (habsent : s.ledger.content.ledger.find (plan.reservationID target) = none)
    (hleaf : s.leaf = none)
    (hlocked : acquireDeviceTopologyLock plan store target run s = .ok (lockID, locked))
    (hreserved : reserveTarget plan store target run lockID locked = .ok reserved) :
    ∃ request, Cut plan target run request store reserved := by
  obtain ⟨rfl, hledger, hleaf', hlock⟩ := acquire_new habsent hlocked
  have hlock' : revalidateLock plan target run run.acquisitionID locked = none := by
    simp only [revalidateLock, hlock, Option.map_none]
  unfold reserveTarget at hreserved
  simp only [hlock'] at hreserved
  split at hreserved
  · cases hreserved
  rename_i cm hmutate
  cases hreserved
  obtain ⟨-, hcall, hreadable⟩ := Store.mutate_ok hmutate
  rw [hledger] at hcall
  simp only [reserveLocked, hlock', reserveFor] at hcall
  split at hcall
  · cases hcall
  rename_i request hrequest
  have hof := requestOf hrequest
  rcases reserve_ok hcall with ⟨existing, -, -, hfind, -⟩ | ⟨hadmits, hwritten⟩
  · rw [hof.id] at hfind
    cases habsent.symm.trans hfind
  refine ⟨request, hof, hlock, hreadable, ?_, ?_, newReservation request, ?_, ?_⟩
  · rw [hwritten]
    exact hadmits.inputs
  · rw [hwritten]
    exact hadmits.unfenced
  · rw [hwritten]
    have hput := @Ledger.find_put_self s.ledger.content.ledger request.id
      (newReservation request)
    rw [hof.id] at hput
    rw [hof.id]
    exact hput
  · show Progress plan target run request locked.leaf _
    rw [hleaf', hleaf]
    exact .reserved

theorem lockID_valid (h : validateInputs l policy request = none) :
    validTopologyLockID request.topologyLockID = true := by
  simp only [validateInputs, Option.or_eq_none_iff, firstError_cons, Bool.not_eq_false'] at h
  exact h.1.2.2.1

theorem lockID_ne_empty (h : validateInputs l policy request = none) :
    request.topologyLockID ≠ "" := by
  have hvalid := lockID_valid h
  intro hempty
  rw [hempty] at hvalid
  revert hvalid
  decide

theorem bindLeaf_ok (hepoch : run.effective.epoch = run.policy.epoch)
    (hcut : Cut plan target run request store cut)
    (hfind : cut.ledger.content.ledger.find (plan.reservationID target) = some r)
    (hr : r = newReservation request ∨ r = boundReservation request leaf.uid)
    (h : bindLeaf plan store target run leaf cut = .ok bound) :
    bound.device = cut.device ∧ bound.leaf = cut.leaf ∧ store.Readable bound.ledger ∧
    bound.ledger.content.ledger.find (plan.reservationID target) =
      some (boundReservation request leaf.uid) ∧
    bound.ledger.content.ledger.version = cut.ledger.content.ledger.version ∧
    bound.ledger.content.ledger.uid = cut.ledger.content.ledger.uid ∧
    bound.ledger.content.ledger.lastReleaseFence =
      cut.ledger.content.ledger.lastReleaseFence := by
  have hfields : r.policyEpoch = run.effective.epoch ∧ r.topologyLockID ≠ "" := by
    have hlock := lockID_ne_empty hcut.inputs
    have hrequest := hcut.made.policyEpoch
    rcases hr with rfl | rfl <;> exact ⟨hrequest.trans hepoch.symm, hlock⟩
  unfold bindLeaf at h
  split at h
  · cases h
  rename_i cm hmutate
  cases h
  obtain ⟨-, hcall, hreadable⟩ := Store.mutate_ok hmutate
  rw [← hfields.1, bindMatching_eq hfind hfields.2] at hcall
  exact ⟨rfl, rfl, hreadable, bindChild_record hfind hr hcall⟩

theorem Cut.bind (hepoch : run.effective.epoch = run.policy.epoch)
    (hcut : Cut plan target run request store cut) (hleaf : cut.leaf = some leaf)
    (hnone : leaf.managerAdmission = none) (h : bindLeaf plan store target run leaf cut = .ok bound) :
    Cut plan target run request store bound ∧ leaf = newLeaf plan target run ∧
      bound.leaf = some leaf ∧
      bound.ledger.content.ledger.find (plan.reservationID target) =
        some (boundReservation request run.leafUID) := by
  obtain ⟨r, hfind, hprogress⟩ := hcut.progress
  have hnew : leaf = newLeaf plan target run := by
    rw [hleaf] at hprogress
    cases hprogress with
    | created | bound => rfl
    | recorded => cases hnone
  subst hnew
  obtain ⟨hdevice, hleaf', hreadable, hbound, hversion, huid, hfence⟩ :=
    bindLeaf_ok hepoch hcut hfind hprogress.record.2 h
  refine ⟨⟨hcut.made, ?_, hreadable, ?_, ?_, _, hbound, ?_⟩, rfl, hleaf'.trans hleaf, hbound⟩
  · rw [hdevice]
    exact hcut.lock
  · have hinputs := hcut.inputs
    simp only [validateInputs] at hinputs ⊢
    rw [hversion, huid]
    exact hinputs
  · rw [hfence]
    exact hcut.unfenced
  · rw [hleaf', hleaf]
    exact .bound

theorem interrupted_cut (hepoch : run.effective.epoch = run.policy.epoch)
    (h : Interrupted plan store target run s cut) :
    ∃ request, Cut plan target run request store cut := by
  induction h with
  | reserved habsent hleaf hlocked hreserved =>
    exact cut_reserved habsent hleaf hlocked hreserved
  | @created cut _ hleaf ih =>
    obtain ⟨request, hcut⟩ := ih
    refine ⟨request, ?_⟩
    obtain ⟨r, hfind, hprogress⟩ := hcut.progress
    rw [hleaf] at hprogress
    cases hprogress
    simp only [createLeaf, hleaf]
    exact ⟨hcut.made, hcut.lock, hcut.readable, hcut.inputs, hcut.unfenced, _, hfind, .created⟩
  | bound _ hleaf hnone hbind ih =>
    obtain ⟨request, hcut⟩ := ih
    exact ⟨request, (hcut.bind hepoch hleaf hnone hbind).1⟩
  | recorded _ hleaf hnone hensure ih =>
    obtain ⟨request, hcut⟩ := ih
    refine ⟨request, ?_⟩
    unfold ensureChildAdmission at hensure
    split at hensure
    · cases hensure
    split at hensure
    · cases hensure
    rename_i bound hbind
    obtain ⟨hcut', rfl, hleaf', hfind⟩ := hcut.bind hepoch hleaf hnone hbind
    unfold recordAdmission at hensure
    rw [hfind] at hensure
    cases hensure
    have hlock : (boundReservation request run.leafUID).topologyLockID =
        run.acquisitionID := hcut.made.topologyLockID
    refine ⟨hcut'.made, hcut'.lock, hcut'.readable, hcut'.inputs, hcut'.unfenced, _, hfind, ?_⟩
    simp only [hlock]
    exact .recorded

theorem Interrupted.with_leaf (h : Interrupted plan store target run s cut)
    (hnone : cut.leaf = none) :
    ∃ cut', Interrupted plan store target run s cut' ∧ cut'.leaf.isSome = true ∧
      cut'.ledger = cut.ledger := by
  refine ⟨_, h.created hnone, ?_⟩
  simp only [createLeaf, hnone]
  exact ⟨rfl, trivial⟩

/-! ## Going on from there -/

/-- A run is made under the policy its rollout has published. -/
structure AdmissionRun.Under (run : AdmissionRun) (plan : RolloutPlan) : Prop where
  uid : run.policy.uid = run.effective.policy.uid
  version : run.policy.version = run.effective.policy.resourceVersion
  epoch : run.effective.epoch = run.policy.epoch
  positive : 1 ≤ run.effective.epoch
  frozen : run.effective.policy.uid = plan.policy.uid

/-- A later run in the same epoch, under a rewritten policy object. -/
structure AdmissionRun.Again (run again : AdmissionRun) (version : String) : Prop where
  effective : again.effective = run.effective.withVersion version
  policy : ∃ freshBy, again.policy =
    { run.policy with version := version, requiredHealthFreshBy := freshBy }

variable {again : AdmissionRun} {version : String}

omit [Upstream] in
theorem AdmissionRun.Again.epoch (h : run.Again again version) :
    again.policy.epoch = run.policy.epoch := by
  obtain ⟨freshBy, hpolicy⟩ := h.policy
  rw [hpolicy]

omit [Upstream] in
theorem not_blank_of_bounded {value : String} {max : Nat}
    (h : validBoundedIdentity value max = true) : blank value = false := by
  simp only [validBoundedIdentity, Bool.and_eq_true, bne_iff_ne, beq_iff_eq] at h
  obtain ⟨⟨⟨hne, -⟩, htrim⟩, -⟩ := h
  rw [blank, htrim]
  simpa using hne

/-- The admission is on the leaf, written by `writer`, and the reservation is
bound to the leaf. -/
structure Resumed (plan : RolloutPlan) (store : Store) (target : PlannedTarget)
    (run : AdmissionRun) (request : ReservationRequest) (writer : AdmissionRun) (leaf : Leaf)
    (resumed : Cluster) : Prop where
  recorded : resumed.leaf = some (recordedLeaf plan target writer run.acquisitionID leaf)
  readable : store.Readable resumed.ledger
  record : resumed.ledger.content.ledger.find (plan.reservationID target) =
    some (boundReservation request leaf.uid)

/-- A leaf without an admission is bound, and gets the admission of the run that
comes to it, unless the ledger is full. -/
theorem ensureChildAdmission_again (leaf : Leaf) (s : Cluster) (hunder : run.Under plan)
    (hagain : run.Again again version)
    (hmade : RequestOf plan.campaign run.policy target run.acquisitionID request)
    (hlock : request.topologyLockID ≠ "") (hreadable : store.Readable s.ledger)
    (hfind : s.ledger.content.ledger.find (plan.reservationID target) = some r)
    (hr : r = newReservation request ∨ r = boundReservation request leaf.uid)
    (hnone : leaf.managerAdmission = none)
    (hfits : ChildFits s.ledger.content.ledger (plan.reservationID target) leaf.uid) :
    (∃ resumed, ensureChildAdmission plan store target again leaf s = .ok resumed ∧
      Resumed plan store target run request again leaf resumed) ∨
    (∃ e, ensureChildAdmission plan store target again leaf s = .error e ∧
      e.sentinel = some .ledgerFull) := by
  have hepoch : again.effective.epoch = run.effective.epoch := by rw [hagain.effective]; rfl
  have hpositive : ¬ again.effective.epoch < 1 := by
    rw [hepoch]
    exact not_lt.mpr hunder.positive
  have hfields : r.policyEpoch = again.effective.epoch ∧ r.topologyLockID ≠ "" := by
    have hrequest := hmade.policyEpoch.trans (hunder.epoch.symm.trans hepoch.symm)
    rcases hr with rfl | rfl <;> exact ⟨hrequest, hlock⟩
  have hblank : blank leaf.uid = false := not_blank_of_bounded hfits.1
  obtain ⟨l', hbind⟩ : ∃ l', bindChild s.ledger.content.ledger (plan.reservationID target)
      leaf.uid = .done l' := by
    rcases hr with rfl | rfl
    · exact ⟨_, bindChild_new hfind hblank⟩
    · exact ⟨_, bindChild_again hfind hblank⟩
  obtain ⟨hbound, -, huid, -⟩ := bindChild_record hfind hr hbind
  have hvalid : Valid l' := bindChild_valid hreadable.valid hfits hbind
  have hcall : bindMatching (plan.reservationID target) leaf.uid again.effective.epoch
      s.ledger.content.ledger = .done l' := by
    rw [← hfields.1, bindMatching_eq hfind hfields.2, hbind]
  unfold ensureChildAdmission bindLeaf
  rw [if_neg hpositive]
  rcases Store.mutate_done hreadable hcall hvalid huid with
    ⟨cm, hok, hledger, hread⟩ | ⟨e, herr, hfull, -⟩
  · left
    rw [← hledger] at hbound
    have hid : (boundReservation request leaf.uid).topologyLockID = run.acquisitionID :=
      hmade.topologyLockID
    refine ⟨⟨s.device, cm, some (recordedLeaf plan target again run.acquisitionID leaf)⟩, ?_,
      ⟨rfl, hread, hbound⟩⟩
    simp only [hok, recordAdmission, hnone, hbound, hid]
    rfl
  · right
    refine ⟨e, ?_, hfull⟩
    simp only [herr]

theorem policyVersion_not_blank (h : RecordValid r) : blank r.policyVersion = false := by
  have hrequest := h.request
  rw [requestError, firstError_append, firstError_map] at hrequest
  have hfield := hrequest.1 ("policy resourceVersion", r.policyVersion, 128)
    (by simp [boundedFields])
  exact not_blank_of_bounded (by simpa using hfield)

/-- A claim is verified against the version in the admission, which is that of
the run that recorded it. -/
theorem verifyClaimedReservation_recorded (hunder : run.Under plan)
    (hwriter : run.Again writer version)
    (hmade : RequestOf plan.campaign run.policy target run.acquisitionID request)
    (hresumed : Resumed plan store target run request writer leaf s)
    (hnamespace : leaf.leafNamespace = plan.campaign.campaignNamespace)
    (hname : leaf.leafName = target.childName) :
    verifyClaimedReservation plan store target
        (recordedLeaf plan target writer run.acquisitionID leaf) s = none ↔
      version = run.effective.policy.resourceVersion := by
  unfold verifyClaimedReservation
  simp only [recordedLeaf, Store.read_iff.mpr ⟨hresumed.readable, rfl⟩, hresumed.record,
    newAdmission, hwriter.effective, PolicyEpoch.withVersion]
  simp only [boundReservation, newReservation, clearCampaignLimits, hmade.campaignUID,
    hmade.planHash, hmade.policyEpoch, hmade.topologyLockID, hmade.policyUID,
    hmade.policyVersion, hmade.physicalID, hmade.deviceUID, hmade.nodeUID,
    hmade.childNamespace, hmade.childName, hmade.domains, hnamespace, hname, hunder.uid,
    hunder.epoch, hunder.version, ne_eq, not_true_eq_false, false_or, or_false]
  split
  · next hdiffer => exact iff_of_false (nomatch ·) (fun heq => hdiffer heq.symm)
  · next hsame => exact iff_of_true rfl (not_not.mp hsame).symm

/-- The ways a rerun may end. `writer` is the run whose version the admission on
the leaf carries. -/
inductive Rerun (plan : RolloutPlan) (store : Store) (target : PlannedTarget)
    (run : AdmissionRun) (request : ReservationRequest) (version : String) (cut : Cluster) :
    Except LedgerError Cluster → Prop
  | refused {e : LedgerError} : cut.leaf = none →
    version ≠ run.effective.policy.resourceVersion → e.sentinel = some .ledgerIdentity →
    Rerun plan store target run request version cut (.error e)
  | full {e : LedgerError} :
    cut.leaf.isSome = true ∨ version = run.effective.policy.resourceVersion →
    e.sentinel = some .ledgerFull → Rerun plan store target run request version cut (.error e)
  | resumed {writer origin : AdmissionRun} {written : String} {resumed : Cluster} :
    cut.leaf.isSome = true ∨ version = run.effective.policy.resourceVersion →
    run.Again writer written →
    (written = run.effective.policy.resourceVersion ↔
      (cut.leaf.any (·.managerAdmission.isSome) = true ∨
        version = run.effective.policy.resourceVersion)) →
    Resumed plan store target run request writer (newLeaf plan target origin) resumed →
    Rerun plan store target run request version cut (.ok resumed)

section Again

variable (hunder : run.Under plan) (hcut : Cut plan target run request store cut)
  (hagain : run.Again again version)
include hcut hagain

theorem acquireRead_again :
    ∃ lock, acquireRead cut.device target
        ((again.attempt plan target again.acquisitionID).expected again.now) =
      .recovered lock ∧ lock.acquisitionID = run.acquisitionID := by
  obtain ⟨htarget, lock, hdevice, hactive, hof⟩ :=
    revalidate_none (a := run.attempt plan target run.acquisitionID) hcut.lock
  simp only [DeviceTopologyLock.Of, topologyLockAcquisitionEqual, Bool.and_eq_true, beq_iff_eq,
    Bool.not_eq_true'] at hof
  obtain ⟨htime, hsame⟩ := hof
  have hcoordinates : topologyLockCoordinatesEqual lock
      ((again.attempt plan target again.acquisitionID).expected again.now) = true := by
    simp only [topologyLockCoordinatesEqual, htime, Bool.not_false, Bool.true_and, beq_iff_eq,
      hsame]
    simp only [Attempt.expected, AdmissionRun.attempt, hagain.epoch]
    rfl
  refine ⟨lock, ?_, congrArg DeviceTopologyLock.acquisitionID hsame⟩
  simp only [AdmissionRun.attempt] at htarget
  simp only [acquireRead, htarget, hdevice, hcoordinates, Bool.not_true, Bool.false_eq_true,
    if_false, hactive]

theorem revalidateLock_again :
    revalidateLock plan target again run.acquisitionID cut = none := by
  simp only [revalidateLock, hagain.epoch, hcut.lock, Option.map_none]

include hunder

/-- Lock recovery compares the version of the reservation with the one now
recorded. This is the only place that does. -/
theorem acquire_again
    (hfind : cut.ledger.content.ledger.find (plan.reservationID target) =
      some (newReservation request)) :
    acquireDeviceTopologyLock plan store target again cut =
      if version = run.effective.policy.resourceVersion then .ok (run.acquisitionID, cut)
      else .error (Sentinel.ledgerIdentity.wrap
        "existing reservation does not match the device topology lock") := by
  obtain ⟨lock, hread, hid⟩ := acquireRead_again hcut hagain
  have hmade := hcut.made
  have hversion : (newReservation request).policyVersion =
      run.effective.policy.resourceVersion := hmade.policyVersion.trans hunder.version
  have hmatch : recoveredReservationMatches (newReservation request)
      (again.attempt plan target lock.acquisitionID) again.effective.policy.uid
      again.effective.policy.resourceVersion =
        decide (version = run.effective.policy.resourceVersion) := by
    rw [hagain.effective]
    simp only [recoveredReservationMatches, AdmissionRun.attempt, hid, hagain.epoch,
      PolicyEpoch.withVersion, hversion]
    simp only [newReservation, clearCampaignLimits, hmade.campaignUID, hmade.planHash,
      hmade.policyEpoch, hmade.topologyLockID, hmade.policyUID, hmade.physicalID,
      hmade.deviceUID, hmade.nodeUID, hmade.childNamespace, hmade.childName, hmade.domains,
      hunder.uid, beq_self_eq_true, Bool.true_and, Bool.and_true, decide_true]
    rw [eq_comm]
    by_cases heq : version = run.effective.policy.resourceVersion
    · simp [heq]
    · simp [heq, Ne.symm heq]
  have hepoch : (again.effective.epoch == again.policy.epoch) = true := by
    rw [hagain.effective, hagain.epoch]
    simpa [PolicyEpoch.withVersion] using hunder.epoch
  rw [hid] at hmatch
  unfold acquireDeviceTopologyLock
  simp only [hread, Store.read_iff.mpr ⟨hcut.readable, rfl⟩, hfind, hmatch, hepoch,
    Bool.and_true, decide_eq_true_eq, hid, revalidateLock_again hcut hagain]

theorem reserve_again (hsame : version = run.effective.policy.resourceVersion)
    (hfind : cut.ledger.content.ledger.find (plan.reservationID target) =
      some (newReservation request)) :
    ∃ cm, reserveTarget plan store target again run.acquisitionID cut =
        .ok { cut with ledger := cm } ∧
      cm.content.ledger = cut.ledger.content.ledger ∧ store.Readable cm := by
  have hlock := revalidateLock_again hcut hagain
  obtain ⟨freshBy, hpolicy⟩ := hagain.policy
  rw [hsame, ← hunder.version] at hpolicy
  have hrequest : rolloutReservationRequest plan.campaign again.policy target
      run.acquisitionID = .ok request := by
    rw [hpolicy, request_withVersion hcut.made.built, ← hcut.made.policyVersion,
      ← hcut.made.topologyLockID]
  have hinputs : validateInputs cut.ledger.content.ledger again.policy request = none := by
    rw [hpolicy]
    exact hcut.inputs
  have hfind' : cut.ledger.content.ledger.find request.id = some (newReservation request) := by
    rw [hcut.made.id]
    exact hfind
  have hcall : reserveLocked plan target again run.acquisitionID cut
      cut.ledger.content.ledger = .done cut.ledger.content.ledger := by
    simp only [reserveLocked, hlock, reserveFor, AdmissionRun.attempt, hrequest]
    exact reserve_existing hinputs hcut.unfenced hfind' (sameRequest_newReservation request)
      again.members
  obtain ⟨cm, hmutate, hledger, hreadable⟩ := Store.mutate_same hcut.readable hcall
  refine ⟨cm, ?_, hledger, hreadable⟩
  simp only [reserveTarget, hmutate, hlock]

theorem checkManagerAdmission_again
    (hfind : cut.ledger.content.ledger.find (plan.reservationID target) =
      some (boundReservation request run.leafUID)) :
    checkManagerAdmission plan store target again
      (recordedLeaf plan target run run.acquisitionID (newLeaf plan target run))
      (newAdmission plan target run run.acquisitionID (newLeaf plan target run)) cut = none := by
  have hmade := hcut.made
  have hpositive := hunder.positive
  have hid : validTopologyLockID run.acquisitionID = true := by
    rw [← hmade.topologyLockID]
    exact lockID_valid hcut.inputs
  have hne : run.acquisitionID ≠ "" := by
    rw [← hmade.topologyLockID]
    exact lockID_ne_empty hcut.inputs
  have hversion : blank run.effective.policy.resourceVersion = false := by
    have hrecord : (boundReservation request run.leafUID).policyVersion =
      run.policy.version := hmade.policyVersion
    rw [← hunder.version, ← hrecord]
    exact policyVersion_not_blank (hcut.readable.valid.record hfind)
  have hadmission : validateManagerAdmission plan again.effective target
      (recordedLeaf plan target run run.acquisitionID (newLeaf plan target run)) = none := by
    rw [hagain.effective]
    unfold validateManagerAdmission
    rw [if_neg (by simpa [PolicyEpoch.withVersion] using hpositive)]
    simp [recordedLeaf, newAdmission, newLeaf, PolicyEpoch.withVersion,
      managedUpgradeProtocolMatches, networkGrantEvidenceCompleteOrAbsent, hunder.frozen, hid,
      hne, hversion]
    omega
  have hrecord : (boundReservation request run.leafUID).policyEpoch = run.effective.epoch :=
    hmade.policyEpoch.trans hunder.epoch.symm
  have hlock : (boundReservation request run.leafUID).topologyLockID = run.acquisitionID :=
    hmade.topologyLockID
  unfold checkManagerAdmission
  simp only [hadmission, Store.read_iff.mpr ⟨hcut.readable, rfl⟩, hfind, hrecord, hlock,
    newAdmission, hunder.epoch, hcut.lock, ne_eq, not_true_eq_false, or_self, if_false,
    Option.map_none, Option.none_or]

theorem rerun_reserved (hleaf : cut.leaf = none)
    (hfind : cut.ledger.content.ledger.find (plan.reservationID target) =
      some (newReservation request))
    (hfits : ChildFits cut.ledger.content.ledger (plan.reservationID target) again.leafUID) :
    Rerun plan store target run request version cut
      (rerunAdmission plan store target again cut) := by
  obtain ⟨freshBy, hpolicy⟩ := hagain.policy
  have hbuilt := request_withVersion hcut.made.built version freshBy ""
  rw [← hpolicy] at hbuilt
  have hacquire := acquire_again hunder hcut hagain hfind
  simp only [rerunAdmission, hleaf, admitTarget, hbuilt]
  by_cases hsame : version = run.effective.policy.resourceVersion
  · rw [if_pos hsame] at hacquire
    obtain ⟨cm, hreserve, hledger, hreadable⟩ := reserve_again hunder hcut hagain hsame hfind
    simp only [hacquire, hreserve, createLeaf, hleaf]
    rw [← hledger] at hfind hfits
    rcases ensureChildAdmission_again (newLeaf plan target again)
        ⟨cut.device, cm, some (newLeaf plan target again)⟩ hunder hagain hcut.made
        (lockID_ne_empty hcut.inputs) hreadable hfind (.inl rfl) rfl hfits with
      ⟨resumed, hok, hresumed⟩ | ⟨e, herr, hfull⟩
    · simp only [newLeaf] at hok ⊢
      rw [hok]
      exact .resumed (.inr hsame) hagain (iff_of_true hsame (.inr hsame)) hresumed
    · simp only [newLeaf] at herr ⊢
      rw [herr]
      exact .full (.inr hsame) hfull
  · rw [if_neg hsame] at hacquire
    simp only [hacquire]
    exact .refused hleaf hsame rfl

theorem rerun_created (hleaf : cut.leaf = some (newLeaf plan target run))
    (hfind : cut.ledger.content.ledger.find (plan.reservationID target) = some r)
    (hr : r = newReservation request ∨ r = boundReservation request run.leafUID)
    (hfits : ChildFits cut.ledger.content.ledger (plan.reservationID target) run.leafUID) :
    Rerun plan store target run request version cut
      (rerunAdmission plan store target again cut) := by
  have hsome : cut.leaf.isSome = true := by rw [hleaf]; rfl
  have hnone : cut.leaf.any (·.managerAdmission.isSome) = false := by rw [hleaf]; rfl
  have hrerun : rerunAdmission plan store target again cut =
      ensureChildAdmission plan store target again (newLeaf plan target run) cut := by
    unfold rerunAdmission
    rw [hleaf]
    rfl
  rw [hrerun]
  rcases ensureChildAdmission_again (newLeaf plan target run) cut hunder hagain hcut.made
      (lockID_ne_empty hcut.inputs) hcut.readable hfind hr rfl hfits with
    ⟨resumed, hok, hresumed⟩ | ⟨e, herr, hfull⟩
  · rw [hok]
    refine .resumed (.inl hsome) hagain ?_ hresumed
    rw [hnone]
    simp
  · rw [herr]
    exact .full (.inl hsome) hfull

theorem rerun_recorded (hleaf : cut.leaf =
      some (recordedLeaf plan target run run.acquisitionID (newLeaf plan target run)))
    (hfind : cut.ledger.content.ledger.find (plan.reservationID target) =
      some (boundReservation request run.leafUID)) :
    Rerun plan store target run request version cut
      (rerunAdmission plan store target again cut) := by
  have hself : run.Again run run.effective.policy.resourceVersion := by
    refine ⟨rfl, run.policy.requiredHealthFreshBy, ?_⟩
    rw [← hunder.version]
  have hrerun : rerunAdmission plan store target again cut = .ok cut := by
    unfold rerunAdmission
    rw [hleaf]
    have hcheck := checkManagerAdmission_again hunder hcut hagain hfind
    simp only [recordedLeaf] at hcheck ⊢
    rw [hcheck]
  rw [hrerun]
  exact .resumed (.inl (by rw [hleaf]; rfl)) hself
    (iff_of_true rfl (.inl (by rw [hleaf]; rfl))) ⟨hleaf, hcut.readable, hfind⟩

theorem rerun_cut
    (hfirst : ChildFits cut.ledger.content.ledger (plan.reservationID target) run.leafUID)
    (hnext : ChildFits cut.ledger.content.ledger (plan.reservationID target) again.leafUID) :
    Rerun plan store target run request version cut
      (rerunAdmission plan store target again cut) := by
  obtain ⟨r, hfind, hprogress⟩ := hcut.progress
  generalize hleaf : cut.leaf = leaf at hprogress
  cases hprogress with
  | reserved => exact rerun_reserved hunder hcut hagain hleaf hfind hnext
  | created => exact rerun_created hunder hcut hagain hleaf hfind (.inl rfl) hfirst
  | bound => exact rerun_created hunder hcut hagain hleaf hfind (.inr rfl) hfirst
  | recorded => exact rerun_recorded hunder hcut hagain hleaf hfind

end Again

/-- The rerun goes on with the reservation it finds. What may still stop it is
the ceiling on the encoded ledger. -/
structure Accepts (plan : RolloutPlan) (store : Store) (target : PlannedTarget)
    (again : AdmissionRun) (cut : Cluster) : Prop where
  kept : ∀ resumed, rerunAdmission plan store target again cut = .ok resumed →
    (resumed.ledger.content.ledger.find (plan.reservationID target)).map
        (·.toReservationRequest) =
      (cut.ledger.content.ledger.find (plan.reservationID target)).map
        (·.toReservationRequest)
  stopped : ∀ e, rerunAdmission plan store target again cut = .error e →
    e.sentinel = some .ledgerFull

theorem accepts_iff (hcut : Cut plan target run request store cut)
    (h : Rerun plan store target run request version cut
      (rerunAdmission plan store target again cut)) :
    Accepts plan store target again cut ↔
      (cut.leaf.isSome = true ∨ version = run.effective.policy.resourceVersion) := by
  obtain ⟨r, hfind, hprogress⟩ := hcut.progress
  generalize hrun : rerunAdmission plan store target again cut = outcome at h
  cases h with
  | refused hleaf hdiffer hidentity =>
    refine iff_of_false (fun haccepts => ?_) ?_
    · have hfull := haccepts.stopped _ hrun
      rw [hidentity] at hfull
      cases hfull
    · simp [hleaf, hdiffer]
  | full hcond hfull =>
    refine iff_of_true ⟨fun resumed hok => ?_, fun e herr => ?_⟩ hcond
    · rw [hrun] at hok
      cases hok
    · rw [hrun] at herr
      cases herr
      exact hfull
  | resumed hcond _ _ hresumed =>
    refine iff_of_true ⟨fun resumed hok => ?_, fun e herr => ?_⟩ hcond
    · rw [hrun] at hok
      cases hok
      rw [hresumed.record, hfind, Option.map_some, Option.map_some, hprogress.record.1]
      rfl
    · rw [hrun] at herr
      cases herr

end

section

variable [Upstream] [Selectors] [PolicyDigests] {plan : RolloutPlan}
  {current : ParsedAdminPolicy} {first again : AdmissionRun}

theorem under_of_policy
    (h : effectiveAdmissionPolicy plan first.effective current first.now = .ok first.policy) :
    first.Under plan := by
  obtain ⟨hpolicy, hpositive, huid, -⟩ := effectiveAdmissionPolicy_ok h
  have hrw : ∀ {α : Type} (f : Policy → α), f first.policy =
      f (admissionPolicy plan first.effective current first.now) := fun f => congrArg f hpolicy
  exact ⟨hrw Policy.uid, hrw Policy.version, (hrw Policy.epoch).symm, hpositive, huid⟩

/-- However often the object was rewritten, the rollout that goes on differs
from the first run in the version alone. -/
theorem again_of_churn
    (hfirst : effectiveAdmissionPolicy plan first.effective current first.now = .ok first.policy)
    (hcalls : ∀ call ∈ calls ++ [last], ∃ version, call.current = current.withVersion version)
    (hlast : reconcilePolicyEpoch plan.epochs (churned plan first.effective calls) last =
      (⟨some again.effective, none⟩, .proceed))
    (hagain : effectiveAdmissionPolicy plan again.effective last.current again.now =
      .ok again.policy) : first.Again again last.current.resourceVersion := by
  obtain ⟨hpolicy, -, -, snapshot, hfreeze, hsemantic⟩ := effectiveAdmissionPolicy_ok hfirst
  obtain ⟨seen, hchurned⟩ : ∃ seen, churned plan first.effective calls =
      ⟨some (first.effective.withVersion seen), none⟩ :=
    churned_eq hfreeze hsemantic (fun call hmem => hcalls call (List.mem_append_left _ hmem))
  obtain ⟨version, hversion⟩ := hcalls last (by simp)
  rw [hchurned] at hlast
  obtain ⟨hstatus, snapshot', hfreeze', hseen⟩ := proceed_version rfl hlast
  rw [hversion, freezePolicy_withVersion hfreeze] at hfreeze'
  cases hfreeze'
  have hseen' : seen = version := hseen.symm
  subst hseen'
  have heffective : again.effective = first.effective.withVersion seen := by
    injection hstatus with he _
    injection he
  have hresource : last.current.resourceVersion = seen := by rw [hversion]; rfl
  rw [hresource]
  refine ⟨heffective, again.policy.requiredHealthFreshBy, ?_⟩
  obtain ⟨hpolicy', -⟩ := effectiveAdmissionPolicy_ok hagain
  rw [heffective, hversion] at hpolicy'
  rw [hpolicy', hpolicy]
  exact admissionPolicy_withVersion first.effective seen first.now again.now

/-- An admission is cut off before its grant, the policy object is rewritten
without a change of content, and the admission is run again. The rerun accepts
the reservation if and only if the leaf exists or the version is the recorded
one; otherwise it is refused as another admission's. And when it is accepted,
the admission on the leaf agrees with the reservation about the version, as a
claim will demand, if and only if it was there before or the version is the
same. -/
theorem churn_accepts_reservation_iff (plan : RolloutPlan) (store : Store)
    (target : PlannedTarget) (first again : AdmissionRun) (current : ParsedAdminPolicy)
    (calls : List EpochCall) (last : EpochCall) (s cut : Cluster)
    (hfirst : effectiveAdmissionPolicy plan first.effective current first.now = .ok first.policy)
    (hcut : Interrupted plan store target first s cut)
    (hcalls : ∀ call ∈ calls ++ [last], ∃ version, call.current = current.withVersion version)
    (hlast : reconcilePolicyEpoch plan.epochs (churned plan first.effective calls) last =
      (⟨some again.effective, none⟩, .proceed))
    (hagain : effectiveAdmissionPolicy plan again.effective last.current again.now =
      .ok again.policy)
    (hleafUID : ChildFits cut.ledger.content.ledger (plan.reservationID target) first.leafUID)
    (hnewUID : ChildFits cut.ledger.content.ledger (plan.reservationID target) again.leafUID) :
    (Accepts plan store target again cut ↔
      (cut.leaf.isSome = true ∨
        last.current.resourceVersion = first.effective.policy.resourceVersion)) ∧
    (cut.leaf = none →
      last.current.resourceVersion ≠ first.effective.policy.resourceVersion →
      ∃ e, rerunAdmission plan store target again cut = .error e ∧
        e.sentinel = some .ledgerIdentity) ∧
    (∀ resumed leaf, rerunAdmission plan store target again cut = .ok resumed →
      resumed.leaf = some leaf →
      (verifyClaimedReservation plan store target leaf resumed = none ↔
        (cut.leaf.any (·.managerAdmission.isSome) = true ∨
          last.current.resourceVersion = first.effective.policy.resourceVersion))) := by
  have hunder := under_of_policy hfirst
  have hagain' := again_of_churn hfirst hcalls hlast hagain
  obtain ⟨request, hcut⟩ := interrupted_cut hunder.epoch hcut
  have hrerun := rerun_cut hunder hcut hagain' hleafUID hnewUID
  refine ⟨accepts_iff hcut hrerun, fun hleaf hdiffer => ?_, fun resumed leaf hok hleaf => ?_⟩
  · generalize rerunAdmission plan store target again cut = outcome at hrerun
    have hnot : ¬ (cut.leaf.isSome = true ∨
        last.current.resourceVersion = first.effective.policy.resourceVersion) := by
      simp [hleaf, hdiffer]
    cases hrerun with
    | refused _ _ hidentity => exact ⟨_, rfl, hidentity⟩
    | full hcond | resumed hcond => exact absurd hcond hnot
  · rw [hok] at hrerun
    cases hrerun with
    | resumed _ hwriter hwritten hresumed =>
      rw [hresumed.recorded] at hleaf
      cases hleaf
      rw [← hwritten]
      exact verifyClaimedReservation_recorded hunder hwriter hcut.made hresumed rfl rfl

end

namespace Sample

attribute [local instance] upstream selectors digests

def rackTarget : PlannedTarget := { target with topology := [(rackKey, "r1")] }

def rolloutPlan : RolloutPlan where
  campaign := campaign
  policy := epochPlan.policy
  targets := [rackTarget]
  maxTargets := 0
  maxObservationAgeSeconds := 0
  pause := false
  cancel := false
  expectedLeafSpec := fun _ => ⟨false, false, false, 0⟩

def rolloutRun (version acquisitionID leafUID : String) : AdmissionRun where
  effective := ⟨1, { epochPlan.policy with resourceVersion := version }⟩
  policy := admissionPolicy rolloutPlan
    ⟨1, { epochPlan.policy with resourceVersion := version }⟩ (widePolicy.withVersion version) 1
  members := [{ member "a" "r1" with domains := Map.set ∅ rackKey "r1" }]
  acquisitionID := acquisitionID
  leafUID := leafUID
  now := 1

def firstRun : AdmissionRun := rolloutRun "7" lockID "leaf-1"

def laterRun : AdmissionRun :=
  rolloutRun "9" "fedcba9876543210fedcba9876543210" "leaf-2"

def rewritten : EpochCall := ⟨widePolicy.withVersion "9", true, true⟩

def start : Cluster := ⟨device, ⟨⟨"ledger", ledger⟩, 1⟩, none⟩

def okOr {ε α : Type} (x : Except ε α) (default : α) : α :=
  match x with
  | .ok a => a
  | .error _ => default

theorem eq_ok {ε α : Type} {x : Except ε α} (default : α) (h : x.isOk = true) :
    x = .ok (okOr x default) := by
  cases x with
  | ok a => rfl
  | error e => cases h

def locked : String × Cluster :=
  okOr (acquireDeviceTopologyLock rolloutPlan store rackTarget firstRun start) ("", start)

/-- The first manager dies here, with the reservation made and no leaf. -/
def crashed : Cluster :=
  okOr (reserveTarget rolloutPlan store rackTarget firstRun locked.1 locked.2) start

def sentinelOf (x : Except LedgerError Cluster) : Option Sentinel :=
  match x with
  | .ok _ => none
  | .error e => e.sentinel

/-- The first run, evaluated once for all that is said about it below. -/
theorem crashed_evaluated :
    (acquireDeviceTopologyLock rolloutPlan store rackTarget firstRun start).isOk = true ∧
    (reserveTarget rolloutPlan store rackTarget firstRun locked.1 locked.2).isOk = true ∧
    crashed.leaf = none ∧
    (crashed.ledger.content.ledger.reservations.Every fun _ r => r.childUID = "") ∧
    sentinelOf (rerunAdmission rolloutPlan store rackTarget laterRun crashed) =
      some .ledgerIdentity := by
  decide +kernel

theorem crashed_interrupted : Interrupted rolloutPlan store rackTarget firstRun start crashed := by
  have hlocked : acquireDeviceTopologyLock rolloutPlan store rackTarget firstRun start =
      .ok (locked.1, locked.2) := by
    rw [Prod.mk.eta]
    exact eq_ok ("", start) crashed_evaluated.1
  have hreserved : reserveTarget rolloutPlan store rackTarget firstRun locked.1 locked.2 =
      .ok crashed := eq_ok start crashed_evaluated.2.1
  exact .reserved rfl rfl hlocked hreserved

theorem rolloutRun_policy (version acquisitionID leafUID : String)
    (h : (effectiveAdmissionPolicy rolloutPlan (rolloutRun version acquisitionID leafUID).effective
      (widePolicy.withVersion version) 1).isOk = true) :
    effectiveAdmissionPolicy rolloutPlan (rolloutRun version acquisitionID leafUID).effective
      (widePolicy.withVersion version) 1 = .ok (rolloutRun version acquisitionID leafUID).policy := by
  have hpolicy := eq_ok (rolloutRun version acquisitionID leafUID).policy h
  rw [hpolicy, (effectiveAdmissionPolicy_ok hpolicy).1]
  rfl

theorem rewritten_proceeds :
    reconcilePolicyEpoch rolloutPlan.epochs
        (churned rolloutPlan firstRun.effective [rewritten]) rewritten =
      (⟨some laterRun.effective, none⟩, .proceed) := by decide +kernel

/-- The object is rewritten between the crash and the rerun, and the reservation
is taken for another admission's. -/
theorem rewritten_policy_refused :
    Interrupted rolloutPlan store rackTarget firstRun start crashed ∧
    rewritten.current = widePolicy.withVersion "9" ∧
    reconcilePolicyEpoch rolloutPlan.epochs
        (churned rolloutPlan firstRun.effective [rewritten]) rewritten =
      (⟨some laterRun.effective, none⟩, .proceed) ∧
    sentinelOf (rerunAdmission rolloutPlan store rackTarget laterRun crashed) =
      some .ledgerIdentity :=
  ⟨crashed_interrupted, rfl, rewritten_proceeds, crashed_evaluated.2.2.2.2⟩

/-- A moment later the leaf is there, and the same rerun goes through. -/
theorem rewritten_policy_accepted :
    ∃ cut, Interrupted rolloutPlan store rackTarget firstRun start cut ∧
      cut.leaf.isSome = true ∧ Accepts rolloutPlan store rackTarget laterRun cut := by
  obtain ⟨cut, hcut, hleaf, hledger⟩ :=
    crashed_interrupted.with_leaf crashed_evaluated.2.2.1
  have hunused := crashed_evaluated.2.2.2.1
  rw [← hledger] at hunused
  have hfits : ∀ uid, validBoundedIdentity uid 128 = true → uid ≠ "" →
      ChildFits cut.ledger.content.ledger (rolloutPlan.reservationID rackTarget) uid := by
    intro uid hvalid hne
    refine ⟨hvalid, fun k v _ hfind huid => hne ?_⟩
    rw [← huid]
    exact Map.every_iff.mp hunused k v hfind
  have hcalls : ∀ call ∈ [rewritten] ++ [rewritten], ∃ version,
      call.current = (widePolicy.withVersion "7").withVersion version := by
    intro call hmem
    have hcall : call = rewritten := by simpa using hmem
    exact ⟨"9", by rw [hcall]; rfl⟩
  have haccepts := (churn_accepts_reservation_iff rolloutPlan store rackTarget firstRun laterRun
    (widePolicy.withVersion "7") [rewritten] rewritten start cut
    (rolloutRun_policy "7" lockID "leaf-1" (by decide +kernel)) hcut hcalls rewritten_proceeds
    (rolloutRun_policy "9" _ "leaf-2" (by decide +kernel))
    (hfits "leaf-1" (by decide) (by decide)) (hfits "leaf-2" (by decide) (by decide))).1
  exact ⟨cut, hcut, hleaf, haccepts.mpr (.inl hleaf)⟩

end Sample

end VirtualKubelet.Rollout
