import VirtualKubelet.Proofs.FleetMono
import VirtualKubelet.Proofs.ReserveChecks

/-!
# A safer world admits what was admitted

Reserve compares counts with ceilings. With fewer reservations, a healthier
fleet, higher ceilings and looser campaign limits every count is at most what it
was and every limit at least, so an admission that passed passes again. The
comparison goes check by check; only the fleet takes an argument of its own,
which is the lockstep run of the canonicalisation.
-/

namespace VirtualKubelet.Rollout

open Go

/-- A ceiling left alone, or a positive one raised. -/
def Raised (c c' : Int) : Prop := c' = c ∨ (0 < c ∧ c ≤ c')

/-- A campaign limit left alone, removed, or raised. A limit that is not
positive binds nothing. -/
def Loosened (c c' : Int) : Prop := c' = c ∨ c' ≤ 0 ∨ (0 < c ∧ c ≤ c')

structure BudgetRaised (b b' : RiskGroupBudget) : Prop where
  transfers : Raised b.maxConcurrentTransfers b'.maxConcurrentTransfers
  unavailable : Raised b.maxUnavailable b'.maxUnavailable

structure PolicyRaised (policy policy' : Policy) : Prop where
  uid : policy'.uid = policy.uid
  version : policy'.version = policy.version
  epoch : policy'.epoch = policy.epoch
  freshBy : policy'.requiredHealthFreshBy = policy.requiredHealthFreshBy
  transfers : Raised policy.globalMaxConcurrentTransfers policy'.globalMaxConcurrentTransfers
  unavailable : Raised policy.globalMaxUnavailable policy'.globalMaxUnavailable
  domainTransfers :
    Map.Related Raised policy.domainTransferBudgets policy'.domainTransferBudgets
  domainUnavailable : Map.Related Raised policy.domainBudgets policy'.domainBudgets
  riskGroups : Map.Related BudgetRaised policy.riskGroupBudgets policy'.riskGroupBudgets
  active : Raised policy.maxActiveRecords policy'.maxActiveRecords
  bytes : Raised policy.maxSerializedBytes policy'.maxSerializedBytes

structure RequestLoosened (request request' : ReservationRequest) : Prop where
  same : clearCampaignLimits request' = clearCampaignLimits request
  transfers : Loosened request.campaignMaxConcurrentTransfers
    request'.campaignMaxConcurrentTransfers
  unavailable : Loosened request.campaignMaxUnavailable request'.campaignMaxUnavailable
  domainTransfers : ∀ key, Loosened (request.campaignTransferLimits.get 0 key)
    (request'.campaignTransferLimits.get 0 key)
  domainUnavailable : ∀ key, Loosened (request.campaignLimits.get 0 key)
    (request'.campaignLimits.get 0 key)

theorem Raised.le (h : Raised c c') : c ≤ c' := by
  simp only [Raised] at h
  omega

theorem effectiveLimit_mono (ha : Raised admin admin') (hc : Loosened campaign campaign') :
    effectiveLimit admin campaign ≤ effectiveLimit admin' campaign' := by
  have hle := ha.le
  simp only [Loosened] at hc
  simp only [effectiveLimit]
  split <;> split <;> omega

theorem activeLimit_mono (h : PolicyRaised policy policy') :
    activeLimit policy ≤ activeLimit policy' := by
  have hactive := h.active
  simp only [Raised] at hactive
  simp only [activeLimit]
  split <;> split <;> omega

theorem encodeLimit_mono (h : Raised n n') : encodeLimit n ≤ encodeLimit n' := by
  simp only [Raised] at h
  simp only [encodeLimit]
  split <;> split <;> omega

theorem RequestLoosened.fields (h : RequestLoosened request request') :
    ∃ transfers unavailable transferLimits limits, request' = { request with
      campaignMaxConcurrentTransfers := transfers, campaignMaxUnavailable := unavailable
      campaignTransferLimits := transferLimits, campaignLimits := limits } := by
  refine ⟨request'.campaignMaxConcurrentTransfers, request'.campaignMaxUnavailable,
    request'.campaignTransferLimits, request'.campaignLimits, ?_⟩
  have hsame := h.same
  cases request
  cases request'
  simp only [clearCampaignLimits, ReservationRequest.mk.injEq] at hsame ⊢
  simp only [hsame, and_true]

theorem RequestLoosened.target (h : RequestLoosened request request') :
    request'.physicalID = request.physicalID ∧ request'.campaignUID = request.campaignUID ∧
      request'.domains = request.domains ∧ request'.riskGroups = request.riskGroups := by
  obtain ⟨_, _, _, _, hfields⟩ := h.fields
  simp [hfields]

theorem newReservation_loosened (h : RequestLoosened request request') :
    newReservation request' = newReservation request := by
  simp only [newReservation, h.same]

/-! ## Sizes -/

theorem jsonSize_mono {l l' : Ledger} (hversion : l'.version = l.version)
    (huid : l'.uid = l.uid) (hfence : l'.lastReleaseFence = l.lastReleaseFence)
    (hsub : l'.reservations.Sub l.reservations) : l'.jsonSize ≤ l.jsonSize := by
  have hmap : jsonMapSize Reservation.jsonSize l'.reservations ≤
      jsonMapSize Reservation.jsonSize l.reservations :=
    jsonSeqSize_mono (Multiset.map_le_map (Map.sub_entries_le hsub))
  simp only [Ledger.jsonSize, hversion, huid, hfence, jsonSeqSize, jsonMemberSize,
    Multiset.sum_coe, Multiset.coe_card, List.sum_append, List.sum_cons, List.sum_nil,
    List.length_append, List.length_cons]
  omega

/-! ## Check by check

`c` and `c'` are the two canonical fleets. -/

section

variable {l l' : Ledger} {policy policy' : Policy} {request : ReservationRequest}
  {c c' : Map Member}

theorem unavailable_mono (hm : Healthier m m')
    (hfresh : policy'.requiredHealthFreshBy = policy.requiredHealthFreshBy)
    (h : m'.unavailable policy' = true) : m.unavailable policy = true := by
  have hobserved : m.healthObserved ≤ m'.healthObserved := hm.observed
  have hknown := hm.known
  have hhealthy := hm.healthy
  have hmaintenance := hm.maintenance
  simp only [Member.unavailable, hfresh, Bool.or_eq_true, Bool.not_eq_true',
    Bool.and_eq_true, decide_eq_true_eq] at h ⊢
  rcases h with ((h | h) | h) | ⟨hset, hold⟩
  · refine .inl (.inl (.inl ?_))
    by_contra hne
    rw [hknown (by simpa using hne)] at h
    cases h
  · refine .inl (.inl (.inr ?_))
    by_contra hne
    rw [hhealthy (by simpa using hne)] at h
    cases h
  · exact .inl (.inr (hmaintenance h))
  · exact .inr ⟨hset, lt_of_le_of_lt hobserved hold⟩

section

variable {target : String} (htrack : Track target c c')
  (hsub : l'.reservations.Sub l.reservations)
  (hfresh : policy'.requiredHealthFreshBy = policy.requiredHealthFreshBy)

include htrack hsub hfresh

theorem unavailableWhere_mono (hin : ∀ m m', Healthier m m' → memberIn m' = memberIn m) :
    unavailableWhere memberIn reservationIn c' l' policy' ⊆
      unavailableWhere memberIn reservationIn c l policy := by
  intro id hid
  simp only [unavailableWhere, Finset.mem_union, Map.mem_keysWhere, Map.mem_collect] at hid ⊢
  rcases hid with ⟨m', hm', hmem, hun⟩ | ⟨k, r, hr, hscope, hphys⟩
  · obtain ⟨m, hm, hhealth⟩ := htrack.below id m' hm'
    refine .inl ⟨m, hm, ?_, unavailable_mono hhealth hfresh hun⟩
    rw [← hin m m' hhealth]
    exact hmem
  · exact .inr ⟨k, r, hsub k r hr, hscope, hphys⟩

theorem unavailablePhysicalIDs_mono (key value : String) :
    unavailablePhysicalIDs c' l' policy' key value ⊆
      unavailablePhysicalIDs c l policy key value :=
  unavailableWhere_mono htrack hsub hfresh fun _ _ hm => by rw [hm.domains]

theorem unavailablePhysicalIDsInRiskGroup_mono (group : String) :
    unavailablePhysicalIDsInRiskGroup c' l' policy' group ⊆
      unavailablePhysicalIDsInRiskGroup c l policy group :=
  unavailableWhere_mono htrack hsub hfresh fun _ _ hm => by rw [hm.riskGroups]

end

theorem insert_card_mono {a b : Finset String} (id : String) (h : a ⊆ b) :
    (insert id a).card ≤ (insert id b).card :=
  Finset.card_le_card (Finset.insert_subset_insert id h)

theorem targetReady_mono (hp : PolicyRaised policy policy')
    (hsub : l'.reservations.Sub l.reservations) (hm : Healthier target target')
    (h : TargetReady l policy request target) :
    TargetReady l' policy' request target' where
  deviceUID := hm.deviceUID.trans h.deviceUID
  nodeUID := hm.nodeUID.trans h.nodeUID
  available := by
    by_contra hne
    have hun : target.unavailable policy = true :=
      unavailable_mono hm hp.freshBy (by simpa using hne)
    rw [h.available] at hun
    cases hun
  domains := by
    simp only [domainCurrent, hm.domains]
    exact Map.related_every hp.domainUnavailable (fun _ _ _ _ hd => hd) h.domains
  transferDomains := by
    simp only [domainCurrent, hm.domains]
    exact Map.related_every hp.domainTransfers (fun _ _ _ _ hd => hd) h.transferDomains
  riskGroups := h.riskGroups.trans hm.riskGroups.symm
  free := Map.every_of_sub hsub h.free

section

variable {request' : ReservationRequest} {target : String} (hp : PolicyRaised policy policy')
  (hq : RequestLoosened request request') (hsub : l'.reservations.Sub l.reservations)
  (htrack : Track target c c')

include hp hq hsub htrack

theorem globalError_mono (h : globalError l policy c request = none) :
    globalError l' policy' c' request' = none := by
  rw [globalError_none] at h ⊢
  obtain ⟨hactive, hunavailable, hcampaignU, htransfers, hcampaignT⟩ := h
  have hlen := Map.sub_len_le hsub
  have hcampaign : activeReservationsForCampaign l' request.campaignUID ≤
      activeReservationsForCampaign l request.campaignUID := Map.sub_count_le _ hsub
  have hset := insert_card_mono request.physicalID
    (unavailablePhysicalIDs_mono htrack hsub hp.freshBy "" "")
  have hlimit := activeLimit_mono hp
  have hlimitU := effectiveLimit_mono hp.unavailable hq.unavailable
  have hlimitT := effectiveLimit_mono hp.transfers hq.transfers
  have hleU := hp.unavailable.le
  have hleT := hp.transfers.le
  rw [hq.target.1, hq.target.2.1]
  refine ⟨?_, ?_, ?_, ?_, ?_⟩ <;> omega

theorem domainRoom_mono {key : String} (h : DomainRoom l policy c request key) :
    DomainRoom l' policy' c' request' key := by
  obtain ⟨hid, huid, hdomains, _⟩ := hq.target
  have hset := insert_card_mono request.physicalID
    (unavailablePhysicalIDs_mono htrack hsub hp.freshBy key (request.domains.get "" key))
  have hcampaign : activeReservationsForCampaignInDomain l' request.campaignUID key
      (request.domains.get "" key) ≤ activeReservationsForCampaignInDomain l
        request.campaignUID key (request.domains.get "" key) := Map.sub_count_le _ hsub
  have hcount : activeReservationsInDomain l' key (request.domains.get "" key) ≤
      activeReservationsInDomain l key (request.domains.get "" key) :=
    Map.sub_count_le _ hsub
  refine ⟨?_, ?_, ?_, ?_⟩ <;> intro ceiling' hceiling' <;> rw [hdomains]
  · obtain ⟨ceiling, hceiling, hraised⟩ := Map.related_right hp.domainUnavailable hceiling'
    have hroom := h.unavailable ceiling hceiling
    have hle := hraised.le
    rw [hid]
    omega
  · obtain ⟨ceiling, hceiling, hraised⟩ := Map.related_right hp.domainUnavailable hceiling'
    have hroom := h.campaignUnavailable ceiling hceiling
    have hle := effectiveLimit_mono hraised (hq.domainUnavailable key)
    rw [huid]
    omega
  · obtain ⟨ceiling, hceiling, hraised⟩ := Map.related_right hp.domainTransfers hceiling'
    have hroom := h.transfers ceiling hceiling
    have hle := hraised.le
    omega
  obtain ⟨ceiling, hceiling, hraised⟩ := Map.related_right hp.domainTransfers hceiling'
  have hroom := h.campaignTransfers ceiling hceiling
  have hle := effectiveLimit_mono hraised (hq.domainTransfers key)
  rw [huid]
  omega

theorem riskGroupRoom_mono {group : String} (h : RiskGroupRoom l policy c request group) :
    RiskGroupRoom l' policy' c' request' group := by
  obtain ⟨budget, hbudget, hunavailable, htransfers⟩ := h
  obtain ⟨budget', hbudget', hraised⟩ := Map.related_left hp.riskGroups hbudget
  have hset := insert_card_mono request.physicalID
    (unavailablePhysicalIDsInRiskGroup_mono htrack hsub hp.freshBy group)
  have hcount : activeReservationsInRiskGroup l' group ≤
      activeReservationsInRiskGroup l group := Map.sub_count_le _ hsub
  have hleU := hraised.unavailable.le
  have hleT := hraised.transfers.le
  refine ⟨budget', hbudget', ?_, ?_⟩
  · rw [hq.target.1]
    omega
  · omega

end

theorem encodeError_mono (hn : Raised n n') (hversion : l'.version = l.version)
    (huid : l'.uid = l.uid) (hfence : l'.lastReleaseFence = l.lastReleaseFence)
    (hsub : l'.reservations.Sub l.reservations) (h : encodeError l n = none) :
    encodeError l' n' = none := by
  have hsize := jsonSize_mono hversion huid hfence hsub
  have hlimit := encodeLimit_mono hn
  simp only [encodeError, firstError_cons, firstError_nil, and_true,
    decide_eq_false_iff_not, not_lt, hversion, huid] at h ⊢
  exact ⟨h.1, by omega⟩

theorem admissionError_mono (hp : PolicyRaised policy policy')
    (hq : RequestLoosened request request') (hsub : l'.reservations.Sub l.reservations)
    (htrack : Track request.physicalID c c') (h : admissionError l policy c request = none) :
    admissionError l' policy' c' request' = none := by
  rw [admissionError_none] at h ⊢
  obtain ⟨⟨target, htarget, hready⟩, hglobal, hdomains, hgroups⟩ := h
  refine ⟨?_, globalError_mono hp hq hsub htrack hglobal,
    fun key => domainRoom_mono hp hq hsub htrack (hdomains key), ?_⟩
  · have hkept := htrack.target (by rw [htarget]; rfl)
    obtain ⟨target', htarget'⟩ := Option.isSome_iff_exists.mp hkept
    obtain ⟨m, hm, hhealth⟩ := htrack.below _ _ htarget'
    rw [htarget] at hm
    cases hm
    obtain ⟨_, _, _, _, hfields⟩ := hq.fields
    rw [hfields]
    obtain ⟨h₁, h₂, h₃, h₄, h₅, h₆, h₇⟩ := targetReady_mono hp hsub hhealth hready
    exact ⟨target', htarget', h₁, h₂, h₃, h₄, h₅, h₆, h₇⟩
  · intro group hgroup
    rw [hq.target.2.2.2] at hgroup
    exact riskGroupRoom_mono hp hq hsub htrack (hgroups group hgroup)

end

section

variable [Upstream] {l : Ledger} {policy policy' : Policy} {members members' : List Member}
  {request request' : ReservationRequest}

theorem validateInputs_mono (hversion : l'.version = l.version) (huid : l'.uid = l.uid)
    (hp : PolicyRaised policy policy') (hq : RequestLoosened request request')
    (h : validateInputs l policy request = none) :
    validateInputs l' policy' request' = none := by
  obtain ⟨_, _, _, _, hfields⟩ := hq.fields
  have hU := hp.unavailable.le
  have hT := hp.transfers.le
  simp only [validateInputs, Option.or_eq_none_iff, firstError_append, firstError_cons,
    firstError_nil, and_true, decide_eq_false_iff_not, not_not, Bool.or_eq_false_iff, not_lt] at h ⊢
  obtain ⟨⟨hledger, hpolicy, hlock, hglobal⟩, hgroups, ⟨⟨⟨hlen, hnames, hbudgets⟩, htexts⟩,
    hdomains, htransferDomains⟩⟩ := h
  rw [hversion, huid, hp.uid, hp.version, hp.epoch, Map.related_len hp.riskGroups, hfields]
  refine ⟨⟨hledger, hpolicy, hlock, by omega, by omega⟩, hgroups,
    ⟨⟨⟨hlen, ?_, ?_⟩, htexts⟩, ?_, ?_⟩⟩
  · exact Map.related_every hp.riskGroups (fun _ _ _ _ hname => hname) hnames
  · refine Map.related_every hp.riskGroups (fun _ b b' hb hpos => ?_) hbudgets
    have h₁ := hb.transfers.le
    have h₂ := hb.unavailable.le
    omega
  · exact Map.related_every hp.domainUnavailable (fun _ _ _ _ hd => hd) hdomains
  · exact Map.related_every hp.domainTransfers (fun _ _ _ _ hd => hd) htransferDomains

/-- Reserve stays open when the world gets safer, as long as every device that
is still observed keeps the domains it was counted under. -/
theorem reserve_monotone (l : Ledger) (rs : Map Reservation) (policy policy' : Policy)
    (members members' : List Member) (request request' : ReservationRequest)
    (hrs : rs.Sub l.reservations) (hp : PolicyRaised policy policy')
    (hm : Improves request.physicalID members members')
    (hq : RequestLoosened request request') (hkept : FirstDomainsKept members members')
    (hnew : l.find request.id = none)
    (hok : (reserve l policy members request).err = none) :
    reserve { l with reservations := rs } policy' members' request' =
      .done (Ledger.put { l with reservations := rs } request.id
        (newReservation request)) := by
  have hadds : Admits l policy members request := by
    rcases reserve_ok (Outcome.eq_done hok) with ⟨r, _, _, hr, _⟩ | ⟨hadds, _⟩
    · rw [hnew] at hr
      cases hr
    · exact hadds
  obtain ⟨c, hcanon, hchecks⟩ := hadds.checks
  obtain ⟨c', hcanon', htrack⟩ := canonicalizeFrom_improves hm (track_empty _) hkept hcanon
  have hrecord := newReservation_loosened hq
  obtain ⟨_, _, _, _, hfields⟩ := hq.fields
  have hid : request'.id = request.id := by rw [hfields]
  have hsub : (Ledger.put { l with reservations := rs } request.id
      (newReservation request)).reservations.Sub
        (l.put request.id (newReservation request)).reservations := Map.sub_set hrs _ _
  have hvalid := validatePersistedLedger_none.mp hadds.valid
  have hadds' : Admits { l with reservations := rs } policy' members' request' := {
    inputs := validateInputs_mono rfl rfl hp hq hadds.inputs
    unfenced := by
      rw [hfields]
      exact hadds.unfenced
    absent := by
      rw [hid]
      exact Map.sub_find_none hrs hadds.absent
    checks := ⟨c', hcanon', admissionError_mono hp hq hrs htrack hchecks⟩
    valid := by
      rw [hid, hrecord]
      exact validatePersistedLedger_none.mpr (hvalid.of_sub rfl rfl hsub hvalid.fence)
    encodes := by
      rw [hid, hrecord]
      refine encodeError_mono hp.bytes ?_ ?_ ?_ hsub hadds.encodes <;> rfl }
  rw [reserve_admits hadds', hid, hrecord]

end

namespace Sample

/-- The small fleet with a reservation of `b` in its own rack. -/
def busy : Ledger := ledger.put "reservation-b" (newReservation (request "b" "r2"))

def raised : Policy := { policy with globalMaxConcurrentTransfers := 3 }

theorem policy_raised : PolicyRaised policy raised where
  uid := rfl
  version := rfl
  epoch := rfl
  freshBy := rfl
  transfers := .inr (by decide)
  unavailable := .inl rfl
  domainTransfers := Map.related_refl (fun _ => .inl rfl) _
  domainUnavailable := Map.related_refl (fun _ => .inl rfl) _
  riskGroups := Map.related_refl (fun _ => ⟨.inl rfl, .inl rfl⟩) _
  active := .inl rfl
  bytes := .inl rfl

end Sample

theorem reserve_monotone_sample :
    @reserve Sample.upstream Sample.ledger Sample.raised [Sample.member "a" "r1"]
        (Sample.request "a" "r1") =
      .done (Sample.ledger.put (Sample.request "a" "r1").id
        (newReservation (Sample.request "a" "r1"))) := by
  refine @reserve_monotone Sample.upstream Sample.busy ∅ Sample.policy Sample.raised
    [Sample.member "a" "r1", Sample.member "b" "r2"] [Sample.member "a" "r1"]
    (Sample.request "a" "r1") (Sample.request "a" "r1") (fun _ _ h => ?_)
    Sample.policy_raised (.keep ?_ (.drop (by decide) .nil)) ?_ (fun id d h => ?_)
    (by decide) (by decide +kernel)
  · cases h
  · exact ⟨rfl, rfl, rfl, rfl, rfl, fun h => h, fun h => h, fun h => h, le_refl _⟩
  · exact ⟨rfl, .inl rfl, .inl rfl, fun _ => .inl rfl, fun _ => .inl rfl⟩
  · simp only [firstDomains, Map.find_empty, Option.none_or, List.find?_cons, List.find?_nil] at h ⊢
    split at h
    · exact h
    · cases h

/-! ## The moved device -/

namespace Sample

/-- Two observations of one broken device that `equalStringMap` takes for the
same: one key each, and each is missing in the other map. -/
def unplaced : Member :=
  { member "b" "r1" with healthy := false, domains := Map.set ∅ "site" "" }

def placed : Member := { member "b" "r1" with healthy := false }

end Sample

/-- With both observations the device counts for no rack and the target is
admitted. Without the first one, which is of an unavailable device, it counts
for the target's rack and the budget is gone. -/
theorem reserve_not_monotone :
    Improves (Sample.request "a" "r1").physicalID
        [Sample.unplaced, Sample.placed, Sample.member "a" "r1"]
        [Sample.placed, Sample.member "a" "r1"] ∧
      Sample.unplaced.unavailable Sample.policy = true ∧
      Sample.ledger.find (Sample.request "a" "r1").id = none ∧
      (@reserve Sample.upstream Sample.ledger Sample.policy
        [Sample.unplaced, Sample.placed, Sample.member "a" "r1"]
        (Sample.request "a" "r1")).err = none ∧
      (@reserve Sample.upstream Sample.ledger Sample.policy
        [Sample.placed, Sample.member "a" "r1"] (Sample.request "a" "r1")).err =
        some (Sentinel.budgetExceeded.wrap
          "administrator rack=r1 unavailable=2 limit=1") := by
  refine ⟨.drop (by decide) (.keep ?_ (.keep ?_ .nil)), by decide, by decide,
    by decide +kernel, by decide +kernel⟩ <;>
    exact ⟨rfl, rfl, rfl, rfl, rfl, id, id, id, le_refl _⟩

end VirtualKubelet.Rollout
