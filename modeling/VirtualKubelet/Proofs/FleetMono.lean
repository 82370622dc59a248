import VirtualKubelet.Proofs.Persisted

/-!
# Canonicalising a healthier fleet

Two runs of `canonicalizeMembers` in lockstep: the second reads the same
observations, each at least as healthy, and some of them not at all. The
devices the second run sees are then among those of the first, and each at
least as healthy there.

One thing can go wrong. A device's domains are those of its first observation,
and the later ones are compared with it by `equalStringMap`, which reads a
missing key as the empty string and so takes some different maps for equal.
Where the first observation goes and the next one says something else, the
device moves between domains. `FirstDomainsKept` is the absence of that.
-/

namespace VirtualKubelet.Rollout

open Go

/-- The same device in the same place, at least as healthy and at least as
recently seen. -/
structure Healthier (m m' : Member) : Prop where
  physicalID : m'.physicalID = m.physicalID
  deviceUID : m'.deviceUID = m.deviceUID
  nodeUID : m'.nodeUID = m.nodeUID
  domains : m'.domains = m.domains
  riskGroups : m'.riskGroups = m.riskGroups
  known : m.healthKnown = true → m'.healthKnown = true
  healthy : m.healthy = true → m'.healthy = true
  maintenance : m'.maintenance = true → m.maintenance = true
  observed : m.healthObserved ≤ m'.healthObserved

/-- The second list is the first with some observations made healthier and some
observations of other devices than the target left out. -/
inductive Improves (target : String) : List Member → List Member → Prop
  | nil : Improves target [] []
  | keep {m m' : Member} {ms ms' : List Member} (h : Healthier m m')
      (rest : Improves target ms ms') : Improves target (m :: ms) (m' :: ms')
  | drop {m : Member} {ms ms' : List Member} (h : m.physicalID ≠ target)
      (rest : Improves target ms ms') : Improves target (m :: ms) ms'

/-- The domains a device has or will get: those already recorded, else those of
its first observation to come. -/
def firstDomains (out : Map Member) (ms : List Member) (id : String) :
    Option (Map String) :=
  ((out.find id).or (ms.find? fun m => m.physicalID == id)).map (·.domains)

/-- Every device that is left has the domains it had. -/
def FirstDomainsKept (ms ms' : List Member) : Prop :=
  ∀ id domains, firstDomains ∅ ms' id = some domains →
    firstDomains ∅ ms id = some domains

/-- What the loop writes for an observation, from the record it finds. -/
def merged (previous : Option Member) (m : Member) : Member :=
  previous.elim m (mergeHealth · m)

section

variable {out out' : Map Member} {m : Member} {ms : List Member} {id : String}

theorem merged_physicalID (h : ∀ p, out.find m.physicalID = some p → p.physicalID = m.physicalID) :
    (merged (out.find m.physicalID) m).physicalID = m.physicalID := by
  cases hfind : out.find m.physicalID with
  | none => rfl
  | some p => exact h p hfind

theorem first_merged {β : Type} {f : Member → β} (hf : ∀ p, f (mergeHealth p m) = f p) :
    (((out.set m.physicalID (merged (out.find m.physicalID) m)).find id).or
      (ms.find? fun m => m.physicalID == id)).map f =
      ((out.find id).or ((m :: ms).find? fun m => m.physicalID == id)).map f := by
  by_cases hid : id = m.physicalID
  · subst hid
    cases hfind : out.find m.physicalID <;> simp [merged, hf]
  · have hne : (m.physicalID == id) = false := by simpa using Ne.symm hid
    rw [Map.find_set_ne hid, List.find?_cons_of_neg (by simp [hne])]

theorem firstDomains_merged :
    firstDomains (out.set m.physicalID (merged (out.find m.physicalID) m)) ms id =
      firstDomains out (m :: ms) id :=
  first_merged fun _ => rfl

/-! ## Merging -/

theorem sameMembership_iff :
    sameMembership previous m = true ↔
      previous.deviceUID = m.deviceUID ∧ previous.nodeUID = m.nodeUID ∧
        equalStringMap previous.domains m.domains = true ∧
        previous.riskGroups = m.riskGroups := by
  simp [sameMembership, and_assoc]

theorem mergeHealth_observed :
    (mergeHealth previous m).healthObserved = min previous.healthObserved m.healthObserved := by
  simp only [mergeHealth]
  split
  · rename_i hlt
    exact (min_eq_right hlt.le).symm
  · rename_i hge
    exact (min_eq_left (not_lt.mp hge)).symm

theorem Healthier.trans (h : Healthier m₁ m₂) (h' : Healthier m₂ m₃) :
    Healthier m₁ m₃ where
  physicalID := h'.physicalID.trans h.physicalID
  deviceUID := h'.deviceUID.trans h.deviceUID
  nodeUID := h'.nodeUID.trans h.nodeUID
  domains := h'.domains.trans h.domains
  riskGroups := h'.riskGroups.trans h.riskGroups
  known := h'.known ∘ h.known
  healthy := h'.healthy ∘ h.healthy
  maintenance := h.maintenance ∘ h'.maintenance
  observed := h.observed.trans h'.observed

theorem mergeHealth_worse : Healthier (mergeHealth previous m) previous := by
  refine ⟨rfl, rfl, rfl, rfl, rfl, ?_, ?_, ?_, ?observed⟩
  case observed =>
    rw [mergeHealth_observed]
    exact min_le_left _ _
  all_goals simp +contextual [mergeHealth]

theorem mergeHealth_later (hid : previous.physicalID = m.physicalID)
    (hsame : sameMembership previous m = true) (hdomains : previous.domains = m.domains) :
    Healthier (mergeHealth previous m) m := by
  obtain ⟨hdevice, hnode, _, hgroups⟩ := sameMembership_iff.mp hsame
  refine ⟨hid.symm, hdevice.symm, hnode.symm, hdomains.symm, hgroups.symm, ?_, ?_, ?_, ?observed⟩
  case observed =>
    rw [mergeHealth_observed]
    exact min_le_right _ _
  all_goals simp +contextual [mergeHealth]

theorem mergeHealth_healthier (hp : Healthier previous previous') (hm : Healthier m m') :
    Healthier (mergeHealth previous m) (mergeHealth previous' m') := by
  refine ⟨hp.physicalID, hp.deviceUID, hp.nodeUID, hp.domains, hp.riskGroups, ?_, ?_, ?_, ?observed⟩
  case observed =>
    rw [mergeHealth_observed, mergeHealth_observed]
    exact min_le_min hp.observed hm.observed
  all_goals simp only [mergeHealth, Bool.and_eq_true, Bool.or_eq_true]
  · exact And.imp hp.known hm.known
  · exact And.imp hp.healthy hm.healthy
  · exact Or.imp hp.maintenance hm.maintenance

end

/-! ## The loop, in lockstep -/

section

variable [Upstream] {out out' res : Map Member} {m : Member} {ms : List Member}

/-- The checks an observation passes on its own. -/
def Observable (m : Member) : Prop :=
  m.physicalID ≠ "" ∧ m.deviceUID ≠ "" ∧ m.nodeUID ≠ "" ∧
    validateRiskGroupNames m.riskGroups = none

theorem canonicalizeFrom_cons :
    canonicalizeFrom out (m :: ms) = .ok res ↔
      Observable m ∧ (∀ p, out.find m.physicalID = some p → sameMembership p m = true) ∧
        canonicalizeFrom (out.set m.physicalID (merged (out.find m.physicalID) m)) ms =
          .ok res := by
  simp only [canonicalizeFrom, Observable, Bool.or_eq_true, beq_iff_eq]
  split
  · rename_i hids
    simp only [reduceCtorEq, false_iff, not_and]
    exact fun h => absurd hids (by simp [h])
  rename_i hids
  split
  · rename_i hgroups
    simp [hgroups]
  rename_i hgroups
  rw [not_or, not_or] at hids
  cases hfind : out.find m.physicalID with
  | none => simp [merged, hids, hgroups]
  | some p =>
    by_cases hsame : sameMembership p m = true <;> simp [merged, hids, hgroups, hsame]

/-- What the second run has collected so far, against the first. -/
structure Track (target : String) (out out' : Map Member) : Prop where
  keys : ∀ id m, out.find id = some m → m.physicalID = id
  below : ∀ id m', out'.find id = some m' → ∃ m, out.find id = some m ∧ Healthier m m'
  target : (out.find target).isSome = true → (out'.find target).isSome = true

section

omit [Upstream]

theorem track_empty (target : String) : Track target ∅ ∅ :=
  ⟨fun _ _ h => (by cases h), fun _ _ h => (by cases h), fun h => h⟩

theorem Track.both {target id : String} {v v' : Member} (h : Track target out out')
    (hid : v.physicalID = id) (hv : Healthier v v') :
    Track target (out.set id v) (out'.set id v') where
  keys := by
    intro k w hk
    rcases Map.find_set_iff.mp hk with ⟨rfl, rfl⟩ | ⟨_, hw⟩
    · exact hid
    · exact h.keys k w hw
  below := by
    intro k w hk
    rcases Map.find_set_iff.mp hk with ⟨rfl, rfl⟩ | ⟨hne, hw⟩
    · exact ⟨v, Map.find_set_self, hv⟩
    · rw [Map.find_set_ne hne]
      exact h.below k w hw
  target := by
    by_cases ht : target = id
    · subst ht
      simp
    · rw [Map.find_set_ne ht, Map.find_set_ne ht]
      exact h.target

/-- The first run alone writes a device the second has at least as healthy, or
not at all. -/
theorem Track.first {target id : String} {v : Member} (h : Track target out out')
    (hid : v.physicalID = id) (hne : id ≠ target)
    (hv : ∀ v', out'.find id = some v' → Healthier v v') :
    Track target (out.set id v) out' where
  keys := by
    intro k w hk
    rcases Map.find_set_iff.mp hk with ⟨rfl, rfl⟩ | ⟨_, hw⟩
    · exact hid
    · exact h.keys k w hw
  below := by
    intro k w hk
    by_cases hkid : k = id
    · subst hkid
      exact ⟨v, Map.find_set_self, hv w hk⟩
    · rw [Map.find_set_ne hkid]
      exact h.below k w hk
  target := by
    rw [Map.find_set_ne (Ne.symm hne)]
    exact h.target

end

theorem canonicalizeFrom_improves (himp : Improves target ms ms') :
    ∀ {out out' res}, Track target out out' →
      (∀ id domains, firstDomains out' ms' id = some domains →
        firstDomains out ms id = some domains) →
      canonicalizeFrom out ms = .ok res →
      ∃ res', canonicalizeFrom out' ms' = .ok res' ∧ Track target res res' := by
  induction himp with
  | nil =>
    intro out out' res htrack _ h
    rw [canonicalizeFrom] at h
    cases h
    exact ⟨out', rfl, htrack⟩
  | @drop m ms ms' hne _ ih =>
    intro out out' res htrack hdomains h
    obtain ⟨_, _, h⟩ := canonicalizeFrom_cons.mp h
    refine ih (htrack.first (merged_physicalID fun p hp => htrack.keys _ p hp) hne
      fun v' hv' => ?_) (fun id d hd => ?_) h
    · obtain ⟨v, hv, hhealth⟩ := htrack.below _ _ hv'
      rw [hv]
      exact mergeHealth_worse.trans hhealth
    · rw [firstDomains_merged]
      exact hdomains id d hd
  | @keep m m' ms ms' hm _ ih =>
    intro out out' res htrack hdomains h
    obtain ⟨hobs, hsame, h⟩ := canonicalizeFrom_cons.mp h
    have hid := hm.physicalID
    have hobs' : Observable m' := by
      simp only [Observable, hid, hm.deviceUID, hm.nodeUID, hm.riskGroups]
      exact hobs
    have hkeys := fun p hp => htrack.keys m.physicalID p hp
    have hsame' : ∀ p, out'.find m'.physicalID = some p → sameMembership p m' = true := by
      intro p' hp'
      obtain ⟨p, hp, hhealth⟩ := htrack.below _ _ hp'
      rw [hid] at hp
      have := hsame p hp
      rw [sameMembership_iff] at this ⊢
      rw [hhealth.deviceUID, hhealth.nodeUID, hhealth.domains, hhealth.riskGroups,
        hm.deviceUID, hm.nodeUID, hm.domains, hm.riskGroups]
      exact this
    have hhealth : Healthier (merged (out.find m.physicalID) m)
        (merged (out'.find m'.physicalID) m') := by
      cases hp' : out'.find m'.physicalID with
      | some p' =>
        obtain ⟨p, hp, hhealth⟩ := htrack.below _ _ hp'
        rw [hid] at hp
        rw [hp]
        exact mergeHealth_healthier hhealth hm
      | none =>
        cases hp : out.find m.physicalID with
        | none => exact hm
        | some p =>
          -- The second run meets the device here for the first time.
          have hd := hdomains m'.physicalID m'.domains (by simp [firstDomains, hp'])
          have hfirst : p.domains = m.domains := by
            simpa [firstDomains, hid, hp, hm.domains] using hd
          exact (mergeHealth_later (hkeys p hp) (hsame p hp) hfirst).trans hm
    obtain ⟨res', hok, hres⟩ := ih (htrack.both (merged_physicalID hkeys) hhealth)
      (fun id d hd => by
        rw [← hid, firstDomains_merged] at hd
        rw [firstDomains_merged]
        exact hdomains id d hd) h
    rw [← hid] at hok
    exact ⟨res', canonicalizeFrom_cons.mpr ⟨hobs', hsame', hok⟩, hres⟩

end

end VirtualKubelet.Rollout
