import VirtualKubelet.Proofs.LedgerFrame
import VirtualKubelet.Proofs.Persisted

/-!
# Which accepted transitions can be written back

`Store.Mutate` runs `validatePersistedLedger` on what a transition left and
refuses the write when it fails. For almost every transition it cannot fail: a
record that is overwritten keeps its identity and meets what its new state
asks, and a clean-up leaves a fence it has checked.

Three can leave a ledger the validator does not take. `Revoke` accepts a
`Reserved` record, which has no child, while `Revoked` requires one. And
`BeginDrain` and `PromoteDrain` write an instant as text without asking whether
the text can be read back, which it can for the years 0 to 9999 only.
-/

namespace VirtualKubelet.Rollout

open Go

/-! ## Ledger texts of instants -/

/-- The instant has a text the ledger reads back. -/
def Writable (t : Time) : Prop := 0 ≤ yearOf t ∧ yearOf t ≤ 9999

theorem canonicalLedgerTime_some :
    canonicalLedgerTime t = some text ↔ t ≠ 0 ∧ formatRFC3339Nano t = text := by
  simp only [canonicalLedgerTime, Time.isZero, beq_iff_eq]
  split
  · next h => simp [h]
  · next h => simp [h]

theorem parse_canonical (h : canonicalLedgerTime t = some text) :
    (Writable t → parseCanonicalLedgerTime text = some t) ∧
      (parseCanonicalLedgerTime text ≠ none → Writable t) := by
  obtain ⟨_, rfl⟩ := canonicalLedgerTime_some.mp h
  constructor
  · intro hw
    simp only [parseCanonicalLedgerTime, parse_format hw.1 hw.2, Option.bind_some, h, if_true]
  intro hparse
  by_contra hw
  have hout : yearOf t < 0 ∨ 9999 < yearOf t := by
    simp only [Writable] at hw
    omega
  exact hparse (by simp only [parseCanonicalLedgerTime, parse_format_none hout,
    Option.bind_none])

theorem canonicalLedgerTime_ne_empty (hw : Writable t) (h : canonicalLedgerTime t = some text) :
    text ≠ "" := by
  rintro rfl
  have hparse := (parse_canonical h).1 hw
  simp [parseCanonicalLedgerTime, parseRFC3339Nano] at hparse

section

variable [Upstream] {l : Ledger} {id : String} {r : Reservation}

theorem requestError_sameIdentity (h : SameIdentity r r') :
    requestError r' = requestError r := by
  obtain ⟨rev, hreq⟩ := h.request
  simp only [requestError, boundedFields, hreq]

omit [Upstream] in
theorem distinct_put {β : Type} {f : Reservation → β} (hr : l.find id = some r)
    (hd : l.reservations.Distinct p f) (hp : p r' → p r) (hf : f r' = f r) :
    (l.put id r').reservations.Distinct p f := by
  refine Map.distinct_set hd fun k v hk hv hfv => ?_
  rw [hf] at hfv
  rw [Map.distinct_iff] at hd
  refine ⟨fun hpr => hk ?_, fun hpv => hk (hd k v id r hv hr hpv hfv)⟩
  exact (hd id r k v hr hv (hp hpr) hfv.symm).symm

/-- Overwriting a record by a valid one of the same identity keeps the ledger
valid, if its child UID is the old one or nobody else's. -/
theorem valid_put (hl : Valid l) (hr : l.find id = some r) (hsame : SameIdentity r r')
    (hvalid : RecordValid r')
    (hchild : r'.childUID = r.childUID ∨
      ∀ k v, k ≠ id → l.find k = some v → v.childUID ≠ r'.childUID) :
    Valid (l.put id r') := by
  obtain ⟨rev, hreq⟩ := hsame.request
  exact {
  version := hl.version
  uid := hl.uid
  size := by
    have hlen : (l.put id r').reservations.len = l.reservations.len := by
      rw [Map.len_eq_count, Map.len_eq_count]
      exact Map.count_set_same _ hr Iff.rfl
    rw [hlen]
    exact hl.size
  fence := hl.fence
  keys := by
    rw [Map.every_iff]
    intro k v hk
    rcases Map.find_set_iff.mp hk with ⟨rfl, rfl⟩ | ⟨_, hv⟩
    · rw [hreq]
      exact Map.every_iff.mp hl.keys k r hr
    · exact Map.every_iff.mp hl.keys k v hv
  records := by
    rw [Map.every_iff]
    intro k v hk
    rcases Map.find_set_iff.mp hk with ⟨rfl, rfl⟩ | ⟨_, hv⟩
    · exact hvalid
    · exact Map.every_iff.mp hl.records k v hv
  physicalIDs := distinct_put hr hl.physicalIDs (fun h => h) (by rw [hreq])
  deviceUIDs := distinct_put hr hl.deviceUIDs (fun h => h) (by rw [hreq])
  nodeUIDs := distinct_put hr hl.nodeUIDs (fun h => h) (by rw [hreq])
  children := distinct_put hr hl.children (fun h => h) (by
    simp only [Reservation.childKey, hreq])
  childUIDs := by
    rcases hchild with heq | hnew
    · exact distinct_put hr hl.childUIDs (fun h => heq ▸ h) heq
    · refine Map.distinct_set hl.childUIDs fun k v hk hv hf => ?_
      exact absurd hf (hnew k v hk hv) }

theorem valid_remove (hl : Valid l) (hf : FenceValid fence) :
    Valid { l.remove id with lastReleaseFence := some fence } := by
  refine hl.of_sub rfl rfl (Map.sub_delete _ _) fun f h => ?_
  cases h
  exact hf

/-! ## One record -/

theorem Valid.record (hl : Valid l) (hr : l.find id = some r) : RecordValid r :=
  Map.every_iff.mp hl.records id r hr

theorem RecordValid.child (h : RecordValid r) (hs : r.state ≠ .reserved) :
    validBoundedIdentity r.childUID 128 = true := by
  have hfits := h.state
  simp only [StateFits] at hfits
  cases hstate : r.state with
  | reserved => exact absurd hstate hs
  | bound | draining | granted => rw [hstate] at hfits; exact hfits.1
  | revoked => rw [hstate] at hfits; exact hfits
  | unknown name => rw [hstate] at hfits; exact hfits.elim

theorem RecordValid.update (h : RecordValid r) (hsame : SameIdentity r r')
    (hdrain : r'.hasDrainProvenance = true → DrainProvenance r') (hstate : StateFits r')
    (hrev : r'.controlRevision ≤ 2 ^ 63 - 1) : RecordValid r' where
  request := by rw [requestError_sameIdentity hsame]; exact h.request
  riskGroups := by rw [hsame.riskGroups]; exact h.riskGroups
  drain := hdrain
  state := hstate
  revision := hrev

theorem token_ne_empty (h : validDrainSessionToken token = true) : token ≠ "" := by
  intro he
  rw [he, not_validDrainSessionToken_empty] at h
  cases h

section

omit [Upstream]

theorem hasDrainProvenance_of_token (h : r.drainSessionToken ≠ "") :
    r.hasDrainProvenance = true := by
  simp [Reservation.hasDrainProvenance, h]

theorem completed_of_no_provenance (h : r.hasDrainProvenance = false) :
    r.drainCompletedAt = "" := by
  simp only [Reservation.hasDrainProvenance, Bool.or_eq_false_iff, bne_eq_false_iff_eq] at h
  exact h.2

theorem no_provenance_of_unmarked (h : r.drainMarked = false) :
    r.hasDrainProvenance = false := by
  simp only [Reservation.drainMarked, Bool.or_eq_false_iff] at h
  exact h.1

end

/-! ## The transitions that can leave an unreadable record -/

section Partial

theorem beginDrain_valid_iff (hl : Valid l) (hrev : rev ≤ 2 ^ 63 - 1)
    (h : beginDrain l id uid child token rev t = .done l') : Valid l' ↔ Writable t := by
  obtain ⟨_, htoken, start, r, hstart, hr, _, _, _, hor, rfl⟩ := beginDrain_ok h
  have hrec := hl.record hr
  have hempty : r.drainCompletedAt = "" := by
    rcases hor with ⟨_, _, _, hdone⟩ | ⟨_, hprov⟩
    · exact hdone
    · exact completed_of_no_provenance hprov
  have hchild : validBoundedIdentity r.childUID 128 = true := by
    rcases hor with ⟨hs, _⟩ | ⟨hs, _⟩ <;> exact hrec.child (by rw [hs]; simp)
  constructor
  · intro hvalid
    obtain ⟨startedAt, hparse, _⟩ := ((hvalid.record Ledger.find_put_self).drain
      (hasDrainProvenance_of_token (token_ne_empty htoken))).times
    refine (parse_canonical hstart).2 ?_
    rw [hparse]
    simp
  · intro hw
    refine valid_put hl hr rfl (hrec.update rfl (fun _ => ⟨htoken, t, ?_, .inl hempty⟩)
      ⟨hchild, hasDrainProvenance_of_token (token_ne_empty htoken), hempty⟩ hrev) (.inl rfl)
    exact (parse_canonical hstart).1 hw

theorem promoteDrain_valid_iff (hl : Valid l) (hrev : rev ≤ 2 ^ 63 - 1)
    (h : promoteDrain l id uid child token rev t = .done l') :
    Valid l' ↔ Writable t := by
  obtain ⟨_, htoken, completion, r, hcomp, hr, _, _, htok, _, hor, rfl⟩ :=
    promoteDrain_ok h
  have hrec := hl.record hr
  have hne := token_ne_empty htoken
  have htok' : r.drainSessionToken ≠ "" := by rw [htok]; exact hne
  obtain ⟨startedAt, hparse, hdone⟩ :=
    (hrec.drain (hasDrainProvenance_of_token htok')).times
  have hchild : validBoundedIdentity r.childUID 128 = true := by
    rcases hor with ⟨hs, _⟩ | ⟨hs, _⟩ <;> exact hrec.child (by rw [hs]; simp)
  constructor
  · intro hvalid
    have hrec' := hvalid.record Ledger.find_put_self
    obtain ⟨_, _, hor'⟩ := (hrec'.drain (hasDrainProvenance_of_token htok')).times
    have hset : completion ≠ "" := hrec'.state.2 (hasDrainProvenance_of_token htok')
    rcases hor' with he | ⟨c, hc, _⟩
    · exact absurd he hset
    · refine (parse_canonical hcomp).2 ?_
      rw [hc]
      simp
  · intro hw
    have hset := canonicalLedgerTime_ne_empty hw hcomp
    have hread := (parse_canonical hcomp).1 hw
    have hle : startedAt ≤ t := by
      rcases hor with ⟨_, hsame⟩ | ⟨_, _, started, hstarted, hle⟩
      · -- A replay: the record already says that this instant is late enough.
        rw [hsame, hread] at hdone
        rcases hdone with he | ⟨c, hc, hle⟩
        · exact absurd he hset
        · cases hc
          exact hle
      · rw [hparse] at hstarted
        cases hstarted
        exact hle
    exact valid_put hl hr rfl (hrec.update rfl
      (fun _ => ⟨by rw [htok]; exact htoken, startedAt, hparse, .inr ⟨t, hread, hle⟩⟩)
      ⟨hchild, fun _ => hset⟩ hrev) (.inl rfl)

theorem revoke_valid_iff (hl : Valid l) (hrev : rev ≤ 2 ^ 63 - 1)
    (h : revoke l id rev = .done l') :
    Valid l' ↔ ∀ r, l.find id = some r → r.state ≠ .reserved := by
  obtain ⟨r, hr, hfree, hor⟩ := revoke_ok h
  have hrec := hl.record hr
  have honly : ∀ r', l.find id = some r' → r' = r := by
    intro r' hr'
    rw [hr] at hr'
    cases hr'
    rfl
  rcases hor with ⟨hs, rfl⟩ | ⟨_, _, rfl⟩
  · refine iff_of_true hl fun r' hr' => ?_
    rw [honly r' hr', hs]
    simp
  constructor
  · intro hvalid r' hr' hs
    rw [honly r' hr'] at hs
    -- The revoked record would need the child the reserved one cannot have.
    have hchild : validBoundedIdentity r.childUID 128 = true :=
      (hvalid.record Ledger.find_put_self).state
    have hfits := hrec.state
    simp only [StateFits, hs] at hfits
    rw [hfits.1] at hchild
    exact absurd hchild (by decide)
  · intro hstate
    refine valid_put hl hr rfl (hrec.update rfl (fun hp => ?_)
      (hrec.child (hstate r hr)) hrev) (.inl rfl)
    have hno := no_provenance_of_unmarked hfree
    change r.hasDrainProvenance = true at hp
    rw [hno] at hp
    cases hp

end Partial

/-! ## All transitions -/

def Op.childUID : Op → Option String
  | .bindChild _ child | .beginDrain _ _ child .. | .promoteDrain _ _ child ..
  | .grant _ _ child _ | .revokeDrain _ _ child .. | .settle _ _ child ..
  | .settleDrained _ _ _ child .. | .releaseUnclaimed _ _ child ..
  | .revokeUnclaimed _ _ child .. => some child
  | .reserve .. | .revoke .. | .fenceUnbound .. => none

def Op.controlRevision : Op → Option Nat
  | .reserve _ _ request => some request.controlRevision
  | .beginDrain _ _ _ _ rev _ | .promoteDrain _ _ _ _ rev _ | .grant _ _ _ rev
  | .revoke _ rev | .revokeDrain _ _ _ _ rev | .releaseUnclaimed _ _ _ rev _
  | .revokeUnclaimed _ _ _ rev _ => some rev
  | .bindChild .. | .settle .. | .settleDrained .. | .fenceUnbound .. => none

/-- A bounded identity that no other reservation uses. -/
def ChildFits (l : Ledger) (id child : String) : Prop :=
  validBoundedIdentity child 128 = true ∧
    ∀ k v, k ≠ id → l.find k = some v → v.childUID ≠ child

/-- The call is not a revocation of a record without a child, and the time of a
drain has a text that can be read back. -/
def Op.Persistable (l : Ledger) : Op → Prop
  | .revoke id _ => ∀ r, l.find id = some r → r.state ≠ .reserved
  | .beginDrain _ _ _ _ _ t | .promoteDrain _ _ _ _ _ t => Writable t
  | _ => True

theorem fenceValid_generic (h : FenceNames id epoch lock) :
    FenceValid (genericFence id epoch lock) := ⟨h, .inl ⟨rfl, rfl⟩⟩

theorem cleaned_valid (hl : Valid l) (h : Cleaned l id epoch lock l') : Valid l' := by
  obtain ⟨hnames, _, rfl⟩ := h
  exact valid_remove hl (fenceValid_generic hnames)

theorem bindChild_valid (hl : Valid l) (hchild : ChildFits l id child)
    (h : bindChild l id child = .done l') : Valid l' := by
  obtain ⟨r, hr, _, hor⟩ := bindChild_ok h
  rcases hor with ⟨_, rfl⟩ | ⟨hs, _, rfl⟩
  · exact hl
  have hrec := hl.record hr
  have hfits := hrec.state
  simp only [StateFits, hs] at hfits
  refine valid_put hl hr rfl (hrec.update rfl (fun hp => ?_) ⟨hchild.1, hfits.2⟩
    hrec.revision) (.inr hchild.2)
  change r.hasDrainProvenance = true at hp
  rw [hfits.2] at hp
  cases hp

theorem grant_valid (hl : Valid l) (hrev : rev ≤ 2 ^ 63 - 1)
    (h : grant l id uid child rev = .done l') : Valid l' := by
  obtain ⟨_, r, hr, hfree, _, _, hor, rfl⟩ := grant_ok h
  have hrec := hl.record hr
  have hno := no_provenance_of_unmarked hfree
  have hchild : validBoundedIdentity r.childUID 128 = true := by
    rcases hor with hs | ⟨hs, _⟩ <;> exact hrec.child (by rw [hs]; simp)
  have hnone : ∀ {P : Prop}, r.hasDrainProvenance = true → P := by
    intro P hp
    rw [hno] at hp
    cases hp
  exact valid_put hl hr rfl (hrec.update rfl hnone ⟨hchild, hnone⟩ hrev) (.inl rfl)

theorem revoked_valid (hl : Valid l) (hr : l.find id = some r) (hs : r.state ≠ .reserved)
    (hrev : rev ≤ 2 ^ 63 - 1) :
    Valid (l.put id { r with controlRevision := rev, state := .revoked }) := by
  have hrec := hl.record hr
  refine valid_put hl hr rfl (hrec.update rfl (fun hp => ?_) (hrec.child hs) hrev) (.inl rfl)
  exact ⟨(hrec.drain hp).token, (hrec.drain hp).times⟩

/-- Every accepted transition is persistable, except for the ones just named:
on an accepted ledger, a successful call leaves an accepted ledger if and only
if it is none of them. -/
theorem accepted_transition_persistable_iff (l : Ledger) (op : Op)
    (hvalid : validatePersistedLedger l = none)
    (hchild : ∀ child, op.childUID = some child → ChildFits l op.target child)
    (hrev : ∀ rev, op.controlRevision = some rev → rev ≤ 2 ^ 63 - 1)
    (hok : (op.apply l).err = none) :
    validatePersistedLedger (op.apply l).ledger = none ↔ op.Persistable l := by
  rw [validatePersistedLedger_none] at hvalid ⊢
  have h : op.apply l = .done (op.apply l).ledger := Outcome.eq_done hok
  generalize (op.apply l).ledger = l' at h
  cases op with
  | beginDrain id uid child token rev t =>
    exact beginDrain_valid_iff hvalid (hrev rev rfl) h
  | promoteDrain id uid child token rev t =>
    exact promoteDrain_valid_iff hvalid (hrev rev rfl) h
  | revoke id rev => exact revoke_valid_iff hvalid (hrev rev rfl) h
  | reserve policy members request =>
    refine iff_of_true ?_ trivial
    rcases reserve_ok h with ⟨_, _, _, _, _, rfl⟩ | ⟨hadmits, rfl⟩
    · exact hvalid
    · exact validatePersistedLedger_none.mp hadmits.valid
  | bindChild id child =>
    exact iff_of_true (bindChild_valid hvalid (hchild child rfl) h) trivial
  | grant id uid child rev =>
    exact iff_of_true (grant_valid hvalid (hrev rev rfl) h) trivial
  | revokeDrain id uid child token rev =>
    refine iff_of_true ?_ trivial
    obtain ⟨_, _, r, hr, _, _, _, hor⟩ := revokeDrain_ok h
    rcases hor with ⟨_, rfl⟩ | ⟨_, hs, rfl⟩
    · exact hvalid
    · refine revoked_valid hvalid hr ?_ (hrev rev rfl)
      rcases hs with hs | hs | hs <;> rw [hs] <;> simp
  | revokeUnclaimed id lock child rev epoch =>
    refine iff_of_true ?_ trivial
    obtain ⟨r, hr, _, _, _, _, _, _, hs, rfl⟩ := revokeUnclaimedAtEpoch_ok h
    refine revoked_valid hvalid hr ?_ (hrev rev rfl)
    rcases hs with hs | hs | hs <;> rw [hs] <;> simp
  | settle id lock child epoch resolved health =>
    exact iff_of_true (cleaned_valid hvalid (settle_ok h).1) trivial
  | releaseUnclaimed id lock child rev epoch =>
    exact iff_of_true (cleaned_valid hvalid (releaseUnclaimedAtEpoch_ok h).1) trivial
  | fenceUnbound id epoch lock =>
    exact iff_of_true (cleaned_valid hvalid (fenceUnboundAcquisition_ok h).1) trivial
  | settleDrained id uid lock child token epoch resolved health recovered =>
    refine iff_of_true ?_ trivial
    obtain ⟨_, _, _, _, ⟨hnames, hc, htok, _, rfl⟩, _⟩ := settleDrained_ok h
    exact valid_remove hvalid ⟨hnames, .inr ⟨htok, hc⟩⟩

end

/-! ## Revoking a reservation that was never bound -/

namespace Sample

/-- Device `a` is reserved and has no child yet. -/
def reserved : Ledger :=
  (@reserve upstream ledger policy [member "a" "r1"] (request "a" "r1")).ledger

end Sample

theorem revoke_reserved_unpersistable :
    @validatePersistedLedger Sample.upstream Sample.reserved = none ∧
    (@Op.apply Sample.upstream Sample.reserved (.revoke "reservation-a" 1)).err = none ∧
    @validatePersistedLedger Sample.upstream
      (@Op.apply Sample.upstream Sample.reserved (.revoke "reservation-a" 1)).ledger ≠
        none := by
  decide +kernel

theorem bindChild_persistable :
    @validatePersistedLedger Sample.upstream
      (@Op.apply Sample.upstream Sample.reserved
        (.bindChild "reservation-a" "child-a")).ledger = none := by
  refine (@accepted_transition_persistable_iff Sample.upstream Sample.reserved
    (.bindChild "reservation-a" "child-a") (by decide +kernel) ?_ nofun
    (by decide +kernel)).mpr trivial
  rintro child ⟨⟩
  have hother : Sample.reserved.reservations.Every
      fun k r => k = "reservation-a" ∨ r.childUID ≠ "child-a" := by decide +kernel
  refine ⟨by decide, fun k v hk hv => ?_⟩
  exact (Map.every_iff.mp hother k v hv).resolve_left hk

end VirtualKubelet.Rollout
