import VirtualKubelet.Proofs.LedgerFrame
import VirtualKubelet.Proofs.Persisted

/-!
# Drain provenance is one-way

Once `BeginDrain` has recorded a session on a reservation, the record belongs
to the drain protocol until it is settled. Every function guards this by its
own condition: `Grant` and `Revoke` look at all three drain fields and the
state, the unclaimed clean-ups at the token alone, `FenceUnboundAcquisition` at
the state, `BeginDrain` and `PromoteDrain` at a replay of exactly what they
wrote. What the conditions have in common is `DrainRecord`, which each of them
turns into a refusal or preserves.
-/

namespace VirtualKubelet.Rollout

open Go

/-- The states a drained reservation moves through. -/
inductive DrainMove : ReservationState → ReservationState → Prop
  | stay (s : ReservationState) : DrainMove s s
  | promote : DrainMove .draining .granted
  | revokeGranted : DrainMove .granted .revoked
  | revokeDraining : DrainMove .draining .revoked

theorem DrainMove.trans (h₁ : DrainMove a b) (h₂ : DrainMove b c) : DrainMove a c := by
  cases h₁ with
  | stay => exact h₂
  | promote =>
    cases h₂ with
    | stay => exact .promote
    | revokeGranted => exact .revokeDraining
  | revokeGranted => cases h₂ with | stay => exact .revokeGranted
  | revokeDraining => cases h₂ with | stay => exact .revokeDraining

/-- The recorded completion is the text of an instant that is not before the
one the recorded start is read as. -/
def CompletedAfter (start completion : String) : Prop :=
  ∃ s c : Time, parseCanonicalLedgerTime start = some s ∧
    canonicalLedgerTime c = some completion ∧ s ≤ c

structure DrainRecord (token start : String) (r : Reservation) : Prop where
  sameToken : r.drainSessionToken = token
  sameStart : r.drainStartedAt = start
  state : r.state = .draining ∨ r.state = .granted ∨ r.state = .revoked
  incomplete : r.state = .draining → r.drainCompletedAt = ""
  completion : r.drainCompletedAt = "" ∨ CompletedAfter start r.drainCompletedAt

/-- What may become of a drained record while it stays in the ledger. -/
structure DrainAdvance (r r' : Reservation) : Prop where
  identity : SameIdentity r r'
  token : r'.drainSessionToken = r.drainSessionToken
  start : r'.drainStartedAt = r.drainStartedAt
  child : r'.childUID = r.childUID
  completion : r.drainCompletedAt ≠ "" → r'.drainCompletedAt = r.drainCompletedAt
  revision : r.controlRevision ≤ r'.controlRevision
  state : DrainMove r.state r'.state

theorem DrainAdvance.refl (r : Reservation) : DrainAdvance r r :=
  ⟨rfl, rfl, rfl, rfl, fun _ => rfl, le_refl _, .stay _⟩

theorem DrainAdvance.trans (h₁ : DrainAdvance r₁ r₂) (h₂ : DrainAdvance r₂ r₃) :
    DrainAdvance r₁ r₃ where
  identity := sameIdentity_trans h₁.identity h₂.identity
  token := h₂.token.trans h₁.token
  start := h₂.start.trans h₁.start
  child := h₂.child.trans h₁.child
  completion := fun hne => by
    have hc := h₁.completion hne
    rw [h₂.completion (hc ▸ hne), hc]
  revision := le_trans h₁.revision h₂.revision
  state := h₁.state.trans h₂.state

/-- The clean-ups and grants that know nothing of drain sessions. -/
def Op.generic : Op → Prop
  | .grant .. | .revoke .. | .settle .. | .releaseUnclaimed .. | .revokeUnclaimed ..
  | .fenceUnbound .. => True
  | _ => False

section

variable [Upstream] {l l' : Ledger} {op : Op} {id token start : String}
  {r : Reservation}

omit [Upstream] in
theorem drainMarked_of_token (h : r.drainSessionToken ≠ "") : r.drainMarked = true := by
  simp [Reservation.drainMarked, Reservation.hasDrainProvenance, h]

theorem generic_refuses (hdrain : DrainRecord token start r) (htoken : token ≠ "")
    (hr : l.find op.target = some r) (hop : op.generic) : op.apply l ≠ .done l' := by
  have hne : r.drainSessionToken ≠ "" := hdrain.sameToken ▸ htoken
  have hmarked := drainMarked_of_token hne
  intro h
  cases op with
  | grant id uid child rev =>
    obtain ⟨_, r₁, hr₁, hfree, _⟩ := grant_ok h
    cases hr.symm.trans hr₁
    rw [hmarked] at hfree
    cases hfree
  | revoke id rev =>
    obtain ⟨r₁, hr₁, hfree, _⟩ := revoke_ok h
    cases hr.symm.trans hr₁
    rw [hmarked] at hfree
    cases hfree
  | settle id lock child epoch resolved health =>
    exact hne ((settle_ok h).2 r hr).2.2.1
  | releaseUnclaimed id lock child rev epoch =>
    exact hne ((releaseUnclaimedAtEpoch_ok h).2 r hr).2.2.1
  | revokeUnclaimed id lock child rev epoch =>
    obtain ⟨r₁, hr₁, _, _, hempty, _⟩ := revokeUnclaimedAtEpoch_ok h
    cases hr.symm.trans hr₁
    exact hne hempty
  | fenceUnbound id epoch lock =>
    have hreserved := ((fenceUnboundAcquisition_ok h).2 r hr).2.2
    rcases hdrain.state with hs | hs | hs <;> rw [hs] at hreserved <;> cases hreserved
  | reserve | bindChild | beginDrain | promoteDrain | revokeDrain | settleDrained =>
    exact hop.elim

/-- The ops that write the record keep it in the session; the one that removes
it was called with what the record says. -/
theorem drain_apply (hdrain : DrainRecord token start r) (htoken : token ≠ "")
    (hr : l.find op.target = some r) (h : op.apply l = .done l') :
    (∃ r', l'.find op.target = some r' ∧ DrainAdvance r r' ∧ DrainRecord token start r') ∨
    op = .settleDrained op.target l.uid r.topologyLockID r.childUID token r.policyEpoch
      true true true := by
  have hkept : l' = l → ∃ r', l'.find op.target = some r' ∧ DrainAdvance r r' ∧
      DrainRecord token start r' := by
    rintro rfl
    exact ⟨r, hr, .refl r, hdrain⟩
  cases op with
  | reserve policy members request =>
    rcases reserve_ok h with ⟨_, _, _, _, _, hsame⟩ | ⟨hadmits, _⟩
    · exact .inl (hkept hsame)
    · cases hr.symm.trans hadmits.absent
  | bindChild id child =>
    obtain ⟨r₁, hr₁, _, hor⟩ := bindChild_ok h
    cases hr.symm.trans hr₁
    rcases hor with ⟨_, hsame⟩ | ⟨hreserved, _⟩
    · exact .inl (hkept hsame)
    · rcases hdrain.state with hs | hs | hs <;> rw [hs] at hreserved <;> cases hreserved
  | beginDrain id uid child token' rev t =>
    obtain ⟨_, _, start', r₁, _, hr₁, _, _, hrev, hor, rfl⟩ := beginDrain_ok h
    cases hr.symm.trans hr₁
    rcases hor with ⟨hs, ht, hst, hdone⟩ | ⟨hbound, _⟩
    · -- A replay: everything but the revision is written back as it was.
      subst ht hst
      refine .inl ⟨_, Ledger.find_put_self, ?_, ?_⟩
      · exact ⟨rfl, rfl, rfl, rfl, fun _ => rfl, hrev, by rw [hs]; exact .stay _⟩
      · exact ⟨hdrain.sameToken, hdrain.sameStart, .inl rfl, fun _ => hdone, .inl hdone⟩
    · rcases hdrain.state with hs | hs | hs <;> rw [hs] at hbound <;> cases hbound
  | promoteDrain id uid child token' rev t =>
    obtain ⟨_, _, completion, r₁, hcomp, hr₁, _, _, _, hrev, hor, rfl⟩ :=
      promoteDrain_ok h
    cases hr.symm.trans hr₁
    refine .inl ⟨_, Ledger.find_put_self, ?_, ?_⟩
    · rcases hor with ⟨hs, hsame⟩ | ⟨hs, hempty, _⟩
      · exact ⟨rfl, rfl, rfl, rfl, fun _ => hsame.symm, hrev, by rw [hs]; exact .stay _⟩
      · exact ⟨rfl, rfl, rfl, rfl, fun hne => absurd hempty hne, hrev, by rw [hs]; exact .promote⟩
    refine ⟨hdrain.sameToken, hdrain.sameStart, .inr (.inl rfl), nofun, ?_⟩
    rcases hor with ⟨_, hsame⟩ | ⟨_, _, started, hstarted, hle⟩
    · rw [← hsame]
      exact hdrain.completion
    · rw [hdrain.sameStart] at hstarted
      exact .inr ⟨started, t, hstarted, hcomp, hle⟩
  | revokeDrain id uid child token' rev =>
    obtain ⟨_, _, r₁, hr₁, _, _, _, hor⟩ := revokeDrain_ok h
    cases hr.symm.trans hr₁
    rcases hor with ⟨_, hsame⟩ | ⟨hrev, hstate, rfl⟩
    · exact .inl (hkept hsame)
    refine .inl ⟨_, Ledger.find_put_self, ?_, ?_⟩
    · refine ⟨rfl, rfl, rfl, rfl, fun _ => rfl, hrev, ?_⟩
      rcases hstate with hs | hs | hs
      · rw [hs]; exact .revokeDraining
      · rw [hs]; exact .revokeGranted
      · rw [hs]; exact .stay _
    · exact ⟨hdrain.sameToken, hdrain.sameStart, .inr (.inr rfl), nofun, hdrain.completion⟩
  | settleDrained id uid lock child token' epoch resolved health recovered =>
    obtain ⟨huid, hres, hhealth, hrec, _, hrecord⟩ := settleDrained_ok h
    obtain ⟨hepoch, hlock, hchild, hor⟩ := hrecord r hr
    rcases hor with ⟨hbound, _⟩ | ⟨htok, _⟩
    · rcases hdrain.state with hs | hs | hs <;> rw [hs] at hbound <;> cases hbound
    · rw [hdrain.sameToken] at htok
      subst huid hres hhealth hrec hepoch hlock hchild htok
      exact .inr rfl
  | grant | revoke | settle | releaseUnclaimed | revokeUnclaimed | fenceUnbound =>
    exact absurd h (generic_refuses hdrain htoken hr trivial)

theorem step_drain (op : Op) (hdrain : DrainRecord token start r) (htoken : token ≠ "")
    (hr : l.find id = some r) :
    (∃ r', (step l op).find id = some r' ∧ DrainAdvance r r' ∧ DrainRecord token start r') ∨
    ((step l op).find id = none ∧
      op = .settleDrained id l.uid r.topologyLockID r.childUID token r.policyEpoch
        true true true) := by
  cases herr : (op.apply l).err with
  | some e =>
    have hsame : step l op = l := apply_atomic l op (by simp [herr])
    rw [hsame]
    exact .inl ⟨r, hr, .refl r, hdrain⟩
  | none =>
    have hdone : op.apply l = .done (step l op) := Outcome.eq_done herr
    by_cases hid : id = op.target
    · subst hid
      rcases drain_apply hdrain htoken hr hdone with hkept | hsettle
      · exact .inl hkept
      refine .inr ⟨?_, hsettle⟩
      generalize op.target = id at *
      subst hsettle
      obtain ⟨_, _, _, _, hclean, _⟩ := settleDrained_ok hdone
      rw [hclean.2.2.2.2]
      exact Ledger.find_remove_self
    · rw [effect_find_ne (apply_effect hdone) hid]
      exact .inl ⟨r, hr, .refl r, hdrain⟩

theorem run_drain (ops : List Op) (hdrain : DrainRecord token start r)
    (htoken : token ≠ "") (hr : l.find id = some r)
    (hpresent : ∀ pre, pre <+: ops → (run l pre).find id ≠ none) :
    ∃ r', (run l ops).find id = some r' ∧ DrainAdvance r r' ∧
      DrainRecord token start r' := by
  refine Machine.run_while
    (P := fun s : Ledger => ∃ r', s.find id = some r' ∧ DrainAdvance r r' ∧
      DrainRecord token start r')
    (G := fun s : Ledger => s.find id ≠ none) ⟨r, hr, .refl r, hdrain⟩ ?_ hpresent
  rintro s op ⟨r₁, hr₁, hadv₁, hdrain₁⟩ hguard
  rcases step_drain op hdrain₁ htoken hr₁ with ⟨r₂, hr₂, hadv₂, hdrain₂⟩ | ⟨hnone, _⟩
  · exact ⟨r₂, hr₂, hadv₁.trans hadv₂, hdrain₂⟩
  · exact absurd hnone hguard

theorem beginDrain_record (h : beginDrain l id uid child token rev t = .done l') :
    ∃ start r, canonicalLedgerTime t = some start ∧ token ≠ "" ∧
      l'.find id = some r ∧ DrainRecord token start r ∧ r.state = .draining := by
  obtain ⟨_, htoken, start, r, hstart, _, _, _, _, hor, rfl⟩ := beginDrain_ok h
  have hne : token ≠ "" := by
    intro he
    rw [he, not_validDrainSessionToken_empty] at htoken
    cases htoken
  have hempty : r.drainCompletedAt = "" := by
    rcases hor with ⟨_, _, _, hdone⟩ | ⟨_, hprov⟩
    · exact hdone
    · simp only [Reservation.hasDrainProvenance, Bool.or_eq_false_iff, bne_eq_false_iff_eq] at hprov
      exact hprov.2
  exact ⟨start, _, hstart, hne, Ledger.find_put_self,
    ⟨rfl, rfl, .inl rfl, fun _ => hempty, .inl hempty⟩, rfl⟩

/-- Drain provenance is one-way. From the call that recorded the session on, at
every point `mid` of every run on which the reservation is still there, it
carries that session, its completion does not precede its start, whatever
happens later only advances it, no generic function accepts it, and the one
call that removes it is the session's own settlement. -/
theorem drain_provenance_one_way (l drained : Ledger) (before mid late : List Op)
    (id uid child token : String) (rev : Nat) (t : Time)
    (hbegin : beginDrain (run l before) id uid child token rev t = .done drained)
    (hpresent : ∀ pre, pre <+: mid ++ late → (run drained pre).find id ≠ none) :
    ∃ start r₀ r r', canonicalLedgerTime t = some start ∧
      drained.find id = some r₀ ∧ r₀.state = .draining ∧
      (run drained mid).find id = some r ∧
      (run drained (mid ++ late)).find id = some r' ∧
      r.drainSessionToken = token ∧ r.drainStartedAt = start ∧
      (r.drainCompletedAt = "" ∨ CompletedAfter start r.drainCompletedAt) ∧
      DrainAdvance r₀ r ∧ DrainAdvance r r' ∧
      (∀ op : Op, op.target = id → op.generic →
        (op.apply (run drained mid)).err ≠ none ∧
          (op.apply (run drained mid)).ledger = run drained mid) ∧
      (∀ op : Op, (op.apply (run drained mid)).ledger.find id = none →
        op = .settleDrained id (run drained mid).uid r.topologyLockID r.childUID token
          r.policyEpoch true true true) := by
  obtain ⟨start, r₀, hstart, htoken, hr₀, hdrain₀, hstate⟩ := beginDrain_record hbegin
  obtain ⟨r, hr, hadv, hdrain⟩ := run_drain mid hdrain₀ htoken hr₀
    fun pre hpre => hpresent pre (hpre.trans (List.prefix_append _ _))
  obtain ⟨r', hr', hadv', _⟩ := run_drain late hdrain htoken hr
    fun pre hpre => by
      have h := hpresent (mid ++ pre) ((List.prefix_append_right_inj mid).mpr hpre)
      rwa [run_append] at h
  rw [← run_append] at hr'
  refine ⟨start, r₀, r, r', hstart, hr₀, hstate, hr, hr', hdrain.sameToken,
    hdrain.sameStart, hdrain.completion, hadv, hadv', fun op hid hop => ?_, fun op hnone => ?_⟩
  · subst hid
    have herr : (op.apply (run drained mid)).err ≠ none := fun h =>
      generic_refuses hdrain htoken hr hop (Outcome.eq_done h)
    exact ⟨herr, apply_atomic _ op herr⟩
  · rcases step_drain op hdrain htoken hr with ⟨r₁, hr₁, _⟩ | ⟨_, hsettle⟩
    · rw [step, hnone] at hr₁
      cases hr₁
    · exact hsettle

end

/-! ## A drain that is promoted and revoked -/

namespace Sample

def sessionToken : String := "11111111-1111-4111-8111-111111111111"

def midnight : Time := 63907833600000000000

def bound : List Op :=
  [.reserve policy [member "a" "r1"] (request "a" "r1"), .bindChild "reservation-a" "child-a"]

def promoted : List Op :=
  [.promoteDrain "reservation-a" "ledger" "child-a" sessionToken 2 (midnight + 1)]

def revoked : List Op :=
  [.grant "reservation-a" "ledger" "child-a" 3,
    .revokeDrain "reservation-a" "ledger" "child-a" sessionToken 3]

def drained : Ledger :=
  (@beginDrain upstream (@run upstream ledger bound) "reservation-a" "ledger" "child-a"
    sessionToken 1 midnight).ledger

end Sample

theorem drain_provenance_sample :
    ∃ r r', (@run Sample.upstream Sample.drained Sample.promoted).find "reservation-a" =
        some r ∧
      (@run Sample.upstream Sample.drained (Sample.promoted ++ Sample.revoked)).find
        "reservation-a" = some r' ∧
      r.drainSessionToken = Sample.sessionToken ∧ DrainAdvance r r' := by
  have hpresent : ∀ pre ∈ (Sample.promoted ++ Sample.revoked).inits,
      (@run Sample.upstream Sample.drained pre).find "reservation-a" ≠ none := by
    decide +kernel
  have hok : (@beginDrain Sample.upstream
      (@run Sample.upstream Sample.ledger Sample.bound) "reservation-a" "ledger"
      "child-a" Sample.sessionToken 1 Sample.midnight).err = none := by decide +kernel
  obtain ⟨_, _, r, r', _, _, _, hr, hr', htoken, _, _, _, hadv, _⟩ :=
    @drain_provenance_one_way Sample.upstream Sample.ledger Sample.drained Sample.bound
      Sample.promoted Sample.revoked "reservation-a" "ledger" "child-a"
      Sample.sessionToken 1 Sample.midnight (Outcome.eq_done hok)
      (fun pre hpre => hpresent pre ((List.mem_inits _ _).mpr hpre))
  exact ⟨r, r', hr, hr', htoken, hadv⟩

end VirtualKubelet.Rollout
