import VirtualKubelet.Proofs.Drain

/-!
# The two settlement protocols

An acquisition is cleaned up either by the generic functions or by
`SettleDrainedReservation`, and the fence remembers which. The ledger keeps one
fence, the last, so the memory of a drained settlement lasts until another
acquisition is cleaned up; after that a generic clean-up of the first one is
accepted like any unknown one.

What lasts longer is the settlement's own replay. It needs only that no other
protocol has claimed the acquisition since, and a fence of a different
acquisition is no obstacle to it.
-/

namespace VirtualKubelet.Rollout

open Go

/-- One publication of a device lock, as the ledger names it. -/
structure Acquisition where
  reservationID : String
  policyEpoch : Int
  topologyLockID : String
  deriving DecidableEq

def Op.cleans : Op → Option Acquisition
  | .settle id lock _ epoch _ _ => some ⟨id, epoch, lock⟩
  | .settleDrained id _ lock _ _ epoch _ _ _ => some ⟨id, epoch, lock⟩
  | .releaseUnclaimed id lock _ _ epoch => some ⟨id, epoch, lock⟩
  | .fenceUnbound id epoch lock => some ⟨id, epoch, lock⟩
  | _ => none

/-- The call is a drained settlement with this child and session. -/
def Op.settlesFor (op : Op) (child token : String) : Prop :=
  match op with
  | .settleDrained _ _ _ child' token' _ _ _ _ => child' = child ∧ token' = token
  | _ => False

namespace Acquisition

def drainFence (a : Acquisition) (child token : String) : ReleaseFence :=
  ⟨a.reservationID, a.policyEpoch, a.topologyLockID, token, child⟩

def fenced (a : Acquisition) (fence : Option ReleaseFence) : Bool :=
  releaseFenceMatches fence a.reservationID a.policyEpoch a.topologyLockID

def drainFenced (a : Acquisition) (fence : Option ReleaseFence) : Bool :=
  drainFenceMatches fence a.reservationID a.policyEpoch a.topologyLockID

theorem fenced_iff {a : Acquisition} :
    a.fenced (some f) = true ↔ a = ⟨f.reservationID, f.policyEpoch, f.topologyLockID⟩ := by
  rw [fenced, releaseFenceMatches_iff]
  obtain ⟨id, epoch, lock⟩ := a
  simp only [Option.some.injEq, exists_eq_left', Acquisition.mk.injEq]
  constructor
  · rintro ⟨rfl, rfl, rfl⟩; exact ⟨rfl, rfl, rfl⟩
  · rintro ⟨rfl, rfl, rfl⟩; exact ⟨rfl, rfl, rfl⟩

theorem drainFenced_drainFence {a : Acquisition} (h : token ≠ "") :
    a.drainFenced (some (a.drainFence child token)) = true :=
  drainFenceMatches_iff.mpr ⟨_, rfl, rfl, rfl, rfl, h⟩

end Acquisition

section

variable [Upstream] {l l' : Ledger} {op : Op} {a : Acquisition}
  {uid child token : String}

/-- What a successful call does to the fence. -/
inductive FenceWrite (l : Ledger) (op : Op) (fence : Option ReleaseFence) : Prop
  | kept (hop : op.cleans = none) (h : fence = l.lastReleaseFence)
  | generic (b : Acquisition) (hop : op.cleans = some b)
      (hfree : b.drainFenced l.lastReleaseFence = false)
      (hnot : ∀ child token, ¬ op.settlesFor child token)
      (h : fence = some (genericFence b.reservationID b.policyEpoch b.topologyLockID))
  | drained (b : Acquisition) (child token : String) (hop : op.cleans = some b)
      (hfor : op.settlesFor child token)
      (hown : b.fenced l.lastReleaseFence = true →
        l.lastReleaseFence = some (b.drainFence child token))
      (h : fence = some (b.drainFence child token))

omit [Upstream] in
theorem fenceWrite_of_cleaned {id lock : String} (hop : op.cleans = some ⟨id, epoch, lock⟩)
    (hnot : ∀ child token, ¬ op.settlesFor child token) (h : Cleaned l id epoch lock l') :
    FenceWrite l op l'.lastReleaseFence := by
  obtain ⟨_, hfree, rfl⟩ := h
  exact .generic ⟨id, epoch, lock⟩ hop hfree hnot rfl

theorem apply_fence (h : op.apply l = .done l') : FenceWrite l op l'.lastReleaseFence := by
  cases op with
  | settle id lock child epoch resolved health =>
    exact fenceWrite_of_cleaned rfl (fun _ _ hf => hf) (settle_ok h).1
  | releaseUnclaimed id lock child rev epoch =>
    exact fenceWrite_of_cleaned rfl (fun _ _ hf => hf) (releaseUnclaimedAtEpoch_ok h).1
  | fenceUnbound id epoch lock =>
    exact fenceWrite_of_cleaned rfl (fun _ _ hf => hf) (fenceUnboundAcquisition_ok h).1
  | settleDrained id uid lock child token epoch resolved health recovered =>
    obtain ⟨_, _, _, _, ⟨_, _, _, hown, rfl⟩, _⟩ := settleDrained_ok h
    exact .drained ⟨id, epoch, lock⟩ child token rfl ⟨rfl, rfl⟩ hown rfl
  | reserve policy members request =>
    rcases reserve_ok h with ⟨_, _, _, _, _, rfl⟩ | ⟨_, rfl⟩ <;> exact .kept rfl rfl
  | bindChild id child =>
    obtain ⟨r, _, _, ⟨_, rfl⟩ | ⟨_, _, rfl⟩⟩ := bindChild_ok h <;> exact .kept rfl rfl
  | beginDrain id uid child token rev t =>
    obtain ⟨_, _, _, _, _, _, _, _, _, _, rfl⟩ := beginDrain_ok h
    exact .kept rfl rfl
  | promoteDrain id uid child token rev t =>
    obtain ⟨_, _, _, _, _, _, _, _, _, _, _, rfl⟩ := promoteDrain_ok h
    exact .kept rfl rfl
  | grant id uid child rev =>
    obtain ⟨_, _, _, _, _, _, _, rfl⟩ := grant_ok h
    exact .kept rfl rfl
  | revoke id rev =>
    obtain ⟨_, _, _, ⟨_, rfl⟩ | ⟨_, _, rfl⟩⟩ := revoke_ok h <;> exact .kept rfl rfl
  | revokeDrain id uid child token rev =>
    obtain ⟨_, _, _, _, _, _, _, ⟨_, rfl⟩ | ⟨_, _, rfl⟩⟩ := revokeDrain_ok h <;>
      exact .kept rfl rfl
  | revokeUnclaimed id lock child rev epoch =>
    obtain ⟨_, _, _, _, _, _, _, _, _, rfl⟩ := revokeUnclaimedAtEpoch_ok h
    exact .kept rfl rfl

theorem step_fence (l : Ledger) (op : Op) :
    (step l op).lastReleaseFence = l.lastReleaseFence ∨
      ((op.apply l).err = none ∧ FenceWrite l op (step l op).lastReleaseFence) := by
  cases herr : (op.apply l).err with
  | none => exact .inr ⟨rfl, apply_fence (Outcome.eq_done herr)⟩
  | some e =>
    have hsame : step l op = l := apply_atomic l op (by simp [herr])
    exact .inl (by rw [hsame])

/-! ## While the fence stands -/

/-- No other acquisition is cleaned up by the call. -/
def QuietElsewhere (a : Acquisition) (l : Ledger) (op : Op) : Prop :=
  ∀ b, op.cleans = some b → b ≠ a → (op.apply l).err ≠ none

/-- The acquisition is cleaned up, if at all, by this settlement. -/
def QuietHere (a : Acquisition) (child token : String) (l : Ledger) (op : Op) : Prop :=
  op.cleans = some a → (op.apply l).err = none → op.settlesFor child token

/-- The settlement's fence outlives every attempt on its own acquisition. -/
theorem step_drainFence (htoken : token ≠ "") (hquiet : QuietElsewhere a l op)
    (h : l.lastReleaseFence = some (a.drainFence child token)) :
    (step l op).lastReleaseFence = some (a.drainFence child token) := by
  rcases step_fence l op with hsame | ⟨hok, hwrite⟩
  · rw [hsame, h]
  cases hwrite with
  | kept _ hf => rw [hf, h]
  | generic b hop hfree _ hf =>
    by_cases hb : b = a
    · subst hb
      rw [h, Acquisition.drainFenced_drainFence htoken] at hfree
      cases hfree
    · exact absurd hok (hquiet b hop hb)
  | drained b child' token' hop _ hown hf =>
    by_cases hb : b = a
    · subst hb
      rw [hf, ← hown (by rw [h, Acquisition.fenced_iff]; rfl), h]
    · exact absurd hok (hquiet b hop hb)

theorem step_ownFence (hquiet : QuietHere a child token l op)
    (h : a.fenced l.lastReleaseFence = true →
      l.lastReleaseFence = some (a.drainFence child token)) :
    a.fenced (step l op).lastReleaseFence = true →
      (step l op).lastReleaseFence = some (a.drainFence child token) := by
  rcases step_fence l op with hsame | ⟨hok, hwrite⟩
  · rw [hsame]; exact h
  cases hwrite with
  | kept _ hf => rw [hf]; exact h
  | generic b hop _ hnot hf =>
    intro hfenced
    rw [hf, Acquisition.fenced_iff] at hfenced
    have hb : b = a := hfenced.symm
    subst hb
    exact absurd (hquiet hop hok) (hnot child token)
  | drained b child' token' hop hfor _ hf =>
    intro hfenced
    rw [hf, Acquisition.fenced_iff] at hfenced
    have hb : b = a := hfenced.symm
    subst hb
    have hsame := hquiet hop hok
    cases op <;> simp only [Op.settlesFor] at hfor hsame
    rw [hf, ← hfor.1, ← hfor.2, hsame.1, hsame.2]

omit [Upstream] in
theorem not_cleaned_of_drainFence (l' : Ledger) (htoken : token ≠ "")
    (h : l.lastReleaseFence = some (a.drainFence child token)) :
    ¬ Cleaned l a.reservationID a.policyEpoch a.topologyLockID l' := by
  rintro ⟨_, hfree, _⟩
  have hdrain : drainFenceMatches l.lastReleaseFence a.reservationID a.policyEpoch
      a.topologyLockID = true := by
    rw [h]
    exact Acquisition.drainFenced_drainFence htoken
  rw [hdrain] at hfree
  cases hfree

theorem run_names (l : Ledger) (ops : List Op) :
    (run l ops).version = l.version ∧ (run l ops).uid = l.uid := by
  refine Machine.run_invariant (P := fun s : Ledger =>
    s.version = l.version ∧ s.uid = l.uid) (Q := fun _ => True) ⟨rfl, rfl⟩ ?_
    fun _ _ => trivial
  intro s op _ hs
  rcases step_cases s op with hsame | heff
  · rw [hsame]; exact hs
  · rw [(effect_names heff).1, (effect_names heff).2]; exact hs

/-- A settlement is accepted again on a ledger without the record, when the
fence there is its own or of another acquisition. -/
theorem settleDrained_again
    (h : settleDrainedReservation l₀ a.reservationID uid a.topologyLockID child token
      a.policyEpoch resolved health recovered = .done l₁) (huid : l.uid = l₁.uid)
    (habsent : l.find a.reservationID = none) (hown : a.fenced l.lastReleaseFence = true →
      l.lastReleaseFence = some (a.drainFence child token)) :
    (settleDrainedReservation l a.reservationID uid a.topologyLockID child token
      a.policyEpoch resolved health recovered).err = none := by
  obtain ⟨huid₀, rfl, rfl, rfl, ⟨hnames, hchild, htoken, _, rfl⟩, _⟩ := settleDrained_ok h
  have hu : l.uid = uid := huid.trans huid₀
  have hepoch : ¬ a.policyEpoch < 1 := by have := hnames.2.1; omega
  simp only [settleDrainedReservation, hu, bne_self_eq_false, htoken, hchild, habsent,
    recordDrainReleaseFence, hnames.1, hnames.2.2, hepoch, Bool.not_true, decide_false,
    Bool.or_false, Bool.false_eq_true, if_false]
  split
  · rename_i hfenced
    rw [hown hfenced]
    simp [Acquisition.drainFence, Outcome.done]
  · rfl

/-- The two settlement protocols do not mix while their fence stands. After a
drained settlement, in a state without the record: as long as no other
acquisition was cleaned up since, the generic clean-ups of this one fail and
the settlement can be replayed; and it can be replayed as long as nothing else
was accepted for this acquisition, whatever was cleaned up elsewhere. -/
theorem settlement_protocols_separate (l settled : Ledger) (before after : List Op)
    (a : Acquisition) (uid child token : String) (resolved health recovered : Bool)
    (hsettle : settleDrainedReservation (run l before) a.reservationID uid
      a.topologyLockID child token a.policyEpoch resolved health recovered = .done settled)
    (habsent : (run settled after).find a.reservationID = none) :
    ((∀ pre op, pre ++ [op] <+: after → QuietElsewhere a (run settled pre) op) →
      (∀ child' resolved' health',
        (settle (run settled after) a.reservationID a.topologyLockID child'
          a.policyEpoch resolved' health').err ≠ none) ∧
      (∀ child' rev,
        (releaseUnclaimedAtEpoch (run settled after) a.reservationID a.topologyLockID
          child' rev a.policyEpoch).err ≠ none) ∧
      (fenceUnboundAcquisition (run settled after) a.reservationID a.policyEpoch
        a.topologyLockID).err ≠ none ∧
      (settleDrainedReservation (run settled after) a.reservationID uid a.topologyLockID
        child token a.policyEpoch resolved health recovered).err = none) ∧
    ((∀ pre op, pre ++ [op] <+: after → QuietHere a child token (run settled pre) op) →
      (settleDrainedReservation (run settled after) a.reservationID uid a.topologyLockID
        child token a.policyEpoch resolved health recovered).err = none) := by
  obtain ⟨_, _, _, _, ⟨_, _, htok, _, heq⟩, _⟩ := settleDrained_ok hsettle
  have htoken : token ≠ "" := by
    intro he
    rw [he, not_validDrainSessionToken_empty] at htok
    cases htok
  have hfence : settled.lastReleaseFence = some (a.drainFence child token) := by rw [heq]; rfl
  have huid := (run_names settled after).2
  constructor
  · intro hquiet
    have hstands : (run settled after).lastReleaseFence =
        some (a.drainFence child token) :=
      Machine.run_guarded
        (P := fun s : Ledger => s.lastReleaseFence = some (a.drainFence child token))
        (Q := QuietElsewhere a) hfence (fun _ _ hq hp => step_drainFence htoken hq hp)
        hquiet
    have hno := fun l' => not_cleaned_of_drainFence l' htoken hstands
    refine ⟨fun _ _ _ hok => ?_, fun _ _ hok => ?_, fun hok => ?_,
      settleDrained_again hsettle huid habsent fun _ => hstands⟩
    · exact hno _ (settle_ok (Outcome.eq_done hok)).1
    · exact hno _ (releaseUnclaimedAtEpoch_ok (Outcome.eq_done hok)).1
    · exact hno _ (fenceUnboundAcquisition_ok (Outcome.eq_done hok)).1
  · intro hquiet
    have hown := Machine.run_guarded
      (P := fun s : Ledger => a.fenced s.lastReleaseFence = true →
        s.lastReleaseFence = some (a.drainFence child token))
      (Q := QuietHere a child token) (fun _ => hfence)
      (fun _ _ hq hp => step_ownFence hq hp) hquiet
    exact settleDrained_again hsettle huid habsent hown

end

/-! ## One fence for two acquisitions -/

namespace Sample

def acquisition : Acquisition := ⟨"reservation-a", 1, lockID⟩

/-- The acquisition of another device. -/
def otherLockID : String := "fedcba9876543210fedcba9876543210"

def settled : Ledger :=
  (@settleDrainedReservation upstream drained "reservation-a" "ledger" lockID "child-a"
    sessionToken 1 true true true).ledger

end Sample

/-- The other acquisition takes the only fence, and the generic settlement of
the drained one is then accepted, after which the session cannot repeat its
own. -/
theorem generic_settlement_after_other_fence :
    (@settleDrainedReservation Sample.upstream Sample.drained "reservation-a" "ledger"
      Sample.lockID "child-a" Sample.sessionToken 1 true true true).err = none ∧
    (fenceUnboundAcquisition Sample.settled "reservation-b" 1 Sample.otherLockID).err = none ∧
    (@run Sample.upstream Sample.settled
      [.fenceUnbound "reservation-b" 1 Sample.otherLockID]).find "reservation-a" = none ∧
    (settle (@run Sample.upstream Sample.settled
      [.fenceUnbound "reservation-b" 1 Sample.otherLockID]) "reservation-a"
      Sample.lockID "child-a" 1 true true).err = none ∧
    (@settleDrainedReservation Sample.upstream (@run Sample.upstream Sample.settled
      [.fenceUnbound "reservation-b" 1 Sample.otherLockID,
        .settle "reservation-a" Sample.lockID "child-a" 1 true true])
      "reservation-a" "ledger" Sample.lockID "child-a" Sample.sessionToken 1
      true true true).err ≠ none := by
  decide +kernel

/-- A reservation of another device is no clean-up, and the generic settlement is
still refused after it. -/
theorem settlement_protocols_sample :
    (settle (@run Sample.upstream Sample.settled
      [.reserve Sample.policy [Sample.member "b" "r2"] (Sample.request "b" "r2")])
      "reservation-a" Sample.lockID "child-a" 1 true true).err ≠ none := by
  have hok : (@settleDrainedReservation Sample.upstream
      (@run Sample.upstream Sample.drained []) "reservation-a" "ledger" Sample.lockID
      "child-a" Sample.sessionToken 1 true true true).err = none := by decide +kernel
  have h := @settlement_protocols_separate Sample.upstream Sample.drained Sample.settled
    [] [.reserve Sample.policy [Sample.member "b" "r2"] (Sample.request "b" "r2")]
    Sample.acquisition "ledger" "child-a" Sample.sessionToken true true true
    (Outcome.eq_done hok) (by decide +kernel)
  refine (h.1 fun pre op hpre b hb => ?_).1 "child-a" true true
  have hmem : op ∈ [Op.reserve Sample.policy [Sample.member "b" "r2"]
      (Sample.request "b" "r2")] := hpre.subset (by simp)
  rw [List.mem_singleton] at hmem
  rw [hmem] at hb
  cases hb

end VirtualKubelet.Rollout
