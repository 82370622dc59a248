import VirtualKubelet.Rollout.PolicyEpoch
import VirtualKubelet.Rollout.Reserve
import Mathlib.Data.Option.Basic

/-!
# Policy epochs only tighten

Every snapshot a rollout ever publishes has positive ceilings. That is what
makes `minPositive` a minimum: it skips what is not positive, and would
otherwise fall back to a looser value. Positive snapshots come out of the
validation, and the strictest of three positive snapshots is positive again and
at most each of them (`strictestPolicySnapshot_ok`).

A transition is computed in one call and published in a later one, after the
policy may have changed again. What is carried between the two calls is that
the pending policy is at most the administrator snapshot it was computed from
and differs in its semantics from the effective policy; recomputing the
strictest snapshot at publication gives the bounds on everything else, since
the effective policy cannot move while a transition is pending.
-/

namespace VirtualKubelet.Rollout

open Go

/-! ## Comparing snapshots -/

namespace DomainBudget

/-- The same budgets are set, and none is larger. -/
structure AtMost (d e : DomainBudget) : Prop where
  transfers : Option.Rel (· ≤ ·) d.maxConcurrentTransfers e.maxConcurrentTransfers
  unavailable : Option.Rel (· ≤ ·) d.maxUnavailable e.maxUnavailable

structure Positive (d : DomainBudget) : Prop where
  transfers : ∀ n ∈ d.maxConcurrentTransfers, 0 < n
  unavailable : ∀ n ∈ d.maxUnavailable, 0 < n

end DomainBudget

namespace PolicySnapshot

/-- The six numeric ceilings. -/
def ceilings (p : PolicySnapshot) : List Int :=
  [p.maxTargets, p.maxConcurrentTransfers, p.maxUnavailable, p.healthFreshnessSeconds,
    p.maxActiveReservations, p.maxLedgerSizeBytes]

def budgets (p : PolicySnapshot) : Map DomainBudget := policyDomainsByKey p.domains

/-- No ceiling of `p` exceeds that of `q`, and the domains are the same ones,
with the same budgets set and none of them larger. -/
structure AtMost (p q : PolicySnapshot) : Prop where
  ceilings : List.Forall₂ (· ≤ ·) p.ceilings q.ceilings
  domains : p.budgets.Related DomainBudget.AtMost q.budgets

structure WellFormed (p : PolicySnapshot) : Prop where
  ceilings : ∀ n ∈ p.ceilings, 0 < n
  budgets : p.budgets.Every fun _ d => d.Positive
  keys : (p.domains.map (·.topologyKey)).Nodup

end PolicySnapshot

theorem limit_le_refl (a : Option Int) : Option.Rel (· ≤ ·) a a := by
  cases a with
  | none => exact .none
  | some n => exact .some le_rfl

theorem limit_le_trans {a b c : Option Int} (hab : Option.Rel (· ≤ ·) a b)
    (hbc : Option.Rel (· ≤ ·) b c) : Option.Rel (· ≤ ·) a c := by
  cases hab with
  | none => exact hbc
  | some h =>
    cases hbc with
    | some h' => exact .some (le_trans h h')

namespace PolicySnapshot

theorem AtMost.refl (p : PolicySnapshot) : p.AtMost p where
  ceilings := List.forall₂_refl _
  domains := Map.related_refl (fun _ => ⟨limit_le_refl _, limit_le_refl _⟩) _

theorem AtMost.trans {p q r : PolicySnapshot} (hpq : p.AtMost q) (hqr : q.AtMost r) :
    p.AtMost r where
  ceilings := by
    have hp := hpq.ceilings
    have hq := hqr.ceilings
    simp only [PolicySnapshot.ceilings, List.forall₂_cons, List.Forall₂.nil, and_true] at hp hq ⊢
    omega
  domains := Map.related_trans
    (fun h h' => ⟨limit_le_trans h.transfers h'.transfers,
      limit_le_trans h.unavailable h'.unavailable⟩) hpq.domains hqr.domains

end PolicySnapshot

/-! ## The strictest snapshot -/

theorem minPositiveStep_le (hm : 0 < m) (hv : 0 < v) :
    0 < minPositiveStep m v ∧ minPositiveStep m v ≤ m ∧ minPositiveStep m v ≤ v := by
  unfold minPositiveStep
  split_ifs <;> omega

/-- On positive values `minPositive` is a lower bound; it skips the others. -/
theorem minPositive_three (ha : 0 < a) (hb : 0 < b) (hc : 0 < c) :
    0 < minPositive [a, b, c] ∧ minPositive [a, b, c] ≤ a ∧ minPositive [a, b, c] ≤ b ∧
      minPositive [a, b, c] ≤ c := by
  have hfirst : minPositiveStep 0 a = a := by
    unfold minPositiveStep
    rw [if_neg (by omega), if_pos (Or.inl rfl)]
  simp only [minPositive, List.foldl_cons, List.foldl_nil, hfirst]
  obtain ⟨hm, hma, hmb⟩ := minPositiveStep_le ha hb
  obtain ⟨hr, hrm, hrc⟩ := minPositiveStep_le hm hc
  exact ⟨hr, le_trans hrm hma, le_trans hrm hmb, hrc⟩

theorem strictestOptionalLimit_ok (h : strictestOptionalLimit prior approved current = .ok r)
    (hp : ∀ n ∈ prior, 0 < n) (ha : ∀ n ∈ approved, 0 < n) (hc : ∀ n ∈ current, 0 < n) :
    (∀ n ∈ r, 0 < n) ∧ Option.Rel (· ≤ ·) r prior ∧ Option.Rel (· ≤ ·) r approved ∧
      Option.Rel (· ≤ ·) r current := by
  unfold strictestOptionalLimit at h
  split at h
  · cases h
    exact ⟨hp, .none, .none, .none⟩
  · rename_i a b c
    cases h
    obtain ⟨hpos, hla, hlb, hlc⟩ := minPositive_three (hp a rfl) (ha b rfl) (hc c rfl)
    refine ⟨fun n hn => ?_, .some hla, .some hlb, .some hlc⟩
    cases hn
    exact hpos
  · cases h

theorem strictestDomain_ok (h : strictestDomain previous frozen d = .ok d') :
    d'.topologyKey = d.topologyKey ∧
    ∃ prior approved, previous.find d.topologyKey = some prior ∧
      frozen.find d.topologyKey = some approved ∧
      (prior.Positive → approved.Positive → d.Positive →
        d'.Positive ∧ d'.AtMost prior ∧ d'.AtMost approved ∧ d'.AtMost d) := by
  unfold strictestDomain at h
  simp only [] at h
  split at h
  · rename_i prior approved hprior happroved
    split at h
    · cases h
    rename_i transfer ht
    split at h
    · cases h
    rename_i unavailable hu
    cases h
    refine ⟨rfl, prior, approved, hprior, happroved, fun hp ha hd => ?_⟩
    obtain ⟨tpos, tp, ta, tc⟩ :=
      strictestOptionalLimit_ok ht hp.transfers ha.transfers hd.transfers
    obtain ⟨upos, up, ua, uc⟩ :=
      strictestOptionalLimit_ok hu hp.unavailable ha.unavailable hd.unavailable
    exact ⟨⟨tpos, upos⟩, ⟨tp, up⟩, ⟨ta, ua⟩, ⟨tc, uc⟩⟩
  · cases h

section Strictest

variable (h : strictestPolicySnapshot previous frozen current = .ok out)
include h

/-- What a successful call established, before anything is assumed of the
snapshots. -/
theorem strictestPolicySnapshot_cases :
    previous.budgets.len = frozen.budgets.len ∧ current.budgets.len = frozen.budgets.len ∧
    current.domains.mapM (strictestDomain previous.budgets frozen.budgets) =
      .ok out.domains ∧
    out = { current with
      maxTargets := minPositive [previous.maxTargets, frozen.maxTargets, current.maxTargets]
      maxConcurrentTransfers := minPositive [previous.maxConcurrentTransfers,
        frozen.maxConcurrentTransfers, current.maxConcurrentTransfers]
      maxUnavailable := minPositive [previous.maxUnavailable, frozen.maxUnavailable,
        current.maxUnavailable]
      healthFreshnessSeconds := minPositive [previous.healthFreshnessSeconds,
        frozen.healthFreshnessSeconds, current.healthFreshnessSeconds]
      maxActiveReservations := minPositive [previous.maxActiveReservations,
        frozen.maxActiveReservations, current.maxActiveReservations]
      maxLedgerSizeBytes := minPositive [previous.maxLedgerSizeBytes,
        frozen.maxLedgerSizeBytes, current.maxLedgerSizeBytes]
      domains := out.domains } := by
  unfold strictestPolicySnapshot at h
  simp only [] at h
  split at h
  · cases h
  split at h
  · cases h
  rename_i hlen
  rw [not_or, not_not, not_not] at hlen
  split at h
  · cases h
  rename_i domains hmap
  cases h
  exact ⟨hlen.1, hlen.2, hmap, rfl⟩

theorem strictest_ceilings
    (hp : ∀ n ∈ previous.ceilings, 0 < n) (hf : ∀ n ∈ frozen.ceilings, 0 < n)
    (hc : ∀ n ∈ current.ceilings, 0 < n) :
    (∀ n ∈ out.ceilings, 0 < n) ∧ List.Forall₂ (· ≤ ·) out.ceilings previous.ceilings ∧
      List.Forall₂ (· ≤ ·) out.ceilings frozen.ceilings ∧
      List.Forall₂ (· ≤ ·) out.ceilings current.ceilings := by
  obtain ⟨-, -, -, hout⟩ := strictestPolicySnapshot_cases h
  rw [hout]
  simp only [PolicySnapshot.ceilings, List.forall_mem_cons, List.not_mem_nil, false_implies,
    implies_true, and_true, List.forall₂_cons, List.Forall₂.nil] at hp hf hc ⊢
  obtain ⟨p₁, p₂, p₃, p₄, p₅, p₆⟩ := hp
  obtain ⟨f₁, f₂, f₃, f₄, f₅, f₆⟩ := hf
  obtain ⟨c₁, c₂, c₃, c₄, c₅, c₆⟩ := hc
  have m₁ := minPositive_three p₁ f₁ c₁
  have m₂ := minPositive_three p₂ f₂ c₂
  have m₃ := minPositive_three p₃ f₃ c₃
  have m₄ := minPositive_three p₄ f₄ c₄
  have m₅ := minPositive_three p₅ f₅ c₅
  have m₆ := minPositive_three p₆ f₆ c₆
  omega

theorem strictest_domains :
    out.domains.map (·.topologyKey) = current.domains.map (·.topologyKey) ∧
    ∀ k, (out.budgets.find k = none ∧ previous.budgets.find k = none ∧
        frozen.budgets.find k = none ∧ current.budgets.find k = none) ∨
      ∃ d' prior approved d, out.budgets.find k = some d' ∧
        previous.budgets.find k = some prior ∧ frozen.budgets.find k = some approved ∧
        current.budgets.find k = some d ∧
        (prior.Positive → approved.Positive → d.Positive →
          d'.Positive ∧ d'.AtMost prior ∧ d'.AtMost approved ∧ d'.AtMost d) := by
  obtain ⟨hplen, hclen, hmap, -⟩ := strictestPolicySnapshot_cases h
  have hall := mapM_ok hmap
  have hkeyed : List.Forall₂ (fun d d' => d'.topologyKey = d.topologyKey ∧
      strictestDomain previous.budgets frozen.budgets d = .ok d')
      current.domains out.domains :=
    hall.imp fun d d' hd => ⟨(strictestDomain_ok hd).1, hd⟩
  have hrel := Map.indexBy_related hkeyed
  refine ⟨?_, fun k => ?_⟩
  · have hkeys : List.Forall₂ (· = ·) (out.domains.map (·.topologyKey))
        (current.domains.map (·.topologyKey)) := by
      rw [List.forall₂_map_left_iff, List.forall₂_map_right_iff]
      exact (hkeyed.imp fun d d' hd => hd.1).flip
    rwa [List.forall₂_eq_eq_eq] at hkeys
  · cases hk : current.budgets.find k with
    | some d =>
      obtain ⟨d', hd', hstrict⟩ := Map.related_left hrel hk
      obtain ⟨-, prior, approved, hprior, happroved, hlimits⟩ := strictestDomain_ok hstrict
      rw [(Map.indexBy_find hk).2] at hprior happroved
      exact .inr ⟨d', prior, approved, d, hd', hprior, happroved, rfl, hlimits⟩
    | none =>
      -- The other two have as many keys, and all of these.
      have hother : ∀ m : Map DomainBudget, m.len = current.budgets.len →
          (∀ d d', strictestDomain previous.budgets frozen.budgets d = .ok d' →
            ∃ e, m.find d.topologyKey = some e) → m.find k = none := by
        intro m hlen hfound
        refine Map.find_none_of_len hlen (fun k d hd => ?_) hk
        obtain ⟨d', -, hstrict⟩ := Map.related_left hrel hd
        have hm := hfound d d' hstrict
        rwa [(Map.indexBy_find hd).2] at hm
      refine .inl ⟨?_, ?_, ?_, rfl⟩
      · cases hd' : out.budgets.find k with
        | none => rfl
        | some d' =>
          obtain ⟨d, hd, -⟩ := Map.related_right hrel hd'
          have hsome : current.budgets.find k = some d := hd
          rw [hk] at hsome
          cases hsome
      · refine hother _ (by rw [hplen, hclen]) fun d d' hstrict => ?_
        obtain ⟨-, prior, -, hprior, -⟩ := strictestDomain_ok hstrict
        exact ⟨prior, hprior⟩
      · refine hother _ hclen.symm fun d d' hstrict => ?_
        obtain ⟨-, -, approved, -, happroved, -⟩ := strictestDomain_ok hstrict
        exact ⟨approved, happroved⟩

theorem strictestPolicySnapshot_ok (hp : previous.WellFormed)
    (hf : frozen.WellFormed) (hc : current.WellFormed) :
    out.WellFormed ∧ out.AtMost previous ∧ out.AtMost frozen ∧ out.AtMost current := by
  obtain ⟨hpos, cp, cf, cc⟩ := strictest_ceilings h hp.ceilings hf.ceilings hc.ceilings
  obtain ⟨hkeys, hdomains⟩ := strictest_domains h
  have hpb := Map.every_iff.mp hp.budgets
  have hfb := Map.every_iff.mp hf.budgets
  have hcb := Map.every_iff.mp hc.budgets
  refine ⟨⟨hpos, ?_, ?_⟩, ⟨cp, fun k => ?_⟩, ⟨cf, fun k => ?_⟩, ⟨cc, fun k => ?_⟩⟩
  · rw [Map.every_iff]
    intro k d' hd'
    obtain ⟨hnone, -⟩ | ⟨e', prior, approved, d, he', hprior, happroved, hd, hlimits⟩ :=
      hdomains k
    · rw [hnone] at hd'
      cases hd'
    · rw [he'] at hd'
      cases hd'
      exact (hlimits (hpb k _ hprior) (hfb k _ happroved) (hcb k _ hd)).1
  · rw [hkeys]
    exact hc.keys
  all_goals
    obtain ⟨ho, hprior, happroved, hd⟩ | ⟨d', prior, approved, d, ho, hprior, happroved, hd,
      hlimits⟩ := hdomains k
  · rw [ho, hprior]
    exact .none
  · rw [ho, hprior]
    exact .some (hlimits (hpb k _ hprior) (hfb k _ happroved) (hcb k _ hd)).2.1
  · rw [ho, happroved]
    exact .none
  · rw [ho, happroved]
    exact .some (hlimits (hpb k _ hprior) (hfb k _ happroved) (hcb k _ hd)).2.2.1
  · rw [ho, hd]
    exact .none
  · rw [ho, hd]
    exact .some (hlimits (hpb k _ hprior) (hfb k _ happroved) (hcb k _ hd)).2.2.2

theorem strictest_semantics :
    out.semanticHash = current.semanticHash := by
  obtain ⟨-, -, -, hout⟩ := strictestPolicySnapshot_cases h
  rw [hout]

end Strictest

/-! ## Published policies -/

/-- What is true of every policy a rollout publishes; `source` is the
administrator snapshot it was derived from. -/
structure PolicyEpoch.Bounded (plan : EpochPlan) (source : PolicySnapshot)
    (e : PolicyEpoch) : Prop where
  wellFormed : e.policy.WellFormed
  frozen : e.policy.AtMost plan.policy
  derived : e.policy.AtMost source
  semantics : e.policy.semanticHash = source.semanticHash

/-- How a published policy follows the one before it. -/
structure PolicyEpoch.Follows (previous published : PolicyEpoch) : Prop where
  tighter : published.policy.AtMost previous.policy
  epoch : published.epoch =
    if published.policy.semanticHash = previous.policy.semanticHash then previous.epoch
    else previous.epoch + 1

theorem PolicyEpoch.Follows.refl (e : PolicyEpoch) : e.Follows e :=
  ⟨.refl _, by rw [if_pos rfl]⟩

theorem PolicyEpoch.Follows.churn (e : PolicyEpoch) (version : String) :
    e.Follows ⟨e.epoch, { e.policy with resourceVersion := version }⟩ where
  tighter := ⟨List.forall₂_refl _, (PolicySnapshot.AtMost.refl e.policy).domains⟩
  epoch := by rw [if_pos rfl]

/-! ## Frozen policies -/

section

variable [Upstream] [Selectors] {plan : EpochPlan} {call : EpochCall}

omit [Upstream] [Selectors] in
theorem int32_eq (h₁ : 1 ≤ n) (h₂ : n ≤ 262144) : int32 n = n := by
  unfold int32
  omega

theorem domain_value_pos (c : ValidConfig) (h : c.1.domainMaxUnavailable.find key = some value ∨
      c.1.domainMaxConcurrentTransfers.find key = some value) : 0 < int32 value := by
  have hbudgets := c.domainBudgets
  simp only [domainBudgetsError, firstError_cons, firstError_nil, and_true,
    decide_eq_false_iff_not, not_not, Map.every_iff, outside_eq_false] at hbudgets
  obtain ⟨-, -, -, hunavailable, -, htransfers, -⟩ := hbudgets
  have hrange : 1 ≤ value ∧ value ≤ 100 := h.elim (hunavailable key value) (htransfers key value)
  rw [int32_eq hrange.1 (by omega)]
  exact hrange.1

variable [PolicyDigests] {st : EpochStatus} {versions : List ParsedAdminPolicy}

theorem freezePolicy_wellFormed (h : freezePolicy p = .ok s) : s.WellFormed := by
  unfold freezePolicy at h
  simp only [] at h
  split at h
  · cases h
  cases h
  refine ⟨?_, ?_, ?_⟩
  · have hceilings := p.config.ceilings
    simp only [ceilingsError, firstError_cons, firstError_nil, and_true, outside_eq_false,
      defaultMaxCampaignTargets, defaultMaxActiveRecords, defaultMaxSerializedBytes]
      at hceilings
    obtain ⟨hu, ht, hn, ha, hb, hh⟩ := hceilings
    simp only [PolicySnapshot.ceilings, List.forall_mem_cons, List.not_mem_nil,
      false_implies, implies_true, and_true]
    rw [int32_eq hn.1 (by omega), int32_eq ht.1 (by omega), int32_eq hu.1 (by omega),
      int32_eq (by omega) (by omega), int32_eq ha.1 (by omega),
      int32_eq (by omega) (by omega)]
    omega
  · rw [Map.every_iff]
    intro k d hd
    obtain ⟨hmem, -⟩ := Map.indexBy_find hd
    obtain ⟨key, -, rfl⟩ := List.mem_map.mp hmem
    constructor
    · intro n hn
      obtain ⟨value, hvalue, rfl⟩ := Option.map_eq_some_iff.mp hn
      exact domain_value_pos p.config (.inr hvalue)
    · intro n hn
      obtain ⟨value, hvalue, rfl⟩ := Option.map_eq_some_iff.mp hn
      exact domain_value_pos p.config (.inl hvalue)
  · rw [List.map_map]
    show (List.map (fun key => key) _).Nodup
    rw [List.map_id']
    exact Finset.sort_nodup _ _

/-! ## What one call can do -/

/-- Every way the status can come out of a call. -/
inductive EpochMove (plan : EpochPlan) (st : EpochStatus) (call : EpochCall) :
    EpochStatus → Prop
  | keep : EpochMove plan st call st
  | recover : st.effective = none → EpochMove plan st call { st with effective := some ⟨1, plan.policy⟩ }
  | publish {effective transition : PolicyEpoch} {strictest : PolicySnapshot} :
    st.effective = some effective → st.transition = some transition →
    transition.epoch = effective.epoch + 1 →
    strictestPolicySnapshot effective.policy plan.policy transition.policy = .ok strictest →
    EpochMove plan st call ⟨some ⟨transition.epoch, strictest⟩, none⟩
  | churn {effective : PolicyEpoch} {current : PolicySnapshot} :
    st.effective = some effective → st.transition = none →
    freezePolicy call.current = .ok current →
    current.semanticHash = effective.policy.semanticHash →
    EpochMove plan st call ⟨some ⟨effective.epoch,
      { effective.policy with resourceVersion := current.resourceVersion }⟩, none⟩
  | begin {effective : PolicyEpoch} {current next : PolicySnapshot} :
    st.effective = some effective → st.transition = none →
    freezePolicy call.current = .ok current →
    current.semanticHash ≠ effective.policy.semanticHash →
    strictestPolicySnapshot effective.policy plan.policy current = .ok next →
    EpochMove plan st call ⟨some effective, some ⟨effective.epoch + 1, next⟩⟩

theorem patch_move {st' : EpochStatus} {failure : String}
    (h : EpochMove plan st call st') : EpochMove plan st call (call.patch st st' failure).1 := by
  unfold EpochCall.patch
  split
  · exact h
  · exact .keep

theorem publishTransition_move {effective transition : PolicyEpoch} (he : st.effective = some effective) (ht : st.transition = some transition) :
    EpochMove plan st call (publishTransition plan st effective transition call).1 := by
  unfold publishTransition
  split
  · exact .keep
  rename_i hidentity
  split
  · exact .keep
  rename_i strictest hstrict
  simp only []
  split
  · exact .keep
  rename_i hsame
  split
  · exact .keep
  rw [not_not] at hsame
  rw [← hsame]
  exact patch_move (.publish he ht (by omega) hstrict)

theorem followPolicy_move {effective : PolicyEpoch} {current : PolicySnapshot} (he : st.effective = some effective) (ht : st.transition = none)
    (hc : freezePolicy call.current = .ok current) :
    EpochMove plan st call (followPolicy plan st effective current call).1 := by
  unfold followPolicy
  split
  · rename_i hsame
    split
    · exact .keep
    · rw [ht]
      exact patch_move (.churn he ht hc hsame)
  · rename_i hdiffer
    split
    · exact .keep
    rename_i next hnext
    split
    · exact .keep
    · rw [he]
      exact patch_move (.begin he ht hc hdiffer hnext)

theorem reconcilePolicyEpoch_move (plan : EpochPlan) (st : EpochStatus) (call : EpochCall) :
    EpochMove plan st call (reconcilePolicyEpoch plan st call).1 := by
  unfold reconcilePolicyEpoch
  split
  · exact .keep
  rename_i current hc
  split
  · exact .keep
  split
  · rename_i he
    split
    · exact .keep
    · exact patch_move (.recover he)
  rename_i effective he
  split
  · exact .keep
  split
  · next transition ht => exact publishTransition_move he ht
  · next ht => exact followPolicy_move he ht hc

/-! ## Runs -/

/-- A snapshot of one of the administrator policies seen so far. -/
def SnapshotOf (versions : List ParsedAdminPolicy) (s : PolicySnapshot) : Prop :=
  ∃ version ∈ versions, freezePolicy version = .ok s

theorem SnapshotOf.mono (more : List ParsedAdminPolicy) (h : SnapshotOf versions s) :
    SnapshotOf (versions ++ more) s := by
  obtain ⟨version, hmem, hs⟩ := h
  exact ⟨version, List.mem_append_left _ hmem, hs⟩

structure EpochRun.Inv (plan : EpochPlan) (versions : List ParsedAdminPolicy)
    (r : EpochRun) : Prop where
  effective : ∀ e, r.status.effective = some e → e.Bounded plan r.effectiveFrom
  unpublished : r.status.effective = none → r.effectiveFrom = plan.policy
  transition : ∀ t, r.status.transition = some t →
    t.policy.WellFormed ∧ t.policy.AtMost r.pendingFrom ∧
    t.policy.semanticHash = r.pendingFrom.semanticHash ∧
    ∃ e, r.status.effective = some e ∧ t.policy.semanticHash ≠ e.policy.semanticHash
  effectiveKnown : SnapshotOf versions r.effectiveFrom
  pendingKnown : SnapshotOf versions r.pendingFrom

variable {r : EpochRun}

theorem EpochRun.Inv.more (hinv : r.Inv plan versions)
    (more : List ParsedAdminPolicy) :
    r.Inv plan (versions ++ more) where
  effective := hinv.effective
  unpublished := hinv.unpublished
  transition := hinv.transition
  effectiveKnown := hinv.effectiveKnown.mono more
  pendingKnown := hinv.pendingKnown.mono more

/-- One call keeps the invariant, and what it leaves published follows what was
published before. -/
theorem EpochRun.step_inv (call : EpochCall) (hfrozen : plan.policy.WellFormed)
    (hinv : r.Inv plan versions) :
    (r.step plan call).Inv plan (versions ++ [call.current]) ∧
    ∀ previous, r.status.effective = some previous →
      ∀ published, (r.step plan call).status.effective = some published →
        previous.Follows published := by
  have hmove := reconcilePolicyEpoch_move plan r.status call
  unfold EpochRun.step
  dsimp only
  generalize (reconcilePolicyEpoch plan r.status call).1 = st' at hmove ⊢
  have hmore := hinv.more [call.current]
  cases hmove with
  | keep =>
    have hsame : ∀ e, r.status.effective = some e → ∀ e', r.status.effective = some e' →
        e.Follows e' := by
      intro e he e' he'
      rw [he] at he'
      cases he'
      exact .refl e
    cases ht : r.status.transition with
    | none | some t => exact ⟨hmore, hsame⟩
  | recover he =>
    cases ht : r.status.transition with
    | some t =>
      obtain ⟨-, -, -, e, he', -⟩ := hinv.transition t ht
      rw [he] at he'
      cases he'
    | none =>
      have hfrom := hinv.unpublished he
      refine ⟨⟨?_, nofun, nofun, hmore.effectiveKnown,
        hmore.pendingKnown⟩, ?_⟩
      · intro e h
        cases h
        show PolicyEpoch.Bounded plan r.effectiveFrom ⟨1, plan.policy⟩
        rw [hfrom]
        exact ⟨hfrozen, .refl _, .refl _, rfl⟩
      · intro previous hprevious
        rw [he] at hprevious
        cases hprevious
  | @publish effective transition strictest he ht hepoch hstrict =>
    have hb := hinv.effective effective he
    obtain ⟨hwf, hsource, hsem, e, he', hdiffer⟩ := hinv.transition transition ht
    cases he.symm.trans he'
    obtain ⟨hok, hprev, hfroz, hpend⟩ :=
      strictestPolicySnapshot_ok hstrict hb.wellFormed hfrozen hwf
    have hhash := strictest_semantics hstrict
    rw [ht]
    refine ⟨⟨?_, nofun, nofun, hmore.pendingKnown,
      hmore.pendingKnown⟩, ?_⟩
    · intro e h
      cases h
      exact ⟨hok, hfroz, hpend.trans hsource, hhash.trans hsem⟩
    intro previous hprevious published hpublished
    cases he.symm.trans hprevious
    cases hpublished
    refine ⟨hprev, ?_⟩
    rw [if_neg (by rw [hhash]; exact hdiffer)]
    exact hepoch
  | @churn effective current he ht hc hsame =>
    have hb := hinv.effective effective he
    rw [ht]
    have hfollows := PolicyEpoch.Follows.churn effective current.resourceVersion
    refine ⟨⟨?_, nofun, nofun, hmore.effectiveKnown,
      hmore.pendingKnown⟩, ?_⟩
    · intro e h
      cases h
      exact ⟨⟨hb.wellFormed.ceilings, hb.wellFormed.budgets, hb.wellFormed.keys⟩,
        hfollows.tighter.trans hb.frozen, hfollows.tighter.trans hb.derived, hb.semantics⟩
    · intro previous hprevious published hpublished
      cases he.symm.trans hprevious
      cases hpublished
      exact hfollows
  | @begin effective current next he ht hc hdiffer hnext =>
    have hb := hinv.effective effective he
    obtain ⟨hok, -, -, hcur⟩ :=
      strictestPolicySnapshot_ok hnext hb.wellFormed hfrozen (freezePolicy_wellFormed hc)
    have hhash := strictest_semantics hnext
    rw [ht, hc]
    refine ⟨⟨?_, nofun, ?_, hmore.effectiveKnown, ⟨call.current, by simp, hc⟩⟩, ?_⟩
    · intro e h
      cases h
      exact hb
    · intro t h
      cases h
      refine ⟨hok, hcur, hhash, effective, rfl, ?_⟩
      rw [hhash]
      exact hdiffer
    · intro previous hprevious published hpublished
      cases he.symm.trans hprevious
      cases hpublished
      exact .refl _

theorem EpochRun.start_inv (hfrozen : freezePolicy approved = .ok plan.policy) (recorded : Bool) :
    (EpochRun.start plan.policy recorded).Inv plan [approved] := by
  have hknown : SnapshotOf [approved] plan.policy := ⟨approved, by simp, hfrozen⟩
  refine ⟨?_, fun _ => rfl, nofun, hknown, hknown⟩
  intro e he
  cases recorded with
  | false => cases he
  | true =>
    cases he
    exact ⟨freezePolicy_wellFormed hfrozen, .refl _, .refl _, rfl⟩

theorem EpochRun.run_inv (hfrozen : freezePolicy approved = .ok plan.policy) (recorded : Bool)
    (calls : List EpochCall) :
    (EpochRun.run plan (.start plan.policy recorded) calls).Inv plan
      (approved :: calls.map (·.current)) := by
  induction calls using List.reverseRecOn with
  | nil => exact EpochRun.start_inv hfrozen recorded
  | append_singleton calls call ih =>
    have hstep := (EpochRun.step_inv call (freezePolicy_wellFormed hfrozen) ih).1
    rw [EpochRun.run, Machine.run_snoc, List.map_append]
    exact hstep

/-- Whatever the administrator does to the policy after a plan was approved,
every policy the rollout publishes is positive, has the domains and budgets of
the frozen one, and exceeds neither the frozen policy, nor the one published
before it, nor the administrator snapshot it was derived from. The epoch goes
up by one exactly when the semantics change. -/
theorem epochs_only_tighten {approved : ParsedAdminPolicy}
    (hfrozen : freezePolicy approved = .ok plan.policy) (recorded : Bool)
    (calls : List EpochCall) (call : EpochCall) (published : PolicyEpoch)
    (hpublished : ((EpochRun.run plan (.start plan.policy recorded) calls).step plan
      call).status.effective = some published) :
    let before := EpochRun.run plan (.start plan.policy recorded) calls
    let source := (before.step plan call).effectiveFrom
    published.Bounded plan source ∧
    (∃ version ∈ approved :: (calls ++ [call]).map (·.current), freezePolicy version = .ok source) ∧
    ∀ previous, before.status.effective = some previous →
      previous.Follows published := by
  intro before source
  have hinv := EpochRun.run_inv hfrozen recorded calls
  obtain ⟨hafter, hfollows⟩ :=
    EpochRun.step_inv call (freezePolicy_wellFormed hfrozen) hinv
  refine ⟨hafter.effective published hpublished, ?_, ?_⟩
  · have hknown := hafter.effectiveKnown
    rw [List.map_append]
    exact hknown
  · intro previous hprevious
    exact hfollows previous hprevious published hpublished

end

namespace Sample

abbrev selectors : Selectors := ⟨fun _ => none⟩

/-- Stand-ins for the digests: all that changes in the samples is one ceiling. -/
abbrev digests : PolicyDigests where
  semantic cfg := toString cfg.globalMaxUnavailable
  structural cfg := cfg.ledgerName

attribute [local instance] upstream selectors digests

def rackKey : String := "topology.cisco.vk/rack"

def adminConfig (maxUnavailable : Int) : AdminPolicyConfig where
  appHostingServiceAccountName := "apps"
  networkManagementServiceAccountName := "network"
  configLeaseNamespace := ""
  version := policyVersion
  fleetSelector := ⟨Map.set ∅ "topology.cisco.vk/fleet" "branch", []⟩
  requiredTopologyKeys := [rackKey]
  projectedTopologyKeys := []
  globalMaxConcurrentTransfers := 2
  globalMaxUnavailable := maxUnavailable
  domainMaxConcurrentTransfers := Map.set ∅ rackKey 1
  domainMaxUnavailable := Map.set ∅ rackKey maxUnavailable
  healthFreshnessSeconds := 60
  maxCampaignTargets := 0
  maxActiveReservations := 0
  maxLedgerBytes := 0
  workloadDrain := none
  disruptionProtections := []
  riskGroups := []
  ledgerName := "ledger"

def adminPolicy (maxUnavailable : Int) (resourceVersion : String)
    (h : configError (adminConfig maxUnavailable).withDefaults = none) : ParsedAdminPolicy where
  config := ⟨_, adminConfig maxUnavailable, validateAdminPolicyConfig_ok.mpr ⟨h, rfl⟩⟩
  policyNamespace := "upgrades"
  policyName := "policy"
  ledgerUID := "ledger"
  policyUID := "policy"
  resourceVersion := resourceVersion

def widePolicy : ParsedAdminPolicy := adminPolicy 2 "7" (by decide +kernel)

def narrowPolicy : ParsedAdminPolicy := adminPolicy 1 "8" (by decide +kernel)

def epochPlan : EpochPlan where
  policy := {
    policyName := "policy", policyNamespace := "upgrades", uid := "policy"
    resourceVersion := "7", semanticHash := "2", structuralHash := "ledger"
    maxTargets := 100, maxConcurrentTransfers := 2, maxUnavailable := 2
    domains := [⟨rackKey, some 1, some 2⟩]
    healthFreshnessSeconds := 60
    ledgerNamespace := "upgrades", ledgerName := "ledger", ledgerUID := "ledger"
    maxActiveReservations := 256, maxLedgerSizeBytes := 262144 }
  targetCount := 3
  maxTargets := 0

/-- The administrator narrows the policy and widens it again before the call
that publishes the change. -/
def epochRun : EpochRun :=
  EpochRun.run epochPlan (.start epochPlan.policy true) [⟨narrowPolicy, true, true⟩]

theorem epochs_only_tighten_sample :
    ∃ published, (epochRun.step epochPlan ⟨widePolicy, true, true⟩).status.effective =
        some published ∧
      published.epoch = 2 ∧ published.policy.AtMost epochPlan.policy ∧
      PolicyEpoch.Follows ⟨1, epochPlan.policy⟩ published := by
  have hfrozen : freezePolicy widePolicy = .ok epochPlan.policy := by decide +kernel
  have hbefore : epochRun.status.effective = some ⟨1, epochPlan.policy⟩ := by decide +kernel
  have hepoch : (epochRun.step epochPlan ⟨widePolicy, true, true⟩).status.effective.map
      (·.epoch) = some 2 := by decide +kernel
  obtain ⟨published, hpublished, htwo⟩ := Option.map_eq_some_iff.mp hepoch
  obtain ⟨hbounded, -, hfollows⟩ :=
    epochs_only_tighten hfrozen true [⟨narrowPolicy, true, true⟩] ⟨widePolicy, true, true⟩
      published hpublished
  exact ⟨published, hpublished, htwo, hbounded.frozen, hfollows _ hbefore⟩

end Sample

end VirtualKubelet.Rollout
