import VirtualKubelet.Proofs.LedgerFrame
import VirtualKubelet.Proofs.Persisted
import VirtualKubelet.Proofs.ReserveChecks

/-!
# No run exceeds the administrator's budget

A budget has many dimensions, the fleet, every value of a domain key, every
risk group, but one shape: how many reservations satisfy a test of their
identity. A transition that overwrites a record keeps its identity, so it moves
no such count; a clean-up can only lower one; and `Reserve` raises it by one
after checking it against both ceilings of the dimension.

The transfer ceiling is checked against the count itself. The unavailable
ceiling is checked against a set of physical devices, which is as large as the
count because no two records share a device.
-/

namespace VirtualKubelet.Rollout

open Go

/-- The two ceilings of one dimension. -/
structure Ceilings where
  transfers : Nat
  unavailable : Nat

structure Budget where
  global : Ceilings
  domains : Map Ceilings
  riskGroups : Map Ceilings

/-- A policy sets every ceiling of the budget, at most as high. -/
structure Policy.Within (policy : Policy) (B : Budget) : Prop where
  transfers : policy.globalMaxConcurrentTransfers ≤ B.global.transfers
  unavailable : policy.globalMaxUnavailable ≤ B.global.unavailable
  domains : ∀ key c, B.domains.find key = some c →
    (∃ t, policy.domainTransferBudgets.find key = some t ∧ t ≤ c.transfers) ∧
      ∃ u, policy.domainBudgets.find key = some u ∧ u ≤ c.unavailable
  riskGroups : ∀ group c, B.riskGroups.find group = some c →
    ∃ b, policy.riskGroupBudgets.find group = some b ∧
      b.maxConcurrentTransfers ≤ c.transfers ∧ b.maxUnavailable ≤ c.unavailable

/-! ## One dimension -/

/-- The records with a given test, all of them on different devices, are no more
than the devices a budget with a wider test counts as unavailable, the new one
included. -/
theorem count_lt_unavailable (p : Reservation → Prop) [DecidablePred p]
    (memberIn : Member → Bool) (reservationIn : Reservation → Bool)
    (members : Map Member) (policy : Policy) {l : Ledger} {id : String}
    (hin : ∀ r, p r → reservationIn r = true)
    (hdistinct : l.reservations.Distinct (fun _ => True) (·.physicalID))
    (hfree : l.reservations.Every fun _ r => r.physicalID ≠ id) :
    l.reservations.count p + 1 ≤
      (insert id (unavailableWhere memberIn reservationIn members l policy)).card := by
  have hp : l.reservations.Distinct p (·.physicalID) := by
    rw [Map.distinct_iff] at hdistinct ⊢
    intro k v k' v' hk hk' _ hf
    exact hdistinct k v k' v' hk hk' trivial hf
  have hnew : id ∉ l.reservations.collect p (·.physicalID) := by
    rw [Map.mem_collect]
    rintro ⟨k, r, hk, _, hid⟩
    exact Map.every_iff.mp hfree k r hk hid
  rw [← Map.card_collect hp, ← Finset.card_insert_of_notMem hnew]
  refine Finset.card_le_card (Finset.insert_subset_insert _ fun x hx => ?_)
  obtain ⟨k, r, hk, hpr, hx⟩ := Map.mem_collect.mp hx
  rw [unavailableWhere, Finset.mem_union]
  exact .inr (Map.mem_collect.mpr ⟨k, r, hk, hin r hpr, hx⟩)

/-- The test reads nothing a transition may write. -/
def OfIdentity (p : Reservation → Prop) : Prop :=
  ∀ r r', SameIdentity r r' → (p r' ↔ p r)

def onValue (key value : String) (r : Reservation) : Prop :=
  r.domains.get "" key = value

def inGroup (group : String) (r : Reservation) : Prop :=
  containsSorted r.riskGroups group = true

instance {key value : String} : DecidablePred (onValue key value) :=
  fun r => inferInstanceAs (Decidable (r.domains.get "" key = value))

instance {group : String} : DecidablePred (inGroup group) :=
  fun r => inferInstanceAs (Decidable (containsSorted r.riskGroups group = true))

theorem onValue_ofIdentity : OfIdentity (onValue key value) := by
  intro r r' h
  simp only [onValue, h.domains]

theorem inGroup_ofIdentity : OfIdentity (inGroup group) := by
  intro r r' h
  simp only [inGroup, h.riskGroups]

section

variable [Upstream] {l : Ledger}

/-- The one way a count goes up. -/
theorem effect_count [DecidablePred p] (hp : OfIdentity p) (h : Effect l op l') :
    l'.reservations.count p ≤ l.reservations.count p ∨
      ∃ policy members request, op = .reserve policy members request ∧
        Admits l policy members request ∧ p (newReservation request) ∧
        l'.reservations.count p = l.reservations.count p + 1 := by
  cases h with
  | unchanged h => rw [h]; exact .inl (le_refl _)
  | added policy members request hop hadmits h =>
    have hcount : l'.reservations.count p = l.reservations.count p +
        if p (newReservation request) then 1 else 0 := by
      rw [h]
      exact Map.count_set_new p _ hadmits.absent
    by_cases hpn : p (newReservation request)
    · rw [if_pos hpn] at hcount
      exact .inr ⟨policy, members, request, hop, hadmits, hpn, hcount⟩
    · rw [if_neg hpn] at hcount
      exact .inl (by omega)
  | updated r r' hr h hsame _ =>
    rw [h]
    exact .inl (le_of_eq (Map.count_set_same p hr (hp r r' hsame)))
  | released fence h =>
    rw [h]
    exact .inl (Map.count_delete_le p _ _)

/-- A dimension stays within a ceiling that every admission in it respects. -/
theorem step_count_le [DecidablePred p] (hp : OfIdentity p) (hle : l.reservations.count p ≤ n)
    (hadded : ∀ policy members request, op = .reserve policy members request →
      Admits l policy members request → p (newReservation request) →
      l.reservations.count p + 1 ≤ n) : (step l op).reservations.count p ≤ n := by
  rcases step_cases l op with hsame | heff
  · rw [hsame]; exact hle
  · rcases effect_count hp heff with hdown | ⟨policy, members, request, hop, ha, hpn, hup⟩
    · exact le_trans hdown hle
    · rw [hup]
      exact hadded policy members request hop ha hpn

/-! ## Admission in each dimension -/

section Admission

variable {policy : Policy} {members : List Member} (ha : Admits l policy members request)
  (hB : policy.Within B) (hd : l.reservations.Distinct (fun _ => True) (·.physicalID))

include ha hB hd

theorem admits_total :
    l.reservations.len + 1 ≤ B.global.transfers ∧
      l.reservations.len + 1 ≤ B.global.unavailable := by
  obtain ⟨canonical, _, hchecks⟩ := ha.checks
  obtain ⟨⟨target, _, hready⟩, hglobal, _, _⟩ := admissionError_none.mp hchecks
  obtain ⟨_, hunavail, _, htransfers, _⟩ := globalError_none.mp hglobal
  have hcount := count_lt_unavailable (fun _ => True)
    (fun m => inDomain "" "" m.domains) (fun r => inDomain "" "" r.domains) canonical
    policy (fun _ _ => rfl) hd hready.free
  rw [← Map.len_eq_count] at hcount
  rw [unavailablePhysicalIDs] at hunavail
  have htle := hB.transfers
  have hule := hB.unavailable
  omega

theorem admits_domain (hc : B.domains.find key = some c)
    (hv : onValue key value (newReservation request)) :
    l.reservations.count (onValue key value) + 1 ≤ c.transfers ∧
      l.reservations.count (onValue key value) + 1 ≤ c.unavailable := by
  obtain ⟨canonical, _, hchecks⟩ := ha.checks
  obtain ⟨⟨target, _, hready⟩, _, hroom, _⟩ := admissionError_none.mp hchecks
  obtain ⟨⟨t, ht, htle⟩, u, hu, hule⟩ := hB.domains key c hc
  have htransfers := (hroom key).transfers t ht
  have hunavail := (hroom key).unavailable u hu
  have hvalue : request.domains.get "" key = value := hv
  rw [hvalue] at htransfers hunavail
  have hin : ∀ r : Reservation, onValue key value r →
      inDomain key value r.domains = true := by
    intro r hr
    simp only [onValue] at hr
    simp [inDomain, hr]
  have hcount := count_lt_unavailable (onValue key value)
    (fun m => inDomain key value m.domains) (fun r => inDomain key value r.domains)
    canonical policy hin hd hready.free
  rw [unavailablePhysicalIDs] at hunavail
  change ((l.reservations.count (onValue key value) + 1 : Nat) : Int) ≤ t at htransfers
  omega

theorem admits_group (hc : B.riskGroups.find group = some c)
    (hg : inGroup group (newReservation request)) :
    l.reservations.count (inGroup group) + 1 ≤ c.transfers ∧
      l.reservations.count (inGroup group) + 1 ≤ c.unavailable := by
  obtain ⟨canonical, _, hchecks⟩ := ha.checks
  obtain ⟨⟨target, _, hready⟩, _, _, hroom⟩ := admissionError_none.mp hchecks
  -- The bisection finds the group, so the request lists it and was checked on it.
  have hmem : group ∈ request.riskGroups := mem_of_containsSorted hg
  obtain ⟨budget, hbudget, hunavail, htransfers⟩ := hroom group hmem
  obtain ⟨b, hb, htle, hule⟩ := hB.riskGroups group c hc
  rw [hbudget] at hb
  cases hb
  have hcount := count_lt_unavailable (inGroup group)
    (fun m => containsSorted m.riskGroups group)
    (fun r => containsSorted r.riskGroups group) canonical policy (fun _ hr => hr) hd
    hready.free
  rw [unavailablePhysicalIDsInRiskGroup] at hunavail
  change ((l.reservations.count (inGroup group) + 1 : Nat) : Int) ≤ _ at htransfers
  omega

end Admission

/-! ## Runs -/

/-- The ledger keeps within the budget, in the terms the checks count in. -/
structure InBudget (B : Budget) (l : Ledger) : Prop where
  distinct : l.reservations.Distinct (fun _ => True) (·.physicalID)
  sorted : l.reservations.Every fun _ r => r.riskGroups.Pairwise (· < ·)
  total : l.reservations.len ≤ B.global.transfers ∧
    l.reservations.len ≤ B.global.unavailable
  domains : ∀ key c, B.domains.find key = some c → ∀ value,
    l.reservations.count (onValue key value) ≤ c.transfers ∧
      l.reservations.count (onValue key value) ≤ c.unavailable
  riskGroups : ∀ group c, B.riskGroups.find group = some c →
    l.reservations.count (inGroup group) ≤ c.transfers ∧
      l.reservations.count (inGroup group) ≤ c.unavailable

theorem step_distinct (hd : l.reservations.Distinct (fun _ => True) (·.physicalID)) :
    (step l op).reservations.Distinct (fun _ => True) (·.physicalID) := by
  rcases step_cases l op with hsame | heff
  · rw [hsame]; exact hd
  cases heff with
  | unchanged h => rw [h]; exact hd
  | added policy members request _ hadmits h =>
    rw [h]
    exact (validatePersistedLedger_none.mp hadmits.valid).physicalIDs
  | updated r r' hr h hsame _ =>
    rw [h]
    refine Map.distinct_set hd fun k v hk hv hf => ?_
    rw [hsame.physicalID] at hf
    exact absurd (Map.distinct_iff.mp hd k v _ r hv hr trivial hf) hk
  | released fence h =>
    rw [h]
    exact Map.distinct_of_sub (Map.sub_delete _ _) hd

theorem step_sorted
    (hs : l.reservations.Every fun _ r => r.riskGroups.Pairwise (· < ·)) :
    (step l op).reservations.Every fun _ r => r.riskGroups.Pairwise (· < ·) := by
  rcases step_cases l op with hsame | heff
  · rw [hsame]; exact hs
  cases heff with
  | unchanged h => rw [h]; exact hs
  | added policy members request _ hadmits h =>
    rw [h]
    have hvalid := (validatePersistedLedger_none.mp hadmits.valid).records
    rw [Map.every_iff] at hvalid ⊢
    intro k r hr
    exact (validateRiskGroupNames_none.mp (hvalid k r hr).riskGroups).2.2
  | updated r r' hr h hsame _ =>
    rw [h]
    rw [Map.every_iff] at hs ⊢
    intro k v hk
    rcases Map.find_set_iff.mp hk with ⟨_, rfl⟩ | ⟨_, hv⟩
    · rw [hsame.riskGroups]; exact hs _ r hr
    · exact hs k v hv
  | released fence h =>
    rw [h]
    rw [Map.every_iff] at hs ⊢
    intro k v hk
    exact hs k v (Map.sub_delete _ _ k v hk)

theorem step_inBudget (h : InBudget B l)
    (hop : ∀ policy members request, op = .reserve policy members request →
      policy.Within B) : InBudget B (step l op) := by
  have hall : OfIdentity fun _ => True := fun _ _ _ => Iff.rfl
  refine ⟨step_distinct h.distinct, step_sorted h.sorted, ?_, fun key c hc value => ?_,
    fun group c hc => ?_⟩
  · have htotal := h.total
    rw [Map.len_eq_count] at htotal ⊢
    constructor
    · refine step_count_le hall htotal.1 fun policy members request he ha _ => ?_
      rw [← Map.len_eq_count]
      exact (admits_total ha (hop _ _ _ he) h.distinct).1
    · refine step_count_le hall htotal.2 fun policy members request he ha _ => ?_
      rw [← Map.len_eq_count]
      exact (admits_total ha (hop _ _ _ he) h.distinct).2
  · have hdomain := h.domains key c hc value
    constructor
    · exact step_count_le onValue_ofIdentity hdomain.1 fun _ _ _ he ha hv =>
        (admits_domain ha (hop _ _ _ he) h.distinct hc hv).1
    · exact step_count_le onValue_ofIdentity hdomain.2 fun _ _ _ he ha hv =>
        (admits_domain ha (hop _ _ _ he) h.distinct hc hv).2
  · have hgroup := h.riskGroups group c hc
    constructor
    · exact step_count_le inGroup_ofIdentity hgroup.1 fun _ _ _ he ha hg =>
        (admits_group ha (hop _ _ _ he) h.distinct hc hg).1
    · exact step_count_le inGroup_ofIdentity hgroup.2 fun _ _ _ he ha hg =>
        (admits_group ha (hop _ _ _ he) h.distinct hc hg).2

omit [Upstream] in
theorem inBudget_empty (h : l.reservations = ∅) : InBudget B l := by
  have hnone : ∀ k r, l.reservations.find k ≠ some r := by
    intro k r
    rw [h, Map.find_empty]
    simp
  have hcount : ∀ (p : Reservation → Prop) [DecidablePred p],
      l.reservations.count p = 0 := by
    intro p _
    rw [h, Map.count_empty]
  refine ⟨Map.distinct_iff.mpr fun k v _ _ hk => absurd hk (hnone k v),
    Map.every_iff.mpr fun k v hk => absurd hk (hnone k v), ?_, fun key c _ value => ?_,
    fun group c _ => ?_⟩
  · rw [Map.len_eq_count, hcount]; simp
  · rw [hcount]; simp
  · rw [hcount]; simp

/-- Budget safety over whole runs: whatever transitions are tried on an empty
ledger, with whatever outcome, as long as every `Reserve` is decided under a
policy within the budget the ledger stays within it in every dimension. -/
theorem budget_never_exceeded (B : Budget) (l : Ledger) (ops : List Op)
    (hempty : l.reservations = ∅)
    (hpolicy : ∀ policy members request, Op.reserve policy members request ∈ ops →
      policy.Within B) :
    ((run l ops).reservations.len ≤ B.global.transfers ∧
      (run l ops).reservations.len ≤ B.global.unavailable) ∧
    (∀ key c, B.domains.find key = some c → ∀ value,
      (run l ops).reservations.count (fun r => r.domains.find key = some value) ≤
        c.transfers ∧
      (run l ops).reservations.count (fun r => r.domains.find key = some value) ≤ c.unavailable) ∧
    (∀ group c, B.riskGroups.find group = some c →
      (run l ops).reservations.count (fun r => group ∈ r.riskGroups) ≤ c.transfers ∧
      (run l ops).reservations.count (fun r => group ∈ r.riskGroups) ≤
        c.unavailable) := by
  have hrun : InBudget B (run l ops) := by
    refine Machine.run_invariant (P := InBudget B)
      (Q := fun op => ∀ policy members request,
        op = .reserve policy members request → policy.Within B)
      (inBudget_empty hempty) (fun s op hop hs => step_inBudget hs hop) ?_
    intro op hmem policy members request he
    exact hpolicy policy members request (he ▸ hmem)
  refine ⟨hrun.total, fun key c hc value => ?_, fun group c hc => ?_⟩
  · -- A record carrying the value is one the checks count under it.
    have hle : (run l ops).reservations.count (fun r => r.domains.find key = some value) ≤
        (run l ops).reservations.count (onValue key value) := by
      refine Map.count_mono _ (Map.every_iff.mpr fun k r _ hr => ?_)
      simp only [onValue, Map.get, hr, Option.getD_some]
    exact ⟨le_trans hle (hrun.domains key c hc value).1,
      le_trans hle (hrun.domains key c hc value).2⟩
  · have hle : (run l ops).reservations.count (fun r => group ∈ r.riskGroups) ≤
        (run l ops).reservations.count (inGroup group) := by
      refine Map.count_mono _ (Map.every_iff.mpr fun k r hk hr => ?_)
      exact (containsSorted_iff (Map.every_iff.mp hrun.sorted k r hk)).mpr hr
    exact ⟨le_trans hle (hrun.riskGroups group c hc).1, le_trans hle (hrun.riskGroups group c hc).2⟩

end

/-! ## Two devices of one rack -/

def rackBudget : Budget :=
  ⟨⟨2, 2⟩, Map.set ∅ "rack" ⟨1, 1⟩, Map.set ∅ "power" ⟨1, 1⟩⟩

/-- The second device waits for the first. -/
def rackOps : List Op :=
  let fleet := [Sample.member "a" "r1", Sample.member "b" "r1"]
  [.reserve Sample.policy fleet (Sample.request "a" "r1"),
    .reserve Sample.policy fleet (Sample.request "b" "r1"), .bindChild "reservation-a" "child-a"]

theorem policy_within_rackBudget : Sample.policy.Within rackBudget := by
  refine ⟨by decide, by decide, fun key c hc => ?_, fun group c hc => ?_⟩
  · rcases Map.find_set_iff.mp hc with ⟨rfl, rfl⟩ | ⟨_, hnone⟩
    · exact ⟨⟨1, by decide, by decide⟩, 1, by decide, by decide⟩
    · cases hnone
  · rcases Map.find_set_iff.mp hc with ⟨rfl, rfl⟩ | ⟨_, hnone⟩
    · exact ⟨⟨1, 1⟩, by decide, by decide, by decide⟩
    · cases hnone

theorem rackOps_in_budget :
    (@run Sample.upstream Sample.ledger rackOps).find "reservation-a" ≠ none ∧
      (@run Sample.upstream Sample.ledger rackOps).reservations.count
        (fun r => r.domains.find "rack" = some "r1") ≤ 1 := by
  refine ⟨by decide +kernel, ?_⟩
  have h := @budget_never_exceeded Sample.upstream rackBudget Sample.ledger rackOps rfl
    (fun policy members request hmem => by
      have hp : policy = Sample.policy := by
        simp only [rackOps, List.mem_cons, Op.reserve.injEq, reduceCtorEq,
          List.not_mem_nil, or_false] at hmem
        rcases hmem with h | h
        · exact h.1
        · exact h.1
      rw [hp]
      exact policy_within_rackBudget)
  exact (h.2.1 "rack" ⟨1, 1⟩ Map.find_set_self "r1").1

end VirtualKubelet.Rollout
