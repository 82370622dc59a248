import Mathlib.Algebra.Order.BigOperators.Group.Multiset
import VirtualKubelet.Proofs.Budget
import VirtualKubelet.Rollout.Pacing

/-!
# The byte rates of a risk group add up to its ceiling

The rate of a device is at most the share of every group it belongs to, the
ceiling divided by the number of transfers the group admits. `Reserve` admits
no more than that number, and counts by the groups a reservation lists. So it
comes down to the listing: a reservation lists the group if and only if the
labels it was made for are in it.
-/

namespace VirtualKubelet.Rollout

open Go
open List hiding le_of_lt le_refl next set

section

variable [Upstream] [Selectors] {p : ParsedAdminPolicy} {labels : Map String}
  {group : AdminRiskGroup} {groups : List AdminRiskGroup}

/-! ## What the validation says about the groups -/

omit [Selectors] in
theorem namedRulesError_none {α : Type} {name : α → String} {check : α → Option String}
    {rules : List α} (h : namedRulesError field name check i seen rules = none) :
    (rules.map name).Nodup ∧ (∀ rule ∈ rules, name rule ∉ seen) ∧
      ∀ rule ∈ rules, check rule = none := by
  induction rules generalizing i seen with
  | nil => simp
  | cons rule rest ih =>
    rw [namedRulesError, Option.or_eq_none_iff, Option.or_eq_none_iff] at h
    obtain ⟨hname, hcheck, hrest⟩ := h
    obtain ⟨hnodup, hseen, hchecks⟩ := ih hrest
    have hnew : name rule ∉ seen := by
      rw [firstError_cons, firstError_cons] at hname
      exact of_decide_eq_false hname.2.1
    refine ⟨?_, ?_, ?_⟩
    · rw [map_cons, nodup_cons]
      refine ⟨fun hmem => ?_, hnodup⟩
      obtain ⟨other, hother, heq⟩ := mem_map.mp hmem
      exact hseen other hother (heq ▸ mem_cons_self)
    · exact forall_mem_cons.mpr ⟨hnew,
        fun r hr hmem => hseen r hr (mem_cons_of_mem _ hmem)⟩
    · exact forall_mem_cons.mpr ⟨hcheck, hchecks⟩

theorem ValidConfig.riskGroups (c : ValidConfig) : validateRiskGroups c.1 = none := by
  have h := c.noError
  simp only [configError, Option.or_eq_none_iff] at h
  exact h.2.2.2.2.2.1

/-- A group that passed its checks. -/
structure AdminRiskGroup.Valid (group : AdminRiskGroup) : Prop where
  transfers : 1 ≤ group.maxConcurrentTransfers
  ceiling : 0 ≤ group.maxAggregateTransferBytesPerSecond
  slots : 0 < group.maxAggregateTransferBytesPerSecond →
    group.maxConcurrentTransfers ≤ group.maxAggregateTransferBytesPerSecond
  selector : Selectors.asSelectorError group.selector = none

omit [Upstream] in
theorem valid_of_checks (hlimits : riskGroupLimitsError what group = none)
    (hselector : ruleSelectorError what required group.selector = none) : group.Valid := by
  simp only [riskGroupLimitsError, firstError_cons, firstError_nil, outside, Bool.or_eq_false_iff,
    Bool.and_eq_false_iff, decide_eq_false_iff_not] at hlimits
  obtain ⟨htransfers, -, hceiling, hslots, -⟩ := hlimits
  rw [ruleSelectorError, Option.or_eq_none_iff, Option.or_eq_none_iff, Option.map_eq_none_iff]
    at hselector
  exact ⟨by omega, by omega, by omega, hselector.2.2⟩

theorem ValidConfig.groups_valid (c : ValidConfig) :
    (c.1.riskGroups.map AdminRiskGroup.name).Nodup ∧ ∀ group ∈ c.1.riskGroups, group.Valid := by
  have h := c.riskGroups
  rw [validateRiskGroups, Option.or_eq_none_iff] at h
  obtain ⟨hnodup, -, hchecks⟩ := namedRulesError_none h.2
  refine ⟨hnodup, fun group hgroup => ?_⟩
  have hcheck := hchecks group hgroup
  rw [Option.or_eq_none_iff] at hcheck
  exact valid_of_checks hcheck.1 hcheck.2

/-! ## Shares -/

omit [Upstream] in
theorem AdminRiskGroup.Valid.share_pos (h : group.Valid)
    (hceiling : 0 < group.maxAggregateTransferBytesPerSecond) : 0 < group.share := by
  have htransfers := h.transfers
  have hslots := h.slots hceiling
  rw [AdminRiskGroup.share, Int.tdiv_eq_ediv_of_nonneg h.ceiling]
  exact Int.le_ediv_of_mul_le htransfers (by omega)

omit [Upstream] in
theorem AdminRiskGroup.Valid.mul_share_le (h : group.Valid) :
    group.maxConcurrentTransfers * group.share ≤ group.maxAggregateTransferBytesPerSecond := by
  rw [AdminRiskGroup.share, Int.tdiv_eq_ediv_of_nonneg h.ceiling]
  exact Int.mul_ediv_self_le (by have := h.transfers; omega)

/-- The group limits the rate of devices with these labels. -/
def AdminRiskGroup.Limits (group : AdminRiskGroup) (labels : Map String) : Prop :=
  0 < group.maxAggregateTransferBytesPerSecond ∧ group.selector.matches labels = true

omit [Upstream] in
/-- The loop ends with a rate that is within every limit, and it is zero only if
there is none. -/
theorem smallestShare_spec (hgroups : ∀ group ∈ groups, group.Valid) {effective : Int}
    (heffective : 0 ≤ effective) : ∃ rate, smallestShare labels groups effective = .ok rate ∧
      0 ≤ rate ∧ (0 < effective → 0 < rate ∧ rate ≤ effective) ∧
      ∀ group ∈ groups, group.Limits labels → 0 < rate ∧ rate ≤ group.share := by
  induction groups generalizing effective with
  | nil => exact ⟨effective, rfl, heffective, fun h => ⟨h, le_refl _⟩, nofun⟩
  | cons group rest ih =>
    have hvalid := hgroups group mem_cons_self
    have hrest : ∀ group ∈ rest, group.Valid := fun g hg => hgroups g (mem_cons_of_mem _ hg)
    -- A group that does not limit these labels is passed over.
    have hskip : ¬ group.Limits labels →
        smallestShare labels (group :: rest) effective = smallestShare labels rest effective := by
      intro hnot
      rw [smallestShare, hvalid.selector]
      split
      · rfl
      rename_i hceiling
      have hmatch : group.selector.matches labels = false := by
        by_contra hne
        have hnonneg := hvalid.ceiling
        exact hnot ⟨by omega, by simpa using hne⟩
      simp [hmatch]
    by_cases hlimits : group.Limits labels
    · have hceiling : group.maxAggregateTransferBytesPerSecond ≠ 0 := by
        have := hlimits.1
        omega
      have hpos := hvalid.share_pos hlimits.1
      rw [smallestShare, hvalid.selector, if_neg hceiling]
      simp only [hlimits.2, Bool.not_true, Bool.false_eq_true, if_false]
      split
      · rename_i hless
        obtain ⟨rate, hrate, hnonneg, hle, hall⟩ := ih hrest (le_of_lt hpos)
        obtain ⟨hrpos, hrle⟩ := hle hpos
        refine ⟨rate, hrate, hnonneg, fun heff => ⟨hrpos, by omega⟩, fun g hg hgl => ?_⟩
        rcases mem_cons.mp hg with rfl | hg
        · exact ⟨hrpos, hrle⟩
        · exact hall g hg hgl
      · rename_i hmore
        obtain ⟨rate, hrate, hnonneg, hle, hall⟩ := ih hrest heffective
        have heff : 0 < effective := by omega
        obtain ⟨hrpos, hrle⟩ := hle heff
        refine ⟨rate, hrate, hnonneg, fun _ => ⟨hrpos, hrle⟩, fun g hg hgl => ?_⟩
        rcases mem_cons.mp hg with rfl | hg
        · exact ⟨hrpos, by omega⟩
        · exact hall g hg hgl
    · rw [hskip hlimits]
      obtain ⟨rate, hrate, hnonneg, hle, hall⟩ := ih hrest heffective
      refine ⟨rate, hrate, hnonneg, hle, fun g hg hgl => ?_⟩
      rcases mem_cons.mp hg with rfl | hg
      · exact absurd hgl hlimits
      · exact hall g hg hgl

theorem maxTransfer_spec (p : ParsedAdminPolicy) (labels : Map String) :
    ∃ rate, p.maxTransferBytesPerSecond labels = .ok rate ∧
      ∀ group ∈ p.config.1.riskGroups, group.Limits labels → 0 < rate ∧ rate ≤ group.share := by
  obtain ⟨rate, hrate, -, -, hall⟩ :=
    @smallestShare_spec _ labels _ p.config.groups_valid.2 0 (le_refl 0)
  refine ⟨rate, ?_, hall⟩
  rw [ParsedAdminPolicy.maxTransferBytesPerSecond, p.config.riskGroups]
  exact hrate

/-! ## Membership -/

omit [Upstream] in
theorem matchingGroups_ok (h : matchingGroups labels groups found = .ok names) :
    names = found ++ (groups.filter (·.selector.matches labels)).map AdminRiskGroup.name := by
  induction groups generalizing found with
  | nil =>
    cases h
    simp
  | cons group rest ih =>
    rw [matchingGroups] at h
    split at h
    · cases h
    split at h
    · rename_i hmatch
      rw [ih h, filter_cons, if_pos hmatch, map_cons, append_assoc]
      rfl
    · next hmatch => rw [ih h, filter_cons, if_neg hmatch]

theorem matches_of_listed (hgroup : group ∈ p.config.1.riskGroups)
    (h : p.riskGroups labels = .ok names) (hlisted : group.name ∈ names) :
    group.selector.matches labels = true := by
  rw [ParsedAdminPolicy.riskGroups, p.config.riskGroups] at h
  dsimp only at h
  split at h
  · cases h
  rename_i found hfound
  cases h
  rw [mem_insertionSort, matchingGroups_ok hfound, nil_append, mem_map] at hlisted
  obtain ⟨other, hother, hname⟩ := hlisted
  obtain ⟨hmem, hmatch⟩ := mem_filter.mp hother
  rw [inj_on_of_nodup_map p.config.groups_valid.1 hmem hgroup hname] at hmatch
  exact hmatch

/-! ## Runs -/

theorem find_riskGroupBudgets (hgroup : group ∈ p.config.1.riskGroups) :
    p.riskGroupBudgets.find group.name =
      some ⟨group.maxConcurrentTransfers, group.maxUnavailable⟩ := by
  have hfold : ∀ (groups : List AdminRiskGroup) (out : Map RiskGroupBudget),
      (groups.map AdminRiskGroup.name).Nodup →
      (group ∈ groups ∨ group.name ∉ groups.map AdminRiskGroup.name ∧
        out.find group.name = some ⟨group.maxConcurrentTransfers, group.maxUnavailable⟩) →
      (groups.foldl (fun out group => out.set group.name
        ⟨group.maxConcurrentTransfers, group.maxUnavailable⟩) out).find group.name =
          some ⟨group.maxConcurrentTransfers, group.maxUnavailable⟩ := by
    intro groups
    induction groups with
    | nil =>
      intro out _ h
      rcases h with hmem | ⟨-, hout⟩
      · cases hmem
      · exact hout
    | cons g rest ih =>
      intro out hnodup h
      rw [map_cons, nodup_cons] at hnodup
      rw [foldl_cons]
      refine ih _ hnodup.2 ?_
      rcases h with hmem | ⟨hnot, hout⟩
      · rcases mem_cons.mp hmem with rfl | hmem
        · exact .inr ⟨hnodup.1, Map.find_set_self⟩
        · exact .inl hmem
      · rw [map_cons, mem_cons, not_or] at hnot
        exact .inr ⟨hnot.2, (Map.find_set_ne hnot.1).trans hout⟩
  exact hfold _ ∅ p.config.groups_valid.1 (.inl hgroup)

/-- A call of `Reserve` is decided under the policy's risk-group budgets, and
lists the groups of its target's labels. -/
def FollowsPolicy (p : ParsedAdminPolicy) (c : TrackedCall) : Prop :=
  ∀ policy members request, c.1 = .reserve policy members request →
    policy.riskGroupBudgets = p.riskGroupBudgets ∧ p.riskGroups c.2 = .ok request.riskGroups

/-- Every reservation lists the groups of its labels, and no group is
overbooked. -/
structure Tracked.Listed (p : ParsedAdminPolicy) (s : Tracked) : Prop where
  groups : ∀ id r, s.ledger.find id = some r → p.riskGroups (s.labels.get ∅ id) = .ok r.riskGroups
  sorted : s.ledger.reservations.Every fun _ r => r.riskGroups.Pairwise (· < ·)
  transfers : ∀ group ∈ p.config.1.riskGroups,
    (s.ledger.reservations.count (inGroup group.name) : Int) ≤ group.maxConcurrentTransfers

omit [Selectors] in
theorem labels_step_ne (s : Tracked) (c : TrackedCall) {id : String} (hid : id ≠ c.1.target) :
    (s.step c).labels.get ∅ id = s.labels.get ∅ id := by
  obtain ⟨op, target⟩ := c
  cases op with
  | reserve policy members request =>
    have hid : id ≠ request.id := hid
    simp only [Tracked.step]
    split
    · rw [Map.get, Map.get, Map.find_set_ne hid]
    · rfl
  | _ => rfl

omit [Selectors] in
theorem labels_step_of_found (s : Tracked) (c : TrackedCall) (h : s.ledger.find c.1.target = some r) :
    (s.step c).labels = s.labels := by
  obtain ⟨op, target⟩ := c
  cases op with
  | reserve policy members request =>
    have hfind : s.ledger.find request.id = some r := h
    simp only [Tracked.step, hfind, Option.isNone_some, Bool.false_eq_true, if_false]
  | _ => rfl

theorem step_groups {s : Tracked} (hc : FollowsPolicy p c) (h : ∀ id r, s.ledger.find id = some r →
      p.riskGroups (s.labels.get ∅ id) = .ok r.riskGroups) (id : String) (r : Reservation)
    (hr : (s.step c).ledger.find id = some r) :
    p.riskGroups ((s.step c).labels.get ∅ id) = .ok r.riskGroups := by
  -- A record that was there keeps its labels, whatever call it is.
  have hkept : ∀ r, s.ledger.find id = some r →
      p.riskGroups ((s.step c).labels.get ∅ id) = .ok r.riskGroups := by
    intro r hr
    by_cases hid : id = c.1.target
    · rw [hid] at hr ⊢
      rw [labels_step_of_found s c hr]
      exact h _ r hr
    · rw [labels_step_ne s c hid]
      exact h id r hr
  have hledger : (s.step c).ledger = Rollout.step s.ledger c.1 := rfl
  rw [hledger] at hr
  rcases step_cases s.ledger c.1 with hsame | heff
  · rw [hsame] at hr
    exact hkept r hr
  by_cases hid : id = c.1.target
  · cases heff with
    | unchanged hsame =>
      rw [hsame] at hr
      exact hkept r hr
    | added policy members request hop hadmits hput =>
      have htarget : id = request.id := by rw [hid, hop]; rfl
      have hlabels : (s.step c).labels.get ∅ id = c.2 := by
        simp only [Tracked.step, hop, hadmits.absent, Option.isNone_none, if_true, Map.get,
          htarget, Map.find_set_self, Option.getD_some]
      rw [hput, htarget, Ledger.find_put_self] at hr
      cases hr
      rw [hlabels]
      exact (hc policy members request hop).2
    | updated o o' ho hput hsame _ =>
      rw [hput, hid, Ledger.find_put_self] at hr
      cases hr
      rw [hsame.riskGroups]
      exact hkept o (hid ▸ ho)
    | released fence hremove =>
      rw [hremove, hid] at hr
      exact absurd hr (by simp [Ledger.find, Ledger.remove])
  · rw [effect_find_ne heff hid] at hr
    exact hkept r hr

theorem step_listed {s : Tracked} (hc : FollowsPolicy p c) (h : s.Listed p) :
    (s.step c).Listed p := by
  refine ⟨step_groups hc h.groups, step_sorted h.sorted, fun group hgroup => ?_⟩
  have htransfers := (p.config.groups_valid.2 group hgroup).transfers
  have hbefore := h.transfers group hgroup
  obtain ⟨n, hn⟩ : ∃ n : Nat, group.maxConcurrentTransfers = n :=
    ⟨group.maxConcurrentTransfers.toNat, (Int.toNat_of_nonneg (by omega)).symm⟩
  rw [hn] at hbefore ⊢
  have hafter : (Rollout.step s.ledger c.1).reservations.count (inGroup group.name) ≤ n := by
    refine step_count_le inGroup_ofIdentity (by omega) fun policy members request hop ha hin => ?_
    -- The call was checked on the group, against the very budget of the policy.
    obtain ⟨canonical, -, hchecks⟩ := ha.checks
    obtain ⟨-, -, -, hroom⟩ := admissionError_none.mp hchecks
    obtain ⟨budget, hbudget, -, hroom⟩ := hroom group.name (mem_of_containsSorted hin)
    rw [(hc policy members request hop).1, find_riskGroupBudgets hgroup] at hbudget
    cases hbudget
    have hcount : ((s.ledger.reservations.count (inGroup group.name) + 1 : Nat) : Int) ≤
        group.maxConcurrentTransfers := hroom
    omega
  have hledger : (s.step c).ledger = Rollout.step s.ledger c.1 := rfl
  rw [hledger]
  omega

theorem run_listed {l : Ledger} (hempty : l.reservations = ∅)
    (hcalls : ∀ c ∈ calls, FollowsPolicy p c) : (Tracked.run ⟨l, ∅⟩ calls).Listed p := by
  refine Machine.run_invariant ?_ (fun s c hc hs => step_listed hc hs) hcalls
  refine ⟨fun id r hr => ?_, ?_, fun group hgroup => ?_⟩
  · rw [Ledger.find, hempty, Map.find_empty] at hr
    cases hr
  · rw [hempty, Map.every_iff]
    intro k r hr
    cases hr
  · have htransfers := (p.config.groups_valid.2 group hgroup).transfers
    rw [hempty, Map.count_empty]
    omega

/-- However many reservations a run has left in a group, their rates together
stay within its ceiling; and a device of such a group is never unpaced. -/
theorem transfers_paced (p : ParsedAdminPolicy) (l : Ledger) (calls : List TrackedCall)
    (hempty : l.reservations = ∅) (hcalls : ∀ c ∈ calls, FollowsPolicy p c) :
    (∀ group ∈ p.config.1.riskGroups, 0 < group.maxAggregateTransferBytesPerSecond →
      (transferRates p (Tracked.run ⟨l, ∅⟩ calls) group.name).sum ≤
        group.maxAggregateTransferBytesPerSecond) ∧
    ∀ labels, (∃ group ∈ p.config.1.riskGroups, group.Limits labels) →
      ∃ rate, p.maxTransferBytesPerSecond labels = .ok rate ∧ 0 < rate := by
  have hlisted := run_listed hempty hcalls
  set s := Tracked.run ⟨l, ∅⟩ calls
  constructor
  · intro group hgroup hceiling
    have hvalid := p.config.groups_valid.2 group hgroup
    have hshare := hvalid.share_pos hceiling
    -- Each of the rates is at most the share of the group.
    have hrates : ∀ rate ∈ transferRates p s group.name, rate ≤ group.share := by
      intro rate hrate
      obtain ⟨⟨id, r⟩, he, rfl⟩ := Multiset.mem_map.mp hrate
      obtain ⟨hentry, hin⟩ := Multiset.mem_filter.mp he
      have hfind : s.ledger.find id = some r := Map.mem_entries.mpr hentry
      have hmatch := matches_of_listed hgroup (hlisted.groups id r hfind) hin
      obtain ⟨rate, hrate, hall⟩ := maxTransfer_spec p (s.labels.get ∅ id)
      rw [hrate]
      exact (hall group hgroup ⟨hceiling, hmatch⟩).2
    have hcard : (transferRates p s group.name).card ≤
        s.ledger.reservations.count (inGroup group.name) := by
      have hlisting : (transferRates p s group.name).card =
          s.ledger.reservations.count fun r => group.name ∈ r.riskGroups := by
        rw [transferRates, Multiset.card_map, ← Multiset.countP_eq_card_filter]
        rfl
      rw [hlisting]
      refine Map.count_mono _ (Map.every_iff.mpr fun k r hk hr => ?_)
      exact (containsSorted_iff (Map.every_iff.mp hlisted.sorted k r hk)).mpr hr
    have hcount := hlisted.transfers group hgroup
    calc (transferRates p s group.name).sum
        ≤ (transferRates p s group.name).card • group.share :=
          Multiset.sum_le_card_nsmul _ _ hrates
      _ = (transferRates p s group.name).card * group.share := by rw [nsmul_eq_mul]
      _ ≤ group.maxConcurrentTransfers * group.share :=
          Int.mul_le_mul_of_nonneg_right (by omega) (le_of_lt hshare)
      _ ≤ group.maxAggregateTransferBytesPerSecond := hvalid.mul_share_le
  · rintro labels ⟨group, hgroup, hlimits⟩
    obtain ⟨rate, hrate, hall⟩ := maxTransfer_spec p labels
    exact ⟨rate, hrate, (hall group hgroup hlimits).1⟩

end

/-! ## A group on one power feed -/

namespace Sample

abbrev lenient : Selectors := ⟨fun _ => none⟩

def powerKey : String := "topology.cisco.vk/power"

/-- Two transfers at a time, a thousand bytes a second for both. -/
def powerGroup : AdminRiskGroup :=
  ⟨"power", ⟨Map.set ∅ powerKey "feed-a", []⟩, 2, 2, 1000⟩

def pacedConfig : AdminPolicyConfig where
  appHostingServiceAccountName := "apps"
  networkManagementServiceAccountName := "network"
  configLeaseNamespace := ""
  version := "v1"
  fleetSelector := ⟨Map.set ∅ "topology.cisco.vk/fleet" "campus", []⟩
  requiredTopologyKeys := [powerKey]
  projectedTopologyKeys := []
  globalMaxConcurrentTransfers := 2
  globalMaxUnavailable := 2
  domainMaxConcurrentTransfers := Map.set ∅ powerKey 2
  domainMaxUnavailable := Map.set ∅ powerKey 2
  healthFreshnessSeconds := 60
  maxCampaignTargets := 10
  maxActiveReservations := 10
  maxLedgerBytes := 8192
  workloadDrain := none
  disruptionProtections := []
  riskGroups := [powerGroup]
  ledgerName := "ledger"

def validConfig : @ValidConfig upstream lenient :=
  ⟨pacedConfig, pacedConfig, (@validateAdminPolicyConfig_ok upstream lenient _ _).mpr
    ⟨by decide +kernel, rfl⟩⟩

def pacedPolicy : @ParsedAdminPolicy upstream lenient :=
  @ParsedAdminPolicy.mk upstream lenient validConfig "cvk" "policy" "ledger" "policy" "7"

/-- A device on the feed is reserved. -/
def pacedCalls : List TrackedCall :=
  let budgets := @ParsedAdminPolicy.riskGroupBudgets upstream lenient pacedPolicy
  [(.reserve { policy with riskGroupBudgets := budgets }
      [{ member "a" "r1" with riskGroups := ["power"] }]
      { request "a" "r1" with riskGroups := ["power"] },
    Map.set ∅ powerKey "feed-a")]

end Sample

open Sample in
theorem power_feed_reserved :
    (@Tracked.run upstream ⟨Sample.ledger, ∅⟩ pacedCalls).ledger.find "reservation-a" ≠ none := by
  decide +kernel

open Sample in
theorem power_feed_paced :
    (@Tracked.run upstream ⟨Sample.ledger, ∅⟩ pacedCalls).ledger.find "reservation-a" ≠ none ∧
      (@transferRates upstream lenient pacedPolicy
        (@Tracked.run upstream ⟨Sample.ledger, ∅⟩ pacedCalls) powerGroup.name).sum ≤
          powerGroup.maxAggregateTransferBytesPerSecond := by
  have hcalls : ∀ c ∈ pacedCalls, @FollowsPolicy upstream lenient pacedPolicy c := by
    intro c hc policy members request hop
    rw [mem_singleton.mp hc] at hop ⊢
    cases hop
    exact ⟨rfl, by decide +kernel⟩
  have hpaced := @transfers_paced upstream lenient pacedPolicy Sample.ledger pacedCalls rfl hcalls
  have hmem : powerGroup ∈ pacedConfig.riskGroups := mem_cons_self
  exact ⟨power_feed_reserved, hpaced.1 powerGroup hmem (by decide)⟩

end VirtualKubelet.Rollout
