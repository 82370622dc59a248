import VirtualKubelet.Rollout.Execution
import VirtualKubelet.Proofs.Readmission

/-!
# What a reconcile may admit

The flags of the loop are a summary of its verdicts: a flag that was never
raised, or never cleared, speaks about every target visited (`Flags.Noted`). A
verdict in turn speaks about the leaf it was given for. Together they turn the
conditions under which `admitTarget` is reached into statements about leaves.

One condition is not the loop's. A leaf in a terminal failure phase raises
`hasFailure` only when it is visited and has an admission, so a leaf that failed
before its admission was recorded would pass. It is stopped by the fence of
`admitTarget`, which reads all leaves again.
-/

namespace VirtualKubelet.Rollout

open Go

/-! ## Verdicts -/

/-- The target failed, or its drain was taken back. -/
def TargetVerdict.failure : TargetVerdict → Bool
  | .drainAborted | .failed => true
  | .held failure _ => failure
  | _ => false

/-- A gate holds the whole rollout. -/
def TargetVerdict.gated : TargetVerdict → Bool
  | .rearmBlocked _ | .drainHeld _ | .held _ _ | .grantBlocked _ | .evidenceInvalid _
  | .windowClosed => true
  | _ => false

/-- The leaf has reached its end and its reservation is released. -/
def TargetVerdict.settled : TargetVerdict → Bool
  | .failed | .succeeded => true
  | _ => false

/-- The target has a leaf that ended well and was settled in this call. -/
def Execution.Settled (x : Execution) (outcomes : Outcomes) (target : PlannedTarget) : Prop :=
  ∃ leaf gate, x.children.find target.childName = some leaf ∧
    terminalLeafPhase leaf.phase = true ∧ terminalLeafFailure leaf.phase = false ∧
    outcomes.trySettleLeaf target = .ok gate ∧ gate.settled = true

section

variable {rollout : SoftwareRollout} {outcomes : Outcomes} {now : Time} {x : Execution}

theorem visitRunning_unsettled (h : visitRunning rollout outcomes x target admission = .ok verdict) :
    verdict.settled = false := by
  unfold visitRunning at h
  repeat' split at h
  all_goals (cases h <;> rfl)

theorem visitAdmitted_succeeded
    (h : visitAdmitted rollout outcomes x rearmed target leaf admission = .ok .succeeded) :
    terminalLeafPhase leaf.phase = true ∧ terminalLeafFailure leaf.phase = false ∧
      ∃ gate, outcomes.trySettleLeaf target = .ok gate ∧ gate.settled = true := by
  unfold visitAdmitted at h
  split at h
  · repeat' split at h
    all_goals cases h
  split at h
  · repeat' split at h
    all_goals cases h
  split at h
  · rename_i hterminal
    split at h
    · cases h
    rename_i gate hgate
    split at h
    · rename_i hsettled
      split at h
      · cases h
      · rename_i hfailure
        exact ⟨hterminal, by simpa using hfailure, gate, hgate, hsettled⟩
    · cases h
  · have hrunning := visitRunning_unsettled h
    cases hrunning

theorem visitTarget_succeeded
    (h : visitTarget rollout outcomes x rearmed target = .ok .succeeded) :
    x.Settled outcomes target := by
  unfold visitTarget at h
  split at h
  · cases h
  rename_i leaf hleaf
  split at h
  · cases h
  split at h
  · cases h
  split at h
  · split at h <;> cases h
  · obtain ⟨hterminal, hgood, gate, hgate, hsettled⟩ := visitAdmitted_succeeded h
    exact ⟨leaf, gate, hleaf, hterminal, hgood, hgate, hsettled⟩

end

/-! ## The loop over the targets -/

/-- The flags say of the verdicts what they are raised and cleared for. -/
structure Flags.Noted (f : Flags) (verdicts : List (PlannedTarget × TargetVerdict)) : Prop where
  canaries : f.allCanariesSettled = true → ∀ target verdict, (target, verdict) ∈ verdicts →
    target.canaryCohort ≠ "" → verdict.settled = true
  targets : f.allTargetsSettled = true → ∀ target verdict, (target, verdict) ∈ verdicts →
    verdict.settled = true
  failures : f.hasFailure = false → ∀ target verdict, (target, verdict) ∈ verdicts →
    verdict.failure = false
  gates : f.progressionBlocked = false → ∀ target verdict, (target, verdict) ∈ verdicts →
    verdict.gated = false

theorem Flags.noted_initial : Flags.initial.Noted [] := by
  constructor <;> intro _ _ _ hmem <;> cases hmem

/-- What one verdict does to the flags: they only ever move one way, and a move
that is not made says something of the verdict. -/
theorem Flags.note_cases (f : Flags) (target : PlannedTarget) (verdict : TargetVerdict) :
    ((f.note target verdict).allCanariesSettled = true → f.allCanariesSettled = true ∧
      (target.canaryCohort ≠ "" → verdict.settled = true)) ∧
    ((f.note target verdict).allTargetsSettled = true →
      f.allTargetsSettled = true ∧ verdict.settled = true) ∧
    ((f.note target verdict).hasFailure = false → f.hasFailure = false ∧ verdict.failure = false) ∧
    ((f.note target verdict).progressionBlocked = false →
      f.progressionBlocked = false ∧ verdict.gated = false) := by
  cases verdict <;>
    simp_all [Flags.note, Flags.unsettled, TargetVerdict.settled, TargetVerdict.failure,
      TargetVerdict.gated]

theorem forall_snoc {verdicts : List (PlannedTarget × TargetVerdict)} {target : PlannedTarget}
    {verdict : TargetVerdict} {P : PlannedTarget → TargetVerdict → Prop} :
    (∀ t v, (t, v) ∈ verdicts ++ [(target, verdict)] → P t v) ↔
      (∀ t v, (t, v) ∈ verdicts → P t v) ∧ P target verdict := by
  simp only [List.mem_append, List.mem_singleton, Prod.mk.injEq]
  grind

theorem Flags.Noted.note {f : Flags} (h : f.Noted verdicts) (target : PlannedTarget)
    (verdict : TargetVerdict) :
    (f.note target verdict).Noted (verdicts ++ [(target, verdict)]) := by
  obtain ⟨hcanaries, htargets, hfailures, hgates⟩ := f.note_cases target verdict
  exact {
    canaries := fun hflag => forall_snoc.mpr ((hcanaries hflag).imp_left h.canaries)
    targets := fun hflag => forall_snoc.mpr ((htargets hflag).imp_left h.targets)
    failures := fun hflag => forall_snoc.mpr ((hfailures hflag).imp_left h.failures)
    gates := fun hflag => forall_snoc.mpr ((hgates hflag).imp_left h.gates) }

variable {visited : Visited} {targets : List PlannedTarget} {rollout : SoftwareRollout}

section

variable (rollout : SoftwareRollout) (outcomes : Outcomes) (x : Execution)

/-- The loop's invariant: the flags follow the verdicts, and each verdict is
that of its target. -/
structure Visited.Inv (visited : Visited) : Prop where
  noted : visited.flags.Noted visited.verdicts
  given : ∀ target verdict, (target, verdict) ∈ visited.verdicts →
    ∃ rearmed, visitTarget rollout outcomes x rearmed target = .ok verdict

variable {rollout outcomes x}

theorem visitNext_inv (hinv : visited.Inv rollout outcomes x)
    (h : visitNext rollout outcomes now x visited target = .ok visited') :
    visited'.Inv rollout outcomes x ∧ ∃ verdict,
      visited'.verdicts = visited.verdicts ++ [(target, verdict)] := by
  unfold visitNext at h
  split at h
  · cases h
  rename_i verdict hverdict
  cases h
  exact ⟨⟨hinv.noted.note target verdict, forall_snoc.mpr ⟨hinv.given, _, hverdict⟩⟩, verdict, rfl⟩

/-- The whole loop: the invariant holds at its end, and no target is left out. -/
theorem visitTargets_inv (hinv : visited.Inv rollout outcomes x)
    (h : visitTargets rollout outcomes now x targets visited = .ok visited') :
    visited'.Inv rollout outcomes x ∧
      (∀ e ∈ visited.verdicts, e ∈ visited'.verdicts) ∧
      ∀ target ∈ targets, ∃ verdict, (target, verdict) ∈ visited'.verdicts := by
  induction targets generalizing visited with
  | nil =>
    cases h
    refine ⟨hinv, fun e he => he, ?_⟩
    intro target hmem
    cases hmem
  | cons target rest ih =>
    rw [visitTargets] at h
    split at h
    · cases h
    rename_i middle hnext
    obtain ⟨hmiddle, verdict, hverdicts⟩ := visitNext_inv hinv hnext
    obtain ⟨hend, hkept, hrest⟩ := ih hmiddle h
    refine ⟨hend, ?_, ?_⟩
    · intro e he
      apply hkept
      rw [hverdicts]
      exact List.mem_append_left _ he
    intro t hmem
    rcases List.mem_cons.mp hmem with rfl | hmem
    · refine ⟨verdict, hkept _ ?_⟩
      rw [hverdicts]
      simp
    · exact hrest t hmem

theorem Visited.Inv.settled (hinv : visited.Inv rollout outcomes x)
    (hfailure : visited.flags.hasFailure = false) (hmem : (target, verdict) ∈ visited.verdicts)
    (hsettled : verdict.settled = true) : x.Settled outcomes target := by
  obtain ⟨rearmed, hvisit⟩ := hinv.given target verdict hmem
  have hgood := hinv.noted.failures hfailure target verdict hmem
  cases verdict with
  | succeeded => exact visitTarget_succeeded hvisit
  | failed => cases hgood
  | _ => cases hsettled

end

/-! ## The fence of an admission -/

theorem collectLeaves_find (h : collectLeaves expected before items = .ok after) :
    (∀ name leaf, before.find name = some leaf → after.find name = some leaf) ∧
      ∀ leaf ∈ items, after.find leaf.leafName = some leaf := by
  induction items generalizing before with
  | nil =>
    cases h
    refine ⟨fun _ _ hfind => hfind, ?_⟩
    intro leaf hmem
    cases hmem
  | cons item rest ih =>
    rw [collectLeaves] at h
    split at h
    · cases h
    split at h
    · cases h
    rename_i hnew
    obtain ⟨hkept, hrest⟩ := ih h
    refine ⟨?_, ?_⟩
    · intro name leaf hfind
      refine hkept name leaf ?_
      have hne : name ≠ item.leafName := by
        intro heq
        rw [← heq, hfind] at hnew
        exact hnew rfl
      rw [Map.find_set_ne hne]
      exact hfind
    · exact List.forall_mem_cons.mpr ⟨hkept _ _ Map.find_set_self, hrest⟩

theorem rolloutChildren_find (h : rolloutChildren rollout listed = .ok children) :
    ∃ items, listed = .ok items ∧ ∀ leaf ∈ items, children.find leaf.leafName = some leaf := by
  unfold rolloutChildren at h
  split at h
  · cases h
  rename_i items
  split at h
  · cases h
  · exact ⟨items, rfl, (collectLeaves_find h).2⟩

theorem anyTerminalFailure_eq_false (h : anyTerminalFailure children = false)
    (hfind : children.find name = some leaf) : terminalLeafFailure leaf.phase = false := by
  rw [anyTerminalFailure, decide_eq_false_iff_not, not_not] at h
  exact Map.every_iff.mp h name leaf hfind

theorem revalidateCampaignExecution_none {read : CampaignRead}
    (h : revalidateCampaignExecution rollout read = none) :
    ∃ items, read.leaves = .ok items ∧
      ∀ leaf ∈ items, terminalLeafFailure leaf.phase = false := by
  unfold revalidateCampaignExecution at h
  simp only [] at h
  repeat
    split at h
    · cases h
  rename_i children hchildren hnone
  obtain ⟨items, hitems, hfind⟩ := rolloutChildren_find hchildren
  exact ⟨items, hitems, fun leaf hmem =>
    anyTerminalFailure_eq_false (by simpa using hnone) (hfind leaf hmem)⟩

theorem admitTargetError_none {outcome : AdmitOutcome}
    (h : admitTargetError rollout outcome = none) :
    ∃ items, outcome.read.leaves = .ok items ∧
      ∀ leaf ∈ items, terminalLeafFailure leaf.phase = false := by
  rw [admitTargetError, Option.or_eq_none_iff, Option.or_eq_none_iff, Option.map_eq_none_iff] at h
  exact revalidateCampaignExecution_none h.1.2

/-! ## The loop that admits -/

section

variable {rollout : SoftwareRollout} {outcomes : Outcomes} {x : Execution} {flags : Flags}

/-- What has to hold for `admitTarget` to be called for a target and succeed. -/
structure AdmissionOpen (rollout : SoftwareRollout) (outcomes : Outcomes) (x : Execution)
    (flags : Flags) (target : PlannedTarget) : Prop where
  absent : x.children.find target.childName = none
  unblocked : flags.progressionBlocked = false
  wave : 0 < target.wave → flags.allCanariesSettled = true
  window : x.windowOpen = true
  fence : admitTargetError rollout (outcomes.admitTarget target) = none

theorem admitTargets_ok
    (h : admitTargets rollout outcomes now x flags targets summaries = .ok (admitted, summaries')) :
    admitted.length ≤ 1 ∧ ∀ target ∈ admitted, target ∈ targets ∧
      AdmissionOpen rollout outcomes x flags target := by
  induction targets generalizing summaries with
  | nil =>
    cases h
    exact ⟨Nat.zero_le _, nofun⟩
  | cons target rest ih =>
    have hlater : ∀ {summaries : Map TargetSummary},
        admitTargets rollout outcomes now x flags rest summaries =
          .ok (admitted, summaries') →
        admitted.length ≤ 1 ∧ ∀ t ∈ admitted, t ∈ target :: rest ∧
          AdmissionOpen rollout outcomes x flags t := by
      intro summaries hrest
      obtain ⟨hone, hall⟩ := ih hrest
      refine ⟨hone, fun t hmem => ?_⟩
      exact ⟨List.mem_cons_of_mem _ (hall t hmem).1, (hall t hmem).2⟩
    rw [admitTargets] at h
    split at h
    · cases h
      exact ⟨Nat.zero_le _, nofun⟩
    rename_i hunblocked
    split at h
    · exact hlater h
    rename_i habsent
    split at h
    · exact hlater h
    rename_i hwave
    split at h
    · exact hlater h
    rename_i hwindow
    split at h
    · rename_i hfence
      cases h
      refine ⟨Nat.le_refl _, fun t hmem => ?_⟩
      cases List.mem_singleton.mp hmem
      refine ⟨List.mem_cons_self, by simpa using habsent,
        by simpa using hunblocked, ?_, by simpa using hwindow, hfence⟩
      intro hpositive
      by_contra hcanaries
      exact hwave ⟨by simpa using hcanaries, hpositive⟩
    · split at h
      · exact hlater h
      · cases h

end

/-! ## The whole call -/

/-- Activation, where it is asked for, is within its window. -/
def SoftwareRollout.WindowOpen (rollout : SoftwareRollout) (now : Time) : Prop :=
  ∀ approval, rollout.activationApproval = some approval →
    approval.notBefore ≤ now ∧ now < approval.notAfter

section

variable {rollout : SoftwareRollout} {outcomes : Outcomes} {now : Time} {x : Execution}

theorem fenceFailures_window (h : fenceFailures rollout outcomes now x = .ok x') :
    x'.windowOpen = x.windowOpen := by
  unfold fenceFailures at h
  repeat' split at h
  all_goals (cases h <;> rfl)

theorem enterActivation_window
    (h : enterActivation rollout outcomes now approval policyEpoch children = .ok x)
    (hopen : x.windowOpen = true) : approval.notBefore ≤ now ∧ now < approval.notAfter := by
  unfold enterActivation at h
  split at h
  · cases h
  simp only [] at h
  split at h
  · cases h
  rename_i hbegun
  split at h
  · cases h
  · cases h
    exact ⟨not_lt.mp hbegun, by simpa using hopen⟩

/-- What a conclusion has passed when it goes on to admit. -/
def MayAdmit (rollout : SoftwareRollout) (outcomes : Outcomes) (x : Execution) (flags : Flags)
    (target : PlannedTarget) : Prop :=
  target ∈ rollout.executionTargets ∧ flags.hasFailure = false ∧
    (flags.allCanariesSettled = true → pauseAfterCanary rollout = true →
      canaryResumeAuthorized rollout = true) ∧
    AdmissionOpen rollout outcomes x flags target

theorem concludeExecution_admitted :
    (concludeExecution rollout outcomes now x visited).admitted.length ≤ 1 ∧
    ∀ target ∈ (concludeExecution rollout outcomes now x visited).admitted,
      MayAdmit rollout outcomes x visited.flags target := by
  have hnothing : ([] : List PlannedTarget).length ≤ 1 ∧
      ∀ target ∈ ([] : List PlannedTarget), MayAdmit rollout outcomes x visited.flags target :=
    ⟨Nat.zero_le _, nofun⟩
  unfold concludeExecution
  simp only []
  split
  · exact hnothing
  rename_i hfailure
  split
  · exact hnothing
  split
  · exact hnothing
  rename_i hpause
  split
  · exact hnothing
  rename_i admitted summaries hadmitted
  obtain ⟨hone, hall⟩ := admitTargets_ok hadmitted
  have hshared : admitted.length ≤ 1 ∧
      ∀ target ∈ admitted, MayAdmit rollout outcomes x visited.flags target := by
    refine ⟨hone, fun target hmem => ?_⟩
    obtain ⟨hplanned, hopen⟩ := hall target hmem
    refine ⟨hplanned, by simpa using hfailure, ?_, hopen⟩
    intro hcanaries hpaused
    rw [hcanaries, hpaused] at hpause
    simpa using hpause
  split
  · exact hshared
  · split <;> exact hshared

theorem visited_initial_inv (summaries : Map TargetSummary) :
    Visited.Inv rollout outcomes x ⟨.initial, summaries, []⟩ :=
  ⟨Flags.noted_initial, nofun⟩

/-! Success is reported in one place only. -/

theorem fenceFailures_not_succeeded (h : fenceFailures rollout outcomes now x = .error ending) :
    ending.phase ≠ some .succeeded := by
  unfold fenceFailures at h
  repeat' split at h
  all_goals (cases h <;> exact nofun)

theorem enterActivation_not_succeeded
    (h : enterActivation rollout outcomes now approval policyEpoch children = .error ending) :
    ending.phase ≠ some .succeeded := by
  unfold enterActivation at h
  simp only [] at h
  repeat' split at h
  all_goals (cases h <;> exact nofun)

theorem visitTarget_not_succeeded
    (h : visitTarget rollout outcomes x rearmed target = .error ending) :
    ending.phase ≠ some .succeeded := by
  unfold visitTarget visitAdmitted visitRunning at h
  repeat' split at h
  all_goals (cases h <;> exact nofun)

theorem visitTargets_not_succeeded
    (h : visitTargets rollout outcomes now x targets visited = .error ending) :
    ending.phase ≠ some .succeeded := by
  induction targets generalizing visited with
  | nil => cases h
  | cons target rest ih =>
    rw [visitTargets] at h
    split at h
    · rename_i hnext
      cases h
      unfold visitNext at hnext
      split at hnext
      · rename_i hvisit
        cases hnext
        exact visitTarget_not_succeeded hvisit
      · cases hnext
    · exact ih h

theorem admitTargets_not_succeeded
    (h : admitTargets rollout outcomes now x flags targets summaries = .error ending) :
    ending.phase ≠ some .succeeded := by
  induction targets generalizing summaries with
  | nil => cases h
  | cons target rest ih =>
    rw [admitTargets] at h
    repeat' split at h
    all_goals
      first
        | exact ih h
        | (cases h <;> exact nofun)

theorem concludeExecution_succeeded
    (h : (concludeExecution rollout outcomes now x visited).ending.phase = some .succeeded) :
    visited.flags.hasFailure = false ∧ visited.flags.allTargetsSettled = true := by
  unfold concludeExecution at h
  simp only [] at h
  split at h
  · cases h
  rename_i hfailure
  split at h
  · next hsettled => exact ⟨by simpa using hfailure, hsettled⟩
  split at h
  · cases h
  split at h
  · next hadmit => exact absurd h (admitTargets_not_succeeded hadmit)
  split at h
  · cases h
  · split at h <;> cases h

variable [Upstream] [Selectors] [PolicyDigests] {current : ParsedAdminPolicy}

theorem enterExecution_window (h : enterExecution rollout outcomes now current = .ok x)
    (hopen : x.windowOpen = true) : rollout.WindowOpen now := by
  intro approval happroval
  unfold enterExecution at h
  repeat
    split at h
    · cases h
  split at h
  · rename_i hnone
    rw [happroval] at hnone
    cases hnone
  rename_i approval' happroval'
  cases happroval.symm.trans happroval'
  split at h
  · cases h
  rename_i entered hentered
  rw [fenceFailures_window h] at hopen
  exact enterActivation_window hentered hopen

/-- A leaf seen in a terminal failure phase is still seen in one later. Workers
leave a terminal phase alone, and leaves are kept. -/
def FailuresPersist (earlier later : List Leaf) : Prop :=
  ∀ leaf ∈ earlier, terminalLeafFailure leaf.phase = true →
    ∃ leaf' ∈ later, leaf'.leafName = leaf.leafName ∧ terminalLeafFailure leaf'.phase = true

/-- Everything an admission of `target` says about the call that made it. -/
structure AdmittedBy (rollout : SoftwareRollout) (outcomes : Outcomes) (now : Time)
    (x : Execution) (visited : Visited) (target : PlannedTarget) : Prop where
  planned : target ∈ rollout.executionTargets
  absent : x.children.find target.childName = none
  canaries : 0 < target.wave → ∀ canary ∈ rollout.executionTargets,
    canary.canaryCohort ≠ "" → x.Settled outcomes canary
  resumed : 0 < target.wave → pauseAfterCanary rollout = true →
    canaryResumeAuthorized rollout = true
  widened : target.wave = plannedWave target.canaryCohort → target.canaryCohort = "" →
    pauseAfterCanary rollout = true → canaryResumeAuthorized rollout = true
  unfailed : ∃ later, (outcomes.admitTarget target).read.leaves = .ok later ∧
    (∀ leaf ∈ later, terminalLeafFailure leaf.phase = false) ∧
    ∀ earlier, outcomes.leaves = .ok earlier → FailuresPersist earlier later →
      ∀ leaf ∈ earlier, terminalLeafFailure leaf.phase = false
  verdicts : ∀ t verdict, (t, verdict) ∈ visited.verdicts →
    verdict.failure = false ∧ verdict.gated = false
  window : rollout.WindowOpen now

/-- In a call whose loop saw no failure, a flag that says all canaries are
settled says it of their leaves. -/
theorem admittedBy (hx : enterExecution rollout outcomes now current = .ok x)
    (hvisited : visitTargets rollout outcomes now x rollout.executionTargets
      ⟨.initial, indexTargetSummaries rollout.targets, []⟩ = .ok visited)
    (hadmitted : target ∈ (concludeExecution rollout outcomes now x visited).admitted) :
    AdmittedBy rollout outcomes now x visited target := by
  obtain ⟨hplanned, hfailure, hresume, hopen⟩ := concludeExecution_admitted.2 target hadmitted
  obtain ⟨hinv, -, hall⟩ := visitTargets_inv (visited_initial_inv _) hvisited
  obtain ⟨later, hlater, hgood⟩ := admitTargetError_none hopen.fence
  refine ⟨hplanned, hopen.absent, ?_, ?_, ?_, ⟨later, hlater, hgood, ?_⟩, ?_,
    enterExecution_window hx hopen.window⟩
  · intro hwave canary hmem hcanary
    obtain ⟨verdict, hverdict⟩ := hall canary hmem
    exact hinv.settled hfailure hverdict
      (hinv.noted.canaries (hopen.wave hwave) canary verdict hverdict hcanary)
  · intro hwave
    exact hresume (hopen.wave hwave)
  · intro hwave hcohort
    rw [hcohort] at hwave
    have hpositive : 0 < target.wave := by
      rw [hwave]
      decide
    exact hresume (hopen.wave hpositive)
  · intro earlier _ hpersist leaf hmem
    by_contra hfailed
    obtain ⟨leaf', hmem', -, hfailed'⟩ := hpersist leaf hmem (by simpa using hfailed)
    rw [hgood leaf' hmem'] at hfailed'
    cases hfailed'
  · intro t verdict hmem
    exact ⟨hinv.noted.failures hfailure t verdict hmem,
      hinv.noted.gates hopen.unblocked t verdict hmem⟩

theorem enterExecution_not_succeeded
    (h : enterExecution rollout outcomes now current = .error ending) :
    ending.phase ≠ some .succeeded := by
  unfold enterExecution at h
  repeat' split at h
  all_goals
    first
      | exact fenceFailures_not_succeeded h
      | (cases h
         first
           | exact enterActivation_not_succeeded ‹_›
           | exact nofun)

/-- One call admits at most one target, and an admission says of the call all
that `AdmittedBy` lists: the canaries are settled before anything wider, the
operator has resumed after them, no leaf has failed, no drain was taken back, no
gate is closed and the window is open. Success means that every target ended
well and was settled. -/
theorem canary_gating (rollout : SoftwareRollout) (current : ParsedAdminPolicy)
    (outcomes : Outcomes) (now : Time) :
    (reconcileExecution rollout current outcomes now).admitted.length ≤ 1 ∧
    (∀ target ∈ (reconcileExecution rollout current outcomes now).admitted,
      ∃ x visited, enterExecution rollout outcomes now current = .ok x ∧
        visitTargets rollout outcomes now x rollout.executionTargets
          ⟨.initial, indexTargetSummaries rollout.targets, []⟩ = .ok visited ∧
        AdmittedBy rollout outcomes now x visited target) ∧
    ((reconcileExecution rollout current outcomes now).ending.phase = some .succeeded →
      ∃ x, enterExecution rollout outcomes now current = .ok x ∧
        ∀ target ∈ rollout.executionTargets, x.Settled outcomes target) := by
  unfold reconcileExecution
  split
  · rename_i ending hending
    refine ⟨Nat.zero_le _, nofun, fun hphase => ?_⟩
    exact absurd hphase (enterExecution_not_succeeded hending)
  rename_i x hx
  split
  · rename_i ending hending
    refine ⟨Nat.zero_le _, nofun, fun hphase => ?_⟩
    exact absurd hphase (visitTargets_not_succeeded hending)
  rename_i visited hvisited
  refine ⟨concludeExecution_admitted.1, fun target hmem => ?_, fun hphase => ?_⟩
  · exact ⟨x, visited, hx, hvisited, admittedBy hx hvisited hmem⟩
  obtain ⟨hfailure, hsettled⟩ := concludeExecution_succeeded hphase
  obtain ⟨hinv, -, hall⟩ := visitTargets_inv (visited_initial_inv _) hvisited
  refine ⟨x, hx, fun target hmem => ?_⟩
  obtain ⟨verdict, hverdict⟩ := hall target hmem
  exact hinv.settled hfailure hverdict
    (hinv.noted.targets hsettled target verdict hverdict)

end

namespace Sample

attribute [local instance] upstream selectors digests

def canaryTarget : PlannedTarget := { rackTarget with canaryCohort := "edge" }

def wideTarget : PlannedTarget :=
  { rackTarget with
    deviceName := "switch-b", deviceUID := "device-b", physicalIdentity := "chassis-b"
    nodeUID := "node-b", wave := 1, childName := "leaf-b" }

def stagedRollout : SoftwareRollout where
  plan := { rolloutPlan with targets := [canaryTarget, wideTarget] }
  generation := 1
  approval := some planHash
  control := ⟨"", none, ""⟩
  pauseAfterCanary := some false
  networkHealth := false
  activationApproval := none
  epochs := ⟨some ⟨1, epochPlan.policy⟩, none⟩
  phase := .executing
  targets := []
  requestedRevision := none
  canaryResumeRequired := none

def upgradedLeaf : Leaf :=
  { newLeaf stagedRollout.plan canaryTarget firstRun with
    phase := .succeeded
    managerAdmission := some (newAdmission stagedRollout.plan canaryTarget firstRun lockID
      (newLeaf stagedRollout.plan canaryTarget firstRun)) }

/-- The canary is done, and everything that is asked for succeeds. -/
def stagedOutcomes : Outcomes where
  verifyFrozenSource := none
  leaves := .ok [upgradedLeaf]
  validateActivationApproval := none
  ensureFailureFences := none
  leavesAfterFences := .ok [upgradedLeaf]
  validateManagedLeafBinding := fun _ => none
  validateActivationLeafAnnotations := fun _ => none
  ensureChildAdmission := fun _ => none
  rearmPolicyEpochLeaf := fun _ => none
  trySettleDrainedLeaf := fun _ => .ok ⟨true, "", ""⟩
  trySettleLeaf := fun _ => .ok ⟨true, "HealthGatePassed", ""⟩
  tryGrantLeaf := fun _ => .ok true
  refreshNetworkGrantEvidence := fun _ => .ok true
  admitTarget := fun _ => ⟨none, ⟨.ok stagedRollout, .ok [upgradedLeaf]⟩, none⟩

theorem wideTarget_admitted :
    (reconcileExecution stagedRollout widePolicy stagedOutcomes 1).admitted = [wideTarget] := by
  decide +kernel

theorem canary_gating_sample :
    ∃ x, enterExecution stagedRollout stagedOutcomes 1 widePolicy = .ok x ∧
      x.Settled stagedOutcomes canaryTarget := by
  have hadmitted : wideTarget ∈
      (reconcileExecution stagedRollout widePolicy stagedOutcomes 1).admitted := by
    rw [wideTarget_admitted]
    exact List.mem_singleton_self _
  obtain ⟨x, visited, hx, -, hby⟩ :=
    (canary_gating stagedRollout widePolicy stagedOutcomes 1).2.1 wideTarget hadmitted
  exact ⟨x, hx, hby.canaries (by decide) canaryTarget List.mem_cons_self (by decide)⟩

end Sample

end VirtualKubelet.Rollout
