import VirtualKubelet.Config.Reconciler
import VirtualKubelet.Proofs.RunningVerify

/-!
# What is saved to the startup configuration

The engine saves after a tick that is in sync, and it speaks of the families it
was handed. A reconciler that hands it fewer than the object declares has to
take the save back. The common reconciler clears `writeStartup` when a lease is
missing; the IOS-XE one does not, and the phase it corrects afterwards comes
too late. `startup_saved_whole_iff` says for which objects that shows.
-/

namespace VirtualKubelet.Config

open Go Program
open List hiding after diff lookup

/-! ## Leases -/

section Leases

variable {acquire : String → LeaseOutcome}

theorem leaseFamilies_owned (families : List String) :
    (leaseFamilies acquire families).1 = families.filter fun f => decide (acquire f = .owned) := by
  induction families with
  | nil => rfl
  | cons family rest ih =>
    rw [leaseFamilies]
    cases h : acquire family <;> simp [h, ih]

theorem leaseFamilies_conflicts (families : List String) :
    (leaseFamilies acquire families).2 = [] ↔ ∀ family ∈ families, acquire family = .owned := by
  induction families with
  | nil => simp [leaseFamilies]
  | cons family rest ih =>
    rw [leaseFamilies, forall_mem_cons]
    cases h : acquire family <;> simp [ih]

end Leases

/-- The object holds the lease of the family, or there are no leases. -/
def Leased (leaser : Leaser) (family : String) : Prop :=
  ∀ acquire, leaser = some acquire → acquire family = .owned

/-- A tick that saves the startup configuration has brought every family the
object declares in sync, under its lease. -/
def SavesWhole (leaser : Leaser) (resolved : ResolvedIntent) (tick : Tick Result) : Prop :=
  ∀ es out r, Runs tick es out → (⟨.saveStartup, r⟩ : TickEvent) ∈ es →
    ∀ family ∈ resolved.managedFamilies, Leased leaser family ∧
      ∃ fs ∈ out.familyStatuses, fs.name = family ∧ fs.state = .inSync

/-! ## When the engine saves -/

namespace Engine

variable {e : Engine} {t : Transport} {res : ResolvedIntent} {out : Result}

theorem saveStartup_guard (h : Runs (saveStartup t res result) es out)
    (hmem : (⟨.saveStartup, r⟩ : TickEvent) ∈ es) :
    result.phase = .inSync ∧ res.writeStartup = true ∧
      t.capabilities.supportsSaveStartup = true ∧ res.driftPolicy ≠ .report := by
  unfold saveStartup at h
  split at h
  · rename_i hguard
    simp only [Bool.and_eq_true, beq_iff_eq, bne_iff_ne] at hguard
    exact ⟨hguard.1.1.1, hguard.1.1.2, hguard.1.2, hguard.2⟩
  · rw [(runs_pure.mp h).1] at hmem
    cases hmem

theorem pruning_writeStartup : (pruning res).writeStartup = res.writeStartup := by
  unfold pruning
  split <;> rfl

structure Saving (e : Engine) (t : Transport) (res : ResolvedIntent) (out : Result) : Prop where
  phase : out.phase = .inSync
  writeStartup : res.writeStartup = true
  supported : t.capabilities.supportsSaveStartup = true
  policy : res.driftPolicy ≠ .report

variable [Rendering]

theorem Applied.saving (h : Applied e t view res es out committed)
    (hmem : (⟨.saveStartup, r⟩ : TickEvent) ∈ es) : Saving e t res out := by
  obtain ⟨loop, cli, close, save, families, blocks, finished, hloop, hblocks, hclose, hsave, rfl⟩ :=
    h.parts
  have hloopWorked := hloop.uses (reconcileFamilies_uses (fun _ => trivial) trivial
    (.inr (carry_worked view)) _ _)
  have hcliWorked := hblocks.uses (applyCLIBlocks_uses (.inr (mutate_worked view)) _)
  have hunsaved : ∀ {verify : List TickEvent} {clean : Bool},
      Runs (e.runningVerify t (pruning res) (pruning res).managedFamilies) verify clean →
        ∀ ev ∈ verify, ev.1 ≠ .saveStartup := by
    intro verify clean hverify ev hev hsaved
    have hreads := runningVerify_reads hverify ev hev
    rw [hsaved] at hreads
    exact hreads
  have hcloseQuiet : ∀ ev ∈ close, ev.1 ≠ .saveStartup := by
    unfold finishApply at hclose
    split at hclose
    · split at hclose
      · rename_i hin
        cases (commitTransaction_closing hclose hin).1 with
        | plain r | refused timeout err => simp
        | unverified timeout hverify =>
          exact forall_mem_cons.mpr ⟨nofun, hunsaved hverify⟩
        | confirmed timeout r hdecision hverify =>
          exact forall_mem_cons.mpr
            ⟨nofun, forall_mem_append.mpr ⟨hunsaved hverify, by simp⟩⟩
      · rw [(runs_pure.mp hclose).1]
        simp
    · split at hclose <;> rw [(runs_pure.mp hclose).1] <;> simp
  simp only [mem_append] at hmem
  rcases hmem with hev | hev | hev | hev
  · exact absurd (hloopWorked _ hev) id
  · exact absurd (hcliWorked _ hev) id
  · exact absurd rfl (hcloseQuiet _ hev)
  obtain ⟨hphase, hwrite, hsupported, hpolicy⟩ := saveStartup_guard hsave hev
  obtain ⟨-, -, hkept, -⟩ := hsave.ends saveStartup_ends
  rw [pruning_writeStartup] at hwrite
  rw [pruning_driftPolicy] at hpolicy
  exact ⟨hkept.trans hphase, hwrite, hsupported, hpolicy⟩

theorem reconcile_saving (h : Runs (e.reconcile (some res)) es out)
    (hmem : (⟨.saveStartup, r⟩ : TickEvent) ∈ es) :
    ∃ t, e.validate res = .ok t ∧ Saving e t res out ∧ res.driftPolicy = .revert ∧
      (transactional t res = true → res.cliBlocks = []) := by
  have hpolicy : res.driftPolicy = .revert := by
    cases hp : res.driftPolicy with
    | revert => rfl
    | report => exact absurd (h.uses (reconcile_reads (.inl hp)) _ hmem) id
    | pause => exact absurd (h.uses (reconcile_reads (.inr hp)) _ hmem) id
  obtain ⟨before, core, after, rfl, hbarrier, hcore⟩ := reconcile_cases h
  have hcoreMem : (⟨.saveStartup, r⟩ : TickEvent) ∈ core := by
    simp only [mem_append] at hmem hbarrier
    rcases hmem with hev | hev | hev
    · exact absurd (hbarrier _ (.inl hev)) id
    · exact hev
    · exact absurd (hbarrier _ (.inr hev)) id
  cases hcore with
  | early => cases hcoreMem
  | unopened err =>
    rcases mem_singleton.mp hcoreMem with hev
    cases hev
  | direct hvalid hmode happlied =>
    exact ⟨_, hvalid, happlied.saving hcoreMem, hpolicy, fun htx => by rw [hmode] at htx; cases htx⟩
  | committed tx hvalid hmode hcli happlied =>
    rcases mem_cons.mp hcoreMem with hev | hev
    · cases hev
    · exact ⟨_, hvalid, happlied.saving hev, hpolicy, fun _ => hcli⟩
  | discarded tx hvalid hmode hcli happlied r =>
    rcases mem_cons.mp hcoreMem with hev | hev
    · cases hev
    · rcases mem_append.mp hev with hev | hev
      · exact ⟨_, hvalid, happlied.saving hev, hpolicy, fun _ => hcli⟩
      · cases mem_singleton.mp hev

theorem reconcile_saved_inSync (h : Runs (e.reconcile (some res)) es out)
    (hmem : (⟨.saveStartup, r⟩ : TickEvent) ∈ es) :
    ∀ family ∈ res.managedFamilies, ∃ fs ∈ out.familyStatuses, fs.name = family ∧ fs.state = .inSync := by
  intro family hfamily
  obtain ⟨t, -, hsaving, -⟩ := reconcile_saving h hmem
  have hreported := reconcile_reported h
  have hall := hreported.inSync hsaving.phase
  cases htouched : out.deviceTouched with
  | false => exact absurd hsaving.phase (hreported.early htouched).2
  | true =>
    obtain ⟨families, blocks, hlisted, -⟩ := hreported.listed htouched
    have hname : family ∈ families.map (·.name) := by
      rw [hlisted.order]
      exact hlisted.perm.mem_iff.mpr hfamily
    obtain ⟨fs, hfs, hfsName⟩ := mem_map.mp hname
    have hout : fs ∈ out.familyStatuses := by
      rw [hlisted.statuses]
      exact mem_append_left _ hfs
    exact ⟨fs, hout, hfsName, hall fs hout⟩

/-! ## A tick that saves -/

omit [Rendering] in
/-- A writer that finds nothing to do, without asking the device. -/
def quietWriter : SectionWriter where
  fetch := pure (.ok .nil)
  diff _ _ := .ok []
  apply _ := pure none

def agreeable : Device Unit where
  answer
    | .fetch _, s | .fetchTx _ _, s => (.ok "", s)
    | .startTransaction, s => (.ok "candidate", s)
    | .mutate _ _, s | .commit _, s | .discard _, s | .commitConfirmed _ _, s | .confirmCommit, s
    | .saveStartup, s | .acquireMutation, s | .backoff, s => (none, s)
    | .finishMutation _, s => ((), s)
  fetch_keeps _ _ := rfl

def quiet (e : Engine) : Engine := { e with lookup := some fun _ _ => some quietWriter }

theorem quiet_plan (family : String) (desired : Value) :
    e.plan family res quietWriter desired .nil = .ok [] := by
  have hprune : pruneOps family res quietWriter desired .nil = .ok [] := by
    unfold pruneOps
    split <;> rfl
  have hvalid : e.validateYANGOps family res quietWriter [] = none := by
    unfold validateYANGOps
    split
    · rfl
    · split <;> rfl
  have hdiff : e.diff res quietWriter desired .nil = .ok [] := rfl
  unfold plan
  rw [hdiff]
  dsimp only
  rw [hprune]
  dsimp only
  rw [append_nil, hvalid]

theorem pushCLIBlocks_leads (blocks : List CLIBlock) {p : Progress}
    (hp : ∀ fs ∈ p.result.familyStatuses, fs.state = .inSync) :
    ∃ q, (∀ fs ∈ q.result.familyStatuses, fs.state = .inSync) ∧
      Leads agreeable.answer () (pushCLIBlocks view blocks p) q () := by
  induction blocks generalizing p with
  | nil => exact ⟨p, hp, leads_pure⟩
  | cons block rest ih =>
    let fs : FamilyStatus := {
      name := cliName block
      state := .inSync
      opCount := countCLILines block.cli }
    have hblock : Leads agreeable.answer () (applyCLIBlock view block) fs () := by
      cases view <;> exact leads_bind leads_request leads_pure
    have hpush : ∀ fs' ∈ p.result.familyStatuses ++ [fs], fs'.state = .inSync := by
      exact forall_mem_append.mpr ⟨hp, forall_mem_singleton.mpr rfl⟩
    obtain ⟨q, hq, hrest⟩ := ih (p := { p with
      anyFailure := p.anyFailure || fs.state == .applyError
      result := { p.result with familyStatuses := p.result.familyStatuses ++ [fs] } }) hpush
    exact ⟨q, hq, leads_bind hblock hrest⟩

theorem applyCLIBlocks_leads (view : View) (hpolicy : res.driftPolicy = .revert) {p : Progress}
    (hp : ∀ fs ∈ p.result.familyStatuses, fs.state = .inSync) :
    ∃ q, (∀ fs ∈ q.result.familyStatuses, fs.state = .inSync) ∧
      Leads agreeable.answer () (applyCLIBlocks view res p) q () := by
  unfold applyCLIBlocks
  split
  · exact pushCLIBlocks_leads _ hp
  · rw [if_neg (by simp [hpolicy])]
    exact ⟨p, hp, leads_pure⟩

omit [Rendering] in
theorem quiet_verifyRunning (family : String) :
    Leads agreeable.answer () (e.quiet.verifyRunning t res family) true () := by
  refine leads_bind (direct_read_leads agreeable () t quietWriter.fetch) ?_
  cases res.configuration.find family with
  | none | some desired => exact leads_pure

omit [Rendering] in
theorem quiet_finishApply (e : Engine) (t : Transport) (view : View) (res : ResolvedIntent)
    {result : Result} (hphase : result.phase = .inSync) :
    ∃ finished committed, finished.phase = .inSync ∧
      Leads agreeable.answer () (e.quiet.finishApply t view res result) (finished, committed) () := by
  unfold finishApply
  cases view with
  | direct =>
    dsimp only
    split
    · exact ⟨{ result with confirmedCommitFallback := "non-transactional reconcile" }, false,
        hphase, leads_pure⟩
    · exact ⟨result, false, hphase, leads_pure⟩
  | transactional tx =>
    dsimp only
    rw [if_pos hphase]
    unfold commitTransaction
    generalize confirmedCommitDecision t res = decision
    obtain ⟨decided, reason⟩ := decision
    cases decided with
    | false => exact ⟨{ result with confirmedCommitFallback := reason }, true, hphase,
        leads_bind leads_request leads_pure⟩
    | true =>
      refine ⟨{ result with confirmedCommitUsed := true }, true, hphase, ?_⟩
      refine leads_bind leads_request ?_
      refine leads_bind (runningVerify_leads fun family _ => quiet_verifyRunning family) ?_
      exact leads_bind leads_request leads_pure

/-- The save, whatever it is reached by. -/
def IsSave (c : TransportCall) (_ : Unit) : Prop := c = .saveStartup

theorem quiet_applyIntent (hpolicy : res.driftPolicy = .revert) (hwrite : res.writeStartup = true)
    (hsupported : t.capabilities.supportsSaveStartup = true) :
    Meets agreeable.answer () (e.quiet.applyIntent t view res) IsSave := by
  have hrevert : (pruning res).driftPolicy = .revert := pruning_driftPolicy.trans hpolicy
  have hfamily : ∀ family ∈ e.quiet.processingOrder (pruning res),
      ∃ fs : FamilyStatus, fs.state = .inSync ∧ Leads agreeable.answer ()
        (e.quiet.reconcileFamily t view family (pruning res)) fs () :=
    fun family _ => reconcileFamily_leads (w := quietWriter) rfl rfl (quiet_plan family _)
  obtain ⟨families, hsync, hfamilies⟩ :=
    reconcileFamilies_leads hfamily (p := startProgress res) (by simp [startProgress])
  obtain ⟨blocks, hblockSync, hblocks⟩ := applyCLIBlocks_leads view hrevert hsync
  have hphase : (blocks.conclude res.driftPolicy).phase = .inSync := by
    obtain ⟨loop, hloop, -⟩ := hfamilies
    obtain ⟨cli, hcli, -⟩ := hblocks
    have htally := (hloop.ends (reconcileFamilies_ends _ startProgress_tally)).1
    exact (conclude_inSync (hcli.ends (applyCLIBlocks_ends htally)).1).mpr hblockSync
  obtain ⟨finished, committed, hfinished, hfinish⟩ :=
    quiet_finishApply e t view (pruning res) hphase
  refine meets_bind hfamilies (meets_bind hblocks (meets_bind hfinish (meets_bind_left ?_)))
  unfold saveStartup
  rw [if_pos (by simp [hfinished, pruning_writeStartup, hwrite, hsupported, hrevert])]
  exact meets_bind_left (meets_request rfl)

theorem quiet_reconcile (hvalid : e.quiet.validate res = .ok t) (hpolicy : res.driftPolicy = .revert)
    (hwrite : res.writeStartup = true) (hsupported : t.capabilities.supportsSaveStartup = true)
    (hcli : transactional t res = true → res.cliBlocks = []) :
    Meets agreeable.answer () (e.quiet.reconcile (some res)) IsSave := by
  have htransact : Meets agreeable.answer () (e.quiet.transact t res) IsSave := by
    unfold transact
    split
    · exact meets_bind leads_request
        (meets_bind_left (quiet_applyIntent hpolicy hwrite hsupported))
    · exact meets_bind_left (quiet_applyIntent hpolicy hwrite hsupported)
  have hmixed : ¬ (transactional t res && !res.cliBlocks.isEmpty) = true := by
    intro hmixed
    rw [Bool.and_eq_true] at hmixed
    rw [hcli hmixed.1] at hmixed
    exact absurd hmixed.2 (by simp)
  unfold reconcile
  dsimp only
  rw [if_neg (by simp [hpolicy]), hvalid]
  dsimp only
  unfold guarded
  rw [if_neg hmixed]
  split
  · exact meets_bind leads_request (meets_bind_left htransact)
  · exact htransact

end Engine

/-! ## Both reconcilers -/

section

variable [Rendering]

/-- The object is saved in part: some family it declares is not leased, another
is, and nothing else keeps the engine from saving. -/
def SavesPart (e : Engine) (leaser : Leaser) (resolved : ResolvedIntent) : Prop :=
  ∃ t, e.transport = some t ∧ t.capabilities.supportsSaveStartup = true ∧
    (∃ family ∈ resolved.managedFamilies, ¬ Leased leaser family) ∧
    (∃ family ∈ resolved.managedFamilies, Leased leaser family) ∧
    resolved.writeStartup = true ∧ resolved.driftPolicy = .revert ∧
    (Engine.transactional t resolved = true → resolved.cliBlocks = [])

section Common

variable {e : Engine} {leaser : Leaser} {resolved : ResolvedIntent}

theorem reconcileLeased_saved (h : Runs (reconcileLeased e blocked leased conflicts) es out)
    (hmem : (⟨.saveStartup, r⟩ : TickEvent) ∈ es) :
    ∃ result, Runs (e.reconcile (some leased)) es result ∧
      ∀ fs ∈ result.familyStatuses, fs ∈ out.familyStatuses := by
  unfold reconcileLeased at h
  split at h
  · rw [(runs_pure.mp h).1] at hmem
    cases hmem
  · obtain ⟨result, first, rest, hresult, hrest, rfl⟩ := runs_bind.mp h
    obtain ⟨rfl, rfl⟩ := runs_pure.mp hrest
    rw [append_nil]
    exact ⟨result, hresult, fun fs hfs => mem_append_left _ hfs⟩

omit [Rendering] in
theorem leaseFamilies_whole (h : ∀ family ∈ families, acquire family = .owned) :
    (leaseFamilies acquire families).1 = families := by
  rw [leaseFamilies_owned, filter_eq_self]
  intro family hfamily
  exact decide_eq_true (h family hfamily)

theorem saved_of_leased (hleased : ∀ family ∈ resolved.managedFamilies, Leased leaser family)
    (hfamilies : leased.managedFamilies = resolved.managedFamilies)
    (h : Runs (reconcileLeased e blocked leased conflicts) es out)
    (hmem : (⟨.saveStartup, r⟩ : TickEvent) ∈ es) :
    ∀ family ∈ resolved.managedFamilies, Leased leaser family ∧
      ∃ fs ∈ out.familyStatuses, fs.name = family ∧ fs.state = .inSync := by
  obtain ⟨result, hrun, hkept⟩ := reconcileLeased_saved h hmem
  intro family hfamily
  rw [← hfamilies] at hfamily
  obtain ⟨fs, hfs, hname, hstate⟩ := Engine.reconcile_saved_inSync hrun hmem family hfamily
  rw [hfamilies] at hfamily
  exact ⟨hleased family hfamily, fs, hkept fs hfs, hname, hstate⟩

theorem common_saves_whole (kind : String) (e : Engine) (leaser : Leaser)
    (resolved : ResolvedIntent) :
    SavesWhole leaser resolved (CommonConfigReconciler.reconcileOne kind e leaser resolved) := by
  intro es out r h hmem
  unfold CommonConfigReconciler.reconcileOne at h
  split at h
  · rw [(runs_pure.mp h).1] at hmem
    cases hmem
  dsimp only at h
  split at h
  · rw [(runs_pure.mp h).1] at hmem
    cases hmem
  cases leaser with
  | none => exact saved_of_leased (fun _ _ _ => nofun) rfl h hmem
  | some acquire =>
    -- the engine saved, so the flag was not cleared
    have hconflicts : (leaseFamilies acquire resolved.managedFamilies).2 = [] := by
      obtain ⟨result, hrun, -⟩ := reconcileLeased_saved h hmem
      obtain ⟨t, -, hsaving, -⟩ := Engine.reconcile_saving hrun hmem
      have hwrite := hsaving.writeStartup
      simp only [CommonConfigReconciler.acquireLeases] at hwrite
      split at hwrite
      · exact isEmpty_iff.mp ‹_›
      · cases hwrite
    have howned := (leaseFamilies_conflicts _).mp hconflicts
    refine saved_of_leased (fun family hfamily acquire' hacquire => ?_)
      (leaseFamilies_whole howned) h hmem
    obtain rfl := Option.some.inj hacquire
    exact howned family hfamily

theorem iosxe_saves_whole (hpart : ¬ SavesPart e leaser resolved) :
    SavesWhole leaser resolved (ConfigReconciler.reconcileOne e leaser resolved) := by
  intro es out r h hmem
  unfold ConfigReconciler.reconcileOne at h
  split at h
  · rw [(runs_pure.mp h).1] at hmem
    cases hmem
  dsimp only at h
  cases leaser with
  | none => exact saved_of_leased (fun _ _ _ => nofun) rfl h hmem
  | some acquire =>
    by_cases howned : ∀ family ∈ resolved.managedFamilies, acquire family = .owned
    · refine saved_of_leased (fun family hfamily acquire' hacquire => ?_)
        (leaseFamilies_whole howned) h hmem
      obtain rfl := Option.some.inj hacquire
      exact howned family hfamily
    obtain ⟨result, hrun, -⟩ := reconcileLeased_saved h hmem
    obtain ⟨t, hvalid, hsaving, hpolicy, hcli⟩ := Engine.reconcile_saving hrun hmem
    push Not at howned
    obtain ⟨family, hfamily, hother⟩ := howned
    have hsome : (!(leaseFamilies acquire resolved.managedFamilies).1.isEmpty) = true :=
      Engine.validate_families hvalid
    rw [Bool.not_eq_true', isEmpty_eq_false_iff, leaseFamilies_owned] at hsome
    obtain ⟨leased, hleased⟩ := exists_mem_of_ne_nil _ hsome
    obtain ⟨hmember, hdecided⟩ := mem_filter.mp hleased
    refine absurd ⟨t, Engine.validate_ok hvalid, hsaving.supported, ⟨family, hfamily, ?_⟩,
      ⟨leased, hmember, ?_⟩, hsaving.writeStartup, hpolicy, hcli⟩ hpart
    · exact fun hheld => hother (hheld acquire rfl)
    · intro acquire' hacquire
      obtain rfl := Option.some.inj hacquire
      exact of_decide_eq_true hdecided

theorem iosxe_saves_part (hpart : SavesPart e leaser resolved) :
    ¬ SavesWhole leaser resolved (ConfigReconciler.reconcileOne e.quiet leaser resolved) := by
  obtain ⟨t, ht, hsupported, ⟨family, hfamily, hother⟩, ⟨leased, hmember, hheld⟩, hwrite, hpolicy,
    hcli⟩ := hpart
  obtain ⟨acquire, rfl, -⟩ : ∃ acquire, leaser = some acquire ∧ acquire family ≠ .owned := by
    unfold Leased at hother
    push Not at hother
    exact hother
  intro hwhole
  have hne : (leaseFamilies acquire resolved.managedFamilies).1 ≠ [] := by
    rw [leaseFamilies_owned]
    exact ne_nil_of_mem (mem_filter.mpr ⟨hmember, decide_eq_true (hheld acquire rfl)⟩)
  have hvalid : e.quiet.validate (ConfigReconciler.acquireLeases (some acquire) resolved).1 = .ok t := by
    simp [Engine.validate, Engine.quiet, ht, ConfigReconciler.acquireLeases, hne]
  obtain ⟨before, ⟨c, r⟩, later, result, hrun, -, hsave⟩ :=
    Engine.quiet_reconcile hvalid hpolicy hwrite hsupported hcli
  obtain rfl : c = .saveStartup := hsave
  obtain ⟨out, hone⟩ : ∃ out, Runs (ConfigReconciler.reconcileOne e.quiet (some acquire) resolved)
      (before ++ ⟨.saveStartup, r⟩ :: later) out := by
    unfold ConfigReconciler.reconcileOne
    rw [if_neg (by simp [Engine.quiet, ht])]
    dsimp only
    unfold reconcileLeased
    rw [if_neg]
    · exact ⟨_, runs_bind.mpr ⟨result, _, [], hrun, runs_pure.mpr ⟨rfl, rfl⟩, (append_nil _).symm⟩⟩
    · simp [ConfigReconciler.acquireLeases, hne]
  exact hother (hwhole _ out r hone (mem_append_right _ (mem_cons_self ..)) family hfamily).1

/-- **Startup configuration is saved for a whole object.** The common
reconciler saves only when every declared family was leased and is in sync.
The IOS-XE one does so, whatever its writers and the device do, exactly for
the objects whose leases and intent never let it save a part. -/
theorem startup_saved_whole_iff (kind : String) (e : Engine) (leaser : Leaser)
    (resolved : ResolvedIntent) :
    SavesWhole leaser resolved (CommonConfigReconciler.reconcileOne kind e leaser resolved) ∧
    ((∀ lookup, SavesWhole leaser resolved
        (ConfigReconciler.reconcileOne { e with lookup := lookup } leaser resolved)) ↔
      ¬ SavesPart e leaser resolved) :=
  ⟨common_saves_whole kind e leaser resolved,
    fun hwhole hpart => iosxe_saves_part hpart (hwhole _), fun hpart _ => iosxe_saves_whole hpart⟩

end Common

end

/-! ## Half an object saved -/

namespace Sample

open Engine

attribute [local instance] rendering

/-- Two families, of which another object holds one. -/
def sharedIntent : ResolvedIntent where
  managedFamilies := ["link", "vlan"]
  configuration := ∅
  writeStartup := true

def sharedLeases : Leaser :=
  some fun family => if family = "vlan" then .held "default/other#1" else .owned

/-- The link comes up with the first change. -/
def liveDevice : (c : TransportCall) → Bool → c.Reply × Bool
  | .fetch _, up | .fetchTx _ _, up => (.ok (if up then "up" else "down"), up)
  | .startTransaction, up => (.ok "candidate", up)
  | .mutate _ _, _ => (none, true)
  | .commit _, up | .discard _, up | .commitConfirmed _ _, up | .confirmCommit, up
  | .saveStartup, up | .acquireMutation, up | .backoff, up => (none, up)
  | .finishMutation _, up => ((), up)

def sharedTick : List TickEvent × Result :=
  (ConfigReconciler.reconcileOne engine sharedLeases sharedIntent).run liveDevice false

/-- The IOS-XE reconciler saves the startup configuration although `vlan` is
held by another object, in a tick it then reports as blocked. -/
theorem saved_without_lease :
    sharedTick.2.phase = .leaseBlocked ∧
      ¬ SavesWhole sharedLeases sharedIntent
        (ConfigReconciler.reconcileOne engine sharedLeases sharedIntent) := by
  refine ⟨rfl, fun hwhole => ?_⟩
  have hevents : sharedTick.1 = sharedTick.1.take 3 ++ [⟨.saveStartup, none⟩] := rfl
  have hsaved : (⟨.saveStartup, none⟩ : TickEvent) ∈ sharedTick.1 := by
    rw [hevents]
    exact mem_append_right _ (mem_singleton.mpr rfl)
  obtain ⟨hleased, -⟩ := hwhole sharedTick.1 sharedTick.2 none (run_runs _ _ _) hsaved "vlan"
    (by decide)
  exact absurd (hleased _ rfl) (by decide)

end Sample

end VirtualKubelet.Config
