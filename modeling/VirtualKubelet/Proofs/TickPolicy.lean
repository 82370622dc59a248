import VirtualKubelet.Proofs.Transaction

/-!
# What the drift policy allows a tick to do

Under `report` and `pause` a tick only reads. Under `revert` with
`StopOnRevertFailure` the first family that does not end in sync is the last
one whose calls reach the device: the rest are listed as skipped, no CLI block
is pushed, and nothing is read again.

Whatever the policy, a tick that reaches the family loop lists every managed
family in the order of processing; the phase is `InSync` only over statuses
that all are, and `Failed` over any that could not be applied. A tick that
ends before the loop lists none.
-/

namespace VirtualKubelet.Config

open Go Program

/-- A call that reads or writes the device's configuration. -/
def TransportCall.Touches : TransportCall → Prop
  | fetch _ | fetchTx _ _ | mutate _ _ => True
  | _ => False

/-- A state that stops the loop under `StopOnRevertFailure`. -/
def FamilyState.Stops (state : FamilyState) : Prop :=
  state = .applyError ∨ state = .unsupported ∨ state = .drifted

namespace Engine

variable [Rendering] {e : Engine} {t : Transport} {view : View} {res : ResolvedIntent}
  {es : List TickEvent} {out : Result}

/-! ## Reading only -/

theorem applyIntent_reads (hpolicy : res.driftPolicy = .report) :
    (e.applyIntent t .direct res).Uses TransportCall.Reads := by
  have hpruning : (pruning res).driftPolicy = .report := by
    unfold pruning
    split <;> exact hpolicy
  refine uses_bind (reconcileFamilies_uses (fun _ => trivial) trivial (.inl hpruning) _ _)
    fun families => ?_
  refine uses_bind (applyCLIBlocks_uses (.inl hpruning) _) fun blocks => ?_
  refine uses_bind ?_ fun finished => ?_
  · unfold finishApply
    dsimp only
    split <;> exact uses_pure
  · refine uses_bind ?_ fun _ => uses_pure
    unfold saveStartup
    rw [if_neg (by simp [hpruning])]
    exact uses_pure

theorem reconcile_reads (hpolicy : res.driftPolicy = .report ∨ res.driftPolicy = .pause) :
    (e.reconcile (some res)).Uses TransportCall.Reads := by
  unfold reconcile
  dsimp only
  split
  · exact uses_pure
  rename_i hpause
  have hreport := hpolicy.resolve_right hpause
  split
  · exact uses_pure
  rename_i t _
  have hmode : transactional t res = false := by simp [transactional, hreport]
  unfold guarded
  rw [if_neg (by simp [hmode]), if_neg (by simp [hreport])]
  unfold transact
  rw [if_neg (by simp [hmode])]
  exact uses_bind (applyIntent_reads hreport) fun _ => uses_pure

/-! ## Stopping at the first failure -/

section

omit [Rendering]

theorem pruning_driftPolicy : (pruning res).driftPolicy = res.driftPolicy := by
  unfold pruning
  split <;> rfl

theorem validate_families (hvalid : e.validate res = .ok t) :
    (!res.managedFamilies.isEmpty) = true := by
  unfold validate at hvalid
  repeat' split at hvalid
  all_goals cases hvalid
  rename_i hfamilies _
  simpa using hfamilies

theorem shouldStopAfterFamily_iff (hstop : e.policy.stopOnRevertFailure = true)
    (state : FamilyState) :
    e.shouldStopAfterFamily .revert state = true ↔ state.Stops := by
  unfold shouldStopAfterFamily
  rw [hstop]
  cases state <;> simp [FamilyState.Stops]

end

/-- A loop in which some family stopped: it is the loop over the families up to
that one, and the rest are skipped. -/
structure Stopped (e : Engine) (t : Transport) (view : View) (res : ResolvedIntent)
    (families : List String) (p : Progress) (es : List TickEvent) (q : Progress)
    (synced : List FamilyStatus) (stopper : FamilyStatus) : Prop where
  halted : q.failFastHalted = true
  inSync : ∀ fs ∈ synced, fs.state = .inSync
  stops : stopper.state.Stops
  split : ∃ attempted rest stopped, families = attempted ++ rest ∧
    attempted.length = synced.length + 1 ∧
    Runs (e.reconcileFamilies t view res attempted p) es stopped ∧
    stopped.result.familyStatuses = p.result.familyStatuses ++ (synced ++ [stopper]) ∧
    ∃ failed, q.result.familyStatuses =
      stopped.result.familyStatuses ++ rest.map (skippedStatus failed stopper.state)

theorem reconcileFamilies_stops (hpolicy : res.driftPolicy = .revert)
    (hstop : e.policy.stopOnRevertFailure = true)
    (h : Runs (e.reconcileFamilies t view res families p) es q) :
    (∃ synced, q.result.familyStatuses = p.result.familyStatuses ++ synced ∧
      ∀ fs ∈ synced, fs.state = .inSync) ∨
    ∃ synced stopper, Stopped e t view res families p es q synced stopper := by
  induction families generalizing p es with
  | nil =>
    obtain ⟨rfl, rfl⟩ := runs_pure.mp h
    exact .inl ⟨[], by simp, by simp⟩
  | cons family rest ih =>
    obtain ⟨fs, first, later, hfs, hrest, rfl⟩ := runs_bind.mp h
    have hname := hfs.ends (reconcileFamily_ends family)
    rw [hpolicy] at hrest
    have hiff := shouldStopAfterFamily_iff hstop fs.state
    by_cases hbad : fs.state.Stops
    · -- the run over this family alone stops at the same place
      rw [if_pos (hiff.mpr hbad)] at hrest
      obtain ⟨rfl, rfl⟩ := runs_pure.mp hrest
      refine .inr ⟨[], fs, rfl, by simp, hbad, [family], rest,
        (p.note family fs).halt family fs.state [], rfl, rfl, ?_, ?_, family, ?_⟩
      · refine runs_bind.mpr ⟨fs, first, [], hfs, ?_, rfl⟩
        rw [hpolicy, if_pos (hiff.mpr hbad)]
        exact runs_pure.mpr ⟨rfl, rfl⟩
      · simp [Progress.halt, Progress.note]
      · simp [Progress.halt, Progress.note]
    · rw [if_neg (hiff.not.mpr hbad)] at hrest
      have hsync : fs.state = .inSync := by
        have hskip := hname.2
        cases hs : fs.state <;> simp_all [FamilyState.Stops]
      rcases ih hrest with ⟨synced, hstatuses, hall⟩ | ⟨synced, stopper, hstopped⟩
      · refine .inl ⟨fs :: synced, ?_, ?_⟩
        · rw [hstatuses]
          simp [Progress.note]
        · exact List.forall_mem_cons.mpr ⟨hsync, hall⟩
      · obtain ⟨attempted, unattempted, stopped, rfl, hlen, hrun, hlisted, failed, hskipped⟩ :=
          hstopped.split
        refine .inr ⟨fs :: synced, stopper, hstopped.halted, ?_, hstopped.stops,
          family :: attempted, unattempted, stopped, rfl, by simp [hlen], ?_, ?_, failed, hskipped⟩
        · exact List.forall_mem_cons.mpr ⟨hsync, hstopped.inSync⟩
        · refine runs_bind.mpr ⟨fs, first, later, hfs, ?_, rfl⟩
          rw [hpolicy, if_neg (hiff.not.mpr hbad)]
          exact hrun
        · rw [hlisted]
          simp [Progress.note]

theorem applyCLIBlocks_halted {p q : Progress} (hpolicy : res.driftPolicy = .revert)
    (hhalted : p.failFastHalted = true) (h : Runs (applyCLIBlocks view res p) es q) :
    es = [] ∧ q = p := by
  unfold applyCLIBlocks at h
  rw [if_neg (by simp [hhalted]), if_neg (by simp [hpolicy])] at h
  exact runs_pure.mp h

omit [Rendering] in
theorem finishApply_not_inSync {result finished : Result} (hphase : result.phase ≠ .inSync)
    (h : Runs (e.finishApply t view res result) es (finished, committed)) :
    es = [] ∧ finished.phase ≠ .inSync := by
  unfold finishApply at h
  repeat' split at h
  · exact absurd ‹_› hphase
  all_goals
    obtain ⟨rfl, rfl, -⟩ := runs_pure_pair.mp h
    exact ⟨rfl, hphase⟩

/-! ## The statuses of a tick -/

/-- The statuses of a tick that reached the loop: the families in the order of
processing, then the CLI blocks, all of them or none. -/
structure Listed (e : Engine) (res : ResolvedIntent) (out : Result)
    (families blocks : List FamilyStatus) : Prop where
  statuses : out.familyStatuses = families ++ blocks
  order : families.map (·.name) = e.processingOrder (pruning res)
  perm : (e.processingOrder (pruning res)).Perm res.managedFamilies
  blocks : blocks = [] ∨ blocks.map (·.name) = res.cliBlocks.map cliName

/-- The first family that does not end in sync is the last one attempted: every
call that touches the device belongs to the loop over the families up to it,
and no CLI block is listed. -/
def FailFast (e : Engine) (res : ResolvedIntent) (es : List TickEvent)
    (families blocks : List FamilyStatus) : Prop :=
  (∃ fs ∈ families, fs.state.Stops) →
    blocks = [] ∧ ∃ t view synced stopper skipped attempted later before loop after stopped,
      families = synced ++ stopper :: skipped ∧ (∀ fs ∈ synced, fs.state = .inSync) ∧
      stopper.state.Stops ∧ (∀ fs ∈ skipped, fs.state = .skipped) ∧
      e.processingOrder (pruning res) = attempted ++ later ∧
      attempted.length = synced.length + 1 ∧
      Runs (e.reconcileFamilies t view (pruning res) attempted (startProgress res)) loop stopped ∧
      stopped.result.familyStatuses = synced ++ [stopper] ∧
      es = before ++ (loop ++ after) ∧ ∀ ev ∈ before ++ after, ¬ ev.1.Touches

theorem FailFast.extend (h : FailFast e res es families blocks)
    (hquiet : ∀ ev ∈ first ++ last, ¬ ev.1.Touches) :
    FailFast e res (first ++ (es ++ last)) families blocks := by
  intro hstop
  obtain ⟨hblocks, t, view, synced, stopper, skipped, attempted, later, before, loop, after,
    stopped, hsplit, hsynced, hstops, hskipped, horder, hlen, hrun, hlisted, rfl, hothers⟩ := h hstop
  refine ⟨hblocks, t, view, synced, stopper, skipped, attempted, later, first ++ before, loop,
    after ++ last, stopped, hsplit, hsynced, hstops, hskipped, horder, hlen, hrun, hlisted, by simp, ?_⟩
  intro ev hev
  simp only [List.mem_append] at hev hquiet hothers
  rcases hev with (hev | hev) | hev | hev
  · exact hquiet ev (.inl hev)
  · exact hothers ev (.inl hev)
  · exact hothers ev (.inr hev)
  · exact hquiet ev (.inr hev)

omit [Rendering] in
theorem Barrier.quiet {c : TransportCall} (h : c.Barrier) : ¬ c.Touches := by
  cases c <;> first | exact fun touched => touched | exact fun _ => h

theorem pushCLIBlocks_frame (blocks : List CLIBlock) (p : Progress) :
    (pushCLIBlocks view blocks p).Ends
      fun q => q.result.deviceTouched = p.result.deviceTouched ∧
        q.result.atomicReplaceOwnedKeys = p.result.atomicReplaceOwnedKeys := by
  induction blocks generalizing p with
  | nil => exact ends_pure ⟨rfl, rfl⟩
  | cons block rest ih =>
    refine ends_bind (ends_any _) fun fs _ => ?_
    exact (ih _).mono fun q hq => hq

theorem applyCLIBlocks_frame (p : Progress) :
    (applyCLIBlocks view res p).Ends
      fun q => q.result.deviceTouched = p.result.deviceTouched ∧
        q.result.atomicReplaceOwnedKeys = p.result.atomicReplaceOwnedKeys := by
  unfold applyCLIBlocks
  split
  · exact pushCLIBlocks_frame _ p
  · split <;> exact ends_pure ⟨rfl, rfl⟩

/-- What a tick that goes through `applyIntent` reports. -/
theorem Applied.report (h : Applied e t view res es out committed) :
    out.deviceTouched = !res.managedFamilies.isEmpty ∧
    (out.phase = .inSync → ∀ fs ∈ out.familyStatuses, fs.state = .inSync) ∧
    (∀ fs ∈ out.familyStatuses, fs.state = .applyError ∨ fs.state = .unsupported →
      out.phase = .failed) ∧
    ∃ families blocks, Listed e res out families blocks ∧
      (res.driftPolicy = .revert → e.policy.stopOnRevertFailure = true →
        FailFast e res es families blocks) := by
  obtain ⟨loop, cli, close, save, families, blocks, finished, hloop, hblocks, hclose, hsave, rfl⟩ :=
    h.parts
  obtain ⟨htally, hnames, hdevice⟩ := hloop.ends (reconcileFamilies_ends _ startProgress_tally)
  obtain ⟨hblockTally, listed, hlisted, hcli⟩ := hblocks.ends (applyCLIBlocks_ends htally)
  have hsettles := (hclose.ends finishApply_settles).1
  obtain ⟨hstatuses, htouched, hphase, -⟩ := hsave.ends saveStartup_ends
  have hall : out.familyStatuses = blocks.result.familyStatuses := by
    rw [hstatuses, hsettles.statuses, conclude_frame.1]
  refine ⟨?_, ?_, ?_, families.result.familyStatuses, listed, ⟨?_, hnames, ?_, ?_⟩, ?_⟩
  · rw [htouched, hsettles.touched, conclude_frame.2.1, (hblocks.ends (applyCLIBlocks_frame _)).1,
      hdevice]
    rfl
  · intro hin
    rw [hphase] at hin
    rw [hall]
    rcases hsettles.phase with hp | ⟨hp, -⟩
    · exact (conclude_inSync hblockTally).mp (hp.symm.trans hin)
    · exact (conclude_inSync hblockTally).mp hp
  · intro fs hfs hbad
    rw [hall] at hfs
    rw [hphase]
    rcases hsettles.phase with hp | ⟨-, hp⟩
    · exact hp.trans (conclude_failed hblockTally hfs hbad)
    · exact hp
  · rw [hall, hlisted]
  · rw [← pruning_managedFamilies]
    exact processingOrder_perm
  · rw [← pruning_cliBlocks]
    exact hcli
  rintro hpolicy hstop ⟨bad, hbad, hstops⟩
  have hrevert : (pruning res).driftPolicy = .revert := by rw [pruning_driftPolicy, hpolicy]
  rcases reconcileFamilies_stops hrevert hstop hloop with ⟨synced, hsynced, hin⟩ | ⟨synced, stopper, hhalt⟩
  · -- every family ended in sync, so none stopped the loop
    rw [hsynced] at hbad
    have hbadSync := hin bad (by simpa [startProgress] using hbad)
    rw [hbadSync] at hstops
    rcases hstops with hs | hs | hs <;> cases hs
  · obtain ⟨rfl, rfl⟩ := applyCLIBlocks_halted hrevert hhalt.halted hblocks
    have hnotSync : (blocks.conclude res.driftPolicy).phase ≠ .inSync := by
      intro hin
      have hbadSync := (conclude_inSync hblockTally).mp hin bad hbad
      rw [hbadSync] at hstops
      rcases hstops with hs | hs | hs <;> cases hs
    obtain ⟨rfl, hfinished⟩ := finishApply_not_inSync hnotSync hclose
    have hsaved : save = [] := by
      rcases saveStartup_events hsave with hs | ⟨_, _, hs, _⟩
      · exact hs
      · exact absurd hs hfinished
    subst hsaved
    obtain ⟨attempted, rest, stopped, horder, hlen, hrun, hstopped, failed, hskipped⟩ := hhalt.split
    refine ⟨by simpa using hlisted, t, view, synced, stopper,
      rest.map (skippedStatus failed stopper.state), attempted, rest, [], loop, [], stopped, ?_,
      hhalt.inSync, hhalt.stops, ?_, horder, hlen, hrun, ?_, by simp, by simp⟩
    · rw [hskipped, hstopped]
      simp [startProgress]
    · intro fs hfs
      obtain ⟨family, -, rfl⟩ := List.mem_map.mp hfs
      rfl
    · rw [hstopped]
      simp [startProgress]

/-- What a tick reports, and what its policy lets it call. -/
structure Reported (e : Engine) (res : ResolvedIntent) (es : List TickEvent) (out : Result) :
    Prop where
  inSync : out.phase = .inSync → ∀ fs ∈ out.familyStatuses, fs.state = .inSync
  failed : ∀ fs ∈ out.familyStatuses, fs.state = .applyError ∨ fs.state = .unsupported →
    out.phase = .failed
  early : out.deviceTouched = false → out.familyStatuses = [] ∧ out.phase ≠ .inSync
  listed : out.deviceTouched = true → ∃ families blocks, Listed e res out families blocks ∧
    (res.driftPolicy = .revert → e.policy.stopOnRevertFailure = true →
      FailFast e res es families blocks)

theorem TickCore.reported (h : TickCore e res es out) : Reported e res es out := by
  have hnothing : ∀ {es : List TickEvent}, out.familyStatuses = [] → out.deviceTouched = false →
      out.phase ≠ .inSync → Reported e res es out := by
    intro es hstatuses huntouched hphase
    refine ⟨fun hin => absurd hin hphase, fun fs hfs => ?_, fun _ => ⟨hstatuses, hphase⟩,
      fun htouched => ?_⟩
    · rw [hstatuses] at hfs
      cases hfs
    · rw [huntouched] at htouched
      cases htouched
  have happlied : ∀ (first last : List TickEvent) {t : Transport} {view : View}
      {es : List TickEvent} {committed : Bool}, e.validate res = .ok t →
      Applied e t view res es out committed → (∀ ev ∈ first ++ last, ¬ ev.1.Touches) →
      Reported e res (first ++ (es ++ last)) out := by
    intro first last t view es committed hvalid h hothers
    obtain ⟨htouched, hin, hfailed, families, blocks, hlisted, hfast⟩ := h.report
    refine ⟨hin, hfailed, fun hfalse => ?_, fun _ => ?_⟩
    · rw [htouched, validate_families hvalid] at hfalse
      cases hfalse
    · exact ⟨families, blocks, hlisted, fun hpolicy hstop => (hfast hpolicy hstop).extend hothers⟩
  cases h with
  | early hstatuses huntouched hphase =>
    exact hnothing hstatuses huntouched hphase
  | unopened err hstatuses huntouched hphase =>
    exact hnothing hstatuses huntouched (by rw [hphase]; exact nofun)
  | direct hvalid hmode h => simpa using happlied [] [] hvalid h (by simp)
  | committed tx hvalid hmode hcli h =>
    simpa using happlied [⟨.startTransaction, .ok tx⟩] [] hvalid h
      (by simp [TransportCall.Touches])
  | discarded tx hvalid hmode hcli h r =>
    exact happlied [⟨.startTransaction, .ok tx⟩] [⟨.discard tx, r⟩] hvalid h
      (by simp [TransportCall.Touches])

theorem reconcile_reported (h : Runs (e.reconcile (some res)) es out) : Reported e res es out := by
  obtain ⟨before, core, after, rfl, hbarrier, hcore⟩ := reconcile_cases h
  have hreported := hcore.reported
  refine ⟨hreported.inSync, hreported.failed, hreported.early, fun htouched => ?_⟩
  obtain ⟨families, blocks, hlisted, hfast⟩ := hreported.listed htouched
  refine ⟨families, blocks, hlisted, fun hpolicy hstop => (hfast hpolicy hstop).extend ?_⟩
  exact fun ev hev => Barrier.quiet (hbarrier ev hev)

/-- A tick under `report` or `pause` only reads; under `revert` it can be made
to stop at the first family that does not end in sync; and the result of a
tick that reached the device lists every managed family, with a phase that
agrees with the statuses. -/
theorem tick_follows_policy (e : Engine) (res : ResolvedIntent) (es : List TickEvent)
    (out : Result) (h : Runs (e.reconcile (some res)) es out) :
    (res.driftPolicy = .report ∨ res.driftPolicy = .pause → ∀ ev ∈ es, ev.1.Reads) ∧
      Reported e res es out :=
  ⟨fun hpolicy => h.uses (reconcile_reads hpolicy), reconcile_reported h⟩

end Engine

/-! ## A tick that stops, and one that lists nothing -/

namespace Sample

open Engine

attribute [local instance] rendering

/-- The engine that stops at the first family it cannot bring in sync. -/
def failFastEngine : Engine :=
  { engine with
    policy := { stopOnRevertFailure := true }
    lookup := some fun family _ => if family = "link" then some linkWriter else none }

def failFastIntent : ResolvedIntent where
  managedFamilies := ["qos", "link"]
  configuration := ∅
  cliBlocks := [{ templateName := "banner", cli := "banner motd x" }]

def failFastTick : List TickEvent × Result :=
  (failFastEngine.reconcile (some failFastIntent)).run device ()

theorem tick_follows_policy_sample :
    failFastTick.2.familyStatuses.map (·.state) = [.unsupported, .skipped] ∧
      failFastTick.2.phase = .failed ∧ Reported failFastEngine failFastIntent failFastTick.1 failFastTick.2 :=
  ⟨rfl, rfl, (tick_follows_policy failFastEngine failFastIntent failFastTick.1 failFastTick.2
    (run_runs device () _)).2⟩

/-- A paused object's families are not listed at all. -/
theorem paused_tick_lists_nothing :
    ∃ es out, Runs (engine.reconcile (some { intent with driftPolicy := .pause })) es out ∧
      "link" ∈ intent.managedFamilies ∧ out.familyStatuses = [] :=
  ⟨_, _, run_runs device () _, by decide, rfl⟩

end Sample

end VirtualKubelet.Config
