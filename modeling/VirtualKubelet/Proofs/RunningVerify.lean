import VirtualKubelet.Proofs.TickPolicy

/-!
# What is confirmed after a tentative commit

`ConfirmCommit` makes a tentative commit permanent, and `runningVerify` is what
stands before it. The residual that decides whether a family is in sync is
that of the diff and, for an intent that prunes, of the prune; `runningVerify`
looks at the diff only, and only for the families that have a block.

So whether a tick can confirm over a residual depends on the intent. It cannot
when every managed family has a block and nothing is pruned. In every other
intent that reaches a confirmed commit it can: the writers of
`confirmed_clean_iff` agree with the intent on every state but one, and the
device goes into that state when the commit is made.
-/

namespace VirtualKubelet.Config

open Go Program

/-- A call that the work on a family or a CLI block can come to. -/
def TransportCall.Worked : TransportCall → Prop
  | fetch _ | fetchTx _ _ | startTransaction | mutate _ _ | commit _ | discard _ | backoff => True
  | _ => False

/-- A device that answers each call from its state. Reading the running
configuration leaves it as it is. -/
structure Device (σ : Type) where
  answer : (c : TransportCall) → σ → c.Reply × σ
  fetch_keeps : ∀ path s, (answer (.fetch path) s).2 = s

variable {es : List TickEvent}

section Reading

variable {σ α : Type} {d : Device σ} {s : σ}

/-- What a reader gets from the running configuration of a device in a state. -/
def Device.running {α : Type} (d : Device σ) (s : σ) (reading : Reading α) : α :=
  reading.eval fun path => (d.answer (.fetch path) s).1

theorem direct_read_running (h : Runs (View.direct.read t reading) es a)
    (hanswers : Answers d.answer s es) : a = d.running s reading ∧ after d.answer s es = s := by
  induction reading generalizing es with
  | done b =>
    cases h
    exact ⟨rfl, rfl⟩
  | call path next ih =>
    obtain ⟨raw, rest, hrest, rfl⟩ := runs_ask.mp h
    obtain ⟨hreply, hlater⟩ := hanswers
    have hfetched : raw = (d.answer (.fetch path) s).1 := hreply
    rw [d.fetch_keeps] at hlater
    obtain ⟨hvalue, hafter⟩ := ih raw hrest hlater
    refine ⟨?_, ?_⟩
    · rw [hvalue, hfetched]
      rfl
    · show after d.answer (d.answer (.fetch path) s).2 rest = s
      rw [d.fetch_keeps]
      exact hafter

theorem direct_read_leads (d : Device σ) (s : σ) (t : Transport) (reading : Reading α) :
    Leads d.answer s (View.direct.read t reading) (d.running s reading) s := by
  obtain ⟨a, s', es, hrun, hanswers, rfl⟩ := leads_exists d.answer s (View.direct.read t reading)
  obtain ⟨rfl, hafter⟩ := direct_read_running hrun hanswers
  exact ⟨es, hrun, hanswers, hafter⟩

theorem retryIdempotent_leads (h : Leads d.answer s fn (.ok a) s') (further : Nat) :
    Leads d.answer s (retryIdempotent fn further) (.ok a) s' := by
  cases further with
  | zero => exact h
  | succ further => exact leads_bind h leads_pure

end Reading

namespace Engine

variable {e : Engine} {res : ResolvedIntent} {t : Transport} {σ : Type} {d : Device σ} {s : σ}
  {es : List TickEvent} {family : String} {w : SectionWriter}

/-- Nothing is left to do on the running configuration, by the residual that
decides whether a family is in sync. -/
def RunningClean (e : Engine) (res : ResolvedIntent) (d : Device σ) (s : σ) : Prop :=
  ∀ family ∈ res.managedFamilies, ∀ w, e.lookupWriter family = some w →
    ∃ observed, d.running s w.fetch = .ok observed ∧
      e.residual family (pruning res) w (res.desired family) observed = .ok []

theorem pruning_configuration : (pruning res).configuration = res.configuration := by
  unfold pruning
  split <;> rfl

theorem pruning_desired (family : String) : (pruning res).desired family = res.desired family := by
  rw [ResolvedIntent.desired, ResolvedIntent.desired, pruning_configuration]

theorem validate_ok (hvalid : e.validate res = .ok t) : e.transport = some t := by
  unfold validate at hvalid
  repeat' split at hvalid
  all_goals cases hvalid
  assumption

/-! ## What `runningVerify` shows -/

theorem verifyRunning_ends (h : Runs (e.verifyRunning t res family) es clean)
    (hanswers : Answers d.answer s es) :
    after d.answer s es = s ∧ (clean = true → ∀ w, e.lookupWriter family = some w →
      res.configuration.find family ≠ none →
      ∃ observed, d.running s w.fetch = .ok observed ∧
        e.diff res w (res.desired family) observed = .ok []) := by
  unfold verifyRunning at h
  split at h
  · obtain ⟨rfl, rfl⟩ := runs_pure.mp h
    exact ⟨rfl, nofun⟩
  split at h
  · rename_i hnone
    rw [(runs_pure.mp h).1]
    exact ⟨rfl, fun _ w hw => by cases hnone.symm.trans hw⟩
  rename_i w hw
  obtain ⟨r, read, rest, hread, hrest, rfl⟩ := runs_bind.mp h
  obtain ⟨hrunning, hkeep⟩ := direct_read_running hread (answers_append.mp hanswers).1
  cases r with
  | error err =>
    obtain ⟨rfl, rfl⟩ := runs_pure.mp hrest
    exact ⟨by rw [List.append_nil, hkeep], nofun⟩
  | ok observed =>
    dsimp only at hrest
    split at hrest
    · rename_i hnone
      rw [(runs_pure.mp hrest).1, List.append_nil]
      exact ⟨hkeep, fun _ _ _ hblock => absurd hnone hblock⟩
    rename_i desired hdesired
    split at hrest
    · obtain ⟨rfl, rfl⟩ := runs_pure.mp hrest
      exact ⟨by rw [List.append_nil, hkeep], nofun⟩
    rename_i ops hops
    obtain ⟨rfl, rfl⟩ := runs_pure.mp hrest
    refine ⟨by rw [List.append_nil, hkeep], fun hclean w' hw' _ => ?_⟩
    obtain rfl := Option.some.inj (hw.symm.trans hw')
    refine ⟨observed, hrunning.symm, ?_⟩
    rw [ResolvedIntent.desired, hdesired, Option.getD_some, hops, List.isEmpty_iff.mp hclean]

theorem runningVerify_clean (h : Runs (e.runningVerify t res families) es true)
    (hanswers : Answers d.answer s es) :
    after d.answer s es = s ∧ ∀ family ∈ families, ∀ w, e.lookupWriter family = some w →
      res.configuration.find family ≠ none →
      ∃ observed, d.running s w.fetch = .ok observed ∧
        e.diff res w (res.desired family) observed = .ok [] := by
  induction families generalizing es with
  | nil =>
    obtain ⟨rfl, -⟩ := runs_pure.mp h
    exact ⟨rfl, by simp⟩
  | cons family rest ih =>
    obtain ⟨clean, first, later, hfirst, hlater, rfl⟩ := runs_bind.mp h
    obtain ⟨hanswersFirst, hanswersLater⟩ := answers_append.mp hanswers
    obtain ⟨hkeep, hshown⟩ := verifyRunning_ends hfirst hanswersFirst
    rw [hkeep] at hanswersLater
    cases clean with
    | false => cases (runs_pure.mp hlater).2
    | true =>
      obtain ⟨hafter, hrest⟩ := ih hlater hanswersLater
      refine ⟨by rw [after_append, hkeep, hafter], fun other hother w hw hblock => ?_⟩
      rcases List.mem_cons.mp hother with rfl | hother
      · exact hshown rfl w hw hblock
      · exact hrest other hother w hw hblock

/-! ## What came before a confirmation -/

/-- A confirmation follows a tentative commit and a `runningVerify` that found
nothing, in a tick that could make one. -/
def Confirming (e : Engine) (res : ResolvedIntent) (before : List TickEvent) : Prop :=
  ∃ t tx timeout earlier verify, e.validate res = .ok t ∧ transactional t res = true ∧
    res.cliBlocks = [] ∧ (confirmedCommitDecision t (pruning res)).1 = true ∧
    before = earlier ++ ⟨.commitConfirmed tx timeout, none⟩ :: verify ∧
    Runs (e.runningVerify t (pruning res) res.managedFamilies) verify true

theorem Confirming.extend (h : Confirming e res before) (first : List TickEvent) :
    Confirming e res (first ++ before) := by
  obtain ⟨t, tx, timeout, earlier, verify, hvalid, hmode, hcli, hdecision, rfl, hverify⟩ := h
  exact ⟨t, tx, timeout, first ++ earlier, verify, hvalid, hmode, hcli, hdecision, by simp, hverify⟩

/-- The rule a confirmation obeys; other calls are free. -/
def ConfirmRule (e : Engine) (res : ResolvedIntent) (before : List TickEvent) (ev : TickEvent) :
    Prop :=
  ev.1 = .confirmCommit → Confirming e res before

theorem confirmRule_extend (h : Justified (ConfirmRule e res) es) (first : List TickEvent) :
    Justified (fun before => ConfirmRule e res (first ++ before)) es := by
  intro before ev later hes hconfirm
  exact (h before ev later hes hconfirm).extend first

theorem confirmRule_quiet (h : ∀ ev ∈ es, ev.1 ≠ .confirmCommit) :
    Justified (ConfirmRule e res) es :=
  justified_of_forall fun ev hev _ hconfirm => absurd hconfirm (h ev hev)

theorem confirmRule_worked (h : ∀ ev ∈ es, ev.1.Worked) : Justified (ConfirmRule e res) es :=
  confirmRule_quiet fun ev hev hconfirm => by
    have hworked := h ev hev
    rw [hconfirm] at hworked
    exact hworked

theorem carry_worked (view : View) (c : WriterCall) :
    (view.carry t c).Uses TransportCall.Worked := by
  cases view with
  | direct => cases c <;> exact uses_request trivial
  | transactional tx =>
    refine (transactional_carry_uses tx c).mono fun c hc => ?_
    cases c <;> trivial

theorem mutate_worked (view : View) (ops : List Op) :
    (view.mutate "" ops).Uses TransportCall.Worked := by
  cases view <;> exact uses_request trivial

theorem verified_unconfirmed (h : Runs (e.runningVerify t res families) verify clean)
    (tx : TxHandle) (timeout : Time) :
    ∀ ev ∈ (⟨.commitConfirmed tx timeout, none⟩ : TickEvent) :: verify, ev.1 ≠ .confirmCommit := by
  exact List.forall_mem_cons.mpr ⟨nofun,
    fun ev hev => (plain_of_reads (runningVerify_reads h ev hev)).2.2.1⟩

variable [Rendering]

theorem Applied.confirmRule (h : Applied e t view res es out committed)
    (hvalid : e.validate res = .ok t)
    (hview : ∀ tx, view = .transactional tx → transactional t res = true ∧ res.cliBlocks = []) :
    Justified (ConfirmRule e res) es := by
  obtain ⟨loop, cli, close, save, families, blocks, finished, hloop, hblocks, hclose, hsave, rfl⟩ :=
    h.parts
  have hloopWorked := hloop.uses (reconcileFamilies_uses (fun _ => trivial) trivial
    (.inr (carry_worked view)) _ _)
  have hcliWorked := hblocks.uses (applyCLIBlocks_uses (.inr (mutate_worked view)) _)
  have hsaveQuiet : ∀ ev ∈ save, ev.1 ≠ .confirmCommit := by
    rcases saveStartup_events hsave with rfl | ⟨r, rfl, -, -⟩ <;> simp
  refine justified_append.mpr ⟨confirmRule_worked hloopWorked, confirmRule_extend ?_ _⟩
  refine justified_append.mpr ⟨confirmRule_worked hcliWorked, confirmRule_extend ?_ _⟩
  refine justified_append.mpr ⟨?_, confirmRule_extend (confirmRule_quiet hsaveQuiet) _⟩
  cases view with
  | direct =>
    unfold finishApply at hclose
    dsimp only at hclose
    split at hclose <;> rw [(runs_pure.mp hclose).1] <;> exact justified_nil
  | transactional tx =>
    unfold finishApply at hclose
    dsimp only at hclose
    split at hclose
    · rename_i hin
      obtain ⟨hmode, hcli⟩ := hview tx rfl
      cases (commitTransaction_closing hclose hin).1 with
      | plain r | refused timeout err => exact confirmRule_quiet (by simp)
      | unverified timeout hverify =>
        exact confirmRule_quiet (verified_unconfirmed hverify tx timeout)
      | confirmed timeout r hdecision hverify =>
        rw [← List.cons_append]
        refine justified_append.mpr
          ⟨confirmRule_quiet (verified_unconfirmed hverify tx timeout), ?_⟩
        refine justified_cons.mpr ⟨fun _ => ?_, justified_nil⟩
        rw [pruning_managedFamilies] at hverify
        exact ⟨t, tx, timeout, [], _, hvalid, hmode, hcli, hdecision, by simp, hverify⟩
    · rw [(runs_pure.mp hclose).1]
      exact justified_nil

theorem reconcile_confirmRule (h : Runs (e.reconcile (some res)) es out) :
    Justified (ConfirmRule e res) es := by
  obtain ⟨before, core, later, rfl, hbarrier, hcore⟩ := reconcile_cases h
  have hquiet : ∀ ev ∈ before ++ later, ev.1 ≠ .confirmCommit :=
    fun ev hev => (plain_of_barrier (hbarrier ev hev)).2.2.1
  refine justified_append.mpr
    ⟨confirmRule_quiet fun ev hev => hquiet ev (List.mem_append_left _ hev), ?_⟩
  refine confirmRule_extend (justified_append.mpr ⟨?_, confirmRule_extend
    (confirmRule_quiet fun ev hev => hquiet ev (List.mem_append_right _ hev)) _⟩) _
  cases hcore with
  | early => exact justified_nil
  | unopened err => exact confirmRule_quiet (by simp)
  | direct hvalid _ happlied => exact happlied.confirmRule hvalid (by simp)
  | committed tx hvalid hmode hcli happlied =>
    refine justified_cons.mpr ⟨nofun, confirmRule_extend ?_ [_]⟩
    exact happlied.confirmRule hvalid fun _ _ => ⟨hmode, hcli⟩
  | discarded tx hvalid hmode hcli happlied r =>
    refine justified_cons.mpr ⟨nofun, confirmRule_extend (justified_append.mpr
      ⟨?_, confirmRule_extend (confirmRule_quiet (by simp)) _⟩) [_]⟩
    exact happlied.confirmRule hvalid fun _ _ => ⟨hmode, hcli⟩

/-! ## Confirming over a residual -/

/-- Whenever the engine calls `ConfirmCommit`, the running configuration is
clean at that moment. -/
def ConfirmsClean (e : Engine) (res : ResolvedIntent) : Prop :=
  ∀ (σ : Type) (d : Device σ) (s : σ) (es : List TickEvent) (out : Result),
    Runs (e.reconcile (some res)) es out → Answers d.answer s es →
    ∀ before r later, es = before ++ ⟨.confirmCommit, r⟩ :: later →
      RunningClean e res d (after d.answer s before)

/-- A tick of the intent can end with a confirmed commit. -/
def CanConfirm (e : Engine) (res : ResolvedIntent) : Prop :=
  ∃ t, e.transport = some t ∧ res.managedFamilies ≠ [] ∧ res.driftPolicy = .revert ∧
    transactional t res = true ∧ res.cliBlocks = [] ∧ (confirmedCommitDecision t res).1 = true

/-- `runningVerify` looks at everything the intent asks for: there is nothing
to prune, and every managed family has a block. -/
def VerifiedWhole (res : ResolvedIntent) : Prop :=
  (pruning res).pruneOnRelinquish = false ∧
    ∀ family ∈ res.managedFamilies, res.configuration.find family ≠ none

section

omit [Rendering]

theorem confirmedCommitDecision_pruning :
    confirmedCommitDecision t (pruning res) = confirmedCommitDecision t res := by
  unfold pruning
  split <;> rfl

theorem residual_unpruned (hprune : res.pruneOnRelinquish = false)
    (hdiff : e.diff res w desired observed = .ok []) :
    e.residual family res w desired observed = .ok [] := by
  unfold residual
  rw [hdiff]
  simp [pruneOps, hprune]

theorem Confirming.clean (h : Confirming e res es) (hanswers : Answers d.answer s es)
    (hwhole : VerifiedWhole res) : RunningClean e res d (after d.answer s es) := by
  obtain ⟨t, tx, timeout, earlier, verify, -, -, -, -, rfl, hverify⟩ := h
  intro family hfamily w hw
  obtain ⟨-, -, hanswersVerify⟩ := answers_append.mp hanswers
  obtain ⟨hkeep, hclean⟩ := runningVerify_clean hverify hanswersVerify
  obtain ⟨observed, hrunning, hdiff⟩ := hclean family hfamily w hw
    (by rw [pruning_configuration]; exact hwhole.2 family hfamily)
  rw [after_append]
  refine ⟨observed, ?_, ?_⟩
  · rw [← hrunning]
    exact congrArg (fun s => d.running s w.fetch) hkeep
  · rw [pruning_desired] at hdiff
    exact residual_unpruned hwhole.1 hdiff

theorem Confirming.canConfirm (h : Confirming e res es) (hpolicy : res.driftPolicy ≠ .pause) :
    CanConfirm e res := by
  obtain ⟨t, tx, timeout, earlier, verify, hvalid, hmode, hcli, hdecision, -⟩ := h
  have hfamilies := validate_families hvalid
  rw [confirmedCommitDecision_pruning] at hdecision
  refine ⟨t, validate_ok hvalid, by simpa using hfamilies, ?_, hmode, hcli, hdecision⟩
  cases hp : res.driftPolicy with
  | revert => rfl
  | report => simp [transactional, hp] at hmode
  | pause => exact absurd hp hpolicy

end

/-! ### A tick that confirms -/

theorem reconcileFamily_leads (hw : e.lookupWriter family = some w)
    (hrunning : d.running s w.fetch = .ok observed)
    (hplan : e.plan family res w (res.desired family) observed = .ok []) :
    ∃ fs : FamilyStatus, fs.state = .inSync ∧
      Leads d.answer s (e.reconcileFamily t view family res) fs s := by
  unfold reconcileFamily
  rw [hw]
  have hread := direct_read_leads d s t w.fetch
  rw [hrunning] at hread
  refine ⟨?fs, ?state, leads_bind (retryIdempotent_leads hread _) ?rest⟩
  case rest =>
    dsimp only
    rw [hplan]
    exact leads_pure
  case state => rfl

theorem reconcileFamilies_leads (h : ∀ family ∈ families, ∃ fs : FamilyStatus, fs.state = .inSync ∧
      Leads d.answer s (e.reconcileFamily t view family res) fs s)
    {p : Progress} (hp : ∀ fs ∈ p.result.familyStatuses, fs.state = .inSync) :
    ∃ q, (∀ fs ∈ q.result.familyStatuses, fs.state = .inSync) ∧
      Leads d.answer s (e.reconcileFamilies t view res families p) q s := by
  induction families generalizing p with
  | nil => exact ⟨p, hp, leads_pure⟩
  | cons family rest ih =>
    obtain ⟨fs, hfs, hleads⟩ := h family (by simp)
    have hnote : ∀ fs' ∈ (p.note family fs).result.familyStatuses, fs'.state = .inSync := by
      exact List.forall_mem_append.mpr ⟨hp, List.forall_mem_singleton.mpr hfs⟩
    obtain ⟨q, hq, hrest⟩ := ih (fun other hother => h other (by simp [hother])) hnote
    refine ⟨q, hq, leads_bind hleads ?_⟩
    rw [if_neg]
    · exact hrest
    · rw [hfs]
      unfold shouldStopAfterFamily
      split <;> simp

omit [Rendering] in
theorem runningVerify_leads
    (h : ∀ family ∈ families, Leads d.answer s (e.verifyRunning t res family) true s) :
    Leads d.answer s (e.runningVerify t res families) true s := by
  induction families with
  | nil => exact leads_pure
  | cons family rest ih =>
    exact leads_bind (h family (by simp)) (ih fun other hother => h other (by simp [hother]))

/-- What the writers of this section do about the state `dirty`. -/
def probeOps : Value → List Op
  | .text "dirty" => [{ verb := .delete, path := "/probe" }]
  | _ => []

/-- A writer for a family of one leaf, `dirty` or not. It can prune, and
`dirty` is always a reason to; it names no keys, so that what it prunes is not
scoped. Its diff sees the leaf as well where `differs`. -/
def probe (differs : Bool) : SectionWriter where
  fetch := do
    match ← Program.request "/probe" with
    | .error err => pure (.error err)
    | .ok raw => pure (.ok (.text raw))
  diff _ observed := .ok (if differs then probeOps observed else [])
  apply ops := Program.request (WriterCall.mutate "" ops)
  pruneDiff := some fun _ observed => .ok (probeOps observed)
  keysOf := some fun _ => []

/-- The leaf is clean until a commit is made tentatively, and then dirty. -/
def probed : Device Bool where
  answer
    | .fetch _, s | .fetchTx _ _, s => (.ok (if s then "dirty" else "clean"), s)
    | .startTransaction, s => (.ok "candidate", s)
    | .commitConfirmed _ _, _ => (none, true)
    | .mutate _ _, s | .commit _, s | .discard _, s | .confirmCommit, s | .saveStartup, s
    | .acquireMutation, s | .backoff, s => (none, s)
    | .finishMutation _, s => ((), s)
  fetch_keeps _ _ := rfl

/-- The writers that see more than `runningVerify`: each differs exactly where
its family has no block. -/
def probing (e : Engine) (res : ResolvedIntent) : Engine :=
  { e with lookup := some fun family _ => some (probe (res.configuration.find family).isNone) }

omit [Rendering] in
theorem probed_running (differs dirty : Bool) :
    probed.running dirty (probe differs).fetch = .ok (.text (if dirty then "dirty" else "clean")) :=
  rfl

theorem probing_plan (family : String) (differs : Bool) (desired : Value) :
    e.plan family res (probe differs) desired (.text "clean") = .ok [] := by
  have hdiff : e.diff res (probe differs) desired (.text "clean") = .ok [] := by
    cases differs <;> rfl
  have hprune : pruneOps family res (probe differs) desired (.text "clean") = .ok [] := by
    unfold pruneOps
    split <;> rfl
  have hvalid : e.validateYANGOps family res (probe differs) [] = none := by
    unfold validateYANGOps
    split
    · rfl
    · split <;> rfl
  unfold plan
  rw [hdiff]
  dsimp only
  rw [hprune]
  dsimp only
  rw [List.append_nil, hvalid]

omit [Rendering] in
/-- A dirty leaf passes `runningVerify`: where the writer would see it, the
family has no block. -/
theorem probing_verifyRunning (family : String) :
    Leads probed.answer true ((e.probing res).verifyRunning t (pruning res) family) true true := by
  have hread := direct_read_leads probed true t (probe (res.configuration.find family).isNone).fetch
  rw [probed_running] at hread
  refine leads_bind hread ?_
  dsimp only
  rw [pruning_configuration]
  cases hblock : res.configuration.find family with
  | none | some desired => exact leads_pure

def ConfirmsDirty (c : TransportCall) (dirty : Bool) : Prop := c = .confirmCommit ∧ dirty = true

omit [Rendering] in
theorem probing_commitTransaction (hdecision : (confirmedCommitDecision t (pruning res)).1 = true) :
    Meets probed.answer false ((e.probing res).commitTransaction t tx (pruning res) result)
      ConfirmsDirty := by
  unfold commitTransaction
  generalize confirmedCommitDecision t (pruning res) = decision at hdecision ⊢
  obtain ⟨decided, reason⟩ := decision
  obtain rfl : decided = true := hdecision
  refine meets_bind leads_request ?_
  refine meets_bind (runningVerify_leads fun family _ => probing_verifyRunning family) ?_
  exact meets_bind_left (meets_request ⟨rfl, rfl⟩)

theorem probing_applyIntent (hcli : res.cliBlocks = [])
    (hdecision : (confirmedCommitDecision t res).1 = true) :
    Meets probed.answer false ((e.probing res).applyIntent t (.transactional tx) res)
      ConfirmsDirty := by
  have hfamily : ∀ family ∈ (e.probing res).processingOrder (pruning res),
      ∃ fs : FamilyStatus, fs.state = .inSync ∧ Leads probed.answer false
        ((e.probing res).reconcileFamily t (.transactional tx) family (pruning res)) fs false :=
    fun family _ => reconcileFamily_leads (w := probe (res.configuration.find family).isNone) rfl
      (probed_running _ false) (probing_plan family _ _)
  obtain ⟨families, hsync, hfamilies⟩ := reconcileFamilies_leads hfamily (p := startProgress res) (by simp [startProgress])
  refine meets_bind hfamilies ?_
  obtain ⟨loop, hloop, -, -⟩ := hfamilies
  have htally := (hloop.ends (reconcileFamilies_ends _ startProgress_tally)).1
  -- with no CLI block the next step is over at once
  obtain ⟨blocks, s', hblocks⟩ := leads_exists probed.answer false
    (applyCLIBlocks (.transactional tx) (pruning res) families)
  have hblocks' := hblocks
  obtain ⟨cli, hcliRun, -, rfl⟩ := hblocks'
  obtain ⟨rfl, hstatuses⟩ := applyCLIBlocks_none (pruning_cliBlocks.trans hcli) hcliRun
  have hblockTally := (hcliRun.ends (applyCLIBlocks_ends htally)).1
  refine meets_bind hblocks (meets_bind_left ?_)
  have hphase : (blocks.conclude res.driftPolicy).phase = .inSync := by
    rw [conclude_inSync hblockTally, hstatuses]
    exact hsync
  unfold finishApply
  dsimp only
  rw [if_pos hphase]
  exact probing_commitTransaction (by rw [confirmedCommitDecision_pruning]; exact hdecision)

theorem probing_reconcile (h : CanConfirm e res) :
    Meets probed.answer false ((e.probing res).reconcile (some res)) ConfirmsDirty := by
  obtain ⟨t, ht, hfamilies, hpolicy, hmode, hcli, hdecision⟩ := h
  have hvalid : (e.probing res).validate res = .ok t := by
    simp [validate, probing, ht, hfamilies]
  have htransact : Meets probed.answer false ((e.probing res).transact t res) ConfirmsDirty := by
    unfold transact
    rw [if_pos hmode]
    exact meets_bind leads_request (meets_bind_left (probing_applyIntent hcli hdecision))
  unfold reconcile
  dsimp only
  rw [if_neg (by simp [hpolicy]), hvalid]
  dsimp only
  unfold guarded
  rw [if_neg (by simp [hcli])]
  split
  · exact meets_bind leads_request (meets_bind_left htransact)
  · exact htransact

omit [Rendering] in
theorem probe_residual (family : String) (differs : Bool) (desired : Value) :
    e.residual family res (probe differs) desired (.text "dirty") =
      .ok ((if differs then probeOps (.text "dirty") else []) ++
        if res.pruneOnRelinquish then probeOps (.text "dirty") else []) := by
  have hprune : pruneOps family res (probe differs) desired (.text "dirty") =
      .ok (if res.pruneOnRelinquish then probeOps (.text "dirty") else []) := by
    unfold pruneOps
    cases res.pruneOnRelinquish <;> rfl
  have hdiff : e.diff res (probe differs) desired (.text "dirty") =
      .ok (if differs then probeOps (.text "dirty") else []) := rfl
  simp only [residual, hdiff, hprune]

omit [Rendering] in
/-- The dirty leaf is a residual wherever `runningVerify` does not look. -/
theorem probing_dirty (hfamily : family ∈ res.managedFamilies)
    (h : (pruning res).pruneOnRelinquish = true ∨ res.configuration.find family = none) :
    ¬ RunningClean (e.probing res) res probed true := by
  intro hclean
  obtain ⟨observed, hrunning, hresidual⟩ := hclean family hfamily _ rfl
  rw [probed_running] at hrunning
  obtain rfl : Value.text "dirty" = observed := Except.ok.inj hrunning
  rw [probe_residual] at hresidual
  obtain ⟨hdiff, hprune⟩ := List.append_eq_nil_iff.mp (Except.ok.inj hresidual)
  rcases h with h | h
  · rw [if_pos h] at hprune
    cases hprune
  · rw [h] at hdiff
    cases hdiff

/-- **What a confirmed commit can be confirmed over.** Whatever the writers and
the device, the running configuration has no residual at the moment of
`ConfirmCommit`, exactly for the intents that never come to confirm, and for
those that prune nothing and give every managed family a block. -/
theorem confirmed_clean_iff (e : Engine) (res : ResolvedIntent) :
    (∀ lookup, ConfirmsClean { e with lookup := some lookup } res) ↔
      ¬ CanConfirm e res ∨ VerifiedWhole res := by
  constructor
  · intro hclean
    by_cases hcan : CanConfirm e res
    · refine .inr ?_
      obtain ⟨before, ⟨c, r⟩, later, out, hrun, hanswers, hconfirm, hdirty⟩ := probing_reconcile hcan
      subst hconfirm
      have hrunning := hclean _ Bool probed false _ out hrun hanswers before r later rfl
      rw [hdirty] at hrunning
      refine ⟨?_, fun family hfamily hnone => probing_dirty hfamily (.inr hnone) hrunning⟩
      obtain ⟨t, -, hfamilies, -⟩ := hcan
      obtain ⟨family, hfamily⟩ := List.exists_mem_of_ne_nil _ hfamilies
      refine Bool.eq_false_iff.mpr fun hprune => ?_
      exact probing_dirty hfamily (.inl hprune) hrunning
    · exact .inl hcan
  · intro hcond lookup σ d s es out hrun hanswers before r later hes
    have hconfirming := reconcile_confirmRule hrun before ⟨.confirmCommit, r⟩ later hes rfl
    have hpolicy : res.driftPolicy ≠ .pause := by
      intro hpause
      have hreads := hrun.uses (reconcile_reads (.inr hpause)) ⟨.confirmCommit, r⟩ (by simp [hes])
      exact hreads
    have hcan : CanConfirm e res := hconfirming.canConfirm hpolicy
    rw [hes] at hanswers
    exact hconfirming.clean (answers_append.mp hanswers).1 (hcond.resolve_left (not_not_intro hcan))

end Engine

/-! ## An entry the device kept -/

namespace Sample

open Engine

attribute [local instance] rendering

/-- Access lists by name. The diff only looks for lists that are to exist. -/
def aclWriter : SectionWriter where
  fetch := do
    match ← Program.request "/acl" with
    | .error err => pure (.error err)
    | .ok "" => pure (.ok (.maps []))
    | .ok name => pure (.ok (.maps [[("name", .text name)]]))
  diff _ _ := .ok []
  apply ops := Program.request (WriterCall.mutate "" ops)
  pruneDiff := some fun _ observed =>
    match observed with
    | .maps entries => .ok (entries.map fun _ => { verb := .delete, path := "/acl" })
    | _ => .ok []
  keysOf := some fun v =>
    match v with
    | .maps entries => entries.filterMap fun entry =>
      match Fields.get entry "name" with
      | .text name => some name
      | _ => none
    | _ => []

def aclEngine : Engine where
  transport := some {
    capabilities := { supportsTransactions := true, supportsConfirmedCommit := true }
    confirmedCommitter := true
    txFetcher := true }
  lookup := some fun _ _ => some aclWriter

/-- The object owned the list `old` and now declares none. -/
def aclIntent : ResolvedIntent where
  managedFamilies := ["acl"]
  configuration := Map.set ∅ "acl" (.map [])
  transactional := true
  confirmTimeoutSeconds := 60
  pruneOnRelinquish := true
  atomicReplaceOwnedKeys := Map.set ∅ "acl" ["old"]

/-- The candidate loses the list, the running configuration keeps it. -/
def keepingDevice : Device Unit where
  answer
    | .fetch _, s => (.ok "old", s)
    | .fetchTx _ _, s => (.ok "", s)
    | .startTransaction, s => (.ok "candidate", s)
    | .commitConfirmed _ _, s | .mutate _ _, s | .commit _, s | .discard _, s | .confirmCommit, s
    | .saveStartup, s | .acquireMutation, s | .backoff, s => (none, s)
    | .finishMutation _, s => ((), s)
  fetch_keeps _ _ := rfl

def aclTick : List TickEvent × Result := (aclEngine.reconcile (some aclIntent)).run keepingDevice.answer ()

/-- The list is pruned in the candidate, stays in the running configuration,
and the commit is confirmed. -/
theorem retained_entry_confirmed : ¬ ConfirmsClean aclEngine aclIntent := by
  intro hclean
  have hevents : aclTick.1 = aclTick.1.take 6 ++ ⟨.confirmCommit, none⟩ :: [] := rfl
  have hrunning := hclean Unit keepingDevice () aclTick.1 aclTick.2 (run_runs _ _ _)
    (run_answers _ _ _) _ none [] hevents
  obtain ⟨observed, hread, hresidual⟩ := hrunning "acl" (by decide) aclWriter rfl
  obtain rfl : Value.maps [[("name", .text "old")]] = observed := Except.ok.inj hread
  have hleft : aclEngine.residual "acl" (pruning aclIntent) aclWriter (aclIntent.desired "acl")
      (.maps [[("name", .text "old")]]) = .ok [{ verb := .delete, path := "/acl" }] := rfl
  rw [hleft] at hresidual
  cases hresidual

end Sample

end VirtualKubelet.Config
