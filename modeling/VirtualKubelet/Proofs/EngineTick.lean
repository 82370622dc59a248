import VirtualKubelet.Config.Engine

/-!
# What one tick of the engine can do

The parts of a tick, taken one by one: which calls each can make, and what the
statuses it gathers add up to. Everything later about whole ticks rests on the
cases of `reconcile_cases`: a tick ends before the family loop without having
called more than the barrier and `StartTransaction`, or it goes through
`applyIntent` once, between the calls that open and close its transaction.
-/

namespace VirtualKubelet.Config

open Go Program
open List hiding after

/-- A call that leaves the device as it is. -/
def TransportCall.Reads : TransportCall → Prop
  | fetch _ | backoff => True
  | _ => False

/-- A call made while the transaction `tx` is open, other than those that end
it. -/
def TransportCall.Inside (tx : TxHandle) : TransportCall → Prop
  | fetch _ | backoff => True
  | fetchTx bound _ | mutate bound _ => bound = tx
  | _ => False

def TransportCall.Barrier : TransportCall → Prop
  | acquireMutation | finishMutation _ => True
  | _ => False

/-! ## The calls of a family -/

section Calls

variable {ok : TransportCall → Prop} {t : Transport} {view : View}

theorem retryIdempotent_uses {α : Type} {fn : Tick (Except Failure α)} (hfn : fn.Uses ok)
    (hwait : ok .backoff) (further : Nat) : (retryIdempotent fn further).Uses ok := by
  induction further with
  | zero => exact hfn
  | succ further ih =>
    refine uses_bind hfn fun r => ?_
    cases r with
    | ok a => exact uses_pure
    | error err =>
      show Uses ok (if _ then _ else _)
      split
      · exact uses_pure
      refine uses_bind (uses_request hwait) fun w => ?_
      cases w with
      | some cancelled => exact uses_pure
      | none => exact ih

theorem direct_read_uses {α : Type} (hfetch : ∀ path, ok (.fetch path)) (reading : Reading α) :
    (View.direct.read t reading).Uses ok :=
  uses_handle fun path => uses_request (hfetch path)

theorem transactional_fetch_uses (tx : TxHandle) (path : String) :
    ((View.transactional tx).fetch t path).Uses (TransportCall.Inside tx) := by
  rw [View.fetch]
  split
  · exact uses_request rfl
  · exact uses_request trivial

theorem transactional_carry_uses (tx : TxHandle) (c : WriterCall) :
    ((View.transactional tx).carry t c).Uses (TransportCall.Inside tx) := by
  cases c with
  | fetch path => exact transactional_fetch_uses tx path
  | mutate bound ops => exact uses_request rfl
  | startTransaction | commit bound | discard bound => exact uses_pure

variable [Rendering] {e : Engine} {res : ResolvedIntent}

namespace Engine

/-- A family makes the calls of its reads and, unless the policy only reports,
those a writer can make through the view. -/
theorem reconcileFamily_uses (hfetch : ∀ path, ok (.fetch path)) (hwait : ok .backoff)
    (hview : res.driftPolicy = .report ∨ ∀ c, (view.carry t c).Uses ok) (family : String) :
    (e.reconcileFamily t view family res).Uses ok := by
  unfold reconcileFamily
  split
  · exact uses_pure
  rename_i w _
  refine uses_bind (retryIdempotent_uses (direct_read_uses hfetch _) hwait _) fun r => ?_
  cases r with
  | error err => exact uses_pure
  | ok observed =>
    dsimp only
    split
    · exact uses_pure
    · exact uses_pure
    split
    · exact uses_pure
    rename_i hpolicy
    have hcarry := hview.resolve_left hpolicy
    refine uses_bind (uses_handle hcarry) fun applied => ?_
    cases applied with
    | some err => exact uses_pure
    | none =>
      have hread : (view.read t w.fetch).Uses ok :=
        uses_handle fun path => hcarry (.fetch path)
      refine uses_bind (retryIdempotent_uses hread hwait _) fun verify => ?_
      cases verify with
      | error err => exact uses_pure
      | ok verify =>
        dsimp only
        split <;> exact uses_pure

theorem reconcileFamilies_uses (hfetch : ∀ path, ok (.fetch path)) (hwait : ok .backoff)
    (hview : res.driftPolicy = .report ∨ ∀ c, (view.carry t c).Uses ok) (families : List String)
    (p : Progress) : (e.reconcileFamilies t view res families p).Uses ok := by
  induction families generalizing p with
  | nil => exact uses_pure
  | cons family rest ih =>
    refine uses_bind (reconcileFamily_uses hfetch hwait hview family) fun fs => ?_
    show Uses ok (if _ then _ else _)
    split
    · exact uses_pure
    · exact ih _

theorem pushCLIBlocks_uses (hpush : ∀ ops, (view.mutate "" ops).Uses ok) (blocks : List CLIBlock)
    (p : Progress) : (pushCLIBlocks view blocks p).Uses ok := by
  induction blocks generalizing p with
  | nil => exact uses_pure
  | cons block rest ih =>
    refine uses_bind (uses_bind (hpush _) fun r => ?_) fun fs => ih _
    cases r <;> exact uses_pure

theorem applyCLIBlocks_uses
    (hpush : res.driftPolicy = .report ∨ ∀ ops, (view.mutate "" ops).Uses ok) (p : Progress) :
    (applyCLIBlocks view res p).Uses ok := by
  unfold applyCLIBlocks
  split
  · rename_i hopen
    have hpolicy : ¬ res.driftPolicy = .report := by simp_all
    exact pushCLIBlocks_uses (hpush.resolve_left hpolicy) _ p
  · split <;> exact uses_pure

omit [Rendering] in
theorem runningVerify_uses (hfetch : ∀ path, ok (.fetch path)) (families : List String) :
    (e.runningVerify t res families).Uses ok := by
  induction families with
  | nil => exact uses_pure
  | cons family rest ih =>
    refine uses_bind ?_ fun clean => ?_
    · unfold verifyRunning
      split
      · exact uses_pure
      split
      · exact uses_pure
      refine uses_bind (direct_read_uses hfetch _) fun r => ?_
      cases r with
      | error err => exact uses_pure
      | ok observed =>
        dsimp only
        split
        · exact uses_pure
        · split <;> exact uses_pure
    · cases clean
      · exact uses_pure
      · exact ih

end Engine

end Calls

/-! ## What the statuses add up to -/

namespace Engine

section Statuses

variable [Rendering] {e : Engine} {t : Transport} {view : View} {res : ResolvedIntent}
  {family : String}

theorem plan_error (h : e.plan family res w desired observed = .error status) :
    status.name = family ∧ status.state ≠ .skipped ∧ status.ownedKeys = [] := by
  unfold plan at h
  repeat' split at h
  all_goals cases h
  all_goals exact ⟨rfl, nofun, rfl⟩

/-- The keys a status reports are those of the desired block. -/
theorem reconcileFamily_ends (family : String) :
    (e.reconcileFamily t view family res).Ends
      fun fs => fs.name = family ∧ fs.state ≠ .skipped ∧ ∀ k ∈ fs.ownedKeys, ∃ w keysOf,
        e.lookupWriter family = some w ∧ w.keysOf = some keysOf ∧ k ∈ keysOf (res.desired family) := by
  unfold reconcileFamily
  split
  · exact ends_pure ⟨rfl, nofun, nofun⟩
  rename_i w hw
  extract_lets desired ownedKeys
  have hkeys : ∀ k ∈ ownedKeys, ∃ w keysOf,
      e.lookupWriter family = some w ∧ w.keysOf = some keysOf ∧ k ∈ keysOf (res.desired family) := by
    intro k hk
    unfold ownedKeys at hk
    split at hk
    · exact ⟨w, _, hw, ‹_›, hk⟩
    · cases hk
  refine ends_bind (ends_any _) fun r _ => ?_
  cases r with
  | error err => exact ends_pure ⟨rfl, nofun, nofun⟩
  | ok observed =>
    dsimp only
    split
    · obtain ⟨hname, hstate, hnone⟩ := plan_error ‹_›
      refine ends_pure ⟨hname, hstate, ?_⟩
      rw [hnone]
      nofun
    · exact ends_pure ⟨rfl, nofun, hkeys⟩
    split
    · exact ends_pure ⟨rfl, nofun, nofun⟩
    refine ends_bind (ends_any _) fun applied _ => ?_
    cases applied with
    | some err => exact ends_pure ⟨rfl, nofun, nofun⟩
    | none =>
      refine ends_bind (ends_any _) fun verify _ => ?_
      cases verify with
      | error err => exact ends_pure ⟨rfl, nofun, nofun⟩
      | ok verify =>
        dsimp only
        split
        · exact ends_pure ⟨rfl, nofun, nofun⟩
        · exact ends_pure ⟨rfl, nofun, hkeys⟩
        · exact ends_pure ⟨rfl, nofun, hkeys⟩

section

omit [Rendering]

/-- The flags say which states are among the statuses, and a family is skipped
only after another has failed or drifted. -/
structure Progress.Tally (p : Progress) : Prop where
  failure : p.anyFailure = p.result.familyStatuses.any
    fun fs => fs.state == .applyError || fs.state == .unsupported
  drift : p.anyDrift = p.result.familyStatuses.any fun fs => fs.state == .drifted
  skipped : (p.result.familyStatuses.any fun fs => fs.state == .skipped) = true →
    (p.anyFailure || p.anyDrift) = true

def Progress.names (p : Progress) : List String := p.result.familyStatuses.map (·.name)

theorem startProgress_tally : (startProgress res).Tally :=
  ⟨rfl, rfl, fun h => by simp [startProgress] at h⟩

theorem any_map_false {f : α → FamilyStatus} {P : FamilyStatus → Bool} (h : ∀ a, P (f a) = false)
    (l : List α) : (l.map f).any P = false := by
  simp [h]

end

variable {p : Progress} {fs : FamilyStatus} {policy : DriftPolicy}

omit [Rendering] in
theorem Progress.Tally.note (h : p.Tally) (hfs : fs.state ≠ .skipped) :
    (p.note family fs).Tally := by
  refine ⟨?_, ?_, fun hs => ?_⟩
  · simp [Progress.note, h.failure, Bool.or_assoc]
  · simp [Progress.note, h.drift]
  have hprior : (p.result.familyStatuses.any fun fs => fs.state == .skipped) = true := by
    simpa [Progress.note, hfs] using hs
  have := h.skipped hprior
  simp only [Progress.note, Bool.or_eq_true] at this ⊢
  tauto

theorem Progress.Tally.halt (h : p.Tally) (hstop : (p.anyFailure || p.anyDrift) = true) :
    (p.halt failed state rest).Tally := by
  refine ⟨?_, ?_, fun _ => hstop⟩
  · rw [Progress.halt, any_append, any_map_false fun _ => rfl, Bool.or_false]
    exact h.failure
  · rw [Progress.halt, any_append, any_map_false fun _ => rfl, Bool.or_false]
    exact h.drift

omit [Rendering] in
theorem shouldStopAfterFamily_noted (h : e.shouldStopAfterFamily policy fs.state = true) :
    ((p.note family fs).anyFailure || (p.note family fs).anyDrift) = true := by
  unfold shouldStopAfterFamily at h
  split at h
  · cases h
  · cases hs : fs.state <;> simp_all [Progress.note]

theorem reconcileFamilies_ends (families : List String) (h : p.Tally) :
    (e.reconcileFamilies t view res families p).Ends
      fun q => q.Tally ∧ q.names = p.names ++ families ∧
        q.result.deviceTouched = p.result.deviceTouched := by
  induction families generalizing p with
  | nil => exact ends_pure ⟨h, by simp, rfl⟩
  | cons family rest ih =>
    refine ends_bind (reconcileFamily_ends family) fun fs hfs => ?_
    have hnote : (p.note family fs).Tally := h.note hfs.2.1
    have hnames : (p.note family fs).names = p.names ++ [family] := by
      simp [Progress.names, Progress.note, hfs.1]
    show Ends _ (if _ then _ else _)
    split
    · rename_i hstop
      refine ends_pure ⟨hnote.halt (shouldStopAfterFamily_noted hstop), ?_, rfl⟩
      rw [Progress.names] at hnames
      rw [Progress.names, Progress.halt, map_append, hnames, map_map]
      simp [skippedStatus, Function.comp_def]
    · refine (ih hnote).mono fun q hq => ⟨hq.1, ?_, hq.2.2⟩
      rw [hq.2.1, hnames]
      simp

theorem applyCLIBlock_ends (block : CLIBlock) :
    (applyCLIBlock view block).Ends fun fs =>
      fs.name = cliName block ∧ (fs.state = .inSync ∨ fs.state = .applyError) := by
  refine ends_bind (ends_any _) fun r _ => ?_
  cases r with
  | some err => exact ends_pure ⟨rfl, .inr rfl⟩
  | none => exact ends_pure ⟨rfl, .inl rfl⟩

theorem pushCLIBlocks_ends (blocks : List CLIBlock) (h : p.Tally) :
    (pushCLIBlocks view blocks p).Ends fun q => q.Tally ∧ ∃ pushed,
      q.result.familyStatuses = p.result.familyStatuses ++ pushed ∧
      pushed.map (·.name) = blocks.map cliName := by
  induction blocks generalizing p with
  | nil => exact ends_pure ⟨h, [], by simp, rfl⟩
  | cons block rest ih =>
    refine ends_bind (applyCLIBlock_ends block) fun fs hfs => ?_
    have hpush : Progress.Tally { p with
        anyFailure := p.anyFailure || fs.state == .applyError
        result := { p.result with familyStatuses := p.result.familyStatuses ++ [fs] } } := by
      have hclean : (fs.state == .drifted) = false ∧ (fs.state == .skipped) = false ∧
          (fs.state == .unsupported) = false := by
        rcases hfs.2 with hs | hs <;> rw [hs] <;> decide
      refine ⟨?_, ?_, fun hs => ?_⟩
      · simp [hclean, h.failure]
      · simp [hclean, h.drift]
      · have := h.skipped (by simpa [hclean] using hs)
        simp only [Bool.or_eq_true] at this ⊢
        tauto
    refine (ih hpush).mono fun q hq => ⟨hq.1, ?_⟩
    obtain ⟨pushed, hstatuses, hnames⟩ := hq.2
    refine ⟨fs :: pushed, by rw [hstatuses]; simp, ?_⟩
    rw [map_cons, map_cons, hnames, hfs.1]

omit [Rendering] in
theorem Progress.Tally.withhold (h : p.Tally) (blocks : List CLIBlock) :
    (p.withhold blocks).Tally := by
  refine ⟨?_, ?_, fun hs => ?_⟩
  · rw [Progress.withhold, any_append, any_map_false fun _ => rfl, Bool.or_false]
    exact h.failure
  · rw [Progress.withhold, any_append, ← h.drift]
    cases blocks <;> simp [withheldStatus]
  · rw [Progress.withhold, any_append, any_map_false fun _ => rfl, Bool.or_false] at hs
    have := h.skipped hs
    simp only [Progress.withhold, Bool.or_eq_true] at this ⊢
    tauto

/-- CLI blocks are listed after the families, all of them or none. -/
theorem applyCLIBlocks_ends (h : p.Tally) :
    (applyCLIBlocks view res p).Ends fun q => q.Tally ∧ ∃ listed,
      q.result.familyStatuses = p.result.familyStatuses ++ listed ∧
      (listed = [] ∨ listed.map (·.name) = res.cliBlocks.map cliName) := by
  unfold applyCLIBlocks
  split
  · refine (pushCLIBlocks_ends _ h).mono fun q hq => ⟨hq.1, ?_⟩
    obtain ⟨pushed, hstatuses, hnames⟩ := hq.2
    exact ⟨pushed, hstatuses, .inr hnames⟩
  split
  · refine ends_pure ⟨h.withhold _, _, rfl, .inr ?_⟩
    rw [map_map]
    rfl
  · exact ends_pure ⟨h, [], by simp, .inl rfl⟩

/-! ### The phase -/

theorem conclude_frame :
    (p.conclude policy).familyStatuses = p.result.familyStatuses ∧
      (p.conclude policy).deviceTouched = p.result.deviceTouched ∧
      (p.conclude policy).atomicReplaceOwnedKeys = p.result.atomicReplaceOwnedKeys := by
  unfold Progress.conclude
  dsimp only
  repeat' split
  all_goals exact ⟨rfl, rfl, rfl⟩

theorem conclude_inSync (h : p.Tally) :
    (p.conclude policy).phase = .inSync ↔
      ∀ fs ∈ p.result.familyStatuses, fs.state = .inSync := by
  have hflags : (p.conclude policy).phase = .inSync ↔
      p.anyFailure = false ∧ p.anyDrift = false := by
    unfold Progress.conclude
    dsimp only
    repeat' split
    all_goals simp_all
  rw [hflags]
  constructor
  · rintro ⟨hfailure, hdrift⟩ fs hfs
    have hskip := h.skipped
    rw [hfailure, hdrift] at hskip
    have hf := any_eq_false.mp (h.failure ▸ hfailure) fs hfs
    have hd := any_eq_false.mp (h.drift ▸ hdrift) fs hfs
    have hs : fs.state ≠ .skipped := fun hs =>
      absurd (hskip (any_eq_true.mpr ⟨fs, hfs, by simp [hs]⟩)) (by simp)
    cases hstate : fs.state <;> simp_all
  · intro hall
    rw [h.failure, h.drift]
    exact ⟨any_eq_false.mpr fun fs hfs => by simp [hall fs hfs],
      any_eq_false.mpr fun fs hfs => by simp [hall fs hfs]⟩

theorem conclude_failed (h : p.Tally) (hfs : fs ∈ p.result.familyStatuses)
    (hstate : fs.state = .applyError ∨ fs.state = .unsupported) :
    (p.conclude policy).phase = .failed := by
  have hfailure : p.anyFailure = true := by
    rw [h.failure]
    exact any_eq_true.mpr ⟨fs, hfs, by rcases hstate with hs | hs <;> simp [hs]⟩
  unfold Progress.conclude
  rw [if_pos hfailure]

end Statuses

/-! ## The end of an applied tick -/

section Ending

variable {e : Engine} {t : Transport} {tx : TxHandle} {view : View} {res : ResolvedIntent}
  {result out : Result} {es : List TickEvent} {committed : Bool}

/-- The ways to end a transaction whose families are all in sync, and whether
each leaves it committed. -/
inductive Closing (e : Engine) (t : Transport) (tx : TxHandle) (res : ResolvedIntent) :
    List TickEvent → Bool → Prop
  | plain (r : Option Failure) : Closing e t tx res [⟨.commit tx, r⟩] r.isNone
  | refused (timeout : Time) (err : Failure) :
      Closing e t tx res [⟨.commitConfirmed tx timeout, some err⟩] false
  | unverified (timeout : Time) {verify : List TickEvent}
      (h : Runs (e.runningVerify t res res.managedFamilies) verify false) :
      Closing e t tx res (⟨.commitConfirmed tx timeout, none⟩ :: verify) false
  | confirmed (timeout : Time) {verify : List TickEvent} (r : Option Failure)
      (hdecision : (confirmedCommitDecision t res).1 = true)
      (h : Runs (e.runningVerify t res res.managedFamilies) verify true) :
      Closing e t tx res
        (⟨.commitConfirmed tx timeout, none⟩ :: (verify ++ [⟨.confirmCommit, r⟩])) r.isNone

theorem commitTransaction_closing (h : Runs (e.commitTransaction t tx res result) es (out, committed))
    (hphase : result.phase = .inSync) :
    Closing e t tx res es committed ∧ (out.phase = .inSync ↔ committed = true) := by
  unfold commitTransaction at h
  split at h
  · rename_i hdecided
    have hdecision : (confirmedCommitDecision t res).1 = true := by rw [hdecided]
    obtain ⟨r, rest, hrest, rfl⟩ := runs_ask.mp h
    cases r with
    | some err =>
      obtain ⟨rfl, rfl, rfl⟩ := runs_pure_pair.mp hrest
      exact ⟨.refused _ err, by simp [fail]⟩
    | none =>
      obtain ⟨clean, verify, rest, hverify, hend, rfl⟩ := runs_bind.mp hrest
      cases clean with
      | false =>
        obtain ⟨rfl, rfl, rfl⟩ := runs_pure_pair.mp hend
        rw [append_nil]
        exact ⟨.unverified _ hverify, by simp [fail]⟩
      | true =>
        obtain ⟨r, rest, hlast, rfl⟩ := runs_ask.mp hend
        cases r with
        | some err =>
          obtain ⟨rfl, rfl, rfl⟩ := runs_pure_pair.mp hlast
          exact ⟨.confirmed _ (some err) hdecision hverify, by simp [fail]⟩
        | none =>
          obtain ⟨rfl, rfl, rfl⟩ := runs_pure_pair.mp hlast
          exact ⟨.confirmed _ none hdecision hverify, by simp [hphase]⟩
  · obtain ⟨r, rest, hrest, rfl⟩ := runs_ask.mp h
    cases r with
    | some err =>
      obtain ⟨rfl, rfl, rfl⟩ := runs_pure_pair.mp hrest
      exact ⟨.plain (some err), by simp [fail]⟩
    | none =>
      obtain ⟨rfl, rfl, rfl⟩ := runs_pure_pair.mp hrest
      exact ⟨.plain none, by simp [hphase]⟩

/-- The end of a tick keeps the statuses, and can only turn an `InSync` into a
failure. -/
structure Settles (result out : Result) : Prop where
  statuses : out.familyStatuses = result.familyStatuses
  touched : out.deviceTouched = result.deviceTouched
  phase : out.phase = result.phase ∨ (result.phase = .inSync ∧ out.phase = .failed)

theorem finishApply_settles :
    (e.finishApply t view res result).Ends fun out => Settles result out.1 ∧
      out.1.atomicReplaceOwnedKeys = result.atomicReplaceOwnedKeys := by
  have hkeep : ∀ out : Result, out.familyStatuses = result.familyStatuses →
      out.deviceTouched = result.deviceTouched → out.phase = result.phase → Settles result out :=
    fun out hs ht hp => ⟨hs, ht, .inl hp⟩
  unfold finishApply
  split
  · split
    · rename_i hphase
      have hfail : ∀ err, Settles result (fail result err) :=
        fun err => ⟨rfl, rfl, .inr ⟨hphase, rfl⟩⟩
      unfold commitTransaction
      split
      · refine ends_bind (ends_any _) fun r _ => ?_
        cases r with
        | some err => exact ends_pure ⟨hfail _, rfl⟩
        | none =>
          refine ends_bind (ends_any _) fun clean _ => ?_
          cases clean with
          | false => exact ends_pure ⟨hfail _, rfl⟩
          | true =>
            refine ends_bind (ends_any _) fun r _ => ?_
            cases r with
            | some err => exact ends_pure ⟨hfail _, rfl⟩
            | none => exact ends_pure ⟨hkeep _ rfl rfl rfl, rfl⟩
      · refine ends_bind (ends_any _) fun r _ => ?_
        cases r with
        | some err => exact ends_pure ⟨⟨rfl, rfl, .inr ⟨hphase, rfl⟩⟩, rfl⟩
        | none => exact ends_pure ⟨hkeep _ rfl rfl rfl, rfl⟩
    · exact ends_pure ⟨hkeep _ rfl rfl rfl, rfl⟩
  · split <;> exact ends_pure ⟨hkeep _ rfl rfl rfl, rfl⟩

theorem saveStartup_ends :
    (saveStartup t res result).Ends fun out => out.familyStatuses = result.familyStatuses ∧
      out.deviceTouched = result.deviceTouched ∧ out.phase = result.phase ∧
      out.atomicReplaceOwnedKeys = result.atomicReplaceOwnedKeys := by
  unfold saveStartup
  split
  · refine ends_bind (ends_any _) fun r _ => ?_
    cases r <;> exact ends_pure ⟨rfl, rfl, rfl, rfl⟩
  · exact ends_pure ⟨rfl, rfl, rfl, rfl⟩

/-- Startup configuration is saved by one call or none, and a call is made
only for a result in sync. -/
theorem saveStartup_events (h : Runs (saveStartup t res result) es out) :
    es = [] ∨ ∃ r, es = [⟨.saveStartup, r⟩] ∧ result.phase = .inSync ∧ res.writeStartup = true := by
  unfold saveStartup at h
  split at h
  · rename_i hguard
    simp only [Bool.and_eq_true, beq_iff_eq] at hguard
    obtain ⟨r, rest, hrest, rfl⟩ := runs_ask.mp h
    refine .inr ⟨r, ?_, hguard.1.1.1, hguard.1.1.2⟩
    cases r with
    | some err | none => rw [(runs_pure.mp hrest).1]; rfl
  · exact .inl (runs_pure.mp h).1

/-! ## The whole tick -/

variable [Rendering]

/-- `applyIntent` part by part. -/
structure Applied (e : Engine) (t : Transport) (view : View) (res : ResolvedIntent)
    (es : List TickEvent) (out : Result) (committed : Bool) : Prop where
  parts : ∃ loop cli close save families blocks finished,
    Runs (e.reconcileFamilies t view (pruning res) (e.processingOrder (pruning res))
      (startProgress res)) loop families ∧
    Runs (applyCLIBlocks view (pruning res) families) cli blocks ∧
    Runs (e.finishApply t view (pruning res) (blocks.conclude res.driftPolicy)) close
      (finished, committed) ∧
    Runs (saveStartup t (pruning res) finished) save out ∧
    es = loop ++ (cli ++ (close ++ save))

theorem applyIntent_applied (h : Runs (e.applyIntent t view res) es (out, committed)) :
    Applied e t view res es out committed := by
  obtain ⟨families, loop, rest, hloop, hafterLoop, rfl⟩ := runs_bind.mp h
  obtain ⟨blocks, cli, rest, hcli, hafterCLI, rfl⟩ := runs_bind.mp hafterLoop
  obtain ⟨finished, close, rest, hclose, hafterClose, rfl⟩ := runs_bind.mp hafterCLI
  obtain ⟨saved, save, rest, hsave, hend, rfl⟩ := runs_bind.mp hafterClose
  obtain ⟨rfl, rfl, rfl⟩ := runs_pure_pair.mp hend
  exact ⟨loop, cli, close, save, families, blocks, finished.1, hloop, hcli, hclose, hsave, by simp⟩

/-- The part of a tick between the calls of the maintenance barrier. -/
inductive TickCore (e : Engine) (res : ResolvedIntent) : List TickEvent → Result → Prop
  | early {out : Result} (hstatuses : out.familyStatuses = []) (huntouched : out.deviceTouched = false)
      (hphase : out.phase ≠ .inSync) : TickCore e res [] out
  | unopened (err : Failure) {out : Result} (hstatuses : out.familyStatuses = [])
      (huntouched : out.deviceTouched = false) (hphase : out.phase = .failed) :
      TickCore e res [⟨.startTransaction, .error err⟩] out
  | direct {t : Transport} {es : List TickEvent} {out : Result} {committed : Bool}
      (hvalid : e.validate res = .ok t) (hmode : transactional t res = false)
      (h : Applied e t .direct res es out committed) : TickCore e res es out
  | committed {t : Transport} (tx : TxHandle) {es : List TickEvent} {out : Result}
      (hvalid : e.validate res = .ok t) (hmode : transactional t res = true)
      (hcli : res.cliBlocks = []) (h : Applied e t (.transactional tx) res es out true) :
      TickCore e res (⟨.startTransaction, .ok tx⟩ :: es) out
  | discarded {t : Transport} (tx : TxHandle) {es : List TickEvent} {out : Result}
      (hvalid : e.validate res = .ok t) (hmode : transactional t res = true)
      (hcli : res.cliBlocks = []) (h : Applied e t (.transactional tx) res es out false)
      (r : Option Failure) :
      TickCore e res (⟨.startTransaction, .ok tx⟩ :: (es ++ [⟨.discard tx, r⟩])) out

theorem transact_core (hvalid : e.validate res = .ok t)
    (hcli : transactional t res = true → res.cliBlocks = [])
    (h : Runs (e.transact t res) es out) : TickCore e res es out := by
  unfold transact at h
  split at h
  · rename_i hmode
    obtain ⟨r, rest, hrest, rfl⟩ := runs_ask.mp h
    cases r with
    | error err =>
      obtain ⟨rfl, rfl⟩ := runs_pure.mp hrest
      exact .unopened err rfl rfl rfl
    | ok tx =>
      obtain ⟨⟨result, committed⟩, inner, rest, hinner, hend, rfl⟩ := runs_bind.mp hrest
      have happlied := applyIntent_applied hinner
      cases committed with
      | true =>
        obtain ⟨rfl, rfl⟩ := runs_pure.mp hend
        rw [append_nil]
        exact .committed tx hvalid hmode (hcli hmode) happlied
      | false =>
        obtain ⟨r, rest, hlast, rfl⟩ := runs_ask.mp hend
        obtain ⟨rfl, rfl⟩ := runs_pure.mp hlast
        exact .discarded tx hvalid hmode (hcli hmode) happlied r
  · rename_i hmode
    obtain ⟨⟨result, committed⟩, inner, rest, hinner, hend, rfl⟩ := runs_bind.mp h
    obtain ⟨rfl, rfl⟩ := runs_pure.mp hend
    rw [append_nil]
    exact .direct hvalid (by simpa using hmode) (applyIntent_applied hinner)

theorem guarded_core (hvalid : e.validate res = .ok t) (h : Runs (e.guarded t res) es out) :
    ∃ before core after, es = before ++ (core ++ after) ∧
      (∀ ev ∈ before ++ after, ev.1.Barrier) ∧ TickCore e res core out := by
  unfold guarded at h
  split at h
  · obtain ⟨rfl, rfl⟩ := runs_pure.mp h
    exact ⟨[], [], [], rfl, by simp, .early rfl rfl (by simp)⟩
  rename_i hmixed
  have hcli : transactional t res = true → res.cliBlocks = [] := by
    intro hmode
    simpa [hmode] using hmixed
  split at h
  · obtain ⟨r, rest, hrest, rfl⟩ := runs_ask.mp h
    cases r with
    | some err =>
      obtain ⟨rfl, rfl⟩ := runs_pure.mp hrest
      refine ⟨[⟨.acquireMutation, some err⟩], [], [], rfl, ?_, .early rfl rfl (by simp)⟩
      simp [TransportCall.Barrier]
    | none =>
      obtain ⟨result, core, rest, hcore, hend, rfl⟩ := runs_bind.mp hrest
      obtain ⟨u, rest, hlast, rfl⟩ := runs_ask.mp hend
      obtain ⟨rfl, rfl⟩ := runs_pure.mp hlast
      refine ⟨_, core, _, rfl, ?_, transact_core hvalid hcli hcore⟩
      simp [TransportCall.Barrier]
  · exact ⟨[], es, [], by simp, by simp, transact_core hvalid hcli h⟩

/-- Every tick is one of the cases of `TickCore`, between calls of the barrier. -/
theorem reconcile_cases (h : Runs (e.reconcile (some res)) es out) :
    ∃ before core after, es = before ++ (core ++ after) ∧
      (∀ ev ∈ before ++ after, ev.1.Barrier) ∧ TickCore e res core out := by
  unfold reconcile at h
  dsimp only at h
  split at h
  · obtain ⟨rfl, rfl⟩ := runs_pure.mp h
    exact ⟨[], [], [], rfl, by simp, .early rfl rfl (by simp)⟩
  · split at h
    · obtain ⟨rfl, rfl⟩ := runs_pure.mp h
      exact ⟨[], [], [], rfl, by simp, .early rfl rfl (by simp)⟩
    · exact guarded_core ‹_› h

end Ending

end Engine

end VirtualKubelet.Config
