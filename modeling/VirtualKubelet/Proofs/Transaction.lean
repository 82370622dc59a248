import VirtualKubelet.Proofs.EngineTick

/-!
# A transactional tick is atomic

Over every behaviour of the writers and every reply of the transport, the
calls of a transactional tick form one transaction. `TransactionRule` says what
must have happened before each call; the counts say that the transaction is
committed at most once and discarded exactly when an opened transaction was
not committed; and the phase of the result says which of the two it was.

The deferred `Discard` belongs to the open transaction: a tick that is turned
away earlier, or whose `StartTransaction` fails, has nothing to discard.
-/

namespace VirtualKubelet.Config

open Go Program
open List hiding after diff lookup

def Opened (es : List TickEvent) (tx : TxHandle) : Prop :=
  (⟨.startTransaction, .ok tx⟩ : TickEvent) ∈ es

/-- A commit, or the confirmation of a tentative one, that succeeded. -/
def TickEvent.commitSucceeded : TickEvent → Bool
  | ⟨.commit _, r⟩ => Option.isNone (α := Failure) r
  | ⟨.confirmCommit, r⟩ => Option.isNone (α := Failure) r
  | _ => false

def Committed (es : List TickEvent) : Prop := es.any TickEvent.commitSucceeded = true

def TransportCall.commits : TransportCall → Bool
  | commit _ | commitConfirmed _ _ => true
  | _ => false

def TransportCall.discards : TransportCall → Bool
  | discard _ => true
  | _ => false

/-- A call with no part in the life cycle of a transaction. -/
def TransportCall.Plain (c : TransportCall) : Prop :=
  c ≠ .startTransaction ∧ c.commits = false ∧ c ≠ .confirmCommit ∧ c.discards = false

namespace Engine

variable [Rendering]

/-- The events end with a family loop in the transaction `tx` that lists every
managed family, in the order of processing, as in sync. -/
def FamiliesInSync (e : Engine) (t : Transport) (tx : TxHandle) (res : ResolvedIntent)
    (es : List TickEvent) : Prop :=
  ∃ opening loop families, es = opening ++ loop ∧ Opened opening tx ∧
    Runs (e.reconcileFamilies t (.transactional tx) (pruning res)
      (e.processingOrder (pruning res)) (startProgress res)) loop families ∧
    families.names.Perm res.managedFamilies ∧
    ∀ fs ∈ families.result.familyStatuses, fs.state = .inSync

/-- What came before a call of a transactional tick. -/
def TransactionRule (e : Engine) (t : Transport) (res : ResolvedIntent)
    (before : List TickEvent) (ev : TickEvent) : Prop :=
  match ev.1 with
  | .startTransaction => ∀ ev ∈ before, ev.1 ≠ .startTransaction
  | .mutate tx _ => Opened before tx
  | .commit tx | .commitConfirmed tx _ => FamiliesInSync e t tx res before
  | .confirmCommit => ∃ earlier tx timeout verify,
      before = earlier ++ ⟨.commitConfirmed tx timeout, none⟩ :: verify ∧
      Runs (e.runningVerify t (pruning res) res.managedFamilies) verify true
  | .saveStartup => Committed before
  | _ => True

variable {e : Engine} {t : Transport} {tx : TxHandle} {res : ResolvedIntent} {es : List TickEvent}
  {out : Result} {c : TransportCall}

/-! ## Parts of the event list -/

section

omit [Rendering]

theorem committed_append {first second : List TickEvent} :
    Committed (first ++ second) ↔ Committed first ∨ Committed second := by
  rw [Committed, any_append, Bool.or_eq_true]
  exact Iff.rfl

theorem committed_singleton :
    Committed [ev] ↔ TickEvent.commitSucceeded ev = true := by
  rw [Committed, any_cons, any_nil, Bool.or_false]

theorem not_committed_tentative {timeout : Time} {r : Option Failure} :
    ¬ Committed [⟨.commitConfirmed tx timeout, r⟩] := by
  rw [committed_singleton]
  exact nofun

theorem plain_not_succeeded (h : ev.1.Plain) : TickEvent.commitSucceeded ev = false := by
  obtain ⟨c, r⟩ := ev
  cases c with
  | commit tx => exact absurd h.2.1 (by simp [TransportCall.commits])
  | confirmCommit => exact absurd rfl h.2.2.1
  | _ => rfl

theorem not_committed_of_plain (h : ∀ ev ∈ es, ev.1.Plain) : ¬ Committed es := by
  intro hes
  obtain ⟨ev, hev, hsucceeded⟩ := any_eq_true.mp hes
  rw [plain_not_succeeded (h ev hev)] at hsucceeded
  cases hsucceeded

theorem counts_of_plain (h : ∀ ev ∈ es, ev.1.Plain) :
    es.countP (·.1.commits) = 0 ∧ es.countP (·.1.discards) = 0 :=
  ⟨countP_eq_zero.mpr fun ev hev => by simp [(h ev hev).2.1],
    countP_eq_zero.mpr fun ev hev => by simp [(h ev hev).2.2.2]⟩

theorem plain_of_barrier (h : c.Barrier) : c.Plain := by
  cases c <;> first | exact absurd h id | exact ⟨nofun, rfl, nofun, rfl⟩

theorem plain_of_inside (h : c.Inside tx) : c.Plain := by
  cases c <;> first | exact absurd h id | exact ⟨nofun, rfl, nofun, rfl⟩

theorem plain_of_reads (h : c.Reads) : c.Plain := by
  cases c <;> first | exact absurd h id | exact ⟨nofun, rfl, nofun, rfl⟩

end

theorem rule_of_barrier (h : ev.1.Barrier) : TransactionRule e t res before ev := by
  obtain ⟨c, r⟩ := ev
  cases c <;> first | exact absurd h id | trivial

theorem rule_of_reads (h : ev.1.Reads) : TransactionRule e t res before ev := by
  obtain ⟨c, r⟩ := ev
  cases c <;> first | exact absurd h id | trivial

theorem rule_of_inside (h : ev.1.Inside tx) (hopen : Opened before tx) :
    TransactionRule e t res before ev := by
  obtain ⟨c, r⟩ := ev
  cases c with
  | mutate bound ops =>
    obtain rfl : bound = tx := h
    exact hopen
  | fetch path | fetchTx bound path | backoff => trivial
  | _ => exact absurd h id

omit [Rendering] in
theorem runningVerify_reads (h : Runs (e.runningVerify t res families) es clean) :
    ∀ ev ∈ es, ev.1.Reads :=
  h.uses (runningVerify_uses (fun _ => trivial) _)

/-! ## Inside the transaction -/

section

omit [Rendering]

theorem pruning_managedFamilies : (pruning res).managedFamilies = res.managedFamilies := by
  unfold pruning
  split <;> rfl

theorem pruning_cliBlocks : (pruning res).cliBlocks = res.cliBlocks := by
  unfold pruning
  split <;> rfl

theorem processingOrder_perm : (e.processingOrder res).Perm res.managedFamilies := by
  have hreverse : ∀ {families : List String} (c : Bool), families.Perm res.managedFamilies →
      (if c = true then families.reverse else families).Perm res.managedFamilies := by
    intro families c h
    cases c
    · exact h
    · exact (reverse_perm _).trans h
  unfold processingOrder
  cases e.familyOrder with
  | none => exact hreverse _ (.refl _)
  | some hook => exact hreverse _ (hook.perm _)

end

theorem applyCLIBlocks_none (hcli : res.cliBlocks = []) (h : Runs (applyCLIBlocks view res p) es q) :
    es = [] ∧ q.result.familyStatuses = p.result.familyStatuses := by
  unfold applyCLIBlocks at h
  rw [hcli] at h
  split at h
  · obtain ⟨rfl, rfl⟩ := runs_pure.mp h
    exact ⟨rfl, rfl⟩
  split at h
  · obtain ⟨rfl, rfl⟩ := runs_pure.mp h
    exact ⟨rfl, by simp [Progress.withhold]⟩
  · obtain ⟨rfl, rfl⟩ := runs_pure.mp h
    exact ⟨rfl, rfl⟩

/-- A tick inside an open transaction: the loop, and then, if every family
ended in sync, the closing calls and perhaps the save. -/
theorem Applied.transaction (h : Applied e t (.transactional tx) res es out committed)
    (hcli : res.cliBlocks = []) :
    ∃ loop close save families, es = loop ++ (close ++ save) ∧
      Runs (e.reconcileFamilies t (.transactional tx) (pruning res)
        (e.processingOrder (pruning res)) (startProgress res)) loop families ∧
      families.names.Perm res.managedFamilies ∧ (out.phase = .inSync ↔ committed = true) ∧
      ((close = [] ∧ save = [] ∧ committed = false) ∨
        ((∀ fs ∈ families.result.familyStatuses, fs.state = .inSync) ∧
          Closing e t tx (pruning res) close committed ∧
          (save = [] ∨ committed = true ∧ ∃ r, save = [⟨.saveStartup, r⟩]))) := by
  obtain ⟨loop, cli, close, save, families, blocks, finished, hloop, hblocks, hclose, hsave, rfl⟩ :=
    h.parts
  obtain ⟨htally, hnames, -⟩ := hloop.ends (reconcileFamilies_ends _ startProgress_tally)
  obtain ⟨rfl, hstatuses⟩ := applyCLIBlocks_none (pruning_cliBlocks.trans hcli) hblocks
  have hblockTally := (hblocks.ends (applyCLIBlocks_ends htally)).1
  have hperm : families.names.Perm res.managedFamilies := by
    rw [hnames, ← pruning_managedFamilies]
    exact processingOrder_perm
  have hphase : out.phase = finished.phase := (hsave.ends saveStartup_ends).2.2.1
  refine ⟨loop, close, save, families, rfl, hloop, hperm, ?_⟩
  unfold finishApply at hclose
  dsimp only at hclose
  split at hclose
  · rename_i hin
    have hall : ∀ fs ∈ families.result.familyStatuses, fs.state = .inSync := by
      rw [← hstatuses]
      exact (conclude_inSync hblockTally).mp hin
    obtain ⟨hclosing, hiff⟩ := commitTransaction_closing hclose hin
    rw [hphase]
    refine ⟨hiff, .inr ⟨hall, hclosing, ?_⟩⟩
    rcases saveStartup_events hsave with rfl | ⟨r, rfl, hin', -⟩
    · exact .inl rfl
    · exact .inr ⟨hiff.mp hin', r, rfl⟩
  · rename_i hnot
    obtain ⟨rfl, rfl, rfl⟩ := runs_pure_pair.mp hclose
    rw [hphase]
    refine ⟨⟨fun h => absurd h hnot, nofun⟩, .inl ⟨rfl, ?_, rfl⟩⟩
    rcases saveStartup_events hsave with rfl | ⟨r, rfl, hin, -⟩
    · rfl
    · exact absurd hin hnot

omit [Rendering] in
theorem Closing.counts (h : Closing e t tx res es committed) :
    (Committed es ↔ committed = true) ∧ es.countP (·.1.commits) = 1 ∧
      es.countP (·.1.discards) = 0 ∧ ∀ ev ∈ es, ev.1 ≠ .startTransaction := by
  have hquiet : ∀ {verify : List TickEvent} {clean : Bool},
      Runs (e.runningVerify t res res.managedFamilies) verify clean → ∀ ev ∈ verify, ev.1.Plain :=
    fun h ev hev => plain_of_reads (runningVerify_reads h ev hev)
  cases h with
  | plain r | refused timeout err => exact ⟨committed_singleton, rfl, rfl, by simp⟩
  | unverified timeout h =>
    obtain ⟨hcommits, hdiscards⟩ := counts_of_plain (hquiet h)
    refine ⟨?_, ?_, ?_, ?_⟩
    · rw [← singleton_append, committed_append,
        or_iff_left (not_committed_of_plain (hquiet h))]
      exact committed_singleton
    · rw [countP_cons, hcommits]
      rfl
    · rw [countP_cons, hdiscards]
      rfl
    · exact forall_mem_cons.mpr ⟨nofun, fun ev hev => (hquiet h ev hev).1⟩
  | confirmed timeout r _ h =>
    obtain ⟨hcommits, hdiscards⟩ := counts_of_plain (hquiet h)
    refine ⟨?_, ?_, ?_, ?_⟩
    · rw [← singleton_append, committed_append, committed_append,
        or_iff_right (not_committed_of_plain (hquiet h)), or_iff_right not_committed_tentative]
      exact committed_singleton
    · rw [countP_cons, countP_append, hcommits]
      rfl
    · rw [countP_cons, countP_append, hdiscards]
      rfl
    exact forall_mem_cons.mpr ⟨nofun, forall_mem_append.mpr
      ⟨fun ev hev => (hquiet h ev hev).1, by simp⟩⟩

theorem Closing.justified (h : Closing e t tx (pruning res) es committed)
    (hsync : FamiliesInSync e t tx res before) :
    Justified (fun earlier => TransactionRule e t res (before ++ earlier)) es := by
  have hfirst : FamiliesInSync e t tx res (before ++ []) := by
    rw [append_nil]
    exact hsync
  cases h with
  | plain r | refused timeout err => exact justified_cons.mpr ⟨hfirst, justified_nil⟩
  | unverified timeout h =>
    refine justified_cons.mpr ⟨hfirst, justified_of_forall fun ev hev _ => ?_⟩
    exact rule_of_reads (runningVerify_reads h ev hev)
  | confirmed timeout r _ h =>
    refine justified_cons.mpr ⟨hfirst, justified_append.mpr
      ⟨justified_of_forall fun ev hev _ => rule_of_reads (runningVerify_reads h ev hev), ?_⟩⟩
    refine justified_cons.mpr ⟨?_, justified_nil⟩
    rw [append_nil]
    rw [pruning_managedFamilies] at h
    exact ⟨before, tx, timeout, _, rfl, h⟩

theorem reconcileFamilies_inside
    (h : Runs (e.reconcileFamilies t (.transactional tx) res families p) es q) :
    ∀ ev ∈ es, ev.1.Inside tx :=
  h.uses (reconcileFamilies_uses (fun _ => trivial) trivial
    (.inr (transactional_carry_uses tx)) families p)

theorem Applied.justified (h : Applied e t (.transactional tx) res es out committed)
    (hcli : res.cliBlocks = []) (hopen : Opened opening tx) :
    Justified (fun earlier => TransactionRule e t res (opening ++ earlier)) es := by
  obtain ⟨loop, close, save, families, rfl, hloop, hperm, -, hend⟩ := h.transaction hcli
  have hinside : Justified (fun earlier => TransactionRule e t res (opening ++ earlier)) loop :=
    justified_of_forall fun ev hev _ => rule_of_inside (reconcileFamilies_inside hloop ev hev)
      (mem_append_left _ hopen)
  refine justified_append.mpr ⟨hinside, ?_⟩
  rcases hend with ⟨rfl, rfl, -⟩ | ⟨hall, hclosing, hsave⟩
  · exact justified_nil
  have hsync : FamiliesInSync e t tx res (opening ++ loop) :=
    ⟨opening, loop, families, rfl, hopen, hloop, hperm, hall⟩
  refine justified_append.mpr ⟨?_, ?_⟩
  · have hclose := hclosing.justified hsync
    simpa only [append_assoc] using hclose
  rcases hsave with rfl | ⟨hcommitted, r, rfl⟩
  · exact justified_nil
  · refine justified_cons.mpr ⟨?_, justified_nil⟩
    show Committed (opening ++ (loop ++ (close ++ [])))
    rw [append_nil, committed_append, committed_append]
    exact .inr (.inr (hclosing.counts.1.mpr hcommitted))

theorem Applied.counts (h : Applied e t (.transactional tx) res es out committed)
    (hcli : res.cliBlocks = []) :
    (Committed es ↔ committed = true) ∧ (out.phase = .inSync ↔ committed = true) ∧
      es.countP (·.1.commits) ≤ 1 ∧ es.countP (·.1.discards) = 0 ∧
      ∀ ev ∈ es, ev.1 ≠ .startTransaction := by
  obtain ⟨loop, close, save, families, rfl, hloop, -, hphase, hend⟩ := h.transaction hcli
  have hplain : ∀ ev ∈ loop, ev.1.Plain :=
    fun ev hev => plain_of_inside (reconcileFamilies_inside hloop ev hev)
  obtain ⟨hcommits, hdiscards⟩ := counts_of_plain hplain
  rcases hend with ⟨rfl, rfl, rfl⟩ | ⟨-, hclosing, hsave⟩
  · rw [append_nil, append_nil]
    exact ⟨⟨fun hc => absurd hc (not_committed_of_plain hplain), nofun⟩, hphase, by omega,
      hdiscards, fun ev hev => (hplain ev hev).1⟩
  have hsaved : ∀ ev ∈ save, ev.1.Plain := by
    rcases hsave with rfl | ⟨-, r, rfl⟩
    · simp
    · intro ev hev
      rw [mem_singleton.mp hev]
      exact ⟨nofun, rfl, nofun, rfl⟩
  obtain ⟨hcommits', hdiscards'⟩ := counts_of_plain hsaved
  obtain ⟨hiff, hcommitsOne, hdiscardsNone, hstart⟩ := hclosing.counts
  refine ⟨?_, hphase, ?_, ?_, ?_⟩
  · rw [committed_append, committed_append, or_iff_right (not_committed_of_plain hplain),
      or_iff_left (not_committed_of_plain hsaved)]
    exact hiff
  · rw [countP_append, countP_append, hcommits, hcommits', hcommitsOne]
  · rw [countP_append, countP_append, hdiscards, hdiscards', hdiscardsNone]
  exact forall_mem_append.mpr ⟨fun ev hev => (hplain ev hev).1,
    forall_mem_append.mpr ⟨hstart, fun ev hev => (hsaved ev hev).1⟩⟩

/-! ## The whole tick -/

/-- The transaction is committed at most once, and discarded once exactly when
it was opened and not committed; the phase says whether it was committed. -/
structure Balanced (es : List TickEvent) (out : Result) : Prop where
  commits : es.countP (·.1.commits) ≤ 1
  discards : es.countP (·.1.discards) ≤ 1
  opened : ∀ tx, Opened es tx → (es.countP (·.1.discards) = 1 ↔ ¬ Committed es)
  unopened : (∀ tx, ¬ Opened es tx) → es.countP (·.1.discards) = 0
  phase : out.phase = .inSync ↔ Committed es

section

omit [Rendering]

theorem Balanced.barrier {core after : List TickEvent} (h : Balanced core out)
    (hb : ∀ ev ∈ before ++ after, ev.1.Barrier) : Balanced (before ++ (core ++ after)) out := by
  have hbefore : ∀ ev ∈ before, ev.1.Plain :=
    fun ev hev => plain_of_barrier (hb ev (mem_append_left _ hev))
  have hafter : ∀ ev ∈ after, ev.1.Plain :=
    fun ev hev => plain_of_barrier (hb ev (mem_append_right _ hev))
  have hopened : ∀ tx, Opened (before ++ (core ++ after)) tx ↔ Opened core tx := by
    intro tx
    rw [Opened, mem_append, mem_append]
    constructor
    · rintro (hev | hev | hev)
      · exact absurd rfl (hbefore _ hev).1
      · exact hev
      · exact absurd rfl (hafter _ hev).1
    · exact fun hev => .inr (.inl hev)
  have hcommitted : Committed (before ++ (core ++ after)) ↔ Committed core := by
    rw [committed_append, committed_append, or_iff_right (not_committed_of_plain hbefore),
      or_iff_left (not_committed_of_plain hafter)]
  have hcount : ∀ f : TickEvent → Bool, before.countP f = 0 → after.countP f = 0 →
      (before ++ (core ++ after)).countP f = core.countP f := by
    intro f h₁ h₂
    rw [countP_append, countP_append, h₁, h₂]
    omega
  have hcommits := hcount _ (counts_of_plain hbefore).1 (counts_of_plain hafter).1
  have hdiscards := hcount _ (counts_of_plain hbefore).2 (counts_of_plain hafter).2
  refine ⟨?_, ?_, fun tx htx => ?_, fun hnone => ?_, ?_⟩
  · rw [hcommits]
    exact h.commits
  · rw [hdiscards]
    exact h.discards
  · rw [hdiscards, hcommitted]
    exact h.opened tx ((hopened tx).mp htx)
  · rw [hdiscards]
    exact h.unopened fun tx htx => hnone tx ((hopened tx).mpr htx)
  · rw [hcommitted]
    exact h.phase

theorem validate_transport (ht : e.transport = some t) (hvalid : e.validate res = .ok t') :
    t' = t := by
  unfold validate at hvalid
  rw [ht] at hvalid
  dsimp only at hvalid
  repeat' split at hvalid
  all_goals cases hvalid
  rfl

/-- An opened transaction: what happened inside it, and the rollback of one
that was not committed. -/
theorem Balanced.opening {inner rollback : List TickEvent} (hphase : out.phase = .inSync ↔ committed = true)
    (hiff : Committed inner ↔ committed = true) (hcommits : inner.countP (·.1.commits) ≤ 1)
    (hdiscards : inner.countP (·.1.discards) = 0)
    (hrollback : committed = true ∧ rollback = [] ∨
      committed = false ∧ ∃ r, rollback = [⟨.discard tx, r⟩]) :
    Balanced (⟨.startTransaction, .ok tx⟩ :: (inner ++ rollback)) out := by
  have hback : rollback.countP (·.1.commits) = 0 ∧ ¬ Committed rollback ∧
      rollback.countP (·.1.discards) = if committed = true then 0 else 1 := by
    rcases hrollback with ⟨rfl, rfl⟩ | ⟨rfl, r, rfl⟩
    · exact ⟨rfl, by simp [Committed], rfl⟩
    · exact ⟨rfl, by rw [committed_singleton]; exact nofun, rfl⟩
  have hcommitted : Committed (⟨.startTransaction, .ok tx⟩ :: (inner ++ rollback)) ↔
      committed = true := by
    rw [← singleton_append, committed_append, committed_append, or_iff_left hback.2.1, hiff]
    refine or_iff_right ?_
    rw [committed_singleton]
    exact nofun
  have hcount : ∀ f : TickEvent → Bool, f ⟨.startTransaction, .ok tx⟩ = false →
      List.countP f (⟨.startTransaction, .ok tx⟩ :: (inner ++ rollback)) =
        inner.countP f + rollback.countP f := by
    intro f hf
    rw [countP_cons, countP_append, hf]
    rfl
  have hdiscarded := hcount (·.1.discards) rfl
  rw [hdiscards, hback.2.2, Nat.zero_add] at hdiscarded
  refine ⟨?_, ?_, fun _ _ => ?_, fun hnone => ?_, ?_⟩
  · rw [hcount _ rfl, hback.1]
    exact hcommits
  · rw [hdiscarded]
    split <;> omega
  · rw [hdiscarded, hcommitted]
    cases committed <;> simp
  · exact absurd (mem_cons_self ..) (hnone tx)
  · rw [hcommitted]
    exact hphase

end

theorem TickCore.balanced (h : TickCore e res es out) (ht : e.transport = some t)
    (hmode : transactional t res = true) : Balanced es out := by
  cases h with
  | early hstatuses huntouched hphase =>
    exact ⟨Nat.zero_le _, Nat.zero_le _, fun tx htx => absurd htx (by simp [Opened]),
      fun _ => rfl, ⟨fun h => absurd h hphase, fun h => absurd h (by simp [Committed])⟩⟩
  | unopened err hstatuses huntouched hphase =>
    refine ⟨Nat.zero_le _, Nat.zero_le _, fun tx htx => ?_, fun _ => rfl, ?_⟩
    · have heq := mem_singleton.mp htx
      injection heq with hcall hreply
      cases hreply
    · rw [hphase, committed_singleton]
      exact ⟨nofun, nofun⟩
  | direct hvalid hdirect happlied =>
    rw [validate_transport ht hvalid, hmode] at hdirect
    cases hdirect
  | committed tx hvalid _ hcli happlied =>
    obtain ⟨hiff, hphase, hcommits, hdiscards, -⟩ := happlied.counts hcli
    rw [← append_nil (List.cons ..), cons_append]
    exact .opening hphase hiff hcommits hdiscards (.inl ⟨rfl, rfl⟩)
  | discarded tx hvalid _ hcli happlied r =>
    obtain ⟨hiff, hphase, hcommits, hdiscards, -⟩ := happlied.counts hcli
    exact .opening hphase hiff hcommits hdiscards (.inr ⟨rfl, r, rfl⟩)

theorem TickCore.justified (h : TickCore e res es out) (ht : e.transport = some t)
    (hmode : transactional t res = true) (hb : ∀ ev ∈ before, ev.1.Barrier) :
    Justified (fun earlier => TransactionRule e t res (before ++ earlier)) es := by
  have hfirst : ∀ r, TransactionRule e t res (before ++ []) ⟨.startTransaction, r⟩ := by
    intro r ev hev
    rw [append_nil] at hev
    exact (plain_of_barrier (hb ev hev)).1
  have hinner : ∀ {t' : Transport} {tx : TxHandle} {inner : List TickEvent} {committed : Bool},
      e.validate res = .ok t' → res.cliBlocks = [] →
      Applied e t' (.transactional tx) res inner out committed →
      Justified (fun earlier =>
        TransactionRule e t res (before ++ (⟨.startTransaction, .ok tx⟩ :: earlier))) inner := by
    intro t' tx inner committed hvalid hcli happlied
    rw [validate_transport ht hvalid] at happlied
    have hopen : Opened (before ++ [⟨.startTransaction, .ok tx⟩]) tx :=
      mem_append_right _ (mem_singleton.mpr rfl)
    simpa only [append_assoc, singleton_append] using happlied.justified hcli hopen
  cases h with
  | early hstatuses huntouched hphase => exact justified_nil
  | unopened err hstatuses huntouched hphase =>
    exact justified_cons.mpr ⟨hfirst _, justified_nil⟩
  | direct hvalid hdirect happlied =>
    rw [validate_transport ht hvalid, hmode] at hdirect
    cases hdirect
  | committed tx hvalid _ hcli happlied =>
    exact justified_cons.mpr ⟨hfirst _, hinner hvalid hcli happlied⟩
  | discarded tx hvalid _ hcli happlied r =>
    refine justified_cons.mpr ⟨hfirst _, justified_append.mpr ⟨hinner hvalid hcli happlied, ?_⟩⟩
    exact justified_cons.mpr ⟨trivial, justified_nil⟩

theorem reconcile_cli_rejected (ht : e.transport = some t) (hmode : transactional t res = true)
    (hcli : res.cliBlocks ≠ []) (h : Runs (e.reconcile (some res)) es out) :
    es = [] ∧ out.phase ≠ .inSync := by
  unfold reconcile at h
  dsimp only at h
  split at h
  · obtain ⟨rfl, rfl⟩ := runs_pure.mp h
    exact ⟨rfl, nofun⟩
  split at h
  · obtain ⟨rfl, rfl⟩ := runs_pure.mp h
    exact ⟨rfl, nofun⟩
  rename_i t' hvalid
  rw [validate_transport ht hvalid] at h
  unfold guarded at h
  rw [if_pos (by simpa [hmode] using hcli)] at h
  obtain ⟨rfl, rfl⟩ := runs_pure.mp h
  exact ⟨rfl, nofun⟩

/-- **A transactional tick is atomic.** Every call is justified by what came
before it; the transaction is committed at most once, and discarded once
exactly when it was opened and not committed; an intent with CLI blocks is
turned away before any call; and the phase is `InSync` exactly when the commit
sequence succeeded. -/
theorem transactional_tick_atomic (e : Engine) (t : Transport) (res : ResolvedIntent)
    (ht : e.transport = some t) (hmode : transactional t res = true) (es : List TickEvent)
    (out : Result) (h : Runs (e.reconcile (some res)) es out) :
    Justified (TransactionRule e t res) es ∧ Balanced es out ∧
      (res.cliBlocks ≠ [] → es = [] ∧ out.phase ≠ .inSync) := by
  obtain ⟨before, core, after, rfl, hbarrier, hcore⟩ := reconcile_cases h
  refine ⟨?_, (hcore.balanced ht hmode).barrier hbarrier,
    fun hcli => reconcile_cli_rejected ht hmode hcli h⟩
  have hb : ∀ ev ∈ before, ev.1.Barrier := fun ev hev => hbarrier ev (mem_append_left _ hev)
  have ha : ∀ ev ∈ after, ev.1.Barrier := fun ev hev => hbarrier ev (mem_append_right _ hev)
  refine justified_append.mpr ⟨justified_of_forall fun ev hev _ => rule_of_barrier (hb ev hev), ?_⟩
  refine justified_append.mpr ⟨hcore.justified ht hmode hb, ?_⟩
  exact justified_of_forall fun ev hev _ => rule_of_barrier (ha ev hev)

end Engine

/-! ## Two ticks -/

namespace Sample

open Engine

@[reducible] def rendering : Rendering where
  redactCredentials := id
  stableHash _ := "sha256:0"
  stableHashMap _ := "sha256:1"

attribute [local instance] rendering

/-- A candidate datastore that can be read, and a startup configuration. -/
def netconf : Transport where
  capabilities := { supportsTransactions := true, supportsSaveStartup := true }
  txFetcher := true

/-- A family of one leaf, which is to be up. -/
def linkWriter : SectionWriter where
  fetch := do
    match ← Program.request "/link" with
    | .error err => pure (.error err)
    | .ok raw => pure (.ok (.text raw))
  diff _ observed :=
    match observed with
    | .text "up" => .ok []
    | _ => .ok [{ verb := .merge, path := "/link", body := "up" }]
  apply ops := Program.request (WriterCall.mutate "" ops)

def engine : Engine where
  transport := some netconf
  lookup := some fun _ _ => some linkWriter

def intent : ResolvedIntent where
  managedFamilies := ["link"]
  configuration := ∅
  transactional := true
  writeStartup := true

def device : (c : TransportCall) → Unit → c.Reply × Unit
  | .fetch _, s => (.ok "down", s)
  | .fetchTx _ _, s => (.ok "up", s)
  | .startTransaction, s => (.ok "candidate", s)
  | .mutate _ _, s | .commit _, s | .discard _, s | .commitConfirmed _ _, s | .confirmCommit, s
  | .saveStartup, s | .acquireMutation, s | .backoff, s => (none, s)
  | .finishMutation _, s => ((), s)

def tick : List TickEvent × Result := (engine.reconcile (some intent)).run device ()

theorem transactional_tick_sample :
    tick.2.phase = .inSync ∧ Justified (TransactionRule engine netconf intent) tick.1 ∧
      Balanced tick.1 tick.2 := by
  have h := transactional_tick_atomic engine netconf intent rfl rfl tick.1 tick.2
    (run_runs device () _)
  exact ⟨rfl, h.1, h.2.1⟩

example : tick.1.map (·.1) = [.startTransaction, .fetch "/link",
    .mutate "candidate" [{ verb := .merge, path := "/link", body := "up" }],
    .fetchTx "candidate" "/link", .commit "candidate", .saveStartup] := rfl

def lockedErr : Failure where
  message := "candidate datastore is locked"

/-- The same device while another session holds the candidate. -/
def lockedDevice : (c : TransportCall) → Unit → c.Reply × Unit
  | .startTransaction, s => (.error lockedErr, s)
  | c, s => device c s

/-- A transaction that could not be opened is neither committed nor
discarded. -/
theorem unopened_not_discarded :
    ∃ es out, Runs (engine.reconcile (some intent)) es out ∧
      transactional netconf intent = true ∧ ¬ Committed es ∧ es.countP (·.1.discards) = 0 := by
  refine ⟨_, _, run_runs lockedDevice () _, rfl, ?_, rfl⟩
  show ¬ Committed [⟨.startTransaction, .error lockedErr⟩]
  rw [committed_singleton]
  exact nofun

end Sample

end VirtualKubelet.Config
