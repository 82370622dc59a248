import VirtualKubelet.Proofs.UpgradeWrites

/-!
# What a worker is allowed to do

The rule each call of the worker keeps to, given the events of its own
reconcile: a status write continues or claims what was read, an RPC follows its
claim at once, and a release has seen the object closed with nothing
outstanding. The one release that has not seen this is the clean-up after the
object was found missing; it goes by what the replica had read last.

The second half proves the rule for the helpers of the worker. They only rely
on a read being `Honest`.
-/

namespace VirtualKubelet.SoftwareUpgrade

open Go Rollout Program

variable {mutate : Status → Status}

/-! ## What the events of a reconcile show -/

/-- What a replica goes by: the version it read last, whether it then found
the object missing, and its own write if nothing but questions came after. -/
structure Sight where
  last : Option Upgrade := none
  missing : Bool := false
  wrote : Option (Upgrade × Status) := none

def Sight.step (sight : Sight) : WorkerEvent → Sight
  | ⟨.get, .found up⟩ => ⟨some up, false, none⟩
  | ⟨.get, .missing⟩ => ⟨sight.last, true, none⟩
  | ⟨.updateStatus cur status, .ok⟩ => { sight with wrote := some (cur, status) }
  | ⟨.ask _, _⟩ => sight
  | _ => { sight with wrote := none }

def sight (past : List WorkerEvent) : Sight := past.foldl Sight.step {}

variable {past : List WorkerEvent} {cur up : Upgrade} {status : Status}

theorem sight_snoc : sight (past ++ [e]) = (sight past).step e := by
  rw [sight, List.foldl_append]
  rfl

theorem last_snoc_write :
    (sight (past ++ [⟨.updateStatus cur status, reply⟩])).last = (sight past).last := by
  rw [sight_snoc]
  cases reply <;> rfl

def Read (past : List WorkerEvent) (up : Upgrade) : Prop :=
  (⟨.get, .found up⟩ : WorkerEvent) ∈ past

theorem read_snoc :
    Read (past ++ [⟨.get, .found up⟩]) up := List.mem_append_right _ (List.mem_singleton_self _)

theorem Read.mono (h : Read past up) (hpast : past <+: past') :
    Read past' up := hpast.subset h

def Upgrade.next (cur : Upgrade) (status : Status) : Upgrade :=
  { cur with status := status, resourceVersion := cur.resourceVersion + 1 }

/-- A version of the object the replica knows of: one that it read or wrote. -/
def Shown (past : List WorkerEvent) (up : Upgrade) : Prop :=
  Read past up ∨ ∃ cur status,
    (⟨.updateStatus cur status, .ok⟩ : WorkerEvent) ∈ past ∧ up = cur.next status

/-! ## The rule -/

/-- No stage can be claimed any more. -/
def Closed (up : Upgrade) : Prop :=
  terminalUpgradePhase up.status.phase = true ∨ up.deleting = true ∨
    (up.managed = true ∧ ∃ control, up.status.managerControl = some control ∧ control.cancel = true)

def Unmarked (s : Status) : Prop := ∀ stage, s.requested stage = false

/-- Nothing is outstanding. -/
def Spent (s : Status) : Prop :=
  Unmarked s ∨ successfulUpgradeOutcome s.phase = true ∨ s.isConditionTrue .mutationSettled = true

/-- The RPC of a stage is due: its claim went through just now. -/
def Pending (past : List WorkerEvent) (stage : Stage) : Prop :=
  ∃ cur status, (sight past).wrote = some (cur, status) ∧ Read past cur ∧ Claims stage cur status

def MayRelease (past : List WorkerEvent) : Prop :=
  (∃ up, Shown past up ∧ Closed up ∧ Spent up.status) ∨
    ((sight past).missing = true ∧ ∃ up, (sight past).last = some up ∧ Unmarked up.status)

def Rule (past : List WorkerEvent) : Call → Prop
  | .updateStatus cur status =>
    Read past cur ∧ (Progress cur.status status ∨ ∃ stage, Claims stage cur status)
  | .dispatch stage => Pending past stage
  | .release => MayRelease past
  | _ => True

def rely : (c : Call) → Reply c → Prop
  | .get, .found up => Honest up.status
  | _, _ => True

/-- The program keeps to the rule, whatever came before. -/
def Lawful {α : Type} (p : Worker α) : Prop :=
  ∀ past, p.Obeys rely Rule past fun _ _ => True

section

variable {α β : Type} {Q : List WorkerEvent → β → Prop} {question : Question}

theorem lawful_pure : Lawful (pure a : Worker α) := fun _ => trivial

theorem Lawful.bind (hp : Lawful p) (hf : ∀ a, Lawful (f a)) : Lawful (p >>= f) :=
  fun past => (hp past).bind fun past' a _ _ => hf a past'

theorem Lawful.then_pure (hp : Lawful p) : Lawful (p >>= fun _ => pure b) :=
  hp.bind fun _ => lawful_pure

theorem lawful_ask {f : Answer question → Worker β}
    (hf : ∀ answer, Lawful (f answer)) : Lawful (ask question >>= f) :=
  Lawful.bind (fun _ => ⟨trivial, fun _ _ => trivial⟩) hf

theorem lawful_clock (hf : ∀ now, Lawful (f now)) : Lawful (clock >>= f) :=
  Lawful.bind (fun _ => ⟨trivial, fun _ _ => trivial⟩) hf

theorem lawful_acquireQuarantineLease (hf : ∀ reply, Lawful (f reply)) :
    Lawful (acquireQuarantineLease >>= f) :=
  Lawful.bind (fun _ => ⟨trivial, fun _ _ => trivial⟩) hf

theorem lawful_putFinalizer (hf : ∀ reply, Lawful (f reply)) :
    Lawful (putFinalizer up finalizer >>= f) :=
  Lawful.bind (fun _ => ⟨trivial, fun _ _ => trivial⟩) hf

/-- After a read the program goes on knowing the version, or without one. -/
theorem obeys_fetch (hfailed : Obeys rely Rule (f .failed) (past ++ [⟨.get, .failed⟩]) Q)
    (hmissing : Obeys rely Rule (f .missing) (past ++ [⟨.get, .missing⟩]) Q)
    (hfound : ∀ up, Honest up.status →
      Obeys rely Rule (f (.found up)) (past ++ [⟨.get, .found up⟩]) Q) :
    Obeys rely Rule (fetch >>= f) past Q := by
  refine obeys_bind.mpr ⟨trivial, fun reply hreply => ?_⟩
  cases reply with
  | failed => exact hfailed
  | missing => exact hmissing
  | found up => exact hfound up hreply

theorem obeys_ask {f : Answer question → Worker β}
    (hf : ∀ answer, Obeys rely Rule (f answer) (past ++ [⟨.ask question, answer⟩]) Q) :
    Obeys rely Rule (ask question >>= f) past Q :=
  obeys_bind.mpr ⟨trivial, fun answer _ => hf answer⟩

theorem obeys_clock (hf : ∀ now, Obeys rely Rule (f now) (past ++ [⟨.now, now⟩]) Q) :
    Obeys rely Rule (clock >>= f) past Q :=
  obeys_bind.mpr ⟨trivial, fun now _ => hf now⟩

theorem obeys_putStatus {Q : List WorkerEvent → Written → Prop} (hread : Read past cur)
    (hrule : Progress cur.status status ∨ ∃ stage, Claims stage cur status)
    (hQ : ∀ reply, Q (past ++ [⟨.updateStatus cur status, reply⟩]) reply) :
    Obeys rely Rule (putStatus cur status) past Q :=
  ⟨⟨hread, hrule⟩, fun reply _ => hQ reply⟩

theorem obeys_writeStatus {a : α} {Q : List WorkerEvent → Attempt α → Prop}
    (hread : Read past cur)
    (hrule : Progress cur.status status ∨ ∃ stage, Claims stage cur status)
    (hok : Q (past ++ [⟨.updateStatus cur status, .ok⟩]) (.returns a))
    (hconflict : Q (past ++ [⟨.updateStatus cur status, .conflict⟩]) .conflict)
    (herror : Q (past ++ [⟨.updateStatus cur status, .failed⟩]) .error) :
    Obeys rely Rule (writeStatus cur status a) past Q := by
  refine obeys_bind.mpr (obeys_putStatus hread hrule fun reply => ?_)
  cases reply with
  | ok => exact hok
  | conflict => exact hconflict
  | failed => exact herror

theorem obeys_release (hrelease : MayRelease past)
    (hf : ∀ reply, Obeys rely Rule (f reply) (past ++ [⟨.release, reply⟩]) Q) :
    Obeys rely Rule (releaseMutationLease >>= f) past Q :=
  obeys_bind.mpr ⟨hrelease, fun reply _ => hf reply⟩

theorem obeys_retryOnConflict {attempt : Worker (Attempt α)} {I : List WorkerEvent → Prop}
    {Q : List WorkerEvent → Option α → Prop}
    (hattempt : ∀ past, I past → attempt.Obeys rely Rule past fun past' outcome =>
      match outcome with
      | .returns a => Q past' (some a)
      | .conflict => I past'
      | .error => Q past' none)
    (hgiveUp : ∀ past, I past → Q past none) (steps : Nat) (hI : I past) :
    Obeys rely Rule (retryOnConflict attempt steps) past Q := by
  induction steps generalizing past with
  | zero => exact hgiveUp past hI
  | succ steps ih =>
    refine (hattempt past hI).bind fun past' outcome _ houtcome => ?_
    cases outcome with
    | returns a => exact houtcome
    | conflict => exact ih houtcome
    | error => exact houtcome

theorem lawful_retryOnConflict (h : Lawful attempt) (steps : Nat) :
    Lawful (retryOnConflict attempt steps) := by
  intro past
  refine obeys_retryOnConflict (I := fun _ => True) (fun past _ => ?_) (fun _ _ => trivial) steps
    trivial
  refine (h past).mono fun past' outcome _ _ => ?_
  cases outcome <;> trivial

end

/-! ## Writes and releases -/

section

variable {up : Upgrade}

theorem unmarked_of_not_submitted (h : upgradeMutationSubmitted s = false) : Unmarked s := by
  simp only [upgradeMutationSubmitted, Bool.or_eq_false_iff] at h
  intro stage
  cases stage <;> simp only [Status.requested, h]

theorem spent_of_not_retained (h : retainMutationLeaseUntilExpiry s = false) : Spent s := by
  simp only [retainMutationLeaseUntilExpiry] at h
  split at h
  · cases h
  split at h
  · cases h
  split at h
  · rename_i hsubmitted
    rw [Bool.not_eq_true'] at hsubmitted
    exact .inl (unmarked_of_not_submitted hsubmitted)
  · rw [Bool.and_eq_false_iff, Bool.not_eq_false', Bool.not_eq_false'] at h
    exact .inr h

/-- A write that claims nothing, of what the object is now. -/
def Continues (up : Upgrade) (mutate : Status → Status) : Prop :=
  ∀ cur, upgradeStatusCASMatches up cur = true → terminalUpgradePhase cur.status.phase = false →
    Progress cur.status (mutate cur.status)

theorem keeps (h : (fun s => (mutate s).marks) = Status.marks) :
    Continues up mutate :=
  fun cur _ hopen => progress_open hopen (congrFun h cur.status)

theorem Continues.setCondition {type : ConditionType} {status : Bool} (h : Continues up mutate) (hmark : requestMarked type reason = none) :
    Continues up fun s => (mutate s).setCondition type status reason :=
  fun cur hcas hopen => (h cur hcas hopen).setCondition hmark

theorem Continues.setReady {status : Bool}
    (h : Continues up mutate) : Continues up fun s => (mutate s).setReady status reason :=
  h.setCondition rfl

theorem lawful_updateStatus (h : Continues up mutate) :
    Lawful (updateStatus up mutate) := by
  refine Lawful.bind (lawful_retryOnConflict (fun past => ?_) _) fun _ => lawful_pure
  refine obeys_fetch trivial trivial fun cur _ => ?_
  show Obeys rely Rule (ite ..) _ _
  split
  · trivial
  · rename_i hcas
    rw [Bool.or_eq_true, not_or, Bool.not_eq_true, Bool.not_eq_true, Bool.not_eq_false'] at hcas
    exact obeys_writeStatus read_snoc (.inl (h cur hcas.1 hcas.2)) trivial trivial trivial

theorem lawful_persist (h : Continues up mutate) :
    Lawful (persist up mutate) :=
  (lawful_updateStatus h).then_pure

/-- Whoever has just read a terminal status that does not retain the Lease may
release it. -/
theorem mayRelease_terminal (hread : Read past up)
    (hterminal : terminalUpgradePhase up.status.phase = true)
    (hretain : retainMutationLeaseUntilExpiry up.status = false) : MayRelease past :=
  .inl ⟨up, .inl hread, .inl hterminal, spent_of_not_retained hretain⟩

theorem lawful_updateTerminalStatus (h : Continues up mutate) :
    Lawful (updateTerminalStatus up mutate) := by
  refine Lawful.bind (lawful_updateStatus fun cur hcas hopen => ?_) fun updated => ?_
  · have hprogress := h cur hcas hopen
    show Progress _ (ite ..)
    split
    · exact hprogress.setCondition rfl
    · exact hprogress
  · cases updated with
    | false => exact lawful_pure
    | true =>
      intro past
      refine obeys_fetch trivial trivial fun current _ => ?_
      show Obeys rely Rule (ite ..) _ _
      split
      · trivial
      rename_i hterminal
      show Obeys rely Rule (ite ..) _ _
      split
      · trivial
      rename_i hretain
      rw [Bool.not_eq_true', Bool.not_eq_false] at hterminal
      rw [Bool.not_eq_true] at hretain
      exact obeys_release (mayRelease_terminal read_snoc hterminal hretain)
        fun _ => trivial

theorem lawful_terminalWithEvidence :
    Lawful (terminalWithEvidence up phase reason now settled) := by
  refine lawful_updateTerminalStatus fun cur _ hopen => Progress.setReady ?_
  have hwrite : Progress cur.status
      { cur.status with phase := phase, failureReason := reason, completionTime := some now } :=
    progress_open hopen rfl
  have hsettled : Progress cur.status
      (if settled then Status.setCondition { cur.status with
        phase := phase, failureReason := reason, completionTime := some now } .mutationSettled
          true "MutationCompleted"
      else { cur.status with
        phase := phase, failureReason := reason, completionTime := some now }) := by
    split
    · exact hwrite.setCondition rfl
    · exact hwrite
  split
  · exact hsettled.markTransferComplete
  · exact hsettled

theorem lawful_terminal :
    Lawful (terminal up phase reason now) := lawful_terminalWithEvidence

theorem lawful_terminalAfterMutation :
    Lawful (terminalAfterMutation up phase reason now) := lawful_terminalWithEvidence

end

end VirtualKubelet.SoftwareUpgrade
