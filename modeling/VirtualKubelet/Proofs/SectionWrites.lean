import VirtualKubelet.ControllerAdapter.SdwanProtocol

/-!
# What a reconciliation may ask for

Every request of a reconciliation is `Allowed` by what it has done before. A
Lease is written over a copy that was read or written by the reconciliation
itself, and never over one of another session with an unsettled journal. A
mutation of the manager is the first one, and its section's Lease was last
written by saving the entry for it.
-/

namespace VirtualKubelet.ControllerAdapter

open Go Api Program
open List hiding after count next

variable {receipt : MutationReceipt}

abbrev WorkerEvent := Event Request Reply

variable {m : Model} {k : Job} {past past' : List WorkerEvent} {name sec data : String}
  {l copy : Object Lease} {claim saved : Claim} {r : Resource} {o : Observation}
  {j : SectionJournal} {e : WorkerEvent} {lease : Lease} {o : Option Observation} {claims : Claims}

/-! ## Journals -/

theorem unsettled_iff :
    j.Unsettled ↔ ∃ key, (j.receipt key).state = .dispatched := by
  rw [SectionJournal.Unsettled, Map.every_iff]
  constructor
  · intro h
    push Not at h
    obtain ⟨key, receipt, hfind, hstate⟩ := h
    refine ⟨key, ?_⟩
    rw [SectionJournal.receipt, Map.get, hfind]
    exact hstate
  · rintro ⟨key, hstate⟩ hall
    cases hfind : j.find key with
    | none =>
      rw [SectionJournal.receipt, Map.get, hfind] at hstate
      cases hstate
    | some receipt =>
      rw [SectionJournal.receipt, Map.get, hfind] at hstate
      exact hall key receipt hfind hstate

theorem receipt_set_self : SectionJournal.receipt (j.set key receipt) key = receipt := by
  rw [SectionJournal.receipt, Map.get, Map.find_set_self]
  rfl

theorem receipt_set_ne (h : key' ≠ key) :
    SectionJournal.receipt (j.set key receipt) key' = j.receipt key' := by
  rw [SectionJournal.receipt, Map.get, Map.find_set_ne h]
  rfl

/-! ## Events -/

def answered (name : String) : WorkerEvent → Option (Answer (Object Lease))
  | ⟨.createLease n _, a⟩ | ⟨.updateLease n _ _, a⟩ => if n = name then some a else none
  | _ => none

/-- The answer to the last write of the named Lease. -/
def lastAnswer (name : String) (past : List WorkerEvent) : Option (Answer (Object Lease)) :=
  (past.filterMap (answered name)).getLast?

theorem lastAnswer_snoc :
    lastAnswer name (past ++ [e]) = (answered name e).or (lastAnswer name past) := by
  rw [lastAnswer, filterMap_append, List.getLast?_append, lastAnswer]
  cases h : answered name e with
  | none | some a => simp [h]

/-- The request may change the manager. -/
def Request.mutates : Request → Bool
  | .create _ | .update .. => true
  | _ => false

def Unmutated (past : List WorkerEvent) : Prop := ∀ e ∈ past, e.1.mutates = false

def Request.asks : Request → Bool
  | .createLease .. | .updateLease .. | .create _ | .update .. | .patchStatus .. => false
  | _ => true

/-- From the one point of a reconciliation to the other it has only asked. -/
def Asked (past past' : List WorkerEvent) : Prop :=
  ∃ es, past' = past ++ es ∧ ∀ e ∈ es, e.1.asks = true

theorem Asked.grows (h : Asked past past') : past <+: past' := by
  obtain ⟨es, rfl, -⟩ := h
  exact prefix_append past es

theorem Asked.unmutated (h : Asked past past') (hun : Unmutated past) : Unmutated past' := by
  obtain ⟨es, rfl, hasks⟩ := h
  intro e he
  rcases mem_append.mp he with he | he
  · exact hun e he
  have hask := hasks e he
  obtain ⟨c, a⟩ := e
  cases c <;> first | rfl | cases hask

theorem Asked.lastAnswer (h : Asked past past') : lastAnswer name past' = lastAnswer name past := by
  obtain ⟨es, rfl, hasks⟩ := h
  have hnone : es.filterMap (answered name) = [] := by
    rw [filterMap_eq_nil_iff]
    intro e he
    have hask := hasks e he
    obtain ⟨c, a⟩ := e
    cases c <;> first | rfl | cases hask
  rw [ControllerAdapter.lastAnswer, filterMap_append, hnone, append_nil]
  rfl

/-! ## What is allowed -/

def Wrote (past : List WorkerEvent) (name : String) (l : Object Lease) : Prop :=
  ∃ e ∈ past, answered name e = some (.ok l)

theorem Wrote.mono (h : Wrote past name l) (hpre : past <+: past') : Wrote past' name l := by
  obtain ⟨e, he, ha⟩ := h
  exact ⟨e, hpre.subset he, ha⟩

/-- The last write of the section's Lease was a save over `copy` of the config's
own, which turned the entry of the resource from `old` into `new`. -/
structure Recorded (k : Job) (past : List WorkerEvent) (r : Resource) (current : Object Lease)
    (old new : MutationReceipt) : Prop where
  wrote : ∃ copy lease before, (⟨.updateLease (k.lock r.section).name copy lease, .ok current⟩ :
    WorkerEvent) ∈ past ∧ copy.content.journal = some before ∧
      before.receipt (resourceKey r) = old
  holder : current.content.holderIdentity = some k.session
  owner : current.content.configUID = k.config.uid
  entry : ∃ after, current.content.journal = some after ∧ after.receipt (resourceKey r) = new

/-- The mutation is the first, and what is in force for it is its own entry. -/
structure Prepared (k : Job) (past : List WorkerEvent) (r : Resource)
    (old new : MutationReceipt) : Prop where
  recorded : ∃ current, lastAnswer (k.lock r.section).name past = some (.ok current) ∧
    Recorded k past r current old new
  settled : old.state ≠ .dispatched
  first : Unmutated past

/-- The text was the config's source in this reconciliation. -/
def Sourced (k : Job) (past : List WorkerEvent) (data : String) : Prop :=
  match k.config.source with
  | .inline raw => data = raw
  | .configMapRef => (⟨.readSource, some data⟩ : WorkerEvent) ∈ past
  | .missing => data = ""

def Observed (past : List WorkerEvent) (r : Resource) (o : Option Observation) : Prop :=
  (⟨.observe r, .ok o⟩ : WorkerEvent) ∈ past

/-- Every resource of the source was observed as it should be. -/
def AllEqual (m : Model) (k : Job) (past : List WorkerEvent) : Prop :=
  ∃ data resources, Sourced k past data ∧ m.compile data = some resources ∧
    ∀ r ∈ resources, ∃ o, Observed past r (some o) ∧ m.equal r o.body = some true

/-- The new Lease is held by the session, and takes no unsettled journal from
another one. -/
structure Rewrites (k : Job) (old new : Lease) : Prop where
  holder : new.holderIdentity = some k.session
  settled : old.holderIdentity = some k.session ∨
    ∀ j, old.journal = some j → ¬ SectionJournal.Unsettled j

def Allowed (m : Model) (k : Job) (past : List WorkerEvent) : Request → Prop
  | .createLease _ lease => lease.holderIdentity = some k.session
  | .updateLease name copy lease =>
    ((⟨.getLease name, .ok copy⟩ : WorkerEvent) ∈ past ∨ Wrote past name copy) ∧
      Rewrites k copy.content lease
  | .create r => Observed past r none ∧ ∃ old, Prepared k past r old ⟨.dispatched, ""⟩
  | .update r o => Observed past r (some o) ∧ o.attached = false ∧
      ∃ old, Prepared k past r old ⟨.dispatched, o.id⟩ ∧ old.id = o.id ∧ old.state ≠ .unset
  | .patchStatus .inSync _ _ => k.config.apply = true → AllEqual m k past
  | _ => True

/-- A written Lease is given back as it was sent. -/
def Faithful : (c : Request) → Reply c → Prop
  | .createLease _ lease, .ok l | .updateLease _ _ lease, .ok l => l.content = lease
  | _, _ => True

abbrev Obliged {α : Type} (m : Model) (k : Job) (p : Adapter α) (past : List WorkerEvent)
    (Q : List WorkerEvent → α → Prop) : Prop :=
  p.Obeys Faithful (Allowed m k) past Q

theorem obliged_asks {α : Type} {p : Adapter α} (h : p.Uses fun c => c.asks = true) :
    Obliged m k p past fun past' _ => Asked past past' := by
  induction p generalizing past with
  | done a => exact ⟨[], (append_nil past).symm, fun _ he => nomatch he⟩
  | call c next ih =>
    refine ⟨?_, fun a _ => (ih a (h.2 a)).mono fun past' b _ hasked => ?_⟩
    · have hc := h.1
      cases c <;> trivial
    obtain ⟨es, rfl, hes⟩ := hasked
    exact ⟨⟨c, a⟩ :: es, by simp, forall_mem_cons.mpr ⟨h.1, hes⟩⟩

theorem mem_snoc (e : WorkerEvent) : e ∈ past ++ [e] :=
  mem_append_right _ (mem_singleton_self _)

theorem obliged_publish
    (h : phase = .inSync → k.config.apply = true → ∀ past', past <+: past' → AllEqual m k past') :
    Obliged m k (publish phase reason count) past fun _ _ => True := by
  refine ⟨trivial, fun b _ => ?_⟩
  cases b with
  | false => trivial
  | true =>
    refine ⟨?_, fun _ _ => trivial⟩
    cases phase with
    | inSync => exact fun happly => h rfl happly _ (prefix_append _ _)
    | failed | drifted | leaseBlocked | applying => trivial

theorem obliged_fail : Obliged m k (fail reason) past fun _ _ => True :=
  obliged_publish fun h => nomatch h

/-! ## The section Lease -/

/-- The claim is what the session last wrote of the section, and its journal. -/
structure Mine (k : Job) (past : List WorkerEvent) (sec : String) (claim : Claim) : Prop where
  wrote : Wrote past (k.lock sec).name claim.lease
  holder : claim.lease.content.holderIdentity = some k.session
  owner : claim.lease.content.configUID = k.config.uid
  journal : claim.lease.content.journal = some claim.journal

theorem Mine.mono (h : Mine k past sec claim) (hpre : past <+: past') : Mine k past' sec claim :=
  { h with wrote := h.wrote.mono hpre }

theorem answered_update :
    answered name ⟨.updateLease name copy lease, a⟩ = some a := if_pos rfl

theorem answered_create :
    answered name ⟨.createLease name lease, a⟩ = some a := if_pos rfl

theorem Unmutated.snoc (h : Unmutated past) (he : e.1.mutates = false) :
    Unmutated (past ++ [e]) := by
  exact forall_mem_append.mpr ⟨h, forall_mem_singleton.mpr he⟩

theorem uses_check (s : SectionLease) (l : Object Lease) :
    (s.check l).Uses fun c => c.asks = true := by
  refine uses_bind (uses_request rfl) fun read => ?_
  cases read with
  | error e => exact uses_pure
  | ok live =>
    show Program.Uses _ (if _ then _ else _)
    split
    · exact uses_pure
    split
    · refine uses_bind (uses_request rfl) fun now => ?_
      show Program.Uses _ (if _ then _ else _)
      split
      · exact uses_pure
      · exact uses_pure
    · exact uses_pure

theorem mine_snoc (ha : answered (k.lock sec).name ⟨c, a⟩ = some (.ok l)) (hl : l.content = lease)
    (hholder : lease.holderIdentity = some k.session) (howner : lease.configUID = k.config.uid)
    (hj : lease.journal = some j) : Mine k (past ++ [⟨c, a⟩]) sec ⟨l, j⟩ := by
  subst hl
  exact ⟨⟨⟨c, a⟩, mem_snoc _, ha⟩, hholder, howner, hj⟩

/-- What holds of a claim that was just acquired or saved. -/
def Claimed (k : Job) (past : List WorkerEvent) (sec : String) (past' : List WorkerEvent)
    (result : Except String Claim) : Prop :=
  ∀ claim, result = .ok claim →
    Mine k past' sec claim ∧ (Unmutated past → Unmutated past')

theorem claimed_error : Claimed k past sec past' (.error text) :=
  fun _ h => nomatch h

theorem obliged_create (hasked : Asked start past) :
    Obliged m k ((k.lock sec).create now) past (Claimed k start sec) := by
  refine ⟨rfl, fun a ha => ?_⟩
  cases a with
  | error e => exact claimed_error
  | ok l =>
    rintro claim ⟨⟩
    refine ⟨mine_snoc answered_create ha rfl rfl rfl, fun hun => ?_⟩
    exact (hasked.unmutated hun).snoc rfl

theorem obliged_take (hasked : Asked start past)
    (hread : (⟨.getLease (k.lock sec).name, .ok l⟩ : WorkerEvent) ∈ past)
    (howner : l.content.configUID = k.config.uid) (hj : l.content.journal = some j)
    (hsettled : l.content.holderIdentity = some k.session ∨ ¬ j.Unsettled) :
    Obliged m k ((k.lock sec).take l j now) past (Claimed k start sec) := by
  have hrewrites : Rewrites k l.content ((k.lock sec).takenOver l.content now) := by
    refine ⟨rfl, hsettled.imp_right fun h j' hj' => ?_⟩
    rw [hj] at hj'
    cases hj'
    exact h
  refine ⟨⟨.inl hread, hrewrites⟩, fun a ha => ?_⟩
  cases a with
  | error e => exact claimed_error
  | ok l' =>
    rintro claim ⟨⟩
    refine ⟨mine_snoc answered_update ha rfl howner hj, fun hun => ?_⟩
    exact (hasked.unmutated hun).snoc rfl

theorem Asked.refl (past : List WorkerEvent) : Asked past past :=
  ⟨[], (append_nil past).symm, fun _ he => nomatch he⟩

theorem Asked.trans (h : Asked past past') (h' : Asked past' past'') : Asked past past'' := by
  obtain ⟨es, rfl, hes⟩ := h
  obtain ⟨es', rfl, hes'⟩ := h'
  exact ⟨es ++ es', append_assoc .., forall_mem_append.mpr ⟨hes, hes'⟩⟩

theorem Asked.snoc (h : Asked past past') (he : e.1.asks = true) : Asked past (past' ++ [e]) := by
  refine h.trans ⟨[e], rfl, fun e' he' => ?_⟩
  rw [mem_singleton.mp he']
  exact he

theorem obliged_acquire :
    Obliged m k (k.lock sec).acquire past (Claimed k past sec) := by
  rw [SectionLease.acquire]
  split
  · exact claimed_error
  refine ⟨trivial, fun read _ => ⟨trivial, fun now _ => ?_⟩⟩
  have hasked : Asked past (past ++ [⟨.getLease (k.lock sec).name, read⟩] ++ [⟨.now, now⟩]) :=
    ((Asked.refl past).snoc rfl).snoc rfl
  cases read with
  | error e =>
    show Obliged m k (if _ then _ else _) _ _
    split
    · exact obliged_create hasked
    · exact claimed_error
  | ok l =>
    have hread : (⟨.getLease (k.lock sec).name, .ok l⟩ : WorkerEvent) ∈
        past ++ [⟨.getLease (k.lock sec).name, .ok l⟩] ++ [⟨.now, now⟩] :=
      mem_append_left _ (mem_snoc _)
    simp only []
    split
    · exact claimed_error
    rename_i j hj
    split
    · exact claimed_error
    rename_i howner
    have howner := Decidable.not_not.mp howner
    split
    · rename_i holder renewTime duration hholder _ _
      split
      · rename_i hsame
        refine obliged_take hasked hread howner hj (.inl ?_)
        rw [hholder, hsame]
        rfl
      split
      · exact claimed_error
      rename_i hsettled
      refine ⟨trivial, fun later _ => ?_⟩
      show Obliged m k (if _ then _ else _) _ _
      split
      · exact claimed_error
      · exact obliged_take (hasked.snoc rfl)
          (mem_append_left _ hread) howner hj (.inr hsettled)
    · exact claimed_error

/-- A save that went through is the last write of the section's Lease. -/
structure SavedOver (k : Job) (past : List WorkerEvent) (sec : String) (before saved : Claim)
    (j : SectionJournal) : Prop where
  mine : Mine k past sec saved
  journal : saved.journal = j
  wrote : ∃ lease, (⟨.updateLease (k.lock sec).name before.lease lease, .ok saved.lease⟩ :
    WorkerEvent) ∈ past
  last : lastAnswer (k.lock sec).name past = some (.ok saved.lease)

theorem obliged_save (h : Mine k past sec claim) (j : SectionJournal) :
    Obliged m k ((k.lock sec).save claim.lease j) past fun past' result =>
      ∀ saved, result = .ok saved →
        SavedOver k past' sec claim saved j ∧ (Unmutated past → Unmutated past') := by
  refine (obliged_asks (uses_check _ _)).bind fun past' checked _ hasked => ?_
  cases checked with
  | error text => exact fun _ hs => nomatch hs
  | ok _ =>
    show Obliged m k (if _ then _ else _) _ _
    split
    · exact fun _ hs => nomatch hs
    split
    · exact fun _ hs => nomatch hs
    refine ⟨trivial, fun now _ => ?_⟩
    have hasked := hasked.snoc (e := ⟨.now, now⟩) rfl
    refine ⟨⟨.inr (h.wrote.mono hasked.grows), h.holder, .inl h.holder⟩, fun a ha => ?_⟩
    cases a with
    | error e => exact fun _ hs => nomatch hs
    | ok l =>
      rintro saved ⟨⟩
      refine ⟨⟨mine_snoc answered_update ha h.holder h.owner rfl, rfl,
        ⟨_, mem_snoc _⟩, ?_⟩, fun hun => (hasked.unmutated hun).snoc rfl⟩
      rw [lastAnswer_snoc, answered_update]
      rfl

/-! ## The mutation -/

theorem uses_mutationGuard (s : SectionLease) (l : Object Lease) :
    (mutationGuard s l).Uses fun c => c.asks = true := by
  refine uses_bind (uses_check s l) fun checked => ?_
  cases checked with
  | error text => exact uses_pure
  | ok _ => exact uses_request rfl

/-- What is sent behind the guard is allowed if it is wherever the guard ends. -/
theorem obliged_guarded {α : Type} {send : Adapter (Except Unit α)}
    (h : ∀ past', Asked past past' → Obliged m k send past' fun _ _ => True) :
    Obliged m k (guarded s l send) past fun _ _ => True := by
  refine (obliged_asks (uses_mutationGuard s l)).bind fun past₁ passed _ h₁ => ?_
  cases passed with
  | false => trivial
  | true =>
    refine (obliged_asks (uses_mutationGuard s l)).bind fun past₂ passed _ h₂ => ?_
    cases passed with
    | false => trivial
    | true => exact h past₂ (h₁.trans h₂)

theorem Prepared.asked (h : Prepared k past r old new) (hasked : Asked past past') :
    Prepared k past' r old new := by
  obtain ⟨current, hlast, hrecorded⟩ := h.recorded
  obtain ⟨copy, lease, before, hmem, hbefore⟩ := hrecorded.wrote
  refine ⟨⟨current, hasked.lastAnswer.trans hlast, ?_⟩, h.settled, hasked.unmutated h.first⟩
  exact { hrecorded with wrote := ⟨copy, lease, before, hasked.grows.subset hmem, hbefore⟩ }

/-- What a mutation needs of the entry of its resource. -/
structure Ready (past : List WorkerEvent) (r : Resource) (o : Option Observation)
    (receipt : MutationReceipt) : Prop where
  observed : Observed past r o
  settled : receipt.state ≠ .dispatched
  known : ∀ o', o = some o' → receipt.id = o'.id ∧ receipt.state ≠ .unset

theorem obliged_dispatch (hready : Ready past r o receipt)
    (hprepared : Prepared k past r receipt ⟨.dispatched, (o.map (·.id)).getD ""⟩) :
    Obliged m k (k.dispatch claim r o) past fun _ _ => True := by
  cases o with
  | none =>
    refine obliged_guarded fun past' hasked => ⟨?_, fun _ _ => trivial⟩
    exact ⟨hasked.grows.subset hready.observed, receipt, hprepared.asked hasked⟩
  | some o =>
    refine Obeys.bind (Q := fun _ _ => True) ?_ fun _ _ _ _ => trivial
    rw [remoteUpdate]
    split
    · trivial
    rename_i hvalid
    have hattached : o.attached = false := by
      rw [Bool.or_eq_true, not_or] at hvalid
      exact Bool.eq_false_of_not_eq_true hvalid.2
    refine obliged_guarded fun past' hasked => ⟨?_, fun _ _ => trivial⟩
    exact ⟨hasked.grows.subset hready.observed, hattached, receipt,
      hprepared.asked hasked, hready.known o rfl⟩

theorem obliged_readBack {id : String} (h : Mine k past r.section claim) :
    Obliged m k (k.readBack m claim r id total) past fun _ _ => True := by
  refine ⟨trivial, fun a _ => ?_⟩
  have hmine : Mine k (past ++ [⟨.observe r, a⟩]) r.section claim :=
    h.mono (prefix_append _ _)
  rcases a with _ | _ | o
  · exact obliged_fail
  · exact obliged_fail
  show Obliged m k (if _ then _ else _) _ _
  split
  · exact obliged_fail
  refine (obliged_save hmine _).bind fun past' result _ _ => ?_
  cases result with
  | error text => exact obliged_fail
  | ok saved => exact obliged_publish fun hphase => nomatch hphase

theorem obliged_mutate (h : Mine k past r.section claim)
    (hready : Ready past r o (claim.journal.receipt (resourceKey r))) (hun : Unmutated past) :
    Obliged m k (k.mutate m claim r o total) past fun _ _ => True := by
  refine ⟨trivial, fun passed _ => ?_⟩
  cases passed with
  | false => trivial
  | true =>
    have hasked : Asked past (past ++ [⟨.guard, true⟩]) := (Asked.refl past).snoc rfl
    refine (obliged_save (h.mono hasked.grows) _).bind fun past₁ result hpre₁ hsaved => ?_
    cases result with
    | error text => exact obliged_fail
    | ok saved =>
      obtain ⟨hover, hun₁⟩ := hsaved saved rfl
      refine ⟨trivial, fun passed _ => ?_⟩
      cases passed with
      | false => trivial
      | true =>
        have hasked₁ : Asked past₁ (past₁ ++ [⟨.guard, true⟩]) :=
          (Asked.refl past₁).snoc rfl
        have hprepared : Prepared k past₁ r (claim.journal.receipt (resourceKey r))
            ⟨.dispatched, (o.map (·.id)).getD ""⟩ := by
          obtain ⟨lease, hwrote⟩ := hover.wrote
          have hentry : SectionJournal.receipt saved.journal (resourceKey r) =
              ⟨.dispatched, (o.map (·.id)).getD ""⟩ := by
            rw [hover.journal]
            exact receipt_set_self
          exact ⟨⟨saved.lease, hover.last, ⟨claim.lease, lease, claim.journal, hwrote,
            h.journal, rfl⟩, hover.mine.holder, hover.mine.owner,
            ⟨saved.journal, hover.mine.journal, hentry⟩⟩, hready.settled,
            hun₁ (hasked.unmutated hun)⟩
        have hready₁ : Ready (past₁ ++ [⟨.guard, true⟩]) r o
            (claim.journal.receipt (resourceKey r)) :=
          { hready with observed :=
              (hasked.grows.trans (hpre₁.trans hasked₁.grows)).subset hready.observed }
        refine (obliged_dispatch hready₁ (hprepared.asked hasked₁)).bind
          fun past₂ outcome hpre₂ _ => ?_
        cases outcome with
        | error _ => exact obliged_fail
        | ok id =>
          have hmine := hover.mine.mono (hasked₁.grows.trans hpre₂)
          refine (obliged_save hmine _).bind fun past₃ result _ haccepted => ?_
          cases result with
          | error text => exact obliged_fail
          | ok accepted => exact obliged_readBack (haccepted accepted rfl).1.mine

/-! ## The plan -/

def AllMine (k : Job) (past : List WorkerEvent) (claims : Claims) : Prop :=
  ∀ sec claim, claims.find sec = some claim → Mine k past sec claim

theorem AllMine.mono (h : AllMine k past claims) (hpre : past <+: past') : AllMine k past' claims :=
  fun sec claim hfind => (h sec claim hfind).mono hpre

theorem AllMine.set (h : AllMine k past claims) (hclaim : Mine k past sec claim) :
    AllMine k past (claims.set sec claim) := by
  intro sec' claim' hfind
  rcases Map.find_set_iff.mp hfind with ⟨rfl, rfl⟩ | ⟨-, hold⟩
  · exact hclaim
  · exact h sec' claim' hold

theorem obliged_acquireAll (names : List String) (h : AllMine k past claims)
    (hun : Unmutated past) :
    Obliged m k (k.acquireAll names claims) past fun past' result =>
      ∀ claims', result = some claims' → AllMine k past' claims' ∧ Unmutated past' := by
  induction names generalizing past claims with
  | nil =>
    rintro claims' ⟨⟩
    exact ⟨h, hun⟩
  | cons name rest ih =>
    refine (obliged_acquire).bind fun past' result hpre hclaimed => ?_
    cases result with
    | error text => exact fun _ hnone => nomatch hnone
    | ok claim =>
      obtain ⟨hmine, hun'⟩ := hclaimed claim rfl
      exact ih ((h.mono hpre).set hmine) (hun' hun)

/-- Nothing stands against the resource: its entry is settled and knows what
was observed. -/
theorem ready_of_verdict (h : m.verdict claims total seen = none)
    (hobserved : Observed past seen.1 seen.2) :
    Ready past seen.1 seen.2 (receiptOf claims seen.1) := by
  obtain ⟨r, o⟩ := seen
  simp only [Model.verdict] at h
  split at h
  · cases h
  rename_i hsettled
  refine ⟨hobserved, hsettled, fun o' ho' => ?_⟩
  cases ho'
  simp only [] at h
  split at h
  · cases h
  rename_i hknown
  rw [Bool.or_eq_true, not_or] at hknown
  exact ⟨by simpa using hknown.1, by simpa using hknown.2⟩

theorem verdict_ne_inSync (h : m.verdict claims total seen = some (phase, reason, count)) :
    phase ≠ .inSync := by
  rintro rfl
  simp only [Model.verdict] at h
  repeat' split at h
  all_goals cases h

theorem Ready.mono (h : Ready past r o receipt)
    (hpre : past <+: past') : Ready past' r o receipt :=
  { h with observed := hpre.subset h.observed }

theorem receiptOf_find (h : claims.find r.section = some claim) :
    receiptOf claims r = claim.journal.receipt (resourceKey r) := by
  rw [receiptOf, h]

theorem ready_verified {r' : Resource} (hfind : claims.find r.section = some claim)
    (hsaved : saved.journal = claim.journal.set (resourceKey r)
      { claim.journal.receipt (resourceKey r) with state := .verified })
    (h : Ready past r' o (receiptOf claims r')) :
    Ready past r' o (receiptOf (claims.set r.section saved) r') := by
  by_cases hsec : r'.section = r.section
  · have hold : receiptOf claims r' = claim.journal.receipt (resourceKey r') :=
      receiptOf_find (by rw [hsec, hfind])
    have hnew : receiptOf (claims.set r.section saved) r' =
        saved.journal.receipt (resourceKey r') :=
      receiptOf_find (by rw [hsec, Map.find_set_self])
    rw [hold] at h
    rw [hnew, hsaved]
    by_cases hkey : resourceKey r' = resourceKey r
    · rw [hkey] at h ⊢
      rw [receipt_set_self]
      exact ⟨h.observed, nofun, fun o' ho' => ⟨(h.known o' ho').1, nofun⟩⟩
    · rw [receipt_set_ne hkey]
      exact h
  · have hsame : receiptOf (claims.set r.section saved) r' = receiptOf claims r' := by
      rw [receiptOf, receiptOf, Map.find_set_ne hsec]
    rw [hsame]
    exact h

/-- The plan up to the first resource that is not in sync: those before it are,
so where none is left the whole source is. -/
theorem obliged_applyAll (hmine : AllMine k past claims) (hun : Unmutated past)
    (hready : ∀ seen ∈ rest, Ready past seen.1 seen.2 (receiptOf claims seen.1))
    (hall : (∀ seen ∈ rest, m.inSync seen = true) → ∀ past', past <+: past' → AllEqual m k past') :
    Obliged m k (k.applyAll m total rest claims) past fun _ _ => True := by
  induction rest generalizing past claims with
  | nil => exact obliged_publish fun _ _ => hall fun _ h => nomatch h
  | cons seen rest ih =>
    obtain ⟨r, o⟩ := seen
    have hhere := hready (r, o) mem_cons_self
    have hothers : ∀ seen ∈ rest, Ready past seen.1 seen.2 (receiptOf claims seen.1) :=
      fun seen hseen => hready seen (mem_cons_of_mem _ hseen)
    rw [Job.applyAll]
    split
    · trivial
    rename_i claim hfind
    split
    · rename_i hsync
      have hall' : ∀ past₁, past <+: past₁ → (∀ seen ∈ rest, m.inSync seen = true) →
          ∀ past', past₁ <+: past' → AllEqual m k past' := by
        intro past₁ hpre₁ hrest past' hpre
        exact hall (forall_mem_cons.mpr ⟨hsync, hrest⟩) past' (hpre₁.trans hpre)
      simp only []
      split
      · refine (obliged_save (hmine _ _ hfind) _).bind fun past₁ result hpre₁ hsaved => ?_
        cases result with
        | error text => exact obliged_fail
        | ok saved =>
          obtain ⟨hover, hun₁⟩ := hsaved saved rfl
          refine ih ((hmine.mono hpre₁).set hover.mine) (hun₁ hun) ?_ (hall' _ hpre₁)
          intro seen hseen
          exact ready_verified hfind hover.journal ((hothers seen hseen).mono hpre₁)
      · exact ih hmine hun hothers (hall' past prefix_rfl)
    · rw [receiptOf_find hfind] at hhere
      exact obliged_mutate (hmine _ _ hfind) hhere hun

/-! ## A whole reconciliation -/

theorem obliged_observeAll (resources : List Resource) (hun : Unmutated past) :
    Obliged m k (m.observeAll resources) past fun past' result =>
      Unmutated past' ∧ ∀ seen, result = some seen →
        seen.map Prod.fst = resources ∧ ∀ s ∈ seen, Observed past' s.1 s.2 := by
  induction resources generalizing past with
  | nil =>
    refine ⟨hun, ?_⟩
    rintro seen ⟨⟩
    exact ⟨rfl, fun s h => absurd h not_mem_nil⟩
  | cons r rest ih =>
    refine ⟨trivial, fun a _ => ?_⟩
    have hun' : Unmutated (past ++ [⟨.observe r, a⟩]) := hun.snoc rfl
    have hnext : ∀ o : Option Observation, a = .ok o →
        Obliged m k (do return (← m.observeAll rest).map ((r, o) :: ·))
          (past ++ [⟨.observe r, a⟩]) fun past' result =>
            Unmutated past' ∧ ∀ seen, result = some seen →
              seen.map Prod.fst = r :: rest ∧ ∀ s ∈ seen, Observed past' s.1 s.2 := by
      rintro o rfl
      refine (ih hun').bind fun past' result hpre hresult => ⟨hresult.1, fun seen hseen => ?_⟩
      obtain ⟨seen', rfl, rfl⟩ := Option.map_eq_some_iff.mp hseen
      obtain ⟨hmap, hobserved⟩ := hresult.2 seen' rfl
      exact ⟨by rw [map_cons, hmap], forall_mem_cons.mpr ⟨hpre.subset (mem_snoc _),
        hobserved⟩⟩
    have hfailed : ∀ seen : List (Resource × Option Observation), none = some seen →
        seen.map Prod.fst = r :: rest ∧
          ∀ s ∈ seen, Observed (past ++ [⟨.observe r, a⟩]) s.1 s.2 := by
      intro seen h
      cases h
    rcases a with _ | _ | o
    · exact ⟨hun', hfailed⟩
    · exact hnext none rfl
    simp only [Program.bind]
    split
    · exact ⟨hun', hfailed⟩
    · exact hnext (some o) rfl

theorem Sourced.mono (h : Sourced k past data) (hpre : past <+: past') : Sourced k past' data := by
  simp only [Sourced] at h ⊢
  cases hsource : k.config.source with
  | inline raw =>
    rw [hsource] at h
    exact h
  | configMapRef =>
    rw [hsource] at h
    exact hpre.subset h
  | missing =>
    rw [hsource] at h
    exact h

theorem allEqual_of_seen {seen : List Model.Seen} (hdata : Sourced k past data)
    (hcompile : m.compile data = some (seen.map Prod.fst))
    (hobserved : ∀ s ∈ seen, Observed past s.1 s.2) (hsync : ∀ s ∈ seen, m.inSync s = true) :
    AllEqual m k past := by
  refine ⟨data, seen.map Prod.fst, hdata, hcompile, fun r hr => ?_⟩
  obtain ⟨⟨r, o⟩, hseen, rfl⟩ := mem_map.mp hr
  have hin := hsync _ hseen
  have hob := hobserved _ hseen
  cases o with
  | none => cases hin
  | some o => exact ⟨o, hob, by simpa [Model.inSync] using hin⟩

theorem obliged_settle (hdata : Sourced k past data) (hcompile : m.compile data = some resources)
    (hun : Unmutated past) : Obliged m k (k.settle m resources) past fun _ _ => True := by
  refine (obliged_observeAll resources hun).bind fun past₁ result hpre₁ hresult => ?_
  cases result with
  | none => exact obliged_fail
  | some seen =>
    obtain ⟨hun₁, hseen⟩ := hresult
    obtain ⟨rfl, hobserved⟩ := hseen seen rfl
    show Obliged m k (if _ then _ else _) _ _
    split
    · have hnone : AllMine k past₁ ∅ := by
        intro sec claim hfind
        rw [Map.find_empty] at hfind
        cases hfind
      refine (obliged_acquireAll _ hnone hun₁).bind
        fun past₂ acquired hpre₂ hacquired => ?_
      cases acquired with
      | none => exact obliged_publish fun hphase => nomatch hphase
      | some claims =>
        obtain ⟨hmine, hun₂⟩ := hacquired claims rfl
        have hobserved₂ : ∀ s ∈ seen, Observed past₂ s.1 s.2 :=
          fun s hs => hpre₂.subset (hobserved s hs)
        simp only []
        split
        · rename_i phase reason count hverdict
          obtain ⟨s, -, hs⟩ := exists_of_findSome?_eq_some hverdict
          exact obliged_publish fun hphase => absurd hphase (verdict_ne_inSync hs)
        rename_i hverdict
        rw [List.findSome?_eq_none_iff] at hverdict
        refine obliged_applyAll hmine hun₂ (fun s hs => ?_) fun hsync past' hpre => ?_
        · exact ready_of_verdict (hverdict s hs) (hobserved₂ s hs)
        · exact allEqual_of_seen (hdata.mono (hpre₁.trans (hpre₂.trans hpre))) hcompile
            (fun s hs => hpre.subset (hobserved₂ s hs)) hsync
    · rename_i hobserve
      exact obliged_publish fun _ happly => absurd happly hobserve

theorem obliged_read (hun : Unmutated past) :
    Obliged m k k.read past fun past' result =>
      Unmutated past' ∧ ∀ data, result = some data → Sourced k past' data := by
  simp only [Job.read, Sourced]
  cases k.config.source with
  | inline raw =>
    refine ⟨hun, fun data hdata => ?_⟩
    exact (Option.some.inj hdata).symm
  | configMapRef =>
    refine ⟨trivial, fun a _ => ⟨hun.snoc rfl, fun data hdata => ?_⟩⟩
    subst hdata
    exact mem_snoc _
  | missing =>
    refine ⟨hun, fun data hdata => ?_⟩
    exact (Option.some.inj hdata).symm

theorem obliged_reconcile : Obliged m k (k.reconcile m) [] fun _ _ => True := by
  refine ⟨trivial, fun live _ => ?_⟩
  cases live with
  | false => trivial
  | true =>
    refine ⟨trivial, fun valid _ => ?_⟩
    cases valid with
    | false => exact obliged_fail
    | true =>
      have hnone : Unmutated [] := fun _ h => nomatch h
      have hun : Unmutated [⟨.live, true⟩, ⟨.validateConfigContract, true⟩] :=
        (hnone.snoc rfl).snoc rfl
      show Obliged m k (if _ then _ else _) _ _
      split
      · exact obliged_fail
      refine (obliged_read hun).bind fun past₁ result _ hread => ?_
      obtain ⟨hun₁, hdata⟩ := hread
      cases result with
      | none => exact obliged_fail
      | some data =>
        simp only []
        split
        · exact obliged_fail
        rename_i resources hcompile
        split
        · exact obliged_fail
        refine ⟨trivial, fun version _ => ?_⟩
        cases version with
        | none => exact obliged_fail
        | some version =>
          show Obliged m k (if _ then _ else _) _ _
          split
          · exact obliged_fail
          · exact obliged_settle ((hdata data rfl).mono (prefix_append _ _))
              hcompile (hun₁.snoc rfl)

end VirtualKubelet.ControllerAdapter
