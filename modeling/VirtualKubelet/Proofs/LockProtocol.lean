import VirtualKubelet.Proofs.LedgerFrame
import VirtualKubelet.Proofs.LockInvariant
import VirtualKubelet.Proofs.Persisted

/-!
# Every interleaving keeps lock and reservation together

The steps of the protocol one by one against the invariant, and from them every
run. Most steps only move a manager to its next point; the four that write are
the publication of a lock, its marking, its clearing, and a ledger commit.
-/

namespace VirtualKubelet.Rollout

open Go Api

section

variable [Upstream]

/-- A reservation that was written names the attempt's device and lock, and the
fence was not in the way. -/
theorem reserveFor_ok {policy : Policy} {a : Attempt} (hepoch : policy.epoch = a.policyEpoch)
    (h : reserveFor l policy members a = .done l') :
    l' = l ∨ (¬ Fenced l a ∧ ∃ id r, l' = l.put id r ∧
      r.deviceUID = a.target.deviceUID ∧ r.topologyLockID = a.acquisitionID) := by
  simp only [reserveFor, rolloutReservationRequest] at h
  split at h
  · simp at h
  rename_i request hrequest
  split at hrequest
  · cases hrequest
  cases hrequest
  rcases reserve_ok h with ⟨_, _, _, _, _, rfl⟩ | ⟨hadmits, rfl⟩
  · exact .inl rfl
  refine .inr ⟨?_, _, _, rfl, rfl, rfl⟩
  have hfence := hadmits.unfenced
  simp only [hepoch] at hfence
  intro hf
  simp only [Fenced, hasReleaseFence, Attempt.reservationID] at hf
  rw [hfence] at hf
  cases hf

theorem apply_keeps {op : Op} (hop : op.isReserve = false) (h : op.apply l = .done l') {id : String}
    (hr' : l'.find id = some r') :
    ∃ r, l.find id = some r ∧ r'.deviceUID = r.deviceUID ∧
      r'.topologyLockID = r.topologyLockID := by
  cases apply_effect h with
  | unchanged h => exact ⟨r', h ▸ hr', rfl, rfl⟩
  | added policy members request hreserve _ _ =>
    rw [hreserve] at hop
    cases hop
  | updated r r₁ hr h hsame _ =>
    subst h
    rcases Map.find_set_iff.mp hr' with ⟨rfl, rfl⟩ | ⟨_, hold⟩
    · obtain ⟨rev, hreq⟩ := hsame.request
      exact ⟨r, hr, by rw [hreq], by rw [hreq]⟩
    · exact ⟨r', hold, rfl, rfl⟩
  | released fence h =>
    subst h
    exact ⟨r', (Map.find_delete_iff.mp hr').2, rfl, rfl⟩

end

/-! ## Every step keeps the invariant -/

section

variable [Upstream] {s : Store} {w : World} {p : Nat}

theorem inv_edit (hinv : Inv w) (key : String) (d : Device) :
    Inv (w.step s (.edit key d)) := by
  simp only [World.step]
  split
  · exact hinv
  rename_i o hfind
  have hwrite : DeviceWrite w key o { d with
      uid := o.content.uid, topologyLock := o.content.topologyLock }
      (w.writeDevice key (o.write { d with
        uid := o.content.uid, topologyLock := o.content.topologyLock })) :=
    ⟨hfind, rfl, rfl, rfl, rfl, Finset.Subset.refl _,
      fun lock hlock => hinv.lockUID key o lock hfind hlock, .same _⟩
  refine hwrite.inv_keep hinv rfl (fun hnone => hnone) fun lock hlock => ?_
  exact (hinv.known key lock (hwrite.lockAt_old.trans hlock)).1

theorem inv_acquire (hinv : Inv w) (a : Attempt) (now : Time) :
    Inv (w.step s (.acquire p a now)) := by
  simp only [World.step]
  split
  · rename_i o hproc hfind
    split
    · exact hinv
    · rename_i hread
      -- The device was valid and bare when it was read.
      simp only [acquireRead] at hread
      split at hread
      · cases hread
      rename_i hvalid
      split at hread
      · rename_i hnone
        refine inv_goto_plain hinv ⟨⟨o, hfind, Object.read_self o⟩, hnone, ?_⟩ rfl
        exact validateTarget_uid hvalid
      · split at hread
        · cases hread
        · split at hread <;> cases hread
    · rename_i lock hread
      refine inv_goto_plain hinv ?_ rfl
      simp only [acquireRead] at hread
      split at hread
      · cases hread
      split at hread
      · cases hread
      rename_i lock' hlock
      split at hread
      · cases hread
      split at hread
      · cases hread
      · cases hread
      cases hread
      refine (hinv.known a.key lock ?_).1
      rw [World.lockAt, hfind]
      exact hlock
  · exact hinv

theorem inv_publish (hinv : Inv w) : Inv (w.step s (.publish p)) := by
  simp only [World.step]
  split
  · rename_i a now seen hproc
    obtain ⟨⟨o, hfind, hread⟩, hbare, huid⟩ := hinv.at hproc
    split
    · exact hinv
    rename_i hfresh
    simp only [hfind]
    split
    · exact inv_idle hinv
    rename_i o' hpatch
    obtain ⟨rfl, rfl⟩ := Object.patch_some hread hpatch
    have hwrite : DeviceWrite w a.key seen
        { seen.content with topologyLock := some (a.expected now) }
        { w.writeDevice a.key (seen.write
            { seen.content with topologyLock := some (a.expected now) }) with
          published := insert a.acquisitionID w.published } := by
      refine ⟨hfind, rfl, rfl, rfl, rfl, Finset.subset_insert _ _, ?_, ?_⟩
      · intro lock hlock
        cases hlock
        exact huid.symm
      · rw [hbare]
        exact .publish _ hfresh
    have hinv' := hwrite.inv_keep hinv rfl nofun fun lock hlock => by
      cases hlock
      exact Finset.mem_insert_self _ _
    exact inv_goto_plain (p := p) (y := .confirming a) hinv' trivial rfl
  · exact hinv

theorem inv_recover (hinv : Inv w) (policyUID policyVersion : String) :
    Inv (w.step s (.recover p policyUID policyVersion)) := by
  simp only [World.step]
  split
  · rename_i a hproc
    have hok := hinv.at hproc
    split
    · exact inv_idle hinv
    split
    · exact inv_goto_plain hinv hok rfl
    split
    · exact inv_goto_plain hinv trivial rfl
    · exact inv_idle hinv
  · exact hinv

theorem inv_confirm (hinv : Inv w) : Inv (w.step s (.confirm p)) := by
  simp only [World.step]
  split
  · split
    · exact inv_idle hinv
    split
    · exact inv_idle hinv
    · exact inv_goto_plain hinv trivial rfl
  · exact hinv

theorem inv_enter (hinv : Inv w) : Inv (w.step s (.enter p)) := by
  simp only [World.step]
  split
  · split
    · exact inv_idle hinv
    · exact inv_goto_plain hinv (Object.read_self _) rfl
  · exact hinv

theorem inv_check (hinv : Inv w) : Inv (w.step s (.check p)) := by
  simp only [World.step]
  split
  · rename_i a cm hproc
    have hok := hinv.at hproc
    split
    · exact inv_idle hinv
    rename_i o hfind
    split
    · exact inv_idle hinv
    rename_i hvalid
    obtain ⟨-, lock, hlock, hactive, hof⟩ := revalidate_none hvalid
    have hat : w.lockAt a.key = some lock := by
      rw [World.lockAt, hfind]
      exact hlock
    refine inv_goto hinv ⟨hok, fun _ => .inl ⟨lock, hat, hof⟩⟩ ?_
    intro a' cm' heq
    cases heq
    exact ⟨lock, hat, hactive, hof⟩
  · exact hinv

omit [Upstream] in
theorem held_device (hinv : Inv w) {a : Attempt} (hlock : w.lockAt a.key = some lock)
    (hof : lock.Of a) :
    ∃ o, w.devices.find a.key = some o ∧ o.content.topologyLock = some lock ∧
      o.content.uid = a.target.deviceUID := by
  rw [World.lockAt, Option.bind_eq_some_iff] at hlock
  obtain ⟨o, hfind, hlock⟩ := hlock
  refine ⟨o, hfind, hlock, ?_⟩
  rw [← hinv.lockUID a.key o lock hfind hlock]
  exact hof.fields.2.1

omit [Upstream] in
/-- A reservation for a held lock joins the others. A release that has seen the
ledger quiet is of another device, or it has fenced this manager out. -/
theorem inv_put (hinv : Inv w) {id : String} {r : Reservation} (hproc : w.procs p = .admitted a cm)
    (hcurrent : cm.resourceVersion = w.ledger.resourceVersion) (hheld : Held w a)
    (hfree : ¬ Fenced w.ledger.content.ledger a) (huid : r.deviceUID = a.target.deviceUID)
    (hlockID : r.topologyLockID = a.acquisitionID) :
    Inv { w with ledger := (w.ledger.write
      { w.ledger.content with ledger := w.ledger.content.ledger.put id r }) } := by
  obtain ⟨lock, hlock, hof⟩ := hheld
  obtain ⟨o, hfind, hdevice, hduid⟩ := held_device hinv hlock hof
  refine inv_ledger hinv ?_ ?_
  · intro id' r' hr'
    rcases Map.find_set_iff.mp hr' with ⟨_, rfl⟩ | ⟨_, hold⟩
    · exact ⟨a.key, o, lock, hfind, hduid.trans huid.symm, hdevice, hof.fields.1.trans hlockID.symm⟩
    · exact hinv.guarded id' r' hold
  intro a' hret hout hquiet lock' hlock' hid' id' r' hr'
  rcases Map.find_set_iff.mp hr' with ⟨_, rfl⟩ | ⟨_, hold⟩
  · intro hsame
    have hof' := (hret.2 lock' hlock' hid').2
    obtain ⟨o', hfind', _, hduid'⟩ := held_device hinv hlock' hof'
    have hkey : a.key = a'.key := hinv.uids _ _ o o' hfind hfind' (by
      rw [hduid, hduid', ← hsame, huid])
    have hlocks : lock = lock' := by
      rw [hkey] at hlock
      exact Option.some.inj (hlock.symm.trans hlock')
    subst hlocks
    exact hfree (hout p a cm hproc hcurrent hkey (hof.fields.1.symm.trans hid'))
  · exact hquiet lock' hlock' hid' id' r' hold

theorem inv_reserve (hinv : Inv w) (policy : Policy) (members : List Member) :
    Inv (w.step s (.reserve p policy members)) := by
  simp only [World.step]
  split
  · rename_i a cm hproc
    have hok := hinv.at hproc
    split
    · rename_i hepoch
      split
      · exact inv_idle hinv
      · exact inv_goto_plain hinv trivial rfl
      rename_i cm' hcommit
      obtain ⟨hdone, hcases⟩ := commit_committed hok.1 hcommit
      rcases hcases with ⟨rfl, _⟩ | ⟨rfl, rfl⟩
      · exact inv_idle hinv
      rcases reserveFor_ok hepoch hdone with hsame | ⟨hfree, id, r, hput, huid, hid⟩
      · rw [hsame]
        have hinv' : Inv { w with ledger := w.ledger.write w.ledger.content } :=
          inv_ledger hinv hinv.guarded fun a' _ _ hquiet => hquiet
        exact inv_idle (p := p) hinv'
      · rw [hput]
        have hheld : Held w a := (hok.2 rfl).resolve_right hfree
        exact inv_idle (p := p) (inv_put hinv hproc rfl hheld hfree huid hid)
    · exact hinv
  · exact hinv

theorem inv_release (hinv : Inv w) (a : Attempt) : Inv (w.step s (.release p a)) := by
  simp only [World.step]
  split
  · split
    · next hknown => exact inv_goto_plain hinv hknown rfl
    · exact hinv
  · exact hinv

theorem inv_begin (hinv : Inv w) : Inv (w.step s (.begin p)) := by
  simp only [World.step]
  split
  · rename_i a hproc
    have hok := hinv.at hproc
    split
    · rename_i hnone
      refine inv_goto_plain hinv ⟨hok, fun lock hlock _ => ?_⟩ rfl
      rw [World.lockAt, hnone] at hlock
      cases hlock
    rename_i o hfind
    have hat : ∀ lock, w.lockAt a.key = some lock →
        o.content.topologyLock = some lock := by
      intro lock hlock
      rw [World.lockAt, hfind] at hlock
      exact hlock
    split
    · exact inv_idle hinv
    · rename_i hread
      refine inv_goto_plain hinv ⟨hok, fun lock hlock _ => ?_⟩ rfl
      exact (beginReleaseRead_spec (hat lock hlock)).1 hread
    rename_i hread
    refine inv_goto_plain hinv ⟨hok, ⟨o, hfind, Object.read_self o⟩, ?_⟩ rfl
    cases hlock : o.content.topologyLock with
    | none =>
      simp only [beginReleaseRead, hlock] at hread
      cases hread
    | some lock => exact ⟨lock, rfl, (beginReleaseRead_spec hlock).2 hread⟩
  · exact hinv

theorem inv_mark (hinv : Inv w) : Inv (w.step s (.mark p)) := by
  simp only [World.step]
  split
  · rename_i a seen hproc
    obtain ⟨hknown, ⟨o, hfind, hread⟩, lock, hlock, hof⟩ := hinv.at hproc
    simp only [hfind]
    split
    · exact inv_goto_plain hinv hknown rfl
    rename_i o' hpatch
    obtain ⟨rfl, rfl⟩ := Object.patch_some hread hpatch
    have hmarked : seen.content.markReleasing.topologyLock =
        some { lock with state := .releasing } := by
      rw [Device.markReleasing, hlock]
      rfl
    have hwrite : DeviceWrite w a.key seen seen.content.markReleasing
        (w.writeDevice a.key (seen.write seen.content.markReleasing)) := by
      refine ⟨hfind, rfl, rfl, rfl, rfl, Finset.Subset.refl _, ?_, ?_⟩
      · intro lock' hlock'
        rw [hmarked] at hlock'
        cases hlock'
        exact hinv.lockUID a.key seen lock hfind hlock
      · rw [hmarked, hlock]
        exact .mark lock
    have hinv' := hwrite.inv_keep hinv rfl (fun hnone => by
      rw [hmarked] at hnone
      cases hnone) fun lock' hlock' => by
        rw [hmarked] at hlock'
        cases hlock'
        exact (hinv.known a.key lock (hwrite.lockAt_old.trans hlock)).1
    refine inv_goto_plain hinv' ⟨hknown, fun lock' hlock' _ => ?_⟩ rfl
    rw [hwrite.lockAt_key, hmarked] at hlock'
    cases hlock'
    exact ⟨rfl, of_releasing.mpr hof⟩
  · exact hinv

omit [Upstream] in
/-- The release has read the ledger: the fence it found is the one every
manager still in time has in its copy. -/
theorem fencedOut_of_fence (hinv : Inv w) (hret : Retired w a)
    (hfence : Fenced w.ledger.content.ledger a) : FencedOut w a := by
  intro q a' cm hq hcurrent hkey hid
  have hok := hinv.at hq
  rcases hok.2 hcurrent with ⟨lock, hlock, hof⟩ | hf
  · have hof' := (hret.2 lock (hkey ▸ hlock) (hof.fields.1.trans hid)).2
    exact fenced_congr hof' hof hfence
  · exact hf

theorem read_ok (h : s.read cm = .ok l) : l = cm.content.ledger := by
  simp only [Store.read] at h
  split at h
  · cases h
  split at h
  · cases h
  split at h
  · cases h
  · cases h
    rfl

theorem inv_verify (hinv : Inv w) : Inv (w.step s (.verify p)) := by
  simp only [World.step]
  split
  · rename_i a hproc
    have hret : Retired w a := hinv.at hproc
    split
    · exact inv_idle hinv
    rename_i l hread
    split
    · exact inv_idle hinv
    rename_i hclean
    rw [read_ok hread] at hclean
    obtain ⟨hnone, hfence⟩ := releaseLedgerError_none hclean
    refine inv_goto_plain hinv ⟨hret, fencedOut_of_fence hinv hret hfence, ?_⟩ rfl
    exact fun _ _ _ => hnone
  · exact hinv

theorem inv_look (hinv : Inv w) : Inv (w.step s (.look p)) := by
  simp only [World.step]
  split
  · rename_i a hproc
    have hok := hinv.at hproc
    split
    · exact inv_idle hinv
    rename_i o hfind
    split
    · exact inv_idle hinv
    · exact inv_idle hinv
    rename_i hread
    exact inv_goto_plain hinv ⟨hok, ⟨o, hfind, Object.read_self o⟩,
      clearReleaseRead_patch hread⟩ rfl
  · exact hinv

theorem inv_clear (hinv : Inv w) : Inv (w.step s (.clear p)) := by
  simp only [World.step]
  split
  · rename_i a seen hproc
    obtain ⟨⟨hret, hout, hquiet⟩, ⟨o, hfind, hread⟩, lock, hlock, hof⟩ := hinv.at hproc
    simp only [hfind]
    split
    · exact inv_goto_plain hinv hret rfl
    rename_i o' hpatch
    obtain ⟨rfl, rfl⟩ := Object.patch_some hread hpatch
    have hwrite : DeviceWrite w a.key seen { seen.content with topologyLock := none }
        { w.writeDevice a.key (seen.write
            { seen.content with topologyLock := none }) with
          cleared := insert a.acquisitionID w.cleared } :=
      ⟨hfind, rfl, rfl, rfl, rfl, Finset.Subset.refl _, nofun, .clear _⟩
    have hat : w.lockAt a.key = some lock := hwrite.lockAt_old.trans hlock
    obtain ⟨o, hfind', _, huid⟩ := held_device hinv hat hof
    rw [hfind] at hfind'
    cases hfind'
    have hinv' := hwrite.inv_clear hinv hlock rfl (by rw [hof.fields.1])
      (fun id r hr => by
        rw [huid]
        exact hquiet lock hat hof.fields.1 id r hr)
      (fun q a' cm hq hcurrent hkey hheld => by
        obtain ⟨lock', hlock', hof'⟩ := hheld
        rw [hkey, hat] at hlock'
        cases hlock'
        exact hout q a' cm hq hcurrent hkey (hof'.fields.1.symm.trans hof.fields.1))
    exact inv_idle (p := p) hinv'
  · exact hinv

theorem inv_mutate (hinv : Inv w) (op : Op) : Inv (w.step s (.mutate p op)) := by
  simp only [World.step]
  split
  · exact hinv
  rename_i hop
  have hop' : op.isReserve = false := by simpa using hop
  split
  · exact inv_goto_plain hinv ⟨Object.read_self _, hop', nofun⟩ rfl
  · rename_i a _ hproc _
    have hok := hinv.at hproc
    refine inv_goto_plain hinv ⟨Object.read_self _, hop', fun a' ha' => ?_⟩ rfl
    cases ha'
    exact hok
  · exact hinv

omit [Upstream] in
theorem inv_resume (hinv : Inv w) (hback : ∀ a, back = some a → Retired w a) :
    Inv (w.goto p (.resume back)) := by
  cases back with
  | none => exact inv_idle hinv
  | some a => exact inv_goto_plain hinv (hback a rfl) rfl

theorem inv_commit (hinv : Inv w) : Inv (w.step s (.commit p)) := by
  simp only [World.step]
  split
  · rename_i op cm back hproc
    obtain ⟨hread, hop, hback⟩ := hinv.at hproc
    split
    · exact inv_idle hinv
    · exact inv_resume hinv hback
    rename_i cm' hcommit
    obtain ⟨hdone, hcases⟩ := commit_committed hread hcommit
    rcases hcases with ⟨rfl, _⟩ | ⟨rfl, rfl⟩
    · exact inv_resume hinv hback
    have hinv' : Inv { w with ledger := (w.ledger.write { w.ledger.content with
        ledger := (op.apply w.ledger.content.ledger).ledger }) } := by
      refine inv_ledger hinv ?_ ?_
      · intro id r' hr'
        obtain ⟨r, hr, huid, hid⟩ := apply_keeps hop hdone hr'
        rw [huid, hid]
        exact hinv.guarded id r hr
      · intro a _ _ hquiet lock hlock hid id r' hr'
        obtain ⟨r, hr, huid, _⟩ := apply_keeps hop hdone hr'
        rw [huid]
        exact hquiet lock hlock hid id r hr
    exact inv_resume (p := p) hinv' hback
  · exact hinv

theorem step_inv (hinv : Inv w) (act : Action) : Inv (w.step s act) := by
  cases act with
  | crash p => exact inv_idle hinv
  | edit key d => exact inv_edit hinv key d
  | acquire p a now => exact inv_acquire hinv a now
  | publish p => exact inv_publish hinv
  | recover p policyUID policyVersion => exact inv_recover hinv policyUID policyVersion
  | confirm p => exact inv_confirm hinv
  | enter p => exact inv_enter hinv
  | check p => exact inv_check hinv
  | reserve p policy members => exact inv_reserve hinv policy members
  | release p a => exact inv_release hinv a
  | begin p => exact inv_begin hinv
  | mark p => exact inv_mark hinv
  | verify p => exact inv_verify hinv
  | look p => exact inv_look hinv
  | clear p => exact inv_clear hinv
  | mutate p op => exact inv_mutate hinv op
  | commit p => exact inv_commit hinv

theorem run_inv (hinv : Inv w) (actions : List Action) : Inv (w.run s actions) :=
  Machine.run_invariant (Q := fun _ => True) hinv
    (fun _ act _ h => step_inv h act) fun _ _ => trivial

theorem step_cleared (act : Action) : w.cleared ⊆ (w.step s act).cleared := by
  cases act <;> simp only [World.step] <;> repeat' split
  all_goals first
    | exact Finset.Subset.refl _
    | exact Finset.subset_insert _ _

theorem run_cleared (actions : List Action) : w.cleared ⊆ (w.run s actions).cleared :=
  Machine.run_invariant (P := fun w' : World => w.cleared ⊆ w'.cleared) (Q := fun _ => True)
    (Finset.Subset.refl _) (fun _ act _ h => h.trans (step_cleared act)) fun _ _ => trivial

/-- Nothing has happened yet. Devices have UIDs of their own. -/
structure World.Fresh (w : World) : Prop where
  uids : ∀ k k' o o', w.devices.find k = some o → w.devices.find k' = some o' →
    o.content.uid = o'.content.uid → k = k'
  unreserved : ∀ id, w.ledger.content.ledger.find id = none
  unlocked : ∀ key, w.lockAt key = none
  idle : ∀ p, w.procs p = .idle
  unpublished : w.published = ∅
  uncleared : w.cleared = ∅

omit [Upstream] in
theorem inv_of_fresh (h : w.Fresh) : Inv w where
  uids := h.uids
  guarded := by
    intro id r hr
    rw [h.unreserved id] at hr
    cases hr
  lockUID := by
    intro key o lock hfind hlock
    have hnone := h.unlocked key
    rw [World.lockAt, hfind] at hnone
    rw [Option.bind_some, hlock] at hnone
    cases hnone
  known := by
    intro key lock hlock
    rw [h.unlocked key] at hlock
    cases hlock
  unique := by
    intro k k' lock lock' hlock
    rw [h.unlocked k] at hlock
    cases hlock
  cleared := by
    rw [h.uncleared]
    exact Finset.empty_subset _
  procs := by
    intro p
    rw [h.idle p]
    trivial

/-- However the managers interleave and crash, a reservation's device carries
its lock, and after a lock was cleared there is never again a reservation under
its ID. -/
theorem lock_guards_reservation (s : Store) (w₀ : World) (h₀ : w₀.Fresh)
    (actions : List Action) :
    (∀ id r, (w₀.run s actions).ledger.content.ledger.find id = some r →
      ∃ key o lock, (w₀.run s actions).devices.find key = some o ∧
        o.content.uid = r.deviceUID ∧ o.content.topologyLock = some lock ∧
        lock.acquisitionID = r.topologyLockID) ∧
    ∀ later lockID, lockID ∈ (w₀.run s actions).cleared →
      ∀ id r, ((w₀.run s actions).run s later).ledger.content.ledger.find id = some r →
        r.topologyLockID ≠ lockID := by
  have hinv : Inv (w₀.run s actions) := run_inv (inv_of_fresh h₀) actions
  refine ⟨hinv.guarded, ?_⟩
  intro later lockID hcleared id r hr hid
  have hlater := run_inv hinv (s := s) later
  obtain ⟨key, o, lock, hfind, _, hlock, hlockID⟩ := hlater.guarded id r hr
  refine (hlater.known key lock ?_).2 ?_
  · rw [World.lockAt, hfind]
    exact hlock
  · rw [hlockID, hid]
    exact run_cleared later hcleared

def World.Valid (w : World) : Prop := validatePersistedLedger w.ledger.content.ledger = none

theorem commit_valid (h : s.commit cm before out = .committed cm')
    (hvalid : validatePersistedLedger cm.content.ledger = none) :
    validatePersistedLedger cm'.content.ledger = none := by
  simp only [Store.commit, Object.patch] at h
  repeat' split at h
  all_goals cases h
  · exact hvalid
  · rename_i hchecks _ _ hpatch
    split at hpatch
    · cases hpatch
      exact (Option.or_eq_none_iff.mp hchecks).1
    · cases hpatch

theorem step_stored (act : Action) (h : w.Valid) : (w.step s act).Valid := by
  cases act <;> simp only [World.step] <;> repeat' split
  all_goals first
    | exact h
    | exact commit_valid ‹_› h

/-- However the managers interleave, the store holds a valid ledger, and a lock
guards one reservation at most. -/
theorem stored_ledger_valid (s : Store) (w₀ : World) (h₀ : w₀.Fresh) (hvalid : w₀.Valid)
    (actions : List Action) : (w₀.run s actions).Valid ∧
    ∀ id id' r r', (w₀.run s actions).ledger.content.ledger.find id = some r →
      (w₀.run s actions).ledger.content.ledger.find id' = some r' →
      r.topologyLockID = r'.topologyLockID → id = id' := by
  have hinv : Inv (w₀.run s actions) := run_inv (inv_of_fresh h₀) actions
  have hstored : (w₀.run s actions).Valid := Machine.run_invariant (P := World.Valid)
    (Q := fun _ => True) hvalid (fun _ act _ => step_stored act) fun _ _ => trivial
  refine ⟨hstored, fun id id' r r' hr hr' hsame => ?_⟩
  obtain ⟨k, o, lock, hk, huid, hl, hid⟩ := hinv.guarded id r hr
  obtain ⟨k', o', lock', hk', huid', hl', hid'⟩ := hinv.guarded id' r' hr'
  obtain rfl : k = k' := hinv.unique k k' lock lock' (by rw [World.lockAt, hk]; exact hl)
    (by rw [World.lockAt, hk']; exact hl') (by rw [hid, hid', hsame])
  cases hk.symm.trans hk'
  exact Map.distinct_iff.mp (validatePersistedLedger_none.mp hstored).deviceUIDs id r id' r' hr hr'
    trivial (huid.symm.trans huid')

end

namespace Sample

def campaign : Campaign where
  campaignNamespace := "upgrades"
  campaignName := "campaign"
  campaignUID := "campaign"
  planHash := planHash
  controlRevision := 0
  maxConcurrentTransfers := 1
  maxUnavailable := 1
  domains := []

def target : PlannedTarget where
  deviceName := "switch-a"
  deviceUID := "device-a"
  deviceGeneration := 1
  physicalIdentity := "chassis-a"
  nodeName := "node"
  nodeUID := "node-a"
  projectionHash := planHash
  topology := [("rack", "r1")]
  riskGroups := []
  canaryCohort := ""
  wave := 0
  childName := "leaf-a"

def device : Device :=
  ⟨"device-a", 1, "XE", false, some ⟨"device-a", "node", "node-a"⟩, some planHash, none⟩

def attempt : Attempt := ⟨campaign, target, 1, lockID⟩

def store : Store := ⟨"ledger"⟩

def world : World where
  ledger := ⟨⟨"ledger", ledger⟩, 1⟩
  devices := Map.set ∅ "upgrades/switch-a" ⟨device, 1⟩
  procs := fun _ => .idle
  published := ∅
  cleared := ∅

/-- One manager admits the target. -/
def admission : List Action :=
  [.acquire 0 attempt 1, .publish 0, .confirm 0, .enter 0, .check 0,
    .reserve 0 policy [member "a" "r1"]]

/-- Another one takes everything back. -/
def withdrawal : List Action :=
  [.release 1 attempt, .begin 1, .mark 1,
    .mutate 1 (.releaseUnclaimed attempt.reservationID lockID "" 0 1), .commit 1,
    .verify 1, .look 1, .clear 1]

def finished : World := @World.run upstream store world (admission ++ withdrawal)

theorem finished_cleared : finished.cleared = {lockID} := by decide +kernel

theorem world_fresh : world.Fresh where
  uids := by
    intro k k' o o' hk hk' _
    rcases Map.find_set_iff.mp hk with ⟨rfl, _⟩ | ⟨_, hnone⟩
    · rcases Map.find_set_iff.mp hk' with ⟨rfl, _⟩ | ⟨_, hnone⟩
      · rfl
      · cases hnone
    · cases hnone
  unreserved := fun _ => rfl
  unlocked := by
    intro key
    cases hfind : world.devices.find key with
    | none => rw [World.lockAt, hfind]; rfl
    | some o =>
      rw [World.lockAt, hfind]
      rcases Map.find_set_iff.mp hfind with ⟨_, rfl⟩ | ⟨_, hnone⟩
      · rfl
      · cases hnone
  idle := fun _ => rfl
  unpublished := rfl
  uncleared := rfl

end Sample

/-- The run publishes the lock, reserves under it, cleans up and clears it. -/
theorem lock_guards_sample :
    Sample.finished.cleared = {Sample.lockID} ∧
    ∀ later id r, (@World.run Sample.upstream Sample.store Sample.finished
      later).ledger.content.ledger.find id = some r → r.topologyLockID ≠ Sample.lockID := by
  have hrun := (@lock_guards_reservation Sample.upstream Sample.store Sample.world
    Sample.world_fresh (Sample.admission ++ Sample.withdrawal)).2
  rw [← Sample.finished] at hrun
  refine ⟨Sample.finished_cleared, fun later => hrun later Sample.lockID ?_⟩
  rw [Sample.finished_cleared]
  exact Finset.mem_singleton_self _

theorem stored_ledger_sample : @World.Valid Sample.upstream
    (@World.run Sample.upstream Sample.store Sample.world Sample.admission) :=
  (@stored_ledger_valid Sample.upstream Sample.store _ Sample.world_fresh
    (by unfold World.Valid; decide +kernel) _).1

end VirtualKubelet.Rollout
