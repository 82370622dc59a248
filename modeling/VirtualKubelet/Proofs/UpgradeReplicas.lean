import VirtualKubelet.Proofs.UpgradePhases

/-!
# Replicas side by side

The invariant of any number of replicas on one object. Every write of the
object follows its last version: markers are only ever set, and once the object
is terminal, deleted or cancelled, no marker is set any more. A claim goes
through only on the last version, so a stage is claimed by one replica, which
sends its RPC next or not at all.
-/

namespace VirtualKubelet.SoftwareUpgrade

open Go Rollout Program
open List hiding get next set

/-! ## Versions of the object -/

/-- The markers of a managed leaf and its claims agree. -/
def Covered (up : Upgrade) : Prop :=
  up.managed = true → ∀ stage,
    claimsOf up.status stage = if up.status.requested stage = true then 1 else 0

/-- One version of the object comes after the other. -/
structure Later (old new : Upgrade) : Prop where
  marks : ∀ stage, old.status.requested stage = true → new.status.requested stage = true
  closed : Closed old → Closed new
  frozen : Closed old → ∀ stage,
    new.status.requested stage = true → old.status.requested stage = true

theorem Later.refl : Later up up :=
  ⟨fun _ h => h, fun h => h, fun _ _ h => h⟩

theorem Later.trans (h : Later first second) (h' : Later second third) : Later first third where
  marks stage hstage := h'.marks stage (h.marks stage hstage)
  closed hclosed := h'.closed (h.closed hclosed)
  frozen hclosed stage hstage :=
    h.frozen hclosed stage (h'.frozen (h.closed hclosed) stage hstage)

/-- A write that makes a later version out of a sound one. -/
structure Follows (old new : Upgrade) : Prop where
  later : Later old new
  honest : Honest old.status → Honest new.status
  covered : Covered old → Covered new

variable {up cur : Upgrade} {status : Status} {stage : Stage}

theorem follows_of_same {new : Upgrade} (hmanaged : new.managed = up.managed)
    (hrequested : new.status.requested = up.status.requested)
    (hclaims : new.status.managedMutationClaims = up.status.managedMutationClaims)
    (hhonest : Honest up.status → Honest new.status) (hclosed : Closed up → Closed new) :
    Follows up new := by
  refine ⟨⟨?_, hclosed, ?_⟩, hhonest, ?_⟩
  · rw [hrequested]
    exact fun _ h => h
  · rw [hrequested]
    exact fun _ _ h => h
  · intro hcovered hnew stage
    rw [claimsOf, hclaims, hrequested]
    exact hcovered (hmanaged.symm.trans hnew) stage

theorem follows_progress (h : Progress cur.status status) :
    Follows cur { cur with status := status } := by
  refine follows_of_same rfl h.requested h.claims h.honest ?_
  rintro (hterminal | hdeleting | ⟨hmanaged, control, hcontrol, hcancel⟩)
  · exact .inl (h.terminal hterminal)
  · exact .inr (.inl hdeleting)
  · exact .inr (.inr ⟨hmanaged, control, h.control.trans hcontrol, hcancel⟩)

/-- Nothing that is closed is claimed. -/
theorem Claims.open (h : Claims stage cur status) : ¬Closed cur := by
  rintro (hterminal | hdeleting | ⟨hmanaged, control, hcontrol, hcancel⟩)
  · exact absurd (h.running.symm.trans hterminal) Bool.false_ne_true
  · exact absurd (h.present.symm.trans hdeleting) Bool.false_ne_true
  obtain ⟨_, control', _, _, hcontrol', _, hrunning⟩ := h.granted hmanaged
  rw [hcontrol'] at hcontrol
  injection hcontrol with hcontrol
  rw [hcontrol] at hrunning
  exact absurd (hrunning.symm.trans hcancel) Bool.false_ne_true

theorem follows_claims (h : Claims stage cur status) :
    Follows cur { cur with status := status } := by
  refine ⟨⟨fun other hother => ?_, fun hclosed => absurd hclosed h.open,
    fun hclosed => absurd hclosed h.open⟩, h.honest, fun hcovered hmanaged other => ?_⟩
  · show status.requested other = true
    rw [h.requested, Function.update_apply]
    split
    · rfl
    · exact hother
  · show claimsOf status other = if status.requested other = true then 1 else 0
    rw [h.claims other, h.requested, Function.update_apply]
    by_cases hother : other = stage
    · rw [if_pos ⟨hmanaged, hother⟩, if_pos hother]
      rfl
    · rw [if_neg fun hboth => hother hboth.2, if_neg hother]
      exact hcovered hmanaged other

/-- The manager's writes keep a cancellation. -/
theorem follows_manager {admission : Option ManagerAdmission} {control : Option ManagerControl}
    {invalidation : Option String} (h : ControlFollows up.status.managerControl control) :
    Follows up { up with status := { up.status with
      managerAdmission := admission
      managerControl := control
      managerInvalidation := invalidation } } := by
  refine follows_of_same rfl rfl rfl (honest_mono rfl fun _ h => h) ?_
  rintro (hterminal | hdeleting | ⟨hmanaged, old, hold, hcancel⟩)
  · exact .inl hterminal
  · exact .inr (.inl hdeleting)
  · rw [hold] at h
    cases control with
    | none => exact h.elim
    | some new => exact .inr (.inr ⟨hmanaged, new, rfl, h.2.2 hcancel⟩)

/-! ## The object and the device -/

/-- What is true of the world whatever the replicas are doing. -/
structure Sound (w : World) : Prop where
  ordered : ∀ up ∈ w.older, up.resourceVersion < w.object.resourceVersion
  honest : ∀ up ∈ w.persisted, Honest up.status
  covered : ∀ up ∈ w.persisted, Covered up
  later : ∀ up ∈ w.persisted, Later up w.object
  sent : ∀ stage ∈ w.dispatched, w.object.status.requested stage = true
  once : w.dispatched.Nodup

theorem honest_empty : Honest {} := by
  intro stage hmarked
  cases stage <;> simp [Status.marked, Status.hasReason] at hmarked

theorem sound_created : Sound (World.created up) := by
  have hpersisted : ∀ old ∈ (World.created up).persisted, old = (World.created up).object :=
    fun old hold => mem_singleton.mp hold
  refine ⟨fun old hold => ?_, fun old hold => ?_, fun old hold => ?_, fun old hold => ?_,
    fun stage hstage => ?_, .nil⟩
  · cases hold
  · rw [hpersisted old hold]
    exact honest_empty
  · rw [hpersisted old hold]
    intro _ stage
    cases stage <;> rfl
  · rw [hpersisted old hold]
    exact .refl
  · cases hstage

variable {w w' : World}

theorem Sound.write (hw : Sound w) (h : Follows w.object up) : Sound (w.write up) := by
  have hobject : w.object ∈ w.persisted := mem_cons_self
  have hlater : Later w.object (w.write up).object := ⟨h.later.marks, h.later.closed, h.later.frozen⟩
  refine ⟨fun old hold => ?_, fun new hnew => ?_, fun new hnew => ?_, fun old hold => ?_,
    fun stage hstage => hlater.marks stage (hw.sent stage hstage), hw.once⟩
  · show old.resourceVersion < w.object.resourceVersion + 1
    rcases mem_cons.mp hold with rfl | hold
    · exact Nat.lt_succ_self _
    · exact Nat.lt_succ_of_lt (hw.ordered old hold)
  · rcases mem_cons.mp hnew with rfl | hnew
    · exact h.honest (hw.honest w.object hobject)
    · exact hw.honest new hnew
  · rcases mem_cons.mp hnew with rfl | hnew
    · exact h.covered (hw.covered w.object hobject)
    · exact hw.covered new hnew
  · rcases mem_cons.mp hold with rfl | hold
    · exact .refl
    · exact (hw.later old hold).trans hlater

theorem Sound.current (hw : Sound w) (hcur : cur ∈ w.persisted) (haccepts : w.Accepts cur) :
    cur = w.object := by
  rcases mem_cons.mp hcur with h | h
  · exact h
  · have hlt := hw.ordered cur h
    have heq := haccepts.2
    omega

/-- The object moves on, and nothing is sent to the device. -/
structure Moves (w w' : World) : Prop where
  sound : Sound w → Sound w'
  persisted : ∀ up ∈ w.persisted, up ∈ w'.persisted
  later : Later w.object w'.object
  dispatched : w'.dispatched = w.dispatched
  gone : w.gone = true → w'.gone = true ∧ w'.object = w.object

theorem moves_write (hgone : w.gone = false) (h : Follows w.object up) : Moves w (w.write up) where
  sound hw := hw.write h
  persisted _ hold := mem_cons_of_mem _ hold
  later := ⟨h.later.marks, h.later.closed, h.later.frozen⟩
  dispatched := rfl
  gone hgone' := absurd (hgone.symm.trans hgone') Bool.false_ne_true

theorem moves_lease {held : Bool} : Moves w { w with leaseHeld := held } where
  sound hw := ⟨hw.ordered, hw.honest, hw.covered, hw.later, hw.sent, hw.once⟩
  persisted _ hold := hold
  later := .refl
  dispatched := rfl
  gone hgone := ⟨hgone, rfl⟩

theorem Moves.refl : Moves w w := ⟨id, fun _ h => h, .refl, rfl, fun h => ⟨h, rfl⟩⟩

theorem moves_gone : Moves w { w with gone := true } where
  sound hw := ⟨hw.ordered, hw.honest, hw.covered, hw.later, hw.sent, hw.once⟩
  persisted _ hold := hold
  later := .refl
  dispatched := rfl
  gone _ := ⟨rfl, rfl⟩

theorem follows_same {new : Upgrade} (hmanaged : new.managed = up.managed)
    (hstatus : new.status = up.status) (hdeleting : up.deleting = true → new.deleting = true) :
    Follows up new := by
  refine follows_of_same hmanaged (by rw [hstatus]) (by rw [hstatus]) (by rw [hstatus]; exact id) ?_
  rw [Closed, Closed, hstatus, hmanaged]
  exact Or.imp_right (Or.imp_left hdeleting)

theorem moves_writeFinalizer (hgone : w.gone = false) : Moves w (w.writeFinalizer finalizer) := by
  have hwrite : Moves w (w.write { w.object with finalizer := finalizer }) :=
    moves_write hgone (follows_same rfl rfl id)
  exact ⟨fun hw => ⟨(hwrite.sound hw).ordered, (hwrite.sound hw).honest, (hwrite.sound hw).covered,
      (hwrite.sound hw).later, (hwrite.sound hw).sent, (hwrite.sound hw).once⟩,
    hwrite.persisted, hwrite.later, rfl,
    fun hgone' => absurd (hgone.symm.trans hgone') Bool.false_ne_true⟩

theorem moves_drift (h : Drift w w') : Moves w w' := by
  cases h with
  | manager admission invalidation hgone hcontrol =>
    exact moves_write hgone (follows_manager hcontrol)
  | edited generation targetVersion strategy imageSource hgone =>
    exact moves_write hgone (follows_same rfl rfl id)
  | touched hgone => exact moves_write hgone (follows_same rfl rfl id)
  | deleted hgone =>
    rw [World.delete]
    split
    · exact moves_write hgone (follows_same rfl rfl fun _ => rfl)
    · exact moves_gone
  | finalizerCleared hgone => exact moves_writeFinalizer hgone
  | leaseLost => exact moves_lease

/-! ## What a replica knows -/

/-- The versions a replica has seen are ones that were persisted. -/
structure Known (w : World) (past : List WorkerEvent) : Prop where
  read : ∀ up, Read past up → up ∈ w.persisted
  wrote : ∀ cur status, (⟨.updateStatus cur status, .ok⟩ : WorkerEvent) ∈ past →
    cur.next status ∈ w.persisted

variable {past : List WorkerEvent}

theorem known_nil : Known w [] :=
  ⟨fun _ h => (not_mem_nil h).elim, fun _ _ h => (not_mem_nil h).elim⟩

theorem Known.shown (h : Known w past) (hshown : Shown past up) : up ∈ w.persisted := by
  rcases hshown with hread | ⟨cur, status, hwrote, rfl⟩
  · exact h.read up hread
  · exact h.wrote cur status hwrote

theorem Known.mono (h : Known w past) (hpersisted : ∀ up ∈ w.persisted, up ∈ w'.persisted) :
    Known w' past :=
  ⟨fun up hup => hpersisted up (h.read up hup),
    fun cur status hwrote => hpersisted _ (h.wrote cur status hwrote)⟩

theorem moves_serve (hw : Sound w) (hknown : Known w past) (hrule : Rule past c)
    (hc : ∀ stage, c ≠ .dispatch stage) (h : Serves w c r w') : Moves w w' := by
  cases h with
  | @statusPersisted cur status _ haccepts =>
    obtain ⟨hread, hwrite⟩ := hrule
    have hcur := hw.current (hknown.read cur hread) haccepts
    refine moves_write haccepts.1 ?_
    rw [← hcur]
    rcases hwrite with hprogress | ⟨stage, hclaims⟩
    · exact follows_progress hprogress
    · exact follows_claims hclaims
  | finalizerPersisted _ haccepts => exact moves_writeFinalizer haccepts.1
  | acquired | quarantined | released => exact moves_lease
  | @dispatched stage => exact absurd rfl (hc stage)
  | _ => exact .refl

theorem known_serve (hw : Sound w) (hknown : Known w past) (hrule : Rule past c)
    (hpersisted : ∀ up ∈ w.persisted, up ∈ w'.persisted) (h : Serves w c r w') :
    Known w' (past ++ [⟨c, r⟩]) := by
  refine ⟨fun up hup => ?_, fun cur status hwrote => ?_⟩
  · rcases mem_append.mp hup with hold | hnew
    · exact hpersisted up (hknown.read up hold)
    · cases mem_singleton.mp hnew
      cases h with
      | found hup => exact hup
  · rcases mem_append.mp hwrote with hold | hnew
    · exact hpersisted _ (hknown.wrote cur status hold)
    cases mem_singleton.mp hnew
    cases h with
    | statusPersisted _ haccepts =>
      rw [hw.current (hknown.read cur hrule.1) haccepts]
      exact mem_cons_self
    | statusRefused hreply => exact absurd rfl hreply

/-! ## Who is about to send an RPC -/

/-- A claim that went through is the last thing but for questions. -/
theorem pending_snoc (h : Pending (past ++ [e]) stage) :
    Pending past stage ∨ ∃ cur status, e = ⟨.updateStatus cur status, .ok⟩ ∧ Read past cur ∧
      Claims stage cur status := by
  obtain ⟨cur, status, hwrote, hmem, hclaims⟩ := h
  rw [sight_snoc] at hwrote
  have hbefore : Read past cur ∨ e = ⟨.get, .found cur⟩ := by
    rcases mem_append.mp hmem with hold | hnew
    · exact .inl hold
    · exact .inr (mem_singleton.mp hnew).symm
  clear hmem
  rcases hbefore with hread | rfl
  · obtain ⟨c, r⟩ := e
    cases c with
    | ask question => exact .inl ⟨cur, status, hwrote, hread, hclaims⟩
    | updateStatus cur' status' =>
      cases r with
      | ok =>
        injection hwrote with hwrote
        injection hwrote with hcur hstatus
        subst hcur hstatus
        exact .inr ⟨cur', status', rfl, hread, hclaims⟩
      | conflict | failed => cases hwrote
    | get => cases r <;> cases hwrote
    | now | update | acquire | quarantine | release | dispatch => cases hwrote
  · cases hwrote

theorem pending_sublist (h : Pending past stage) :
    ∃ cur status, [⟨.get, .found cur⟩, ⟨.updateStatus cur status, .ok⟩].Sublist past ∧
      Claims stage cur status := by
  induction past using List.reverseRecOn with
  | nil =>
    obtain ⟨cur, status, hwrote, -, -⟩ := h
    cases hwrote
  | append_singleton past e ih =>
    rcases pending_snoc h with hold | ⟨cur, status, rfl, hread, hclaims⟩
    · obtain ⟨cur, status, hsublist, hclaims⟩ := ih hold
      exact ⟨cur, status, hsublist.trans (sublist_append_left ..), hclaims⟩
    · exact ⟨cur, status, (singleton_sublist.mpr hread).append (.refl _), hclaims⟩

/-! ## The pool -/

abbrev Replicas := Pool World Call Reply Unit

/-- An RPC of the replica was preceded by its claim of the stage: a read, and
the write that set the marker on what was read. -/
def Preceded (w : World) (before : List (Nat × WorkerEvent)) (i : Nat) (stage : Stage) : Prop :=
  ∃ cur status, [(i, ⟨.get, .found cur⟩), (i, ⟨.updateStatus cur status, .ok⟩)].Sublist before ∧
    cur.next status ∈ w.persisted ∧ Claims stage cur status

structure Consistent (log : List (Nat × WorkerEvent)) (s : Replicas) : Prop where
  sound : Sound s.shared
  known : ∀ i client, s.clients i = some client → Known s.shared client.past
  logged : ∀ i client, s.clients i = some client → (client.past.map (Prod.mk i)).Sublist log
  due : ∀ i client stage, s.clients i = some client → Pending client.past stage →
    s.shared.object.status.requested stage = true ∧ stage ∉ s.shared.dispatched
  alone : ∀ i j client client' stage, s.clients i = some client → s.clients j = some client' →
    Pending client.past stage → Pending client'.past stage → i = j
  preceded : ∀ before i stage response,
    before ++ [(i, ⟨.dispatch stage, response⟩)] <+: log → Preceded s.shared before i stage

variable {log : List (Nat × WorkerEvent)} {s : Replicas} {i : Nat}

theorem Preceded.mono (h : Preceded w before i stage)
    (hpersisted : ∀ up ∈ w.persisted, up ∈ w'.persisted) : Preceded w' before i stage := by
  obtain ⟨cur, status, hsublist, hcur, hclaims⟩ := h
  exact ⟨cur, status, hsublist, hpersisted _ hcur, hclaims⟩

theorem not_pending_nil : ¬Pending [] stage := by
  rintro ⟨_, _, hwrote, -, -⟩
  cases hwrote

theorem consistent_idle : Consistent [] (Pool.idle (World.created up)) where
  sound := sound_created
  known _ _ h := nomatch h
  logged _ _ h := nomatch h
  due _ _ _ h := nomatch h
  alone _ _ _ _ _ h := nomatch h
  preceded before i stage response h := by
    have hempty := prefix_nil.mp h
    rw [append_eq_nil_iff] at hempty
    cases hempty.2

theorem Consistent.set (h : Consistent log s) (p : Option (Worker Unit)) :
    Consistent log (s.set i (p.map fun p => ⟨[], p⟩)) := by
  refine ⟨h.sound, fun j client hj => ?_, fun j client hj => ?_, fun j client stage hj hp => ?_,
    fun j k client client' stage hj hk hp hp' => ?_, h.preceded⟩
  · rcases Pool.clients_fresh hj with hnil | hold
    · rw [hnil]
      exact known_nil
    · exact h.known j client hold
  · rcases Pool.clients_fresh hj with hnil | hold
    · rw [hnil]
      exact nil_sublist _
    · exact h.logged j client hold
  · rcases Pool.clients_fresh hj with hnil | hold
    · rw [hnil] at hp
      exact absurd hp not_pending_nil
    · exact h.due j client stage hold hp
  rcases Pool.clients_fresh hj with hnil | hold
  · rw [hnil] at hp
    exact absurd hp not_pending_nil
  · rcases Pool.clients_fresh hk with hnil | hold'
    · rw [hnil] at hp'
      exact absurd hp' not_pending_nil
    · exact h.alone j k client client' stage hold hold' hp hp'

/-- What nobody asked for sends nothing. -/
theorem Consistent.moves (h : Consistent log s) (hmoves : Moves s.shared w') :
    Consistent log { s with shared := w' } where
  sound := hmoves.sound h.sound
  known j client hj := (h.known j client hj).mono hmoves.persisted
  logged := h.logged
  due j client stage hj hp := by
    obtain ⟨hrequested, hsent⟩ := h.due j client stage hj hp
    refine ⟨hmoves.later.marks stage hrequested, ?_⟩
    rw [hmoves.dispatched]
    exact hsent
  alone := h.alone
  preceded before j stage response hlog := (h.preceded before j stage response hlog).mono
    hmoves.persisted

/-- A replica makes its next call. What is left to show is what the call does
to the world, and who is due an RPC afterwards. -/
theorem Consistent.act {past : List WorkerEvent} {c : Call} {r : Reply c}
    {next : Reply c → Worker Unit} (h : Consistent log s)
    (hi : s.clients i = some ⟨past, .call c next⟩) (hsound : Sound w')
    (hpersisted : ∀ up ∈ s.shared.persisted, up ∈ w'.persisted)
    (hknown : Known w' (past ++ [⟨c, r⟩]))
    (hold : ∀ j client stage, j ≠ i → s.clients j = some client → Pending client.past stage →
      w'.object.status.requested stage = true ∧ stage ∉ w'.dispatched)
    (hnew : ∀ stage, Pending (past ++ [⟨c, r⟩]) stage →
      w'.object.status.requested stage = true ∧ stage ∉ w'.dispatched ∧
        ∀ j client, j ≠ i → s.clients j = some client → ¬Pending client.past stage)
    (hdispatch : ∀ stage response, (⟨c, r⟩ : WorkerEvent) = ⟨.dispatch stage, response⟩ →
      Preceded w' log i stage) :
    Consistent (log ++ [(i, ⟨c, r⟩)])
      { s.set i (some ⟨past ++ [⟨c, r⟩], next r⟩) with shared := w' } where
  sound := hsound
  known j client hj := by
    rcases Pool.clients_set hj with ⟨-, hclient⟩ | ⟨-, hclient⟩
    · cases hclient
      exact hknown
    · exact (h.known j client hclient).mono hpersisted
  logged j client hj := by
    rcases Pool.clients_set hj with ⟨rfl, hclient⟩ | ⟨-, hclient⟩
    · cases hclient
      rw [map_append]
      exact (h.logged j _ hi).append (.refl _)
    · exact (h.logged j client hclient).trans (sublist_append_left ..)
  due j client stage hj hp := by
    rcases Pool.clients_set hj with ⟨-, hclient⟩ | ⟨hne, hclient⟩
    · cases hclient
      exact ⟨(hnew stage hp).1, (hnew stage hp).2.1⟩
    · exact hold j client stage hne hclient hp
  alone j k client client' stage hj hk hp hp' := by
    rcases Pool.clients_set hj with ⟨rfl, hclient⟩ | ⟨hj, hclient⟩
    · rcases Pool.clients_set hk with ⟨rfl, -⟩ | ⟨hk, hclient'⟩
      · rfl
      · cases hclient
        exact absurd hp' ((hnew stage hp).2.2 k client' hk hclient')
    · rcases Pool.clients_set hk with ⟨rfl, hclient'⟩ | ⟨-, hclient'⟩
      · cases hclient'
        exact absurd hp ((hnew stage hp').2.2 j client hj hclient)
      · exact h.alone j k client client' stage hclient hclient' hp hp'
  preceded before j stage response hlog := by
    rcases prefix_concat_iff.mp hlog with hlast | hlog
    · obtain ⟨rfl, hevent⟩ := append_inj' hlast rfl
      cases hevent
      exact hdispatch stage response rfl
    · exact (h.preceded before j stage response hlog).mono hpersisted

/-- Any call but an RPC. A claim that goes through is on the last version,
where its stage was not marked, so nobody else can hold it. -/
theorem Consistent.serve (h : Consistent log s) (hi : s.clients i = some ⟨past, .call c next⟩)
    (hrule : Rule past c) (hc : ∀ stage, c ≠ .dispatch stage) (hr : Serves s.shared c r w') :
    Consistent (log ++ [(i, ⟨c, r⟩)])
      { s.set i (some ⟨past ++ [⟨c, r⟩], next r⟩) with shared := w' } := by
  have hclient := h.known i _ hi
  have hmoves := moves_serve h.sound hclient hrule hc hr
  refine h.act hi (hmoves.sound h.sound) hmoves.persisted
    (known_serve h.sound hclient hrule hmoves.persisted hr) ?_ ?_ ?_
  · intro j client stage _ hj hp
    obtain ⟨hrequested, hsent⟩ := h.due j client stage hj hp
    rw [hmoves.dispatched]
    exact ⟨hmoves.later.marks stage hrequested, hsent⟩
  · intro stage hp
    rw [hmoves.dispatched]
    rcases pending_snoc hp with hpast | ⟨cur, status, hevent, hread, hclaims⟩
    · obtain ⟨hrequested, hsent⟩ := h.due i _ stage hi hpast
      refine ⟨hmoves.later.marks stage hrequested, hsent, fun j client hj hother hp' => hj ?_⟩
      exact h.alone j i client _ stage hother hi hp' hpast
    cases hevent
    cases hr with
    | statusPersisted _ haccepts =>
      have hcur := h.sound.current (hclient.read cur hread) haccepts
      have hfresh : s.shared.object.status.requested stage = false := by
        rw [← hcur]
        exact hclaims.fresh
      refine ⟨?_, fun hsent => ?_, fun j client _ hj hp' => ?_⟩
      · show status.requested stage = true
        rw [hclaims.requested, Function.update_self]
      · exact absurd (hfresh.symm.trans (h.sound.sent stage hsent)) Bool.false_ne_true
      · exact absurd (hfresh.symm.trans (h.due j client stage hj hp').1) Bool.false_ne_true
    | statusRefused hreply => exact absurd rfl hreply
  · intro stage response hevent
    cases hevent
    exact absurd rfl (hc stage)

/-- The RPC of a stage. Only the replica that claimed it sends it, and it is
not due any more. -/
theorem Consistent.dispatch (h : Consistent log s)
    (hi : s.clients i = some ⟨past, .call (.dispatch stage) next⟩) (hpending : Pending past stage) :
    Consistent (log ++ [(i, ⟨.dispatch stage, response⟩)])
      { s.set i (some ⟨past ++ [⟨.dispatch stage, response⟩], next response⟩) with
        shared := { s.shared with dispatched := s.shared.dispatched ++ [stage] } } := by
  obtain ⟨hrequested, hunsent⟩ := h.due i _ stage hi hpending
  have hsound := h.sound
  refine h.act hi ⟨hsound.ordered, hsound.honest, hsound.covered, hsound.later, ?_, ?_⟩
    (fun _ hold => hold) ?_ ?_ ?_ ?_
  · exact forall_mem_append.mpr ⟨hsound.sent, forall_mem_singleton.mpr hrequested⟩
  · refine hsound.once.append (nodup_singleton _) ?_
    rw [disjoint_singleton]
    exact hunsent
  · exact known_serve hsound (h.known i _ hi) hpending (fun _ hold => hold) (.dispatched response)
  · intro j client other hj hclient hp
    obtain ⟨hother, hsent⟩ := h.due j client other hclient hp
    refine ⟨hother, fun hmem => ?_⟩
    rcases mem_append.mp hmem with hmem | hmem
    · exact hsent hmem
    · rw [mem_singleton.mp hmem] at hp
      exact hj (h.alone j i client _ stage hclient hi hp hpending)
  · intro other hp
    obtain ⟨cur, status, hwrote, -, -⟩ := hp
    rw [sight_snoc] at hwrote
    cases hwrote
  intro other response' hevent
  cases hevent
  obtain ⟨cur, status, hsublist, hclaims⟩ := pending_sublist hpending
  refine ⟨cur, status, ?_, ?_, hclaims⟩
  · exact (hsublist.map (Prod.mk i)).trans (h.logged i _ hi)
  · exact (h.known i _ hi).wrote cur status (hsublist.subset (by simp))

theorem Consistent.call (h : Consistent log s) (hi : s.clients i = some ⟨past, .call c next⟩)
    (hrule : Rule past c) (hr : Serves s.shared c r w') :
    rely c r ∧ Consistent (log ++ [(i, ⟨c, r⟩)])
      { s.set i (some ⟨past ++ [⟨c, r⟩], next r⟩) with shared := w' } := by
  refine ⟨?_, ?_⟩
  · cases hr with
    | found hup => exact h.sound.honest _ hup
    | _ => trivial
  by_cases hc : ∃ stage, c = .dispatch stage
  · obtain ⟨stage, rfl⟩ := hc
    cases hr with
    | dispatched response => exact h.dispatch hi hrule
  · exact h.serve hi hrule (fun stage heq => hc ⟨stage, heq⟩) hr

theorem consistent_preserved :
    Setting.Preserved replicas rely Rule (fun _ _ => True) (World.created up) Consistent where
  nil := consistent_idle
  set h p := h.set p
  act h hi hrule hr _ := h.call hi hrule hr
  drift h hdrift := h.moves (moves_drift hdrift)

theorem starts_obey (p : Worker Unit) (h : replicas.starts p) :
    p.Obeys rely Rule [] fun _ _ => True := by
  obtain ⟨r, rfl⟩ := h
  exact obeys_reconcile

theorem consistent_of_reachable (h : Reachable up log s) : Consistent log s :=
  (h.preserves starts_obey consistent_preserved).1

end VirtualKubelet.SoftwareUpgrade
