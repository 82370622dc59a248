import VirtualKubelet.Proofs.UpgradeReplicas

/-!
# At most once, and until the outcome is known

What the replicas of the worker guarantee together. A stage is sent to the
device once, after its claim was persisted by a write that saw the object open
and granted. And the Lease is not given up while something was sent whose
outcome nobody recorded, except in one case: a replica that finds the object
missing cleans up by its own copy, and another replica may have claimed and
sent a stage since that copy was read.
-/

namespace VirtualKubelet.SoftwareUpgrade

open Go Rollout Program

variable {up : Upgrade} {log : List (Nat × WorkerEvent)} {s s' : Replicas}

theorem Sound.marker_iff_claim (hw : Sound w) (hup : up ∈ w.persisted)
    (hmanaged : up.managed = true) (stage : Stage) :
    managedMutationMarkers up.status stage = true ↔ claimsOf up.status stage = 1 := by
  rw [(hw.honest up hup).markers, hw.covered up hup hmanaged stage]
  split
  · next h => exact iff_of_true h rfl
  · next h => exact iff_of_false h Nat.zero_ne_one

/-! ## Three replicas and one device file -/

namespace Sample

def object : Upgrade :=
  { uid := "uid-a", resourceVersion := 1, managed := false, bindings := [], generation := 1,
    creationTimestamp := 0, targetVersion := "17.15", strategy := .reload,
    imageSource := .deviceFile, deleting := false, finalizer := false, status := {} }

def answer (w : World) : (question : Question) → Answer question
  | .binding | .claimBars | .target | .stagingBefore | .validatingBefore => none
  | .beforeMutation | .stagingGrace | .activationGrace | .pacing => true
  | .deniedChanged | .terminalOutcome | .invalidationRequest => false
  | .pending => .passes
  | .resolving =>
    if w.object.status.sourceDigest = "" then .fileVerified "17.12" "digest" false
    else .inspects "17.12" false
  | .inventory => .absent "operation"
  | .staging => .passes
  | .preparation | .transferring | .invalidation => .error
  | .validating => .stagingFailed
  | .preparedInventory => .prepared
  | .uncertainInstall | .rollback => .inGrace
  | .activation | .noReboot => .waits
  | .reachability | .standby | .finalVerify => .unreachable
  | .verifying => .standbyWaits

def respond : (stage : Stage) → Response stage
  | .staging => .accepted
  | .primaryInstall | .standbyInstall => .ok []
  | .standbyActivation | .primaryActivation | .rollbackActivation => .accepted

/-- The party that answers; one with a cache never finds the object missing. -/
def party (cached : Bool) : (c : Call) → World → Reply c × World
  | .now, w => (5, w)
  | .get, w => (if w.gone && !cached then .missing else .found w.object, w)
  | .updateStatus cur status, w =>
    if w.gone = false ∧ cur.resourceVersion = w.object.resourceVersion then
      (.ok, w.writeStatus status)
    else (.conflict, w)
  | .update cur finalizer, w =>
    if w.gone = false ∧ cur.resourceVersion = w.object.resourceVersion then
      (.ok, w.writeFinalizer finalizer)
    else (.conflict, w)
  | .acquire, w => (.owned, { w with leaseHeld := true })
  | .quarantine, w => (.owned, { w with leaseHeld := true })
  | .release, w => (true, { w with leaseHeld := false })
  | .dispatch stage, w => (respond stage, { w with dispatched := w.dispatched ++ [stage] })
  | .ask question, w => (answer w question, w)

def fresh : Client Call Reply Unit := ⟨[], reconcile ⟨false, ""⟩⟩

/-- The world after some reconciles that were left to finish. -/
def settle (cached : Bool) : Nat → World → World
  | 0, w => w
  | n + 1, w => settle cached n (Setting.drive (party cached) 20 fresh w).2

/-- The object is about to be staged: the first replica has found it so and
reads it once more for its claim. -/
def first : Client Call Reply Unit × World :=
  Setting.drive (party false) 8 fresh (settle false 5 (World.created object))

def second : Client Call Reply Unit × World := Setting.drive (party false) 11 fresh first.2

/-- The user deletes the object, and the third replica clears its finalizer. -/
def third : Client Call Reply Unit × World :=
  Setting.drive (party false) 20 fresh second.2.delete

def last : Client Call Reply Unit × World := Setting.drive (party false) 1 first.1 third.2

/-- The staging fails, and a replica has recorded it. -/
def failed : Client Call Reply Unit × World :=
  Setting.drive (party true) 9 fresh (settle true 6 (World.created object))

theorem party_serves (cached : Bool) (c : Call) (w : World) :
    Serves w c (party cached c w).1 (party cached c w).2 := by
  cases c with
  | now => exact .now 5
  | get =>
    simp only [party]
    split
    · rename_i hgone
      rw [Bool.and_eq_true] at hgone
      exact .missing hgone.1
    · exact .found List.mem_cons_self
  | updateStatus cur status =>
    simp only [party]
    split
    · next haccepts => exact .statusPersisted .ok haccepts
    · exact .statusRefused fun h => Written.noConfusion h
  | update cur finalizer =>
    simp only [party]
    split
    · next haccepts => exact .finalizerPersisted .ok haccepts
    · exact .finalizerRefused fun h => Written.noConfusion h
  | acquire => exact .acquired .owned
  | quarantine => exact .quarantined .owned
  | release => exact .released true
  | dispatch stage => exact .dispatched (respond stage)
  | ask question => exact .answered (answer w question)

section

variable {admits : Replicas → Option (Nat × WorkerEvent) → Prop} (hcall : ∀ s i c, admits s (some
  (i, ⟨c, (party cached c s.shared).1⟩) ))
include hcall

theorem continues (h : replicas.Run admits (World.created object) log s)
    (hi : s.clients i = some client) (n : Nat) :
    ∃ log s', replicas.Run admits (World.created object) log s' ∧
      s'.shared = (Setting.drive (party cached) n client s.shared).2 ∧
      s'.clients i = some (Setting.drive (party cached) n client s.shared).1 ∧
      ∀ j, j ≠ i → s'.clients j = s.clients j := by
  obtain ⟨log', hrun⟩ := h.drives (party_serves cached) (fun s c _ => hcall s i c) hi n
    Setting.drives_true
  exact ⟨log', _, hrun, rfl, Pool.clients_set_self, fun j hj => Pool.clients_set_ne hj⟩

variable (hnone : ∀ s, admits s none)
include hnone

theorem begins (h : replicas.Run admits (World.created object) log s) (i n : Nat) :
    ∃ log s', replicas.Run admits (World.created object) log s' ∧
      s'.shared = (Setting.drive (party cached) n fresh s.shared).2 ∧
      s'.clients i = some (Setting.drive (party cached) n fresh s.shared).1 ∧
      ∀ j, j ≠ i → s'.clients j = s.clients j := by
  have hstart : replicas.Run admits (World.created object) (log ++ []) (s.set i (some fresh)) :=
    h.step (.start i ⟨_, rfl⟩) (hnone s)
  obtain ⟨log', s', hrun, hshared, hi, hother⟩ := continues hcall hstart Pool.clients_set_self n
  exact ⟨log', s', hrun, hshared, hi, fun j hj => (hother j hj).trans (Pool.clients_set_ne hj)⟩

theorem settles (n : Nat) (h : replicas.Run admits (World.created object) log s) :
    ∃ log s', replicas.Run admits (World.created object) log s' ∧
      s'.shared = settle cached n s.shared := by
  induction n generalizing log s with
  | zero => exact ⟨log, s, h, rfl⟩
  | succ n ih =>
    obtain ⟨log', s', hrun, hshared, -⟩ := begins hcall hnone h 0 20
    obtain ⟨log'', s'', hrun', hshared'⟩ := ih hrun
    refine ⟨log'', s'', hrun', ?_⟩
    rw [hshared', hshared]
    rfl

end

/-- The second replica has sent the stage, and the first still waits with what
it read before. -/
theorem sent : ∃ log s, Reachable object log s ∧ s.shared = second.2 ∧
    s.clients 1 = some first.1 := by
  obtain ⟨log, s, hrun, hshared⟩ :=
    settles (fun _ _ _ => trivial) (fun _ => trivial) 5 (.nil : Reachable object [] _)
  obtain ⟨log₁, s₁, hrun₁, hshared₁, hfirst, -⟩ :=
    begins (fun _ _ _ => trivial) (fun _ => trivial) hrun 1 8
  obtain ⟨log₂, s₂, hrun₂, hshared₂, -, hother⟩ :=
    begins (fun _ _ _ => trivial) (fun _ => trivial) hrun₁ 2 11
  rw [hshared] at hshared₁ hfirst
  rw [hshared₁] at hshared₂
  exact ⟨log₂, s₂, hrun₂, hshared₂, (hother 1 (by decide)).trans hfirst⟩

end Sample

/-! ## At most once -/

/-- Every stage is sent at most once; before it is sent, the same replica has
persisted its marker, on top of a version that it had read and that was not
deleted, not terminal and, if managed, granted; and on a managed leaf the
markers and the claims of any version agree. -/
theorem mutation_at_most_once (h : Reachable up log s) :
    (∀ stage, s.shared.dispatched.count stage ≤ 1) ∧
    (∀ before i stage response, before ++ [(i, ⟨.dispatch stage, response⟩)] <+: log →
      ∃ cur status,
        [(i, ⟨.get, .found cur⟩), (i, ⟨.updateStatus cur status, .ok⟩)].Sublist before ∧
        cur.next status ∈ s.shared.persisted ∧ status.requested stage = true ∧
        managedMutationMarkers status stage = true ∧ cur.deleting = false ∧
        terminalUpgradePhase cur.status.phase = false ∧ (cur.managed = true → Granted cur.status)) ∧
    ∀ version ∈ s.shared.persisted, version.managed = true → ∀ stage,
      managedMutationMarkers version.status stage = true ↔ claimsOf version.status stage = 1 := by
  have hs := consistent_of_reachable h
  refine ⟨fun stage => List.nodup_iff_count_le_one.mp hs.sound.once stage, ?_,
    fun version hversion hmanaged => hs.sound.marker_iff_claim hversion hmanaged⟩
  intro before i stage response hlog
  obtain ⟨cur, status, hsublist, hpersisted, hclaims⟩ := hs.preceded before i stage response hlog
  have hrequested : status.requested stage = true := by
    rw [hclaims.requested, Function.update_self]
  have hmarker : managedMutationMarkers status stage = true := by
    rw [managedMutationMarkers_eq, hrequested, Bool.true_or]
  exact ⟨cur, status, hsublist, hpersisted, hrequested, hmarker, hclaims.present, hclaims.running,
    hclaims.granted⟩

theorem staging_sent_once : ∃ log s, Reachable Sample.object log s ∧
    s.shared.dispatched = [.staging] ∧ s.shared.dispatched.count .staging ≤ 1 := by
  obtain ⟨log, s, hrun, hshared, -⟩ := Sample.sent
  refine ⟨log, s, hrun, ?_, (mutation_at_most_once hrun).1 .staging⟩
  rw [hshared]
  rfl

/-- A version that is terminal, being deleted or cancelled is final: the object
stays closed, and a stage that is ever claimed or sent was claimed in it. -/
theorem closed_version_final (h : Reachable up log s) :
    ∀ version ∈ s.shared.persisted, Closed version → Closed s.shared.object ∧
      ∀ stage, s.shared.object.status.requested stage = true ∨ stage ∈ s.shared.dispatched →
        version.status.requested stage = true := by
  intro version hversion hclosed
  have hs := (consistent_of_reachable h).sound
  have hlater := hs.later version hversion
  refine ⟨hlater.closed hclosed, fun stage hstage => hlater.frozen hclosed stage ?_⟩
  exact hstage.elim id (hs.sent stage)

theorem deleted_version_final : ∃ log s, Reachable Sample.object log s ∧
    s.shared.object.deleting = true ∧ s.shared.object.status.requested .staging = true := by
  obtain ⟨log, s, hrun, hshared, -⟩ := Sample.sent
  have hdeleted := hrun.step (.drift (.deleted (by rw [hshared]; rfl))) trivial
  have hdeleting : s.shared.delete.object.deleting = true := by rw [hshared]; rfl
  have hfinal := closed_version_final hdeleted _ List.mem_cons_self (.inr (.inl hdeleting))
  refine ⟨_, _, hdeleted, hdeleting, hfinal.2 .staging (.inr ?_)⟩
  rw [hshared]
  exact List.mem_singleton_self _

/-! ## Releasing the Lease -/

/-- The outcome of a stage was recorded: some version has its marker and either
a successful phase or says that the mutation is settled. -/
def Recorded (w : World) (stage : Stage) : Prop :=
  ∃ version ∈ w.persisted, version.status.requested stage = true ∧
    (successfulUpgradeOutcome version.status.phase = true ∨
      version.status.isConditionTrue .mutationSettled = true)

/-- A replica that finds the object missing has not overlooked a claim: if the
version that it read last has no marker, the last version of the object has
none. -/
def Attentive (s : Replicas) : Option (Nat × WorkerEvent) → Prop
  | some (i, ⟨.get, .missing⟩) => ∀ client up, s.clients i = some client →
      (sight client.past).last = some up → Unmarked up.status → Unmarked s.shared.object.status
  | _ => True

/-- Who found the object missing is right about it. -/
def Missed (s : Replicas) : Prop :=
  ∀ i client up, s.clients i = some client → (sight client.past).missing = true →
    (sight client.past).last = some up →
      s.shared.gone = true ∧ (Unmarked up.status → Unmarked s.shared.object.status)

theorem Missed.moves {w' : World} (h : Missed s)
    (hgone : s.shared.gone = true → w'.gone = true ∧ w'.object = s.shared.object) :
    Missed { s with shared := w' } := by
  intro i client up hi hmissing hlast
  obtain ⟨hgone', hunmarked⟩ := h i client up hi hmissing hlast
  refine ⟨(hgone hgone').1, ?_⟩
  rw [(hgone hgone').2]
  exact hunmarked

theorem missing_snoc (hmissing : (sight (past ++ [e])).missing = true)
    (hlast : (sight (past ++ [e])).last = some up) :
    (sight past).last = some up ∧ (e = ⟨.get, .missing⟩ ∨ (sight past).missing = true) := by
  rw [sight_snoc] at hmissing hlast
  obtain ⟨c, r⟩ := e
  cases c with
  | get =>
    cases r with
    | found up => cases hmissing
    | missing => exact ⟨hlast, .inl rfl⟩
    | failed => exact ⟨hlast, .inr hmissing⟩
  | updateStatus cur status => cases r <;> exact ⟨hlast, .inr hmissing⟩
  | now | update | acquire | quarantine | release | dispatch | ask =>
    exact ⟨hlast, .inr hmissing⟩

theorem gone_serve (hw : Sound w) (hknown : Known w past) (hrule : Rule past c)
    (h : Serves w c r w') : w.gone = true → w'.gone = true ∧ w'.object = w.object := by
  by_cases hc : ∃ stage, c = .dispatch stage
  · obtain ⟨stage, rfl⟩ := hc
    cases h with
    | dispatched response => exact fun hgone => ⟨hgone, rfl⟩
  · exact (moves_serve hw hknown hrule (fun stage heq => hc ⟨stage, heq⟩) h).gone

theorem Missed.act {past : List WorkerEvent} {c : Call} {r : Reply c} {w' : World} {i : Nat}
    {next : Reply c → Worker Unit} (h : Missed s)
    (hi : s.clients i = some ⟨past, .call c next⟩) (hr : Serves s.shared c r w')
    (hgone : s.shared.gone = true → w'.gone = true ∧ w'.object = s.shared.object)
    (hadmits : Attentive s (some (i, ⟨c, r⟩))) :
    Missed { s.set i (some ⟨past ++ [⟨c, r⟩], next r⟩) with shared := w' } := by
  intro j client up hj hmissing hlast
  rcases Pool.clients_set hj with ⟨rfl, hclient⟩ | ⟨-, hclient⟩
  · cases hclient
    obtain ⟨hlast', hevent | hmissing'⟩ := missing_snoc hmissing hlast
    · cases hevent
      cases hr with
      | missing hlost => exact ⟨hlost, hadmits _ up hi hlast'⟩
    · obtain ⟨hgone', hunmarked⟩ := h j _ up hi hmissing' hlast'
      refine ⟨(hgone hgone').1, ?_⟩
      rw [(hgone hgone').2]
      exact hunmarked
  · exact h.moves hgone j client up hclient hmissing hlast

theorem missed_preserved :
    Setting.Preserved replicas rely Rule Attentive (World.created up)
      fun log s => Consistent log s ∧ Missed s where
  nil := ⟨consistent_idle, fun _ _ _ h => nomatch h⟩
  set := by
    intro log s i h p
    refine ⟨h.1.set p, fun j client up hj hmissing hlast => ?_⟩
    rcases Pool.clients_fresh hj with hnil | hclient
    · rw [hnil] at hmissing
      cases hmissing
    · exact h.2 j client up hclient hmissing hlast
  act := by
    intro log s i past c next r shared h hi hrule hr hadmits
    obtain ⟨hrely, hconsistent⟩ := h.1.call hi hrule hr
    exact ⟨hrely, hconsistent, h.2.act hi hr
      (gone_serve h.1.sound (h.1.known i _ hi) hrule hr) hadmits⟩
  drift h hdrift := ⟨h.1.moves (moves_drift hdrift), h.2.moves (moves_drift hdrift).gone⟩

theorem recorded_of_mayRelease (hs : Consistent log s) (hmissed : Missed s)
    (hi : s.clients i = some client) (hmay : MayRelease client.past)
    (hsent : stage ∈ s.shared.dispatched) : Recorded s.shared stage := by
  have hrequested := hs.sound.sent stage hsent
  rcases hmay with ⟨up, hshown, hclosed, hspent⟩ | ⟨hmissing, up, hlast, hunmarked⟩
  · have hup := (hs.known i client hi).shown hshown
    -- nothing was claimed after the version that the replica goes by
    have hmarked := (hs.sound.later up hup).frozen hclosed stage hrequested
    rcases hspent with hunmarked | hsettled
    · exact absurd ((hunmarked stage).symm.trans hmarked) Bool.false_ne_true
    · exact ⟨up, hup, hmarked, hsettled⟩
  · have hobject := (hmissed i client up hi hmissing hlast).2 hunmarked stage
    exact absurd (hobject.symm.trans hrequested) Bool.false_ne_true

/-- In every run in which nobody overlooks a claim when the object is missing,
a replica that releases the Lease leaves no stage behind that was sent to the
device and whose outcome is not recorded. -/
theorem release_only_after_outcome {i : Nat} {reply : Bool}
    (h : replicas.Run Attentive (World.created up) log s)
    (hrelease : replicas.Step s (some (i, ⟨.release, reply⟩)) s') :
    ∀ stage ∈ s.shared.dispatched, Recorded s.shared stage := by
  obtain ⟨⟨hs, hmissed⟩, hkept⟩ := h.preserves starts_obey missed_preserved
  intro stage hsent
  cases hrelease with
  | act hi hr => exact recorded_of_mayRelease hs hmissed hi (hkept i _ hi).1 hsent

theorem attentive_cached (s : Replicas) (i : Nat) (c : Call) :
    Attentive s (some (i, ⟨c, (Sample.party true c s.shared).1⟩)) := by
  cases c with
  | get =>
    have hfound : (Sample.party true .get s.shared).1 = .found s.shared.object := by
      simp [Sample.party]
    rw [hfound]
    trivial
  | _ => trivial

/-- The replica that recorded the failed staging releases the Lease. -/
theorem failed_staging_recorded :
    ∃ log s s', replicas.Run Attentive (World.created Sample.object) log s ∧
      replicas.Step s (some (1, ⟨.release, true⟩)) s' ∧ .staging ∈ s.shared.dispatched ∧
      Recorded s.shared .staging := by
  obtain ⟨log, s, hrun, hshared⟩ := Sample.settles attentive_cached (fun _ => trivial) 6
    (.nil : replicas.Run Attentive (World.created Sample.object) [] _)
  obtain ⟨log₁, s₁, hrun₁, hshared₁, hclient, -⟩ :=
    Sample.begins attentive_cached (fun _ => trivial) hrun 1 9
  rw [hshared] at hshared₁ hclient
  obtain ⟨next, hnext⟩ : ∃ next, Sample.failed.1.rest = .call .release next := ⟨_, rfl⟩
  have hrest : s₁.clients 1 = some ⟨Sample.failed.1.past, .call .release next⟩ := by
    rw [hclient, ← hnext]
    rfl
  have hstep := Setting.Step.act (S := replicas) hrest (.released true)
  have hsent : .staging ∈ s₁.shared.dispatched := by
    rw [hshared₁]
    exact List.mem_singleton_self _
  exact ⟨log₁, s₁, _, hrun₁, hstep, hsent, release_only_after_outcome hrun₁ hstep .staging hsent⟩

/-- The first replica of the sample had read the object before the claim. When
it then finds it missing it releases the Lease, although the stage was sent and
its outcome is nowhere recorded. -/
theorem lease_released_with_outcome_unknown :
    ∃ log s s', Reachable Sample.object log s ∧
      replicas.Step s (some (1, ⟨.release, true⟩)) s' ∧
      s.shared.leaseHeld = true ∧ s'.shared.leaseHeld = false ∧
      .staging ∈ s.shared.dispatched ∧ ¬Recorded s.shared .staging := by
  obtain ⟨log, s, hrun, hshared, hfirst⟩ := Sample.sent
  have hdeleted : Reachable Sample.object (log ++ []) { s with shared := s.shared.delete } :=
    hrun.step (.drift (.deleted (by rw [hshared]; rfl))) trivial
  obtain ⟨log₁, s₁, hrun₁, hshared₁, -, hother⟩ := Sample.begins (fun _ _ _ => trivial) (fun _ => trivial) hdeleted 3 20
  have hfirst₁ : s₁.clients 1 = some Sample.first.1 := (hother 1 (by decide)).trans hfirst
  obtain ⟨log₂, s₂, hrun₂, hshared₂, hlast, -⟩ := Sample.continues (fun _ _ _ => trivial) hrun₁ hfirst₁ 1
  have hworld : s₂.shared = Sample.last.2 := by
    rw [hshared₂, hshared₁, hshared]
    rfl
  have hclient : s₂.clients 1 = some Sample.last.1 := by
    rw [hlast, hshared₁, hshared]
    rfl
  obtain ⟨next, hnext⟩ : ∃ next, Sample.last.1.rest = .call .release next := ⟨_, rfl⟩
  have hrest : s₂.clients 1 = some ⟨Sample.last.1.past, .call .release next⟩ := by
    rw [hclient, ← hnext]
  refine ⟨log₂, s₂, _, hrun₂, .act hrest (.released true), ?_, rfl, ?_, ?_⟩
  · rw [hworld]
    rfl
  · rw [hworld]
    exact List.mem_singleton_self _
  rw [hworld]
  rintro ⟨version, hversion, hmarked, hsettled⟩
  have hunknown : ∀ version ∈ Sample.last.2.persisted,
      version.status.requested .staging = true →
        ¬(successfulUpgradeOutcome version.status.phase = true ∨
          version.status.isConditionTrue .mutationSettled = true) := by decide +kernel
  exact hunknown version hversion hmarked hsettled

end VirtualKubelet.SoftwareUpgrade
