import VirtualKubelet.Proofs.PodFrame

/-!
# Lifecycle RPCs over many calls

A call of `reconcileApp` reads the state of the app and then does at most one
thing to it. An RPC that the device took, or may have taken, is remembered
with the state it was sent in, and until a reading shows another one the calls
only wait. `reconcileApp_step` says all that one call can do; what a sequence
of calls keeps follows from it alone.
-/

namespace VirtualKubelet.Drivers.Iosxe

open Go Program
open List hiding after next

/-! ## One call -/

/-- What a call makes of the reading it begins with. -/
def observed (appID : String) : Except ClientError OperData → AppObservation
  | .error _ => {}
  | .ok oper => oper.observe appID

/-- The lifecycle RPCs and the removals of configuration. -/
def mutations (es : List (Event Request Reply)) : List (Event Request Reply) :=
  es.filter fun e => e.1.target.isSome

/-- The state of the app in which the request may be made. -/
def Permitted (obs : AppObservation) : Request → Prop
  | .rpc .start _ _ | .rpc .deactivate _ _ => obs.state = "ACTIVATED" ∨ obs.state = "STOPPED"
  | .rpc .activate _ _ | .rpc .uninstall _ _ => obs.state = "DEPLOYED"
  | .rpc .stop _ _ => obs.state = "RUNNING"
  | .rpc .install _ _ | .deleteConfig _ => obs.present = false
  | _ => True

/-- An RPC that the device accepted or may have accepted. -/
def Taken : Event Request Reply → Prop
  | ⟨.rpc _ _ _, .error err⟩ => err.ambiguous = true
  | ⟨.rpc operation appID package, .ok result⟩ =>
    acceptedOrAmbiguousAppHostingRPC (appHostingRPCOutcome operation appID package result) = true
  | _ => False

/-- The state that has to change before the next RPC. -/
def AppHostingStatus.pending (status : AppHostingStatus) : Option Operation × String × Bool :=
  (status.pendingOperation, status.pendingState, status.pendingPresent)

/-- Nothing that was seen ends the wait for the pending RPC. -/
def Waits (obs : AppObservation) (status : AppHostingStatus) : Prop :=
  status.pendingOperation.isSome = true ∧
    (obs.valid = true → obs.state = status.pendingState ∧ obs.present = status.pendingPresent)

/-- A reading that shows the app in another state than the earlier one did. -/
def Changed (new old : AppObservation) : Prop :=
  new.valid = true ∧ (new.state, new.present) ≠ (old.state, old.present)

/-- What a call that does not wait does after its reading. -/
structure Acts (appID : String) (obs : AppObservation) (rest : List (Event Request Reply))
    (after : AppHostingStatus) : Prop where
  once : (mutations rest).length ≤ 1
  permitted : ∀ e ∈ mutations rest, obs.valid = true ∧ Permitted obs e.1
  remembers : ∀ e ∈ rest, Taken e → ∃ operation, after.pending = (some operation, obs.state, obs.present)
  ready : after.phase = .ready →
    obs.valid = true ∧ obs.state = "RUNNING" ∧ after.pendingOperation = none
  deleted : after.phase = .deleted → obs.present = false ∧ ∃ r, ⟨.deleteConfig appID, r⟩ ∈ rest ∧
    (r = .ok () ∨ ∃ err, r = .error err ∧ configAlreadyAbsent err = true)

variable {appID imagePath : String} {status before after : AppHostingStatus}

theorem waits_iff {old : AppObservation}
    (hpending : before.pending = (some operation, old.state, old.present)) :
    Waits obs before ↔ ¬ Changed obs old := by
  obtain ⟨hoperation, hstate, hpresent⟩ := by simpa [AppHostingStatus.pending] using hpending
  simp [Waits, Changed, hoperation, hstate, hpresent]

theorem mem_mutations (he : e ∈ es) (h : Taken e) : e ∈ mutations es := by
  refine mem_filter.mpr ⟨he, ?_⟩
  unfold Taken at h
  split at h
  · rfl
  · rfl
  · cases h

theorem Acts.quiet (hnone : mutations rest = [])
    (hready : after.phase = .ready →
      obs.valid = true ∧ obs.state = "RUNNING" ∧ after.pendingOperation = none)
    (hdeleted : after.phase ≠ .deleted) : Acts appID obs rest after where
  once := by rw [hnone]; exact Nat.zero_le 1
  permitted e he := by rw [hnone] at he; cases he
  remembers e he htaken := by
    have hmem := mem_mutations he htaken
    rw [hnone] at hmem
    cases hmem
  ready := hready
  deleted h := absurd h hdeleted

theorem acts_return (hphase : after.phase = .converging ∨ after.phase = .error)
    (hnone : mutations rest = []) : Acts appID obs rest after := by
  refine .quiet hnone (fun hready => ?_) fun hdeleted => ?_
  · rcases hphase with h | h <;> rw [h] at hready <;> cases hready
  · rcases hphase with h | h <;> rw [h] at hdeleted <;> cases hdeleted

theorem issue_acts (h : Runs (issue status obs operation appID package phase message) es after)
    (hvalid : obs.valid = true) (hpermitted : Permitted obs (.rpc operation appID package))
    (hphase : phase = .converging ∨ phase = .deleting) : Acts appID obs es after := by
  obtain ⟨outcome, first, second, hrpc, hrest, rfl⟩ := runs_bind.mp h
  obtain ⟨r, last, hlast, rfl⟩ := runs_ask.mp hrpc
  obtain ⟨rfl, houtcome⟩ : last = [] ∧ (Taken ⟨.rpc operation appID package, r⟩ →
      acceptedOrAmbiguousAppHostingRPC outcome = true) := by
    cases r with
    | error err | ok result =>
      obtain ⟨rfl, rfl⟩ := runs_pure.mp hlast
      exact ⟨rfl, id⟩
  -- the outcome decides whether the RPC is remembered; both ways the call is over
  obtain ⟨rfl, hafter, hpending⟩ : second = [] ∧ (after.phase = phase ∨ after.phase = .error) ∧
      (acceptedOrAmbiguousAppHostingRPC outcome = true →
        after.pending = (some operation, obs.state, obs.present)) := by
    unfold recordPendingAppOperation at hrest
    cases outcome with
    | ok =>
      obtain ⟨rfl, rfl⟩ := runs_pure.mp hrest
      exact ⟨rfl, .inl rfl, fun _ => rfl⟩
    | error err =>
      dsimp only at hrest
      by_cases hambiguous : err.ambiguous = true
      · rw [if_pos hambiguous] at hrest
        obtain ⟨rfl, rfl⟩ := runs_pure.mp hrest
        exact ⟨rfl, .inl rfl, fun _ => rfl⟩
      · rw [if_neg hambiguous] at hrest
        obtain ⟨rfl, rfl⟩ := runs_pure.mp hrest
        exact ⟨rfl, .inr rfl, fun h => absurd h hambiguous⟩
  have hoff : after.phase ≠ .ready ∧ after.phase ≠ .deleted := by
    rcases hafter with h | h
    · rcases hphase with rfl | rfl <;> rw [h] <;> exact ⟨by decide, by decide⟩
    · rw [h]
      exact ⟨by decide, by decide⟩
  refine ⟨length_filter_le .., fun e he => ?_, fun e he htaken => ?_,
    fun h => absurd h hoff.1, fun h => absurd h hoff.2⟩
  · obtain rfl := mem_singleton.mp (mem_filter.mp he).1
    exact ⟨hvalid, hpermitted⟩
  · obtain rfl := mem_singleton.mp he
    exact ⟨operation, hpending (houtcome htaken)⟩

theorem removeConfig_acts (h : Runs (removeConfig appID status) es after)
    (hvalid : obs.valid = true) (habsent : obs.present = false) : Acts appID obs es after := by
  obtain ⟨r, second, hrest, rfl⟩ := runs_ask.mp h
  obtain ⟨rfl, hready, hdeleted⟩ : second = [] ∧ after.phase ≠ .ready ∧
      (after.phase = .deleted → r = .ok () ∨
        ∃ err, r = .error err ∧ configAlreadyAbsent err = true) := by
    cases r with
    | ok =>
      obtain ⟨rfl, rfl⟩ := runs_pure.mp hrest
      exact ⟨rfl, nofun, fun _ => .inl rfl⟩
    | error err =>
      dsimp only at hrest
      split at hrest
      · rename_i hgone
        obtain ⟨rfl, rfl⟩ := runs_pure.mp hrest
        exact ⟨rfl, nofun, fun _ => .inr ⟨err, rfl, hgone⟩⟩
      · obtain ⟨rfl, rfl⟩ := runs_pure.mp hrest
        exact ⟨rfl, nofun, nofun⟩
  refine ⟨length_filter_le .., fun e he => ?_, fun e he htaken => ?_,
    fun h => absurd h hready, fun h => ⟨habsent, r, mem_singleton_self _, hdeleted h⟩⟩
  · obtain rfl := mem_singleton.mp (mem_filter.mp he).1
    exact ⟨hvalid, habsent⟩
  · obtain rfl := mem_singleton.mp he
    cases htaken

theorem reconcileForward_acts
    (h : Runs (reconcileForward allowUnsignedApps appID imagePath status obs) es after)
    (hvalid : obs.valid = true) (hnone : status.pendingOperation = none) :
    Acts appID obs es after := by
  unfold reconcileForward at h
  split at h
  · rename_i hstate
    obtain ⟨rfl, rfl⟩ := runs_pure.mp h
    exact .quiet rfl (fun _ => ⟨hvalid, hstate, hnone⟩) nofun
  · next hstate => exact issue_acts h hvalid (.inl hstate) (.inl rfl)
  · next hstate => exact issue_acts h hvalid (.inr hstate) (.inl rfl)
  · next hstate => exact issue_acts h hvalid hstate (.inl rfl)
  · dsimp only at h
    split at h
    · obtain ⟨notification, last, hlast, rfl⟩ := runs_ask.mp h
      split at hlast
      · obtain ⟨rfl, rfl⟩ := runs_pure.mp hlast
        exact acts_return (.inr rfl) rfl
      · obtain ⟨rfl, rfl⟩ := runs_pure.mp hlast
        exact acts_return (.inl rfl) rfl
    · obtain ⟨rfl, rfl⟩ := runs_pure.mp h
      exact acts_return (.inl rfl) rfl
  split at h
  · obtain ⟨rfl, rfl⟩ := runs_pure.mp h
    exact acts_return (.inr rfl) rfl
  rename_i hpresent
  split at h
  · obtain ⟨rfl, rfl⟩ := runs_pure.mp h
    exact acts_return (.inr rfl) rfl
  · exact issue_acts h hvalid (Bool.eq_false_iff.mpr hpresent) (.inl rfl)

theorem reconcileReverse_acts (h : Runs (reconcileReverse appID status obs) es after)
    (hvalid : obs.valid = true) : Acts appID obs es after := by
  unfold reconcileReverse at h
  split at h
  · next hstate => exact issue_acts h hvalid hstate (.inr rfl)
  · next hstate => exact issue_acts h hvalid (.inl hstate) (.inr rfl)
  · next hstate => exact issue_acts h hvalid (.inr hstate) (.inr rfl)
  · next hstate => exact issue_acts h hvalid hstate (.inr rfl)
  split at h
  · obtain ⟨rfl, rfl⟩ := runs_pure.mp h
    exact acts_return (.inr rfl) rfl
  · next hpresent => exact removeConfig_acts h hvalid (Bool.eq_false_iff.mpr hpresent)

theorem stillPending_some (h : stillPending status obs = some after) :
    Waits obs status ∧ after.phase = status.phase ∧ after.pending = status.pending := by
  unfold stillPending at h
  split at h
  · cases h
  rename_i operation hoperation
  split at h
  · rename_i hsame
    cases h
    simp only [Bool.and_eq_true, decide_eq_true_eq] at hsame
    exact ⟨⟨by rw [hoperation]; rfl, fun _ => hsame⟩, rfl, rfl⟩
  · cases h

theorem not_waits_of_stillPending (hvalid : obs.valid = true) (h : stillPending status obs = none) :
    ¬ Waits obs status := by
  rintro ⟨hsome, hsame⟩
  obtain ⟨operation, hoperation⟩ := Option.isSome_iff_exists.mp hsome
  simp [stillPending, hoperation, hsame hvalid] at h

/-- A call waits and keeps what it remembers, or acts on what it saw. -/
theorem reconcileApp_step
    (h : Runs (reconcileApp allowUnsignedApps appID imagePath desired before) es after) :
    ∃ r rest, es = ⟨.operData, r⟩ :: rest ∧
      ((Waits (observed appID r) before ∧ rest = [] ∧ after.phase = before.phase ∧
          after.pending = before.pending) ∨
        (¬ Waits (observed appID r) before ∧ Acts appID (observed appID r) rest after)) := by
  obtain ⟨obs, first, second, hobs, hrest, rfl⟩ := runs_bind.mp h
  obtain ⟨r, last, hlast, rfl⟩ := runs_ask.mp hobs
  obtain ⟨rfl, rfl⟩ : last = [] ∧ obs = observed appID r := by
    cases r with
    | error err | ok oper => exact runs_pure.mp hlast
  refine ⟨r, second, rfl, ?_⟩
  dsimp only at hrest
  split at hrest
  · rename_i hinvalid
    rw [Bool.not_eq_true'] at hinvalid
    split at hrest
    · rename_i hsome
      obtain ⟨rfl, rfl⟩ := runs_pure.mp hrest
      exact .inl ⟨⟨hsome, fun hvalid => by rw [hinvalid] at hvalid; cases hvalid⟩, rfl, rfl, rfl⟩
    · rename_i hnone
      obtain ⟨rfl, rfl⟩ := runs_pure.mp hrest
      exact .inr ⟨fun hwaits => hnone hwaits.1, acts_return (.inr rfl) rfl⟩
  rename_i hvalid
  rw [Bool.not_eq_true', Bool.not_eq_false] at hvalid
  split at hrest
  · rename_i status hpending
    obtain ⟨rfl, rfl⟩ := runs_pure.mp hrest
    obtain ⟨hwaits, hphase, hsame⟩ := stillPending_some hpending
    exact .inl ⟨hwaits, rfl, hphase, hsame⟩
  rename_i hpending
  refine .inr ⟨fun hwaits => not_waits_of_stillPending hvalid hpending hwaits, ?_⟩
  cases desired with
  | running =>
    refine reconcileForward_acts hrest hvalid ?_
    unfold clearPending
    split
    · rfl
    · next h => exact Option.not_isSome_iff_eq_none.mp h
  | deleted => exact reconcileReverse_acts hrest hvalid

/-! ## Many calls -/

/-- One call on the app: what it was made with, and its events. -/
structure Call where
  allowUnsignedApps : Bool
  imagePath : String
  desired : AppDesiredState
  events : List (Event Request Reply)

def Call.observed (c : Call) (appID : String) : AppObservation :=
  match c.events with
  | ⟨.operData, r⟩ :: _ => Iosxe.observed appID r
  | _ => {}

/-- The calls take the status of the app from one to the other. -/
inductive Calls (appID : String) : AppHostingStatus → List Call → AppHostingStatus → Prop
  | nil {status : AppHostingStatus} : Calls appID status [] status
  | cons {before status after : AppHostingStatus} {c : Call} {calls : List Call}
      (hrun : Runs (reconcileApp c.allowUnsignedApps appID c.imagePath c.desired before) c.events
        status)
      (hrest : Calls appID status calls after) : Calls appID before (c :: calls) after

section

variable {c : Call}

theorem Call.step
    (h : Runs (reconcileApp c.allowUnsignedApps appID c.imagePath c.desired before) c.events after) :
    (Waits (c.observed appID) before ∧ mutations c.events = [] ∧ after.phase = before.phase ∧
        after.pending = before.pending) ∨
      (¬ Waits (c.observed appID) before ∧ Acts appID (c.observed appID) c.events after) := by
  obtain ⟨r, rest, hevents, hstep⟩ := reconcileApp_step h
  rw [Call.observed, hevents]
  refine hstep.imp ?_ ?_
  · rintro ⟨hwaits, rfl, hkept⟩
    exact ⟨hwaits, rfl, hkept⟩
  rintro ⟨hwaits, hacts⟩
  refine ⟨hwaits, hacts.once, hacts.permitted, fun e he htaken => ?_, hacts.ready, fun h => ?_⟩
  · rcases mem_cons.mp he with rfl | he
    · cases htaken
    · exact hacts.remembers e he htaken
  · obtain ⟨habsent, r', hmem, hr'⟩ := hacts.deleted h
    exact ⟨habsent, r', mem_cons_of_mem _ hmem, hr'⟩

theorem Calls.split (h : Calls appID before (first ++ later) after) :
    ∃ status, Calls appID before first status ∧ Calls appID status later after := by
  induction first generalizing before with
  | nil => exact ⟨before, .nil, h⟩
  | cons c first ih =>
    cases h with
    | cons hrun hrest =>
      obtain ⟨status, hfirst, hlater⟩ := ih hrest
      exact ⟨status, .cons hrun hfirst, hlater⟩

theorem Calls.pending (h : Calls appID before calls after)
    (hpending : before.pending = (some operation, obs.state, obs.present))
    (hsame : ∀ c ∈ calls, ¬ Changed (c.observed appID) obs) :
    after.pending = (some operation, obs.state, obs.present) := by
  induction h with
  | nil => exact hpending
  | cons hrun hrest ih =>
    refine ih ?_ fun c hc => hsame c (mem_cons_of_mem _ hc)
    rcases Call.step hrun with ⟨-, -, -, hkept⟩ | ⟨hwaits, -⟩
    · exact hkept.trans hpending
    · exact absurd ((waits_iff hpending).mpr (hsame _ mem_cons_self)) hwaits

theorem Calls.unready (h : Calls appID before calls after)
    (hbefore : before.phase = .ready → before.pendingOperation = none) :
    after.phase = .ready → after.pendingOperation = none := by
  induction h with
  | nil => exact hbefore
  | cons hrun hrest ih =>
    refine ih fun hready => ?_
    rcases Call.step hrun with ⟨hwaits, -, hphase, -⟩ | ⟨-, hacts⟩
    · have hnone := hbefore (hphase ▸ hready)
      rw [Waits, hnone] at hwaits
      cases hwaits.1
    · exact (hacts.ready hready).2.2

end

/-- Over any sequence of calls on one app, whatever the device answers: a call
makes at most one RPC or removal, and in the state it is meant for; after an
RPC that the device took or may have taken, the next one waits for a reading
that shows another state; and the app is ready only where it was seen running. -/
theorem lifecycle_rpcs_not_replayed (appID : String) (start final : AppHostingStatus)
    (calls : List Call) (h : Calls appID start calls final) :
    (∀ c ∈ calls, (mutations c.events).length ≤ 1 ∧
      ∀ e ∈ mutations c.events, (c.observed appID).valid = true ∧
        Permitted (c.observed appID) e.1) ∧
    (∀ first c between next later e, calls = first ++ c :: (between ++ next :: later) →
      e ∈ c.events → Taken e → mutations next.events ≠ [] →
        ∃ d ∈ between ++ [next], Changed (d.observed appID) (c.observed appID)) ∧
    (start.pendingOperation = none → ∀ first c later status, calls = first ++ c :: later →
      Calls appID start (first ++ [c]) status → status.phase = .ready →
        (c.observed appID).valid = true ∧ (c.observed appID).state = "RUNNING") := by
  refine ⟨fun c hc => ?_, ?_, ?_⟩
  · obtain ⟨first, later, rfl⟩ := append_of_mem hc
    obtain ⟨status, -, hlater⟩ := h.split
    cases hlater with
    | cons hrun hrest =>
      rcases Call.step hrun with ⟨-, hnone, -⟩ | ⟨-, hacts⟩
      · rw [hnone]
        exact ⟨Nat.zero_le 1, fun e he => absurd he not_mem_nil⟩
      · exact ⟨hacts.once, hacts.permitted⟩
  · rintro first c between next later e rfl he htaken hnext
    obtain ⟨status, -, hlater⟩ := h.split
    cases hlater with
    | cons hrun hrest =>
      obtain ⟨status', hbetween, hnextRun⟩ := hrest.split
      rcases Call.step hrun with ⟨-, hnone, -⟩ | ⟨-, hacts⟩
      · have hmem := mem_mutations he htaken
        rw [hnone] at hmem
        cases hmem
      obtain ⟨operation, hpending⟩ := hacts.remembers e he htaken
      by_contra hsame
      simp only [not_exists, not_and] at hsame
      have hkept := hbetween.pending hpending fun d hd => hsame d (mem_append_left _ hd)
      have hwaits := (waits_iff hkept).mpr
        (hsame next (mem_append_right _ (mem_singleton_self _)))
      cases hnextRun with
      | cons hrun _ =>
        rcases Call.step hrun with ⟨-, hnone, -⟩ | ⟨hacts, -⟩
        · exact hnext hnone
        · exact hacts hwaits
  · rintro hstart first c later status rfl hprefix hready
    obtain ⟨status', hfirst, hlast⟩ := hprefix.split
    cases hlast with
    | cons hrun hnil =>
      cases hnil
      rcases Call.step hrun with ⟨hwaits, -, hphase, -⟩ | ⟨-, hacts⟩
      · have hnone := hfirst.unready (fun _ => hstart) (hphase ▸ hready)
        rw [Waits, hnone] at hwaits
        cases hwaits.1
      · obtain ⟨hvalid, hrunning, -⟩ := hacts.ready hready
        exact ⟨hvalid, hrunning⟩

namespace Sample

def inState (state : String) : OperData := ⟨[("app", some ⟨some state, false⟩)], List.nodup_singleton _⟩

def call (events : List (Event Request Reply)) : Call := ⟨false, "flash:app.tar", .running, events⟩

/-- The activation is lost on the way; the next call waits, and the one after
it has seen the app activated and starts it. -/
def lostActivation : List Call :=
  [call [⟨.operData, .ok (inState "DEPLOYED")⟩,
      ⟨.rpc .activate "app" "", .error { text := "timeout", ambiguous := true }⟩],
    call [⟨.operData, .ok (inState "DEPLOYED")⟩],
    call [⟨.operData, .ok (inState "ACTIVATED")⟩,
      ⟨.rpc .start "app" "", .error { text := "timeout", ambiguous := true }⟩]]

theorem lost_activation_awaited :
    ∃ d ∈ [call [⟨.operData, .ok (inState "DEPLOYED")⟩]] ++
        [call [⟨.operData, .ok (inState "ACTIVATED")⟩,
          ⟨.rpc .start "app" "", .error { text := "timeout", ambiguous := true }⟩]],
      Changed (d.observed "app") { state := "DEPLOYED", valid := true, present := true } :=
  (lifecycle_rpcs_not_replayed "app" { phase := .converging } _ lostActivation
    (.cons (.call _ (.call _ (.done _))) (.cons (.call _ (.done _))
      (.cons (.call _ (.call _ (.done _))) .nil)))).2.1 [] _ [_] _ [] _ rfl
    (mem_cons_of_mem _ mem_cons_self) rfl (by decide +kernel)

end Sample

end VirtualKubelet.Drivers.Iosxe
