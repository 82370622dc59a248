import VirtualKubelet.Proofs.LeaseExclusion

/-!
# The history of a retained mutation Lease

A Lease with the retain annotation outlives its holders. Its transition counter
numbers the acquisitions, and what a holder published of its maintenance goes
when the holder does.
-/

namespace VirtualKubelet.Coordination

open Go Api Program

variable {a : Address} {start w w' : World} {log : List (Nat × LeaseEvent)} {s s' : LeasePool}
  {l : Option (Nat × LeaseEvent)} {i : Nat} {e : LeaseEvent} {lease new : Lease} {key : String}

/-! ## Annotations -/

theorem find_foldl_delete (keys : List String) (m : Go.Map String) :
    (keys.foldl Go.Map.delete m).find key = if key ∈ keys then none else m.find key := by
  induction keys generalizing m with
  | nil => rfl
  | cons head keys ih =>
    rw [List.foldl_cons, ih]
    by_cases hmem : key ∈ keys
    · rw [if_pos hmem, if_pos (List.mem_cons_of_mem head hmem)]
    rw [if_neg hmem]
    by_cases hkey : key = head
    · rw [if_pos (hkey ▸ List.mem_cons_self), hkey]
      exact Map.find_delete_self
    · rw [if_neg (by simp [hkey, hmem])]
      exact Map.find_delete_ne hkey

theorem find_foldl_set (entries : List (String × String)) (m : Go.Map String)
    (h : ∀ e ∈ entries, e.1 ≠ key) :
    (entries.foldl (fun m e => m.set e.1 e.2) m).find key = m.find key := by
  induction entries generalizing m with
  | nil => rfl
  | cons head entries ih =>
    rw [List.foldl_cons, ih _ fun e he => h e (List.mem_cons_of_mem head he)]
    exact Map.find_set_ne (h head List.mem_cons_self).symm

theorem retainLease_not_request : retainLeaseAnnotation ∉ maintenanceRequestKeys := by decide

theorem retained_of_find
    (h : new.annotations.find retainLeaseAnnotation = lease.annotations.find retainLeaseAnnotation) :
    new.retained = lease.retained := by
  rw [Lease.retained, Lease.retained, Map.get, Map.get, h]

theorem find_clearMaintenanceRequest (hretained : lease.retained = true) :
    lease.clearMaintenanceRequest.annotations.find key =
      if key ∈ maintenanceRequestKeys then none else lease.annotations.find key := by
  rw [Lease.clearMaintenanceRequest, if_pos hretained]
  exact find_foldl_delete _ _

theorem retained_clearMaintenanceRequest (hretained : lease.retained = true) :
    lease.clearMaintenanceRequest.retained = true := by
  rw [← hretained]
  apply retained_of_find
  rw [find_clearMaintenanceRequest hretained, if_neg retainLease_not_request]

theorem retained_published (request : RequestEntries) :
    ({ lease with annotations :=
        request.entries.foldl (fun m e => m.set e.1 e.2) lease.annotations } : Lease).retained =
      lease.retained := by
  apply retained_of_find
  refine find_foldl_set _ _ fun e he heq => retainLease_not_request ?_
  rw [← heq]
  exact request.keys e he

/-! ## One write -/

/-- The transition counter, zero before the first acquisition. -/
def Lease.transitions (lease : Lease) : Int := (lease.leaseTransitions.map Int32.toInt).getD 0

theorem toInt_succ {n : Int32} (h : n.toInt < 2 ^ 31 - 1) : (n + 1).toInt = n.toInt + 1 := by
  have hmin := Int32.le_toInt n
  rw [Int32.toInt_add]
  show (n.toInt + 1).bmod (2 ^ 32) = n.toInt + 1
  rw [Int.bmod_eq_of_le] <;> omega

theorem transitions_takenOver (h : lease.transitions < 2 ^ 31 - 1) :
    (lease.takenOver identity ttlSeconds now).transitions = lease.transitions + 1 := by
  show lease.nextTransitions.toInt = lease.transitions + 1
  rw [Lease.nextTransitions, Lease.transitions] at *
  cases hcount : lease.leaseTransitions with
  | none => rfl
  | some n =>
    rw [hcount] at h
    exact toInt_succ h

/-- What a write keeps of a retained Lease, and what it removes. -/
structure KeepsHistory (old new : Lease) : Prop where
  retained : new.retained = true
  counts : old.transitions < 2 ^ 31 - 1 → old.transitions ≤ new.transitions
  acquires : old.transitions < 2 ^ 31 - 1 → ∀ A : Identity, old.holder ≠ A.text →
    new.holder = A.text → old.transitions < new.transitions
  clears : new.holder ≠ old.holder → ∀ key ∈ maintenanceRequestKeys, new.annotations.find key = none

theorem keepsHistory_same (hretained : new.retained = true) (hholder : new.holder = lease.holder)
    (hcount : new.transitions = lease.transitions) : KeepsHistory lease new where
  retained := hretained
  counts _ := by omega
  acquires := by
    intro _ A hold hnew
    rw [hholder] at hnew
    exact absurd hnew hold
  clears := fun hne => absurd hholder hne

theorem rewrites_keepsHistory (hfamily : k.family = mutationLeaseFamily)
    (h : Rewrites k t lease new) (hretained : lease.retained = true) : KeepsHistory lease new := by
  have hcleared : ∀ key ∈ maintenanceRequestKeys,
      lease.clearMaintenanceRequest.annotations.find key = none := by
    intro key hkey
    rw [find_clearMaintenanceRequest hretained, if_pos hkey]
  cases h with
  | renewed => exact keepsHistory_same hretained rfl rfl
  | published => exact keepsHistory_same ((retained_published _).trans hretained) rfl rfl
  | taken =>
    refine ⟨retained_clearMaintenanceRequest hretained, ?_, ?_, fun _ => hcleared⟩
    · intro hcount
      rw [transitions_takenOver hcount]
      omega
    · intro hcount A _ _
      rw [transitions_takenOver hcount]
      omega
  | released =>
    have hcount : (lease.released k.family).transitions = lease.transitions := by
      rw [Lease.transitions, Lease.released, hfamily]
      rfl
    refine ⟨retained_clearMaintenanceRequest hretained, ?_, ?_, fun _ => hcleared⟩
    · intro _
      omega
    · intro _ A _ hA
      exact absurd hA.symm A.nonempty

/-! ## One step -/

def World.Retained (w : World) : Prop := ∃ lease, w.lease.content = some lease ∧ lease.retained = true

theorem retained_cases (h : Reachable a start log s) (hstep : (callers a).Step s l s')
    (hcontent : s.shared.lease.content = some lease) (hretained : lease.retained = true) :
    s'.shared.lease.content = some lease ∨ ∃ i e t new, l = some (i, e) ∧
      wrote (untag e) = true ∧ e.1.1.family = a.family ∧ Rewrites e.1.1 t lease new ∧
      s'.shared.lease.content = some new := by
  cases l with
  | none =>
    rw [lease_of_silent hstep]
    exact .inl hcontent
  | some ie =>
    obtain ⟨i, e⟩ := ie
    rcases acted_cases h hstep with ⟨-, hsame⟩ | ⟨hwrote, past, o, -, -, -, hchange⟩
    · rw [hsame]
      exact .inl hcontent
    have hfamily := (addresses_of_acted h hstep).2.2
    generalize s'.shared.lease = lease' at hchange
    cases hchange with
    | created habsent =>
      rw [Slot.content, habsent] at hcontent
      cases hcontent
    | deleted hcurrent _ _ hdropped =>
      rw [content_of_current hcurrent hcontent, hretained] at hdropped
      cases hdropped
    | @rewritten o new hcurrent _ hrewrites =>
      rw [content_of_current hcurrent hcontent] at hrewrites
      exact .inr ⟨i, e, _, new, rfl, hwrote, hfamily, hrewrites, Slot.content_put⟩

theorem keepsHistory_step (ha : a.family = mutationLeaseFamily) (h : Reachable a start log s)
    (hstep : (callers a).Step s l s') (hcontent : s.shared.lease.content = some lease)
    (hretained : lease.retained = true) :
    ∃ new, s'.shared.lease.content = some new ∧ KeepsHistory lease new := by
  rcases retained_cases h hstep hcontent hretained with
    hsame | ⟨i, e, t, new, -, -, hfamily, hrewrites, hnew⟩
  · exact ⟨lease, hsame, keepsHistory_same hretained rfl rfl⟩
  · exact ⟨new, hnew, rewrites_keepsHistory (hfamily.trans ha) hrewrites hretained⟩

/-- The retained Lease of the mutation family outlives every run. -/
theorem retained_reachable (ha : a.family = mutationLeaseFamily) (hstart : start.Retained)
    (h : Reachable a start log s) : s.shared.Retained := by
  induction h with
  | nil => exact hstart
  | step h hstep _ ih =>
    obtain ⟨lease, hcontent, hretained⟩ := ih
    obtain ⟨new, hnew, hkeeps⟩ := keepsHistory_step ha h hstep hcontent hretained
    exact ⟨new, hnew, hkeeps.retained⟩

/-! ## The request of the holder -/

def World.annotation (w : World) (key : String) : Option String :=
  w.lease.content.bind fun lease => lease.annotations.find key

/-- A publication of the annotation went through. -/
def Publishes (key : String) (e : LeaseEvent) : Prop :=
  ∃ request : RequestEntries, e.1.1.op = .publish request ∧ (∃ entry ∈ request.entries, entry.1 = key) ∧
    wrote (untag e) = true

/-- While the holder stays, a request annotation can only come from a
publication. -/
theorem annotation_step (A : Identity) (h : Reachable a start log s)
    (hstep : (callers a).Step s l s') (hcontent : s.shared.lease.content = some lease)
    (hretained : lease.retained = true) (hA : s.shared.holder = A.text)
    (hA' : s'.shared.holder = A.text) (hkey : s'.shared.annotation key ≠ none) :
    s.shared.annotation key ≠ none ∨ ∃ i e, l = some (i, e) ∧ Publishes key e := by
  rw [World.holder, hcontent] at hA
  rw [World.annotation, hcontent]
  rcases retained_cases h hstep hcontent hretained with
    hsame | ⟨i, e, t, new, hl, hwrote, -, hrewrites, hnew⟩
  · rw [World.annotation, hsame] at hkey
    exact .inl hkey
  rw [World.holder, hnew] at hA'
  rw [World.annotation, hnew] at hkey
  generalize hk : e.1.1 = k at hrewrites
  cases hrewrites with
  | renewed => exact .inl hkey
  | taken hother =>
    have hid : k.identity.text = A.text := hA'
    rw [hid] at hother
    exact absurd hA hother
  | released => exact absurd hA'.symm A.nonempty
  | @published _ _ request hop =>
    by_cases hmem : ∃ entry ∈ request.entries, entry.1 = key
    · exact .inr ⟨i, e, hl, request, by rw [hk]; exact hop, hmem, hwrote⟩
    · refine .inl fun hnone => hkey ?_
      refine (find_foldl_set _ _ fun entry hentry heq => hmem ⟨entry, hentry, heq⟩).trans hnone

theorem annotation_path (A : Identity) (ha : a.family = mutationLeaseFamily)
    (hstart : start.Retained) (h : Reachable a start log s) (hA : s.shared.holder = A.text)
    (hpath : (callers a).Path (fun _ _ t => t.shared.holder = A.text) s log' s') :
    s'.shared.holder = A.text ∧ (s'.shared.annotation key ≠ none →
      s.shared.annotation key ≠ none ∨ ∃ i e, (i, e) ∈ log' ∧ Publishes key e) := by
  induction hpath with
  | nil => exact ⟨hA, .inl⟩
  | @step log' s₁ l s₂ hpath hstep hok ih =>
    obtain ⟨hA₁, hbefore⟩ := ih
    have h₁ := h.path (fun _ _ _ _ => trivial) hpath
    obtain ⟨lease, hcontent, hretained⟩ := retained_reachable ha hstart h₁
    refine ⟨hok, fun hkey => ?_⟩
    rcases annotation_step A h₁ hstep hcontent hretained hA₁ hok hkey with
      hkey | ⟨i, e, rfl, hpublishes⟩
    · rcases hbefore hkey with hkey | ⟨i, e, hmem, hpublishes⟩
      · exact .inl hkey
      · exact .inr ⟨i, e, List.mem_append_left _ hmem, hpublishes⟩
    · exact .inr ⟨i, e, List.mem_append_right _ (List.mem_singleton_self _), hpublishes⟩

/-! ## The history -/

/-- **The history of a retained Lease.** Every step of a run keeps the Lease of
the mutation family and its count, counts a new holder, and drops the request
with the holder. So what the Lease says of a request while it stays with `A`
was published after the step that made `A` the holder. -/
theorem retained_lease_history (ha : a.family = mutationLeaseFamily) (hstart : start.Retained)
    (h : Reachable a start log s) (hstep : (callers a).Step s l s') :
    (∃ old new, s.shared.lease.content = some old ∧ s'.shared.lease.content = some new ∧
      KeepsHistory old new) ∧
    ∀ (A : Identity) (log' : List (Nat × LeaseEvent)) (s'' : LeasePool),
      s.shared.holder ≠ A.text → s'.shared.holder = A.text →
      (callers a).Path (fun _ _ t => t.shared.holder = A.text) s' log' s'' →
      ∀ key ∈ maintenanceRequestKeys, s''.shared.annotation key ≠ none →
        ∃ i e, (i, e) ∈ log' ∧ Publishes key e := by
  obtain ⟨old, hold, hretained⟩ := retained_reachable ha hstart h
  obtain ⟨new, hnew, hkeeps⟩ := keepsHistory_step ha h hstep hold hretained
  refine ⟨⟨old, new, hold, hnew, hkeeps⟩, ?_⟩
  intro A log' s'' hbefore hafter hpath key hkey hpresent
  have hcleared : s'.shared.annotation key = none := by
    rw [World.holder, hold] at hbefore
    rw [World.holder, hnew] at hafter
    rw [World.annotation, hnew]
    refine hkeeps.clears (fun heq => hbefore ?_) key hkey
    rw [← hafter]
    exact heq.symm
  rcases (annotation_path A ha hstart (h.step hstep trivial) hafter hpath).2 hpresent with
    hpresent | hpublished
  · exact absurd hcleared hpresent
  · exact hpublished

def mutationAddress : Address := ⟨"cvk", "edge-1", mutationLeaseFamily⟩

def mutationCall (op : Op) : Call :=
  ⟨op, ⟨true, "cvk", "", true, 1000000000⟩, "edge-1", mutationLeaseFamily, alice⟩

def sampleToken : String := "topology.cisco.vk/maintenance-session-token"

def sampleRequest : RequestEntries := ⟨[(sampleToken, "t-1")], by decide⟩

def retainedStart : World :=
  ⟨0, Slot.empty.put { annotations := Go.Map.set ∅ retainLeaseAnnotation "true" }⟩

/-- Alice has read the free Lease, and will take it. -/
def beforeAcquisition : LeasePool :=
  serveCall (.idle retainedStart) 0 (mutationCall .acquireIfFree) 2

theorem request_published_by_holder :
    mutationAddress.family = mutationLeaseFamily ∧ retainedStart.Retained ∧
    ∃ log l s' log' s'', Reachable mutationAddress retainedStart log beforeAcquisition ∧
      (callers mutationAddress).Step beforeAcquisition l s' ∧ s'.shared.holder = alice.text ∧
      (callers mutationAddress).Path (fun _ _ t => t.shared.holder = alice.text) s' log' s'' ∧
      s''.shared.annotation sampleToken = some "t-1" ∧
      ∃ i e, (i, e) ∈ log' ∧ Publishes sampleToken e := by
  have hstart : retainedStart.Retained := ⟨_, rfl, by decide⟩
  have hnil : Reachable mutationAddress retainedStart [] (.idle retainedStart) := .nil
  obtain ⟨log, hrun⟩ := reachable_serveCall hnil 0 2
    (show (mutationCall .acquireIfFree).Addresses mutationAddress from ⟨rfl, rfl, rfl⟩)
  have hstep : (callers mutationAddress).Step beforeAcquisition _ _ :=
    step_serveCall _ (.idle retainedStart) 0 (mutationCall .acquireIfFree) 2 rfl
  have hpath : (callers mutationAddress).Path (fun _ _ t => t.shared.holder = alice.text) _ _ _ :=
    .step (.step (.step .nil
      (.start (s := serveCall (.idle retainedStart) 0 (mutationCall .acquireIfFree) 3) 1
        ⟨mutationCall (.publish sampleRequest), ⟨rfl, rfl, rfl⟩, rfl⟩) rfl)
      (.act (i := 1) rfl (clerk_serves 0 _ _)) rfl) (.act (i := 1) rfl (clerk_serves 0 _ _)) rfl
  refine ⟨rfl, hstart, log, _, _, _, _, hrun, hstep, rfl, hpath, by decide, ?_⟩
  exact (retained_lease_history rfl hstart hrun hstep).2 alice _ _ (by decide) rfl hpath
    sampleToken (by decide) (by decide)

end VirtualKubelet.Coordination
