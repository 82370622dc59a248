import VirtualKubelet.SoftwareUpgrade.Reconcile

/-!
# When an install is accepted

The worker reads the whole stream of an `OS.Install` before it decides. The
decision rests on three things the loop has gathered: the last version the
device validated, whether an error came, and whether the pinned content was
proven. The last is a flag that a transfer sets and a synchronisation
overwrites, so what it says in the end depends on the order of the two.
-/

namespace VirtualKubelet.SoftwareUpgrade

open Go Program
open List hiding after

/-! ## The loop without its status updates -/

/-- One event that is no error. -/
def InstallProgress.count (standby installed : Bool) (progress : InstallProgress) :
    InstallEvent → InstallProgress
  | .err _ => progress
  | .transferReady => { progress with transferObserved := true, contentProven := true }
  | .transferProgress _ => { progress with transferObserved := true }
  | .syncProgress _ =>
    { progress with transferObserved := true, contentProven := standby && installed }
  | .validated version => { progress with validated := some version }

/-- What the loop may change in the worker's copy. -/
def Upgrade.Alike (up up' : Upgrade) : Prop :=
  up'.targetVersion = up.targetVersion ∧
    ∃ transfer, up'.status = { up.status with transferProgress := transfer }

theorem ends_updateTransferProgress : (updateTransferProgress up received total).Ends up.Alike := by
  have hsame : up.Alike up := ⟨rfl, up.status.transferProgress, rfl⟩
  unfold updateTransferProgress
  split
  · exact ends_pure hsame
  refine ends_bind (ends_any _) fun updated _ => ?_
  split
  · exact ends_pure ⟨rfl, _, rfl⟩
  · exact ends_pure hsame

variable {standby individual : Bool} {size : Nat} {now : Time}

theorem ends_pumpInstall (events : List InstallEvent) : ∀ (up : Upgrade) (progress : InstallProgress),
    (pumpInstall standby size events up progress).Ends fun pumped =>
      up.Alike pumped.1 ∧
        ((∃ e, .err e ∈ events ∧ pumped.2 = .error e) ∨
          (∀ e, .err e ∉ events) ∧ pumped.2 = .ok (events.foldl
            (InstallProgress.count standby up.status.primarySupervisorInstalled) progress)) := by
  -- the copy that a transfer leaves has the milestone of the one before it
  induction events with
  | nil =>
    intro up progress
    exact ends_pure ⟨⟨rfl, _, rfl⟩, .inr ⟨fun _ => not_mem_nil, rfl⟩⟩
  | cons event events ih =>
    intro up progress
    have hlater : ∀ up' : Upgrade, up.Alike up' → (∀ e, event ≠ .err e) →
        (pumpInstall standby size events up' (progress.count standby
          up.status.primarySupervisorInstalled event)).Ends fun pumped =>
            up.Alike pumped.1 ∧ ((∃ e, .err e ∈ event :: events ∧ pumped.2 = .error e) ∨
              (∀ e, .err e ∉ event :: events) ∧ pumped.2 = .ok ((event :: events).foldl
                (InstallProgress.count standby up.status.primarySupervisorInstalled)
                progress)) := by
      rintro up' ⟨htarget, transfer, hstatus⟩ hevent
      refine (ih up' _).mono fun pumped ⟨⟨htarget', transfer', hstatus'⟩, houtcome⟩ => ?_
      rw [hstatus] at hstatus' houtcome
      refine ⟨⟨htarget'.trans htarget, transfer', hstatus'⟩, houtcome.imp ?_ ?_⟩
      · exact fun ⟨e, hmem, he⟩ => ⟨e, mem_cons_of_mem _ hmem, he⟩
      · exact fun ⟨hnone, hok⟩ => ⟨fun e hmem => (mem_cons.mp hmem).elim
          (fun h => hevent e h.symm) (hnone e), hok⟩
    have hsame : up.Alike up := ⟨rfl, up.status.transferProgress, rfl⟩
    cases event with
    | err e => exact ends_pure ⟨hsame, .inl ⟨e, mem_cons_self, rfl⟩⟩
    | transferReady => exact hlater up hsame nofun
    | transferProgress received =>
      exact ends_bind ends_updateTransferProgress fun up' h => hlater up' h nofun
    | syncProgress percentage =>
      exact ends_bind (ends_any _) fun _ _ => hlater up hsame nofun
    | validated version => exact hlater up hsame nofun

/-! ## What the loop has gathered -/

/-- The versions the device validated, the last one last. -/
def validatedVersions (events : List InstallEvent) : List String :=
  events.filterMap fun
    | .validated version => some version
    | _ => none

/-- A transfer was started, or the standby copied what the primary already
has. -/
def Proven (standby installed : Bool) (events : List InstallEvent) : Prop :=
  .transferReady ∈ events ∨
    (standby = true ∧ installed = true) ∧ ∃ percentage, .syncProgress percentage ∈ events

/-- A synchronisation after which no transfer is started. -/
def EndsInSync (events : List InstallEvent) : Prop :=
  ∃ before percentage after,
    events = before ++ .syncProgress percentage :: after ∧ .transferReady ∉ after

theorem endsInSync_concat :
    EndsInSync (events ++ [event]) ↔
      (∃ percentage, event = .syncProgress percentage) ∨
        event ≠ .transferReady ∧ EndsInSync events := by
  constructor
  · rintro ⟨before, percentage, after, h, hafter⟩
    rcases eq_nil_or_concat after with rfl | ⟨after, last, rfl⟩
    · exact .inl ⟨percentage, (append_inj_right' h rfl |> List.cons.inj).1⟩
    rw [concat_eq_append, ← cons_append, ← append_assoc] at h
    obtain ⟨rfl, hlast⟩ := append_inj' h rfl
    cases hlast
    rw [concat_eq_append, mem_append, mem_singleton, not_or] at hafter
    exact .inr ⟨fun h => hafter.2 h.symm, before, percentage, after, rfl, hafter.1⟩
  · rintro (⟨percentage, rfl⟩ | ⟨hready, before, percentage, after, rfl, hafter⟩)
    · exact ⟨events, percentage, [], rfl, not_mem_nil⟩
    · refine ⟨before, percentage, after ++ [event], by simp, ?_⟩
      rw [mem_append, mem_singleton, not_or]
      exact ⟨hafter, fun h => hready h.symm⟩

section

theorem validated_gathered :
    (events.foldl (InstallProgress.count standby installed) {}).validated =
      (validatedVersions events).getLast? := by
  induction events using List.reverseRecOn with
  | nil => rfl
  | append_singleton events event ih =>
    rw [foldl_concat, validatedVersions, filterMap_append]
    cases event <;>
      simp only [InstallProgress.count, ih, validatedVersions, filterMap_cons,
        filterMap_nil, append_nil, List.getLast?_concat]

/-- The flag in the end: proven, and not overwritten by a synchronisation
that proves nothing. -/
theorem contentProven_gathered :
    (events.foldl (InstallProgress.count standby installed) {}).contentProven = true ↔
      Proven standby installed events ∧
        ((standby = true ∧ installed = true) ∨ ¬ EndsInSync events) := by
  induction events using List.reverseRecOn with
  | nil =>
    simp only [foldl_nil, Bool.false_eq_true, Proven, not_mem_nil, exists_false,
      and_false, or_self, false_and]
  | append_singleton events event ih =>
    rw [foldl_concat, endsInSync_concat]
    cases event <;>
      simp only [InstallProgress.count, ih, Proven, mem_append, mem_singleton,
        reduceCtorEq, or_false, or_true, exists_or, exists_false, exists_eq', ne_eq,
        not_true_eq_false, not_false_eq_true, true_and, false_or, false_and, and_true,
        InstallEvent.syncProgress.injEq, Bool.and_eq_true, true_or, exists_eq]
    tauto

end

/-! ## The decision -/

inductive Verdict
  | failed (e : InstallError)
  | refused (reason : String)
  | accepted (version : String)

/-- The checks of `finishInstall`, in its order. -/
def judge (up : Upgrade) (standby : Bool) (progress : InstallProgress) : Verdict :=
  match progress.validated with
  | none => .failed .untyped
  | some version =>
    if !progress.contentProven then .refused "ImageContentNotTransferred"
    else if blank version then .refused "EmptyValidatedVersion"
    else if !versionMatches version up.targetVersion then .refused "VersionMismatch"
    else if standby ∧ up.status.validatedVersion ≠ "" ∧ version ≠ up.status.validatedVersion then
      .refused "SupervisorValidatedVersionMismatch"
    else .accepted version

/-- What is written of an install that is accepted. -/
def recordInstall (up : Upgrade) (standby individual observed : Bool) (version : String)
    (now : Time) : Worker Unit :=
  if individual && !standby then
    persist up fun s =>
      (({ s with
        individualSupervisorInstall := true
        primarySupervisorInstalled := true
        validatedVersion := version
        failureReason := "" }.setCondition .mutationSettled true
          "InstallCompleted").setCondition .validated false "StandbyInstallPending").setReady
            false "StandbyInstallPending"
  else
    persist up fun s =>
      ((((markTransferComplete ({ s.begin now with
        phase := installNextPhase up.strategy
        validatedVersion := version
        individualSupervisorInstall := individual
        standbySupervisorInstalled := s.standbySupervisorInstalled || standby
        primarySupervisorInstalled := s.primarySupervisorInstalled || !standby
        failureReason := "" }.setCondition .mutationSettled true
          "InstallCompleted")).setCondition .transferred true
            (if observed then "Transferred" else "AlreadyInstalled")).setCondition .validated true
              "Validated").setCondition .activated false
                (installActivationReason up.strategy)).setReady false "Validated"

def Verdict.settle (up : Upgrade) (standby individual observed : Bool) (now : Time) :
    Verdict → Worker Unit
  | .failed e => handleInstallErr up e now
  | .refused reason => terminalAfterMutation up .validationFailed reason now
  | .accepted version => recordInstall up standby individual observed version now

theorem finishInstall_eq :
    finishInstall up standby individual progress now =
      (judge up standby progress).settle up standby individual progress.transferObserved now := by
  unfold finishInstall judge
  cases progress.validated with
  | none => rfl
  | some version =>
  dsimp only
  split
  · rfl
  split
  · rfl
  split
  · rfl
  split <;> rfl

theorem judge_accepted :
    judge up standby progress = .accepted version ↔
      progress.validated = some version ∧ progress.contentProven = true ∧
        blank version = false ∧ versionMatches version up.targetVersion = true ∧
          (standby = true → up.status.validatedVersion ≠ "" →
            version = up.status.validatedVersion) := by
  unfold judge
  cases progress.validated with
  | none => simp only [reduceCtorEq, false_and]
  | some v =>
    simp only [Option.some.injEq]
    constructor
    · intro h
      split at h
      · cases h
      split at h
      · cases h
      split at h
      · cases h
      split at h
      · cases h
      rename_i hproven hblank hmatches hstandby
      cases h
      simp only [Bool.not_eq_true', Bool.not_eq_false, Bool.not_eq_true] at hproven hblank hmatches
      exact ⟨rfl, hproven, hblank, hmatches, fun hs hv => by_contra fun hne =>
        hstandby ⟨hs, hv, hne⟩⟩
    · rintro ⟨rfl, hproven, hblank, hmatches, hstandby⟩
      have hagrees : ¬ (standby = true ∧ up.status.validatedVersion ≠ "" ∧
          v ≠ up.status.validatedVersion) := fun ⟨hs, hv, hne⟩ => hne (hstandby hs hv)
      simp only [hproven, hblank, hmatches, hagrees, Bool.not_true, Bool.false_eq_true, if_false]

/-- A run of the loop and its decision ends by settling this verdict. -/
def Decides (up : Upgrade) (standby individual : Bool) (size : Nat) (events : List InstallEvent)
    (es : List WorkerEvent) (verdict : Verdict) : Prop :=
  ∃ loop read up' observed now rest, es = loop ++ ⟨.now, now⟩ :: rest ∧
    Runs (pumpInstall standby size events up {}) loop (up', read) ∧
      (verdict = match read with
        | .error e => .failed e
        | .ok progress => judge up' standby progress) ∧
      Runs (verdict.settle up' standby individual observed now) rest ()

/-- The device has validated this version, in a stream without an error that
proves the content. -/
def Evidence (up : Upgrade) (standby : Bool) (events : List InstallEvent) (version : String) :
    Prop :=
  (∀ e, .err e ∉ events) ∧ (validatedVersions events).getLast? = some version ∧
    blank version = false ∧ versionMatches version up.targetVersion = true ∧
      Proven standby up.status.primarySupervisorInstalled events

/-- The proof of the content stands in the end. -/
def Kept (up : Upgrade) (standby : Bool) (events : List InstallEvent) : Prop :=
  (standby = true ∧ up.status.primarySupervisorInstalled = true) ∨ ¬ EndsInSync events

theorem Decides.accepted_iff (h : Decides up standby individual size events es verdict)
    (version : String) :
    verdict = .accepted version ↔ Evidence up standby events version ∧ Kept up standby events ∧
      (standby = true → up.status.validatedVersion ≠ "" →
        version = up.status.validatedVersion) := by
  obtain ⟨loop, read, up', observed, now, rest, rfl, hloop, rfl, -⟩ := h
  obtain ⟨⟨htarget, transfer, hstatus⟩, ⟨e, hmem, rfl⟩ | ⟨hnone, rfl⟩⟩ :=
    hloop.ends (ends_pumpInstall events up {})
  · simp only [reduceCtorEq, false_iff]
    exact fun hevidence => hevidence.1.1 e hmem
  refine judge_accepted.trans ?_
  dsimp only at htarget hstatus
  rw [validated_gathered, contentProven_gathered, htarget, hstatus]
  constructor
  · exact fun ⟨hlast, ⟨hproven, hkept⟩, hblank, hmatches, hagrees⟩ =>
      ⟨⟨hnone, hlast, hblank, hmatches, hproven⟩, hkept, hagrees⟩
  · exact fun ⟨⟨_, hlast, hblank, hmatches, hproven⟩, hkept, hagrees⟩ =>
      ⟨hlast, ⟨hproven, hkept⟩, hblank, hmatches, hagrees⟩

theorem decides_of_runs (h : Runs (receiveInstall up standby individual size (.ok events)) es ()) :
    ∃ verdict, Decides up standby individual size events es verdict := by
  obtain ⟨⟨up', read⟩, loop, second, hloop, h, rfl⟩ := runs_bind.mp h
  cases read with
  | error e =>
    obtain ⟨now, rest, hrest, rfl⟩ := runs_ask.mp h
    exact ⟨.failed e, loop, _, up', false, now, rest, rfl, hloop, rfl, hrest⟩
  | ok progress =>
    obtain ⟨now, rest, hrest, rfl⟩ := runs_ask.mp h
    rw [finishInstall_eq] at hrest
    exact ⟨_, loop, _, up', _, now, rest, rfl, hloop, rfl, hrest⟩

/-- Every run over a stream settles one verdict. It accepts exactly the
streams that prove the content and validate the version of the target, for a
standby that of the primary, if and only if of those streams none ends its
content with a synchronisation that proves nothing, and no standby is
installed without a version of the primary on record. -/
theorem install_accepted_iff (up : Upgrade) (standby individual : Bool) (size : Nat)
    (events : List InstallEvent) (es : List WorkerEvent)
    (h : Runs (receiveInstall up standby individual size (.ok events)) es ()) :
    ∃ verdict, Decides up standby individual size events es verdict ∧
      (((∃ version, verdict = .accepted version) ↔
          ∃ version, Evidence up standby events version ∧
            (standby = true → version = up.status.validatedVersion)) ↔
        ∀ version, Evidence up standby events version →
          ((standby = true → version = up.status.validatedVersion) → Kept up standby events) ∧
            (standby = true → up.status.validatedVersion = "" → ¬ Kept up standby events)) := by
  obtain ⟨verdict, hdecides⟩ := decides_of_runs h
  refine ⟨verdict, hdecides, ?_⟩
  simp only [hdecides.accepted_iff]
  constructor
  · intro hiff version hevidence
    refine ⟨fun hagrees => ?_, fun hstandby hempty hkept => ?_⟩
    · obtain ⟨_, _, hkept, _⟩ := hiff.mpr ⟨version, hevidence, hagrees⟩
      exact hkept
    obtain ⟨other, hother, hagrees⟩ := hiff.mp
      ⟨version, hevidence, hkept, fun _ hne => absurd hempty hne⟩
    have hblank := hother.2.2.1
    rw [hagrees hstandby, hempty, blank_empty] at hblank
    cases hblank
  · intro hcond
    constructor
    · rintro ⟨version, hevidence, hkept, hagrees⟩
      refine ⟨version, hevidence, fun hstandby => hagrees hstandby fun hempty => ?_⟩
      exact (hcond version hevidence).2 hstandby hempty hkept
    · rintro ⟨version, hevidence, hagrees⟩
      exact ⟨version, hevidence, (hcond version hevidence).1 hagrees, fun hs _ => hagrees hs⟩

namespace Sample

/-- A primary supervisor is to get 17.15. -/
def streamed : Upgrade :=
  { uid := "uid-a", resourceVersion := 1, managed := false, bindings := [], generation := 1,
    creationTimestamp := 0, targetVersion := "17.15", strategy := .reload,
    imageSource := .streamed, deleting := false, finalizer := true, status := {} }

def transferred : List InstallEvent := [.transferReady, .validated "17.15.1"]

theorem transferred_accepted :
    ∃ verdict, Decides streamed false true 4096 transferred [⟨.now, 5⟩, ⟨.get, .failed⟩] verdict ∧
      ∃ version, verdict = .accepted version := by
  obtain ⟨verdict, hdecides, hiff⟩ := install_accepted_iff streamed false true 4096 transferred
    [⟨.now, 5⟩, ⟨.get, .failed⟩] (.call _ (.call _ (.done _)))
  refine ⟨verdict, hdecides, (hiff.mpr fun version _ => ⟨fun _ => .inr ?_, ?_⟩).mpr
    ⟨"17.15.1", ⟨by simp [transferred], rfl, by decide, by decide, .inl (by simp [transferred])⟩, ?_⟩⟩
  · rintro ⟨before, percentage, after, h, -⟩
    have hmem : InstallEvent.syncProgress percentage ∈ transferred := h ▸ by simp
    simp [transferred] at hmem
  · intro h
    cases h
  · intro h
    cases h

/-- The stream of a transfer to a redundant system: the device synchronises
its peer before it validates. -/
def synchronised : List InstallEvent :=
  [.transferReady, .transferProgress 4096, .syncProgress 42, .validated "17.15.1"]

/-- The content was transferred, and every run refuses the install because it
was not. -/
theorem transfer_unproven_by_sync :
    Evidence streamed false synchronised "17.15.1" ∧
      (∃ es, Decides streamed false true 4096 synchronised es
        (.refused "ImageContentNotTransferred")) ∧
      ∀ es verdict version, Decides streamed false true 4096 synchronised es verdict →
        verdict ≠ .accepted version := by
  have hevidence : Evidence streamed false synchronised "17.15.1" :=
    ⟨by simp [synchronised], rfl, by decide, by decide, .inl (by simp [synchronised])⟩
  refine ⟨hevidence, ⟨[⟨.get, .failed⟩, ⟨.get, .failed⟩, ⟨.now, 5⟩, ⟨.get, .failed⟩],
    [⟨.get, .failed⟩, ⟨.get, .failed⟩], _, streamed, true, 5, [⟨.get, .failed⟩], rfl,
    .call _ (.call _ (.done _)), rfl, .call _ (.done _)⟩, ?_⟩
  intro es verdict version hdecides haccepted
  obtain ⟨-, ⟨h, -⟩ | h, -⟩ := (hdecides.accepted_iff version).mp haccepted
  · cases h
  · exact h ⟨[.transferReady, .transferProgress 4096], 42, [.validated "17.15.1"], rfl, by simp⟩

end Sample

end VirtualKubelet.SoftwareUpgrade
