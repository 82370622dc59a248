import VirtualKubelet.Proofs.AppSteps
import VirtualKubelet.Drivers.Nxos.Deletion

/-!
# What a successful deletion has seen

Both drivers end a deletion by removing the configuration of an app they take
for gone. On IOS-XE an unreadable state is an error, so an app is taken for gone
only where the operational data lacks it; what can mislead the driver is the
text of a failed removal, and a target that another one displaces. On NX-OS any
failed read counts as absence, and so does a text that shows an app without its
state.
-/

namespace VirtualKubelet.Drivers.Iosxe

open Go Program
open List hiding contains next range

variable {appID : String} {es : List (Event Request Reply)}

/-! ## One app on IOS-XE -/

/-- The operational data lacked the app, and the driver was content with the
answer to the removal of its configuration. -/
structure Removed (appID : String) (es : List (Event Request Reply)) : Prop where
  absent : ∃ oper, ⟨.operData, .ok oper⟩ ∈ es ∧ oper.find appID = none
  config : ∃ r, ⟨.deleteConfig appID, r⟩ ∈ es ∧
    (r = .ok () ∨ ∃ err, r = .error err ∧ configAlreadyAbsent err = true)

theorem Removed.mono (h : Removed appID es) (hsub : es ⊆ es') :
    Removed appID es' where
  absent := h.absent.imp fun _ h => ⟨hsub h.1, h.2⟩
  config := h.config.imp fun _ h => ⟨hsub h.1, h.2⟩

theorem observe_absent {oper : OperData} (h : (oper.observe appID).present = false) :
    oper.find appID = none := by
  unfold OperData.observe at h
  split at h
  · assumption
  · cases h

/-- A pass that ends the deletion has seen the app absent in the same pass. -/
theorem reconcileApp_deleted (h : Runs (reconcileApp false appID "" .deleted status) es status')
    (hbefore : status.phase ≠ .deleted) (hdeleted : status'.phase = .deleted) :
    Removed appID es := by
  obtain ⟨r, rest, rfl, ⟨-, -, hphase, -⟩ | ⟨-, hacts⟩⟩ := reconcileApp_step h
  · exact absurd (hphase ▸ hdeleted) hbefore
  obtain ⟨habsent, answer, hmem, hanswer⟩ := hacts.deleted hdeleted
  have hvalid := (hacts.permitted _ (mem_filter.mpr ⟨hmem, rfl⟩)).1
  cases r with
  | error err => cases hvalid
  | ok oper =>
    exact
      { absent := ⟨oper, mem_cons_self, observe_absent habsent⟩
        config := ⟨answer, mem_cons_of_mem _ hmem, hanswer⟩ }

theorem deletePasses_ok (h : Runs (deletePasses appID n status) es (.ok ()))
    (hbefore : status.phase ≠ .deleted) : Removed appID es := by
  induction n generalizing status es with
  | zero =>
    obtain ⟨-, h⟩ := runs_pure.mp h
    cases h
  | succ n ih =>
    obtain ⟨status', first, second, hpass, hrest, rfl⟩ := runs_bind.mp h
    split at hrest
    · rename_i hdeleted
      exact (reconcileApp_deleted hpass hbefore hdeleted).mono (subset_append_left _ _)
    next hdeleted =>
    split at hrest
    · obtain ⟨-, hrest⟩ := runs_pure.mp hrest
      cases hrest
    obtain ⟨cancelled, wait, last, -, hlast, rfl⟩ := runs_bind.mp hrest
    split at hlast
    · obtain ⟨-, hlast⟩ := runs_pure.mp hlast
      cases hlast
    · refine (ih hlast hdeleted).mono ?_
      intro e hmem
      exact mem_append_right _ (mem_append_right _ hmem)

theorem deleteApp_ok (h : Runs (deleteApp appID) es (.ok ())) : Removed appID es :=
  deletePasses_ok h nofun

/-! ## The targets on IOS-XE -/

theorem deleteApps_ok (h : Runs (deleteApps targets) es []) : ∀ c ∈ targets, Removed c.2 es := by
  induction targets generalizing es with
  | nil =>
    intro c hmem
    cases hmem
  | cons target targets ih =>
    obtain ⟨outcome, first, second, hdelete, hrest, rfl⟩ := runs_bind.mp h
    cases outcome with
    | error err =>
      obtain ⟨errors, middle, last, -, hlast, -⟩ := runs_bind.mp hrest
      obtain ⟨-, hlast⟩ := runs_pure.mp hlast
      cases hlast
    | ok =>
      exact forall_mem_cons.mpr ⟨(deleteApp_ok hdelete).mono (subset_append_left _ _),
        fun c hmem => (ih hrest c hmem).mono (subset_append_right _ _)⟩

theorem deleteTargets_ok (h : Runs (deleteTargets targets) es (.ok ()))
    (hfind : targets.find container = some appID) : Removed appID es := by
  obtain ⟨order, first, second, -, hrest, rfl⟩ := runs_bind.mp h
  obtain ⟨errors, deleted, last, hdeleted, hlast, rfl⟩ := runs_bind.mp hrest
  have hnone : errors = [] := by
    split at hlast
    · assumption
    · obtain ⟨-, hlast⟩ := runs_pure.mp hlast
      cases hlast
  subst hnone
  refine (deleteApps_ok hdeleted ⟨container, appID⟩ (order.mem_iff.mpr hfind)).mono ?_
  intro e hmem
  exact mem_append_right _ (mem_append_left _ hmem)

/-- The app was found under the name of a container whose own app was not
found, and so loses its place among the targets. -/
def Displaced (pod : Pod) (found : Go.Map String) (appID : String) : Prop :=
  ∃ container own, found.find container = some appID ∧ pod.appIDs.find container = some own ∧
    ∀ container', found.find container' ≠ some own

/-- The app of a container takes the container's place among the targets: it was
not found, and it comes before any other of its name. -/
def Takes (found : Go.Map String) (order : List (Sigma fun _ : String => String))
    (container own : String) : Prop :=
  (∀ container', found.find container' ≠ some own) ∧
    order.find? (fun c => c.2 == own) = some ⟨container, own⟩

variable {found : Go.Map String} {handled : List (Sigma fun _ : String => String)} {t : Targets}
  {c : Sigma fun _ : String => String} {pod : Pod} {container own : String}

theorem takes_append : Takes found (handled ++ [c]) container own ↔
    Takes found handled container own ∨
      (∀ container', found.find container' ≠ some own) ∧ (∀ c' ∈ handled, c'.2 ≠ own) ∧
        c = ⟨container, own⟩ := by
  rw [Takes, Takes, ← and_or_left, List.find?_append, Option.or_eq_some_iff, List.find?_eq_none,
    List.find?_singleton]
  refine and_congr_right fun _ => or_congr_right (and_congr (by simp) ?_)
  constructor
  · intro h
    split at h
    · exact Option.some.inj h
    · cases h
  · rintro rfl
    simp

/-- What the loop over the generated apps has established after some of them. -/
structure Placed (found : Go.Map String) (handled : List (Sigma fun _ : String => String))
    (t : Targets) : Prop where
  seen : ∀ appID, appID ∈ t.seenAppIDs ↔
    (∃ container, found.find container = some appID) ∨ ∃ c ∈ handled, c.2 = appID
  find : ∀ container appID, t.targets.find container = some appID ↔
    Takes found handled container appID ∨
      found.find container = some appID ∧ ∀ own, ¬ Takes found handled container own

theorem mem_values :
    appID ∈ found.entries.map Sigma.snd ↔ ∃ container, found.find container = some appID := by
  rw [Multiset.mem_map]
  constructor
  · rintro ⟨⟨container, appID'⟩, hmem, rfl⟩
    exact ⟨container, Map.mem_entries.mpr hmem⟩
  · rintro ⟨container, hfind⟩
    exact ⟨⟨container, appID⟩, Map.mem_entries.mp hfind, rfl⟩

theorem placed_nil : Placed found [] ⟨found, found.entries.map Sigma.snd⟩ where
  seen appID := by
    rw [mem_values]
    simp
  find container appID := by simp [Takes]

theorem Targets.mem_add :
    appID ∈ (t.add c).seenAppIDs ↔ appID ∈ t.seenAppIDs ∨ c.2 = appID := by
  unfold Targets.add
  split
  · rename_i hseen
    refine ⟨.inl, ?_⟩
    rintro (hmem | rfl)
    · exact hmem
    · exact hseen
  · rw [Multiset.mem_cons, or_comm, eq_comm]

theorem Targets.find_add : (t.add c).targets.find container =
    if container = c.1 ∧ c.2 ∉ t.seenAppIDs then some c.2 else t.targets.find container := by
  unfold Targets.add
  by_cases hseen : c.2 ∈ t.seenAppIDs
  · simp [hseen]
  · by_cases hcontainer : container = c.1
    · subst hcontainer
      simp [hseen]
    · simp [hseen, hcontainer, Map.find_set_ne hcontainer]

theorem placed_add (h : Placed found handled t) (hnew : c.1 ∉ handled.map Sigma.fst) :
    Placed found (handled ++ [c]) (t.add c) where
  seen appID := by
    rw [Targets.mem_add, h.seen]
    simp [or_and_right, exists_or, or_assoc]
  find container appID := by
    have hunseen : c.2 ∉ t.seenAppIDs ↔
        (∀ container', found.find container' ≠ some c.2) ∧ ∀ c' ∈ handled, c'.2 ≠ c.2 := by
      rw [h.seen]
      simp only [not_or, not_exists, not_and, ne_eq]
    have htakes : ∀ own, Takes found (handled ++ [c]) container own ↔
        Takes found handled container own ∨ c.2 ∉ t.seenAppIDs ∧ c = ⟨container, own⟩ := by
      intro own
      rw [takes_append]
      refine or_congr_right ⟨?_, ?_⟩
      · rintro ⟨hfound, hhandled, rfl⟩
        exact ⟨hunseen.mpr ⟨hfound, hhandled⟩, rfl⟩
      · rintro ⟨hseen, rfl⟩
        exact ⟨(hunseen.mp hseen).1, (hunseen.mp hseen).2, rfl⟩
    rw [Targets.find_add]
    split
    · rename_i hplaced
      -- the container has no app of its own before this one
      obtain ⟨rfl, hseen⟩ := hplaced
      have hfirst : ∀ own, ¬ Takes found handled c.1 own := by
        intro own hown
        exact hnew (mem_map.mpr ⟨_, mem_of_find?_eq_some hown.2, rfl⟩)
      have hown : ∀ own, Takes found (handled ++ [c]) c.1 own ↔ c.2 = own := by
        intro own
        rw [htakes, or_iff_right (hfirst own), and_iff_right hseen]
        exact ⟨fun h => congrArg Sigma.snd h, fun h => by rw [← h]⟩
      rw [hown, Option.some.injEq]
      refine ⟨.inl, ?_⟩
      rintro (heq | ⟨-, hnone⟩)
      · exact heq
      · exact absurd ((hown c.2).mpr rfl) (hnone c.2)
    · rename_i hkept
      have hsame : ∀ own, Takes found (handled ++ [c]) container own ↔
          Takes found handled container own := by
        intro own
        rw [htakes, or_iff_left]
        rintro ⟨hseen, rfl⟩
        exact hkept ⟨rfl, hseen⟩
      simp only [hsame, h.find]

theorem placed_all (h : Placed found handled t) (hnodup : ((handled ++ rest).map Sigma.fst).Nodup) :
    Placed found (handled ++ rest) (rest.foldl Targets.add t) := by
  induction rest generalizing handled t with
  | nil =>
    rw [append_nil]
    exact h
  | cons c rest ih =>
    have hnew : c.1 ∉ handled.map Sigma.fst := by
      rw [map_append, nodup_append] at hnodup
      intro hmem
      exact hnodup.2.2 c.1 hmem c.1 mem_cons_self rfl
    rw [append_cons] at hnodup ⊢
    exact ih (placed_add h hnew) hnodup

theorem targets_find (generated : Enumeration pod.appIDs) :
    (podDeletionTargets generated.entries found).find container = some appID ↔
      Takes found generated.entries container appID ∨
        found.find container = some appID ∧ ∀ own, ¬ Takes found generated.entries container own :=
  (placed_all placed_nil generated.nodup_keys).find container appID

theorem takes_own (generated : Enumeration pod.appIDs) (hown : pod.appIDs.find container = some own)
    (hnew : ∀ container', found.find container' ≠ some own) :
    ∃ container', Takes found generated.entries container' own := by
  have hsome : (generated.entries.find? fun c => c.2 == own).isSome := by
    rw [List.find?_isSome]
    exact ⟨⟨container, own⟩, generated.mem_iff.mpr hown, by simp⟩
  obtain ⟨⟨container', own'⟩, hfirst⟩ := Option.isSome_iff_exists.mp hsome
  obtain rfl : own' = own := by simpa using List.find?_some hfirst
  exact ⟨container', hnew, hfirst⟩

theorem target_of_not_displaced (generated : Enumeration pod.appIDs)
    (hfind : pod.appIDs.find container = some appID) (h : ¬ Displaced pod found appID) :
    ∃ container', (podDeletionTargets generated.entries found).find container' = some appID := by
  simp only [targets_find]
  by_cases hfound : ∃ container', found.find container' = some appID
  · obtain ⟨container', hfound⟩ := hfound
    refine ⟨container', .inr ⟨hfound, fun own htakes => ?_⟩⟩
    exact h ⟨container', own, hfound,
      generated.mem_iff.mp (mem_of_find?_eq_some htakes.2), htakes.1⟩
  · obtain ⟨container', htakes⟩ := takes_own generated hfind fun container' h => hfound ⟨container', h⟩
    exact ⟨container', .inl htakes⟩

/-- Apps a deletion of the Pod has to tear down: those found for it, and those of
its containers. -/
def Owed (pod : Pod) (found : Go.Map String) (appID : String) : Prop :=
  (∃ container, found.find container = some appID) ∨
    ∃ c ∈ pod.containers, pod.appIDs.find c.name = some appID

/-- Every app found has a place that no app takes. -/
def AllKept (found : Go.Map String) (order : List (Sigma fun _ : String => String)) : Prop :=
  ∀ container appID, found.find container = some appID →
    ∃ container', found.find container' = some appID ∧ ∀ own, ¬ Takes found order container' own

theorem targets_complete_iff (generated : Enumeration pod.appIDs) :
    (∀ appID, Owed pod found appID →
      ∃ container, (podDeletionTargets generated.entries found).find container = some appID) ↔
      AllKept found generated.entries := by
  simp only [targets_find]
  constructor
  · intro hall container appID hfound
    obtain ⟨container', htakes | hkept⟩ := hall appID (.inl ⟨container, hfound⟩)
    · exact absurd hfound (htakes.1 container)
    · exact ⟨container', hkept⟩
  intro hkept appID howed
  by_cases hfound : ∃ container, found.find container = some appID
  · obtain ⟨container, hfound⟩ := hfound
    obtain ⟨container', hplace⟩ := hkept container appID hfound
    exact ⟨container', .inr hplace⟩
  · obtain ⟨c, -, hown⟩ := howed.resolve_left hfound
    obtain ⟨container', htakes⟩ := takes_own generated hown fun container' h => hfound ⟨container', h⟩
    exact ⟨container', .inl htakes⟩

/-- A successful deletion discovers, ranges over the Pod's own apps, and removes
the targets. -/
theorem deletePod_ok (h : Runs (deletePod pod) es (.ok ())) :
    ∃ found err listing, ∃ generated : Enumeration pod.appIDs, ∃ rest,
      es = listing ++ ⟨.range pod.appIDs, generated⟩ :: rest ∧
      Runs (getPodContainers pod) listing (found, err) ∧ ∀ container appID,
        (podDeletionTargets generated.entries found).find container = some appID →
          Removed appID es := by
  obtain ⟨targets, first, second, htargets, hdelete, rfl⟩ := runs_bind.mp h
  obtain ⟨⟨found, err⟩, listing, rest, hfound, hrest, rfl⟩ := runs_bind.mp htargets
  obtain ⟨generated, range, last, hrange, hlast, rfl⟩ := runs_bind.mp hrest
  obtain ⟨rfl, rfl⟩ := runs_pure.mp hlast
  obtain rfl := runs_request.mp hrange
  refine ⟨found, err, listing, generated, second, by simp, hfound, fun container appID htarget => ?_⟩
  exact (deleteTargets_ok hdelete htarget).mono (subset_append_right _ _)

end VirtualKubelet.Drivers.Iosxe

namespace VirtualKubelet.Drivers.Nxos

open Go Program
open Drivers.Iosxe (Pod Timeout)

variable {appID : String} {es : List (Event Request Reply)}

/-! ## One app on NX-OS -/

def ShowsGone (appID out : String) : Prop :=
  let app := parseAppDetail out
  app.id = "" ∧ app.state = "" ∨ (app.id = "" ∨ app.id = appID) ∧ app.state = "UNINSTALLED"

/-- The read succeeded, and if its text shows an app at all, it is the right one
with its state. -/
def Legible (appID : String) (r : Except String String) : Prop :=
  ∃ out, r = .ok out ∧ ((parseAppDetail out).id = "" ∨
    (parseAppDetail out).id = appID ∧ (parseAppDetail out).state ≠ "")

/-- Every read of the app in the run is legible. -/
def LegibleReads (appID : String) (es : List (Event Request Reply)) : Prop :=
  ∀ r, (⟨.show (detailCommand appID), r⟩ : Event Request Reply) ∈ es → Legible appID r

theorem LegibleReads.mono (h : LegibleReads appID es') (hsub : es ⊆ es') : LegibleReads appID es :=
  fun r hmem => h r (hsub hmem)

/-- A successful read showed the app gone, and its configuration was removed. -/
structure Removed (appID : String) (es : List (Event Request Reply)) : Prop where
  absent : ∃ out, ⟨.show (detailCommand appID), .ok out⟩ ∈ es ∧ ShowsGone appID out
  config : ⟨.conf (removeCommands appID), .ok ()⟩ ∈ es

theorem Removed.mono (h : Removed appID es) (hsub : es ⊆ es') :
    Removed appID es' where
  absent := h.absent.imp fun _ h => ⟨hsub h.1, h.2⟩
  config := hsub h.config

theorem showsGone_of_state (hlegible : (parseAppDetail out).id = "" ∨
      (parseAppDetail out).id = appID ∧ (parseAppDetail out).state ≠ "")
    (hgone : (parseAppDetail out).state = "" ∨ (parseAppDetail out).state = "UNINSTALLED") :
    ShowsGone appID out := by
  rcases hgone with hempty | huninstalled
  · rcases hlegible with hid | ⟨-, hstate⟩
    · exact .inl ⟨hid, hempty⟩
    · exact absurd hempty hstate
  · exact .inr ⟨hlegible.imp_right And.left, huninstalled⟩

section

variable (hvalid : validateAppID appID = .ok ())
include hvalid

theorem appState_gone (h : Runs (appState appID) es state) (hgone : takenForGone state = true)
    (hlegible : LegibleReads appID es) :
    ∃ out, ⟨.show (detailCommand appID), .ok out⟩ ∈ es ∧ ShowsGone appID out := by
  obtain ⟨app, first, second, hdetail, hstate, rfl⟩ := runs_bind.mp h
  obtain ⟨rfl, rfl⟩ := runs_pure.mp hstate
  unfold appDetail at hdetail
  rw [hvalid] at hdetail
  obtain ⟨r, last, hlast, rfl⟩ := runs_ask.mp hdetail
  obtain ⟨out, rfl, hid⟩ := hlegible r (by simp)
  obtain ⟨-, rfl⟩ := runs_pure.mp hlast
  refine ⟨out, by simp, showsGone_of_state hid ?_⟩
  unfold appInDetail at hgone
  dsimp only at hgone
  split at hgone
  · simpa [takenForGone, Except.map] using hgone
  · rename_i hsome
    have heq := (hid.resolve_left hsome).1
    rw [heq, hvalid, if_pos (by simp [Except.isOk, Except.toBool])] at hgone
    simpa [takenForGone, Except.map] using hgone

theorem finish_ok (h : Runs (finish appID context) es (.ok ())) :
    ⟨.conf (removeCommands appID), .ok ()⟩ ∈ es := by
  obtain ⟨removed, first, second, hremove, hrest, rfl⟩ := runs_bind.mp h
  obtain ⟨rfl, hok⟩ := runs_pure.mp hrest
  unfold removeAppConfig at hremove
  rw [hvalid] at hremove
  obtain rfl := runs_request.mp hremove
  cases removed with
  | error err => cases hok
  | ok => simp

theorem removed_of_gone (hstate : Runs (appState appID) first state)
    (hgone : takenForGone state = true) (hfinish : Runs (finish appID context) second (.ok ()))
    (hlegible : LegibleReads appID (first ++ second)) : Removed appID (first ++ second) := by
  obtain ⟨out, hmem, hshows⟩ := appState_gone hvalid hstate hgone
    (hlegible.mono (List.subset_append_left _ _))
  exact
    { absent := ⟨out, List.mem_append_left _ hmem, hshows⟩
      config := List.mem_append_right _ (finish_ok hvalid hfinish) }

theorem finalCheck_ok (h : Runs (finalCheck appID timeout lastErr) es (.ok ()))
    (hlegible : LegibleReads appID es) : Removed appID es := by
  obtain ⟨state, first, second, hstate, hrest, rfl⟩ := runs_bind.mp h
  split at hrest
  · next hgone => exact removed_of_gone hvalid hstate hgone hrest hlegible
  · obtain ⟨-, hrest⟩ := runs_pure.mp hrest
    cases hrest

theorem deleteRounds_ok (h : Runs (deleteRounds appID timeout n lastErr) es (.ok ()))
    (hlegible : LegibleReads appID es) : Removed appID es := by
  induction n generalizing lastErr es with
  | zero =>
    obtain ⟨state, first, second, hstate, hrest, rfl⟩ := runs_bind.mp h
    split at hrest
    · next hgone => exact removed_of_gone hvalid hstate hgone hrest hlegible
    obtain ⟨lastErr', advanced, last, -, hlast, rfl⟩ := runs_bind.mp hrest
    have hsub : last ⊆ first ++ (advanced ++ last) := by
      intro e hmem
      exact List.mem_append_right _ (List.mem_append_right _ hmem)
    exact (finalCheck_ok hvalid hlast (hlegible.mono hsub)).mono hsub
  | succ n ih =>
    obtain ⟨state, first, second, hstate, hrest, rfl⟩ := runs_bind.mp h
    split at hrest
    · next hgone => exact removed_of_gone hvalid hstate hgone hrest hlegible
    obtain ⟨lastErr', advanced, second, -, hdeadline, rfl⟩ := runs_bind.mp hrest
    obtain ⟨past, asked, third, -, hthird, rfl⟩ := runs_bind.mp hdeadline
    split at hthird
    · have hsub : third ⊆ first ++ (advanced ++ (asked ++ third)) := by
        intro e hmem
        simp [hmem]
      exact (finalCheck_ok hvalid hthird (hlegible.mono hsub)).mono hsub
    obtain ⟨cancelled, waited, last, -, hlast, rfl⟩ := runs_bind.mp hthird
    have hsub : last ⊆ first ++ (advanced ++ (asked ++ (waited ++ last))) := by
      intro e hmem
      simp [hmem]
    cases cancelled with
    | some err =>
      obtain ⟨-, hlast⟩ := runs_pure.mp hlast
      cases hlast
    | none => exact (ih hlast (hlegible.mono hsub)).mono hsub

end

theorem deleteApp_ok (h : Runs (deleteApp appID timeout) es (.ok ()))
    (hlegible : LegibleReads appID es) : Removed appID es := by
  unfold deleteApp at h
  split at h
  · obtain ⟨-, h⟩ := runs_pure.mp h
    cases h
  · next hvalid => exact deleteRounds_ok hvalid h hlegible

theorem deleteApps_ok (h : Runs (deleteApps timeout targets) es []) :
    ∀ c ∈ targets, LegibleReads c.2 es → Removed c.2 es := by
  induction targets generalizing es with
  | nil =>
    intro c hmem
    cases hmem
  | cons target targets ih =>
    obtain ⟨outcome, first, second, hdelete, hrest, rfl⟩ := runs_bind.mp h
    cases outcome with
    | error err =>
      obtain ⟨errors, middle, last, -, hlast, -⟩ := runs_bind.mp hrest
      obtain ⟨-, hlast⟩ := runs_pure.mp hlast
      cases hlast
    | ok =>
      intro c hmem hlegible
      rcases List.mem_cons.mp hmem with rfl | hmem
      · have hsub := List.subset_append_left first second
        exact (deleteApp_ok hdelete (hlegible.mono hsub)).mono hsub
      · have hsub := List.subset_append_right first second
        exact (ih hrest c hmem (hlegible.mono hsub)).mono hsub

theorem deletePod_ok (h : Runs (deletePod pod timeout) es (.ok ()))
    (hfind : pod.appIDs.find container = some appID) (hlegible : LegibleReads appID es) :
    Removed appID es := by
  obtain ⟨order, first, second, -, hrest, rfl⟩ := runs_bind.mp h
  obtain ⟨errors, deleted, last, hdeleted, hlast, rfl⟩ := runs_bind.mp hrest
  have hnone : errors = [] := by
    split at hlast
    · assumption
    · obtain ⟨-, hlast⟩ := runs_pure.mp hlast
      cases hlast
  subst hnone
  have hsub : deleted ⊆ first ++ (deleted ++ last) := by
    intro e hmem
    exact List.mem_append_right _ (List.mem_append_left _ hmem)
  exact (deleteApps_ok hdeleted ⟨container, appID⟩ (order.mem_iff.mpr hfind)
    (hlegible.mono hsub)).mono hsub

end VirtualKubelet.Drivers.Nxos

namespace VirtualKubelet.Drivers

open Go Program
open Drivers.Iosxe (Pod Timeout usualPod usualApp usualGenerated webPod)

/-! ## Samples -/

def sampleTimeout : Timeout := ⟨1, "5s"⟩

/-- The text of a transport error quotes the address, and so the name of the app. -/
def refusedConnection : Iosxe.ClientError where
  text := "Delete \"https://192.0.2.7/app=cvk0000_2c1d404e55aa4b7c9e310f6a7b8c9d10\": refused"
  ambiguous := true

/-- A Pod whose UID has 404 among its digits. -/
def unluckyPod : Pod := webPod "2c1d404e-55aa-4b7c-9e31-0f6a7b8c9d10"

def unluckyApp : String := "cvk0000_2c1d404e55aa4b7c9e310f6a7b8c9d10"

def unluckyGenerated : Enumeration unluckyPod.appIDs where
  entries := [⟨"app", unluckyApp⟩]
  complete := by decide +kernel

def unluckyOrder : Enumeration (Iosxe.podDeletionTargets unluckyGenerated.entries
    (Iosxe.discovered unluckyPod []).1) where
  entries := [⟨"app", unluckyApp⟩]
  complete := by decide +kernel

/-- The device cannot be reached for the removal of the configuration. -/
def unluckyRun : List (Event Iosxe.Request Iosxe.Reply) :=
  [⟨.listApps, .ok []⟩, ⟨.operData, .ok Iosxe.OperData.empty⟩, ⟨.range _, unluckyGenerated⟩,
    ⟨.range _, unluckyOrder⟩, ⟨.operData, .ok Iosxe.OperData.empty⟩,
    ⟨.deleteConfig unluckyApp, .error refusedConnection⟩]

/-- A Pod with a container whose name is the one discovery makes up for the
other. -/
def twoPod : Pod :=
  { «namespace» := "default", name := "web", uid := "2c1d8f0e-55aa-4b7c-9e31-0f6a7b8c9d10"
    containers := [{ name := "container-1" }, { name := "db" }] }

def dbApp : String := "cvk0001_2c1d8f0e55aa4b7c9e310f6a7b8c9d10"

def twoGenerated : Enumeration twoPod.appIDs where
  entries := [⟨"container-1", usualApp⟩, ⟨"db", dbApp⟩]
  complete := by decide +kernel

def twoOrder : Enumeration (Iosxe.podDeletionTargets twoGenerated.entries
    (Iosxe.discovered twoPod [some { applicationName := some dbApp }]).1) where
  entries := [⟨"container-1", usualApp⟩]
  complete := by decide +kernel

/-- The second app runs on and is never looked at. -/
def twoRun : List (Event Iosxe.Request Iosxe.Reply) :=
  [⟨.listApps, .ok [some { applicationName := some dbApp }]⟩, ⟨.range _, twoGenerated⟩] ++
    [⟨.range _, twoOrder⟩, ⟨.operData, .ok (Iosxe.runningOper dbApp)⟩,
      ⟨.deleteConfig usualApp, .ok ()⟩]

/-- An NX-OS device that answers the one read of the app with `r`. -/
def nxosRun (r : Except String String) : List (Event Nxos.Request Nxos.Reply) :=
  [⟨.range _, usualGenerated⟩, ⟨.show (Nxos.detailCommand usualApp), r⟩,
    ⟨.conf (Nxos.removeCommands usualApp), .ok ()⟩]

/-! ## Evidence -/

/-- The operational data lacked the app, and the removal of its configuration
succeeded or was answered with status 404. -/
structure Iosxe.Evidence (appID : String) (es : List (Event Iosxe.Request Iosxe.Reply)) : Prop where
  absent : ∃ oper, ⟨.operData, .ok oper⟩ ∈ es ∧ oper.find appID = none
  config : ∃ r, ⟨.deleteConfig appID, r⟩ ∈ es ∧
    (r = .ok () ∨ ∃ err, r = .error err ∧ err.status = some 404)

/-- The text of a failed removal mentions 404 only if that is its status. -/
def Iosxe.HonestErrors (appID : String) (es : List (Event Iosxe.Request Iosxe.Reply)) : Prop :=
  ∀ err, (⟨.deleteConfig appID, .error err⟩ : Event Iosxe.Request Iosxe.Reply) ∈ es →
    contains err.text "404" → err.status = some 404

theorem Iosxe.Removed.evidence (h : Iosxe.Removed appID es) (hhonest : Iosxe.HonestErrors appID es) :
    Iosxe.Evidence appID es where
  absent := h.absent
  config := by
    obtain ⟨r, hmem, rfl | ⟨err, rfl, habsent⟩⟩ := h.config
    · exact ⟨_, hmem, .inl rfl⟩
    · refine ⟨_, hmem, .inr ⟨err, rfl, ?_⟩⟩
      unfold Iosxe.configAlreadyAbsent Iosxe.ClientError.isStatus at habsent
      rw [Bool.or_eq_true, decide_eq_true_eq] at habsent
      exact habsent.elim id (hhonest err hmem)

/-- Every successful deletion on IOS-XE begins with a discovery. For each app of
the Pod that is not displaced by what was found, and whose failed removals
mention 404 only where it is their status, the run has the evidence. On NX-OS
every successful deletion has it for each app of the Pod whose reads were all
legible. -/
theorem pod_deletion_evidence (pod : Pod) :
    (∀ es : List (Event Iosxe.Request Iosxe.Reply),
      Runs (Iosxe.deletePod pod) es (.ok ()) →
      ∃ found err listing rest, es = listing ++ rest ∧
        Runs (Iosxe.getPodContainers pod) listing (found, err) ∧
        ∀ container appID, pod.appIDs.find container = some appID →
          ¬ Iosxe.Displaced pod found appID → Iosxe.HonestErrors appID es →
          Iosxe.Evidence appID es) ∧
    ∀ (timeout : Timeout) (es : List (Event Nxos.Request Nxos.Reply)),
      Runs (Nxos.deletePod pod timeout) es (.ok ()) →
      ∀ container appID, pod.appIDs.find container = some appID →
        Nxos.LegibleReads appID es → Nxos.Removed appID es := by
  constructor
  · intro es h
    obtain ⟨found, err, listing, generated, rest, rfl, hfound, hremoved⟩ := Iosxe.deletePod_ok h
    refine ⟨found, err, listing, _, rfl, hfound, ?_⟩
    intro container appID hfind hdisplaced hhonest
    obtain ⟨container', htarget⟩ := Iosxe.target_of_not_displaced generated hfind hdisplaced
    exact (hremoved container' appID htarget).evidence hhonest
  · intro timeout es h container appID hfind hlegible
    exact Nxos.deletePod_ok h hfind hlegible

theorem bareDevice_found (h : Runs (Iosxe.getPodContainers usualPod) listing (found, err))
    (hes : Iosxe.bareDevice = listing ++ rest) : found = ∅ := by
  have hnothing : Runs (Iosxe.getPodContainers usualPod)
      [⟨.listApps, .ok []⟩, ⟨.operData, .ok Iosxe.OperData.empty⟩]
      (Iosxe.discovered usualPod []) := .call _ (.call _ (.done _))
  obtain ⟨-, heq⟩ := h.unique hnothing hes.symm
  exact congrArg Prod.fst heq

theorem bare_devices_deleted :
    Iosxe.Evidence usualApp Iosxe.bareDevice ∧ Nxos.Removed usualApp (nxosRun (.ok "")) := by
  have hfind : usualPod.appIDs.find "app" = some usualApp := by decide +kernel
  constructor
  · obtain ⟨found, err, listing, rest, hes, hfound, hevidence⟩ :=
      (pod_deletion_evidence usualPod).1 Iosxe.bareDevice Iosxe.runs_bareDevice
    refine hevidence "app" usualApp hfind ?_ ?_
    · rintro ⟨container, own, hfind, -, -⟩
      rw [bareDevice_found hfound hes, Map.find_empty] at hfind
      cases hfind
    · intro err hmem
      simp [Iosxe.bareDevice] at hmem
  · refine (pod_deletion_evidence usualPod).2 sampleTimeout (nxosRun (.ok ""))
      (.call _ (.call _ (.call _ (.done _)))) "app" usualApp hfind ?_
    intro r hmem
    have hr : r = .ok "" := by simpa [nxosRun] using hmem
    exact ⟨"", hr, .inl (by decide +kernel)⟩

/-- Three successful deletions without evidence: a connection that is refused
for the removal of a configuration, where the error quotes a name with 404 in it;
an app that discovery files under the name of another container; and an NX-OS
read that fails. -/
theorem deleted_without_evidence :
    (Runs (Iosxe.deletePod unluckyPod) unluckyRun (.ok ()) ∧
      unluckyPod.appIDs.find "app" = some unluckyApp ∧ ¬ Iosxe.Evidence unluckyApp unluckyRun) ∧
    (Runs (Iosxe.deletePod twoPod) twoRun (.ok ()) ∧
      twoPod.appIDs.find "db" = some dbApp ∧ ¬ Iosxe.Evidence dbApp twoRun) ∧
    (Runs (Nxos.deletePod usualPod sampleTimeout) (nxosRun (.error "nxapi: EOF")) (.ok ()) ∧
      usualPod.appIDs.find "app" = some usualApp ∧
      ¬ Nxos.Removed usualApp (nxosRun (.error "nxapi: EOF"))) := by
  refine ⟨⟨?_, by decide +kernel, ?_⟩, ⟨?_, by decide +kernel, ?_⟩,
    ⟨.call _ (.call _ (.call _ (.done _))), by decide +kernel, ?_⟩⟩
  · exact .call _ (.call _ (.call _ (.call _ (.call _ (.call _ (.done _))))))
  · intro h
    obtain ⟨r, hmem, hr⟩ := h.config
    have hr' : r = .error refusedConnection := by simpa [unluckyRun] using hmem
    subst hr'
    simp [refusedConnection] at hr
  · have hlisted : ([some { applicationName := some dbApp }].any fun app =>
        (Iosxe.nameWithUID twoPod app).isSome) = true := by decide +kernel
    exact runs_bind.mpr ⟨_, _, [⟨.range _, twoOrder⟩, ⟨.operData, .ok (Iosxe.runningOper dbApp)⟩,
      ⟨.deleteConfig usualApp, .ok ()⟩], Iosxe.runs_deletionTargets twoGenerated hlisted,
      .call _ (.call _ (.call _ (.done _))), rfl⟩
  · intro h
    obtain ⟨r, hmem, -⟩ := h.config
    have hname : dbApp = usualApp ∧ r = .ok () := by simpa [twoRun] using hmem
    exact absurd hname.1 (by decide)
  · intro h
    obtain ⟨out, hmem, -⟩ := h.absent
    simp [nxosRun] at hmem

/-! ## Complete targets -/

/-- Whatever was found on the device and in whatever order the Pod's own apps are
visited, the targets have every app that is owed exactly where every app found
keeps a place. A deletion that succeeds has then torn down all that was owed. -/
theorem deletion_targets_complete_iff (pod : Pod) :
    (∀ (found : Go.Map String) (generated : Enumeration pod.appIDs),
      (∀ appID, Iosxe.Owed pod found appID → ∃ container,
        (Iosxe.podDeletionTargets generated.entries found).find container = some appID) ↔
        Iosxe.AllKept found generated.entries) ∧
    ∀ es : List (Event Iosxe.Request Iosxe.Reply), Runs (Iosxe.deletePod pod) es (.ok ()) →
      ∃ found err listing, ∃ generated : Enumeration pod.appIDs, ∃ rest,
        es = listing ++ ⟨.range pod.appIDs, generated⟩ :: rest ∧
        Runs (Iosxe.getPodContainers pod) listing (found, err) ∧
        (Iosxe.AllKept found generated.entries →
          ∀ appID, Iosxe.Owed pod found appID → Iosxe.Removed appID es) := by
  refine ⟨fun found generated => Iosxe.targets_complete_iff generated, fun es h => ?_⟩
  obtain ⟨found, err, listing, generated, rest, hes, hfound, hremoved⟩ := Iosxe.deletePod_ok h
  refine ⟨found, err, listing, generated, rest, hes, hfound, fun hkept appID howed => ?_⟩
  obtain ⟨container, htarget⟩ := (Iosxe.targets_complete_iff generated).mpr hkept appID howed
  exact hremoved container appID htarget

theorem bare_device_torn_down : Iosxe.Removed usualApp Iosxe.bareDevice := by
  obtain ⟨found, err, listing, generated, rest, hes, hfound, hremoved⟩ :=
    (deletion_targets_complete_iff usualPod).2 Iosxe.bareDevice Iosxe.runs_bareDevice
  obtain rfl := bareDevice_found hfound hes
  refine hremoved ?_ usualApp (.inr ⟨_, List.mem_cons_self, by decide +kernel⟩)
  intro container appID hfind
  rw [Map.find_empty] at hfind
  cases hfind

/-- The app of `db` is discovered, under the name of the other container, and is
not among the targets. -/
theorem discovered_app_displaced :
    (Iosxe.discovered twoPod [some { applicationName := some dbApp }]).1.find "container-1" =
        some dbApp ∧
      twoPod.appIDs.find "db" = some dbApp ∧
      ¬ ∃ container, (Iosxe.podDeletionTargets twoGenerated.entries
        (Iosxe.discovered twoPod [some { applicationName := some dbApp }]).1).find container =
          some dbApp := by
  refine ⟨by decide +kernel, by decide +kernel, ?_⟩
  rintro ⟨container, hfind⟩
  have hmem := twoOrder.mem_iff.mpr hfind
  simp [twoOrder, dbApp, usualApp] at hmem

end VirtualKubelet.Drivers
