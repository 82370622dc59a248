import VirtualKubelet.Drivers.Iosxe.Inventory
import VirtualKubelet.Go.Checks

/-!
# The strict inventory is exact

With `requireComplete` the grouping loop refuses every app it cannot place, and
it never puts an app in a slot that another app has. So each app handled so far
is where its name and its labels put it, and nothing else is in the groups:
that is the invariant `Grouped`, and the exactness of the result is read off it.
-/

namespace VirtualKubelet.Drivers.Iosxe

open Go
open List hiding next

variable {apps : List (Option App)} {oper : OperData} {app : App} {appName uid container : String}
  {groups : Go.Map PodDiscoveryInfo}

/-! ## Where an app belongs -/

def containerName (app : App) (index : Nat) : String :=
  if (podIdentityFromRunOpts app.lines).container = "" then "container-" ++ decimal index
  else (podIdentityFromRunOpts app.lines).container

def Encodes (appName uuid : String) : Prop :=
  ∃ index digits, parseCVKAppName appName = some (index, digits) ∧ canonicalUUID digits = some uuid

/-- The UID label of the app, if it has one, is the UID of the name. -/
def LabelAgrees (app : App) (digits : String) : Prop :=
  (podIdentityFromRunOpts app.lines).uid = "" ∨
    cleanUID (podIdentityFromRunOpts app.lines).uid = digits

/-- The slot of a named app: the UID of its Pod and the name of its container. -/
structure InSlot (listed : Option App) (appName uid container : String) : Prop where
  named : stableName listed = some appName
  slot : ∃ app index digits, listed = some app ∧ parseCVKAppName appName = some (index, digits) ∧
    canonicalUUID digits = some uid ∧ container = containerName app index

theorem inSlot_unique (h : InSlot listed appName uid container)
    (h' : InSlot listed appName' uid' container') :
    appName = appName' ∧ uid = uid' ∧ container = container' := by
  have hname := h.named.symm.trans h'.named
  obtain ⟨app, index, digits, rfl, hparse, huuid, rfl⟩ := h.slot
  obtain ⟨app', index', digits', happ, hparse', huuid', rfl⟩ := h'.slot
  cases hname
  cases happ
  rw [hparse] at hparse'
  cases hparse'
  rw [huuid] at huuid'
  cases huuid'
  exact ⟨rfl, rfl, rfl⟩

theorem encodes_of_inSlot (h : InSlot listed appName uid container) : Encodes appName uid := by
  obtain ⟨_, index, digits, _, hparse, huuid, _⟩ := h.slot
  exact ⟨index, digits, hparse, huuid⟩

theorem encodes_unique (h : Encodes appName uid) (h' : Encodes appName uid') : uid = uid' := by
  obtain ⟨index, digits, hparse, huuid⟩ := h
  obtain ⟨index', digits', hparse', huuid'⟩ := h'
  cases hparse.symm.trans hparse'
  exact Option.some.inj (huuid.symm.trans huuid')

theorem canonicalUUID_ne_empty (h : canonicalUUID digits = some uid) : uid ≠ "" := by
  rintro rfl
  simp only [canonicalUUID] at h
  split at h
  · have hlength := congrArg String.length (Option.some.inj h)
    simp only [String.length_append] at hlength
    have hdash : ("-" : String).length = 1 := rfl
    have hempty : ("" : String).length = 0 := rfl
    omega
  · cases h

/-! ## One round of the loop -/

theorem attributeApp_ok (h : attributeApp true app appName = .ok identity) :
    ∃ index digits uuid, parseCVKAppName appName = some (index, digits) ∧
      canonicalUUID digits = some uuid ∧ LabelAgrees app digits ∧
      identity = some ⟨"default", "cvk-" ++ digits, uuid, containerName app index⟩ := by
  simp only [attributeApp, Bool.true_and] at h
  cases hparse : parseCVKAppName appName with
  | none =>
    rw [hparse] at h
    cases h
  | some parsed =>
    obtain ⟨index, digits⟩ := parsed
    simp only [hparse, Option.isNone_some, Bool.false_eq_true, if_false, Option.map_some,
      Option.getD_some, if_true] at h
    cases huuid : canonicalUUID digits with
    | none =>
      rw [huuid] at h
      cases h
    | some uuid =>
      have hne := canonicalUUID_ne_empty huuid
      simp only [huuid] at h
      split at h
      · cases h
      next hagrees =>
        have hagrees : LabelAgrees app digits := by
          simp only [Bool.and_eq_true, decide_eq_true_eq, not_and, not_not] at hagrees
          rcases Decidable.em ((podIdentityFromRunOpts app.lines).uid = "") with huid | huid
          · exact .inl huid
          · exact .inr (hagrees huid)
        refine ⟨index, digits, uuid, rfl, huuid, hagrees, ?_⟩
        have hname : "cvk-" ++ digits ≠ "" := by
          intro hempty
          have hlength := congrArg String.length hempty
          rw [String.length_append] at hlength
          have hcvk : ("cvk-" : String).length = 4 := rfl
          have hzero : ("" : String).length = 0 := rfl
          omega
        simp only [hne, hname, decide_false, Bool.false_or, decide_eq_true_eq] at h
        rw [containerName]
        split at h
        · rename_i hcontainer
          rw [if_pos hcontainer]
          cases h
          rfl
        · rename_i hcontainer
          rw [if_neg hcontainer]
          cases h
          rfl

def slotOf (groups : Go.Map PodDiscoveryInfo) (uid container : String) : Option String :=
  (groups.find uid).bind fun group => group.containers.find container

theorem slotOf_find (hfind : groups.find uid = some group)
    (hat : group.containers.find container = some appName) :
    slotOf groups uid container = some appName := by
  rw [slotOf, hfind]
  exact hat

theorem addToGroup_ok (h : addToGroup true groups appName identity = .ok groups') :
    (∀ prior, slotOf groups identity.uid identity.container = some prior → prior = appName) ∧
    ∃ group, groups' = groups.set identity.uid group ∧
      ((groups.find identity.uid).all (·.uid = identity.uid) → group.uid = identity.uid) ∧
      ∀ container, group.containers.find container =
        if container = identity.container then some appName
        else slotOf groups identity.uid container := by
  simp only [addToGroup, Bool.true_and] at h
  generalize hgroup : groups.get ⟨identity.namespace, identity.name, identity.uid, ∅⟩
    identity.uid = group at h
  have hslot : ∀ container, group.containers.find container =
      slotOf groups identity.uid container := by
    intro container
    rw [slotOf, ← hgroup, Map.get]
    cases groups.find identity.uid with
    | none => exact Map.find_empty
    | some old => rfl
  split at h
  · cases h
  split at h
  · cases h
  next hfree =>
    cases h
    refine ⟨?_, _, rfl, ?_, ?_⟩
    · intro prior hprior
      rw [hslot, hprior, Option.any_some] at hfree
      simpa using hfree
    · intro hall
      show group.uid = identity.uid
      rw [← hgroup, Map.get]
      cases hfind : groups.find identity.uid with
      | none => rfl
      | some old =>
        rw [hfind] at hall
        simpa using hall
    · intro container
      rw [← hslot]
      show (group.containers.set identity.container appName).find container = _
      split
      · rename_i heq
        rw [heq]
        exact Map.find_set_self
      · next hne => exact Map.find_set_ne hne

/-! ## The loop -/

/-- The groups hold the apps handled so far, each in its slot, and nothing
else. -/
structure Grouped (handled : List (Option App)) (groups : Go.Map PodDiscoveryInfo) : Prop where
  keyed : ∀ uid group, groups.find uid = some group → group.uid = uid
  occupied : ∀ uid group, groups.find uid = some group →
    ∃ container appName, group.containers.find container = some appName
  placed : ∀ listed ∈ handled, ∃ appName uid container, InSlot listed appName uid container ∧
    slotOf groups uid container = some appName
  attributed : ∀ uid container appName, slotOf groups uid container = some appName →
    ∃ listed ∈ handled, InSlot listed appName uid container
  agrees : ∀ app ∈ handled, ∀ a, app = some a → ∀ appName index digits,
    stableName app = some appName → parseCVKAppName appName = some (index, digits) →
    LabelAgrees a digits

theorem grouped_nil : Grouped [] ∅ where
  keyed := fun _ _ h => by rw [Map.find_empty] at h; cases h
  occupied := fun _ _ h => by rw [Map.find_empty] at h; cases h
  placed := nofun
  attributed := fun _ _ _ h => by rw [slotOf, Map.find_empty] at h; cases h
  agrees := nofun

theorem slotOf_set :
    slotOf (groups.set uid group) uid' container =
      if uid' = uid then group.containers.find container else slotOf groups uid' container := by
  rw [slotOf, slotOf]
  split
  · rename_i heq
    rw [heq, Map.find_set_self]
    rfl
  · next hne => rw [Map.find_set_ne hne]

theorem grouped_step (hgrouped : Grouped handled groups)
    (h : groupApp true groups listed = .ok groups') : Grouped (handled ++ [listed]) groups' := by
  unfold groupApp at h
  split at h
  · rename_i app appName hname
    rw [bind_ok] at h
    obtain ⟨identity, hattribute, h⟩ := h
    obtain ⟨index, digits, uuid, hparse, huuid, hagrees, rfl⟩ := attributeApp_ok hattribute
    obtain ⟨hprior, group, rfl, huid, hcontainers⟩ := addToGroup_ok h
    simp only at hprior huid hcontainers
    have hslot : InSlot (some app) appName uuid (containerName app index) :=
      ⟨hname, app, index, digits, rfl, hparse, huuid, rfl⟩
    have hafter : ∀ uid container, slotOf (groups.set uuid group) uid container =
        if uid = uuid ∧ container = containerName app index then some appName
        else slotOf groups uid container := by
      intro uid container
      rw [slotOf_set]
      by_cases hu : uid = uuid
      · rw [if_pos hu, hcontainers, hu]
        simp
      · rw [if_neg hu, if_neg fun h => hu h.1]
    refine ⟨?_, ?_, ?_, ?_, ?_⟩
    · intro uid group' hfind
      rcases Map.find_set_iff.mp hfind with ⟨rfl, rfl⟩ | ⟨_, hfind⟩
      · refine huid ?_
        cases hold : groups.find uid with
        | none => rfl
        | some old => simpa using hgrouped.keyed uid old hold
      · exact hgrouped.keyed uid group' hfind
    · intro uid group' hfind
      rcases Map.find_set_iff.mp hfind with ⟨rfl, rfl⟩ | ⟨_, hfind⟩
      · exact ⟨containerName app index, appName, by rw [hcontainers, if_pos rfl]⟩
      · exact hgrouped.occupied uid group' hfind
    · intro listed hlisted
      rcases mem_append.mp hlisted with hold | hnew
      · obtain ⟨appName', uid, container, hin, hat⟩ := hgrouped.placed listed hold
        refine ⟨appName', uid, container, hin, ?_⟩
        rw [hafter]
        split
        · rename_i heq
          -- The slot is taken again only for the app that has it.
          rw [heq.1, heq.2] at hat
          rw [hprior appName' hat]
        · exact hat
      · rw [mem_singleton.mp hnew]
        exact ⟨appName, uuid, containerName app index, hslot, by rw [hafter, if_pos ⟨rfl, rfl⟩]⟩
    · intro uid container appName' hat
      rw [hafter] at hat
      split at hat
      · rename_i heq
        cases hat
        rw [heq.1, heq.2]
        exact ⟨some app, mem_append_right _ (mem_singleton_self _), hslot⟩
      · obtain ⟨listed, hmem, hin⟩ := hgrouped.attributed uid container appName' hat
        exact ⟨listed, mem_append_left _ hmem, hin⟩
    · intro listed hlisted a ha appName' index' digits' hname' hparse'
      rcases mem_append.mp hlisted with hold | hnew
      · exact hgrouped.agrees listed hold a ha appName' index' digits' hname' hparse'
      rw [mem_singleton.mp hnew] at ha hname'
      cases ha
      cases hname.symm.trans hname'
      cases hparse.symm.trans hparse'
      exact hagrees
  · cases h

theorem grouped_of_fold {listed : List (Option App)}
    (h : listed.foldlM (groupApp true) ∅ = .ok groups) : Grouped listed groups := by
  have hgrouped := foldlM_ok Grouped (fun hI hstep => grouped_step hI hstep) grouped_nil h
  rw [nil_append] at hgrouped
  exact hgrouped

/-! ## The two sources -/

def configNames (apps : List (Option App)) : List String := apps.filterMap stableName

theorem configAppNames_ok (h : configAppNames true apps known = .ok known') :
    (configNames apps).Nodup ∧ (∀ name ∈ configNames apps, name ∉ known) ∧
      ∀ name, name ∈ known' ↔ name ∈ configNames apps ∨ name ∈ known := by
  induction apps generalizing known with
  | nil =>
    cases h
    simp [configNames]
  | cons app apps ih =>
    rw [configAppNames] at h
    cases hname : stableName app with
    | none =>
      rw [hname] at h
      rw [configNames, filterMap_cons_none hname]
      exact ih h
    | some name =>
      rw [configNames, filterMap_cons_some hname]
      simp only [hname, Bool.true_and, contains_iff_mem] at h
      split at h
      · cases h
      next hnew =>
        obtain ⟨hnodup, hfresh, hmem⟩ := ih h
        refine ⟨nodup_cons.mpr ⟨fun hin => ?_, hnodup⟩, ?_, ?_⟩
        · exact hfresh name hin mem_cons_self
        · intro name' hin hknown
          rcases mem_cons.mp hin with rfl | hin
          · exact hnew hknown
          · exact hfresh name' hin (mem_cons_of_mem _ hknown)
        · intro name'
          rw [hmem, mem_cons, mem_cons, or_left_comm, or_assoc]
          rfl

theorem operOnlyApps_ok (h : operOnlyApps true known names = .ok more) :
    more = (names.filter (· ∉ known)).map operOnlyApp := by
  induction names generalizing more with
  | nil =>
    cases h
    rfl
  | cons appName names ih =>
    rw [operOnlyApps] at h
    simp only [contains_iff_mem] at h
    split at h
    · rename_i hknown
      rw [filter_cons_of_neg (by simpa using hknown)]
      exact ih h
    rename_i hknown
    rw [filter_cons_of_pos (by simpa using hknown), map_cons]
    split at h
    · cases h
    · rw [bind_ok] at h
      obtain ⟨rest, hrest, h⟩ := h
      cases h
      rw [ih hrest]

/-- The configured apps, and behind them those that only the operational data
has. -/
def combined (apps : List (Option App)) (oper : OperData) : List (Option App) :=
  apps ++ (oper.names.filter (· ∉ configNames apps)).map operOnlyApp

/-- Every app name of the two sources. -/
def inventoryNames (apps : List (Option App)) (oper : OperData) : List String :=
  configNames apps ++ oper.names

theorem listPods_ok (h : listPods true (.ok apps) (.ok oper) = .ok pods) :
    (configNames apps).Nodup ∧ ∃ groups, Grouped (combined apps oper) groups ∧
      pods = groups.entries.map Sigma.snd := by
  simp only [listPods, bind_ok] at h
  obtain ⟨_, happs, _, hoper, known, hknown, more, hmore, groups, hgroups, h⟩ := h
  cases happs
  cases hoper
  cases h
  obtain ⟨hnodup, -, hmem⟩ := configAppNames_ok hknown
  refine ⟨hnodup, groups, grouped_of_fold ?_, rfl⟩
  have hsame : combined apps oper = apps ++ more := by
    rw [combined, operOnlyApps_ok hmore]
    have hfilter : oper.names.filter (· ∉ configNames apps) = oper.names.filter (· ∉ known) := by
      apply filter_congr
      intro name _
      simp [hmem]
    rw [hfilter]
  rw [hsame]
  exact hgroups

theorem stableName_operOnlyApp (h : stableName (operOnlyApp appName) = some name) :
    name = appName := by
  simp only [stableName, operOnlyApp] at h
  split at h
  · cases h
  · exact (Option.some.inj h).symm

theorem eq_of_nodup_filterMap {α β : Type} {f : α → Option β} {l : List α} {x y : α} {b : β}
    (h : (l.filterMap f).Nodup) (hx : x ∈ l) (hy : y ∈ l) (hfx : f x = some b)
    (hfy : f y = some b) : x = y := by
  have hpairs := pairwise_filterMap.mp h
  have hsymm : Std.Symm fun x y => ∀ b, f x = some b → ∀ b', f y = some b' → b ≠ b' :=
    ⟨fun _ _ hne b hb b' hb' heq => hne b' hb' b hb heq.symm⟩
  by_contra hne
  exact hpairs.forall hx hy hne b hfx b hfy rfl

theorem nodup_combined (h : (configNames apps).Nodup) :
    ((combined apps oper).filterMap stableName).Nodup := by
  rw [combined, filterMap_append]
  have hmore : ∀ name, name ∈
      ((oper.names.filter (· ∉ configNames apps)).map operOnlyApp).filterMap stableName →
      name ∉ configNames apps := by
    intro name hname
    obtain ⟨listed, hlisted, hname⟩ := mem_filterMap.mp hname
    obtain ⟨appName, happ, rfl⟩ := mem_map.mp hlisted
    rw [stableName_operOnlyApp hname]
    simpa using (mem_filter.mp happ).2
  refine nodup_append.mpr ⟨h, ?_, ?_⟩
  · rw [filterMap_map]
    refine List.Nodup.filterMap ?_ (oper.nodup.filter _)
    intro a a' b ha ha'
    rw [← stableName_operOnlyApp ha, ← stableName_operOnlyApp ha']
  · intro a ha b hb hab
    rw [hab] at ha
    exact hmore b hb ha

theorem mem_inventoryNames (hgrouped : Grouped (combined apps oper) groups) :
    appName ∈ inventoryNames apps oper ↔
      ∃ listed ∈ combined apps oper, stableName listed = some appName := by
  rw [inventoryNames, mem_append]
  constructor
  · intro h
    by_cases hconfig : appName ∈ configNames apps
    · obtain ⟨listed, hlisted, hname⟩ := mem_filterMap.mp hconfig
      exact ⟨listed, mem_append_left _ hlisted, hname⟩
    have hoper := h.resolve_left hconfig
    have hlisted : operOnlyApp appName ∈ combined apps oper := by
      refine mem_append_right _ (mem_map_of_mem ?_)
      exact mem_filter.mpr ⟨hoper, by simpa using hconfig⟩
    obtain ⟨name, _, _, hin, _⟩ := hgrouped.placed _ hlisted
    have hname := stableName_operOnlyApp hin.named
    rw [hname] at hin
    exact ⟨_, hlisted, hin.named⟩
  · rintro ⟨listed, hlisted, hname⟩
    rcases mem_append.mp hlisted with hconfig | hoper
    · exact .inl (mem_filterMap.mpr ⟨listed, hconfig, hname⟩)
    · obtain ⟨name, hmem, rfl⟩ := mem_map.mp hoper
      rw [stableName_operOnlyApp hname]
      exact .inr (mem_filter.mp hmem).1

theorem slot_unique (hnodup : (configNames apps).Nodup)
    (hgrouped : Grouped (combined apps oper) groups)
    (h : slotOf groups uid container = some appName)
    (h' : slotOf groups uid' container' = some appName) : uid = uid' ∧ container = container' := by
  obtain ⟨listed, hlisted, hin⟩ := hgrouped.attributed uid container appName h
  obtain ⟨listed', hlisted', hin'⟩ := hgrouped.attributed uid' container' appName h'
  have hsame : listed = listed' :=
    eq_of_nodup_filterMap (nodup_combined hnodup) hlisted hlisted' hin.named hin'.named
  rw [← hsame] at hin'
  exact (inSlot_unique hin hin').2

/-! ## Exactness -/

/-- What the strict inventory must not pass over. -/
inductive Defective (apps : List (Option App)) (oper : OperData) : Prop
  | unnamed {listed : Option App} (h : listed ∈ apps) (hname : stableName listed = none)
  | duplicated (h : ¬ (configNames apps).Nodup)
  | foreign {appName : String} (h : appName ∈ inventoryNames apps oper)
      (hparse : parseCVKAppName appName = none)
  | disagrees {app : App} {appName digits : String} {index : Nat} (h : some app ∈ apps)
      (hname : stableName (some app) = some appName)
      (hparse : parseCVKAppName appName = some (index, digits)) (hlabel : ¬ LabelAgrees app digits)
  | shared {listed listed' : Option App} {appName appName' uid container : String}
      (h : listed ∈ combined apps oper) (h' : listed' ∈ combined apps oper)
      (hslot : InSlot listed appName uid container) (hslot' : InSlot listed' appName' uid container)
      (hne : appName ≠ appName')

theorem not_defective (hnodup : (configNames apps).Nodup)
    (hgrouped : Grouped (combined apps oper) groups) : ¬ Defective apps oper := by
  intro h
  cases h with
  | unnamed h hname =>
    obtain ⟨_, _, _, hin, _⟩ := hgrouped.placed _ (mem_append_left _ h)
    cases hname.symm.trans hin.named
  | duplicated h => exact h hnodup
  | foreign h hparse =>
    obtain ⟨listed, hlisted, hname⟩ := (mem_inventoryNames hgrouped).mp h
    obtain ⟨_, _, _, hin, _⟩ := hgrouped.placed listed hlisted
    obtain ⟨_, _, _, _, hparse', _⟩ := hin.slot
    cases hname.symm.trans hin.named
    cases hparse.symm.trans hparse'
  | disagrees h hname hparse hlabel =>
    exact hlabel (hgrouped.agrees _ (mem_append_left _ h) _ rfl _ _ _ hname hparse)
  | shared h h' hslot hslot' hne =>
    obtain ⟨_, _, _, hin, hat⟩ := hgrouped.placed _ h
    obtain ⟨_, _, _, hin', hat'⟩ := hgrouped.placed _ h'
    obtain ⟨rfl, rfl, rfl⟩ := inSlot_unique hslot hin
    obtain ⟨rfl, rfl, rfl⟩ := inSlot_unique hslot' hin'
    rw [hat] at hat'
    exact hne (Option.some.inj hat')

theorem mem_pods : pod ∈ groups.entries.map Sigma.snd ↔ ∃ uid, groups.find uid = some pod := by
  rw [Multiset.mem_map]
  constructor
  · rintro ⟨⟨uid, pod'⟩, hmem, rfl⟩
    exact ⟨uid, Map.mem_entries.mpr hmem⟩
  · rintro ⟨uid, hfind⟩
    exact ⟨⟨uid, pod⟩, Map.mem_entries.mp hfind, rfl⟩

/-- **The strict inventory is exact.** If it succeeds, its Pods are those whose
UUIDs the app names of either source carry, and each app name is in one Pod
under one container. It fails if an app has no name, a double, no workload
identity, a UID label that contradicts it, or the slot of another. -/
theorem strict_inventory_exact (apps : List (Option App)) (oper : OperData) :
    (∀ pods, listPods true (.ok apps) (.ok oper) = .ok pods →
      (pods.map PodDiscoveryInfo.uid).Nodup ∧
      (∀ uid, uid ∈ pods.map PodDiscoveryInfo.uid ↔
        ∃ appName ∈ inventoryNames apps oper, Encodes appName uid) ∧
      ∀ appName ∈ inventoryNames apps oper, ∃! place : PodDiscoveryInfo × String,
        place.1 ∈ pods ∧ place.1.containers.find place.2 = some appName) ∧
    (Defective apps oper → ∃ e, listPods true (.ok apps) (.ok oper) = .error e) := by
  refine ⟨fun pods h => ?_, fun hdefective => ?_⟩
  · obtain ⟨hnodup, groups, hgrouped, rfl⟩ := listPods_ok h
    have hnames : ∀ {uid group}, groups.find uid = some group → group.uid = uid :=
      fun hfind => hgrouped.keyed _ _ hfind
    have hplaced : ∀ appName ∈ inventoryNames apps oper, ∃ uid container group,
        (∃ listed, InSlot listed appName uid container) ∧ groups.find uid = some group ∧
        group.containers.find container = some appName := by
      intro appName hname
      obtain ⟨listed, hlisted, hname⟩ := (mem_inventoryNames hgrouped).mp hname
      obtain ⟨appName', uid, container, hin, hat⟩ := hgrouped.placed listed hlisted
      obtain ⟨group, hfind, hat⟩ := Option.bind_eq_some_iff.mp hat
      cases hname.symm.trans hin.named
      exact ⟨uid, container, group, ⟨listed, hin⟩, hfind, hat⟩
    refine ⟨?_, ?_, ?_⟩
    · have hkeys : (groups.entries.map Sigma.snd).map PodDiscoveryInfo.uid =
          groups.entries.map Sigma.fst := by
        rw [Multiset.map_map]
        refine Multiset.map_congr rfl fun entry hentry => ?_
        exact hnames (Map.mem_entries.mpr hentry)
      rw [hkeys]
      exact groups.nodupKeys.nodup_keys
    · intro uid
      rw [Multiset.mem_map]
      constructor
      · rintro ⟨group, hmem, rfl⟩
        obtain ⟨uid, hfind⟩ := mem_pods.mp hmem
        rw [hnames hfind]
        obtain ⟨container, appName, hat⟩ := hgrouped.occupied uid group hfind
        obtain ⟨listed, hlisted, hin⟩ :=
          hgrouped.attributed uid container appName (slotOf_find hfind hat)
        exact ⟨appName, (mem_inventoryNames hgrouped).mpr ⟨listed, hlisted, hin.named⟩,
          encodes_of_inSlot hin⟩
      · rintro ⟨appName, hname, hencodes⟩
        obtain ⟨uid', container, group, ⟨listed, hin⟩, hfind, hat⟩ := hplaced appName hname
        rw [encodes_unique hencodes (encodes_of_inSlot hin)]
        exact ⟨group, mem_pods.mpr ⟨uid', hfind⟩, hnames hfind⟩
    · intro appName hname
      obtain ⟨uid, container, group, -, hfind, hat⟩ := hplaced appName hname
      refine ⟨(group, container), ⟨mem_pods.mpr ⟨uid, hfind⟩, hat⟩, ?_⟩
      rintro ⟨group', container'⟩ ⟨hmem', hat'⟩
      obtain ⟨uid', hfind'⟩ := mem_pods.mp hmem'
      -- Both places are the slot of the one app that has the name.
      obtain ⟨rfl, rfl⟩ :=
        slot_unique hnodup hgrouped (slotOf_find hfind hat) (slotOf_find hfind' hat')
      rw [hfind] at hfind'
      rw [Option.some.inj hfind']
  · cases hlist : listPods true (.ok apps) (.ok oper) with
    | error e => exact ⟨e, rfl⟩
    | ok pods =>
      obtain ⟨hnodup, groups, hgrouped, -⟩ := listPods_ok hlist
      exact absurd hdefective (not_defective hnodup hgrouped)

/-- One configured app of a Pod, and one of another Pod that only the
operational data has. -/
def sampleApps : List (Option App) :=
  [some { applicationName := some "cvk0000_0123456789abcdef0123456789abcdef" }]

def sampleOper : OperData := ⟨[("cvk0001_fedcba9876543210fedcba9876543210", none)], by decide⟩

theorem oper_only_pod_listed :
    ∃ pods, listPods true (.ok sampleApps) (.ok sampleOper) = .ok pods ∧
      "fedcba98-7654-3210-fedc-ba9876543210" ∈ pods.map PodDiscoveryInfo.uid := by
  have hlisted : (listPods true (.ok sampleApps) (.ok sampleOper)).isOk = true := by decide
  cases h : listPods true (.ok sampleApps) (.ok sampleOper) with
  | error e =>
    rw [h] at hlisted
    cases hlisted
  | ok pods =>
    refine ⟨pods, rfl, (((strict_inventory_exact _ _).1 _ h).2.1 _).mpr ?_⟩
    exact ⟨"cvk0001_fedcba9876543210fedcba9876543210", by decide, 1,
      "fedcba9876543210fedcba9876543210", by decide, by decide⟩

end VirtualKubelet.Drivers.Iosxe
