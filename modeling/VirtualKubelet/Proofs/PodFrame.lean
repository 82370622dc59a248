import VirtualKubelet.Drivers.Iosxe.PodLifecycle

/-!
# Which apps a Pod operation touches

`deletePod` and `updatePod` change an app by a lifecycle RPC or by deleting its
configuration. The frame of both is the set of apps they can pick. Every
function below them works on the one app it is given, so the frame is decided
where apps are picked: by discovery, and by the generated names.

Discovery keeps an app whose name contains the digits of the Pod's UID, and
takes its container from the labels or, failing that, from a CVK name. It never
compares the UID in the CVK name. For a UID of 32 hexadecimal digits this makes
no difference: a CVK name has only one place for them.
-/

namespace VirtualKubelet.Drivers.Iosxe

open Go Program
open List hiding contains contains_iff head length next range

/-! ## Names -/

/-- The UID as the API server assigns it, without the hyphens. -/
structure Canonical (uid : String) : Prop where
  length : (cleanUID uid).toList.length = 32
  hex : ∀ c ∈ (cleanUID uid).toList, isLowerHex c = true

def Own (pod : Pod) (appID : String) : Prop :=
  ∃ index, parseCVKAppName appID = some (index, cleanUID pod.uid)

instance (uid : String) : Decidable (Canonical uid) :=
  decidable_of_iff ((cleanUID uid).toList.length = 32 ∧ (cleanUID uid).toList.all isLowerHex = true)
    ⟨fun h => ⟨h.1, List.all_eq_true.mp h.2⟩, fun h => ⟨h.1, List.all_eq_true.mpr h.2⟩⟩

variable {name uid container : String} {index : Nat} {m : Go.Map String}

theorem parseCVKAppName_eq (h : parseCVKAppName name = some (index, uid)) :
    index ≤ 127 ∧ ∃ head, head.length = 7 ∧ name.toList = head ++ '_' :: uid.toList ∧
      uid.toList.length = 32 := by
  unfold parseCVKAppName at h
  dsimp only at h
  split at h
  · cases h
  next hlength =>
  split at h
  · cases h
  split at h
  · cases h
  next hsep =>
  split at h
  · cases h
  next digits =>
  split at h
  · cases h
  next hsmall =>
  split at h
  · rename_i hhex
    cases h
    have hlength : name.toList.length = 40 := not_not.mp hlength
    have hsep : name.toList.getD 7 ' ' = '_' := not_not.mp hsep
    have hlt : 7 < name.toList.length := by omega
    refine ⟨by omega, name.toList.take 7, by rw [length_take]; omega, ?_, ?_⟩
    · rw [String.toList_ofList, ← hsep, getD_eq_getElem _ _ hlt, getElem_cons_drop,
        take_append_drop]
    · rw [String.toList_ofList, length_drop]
      omega
  · cases h

theorem underscore_notMem (h : Canonical uid) : '_' ∉ (cleanUID uid).toList := by
  intro hmem
  have hhex := h.hex _ hmem
  revert hhex
  decide

theorem own_of_contains {pod : Pod} (hcanonical : Canonical pod.uid) (hcvk : isCVKManagedApp name)
    (hcontains : contains name (cleanUID pod.uid)) : Own pod name := by
  obtain ⟨⟨index, uid⟩, hparse⟩ := Option.isSome_iff_exists.mp hcvk
  obtain ⟨-, head, hhead, hname, hlength⟩ := parseCVKAppName_eq hparse
  rw [contains_iff, hname] at hcontains
  refine ⟨index, ?_⟩
  rcases infix_of_sep (underscore_notMem hcanonical) hcontains with hinfix | hinfix
  · -- Seven characters are too few.
    have hle := hinfix.length_le
    rw [hcanonical.length] at hle
    omega
  · have heq := hinfix.eq_of_length (by rw [hcanonical.length, hlength])
    rw [hparse, String.toList_injective heq]

theorem parse_fourDigits : ∀ n : Nat, n < 128 → (fourDigits (n : Int)).toList.length = 4 ∧
    parseUint (fourDigits (n : Int)).toList = some n := by
  decide +kernel

theorem int8_toInt : ∀ n : Nat, n < 128 → (Int8.ofNat n).toInt = (n : Int) := by
  decide +kernel

theorem parse_getAppHostingName (hcanonical : Canonical uid) (hindex : index < 128) :
    parseCVKAppName (getAppHostingName uid (Int8.ofNat index)) = some (index, cleanUID uid) := by
  obtain ⟨hlength, hparse⟩ := parse_fourDigits index hindex
  have hname : (getAppHostingName uid (Int8.ofNat index)).toList =
      ['c', 'v', 'k'] ++ ((fourDigits index).toList ++ ('_' :: (cleanUID uid).toList)) := by
    rw [getAppHostingName, int8_toInt index hindex]
    simp [String.toList_append, cvkAppNamePrefix]
  obtain ⟨a, b, c, d, hdigits⟩ : ∃ a b c d, (fourDigits index).toList = [a, b, c, d] := by
    match h : (fourDigits index).toList, hlength with
    | [a, b, c, d], _ => exact ⟨a, b, c, d, rfl⟩
  rw [hdigits] at hname hparse
  unfold parseCVKAppName
  have hhex : (cleanUID uid).toList.all isLowerHex = true :=
    all_eq_true.mpr hcanonical.hex
  have hcount := hcanonical.length
  have hbound : ¬ 127 < index := by omega
  dsimp only
  rw [hname]
  simp [hparse, hcount, hbound, hhex, cvkAppNamePrefix, String.ofList_toList]

/-- The names of the containers' apps are distinct and can be read back, for up to 128 of them. -/
theorem app_names_read_back_iff (huid : Canonical uid) (names : List String) (hnames : names.Nodup) :
    ((∀ a ∈ names, ∀ b ∈ names, (generateContainerAppIDs uid names).get "" a =
        (generateContainerAppIDs uid names).get "" b → a = b) ∧
      ∀ i name, names[i]? = some name →
        parseCVKAppName ((generateContainerAppIDs uid names).get "" name) =
          some (i, cleanUID uid)) ↔ names.length ≤ 128 := by
  constructor
  · rintro ⟨-, hread⟩
    by_contra hmany
    have hlt : 128 < names.length := by omega
    have hbound := (parseCVKAppName_eq (hread 128 _ (List.getElem?_eq_getElem hlt))).1
    omega
  · intro hcount
    have hread : ∀ i name, names[i]? = some name →
        parseCVKAppName ((generateContainerAppIDs uid names).get "" name) =
          some (i, cleanUID uid) := by
      intro i name hi
      obtain ⟨i', hi', -, hfind⟩ := generate_last uid (List.mem_of_getElem? hi)
      have hlt := (List.getElem?_eq_some_iff.mp hi).1
      have hsame : i = i' := (List.getElem?_inj hlt hnames).mp (hi.trans hi'.symm)
      rw [Map.get, hfind, ← hsame]
      exact parse_getAppHostingName huid (by omega)
    refine ⟨fun a ha b hb heq => ?_, hread⟩
    obtain ⟨i, hi⟩ := List.getElem?_of_mem ha
    obtain ⟨j, hj⟩ := List.getElem?_of_mem hb
    have hij := (hread i a hi).symm.trans ((congrArg parseCVKAppName heq).trans (hread j b hj))
    obtain ⟨rfl, -⟩ := Prod.mk.inj (Option.some.inj hij)
    exact Option.some.inj (hi.symm.trans hj)

/-- The 129th container gets a name with a negative index. -/
theorem app_name_unreadable :
    let names := (List.range 129).map toString
    parseCVKAppName ((generateContainerAppIDs "5e9f0c7d-a1b8-4e6f-9c2d-3b4a5c6d7e8f" names).get ""
      "128") = none := by
  decide +kernel

theorem app_names_sample :
    parseCVKAppName ((generateContainerAppIDs "5e9f0c7d-a1b8-4e6f-9c2d-3b4a5c6d7e8f"
      ["web", "db"]).get "" "db") = some (1, "5e9f0c7da1b84e6f9c2d3b4a5c6d7e8f") :=
  ((app_names_read_back_iff (by decide) _ (by decide)).mpr (by decide)).2 1 _ rfl

/-! ## The generated apps -/

variable {pod : Pod}

theorem own_appIDs (hcanonical : Canonical pod.uid) (hcount : pod.containers.length ≤ 128)
    (h : pod.appIDs.find container = some appID) : Own pod appID := by
  obtain ⟨i, hi, -, hfind⟩ := generate_last pod.uid (mem_of_generate h)
  cases hfind.symm.trans h
  have hlt := (List.getElem?_eq_some_iff.mp hi).1
  rw [length_map] at hlt
  exact ⟨i, parse_getAppHostingName hcanonical (show i < 128 by omega)⟩

theorem appIDs_find {container : Container} (h : container ∈ pod.containers) :
    pod.appIDs.find container.name = some (pod.appIDs.get "" container.name) := by
  obtain ⟨i, -, -, hfind⟩ := generate_last pod.uid (mem_map_of_mem h)
  rw [Map.get, Pod.appIDs, hfind]
  rfl

/-! ## Requests about one app -/

def Request.target : Request → Option String
  | .rpc _ appID _ => some appID
  | .deleteConfig appID => some appID
  | _ => none

/-- The request changes no app other than those of the frame. -/
def Within (frame : String → Prop) (r : Request) : Prop := ∀ appID, r.target = some appID → frame appID

variable {frame : String → Prop} {appID : String} {r : Request}

theorem within_of_none (h : r.target = none) : Within frame r := by
  intro appID htarget
  rw [h] at htarget
  cases htarget

theorem within_of_target (h : r.target = some appID) (hframe : frame appID) : Within frame r := by
  intro appID' htarget
  rw [h] at htarget
  cases htarget
  exact hframe

theorem uses_read (h : r.target = none) : (ask r).Uses (Within frame) :=
  uses_request (within_of_none h)

theorem uses_appHostingRPC (h : frame appID) :
    (appHostingRPC operation appID packagePath).Uses (Within frame) := by
  refine uses_bind (uses_request (within_of_target rfl h)) fun r => ?_
  cases r <;> exact uses_pure

theorem uses_getAppObservation : (getAppObservation appID).Uses (Within frame) := by
  refine uses_bind (uses_read rfl) fun r => ?_
  cases r <;> exact uses_pure

theorem uses_issue (h : frame appID) :
    (issue status obs operation appID packagePath phase message).Uses (Within frame) := by
  refine uses_bind (uses_appHostingRPC h) fun outcome => ?_
  split <;> exact uses_pure

theorem uses_reconcileForward (h : frame appID) :
    (reconcileForward allowUnsignedApps appID imagePath status obs).Uses (Within frame) := by
  unfold reconcileForward
  split
  · exact uses_pure
  · exact uses_issue h
  · exact uses_issue h
  · exact uses_issue h
  · dsimp only
    split
    · refine uses_bind (uses_read rfl) fun notification => ?_
      split <;> exact uses_pure
    · exact uses_pure
  · split
    · exact uses_pure
    split
    · exact uses_pure
    · exact uses_issue h

theorem uses_removeConfig (h : frame appID) : (removeConfig appID status).Uses (Within frame) := by
  refine uses_bind (uses_request (within_of_target rfl h)) fun r => ?_
  cases r with
  | ok => exact uses_pure
  | error err =>
    dsimp only
    split <;> exact uses_pure

theorem uses_reconcileReverse (h : frame appID) :
    (reconcileReverse appID status obs).Uses (Within frame) := by
  unfold reconcileReverse
  split
  · exact uses_issue h
  · exact uses_issue h
  · exact uses_issue h
  · exact uses_issue h
  split
  · exact uses_pure
  · exact uses_removeConfig h

theorem uses_reconcileApp (h : frame appID) :
    (reconcileApp allowUnsignedApps appID imagePath desired status).Uses (Within frame) := by
  refine uses_bind uses_getAppObservation fun obs => ?_
  dsimp only
  split
  · split <;> exact uses_pure
  split
  · exact uses_pure
  cases desired with
  | running => exact uses_reconcileForward h
  | deleted => exact uses_reconcileReverse h

theorem uses_deletePasses (h : frame appID) :
    (deletePasses appID n status).Uses (Within frame) := by
  induction n generalizing status with
  | zero => exact uses_pure
  | succ n ih =>
    refine uses_bind (uses_reconcileApp h) fun status => ?_
    split
    · exact uses_pure
    split
    · exact uses_pure
    refine uses_bind (uses_read rfl) fun cancelled => ?_
    split
    · exact uses_pure
    · exact ih

theorem uses_deleteApp (h : frame appID) : (deleteApp appID).Uses (Within frame) :=
  uses_deletePasses h

theorem uses_pollAppStatus : (pollAppStatus appID expected timeout n).Uses (Within frame) := by
  induction n with
  | zero => exact uses_pure
  | succ n ih =>
    refine uses_bind (uses_read rfl) fun inTime => ?_
    split
    · exact uses_pure
    refine uses_bind (uses_read rfl) fun r => ?_
    cases r with
    | error err => exact ih
    | ok oper =>
      dsimp only
      split
      · exact uses_pure
      refine uses_bind (uses_read rfl) fun cancelled => ?_
      split
      · exact uses_pure
      · exact ih

theorem uses_waitForAppStatuses : (waitForAppStatuses appID timeout expected).Uses (Within frame) :=
  uses_pollAppStatus

/-! ## Deployment stays with its app -/

variable {config : AppHostingConfig} {d : XEDriver} {apps : List (Option App)}

section

variable (h : frame config.appName)
include h

theorem uses_startAndWait :
    (startAndWait config).Uses (Within frame) := by
  refine uses_bind (uses_appHostingRPC h) fun outcome => ?_
  split
  · exact uses_pure
  · exact uses_bind uses_waitForAppStatuses fun waited => uses_pure

theorem uses_activateAndStart :
    (activateAndStart config).Uses (Within frame) := by
  refine uses_bind (uses_appHostingRPC h) fun outcome => ?_
  split
  · exact uses_pure
  refine uses_bind uses_waitForAppStatuses fun waited => ?_
  split
  · exact uses_pure
  refine uses_bind (uses_appHostingRPC h) fun outcome => ?_
  split
  · exact uses_pure
  · exact uses_bind uses_waitForAppStatuses fun waited => uses_pure

theorem uses_convergeExistingApp :
    (convergeExistingApp config).Uses (Within frame) := by
  refine uses_bind uses_getAppObservation fun obs => ?_
  split
  · exact uses_pure
  split
  · exact uses_pure
  · exact uses_map (uses_startAndWait h)
  · exact uses_map (uses_startAndWait h)
  · exact uses_map (uses_activateAndStart h)
  · refine uses_bind uses_waitForAppStatuses fun waited => ?_
    split
    · exact uses_pure
    · exact uses_map (uses_activateAndStart h)
  · split <;> exact uses_pure

theorem uses_copyAndInstall : (copyAndInstall d config dest).Uses (Within frame) := by
  refine uses_bind (uses_read rfl) fun r => ?_
  cases r with
  | error err => exact uses_pure
  | ok =>
    refine uses_bind (uses_appHostingRPC h) fun outcome => ?_
    split
    · exact uses_pure
    · exact uses_bind uses_waitForAppStatuses fun waited => uses_pure

theorem uses_installCached : (installCached d config dest).Uses (Within frame) := by
  refine uses_bind (uses_appHostingRPC h) fun outcome => ?_
  split
  · refine uses_bind uses_waitForAppStatuses fun waited => ?_
    split <;> exact uses_pure
  · refine uses_bind (uses_deleteApp h) fun _ => uses_bind (uses_read rfl) fun r => ?_
    cases r with
    | error err => exact uses_pure
    | ok => exact uses_copyAndInstall h

theorem uses_copyFallbackToFlash :
    (copyFallbackToFlash d config).Uses (Within frame) := by
  refine uses_bind (uses_deleteApp h) fun _ => uses_bind (uses_read rfl) fun r => ?_
  cases r with
  | error err => exact uses_pure
  | ok =>
    dsimp only
    split
    · exact uses_installCached h
    · exact uses_copyAndInstall h

theorem uses_awaitPull {reached : Driver (Except String Unit)}
    (hreached : reached.Uses (Within frame)) :
    (awaitPull d config state reached).Uses (Within frame) := by
  refine uses_bind uses_waitForAppStatuses fun waited => ?_
  split
  · exact hreached
  refine uses_bind (uses_copyFallbackToFlash h) fun copied => ?_
  split
  · exact uses_pure
  · exact uses_activateAndStart h

theorem uses_installAndStart :
    (installAndStart d config).Uses (Within frame) := by
  refine uses_bind (uses_appHostingRPC h) fun outcome => ?_
  split
  · exact uses_pure
  split
  · split
    · exact uses_awaitPull h (uses_activateAndStart h)
    refine uses_bind uses_waitForAppStatuses fun waited => ?_
    split
    · exact uses_pure
    · exact uses_activateAndStart h
  · split
    · exact uses_awaitPull h uses_pure
    · exact uses_bind uses_waitForAppStatuses fun waited => uses_pure

theorem uses_createAppHostingApp :
    (createAppHostingApp d config).Uses (Within frame) := by
  unfold createAppHostingApp
  split
  · exact uses_pure
  refine uses_bind (uses_read rfl) fun r => ?_
  cases r with
  | ok => exact uses_installAndStart h
  | error err =>
    dsimp only
    split
    · refine uses_bind (uses_convergeExistingApp h) fun outcome => ?_
      cases outcome with
      | some outcome => exact uses_pure
      | none => exact uses_installAndStart h
    · exact uses_pure

end

theorem uses_createApps (h : ∀ config ∈ configs, frame config.appName) :
    (createApps d context configs).Uses (Within frame) := by
  induction configs with
  | nil => exact uses_pure
  | cons config configs ih =>
    refine uses_bind (uses_createAppHostingApp (h config mem_cons_self)) fun outcome => ?_
    split
    · exact uses_pure
    · exact ih fun config hmem => h config (mem_cons_of_mem _ hmem)

theorem convertContainer_appName {container : Container}
    (h : convertContainer d pod packageDest container = .ok config) :
    config.appName = pod.appIDs.get "" container.name := by
  unfold convertContainer at h
  obtain ⟨-, -, h⟩ := bind_ok.mp h
  obtain ⟨envOpts, -, h⟩ := bind_ok.mp h
  obtain ⟨runOpts, -, h⟩ := bind_ok.mp h
  cases h
  rfl

theorem convert_appName (h : convertPodToAppConfigs d pod = .ok configs) :
    ∀ config ∈ configs, ∃ container ∈ pod.containers,
      config.appName = pod.appIDs.get "" container.name := by
  obtain ⟨packageDest, -, h⟩ := bind_ok.mp h
  have hall := mapM_ok h
  intro config hmem
  obtain ⟨i, hi, rfl⟩ := getElem_of_mem hmem
  have hlt : i < pod.containers.length := by rw [hall.length_eq]; exact hi
  exact ⟨pod.containers[i], getElem_mem hlt, convertContainer_appName (hall.get hlt hi)⟩

/-! ## The apps a Pod operation picks -/

/-- The labels are those of the Pod and name a container. -/
def Labelled (pod : Pod) (app : App) : Prop :=
  let identity := podIdentityFromRunOpts app.lines
  identity.namespace = pod.namespace ∧ identity.name = pod.name ∧ identity.uid = pod.uid ∧
    identity.container ≠ ""

/-- Apps that carry the labels of the Pod and the digits of its UID in their
name have a CVK name. -/
def Tidy (pod : Pod) (apps : List (Option App)) : Prop :=
  ∀ app name, some app ∈ apps → app.applicationName = some name →
    contains name (cleanUID pod.uid) → Labelled pod app → isCVKManagedApp name

def AllOwn (pod : Pod) (m : Go.Map String) : Prop :=
  ∀ container appID, m.find container = some appID → Own pod appID

theorem allOwn_empty : AllOwn pod ∅ := by
  intro container appID h
  simp at h

theorem allOwn_set (hm : AllOwn pod m) (h : Own pod appID) :
    AllOwn pod (m.set container appID) := by
  intro container' appID' hfind
  rw [Map.find_set_iff] at hfind
  rcases hfind with ⟨-, rfl⟩ | ⟨-, hfind⟩
  · exact h
  · exact hm container' appID' hfind

theorem containerOf_ne_empty (h : containerOf pod app name ≠ "") :
    isCVKManagedApp name ∨ Labelled pod app := by
  by_cases hlabelled : Labelled pod app
  · exact .inr hlabelled
  left
  cases hparse : parseCVKAppName name with
  | some parsed =>
    rw [isCVKManagedApp, hparse]
    rfl
  | none =>
    exfalso
    unfold containerOf at h
    rw [hparse] at h
    dsimp only at h
    split at h
    · rename_i hlabels
      rw [Bool.and_eq_true, Bool.and_eq_true, decide_eq_true_eq, decide_eq_true_eq,
        decide_eq_true_eq] at hlabels
      split at h
      · next hcontainer => exact hlabelled ⟨hlabels.1.1, hlabels.1.2, hlabels.2, hcontainer⟩
      · exact h rfl
    · rw [if_neg (not_not.mpr rfl)] at h
      exact h rfl

theorem allOwn_discoverApp (hcanonical : Canonical pod.uid) (hfound : AllOwn pod found)
    (htidy : Tidy pod [listed]) : AllOwn pod (discoverApp pod found listed) := by
  unfold discoverApp
  split
  · rename_i app appName hstable
    dsimp only
    split
    · exact hfound
    next hcontains =>
    split
    · rename_i hcontainer
      have hcontains : contains appName (cleanUID pod.uid) := by simpa using hcontains
      apply allOwn_set hfound
      refine own_of_contains hcanonical ?_ hcontains
      rcases containerOf_ne_empty hcontainer with hcvk | hlabelled
      · exact hcvk
      have hname : app.applicationName = some appName := by
        unfold stableName at hstable
        dsimp only at hstable
        split at hstable
        · cases hstable
        rename_i name hname
        split at hstable
        · cases hstable
        · rw [hname, hstable]
      exact htidy app appName mem_cons_self hname hcontains hlabelled
    · exact hfound
  · exact hfound

theorem allOwn_discovered (hcanonical : Canonical pod.uid) (htidy : Tidy pod apps) :
    AllOwn pod (discovered pod apps).1 := by
  have hfold : ∀ {found : Go.Map String} {rest : List (Option App)}, AllOwn pod found →
      Tidy pod rest → AllOwn pod (rest.foldl (discoverApp pod) found) := by
    intro found rest
    induction rest generalizing found with
    | nil => exact fun hfound _ => hfound
    | cons listed rest ih =>
      intro hfound htidy
      rw [foldl_cons]
      refine ih (allOwn_discoverApp hcanonical hfound ?_) ?_
      · intro app name hmem
        rw [mem_singleton] at hmem
        exact htidy app name (hmem ▸ mem_cons_self)
      · intro app name hmem
        exact htidy app name (mem_cons_of_mem _ hmem)
  unfold discovered
  dsimp only
  split <;> exact hfold allOwn_empty htidy

theorem tidy_operApps (htidy : Tidy pod apps) : Tidy pod (apps ++ operApps pod oper) := by
  intro app name hmem hname hcontains hlabelled
  rcases mem_append.mp hmem with hmem | hmem
  · exact htidy app name hmem hname hcontains hlabelled
  obtain ⟨appName, hfilter, heq⟩ := mem_map.mp hmem
  have hcvk := (mem_filter.mp hfilter).2
  cases heq
  cases hname
  rw [Bool.and_eq_true] at hcvk
  exact hcvk.2

/-- What a run was told of the configured apps is tidy. -/
def TidyListings (pod : Pod) (es : List (Event Request Reply)) : Prop :=
  ∀ apps, (⟨.listApps, .ok apps⟩ : Event Request Reply) ∈ es → Tidy pod apps

theorem tidyListings_append :
    TidyListings pod (first ++ second) ↔ TidyListings pod first ∧ TidyListings pod second := by
  constructor
  · intro h
    exact ⟨fun apps hmem => h apps (mem_append_left _ hmem),
      fun apps hmem => h apps (mem_append_right _ hmem)⟩
  · rintro ⟨hfirst, hsecond⟩ apps hmem
    rcases mem_append.mp hmem with hmem | hmem
    · exact hfirst apps hmem
    · exact hsecond apps hmem

variable {es : List (Event Request Reply)}

theorem allOwn_getPodContainers (hcanonical : Canonical pod.uid)
    (h : Runs (getPodContainers pod) es (found, err)) (htidy : TidyListings pod es) :
    AllOwn pod found := by
  obtain ⟨r, second, hrest, rfl⟩ := runs_ask.mp h
  have htidy := (tidyListings_append.mp htidy).1
  cases r with
  | error err =>
    obtain ⟨-, heq⟩ := runs_pure.mp hrest
    cases heq
    exact allOwn_empty
  | ok apps =>
    have happs := htidy apps mem_cons_self
    dsimp only at hrest
    split at hrest
    · obtain ⟨-, heq⟩ := runs_pure.mp hrest
      rw [show found = _ from congrArg Prod.fst heq]
      exact allOwn_discovered hcanonical happs
    obtain ⟨r, -, second, -, hrest, -⟩ := runs_bind.mp hrest
    cases r with
    | error err =>
      obtain ⟨-, heq⟩ := runs_pure.mp hrest
      rw [show found = _ from congrArg Prod.fst heq]
      exact allOwn_discovered hcanonical happs
    | ok oper =>
      obtain ⟨-, heq⟩ := runs_pure.mp hrest
      rw [show found = _ from congrArg Prod.fst heq]
      exact allOwn_discovered hcanonical (tidy_operApps happs)

theorem uses_getPodContainers : (getPodContainers pod).Uses (Within frame) := by
  refine uses_bind (uses_read rfl) fun r => ?_
  cases r with
  | error err => exact uses_pure
  | ok apps =>
    dsimp only
    split
    · exact uses_pure
    · refine uses_bind (uses_read rfl) fun r => ?_
      cases r <;> exact uses_pure

theorem allOwn_targets (hgenerated : ∀ c ∈ generated, Own pod c.2) (hfound : AllOwn pod found) :
    AllOwn pod (podDeletionTargets generated found) := by
  have hfold : ∀ {t : Targets}, AllOwn pod t.targets →
      AllOwn pod (generated.foldl Targets.add t).targets := by
    induction generated with
    | nil => exact fun h => h
    | cons c generated ih =>
      intro t ht
      rw [foldl_cons]
      refine ih (fun c' hmem => hgenerated c' (mem_cons_of_mem _ hmem)) ?_
      unfold Targets.add
      split
      · exact ht
      · exact allOwn_set ht (hgenerated c mem_cons_self)
  exact hfold hfound

theorem uses_deleteApps (h : ∀ c ∈ targets, frame c.2) :
    (deleteApps targets).Uses (Within frame) := by
  induction targets with
  | nil => exact uses_pure
  | cons c targets ih =>
    have hrest := ih fun c' hmem => h c' (mem_cons_of_mem _ hmem)
    refine uses_bind (uses_deleteApp (h c mem_cons_self)) fun outcome => ?_
    split
    · exact hrest
    · exact uses_bind hrest fun errors => uses_pure

theorem uses_deleteTargets {targets : Go.Map String}
    (h : ∀ container appID, targets.find container = some appID → frame appID) :
    (deleteTargets targets).Uses (Within frame) := by
  refine uses_bind (uses_read rfl) fun order => ?_
  refine uses_bind (uses_deleteApps fun c hmem => ?_) fun errors => ?_
  · exact h c.1 c.2 (order.mem_of_mem hmem)
  · split <;> exact uses_pure

/-! ## The frame of whole operations -/

/-- The events change only apps of the Pod. -/
def InFrame (pod : Pod) (es : List (Event Request Reply)) : Prop := ∀ e ∈ es, Within (Own pod) e.1

theorem inFrame_append (hfirst : InFrame pod first) (hsecond : InFrame pod second) :
    InFrame pod (first ++ second) := by
  exact forall_mem_append.mpr ⟨hfirst, hsecond⟩

variable {r : Except String Unit}

theorem inFrame_deletePod (hcanonical : Canonical pod.uid) (hcount : pod.containers.length ≤ 128)
    (h : Runs (deletePod pod) es r) (htidy : TidyListings pod es) : InFrame pod es := by
  obtain ⟨targets, first, second, htargets, hdelete, rfl⟩ := runs_bind.mp h
  obtain ⟨⟨found, err⟩, listing, rest, hfound, hrest, rfl⟩ := runs_bind.mp htargets
  obtain ⟨generated, range, last, hrange, hlast, rfl⟩ := runs_bind.mp hrest
  obtain ⟨rfl, rfl⟩ := runs_pure.mp hlast
  have htidy := (tidyListings_append.mp (tidyListings_append.mp htidy).1).1
  have hfound_own := allOwn_getPodContainers hcanonical hfound htidy
  have hgenerated : ∀ c ∈ generated.entries, Own pod c.2 := by
    intro c hmem
    exact own_appIDs hcanonical hcount (generated.mem_of_mem hmem)
  have htargets := allOwn_targets hgenerated hfound_own
  refine inFrame_append (inFrame_append (hfound.uses uses_getPodContainers) ?_)
    (hdelete.uses (uses_deleteTargets htargets))
  obtain rfl := runs_request.mp hrange
  intro e hmem
  rw [append_nil, mem_singleton] at hmem
  subst hmem
  exact within_of_none rfl

theorem uses_deployPod (hcanonical : Canonical pod.uid) (hcount : pod.containers.length ≤ 128) :
    (deployPod d pod).Uses (Within (Own pod)) := by
  unfold deployPod
  split
  · exact uses_pure
  rename_i configs hconvert
  refine uses_createApps fun config hmem => ?_
  obtain ⟨container, hcontainer, hname⟩ := convert_appName hconvert config hmem
  rw [hname]
  exact own_appIDs hcanonical hcount (appIDs_find hcontainer)

theorem uses_deleteEach (h : ∀ appID ∈ appIDs, frame appID) :
    (deleteEach appIDs).Uses (Within frame) := by
  induction appIDs with
  | nil => exact uses_pure
  | cons appID appIDs ih =>
    refine uses_bind (uses_deleteApp (h appID mem_cons_self)) fun _ => ?_
    exact ih fun appID' hmem => h appID' (mem_cons_of_mem _ hmem)

theorem uses_redeploy (hcanonical : Canonical pod.uid) (hcount : pod.containers.length ≤ 128)
    (h : ∀ appID ∈ appIDs, Own pod appID) : (redeploy pod d appIDs).Uses (Within (Own pod)) := by
  refine uses_bind (uses_deleteEach h) fun _ => ?_
  split
  · exact uses_pure
  rename_i configs hconvert
  refine uses_createApps fun config hmem => ?_
  obtain ⟨container, hcontainer, hname⟩ :=
    convert_appName hconvert config (mem_filter.mp hmem).1
  rw [hname]
  exact own_appIDs hcanonical hcount (appIDs_find hcontainer)

theorem own_needingRedeploy (hfound : AllOwn pod found) (order : Enumeration found) :
    ∀ appID ∈ needingRedeploy oper order.entries, Own pod appID := by
  intro appID hmem
  obtain ⟨c, hc, rfl⟩ := mem_map.mp (mem_filter.mp hmem).1
  exact hfound c.1 c.2 (order.mem_of_mem hc)

theorem uses_operDataOrNone : operDataOrNone.Uses (Within frame) := by
  refine uses_bind (uses_read rfl) fun r => ?_
  cases r <;> exact uses_pure

theorem inFrame_updatePod (hcanonical : Canonical pod.uid) (hcount : pod.containers.length ≤ 128)
    (h : Runs (updatePod pod d) es r) (htidy : TidyListings pod es) : InFrame pod es := by
  unfold updatePod at h
  split at h
  · exact inFrame_deletePod hcanonical hcount h htidy
  obtain ⟨⟨found, err⟩, listing, rest, hfound, hrest, rfl⟩ := runs_bind.mp h
  obtain ⟨hlisting, htidy⟩ := tidyListings_append.mp htidy
  have hfound_own := allOwn_getPodContainers hcanonical hfound hlisting
  refine inFrame_append (hfound.uses uses_getPodContainers) ?_
  dsimp only at hrest
  split at hrest
  · -- Nothing usable on the device: clean up and deploy again.
    obtain ⟨r', deleted, deployed, hdelete, hdeploy, rfl⟩ := runs_bind.mp hrest
    obtain ⟨htidy, -⟩ := tidyListings_append.mp htidy
    exact inFrame_append (inFrame_deletePod hcanonical hcount hdelete htidy)
      (hdeploy.uses (uses_deployPod hcanonical hcount))
  · refine hrest.uses (uses_bind uses_operDataOrNone fun oper => ?_)
    refine uses_bind (uses_read rfl) fun order => ?_
    split
    · exact uses_pure
    · exact uses_redeploy hcanonical hcount (own_needingRedeploy hfound_own order)

/-! ## Samples -/

def webPod (uid : String) : Pod :=
  { «namespace» := "default", name := "web", uid, containers := [{ name := "app" }] }

/-- A Pod as the API server makes it. -/
def usualPod : Pod := webPod "2c1d8f0e-55aa-4b7c-9e31-0f6a7b8c9d10"

def usualApp : String := "cvk0000_2c1d8f0e55aa4b7c9e310f6a7b8c9d10"

def usualGenerated : Enumeration usualPod.appIDs where
  entries := [⟨"app", usualApp⟩]
  complete := by decide +kernel

/-- The targets if discovery finds these apps. -/
def usualTargets (apps : List (Option App)) : Go.Map String :=
  podDeletionTargets usualGenerated.entries (discovered usualPod apps).1

def usualOrder : Enumeration (usualTargets []) where
  entries := [⟨"app", usualApp⟩]
  complete := by decide +kernel

theorem runs_deletionTargets (generated : Enumeration pod.appIDs)
    (h : (apps.any fun app => (nameWithUID pod app).isSome) = true) :
    Runs (deletionTargets pod) [⟨.listApps, .ok apps⟩, ⟨.range _, generated⟩]
      (podDeletionTargets generated.entries (discovered pod apps).1) := by
  have hfound : Runs (getPodContainers pod) [⟨.listApps, .ok apps⟩] (discovered pod apps) := by
    refine runs_bind.mpr ⟨.ok apps, [⟨.listApps, .ok apps⟩], [], runs_request.mpr rfl, ?_, rfl⟩
    dsimp only
    rw [if_pos h]
    exact .done _
  exact runs_bind.mpr ⟨discovered pod apps, _, [⟨.range _, generated⟩], hfound, .call _ (.done _), rfl⟩

def bareDevice : List (Event Request Reply) :=
  [⟨.listApps, .ok []⟩, ⟨.operData, .ok OperData.empty⟩, ⟨.range _, usualGenerated⟩,
    ⟨.range _, usualOrder⟩, ⟨.operData, .ok OperData.empty⟩, ⟨.deleteConfig usualApp, .ok ()⟩]

theorem runs_bareDevice : Runs (deletePod usualPod) bareDevice (.ok ()) :=
  .call _ (.call _ (.call _ (.call _ (.call _ (.call _ (.done _))))))

def runningOper (appID : String) : OperData :=
  ⟨[(appID, some { state := some "RUNNING" })], List.nodup_singleton _⟩

/-- A Pod with a UID that is no UUID. -/
def shortPod : Pod := webPod "a1"

def otherApp : String := "cvk0000_5e9f0c7da1b84e6f9a0d3c2b1e8f7a65"

def shortGenerated : Enumeration shortPod.appIDs where
  entries := [⟨"app", "cvk0000_a1"⟩]
  complete := by decide +kernel

def shortOrder : Enumeration (podDeletionTargets shortGenerated.entries
    (discovered shortPod [some { applicationName := some otherApp }]).1) where
  entries := [⟨"container-0", otherApp⟩, ⟨"app", "cvk0000_a1"⟩]
  complete := by decide +kernel

/-- An app that is not named by the driver and carries the labels of the Pod. -/
def edgeApp : App where
  applicationName := some "edge-2c1d8f0e55aa4b7c9e310f6a7b8c9d10"
  runOptss := some [some ("--label io.kubernetes.pod.name=web " ++
    "--label io.kubernetes.pod.namespace=default " ++
    "--label io.kubernetes.pod.uid=2c1d8f0e-55aa-4b7c-9e31-0f6a7b8c9d10 " ++
    "--label io.kubernetes.container.name=edge")]

def edgeOrder : Enumeration (usualTargets [some edgeApp]) where
  entries := [⟨"edge", "edge-2c1d8f0e55aa4b7c9e310f6a7b8c9d10"⟩, ⟨"app", usualApp⟩]
  complete := by decide +kernel

/-- The device refuses to stop the first app and has nothing of the second. -/
def refusedThenAbsent (first second : String) : List (Event Request Reply) :=
  [⟨.operData, .ok (runningOper first)⟩, ⟨.rpc .stop first "", .error { text := "refused" }⟩,
    ⟨.operData, .ok OperData.empty⟩, ⟨.deleteConfig second, .ok ()⟩]

/-- If the UID of the Pod is 32 hexadecimal digits without its hyphens, the Pod
has at most 128 containers, and every configuration listing the driver gets
is tidy, then `deletePod` and `updatePod` issue lifecycle RPCs and configuration
deletes only for apps whose CVK name encodes exactly this UID. -/
theorem pod_operations_in_frame (d : XEDriver) (pod : Pod) (hcanonical : Canonical pod.uid)
    (hcount : pod.containers.length ≤ 128) {es : List (Event Request Reply)}
    {r : Except String Unit} (h : Runs (deletePod pod) es r ∨ Runs (updatePod pod d) es r)
    (htidy : TidyListings pod es) :
    ∀ e ∈ es, ∀ appID, e.1.target = some appID →
      ∃ index, parseCVKAppName appID = some (index, cleanUID pod.uid) := by
  rcases h with h | h
  · exact inFrame_deletePod hcanonical hcount h htidy
  · exact inFrame_updatePod hcanonical hcount h htidy

theorem bare_device_in_frame :
    Canonical usualPod.uid ∧ usualPod.containers.length ≤ 128 ∧ TidyListings usualPod bareDevice ∧
      ⟨.deleteConfig usualApp, .ok ()⟩ ∈ bareDevice ∧
      ∃ index, parseCVKAppName usualApp = some (index, cleanUID usualPod.uid) := by
  have hcanonical : Canonical usualPod.uid := by decide +kernel
  have hcount : usualPod.containers.length ≤ 128 := by decide
  have htidy : TidyListings usualPod bareDevice := by
    intro apps hmem
    simp only [bareDevice, mem_cons, Sigma.mk.injEq, reduceCtorEq, false_and, or_false,
      true_and, heq_eq_eq, not_mem_nil, Except.ok.injEq] at hmem
    subst hmem
    intro app name happ
    cases happ
  have hmem : (⟨.deleteConfig usualApp, .ok ()⟩ : Event Request Reply) ∈ bareDevice := by
    simp [bareDevice]
  exact ⟨hcanonical, hcount, htidy, hmem,
    pod_operations_in_frame { getPackageTimeout := fun _ => ⟨1, "2s"⟩ } usualPod hcanonical hcount
      (.inl runs_bareDevice) htidy _ hmem usualApp rfl⟩

/-- `deletePod` stops the app of another Pod, for a UID of two digits that
the other UID contains; and it stops an app without a CVK name that carries the
labels of the Pod and the digits of its UID. -/
theorem foreign_apps_stopped :
    (∃ es r, Runs (deletePod shortPod) es r ∧
      (∃ e ∈ es, e.1.target = some otherApp) ∧
      ¬ ∃ index, parseCVKAppName otherApp = some (index, cleanUID shortPod.uid)) ∧
    ∃ es r, Runs (deletePod usualPod) es r ∧
      (∃ e ∈ es, e.1.target = some "edge-2c1d8f0e55aa4b7c9e310f6a7b8c9d10") ∧
      parseCVKAppName "edge-2c1d8f0e55aa4b7c9e310f6a7b8c9d10" = none := by
  have hshort := runs_deletionTargets shortGenerated
    (show [some { applicationName := some otherApp }].any _ = true by decide +kernel)
  have husual := runs_deletionTargets usualGenerated
    (show [some edgeApp].any _ = true by decide +kernel)
  refine ⟨⟨_, _, runs_bind.mpr ⟨_, _, ⟨.range _, shortOrder⟩ ::
      refusedThenAbsent otherApp "cvk0000_a1", hshort,
      .call _ (.call _ (.call _ (.call _ (.call _ (.done _))))), rfl⟩, ?_, ?_⟩,
    ⟨_, _, runs_bind.mpr ⟨_, _, ⟨.range _, edgeOrder⟩ ::
      refusedThenAbsent "edge-2c1d8f0e55aa4b7c9e310f6a7b8c9d10" usualApp, husual,
      .call _ (.call _ (.call _ (.call _ (.call _ (.done _))))), rfl⟩, ?_, ?_⟩⟩
  · exact ⟨⟨.rpc .stop otherApp "", .error { text := "refused" }⟩, by simp [refusedThenAbsent], rfl⟩
  · rintro ⟨index, h⟩
    have hother : (parseCVKAppName otherApp).map Prod.snd ≠ some (cleanUID shortPod.uid) := by
      decide +kernel
    exact hother (by rw [h]; rfl)
  · exact ⟨⟨.rpc .stop "edge-2c1d8f0e55aa4b7c9e310f6a7b8c9d10" "", .error { text := "refused" }⟩,
      by simp [refusedThenAbsent], rfl⟩
  · decide +kernel

end VirtualKubelet.Drivers.Iosxe
