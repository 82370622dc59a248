import VirtualKubelet.ControllerAdapter.NexusDashboard

/-!
# The merge patch of an adopted device

Applying the patch that the adapter computes brings a device to what is wanted,
and computing it again finds nothing to do, with two exceptions. The TLS block
is sent as `json.Marshal` makes it, without the members that have their zero
value, and a merge patch leaves what it does not name: a member that the device
has and the wanted block lacks stays. And a device whose own list of managed
labels names the managed-by label loses that label, which the adapter wants.
-/

namespace VirtualKubelet.ControllerAdapter.NexusDashboard

open Go

variable {labels want : Labels} {stale : List String}

variable {cur : CiscoDevice} {it : InventoryItem} {access : NetworkControllerDeviceAccess}
  {k : String} {old new : TLSConfig}

/-! ## The TLS block as an object -/

theorem find_addMember :
    (TLSConfig.addMember present key value m).find k =
      if k = key ∧ present = true then some value else m.find k := by
  cases present with
  | false => simp [TLSConfig.addMember]
  | true =>
    by_cases hkey : k = key
    · subst hkey
      simp [TLSConfig.addMember]
    · simp [TLSConfig.addMember, hkey, Map.find_set_ne hkey]

theorem find_members (t : TLSConfig) :
    t.members.find "enabled" = some (.bool t.enabled) ∧
    t.members.find "insecureSkipVerify" =
      (if t.insecureSkipVerify then some (.bool true) else none) ∧
    t.members.find "certFile" = (if t.certFile ≠ "" then some (.text t.certFile) else none) ∧
    t.members.find "keyFile" = (if t.keyFile ≠ "" then some (.text t.keyFile) else none) ∧
    t.members.find "caFile" = (if t.caFile ≠ "" then some (.text t.caFile) else none) ∧
    t.members.find "caSecretRef" = t.caSecretRef.map .ref := by
  simp only [TLSConfig.members, find_addMember]
  refine ⟨by simp, ?_, by simp, by simp, by simp, ?_⟩
  · cases t.insecureSkipVerify <;> simp
  · cases t.caSecretRef <;> simp

/-- What the patch makes of a block that the device has. -/
def TLSConfig.overlaid (old new : TLSConfig) : TLSConfig where
  enabled := new.enabled
  insecureSkipVerify := new.insecureSkipVerify || old.insecureSkipVerify
  certFile := if new.certFile ≠ "" then new.certFile else old.certFile
  keyFile := if new.keyFile ≠ "" then new.keyFile else old.keyFile
  caFile := if new.caFile ≠ "" then new.caFile else old.caFile
  caSecretRef := new.caSecretRef.or old.caSecretRef

theorem ofMembers_merge : TLSConfig.ofMembers (old.members.merge new.members) =
    old.overlaid new := by
  obtain ⟨h₁, h₂, h₃, h₄, h₅, h₆⟩ := find_members old
  obtain ⟨g₁, g₂, g₃, g₄, g₅, g₆⟩ := find_members new
  simp only [TLSConfig.ofMembers, Map.find_merge, h₁, h₂, h₃, h₄, h₅, h₆, g₁, g₂, g₃, g₄, g₅, g₆,
    TLSConfig.overlaid, TLSConfig.mk.injEq]
  refine ⟨rfl, ?_, ?_, ?_, ?_, ?_⟩
  · cases new.insecureSkipVerify <;> cases old.insecureSkipVerify <;> rfl
  · by_cases hn : new.certFile = "" <;> by_cases ho : old.certFile = "" <;> simp [hn, ho]
  · by_cases hn : new.keyFile = "" <;> by_cases ho : old.keyFile = "" <;> simp [hn, ho]
  · by_cases hn : new.caFile = "" <;> by_cases ho : old.caFile = "" <;> simp [hn, ho]
  · cases new.caSecretRef <;> cases old.caSecretRef <;> rfl

theorem ofMembers_members (t : TLSConfig) : TLSConfig.ofMembers t.members = t := by
  obtain ⟨h₁, h₂, h₃, h₄, h₅, h₆⟩ := find_members t
  obtain ⟨enabled, insecure, cert, key, ca, ref⟩ := t
  simp only [] at h₁ h₂ h₃ h₄ h₅ h₆
  simp only [TLSConfig.ofMembers, h₁, h₂, h₃, h₄, h₅, h₆, TLSConfig.mk.injEq]
  refine ⟨trivial, ?_, ?_, ?_, ?_, ?_⟩
  · cases insecure <;> rfl
  · by_cases h : cert = "" <;> simp [h]
  · by_cases h : key = "" <;> simp [h]
  · by_cases h : ca = "" <;> simp [h]
  · cases ref <;> rfl

/-- Every member that the old block has is in the new one. -/
structure TLSConfig.CoveredBy (old new : TLSConfig) : Prop where
  insecureSkipVerify : new.insecureSkipVerify = false → old.insecureSkipVerify = false
  certFile : new.certFile = "" → old.certFile = ""
  keyFile : new.keyFile = "" → old.keyFile = ""
  caFile : new.caFile = "" → old.caFile = ""
  caSecretRef : new.caSecretRef = none → old.caSecretRef = none

theorem overlaid_eq_iff : old.overlaid new = new ↔ old.CoveredBy new := by
  obtain ⟨enabled, insecure, cert, key, ca, ref⟩ := new
  simp only [TLSConfig.overlaid, TLSConfig.mk.injEq]
  constructor
  · rintro ⟨-, h₁, h₂, h₃, h₄, h₅⟩
    refine ⟨fun h => ?_, fun h => ?_, fun h => ?_, fun h => ?_, fun h => ?_⟩
    · simpa [show insecure = false from h] using h₁
    · simpa [show cert = "" from h] using h₂
    · simpa [show key = "" from h] using h₃
    · simpa [show ca = "" from h] using h₄
    · simpa [show ref = none from h] using h₅
  · rintro ⟨h₁, h₂, h₃, h₄, h₅⟩
    refine ⟨trivial, ?_, ?_, ?_, ?_, ?_⟩
    · cases insecure with
      | false => exact h₁ rfl
      | true => rfl
    · by_cases h : cert = ""
      · simp [h, h₂ h]
      · simp [h]
    · by_cases h : key = ""
      · simp [h, h₃ h]
      · simp [h]
    · by_cases h : ca = ""
      · simp [h, h₄ h]
      · simp [h]
    · cases ref with
      | none => exact h₅ rfl
      | some name => rfl

theorem patched_eq (tls : Option TLSConfig) : TLSConfig.patched tls new =
    (tls.map (·.overlaid new)).getD new := by
  cases tls with
  | none => exact ofMembers_members new
  | some old => exact ofMembers_merge

/-! ## Labels -/

theorem find_apply {p : LabelPatch} :
    (p.apply labels).find k = match p.find k with
      | some v => v
      | none => labels.find k := by
  rw [LabelPatch.apply, Map.find_merge, Map.find_filterMap, Map.find_filterMap]
  cases hp : p.find k with
  | none => cases labels.find k <;> rfl
  | some v =>
    cases v with
    | none => cases labels.find k <;> rfl
    | some v => rfl

theorem find_labelPatch :
    (labelPatch labels want stale).find k =
      if k ∈ stale ∧ (labels.find k).isSome then some none
      else (want.find k).bind fun v => if labels.find k = some v then none else some (some v) := by
  have hfold : ∀ (stale : List String) (p : LabelPatch),
      (stale.foldl (fun out k => if (labels.find k).isSome then out.set k none else out) p).find k =
        if k ∈ stale ∧ (labels.find k).isSome then some none else p.find k := by
    intro stale
    induction stale with
    | nil => intro p; simp
    | cons key rest ih =>
      intro p
      rw [List.foldl_cons, ih]
      by_cases hkey : k = key
      · subst hkey
        by_cases hsome : (labels.find k).isSome = true
        · simp [hsome]
        · simp [hsome]
      · by_cases hsome : (labels.find key).isSome = true
        · simp [hsome, hkey, Map.find_set_ne hkey]
        · simp [hsome, hkey]
  rw [labelPatch, hfold, Map.find_filterMap]

/-- The labels after the patch: a stale one that was there is gone, and of the
others those that are wanted have the wanted value. -/
theorem find_patched :
    ((labelPatch labels want stale).apply labels).find k =
      if k ∈ stale ∧ (labels.find k).isSome then none else (want.find k).or (labels.find k) := by
  rw [find_apply, find_labelPatch]
  by_cases hstale : k ∈ stale ∧ (labels.find k).isSome = true
  · rw [if_pos hstale, if_pos hstale]
  rw [if_neg hstale, if_neg hstale]
  cases hwant : want.find k with
  | none => rfl
  | some v =>
    by_cases hsame : labels.find k = some v
    · simp [hsame]
    · simp [hsame]

theorem labelPatch_eq_empty :
    labelPatch labels want stale = ∅ ↔
      (∀ k, k ∈ stale → labels.find k = none) ∧
        ∀ k v, want.find k = some v → labels.find k = some v := by
  constructor
  · intro h
    have hnone : ∀ k, (labelPatch labels want stale).find k = none := by
      intro k
      rw [h]
      exact Map.find_empty
    refine ⟨fun k hk => ?_, fun k v hv => ?_⟩
    · have hpatch := hnone k
      rw [find_labelPatch] at hpatch
      cases hfind : labels.find k with
      | none => rfl
      | some v => simp [hk, hfind] at hpatch
    · have hpatch := hnone k
      rw [find_labelPatch, hv] at hpatch
      by_contra hne
      by_cases hstale : k ∈ stale ∧ (labels.find k).isSome = true
      · simp [hstale] at hpatch
      · rw [if_neg hstale] at hpatch
        simp [hne] at hpatch
  · rintro ⟨hstale, hwant⟩
    refine Map.ext_find fun k => ?_
    rw [find_labelPatch, Map.find_empty, if_neg]
    · cases hv : want.find k with
      | none => rfl
      | some v => simp [hwant k v hv]
    · rintro ⟨hk, hsome⟩
      rw [hstale k hk] at hsome
      cases hsome

theorem mem_staleKeys (h : k ∈ staleKeys listed want) : want.find k = none := by
  have hk := (List.mem_filter.mp h).2
  rw [Bool.and_eq_true] at hk
  exact Option.isNone_iff_eq_none.mp hk.2

theorem staleKeys_managedKeys
    (hkeys : ∀ k v, want.find k = some v → ',' ∉ k.toList) :
    staleKeys (managedKeys want) want = [] := by
  rw [staleKeys, managedKeys, String.toList_ofList, List.filter_eq_nil_iff]
  intro k hk
  rw [Bool.and_eq_true, not_and, Bool.not_eq_true, Option.isNone_eq_false_iff]
  intro hne
  have hne : k ≠ "" := by simpa using hne
  by_cases hnone : want.keys.sort (· ≤ ·) = []
  · rw [hnone] at hk
    have hempty : k = "" := by simpa using hk
    exact absurd hempty hne
  have hsplit : ([','].intercalate ((want.keys.sort (· ≤ ·)).map String.toList)).splitOn ',' =
      (want.keys.sort (· ≤ ·)).map String.toList := by
    refine List.splitOn_intercalate ',' (fun l hl => ?_) (by simpa using hnone)
    obtain ⟨key, hkey, rfl⟩ := List.mem_map.mp hl
    have hmem : key ∈ want := Finmap.mem_keys.mp ((Finset.mem_sort _).mp hkey)
    obtain ⟨v, hv⟩ := Finmap.mem_iff.mp hmem
    exact hkeys key v hv
  rw [hsplit, List.map_map] at hk
  obtain ⟨key, hkey, heq⟩ := List.mem_map.mp hk
  have heq : key = k := by simpa using heq
  subst heq
  have hmem : key ∈ want := Finmap.mem_keys.mp ((Finset.mem_sort _).mp hkey)
  obtain ⟨v, hv⟩ := Finmap.mem_iff.mp hmem
  exact Option.isSome_iff_exists.mpr ⟨v, hv⟩

/-! ## Convergence -/

def devicePatch (cur : CiscoDevice) (it : InventoryItem) (access : NetworkControllerDeviceAccess) :
    Patch := mergePatch cur it access (nodeLabels access it)

def patchedDevice (cur : CiscoDevice) (it : InventoryItem)
    (access : NetworkControllerDeviceAccess) : CiscoDevice := (devicePatch cur it access).apply cur

/-- The keys that the device lists as managed and that are not wanted. -/
def staleOf (cur : CiscoDevice) (it : InventoryItem) (access : NetworkControllerDeviceAccess) :
    List String := staleKeys cur.managedLabels (nodeLabels access it)

/-- The patch has done what it is for, and there is nothing left to do. -/
structure Converges (cur : CiscoDevice) (it : InventoryItem)
    (access : NetworkControllerDeviceAccess) : Prop where
  address : (patchedDevice cur it access).address = it.mgmtAddress
  username : (patchedDevice cur it access).username = access.username
  credentialSecretRef :
    (patchedDevice cur it access).credentialSecretRef = some access.credentialSecretRef
  tls : ∀ t, access.tls = some t → (patchedDevice cur it access).tls = some t
  tlsKept : access.tls = none → (patchedDevice cur it access).tls = cur.tls
  staleGone : ∀ k ∈ staleOf cur it access,
    (patchedDevice cur it access).specLabels.find k = none ∧
      (k ≠ labelManagedBy → (patchedDevice cur it access).labels.find k = none)
  labelsKept : ∀ k, (nodeLabels access it).find k = none → k ∉ staleOf cur it access →
    (patchedDevice cur it access).specLabels.find k = cur.specLabels.find k ∧
      (k ≠ labelManagedBy → (patchedDevice cur it access).labels.find k = cur.labels.find k)
  annotationKept : (patchedDevice cur it access).missingSince = cur.missingSince
  settled : (devicePatch (patchedDevice cur it access) it access).changed = false

def wantedLabels (access : NetworkControllerDeviceAccess) (it : InventoryItem) : Labels :=
  (nodeLabels access it).merge ((∅ : Labels).set labelManagedBy managedByValue)

theorem find_wantedLabels : (wantedLabels access it).find k =
    if k = labelManagedBy then some managedByValue else (nodeLabels access it).find k := by
  rw [wantedLabels, Map.find_merge]
  by_cases hk : k = labelManagedBy
  · subst hk
    rw [Map.find_set_self, if_pos rfl]
    rfl
  · rw [Map.find_set_ne hk, if_neg hk]
    rfl

theorem getD_ite {α : Type} [DecidableEq α] (a b : α) :
    (if a ≠ b then some b else none).getD a = b := by
  by_cases h : a = b
  · simp [h]
  · simp [h]

theorem tls_patched : (patchedDevice cur it access).tls = match access.tls with
    | none => cur.tls
    | some t => if cur.tls = some t then some t else some (TLSConfig.patched cur.tls t) := by
  show ((if access.tls ≠ none ∧ cur.tls ≠ access.tls then access.tls else none).map
    (TLSConfig.patched cur.tls)).or cur.tls = _
  cases access.tls with
  | none => simp
  | some t =>
    by_cases h : cur.tls = some t
    · simp [h]
    · simp [h]

theorem specLabels_patched : (patchedDevice cur it access).specLabels.find k =
    if k ∈ staleOf cur it access then none
    else ((nodeLabels access it).find k).or (cur.specLabels.find k) := by
  have hpatched : (patchedDevice cur it access).specLabels.find k = _ :=
    @find_patched cur.specLabels (nodeLabels access it) (staleOf cur it access) k
  rw [hpatched]
  by_cases hstale : k ∈ staleOf cur it access
  · rw [if_pos hstale]
    cases hfind : cur.specLabels.find k with
    | none => simp [mem_staleKeys hstale]
    | some v => exact if_pos ⟨hstale, rfl⟩
  · rw [if_neg hstale, if_neg fun h => hstale h.1]

theorem labels_patched : (patchedDevice cur it access).labels.find k =
    if k ∈ staleOf cur it access ∧ (cur.labels.find k).isSome then none
    else ((wantedLabels access it).find k).or (cur.labels.find k) :=
  find_patched

theorem managedLabels_patched :
    (patchedDevice cur it access).managedLabels = managedKeys (nodeLabels access it) := by
  simp only [patchedDevice, devicePatch, mergePatch, Patch.apply]
  exact getD_ite ..

/-- The managed-by label is listed as managed, and there. -/
def ManagedByStale (cur : CiscoDevice) (it : InventoryItem)
    (access : NetworkControllerDeviceAccess) : Prop :=
  labelManagedBy ∈ staleOf cur it access ∧ (cur.labels.find labelManagedBy).isSome

theorem devicePatch_changed : (devicePatch cur it access).changed = false ↔
    cur.address = it.mgmtAddress ∧ cur.username = access.username ∧
    cur.credentialSecretRef = some access.credentialSecretRef ∧
    (access.tls = none ∨ cur.tls = access.tls) ∧ cur.physicalIdentity ≠ "" ∧
    labelPatch cur.specLabels (nodeLabels access it) (staleOf cur it access) = ∅ ∧
    labelPatch cur.labels (wantedLabels access it) (staleOf cur it access) = ∅ ∧
    cur.managedLabels = managedKeys (nodeLabels access it) := by
  have hunset : ∀ (p : Prop) [Decidable p] (v : String),
      (if ¬ p then some v else none) = none ↔ p := by
    intro p _ v
    by_cases hp : p
    · simp [hp]
    · simp [hp]
  have htls : (if ¬ access.tls = none ∧ ¬ cur.tls = access.tls then access.tls else none) = none ↔
      access.tls = none ∨ cur.tls = access.tls := by
    by_cases hnone : access.tls = none
    · simp [hnone]
    · by_cases hsame : cur.tls = access.tls
      · simp [hsame]
      · simp [hnone, hsame]
  have hidentity : (if cur.physicalIdentity = "" then some it.serial else none) = none ↔
      cur.physicalIdentity ≠ "" := by
    by_cases hempty : cur.physicalIdentity = ""
    · simp [hempty]
    · simp [hempty]
  simp only [Patch.changed, decide_eq_false_iff_not, ne_eq, not_not, devicePatch, mergePatch,
    Patch.mk.injEq]
  rw [hunset, hunset, hunset, htls, hidentity, hunset]
  rfl

theorem labelPatch_patched
    (hkeys : ∀ k v, (nodeLabels access it).find k = some v → ',' ∉ k.toList)
    (hstale : ¬ ManagedByStale cur it access) :
    labelPatch (patchedDevice cur it access).specLabels (nodeLabels access it)
      (staleOf (patchedDevice cur it access) it access) = ∅ ∧
    labelPatch (patchedDevice cur it access).labels (wantedLabels access it)
      (staleOf (patchedDevice cur it access) it access) = ∅ := by
  have hnone : staleOf (patchedDevice cur it access) it access = [] := by
    rw [staleOf, managedLabels_patched]
    exact staleKeys_managedKeys hkeys
  rw [hnone, labelPatch_eq_empty, labelPatch_eq_empty]
  refine ⟨⟨nofun, fun k v hv => ?_⟩, nofun, fun k v hv => ?_⟩
  · have hwanted : k ∉ staleOf cur it access := by
      intro hk
      rw [mem_staleKeys hk] at hv
      cases hv
    rw [specLabels_patched, if_neg hwanted, hv]
    rfl
  · rw [labels_patched, if_neg, hv]
    · rfl
    rintro ⟨hk, hsome⟩
    rw [find_wantedLabels] at hv
    split at hv
    · rename_i hmanaged
      subst hmanaged
      exact hstale ⟨hk, hsome⟩
    · rw [mem_staleKeys hk] at hv
      cases hv

/-- The patch of an owned device converges exactly if it need not remove a
member of the TLS block, and the device does not list the managed-by label as
one of those to be given up. -/
theorem patch_converges_iff (hserial : validIdentity it.serial = true)
    (hkeys : ∀ k v, (nodeLabels access it).find k = some v → ',' ∉ k.toList) :
    Converges cur it access ↔
      (∀ old new, cur.tls = some old → access.tls = some new → old.CoveredBy new) ∧
        ¬ ManagedByStale cur it access := by
  have htls : ∀ new, access.tls = some new → ((patchedDevice cur it access).tls = some new ↔
      ∀ old, cur.tls = some old → old.CoveredBy new) := by
    intro new hnew
    rw [tls_patched, hnew]
    simp only [patched_eq]
    cases cur.tls with
    | none => simp
    | some old =>
      by_cases hsame : old = new
      · subst hsame
        simp [← overlaid_eq_iff, TLSConfig.overlaid]
      · simp [hsame, overlaid_eq_iff]
  constructor
  · intro h
    refine ⟨fun old new hold hnew => (htls new hnew).mp (h.tls new hnew) old hold, ?_⟩
    rintro ⟨hstale, hsome⟩
    -- The label is gone, and a second patch would set it again.
    have hgone : (patchedDevice cur it access).labels.find labelManagedBy = none := by
      rw [labels_patched, if_pos ⟨hstale, hsome⟩]
    have hlabels := (devicePatch_changed.mp h.settled).2.2.2.2.2.2.1
    have hwant := (labelPatch_eq_empty.mp hlabels).2 labelManagedBy managedByValue
      (by rw [find_wantedLabels, if_pos rfl])
    rw [hgone] at hwant
    cases hwant
  · rintro ⟨hcovered, hmanaged⟩
    have htlsSet : ∀ t, access.tls = some t → (patchedDevice cur it access).tls = some t :=
      fun t ht => (htls t ht).mpr fun old hold => hcovered old t hold ht
    have htlsKept : access.tls = none → (patchedDevice cur it access).tls = cur.tls := by
      intro hnone
      rw [tls_patched, hnone]
    have haddress : (patchedDevice cur it access).address = it.mgmtAddress := getD_ite ..
    have husername : (patchedDevice cur it access).username = access.username := getD_ite ..
    have hcredential : (patchedDevice cur it access).credentialSecretRef =
        some access.credentialSecretRef := by
      show (if cur.credentialSecretRef ≠ some access.credentialSecretRef then
        some access.credentialSecretRef else none).or cur.credentialSecretRef = _
      by_cases hsame : cur.credentialSecretRef = some access.credentialSecretRef
      · simp [hsame]
      · simp [hsame]
    have hidentity : (patchedDevice cur it access).physicalIdentity ≠ "" := by
      show (if cur.physicalIdentity = "" then some it.serial else none).getD
        cur.physicalIdentity ≠ ""
      by_cases hempty : cur.physicalIdentity = ""
      · rw [if_pos hempty]
        intro hserial'
        rw [show it.serial = "" from hserial'] at hserial
        exact absurd hserial (by decide)
      · rw [if_neg hempty]
        exact hempty
    obtain ⟨hspec, hmeta⟩ := labelPatch_patched hkeys hmanaged
    refine ⟨haddress, husername, hcredential, htlsSet, htlsKept, fun k hk => ?_,
      fun k hk hstale => ?_, rfl, ?_⟩
    · refine ⟨by rw [specLabels_patched, if_pos hk], fun hne => ?_⟩
      rw [labels_patched]
      split
      · rfl
      rename_i hgone
      have hnone : cur.labels.find k = none := by
        simpa [hk] using hgone
      rw [find_wantedLabels, if_neg hne, mem_staleKeys hk, hnone]
      rfl
    · refine ⟨?_, fun hne => ?_⟩
      · rw [specLabels_patched, if_neg hstale, hk]
        rfl
      · rw [labels_patched, if_neg fun h => hstale h.1, find_wantedLabels, if_neg hne, hk]
        rfl
    · refine devicePatch_changed.mpr ⟨haddress, husername, hcredential, ?_, hidentity, hspec, hmeta,
        managedLabels_patched⟩
      cases hnew : access.tls with
      | none => exact .inl rfl
      | some new => exact .inr (htlsSet new hnew)

/-! A leaf switch, adopted with unverified TLS first. -/

def leafItem : InventoryItem :=
  ⟨"FDO23170ABC", "leaf1", "192.0.2.10", "N9K-C93180YC-FX", "fab-a", "leaf", true, ""⟩

def leafAccess (tls : TLSConfig) : NetworkControllerDeviceAccess where
  username := "admin"
  credentialSecretRef := "switch-creds"
  tls := some tls
  labels := (∅ : Labels).set "wave" "1"

def leafDevice : CiscoDevice where
  name := "nd-fdo23170abc"
  uid := 1
  labels := (∅ : Labels).set labelController "controller-1"
  address := "192.0.2.9"
  physicalIdentity := "FDO23170ABC"
  username := "admin"
  credentialSecretRef := some "switch-creds"
  tls := some { enabled := true, insecureSkipVerify := true }

theorem leafLabels_keys (tls : TLSConfig) : ∀ k v,
    (nodeLabels (leafAccess tls) leafItem).find k = some v → ',' ∉ k.toList := by
  have hevery : Map.Every (fun k _ => ',' ∉ k.toList) (nodeLabels (leafAccess tls) leafItem) := by
    show Map.Every (fun k _ => ',' ∉ k.toList)
      (Map.merge ((∅ : Labels).set "wave" "1") (desiredLabels leafItem))
    decide +kernel
  exact Map.every_iff.mp hevery

/-- The patch does not converge if verification is to be switched on again. -/
theorem unverified_tls_stays : ¬ Converges leafDevice leafItem (leafAccess { enabled := true }) := by
  intro h
  have htls := h.tls { enabled := true } rfl
  have hstays : (patchedDevice leafDevice leafItem (leafAccess { enabled := true })).tls =
      some { enabled := true, insecureSkipVerify := true } := by decide +kernel
  rw [hstays] at htls
  exact absurd htls (by decide)

/-- It does if only the client certificate is added. -/
theorem certificate_added : Converges leafDevice leafItem
    (leafAccess { enabled := true, insecureSkipVerify := true, certFile := "/tls/client.pem" }) := by
  refine (patch_converges_iff (by decide +kernel) (leafLabels_keys _)).mpr ⟨?_, ?_⟩
  · rintro old new ⟨⟩ ⟨⟩
    exact ⟨nofun, fun _ => rfl, fun _ => rfl, fun _ => rfl, fun _ => rfl⟩
  · rintro ⟨hstale, -⟩
    exact absurd hstale (by decide +kernel)

end VirtualKubelet.ControllerAdapter.NexusDashboard
