import VirtualKubelet.ControllerAdapter.NexusRuns
import VirtualKubelet.Proofs.DevicePatch

/-!
# What one sync asks for

Whatever it is answered, a sync lists the devices once, creates and patches for
the items of its inventory, then reads the clock once, and from there on only
stamps and deletes. Each request is tied to the listing and the clock reading
among the events before it.
-/

namespace VirtualKubelet.ControllerAdapter.NexusDashboard

open Go Api Program
open List hiding max product set

abbrev WorkerEvent := Event Request Reply

def Listed (past : List WorkerEvent) (devices : List CiscoDevice) : Prop :=
  (⟨.list, .ok devices⟩ : WorkerEvent) ∈ past

def Clocked (past : List WorkerEvent) (now : Int) : Prop := (⟨.now, now⟩ : WorkerEvent) ∈ past

/-- The inventory has not been compared with the devices yet. -/
def Unclocked (past : List WorkerEvent) : Prop := ∀ e ∈ past, e.1 ≠ .now

def Request.isDelete : Request → Bool
  | .delete _ => true
  | _ => false

def deletions (past : List WorkerEvent) : Nat := past.countP fun e => e.1.isDelete

namespace Job

variable (k : Job)

/-- The sync goes on to adopt this item under that name. -/
structure Offers (it : InventoryItem) (name : String) : Prop where
  mem : it ∈ k.items
  kept : it.skipReason = "" ∧ it.reachable = true
  valid : validIdentity it.serial = true
  name : deviceName it.serial = some name

/-- The device can be deleted, given the listing and the time. -/
structure Due (devices : List CiscoDevice) (now : Int) (d : CiscoDevice) : Prop where
  listed : d ∈ devices
  owned : OwnedBy k.uid d
  missing : present k.items d = false
  stamped : ∃ first, stampedAt d = some first ∧
    effectiveGracePeriod k.adoption.removal ≤ now - first

def counted (d : CiscoDevice) : Bool := k.owned d && !d.deleting

/-- What a request of the sync has to do with the events before it. -/
def Allowed (past : List WorkerEvent) : Request → Prop
  | .list => past = []
  | .cancelled | .permit => True
  | .now => Unclocked past ∧ k.items ≠ [] ∧ ∃ devices, Listed past devices
  | .create d => Unclocked past ∧ ∃ it name access taken, k.Offers it name ∧
      k.adoption.resolveAccess it.fabric = some access ∧ d = k.newDevice name it access taken
  | .patch cur p => Unclocked past ∧ (∃ devices, Listed past devices) ∧
      ∃ it access, k.Offers it cur.name ∧ k.adoption.resolveAccess it.fabric = some access ∧
        p = mergePatch cur it access (nodeLabels access it)
  | .patchMissingSince _ stamp => ∃ now, Clocked past now ∧
      (stamp = none ∨ stamp = some (formatRFC3339 now))
  | .delete d => ∃ devices now, Listed past devices ∧ Clocked past now ∧ k.Due devices now d ∧
      (deletions past : Int) < k.pruneLimit (devices.countP k.counted)

variable {k}

theorem owned_iff : k.owned d = true ↔ OwnedBy k.uid d := by
  simp [owned, OwnedBy]

theorem pruneLimit_eq (owned : Nat) : k.pruneLimit owned =
    max 1 ((owned * effectiveMaxPrunePercent k.adoption.removal) / 100) := by
  simp only [pruneLimit]
  set product := (owned : Int) * effectiveMaxPrunePercent k.adoption.removal
  rcases Int.le_total 0 product with h | h
  · rw [Int.tdiv_eq_ediv_of_nonneg h]
    split <;> omega
  · have hquot : product.tdiv 100 = -((-product) / 100) := by
      rw [← Int.tdiv_eq_ediv_of_nonneg (by omega), Int.neg_tdiv, neg_neg]
    rw [if_pos (by omega)]
    omega

/-! ## Before the clock is read -/

variable {past : List WorkerEvent} {devices : List CiscoDevice} {now : Int}

structure Fetched (past : List WorkerEvent) (devices : List CiscoDevice) : Prop where
  listed : Listed past devices
  unclocked : Unclocked past
  deletions : deletions past = 0

theorem deletions_snoc (h : e.1.isDelete = false) : deletions (past ++ [e]) = deletions past := by
  rw [deletions, countP_append, countP_singleton, h]
  rfl

theorem unclocked_snoc (h : Unclocked past) (he : e.1 ≠ .now) : Unclocked (past ++ [e]) := by
  exact forall_mem_append.mpr ⟨h, forall_mem_singleton.mpr he⟩

theorem Fetched.snoc (h : Fetched past devices) (hnow : e.1 ≠ .now) (hdel : e.1.isDelete = false) :
    Fetched (past ++ [e]) devices :=
  ⟨mem_append_left _ h.listed, unclocked_snoc h.unclocked hnow,
    (deletions_snoc hdel).trans h.deletions⟩

theorem obeys_permitted {G : List WorkerEvent → Request → Prop} {P : List WorkerEvent → Prop}
    {send : Worker (Answer Unit)} (hP : P past) (hask : ∀ past, G past .permit)
    (hpermit : ∀ past r, P past → P (past ++ [⟨.permit, r⟩]))
    (hsend : ∀ past, P past → send.Obeys (fun _ _ => True) G past fun past' _ => P past') :
    (permitted send).Obeys (fun _ _ => True) G past fun past' _ => P past' := by
  refine obeys_bind.mpr ⟨hask past, fun b _ => ?_⟩
  have hasked := hpermit past b hP
  cases b with
  | false => exact hasked
  | true =>
    refine (hsend _ hasked).bind fun past' a _ hpast => ?_
    cases a <;> exact hpast

theorem obeys_apply (cur : Option CiscoDevice) (taken : List String) (h : Fetched past devices)
    (hoffers : k.Offers it name) (haccess : k.adoption.resolveAccess it.fabric = some access)
    (hcur : ∀ d, cur = some d → d.name = name) :
    (k.apply name it access cur taken).Obeys (fun _ _ => True) k.Allowed past
      fun past' _ => Fetched past' devices := by
  have hpermit : ∀ past r, Fetched past devices →
      Fetched (past ++ [(⟨.permit, r⟩ : WorkerEvent)]) devices :=
    fun past r h => h.snoc nofun rfl
  cases cur with
  | none =>
    refine (obeys_permitted h (fun _ => trivial) hpermit fun past h => ?_).bind
      fun past' _ _ h => h
    exact ⟨⟨h.unclocked, it, name, access, taken, hoffers, haccess, rfl⟩,
      fun r _ => h.snoc nofun rfl⟩
  | some cur =>
    rw [apply]
    split
    · exact h
    refine (obeys_permitted h (fun _ => trivial) hpermit fun past h => ?_).bind
      fun past' _ _ h => h
    rw [← hcur cur rfl] at hoffers
    exact ⟨⟨h.unclocked, ⟨devices, h.listed⟩, it, access, hoffers, haccess, rfl⟩,
      fun r _ => h.snoc nofun rfl⟩

theorem Snapshot.name_find {snapshot : Snapshot} (h : snapshot.find name = some d) :
    d.name = name := by
  simpa using List.find?_some h

theorem obeys_adopt (snapshot : Snapshot) (items : List InventoryItem) (taken : List String)
    (res : DeviceSyncResult)
    (hitems : ∀ it ∈ items, it ∈ k.items ∧ it.skipReason = "" ∧ it.reachable = true)
    (h : Fetched past devices) :
    (k.adopt snapshot items taken res).Obeys (fun _ _ => True) k.Allowed past
      fun past' _ => Fetched past' devices := by
  induction items generalizing taken res past with
  | nil => exact h
  | cons it rest ih =>
    have hrest := fun it hit => hitems it (mem_cons_of_mem _ hit)
    rw [adopt]
    refine obeys_bind.mpr ⟨trivial, fun b _ => ?_⟩
    have h : Fetched (past ++ [(⟨.cancelled, b⟩ : WorkerEvent)]) devices := h.snoc nofun rfl
    cases b with
    | true => exact h
    | false =>
      dsimp only
      split
      · exact ih taken _ hrest h
      rename_i name hname
      split
      · exact ih taken _ hrest h
      rename_i access haccess
      split
      · exact ih taken _ hrest h
      have hvalid : validIdentity it.serial = true := by
        by_contra hinvalid
        rw [if_neg hinvalid] at hname
        cases hname
      rw [if_pos hvalid] at hname
      obtain ⟨hmem, hkept⟩ := hitems it mem_cons_self
      refine (obeys_apply _ taken h ⟨hmem, hkept, hvalid, hname⟩ haccess
        fun d hd => Snapshot.name_find hd).bind fun past' a _ h => ?_
      split
      · exact h
      · exact ih _ _ hrest h

theorem mem_adoptable (h : it ∈ k.adoptable) :
    it ∈ k.items ∧ it.skipReason = "" ∧ it.reachable = true := by
  rw [adoptable, mem_insertionSort, mem_filter] at h
  simpa using h

/-! ## After the clock is read -/

structure Compared (past : List WorkerEvent) (devices : List CiscoDevice) (now : Int) : Prop where
  listed : Listed past devices
  clocked : Clocked past now

theorem Compared.snoc (h : Compared past devices now) : Compared (past ++ [e]) devices now :=
  ⟨mem_append_left _ h.listed, mem_append_left _ h.clocked⟩

theorem obeys_patchMissingSince (d : CiscoDevice) {stamp : Option String}
    (h : Compared past devices now ∧ deletions past = 0)
    (hstamp : stamp = none ∨ stamp = some (formatRFC3339 now)) :
    (patchMissingSince d stamp).Obeys (fun _ _ => True) k.Allowed past
      fun past' _ => Compared past' devices now ∧ deletions past' = 0 := by
  have hsnoc : ∀ past (e : WorkerEvent), e.1.isDelete = false →
      Compared past devices now ∧ deletions past = 0 →
      Compared (past ++ [e]) devices now ∧ deletions (past ++ [e]) = 0 :=
    fun past e he h => ⟨h.1.snoc, (deletions_snoc he).trans h.2⟩
  refine obeys_permitted h (fun _ => trivial) (fun past r => hsnoc past _ rfl) fun past h => ?_
  exact ⟨⟨now, h.1.clocked, hstamp⟩, fun r _ => hsnoc past _ rfl h⟩

/-- What the pass knows after the devices `seen`. -/
structure Collected (k : Job) (devices seen : List CiscoDevice) (now : Int) (pass : MissingPass) :
    Prop where
  due : ∀ d ∈ pass.due, k.Due devices now d
  owned : pass.owned = seen.countP k.counted

theorem Collected.uncounted {seen : List CiscoDevice} {pass : MissingPass} {d : CiscoDevice}
    (h : Collected k devices seen now pass) (hd : k.counted d = false) :
    Collected k devices (seen ++ [d]) now pass := by
  refine ⟨h.due, ?_⟩
  rw [h.owned, countP_append, countP_singleton, hd]
  rfl

theorem Collected.count {pass pass' : MissingPass} (h : Collected k devices seen now pass)
    (hd : k.counted d = true) (howned : pass'.owned = pass.owned + 1)
    (hdue : ∀ d ∈ pass'.due, k.Due devices now d) :
    Collected k devices (seen ++ [d]) now pass' := by
  refine ⟨hdue, ?_⟩
  rw [howned, h.owned, countP_append, countP_singleton, hd]
  rfl

theorem obeys_missingPass (seen rest : List CiscoDevice) (pass : MissingPass)
    (hdevices : devices = seen ++ rest) (hpass : Collected k devices seen now pass)
    (h : Compared past devices now ∧ deletions past = 0) :
    (k.missingPass now rest pass).Obeys (fun _ _ => True) k.Allowed past fun past' out =>
      (Compared past' devices now ∧ deletions past' = 0) ∧
        ∀ pass', out = .ok pass' → Collected k devices devices now pass' := by
  induction rest generalizing seen pass past with
  | nil =>
    refine ⟨h, fun pass' hout => ?_⟩
    cases hout
    rw [append_nil] at hdevices
    rw [← hdevices] at hpass
    exact hpass
  | cons d rest ih =>
    have hsplit : devices = (seen ++ [d]) ++ rest := by
      rw [hdevices, append_assoc]
      rfl
    rw [missingPass]
    split
    · rename_i hskip
      refine ih _ pass hsplit (hpass.uncounted ?_) h
      rw [counted]
      revert hskip
      cases k.owned d <;> cases d.deleting <;> simp
    · rename_i hkeep
      have hcounted : k.counted d = true := by
        rw [counted]
        revert hkeep
        cases k.owned d <;> cases d.deleting <;> simp
      have howned : OwnedBy k.uid d := by
        rw [counted, Bool.and_eq_true] at hcounted
        exact owned_iff.mp hcounted.1
      have hkept : ∀ res, Collected k devices (seen ++ [d]) now ⟨res, pass.owned + 1, pass.due⟩ :=
        fun _ => hpass.count hcounted rfl hpass.due
      dsimp only
      split
      · split
        · refine (obeys_patchMissingSince d h (.inl rfl)).bind fun past' a _ h => ?_
          rcases a with (_ | _) | ⟨⟩
          · exact ⟨h, nofun⟩
          · exact ih _ _ hsplit (hkept _) h
          · exact ih _ _ hsplit (hkept _) h
        · exact ih _ _ hsplit (hkept _) h
      · rename_i hmissing
        split
        · refine (obeys_patchMissingSince d h (.inr rfl)).bind fun past' a _ h => ?_
          rcases a with (_ | _) | ⟨⟩
          · exact ⟨h, nofun⟩
          · exact ih _ _ hsplit (hkept _) h
          · exact ih _ _ hsplit (hkept _) h
        · rename_i first hfirst
          split
          · rename_i hdue
            refine ih _ _ hsplit (hpass.count hcounted rfl (forall_mem_append.mpr
              ⟨hpass.due, forall_mem_singleton.mpr ?_⟩)) h
            exact ⟨by simp [hdevices], howned, by simpa using hmissing, first, hfirst, hdue.2⟩
          · exact ih _ _ hsplit (hkept _) h

theorem obeys_prune (due : List CiscoDevice) (res : DeviceSyncResult)
    (hdue : ∀ d ∈ due, k.Due devices now d) (h : Compared past devices now)
    (hlimit : (deletions past + due.length : Int) ≤ k.pruneLimit (devices.countP k.counted)) :
    (prune due res).Obeys (fun _ _ => True) k.Allowed past fun _ _ => True := by
  induction due generalizing res past with
  | nil => trivial
  | cons d rest ih =>
    rw [prune]
    refine obeys_bind.mpr ⟨trivial, fun b _ => ?_⟩
    have hasked : deletions (past ++ [(⟨.permit, b⟩ : WorkerEvent)]) = deletions past :=
      deletions_snoc rfl
    have h : Compared (past ++ [(⟨.permit, b⟩ : WorkerEvent)]) devices now := h.snoc
    rw [length_cons] at hlimit
    cases b with
    | false => trivial
    | true =>
      refine obeys_bind.mpr ⟨⟨devices, now, h.listed, h.clocked, hdue d mem_cons_self, ?_⟩,
        fun a _ => ?_⟩
      · rw [hasked]
        omega
      have hgone : deletions (past ++ [(⟨.permit, true⟩ : WorkerEvent)] ++ [⟨.delete d, a⟩]) =
          deletions past + 1 := by
        rw [deletions, countP_append, countP_singleton]
        exact congrArg (· + 1) hasked
      have hrest : ∀ res, (prune rest res).Obeys (fun _ _ => True) k.Allowed
          (past ++ [(⟨.permit, true⟩ : WorkerEvent)] ++ [⟨.delete d, a⟩]) fun _ _ => True := by
        intro res
        refine ih res (fun d hd => hdue d (mem_cons_of_mem _ hd)) h.snoc ?_
        rw [hgone]
        push_cast
        push_cast at hlimit
        omega
      cases a with
      | ok _ => exact hrest _
      | error e =>
        show Obeys _ _ (if e.reason = .notFound then _ else _) _ _
        split <;> exact hrest _

theorem obeys_reconcileMissing (res : DeviceSyncResult) (h : Fetched past devices) :
    (k.reconcileMissing devices res).Obeys (fun _ _ => True) k.Allowed past fun _ _ => True := by
  rw [reconcileMissing]
  split
  · trivial
  rename_i hitems
  refine obeys_bind.mpr ⟨⟨h.unclocked, hitems, devices, h.listed⟩, fun now _ => ?_⟩
  have hnow : Compared (past ++ [(⟨.now, now⟩ : WorkerEvent)]) devices now :=
    ⟨mem_append_left _ h.listed, mem_append_right _ (mem_singleton.mpr rfl)⟩
  have hstart : Collected k devices [] now { res := res } := ⟨nofun, rfl⟩
  refine (obeys_missingPass [] devices _ rfl hstart
    ⟨hnow, (deletions_snoc rfl).trans h.deletions⟩).bind fun past' out _ hout => ?_
  obtain ⟨⟨hnow, hdeletions⟩, hcollected⟩ := hout
  cases out with
  | error res => trivial
  | ok pass =>
    obtain ⟨hdue, howned⟩ := hcollected pass rfl
    simp only
    split
    · trivial
    split
    · trivial
    rename_i hlimit
    refine obeys_prune _ _ hdue hnow ?_
    rw [hdeletions, ← howned]
    push_cast
    omega

/-- Every request of a sync is tied to its events so far. -/
theorem obeys_sync : k.sync.Obeys (fun _ _ => True) k.Allowed [] fun _ _ => True := by
  refine obeys_bind.mpr ⟨rfl, fun a _ => ?_⟩
  cases a with
  | error e => trivial
  | ok devices =>
    have h : Fetched [(⟨.list, .ok devices⟩ : WorkerEvent)] devices := by
      refine ⟨mem_singleton.mpr rfl, fun e he => ?_, rfl⟩
      rw [mem_singleton.mp he]
      exact nofun
    refine (obeys_adopt _ k.adoptable _ _ (fun it => mem_adoptable) h).bind
      fun past' out _ h => ?_
    cases out with
    | error stop => trivial
    | ok res => exact obeys_reconcileMissing res h

end Job

/-! ## Under the tag of the job -/

/-- What is known of a request in a run. -/
structure Guarded (uid : String) (admitted : Job → Prop) (past : List SyncEvent)
    (c : SyncRequest) : Prop where
  tags : ∀ e ∈ past, e.1.1 = c.1
  allowed : c.1.Allowed (past.map untag) c.2
  uid : c.1.uid = uid
  admitted : admitted c.1

theorem starts_obeys (p : Program SyncRequest SyncReply Job.Step)
    (h : (syncs uid admitted).starts p) :
    p.Obeys (fun _ _ => True) (Guarded uid admitted) [] fun _ _ => True := by
  obtain ⟨k, hk, hadmitted, rfl⟩ := h
  have hobeys := (Obeys.tag (G := Job.Allowed) (Q := fun _ _ _ => True)
    (Job.obeys_sync (k := k))).and_uses (uses_tag k k.sync)
  refine (hobeys.imp fun past c hc => ?_).mono fun _ _ _ _ => trivial
  obtain ⟨⟨htags, hallowed⟩, htag⟩ := hc
  exact ⟨htags, hallowed, htag ▸ hk, htag ▸ hadmitted⟩

/-! ## Where a device comes from -/

/-- A device after a request, by the one it was before. -/
inductive Origin (w : World) : Request → CiscoDevice → Prop
  | kept {c : Request} {d : CiscoDevice} (h : d ∈ w.devices) : Origin w c d
  | created {d : CiscoDevice} : Origin w (.create d) { d with uid := w.nextUID }
  | patched {cur d : CiscoDevice} {p : Patch} (h : d ∈ w.devices) (hname : d.name = cur.name) :
      Origin w (.patch cur p) (p.apply d)
  | stamped {d o : CiscoDevice} {stamp : Option String} (h : o ∈ w.devices) :
      Origin w (.patchMissingSince d stamp) { o with missingSince := stamp }
  | deleting {d o : CiscoDevice} {b : Bool} (h : o ∈ w.devices) :
      Origin w (.delete d) { o with deleting := b }

section

variable {w w' : World} {k : Job} {c : Request} {d : CiscoDevice}

theorem mem_edit (h : d ∈ (w.edit name f hf).devices) :
    d ∈ w.devices ∨ ∃ o ∈ w.devices, o.name = name ∧ d = f o := by
  obtain ⟨o, ho, rfl⟩ := mem_map.mp h
  by_cases hname : o.name = name
  · exact .inr ⟨o, ho, hname, if_pos hname⟩
  · rw [if_neg hname]
    exact .inl ho

theorem World.Effect.origin (h : w.Effect c w') (hd : d ∈ w'.devices) : Origin w c d := by
  cases h with
  | created hnew =>
    rcases mem_cons.mp hd with rfl | hold
    · exact .created
    · exact .kept hold
  | patched =>
    rcases mem_edit hd with hold | ⟨o, ho, hname, rfl⟩
    · exact .kept hold
    · exact .patched ho hname
  | stamped =>
    rcases mem_edit hd with hold | ⟨o, ho, -, rfl⟩
    · exact .kept hold
    · exact .stamped ho
  | deleted => exact .kept (mem_filter.mp hd).1
  | deleting =>
    rcases mem_edit hd with hold | ⟨o, ho, -, rfl⟩
    · exact .kept hold
    · exact .deleting ho

theorem Serves.origin (h : Serves w (k, c) a w') (hd : d ∈ w'.devices) : Origin w c d := by
  cases h with
  | effect h => exact h.origin hd
  | _ => exact .kept hd

end

/-! ## Whose device it is -/

/-- The labels that the adoption configures are none of the adapter's own. -/
def Job.Valid (k : Job) : Prop :=
  ∀ fabric access, k.adoption.resolveAccess fabric = some access →
    access.labels.find labelController = none

theorem desiredLabels_controller (it : InventoryItem) :
    (desiredLabels it).find labelController = none := by
  have hadd : ∀ (m : Labels) (key value : String), labelController ≠ key →
      (if labelValue value = "" then m else m.set key (labelValue value)).find labelController =
        m.find labelController := by
    intro m key value hkey
    split
    · rfl
    · exact Map.find_set_ne hkey
  rw [desiredLabels]
  dsimp only
  rw [hadd _ _ _ (by decide), hadd _ _ _ (by decide), hadd _ _ _ (by decide)]
  rfl

theorem wantedLabels_controller {access : NetworkControllerDeviceAccess}
    (h : access.labels.find labelController = none) :
    (wantedLabels access it).find labelController = none := by
  rw [find_wantedLabels, if_neg (by decide), nodeLabels, Map.find_merge,
    desiredLabels_controller, h]
  rfl

theorem ownedBy_patched {access : NetworkControllerDeviceAccess}
    (hlabels : access.labels.find labelController = none)
    (h : OwnedBy uid ((mergePatch cur it access (nodeLabels access it)).apply d)) :
    OwnedBy uid d := by
  obtain ⟨huid, howned⟩ := h
  refine ⟨huid, ?_⟩
  have hfind : ((mergePatch cur it access (nodeLabels access it)).apply d).labels.find
      labelController = none ∨
      ((mergePatch cur it access (nodeLabels access it)).apply d).labels.find labelController =
        d.labels.find labelController := by
    have happly := @find_apply d.labels labelController
      (labelPatch cur.labels (wantedLabels access it) (staleOf cur it access))
    rw [find_labelPatch, wantedLabels_controller hlabels] at happly
    by_cases hstale : labelController ∈ staleOf cur it access ∧
        (cur.labels.find labelController).isSome
    · rw [if_pos hstale] at happly
      exact .inl happly
    · rw [if_neg hstale] at happly
      exact .inr happly
  rcases hfind with hnone | hsame
  · rw [Map.get, hnone] at howned
    exact absurd howned.symm huid
  · rw [Map.get, hsame] at howned
    exact howned

end VirtualKubelet.ControllerAdapter.NexusDashboard
