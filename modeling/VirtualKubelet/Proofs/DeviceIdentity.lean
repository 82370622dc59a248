import VirtualKubelet.Proofs.SyncRequests

/-!
# Whose switch a device stands for

The name of a device is derived from the serial number of its switch, and what
a sync finds under that name it takes for the same switch: `mergePatch` does
not look at the identity the device was recorded with. The derivation forgets
case and punctuation, so that is right only for serial numbers that it keeps
apart.
-/

namespace VirtualKubelet.ControllerAdapter.NexusDashboard

open Go Api Program

variable {uid : String} {serials : Set String} {start : World} {log : List (Nat × SyncEvent)}
  {s : SyncPool}

/-- The sync that begins with this listing takes the item for the device of that
name. -/
def Adopts (e : SyncEvent) (it : InventoryItem) (name : String) : Prop :=
  ∃ k devices, e = ⟨(k, .list), .ok devices⟩ ∧ k.Offers it name ∧
    (k.adoption.resolveAccess it.fabric).isSome ∧
    ∀ d, (Snapshot.of devices).find name = some d → OwnedBy k.uid d

/-- A device is created with the address and the labels of one item, whose
serial number it records. It is patched with those of an item whose serial
number is the one it has on record, if any. -/
def Faithful (w : World) : SyncRequest → Prop
  | (k, .create d) => ∃ it access, k.Offers it d.name ∧
      k.adoption.resolveAccess it.fabric = some access ∧ d.physicalIdentity = it.serial ∧
      d.address = it.mgmtAddress ∧ d.specLabels = nodeLabels access it
  | (k, .patch cur p) => ∃ it access, k.Offers it cur.name ∧
      k.adoption.resolveAccess it.fabric = some access ∧
      p = mergePatch cur it access (nodeLabels access it) ∧
      ∀ d ∈ w.devices, d.name = cur.name → OwnedBy k.uid d → d.physicalIdentity ≠ "" →
        d.physicalIdentity = it.serial
  | _ => True

/-- What is claimed of the calls made so far, and of whichever comes next. -/
structure KeepsIdentity (log : List (Nat × SyncEvent)) (s : SyncPool) : Prop where
  distinct : ∀ e ∈ log, ∀ e' ∈ log, ∀ it it' name, Adopts e.2 it name → Adopts e'.2 it' name →
    it.serial = it'.serial
  faithful : ∀ i past c next, s.clients i = some ⟨past, .call c next⟩ → Faithful s.shared c

/-- The device has no identity on record, or one that its name comes from. -/
def Recorded (serials : Set String) (d : CiscoDevice) : Prop :=
  d.physicalIdentity ≠ "" →
    d.physicalIdentity ∈ serials ∧ deviceName d.physicalIdentity = some d.name

/-- The settings are valid, and the serial numbers are among these. -/
structure Job.OfferedFrom (serials : Set String) (k : Job) : Prop where
  valid : k.Valid
  serials : ∀ it name, k.Offers it name → it.serial ∈ serials

def KeptApart (serials : Set String) : Prop :=
  ∀ serial ∈ serials, ∀ serial' ∈ serials, ∀ name, deviceName serial = some name →
    deviceName serial' = some name → serial = serial'

/-! ## The identities on record -/

theorem physicalIdentity_patched {cur d : CiscoDevice} {it : InventoryItem}
    {access : NetworkControllerDeviceAccess} :
    ((mergePatch cur it access (nodeLabels access it)).apply d).physicalIdentity =
      if cur.physicalIdentity = "" then it.serial else d.physicalIdentity := by
  show (if cur.physicalIdentity = "" then some it.serial else none).getD d.physicalIdentity = _
  split <;> rfl

theorem Serves.recorded {w w' : World} {c : SyncRequest} {a : SyncReply c}
    {past : List SyncEvent} (hc : Guarded uid (Job.OfferedFrom serials) past c)
    (h : Serves w c a w') (hw : ∀ d ∈ w.devices, OwnedBy uid d → Recorded serials d) :
    ∀ d ∈ w'.devices, OwnedBy uid d → Recorded serials d := by
  intro d hd howned
  obtain ⟨k, c⟩ := c
  have hallowed : k.Allowed (past.map untag) c := hc.allowed
  cases h.origin hd with
  | kept hold => exact hw d hold howned
  | created =>
    obtain ⟨-, it, name, access, taken, hoffers, -, rfl⟩ := hallowed
    exact fun _ => ⟨hc.admitted.serials it name hoffers, hoffers.name⟩
  | @patched cur o p ho hname =>
    obtain ⟨-, -, it, access, hoffers, haccess, rfl⟩ := hallowed
    have hrecorded := hw o ho (ownedBy_patched (hc.admitted.valid _ _ haccess) howned)
    intro hidentity
    rw [physicalIdentity_patched] at hidentity ⊢
    split
    · refine ⟨hc.admitted.serials it _ hoffers, ?_⟩
      rw [hoffers.name, ← hname]
      rfl
    · rename_i hcur
      rw [if_neg hcur] at hidentity
      exact hrecorded hidentity
  | @stamped _ o _ ho | @deleting _ o _ ho => exact hw o ho howned

/-- The devices are recorded under their names, and the calls so far were made
for admitted jobs. -/
structure Identified (uid : String) (serials : Set String) (log : List (Nat × SyncEvent))
    (s : SyncPool) : Prop where
  devices : ∀ d ∈ s.shared.devices, OwnedBy uid d → Recorded serials d
  jobs : ∀ e ∈ log, e.2.1.1.OfferedFrom serials

theorem identified_preserved (hstart : ∀ d ∈ start.devices, OwnedBy uid d → Recorded serials d) :
    Setting.Preserved (syncs uid (Job.OfferedFrom serials)) (fun _ _ => True)
      (Guarded uid (Job.OfferedFrom serials)) (fun _ _ => True) start
      (Identified uid serials) where
  nil := ⟨hstart, fun e he => absurd he List.not_mem_nil⟩
  set := fun h _ => ⟨h.devices, h.jobs⟩
  act := by
    intro log s i past c next r shared h _ hc hserve _
    exact ⟨trivial, hserve.recorded hc h.devices,
      List.forall_mem_append.mpr ⟨h.jobs, List.forall_mem_singleton.mpr hc.admitted⟩⟩
  drift := by
    intro log s shared h hdrift
    refine ⟨fun d hd howned => ?_, h.jobs⟩
    obtain ⟨o, ho, howned, hname, hidentity, -⟩ := hdrift.kept d hd howned
    have hrecorded := h.devices o ho howned
    rw [Recorded, hname, hidentity]
    exact hrecorded

theorem faithful_of_recorded {w : World} {c : SyncRequest} {past : List SyncEvent}
    (hserials : KeptApart serials) (hc : Guarded uid (Job.OfferedFrom serials) past c)
    (hw : ∀ d ∈ w.devices, OwnedBy uid d → Recorded serials d) : Faithful w c := by
  obtain ⟨k, c⟩ := c
  have hallowed : k.Allowed (past.map untag) c := hc.allowed
  cases c with
  | create d =>
    obtain ⟨-, it, name, access, taken, hoffers, haccess, rfl⟩ := hallowed
    exact ⟨it, access, hoffers, haccess, rfl, rfl, rfl⟩
  | patch cur p =>
    obtain ⟨-, -, it, access, hoffers, haccess, rfl⟩ := hallowed
    refine ⟨it, access, hoffers, haccess, rfl, fun d hd hname howned hidentity => ?_⟩
    have huid : k.uid = uid := hc.uid
    rw [huid] at howned
    obtain ⟨hmem, hderived⟩ := hw d hd howned hidentity
    exact hserials _ hmem _ (hc.admitted.serials it _ hoffers) _ hderived
      (hname ▸ hoffers.name)
  | _ => trivial

/-- As long as the serial numbers are kept apart by their names, no switch is
taken for another. -/
theorem devices_keep_identity (hserials : KeptApart serials)
    (hstart : ∀ d ∈ start.devices, OwnedBy uid d → Recorded serials d)
    (h : (syncs uid (Job.OfferedFrom serials)).Run (fun _ _ => True) start log s) :
    KeepsIdentity log s := by
  obtain ⟨⟨hworld, hlog⟩, hkept⟩ := h.preserves starts_obeys (identified_preserved hstart)
  constructor
  · intro e he e' he' it it' name hadopts hadopts'
    obtain ⟨k, devices, hk, hoffers, -⟩ := hadopts
    obtain ⟨k', devices', hk', hoffers', -⟩ := hadopts'
    have hjob := hlog e he
    have hjob' := hlog e' he'
    rw [hk] at hjob
    rw [hk'] at hjob'
    exact hserials _ (hjob.serials it name hoffers) _ (hjob'.serials it' name hoffers') name
      hoffers.name hoffers'.name
  · intro i past c next hi
    exact faithful_of_recorded hserials (hkept i _ hi).1 hworld

/-! A controller with one leaf switch, whose serial number is `serial`. -/

def leafJob (serial address : String) : Job where
  uid := "controller-1"
  adoption := { enabled := true, defaults := some (leafAccess { enabled := true }) }
  items := [{ leafItem with serial := serial, mgmtAddress := address }]

def emptyWorld : World := ⟨[], .nil, 0, 1, []⟩

theorem leafJob_valid (serial address : String) : (leafJob serial address).Valid := by
  intro fabric access haccess
  cases haccess
  exact Map.find_set_ne (by decide)

theorem leafJob_serial {serial address name : String} {it : InventoryItem}
    (h : (leafJob serial address).Offers it name) : it.serial = serial := by
  rw [List.mem_singleton.mp h.mem]

/-- The worker is about to patch the device of that name. -/
def patching (k : Job) (name : String) : Option SyncRequest → Bool
  | some (k', .patch cur _) => k' = k && cur.name = name
  | _ => false

theorem of_patching {k : Job} {name : String} {c : Option SyncRequest}
    (h : patching k name c = true) : ∃ cur p, c = some (k, .patch cur p) ∧ cur.name = name := by
  rcases c with _ | ⟨k', _ | _ | _ | _ | _ | ⟨cur, p⟩ | _ | _⟩
  case some.patch =>
    rw [patching, Bool.and_eq_true, decide_eq_true_eq, decide_eq_true_eq] at h
    exact ⟨cur, p, by rw [h.1], h.2⟩
  all_goals cases h

/-- One switch is adopted, then comes a sync whose inventory has another. -/
def leafJobs (first second : String) : List (Job × Nat) :=
  [(leafJob first "192.0.2.10", 5), (leafJob second "192.0.2.20", 3)]

/-- Where the serial numbers differ in punctuation only, the device of the one
switch is given the address of the other. -/
theorem punctuation_confuses_switches : ∃ log s,
    (syncs "controller-1" Job.Valid).Run (fun _ _ => True) emptyWorld log s ∧
      ¬ KeepsIdentity log s := by
  have hnil : (syncs "controller-1" Job.Valid).Run (fun _ _ => True) emptyWorld [] (.idle _) := .nil
  obtain ⟨log, clients, hrun, hclient⟩ := Run.visits _ true (leafJobs "FDO-1" "FDO.1")
    (none, emptyWorld) hnil rfl (List.forall_mem_cons.mpr ⟨⟨rfl, leafJob_valid _ _⟩,
      List.forall_mem_singleton.mpr ⟨rfl, leafJob_valid _ _⟩⟩) (fun _ => trivial)
    (fun _ _ _ => trivial) accepts_true
  refine ⟨log, _, hrun, fun h => ?_⟩
  obtain ⟨client, hsome, hpatching⟩ :
      ∃ client ∈ (visits true (leafJobs "FDO-1" "FDO.1") (none, emptyWorld)).1,
        patching (leafJob "FDO.1" "192.0.2.20") "nd-fdo-1" client.awaits = true := by
    decide +kernel
  obtain ⟨cur, p, hnext, hname⟩ := of_patching hpatching
  obtain ⟨past, next, rfl⟩ := Client.awaits_eq_some hnext
  obtain ⟨it, access, hoffers, -, -, hsame⟩ := h.faithful 0 past _ next (hclient.trans hsome)
  have hdevice : ∃ d ∈ (visits true (leafJobs "FDO-1" "FDO.1") (none, emptyWorld)).2.devices,
      d.name = "nd-fdo-1" ∧ OwnedBy "controller-1" d ∧ d.physicalIdentity = "FDO-1" := by
    decide +kernel
  obtain ⟨d, hd, hdname, howned, hidentity⟩ := hdevice
  have hserial := hsame d hd (hdname.trans hname.symm) howned (by rw [hidentity]; decide)
  rw [hidentity, leafJob_serial hoffers] at hserial
  exact absurd hserial (by decide)

theorem plain_serials_kept_apart : ∃ log s,
    (syncs "controller-1" (Job.OfferedFrom {"FDO23170ABC", "FDO23170ABD"})).Run
      (fun _ _ => True) emptyWorld log s ∧ s.shared.devices ≠ [] ∧ KeepsIdentity log s := by
  have hserials : KeptApart {"FDO23170ABC", "FDO23170ABD"} := by
    have hne : deviceName "FDO23170ABC" ≠ deviceName "FDO23170ABD" := by decide +kernel
    rintro a (rfl | rfl) b (rfl | rfl) name ha hb
    · rfl
    · exact absurd (ha.trans hb.symm) hne
    · exact absurd (hb.trans ha.symm) hne
    · rfl
  have hnil : (syncs "controller-1" (Job.OfferedFrom {"FDO23170ABC", "FDO23170ABD"})).Run
    (fun _ _ => True) emptyWorld [] (.idle _) := .nil
  obtain ⟨log, clients, hrun, -⟩ := Run.visits _ true (leafJobs "FDO23170ABC" "FDO23170ABD")
    (none, emptyWorld) hnil rfl (List.forall_mem_cons.mpr ⟨⟨rfl, leafJob_valid _ _,
        fun it name h => .inl (leafJob_serial h)⟩, List.forall_mem_singleton.mpr ⟨rfl,
        leafJob_valid _ _, fun it name h => .inr (leafJob_serial h)⟩⟩)
    (fun _ => trivial) (fun _ _ _ => trivial) accepts_true
  have hdevices : (visits true (leafJobs "FDO23170ABC" "FDO23170ABD")
      (none, emptyWorld)).2.devices ≠ [] := by
    decide +kernel
  refine ⟨log, _, hrun, hdevices, ?_⟩
  exact devices_keep_identity hserials (fun d hd => absurd hd List.not_mem_nil) hrun

end VirtualKubelet.ControllerAdapter.NexusDashboard
