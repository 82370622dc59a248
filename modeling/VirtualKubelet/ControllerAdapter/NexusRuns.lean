import VirtualKubelet.ControllerAdapter.NexusDashboard

/-!
# Syncs of one controller

The worker of one controller syncs the devices of its namespace again and
again, each time with the settings and the inventory of the day, and can stop
anywhere. The API server can fail any request, and one that is answered with an
error may still have been carried out. Others may delete devices, create and
change foreign ones, and change those of the controller in what the adapter
does not own.

The world keeps, for what is said about it, the inventories that were processed
and the times at which.
-/

namespace VirtualKubelet.ControllerAdapter.NexusDashboard

open Go Api Program

def OwnedBy (uid : String) (d : CiscoDevice) : Prop :=
  uid ≠ "" ∧ d.labels.get "" labelController = uid

instance (uid : String) (d : CiscoDevice) : Decidable (OwnedBy uid d) :=
  inferInstanceAs (Decidable (_ ∧ _))

structure World where
  devices : List CiscoDevice
  names : (devices.map CiscoDevice.name).Nodup
  clock : Int
  nextUID : Nat
  /-- The inventories that a sync has compared the devices with, and when. -/
  processed : List (Int × List InventoryItem)

namespace World

variable (w : World)

def last : List InventoryItem := (w.processed.getLast?.map Prod.snd).getD []

def add (d : CiscoDevice) (h : d.name ∉ w.devices.map CiscoDevice.name) : World :=
  { w with
    devices := { d with uid := w.nextUID } :: w.devices
    names := List.nodup_cons.mpr ⟨h, w.names⟩
    nextUID := w.nextUID + 1 }

def edit (name : String) (f : CiscoDevice → CiscoDevice) (hf : ∀ d, (f d).name = d.name) : World :=
  { w with
    devices := w.devices.map fun d => if d.name = name then f d else d
    names := by
      have hnames : (w.devices.map fun d => if d.name = name then f d else d).map
          CiscoDevice.name = w.devices.map CiscoDevice.name := by
        rw [List.map_map]
        refine List.map_congr_left fun d _ => ?_
        show (if d.name = name then f d else d).name = d.name
        split
        · exact hf d
        · rfl
      rw [hnames]
      exact w.names }

/-- Removes the device, if it still is the same object. -/
def remove (d : CiscoDevice) : World :=
  { w with
    devices := w.devices.filter fun o => !(o.name = d.name && o.uid = d.uid)
    names := w.names.sublist (List.filter_sublist.map _) }

/-- What a mutation does if it is carried out. -/
inductive Effect : Request → World → Prop
  | created {d : CiscoDevice} (h : d.name ∉ w.devices.map CiscoDevice.name) :
      Effect (.create d) (w.add d h)
  | patched {cur : CiscoDevice} {p : Patch} :
      Effect (.patch cur p) (w.edit cur.name p.apply fun _ => rfl)
  | stamped {d : CiscoDevice} {stamp : Option String} :
      Effect (.patchMissingSince d stamp)
        (w.edit d.name (fun o => { o with missingSince := stamp }) fun _ => rfl)
  | deleted {d : CiscoDevice} : Effect (.delete d) (w.remove d)
  /-- Finalizers keep the object for a while. -/
  | deleting {d : CiscoDevice} :
      Effect (.delete d) (w.edit d.name
        (fun o => { o with deleting := o.deleting || decide (o.uid = d.uid) }) fun _ => rfl)

end World

abbrev SyncRequest := Job × Request

abbrev SyncReply (c : SyncRequest) := Reply c.2

/-- How a request can be answered, and what that leaves. -/
inductive Serves (w : World) : (c : SyncRequest) → SyncReply c → World → Prop
  | listed {k : Job} {devices : List CiscoDevice} (h : devices.Perm w.devices) :
      Serves w (k, .list) (.ok devices) w
  | listFailed {k : Job} (e : Error) : Serves w (k, .list) (.error e) w
  | cancelled {k : Job} (b : Bool) : Serves w (k, .cancelled) b w
  | permit {k : Job} (b : Bool) : Serves w (k, .permit) b w
  | now {k : Job} {t : Int} (h : w.clock ≤ t) :
      Serves w (k, .now) t { w with clock := t, processed := w.processed ++ [(t, k.items)] }
  | effect {k : Job} {c : Request} {a : Reply c} {w' : World} (h : w.Effect c w') :
      Serves w (k, c) a w'
  | createFailed {k : Job} {d : CiscoDevice} (e : Error) : Serves w (k, .create d) (.error e) w
  | patchFailed {k : Job} {cur : CiscoDevice} {p : Patch} (e : Error) :
      Serves w (k, .patch cur p) (.error e) w
  | stampFailed {k : Job} {d : CiscoDevice} {stamp : Option String} (e : Error) :
      Serves w (k, .patchMissingSince d stamp) (.error e) w
  | deleteFailed {k : Job} {d : CiscoDevice} (e : Error) : Serves w (k, .delete d) (.error e) w

/-- What the adapter owns of its devices is not touched by others, and nobody
else makes a device one of the controller's. -/
structure Foreign (uid : String) (w w' : World) : Prop where
  kept : ∀ d' ∈ w'.devices, OwnedBy uid d' → ∃ d ∈ w.devices, OwnedBy uid d ∧ d'.name = d.name ∧
    d'.physicalIdentity = d.physicalIdentity ∧ d'.missingSince = d.missingSince
  clock : w.clock ≤ w'.clock
  processed : w'.processed = w.processed

/-- The syncs of the controller with this UID that `admitted` allows. -/
def syncs (uid : String) (admitted : Job → Prop) : Setting World SyncRequest SyncReply Job.Step where
  starts p := ∃ k : Job, k.uid = uid ∧ admitted k ∧ p = k.sync.tag k
  serve := Serves
  drift := Foreign uid

abbrev SyncPool := Pool World SyncRequest SyncReply Job.Step

abbrev SyncEvent := Event SyncRequest SyncReply

def OneWorker (_ : SyncPool) (l : Option (Nat × SyncEvent)) : Prop :=
  ∀ i e, l = some (i, e) → i = 0

/-! ## One sync after the other, with a server that does as it is told -/

/-- Half a day passes between two syncs. With `clears` false, no stamp can be
removed. -/
def clerk (clears : Bool) : (c : SyncRequest) → World → SyncReply c × World
  | (_, .list), w => (.ok w.devices, w)
  | (_, .cancelled), w => (false, w)
  | (_, .permit), w => (true, w)
  | (k, .now), w =>
    let t := w.clock + 43200 * nanosPerSecond
    (t, { w with clock := t, processed := w.processed ++ [(t, k.items)] })
  | (_, .create d), w =>
    if h : d.name ∉ w.devices.map CiscoDevice.name then (.ok (), w.add d h)
    else (.error ⟨.alreadyExists, "the device exists"⟩, w)
  | (_, .patch cur p), w => (.ok (), w.edit cur.name p.apply fun _ => rfl)
  | (_, .patchMissingSince d stamp), w =>
    if clears || stamp.isSome then
      (.ok (), w.edit d.name (fun o => { o with missingSince := stamp }) fun _ => rfl)
    else (.error ⟨.other, "the server is busy"⟩, w)
  | (_, .delete d), w => (.ok (), w.remove d)

theorem clerk_serves (clears : Bool) (c : SyncRequest) (w : World) :
    Serves w c (clerk clears c w).1 (clerk clears c w).2 := by
  obtain ⟨k, c⟩ := c
  cases c with
  | list => exact .listed .rfl
  | cancelled => exact .cancelled false
  | permit => exact .permit true
  | now => exact .now (Int.le_add_of_nonneg_right (by decide))
  | create d =>
    by_cases h : d.name ∉ w.devices.map CiscoDevice.name
    · rw [clerk, dif_pos h]
      exact .effect (.created h)
    · rw [clerk, dif_neg h]
      exact .createFailed _
  | patch cur p => exact .effect .patched
  | patchMissingSince d stamp =>
    by_cases h : (clears || stamp.isSome) = true
    · rw [clerk, if_pos h]
      exact .effect .stamped
    · rw [clerk, if_neg h]
      exact .stampFailed _
  | delete d => exact .effect .deleted

def visit (clears : Bool) (k : Job) (n : Nat) (w : World) :
    Client SyncRequest SyncReply Job.Step × World :=
  Setting.drive (clerk clears) n ⟨[], k.sync.tag k⟩ w

abbrev Syncer := Client SyncRequest SyncReply Job.Step

/-- The worker syncs the jobs in turn, each for so many requests. -/
def visits (clears : Bool) : List (Job × Nat) → Option Syncer × World → Option Syncer × World
  | [], r => r
  | (k, n) :: jobs, r => visits clears jobs ((visit clears k n r.2).map some id)

/-- Each request on the way is one that `ok` accepts. -/
def accepts (clears : Bool) (ok : World → SyncRequest → Bool) : List (Job × Nat) → World → Bool
  | [], _ => true
  | (k, n) :: jobs, w => Setting.drives (clerk clears) ok n ⟨[], k.sync.tag k⟩ w &&
      accepts clears ok jobs (visit clears k n w).2

theorem accepts_true {clears : Bool} {jobs : List (Job × Nat)} {w : World} :
    accepts clears (fun _ _ => true) jobs w = true := by
  induction jobs generalizing w with
  | nil => rfl
  | cons j jobs ih => exact (Bool.and_eq_true ..).mpr ⟨Setting.drives_true, ih⟩

theorem Run.visits {uid : String} {admitted : Job → Prop}
    {admits : SyncPool → Option (Nat × SyncEvent) → Prop} (ok : World → SyncRequest → Bool)
    (clears : Bool) (jobs : List (Job × Nat)) (r : Option Syncer × World)
    {start : World} {clients : Nat → Option Syncer} {log : List (Nat × SyncEvent)}
    (h : (syncs uid admitted).Run admits start log ⟨r.2, clients⟩) (hr : clients 0 = r.1)
    (hjobs : ∀ j ∈ jobs, j.1.uid = uid ∧ admitted j.1) (hstart : ∀ s, admits s none)
    (hadmits : ∀ (s : SyncPool) c, ok s.shared c = true →
      admits s (some (0, ⟨c, (clerk clears c s.shared).1⟩)))
    (hok : accepts clears ok jobs r.2 = true) :
    ∃ log clients, (syncs uid admitted).Run admits start log
        ⟨(NexusDashboard.visits clears jobs r).2, clients⟩ ∧
      clients 0 = (NexusDashboard.visits clears jobs r).1 := by
  induction jobs generalizing r log clients with
  | nil => exact ⟨log, clients, h, hr⟩
  | cons j jobs ih =>
    obtain ⟨⟨huid, hk⟩, hjobs⟩ := List.forall_mem_cons.mp hjobs
    obtain ⟨hdrives, hok⟩ := (Bool.and_eq_true ..).mp hok
    have hbegin := h.step (.start 0 ⟨j.1, huid, hk, rfl⟩) (hstart _)
    obtain ⟨_, hrun⟩ := hbegin.drives (clerk_serves clears) hadmits Pool.clients_set_self j.2 hdrives
    exact ih ((visit clears j.1 j.2 r.2).map some id) hrun Pool.clients_set_self hjobs hok

end VirtualKubelet.ControllerAdapter.NexusDashboard
