import VirtualKubelet.Proofs.LedgerStep
import VirtualKubelet.Rollout.Protocol

/-!
# The lock and the reservation stay together

A reservation is written after the lock was seen `Active`, and the lock is
cleared after the ledger was seen without the reservation. Between seeing and
writing the world may change, and the two objects are written separately. What
saves the protocol is the order of a release: it sees the lock `Releasing`
before it reads the ledger.

From then on no further manager can see the lock `Active`. A manager that saw
it before holds a copy of the ledger at least as old as that; if the copy is
still current when the release reads the ledger, both read the same fence, and
Reserve refuses. `FencedOut` states this about the managers that are between
seeing the lock and writing the reservation, and once true it stays true.
-/

namespace VirtualKubelet.Rollout

open Go Api

/-! ## What the functions saw -/

/-- The lock belongs to the attempt, whatever its state. -/
def DeviceTopologyLock.Of (lock : DeviceTopologyLock) (a : Attempt) : Prop :=
  topologyLockAcquisitionEqual lock (a.expected 0) = true

def Fenced (l : Ledger) (a : Attempt) : Prop :=
  hasReleaseFence l a.reservationID a.policyEpoch a.acquisitionID = true

section

variable {lock : DeviceTopologyLock} {a : Attempt}

theorem DeviceTopologyLock.Of.fields (h : lock.Of a) :
    lock.acquisitionID = a.acquisitionID ∧ lock.deviceUID = a.target.deviceUID ∧
      lock.reservationID = a.reservationID ∧ lock.policyEpoch = a.policyEpoch := by
  simp only [DeviceTopologyLock.Of, topologyLockAcquisitionEqual, Bool.and_eq_true,
    beq_iff_eq, DeviceTopologyLock.acquisition, Attempt.expected,
    expectedDeviceTopologyLock, DeviceTopologyLock.mk.injEq] at h
  obtain ⟨_, _, hepoch, hid, _, _, _, _, hres, hdevice, _⟩ := h
  exact ⟨hid, hdevice, hres, hepoch⟩

theorem of_releasing :
    DeviceTopologyLock.Of { lock with state := .releasing } a ↔ lock.Of a := Iff.rfl

theorem fenced_congr (h : lock.Of a) (h' : lock.Of a') (hf : Fenced l a) : Fenced l a' := by
  obtain ⟨hid, _, hres, hepoch⟩ := h.fields
  obtain ⟨hid', _, hres', hepoch'⟩ := h'.fields
  rw [Fenced, ← hid', ← hres', ← hepoch', hid, hres, hepoch]
  exact hf

theorem validateTarget_uid (h : validateTopologyLockTarget d target = none) :
    d.uid = target.deviceUID := by
  simp only [validateTopologyLockTarget, firstError_cons, Bool.or_eq_false_iff,
    bne_eq_false_iff_eq] at h
  exact h.1.1.1.2

theorem revalidate_none
    (h : revalidateDeviceTopologyLock d a.campaign a.target a.policyEpoch a.acquisitionID = none) :
    validateTopologyLockTarget d a.target = none ∧
      ∃ lock, d.topologyLock = some lock ∧ lock.state = .active ∧ lock.Of a := by
  simp only [revalidateDeviceTopologyLock, Option.or_eq_none_iff] at h
  obtain ⟨htarget, h⟩ := h
  split at h
  · rename_i lock hlock
    split at h
    · rename_i heq
      simp only [topologyLockIdentityEqual, Bool.and_eq_true, beq_iff_eq] at heq
      exact ⟨htarget, lock, hlock, heq.1.2, heq.2⟩
    · cases h
  · cases h

theorem beginReleaseRead_spec {d : Device} (hlock : d.topologyLock = some lock) :
    (beginReleaseRead d (a.expected 0) = .done → lock.state = .releasing ∧ lock.Of a) ∧
      (beginReleaseRead d (a.expected 0) = .patch → lock.Of a) := by
  simp only [beginReleaseRead, hlock]
  split
  · exact ⟨nofun, nofun⟩
  rename_i heq
  have hof : lock.Of a := by
    rw [DeviceTopologyLock.Of]
    simpa using heq
  cases lock.state with
  | releasing => exact ⟨fun _ => ⟨rfl, hof⟩, nofun⟩
  | active => exact ⟨nofun, fun _ => hof⟩
  | other text => exact ⟨nofun, nofun⟩

theorem clearReleaseRead_patch (h : clearReleaseRead d (a.expected 0) = .patch) :
    ∃ lock, d.topologyLock = some lock ∧ lock.Of a := by
  simp only [clearReleaseRead] at h
  split at h
  · cases h
  rename_i lock hlock
  split at h
  · cases h
  · rename_i heq
    refine ⟨lock, hlock, ?_⟩
    rw [DeviceTopologyLock.Of]
    simpa using heq

theorem releaseLedgerError_none (h : releaseLedgerError l (a.expected 0) = none) :
    (∀ id r, l.find id = some r → r.deviceUID ≠ a.target.deviceUID) ∧ Fenced l a := by
  simp only [releaseLedgerError, firstError_cons, firstError_nil, and_true,
    decide_eq_false_iff_not, not_not, Bool.not_eq_false'] at h
  exact ⟨fun id r hr => Map.every_iff.mp h.1 id r hr, h.2⟩

end

/-! ## The invariant -/

def Held (w : World) (a : Attempt) : Prop :=
  ∃ lock, w.lockAt a.key = some lock ∧ lock.Of a

/-- The attempt's lock is on its way out: where its ID is still on the device,
the lock is the attempt's own and `Releasing`. -/
def Retired (w : World) (a : Attempt) : Prop :=
  a.acquisitionID ∈ w.published ∧
    ∀ lock, w.lockAt a.key = some lock → lock.acquisitionID = a.acquisitionID →
      lock.state = .releasing ∧ lock.Of a

/-- Whoever is about to reserve under the attempt's lock, from a ledger that is
still current, will find the fence there. -/
def FencedOut (w : World) (a : Attempt) : Prop :=
  ∀ p a' cm, w.procs p = .admitted a' cm →
    cm.resourceVersion = w.ledger.resourceVersion → a'.key = a.key →
    a'.acquisitionID = a.acquisitionID → Fenced w.ledger.content.ledger a'

/-- While the lock is there, the device has no reservation. -/
def Quiet (w : World) (a : Attempt) : Prop :=
  ∀ lock, w.lockAt a.key = some lock → lock.acquisitionID = a.acquisitionID →
    ∀ id r, w.ledger.content.ledger.find id = some r → r.deviceUID ≠ a.target.deviceUID

/-- The copy of a device a manager holds was read from it. -/
def SeenDevice (w : World) (a : Attempt) (seen : Object Device) : Prop :=
  ∃ o, w.devices.find a.key = some o ∧ o.Read seen

/-- What a manager knows at each point of its program. -/
def ProcOK (w : World) : Proc → Prop
  | .acquiring a _ seen => SeenDevice w a seen ∧ seen.content.topologyLock = none ∧
      seen.content.uid = a.target.deviceUID
  | .recovering a | .releasing a => a.acquisitionID ∈ w.published
  | .reserving _ cm => w.ledger.Read cm
  | .admitted a cm => w.ledger.Read cm ∧
      (cm.resourceVersion = w.ledger.resourceVersion → Held w a ∨ Fenced w.ledger.content.ledger a)
  | .marking a seen => a.acquisitionID ∈ w.published ∧ SeenDevice w a seen ∧
      ∃ lock, seen.content.topologyLock = some lock ∧ lock.Of a
  | .begun a => Retired w a
  | .verified a => Retired w a ∧ FencedOut w a ∧ Quiet w a
  | .clearing a seen => (Retired w a ∧ FencedOut w a ∧ Quiet w a) ∧ SeenDevice w a seen ∧
      ∃ lock, seen.content.topologyLock = some lock ∧ lock.Of a
  | .mutating op cm back => w.ledger.Read cm ∧ op.isReserve = false ∧
      ∀ a, back = some a → Retired w a
  | .idle | .confirming _ | .locked _ => True

/-- Every reservation's device carries the reservation's lock. -/
def Guarded (w : World) : Prop :=
  ∀ id r, w.ledger.content.ledger.find id = some r →
    ∃ key o lock, w.devices.find key = some o ∧ o.content.uid = r.deviceUID ∧
      o.content.topologyLock = some lock ∧ lock.acquisitionID = r.topologyLockID

structure Inv (w : World) : Prop where
  uids : ∀ k k' o o', w.devices.find k = some o → w.devices.find k' = some o' →
    o.content.uid = o'.content.uid → k = k'
  guarded : Guarded w
  lockUID : ∀ key o lock, w.devices.find key = some o →
    o.content.topologyLock = some lock → lock.deviceUID = o.content.uid
  known : ∀ key lock, w.lockAt key = some lock →
    lock.acquisitionID ∈ w.published ∧ lock.acquisitionID ∉ w.cleared
  unique : ∀ k k' lock lock', w.lockAt k = some lock → w.lockAt k' = some lock' →
    lock.acquisitionID = lock'.acquisitionID → k = k'
  cleared : w.cleared ⊆ w.published
  procs : ∀ p, ProcOK w (w.procs p)

theorem Inv.at (hinv : Inv w) (h : w.procs p = x) : ProcOK w x :=
  h ▸ hinv.procs p

/-! ## Locks change in four ways -/

inductive LockMove (published : Finset String) :
    Option DeviceTopologyLock → Option DeviceTopologyLock → Prop
  | same (lock : Option DeviceTopologyLock) : LockMove published lock lock
  | publish (lock : DeviceTopologyLock) (h : lock.acquisitionID ∉ published) :
      LockMove published none (some lock)
  | mark (lock : DeviceTopologyLock) :
      LockMove published (some lock) (some { lock with state := .releasing })
  | clear (lock : Option DeviceTopologyLock) : LockMove published lock none

section

variable {w w' : World} {a : Attempt}

theorem LockMove.known (h : LockMove published old new) (hnew : new = some lock)
    (hid : lock.acquisitionID ∈ published) :
    old = some lock ∨ ∃ before, old = some before ∧ lock = { before with state := .releasing } := by
  cases h with
  | same => exact .inl hnew
  | publish lock' hfresh =>
    cases hnew
    exact absurd hid hfresh
  | mark before =>
    cases hnew
    exact .inr ⟨before, rfl, rfl⟩
  | clear => cases hnew

theorem Retired.evolve (h : Retired w a) (hpub : w.published ⊆ w'.published)
    (hmove : ∀ k, LockMove w.published (w.lockAt k) (w'.lockAt k)) : Retired w' a := by
  refine ⟨hpub h.1, fun lock hlock hid => ?_⟩
  rcases (hmove a.key).known hlock (by rw [hid]; exact h.1) with hold | ⟨before, hold, rfl⟩
  · exact h.2 lock hold hid
  · exact ⟨rfl, of_releasing.mpr (h.2 before hold hid).2⟩

theorem Quiet.evolve (h : Quiet w a) (hknown : a.acquisitionID ∈ w.published)
    (hledger : w'.ledger = w.ledger)
    (hmove : ∀ k, LockMove w.published (w.lockAt k) (w'.lockAt k)) : Quiet w' a := by
  intro lock hlock hid
  rw [hledger]
  rcases (hmove a.key).known hlock (by rw [hid]; exact hknown) with hold | ⟨before, hold, rfl⟩
  · exact h lock hold hid
  · exact h before hold hid

theorem Held.evolve (h : Held w a)
    (hmove : ∀ k, LockMove w.published (w.lockAt k) (w'.lockAt k))
    (hkeep : w'.lockAt a.key ≠ none) : Held w' a := by
  obtain ⟨lock, hlock, hof⟩ := h
  have hm := hmove a.key
  rw [hlock] at hm
  cases hnew : w'.lockAt a.key with
  | none => exact absurd hnew hkeep
  | some lock' =>
    rw [hnew] at hm
    cases hm with
    | same => exact ⟨lock, hnew, hof⟩
    | mark => exact ⟨_, hnew, of_releasing.mpr hof⟩

/-! ## One manager moves -/

variable {p : Nat} {y : Proc}

/-- A manager that goes on to reserve has just seen its lock `Active`. -/
def SeesActive (w : World) (y : Proc) : Prop :=
  ∀ a cm, y = .admitted a cm →
    ∃ lock, w.lockAt a.key = some lock ∧ lock.state = .active ∧ lock.Of a

theorem FencedOut.goto (hret : Retired w a) (h : FencedOut w a)
    (hy : SeesActive w y) :
    FencedOut (w.goto p y) a := by
  intro q a' cm hq hcurrent hkey hid
  by_cases hqp : q = p
  · -- A manager that has just seen the lock `Active` contradicts its retirement.
    subst hqp
    have hadmitted : y = .admitted a' cm := by
      rw [← hq]
      exact (Function.update_self q y w.procs).symm
    obtain ⟨lock, hlock, hactive, hof⟩ := hy a' cm hadmitted
    have hreleasing := (hret.2 lock (hkey ▸ hlock) (hof.fields.1.trans hid)).1
    rw [hactive] at hreleasing
    cases hreleasing
  · refine h q a' cm ?_ hcurrent hkey hid
    rw [← hq]
    exact (Function.update_of_ne hqp y w.procs).symm

theorem procOK_goto (h : ProcOK w x) (hy : SeesActive w y) : ProcOK (w.goto p y) x := by
  cases x with
  | verified a => exact ⟨h.1, h.2.1.goto h.1 hy, h.2.2⟩
  | clearing a seen => exact ⟨⟨h.1.1, h.1.2.1.goto h.1.1 hy, h.1.2.2⟩, h.2⟩
  | _ => exact h

theorem inv_goto (hinv : Inv w) (hok : ProcOK w y)
    (hy : SeesActive w y) :
    Inv (w.goto p y) where
  uids := hinv.uids
  guarded := hinv.guarded
  lockUID := hinv.lockUID
  known := hinv.known
  unique := hinv.unique
  cleared := hinv.cleared
  procs := by
    intro q
    by_cases hqp : q = p
    · subst hqp
      show ProcOK (w.goto q y) (Function.update w.procs q y q)
      rw [Function.update_self]
      exact procOK_goto hok hy
    · show ProcOK (w.goto p y) (Function.update w.procs p y q)
      rw [Function.update_of_ne hqp]
      exact procOK_goto (hinv.procs q) hy

def Proc.aboutToReserve : Proc → Bool
  | .admitted .. => true
  | _ => false

/-- The managers who are not about to reserve need no check of the lock. -/
theorem inv_goto_plain (hinv : Inv w) (hok : ProcOK w y)
    (hy : y.aboutToReserve = false) : Inv (w.goto p y) := by
  refine inv_goto hinv hok fun a' cm h => ?_
  rw [h] at hy
  cases hy

theorem inv_idle (hinv : Inv w) : Inv (w.goto p .idle) := inv_goto_plain hinv trivial rfl

/-! ## The ledger is written -/

section

variable {cm : ConfigMap}

theorem FencedOut.write (hinv : Inv w) :
    FencedOut { w with ledger := w.ledger.write cm } a := by
  intro q a' copy hq hcurrent
  exact absurd hcurrent (Object.not_current_write (hinv.at (p := q) hq).1)

theorem procOK_ledger (hinv : Inv w) (h : ProcOK w x)
    (hquiet : ∀ a, Retired w a → FencedOut w a → Quiet w a →
      Quiet { w with ledger := w.ledger.write cm } a) :
    ProcOK { w with ledger := w.ledger.write cm } x := by
  cases x with
  | reserving a copy => exact Object.read_write h
  | admitted a copy =>
    exact ⟨Object.read_write h.1, fun hcurrent =>
      absurd hcurrent (Object.not_current_write h.1)⟩
  | verified a => exact ⟨h.1, .write hinv, hquiet a h.1 h.2.1 h.2.2⟩
  | clearing a seen =>
    exact ⟨⟨h.1.1, .write hinv, hquiet a h.1.1 h.1.2.1 h.1.2.2⟩, h.2⟩
  | mutating op copy back => exact ⟨Object.read_write h.1, h.2⟩
  | _ => exact h

theorem inv_ledger (hinv : Inv w)
    (hguarded : Guarded { w with ledger := w.ledger.write cm })
    (hquiet : ∀ a, Retired w a → FencedOut w a → Quiet w a →
      Quiet { w with ledger := w.ledger.write cm } a) :
    Inv { w with ledger := w.ledger.write cm } where
  uids := hinv.uids
  guarded := hguarded
  lockUID := hinv.lockUID
  known := hinv.known
  unique := hinv.unique
  cleared := hinv.cleared
  procs := fun q => procOK_ledger hinv (hinv.procs q) hquiet

end

/-! ## A device is written -/

/-- The world with one device overwritten and, perhaps, more IDs remembered. -/
structure DeviceWrite (w : World) (key : String) (o : Object Device) (d : Device)
    (w' : World) : Prop where
  found : w.devices.find key = some o
  devices : w'.devices = w.devices.set key (o.write d)
  ledger : w'.ledger = w.ledger
  procs : w'.procs = w.procs
  uid : d.uid = o.content.uid
  published : w.published ⊆ w'.published
  lockUID : ∀ lock, d.topologyLock = some lock → lock.deviceUID = d.uid
  move : LockMove w.published o.content.topologyLock d.topologyLock

namespace DeviceWrite

variable {key : String} {o : Object Device} {d : Device} (h : DeviceWrite w key o d w')

include h

theorem find_cases (hk : w'.devices.find k = some o') :
    (k = key ∧ o' = o.write d) ∨ (k ≠ key ∧ w.devices.find k = some o') := by
  rw [h.devices] at hk
  rcases Map.find_set_iff.mp hk with ⟨hkey, heq⟩ | hother
  · exact .inl ⟨hkey, heq.symm⟩
  · exact .inr hother

theorem lockAt_key : w'.lockAt key = d.topologyLock := by
  rw [World.lockAt, h.devices, Map.find_set_self]
  rfl

theorem lockAt_ne (hk : k ≠ key) : w'.lockAt k = w.lockAt k := by
  rw [World.lockAt, h.devices, Map.find_set_ne hk]
  rfl

theorem lockAt_old :
    w.lockAt key = o.content.topologyLock := by
  rw [World.lockAt, h.found]
  rfl

theorem moves (k : String) :
    LockMove w.published (w.lockAt k) (w'.lockAt k) := by
  by_cases hk : k = key
  · subst hk
    rw [h.lockAt_key, h.lockAt_old]
    exact h.move
  · rw [h.lockAt_ne hk]
    exact .same _

theorem seen {seen : Object Device}
    (hseen : SeenDevice w a seen) : SeenDevice w' a seen := by
  obtain ⟨o₁, hfind, hread⟩ := hseen
  rw [SeenDevice, h.devices]
  by_cases hk : a.key = key
  · rw [hk, h.found] at hfind
    cases hfind
    rw [hk]
    exact ⟨_, Map.find_set_self, Object.read_write hread⟩
  · exact ⟨o₁, by rw [Map.find_set_ne hk]; exact hfind, hread⟩

theorem fencedOut (hf : FencedOut w a) :
    FencedOut w' a := by
  intro q a' cm hq hcurrent
  rw [h.procs] at hq
  rw [h.ledger] at hcurrent ⊢
  exact hf q a' cm hq hcurrent

theorem released (hp : Retired w a ∧ FencedOut w a ∧ Quiet w a) :
    Retired w' a ∧ FencedOut w' a ∧ Quiet w' a :=
  ⟨hp.1.evolve h.published h.moves, h.fencedOut hp.2.1, hp.2.2.evolve hp.1.1 h.ledger h.moves⟩

/-- `hheld` is asked for the one write that can take a lock away. -/
theorem procOK (hx : ProcOK w x) (hheld : ∀ a cm, x = .admitted a cm →
      cm.resourceVersion = w.ledger.resourceVersion → Held w a →
        Held w' a ∨ Fenced w.ledger.content.ledger a) : ProcOK w' x := by
  cases x with
  | acquiring a now seen => exact ⟨h.seen hx.1, hx.2⟩
  | recovering a | releasing a => exact h.published hx
  | reserving a cm =>
    rw [ProcOK, h.ledger]
    exact hx
  | admitted a cm =>
    rw [ProcOK, h.ledger]
    refine ⟨hx.1, fun hcurrent => ?_⟩
    rcases hx.2 hcurrent with hh | hf
    · exact hheld a cm rfl hcurrent hh
    · exact .inr hf
  | marking a seen => exact ⟨h.published hx.1, h.seen hx.2.1, hx.2.2⟩
  | begun a => exact Retired.evolve hx h.published h.moves
  | verified a => exact h.released hx
  | clearing a seen => exact ⟨h.released hx.1, h.seen hx.2.1, hx.2.2⟩
  | mutating op cm back =>
    rw [ProcOK, h.ledger]
    exact ⟨hx.1, hx.2.1, fun a ha => (hx.2.2 a ha).evolve h.published h.moves⟩
  | idle | confirming a | locked a => trivial

theorem uids (hinv : Inv w) :
    ∀ k k' o₁ o₂, w'.devices.find k = some o₁ → w'.devices.find k' = some o₂ →
      o₁.content.uid = o₂.content.uid → k = k' := by
  -- Every device has the UID it had.
  have hold : ∀ k o₁, w'.devices.find k = some o₁ →
      ∃ o₀, w.devices.find k = some o₀ ∧ o₀.content.uid = o₁.content.uid := by
    intro k o₁ hk
    rcases h.find_cases hk with ⟨rfl, rfl⟩ | ⟨_, hfind⟩
    · exact ⟨o, h.found, h.uid.symm⟩
    · exact ⟨o₁, hfind, rfl⟩
  intro k k' o₁ o₂ h₁ h₂ huid
  obtain ⟨b₁, hb₁, hu₁⟩ := hold k o₁ h₁
  obtain ⟨b₂, hb₂, hu₂⟩ := hold k' o₂ h₂
  exact hinv.uids k k' b₁ b₂ hb₁ hb₂ (by rw [hu₁, hu₂, huid])

theorem lockUIDs (hinv : Inv w) :
    ∀ k o₁ lock, w'.devices.find k = some o₁ → o₁.content.topologyLock = some lock →
      lock.deviceUID = o₁.content.uid := by
  intro k o₁ lock hk hlock
  rcases h.find_cases hk with ⟨_, rfl⟩ | ⟨_, hfind⟩
  · exact h.lockUID lock hlock
  · exact hinv.lockUID k o₁ lock hfind hlock

/-- A lock was there before under its ID, or it is the one just published. -/
theorem origin (hk : w'.lockAt k = some lock) :
    (∃ before, w.lockAt k = some before ∧ before.acquisitionID = lock.acquisitionID) ∨
      (k = key ∧ lock.acquisitionID ∉ w.published) := by
  by_cases hkey : k = key
  · subst hkey
    rw [h.lockAt_key] at hk
    rw [h.lockAt_old]
    have hm := h.move
    rw [hk] at hm
    cases hm' : o.content.topologyLock with
    | none =>
      rw [hm'] at hm
      cases hm with
      | publish _ hfresh => exact .inr ⟨rfl, hfresh⟩
    | some before =>
      rw [hm'] at hm
      cases hm with
      | same => exact .inl ⟨lock, rfl, rfl⟩
      | mark => exact .inl ⟨before, rfl, rfl⟩
  · rw [h.lockAt_ne hkey] at hk
    exact .inl ⟨lock, hk, rfl⟩

/-- A write that takes no lock away. -/
theorem inv_keep (hinv : Inv w)
    (hcleared : w'.cleared = w.cleared)
    (hkeep : d.topologyLock = none → o.content.topologyLock = none)
    (hnew : ∀ lock, d.topologyLock = some lock → lock.acquisitionID ∈ w'.published) :
    Inv w' where
  uids := h.uids hinv
  lockUID := h.lockUIDs hinv
  guarded := by
    intro id r hr
    rw [h.ledger] at hr
    obtain ⟨k, o₁, lock, hk, huid, hlock, hid⟩ := hinv.guarded id r hr
    rw [h.devices]
    by_cases hkey : k = key
    · subst hkey
      rw [h.found] at hk
      cases hk
      have hm := h.move
      rw [hlock] at hm
      cases hd : d.topologyLock with
      | none =>
        rw [hkeep hd] at hlock
        cases hlock
      | some lock' =>
        refine ⟨k, _, lock', Map.find_set_self, h.uid.trans huid, hd, ?_⟩
        rw [hd] at hm
        cases hm with
        | same | mark => exact hid
    · exact ⟨k, o₁, lock, by rw [Map.find_set_ne hkey]; exact hk, huid, hlock, hid⟩
  known := by
    intro k lock hk
    rw [hcleared]
    rcases h.origin hk with ⟨before, hbefore, hid⟩ | ⟨rfl, hfresh⟩
    · rw [← hid]
      obtain ⟨hpub, hnot⟩ := hinv.known k before hbefore
      exact ⟨h.published hpub, hnot⟩
    · rw [h.lockAt_key] at hk
      exact ⟨hnew lock hk, fun hmem => hfresh (hinv.cleared hmem)⟩
  unique := by
    intro k k' lock lock' hk hk' hid
    rcases h.origin hk with ⟨b, hb, hbid⟩ | ⟨rfl, hfresh⟩ <;>
      rcases h.origin hk' with ⟨b', hb', hbid'⟩ | ⟨rfl, hfresh'⟩
    · exact hinv.unique k k' b b' hb hb' (by rw [hbid, hbid', hid])
    · refine absurd ?_ hfresh'
      rw [← hid, ← hbid]
      exact (hinv.known k b hb).1
    · refine absurd ?_ hfresh
      rw [hid, ← hbid']
      exact (hinv.known k' b' hb').1
    · rfl
  cleared := by
    rw [hcleared]
    exact hinv.cleared.trans h.published
  procs := by
    intro q
    rw [h.procs]
    refine h.procOK (hinv.procs q) fun a' cm _ _ hheld => .inl (hheld.evolve h.moves ?_)
    obtain ⟨lock, hlock, _⟩ := hheld
    intro hnone
    by_cases hkey : a'.key = key
    · rw [hkey, h.lockAt_key] at hnone
      rw [hkey, h.lockAt_old, hkeep hnone] at hlock
      cases hlock
    · rw [h.lockAt_ne hkey, hlock] at hnone
      cases hnone

/-- The write that clears a lock: the release has seen the ledger quiet, and
whoever is about to reserve is fenced out. -/
theorem lockAt_kept (hnone : d.topologyLock = none) (hk : w'.lockAt k = some lock) :
    k ≠ key ∧ w.lockAt k = some lock := by
  have hkey : k ≠ key := by
    rintro rfl
    rw [h.lockAt_key, hnone] at hk
    cases hk
  exact ⟨hkey, h.lockAt_ne hkey ▸ hk⟩

theorem inv_clear (hinv : Inv w) (hlock : o.content.topologyLock = some lock)
    (hnone : d.topologyLock = none) (hcleared : w'.cleared = insert lock.acquisitionID w.cleared)
    (hquiet : ∀ id r, w.ledger.content.ledger.find id = some r → r.deviceUID ≠ o.content.uid)
    (hfenced : ∀ q a cm, w.procs q = .admitted a cm →
      cm.resourceVersion = w.ledger.resourceVersion → a.key = key → Held w a →
        Fenced w.ledger.content.ledger a) : Inv w' where
  uids := h.uids hinv
  lockUID := h.lockUIDs hinv
  guarded := by
    intro id r hr
    rw [h.ledger] at hr
    obtain ⟨k, o₁, lock₁, hk, huid, hlock₁, hid⟩ := hinv.guarded id r hr
    rw [h.devices]
    refine ⟨k, o₁, lock₁, ?_, huid, hlock₁, hid⟩
    rw [Map.find_set_ne ?_]
    · exact hk
    · rintro rfl
      rw [h.found] at hk
      cases hk
      exact hquiet id r hr huid.symm
  known := by
    intro k lock₁ hk
    obtain ⟨hkey, hk⟩ := h.lockAt_kept hnone hk
    obtain ⟨hpub, hnot⟩ := hinv.known k lock₁ hk
    refine ⟨h.published hpub, ?_⟩
    rw [hcleared, Finset.mem_insert, not_or]
    refine ⟨fun hid => hkey ?_, hnot⟩
    exact hinv.unique k key lock₁ lock hk (h.lockAt_old.trans hlock) hid
  unique := by
    intro k k' lock₁ lock₂ hk hk' hid
    exact hinv.unique k k' lock₁ lock₂ (h.lockAt_kept hnone hk).2 (h.lockAt_kept hnone hk').2 hid
  cleared := by
    rw [hcleared]
    refine Finset.insert_subset (h.published ?_) (hinv.cleared.trans h.published)
    exact (hinv.known key lock (h.lockAt_old.trans hlock)).1
  procs := by
    intro q
    rw [h.procs]
    refine h.procOK (hinv.procs q) fun a' cm hx hcurrent hheld => ?_
    by_cases hkey : a'.key = key
    · exact .inr (hfenced q a' cm hx hcurrent hkey hheld)
    · refine .inl (hheld.evolve h.moves ?_)
      obtain ⟨lock₁, hlock₁, _⟩ := hheld
      rw [h.lockAt_ne hkey, hlock₁]
      simp

end DeviceWrite

end

end VirtualKubelet.Rollout
