import VirtualKubelet.SoftwareUpgrade.Status

/-!
# The upgrade queue of a device

The upgrades of one device take turns. Each computes the owner of the turn from
the same list of objects, and goes on if it is itself. What is in the queue
differs from one caller to the next in one thing only: a preparation that was
kept yields to the activation it was made for. Both would then be first, were it
not that a prepared upgrade no longer asks.

The checks of receipts, audit records and specs only decide what counts; they
are parameters.
-/

namespace VirtualKubelet.SoftwareUpgrade

open Go Rollout

structure MaintenanceWindow where
  notBefore : Option Time := none
  notAfter : Option Time := none

/-- An upgrade with the fields that the queue reads besides. -/
structure QueueItem extends Upgrade where
  name : String
  deviceName : String
  maintenanceWindow : Option MaintenanceWindow := none
  preparedAt : Time := 0

/-- The checks of a single object, or of two. -/
structure QueueChecks where
  preparedReceiptInvalidated : QueueItem → Bool
  validatePreparedReceipt : QueueItem → Option String
  /-- The first is a settled activation of what the second prepared: the test of
  `PreparedReceiptConsumed` on one candidate. -/
  consumes : QueueItem → QueueItem → Bool
  /-- `validatePreparedActivationParent` has no error for the activation and the
  preparation. -/
  activates : QueueItem → QueueItem → Bool
  inertManagedSettledTombstone : QueueItem → Bool
  settledManagedCancellationAuditRecord : QueueItem → Bool
  /-- `validateImageSource` and `ValidateTargetVersion` have no error. -/
  validSpec : QueueItem → Bool

structure Candidate where
  name : String
  started : Bool
  «at» : Time

def Candidate.less (a b : Candidate) : Bool :=
  if a.started != b.started then a.started
  else if a.at ≠ b.at then a.at < b.at
  else a.name < b.name

def MaintenanceWindow.closed (window : MaintenanceWindow) (now : Time) : Bool :=
  window.notBefore.any (now < ·) || window.notAfter.any (· < now)

def QueueItem.waiting (item : QueueItem) : Bool :=
  item.status.phase == .unset || item.status.phase == .pending

section

variable (checks : QueueChecks)

def preparedReceiptConsumed (prepared : QueueItem) (candidates : List QueueItem) : Bool :=
  prepared.status.phase == .prepared && prepared.status.preparedReceipt.isSome &&
    (checks.validatePreparedReceipt prepared).isNone &&
    candidates.any fun consumer =>
      consumer.uid != prepared.uid && checks.consumes consumer prepared

/-- What an object that holds a receipt, or claims to, puts into the queue. -/
def retainedCandidate (items : List QueueItem) (up item : QueueItem) :
    Except String (Option Candidate) :=
  if checks.preparedReceiptInvalidated item then .ok none
  else if item.status.phase != .prepared || item.status.preparedReceipt.isNone then
    .error ("prepared upgrade " ++ item.name ++ " has inconsistent phase or receipt")
  else
    match checks.validatePreparedReceipt item with
    | some err =>
      .error ("prepared upgrade " ++ item.name ++ " has invalid retained receipt: " ++ err)
    | none =>
      if preparedReceiptConsumed checks item items || checks.activates up item then .ok none
      else .ok (some ⟨item.name, true, item.preparedAt⟩)

/-- What any other object puts into the queue. -/
def openCandidate (now : Time) (item : QueueItem) : Option Candidate :=
  if item.deleting || terminalUpgradePhase item.status.phase ||
      checks.inertManagedSettledTombstone item ||
      checks.settledManagedCancellationAuditRecord item then none
  else if item.waiting &&
      (item.maintenanceWindow.any (·.closed now) || !checks.validSpec item) then none
  else
    match item.status.startTime with
    | some start => some ⟨item.name, true, start⟩
    | none => some ⟨item.name, !item.waiting, item.creationTimestamp⟩

def candidateOf (items : List QueueItem) (up : QueueItem) (now : Time) (item : QueueItem) :
    Except String (Option Candidate) :=
  if item.deviceName ≠ up.deviceName then .ok none
  else if item.status.phase == .prepared || item.status.preparedReceipt.isSome then
    retainedCandidate checks items up item
  else .ok (openCandidate checks now item)

/-- `items` is the list of the namespace. -/
def deviceUpgradeOwner (items : List QueueItem) (up : QueueItem) (now : Time) :
    Except String String := do
  let candidates ← items.mapM (candidateOf checks items up now)
  match candidates.reduceOption.insertionSort fun a b => !b.less a with
  | [] => .ok ""
  | first :: _ => .ok first.name

end

/-! ## The order of the queue -/

/-- Started ones first, then by time, then by name. -/
def Candidate.key (c : Candidate) : Bool ×ₗ Time ×ₗ String :=
  toLex (!c.started, toLex (c.at, c.name))

theorem Candidate.less_iff {a b : Candidate} : a.less b = true ↔ a.key < b.key := by
  rw [key, key, Prod.Lex.toLex_lt_toLex, Prod.Lex.toLex_lt_toLex, less]
  cases a.started <;> cases b.started <;> simp
  all_goals grind

theorem Candidate.first_le {queue rest : List Candidate}
    (h : queue.insertionSort (fun a b => !b.less a) = c :: rest) :
    c ∈ queue ∧ ∀ c' ∈ queue, c.key ≤ c'.key := by
  have hle : ∀ {a b : Candidate}, (!b.less a) = true ↔ a.key ≤ b.key := by
    intro a b
    rw [Bool.not_eq_true', ← Bool.not_eq_true, less_iff, not_lt]
  have : Std.Total fun a b : Candidate => (!b.less a) = true :=
    ⟨fun a b => by rw [hle, hle]; exact le_total a.key b.key⟩
  have : IsTrans Candidate fun a b => (!b.less a) = true :=
    ⟨fun a b c => by rw [hle, hle, hle]; exact le_trans⟩
  have hsorted := List.pairwise_insertionSort (fun a b : Candidate => (!b.less a) = true) queue
  have hmem : ∀ c', c' ∈ c :: rest ↔ c' ∈ queue := fun c' => by
    rw [← h]
    exact List.mem_insertionSort _
  rw [h, List.pairwise_cons] at hsorted
  refine ⟨(hmem c).mp List.mem_cons_self, fun c' hc' => ?_⟩
  rcases List.mem_cons.mp ((hmem c').mpr hc') with rfl | hrest
  · exact le_rfl
  · exact hle.mp (hsorted.1 c' hrest)

/-! ## One owner -/

/-- The name of the first, or the empty name if nobody queues. -/
def FirstIn (queue : Candidate → Prop) (name : String) : Prop :=
  (∀ c, ¬ queue c) ∧ name = "" ∨
    ∃ c, c.name = name ∧ queue c ∧ ∀ c', queue c' → c.key ≤ c'.key

theorem FirstIn.unique (h : FirstIn queue name) (h' : FirstIn queue name') : name = name' := by
  rcases h with ⟨hnone, rfl⟩ | ⟨c, rfl, hc, hle⟩ <;> rcases h' with ⟨hnone', rfl⟩ | ⟨c', rfl, hc', hle'⟩
  · rfl
  · exact absurd hc' (hnone c')
  · exact absurd hc (hnone' c)
  · exact congrArg (fun key => (ofLex (ofLex key).2).2) (le_antisymm (hle c' hc') (hle' c hc))

variable {checks : QueueChecks} {items items' : List QueueItem} {up item : QueueItem} {now : Time}
  {c : Candidate} {name : String}

def Queued (checks : QueueChecks) (items : List QueueItem) (up : QueueItem) (now : Time)
    (c : Candidate) : Prop :=
  ∃ item ∈ items, candidateOf checks items up now item = .ok (some c)

/-- The owner is the first candidate, wherever the objects are in the list. -/
theorem owner_iff : deviceUpgradeOwner checks items up now = .ok name ↔
    (∀ item ∈ items, ∃ c, candidateOf checks items up now item = .ok c) ∧
      FirstIn (Queued checks items up now) name := by
  have hrun : ∀ {found : List (Option Candidate)},
      items.map (candidateOf checks items up now) = found.map .ok → ∃ name,
        deviceUpgradeOwner checks items up now = .ok name ∧
          FirstIn (Queued checks items up now) name := by
    intro found hfound
    have hmem : ∀ {c : Candidate}, c ∈ found.reduceOption ↔ Queued checks items up now c := by
      intro c
      rw [List.reduceOption_mem_iff, Queued, ← List.mem_map, hfound, List.mem_map_of_injective]
      exact fun _ _ => Except.ok.inj
    rw [deviceUpgradeOwner, mapM_eq_ok.mpr hfound]
    cases hsorted : found.reduceOption.insertionSort fun a b => !b.less a with
    | nil =>
      refine ⟨"", by simp only [bind, Except.bind, hsorted], .inl ⟨fun c hc => ?_, rfl⟩⟩
      have hin := (List.mem_insertionSort (fun a b => (!b.less a) = true)).mpr (hmem.mpr hc)
      rw [hsorted] at hin
      cases hin
    | cons first rest =>
      obtain ⟨hin, hle⟩ := Candidate.first_le hsorted
      exact ⟨first.name, by simp only [bind, Except.bind, hsorted],
        .inr ⟨first, rfl, hmem.mp hin, fun c' hc' => hle c' (hmem.mpr hc')⟩⟩
  constructor
  · intro h
    obtain ⟨found, hfound, -⟩ := bind_ok.mp h
    rw [mapM_eq_ok] at hfound
    obtain ⟨name', hname', hfirst⟩ := hrun hfound
    obtain rfl := Except.ok.inj (hname'.symm.trans h)
    refine ⟨fun item hitem => ?_, hfirst⟩
    have hok : candidateOf checks items up now item ∈ found.map .ok := by
      rw [← hfound]
      exact List.mem_map_of_mem hitem
    obtain ⟨c, -, hc⟩ := List.mem_map.mp hok
    exact ⟨c, hc.symm⟩
  · rintro ⟨hall, hfirst⟩
    choose! c hc using hall
    obtain ⟨name', hname', hfirst'⟩ := @hrun (items.map c) (by
      rw [List.map_map]
      exact List.map_congr_left hc)
    rw [hname', hfirst.unique hfirst']

theorem candidateOf_perm (h : items.Perm items') :
    candidateOf checks items' up now item = candidateOf checks items up now item := by
  have hconsumed : preparedReceiptConsumed checks item items' =
      preparedReceiptConsumed checks item items := by
    rw [Bool.eq_iff_iff]
    simp only [preparedReceiptConsumed, Bool.and_eq_true, List.any_eq_true, h.mem_iff]
  rw [candidateOf, candidateOf, retainedCandidate, retainedCandidate, hconsumed]

/-- A waiting upgrade is in everyone's queue if it is in its own. -/
theorem candidateOf_waiting {other : QueueItem} (hwaiting : item.waiting = true)
    (hdevice : up.deviceName = other.deviceName)
    (h : candidateOf checks items up now item = .ok (some c)) :
    candidateOf checks items other now item = .ok (some c) := by
  have hphase : (item.status.phase == .prepared) = false := by
    rw [QueueItem.waiting, Bool.or_eq_true, beq_iff_eq, beq_iff_eq] at hwaiting
    rcases hwaiting with hphase | hphase <;> rw [hphase] <;> rfl
  rw [candidateOf, hdevice] at h
  rw [candidateOf]
  split at h
  · cases h
  rename_i hsame
  rw [if_neg hsame]
  split at h
  · rw [retainedCandidate] at h
    simp [hphase, bne] at h
    split at h <;> cases h
  · rename_i hopen
    rw [if_neg hopen]
    exact h

theorem name_of_candidateOf (h : candidateOf checks items up now item = .ok (some c)) :
    c.name = item.name := by
  unfold candidateOf retainedCandidate openCandidate at h
  grind

/-- The owner of a device's queue does not depend on the order of the list. Of
the upgrades of the device that evaluate it, which are those that wait to begin,
at most one finds itself. -/
theorem upgrade_queue_one_owner (checks : QueueChecks) (items : List QueueItem)
    (hnames : (items.map QueueItem.name).Nodup) (now : Time) :
    (∀ up items', items.Perm items' → ∀ name,
        deviceUpgradeOwner checks items' up now = .ok name ↔
          deviceUpgradeOwner checks items up now = .ok name) ∧
      ∀ u ∈ items, ∀ v ∈ items, u.deviceName = v.deviceName → u.waiting = true → v.waiting = true →
        deviceUpgradeOwner checks items u now = .ok u.name →
        deviceUpgradeOwner checks items v now = .ok v.name → u = v := by
  constructor
  · intro up items' hperm name
    simp only [owner_iff, Queued, FirstIn, candidateOf_perm hperm, hperm.mem_iff]
  -- both are first in both queues
  intro u hu v hv hdevice hwu hwv hou hov
  obtain ⟨-, hfirst⟩ := owner_iff.mp hou
  obtain ⟨-, hfirst'⟩ := owner_iff.mp hov
  have hown : ∀ w ∈ items, FirstIn (Queued checks items w now) w.name →
      (∀ c, ¬ Queued checks items w now c) ∧ w.name = "" ∨ ∃ c, candidateOf checks items w now w = .ok (some c) ∧
        ∀ c', Queued checks items w now c' → c.key ≤ c'.key := by
    rintro w hw (hnone | ⟨c, hname, ⟨item, hitem, hc⟩, hle⟩)
    · exact .inl hnone
    · rw [name_of_candidateOf hc] at hname
      obtain rfl := List.inj_on_of_nodup_map hnames hitem hw hname
      exact .inr ⟨c, hc, hle⟩
  apply List.inj_on_of_nodup_map hnames hu hv
  rcases hown u hu hfirst with ⟨hnone, hempty⟩ | ⟨c, hc, hle⟩ <;>
    rcases hown v hv hfirst' with ⟨hnone', hempty'⟩ | ⟨c', hc', hle'⟩
  · rw [hempty, hempty']
  · exact absurd ⟨v, hv, candidateOf_waiting hwv hdevice.symm hc'⟩ (hnone c')
  · exact absurd ⟨u, hu, candidateOf_waiting hwu hdevice hc⟩ (hnone' c)
  · have hcu := hle' c ⟨u, hu, candidateOf_waiting hwu hdevice hc⟩
    have hcv := hle c' ⟨v, hv, candidateOf_waiting hwv hdevice.symm hc'⟩
    rw [← name_of_candidateOf hc, ← name_of_candidateOf hc']
    exact congrArg (fun key => (ofLex (ofLex key).2).2) (le_antisymm hcv hcu)

namespace Sample

/-- Nothing is invalid, settled or bound to a preparation. -/
def plainChecks : QueueChecks where
  preparedReceiptInvalidated _ := false
  validatePreparedReceipt _ := none
  consumes _ _ := false
  activates _ _ := false
  inertManagedSettledTombstone _ := false
  settledManagedCancellationAuditRecord _ := false
  validSpec _ := true

def created (name : String) (creationTimestamp : Time) : QueueItem where
  name := name
  deviceName := "edge-1"
  uid := name
  resourceVersion := 1
  managed := false
  bindings := []
  generation := 1
  creationTimestamp := creationTimestamp
  targetVersion := "17.15.1"
  strategy := .reload
  imageSource := .streamed
  deleting := false
  finalizer := true
  status := {}

theorem older_upgrade_owns :
    deviceUpgradeOwner plainChecks [created "b" 5, created "a" 7] (created "a" 7) 9 = .ok "b" ∧
      deviceUpgradeOwner plainChecks [created "a" 7, created "b" 5] (created "a" 7) 9 ≠ .ok "a" := by
  have hown : deviceUpgradeOwner plainChecks [created "a" 7, created "b" 5] (created "b" 5) 9 =
      .ok "b" := by decide +kernel
  have hone := upgrade_queue_one_owner plainChecks [created "a" 7, created "b" 5] (by decide) 9
  refine ⟨(hone.1 _ _ (.swap ..) "b").mpr (by decide +kernel), fun h => ?_⟩
  have hsame := hone.2 (created "a" 7) (by simp) (created "b" 5) (by simp) rfl rfl rfl h hown
  exact absurd (congrArg QueueItem.name hsame) (by decide)

end Sample

end VirtualKubelet.SoftwareUpgrade
