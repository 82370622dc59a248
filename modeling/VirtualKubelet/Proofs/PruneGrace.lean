import VirtualKubelet.Proofs.DeviceIdentity

/-!
# The grace period before a device is deleted

That a switch is gone is noted in an annotation of its device, which is removed
when the switch is back. A device is deleted when the annotation is older than
the grace period; the inventories in between are not kept. So the annotation
must not outlive an inventory that has the switch: every removal has to have
taken effect before the next sync lists the devices.
-/

namespace VirtualKubelet.ControllerAdapter.NexusDashboard

open Go Api Program
open List hiding max next set
open Job (present stampedAt)

variable {uid : String} {start w w' : World} {log : List (Nat × SyncEvent)} {s : SyncPool}
  {first : Int} {c : Request} {a : SyncReply (k, c)}
  {k : Job} {past : List WorkerEvent} {devices : List CiscoDevice} {d o : CiscoDevice}
  {now : Int} {e : WorkerEvent}

/-- What a stamp keeps of the time. -/
def wholeSecond (t : Int) : Int := t - nanosecond t

/-- At the time of the sync's clock reading, the device that it goes on to
delete has been missing from all the inventories of the grace period, and it
stays within the limit. -/
def DueNow (uid : String) (w : World) (past : List SyncEvent) (k : Job) (d : CiscoDevice) : Prop :=
  OwnedBy uid d ∧ ∃ devices now, Listed (past.map untag) devices ∧ Clocked (past.map untag) now ∧
    (∀ p ∈ w.processed, now - effectiveGracePeriod k.adoption.removal ≤ p.1 →
      present p.2 d = false) ∧
    (deletions (past.map untag) + 1 : Int) ≤
      max 1 ((devices.countP k.counted * effectiveMaxPrunePercent k.adoption.removal) / 100)

/-- The next request of the worker, if it is a deletion, is due. -/
def PrunesInTime (uid : String) (s : SyncPool) : Prop :=
  ∀ past k d next, s.clients 0 = some ⟨past, .call (k, .delete d) next⟩ →
    DueNow uid s.shared past k d

/-- When the devices are listed, none that the last inventory has carries a
stamp. When the clock is read, the inventories of the same second have no
device that this one lacks. -/
def Timely (uid : String) (w : World) : SyncEvent → Prop
  | ⟨(_, .list), _⟩ => ∀ d ∈ w.devices, OwnedBy uid d → (stampedAt d).isSome →
      present w.last d = false
  | ⟨(k, .now), t⟩ => ∀ d ∈ w.devices, OwnedBy uid d → ∀ p ∈ w.processed, wholeSecond t ≤ p.1 →
      present p.2 d = true → present k.items d = true
  | _ => True

/-- One worker, whose steps are timely. -/
def InTime (uid : String) (s : SyncPool) (l : Option (Nat × SyncEvent)) : Prop :=
  OneWorker s l ∧ ∀ i e, l = some (i, e) → Timely uid s.shared e

/-! ## The invariant -/

/-- Whenever the device was present, that was before the time `first`, or else
`back` holds. -/
def AbsentSince (w : World) (d : CiscoDevice) (first : Int) (back : Prop) : Prop :=
  ∀ p ∈ w.processed, present p.2 d = true → p.1 < first ∨ back

/-- Every stamp is younger than the inventories that have its device, the last
one excepted. -/
def StampsHold (uid : String) (w : World) : Prop :=
  ∀ d ∈ w.devices, OwnedBy uid d → ∀ first, stampedAt d = some first →
    AbsentSince w d first (present w.last d = true)

/-- What is known while a sync is under way. -/
structure Progress (uid : String) (w : World) (k : Job) (past : List WorkerEvent) : Prop where
  listing : ∀ devices, Listed past devices → ∀ d ∈ devices, OwnedBy uid d →
    ∀ first, stampedAt d = some first →
      AbsentSince w d first (¬ Unclocked past ∧ present k.items d = true)
  listed : Unclocked past → ∀ devices, Listed past devices → ∀ d ∈ w.devices, OwnedBy uid d →
    ∀ first, stampedAt d = some first → AbsentSince w d first False
  clocked : ∀ now, Clocked past now → w.last = k.items ∧ ∀ d ∈ w.devices, OwnedBy uid d →
    AbsentSince w d (wholeSecond now) (present k.items d = true)

/-- A stamp is younger than the inventories that have the device, the last one
excepted. -/
structure Stamped (uid : String) (_ : List (Nat × SyncEvent)) (s : SyncPool) : Prop where
  devices : ∀ d ∈ s.shared.devices, OwnedBy uid d → ∀ first, stampedAt d = some first →
    AbsentSince s.shared d first (present s.shared.last d = true)
  worker : ∀ client, s.clients 0 = some client → ∀ k, (∀ e ∈ client.past, e.1.1 = k) →
    Progress uid s.shared k (client.past.map untag)

theorem stampedAt_stamp (hstamp : d.missingSince = some (formatRFC3339 now))
    (h : stampedAt d = some first) : first = wholeSecond now := by
  rw [stampedAt, hstamp, Option.bind_some, formatRFC3339] at h
  by_cases hyear : 0 ≤ yearOf (now - nanosecond now) ∧ yearOf (now - nanosecond now) ≤ 9999
  · rw [parse_format hyear.1 hyear.2] at h
    exact (Option.some.inj h).symm
  · rw [parse_format_none (by omega)] at h
    cases h

theorem progress_nil : Progress uid w k [] :=
  ⟨fun _ h => absurd h not_mem_nil, fun _ _ h => absurd h not_mem_nil,
    fun _ h => absurd h not_mem_nil⟩

theorem present_congr {items : List InventoryItem} (hname : d.name = o.name)
    (hidentity : d.physicalIdentity = o.physicalIdentity) : present items d = present items o := by
  rw [present, present, hname, hidentity]

theorem AbsentSince.congr {back back' : Prop} (h : AbsentSince w o first back)
    (hname : d.name = o.name) (hidentity : d.physicalIdentity = o.physicalIdentity)
    (hprocessed : w'.processed = w.processed) (hback : back → back') :
    AbsentSince w' d first back' := by
  intro p hp hpresent
  rw [hprocessed] at hp
  rw [present_congr hname hidentity] at hpresent
  exact (h p hp hpresent).imp_right hback

theorem present_patched {cur : CiscoDevice} {it : InventoryItem}
    {access : NetworkControllerDeviceAccess} {items : List InventoryItem}
    (hoffers : k.Offers it d.name)
    (h : present items ((mergePatch cur it access (nodeLabels access it)).apply d) = true) :
    present items d = true := by
  by_cases hcur : cur.physicalIdentity = ""
  · rw [present, physicalIdentity_patched, if_pos hcur, Bool.or_eq_true] at h
    rw [present, Bool.or_eq_true]
    refine .inl ?_
    rcases h with hname | hserial
    · exact hname
    rw [Bool.and_eq_true, any_eq_true] at hserial
    obtain ⟨hne, x, hx, hserial⟩ := hserial
    have hserial : x.serial = it.serial := of_decide_eq_true hserial
    refine any_eq_true.mpr ⟨x, hx, ?_⟩
    rw [hserial, hoffers.name, Bool.and_eq_true]
    exact ⟨hne, decide_eq_true rfl⟩
  · rw [← h]
    refine present_congr rfl ?_
    rw [physicalIdentity_patched, if_neg hcur]

/-! ## One request -/

/-- How a device that is the controller's comes out of a request that neither
lists nor reads the clock. -/
inductive Lineage (uid : String) (w : World) (past : List WorkerEvent) (d : CiscoDevice) : Prop
  | kept (o : CiscoDevice) (ho : o ∈ w.devices) (howned : OwnedBy uid o) (hname : d.name = o.name)
      (hidentity : d.physicalIdentity = o.physicalIdentity)
      (hstamp : d.missingSince = o.missingSince)
  | created (hclock : Unclocked past) (hstamp : stampedAt d = none)
  | patched (o : CiscoDevice) (ho : o ∈ w.devices) (howned : OwnedBy uid o)
      (hclock : Unclocked past) (devices : List CiscoDevice) (hlisted : Listed past devices)
      (hstamp : stampedAt d = stampedAt o)
      (hpresent : ∀ items, present items d = true → present items o = true)
  | stamped (o : CiscoDevice) (ho : o ∈ w.devices) (howned : OwnedBy uid o)
      (hname : d.name = o.name) (hidentity : d.physicalIdentity = o.physicalIdentity) (now : Int)
      (hclock : Clocked past now) (hstamp : ∀ first, stampedAt d = some first →
        first = wholeSecond now)

theorem Clocked.not_unclocked (h : Clocked past now) : ¬ Unclocked past := fun hun => hun _ h rfl

section

variable (hstamped : StampsHold uid w) (hprogress : Progress uid w k past)
  (hprocessed : w'.processed = w.processed)

include hprocessed in
theorem last_eq : w'.last = w.last := by
  rw [World.last, hprocessed]
  rfl

include hstamped hprogress hprocessed in
theorem Lineage.stamps (h : Lineage uid w past d) (hfirst : stampedAt d = some first) :
    AbsentSince w' d first (present w'.last d = true) := by
  rw [last_eq hprocessed]
  cases h with
  | kept o ho howned hname hidentity hstamp =>
    rw [stampedAt, hstamp] at hfirst
    exact (hstamped o ho howned first hfirst).congr hname hidentity hprocessed
      (present_congr hname hidentity).trans
  | created hclock hstamp =>
    rw [hstamp] at hfirst
    cases hfirst
  | patched o ho howned hclock devices hlisted hstamp hpresent =>
    rw [hstamp] at hfirst
    intro p hp hd
    rw [hprocessed] at hp
    exact (hprogress.listed hclock devices hlisted o ho howned first hfirst p hp
      (hpresent _ hd)).imp_right False.elim
  | stamped o ho howned hname hidentity now hclock hstamp =>
    obtain ⟨hlast, habsent⟩ := hprogress.clocked now hclock
    rw [hstamp first hfirst, hlast]
    exact (habsent o ho howned).congr hname hidentity hprocessed (present_congr hname hidentity).trans

include hprogress hprocessed in
theorem Lineage.listed (h : Lineage uid w past d)
    (hfirst : stampedAt d = some first) (hclock : Unclocked past)
    (hlisted : Listed past devices) : AbsentSince w' d first False := by
  cases h with
  | kept o ho howned hname hidentity hstamp =>
    rw [stampedAt, hstamp] at hfirst
    exact (hprogress.listed hclock devices hlisted o ho howned first hfirst).congr hname
      hidentity hprocessed id
  | created _ hstamp =>
    rw [hstamp] at hfirst
    cases hfirst
  | patched o ho howned _ _ _ hstamp hpresent =>
    rw [hstamp] at hfirst
    intro p hp hd
    rw [hprocessed] at hp
    exact hprogress.listed hclock devices hlisted o ho howned first hfirst p hp (hpresent _ hd)
  | stamped o ho howned hname hidentity now hclocked _ =>
    exact absurd hclock hclocked.not_unclocked

include hprogress hprocessed in
theorem Lineage.clocked (h : Lineage uid w past d) (hclocked : Clocked past now) :
    AbsentSince w' d (wholeSecond now) (present k.items d = true) := by
  have habsent := (hprogress.clocked now hclocked).2
  cases h with
  | kept o ho howned hname hidentity _ =>
    exact (habsent o ho howned).congr hname hidentity hprocessed (present_congr hname hidentity).trans
  | created hclock _ | patched o ho howned hclock _ _ _ _ =>
    exact absurd hclock hclocked.not_unclocked
  | stamped o ho howned hname hidentity _ _ _ =>
    exact (habsent o ho howned).congr hname hidentity hprocessed (present_congr hname hidentity).trans

include hprogress hprocessed in
theorem Progress.follow (hdevices : ∀ d ∈ w'.devices, OwnedBy uid d → Lineage uid w past d) :
    Progress uid w' k past where
  listing := fun devices hlisted d hd howned first hfirst =>
    (hprogress.listing devices hlisted d hd howned first hfirst).congr rfl rfl hprocessed id
  listed := fun hclock _ hlisted d hd howned _ hfirst =>
    (hdevices d hd howned).listed hprogress hprocessed hfirst hclock hlisted
  clocked := fun now hclocked =>
    ⟨(last_eq hprocessed).trans (hprogress.clocked now hclocked).1,
      fun d hd howned => (hdevices d hd howned).clocked hprogress hprocessed hclocked⟩

end

theorem mem_snoc_of_ne {e' : WorkerEvent} (hne : e'.1 ≠ e.1) : e' ∈ past ++ [e] ↔ e' ∈ past := by
  rw [mem_append, mem_singleton]
  refine or_iff_left fun heq => hne ?_
  rw [heq]

theorem Progress.quiet (h : Progress uid w k past) (hlist : e.1 ≠ .list) (hnow : e.1 ≠ .now) :
    Progress uid w k (past ++ [e]) := by
  have hlisted : ∀ devices, Listed (past ++ [e]) devices ↔ Listed past devices :=
    fun devices => mem_snoc_of_ne hlist.symm
  have hclocked : ∀ now, Clocked (past ++ [e]) now ↔ Clocked past now :=
    fun now => mem_snoc_of_ne hnow.symm
  have hunclocked : Unclocked (past ++ [e]) ↔ Unclocked past :=
    ⟨fun h e' he' => h e' (mem_append_left _ he'), fun h => Job.unclocked_snoc h hnow⟩
  refine ⟨fun devices hdevices => ?_, fun hclock devices hdevices => ?_, fun now hclock => ?_⟩
  · rw [hunclocked]
    exact h.listing devices ((hlisted devices).mp hdevices)
  · exact h.listed (hunclocked.mp hclock) devices ((hlisted devices).mp hdevices)
  · exact h.clocked now ((hclocked now).mp hclock)

/-- Where the devices of the controller come from, if the request is neither a
listing nor a clock reading. -/
theorem Serves.lineage (hvalid : k.Valid)
    (hallowed : k.Allowed past c) (h : Serves w (k, c) a w') (hd : d ∈ w'.devices)
    (howned : OwnedBy uid d) : Lineage uid w past d := by
  cases h.origin hd with
  | kept hold => exact .kept d hold howned rfl rfl rfl
  | created =>
    obtain ⟨hclock, it, name, access, taken, -, -, rfl⟩ := hallowed
    exact .created hclock rfl
  | @patched cur o p ho hname =>
    obtain ⟨hclock, ⟨devices, hlisted⟩, it, access, hoffers, haccess, rfl⟩ := hallowed
    rw [← hname] at hoffers
    exact .patched o ho (ownedBy_patched (hvalid _ _ haccess) howned) hclock devices hlisted rfl
      fun items => present_patched hoffers
  | @stamped d' o stamp ho =>
    obtain ⟨now, hclocked, hstamp⟩ := hallowed
    refine .stamped o ho howned rfl rfl now hclocked fun first hfirst => ?_
    rcases hstamp with rfl | rfl
    · have hnone : (none : Option Int) = some first := hfirst
      cases hnone
    · exact stampedAt_stamp rfl hfirst
  | @deleting _ o _ ho => exact .kept o ho howned rfl rfl rfl

theorem Serves.processed (h : Serves w (k, c) a w') (hnow : c ≠ .now) :
    w'.processed = w.processed := by
  cases h with
  | now => exact absurd rfl hnow
  | effect h => cases h <;> rfl
  | _ => rfl

theorem Progress.list {a : Reply .list} (hstamped : StampsHold uid w)
    (htimely : ∀ d ∈ w.devices, OwnedBy uid d → (stampedAt d).isSome → present w.last d = false)
    (h : Serves w (k, .list) a w') : Progress uid w' k [⟨.list, a⟩] := by
  have hstrict : ∀ d ∈ w.devices, OwnedBy uid d → ∀ first, stampedAt d = some first →
      AbsentSince w d first False := by
    intro d hd howned first hfirst p hp hpresent
    refine (hstamped d hd howned first hfirst p hp hpresent).imp_right fun hback => ?_
    rw [htimely d hd howned (by rw [hfirst]; rfl)] at hback
    cases hback
  have hclocked : ∀ now, ¬ Clocked [(⟨.list, a⟩ : WorkerEvent)] now := by
    intro now hclock
    cases mem_singleton.mp hclock
  cases h with
  | listed hperm =>
    refine ⟨fun devices hlisted d hd howned first hfirst => ?_,
      fun _ _ _ => hstrict, fun now hclock => absurd hclock (hclocked now)⟩
    cases mem_singleton.mp hlisted
    exact (hstrict d (hperm.mem_iff.mp hd) howned first hfirst).congr rfl rfl rfl False.elim
  | listFailed e =>
    have hlisted : ∀ devices, ¬ Listed [(⟨.list, .error e⟩ : WorkerEvent)] devices := by
      intro devices hlisted
      cases mem_singleton.mp hlisted
    exact ⟨fun devices h => absurd h (hlisted devices), fun _ devices h => absurd h
      (hlisted devices), fun now hclock => absurd hclock (hclocked now)⟩
  | effect h => cases h

/-- The world when the inventory has been noted. -/
def World.compared (w : World) (k : Job) (t : Int) : World :=
  { w with clock := t, processed := w.processed ++ [(t, k.items)] }

theorem last_compared : (w.compared k now).last = k.items := by
  simp [World.last, World.compared]

theorem absentSince_compared {back : Prop} (h : AbsentSince w d first back)
    (hback : present k.items d = true → back) : AbsentSince (w.compared k now) d first back := by
  intro p hp hpresent
  rcases mem_append.mp hp with hold | hnew
  · exact h p hold hpresent
  · rw [mem_singleton.mp hnew] at hpresent
    exact .inr (hback hpresent)

theorem Progress.compare (h : Progress uid w k past) (hclock : Unclocked past)
    (hlisted : Listed past devices)
    (htimely : ∀ d ∈ w.devices, OwnedBy uid d → ∀ p ∈ w.processed, wholeSecond now ≤ p.1 →
      present p.2 d = true → present k.items d = true) :
    Progress uid (w.compared k now) k (past ++ [⟨.now, now⟩]) ∧
      StampsHold uid (w.compared k now) := by
  have hnow : Clocked (past ++ [(⟨.now, now⟩ : WorkerEvent)]) now :=
    mem_append_right _ (mem_singleton.mpr rfl)
  refine ⟨⟨?_, ?_, ?_⟩, ?_⟩
  · intro devices hdevices d hd howned first hfirst
    have hold : Listed past devices := (mem_snoc_of_ne (nofun : Request.list ≠ .now)).mp hdevices
    refine absentSince_compared ?_ fun hback => ⟨hnow.not_unclocked, hback⟩
    exact (h.listing devices hold d hd howned first hfirst).congr rfl rfl rfl
      fun hback => absurd hclock hback.1
  · exact fun hun => absurd hun hnow.not_unclocked
  · intro now' hnow'
    have hsame : now' = now := by
      rcases mem_append.mp hnow' with hold | hnew
      · exact absurd hclock (Clocked.not_unclocked hold)
      · cases mem_singleton.mp hnew
        rfl
    subst hsame
    refine ⟨last_compared, fun d hd howned => absentSince_compared ?_ id⟩
    intro p hp hpresent
    by_cases hbefore : p.1 < wholeSecond now'
    · exact .inl hbefore
    · exact .inr (htimely d hd howned p hp (by omega) hpresent)
  · intro d hd howned first hfirst
    rw [last_compared]
    refine absentSince_compared ?_ id
    exact (h.listed hclock devices hlisted d hd howned first hfirst).congr rfl rfl rfl False.elim

theorem Progress.step (hvalid : k.Valid)
    (hstamped : StampsHold uid w) (h : Progress uid w k past) (hallowed : k.Allowed past c)
    (htimely : Timely uid w ⟨(k, c), a⟩) (hserve : Serves w (k, c) a w') :
    Progress uid w' k (past ++ [⟨c, a⟩]) ∧ StampsHold uid w' := by
  have hquiet : c ≠ .list → c ≠ .now → Progress uid w' k (past ++ [⟨c, a⟩]) ∧
      StampsHold uid w' := by
    intro hlist hnow
    have hprocessed := hserve.processed hnow
    have hlineage : ∀ d ∈ w'.devices, OwnedBy uid d → Lineage uid w past d :=
      fun d hd howned => hserve.lineage hvalid hallowed hd howned
    exact ⟨(h.follow hprocessed hlineage).quiet hlist hnow, fun d hd howned first hfirst =>
      (hlineage d hd howned).stamps hstamped h hprocessed hfirst⟩
  cases c with
  | list =>
    cases show past = [] from hallowed
    refine ⟨Progress.list hstamped htimely hserve, ?_⟩
    cases hserve with
    | listed _ | listFailed _ => exact hstamped
    | effect h => cases h
  | now =>
    obtain ⟨hclock, -, devices, hlisted⟩ := hallowed
    cases hserve with
    | now _ => exact h.compare hclock hlisted htimely
    | effect h => cases h
  | _ => exact hquiet nofun nofun

/-! ## All the syncs of a run -/

theorem stamped_preserved (hstart : start.processed = []) :
    Setting.Preserved (syncs uid Job.Valid) (fun _ _ => True) (Guarded uid Job.Valid)
      (InTime uid) start (Stamped uid) where
  nil := by
    refine ⟨fun d _ _ first _ p hp => ?_, nofun⟩
    have hp : p ∈ start.processed := hp
    rw [hstart] at hp
    exact absurd hp not_mem_nil
  set := by
    intro log s i h p
    refine ⟨h.devices, fun client hclient k htags => ?_⟩
    rcases Pool.clients_fresh hclient with hnil | hold
    · rw [hnil]
      exact progress_nil
    · exact h.worker client hold k htags
  act := by
    intro log s i past c next r shared h hi hc hserve hadmits
    obtain ⟨honly, htimely⟩ := hadmits
    cases honly i _ rfl
    obtain ⟨k, c⟩ := c
    have hprogress : Progress uid s.shared k (past.map untag) := h.worker _ hi k hc.tags
    obtain ⟨hprogress', hstamped'⟩ := Progress.step (a := r) hc.admitted h.devices hprogress
      hc.allowed (htimely 0 _ rfl) hserve
    refine ⟨trivial, hstamped', fun client hclient k' htags => ?_⟩
    have hclient : (s.set 0 (some ⟨past ++ [⟨(k, c), r⟩], next r⟩)).clients 0 = some client := hclient
    cases Option.some.inj (Pool.clients_set_self.symm.trans hclient)
    cases htags _ (mem_append_right _ (mem_singleton.mpr rfl))
    rw [map_append]
    exact hprogress'
  drift := by
    intro log s shared h hdrift
    have hlineage : ∀ past, ∀ d ∈ shared.devices, OwnedBy uid d → Lineage uid s.shared past d := by
      intro past d hd howned
      obtain ⟨o, ho, howned', hname, hidentity, hstamp⟩ := hdrift.kept d hd howned
      exact .kept o ho howned' hname hidentity hstamp
    refine ⟨fun d hd howned first hfirst => ?_, fun client hclient k htags => ?_⟩
    · exact (hlineage [] d hd howned).stamps h.devices (k := ⟨uid, { enabled := false }, []⟩)
        progress_nil
        hdrift.processed hfirst
    · exact (h.worker client hclient k htags).follow hdrift.processed (hlineage _)

/-- In a run in which every stamp of a switch that is back has been removed
before the next listing, no device is deleted before its time. -/
theorem prunes_in_time (hstart : start.processed = [])
    (h : (syncs uid Job.Valid).Run (InTime uid) start log s) : PrunesInTime uid s := by
  obtain ⟨hstamped, hkept⟩ := h.preserves starts_obeys (stamped_preserved hstart)
  intro past k d next hclient
  have hguarded : Guarded uid Job.Valid past (k, .delete d) := (hkept 0 _ hclient).1
  have hprogress := hstamped.worker _ hclient k hguarded.tags
  have huid : k.uid = uid := hguarded.uid
  obtain ⟨devices, now, hlisted, hclocked, hdue, hlimit⟩ :=
    show k.Allowed (past.map untag) (.delete d) from hguarded.allowed
  have howned : OwnedBy uid d := huid ▸ hdue.owned
  obtain ⟨first, hfirst, hgrace⟩ := hdue.stamped
  refine ⟨howned, devices, now, hlisted, hclocked, fun p hp htime => ?_, ?_⟩
  · by_contra hpresent
    rw [Bool.not_eq_false] at hpresent
    rcases hprogress.listing devices hlisted d hdue.listed howned first hfirst p hp hpresent
      with hbefore | ⟨-, hback⟩
    · omega
    · rw [hdue.missing] at hback
      cases hback
  · rw [Job.pruneLimit_eq] at hlimit
    omega

/-! A controller that prunes, with the default grace period of a day, and syncs
every half a day. -/

def pruneJob (serials : List String) : Job where
  uid := "controller-1"
  adoption :=
    { enabled := true
      defaults := some (leafAccess { enabled := true })
      removal := some { policy := some .prune } }
  items := serials.map fun serial =>
    { leafItem with serial := serial, model := "", fabric := "", role := "" }

theorem pruneJob_valid (serials : List String) : (pruneJob serials).Valid := by
  intro fabric access haccess
  cases haccess
  exact Map.find_set_ne (by decide)

def bothSwitches : Job := pruneJob ["FDO23170ABC", "FDO23170ABD"]

def firstSwitch : Job := pruneJob ["FDO23170ABC"]

/-- Both switches are adopted, and then the second is missing. -/
def stampedWorld (clears : Bool) : World :=
  (visit clears firstSwitch 5 (visit clears bothSwitches 8 emptyWorld).2).2

/-- The sync that deletes, just before it does, and its world. -/
def finalSync (clears : Bool) (third : Job) : Client SyncRequest SyncReply Job.Step × World :=
  visit clears firstSwitch 4 (visit clears third 6 (stampedWorld clears)).2

def pruneJobs (third : Job) : List (Job × Nat) :=
  [(bothSwitches, 8), (firstSwitch, 5), (third, 6), (firstSwitch, 4)]

theorem visits_pruneJobs (clears : Bool) (third : Job) :
    visits clears (pruneJobs third) (none, emptyWorld) =
      (some (finalSync clears third).1, (finalSync clears third).2) := by
  simp only [pruneJobs, visits, finalSync, stampedWorld, id_eq, Prod.map]

theorem pruneJobs_valid (hthird : third.uid = "controller-1" ∧ third.Valid) :
    ∀ j ∈ pruneJobs third, j.1.uid = "controller-1" ∧ j.1.Valid := by
  intro j hj
  simp only [pruneJobs, mem_cons, not_mem_nil, or_false] at hj
  rcases hj with rfl | rfl | rfl | rfl
  · exact ⟨rfl, pruneJob_valid _⟩
  · exact ⟨rfl, pruneJob_valid _⟩
  · exact hthird
  · exact ⟨rfl, pruneJob_valid _⟩

theorem oneWorker_none : OneWorker s none := fun _ _ h => by cases h

theorem oneWorker_zero {e : SyncEvent} : OneWorker s (some (0, e)) :=
  fun _ _ heq => (congrArg Prod.fst (Option.some.inj heq)).symm

/-- The times that the worker has read. -/
def readings (past : List SyncEvent) : List Int :=
  past.filterMap fun
    | ⟨(_, .now), t⟩ => some t
    | _ => none

theorem mem_readings {past : List SyncEvent} (h : Clocked (past.map untag) now) :
    now ∈ readings past := by
  obtain ⟨⟨⟨k, c⟩, r⟩, he, heq⟩ := mem_map.mp h
  cases heq
  exact mem_filterMap.mpr ⟨_, he, rfl⟩

/-- The worker is about to delete a device that some inventory of the grace
period has. -/
def early (client : Client SyncRequest SyncReply Job.Step) (w : World) : Bool :=
  match client.awaits with
  | some (k, .delete d) => (readings client.past).all fun t => w.processed.any fun p =>
    decide (t - effectiveGracePeriod k.adoption.removal ≤ p.1) && present p.2 d
  | _ => false

theorem not_prunesInTime_of_early {client : Client SyncRequest SyncReply Job.Step}
    (hclient : s.clients 0 = some client) (h : early client s.shared = true) :
    ¬ PrunesInTime uid s := by
  intro hprunes
  rw [early] at h
  split at h
  · rename_i k d hnext
    obtain ⟨past, next, rfl⟩ := Client.awaits_eq_some hnext
    obtain ⟨-, devices, now, -, hclocked, habsent, -⟩ := hprunes past k d next hclient
    obtain ⟨p, hp, hpresent⟩ := any_eq_true.mp (all_eq_true.mp h now
      (mem_readings hclocked))
    rw [Bool.and_eq_true, decide_eq_true_eq] at hpresent
    rw [habsent p hp hpresent.1] at hpresent
    cases hpresent.2
  · cases h

/-- The second switch is back in the third inventory, but its stamp cannot be
removed at that time. -/
theorem returned_switch_pruned : ∃ log s,
    (syncs "controller-1" Job.Valid).Run OneWorker emptyWorld log s ∧
      ¬ PrunesInTime "controller-1" s := by
  have hnil : (syncs "controller-1" Job.Valid).Run OneWorker emptyWorld [] (.idle _) := .nil
  obtain ⟨log, clients, hrun, hclient⟩ := Run.visits _ false (pruneJobs bothSwitches)
    (none, emptyWorld) hnil rfl (pruneJobs_valid ⟨rfl, pruneJob_valid _⟩) (fun _ => oneWorker_none)
    (fun _ _ _ => oneWorker_zero) accepts_true
  rw [visits_pruneJobs] at hrun hclient
  have hearly : early (finalSync false bothSwitches).1 (finalSync false bothSwitches).2 = true := by
    decide +kernel
  exact ⟨log, _, hrun, not_prunesInTime_of_early hclient hearly⟩

instance (uid : String) (w : World) : (e : SyncEvent) → Decidable (Timely uid w e)
  | ⟨(_, .list), _⟩ => inferInstanceAs (Decidable (∀ d ∈ w.devices, _))
  | ⟨(_, .now), _⟩ => inferInstanceAs (Decidable (∀ d ∈ w.devices, _))
  | ⟨(_, .cancelled), _⟩ => isTrue trivial
  | ⟨(_, .permit), _⟩ => isTrue trivial
  | ⟨(_, .create _), _⟩ => isTrue trivial
  | ⟨(_, .patch ..), _⟩ => isTrue trivial
  | ⟨(_, .patchMissingSince ..), _⟩ => isTrue trivial
  | ⟨(_, .delete _), _⟩ => isTrue trivial

def isDeletion : Option SyncRequest → Bool
  | some (_, .delete _) => true
  | _ => false

theorem missing_switch_pruned : ∃ log s client,
    (syncs "controller-1" Job.Valid).Run (InTime "controller-1") emptyWorld log s ∧
      s.clients 0 = some client ∧ isDeletion client.awaits = true ∧
        PrunesInTime "controller-1" s := by
  have hadmits : ∀ (s : SyncPool) c,
      decide (Timely "controller-1" s.shared ⟨c, (clerk true c s.shared).1⟩) = true →
        InTime "controller-1" s (some (0, ⟨c, (clerk true c s.shared).1⟩)) := by
    intro s c hc
    refine ⟨oneWorker_zero, fun i e heq => ?_⟩
    cases heq
    exact of_decide_eq_true hc
  have hnil : (syncs "controller-1" Job.Valid).Run (InTime "controller-1") emptyWorld [] (.idle _) :=
    .nil
  obtain ⟨log, clients, hrun, hclient⟩ := Run.visits (fun w c => decide (Timely "controller-1" w
      ⟨c, (clerk true c w).1⟩)) true (pruneJobs firstSwitch) (none, emptyWorld) hnil rfl
    (pruneJobs_valid ⟨rfl, pruneJob_valid _⟩) (fun _ => ⟨oneWorker_none, fun _ _ h => by cases h⟩)
    hadmits (by decide +kernel)
  rw [visits_pruneJobs] at hrun hclient
  have hdeletion : isDeletion (finalSync true firstSwitch).1.awaits = true := by decide +kernel
  exact ⟨log, _, _, hrun, hclient, hdeletion, prunes_in_time rfl hrun⟩

end VirtualKubelet.ControllerAdapter.NexusDashboard
