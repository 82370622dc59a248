import VirtualKubelet.Proofs.SectionWrites

/-!
# The write-ahead journal of a section

What a session last wrote to a Lease stays in force as long as its journal is
unsettled: no other session may write over it, and of the writes that are still
under way none was computed from it. So the entry that a reconciliation saves
before a mutation is the one in force when the mutation is sent, and it was put
there by that very reconciliation.
-/

namespace VirtualKubelet.ControllerAdapter

open Go Api Program

variable {m : Model} {names : Nat → String} {start w w' : World} {log : List (Nat × SessionEvent)}
  {s s' : SessionPool} {l : Option (Nat × SessionEvent)} {i : Nat} {k : Job}
  {past : List WorkerEvent} {name session : String} {copy : Object Lease} {lease : Lease}
  {c : Request} {e : WorkerEvent}

/-! ## The Leases of the world -/

theorem leases_put_self : (w.put name lease).leases name = (w.leases name).put lease :=
  Function.update_self ..

theorem leases_put_ne (h : name' ≠ name) : (w.put name lease).leases name' = w.leases name' :=
  Function.update_of_ne h ..

theorem current_put_self : (w.put name lease).current name = some (w.written name lease) := by
  rw [World.current, leases_put_self]
  rfl

theorem current_put_ne (h : name' ≠ name) : (w.put name lease).current name' = w.current name' := by
  rw [World.current, leases_put_ne h]
  rfl

theorem read_put (h : (w.leases name').Read copy) :
    ((w.put name lease).leases name').Read copy := by
  by_cases hname : name' = name
  · subst hname
    rw [leases_put_self]
    exact Slot.read_put h
  · rw [leases_put_ne hname]
    exact h

theorem read_written : ((w.put name lease).leases name).Read (w.written name lease) :=
  Slot.read_current current_put_self

theorem Serves.read {c : SessionRequest} {a : SessionReply c} (h : Serves w c a w')
    (hread : (w.leases name').Read copy) : (w'.leases name').Read copy := by
  cases h with
  | found | getFailed | createFailed | updateFailed | elsewhere => exact hread
  | created | updated => exact read_put hread

theorem Serves.faithful {c : SessionRequest} {a : SessionReply c} (h : Serves w c a w') :
    Faithful c.2 a := by
  cases h with
  | found | getFailed | createFailed | updateFailed => trivial
  | created | updated => rfl
  | @elsewhere k c a h => cases c <;> trivial

/-! ## The invariant -/

/-- The copy was read or written by the reconciliation. -/
def Knows (past : List WorkerEvent) (name : String) (copy : Object Lease) : Prop :=
  (⟨.getLease name, .ok copy⟩ : WorkerEvent) ∈ past ∨ Wrote past name copy

/-- While its journal is unsettled, what the session last wrote is in force and
no pending write was computed from it. -/
structure Holds (w : World) (session : String) (past : List WorkerEvent) : Prop where
  holder : ∀ name l, lastAnswer name past = some (.ok l) →
    l.content.holderIdentity = some session
  current : ∀ name l j, lastAnswer name past = some (.ok l) → l.content.journal = some j →
    j.Unsettled → w.current name = some l
  alone : ∀ name l j, lastAnswer name past = some (.ok l) → l.content.journal = some j →
    j.Unsettled → ∀ copy lease, .update name copy lease ∈ w.pending →
      copy.resourceVersion ≠ l.resourceVersion

/-- A pending write was allowed when it was sent. -/
structure PendingAllowed (w : World) (name : String) (copy : Object Lease) (lease : Lease) :
    Prop where
  read : (w.leases name).Read copy
  rewrites : ∃ k : Job, Rewrites k copy.content lease

structure Fenced (names : Nat → String) (s : SessionPool) : Prop where
  copies : ∀ i client, s.clients i = some client → ∀ name copy,
    Knows (client.past.map untag) name copy → (s.shared.leases name).Read copy
  pending : ∀ name copy lease, .update name copy lease ∈ s.shared.pending →
    PendingAllowed s.shared name copy lease
  held : ∀ i client, s.clients i = some client →
    Holds s.shared (names i) (client.past.map untag)

/-- Nobody else may write over what the session last wrote. -/
theorem Holds.not_rewrites {l : Object Lease} (h : Holds w session past)
    (hlast : lastAnswer name past = some (.ok l)) (hj : l.content.journal = some j)
    (hun : j.Unsettled) (hk : k.session ≠ session) (hrewrites : Rewrites k l.content lease) :
    False := by
  rcases hrewrites.settled with hholder | hsettled
  · rw [h.holder name l hlast] at hholder
    exact hk (Option.some.inj hholder).symm
  · exact hsettled j hj hun

theorem Holds.put (h : Holds w session past)
    (hover : ∀ l j, lastAnswer name past = some (.ok l) → l.content.journal = some j →
      j.Unsettled → False) : Holds (w.put name lease) session past := by
  refine ⟨h.holder, fun name' l j hlast hj hun => ?_, h.alone⟩
  by_cases hname : name' = name
  · subst hname
    exact (hover l j hlast hj hun).elim
  · rw [current_put_ne hname]
    exact h.current name' l j hlast hj hun

theorem Holds.leave (h : Holds w session past)
    (hover : ∀ name l j, lastAnswer name past = some (.ok l) → l.content.journal = some j →
      j.Unsettled → ∀ copy lease, write = .update name copy lease →
        copy.resourceVersion ≠ l.resourceVersion) : Holds (w.leave write) session past := by
  refine ⟨h.holder, h.current, fun name l j hlast hj hun copy lease hmem => ?_⟩
  rcases List.mem_cons.mp hmem with hnew | hold
  · exact hover name l j hlast hj hun copy lease hnew.symm
  · exact h.alone name l j hlast hj hun copy lease hold

theorem Holds.other (h : Holds w session past) (hserve : Serves w (k, c) a w')
    (hallowed : Allowed m k own c)
    (hread : ∀ name copy, Knows own name copy → (w.leases name).Read copy)
    (hk : k.session ≠ session) : Holds w' session past := by
  cases hserve with
  | found | getFailed | elsewhere => exact h
  | created hnone =>
    refine h.put fun l j hlast hj hun => ?_
    have hcurrent := h.current _ l j hlast hj hun
    rw [hnone] at hcurrent
    cases hcurrent
  | createFailed => exact h.leave fun _ _ _ _ _ _ _ _ hwrite => nomatch hwrite
  | @updated _ name copy o lease ho hversion =>
    obtain ⟨hknows, hrewrites⟩ := hallowed
    have hsame := (hread name copy hknows).same o ho hversion
    subst hsame
    refine h.put fun l j hlast hj hun => ?_
    have hcurrent := h.current _ l j hlast hj hun
    rw [ho] at hcurrent
    cases hcurrent
    exact h.not_rewrites hlast hj hun hk hrewrites
  | @updateFailed _ name copy lease e =>
    obtain ⟨hknows, hrewrites⟩ := hallowed
    refine h.leave fun name' l j hlast hj hun copy' lease' hwrite hversion => ?_
    cases hwrite
    have hcurrent := h.current _ l j hlast hj hun
    have hsame := (hread name copy hknows).same l hcurrent hversion.symm
    subst hsame
    exact h.not_rewrites hlast hj hun hk hrewrites

theorem lastAnswer_snoc_ok {a : Answer (Object Lease)} {l : Object Lease}
    (ha : answered name e = some a) (h : lastAnswer name (past ++ [e]) = some (.ok l)) :
    a = .ok l := by
  rw [lastAnswer_snoc, ha] at h
  exact Option.some.inj h

theorem lastAnswer_snoc_none (he : answered name e = none) :
    lastAnswer name (past ++ [e]) = lastAnswer name past := by
  rw [lastAnswer_snoc, he]
  rfl

theorem Holds.snoc (h : Holds w session past) (he : ∀ name, answered name e = none) :
    Holds w session (past ++ [e]) := by
  refine ⟨fun name l hlast => ?_, fun name l j hlast => ?_, fun name l j hlast => ?_⟩
  · rw [lastAnswer_snoc_none (he name)] at hlast
    exact h.holder name l hlast
  · rw [lastAnswer_snoc_none (he name)] at hlast
    exact h.current name l j hlast
  · rw [lastAnswer_snoc_none (he name)] at hlast
    exact h.alone name l j hlast

/-- What the session has just written is in force, and newer than every copy. -/
theorem Holds.wrote (h : Holds w session past)
    (hself : answered name e = some (.ok (w.written name lease)))
    (hothers : ∀ name', name' ≠ name → answered name' e = none)
    (hholder : lease.holderIdentity = some session)
    (hpending : ∀ copy lease, .update name copy lease ∈ w.pending → (w.leases name).Read copy) :
    Holds (w.put name lease) session (past ++ [e]) := by
  refine ⟨fun name' l hlast => ?_, fun name' l j hlast hj hun => ?_,
    fun name' l j hlast hj hun copy lease' hmem => ?_⟩
  · by_cases hname : name' = name
    · subst hname
      cases lastAnswer_snoc_ok hself hlast
      exact hholder
    · rw [lastAnswer_snoc_none (hothers name' hname)] at hlast
      exact h.holder name' l hlast
  · by_cases hname : name' = name
    · subst hname
      cases lastAnswer_snoc_ok hself hlast
      exact current_put_self
    · rw [lastAnswer_snoc_none (hothers name' hname)] at hlast
      rw [current_put_ne hname]
      exact h.current name' l j hlast hj hun
  · by_cases hname : name' = name
    · subst hname
      cases lastAnswer_snoc_ok hself hlast
      have hle := (hpending copy lease' hmem).older
      show copy.resourceVersion ≠ (w.leases name').revision + 1
      omega
    · rw [lastAnswer_snoc_none (hothers name' hname)] at hlast
      exact h.alone name' l j hlast hj hun copy lease' hmem

theorem Holds.failed (h : Holds w session past) (hself : answered name e = some (.error error))
    (hothers : ∀ name', name' ≠ name → answered name' e = none)
    (hwrite : ∀ name' copy lease, write = .update name' copy lease → name' = name) :
    Holds (w.leave write) session (past ++ [e]) := by
  have hname : ∀ name' l, lastAnswer name' (past ++ [e]) = some (.ok l) →
      name' ≠ name ∧ lastAnswer name' past = some (.ok l) := by
    intro name' l hlast
    have hne : name' ≠ name := by
      rintro rfl
      cases lastAnswer_snoc_ok hself hlast
    rw [lastAnswer_snoc_none (hothers name' hne)] at hlast
    exact ⟨hne, hlast⟩
  refine ⟨fun name' l hlast => h.holder name' l (hname name' l hlast).2,
    fun name' l j hlast => h.current name' l j (hname name' l hlast).2,
    fun name' l j hlast hj hun copy lease hmem => ?_⟩
  obtain ⟨hne, hlast⟩ := hname name' l hlast
  rcases List.mem_cons.mp hmem with hnew | hold
  · exact absurd (hwrite name' copy lease hnew.symm) hne
  · exact h.alone name' l j hlast hj hun copy lease hold

theorem Holds.own (h : Holds w k.session past) (hserve : Serves w (k, c) a w')
    (hallowed : Allowed m k past c)
    (hpending : ∀ name copy lease, .update name copy lease ∈ w.pending →
      PendingAllowed w name copy lease) : Holds w' k.session (past ++ [⟨c, a⟩]) := by
  have hread : ∀ name copy lease, .update name copy lease ∈ w.pending →
      (w.leases name).Read copy := fun name copy lease hmem => (hpending name copy lease hmem).read
  cases hserve with
  | found | getFailed => exact h.snoc fun _ => rfl
  | elsewhere helse => exact h.snoc fun _ => by cases c <;> first | rfl | cases helse
  | created => exact h.wrote answered_create (fun _ hne => if_neg hne.symm) hallowed (hread _)
  | updated =>
    exact h.wrote answered_update (fun _ hne => if_neg hne.symm) hallowed.2.holder (hread _)
  | createFailed =>
    exact h.failed answered_create (fun _ hne => if_neg hne.symm) fun _ _ _ hwrite => nomatch hwrite
  | updateFailed =>
    refine h.failed answered_update (fun _ hne => if_neg hne.symm) fun name' copy' lease' hwrite => ?_
    cases hwrite
    rfl

theorem knows_snoc (hserve : Serves w (k, c) a w') (h : Knows (past ++ [⟨c, a⟩]) name copy)
    (hold : Knows past name copy → (w.leases name).Read copy) : (w'.leases name).Read copy := by
  have hnew : ∀ e : WorkerEvent, e ∈ past ++ [⟨c, a⟩] → e ∈ past ∨ e = ⟨c, a⟩ := by
    intro e he
    rcases List.mem_append.mp he with he | he
    · exact .inl he
    · exact .inr (List.mem_singleton.mp he)
  rcases h with hread | ⟨e, he, ha⟩
  · rcases hnew _ hread with hread | heq
    · exact hserve.read (hold (.inl hread))
    · cases heq
      cases hserve with
      | found hcurrent => exact Slot.read_current hcurrent
      | elsewhere helse => cases helse
  · rcases hnew e he with he | rfl
    · exact hserve.read (hold (.inr ⟨e, he, ha⟩))
    cases hserve with
    | found | getFailed => cases ha
    | elsewhere helse => cases c <;> first | cases ha | cases helse
    | created | updated =>
      simp only [answered] at ha
      split at ha
      · rename_i hname
        subst hname
        cases ha
        exact read_written
      · cases ha
    | createFailed | updateFailed =>
      simp only [answered] at ha
      split at ha
      · cases ha
      · cases ha

theorem PendingAllowed.served {c : SessionRequest} {a : SessionReply c}
    (h : PendingAllowed w name copy lease) (hserve : Serves w c a w') :
    PendingAllowed w' name copy lease :=
  ⟨hserve.read h.read, h.rewrites⟩

theorem pendingAllowed_served
    (h : ∀ name copy lease, .update name copy lease ∈ w.pending → PendingAllowed w name copy lease)
    (hserve : Serves w (k, c) a w') (hallowed : Allowed m k past c)
    (hread : ∀ name copy, Knows past name copy → (w.leases name).Read copy) :
    ∀ name copy lease, .update name copy lease ∈ w'.pending →
      PendingAllowed w' name copy lease := by
  intro name copy lease hmem
  cases hserve with
  | found | getFailed | elsewhere => exact h name copy lease hmem
  | created hnone => exact (h name copy lease hmem).served (.created (k := k) hnone)
  | updated ho hversion => exact (h name copy lease hmem).served (.updated (k := k) ho hversion)
  | createFailed e =>
    rcases List.mem_cons.mp hmem with hnew | hold
    · cases hnew
    · exact (h name copy lease hold).served (.createFailed (k := k) e)
  | updateFailed e =>
    rcases List.mem_cons.mp hmem with hnew | hold
    · cases hnew
      exact ⟨hread _ _ hallowed.1, k, hallowed.2⟩
    · exact (h name copy lease hold).served (.updateFailed (k := k) e)

def AllowedBy (m : Model) (past : List SessionEvent) (c : SessionRequest) : Prop :=
  (∀ e ∈ past, e.1.1 = c.1) ∧ Allowed m c.1 (past.map untag) c.2

theorem starts_obey (h : (sessions m).starts p) :
    p.Obeys (fun c : SessionRequest => Faithful c.2) (AllowedBy m) [] fun _ _ => True := by
  obtain ⟨k, rfl⟩ := h
  have h : Obliged m k (k.reconcile m) [] fun _ _ => True := obliged_reconcile
  exact (Obeys.tag (G := Allowed m) (Q := fun _ _ _ => True) h).mono fun _ _ _ _ => trivial

theorem fenced_preserved (m : Model) (hnames : Function.Injective names)
    (leases : String → Slot Lease) :
    (sessions m).Preserved (fun c : SessionRequest => Faithful c.2) (AllowedBy m) (InPlace names) ⟨leases, []⟩
      fun _ s => Fenced names s where
  nil := ⟨fun _ _ h => (nomatch h), fun _ _ _ h => (nomatch h), fun _ _ h => (nomatch h)⟩
  set := by
    intro log s i h p
    refine ⟨fun j client hj => ?_, h.pending, fun j client hj => ?_⟩
    · rcases Pool.clients_fresh hj with hnil | hold
      · rw [hnil]
        rintro name copy (hread | ⟨e, he, -⟩)
        · cases hread
        · cases he
      · exact h.copies j client hold
    · rcases Pool.clients_fresh hj with hnil | hold
      · rw [hnil]
        exact ⟨fun _ _ hlast => (nomatch hlast), fun _ _ _ hlast => (nomatch hlast),
          fun _ _ _ hlast => (nomatch hlast)⟩
      · exact h.held j client hold
  act := by
    intro log s i past c next a shared h hi hG hserve hplace
    obtain ⟨k, c⟩ := c
    obtain ⟨-, hallowed⟩ := hG
    have hsession : k.session = names i := hplace i _ rfl
    have hread := h.copies i _ hi
    have hpast : (past ++ [(⟨(k, c), a⟩ : SessionEvent)]).map untag =
        past.map untag ++ [⟨c, a⟩] := List.map_append
    refine ⟨hserve.faithful, fun j client hj => ?_, ?_, fun j client hj => ?_⟩
    · rcases Pool.clients_set hj with ⟨-, hnew⟩ | ⟨-, hold⟩
      · cases hnew
        intro name copy hknows
        rw [hpast] at hknows
        exact knows_snoc hserve hknows (hread name copy)
      · exact fun name copy hknows => hserve.read (h.copies j client hold name copy hknows)
    · exact pendingAllowed_served h.pending hserve hallowed hread
    rcases Pool.clients_set hj with ⟨rfl, hnew⟩ | ⟨hne, hold⟩
    · cases hnew
      have hown := h.held j _ hi
      rw [← hsession] at hown ⊢
      rw [hpast]
      exact hown.own hserve hallowed h.pending
    · refine (h.held j client hold).other hserve hallowed hread ?_
      rw [hsession]
      exact fun heq => hne (hnames heq).symm
  drift := by
    intro log s shared h hlands
    have hcopies : ∀ {name lease}, shared = s.shared.put name lease →
        ∀ i client, s.clients i = some client → ∀ name copy,
          Knows (client.past.map untag) name copy → (shared.leases name).Read copy := by
      rintro name lease rfl i client hi name' copy hknows
      exact read_put (h.copies i client hi name' copy hknows)
    have hpending : ∀ {name lease}, shared = s.shared.put name lease →
        ∀ name copy lease, .update name copy lease ∈ shared.pending →
          PendingAllowed shared name copy lease := by
      rintro name lease rfl name' copy lease' hmem
      have hp := h.pending name' copy lease' hmem
      exact ⟨read_put hp.read, hp.rewrites⟩
    cases hlands with
    | created _ hnone =>
      refine ⟨hcopies rfl, hpending rfl, fun i client hi => (h.held i client hi).put ?_⟩
      intro l j hlast hj hun
      have hcurrent := (h.held i client hi).current _ l j hlast hj hun
      rw [hnone] at hcurrent
      cases hcurrent
    | updated hmem ho hversion =>
      refine ⟨hcopies rfl, hpending rfl, fun i client hi => (h.held i client hi).put ?_⟩
      intro l j hlast hj hun
      have hcurrent := (h.held i client hi).current _ l j hlast hj hun
      rw [ho] at hcurrent
      cases hcurrent
      exact (h.held i client hi).alone _ _ j hlast hj hun _ _ hmem hversion.symm

/-! ## Every step of every run -/

/-- The section's Lease, as it is, was saved by the reconciliation of these
events, and the save turned the entry of the resource from `old` into `new`. -/
def Journalled (w : World) (k : Job) (past : List WorkerEvent) (r : Resource)
    (old new : MutationReceipt) : Prop :=
  ∃ current, w.current (k.lock r.section).name = some current ∧ Recorded k past r current old new

theorem Prepared.journalled {id : String} (h : Prepared k past r old ⟨.dispatched, id⟩)
    (hholds : Holds w session past) : Journalled w k past r old ⟨.dispatched, id⟩ := by
  obtain ⟨current, hlast, hrecorded⟩ := h.recorded
  obtain ⟨after, hafter, hentry⟩ := hrecorded.entry
  have hunsettled : after.Unsettled := by
    refine unsettled_iff.mpr ⟨resourceKey r, ?_⟩
    rw [hentry]
  exact ⟨current, hholds.current _ current after hlast hafter hunsettled, hrecorded⟩

/-- What holds of a request when it is served: a mutation is the only one of its
reconciliation and recorded as dispatched by it, over an entry that was not; an
update is of the unattached object that the entry knew; and in the apply mode
`InSync` is published only if everything compiled was observed equal. -/
def Safe (m : Model) (w : World) (k : Job) (past : List WorkerEvent) : Request → Prop
  | .create r => Unmutated past ∧ Observed past r none ∧
      ∃ old, old.state ≠ .dispatched ∧ Journalled w k past r old ⟨.dispatched, ""⟩
  | .update r o => Unmutated past ∧ Observed past r (some o) ∧ o.attached = false ∧
      ∃ old, old.state ≠ .dispatched ∧ old.state ≠ .unset ∧ old.id = o.id ∧
        Journalled w k past r old ⟨.dispatched, o.id⟩
  | .patchStatus .inSync _ _ => k.config.apply = true → AllEqual m k past
  | _ => True

theorem safe_of_allowed (h : Allowed m k past c) (hholds : Holds w session past) :
    Safe m w k past c := by
  cases c with
  | create r =>
    obtain ⟨hobserved, old, hprepared⟩ := h
    exact ⟨hprepared.first, hobserved, old, hprepared.settled, hprepared.journalled hholds⟩
  | update r o =>
    obtain ⟨hobserved, hattached, old, hprepared, hid, hset⟩ := h
    exact ⟨hprepared.first, hobserved, hattached, old, hprepared.settled, hset, hid,
      hprepared.journalled hholds⟩
  | patchStatus phase reason count =>
    cases phase with
    | inSync => exact h
    | failed | drifted | leaseBlocked | applying => trivial
  | now | getLease | createLease | updateLease | live | guard | validateConfigContract
  | readSource | discover | observe => trivial

/-- The holder of the Lease stays while its journal is unsettled. -/
def KeepsHolder (w w' : World) : Prop :=
  ∀ name old new j, w.current name = some old → w'.current name = some new →
    old.content.journal = some j → j.Unsettled →
      new.content.holderIdentity = old.content.holderIdentity

theorem keepsHolder_refl (w : World) : KeepsHolder w w := by
  intro name old new j hold hnew _ _
  rw [hold] at hnew
  cases hnew
  rfl

theorem keepsHolder_created (h : w.current name = none) : KeepsHolder w (w.put name lease) := by
  intro name' old new j hold hnew hj hun
  by_cases hname : name' = name
  · subst hname
    rw [h] at hold
    cases hold
  · rw [current_put_ne hname] at hnew
    exact keepsHolder_refl w name' old new j hold hnew hj hun

theorem keepsHolder_updated (h : w.current name = some o) (hrewrites : Rewrites k o.content lease) :
    KeepsHolder w (w.put name lease) := by
  intro name' old new j hold hnew hj hun
  by_cases hname : name' = name
  · subst hname
    rw [h] at hold
    cases hold
    rw [current_put_self] at hnew
    cases hnew
    rcases hrewrites.settled with hholder | hsettled
    · rw [hholder]
      exact hrewrites.holder
    · exact absurd hun (hsettled j hj)
  · rw [current_put_ne hname] at hnew
    exact keepsHolder_refl w name' old new j hold hnew hj hun

theorem Serves.keepsHolder (hserve : Serves w (k, c) a w') (hallowed : Allowed m k past c)
    (hread : ∀ name copy, Knows past name copy → (w.leases name).Read copy) : KeepsHolder w w' := by
  cases hserve with
  | found | getFailed | createFailed | updateFailed | elsewhere => exact keepsHolder_refl w
  | created hnone => exact keepsHolder_created hnone
  | updated ho hversion =>
    have hsame := (hread _ _ hallowed.1).same _ ho hversion
    subst hsame
    exact keepsHolder_updated ho hallowed.2

theorem World.Lands.keepsHolder (hlands : w.Lands w')
    (hpending : ∀ name copy lease, .update name copy lease ∈ w.pending →
      PendingAllowed w name copy lease) : KeepsHolder w w' := by
  cases hlands with
  | created _ hnone => exact keepsHolder_created hnone
  | updated hmem ho hversion =>
    have hp := hpending _ _ _ hmem
    obtain ⟨k, hrewrites⟩ := hp.rewrites
    have hsame := hp.read.same _ ho hversion
    subst hsame
    exact keepsHolder_updated ho hrewrites

/-- In every run of sessions over the section Leases, with crashes and writes
that persist although they failed, every mutation is journalled by its own
reconciliation, and no step takes a section over from an unsettled journal. -/
theorem mutations_journalled (hnames : Function.Injective names) {leases : String → Slot Lease}
    (h : Reachable m names ⟨leases, []⟩ log s) (hstep : (sessions m).Step s l s')
    (hplace : InPlace names s l) :
    KeepsHolder s.shared s'.shared ∧
    ∀ i k c a past next, l = some (i, ⟨(k, c), a⟩) → s.clients i = some ⟨past, .call (k, c) next⟩ →
      Safe m s.shared k (past.map untag) c := by
  obtain ⟨hfenced, hkept⟩ := h.preserves (fun _ => starts_obey) (fenced_preserved m hnames leases)
  constructor
  · cases hstep with
    | start | crash => exact keepsHolder_refl _
    | @act i past c next a shared hi hserve =>
      obtain ⟨k, c⟩ := c
      obtain ⟨⟨-, hallowed⟩, -⟩ := hkept i _ hi
      exact hserve.keepsHolder hallowed (hfenced.copies i _ hi)
    | drift hlands => exact hlands.keepsHolder hfenced.pending
  · intro i k c a past next _ hi
    obtain ⟨⟨-, hallowed⟩, -⟩ := hkept i _ hi
    exact safe_of_allowed hallowed (hfenced.held i _ hi)

/-! A session that creates one template. -/

def bannerTemplate : Resource := ⟨"banner", "edge_feature_templates", "body"⟩

def bannerModel : Model where
  compile _ := some [bannerTemplate]
  equal _ _ := some true

def bannerJob : Job where
  session := "w"
  controllerUID := "controller"
  config := ⟨"config", "global", [], .retain, .retain, .inline "", ["edge_feature_templates"], true⟩

/-- An API server that serves what it can, and a manager that has nothing. -/
def clerk : (c : SessionRequest) → World → SessionReply c × World
  | (_, .now), w => (0, w)
  | (_, .getLease name), w =>
    match w.current name with
    | some o => (.ok o, w)
    | none => (.error ⟨.notFound, "not found"⟩, w)
  | (_, .createLease name lease), w =>
    match w.current name with
    | some _ => (.error ⟨.alreadyExists, "already exists"⟩, w.leave (.create name lease))
    | none => (.ok (w.written name lease), w.put name lease)
  | (_, .updateLease name copy lease), w =>
    match w.current name with
    | some o =>
      if o.resourceVersion = copy.resourceVersion then
        (.ok (w.written name lease), w.put name lease)
      else (.error ⟨.conflict, "conflict"⟩, w.leave (.update name copy lease))
    | none => (.error ⟨.notFound, "not found"⟩, w.leave (.update name copy lease))
  | (_, .live), w | (_, .guard), w | (_, .validateConfigContract), w => (true, w)
  | (_, .readSource), w => (some "", w)
  | (_, .discover), w => (some "20.18.2.2", w)
  | (_, .observe _), w => (.ok none, w)
  | (_, .create _), w => (.ok "template-1", w)
  | (_, .update ..), w => (.ok (), w)
  | (_, .patchStatus ..), w => ((), w)

theorem clerk_serves (c : SessionRequest) (w : World) : Serves w c (clerk c w).1 (clerk c w).2 := by
  obtain ⟨k, c⟩ := c
  cases c with
  | getLease name =>
    rw [clerk]
    split
    · next h => exact .found h
    · exact .getFailed _
  | createLease name lease =>
    rw [clerk]
    split
    · exact .createFailed _
    · next h => exact .created h
  | updateLease name copy lease =>
    rw [clerk]
    split
    · rename_i h
      split
      · next hversion => exact .updated h hversion
      · exact .updateFailed _
    · exact .updateFailed _
  | now | live | guard | validateConfigContract | readSource | discover | observe | create
  | update | patchStatus => exact .elsewhere rfl

def bannerClient : Client SessionRequest SessionReply Unit :=
  ⟨[], (bannerJob.reconcile bannerModel).tag bannerJob⟩

def noLeases : World := ⟨fun _ => .empty, []⟩

/-- The reconciliation after so many requests. -/
def bannerRun (n : Nat) : Client SessionRequest SessionReply Unit × World :=
  Setting.drive clerk n bannerClient noLeases

/-- The creation that the client is about to request. -/
def creating (client : Client SessionRequest SessionReply Unit) : Option (Job × Resource) :=
  match client.rest with
  | .call (k, .create r) _ => some (k, r)
  | _ => none

theorem creating_some (h : creating client = some (k, r)) :
    ∃ next, client = ⟨client.past, .call (k, .create r) next⟩ := by
  obtain ⟨past, rest⟩ := client
  simp only [creating] at h
  split at h
  · cases h
    exact ⟨_, rfl⟩
  · cases h

def sessionNames (i : Nat) : String := String.ofList (List.replicate (i + 1) 'w')

theorem sessionNames_injective : Function.Injective sessionNames := by
  intro i j h
  have hlength := congrArg List.length (String.ofList_injective h)
  simpa using hlength

theorem bannerJob_session : bannerJob.session = sessionNames 0 := by decide +kernel

theorem bannerRun_reachable (n : Nat) : ∃ log s,
    Reachable bannerModel sessionNames noLeases log s ∧ s.clients 0 = some (bannerRun n).1 := by
  have hstarts : (sessions bannerModel).starts bannerClient.rest := ⟨bannerJob, rfl⟩
  have hstarted : Reachable bannerModel sessionNames noLeases ([] ++ [])
      ((Pool.idle noLeases).set 0 (some bannerClient)) :=
    .step .nil (.start 0 hstarts) fun _ _ h => nomatch h
  have hclient : ((Pool.idle noLeases).set 0 (some bannerClient)).clients 0 =
      some bannerClient := Pool.clients_set_self
  classical
  obtain ⟨log, hrun⟩ := hstarted.drives clerk_serves
    (fun s c hc i e he => by
      cases he
      rw [of_decide_eq_true hc]
      exact bannerJob_session)
    hclient n (Setting.drives_of_uses (uses_tag bannerJob (bannerJob.reconcile bannerModel)))
  refine ⟨_, _, hrun, ?_⟩
  show (((Pool.idle noLeases).set 0 (some bannerClient)).set 0 (some (bannerRun n).1)).clients 0 = _
  exact Pool.clients_set_self

theorem banner_creation_journalled : ∃ (log : List (Nat × SessionEvent)) (s s' : SessionPool)
    (past : List SessionEvent) (next : Except Unit String → Program SessionRequest SessionReply Unit),
    Reachable bannerModel sessionNames noLeases log s ∧
    (sessions bannerModel).Step s
      (some (0, ⟨(bannerJob, .create bannerTemplate), .ok "template-1"⟩)) s' ∧
    s.clients 0 = some ⟨past, .call (bannerJob, .create bannerTemplate) next⟩ ∧
    Safe bannerModel s.shared bannerJob (past.map untag) (.create bannerTemplate) := by
  have hcreating : creating (bannerRun 19).1 = some (bannerJob, bannerTemplate) := by
    decide +kernel
  obtain ⟨next, hnext⟩ := creating_some hcreating
  obtain ⟨log, s, hrun, hclient⟩ := bannerRun_reachable 19
  rw [hnext] at hclient
  have hserve : Serves s.shared (bannerJob, .create bannerTemplate) (.ok "template-1") s.shared :=
    .elsewhere rfl
  have hact := Setting.Step.act (S := sessions bannerModel) hclient hserve
  have hplace : InPlace sessionNames s
      (some (0, ⟨(bannerJob, .create bannerTemplate), .ok "template-1"⟩)) := by
    intro i e he
    cases he
    exact bannerJob_session
  exact ⟨log, s, _, _, next, hrun, hact, hclient,
    (mutations_journalled sessionNames_injective hrun hact hplace).2 _ _ _ _ _ _ rfl hclient⟩

end VirtualKubelet.ControllerAdapter
