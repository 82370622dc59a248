import VirtualKubelet.Proofs.LeaseWrites

/-!
# One owner at a time

A write of the Lease goes through only if the copy it was computed from is the
Lease as it is, so what the operations tested on the copy is true of the Lease
they replace. That is `acted_cases`, and all of mutual exclusion follows from
it: while the window of an owner is open and the owner neither releases the
Lease nor shortens the window itself, nobody can write another name into it.
-/

namespace VirtualKubelet.Coordination

open Go Api Program

variable {a : Address} {start w : World} {log : List (Nat × LeaseEvent)} {s s' : LeasePool}
  {past : List LeaseEvent} {A : Identity}
  {l : Option (Nat × LeaseEvent)} {i : Nat} {e : LeaseEvent} {k : Call}

/-! ## The copies of the calls -/

def AllowedBy (a : Address) (past : List LeaseEvent) (c : LeaseRequest) : Prop :=
  ((∀ e ∈ past, e.1.1 = c.1) ∧ Allowed c.1 (past.map untag) c.2) ∧ c.1.Addresses a

def EndsBy (past : List LeaseEvent) (o : Outcome) : Prop :=
  ∃ k, (∀ e ∈ past, e.1.1 = k) ∧ Ends k (past.map untag) o

theorem starts_obey {p : Program LeaseRequest LeaseReply Outcome} (h : (callers a).starts p) :
    p.Obeys (fun _ _ => True) (AllowedBy a) [] EndsBy := by
  obtain ⟨k, hk, rfl⟩ := h
  have haddress : (k.program.tag k).Uses fun c => c.1.Addresses a := by
    refine (uses_tag k _).mono fun c hc => ?_
    rw [hc]
    exact hk
  exact ((obliged_program k).tag.mono fun past o _ h => ⟨k, h⟩).and_uses haddress

/-- Every copy a call holds was read from the Lease, now or earlier. -/
def CopiesRead (s : LeasePool) : Prop :=
  ∀ i client, s.clients i = some client → ∀ k o,
    (⟨(k, .get), .ok o⟩ : LeaseEvent) ∈ client.past → s.shared.lease.Read o

theorem Serves.read {c : LeaseRequest} {r : LeaseReply c} {copy : Object Lease}
    (h : Serves w c r w') (hread : w.lease.Read copy) : w'.lease.Read copy := by
  cases h with
  | now | found | getFailed | createFailed | updateFailed | deleteFailed => exact hread
  | created | updated => exact Slot.read_put hread
  | deleted => exact Slot.read_remove hread

theorem copiesRead_preserved (a : Address) (start : World) :
    (callers a).Preserved (fun _ _ => True) (AllowedBy a) (fun _ _ => True) start
      fun _ s => CopiesRead s where
  nil := fun _ _ h => nomatch h
  set := by
    intro log s i h p j client hj
    rcases Pool.clients_fresh hj with hnil | hold
    · rw [hnil]
      exact fun _ _ hmem => nomatch hmem
    · exact h j client hold
  act := by
    intro log s i past c next r shared h hi _ hserve _
    refine ⟨trivial, fun j client hj k o hmem => ?_⟩
    rcases Pool.clients_set hj with ⟨-, hnew⟩ | ⟨-, hold⟩
    · cases hnew
      rcases List.mem_append.mp hmem with hmem | hmem
      · exact hserve.read (h i _ hi k o hmem)
      · obtain ⟨rfl, hr⟩ := Sigma.mk.inj (List.mem_singleton.mp hmem)
        cases hr
        cases hserve with
        | found hcurrent => exact Slot.read_current hcurrent
    · exact hserve.read (h j client hold k o hmem)
  drift := fun _ h => h.elim

/-! ## What a step does to the Lease -/

/-- The changes a call can make, by the Lease as it is. -/
inductive Changes (k : Call) (past : List VerbEvent) (lease : Slot Lease) : Slot Lease → Prop
  | created {now : Int} {uid : Nat} (habsent : lease.current = none) (hop : k.op.acquires)
      (hnow : sampled past = some now) : Changes k past lease
        (lease.put { Lease.created k.identity.text k.leaser.ttlSeconds now with uid := uid })
  | rewritten {o : Object Lease} {new : Lease} (hcurrent : lease.current = some o)
      (hread : (⟨.get, .ok o⟩ : VerbEvent) ∈ past)
      (h : Rewrites k (sampled past) o.content new) : Changes k past lease (lease.put new)
  | deleted {o : Object Lease} (hcurrent : lease.current = some o) (hop : k.op = .release)
      (hholder : o.content.holderIdentity = some k.identity.text)
      (hretained : o.content.retained = false) : Changes k past lease lease.remove

theorem mem_tagged {o : Object Lease} (htags : ∀ e ∈ past, e.1.1 = k)
    (h : (⟨.get, .ok o⟩ : VerbEvent) ∈ past.map untag) :
    (⟨(k, .get), .ok o⟩ : LeaseEvent) ∈ past := by
  obtain ⟨⟨⟨k', verb⟩, reply⟩, hmem, heq⟩ := List.mem_map.mp h
  obtain ⟨rfl, hreply⟩ := Sigma.mk.inj heq
  cases hreply
  have htag := htags _ hmem
  cases htag
  exact hmem

theorem reachable_obeys (h : Reachable a start log s) :
    CopiesRead s ∧ Setting.KeptTo (fun _ _ => True) (AllowedBy a) EndsBy s :=
  h.preservesTo (fun _ => starts_obey) (copiesRead_preserved a start)

theorem ends_of_wrote (h : Reachable a start log s)
    {rest : Program LeaseRequest LeaseReply Outcome} (hi : s.clients i = some ⟨past ++ [e], rest⟩)
    (hwrote : wrote (untag e) = true) :
    ∃ o, rest = .done o ∧ Ends e.1.1 ((past ++ [e]).map untag) o := by
  have hrest := (reachable_obeys h).2 i _ hi
  cases rest with
  | done o =>
    obtain ⟨k, htags, hends⟩ := hrest
    have htag : e.1.1 = k := htags e (List.mem_append_right _ (List.mem_singleton_self e))
    rw [htag]
    exact ⟨o, rfl, hends⟩
  | call c next =>
    have hun := hrest.1.1.2.1
    rw [List.map_append] at hun
    exact absurd hun (not_unwritten_snoc hwrote)

/-- A call that writes has its copy right, and ends. Any other event leaves the
Lease alone. -/
theorem acted_cases (h : Reachable a start log s) (hstep : (callers a).Step s (some (i, e)) s') :
    (wrote (untag e) = false ∧ s'.shared.lease = s.shared.lease) ∨
    (wrote (untag e) = true ∧ ∃ past o, s'.clients i = some ⟨past ++ [e], .done o⟩ ∧
      (∀ e' ∈ past, e'.1.1 = e.1.1) ∧ Ends e.1.1 ((past ++ [e]).map untag) o ∧
      Changes e.1.1 (past.map untag) s.shared.lease s'.shared.lease) := by
  obtain ⟨hcopies, hkept⟩ := reachable_obeys h
  obtain ⟨past, next, hi, hi', hserve⟩ := hstep.acted
  obtain ⟨⟨⟨htags, -, hground⟩, -⟩, -⟩ := hkept i _ hi
  have hend := ends_of_wrote (h.step hstep trivial) hi'
  -- A copy whose version the server accepted is the Lease as it is.
  have hcurrent : ∀ {copy o : Object Lease}, (⟨.get, .ok copy⟩ : VerbEvent) ∈ past.map untag →
      s.shared.lease.current = some o → o.resourceVersion = copy.resourceVersion → o = copy :=
    fun hmem ho hversion => (hcopies i _ hi _ _ (mem_tagged htags hmem)).same _ ho hversion
  have hwritten : wrote (untag e) = true →
      Changes e.1.1 (past.map untag) s.shared.lease s'.shared.lease →
      ∃ past o, s'.clients i = some ⟨past ++ [e], .done o⟩ ∧ (∀ e' ∈ past, e'.1.1 = e.1.1) ∧
        Ends e.1.1 ((past ++ [e]).map untag) o ∧
        Changes e.1.1 (past.map untag) s.shared.lease s'.shared.lease := by
    intro hwrote hchange
    obtain ⟨o, hdone, hends⟩ := hend hwrote
    rw [hdone] at hi'
    exact ⟨past, o, hi', htags, hends, hchange⟩
  clear hend hi' hstep
  obtain ⟨⟨k, verb⟩, reply⟩ := e
  generalize s'.shared = w' at hserve hwritten ⊢
  cases hserve with
  | now | found | getFailed | createFailed | updateFailed | deleteFailed => exact .inl ⟨rfl, rfl⟩
  | @created k lease habsent =>
    obtain ⟨hop, now, hnow, hlease⟩ := hground
    have hlease : lease = .created k.identity.text k.leaser.ttlSeconds now := hlease
    refine .inr ⟨rfl, hwritten rfl ?_⟩
    rw [hlease]
    exact .created habsent hop hnow
  | updated ho hversion =>
    obtain ⟨hmem, hrewrites⟩ := hground
    obtain rfl := hcurrent hmem ho hversion
    exact .inr ⟨rfl, hwritten rfl (.rewritten ho hmem hrewrites)⟩
  | deleted ho =>
    obtain ⟨copy, hmem, -, hversion, hop, hholder, hretained⟩ := hground
    obtain rfl := hcurrent hmem ho hversion
    exact .inr ⟨rfl, hwritten rfl (.deleted ho hop hholder hretained)⟩

theorem addresses_of_acted (h : Reachable a start log s)
    (hstep : (callers a).Step s (some (i, e)) s') : e.1.1.Addresses a := by
  obtain ⟨past, next, hi, -, -⟩ := hstep.acted
  obtain ⟨⟨-, haddress⟩, -⟩ := (reachable_obeys h).2 i _ hi
  exact haddress

theorem lease_of_silent (hstep : (callers a).Step s none s') : s'.shared = s.shared := by
  cases hstep with
  | start | crash => rfl
  | drift h => exact h.elim

/-! ## Owners -/

/-- The call `k` of client `i`, which sampled the time `t`, has just returned
the Lease as owned, and `d` is the duration stored with it. -/
def GotOwned (s : LeasePool) (i : Nat) (k : Call) (t d : Int) : Prop :=
  ∃ past r, s.clients i = some ⟨past, .done (.acquired (.ok r))⟩ ∧ r.owned = true ∧
    past.head? = some ⟨(k, .now), t⟩ ∧
    s.shared.lease.content.bind Lease.leaseDurationSeconds = some d

/-- No call of `A` has released the Lease in the step. -/
def Unreleased (A : Identity) (_ : LeasePool) (l : Option (Nat × LeaseEvent)) (_ : LeasePool) :
    Prop :=
  ∀ i e, l = some (i, e) → e.1.1.op = .release → e.1.1.identity = A → wrote (untag e) = false

/-- In the step `A` has neither released the Lease nor renewed it with an
earlier end than `bound`, and nobody else was told to own it. -/
structure Undisturbed (A : Identity) (bound : Int) (s : LeasePool)
    (l : Option (Nat × LeaseEvent)) (s' : LeasePool) : Prop where
  unreleased : Unreleased A s l s'
  renewed : ∀ lease expiry, s'.shared.lease.content = some lease → lease.holder = A.text →
    lease.expiry = some expiry → bound ≤ expiry
  first : ∀ i e k t d, l = some (i, e) → GotOwned s' i k t d → k.identity = A

/-- From the pool on, a call `A` that sampled `t` gets the Lease as owned for
`d`, and after steps that are all `ok` a call `B` that sampled `t'` gets it. -/
def OwnedAfter (a : Address)
    (ok : LeasePool → Option (Nat × LeaseEvent) → LeasePool → Prop) (s : LeasePool)
    (A : Call) (t d : Int) (B : Call) (t' d' : Int) : Prop :=
  ∃ i e s₁ log s₂ j e' s₃, (callers a).Step s (some (i, e)) s₁ ∧ GotOwned s₁ i A t d ∧
    (callers a).Path ok s₁ log s₂ ∧ (callers a).Step s₂ (some (j, e')) s₃ ∧
    GotOwned s₃ j B t' d'

theorem head_of_sampled {t : Int} (htags : ∀ e ∈ past, e.1.1 = k)
    (h : sampled (past.map untag) = some t) : past.head? = some ⟨(k, .now), t⟩ := by
  cases past with
  | nil => cases h
  | cons e past =>
    have htag := htags e List.mem_cons_self
    obtain ⟨⟨k', verb⟩, reply⟩ := e
    cases htag
    cases verb with
    | now =>
      cases h
      rfl
    | get | create | update | delete => cases h

theorem changes_of_gotOwned {t d : Int} (h : Reachable a start log s)
    (hstep : (callers a).Step s (some (i, e)) s') (hown : GotOwned s' i k t d) :
    k.op.acquires ∧ ∃ past rest, s'.clients i = some ⟨past ++ [e], rest⟩ ∧
      (∀ e' ∈ past, e'.1.1 = k) ∧ sampled (past.map untag) = some t ∧
      Changes k (past.map untag) s.shared.lease s'.shared.lease := by
  obtain ⟨past', r, hi', howned, hhead, -⟩ := hown
  rcases acted_cases h hstep with ⟨hunwritten, -⟩ | ⟨hwrote, past, o, hi, htags, hends, hchange⟩
  · -- The call has returned after an event that wrote nothing.
    obtain ⟨past, next, -, hi, -⟩ := hstep.acted
    rw [hi] at hi'
    obtain ⟨rfl, hdone⟩ := Client.mk.inj (Option.some.inj hi')
    rw [hdone] at hi
    obtain ⟨k', -, -, hends⟩ := (reachable_obeys (h.step hstep trivial)).2 i _ hi
    cases hends with
    | owned hwritten =>
      rw [List.map_append] at hwritten
      exact absurd (unwritten_snoc hunwritten) hwritten
    | lost => cases howned
  · rw [hi] at hi'
    obtain ⟨rfl, hdone⟩ := Client.mk.inj (Option.some.inj hi')
    cases past with
    | nil =>
      cases hhead
      cases hwrote
    | cons first past =>
      have htag : first.1.1 = e.1.1 := htags first List.mem_cons_self
      cases hhead
      cases hdone
      have htag : e.1.1 = k := htag.symm
      rw [htag] at hends hchange htags
      exact ⟨hends.1, _, _, hi, htags, rfl, hchange⟩

theorem changes_acquired {past : List VerbEvent} {lease lease' : Slot Lease} {t : Int}
    (h : Changes k past lease lease') (hop : k.op.acquires) (hnow : sampled past = some t) :
    ∃ new, lease'.content = some new ∧ new.holderIdentity = some k.identity.text ∧
      new.renewTime = some t ∧ new.leaseDurationSeconds = some k.leaser.ttlSeconds := by
  cases h with
  | created _ _ hnow' =>
    rw [hnow] at hnow'
    cases hnow'
    exact ⟨_, rfl, rfl, rfl, rfl⟩
  | rewritten _ _ h =>
    rw [hnow] at h
    cases h with
    | renewed _ hholder => exact ⟨_, rfl, hholder, rfl, rfl⟩
    | taken => exact ⟨_, rfl, rfl, rfl, rfl⟩
    | released hrelease => simp [Op.acquires, hrelease] at hop
    | published hpublish => simp [Op.acquires, hpublish] at hop
  | deleted _ hrelease => simp [Op.acquires, hrelease] at hop

/-- The Lease is held by `A`, until `bound` at least. -/
def HeldUntil (A : Identity) (bound : Int) (w : World) : Prop :=
  ∃ lease expiry, w.lease.content = some lease ∧ lease.holderIdentity = some A.text ∧
    lease.expiry = some expiry ∧ bound ≤ expiry

theorem content_of_current {lease : Slot Lease} {o : Object Lease} {content : Lease}
    (h : lease.current = some o) (hcontent : lease.content = some content) :
    o.content = content := by
  rw [Slot.content, h] at hcontent
  exact Option.some.inj hcontent

theorem holder_of_identity {lease : Lease} {text : String}
    (h : lease.holderIdentity = some text) : lease.holder = text := by
  rw [Lease.holder, h]
  rfl

theorem gotOwned_of_wrote {o : Outcome} {t d : Int}
    (hi : s'.clients i = some ⟨past ++ [e], .done o⟩) (htags : ∀ e' ∈ past, e'.1.1 = e.1.1)
    (hends : Ends e.1.1 ((past ++ [e]).map untag) o) (hwrote : wrote (untag e) = true)
    (hop : e.1.1.op.acquires) (hnow : sampled (past.map untag) = some t)
    (hd : s'.shared.lease.content.bind Lease.leaseDurationSeconds = some d) :
    GotOwned s' i e.1.1 t d := by
  have hhead : (past ++ [e]).head? = some ⟨(e.1.1, .now), t⟩ := by
    rw [List.head?_append, head_of_sampled htags hnow]
    rfl
  have hwritten : ¬ Unwritten ((past ++ [e]).map untag) := by
    rw [List.map_append]
    exact not_unwritten_snoc hwrote
  cases o with
  | released | published => exact absurd hop hends
  | acquired result =>
    cases hends.2 with
    | owned => exact ⟨_, _, hi, rfl, hhead, hd⟩
    | lost h | failed h => exact absurd h hwritten

theorem heldUntil_step {bound : Int} (h : Reachable a start log s)
    (hstep : (callers a).Step s l s') (hok : Undisturbed A bound s l s')
    (hheld : HeldUntil A bound s.shared) : HeldUntil A bound s'.shared := by
  cases l with
  | none =>
    rw [lease_of_silent hstep]
    exact hheld
  | some ie =>
    obtain ⟨i, e⟩ := ie
    rcases acted_cases h hstep with ⟨-, hsame⟩ | ⟨hwrote, past, o, hi, htags, hends, hchange⟩
    · rw [HeldUntil, hsame]
      exact hheld
    obtain ⟨lease, expiry, hcontent, hholder, hexpiry, hbound⟩ := hheld
    have hrelease : e.1.1.op = .release → lease.holderIdentity = some e.1.1.identity.text →
        False := by
      intro hop hid
      rw [hholder] at hid
      have hA : e.1.1.identity = A := Identity.ext (Option.some.inj hid).symm
      have hfalse := hok.unreleased i e rfl hop hA
      rw [hwrote] at hfalse
      cases hfalse
    generalize hlease' : s'.shared.lease = lease' at hchange
    cases hchange with
    | created habsent =>
      rw [Slot.content, habsent] at hcontent
      cases hcontent
    | deleted hcurrent hop hid =>
      rw [content_of_current hcurrent hcontent] at hid
      exact (hrelease hop hid).elim
    | @rewritten o new hcurrent _ hrewrites =>
      rw [content_of_current hcurrent hcontent] at hrewrites
      have hcontent' : s'.shared.lease.content = some new := by
        rw [hlease']
        exact Slot.content_put
      generalize hnow : sampled (past.map untag) = now at hrewrites
      cases hrewrites with
      | released hop hid => exact (hrelease hop hid).elim
      | published => exact ⟨_, expiry, hcontent', hholder, hexpiry, hbound⟩
      | renewed =>
        refine ⟨_, _, hcontent', hholder, rfl, ?_⟩
        exact hok.renewed _ _ hcontent' (holder_of_identity hholder) rfl
      | @taken t _ hother hfree =>
        -- Whoever takes the Lease over is told so, and it is not `A`.
        exfalso
        have hop : e.1.1.op.acquires := hfree.imp And.left And.left
        have hown : GotOwned s' i e.1.1 t e.1.1.leaser.ttlSeconds := by
          refine gotOwned_of_wrote hi htags hends hwrote hop hnow ?_
          rw [hcontent']
          rfl
        rw [holder_of_identity hholder, hok.first i e _ _ _ rfl hown] at hother
        exact hother rfl

theorem heldUntil_path {bound : Int} {log' : List (Nat × LeaseEvent)}
    (h : Reachable a start log s) (hpath : (callers a).Path (Undisturbed A bound) s log' s')
    (hheld : HeldUntil A bound s.shared) : HeldUntil A bound s'.shared := by
  induction hpath with
  | nil => exact hheld
  | step hpath hstep hok ih =>
    exact heldUntil_step (h.path (fun _ _ _ _ => trivial) hpath) hstep hok ih

/-- While an owner holds the Lease, another call gets it only by taking over
after the end of the window. -/
theorem takes_over_expired {bound t d : Int} (h : Reachable a start log s)
    (hheld : HeldUntil A bound s.shared) (hstep : (callers a).Step s (some (i, e)) s')
    (hown : GotOwned s' i k t d) (hne : k.identity ≠ A) : bound < t ∧ k.op ≠ .acquireIfFree := by
  obtain ⟨hop, past, rest, -, -, hnow, hchange⟩ := changes_of_gotOwned h hstep hown
  obtain ⟨lease, expiry, hcontent, hholder, hexpiry, hbound⟩ := hheld
  generalize s'.shared.lease = lease' at hchange
  cases hchange with
  | created habsent =>
    rw [Slot.content, habsent] at hcontent
    cases hcontent
  | deleted _ hrelease => simp [Op.acquires, hrelease] at hop
  | rewritten hcurrent _ hrewrites =>
    rw [content_of_current hcurrent hcontent, hnow] at hrewrites
    cases hrewrites with
    | released hrelease => simp [Op.acquires, hrelease] at hop
    | published hpublish => simp [Op.acquires, hpublish] at hop
    | renewed _ hid =>
      rw [hholder] at hid
      exact absurd (Identity.ext (Option.some.inj hid).symm) hne
    | taken _ hfree =>
      rcases hfree with ⟨hacquire, hexpired⟩ | ⟨-, hempty⟩
      · rw [Lease.leaseExpired, hexpiry] at hexpired
        have hlt : expiry < t := of_decide_eq_true hexpired
        refine ⟨by omega, fun h => ?_⟩
        rw [hacquire] at h
        cases h
      · rw [holder_of_identity hholder] at hempty
        exact absurd hempty A.nonempty

/-! ## Sample runs -/

/-- Client `i` starts the call and gets `n` requests served. -/
def serveCall (s : LeasePool) (i : Nat) (k : Call) (n : Nat) : LeasePool :=
  let served := Setting.drive (clerk 2000000) n ⟨[], k.program.tag k⟩ s.shared
  { s.set i (some served.1) with shared := served.2 }

theorem path_serveCall {A : LeasePool → Option (Nat × LeaseEvent) → LeasePool → Prop}
    (s : LeasePool) (i n : Nat) (hk : k.Addresses a) (hnone : ∀ s s', A s none s')
    (hcall : ∀ s s' e, e.1.1 = k → A s (some (i, e)) s') :
    ∃ log, (callers a).Path A s log (serveCall s i k n) := by
  let started : LeasePool := s.set i (some ⟨[], k.program.tag k⟩)
  have hstart : (callers a).Path A s _ started :=
    Setting.Path.nil.step (.start i ⟨k, hk, rfl⟩) (hnone _ _)
  have hi : started.clients i = some ⟨[], k.program.tag k⟩ := Pool.clients_set_self
  classical
  obtain ⟨log, hrest⟩ := Setting.Path.drives (S := callers a) (clerk_serves 2000000)
    (fun s s' c hc => hcall s s' ⟨c, _⟩ (of_decide_eq_true hc)) hi n
    (Setting.drives_of_uses (uses_tag k _))
  simp only [started, Pool.set, Function.update_idem] at hrest
  exact ⟨_, hstart.trans hrest⟩

theorem reachable_serveCall (h : Reachable a start log s) (i n : Nat) (hk : k.Addresses a) :
    ∃ log, Reachable a start log (serveCall s i k n) := by
  obtain ⟨log', hpath⟩ := path_serveCall (A := fun _ _ _ => True) s i n hk
    (fun _ _ => trivial) fun _ _ _ _ => trivial
  exact ⟨_, h.path (fun _ _ _ _ => trivial) hpath⟩

theorem path_unreleased (s : LeasePool) (i n : Nat) (hk : k.Addresses a)
    (hA : k.op = .release → k.identity ≠ A) :
    ∃ log, (callers a).Path (Unreleased A) s log (serveCall s i k n) := by
  refine path_serveCall s i n hk (fun _ _ _ _ h => nomatch h) ?_
  intro s s' e htag j e' he hop hid
  cases he
  rw [htag] at hop hid
  exact absurd hid (hA hop)

theorem step_serveCall (a : Address) (s : LeasePool) (i : Nat) (k : Call) (n : Nat)
    {c : LeaseRequest}
    {next : LeaseReply c → Program LeaseRequest LeaseReply Outcome} {w : World}
    (h : Setting.drive (clerk 2000000) n ⟨[], k.program.tag k⟩ s.shared =
      (⟨past, .call c next⟩, w)) :
    (callers a).Step (serveCall s i k n) (some (i, ⟨c, (clerk 2000000 c w).1⟩))
      (serveCall s i k (n + 1)) := by
  have hi : (serveCall s i k n).clients i = some ⟨past, .call c next⟩ := by
    rw [serveCall, h]
    exact Pool.clients_set_self
  have hshared : (serveCall s i k n).shared = w := by
    rw [serveCall, h]
  have hstep := Setting.Step.act (S := callers a) hi (clerk_serves 2000000 c _)
  rw [hshared] at hstep
  have hnext : serveCall s i k (n + 1) = { (serveCall s i k n).set i (some
      ⟨past ++ [⟨c, (clerk 2000000 c w).1⟩], next (clerk 2000000 c w).1⟩) with
      shared := (clerk 2000000 c w).2 } := by
    simp only [serveCall, Setting.drive_snoc h, h, Pool.set, Function.update_idem]
  rw [hnext]
  exact hstep

def sampleAddress : Address := ⟨"cvk", "edge-1", "vlan"⟩

def sampleCall (op : Op) (identity : Identity) (seconds : Int) : Call :=
  ⟨op, ⟨true, "cvk", "", false, seconds * 1000000000⟩, "edge-1", "vlan", identity⟩

theorem sampleCall_addresses (op : Op) (identity : Identity) (seconds : Int) :
    (sampleCall op identity seconds).Addresses sampleAddress := ⟨rfl, rfl, rfl⟩

def alice : Identity := ⟨"default/a", by decide⟩

def bob : Identity := ⟨"default/b", by decide⟩

def carol : Identity := ⟨"default/c", by decide⟩

def sampleStart : World := ⟨0, .empty⟩

/-! ## Mutual exclusion -/

/-- **Mutual exclusion.** From any reachable pool: the first call of another
identity to get the Lease after an owner that neither released nor shortened it
has sampled a time after the owner's window and is no `acquireIfFree`; a call
that gets an existing Lease has read it as it is; and a release changes the
Lease only in the name of its holder. -/
theorem lease_mutual_exclusion (a : Address) (start : World) {log : List (Nat × LeaseEvent)}
    {s : LeasePool} (h : Reachable a start log s) :
    (∀ A t d B t' d',
      OwnedAfter a (Undisturbed A.identity (t + d * microsPerSecond)) s A t d B t' d' →
      B.identity ≠ A.identity → t + d * microsPerSecond < t' ∧ B.op ≠ .acquireIfFree) ∧
    (∀ i e s' k t d, (callers a).Step s (some (i, e)) s' → GotOwned s' i k t d →
      s.shared.lease.current = none ∨ ∃ copy past rest, s'.clients i = some ⟨past, rest⟩ ∧
        (⟨(k, .get), .ok copy⟩ : LeaseEvent) ∈ past ∧ s.shared.lease.current = some copy) ∧
    (∀ i e s', (callers a).Step s (some (i, e)) s' → e.1.1.op = .release →
      s.shared.holder ≠ e.1.1.identity.text → s'.shared.lease = s.shared.lease) := by
  refine ⟨?_, ?_, ?_⟩
  · rintro A t d B t' d' ⟨i, e, s₁, log', s₂, j, e', s₃, hstep, hown, hpath, hstep', hown'⟩ hne
    obtain ⟨hop, past, rest, -, -, hnow, hchange⟩ := changes_of_gotOwned h hstep hown
    obtain ⟨new, hcontent, hholder, hrenew, hduration⟩ := changes_acquired hchange hop hnow
    obtain ⟨-, -, -, -, -, hd⟩ := hown
    rw [hcontent] at hd
    have hheld : HeldUntil A.identity (t + d * microsPerSecond) s₁.shared := by
      refine ⟨new, t + d * microsPerSecond, hcontent, hholder, ?_, Int.le_refl _⟩
      have hd : new.leaseDurationSeconds = some d := hd
      rw [Lease.expiry, hrenew, hd]
      rfl
    have h₁ := h.step hstep trivial
    have h₂ := h₁.path (fun _ _ _ _ => trivial) hpath
    exact takes_over_expired h₂ (heldUntil_path h₁ hpath hheld) hstep' hown' hne
  · intro i e s' k t d hstep hown
    obtain ⟨hop, past, rest, hi, htags, hnow, hchange⟩ := changes_of_gotOwned h hstep hown
    generalize s'.shared.lease = lease' at hchange
    cases hchange with
    | created habsent => exact .inl habsent
    | deleted _ hrelease => simp [Op.acquires, hrelease] at hop
    | rewritten hcurrent hread _ =>
      refine .inr ⟨_, _, _, hi, ?_, hcurrent⟩
      exact List.mem_append_left _ (mem_tagged htags hread)
  · intro i e s' hstep hop hother
    rcases acted_cases h hstep with ⟨-, hsame⟩ | ⟨-, past, o, -, -, -, hchange⟩
    · exact hsame
    -- Both ways of releasing need the identity as the holder.
    have hnot : ∀ {o : Object Lease}, s.shared.lease.current = some o →
        o.content.holderIdentity = some e.1.1.identity.text → False := by
      intro o hcurrent hid
      rw [World.holder, Slot.content, hcurrent] at hother
      exact hother (holder_of_identity hid)
    generalize s'.shared.lease = lease' at hchange
    cases hchange with
    | created _ hacquires => simp [Op.acquires, hop] at hacquires
    | deleted hcurrent _ hid => exact (hnot hcurrent hid).elim
    | rewritten hcurrent _ hrewrites =>
      generalize sampled (past.map untag) = now at hrewrites
      cases hrewrites with
      | renewed hacquires => simp [Op.acquires, hop] at hacquires
      | taken _ hfree => simp [hop] at hfree
      | released _ hid => exact (hnot hcurrent hid).elim
      | published hpublish =>
        rw [hop] at hpublish
        cases hpublish

/-- Alice has found no Lease, and Bob has sampled a time long after hers. -/
def beforeTakeover : LeasePool :=
  serveCall (serveCall (.idle sampleStart) 0 (sampleCall .acquire alice 1) 2) 1
    (sampleCall .acquire bob 1) 1

theorem expired_lease_taken_over : ∃ log, Reachable sampleAddress sampleStart log beforeTakeover ∧
    OwnedAfter sampleAddress (Undisturbed alice (2000000 + 1 * microsPerSecond)) beforeTakeover
      (sampleCall .acquire alice 1) 2000000 1 (sampleCall .acquire bob 1) 4000000 1 ∧
    2000000 + 1 * microsPerSecond < 4000000 ∧ (sampleCall .acquire bob 1).op ≠ .acquireIfFree := by
  have hnil : Reachable sampleAddress sampleStart [] (.idle sampleStart) := .nil
  obtain ⟨_, hrun⟩ := reachable_serveCall hnil 0 2 (sampleCall_addresses .acquire alice 1)
  obtain ⟨log, hrun⟩ := reachable_serveCall hrun 1 1 (sampleCall_addresses .acquire bob 1)
  have hafter : OwnedAfter sampleAddress (Undisturbed alice (2000000 + 1 * microsPerSecond))
      beforeTakeover (sampleCall .acquire alice 1) 2000000 1
      (sampleCall .acquire bob 1) 4000000 1 := by
    -- Alice creates the Lease, Bob reads it and takes it over.
    refine ⟨0, _, _, _, _, 1, _, _, .act rfl (clerk_serves 2000000 _ _),
      ⟨_, _, rfl, rfl, rfl, rfl⟩, .step .nil (.act (i := 1) rfl (clerk_serves 2000000 _ _)) ?_,
      .act rfl (clerk_serves 2000000 _ _), ⟨_, _, rfl, rfl, rfl, rfl⟩⟩
    refine ⟨fun i e he hop _ => ?_, fun lease expiry hcontent _ hexpiry => ?_,
      fun i e k t d he hown => ?_⟩
    · cases he
      cases hop
    · cases hcontent
      cases hexpiry
      decide
    · cases he
      obtain ⟨past, r, hi, -⟩ := hown
      cases hi
  exact ⟨log, hrun, hafter, (lease_mutual_exclusion _ _ hrun).1 _ _ _ _ _ _ hafter (by decide)⟩

/-- Alice owns the Lease for a second, Bob takes it over and releases it, and
Carol has found no Lease. -/
def afterTakeover : LeasePool :=
  serveCall (serveCall (serveCall (serveCall (.idle sampleStart) 0 (sampleCall .acquire alice 1) 3)
    1 (sampleCall .acquire bob 1) 3) 2 (sampleCall .release bob 1) 2) 3
    (sampleCall .acquireIfFree carol 1) 2

/-- Alice owns the Lease for a hundred seconds and renews it for one, and Bob has
read it. -/
def afterRenewal : LeasePool :=
  serveCall (serveCall (serveCall (.idle sampleStart) 0 (sampleCall .acquire alice 100) 3)
    1 (sampleCall .acquire alice 1) 3) 2 (sampleCall .acquire bob 1) 2

/-- An owner that has not released can be followed by any call once somebody has
taken over, and a shorter renewal of its own ends its window early. -/
theorem unreleased_owner_displaced :
    (∃ log s, Reachable sampleAddress sampleStart log s ∧
      OwnedAfter sampleAddress (Unreleased alice) s (sampleCall .acquire alice 1) 2000000 1
        (sampleCall .acquireIfFree carol 1) 6000000 1) ∧
    ∃ log s, Reachable sampleAddress sampleStart log s ∧
      OwnedAfter sampleAddress (Unreleased alice) s (sampleCall .acquire alice 100) 2000000 100
        (sampleCall .acquire bob 1) 6000000 1 ∧
      6000000 ≤ 2000000 + 100 * microsPerSecond := by
  have hnil : Reachable sampleAddress sampleStart [] (.idle sampleStart) := .nil
  refine ⟨?_, ?_⟩
  · obtain ⟨log, hrun⟩ := reachable_serveCall hnil 0 2 (sampleCall_addresses .acquire alice 1)
    refine ⟨log, _, hrun, ?_⟩
    obtain ⟨_, htaken⟩ := path_unreleased (A := alice)
      (serveCall (.idle sampleStart) 0 (sampleCall .acquire alice 1) 3) 1 3
      (sampleCall_addresses .acquire bob 1) fun h => nomatch h
    obtain ⟨_, hreleased⟩ := path_unreleased (A := alice) _ 2 2
      (sampleCall_addresses .release bob 1) fun _ => by decide
    obtain ⟨_, hread⟩ := path_unreleased (A := alice) _ 3 2
      (sampleCall_addresses .acquireIfFree carol 1) fun h => nomatch h
    exact ⟨0, _, _, _, afterTakeover, 3, _, _, step_serveCall _ _ 0 _ 2 rfl,
      ⟨_, _, rfl, rfl, rfl, rfl⟩, (htaken.trans hreleased).trans hread,
      step_serveCall _ _ 3 _ 2 rfl, ⟨_, _, rfl, rfl, rfl, rfl⟩⟩
  · obtain ⟨log, hrun⟩ := reachable_serveCall hnil 0 2 (sampleCall_addresses .acquire alice 100)
    refine ⟨log, _, hrun, ?_, by decide⟩
    obtain ⟨_, hrenewed⟩ := path_unreleased (A := alice)
      (serveCall (.idle sampleStart) 0 (sampleCall .acquire alice 100) 3) 1 3
      (sampleCall_addresses .acquire alice 1) fun h => nomatch h
    obtain ⟨_, hread⟩ := path_unreleased (A := alice) _ 2 2
      (sampleCall_addresses .acquire bob 1) fun h => nomatch h
    exact ⟨0, _, _, _, afterRenewal, 2, _, _, step_serveCall _ _ 0 _ 2 rfl,
      ⟨_, _, rfl, rfl, rfl, rfl⟩, hrenewed.trans hread,
      step_serveCall _ _ 2 _ 2 rfl, ⟨_, _, rfl, rfl, rfl, rfl⟩⟩

end VirtualKubelet.Coordination
