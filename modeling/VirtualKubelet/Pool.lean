import Mathlib.Logic.Function.Basic
import VirtualKubelet.Program

/-!
# Programs side by side

Any number of clients run programs against one party. Each call is served in a
step of its own, so whatever a client has read may be out of date by the time
it acts on it; a client can stop between any two calls and start afresh, and
the party can change on its own.

A program is taken on trust of the replies it gets: `Obeys` says that, as long
as the replies are ones `rely` admits, each of its calls is allowed by the
events before it. `Run.preserves` is the rule that puts such programs together:
an invariant of the whole pool is kept by every run if it admits the replies
and survives each call that its client was allowed to make.
-/

namespace VirtualKubelet

namespace Program

variable {C : Type} {R : C → Type} {α β : Type}

/-- After the events `past`, every call the program makes satisfies `G`
together with all that came before it, and where it ends `Q` holds. -/
def Obeys (rely : (c : C) → R c → Prop) (G : List (Event C R) → C → Prop) :
    Program C R α → List (Event C R) → (List (Event C R) → α → Prop) → Prop
  | done a, past, Q => Q past a
  | call c next, past, Q =>
    G past c ∧ ∀ r, rely c r → (next r).Obeys rely G (past ++ [⟨c, r⟩]) Q

variable {rely : (c : C) → R c → Prop} {G : List (Event C R) → C → Prop}
  {p : Program C R α} {past : List (Event C R)}

theorem obeys_bind :
    Obeys rely G (p >>= f) past Q ↔
      p.Obeys rely G past fun past' a => (f a).Obeys rely G past' Q := by
  induction p generalizing past with
  | done a => exact Iff.rfl
  | call c next ih =>
    exact and_congr_right fun _ => forall_congr' fun r => imp_congr_right fun _ => ih r

/-- What a program ends with may be weakened, knowing that it only adds to the
events before it. -/
theorem Obeys.mono (h : p.Obeys rely G past Q)
    (hQ : ∀ past' a, past <+: past' → Q past' a → Q' past' a) : p.Obeys rely G past Q' := by
  induction p generalizing past with
  | done a => exact hQ past a List.prefix_rfl h
  | call c next ih =>
    refine ⟨h.1, fun r hr => ih r (h.2 r hr) fun past' a hpre hq => ?_⟩
    exact hQ past' a ((List.prefix_append _ _).trans hpre) hq

/-- The rule for a sequence whose first part is known by its own statement. -/
theorem Obeys.bind {f : α → Program C R β} {Q : List (Event C R) → α → Prop}
    {Q' : List (Event C R) → β → Prop} (hp : p.Obeys rely G past Q)
    (hf : ∀ past' a, past <+: past' → Q past' a → (f a).Obeys rely G past' Q') :
    Obeys rely G (p >>= f) past Q' :=
  obeys_bind.mpr (hp.mono hf)

/-- What holds of every request of the program can be added to the obligation. -/
theorem Obeys.and_uses (h : p.Obeys rely G past Q) (huses : p.Uses ok) :
    p.Obeys rely (fun past c => G past c ∧ ok c) past Q := by
  induction p generalizing past with
  | done a => exact h
  | call c next ih =>
    exact ⟨⟨h.1, huses.1⟩, fun r hr => ih r (h.2 r hr) (huses.2 r)⟩

theorem Obeys.imp (h : p.Obeys rely G past Q) (hG : ∀ past c, G past c → G' past c) :
    p.Obeys rely G' past Q := by
  induction p generalizing past with
  | done a => exact h
  | call c next ih => exact ⟨hG past c h.1, fun r hr => ih r (h.2 r hr)⟩

/-! ## Calls that carry the job they are made for -/

variable {K : Type}

def tag (k : K) : Program C R α → Program (K × C) (fun c => R c.2) α
  | done a => done a
  | call c next => call (k, c) fun r => (next r).tag k

theorem uses_tag (k : K) (p : Program C R α) : (p.tag k).Uses fun c => c.1 = k := by
  induction p with
  | done a => trivial
  | call c next ih => exact ⟨rfl, ih⟩

def tagEvent (k : K) (e : Event C R) : Event (K × C) fun c => R c.2 := ⟨(k, e.1), e.2⟩

def untag (e : Event (K × C) fun c => R c.2) : Event C R := ⟨e.1.2, e.2⟩

theorem map_untag_tagEvent (k : K) (past : List (Event C R)) :
    (past.map (tagEvent k)).map untag = past := by
  rw [List.map_map]
  exact List.map_id' past

/-- A program that obeys a rule for its job obeys it under the tag, where all
the events before a call are of the same job. -/
theorem Obeys.tag {G : K → List (Event C R) → C → Prop} {k : K}
    {Q : K → List (Event C R) → α → Prop} (h : p.Obeys rely (G k) past (Q k)) :
    (p.tag k).Obeys (fun c : K × C => rely c.2)
      (fun past (c : K × C) => (∀ e ∈ past, e.1.1 = c.1) ∧ G c.1 (past.map untag) c.2)
      (past.map (tagEvent k))
      fun past a => (∀ e ∈ past, e.1.1 = k) ∧ Q k (past.map untag) a := by
  have htags : ∀ past : List (Event C R), ∀ e ∈ past.map (tagEvent k), e.1.1 = k := by
    intro past e he
    obtain ⟨e', -, rfl⟩ := List.mem_map.mp he
    rfl
  induction p generalizing past with
  | done a =>
    refine ⟨htags past, ?_⟩
    rw [map_untag_tagEvent]
    exact h
  | call c next ih =>
    refine ⟨⟨htags past, ?_⟩, fun r hr => ?_⟩
    · rw [map_untag_tagEvent]
      exact h.1
    · have hnext := ih r (h.2 r hr)
      rw [List.map_append] at hnext
      exact hnext

end Program

open Program

section

variable {C : Type} {R : C → Type} {α σ : Type}

/-- A client that has got so far: its events, and what is left to do. -/
structure Client (C : Type) (R : C → Type) (α : Type) where
  past : List (Event C R)
  rest : Program C R α

def Client.awaits (client : Client C R α) : Option C :=
  match client.rest with
  | .done _ => none
  | .call c _ => some c

theorem Client.awaits_eq_some {client : Client C R α} (h : client.awaits = some c) :
    ∃ past next, client = ⟨past, .call c next⟩ := by
  obtain ⟨past, rest⟩ := client
  cases rest with
  | done a => cases h
  | call c' next =>
    cases h
    exact ⟨past, next, rfl⟩

structure Pool (σ : Type) (C : Type) (R : C → Type) (α : Type) where
  shared : σ
  clients : Nat → Option (Client C R α)

namespace Pool

/-- The pool in which nobody runs. -/
def idle (shared : σ) : Pool σ C R α := ⟨shared, fun _ => none⟩

def set (s : Pool σ C R α) (i : Nat) (client : Option (Client C R α)) : Pool σ C R α :=
  { s with clients := Function.update s.clients i client }

variable {s : Pool σ C R α} {i j : Nat} {client : Option (Client C R α)}

@[simp] theorem clients_set_self : (s.set i client).clients i = client :=
  Function.update_self ..

theorem clients_set_ne (h : j ≠ i) : (s.set i client).clients j = s.clients j :=
  Function.update_of_ne h ..

theorem clients_set (h : (s.set i client).clients j = some cl) :
    (j = i ∧ client = some cl) ∨ (j ≠ i ∧ s.clients j = some cl) := by
  rcases eq_or_ne j i with rfl | hne
  · exact .inl ⟨rfl, clients_set_self.symm.trans h⟩
  · exact .inr ⟨hne, (clients_set_ne hne).symm.trans h⟩

theorem clients_fresh {p : Option (Program C R α)}
    (h : (s.set i (p.map fun p => ⟨[], p⟩)).clients j = some cl) :
    cl.past = [] ∨ s.clients j = some cl := by
  rcases clients_set h with ⟨-, hnew⟩ | ⟨-, hold⟩
  · obtain ⟨p, -, rfl⟩ := Option.map_eq_some_iff.mp hnew
    exact .inl rfl
  · exact .inr hold

end Pool

/-- What the clients of a pool may run, how the party can answer a call, and
what it can do unasked. -/
structure Setting (σ : Type) (C : Type) (R : C → Type) (α : Type) where
  starts : Program C R α → Prop
  serve : σ → (c : C) → R c → σ → Prop
  drift : σ → σ → Prop

namespace Setting

variable (S : Setting σ C R α)

/-- One step of the pool, with the event if it is a call. -/
inductive Step : Pool σ C R α → Option (Nat × Event C R) → Pool σ C R α → Prop
  | start {s : Pool σ C R α} (i : Nat) {p : Program C R α} (hp : S.starts p) :
      Step s none (s.set i (some ⟨[], p⟩))
  | crash {s : Pool σ C R α} (i : Nat) : Step s none (s.set i none)
  | act {s : Pool σ C R α} {i : Nat} {past : List (Event C R)} {c : C}
      {next : R c → Program C R α} {r : R c} {shared : σ}
      (hi : s.clients i = some ⟨past, .call c next⟩) (hr : S.serve s.shared c r shared) :
      Step s (some (i, ⟨c, r⟩))
        { s.set i (some ⟨past ++ [⟨c, r⟩], next r⟩) with shared := shared }
  | drift {s : Pool σ C R α} {shared : σ} (h : S.drift s.shared shared) :
      Step s none { s with shared := shared }

variable {S} in
theorem Step.acted (h : S.Step s (some (i, e)) s') :
    ∃ past next, s.clients i = some ⟨past, .call e.1 next⟩ ∧
      s'.clients i = some ⟨past ++ [e], next e.2⟩ ∧ S.serve s.shared e.1 e.2 s'.shared := by
  cases h with
  | act hi hr => exact ⟨_, _, hi, Pool.clients_set_self, hr⟩

/-- The pools that can be reached from an idle one by steps that `admits`
allows, with the calls made on the way. -/
inductive Run (admits : Pool σ C R α → Option (Nat × Event C R) → Prop) (start : σ) :
    List (Nat × Event C R) → Pool σ C R α → Prop
  | nil : Run admits start [] (.idle start)
  | step {log : List (Nat × Event C R)} {s s' : Pool σ C R α} {l : Option (Nat × Event C R)}
      (h : Run admits start log s) (hstep : S.Step s l s') (hl : admits s l) :
      Run admits start (log ++ l.toList) s'

variable {S} {rely : (c : C) → R c → Prop} {G : List (Event C R) → C → Prop}
  {admits : Pool σ C R α → Option (Nat × Event C R) → Prop} {start : σ}
  {log : List (Nat × Event C R)} {s : Pool σ C R α}

variable {Q : List (Event C R) → α → Prop}

/-- Every client will go on obeying, and end as `Q` says. -/
def KeptTo (rely : (c : C) → R c → Prop) (G : List (Event C R) → C → Prop)
    (Q : List (Event C R) → α → Prop) (s : Pool σ C R α) : Prop :=
  ∀ i client, s.clients i = some client → client.rest.Obeys rely G client.past Q

/-- Every client will go on obeying. -/
def Kept (rely : (c : C) → R c → Prop) (G : List (Event C R) → C → Prop)
    (s : Pool σ C R α) : Prop :=
  ∀ i client, s.clients i = some client →
    client.rest.Obeys rely G client.past fun _ _ => True

theorem KeptTo.set (h : KeptTo rely G Q s)
    (hclient : ∀ cl, client = some cl → cl.rest.Obeys rely G cl.past Q) :
    KeptTo rely G Q (s.set i client) := by
  intro j cl hj
  rcases Pool.clients_set hj with ⟨-, hnew⟩ | ⟨-, hold⟩
  · exact hclient cl hnew
  · exact h j cl hold

/-- An invariant of the pool and the calls so far. A client's call is met with
the knowledge that it was allowed, and the reply has to be one the clients rely
on. -/
structure Preserved (S : Setting σ C R α) (rely : (c : C) → R c → Prop)
    (G : List (Event C R) → C → Prop)
    (admits : Pool σ C R α → Option (Nat × Event C R) → Prop) (start : σ)
    (I : List (Nat × Event C R) → Pool σ C R α → Prop) : Prop where
  nil : I [] (.idle start)
  set : ∀ {log s i}, I log s → ∀ p : Option (Program C R α),
    I log (s.set i (p.map fun p => ⟨[], p⟩))
  act : ∀ {log s i past c} {next : R c → Program C R α} {r shared}, I log s →
    s.clients i = some ⟨past, .call c next⟩ → G past c → S.serve s.shared c r shared →
    admits s (some (i, ⟨c, r⟩)) →
    rely c r ∧ I (log ++ [(i, ⟨c, r⟩)])
      { s.set i (some ⟨past ++ [⟨c, r⟩], next r⟩) with shared := shared }
  drift : ∀ {log s shared}, I log s → S.drift s.shared shared →
    I log { s with shared := shared }

theorem Run.preservesTo (hstarts : ∀ p, S.starts p → p.Obeys rely G [] Q)
    (hI : Preserved S rely G admits start I) (h : S.Run admits start log s) :
    I log s ∧ KeptTo rely G Q s := by
  induction h with
  | nil => exact ⟨hI.nil, nofun⟩
  | @step log s s' l h hstep hl ih =>
    obtain ⟨hinv, hkept⟩ := ih
    cases hstep with
    | @start i p hp =>
      refine ⟨by simpa using hI.set hinv (some p), hkept.set ?_⟩
      rintro cl ⟨⟩
      exact hstarts p hp
    | @crash i => exact ⟨by simpa using hI.set hinv none, hkept.set nofun⟩
    | @act i past c next r shared hi hr =>
      obtain ⟨hG, hnext⟩ := hkept i _ hi
      obtain ⟨hrely, hinv'⟩ := hI.act hinv hi hG hr hl
      refine ⟨hinv', hkept.set ?_⟩
      rintro cl ⟨⟩
      exact hnext r hrely
    | drift h => exact ⟨by simpa using hI.drift hinv h, hkept⟩

theorem Run.preserves (hstarts : ∀ p, S.starts p → p.Obeys rely G [] fun _ _ => True)
    (hI : Preserved S rely G admits start I) (h : S.Run admits start log s) :
    I log s ∧ Kept rely G s :=
  h.preservesTo hstarts hI

/-! ## Going on from a pool -/

/-- The pools reached from `s` by steps that `ok` allows, with the calls made on
the way. -/
inductive Path (S : Setting σ C R α)
    (ok : Pool σ C R α → Option (Nat × Event C R) → Pool σ C R α → Prop) (s : Pool σ C R α) :
    List (Nat × Event C R) → Pool σ C R α → Prop
  | nil : Path S ok s [] s
  | step {log : List (Nat × Event C R)} {s' s'' : Pool σ C R α} {l : Option (Nat × Event C R)}
      (h : Path S ok s log s') (hstep : S.Step s' l s'') (hok : ok s' l s'') :
      Path S ok s (log ++ l.toList) s''

theorem Path.trans (h : S.Path ok s log s') (h' : S.Path ok s' log' s'') :
    S.Path ok s (log ++ log') s'' := by
  induction h' with
  | nil => simpa using h
  | step _ hstep hok ih =>
    rw [← List.append_assoc]
    exact ih.step hstep hok

theorem Run.path (h : S.Run admits start log s) (hadmits : ∀ s l s', ok s l s' → admits s l)
    (hpath : S.Path ok s log' s') : S.Run admits start (log ++ log') s' := by
  induction hpath with
  | nil => simpa using h
  | step _ hstep hok ih =>
    rw [← List.append_assoc]
    exact ih.step hstep (hadmits _ _ _ hok)

/-! ## A client driven by a party that always answers the same way -/

def drive (party : (c : C) → σ → R c × σ) : Nat → Client C R α → σ → Client C R α × σ
  | 0, client, s => (client, s)
  | n + 1, client, s =>
    match client.rest with
    | .done _ => (client, s)
    | .call c next =>
      let reply := party c s
      drive party n ⟨client.past ++ [⟨c, reply.1⟩], next reply.1⟩ reply.2

variable {party : (c : C) → σ → R c × σ} {client : Client C R α} {n : Nat}

theorem drive_snoc {s s' : σ}
    {past : List (Event C R)} {c : C} {next : R c → Program C R α}
    (h : drive party n client s = (⟨past, .call c next⟩, s')) :
    drive party (n + 1) client s =
      (⟨past ++ [⟨c, (party c s').1⟩], next (party c s').1⟩, (party c s').2) := by
  induction n generalizing client s with
  | zero =>
    cases h
    rfl
  | succ n ih =>
    obtain ⟨past', rest⟩ := client
    cases rest with
    | done a =>
      rw [drive] at h
      cases h
    | call c' next' => exact ih h

/-- Each of the calls on the way is one that `ok` accepts. -/
def drives (party : (c : C) → σ → R c × σ) (ok : σ → C → Bool) : Nat → Client C R α → σ → Bool
  | 0, _, _ => true
  | n + 1, client, s =>
    match client.rest with
    | .done _ => true
    | .call c next =>
      let reply := party c s
      ok s c && drives party ok n ⟨client.past ++ [⟨c, reply.1⟩], next reply.1⟩ reply.2

theorem drives_of_uses {good : C → Prop} [DecidablePred good] {s : σ}
    (h : client.rest.Uses good) :
    drives party (fun _ c => decide (good c)) n client s = true := by
  induction n generalizing client s with
  | zero => rfl
  | succ n ih =>
    obtain ⟨past, rest⟩ := client
    cases rest with
    | done a => rfl
    | call c next =>
      rw [drives, Bool.and_eq_true]
      exact ⟨decide_eq_true h.1, ih (h.2 _)⟩

theorem drives_true {s : σ} : drives party (fun _ _ => true) n client s = true :=
  drives_of_uses (uses_any client.rest)

theorem Path.drives (hparty : ∀ c s, S.serve s c (party c s).1 (party c s).2)
    (hok : ∀ (s s' : Pool σ C R α) c, good s.shared c = true →
      A s (some (i, ⟨c, (party c s.shared).1⟩)) s')
    (hi : s.clients i = some client) (n : Nat)
    (hgood : Setting.drives party good n client s.shared = true) :
    ∃ log, S.Path A s log
      { s.set i (some (drive party n client s.shared).1) with
        shared := (drive party n client s.shared).2 } := by
  have hsame : s.set i (some client) = s := by
    rw [Pool.set, ← hi, Function.update_eq_self]
  induction n generalizing client s with
  | zero =>
    refine ⟨[], ?_⟩
    simpa only [drive, hsame] using Path.nil
  | succ n ih =>
    obtain ⟨past, rest⟩ := client
    cases rest with
    | done a =>
      refine ⟨[], ?_⟩
      simpa only [drive, hsame] using Path.nil
    | call c next =>
      rw [Setting.drives, Bool.and_eq_true] at hgood
      have hact := Path.nil.step (.act hi (hparty c s.shared)) (hok s _ c hgood.1)
      let after : Client C R α :=
        ⟨past ++ [⟨c, (party c s.shared).1⟩], next (party c s.shared).1⟩
      obtain ⟨log, hrest⟩ := ih (s := { s.set i (some after) with shared := (party c s.shared).2 })
        Pool.clients_set_self hgood.2 (by simp [Pool.set])
      simp only [after, Pool.set, Function.update_idem] at hrest
      exact ⟨_, hact.trans hrest⟩

theorem Run.drives (hparty : ∀ c s, S.serve s c (party c s).1 (party c s).2)
    (hadmits : ∀ s c, ok s.shared c = true → admits s (some (i, ⟨c, (party c s.shared).1⟩)))
    (h : S.Run admits start log s) (hi : s.clients i = some client) (n : Nat)
    (hok : Setting.drives party ok n client s.shared = true) :
    ∃ log', S.Run admits start log'
      { s.set i (some (drive party n client s.shared).1) with
        shared := (drive party n client s.shared).2 } := by
  obtain ⟨log', hpath⟩ := Path.drives (A := fun s l _ => admits s l) hparty
    (fun s _ => hadmits s) hi n hok
  exact ⟨_, h.path (fun _ _ _ h => h) hpath⟩

end Setting

end

end VirtualKubelet
