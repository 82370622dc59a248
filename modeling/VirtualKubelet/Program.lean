import Mathlib.Data.List.Basic

/-!
# Programs that make calls

A program of this file talks to a party it does not control. It either ends
with a value, or makes a call and goes on with whatever reply comes back; the
type of a reply depends on the call. Nothing here says which replies a call
can get, so a statement about every run of a program is a statement about
every behaviour of the other party.

A run is recorded as its list of events, a call with its reply. The rest of
the development speaks of a run with these relations: `Runs`, that a program
can produce an event list and end with a value; `Uses` and `Ends`, that it
only ever makes calls of some kind, or ends with values of some kind;
`Justified`, that every event is allowed by those before it; and `Answers`,
that the replies are those of a given party with a state of its own.
-/

namespace VirtualKubelet

inductive Program (C : Type) (R : C → Type) (α : Type) : Type
  | done (a : α)
  | call (c : C) (next : R c → Program C R α)

namespace Program

variable {C : Type} {R : C → Type} {α β : Type}

def bind : Program C R α → (α → Program C R β) → Program C R β
  | done a, f => f a
  | call c next, f => call c fun r => (next r).bind f

instance : Monad (Program C R) where
  pure := done
  bind := bind

/-- The program that makes one call and ends with its reply. -/
def request (c : C) : Program C R (R c) := call c done

/-- A call and the reply it got. -/
abbrev Event (C : Type) (R : C → Type) := (c : C) × R c

/-- The program can get the replies recorded in the events, in that order,
and then ends with the value. -/
inductive Runs : Program C R α → List (Event C R) → α → Prop
  | done (a : α) : Runs (.done a) [] a
  | call {c : C} {next : R c → Program C R α} (r : R c) {es : List (Event C R)} {a : α}
      (h : Runs (next r) es a) : Runs (.call c next) (⟨c, r⟩ :: es) a

variable {p : Program C R α} {es : List (Event C R)} {a : α} {c : C} {f : α → Program C R β}

theorem runs_pure : Runs (pure a : Program C R α) es b ↔ es = [] ∧ b = a := by
  constructor
  · intro h
    cases h
    exact ⟨rfl, rfl⟩
  · rintro ⟨rfl, rfl⟩
    exact .done b

theorem runs_pure_pair : Runs (pure (a, b) : Program C R (α × β)) es (a', b') ↔
    es = [] ∧ a' = a ∧ b' = b := by
  rw [runs_pure, Prod.mk.injEq]

theorem runs_request : Runs (request c) es r ↔ es = [⟨c, r⟩] := by
  constructor
  · intro h
    cases h with
    | call r h => cases h; rfl
  · rintro rfl
    exact .call r (.done r)

/-- A run of a sequence is a run of its first part and then one of the part
that the value chose. -/
theorem runs_bind :
    Runs (p >>= f) es b ↔
      ∃ a first second, Runs p first a ∧ Runs (f a) second b ∧ es = first ++ second := by
  constructor
  · intro h
    induction p generalizing es with
    | done a => exact ⟨a, [], es, .done a, h, rfl⟩
    | call c next ih =>
      cases h with
      | call r h =>
        obtain ⟨a, first, second, hfirst, hsecond, rfl⟩ := ih r h
        exact ⟨a, ⟨c, r⟩ :: first, second, .call r hfirst, hsecond, rfl⟩
  · rintro ⟨a, first, second, hfirst, hsecond, rfl⟩
    induction hfirst with
    | done a => exact hsecond
    | call r _ ih => exact .call r (ih hsecond)

theorem runs_ask {f : R c → Program C R β} {b : β} :
    Runs (request c >>= f) es b ↔ ∃ r rest, Runs (f r) rest b ∧ es = [⟨c, r⟩] ++ rest := by
  simp only [runs_bind, runs_request, exists_and_left, exists_eq_left]

/-- The events decide the run: of two runs that begin alike neither goes on
longer, and they end with the same value. -/
theorem Runs.unique (h : Runs p es a) (h' : Runs p es' a') (heq : es ++ rest = es' ++ rest') :
    es = es' ∧ a = a' := by
  induction h generalizing es' with
  | done a =>
    cases h'
    exact ⟨rfl, rfl⟩
  | call r _ ih =>
    cases h' with
    | call r' h' =>
      obtain ⟨hevent, htail⟩ := List.cons.inj heq
      cases hevent
      obtain ⟨rfl, rfl⟩ := ih h' htail
      exact ⟨rfl, rfl⟩

/-! ## The calls a program can make -/

/-- Whatever the replies, the program makes only calls that satisfy `ok`. -/
def Uses (ok : C → Prop) : Program C R α → Prop
  | done _ => True
  | call c next => ok c ∧ ∀ r, (next r).Uses ok

variable {ok : C → Prop}

theorem uses_pure : Uses ok (pure a : Program C R α) := trivial

theorem uses_request (h : ok c) : Uses ok (request c : Program C R (R c)) :=
  ⟨h, fun _ => trivial⟩

theorem uses_bind (hp : p.Uses ok) (hf : ∀ a, (f a).Uses ok) : Uses ok (p >>= f) := by
  induction p with
  | done a => exact hf a
  | call c next ih => exact ⟨hp.1, fun r => ih r (hp.2 r)⟩

theorem uses_map {f : α → β} (hp : p.Uses ok) : Uses ok (f <$> p) :=
  uses_bind hp fun _ => uses_pure

theorem Uses.mono (hp : p.Uses ok) (h : ∀ c, ok c → ok' c) : p.Uses ok' := by
  induction p with
  | done a => trivial
  | call c next ih => exact ⟨h c hp.1, fun r => ih r (hp.2 r)⟩

theorem uses_any (p : Program C R α) : p.Uses fun _ => True := by
  induction p with
  | done a => trivial
  | call c next ih => exact ⟨trivial, ih⟩

theorem Runs.uses (h : Runs p es a) (hp : p.Uses ok) : ∀ e ∈ es, ok e.1 := by
  induction h with
  | done a => intro e he; cases he
  | call r h ih =>
    exact List.forall_mem_cons.mpr ⟨hp.1, ih (hp.2 r)⟩

/-! ## The values a program can end with -/

/-- Whatever the replies, the program ends with a value that satisfies `Q`. -/
def Ends (Q : α → Prop) : Program C R α → Prop
  | done a => Q a
  | call _ next => ∀ r, (next r).Ends Q

variable {Q : α → Prop}

theorem ends_pure (h : Q a) : Ends Q (pure a : Program C R α) := h

theorem ends_bind (hp : p.Ends Q) (hf : ∀ a, Q a → (f a).Ends Q') : Ends Q' (p >>= f) := by
  induction p with
  | done a => exact hf a hp
  | call c next ih => exact fun r => ih r (hp r)

theorem Ends.mono (hp : p.Ends Q) (h : ∀ a, Q a → Q' a) : p.Ends Q' := by
  induction p with
  | done a => exact h a hp
  | call c next ih => exact fun r => ih r (hp r)

theorem ends_any (p : Program C R α) : p.Ends fun _ => True := by
  induction p with
  | done a => trivial
  | call c next ih => exact ih

theorem Runs.ends (h : Runs p es a) (hp : p.Ends Q) : Q a := by
  induction h with
  | done a => exact hp
  | call r h ih => exact ih (hp r)

/-! ## Events justified by what came before -/

/-- Every event of the list satisfies `G` together with those before it. -/
def Justified {ε : Type} (G : List ε → ε → Prop) (es : List ε) : Prop :=
  ∀ before e after, es = before ++ e :: after → G before e

section Justified

variable {ε : Type} {G : List ε → ε → Prop}

theorem justified_nil : Justified G [] := by
  intro before e after h
  simp at h

theorem justified_cons {e : ε} {es : List ε} :
    Justified G (e :: es) ↔ G [] e ∧ Justified (fun before => G (e :: before)) es := by
  constructor
  · intro h
    exact ⟨h [] e es rfl, fun before e' after hes => h (e :: before) e' after (by rw [hes]; rfl)⟩
  rintro ⟨he, hes⟩ before e' after h
  cases before with
  | nil =>
    obtain ⟨rfl, -⟩ := List.cons.inj h
    exact he
  | cons b before =>
    obtain ⟨rfl, htail⟩ := List.cons.inj h
    exact hes before e' after htail

theorem justified_append :
    Justified G (first ++ second) ↔
      Justified G first ∧ Justified (fun before => G (first ++ before)) second := by
  induction first generalizing G with
  | nil => exact ⟨fun h => ⟨justified_nil, h⟩, fun h => h.2⟩
  | cons e first ih => rw [List.cons_append, justified_cons, justified_cons, ih, and_assoc]; rfl

theorem justified_of_forall {es : List ε} (h : ∀ e ∈ es, ∀ before, G before e) :
    Justified G es := by
  rintro before e after rfl
  exact h e (by simp) before

end Justified

/-! ## Calls carried out by other programs -/

variable {C' : Type} {R' : C' → Type}

/-- The program with every call carried out by a program over other calls. -/
def handle (h : (c : C) → Program C' R' (R c)) : Program C R α → Program C' R' α
  | done a => .done a
  | call c next => (h c).bind fun r => (next r).handle h

theorem uses_handle {ok' : C' → Prop} {h : (c : C) → Program C' R' (R c)}
    (hh : ∀ c, (h c).Uses ok') : (p.handle h).Uses ok' := by
  induction p with
  | done a => trivial
  | call c next ih => exact uses_bind (hh c) ih

/-! ## A party that answers -/

variable {σ : Type}

/-- The replies are those a party in state `s` gives. -/
def Answers (party : (c : C) → σ → R c × σ) : σ → List (Event C R) → Prop
  | _, [] => True
  | s, e :: es => e.2 = (party e.1 s).1 ∧ Answers party (party e.1 s).2 es

/-- The state the party is in after it was called as recorded. -/
def after (party : (c : C) → σ → R c × σ) (s : σ) (es : List (Event C R)) : σ :=
  es.foldl (fun s e => (party e.1 s).2) s

variable {party : (c : C) → σ → R c × σ} {s : σ}

theorem after_append :
    after party s (first ++ second) = after party (after party s first) second := by
  rw [after, after, after, List.foldl_append]

theorem answers_append :
    Answers party s (first ++ second) ↔
      Answers party s first ∧ Answers party (after party s first) second := by
  induction first generalizing s with
  | nil => exact ⟨fun h => ⟨trivial, h⟩, fun h => h.2⟩
  | cons e first ih => exact ⟨fun h => ⟨⟨h.1, (ih.mp h.2).1⟩, (ih.mp h.2).2⟩,
      fun h => ⟨h.1.1, ih.mpr ⟨h.1.2, h.2⟩⟩⟩

/-- The run in which the party answers every call: the events and the value. -/
def run (party : (c : C) → σ → R c × σ) : Program C R α → σ → List (Event C R) × α
  | done a, _ => ([], a)
  | call c next, s =>
    let reply := party c s
    let rest := (next reply.1).run party reply.2
    (⟨c, reply.1⟩ :: rest.1, rest.2)

theorem run_runs (party : (c : C) → σ → R c × σ) (s : σ) (p : Program C R α) :
    Runs p (p.run party s).1 (p.run party s).2 := by
  induction p generalizing s with
  | done a => exact .done a
  | call c next ih => exact .call _ (ih _ _)

theorem run_answers (party : (c : C) → σ → R c × σ) (s : σ) (p : Program C R α) :
    Answers party s (p.run party s).1 := by
  induction p generalizing s with
  | done a => trivial
  | call c next ih => exact ⟨rfl, ih _ _⟩

/-! ## Runs with a given party -/

/-- With the party in state `s`, the program ends with the value and leaves the
party in state `s'`. -/
def Leads (party : (c : C) → σ → R c × σ) (s : σ) (p : Program C R α) (a : α) (s' : σ) : Prop :=
  ∃ es, Runs p es a ∧ Answers party s es ∧ after party s es = s'

/-- With the party in state `s`, the program makes a call that satisfies `Q`
together with the state the party is then in. -/
def Meets (party : (c : C) → σ → R c × σ) (s : σ) (p : Program C R α) (Q : C → σ → Prop) : Prop :=
  ∃ before e later a, Runs p (before ++ e :: later) a ∧
    Answers party s (before ++ e :: later) ∧ Q e.1 (after party s before)

variable {s' : σ} {Q : C → σ → Prop}

theorem leads_pure : Leads party s (pure a) a s :=
  ⟨[], .done a, trivial, rfl⟩

theorem leads_request : Leads party s (request c) (party c s).1 (party c s).2 :=
  ⟨[⟨c, (party c s).1⟩], runs_request.mpr rfl, ⟨rfl, trivial⟩, rfl⟩

theorem leads_bind (hp : Leads party s p a s') (hf : Leads party s' (f a) b s'') :
    Leads party s (p >>= f) b s'' := by
  obtain ⟨first, hfirst, hanswers, rfl⟩ := hp
  obtain ⟨second, hsecond, hanswers', rfl⟩ := hf
  exact ⟨first ++ second, runs_bind.mpr ⟨a, first, second, hfirst, hsecond, rfl⟩,
    answers_append.mpr ⟨hanswers, hanswers'⟩, after_append⟩

theorem leads_exists (party : (c : C) → σ → R c × σ) (s : σ) (p : Program C R α) :
    ∃ a s', Leads party s p a s' :=
  ⟨_, _, _, run_runs party s p, run_answers party s p, rfl⟩

theorem meets_request (h : Q c s) : Meets party s (request c) Q :=
  ⟨[], ⟨c, (party c s).1⟩, [], _, runs_request.mpr rfl, ⟨rfl, trivial⟩, h⟩

theorem meets_bind (hp : Leads party s p a s') (hf : Meets party s' (f a) Q) :
    Meets party s (p >>= f) Q := by
  obtain ⟨first, hfirst, hanswers, rfl⟩ := hp
  obtain ⟨before, e, later, b, hsecond, hanswers', hQ⟩ := hf
  refine ⟨first ++ before, e, later, b, ?_, ?_, by rw [after_append]; exact hQ⟩
  · exact runs_bind.mpr ⟨a, first, _, hfirst, hsecond, List.append_assoc ..⟩
  · rw [List.append_assoc]
    exact answers_append.mpr ⟨hanswers, hanswers'⟩

theorem meets_bind_left (hp : Meets party s p Q) : Meets party s (p >>= f) Q := by
  obtain ⟨before, e, later, a, hfirst, hanswers, hQ⟩ := hp
  obtain ⟨b, s', second, hsecond, hanswers', -⟩ :=
    leads_exists party (after party s (before ++ e :: later)) (f a)
  refine ⟨before, e, later ++ second, b, ?_, ?_, hQ⟩
  · exact runs_bind.mpr ⟨a, _, second, hfirst, hsecond, by simp⟩
  · rw [← List.cons_append, ← List.append_assoc]
    exact answers_append.mpr ⟨hanswers, hanswers'⟩

/-- The value of a program whose calls always get the same replies. -/
def eval (replies : (c : C) → R c) : Program C R α → α
  | done a => a
  | call c next => (next (replies c)).eval replies

end Program

end VirtualKubelet
