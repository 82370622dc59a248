import Mathlib.Data.List.Forall2

/-!
# Functions that return at the first failing check

Go code validates by a run of `if bad { return err }`. As a list of guards the
run keeps its order, and its two uses come out as two lemmas: it passes
exactly when no guard fires, and a list can be cut where it is convenient.
-/

namespace VirtualKubelet.Go

variable {ε α β : Type} {f : α → Except ε β} {xs : List α}

/-- The error of the first guard that fires. -/
def firstError : List (Bool × ε) → Option ε
  | [] => none
  | (bad, err) :: rest => if bad then some err else firstError rest

@[simp] theorem firstError_nil : firstError ([] : List (Bool × ε)) = none := rfl

@[simp] theorem firstError_cons :
    firstError ((bad, err) :: rest) = none ↔ bad = false ∧ firstError rest = none := by
  cases bad <;> simp [firstError]

theorem firstError_append :
    firstError (l₁ ++ l₂) = none ↔ firstError l₁ = none ∧ firstError l₂ = none := by
  induction l₁ with
  | nil => simp
  | cons c l₁ ih =>
    obtain ⟨bad, err⟩ := c
    rw [List.cons_append, firstError_cons, firstError_cons, ih, and_assoc]

theorem firstError_map {α : Type} {f : α → Bool × ε} {l : List α} :
    firstError (l.map f) = none ↔ ∀ a ∈ l, (f a).1 = false := by
  induction l with
  | nil => simp
  | cons a l ih =>
    have hpair : f a = ((f a).1, (f a).2) := rfl
    rw [List.map_cons, hpair, firstError_cons, ih]
    simp

/-- A sequence succeeds if its first part does and then the part its value
chose. -/
theorem bind_ok {x : Except ε α} {b : β} :
    x >>= f = .ok b ↔ ∃ a, x = .ok a ∧ f a = .ok b := by
  cases x with
  | error e =>
    constructor
    · intro h
      cases h
    · rintro ⟨_, h, _⟩
      cases h
  | ok a =>
    constructor
    · intro h
      exact ⟨a, rfl, h⟩
    · rintro ⟨_, ha, hb⟩
      cases ha
      exact hb

/-- The rule for a loop that stops at the first error, with an invariant about
the elements already handled. -/
theorem foldlM_ok {step : β → α → Except ε β} (I : List α → β → Prop)
    (hstep : ∀ {handled a b b'}, I handled b → step b a = .ok b' → I (handled ++ [a]) b') :
    ∀ {handled : List α} {b r : β}, I handled b → xs.foldlM step b = .ok r →
      I (handled ++ xs) r := by
  induction xs with
  | nil =>
    intro handled b r hb h
    cases h
    rw [List.append_nil]
    exact hb
  | cons x xs ih =>
    intro handled b r hb h
    rw [List.foldlM_cons, bind_ok] at h
    obtain ⟨b', hx, hxs⟩ := h
    have hrest := ih (hstep hb hx) hxs
    rw [List.append_assoc] at hrest
    exact hrest

/-- A loop that stops at the first error finishes if every element is handled. -/
theorem mapM_eq_ok {ys : List β} : xs.mapM f = .ok ys ↔ xs.map f = ys.map .ok := by
  induction xs generalizing ys with
  | nil => cases ys <;> simp [pure, Except.pure]
  | cons x xs ih =>
    simp only [List.mapM_cons, bind_ok, ih, pure, Except.pure, Except.ok.injEq]
    cases ys with
    | nil => simp
    | cons y ys =>
      rw [List.map_cons, List.map_cons, List.cons.injEq]
      constructor
      · rintro ⟨y', hx, ys', hxs, heq⟩
        cases heq
        exact ⟨hx, hxs⟩
      · rintro ⟨hx, hxs⟩
        exact ⟨y, hx, ys, hxs, rfl⟩

theorem mapM_ok {ys : List β} (h : xs.mapM f = .ok ys) :
    List.Forall₂ (fun x y => f x = .ok y) xs ys := by
  rw [← List.forall₂_map_right_iff (R := fun x r => f x = r), ← List.forall₂_map_left_iff (R := Eq),
    List.forall₂_eq_eq_eq]
  exact mapM_eq_ok.mp h

end VirtualKubelet.Go
