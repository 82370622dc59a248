import Mathlib.Data.List.Basic
import Mathlib.Data.List.Induction

/-!
# Runs of a state machine

A machine is a step function; a run folds it over a list of inputs. The rules
here are the inductions over runs that the rest of the development needs: a
property every step preserves, and a property a step preserves only while
some condition still holds of the state it leads to.
-/

namespace VirtualKubelet.Machine

variable {σ ι : Type}

def run (step : σ → ι → σ) (s : σ) (inputs : List ι) : σ := inputs.foldl step s

variable {step : σ → ι → σ} {s : σ} {P : σ → Prop} {inputs : List ι}

theorem run_snoc : run step s (inputs ++ [i]) = step (run step s inputs) i := by
  simp [run]

theorem run_append : run step s (first ++ second) = run step (run step s first) second := by
  simp [run]

/-- What holds at the start and survives every admissible step holds at the
end of every run of admissible steps. Whether a step is admissible may depend
on the state it is taken in. -/
theorem run_guarded {Q : σ → ι → Prop} (hs : P s)
    (hstep : ∀ s i, Q s i → P s → P (step s i))
    (hQ : ∀ pre i, pre ++ [i] <+: inputs → Q (run step s pre) i) :
    P (run step s inputs) := by
  induction inputs using List.reverseRecOn with
  | nil => exact hs
  | append_singleton inputs i ih =>
    rw [run_snoc]
    refine hstep _ i (hQ inputs i List.prefix_rfl) (ih fun pre j hpre => hQ pre j ?_)
    exact hpre.trans (List.prefix_append _ _)

theorem run_invariant {Q : ι → Prop} (hs : P s)
    (hstep : ∀ s i, Q i → P s → P (step s i)) (hQ : ∀ i ∈ inputs, Q i) :
    P (run step s inputs) :=
  run_guarded (Q := fun _ => Q) hs hstep fun _ i hpre =>
    hQ i (hpre.subset (by simp))

/-- The rule for a property that lasts while `G` does: `G` is asked of every
state on the way, the last one included. -/
theorem run_while {G : σ → Prop} (hs : P s)
    (hstep : ∀ s i, P s → G (step s i) → P (step s i))
    (hG : ∀ pre, pre <+: inputs → G (run step s pre)) :
    P (run step s inputs) :=
  run_guarded (Q := fun s i => G (step s i)) hs (fun s i hg hp => hstep s i hp hg)
    fun pre i hpre => by
      have hlast := hG (pre ++ [i]) hpre
      rwa [run_snoc] at hlast

end VirtualKubelet.Machine
