import Mathlib.Data.List.Induction
import Mathlib.Data.Option.Basic

/-!
# Runs of a machine that refuses steps

A machine takes labelled steps, and a label it cannot take in a state is refused there. `run` takes
a list of labels, and `run_invariant` is the induction over a run: what holds of a state together
with the labels that led to it is shown for the start and for one step.
-/

namespace Runs

variable {S L : Type*} {step : S → L → Option S} {s s' : S} {l l' : List L} {a : L}

/-- The state after some labels, if none of them is refused. -/
def run (step : S → L → Option S) (s : S) (l : List L) : Option S := l.foldlM step s

@[simp]
theorem run_nil : run step s [] = some s := rfl

theorem run_cons_eq_some_iff :
    run step s (a :: l) = some s' ↔ ∃ s₁, step s a = some s₁ ∧ run step s₁ l = some s' := by
  simp [run, Option.bind_eq_some_iff]

theorem run_append_eq_some_iff :
    run step s (l ++ l') = some s' ↔
      ∃ s₁, run step s l = some s₁ ∧ run step s₁ l' = some s' := by
  simp [run, List.foldlM_append, Option.bind_eq_some_iff]

theorem run_concat_eq_some_iff :
    run step s (l ++ [a]) = some s' ↔ ∃ s₁, run step s l = some s₁ ∧ step s₁ a = some s' := by
  simp [run, List.foldlM_append, Option.bind_eq_some_iff]

/-- What holds at the start, and after every step of a run if it did before, holds after a run. -/
theorem run_invariant {motive : List L → S → Prop} (hstart : motive [] s)
    (hstep : ∀ l s₁ a s₂, run step s l = some s₁ → motive l s₁ → step s₁ a = some s₂ →
      motive (l ++ [a]) s₂)
    (hrun : run step s l = some s') : motive l s' := by
  induction l using List.reverseRecOn generalizing s' with
  | nil =>
    rw [run_nil, Option.some.injEq] at hrun
    exact hrun ▸ hstart
  | append_singleton l a ih =>
    obtain ⟨s₁, hl, ha⟩ := run_concat_eq_some_iff.mp hrun
    exact hstep l s₁ a s' hl (ih hl) ha

/-- What the steps of a run keep, one by one, holds at its end if it held at its start. -/
theorem run_preserves {P : S → Prop} (hstart : P s)
    (hstep : ∀ a ∈ l, ∀ s₁ s₂, P s₁ → step s₁ a = some s₂ → P s₂)
    (hrun : run step s l = some s') : P s' := by
  induction l generalizing s with
  | nil =>
    rw [run_nil, Option.some.injEq] at hrun
    exact hrun ▸ hstart
  | cons a l ih =>
    obtain ⟨s₁, ha, hl⟩ := run_cons_eq_some_iff.mp hrun
    have hs₁ : P s₁ := hstep a List.mem_cons_self s s₁ hstart ha
    exact ih hs₁ (fun b hb => hstep b (List.mem_cons_of_mem a hb)) hl

end Runs
