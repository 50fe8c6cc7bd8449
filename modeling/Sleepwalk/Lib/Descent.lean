import Mathlib.Algebra.BigOperators.Group.Finset.Basic
import Mathlib.Data.Fintype.Basic
import Mathlib.Tactic.Ring

/-!
# Descent of a deterministic process

A process that goes from one state to the next until it has none: `iter next n a` is the state after
`n` steps from `a`. A measure that drops with every step bounds the run and keeps it from returning
to a state of equal measure; one that drops by one with every step and is zero exactly at the end
is the length of the run.
-/

namespace Descent

variable {α : Type}

/-- The state after `n` steps, if there are that many. -/
def iter (next : α → Option α) : ℕ → α → Option α
  | 0, a => some a
  | n + 1, a => (iter next n a).bind next

variable {next : α → Option α} {a b c : α} {m n : ℕ}

theorem iter_succ_eq_some_iff :
    iter next (n + 1) a = some c ↔ ∃ b, iter next n a = some b ∧ next b = some c :=
  Option.bind_eq_some_iff

/-- A run that has ended does not go on. -/
theorem iter_eq_none (h : iter next m a = none) (hle : m ≤ n) : iter next n a = none := by
  induction n, hle using Nat.le_induction with
  | base => exact h
  | succ n _ ih => rw [iter, ih, Option.bind_none]

/-- What every step preserves holds after any number of them. -/
theorem iter_invariant {P : α → Prop} (h₀ : P a)
    (hstep : ∀ b c, P b → next b = some c → P c) (h : iter next n a = some b) : P b := by
  induction n generalizing b with
  | zero =>
    obtain rfl := Option.some_inj.mp h
    exact h₀
  | succ n ih =>
    obtain ⟨b', hb', hnext⟩ := iter_succ_eq_some_iff.mp h
    exact hstep b' b (ih hb') hnext

section Measure

variable {μ : α → ℕ}

/-- A measure that drops with every step of the run is lower the later it is taken. -/
theorem measure_lt (hdrop : ∀ n b c, iter next n a = some b → next b = some c → μ c < μ b)
    (hlt : m < n) (hb : iter next m a = some b) (hc : iter next n a = some c) : μ c < μ b := by
  induction n, hlt using Nat.le_induction generalizing c with
  | base =>
    obtain ⟨b', hb', hnext⟩ := iter_succ_eq_some_iff.mp hc
    obtain rfl : b = b' := Option.some_inj.mp (hb.symm.trans hb')
    exact hdrop m b c hb hnext
  | succ n _ ih =>
    obtain ⟨b', hb', hnext⟩ := iter_succ_eq_some_iff.mp hc
    exact (hdrop n b' c hb' hnext).trans (ih hb')

/-- Along a run that goes on, the measure has dropped at least by the number of steps. -/
theorem measure_add_le (hdrop : ∀ n b c, iter next n a = some b → next b = some c → μ c < μ b)
    (h : iter next n a = some b) : μ b + n ≤ μ a := by
  induction n generalizing b with
  | zero =>
    obtain rfl := Option.some_inj.mp h
    exact Nat.le_refl _
  | succ n ih =>
    obtain ⟨b', hb', hnext⟩ := iter_succ_eq_some_iff.mp h
    have hlt := hdrop n b' b hb' hnext
    have hle := ih hb'
    omega

/-- A run whose measure drops with every step comes to an end. -/
theorem exists_end (hdrop : ∀ n b c, iter next n a = some b → next b = some c → μ c < μ b) :
    ∃ n b, iter next n a = some b ∧ next b = none := by
  by_contra hgoes
  have hall : ∀ n, ∃ b, iter next n a = some b := by
    intro n
    induction n with
    | zero => exact ⟨a, rfl⟩
    | succ n ih =>
      obtain ⟨b, hb⟩ := ih
      cases hnext : next b with
      | none => exact absurd ⟨n, b, hb, hnext⟩ hgoes
      | some c => exact ⟨c, iter_succ_eq_some_iff.mpr ⟨b, hb, hnext⟩⟩
  -- A run longer than the first measure would take it below zero.
  obtain ⟨b, hb⟩ := hall (μ a + 1)
  have hle := measure_add_le hdrop hb
  omega

/-- A run whose measure drops by one with every step and is zero exactly at its end has as many
steps as the measure says. -/
theorem exists_end_at (hdrop : ∀ n b c, iter next n a = some b → next b = some c → μ c + 1 = μ b)
    (hend : ∀ n b, iter next n a = some b → (next b = none ↔ μ b = 0)) :
    ∃ b, iter next (μ a) a = some b ∧ next b = none := by
  have hall : ∀ n ≤ μ a, ∃ b, iter next n a = some b ∧ μ b + n = μ a := by
    intro n hn
    induction n with
    | zero => exact ⟨a, rfl, rfl⟩
    | succ n ih =>
      obtain ⟨b, hb, hμ⟩ := ih (by omega)
      cases hnext : next b with
      | none =>
        have hzero := (hend n b hb).mp hnext
        omega
      | some c =>
        have hone := hdrop n b c hb hnext
        exact ⟨c, iter_succ_eq_some_iff.mpr ⟨b, hb, hnext⟩, by omega⟩
  obtain ⟨b, hb, hμ⟩ := hall (μ a) (Nat.le_refl _)
  exact ⟨b, hb, (hend _ b hb).mpr (by omega)⟩

end Measure

section TwoPoints

variable {ι : Type} [DecidableEq ι] {s : Finset ι} {f g : ι → ℕ} {i j : ι}

/-- A sum whose terms change at two points only. -/
theorem sum_two_points (hi : i ∈ s) (hj : j ∈ s) (hne : i ≠ j)
    (h : ∀ k ∈ s, k ≠ i → k ≠ j → g k = f k) :
    ∑ k ∈ s, g k + (f i + f j) = ∑ k ∈ s, f k + (g i + g j) := by
  have hj' : j ∈ s.erase i := Finset.mem_erase.mpr ⟨hne.symm, hj⟩
  have hrest : ∑ k ∈ (s.erase i).erase j, g k = ∑ k ∈ (s.erase i).erase j, f k := by
    refine Finset.sum_congr rfl fun k hk => ?_
    obtain ⟨hkj, hk⟩ := Finset.mem_erase.mp hk
    obtain ⟨hki, hk⟩ := Finset.mem_erase.mp hk
    exact h k hk hki hkj
  rw [← Finset.add_sum_erase s g hi, ← Finset.add_sum_erase _ g hj', ← Finset.add_sum_erase s f hi,
    ← Finset.add_sum_erase _ f hj', hrest]
  ring

end TwoPoints

end Descent
