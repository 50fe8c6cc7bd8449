import Mathlib.Algebra.Group.Nat.Defs
import Mathlib.Data.Fintype.EquivFin
import Mathlib.Data.Finite.Defs
import Mathlib.Logic.Function.Basic

/-!
# Mixing machine words

Maps of machine words that lose nothing: adding a copy shifted down with exclusive or
(`xorShift_injective`), and multiplying by a number that has an inverse (`mul_right_injective`).

A counter that adds such a number visits all words before it repeats, so mixing it gives every word
exactly once (`existsUnique_index`).
-/

namespace Mixer

/-! ## Adding a shifted copy -/

section XorShift

variable {w k : ℕ}

/-- Add a copy of the word that is shifted down by `k` bits. -/
def xorShift (k : ℕ) (x : BitVec w) : BitVec w := x ^^^ (x >>> k)

/-- A word that its shifted copy cancels has no bits: each is that of a higher place. -/
theorem eq_zero_of_shift {d : BitVec w} (hk : 0 < k) (h : d = d >>> k) : d = 0#w := by
  have hbit : ∀ n i, w ≤ i + n → d.getLsbD i = false := by
    intro n
    induction n with
    | zero => exact fun i hi => BitVec.getLsbD_of_ge d i hi
    | succ n ih =>
      intro i hi
      rw [h, BitVec.getLsbD_ushiftRight]
      exact ih (k + i) (by omega)
  apply BitVec.eq_of_getLsbD_eq
  intro i hi
  rw [hbit w i (by omega), BitVec.getLsbD_zero]

theorem xorShift_injective (hk : 0 < k) : Function.Injective (xorShift (w := w) k) := by
  intro x y h
  have hzero : x ^^^ y = 0#w := by
    refine eq_zero_of_shift hk ?_
    apply BitVec.eq_of_getLsbD_eq
    intro i hi
    have hbit := congrArg (·.getLsbD i) h
    simp only [xorShift, BitVec.getLsbD_xor, BitVec.getLsbD_ushiftRight] at hbit ⊢
    -- What the words differ by at a place is what their copies differ by there.
    revert hbit
    cases x.getLsbD i <;> cases y.getLsbD i <;> cases x.getLsbD (k + i) <;>
      cases y.getLsbD (k + i) <;> decide
  exact BitVec.xor_eq_zero_iff.mp hzero

end XorShift

/-! ## Multiplying -/

theorem mul_right_injective {c d : UInt64} (h : c * d = 1) :
    Function.Injective (· * c : UInt64 → UInt64) := by
  intro x y hxy
  have hback : ∀ z : UInt64, z * c * d = z := fun z => by rw [UInt64.mul_assoc, h, UInt64.mul_one]
  rw [← hback x, ← hback y]
  exact congrArg (· * d) hxy

/-! ## A mixed counter -/

theorem finite_words : Finite UInt64 :=
  Finite.of_injective (fun x : UInt64 => (⟨x.toNat, x.toNat_lt⟩ : Fin (2 ^ 64)))
    fun _ _ h => UInt64.toNat_inj.mp (Fin.mk.inj h)

/-- A word that a counter reaches by a step that has an inverse is reached once on every round. -/
theorem existsUnique_index {mix : UInt64 → UInt64} (hmix : Function.Injective mix)
    {step back : UInt64} (hstep : step * back = 1) (start v : UInt64) :
    ∃! n : ℕ, n < 2 ^ 64 ∧ mix (start + UInt64.ofNat n * step) = v := by
  have hinjective : Function.Injective fun n : UInt64 => mix (start + n * step) := by
    intro n m h
    exact mul_right_injective hstep ((UInt64.add_right_inj start).mp (hmix h))
  have hfinite := finite_words
  obtain ⟨n, hn⟩ := Finite.injective_iff_surjective.mp hinjective v
  refine ⟨n.toNat, ⟨n.toNat_lt, ?_⟩, ?_⟩
  · rw [UInt64.ofNat_toNat]
    exact hn
  · rintro m ⟨hm, hmv⟩
    have hsame : UInt64.ofNat m = n := hinjective (hmv.trans hn.symm)
    rw [← hsame, UInt64.toNat_ofNat_of_lt' hm]

end Mixer
