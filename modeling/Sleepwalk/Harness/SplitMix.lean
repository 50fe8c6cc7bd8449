import Sleepwalk.Harness.Chaos
import Sleepwalk.Lib.Mixer

/-!
# The generator's period

`SplitMix64` of `schedule.rs` mixes a counter, and the mixing loses nothing. So every 64-bit value
is drawn once before any is drawn again, and the seeds only choose where on the one round of values
a generator begins.
-/

namespace Sleepwalk.Harness.SplitMix64

open Mixer

/-- The value drawn from a state of the counter. -/
def mix (state : UInt64) : UInt64 :=
  let z := (state ^^^ (state >>> 30)) * 0xBF58476D1CE4E5B9
  let z := (z ^^^ (z >>> 27)) * 0x94D049BB133111EB
  z ^^^ (z >>> 31)

/-- What the counter is advanced by. -/
def STRIDE : UInt64 := 0x9E3779B97F4A7C15

theorem nextU64_eq (rng : SplitMix64) :
    rng.nextU64 = (mix (rng.state + STRIDE), ⟨rng.state + STRIDE⟩) := rfl

/-- The value that is drawn after `n` others. -/
def draw (rng : SplitMix64) (n : ℕ) : UInt64 :=
  ((fun rng => rng.nextU64.2)^[n] rng).nextU64.1

/-- A step of the finalizer is undone by no other word. -/
theorem xor_shift_injective {k : UInt64} (hk : 0 < k.toNat % 64) :
    Function.Injective fun z : UInt64 => z ^^^ (z >>> k) := by
  intro x y h
  refine UInt64.toBitVec_inj.mp (xorShift_injective hk ?_)
  have hbits := congrArg UInt64.toBitVec h
  simpa [xorShift] using hbits

theorem mix_injective : Function.Injective mix := by
  have hfirst : Function.Injective fun z : UInt64 => (z ^^^ (z >>> 30)) * 0xBF58476D1CE4E5B9 :=
    (mul_right_injective (d := 0x96DE1B173F119089) (by decide)).comp
      (xor_shift_injective (by decide))
  have hsecond : Function.Injective fun z : UInt64 => (z ^^^ (z >>> 27)) * 0x94D049BB133111EB :=
    (mul_right_injective (d := 0x319642B2D24D8EC3) (by decide)).comp
      (xor_shift_injective (by decide))
  exact (xor_shift_injective (k := 31) (by decide)).comp (hsecond.comp hfirst)

theorem draw_eq (rng : SplitMix64) (n : ℕ) :
    rng.draw n = mix (rng.state + STRIDE + UInt64.ofNat n * STRIDE) := by
  have hstate : ∀ n, ((fun rng => rng.nextU64.2)^[n] rng).state =
      rng.state + UInt64.ofNat n * STRIDE := by
    intro n
    induction n with
    | zero => simp
    | succ n ih =>
      rw [Function.iterate_succ_apply', nextU64_eq, ih, UInt64.ofNat_add, UInt64.add_mul]
      simp [UInt64.add_assoc]
  rw [draw, nextU64_eq, hstate, UInt64.add_assoc, UInt64.add_assoc, UInt64.add_comm STRIDE]

/-- Each 64-bit value is drawn exactly once in `2 ^ 64` draws, and every other generator draws the
same values from another place on. -/
theorem draws_cycle (rng : SplitMix64) :
    (∀ v, ∃! n, n < 2 ^ 64 ∧ rng.draw n = v) ∧
      ∀ rng' : SplitMix64, ∃ k < 2 ^ 64, ∀ n, rng'.draw n = rng.draw (k + n) := by
  have hstride : STRIDE * 0xF1DE83E19937733D = 1 := by decide
  constructor
  · intro v
    simp only [draw_eq]
    exact existsUnique_index mix_injective hstride (rng.state + STRIDE) v
  · intro rng'
    -- The other counter's state is one that this counter reaches.
    obtain ⟨k, ⟨hk, hstate⟩, -⟩ :=
      existsUnique_index (Function.injective_id) hstride rng.state rng'.state
    refine ⟨k, hk, fun n => ?_⟩
    rw [draw_eq, draw_eq, UInt64.ofNat_add, UInt64.add_mul, ← hstate]
    simp only [id_eq, UInt64.add_assoc]
    rw [← UInt64.add_assoc STRIDE, ← UInt64.add_assoc _ STRIDE, UInt64.add_comm STRIDE]

end Sleepwalk.Harness.SplitMix64
