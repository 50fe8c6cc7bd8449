import Mathlib.Data.List.Basic
import Mathlib.Logic.Function.Iterate
import Mathlib.Tactic.Common

/-!
# Shift registers with feedback

A register of `w` bits that moves down by one bit and adds a mask of taps whenever a one falls out,
with exclusive or as addition. It absorbs symbols of `k` bits, each added to the register before
`k` moves. Checksums of the CRC kind are such registers.

Moves are linear (`step_xor`), and invertible if the top bit is a tap (`step_injective`). So two
streams that differ in a window no longer than the register never lead to the same state
(`absorb_window_ne`): the difference of the states would have to vanish, and run backwards it spells
the difference of the windows.
-/

namespace Lfsr

variable {w : ℕ}

/-- One move. -/
def step (taps x : BitVec w) : BitVec w :=
  if x.getLsbD 0 then (x >>> 1) ^^^ taps else x >>> 1

/-- All bits from `n` on are zero. -/
def Below (n : ℕ) (x : BitVec w) : Prop := ∀ i, n ≤ i → x.getLsbD i = false

section Step

variable {taps x y : BitVec w}

theorem step_xor (taps x y : BitVec w) : step taps (x ^^^ y) = step taps x ^^^ step taps y := by
  have hcancel : ∀ a b : BitVec w, a ^^^ taps ^^^ (b ^^^ taps) = a ^^^ b := by
    intro a b
    rw [BitVec.xor_comm b, BitVec.xor_assoc, ← BitVec.xor_assoc taps, BitVec.xor_self,
      BitVec.zero_xor]
  simp only [step, BitVec.getLsbD_xor, BitVec.ushiftRight_xor_distrib]
  -- The taps are added on the left exactly if they are added once on the right.
  cases hx : x.getLsbD 0 <;> cases hy : y.getLsbD 0
  · rfl
  · exact BitVec.xor_assoc _ _ _
  · show x >>> 1 ^^^ y >>> 1 ^^^ taps = x >>> 1 ^^^ taps ^^^ y >>> 1
    rw [BitVec.xor_assoc, BitVec.xor_comm (y >>> 1), BitVec.xor_assoc]
  · exact (hcancel _ _).symm

theorem iterate_step_xor (taps x y : BitVec w) (n : ℕ) :
    (step taps)^[n] (x ^^^ y) = (step taps)^[n] x ^^^ (step taps)^[n] y := by
  induction n generalizing x y with
  | zero => rfl
  | succ n ih => rw [Function.iterate_succ_apply, step_xor, ih]; rfl

/-- A move that leaves nothing started from nothing: a one that fell out would have left the taps
behind, of which the top one can not be cleared. -/
theorem eq_zero_of_step (htop : taps.getLsbD (w - 1) = true) (h : step taps x = 0#w) :
    x = 0#w := by
  have hw : 0 < w := by
    by_contra hzero
    obtain rfl : w = 0 := by omega
    simp at htop
  have hlow : x.getLsbD 0 = false := by
    by_contra hlow
    have hone : x.getLsbD 0 = true := by simpa using hlow
    have hbit := congrArg (·.getLsbD (w - 1)) h
    simp only [step, hone, if_true, BitVec.getLsbD_xor, BitVec.getLsbD_ushiftRight, htop,
      show 1 + (w - 1) = w by omega] at hbit
    simp at hbit
  have hshift : x >>> 1 = 0#w := by simpa [step, hlow] using h
  apply BitVec.eq_of_getLsbD_eq
  intro i hi
  rw [BitVec.getLsbD_zero]
  cases i with
  | zero => exact hlow
  | succ i =>
    have hbit := congrArg (·.getLsbD i) hshift
    simpa [Nat.add_comm 1 i] using hbit

theorem step_injective (htop : taps.getLsbD (w - 1) = true) :
    Function.Injective (step taps) := by
  intro x y h
  apply BitVec.xor_eq_zero_iff.mp
  apply eq_zero_of_step htop
  rw [step_xor, h, BitVec.xor_self]

/-- Zeros at the low end are shifted out before anything else happens. -/
theorem iterate_step_shiftLeft (k : ℕ) (h : Below (w - k) x) :
    (step taps)^[k] (x <<< k) = x := by
  have hmoves : ∀ j ≤ k, (step taps)^[j] (x <<< k) = (x <<< k) >>> j := by
    intro j hj
    induction j with
    | zero => simp
    | succ j ih =>
      have hlow : ((x <<< k) >>> j).getLsbD 0 = false := by
        simp only [BitVec.getLsbD_ushiftRight, BitVec.getLsbD_shiftLeft]
        simp [show j < k by omega]
      rw [Function.iterate_succ_apply', ih (by omega), step, hlow, BitVec.shiftRight_add]
      rfl
  rw [hmoves k (Nat.le_refl k)]
  apply BitVec.eq_of_getLsbD_eq
  intro i hi
  rw [BitVec.getLsbD_ushiftRight, BitVec.getLsbD_shiftLeft]
  by_cases hfits : k + i < w
  · simp [hfits]
  · simp [hfits, h i (by omega)]

end Step

/-! ## Absorbing symbols -/

/-- Absorb one symbol of `k` bits. -/
def feed (taps : BitVec w) (k : ℕ) (x d : BitVec w) : BitVec w := (step taps)^[k] (x ^^^ d)

/-- Absorb symbols one after the other. -/
def absorb (taps : BitVec w) (k : ℕ) (x : BitVec w) (ds : List (BitVec w)) : BitVec w :=
  ds.foldl (feed taps k) x

/-- Symbols next to each other, the first at the low end. -/
def pack (k : ℕ) : List (BitVec w) → BitVec w
  | [] => 0#w
  | d :: ds => d ^^^ (pack k ds <<< k)

section Pack

variable {k : ℕ} {d : BitVec w} {ds : List (BitVec w)}

theorem below_pack (hds : ∀ d ∈ ds, Below k d) : Below (k * ds.length) (pack k ds) := by
  induction ds with
  | nil => simp [Below, pack]
  | cons d ds ih =>
    intro i hi
    rw [List.length_cons, Nat.mul_succ] at hi
    have hd := hds d List.mem_cons_self i (by omega)
    have hrest := ih (fun e he => hds e (List.mem_cons_of_mem d he)) (i - k) (by omega)
    simp [pack, hd, hrest]

/-- Symbols that fit next to each other are all zero if together they are. -/
theorem eq_zero_of_pack (hds : ∀ d ∈ ds, Below k d) (hfits : k * ds.length ≤ w)
    (h : pack k ds = 0#w) : ∀ d ∈ ds, d = 0#w := by
  induction ds with
  | nil => simp
  | cons d ds ih =>
    rw [List.length_cons, Nat.mul_succ] at hfits
    have hrest : ∀ e ∈ ds, Below k e := fun e he => hds e (List.mem_cons_of_mem d he)
    have hbit : ∀ i, d.getLsbD i = (pack k ds <<< k).getLsbD i := by
      intro i
      have hxor := congrArg (·.getLsbD i) h
      simpa [pack] using hxor
    -- The first symbol has the low bits to itself.
    have hd : d = 0#w := by
      apply BitVec.eq_of_getLsbD_eq
      intro i _
      rw [BitVec.getLsbD_zero]
      by_cases hi : i < k
      · rw [hbit i, BitVec.getLsbD_shiftLeft]
        simp [hi]
      · exact hds d List.mem_cons_self i (by omega)
    have hpack : pack k ds = 0#w := by
      apply BitVec.eq_of_getLsbD_eq
      intro i _
      rw [BitVec.getLsbD_zero]
      by_cases hi : i < k * ds.length
      · have hshifted := hbit (k + i)
        rw [hd, BitVec.getLsbD_zero, BitVec.getLsbD_shiftLeft] at hshifted
        simpa [show k + i < w by omega] using hshifted.symm
      · exact below_pack hrest i (by omega)
    intro e he
    rcases List.mem_cons.mp he with rfl | he
    · exact hd
    · exact ih hrest (by omega) hpack e he

end Pack

section Absorb

variable {taps x y : BitVec w} {k : ℕ} {ds es : List (BitVec w)}

theorem absorb_append (taps : BitVec w) (k : ℕ) (x : BitVec w) (ds es : List (BitVec w)) :
    absorb taps k x (ds ++ es) = absorb taps k (absorb taps k x ds) es := List.foldl_append

theorem iterate_step_injective (htop : taps.getLsbD (w - 1) = true) (n : ℕ) :
    Function.Injective (step taps)^[n] := (step_injective htop).iterate n

/-- The same symbols lead to the same state from the same state only. -/
theorem absorb_injective (htop : taps.getLsbD (w - 1) = true) (ds : List (BitVec w)) :
    Function.Injective fun x => absorb taps k x ds := by
  induction ds with
  | nil => exact fun x y h => h
  | cons d ds ih =>
    intro x y h
    have hfed : feed taps k x d = feed taps k y d := ih h
    exact (BitVec.xor_left_inj d).mp (iterate_step_injective htop k hfed)

theorem below_zipWith (hds : ∀ d ∈ ds, Below k d) (hes : ∀ e ∈ es, Below k e) :
    ∀ z ∈ List.zipWith (· ^^^ ·) ds es, Below k z := by
  intro z hz i hi
  obtain ⟨j, hj, rfl⟩ := List.getElem_of_mem hz
  rw [List.getElem_zipWith, BitVec.getLsbD_xor, hds _ (List.getElem_mem _) i hi,
    hes _ (List.getElem_mem _) i hi]
  rfl

/-- States from which two windows lead to one state differ by what the windows differ by. -/
theorem xor_eq_pack (htop : taps.getLsbD (w - 1) = true) (hlength : es.length = ds.length)
    (hds : ∀ d ∈ ds, Below k d) (hes : ∀ e ∈ es, Below k e) (hfits : k * ds.length ≤ w)
    (h : absorb taps k x ds = absorb taps k y es) :
    x ^^^ y = pack k (List.zipWith (· ^^^ ·) ds es) := by
  induction ds generalizing x y es with
  | nil =>
    obtain rfl := List.length_eq_zero_iff.mp hlength
    rw [show x = y from h, BitVec.xor_self]
    rfl
  | cons d ds ih =>
    cases es with
    | nil => simp at hlength
    | cons e es =>
      rw [List.length_cons, Nat.mul_succ] at hfits
      have hlength' : es.length = ds.length := by simpa using hlength
      have hzip : ∀ z ∈ List.zipWith (· ^^^ ·) ds es, Below k z :=
        below_zipWith (fun a ha => hds a (List.mem_cons_of_mem d ha))
          fun a ha => hes a (List.mem_cons_of_mem e ha)
      have hafter : feed taps k x d ^^^ feed taps k y e = pack k (List.zipWith (· ^^^ ·) ds es) :=
        ih hlength' (fun a ha => hds a (List.mem_cons_of_mem d ha))
          (fun a ha => hes a (List.mem_cons_of_mem e ha)) (by omega) h
      -- What the states differ by after the first symbols has room to be moved back up.
      have hroom : Below (w - k) (pack k (List.zipWith (· ^^^ ·) ds es)) := by
        intro i hi
        apply below_pack hzip i
        rw [List.length_zipWith, hlength', Nat.min_self]
        omega
      have hbefore : (x ^^^ d) ^^^ (y ^^^ e) = pack k (List.zipWith (· ^^^ ·) ds es) <<< k := by
        apply iterate_step_injective htop k
        rw [iterate_step_shiftLeft k hroom, ← hafter]
        exact iterate_step_xor taps (x ^^^ d) (y ^^^ e) k
      calc x ^^^ y
          = (x ^^^ d) ^^^ (y ^^^ e) ^^^ (d ^^^ e) := by
            apply BitVec.eq_of_getLsbD_eq
            intro i _
            simp only [BitVec.getLsbD_xor]
            cases x.getLsbD i <;> cases y.getLsbD i <;> cases d.getLsbD i <;>
              cases e.getLsbD i <;> rfl
        _ = pack k (List.zipWith (· ^^^ ·) (d :: ds) (e :: es)) := by
            rw [hbefore, BitVec.xor_comm]
            rfl

/-- Two windows that fit into the register lead from one state to one state only if they are the
same. -/
theorem absorb_window_inj (htop : taps.getLsbD (w - 1) = true) (hlength : es.length = ds.length)
    (hds : ∀ d ∈ ds, Below k d) (hes : ∀ e ∈ es, Below k e) (hfits : k * ds.length ≤ w)
    (h : absorb taps k x ds = absorb taps k x es) : ds = es := by
  have hpack : pack k (List.zipWith (· ^^^ ·) ds es) = 0#w := by
    rw [← xor_eq_pack htop hlength hds hes hfits h, BitVec.xor_self]
  have hzero := eq_zero_of_pack (below_zipWith hds hes)
    (by rwa [List.length_zipWith, hlength, Nat.min_self]) hpack
  apply List.ext_getElem hlength.symm
  intro i hi hi'
  have hzip : i < (List.zipWith (· ^^^ ·) ds es).length := by
    rw [List.length_zipWith]
    omega
  have hmem := List.getElem_mem hzip
  rw [List.getElem_zipWith] at hmem
  exact BitVec.xor_eq_zero_iff.mp (hzero _ hmem)

/-- Two streams that differ in a window no longer than the register lead to different states. -/
theorem absorb_window_ne (htop : taps.getLsbD (w - 1) = true) (before after : List (BitVec w))
    (hlength : es.length = ds.length) (hds : ∀ d ∈ ds, Below k d) (hes : ∀ e ∈ es, Below k e)
    (hfits : k * ds.length ≤ w) (hne : ds ≠ es) :
    absorb taps k x (before ++ (ds ++ after)) ≠ absorb taps k x (before ++ (es ++ after)) := by
  intro h
  rw [absorb_append, absorb_append, absorb_append, absorb_append] at h
  exact hne (absorb_window_inj htop hlength hds hes hfits (absorb_injective htop after h))

end Absorb

end Lfsr
