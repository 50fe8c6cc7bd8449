import Mathlib.Algebra.Group.Int.Defs
import Mathlib.Data.List.Induction
import Mathlib.Data.List.Pairwise
import Mathlib.Order.Lattice
import Mathlib.Tactic.Common
import Sleepwalk.Lib.Timeline
import Sleepwalk.Proto.Messages

/-!
# Clock fix-up across migrations

`guestd::clock`: a guest's clock stands still from snapshot to restore, and a `ClockFixup` maps what
it reads afterwards back onto the true timeline. The arithmetic is that of `i128`, here on
`BitVec 128` with its wrapping sum and difference.

* `ClockFixup.toNat_correct` is the reading of a correction over the integers: the sum of the
  observed time and the offset, cut to `0` and `u64::MAX`.
* A `Life` is a guest that is moved any number of times. Its corrected readings form one timeline
  (`corrected_timeline`).
-/

namespace Sleepwalk.Guestd

open Proto

/-! ## The arithmetic -/

/-- `u64::MAX`. -/
def MAX : UInt64 := .ofNat (2 ^ 64 - 1)

/-- `i128::from`. -/
def i128 (n : UInt64) : BitVec 128 := n.toBitVec.setWidth 128

/-- `i128::clamp`. -/
def clamp (x lo hi : BitVec 128) : BitVec 128 :=
  if x.slt lo then lo else if hi.slt x then hi else x

theorem toInt_i128 (n : UInt64) : (i128 n).toInt = n.toNat := by
  have hlt := n.toNat_lt
  rw [i128, BitVec.toInt_setWidth, UInt64.toNat_toBitVec]
  exact Int.bmod_eq_of_le (by omega) (by omega)

theorem toInt_clamp {x lo hi : BitVec 128} (h : lo.toInt ≤ hi.toInt) :
    (clamp x lo hi).toInt = max lo.toInt (min x.toInt hi.toInt) := by
  simp only [clamp, BitVec.slt, decide_eq_true_eq]
  split_ifs <;> omega

/-- Two readings are less than `2 ^ 64` apart. -/
theorem ssubOverflow_i128 (a g : UInt64) : (i128 a).ssubOverflow (i128 g) = false := by
  have ha := a.toNat_lt
  have hg := g.toNat_lt
  simp only [BitVec.ssubOverflow, toInt_i128, Bool.or_eq_false_iff, decide_eq_false_iff_not]
  omega

theorem toInt_sub_i128 (a g : UInt64) : (i128 a - i128 g).toInt = a.toNat - g.toNat := by
  rw [BitVec.toInt_sub_of_not_ssubOverflow (by simp [ssubOverflow_i128]), toInt_i128, toInt_i128]

/-! ## The fix-up -/

/-- A signed correction. Its offset is the difference of two readings of a `u64` clock, or none. -/
structure ClockFixup where
  /-- The offset to add to a reading, in nanoseconds. -/
  offsetNanos : BitVec 128
  /-- An offset of this size can be added to any reading. -/
  bounded : -2 ^ 64 < offsetNanos.toInt ∧ offsetNanos.toInt < 2 ^ 64

namespace ClockFixup

/-- The correction from the guest's reading at resume and the authoritative one for that instant. -/
def between (guestAtResume authoritative : Timestamp) : ClockFixup where
  offsetNanos := i128 authoritative.nanos - i128 guestAtResume.nanos
  bounded := by
    have ha := authoritative.nanos.toNat_lt
    have hg := guestAtResume.nanos.toNat_lt
    rw [toInt_sub_i128]
    omega

/-- No correction. -/
def none : ClockFixup where
  offsetNanos := 0
  bounded := by decide

/-- Map a reading back onto the true timeline, cut to the bounds of `u64`. -/
def correct (f : ClockFixup) (observed : Timestamp) : Timestamp :=
  let corrected := i128 observed.nanos + f.offsetNanos
  let clamped := clamp corrected 0 (i128 MAX)
  ⟨.ofBitVec (clamped.setWidth 64)⟩

variable {f : ClockFixup} {r r' : Timestamp}

theorem saddOverflow_offset (f : ClockFixup) (r : Timestamp) :
    (i128 r.nanos).saddOverflow f.offsetNanos = false := by
  have hr := r.nanos.toNat_lt
  have hbounded := f.bounded
  simp only [BitVec.saddOverflow, toInt_i128, Bool.or_eq_false_iff, decide_eq_false_iff_not]
  omega

/-- Over the integers a correction adds the offset, and cuts what leaves `u64`. -/
theorem toNat_correct (f : ClockFixup) (r : Timestamp) :
    ((f.correct r).nanos.toNat : ℤ) =
      max 0 (min (r.nanos.toNat + f.offsetNanos.toInt) (2 ^ 64 - 1)) := by
  have hmax : (i128 MAX).toInt = 2 ^ 64 - 1 := by decide
  have hzero : (0 : BitVec 128).toInt = 0 := by decide
  have hclamp : (clamp (i128 r.nanos + f.offsetNanos) 0 (i128 MAX)).toInt =
      max 0 (min (r.nanos.toNat + f.offsetNanos.toInt) (2 ^ 64 - 1)) := by
    rw [toInt_clamp (by rw [hzero, hmax]; decide), hzero, hmax,
      BitVec.toInt_add_of_not_saddOverflow (by simp [saddOverflow_offset]), toInt_i128]
  -- What is clamped fits, so nothing is lost when it is cut to 64 bits.
  have hfits : (f.correct r).nanos.toNat =
      (clamp (i128 r.nanos + f.offsetNanos) 0 (i128 MAX)).toNat % 2 ^ 64 := rfl
  generalize clamp (i128 r.nanos + f.offsetNanos) 0 (i128 MAX) = c at hclamp hfits
  rw [BitVec.toInt_eq_toNat_cond] at hclamp
  split_ifs at hclamp <;> omega

/-- The sum leaves the range of a timestamp. -/
def Clamps (f : ClockFixup) (r : Timestamp) : Prop :=
  (r.nanos.toNat : ℤ) + f.offsetNanos.toInt < 0 ∨
    2 ^ 64 - 1 < (r.nanos.toNat : ℤ) + f.offsetNanos.toInt

/-- Between readings that are not clamped no time is lost or gained. -/
theorem correct_sub_correct (hr : ¬ f.Clamps r) (hr' : ¬ f.Clamps r') :
    ((f.correct r').nanos.toNat : ℤ) - (f.correct r).nanos.toNat =
      r'.nanos.toNat - r.nanos.toNat := by
  rw [toNat_correct, toNat_correct]
  simp only [Clamps] at hr hr'
  omega

end ClockFixup

/-! ## The order of readings -/

instance : Preorder Timestamp := .lift fun t => t.nanos.toNat

instance : DecidableLE Timestamp := fun t t' =>
  inferInstanceAs (Decidable (t.nanos.toNat ≤ t'.nanos.toNat))

namespace ClockFixup

variable {f : ClockFixup} {r r' resume authoritative : Timestamp}

theorem correct_mono (h : r ≤ r') : f.correct r ≤ f.correct r' := by
  have hnanos : r.nanos.toNat ≤ r'.nanos.toNat := h
  have hcorrect := toNat_correct f r
  have hcorrect' := toNat_correct f r'
  show (f.correct r).nanos.toNat ≤ (f.correct r').nanos.toNat
  omega

/-- At the resume the corrected reading is the authoritative one. -/
theorem correct_resume (resume authoritative : Timestamp) :
    (between resume authoritative).correct resume = authoritative := by
  have hcorrect := toNat_correct (between resume authoritative) resume
  have hlt := authoritative.nanos.toNat_lt
  have hoffset : (between resume authoritative).offsetNanos.toInt =
      authoritative.nanos.toNat - resume.nanos.toNat := toInt_sub_i128 _ _
  rw [hoffset] at hcorrect
  have hnanos : ((between resume authoritative).correct resume).nanos = authoritative.nanos := by
    rw [← UInt64.toNat_inj]
    omega
  exact congrArg Timestamp.mk hnanos

/-- Nothing read after the resume is corrected to before it. -/
theorem authoritative_le_correct (h : resume ≤ r) :
    authoritative ≤ (between resume authoritative).correct r := by
  have hmono : (between resume authoritative).correct resume ≤
      (between resume authoritative).correct r := correct_mono h
  rwa [correct_resume] at hmono

end ClockFixup

/-! ## A guest that is moved -/

/-- What a guest reads from one restore to the next. -/
structure Segment where
  /-- Its own clock at the resume. -/
  resume : Timestamp
  /-- The authoritative clock at that instant. -/
  authoritative : Timestamp
  /-- The readings that follow. -/
  readings : List Timestamp
  sorted : readings.Pairwise (· ≤ ·)
  resumed : ∀ r ∈ readings, resume ≤ r

namespace Segment

/-- The fix-up of a restore. -/
def fixup (s : Segment) : ClockFixup := .between s.resume s.authoritative

/-- The readings on the true timeline. -/
def corrected (s : Segment) : List Timestamp := s.readings.map s.fixup.correct

theorem pairwise_corrected (s : Segment) : s.corrected.Pairwise (· ≤ ·) :=
  s.sorted.map s.fixup.correct fun _ _ => ClockFixup.correct_mono

theorem authoritative_le (s : Segment) : ∀ t ∈ s.corrected, s.authoritative ≤ t := by
  intro t ht
  obtain ⟨r, hr, rfl⟩ := List.mem_map.mp ht
  exact ClockFixup.authoritative_le_correct (s.resumed r hr)

end Segment

/-- A guest's readings over its whole life. -/
structure Life where
  /-- The readings before it is first moved. -/
  boot : List Timestamp
  sorted : boot.Pairwise (· ≤ ·)
  /-- Those after each restore. -/
  moves : List Segment

namespace Life

/-- The corrected readings up to the restore `i`. -/
def timeline (l : Life) (i : ℕ) : List Timestamp :=
  l.boot.map ClockFixup.none.correct ++ (l.moves.take i).flatMap Segment.corrected

/-- The readings with the fix-up that each of them goes through. -/
def segments (l : Life) : List (ClockFixup × List Timestamp) :=
  (.none, l.boot) :: l.moves.map fun s => (s.fixup, s.readings)

/-- At each restore the authoritative clock is not behind the last corrected reading before it,
which is that of the segment before if it has any. -/
def KeepsUp (l : Life) : Prop :=
  ∀ i (hi : i < l.moves.length), ∀ last ∈ (l.timeline i).getLast?, last ≤ l.moves[i].authoritative

instance (l : Life) : Decidable l.KeepsUp := by
  unfold KeepsUp
  infer_instance

variable {l : Life}

/-- One restore more extends the timeline by the readings that follow it. -/
theorem timeline_succ {i : ℕ} (hi : i < l.moves.length) :
    l.timeline (i + 1) = l.timeline i ++ l.moves[i].corrected := by
  have htake : l.moves.take (i + 1) = l.moves.take i ++ [l.moves[i]] := by
    rw [List.take_add_one, List.getElem?_eq_getElem hi, Option.toList_some]
  rw [timeline, timeline, htake, List.flatMap_append, List.flatMap_singleton, List.append_assoc]

theorem pairwise_timeline (h : l.KeepsUp) {i : ℕ} (hi : i ≤ l.moves.length) :
    (l.timeline i).Pairwise (· ≤ ·) := by
  induction i with
  | zero =>
    have hboot : l.timeline 0 = l.boot.map ClockFixup.none.correct := by simp [timeline]
    rw [hboot]
    exact l.sorted.map _ fun _ _ => ClockFixup.correct_mono
  | succ i ih =>
    -- The authoritative reading lies between what comes before it and what follows it.
    rw [timeline_succ hi]
    exact Timeline.pairwise_le_append (ih (by omega)) (l.moves[i].pairwise_corrected) (h i hi)
      (l.moves[i].authoritative_le)

end Life

/-- Over any number of moves the corrected readings form one timeline: they never go back, each
resume is corrected to the authoritative clock, within a segment no time is lost or gained but where
a result is clamped, and no `i128` operation overflows. -/
theorem corrected_timeline (l : Life) (h : l.KeepsUp) :
    (l.timeline l.moves.length).Pairwise (· ≤ ·) ∧
      (∀ s ∈ l.moves, s.fixup.correct s.resume = s.authoritative) ∧
      (∀ f readings, (f, readings) ∈ l.segments →
        (∀ r ∈ readings, ∀ r' ∈ readings, ¬ f.Clamps r → ¬ f.Clamps r' →
          ((f.correct r').nanos.toNat : ℤ) - (f.correct r).nanos.toNat =
            r'.nanos.toNat - r.nanos.toNat) ∧
        ∀ r ∈ readings, (i128 r.nanos).saddOverflow f.offsetNanos = false) ∧
      ∀ s ∈ l.moves, (i128 s.authoritative.nanos).ssubOverflow (i128 s.resume.nanos) = false := by
  refine ⟨Life.pairwise_timeline h le_rfl, ?_, ?_, ?_⟩
  · intro s _
    exact ClockFixup.correct_resume s.resume s.authoritative
  · intro f readings _
    refine ⟨?_, fun r _ => ClockFixup.saddOverflow_offset f r⟩
    intro r _ r' _ hr hr'
    exact ClockFixup.correct_sub_correct hr hr'
  · intro s _
    exact ssubOverflow_i128 s.authoritative.nanos s.resume.nanos

/-- A guest that is moved twice, once by a clock that is about to run out. -/
def movedTwice : Life where
  boot := [⟨1000⟩, ⟨1400⟩]
  sorted := by decide
  moves := [
    { resume := ⟨1000⟩, authoritative := ⟨1500⟩, readings := [⟨1100⟩], sorted := by decide,
      resumed := by decide },
    { resume := ⟨1100⟩, authoritative := ⟨MAX - 50⟩, readings := [⟨1100⟩, ⟨1200⟩],
      sorted := by decide, resumed := by decide }]

theorem corrected_timeline_moved_twice :
    movedTwice.KeepsUp ∧ (movedTwice.timeline 2).Pairwise (· ≤ ·) ∧
      movedTwice.timeline 2 = [⟨1000⟩, ⟨1400⟩, ⟨1600⟩, ⟨MAX - 50⟩, ⟨MAX⟩] := by
  have hkeeps : movedTwice.KeepsUp := by decide
  exact ⟨hkeeps, (corrected_timeline movedTwice hkeeps).1, by decide⟩

end Sleepwalk.Guestd
