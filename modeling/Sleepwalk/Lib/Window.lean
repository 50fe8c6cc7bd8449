import Mathlib.Data.List.DropRight
import Mathlib.Data.List.Induction
import Mathlib.Tactic.Common

/-!
# Sliding windows

A window over the most recent `n` entries of a stream of arbitrary type, as a queue that drops its
oldest entry when it is full and a new one arrives. `slide_eq_rtake` is the declarative reading:
the window holds the last `n` entries of the stream, or all of them while there are fewer.

A window of size `0` is full only while it is empty. It drops nothing and then grows without bound
(`slide_zero`).
-/

namespace Window

variable {α : Type*} {n : ℕ} {w xs : List α}

/-- Take in one more entry, dropping the oldest one from a full window. -/
def push (n : ℕ) (w : List α) (x : α) : List α := (if w.length = n then w.tail else w) ++ [x]

/-- The window after a whole stream. -/
def slide (n : ℕ) (xs : List α) : List α := xs.foldl (push n) []

theorem slide_append_singleton (x : α) : slide n (xs ++ [x]) = push n (slide n xs) x := by
  simp [slide]

/-- The window holds the most recent entries of the stream. -/
theorem slide_eq_rtake (hn : 0 < n) (xs : List α) : slide n xs = xs.rtake n := by
  unfold List.rtake
  induction xs using List.reverseRecOn with
  | nil => simp [slide]
  | append_singleton xs x ih =>
    rw [slide_append_singleton, ih, push, List.length_drop, List.tail_drop]
    -- The window is full once the stream has `n` entries, and from then on moves by one.
    by_cases hfull : n ≤ xs.length
    · rw [if_pos (by omega), List.length_append, List.length_singleton,
        List.drop_append_of_le_length (by omega)]
      congr 2
      omega
    · rw [if_neg (by omega), List.length_append, List.length_singleton,
        show xs.length - n = 0 by omega, show xs.length + 1 - n = 0 by omega]
      rfl

/-- A window of size `0` keeps the whole stream. -/
theorem slide_zero (xs : List α) : slide 0 xs = xs := by
  induction xs using List.reverseRecOn with
  | nil => rfl
  | append_singleton xs x ih =>
    rw [slide_append_singleton, ih, push]
    split
    case isTrue hempty =>
      -- It is full while it is empty, and then there is nothing to drop.
      obtain rfl := List.length_eq_zero_iff.mp hempty
      rfl
    case isFalse => rfl

/-- The window is full exactly when the stream is long enough. -/
theorem length_slide_eq_iff (hn : 0 < n) : (slide n xs).length = n ↔ n ≤ xs.length := by
  rw [slide_eq_rtake hn, List.rtake, List.length_drop]
  omega

end Window
