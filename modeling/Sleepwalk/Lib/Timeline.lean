import Mathlib.Data.List.Pairwise
import Mathlib.Order.Defs.PartialOrder
import Mathlib.Tactic.Common

/-!
# Timelines

* A timeline that is sorted already, with one event added at its end, sorts to itself with the event
  inserted somewhere (`mergeSort_concat`). Nothing is asked of the comparator but that it is
  transitive and total: sorting is stable, so ties do not move the others.
* One timeline goes on from another where some value lies between the two (`pairwise_le_append`).
-/

namespace Timeline

open List

variable {α : Type*}

/-- A list with one element more than one within it is that one with the element inserted. -/
theorem exists_insert_of_sublist {l m : List α} {a : α} (hsub : l <+ m) (hperm : m ~ a :: l) :
    ∃ pre post, l = pre ++ post ∧ m = pre ++ a :: post := by
  induction hsub with
  | slnil => simp at hperm
  | @cons l m x hsub ih =>
    have hlength : l.length = m.length := by simpa using hperm.length_eq.symm
    obtain rfl := hsub.eq_of_length hlength
    -- What is left of both is the same, so the first elements are.
    have hone : [x] ~ [a] := (perm_append_right_iff l).mp hperm
    obtain rfl : x = a := by simpa using hone
    exact ⟨[], l, rfl, rfl⟩
  | @cons_cons l m x hsub ih =>
    have hrest : m ~ a :: l := (hperm.trans (.swap x a l)).cons_inv
    obtain ⟨pre, post, rfl, rfl⟩ := ih hrest
    exact ⟨x :: pre, post, rfl, rfl⟩

/-- Sorting a sorted list with one more element at its end inserts that element. -/
theorem mergeSort_concat {le : α → α → Bool} (htrans : ∀ a b c, le a b → le b c → le a c)
    (htotal : ∀ a b, le a b || le b a) {l : List α} (hsorted : l.Pairwise fun a b => le a b)
    (a : α) : ∃ pre post, l = pre ++ post ∧ (l ++ [a]).mergeSort le = pre ++ a :: post := by
  have hsub : l <+ (l ++ [a]).mergeSort le :=
    sublist_mergeSort htrans htotal hsorted (sublist_append_left l [a])
  have hperm : (l ++ [a]).mergeSort le ~ a :: l :=
    (mergeSort_perm _ le).trans (perm_append_singleton a l)
  exact exists_insert_of_sublist hsub hperm

/-- Sorted lists are sorted one after the other, if some value is at or above the last entry of the
one and at or below every entry of the other. -/
theorem pairwise_le_append [Preorder α] {xs ys : List α} {a : α} (hxs : xs.Pairwise (· ≤ ·))
    (hys : ys.Pairwise (· ≤ ·)) (hlast : ∀ last ∈ xs.getLast?, last ≤ a)
    (hfirst : ∀ y ∈ ys, a ≤ y) : (xs ++ ys).Pairwise (· ≤ ·) := by
  refine pairwise_append.mpr ⟨hxs, hys, fun x hx y hy => ?_⟩
  have hxlast : x ≤ xs.getLast (ne_nil_of_mem hx) := hxs.rel_getLast hx
  have hbelow : xs.getLast (ne_nil_of_mem hx) ≤ a :=
    hlast _ (getLast?_eq_some_getLast (ne_nil_of_mem hx))
  exact le_trans (le_trans hxlast hbelow) (hfirst y hy)

end Timeline
