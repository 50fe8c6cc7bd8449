import Mathlib

/-!
# Greatest and least elements by a comparator

`Iterator::max_by` and `Iterator::min_by` over a list. Under a comparator that is a total order on
the elements, which of several equal ones the scan keeps makes no difference, and each result is
characterized by its place in the order (`maxBy_eq_some_iff`, `minBy_eq_some_iff`).

Ordering by a key and then by the element picks the least of the elements whose key is extremal
(`isLeast_maximal_iff`, `isLeast_minimal_iff`).
-/

namespace Extremum

variable {α : Type}

/-- The last of the greatest elements. -/
def maxBy (cmp : α → α → Ordering) : List α → Option α
  | [] => none
  | x :: xs => some (xs.foldl (fun best y => if cmp best y = .gt then best else y) x)

/-- The first of the least elements. -/
def minBy (cmp : α → α → Ordering) : List α → Option α
  | [] => none
  | x :: xs => some (xs.foldl (fun best y => if cmp best y = .gt then y else best) x)

variable {cmp : α → α → Ordering} {l : List α} {m : α}

theorem isLE_compare_iff {β : Type} [LinearOrder β] {a b : β} : (compare a b).isLE ↔ a ≤ b := by
  rw [← Ordering.ne_gt_iff_isLE]
  exact compare_le_iff_le

theorem maxBy_eq_none_iff : maxBy cmp l = none ↔ l = [] := by
  cases l <;> simp [maxBy]

theorem minBy_eq_none_iff : minBy cmp l = none ↔ l = [] := by
  cases l <;> simp [minBy]

/-- A scan that keeps one of two elements at a time, never a worse one than either, ends at an
element it met that is no worse than any it met. -/
theorem foldl_best {R : α → α → Prop} (hrefl : ∀ x, R x x)
    (htrans : ∀ {x y z}, R x y → R y z → R x z) {step : α → α → α}
    (hstep : ∀ x y, (step x y = x ∨ step x y = y) ∧ R x (step x y) ∧ R y (step x y))
    (best : α) (xs : List α) :
    xs.foldl step best ∈ best :: xs ∧ ∀ x ∈ best :: xs, R x (xs.foldl step best) := by
  induction xs generalizing best with
  | nil => simpa using hrefl best
  | cons y ys ih =>
    obtain ⟨hmem, hbest⟩ := ih (step best y)
    obtain ⟨hkeeps, hleft, hright⟩ := hstep best y
    -- The rest is scanned from the one kept, and what comes of that is no worse than it.
    have hkept := hbest _ List.mem_cons_self
    constructor
    · rw [List.foldl_cons]
      rcases List.mem_cons.mp hmem with hm | hm
      · rw [hm]
        rcases hkeeps with h | h <;> simp [h]
      · exact List.mem_cons_of_mem _ (List.mem_cons_of_mem _ hm)
    · intro x hx
      rw [List.foldl_cons]
      rcases List.mem_cons.mp hx with rfl | hx
      · exact htrans hleft hkept
      rcases List.mem_cons.mp hx with rfl | hx
      · exact htrans hright hkept
      · exact hbest x (List.mem_cons_of_mem _ hx)

theorem isLE_of_ne_gt {x y : α} (h : cmp x y ≠ .gt) : (cmp x y).isLE := by
  cases hxy : cmp x y <;> simp_all

section Transitive

variable [Std.TransCmp cmp]

theorem isLE_of_gt {x y : α} (h : cmp x y = .gt) : (cmp y x).isLE := by
  have hswap : cmp y x = (cmp x y).swap := Std.OrientedCmp.eq_swap
  rw [hswap, h]
  rfl

/-- What `maxBy` returns is in the list and not less than any element. -/
theorem maxBy_spec (h : maxBy cmp l = some m) : m ∈ l ∧ ∀ x ∈ l, (cmp x m).isLE := by
  cases l with
  | nil => cases h
  | cons x xs =>
    obtain rfl := Option.some_inj.mp h
    refine foldl_best (R := fun x y => (cmp x y).isLE) (fun x => Std.ReflCmp.isLE_rfl)
      Std.TransCmp.isLE_trans (fun x y => ?_) x xs
    split
    case isTrue hgt => exact ⟨Or.inl rfl, Std.ReflCmp.isLE_rfl, isLE_of_gt hgt⟩
    case isFalse hle => exact ⟨Or.inr rfl, isLE_of_ne_gt hle, Std.ReflCmp.isLE_rfl⟩

/-- What `minBy` returns is in the list and not greater than any element. -/
theorem minBy_spec (h : minBy cmp l = some m) : m ∈ l ∧ ∀ x ∈ l, (cmp m x).isLE := by
  cases l with
  | nil => cases h
  | cons x xs =>
    obtain rfl := Option.some_inj.mp h
    refine foldl_best (R := fun x y => (cmp y x).isLE) (fun x => Std.ReflCmp.isLE_rfl)
      (fun hxy hyz => Std.TransCmp.isLE_trans hyz hxy) (fun x y => ?_) x xs
    split
    case isTrue hgt => exact ⟨Or.inr rfl, isLE_of_gt hgt, Std.ReflCmp.isLE_rfl⟩
    case isFalse hle => exact ⟨Or.inl rfl, Std.ReflCmp.isLE_rfl, isLE_of_ne_gt hle⟩

variable [Std.LawfulEqCmp cmp]

/-- Two elements each not greater than the other are equal. -/
theorem eq_of_isLE {x y : α} (hxy : (cmp x y).isLE) (hyx : (cmp y x).isLE) : x = y :=
  Std.LawfulEqCmp.eq_of_compare (Std.OrientedCmp.isLE_antisymm hxy hyx)

theorem maxBy_eq_some_iff : maxBy cmp l = some m ↔ m ∈ l ∧ ∀ x ∈ l, (cmp x m).isLE := by
  refine ⟨maxBy_spec, fun ⟨hmem, hmax⟩ => ?_⟩
  cases h : maxBy cmp l with
  | none =>
    rw [maxBy_eq_none_iff.mp h] at hmem
    cases hmem
  | some m' =>
    obtain ⟨hmem', hmax'⟩ := maxBy_spec h
    rw [eq_of_isLE (hmax m' hmem') (hmax' m hmem)]

theorem minBy_eq_some_iff : minBy cmp l = some m ↔ m ∈ l ∧ ∀ x ∈ l, (cmp m x).isLE := by
  refine ⟨minBy_spec, fun ⟨hmem, hmin⟩ => ?_⟩
  cases h : minBy cmp l with
  | none =>
    rw [minBy_eq_none_iff.mp h] at hmem
    cases hmem
  | some m' =>
    obtain ⟨hmem', hmin'⟩ := minBy_spec h
    rw [eq_of_isLE (hmin' m hmem) (hmin m' hmem')]

end Transitive

/-! ## Ties -/

section Ties

variable {β : Type} [LinearOrder α] [LinearOrder β] {s : Set α} {key : α → β}

/-- The least element of greatest key: every other one has a lower key, or the same and is
greater. -/
theorem isLeast_maximal_iff (s : Set α) (key : α → β) :
    IsLeast {x | x ∈ s ∧ ∀ y ∈ s, key y ≤ key x} m ↔
      m ∈ s ∧ ∀ y ∈ s, key y < key m ∨ key y = key m ∧ m ≤ y := by
  constructor
  · rintro ⟨⟨hmem, hmax⟩, hleast⟩
    refine ⟨hmem, fun y hy => ?_⟩
    rcases (hmax y hy).lt_or_eq with hlt | heq
    · exact Or.inl hlt
    -- An element of the same key is a greatest one as well.
    · exact Or.inr ⟨heq, hleast ⟨hy, fun z hz => heq ▸ hmax z hz⟩⟩
  · rintro ⟨hmem, hbest⟩
    have hmax : ∀ y ∈ s, key y ≤ key m := by
      intro y hy
      rcases hbest y hy with hlt | ⟨heq, -⟩
      · exact hlt.le
      · exact heq.le
    refine ⟨⟨hmem, hmax⟩, ?_⟩
    rintro y ⟨hy, hymax⟩
    rcases hbest y hy with hlt | ⟨-, hle⟩
    · exact absurd (hymax m hmem) (not_le.mpr hlt)
    · exact hle

/-- The least element of least key. -/
theorem isLeast_minimal_iff :
    IsLeast {x | x ∈ s ∧ ∀ y ∈ s, key x ≤ key y} m ↔
      m ∈ s ∧ ∀ y ∈ s, key m < key y ∨ key m = key y ∧ m ≤ y := by
  have h := isLeast_maximal_iff s (OrderDual.toDual ∘ key) (m := m)
  simpa [eq_comm] using h

end Ties

end Extremum
