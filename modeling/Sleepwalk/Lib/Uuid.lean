import Mathlib.Algebra.Group.Nat.Defs
import Mathlib.Data.List.Basic
import Mathlib.Data.Nat.Notation

/-!
# UUIDs as text

The 32 hexadecimal digits of 128 bits, in groups that hyphens separate. The bits are read back from
the digits wherever the hyphens stand (`parse_text`).
-/

namespace Uuid

/-- A hexadecimal digit. -/
def digit (d : ℕ) : Char := if d < 10 then .ofNat (48 + d) else .ofNat (87 + d)

/-- The value of a hexadecimal digit. -/
def value (c : Char) : ℕ := if c.toNat < 58 then c.toNat - 48 else c.toNat - 87

/-- The last `k` hexadecimal digits of a number. -/
def digits : ℕ → ℕ → List ℕ
  | 0, _ => []
  | k + 1, n => digits k (n / 16) ++ [n % 16]

/-- Put hyphens between groups of these lengths and the rest. -/
def hyphenate : List ℕ → List Char → List Char
  | [], cs => cs
  | n :: ns, cs => cs.take n ++ '-' :: hyphenate ns (cs.drop n)

/-- The text of a UUID. -/
def text (id : BitVec 128) : String :=
  .ofList (hyphenate [8, 4, 4, 4] ((digits 32 id.toNat).map digit))

/-- The bits that a text of hexadecimal digits and hyphens stands for. -/
def parse (s : String) : Option (BitVec 128) :=
  let cs := s.toList.filter (· ≠ '-')
  if cs.length = 32 ∧ cs.all (fun c => digit (value c) == c) then
    some (.ofNat 128 (cs.foldl (fun n c => n * 16 + value c) 0))
  else none

theorem value_digit {d : ℕ} (h : d < 16) : value (digit d) = d := by
  revert d
  decide

theorem digit_ne_hyphen {d : ℕ} (h : d < 16) : digit d ≠ '-' := by
  revert d
  decide

theorem length_digits (k n : ℕ) : (digits k n).length = k := by
  induction k generalizing n with
  | zero => rfl
  | succ k ih => rw [digits, List.length_append, ih, List.length_singleton]

theorem digits_lt {k n d : ℕ} (h : d ∈ digits k n) : d < 16 := by
  induction k generalizing n with
  | zero => cases h
  | succ k ih =>
    rcases List.mem_append.mp h with h | h
    · exact ih h
    · rw [List.mem_singleton.mp h]
      exact Nat.mod_lt _ (by decide)

/-- The digits of a number add up to what their places can hold of it. -/
theorem foldl_digits (k n : ℕ) : (digits k n).foldl (fun n d => n * 16 + d) 0 = n % 16 ^ k := by
  induction k generalizing n with
  | zero => simp [digits, Nat.mod_one]
  | succ k ih =>
    rw [digits, List.foldl_append, ih, List.foldl_cons, List.foldl_nil, Nat.pow_succ,
      Nat.mul_comm (16 ^ k), Nat.mod_mul]
    omega

theorem filter_hyphenate (ns : List ℕ) {cs : List Char} (h : '-' ∉ cs) :
    (hyphenate ns cs).filter (· ≠ '-') = cs := by
  induction ns generalizing cs with
  | nil =>
    refine List.filter_eq_self.mpr fun c hc => ?_
    have hne : c ≠ '-' := by
      rintro rfl
      exact h hc
    simpa using hne
  | cons n ns ih =>
    have htake : '-' ∉ cs.take n := fun hmem => h (List.mem_of_mem_take hmem)
    have hdrop : '-' ∉ cs.drop n := fun hmem => h (List.mem_of_mem_drop hmem)
    have hkept : (cs.take n).filter (· ≠ '-') = cs.take n := by
      refine List.filter_eq_self.mpr fun c hc => ?_
      have hne : c ≠ '-' := by
        rintro rfl
        exact htake hc
      simpa using hne
    rw [hyphenate, List.filter_append, hkept, List.filter_cons_of_neg (by simp), ih hdrop,
      List.take_append_drop]

/-- A UUID is read back from its text. -/
theorem parse_text (id : BitVec 128) : parse (text id) = some id := by
  have hyphenless : '-' ∉ (digits 32 id.toNat).map digit := by
    intro hmem
    obtain ⟨d, hd, heq⟩ := List.mem_map.mp hmem
    exact digit_ne_hyphen (digits_lt hd) heq
  have hcs : (text id).toList.filter (· ≠ '-') = (digits 32 id.toNat).map digit := by
    rw [text, String.toList_ofList, filter_hyphenate _ hyphenless]
  have hdigits : ((digits 32 id.toNat).map digit).all (fun c => digit (value c) == c) := by
    rw [List.all_eq_true]
    intro c hc
    obtain ⟨d, hd, rfl⟩ := List.mem_map.mp hc
    rw [value_digit (digits_lt hd)]
    exact beq_self_eq_true _
  have hfold : ((digits 32 id.toNat).map digit).foldl (fun n c => n * 16 + value c) 0
      = id.toNat := by
    have hvalues : ∀ (ds : List ℕ) (start : ℕ), (∀ d ∈ ds, d < 16) →
        (ds.map digit).foldl (fun n c => n * 16 + value c) start
          = ds.foldl (fun n d => n * 16 + d) start := by
      intro ds
      induction ds with
      | nil => exact fun _ _ => rfl
      | cons d ds ih =>
        intro start hds
        rw [List.map_cons, List.foldl_cons, List.foldl_cons, value_digit (hds d (by simp))]
        exact ih _ fun d' hd' => hds d' (List.mem_cons_of_mem _ hd')
    rw [hvalues _ 0 fun d hd => digits_lt hd, foldl_digits]
    exact Nat.mod_eq_of_lt (by simpa using id.isLt)
  simp only [parse, hcs]
  rw [if_pos ⟨by rw [List.length_map, length_digits], hdigits⟩, hfold, BitVec.ofNat_toNat]
  simp

/-- The text of a UUID is digits and hyphens. -/
theorem mem_text {id : BitVec 128} {c : Char} (h : c ∈ (text id).toList) :
    c = '-' ∨ ∃ d < 16, c = digit d := by
  have hmem : ∀ (ns : List ℕ) (cs : List Char), c ∈ hyphenate ns cs → c = '-' ∨ c ∈ cs := by
    intro ns
    induction ns with
    | nil => exact fun cs h => .inr h
    | cons n ns ih =>
      intro cs h
      rw [hyphenate, List.mem_append, List.mem_cons] at h
      rcases h with h | h | h
      · exact .inr (List.mem_of_mem_take h)
      · exact .inl h
      · exact (ih _ h).imp_right List.mem_of_mem_drop
  rw [text, String.toList_ofList] at h
  refine (hmem _ _ h).imp_right fun h => ?_
  obtain ⟨d, hd, rfl⟩ := List.mem_map.mp h
  exact ⟨d, digits_lt hd, rfl⟩

end Uuid
