import Mathlib.Algebra.Order.Group.Unbundled.Int
import Mathlib.Data.List.Chain
import Mathlib.Tactic.Ring
import Sleepwalk.Lib.Text

/-!
# CPU/TSC compatibility classes

`CompatClass` of `proto::compat`, and what its `compatibleWith` and `label` are worth: the relation
compares three of its axes exactly and the fourth, the TSC frequency, within a tolerance, and the
label rounds that frequency down to whole megahertz.
-/

namespace Sleepwalk.Proto

/-- Firecracker rescales the guest TSC only past this tolerance, in parts per million. -/
def TSC_TOLERANCE_PPM : UInt64 := 250

/-- The CPU/host axes that decide whether a snapshot taken on one host can be restored on
another. -/
structure CompatClass where
  /-- CPU vendor string. -/
  vendor : String
  /-- CPU model name. -/
  model : String
  /-- Measured TSC frequency in kHz. -/
  tscKhz : UInt32
  /-- Host kernel release. -/
  kernel : String
deriving DecidableEq, Repr

/-- `u64::saturating_mul`. -/
def saturatingMul (a b : UInt64) : UInt64 := .ofNat (min (a.toNat * b.toNat) (2 ^ 64 - 1))

/-- True if two TSC frequencies are within `TSC_TOLERANCE_PPM` of each other. -/
def tscWithinTolerance (a b : UInt32) : Bool :=
  let (hi, lo) := if a ≥ b then (a, b) else (b, a)
  let diff := (hi - lo).toUInt64
  saturatingMul diff 1000000 ≤ saturatingMul hi.toUInt64 TSC_TOLERANCE_PPM

/-- The major.minor of a kernel release string; the rest is ignored. -/
def kernelTier (release : String) : String :=
  match release.toList.splitOn '.' with
  | major :: minor :: _ =>
    -- The minor may carry a suffix; keep the leading digits.
    .ofList major ++ "." ++ .ofList (minor.takeWhile Char.isDigit)
  | [major] => .ofList major
  | [] => release

namespace CompatClass

/-- Whether a snapshot taken on `self` can be restored on `other`. -/
def compatibleWith (self other : CompatClass) : Bool :=
  self.vendor == other.vendor &&
    self.model == other.model &&
    kernelTier self.kernel == kernelTier other.kernel &&
    tscWithinTolerance self.tscKhz other.tscKhz

/-- A short, human-facing label for dashboards and logs. -/
def label (c : CompatClass) : String :=
  c.vendor ++ "/" ++ c.model ++ "/" ++ toString (c.tscKhz / 1000) ++ "MHz/" ++
    kernelTier c.kernel

end CompatClass

example : CompatClass.label ⟨"GenuineIntel", "DO-Premium-Intel", 1995309, "6.1.155"⟩ =
    "GenuineIntel/DO-Premium-Intel/1995MHz/6.1" := by decide +kernel

/-! ## The tolerance on frequencies -/

section Tolerance

variable {a b c : UInt32}

theorem toNat_saturatingMul {a b : UInt64} (h : a.toNat * b.toNat < 2 ^ 64) :
    (saturatingMul a b).toNat = a.toNat * b.toNat := by
  rw [saturatingMul, UInt64.toNat_ofNat']
  omega

/-- No product of the check can overflow: a `u32` times a million, or times the tolerance, fits a
`u64`. -/
theorem toNat_saturatingMul_million (x : UInt32) :
    (saturatingMul x.toUInt64 1000000).toNat = x.toNat * 1000000 ∧
      (saturatingMul x.toUInt64 TSC_TOLERANCE_PPM).toNat = x.toNat * 250 := by
  have hx := x.toNat_lt
  have hmillion : (1000000 : UInt64).toNat = 1000000 := rfl
  have hppm : TSC_TOLERANCE_PPM.toNat = 250 := rfl
  rw [toNat_saturatingMul, toNat_saturatingMul, UInt32.toNat_toUInt64, hmillion, hppm]
  · exact ⟨rfl, rfl⟩
  · rw [UInt32.toNat_toUInt64, hppm]
    omega
  · rw [UInt32.toNat_toUInt64, hmillion]
    omega

/-- Neither product saturates, so the check compares the exact ratio: the smaller frequency is at
least 999750 millionths of the larger. -/
theorem tscWithinTolerance_iff : tscWithinTolerance a b = true ↔
    a.toNat * 999750 ≤ b.toNat * 1000000 ∧ b.toNat * 999750 ≤ a.toNat * 1000000 := by
  have hproducts : ∀ hi lo : UInt32, lo ≤ hi →
      (saturatingMul (hi - lo).toUInt64 1000000 ≤ saturatingMul hi.toUInt64 TSC_TOLERANCE_PPM ↔
        (hi.toNat - lo.toNat) * 1000000 ≤ hi.toNat * 250) := by
    intro hi lo hle
    rw [UInt64.le_iff_toNat_le, (toNat_saturatingMul_million _).1,
      (toNat_saturatingMul_million _).2, UInt32.toNat_sub_of_le _ _ hle]
  unfold tscWithinTolerance
  -- Whichever is larger, the other conjunct holds by the order alone.
  by_cases h : b ≤ a
  · have hle := UInt32.le_iff_toNat_le.mp h
    simp only [ge_iff_le, h, if_true, decide_eq_true_eq, hproducts a b h]
    omega
  · have hle := UInt32.le_iff_toNat_le.mp (UInt32.le_of_lt (UInt32.not_le.mp h))
    simp only [ge_iff_le, h, if_false, decide_eq_true_eq,
      hproducts b a (UInt32.le_of_lt (UInt32.not_le.mp h))]
    omega

/-- The deviation is at most the tolerance, relative to the larger of the two frequencies. -/
theorem tscWithinTolerance_iff_abs : tscWithinTolerance a b = true ↔
    |(a.toNat : ℤ) - b.toNat| * 1000000 ≤ 250 * max a.toNat b.toNat := by
  rw [tscWithinTolerance_iff]
  rcases le_total a.toNat b.toNat with hle | hle
  · rw [max_eq_right hle, abs_of_nonpos (by omega)]
    omega
  · rw [max_eq_left hle, abs_of_nonneg (by omega)]
    omega

theorem tscWithinTolerance_refl (a : UInt32) : tscWithinTolerance a a = true := by
  rw [tscWithinTolerance_iff]
  omega

theorem tscWithinTolerance_comm (a b : UInt32) :
    tscWithinTolerance a b = tscWithinTolerance b a := by
  rw [Bool.eq_iff_iff, tscWithinTolerance_iff, tscWithinTolerance_iff, and_comm]

end Tolerance

/-! ## What a label tells apart -/

section Label

/-- Two texts cut at their first separator. -/
theorem cut_eq {α : Type} {sep : α} {l₁ l₂ r₁ r₂ : List α} (h₁ : sep ∉ l₁) (h₂ : sep ∉ l₂)
    (h : l₁ ++ sep :: r₁ = l₂ ++ sep :: r₂) : l₁ = l₂ ∧ r₁ = r₂ := by
  induction l₁ generalizing l₂ with
  | nil =>
    cases l₂ with
    | nil => exact ⟨rfl, by simpa using h⟩
    | cons x l₂ =>
      obtain ⟨rfl, -⟩ : sep = x ∧ _ := by simpa using h
      exact absurd List.mem_cons_self h₂
  | cons x l₁ ih =>
    cases l₂ with
    | nil =>
      obtain ⟨rfl, -⟩ : x = sep ∧ _ := by simpa using h
      exact absurd List.mem_cons_self h₁
    | cons y l₂ =>
      obtain ⟨rfl, htail⟩ : x = y ∧ l₁ ++ sep :: r₁ = l₂ ++ sep :: r₂ := by simpa using h
      obtain ⟨rfl, hr⟩ := ih (fun hm => h₁ (List.mem_cons_of_mem _ hm))
        (fun hm => h₂ (List.mem_cons_of_mem _ hm)) htail
      exact ⟨rfl, hr⟩

/-- Two texts cut at their last separator. -/
theorem cut_last_eq {α : Type} {sep : α} {l₁ l₂ r₁ r₂ : List α} (h₁ : sep ∉ r₁) (h₂ : sep ∉ r₂)
    (h : l₁ ++ sep :: r₁ = l₂ ++ sep :: r₂) : l₁ = l₂ ∧ r₁ = r₂ := by
  have hreverse : r₁.reverse ++ sep :: l₁.reverse = r₂.reverse ++ sep :: l₂.reverse := by
    simpa using congrArg List.reverse h
  obtain ⟨hr, hl⟩ := cut_eq (by simpa using h₁) (by simpa using h₂) hreverse
  exact ⟨List.reverse_inj.mp hl, List.reverse_inj.mp hr⟩

variable {a b : CompatClass}

/-- The digits of a number hold no slash. -/
theorem slash_notMem_repr (n : ℕ) : '/' ∉ n.repr.toList := by
  intro hslash
  rw [Nat.toList_repr] at hslash
  have hdigit := Nat.isDigit_of_mem_toDigits (by decide) (by decide) hslash
  cases hdigit

/-- The characters of a label. -/
theorem toList_label (c : CompatClass) :
    c.label.toList = c.vendor.toList ++ '/' :: (c.model.toList ++ '/' ::
      ((c.tscKhz.toNat / 1000).repr.toList ++ ['M', 'H', 'z'] ++ '/' ::
        (kernelTier c.kernel).toList)) := by
  have hmhz : toString (c.tscKhz / 1000) = (c.tscKhz.toNat / 1000).repr := rfl
  simp [CompatClass.label, hmhz, String.toList_append]

/-- Equal labels without a slash in the vendor or the tier come from equal parts. -/
theorem parts_eq_of_label_eq (hva : '/' ∉ a.vendor.toList) (hvb : '/' ∉ b.vendor.toList)
    (hka : '/' ∉ (kernelTier a.kernel).toList) (hkb : '/' ∉ (kernelTier b.kernel).toList)
    (h : a.label = b.label) :
    a.vendor = b.vendor ∧ a.model = b.model ∧ kernelTier a.kernel = kernelTier b.kernel ∧
      a.tscKhz.toNat / 1000 = b.tscKhz.toNat / 1000 := by
  have hlist := congrArg String.toList h
  rw [toList_label, toList_label] at hlist
  -- The vendor ends at the first slash, the tier starts after the last, the megahertz before it.
  obtain ⟨hvendor, hrest⟩ := cut_eq hva hvb hlist
  have hmiddle : ∀ (model mhz tier : List Char), model ++ '/' :: (mhz ++ '/' :: tier) =
      (model ++ '/' :: mhz) ++ '/' :: tier := by simp
  rw [hmiddle, hmiddle] at hrest
  obtain ⟨hrest, htier⟩ := cut_last_eq hka hkb hrest
  have hclean : ∀ n : ℕ, '/' ∉ n.repr.toList ++ ['M', 'H', 'z'] := by
    intro n hslash
    rcases List.mem_append.mp hslash with hdigits | hunit
    · exact slash_notMem_repr n hdigits
    · exact absurd hunit (by decide)
  obtain ⟨hmodel, hmhz⟩ := cut_last_eq (hclean _) (hclean _) hrest
  refine ⟨String.toList_inj.mp hvendor, String.toList_inj.mp hmodel, String.toList_inj.mp htier, ?_⟩
  exact Text.repr_inj (String.toList_inj.mp (List.append_cancel_right hmhz))

end Label

/-! ## Chains of moves -/

namespace CompatClass

variable {a b c : CompatClass}

theorem compatibleWith_iff : a.compatibleWith b = true ↔
    a.vendor = b.vendor ∧ a.model = b.model ∧ kernelTier a.kernel = kernelTier b.kernel ∧
      tscWithinTolerance a.tscKhz b.tscKhz = true := by
  simp [compatibleWith, and_assoc]

theorem compatibleWith_refl (a : CompatClass) : a.compatibleWith a = true :=
  compatibleWith_iff.mpr ⟨rfl, rfl, rfl, tscWithinTolerance_refl _⟩

theorem compatibleWith_comm (a b : CompatClass) : a.compatibleWith b = b.compatibleWith a := by
  rw [Bool.eq_iff_iff, compatibleWith_iff, compatibleWith_iff, tscWithinTolerance_comm,
    eq_comm (a := a.vendor), eq_comm (a := a.model), eq_comm (a := kernelTier a.kernel)]

/-- What a VM still has in common with the host it first ran on after so many moves: the exact
axes, and a frequency within the tolerance compounded once for each move. -/
structure Drifted (moves : ℕ) (first last : CompatClass) : Prop where
  vendor : first.vendor = last.vendor
  model : first.model = last.model
  tier : kernelTier first.kernel = kernelTier last.kernel
  down : first.tscKhz.toNat * 999750 ^ moves ≤ last.tscKhz.toNat * 1000000 ^ moves
  up : last.tscKhz.toNat * 999750 ^ moves ≤ first.tscKhz.toNat * 1000000 ^ moves

theorem Drifted.refl (a : CompatClass) : Drifted 0 a a :=
  ⟨rfl, rfl, rfl, Nat.le_refl _, Nat.le_refl _⟩

/-- One tolerance on top of a compounded one. -/
theorem compound {x y z k : ℕ} (hxy : x * 999750 ≤ y * 1000000)
    (hyz : y * 999750 ^ k ≤ z * 1000000 ^ k) : x * 999750 ^ (k + 1) ≤ z * 1000000 ^ (k + 1) :=
  calc x * 999750 ^ (k + 1)
      = x * 999750 * 999750 ^ k := by ring
    _ ≤ y * 1000000 * 999750 ^ k := Nat.mul_le_mul_right _ hxy
    _ = y * 999750 ^ k * 1000000 := by ring
    _ ≤ z * 1000000 ^ k * 1000000 := Nat.mul_le_mul_right _ hyz
    _ = z * 1000000 ^ (k + 1) := by ring

/-- One accepted move on top of a chain. -/
theorem Drifted.cons {k : ℕ} (h : a.compatibleWith b = true) (hchain : Drifted k b c) :
    Drifted (k + 1) a c := by
  obtain ⟨hvendor, hmodel, htier, htsc⟩ := compatibleWith_iff.mp h
  obtain ⟨hdown, hup⟩ := tscWithinTolerance_iff.mp htsc
  refine ⟨hvendor.trans hchain.vendor, hmodel.trans hchain.model, htier.trans hchain.tier,
    compound hdown hchain.down, ?_⟩
  calc c.tscKhz.toNat * 999750 ^ (k + 1)
      = c.tscKhz.toNat * 999750 ^ k * 999750 := by ring
    _ ≤ b.tscKhz.toNat * 1000000 ^ k * 999750 := Nat.mul_le_mul_right _ hchain.up
    _ = b.tscKhz.toNat * 999750 * 1000000 ^ k := by ring
    _ ≤ a.tscKhz.toNat * 1000000 * 1000000 ^ k := Nat.mul_le_mul_right _ hup
    _ = a.tscKhz.toNat * 1000000 ^ (k + 1) := by ring

/-- Every chain of accepted moves drifts by one tolerance a move at most. -/
theorem drifted_of_chain {first : CompatClass} {moves : List CompatClass}
    (h : (first :: moves).IsChain fun a b => a.compatibleWith b = true) :
    Drifted moves.length first ((first :: moves).getLast (List.cons_ne_nil _ _)) := by
  induction moves generalizing first with
  | nil => exact Drifted.refl first
  | cons next moves ih =>
    obtain ⟨hmove, hrest⟩ := List.isChain_cons_cons.mp h
    exact (ih hrest).cons hmove

/-- What is left of a chain's drift is the frequency. -/
theorem Drifted.compatibleWith_iff {k : ℕ} (h : Drifted k a b) :
    a.compatibleWith b = true ↔ tscWithinTolerance a.tscKhz b.tscKhz = true := by
  rw [CompatClass.compatibleWith_iff]
  exact ⟨fun h => h.2.2.2, fun htsc => ⟨h.vendor, h.model, h.tier, htsc⟩⟩

/-- Labels of compatible classes differ in their megahertz or not at all. -/
theorem label_eq_iff_of_compatibleWith (h : a.compatibleWith b = true) :
    a.label = b.label ↔ a.tscKhz.toNat / 1000 = b.tscKhz.toNat / 1000 := by
  obtain ⟨hvendor, hmodel, htier, -⟩ := CompatClass.compatibleWith_iff.mp h
  constructor
  · intro hlabel
    have hlist := congrArg String.toList hlabel
    rw [toList_label, toList_label, hvendor, hmodel, htier] at hlist
    have hdigits : (a.tscKhz.toNat / 1000).repr.toList = (b.tscKhz.toNat / 1000).repr.toList := by
      simpa using hlist
    exact Text.repr_inj (String.toList_inj.mp hdigits)
  · intro hmhz
    rw [← String.toList_inj, toList_label, toList_label, hvendor, hmodel, htier, hmhz]

/-- Compatibility is reflexive and symmetric. Along a chain of accepted moves the vendor, the model
and the kernel tier stay those of the first host and the frequency drifts by one tolerance a move
at most, so the last host is compatible with the first exactly if their frequencies are within the
tolerance. Compatible classes have the same label exactly if their frequencies agree in whole
megahertz; classes with the same label, and no slash in their vendors and kernel tiers, agree in
vendor, model, tier and whole megahertz, and are compatible exactly if their frequencies are within
the tolerance. -/
theorem compatible_up_to_drift :
    (∀ a : CompatClass, a.compatibleWith a = true) ∧
    (∀ a b : CompatClass, a.compatibleWith b = b.compatibleWith a) ∧
    (∀ (first : CompatClass) (moves : List CompatClass),
      (first :: moves).IsChain (fun a b => a.compatibleWith b = true) →
        let last := (first :: moves).getLast (List.cons_ne_nil _ _)
        Drifted moves.length first last ∧
          (first.compatibleWith last = true ↔
            tscWithinTolerance first.tscKhz last.tscKhz = true)) ∧
    (∀ a b : CompatClass, a.compatibleWith b = true →
      (a.label = b.label ↔ a.tscKhz.toNat / 1000 = b.tscKhz.toNat / 1000)) ∧
    (∀ a b : CompatClass, '/' ∉ a.vendor.toList → '/' ∉ b.vendor.toList →
      '/' ∉ (kernelTier a.kernel).toList → '/' ∉ (kernelTier b.kernel).toList →
      a.label = b.label →
        (a.vendor = b.vendor ∧ a.model = b.model ∧
          kernelTier a.kernel = kernelTier b.kernel ∧
          a.tscKhz.toNat / 1000 = b.tscKhz.toNat / 1000) ∧
        (a.compatibleWith b = true ↔ tscWithinTolerance a.tscKhz b.tscKhz = true)) := by
  refine ⟨compatibleWith_refl, compatibleWith_comm, ?_, ?_, ?_⟩
  · intro first moves hchain
    have hdrift := drifted_of_chain hchain
    exact ⟨hdrift, hdrift.compatibleWith_iff⟩
  · intro a b h
    exact label_eq_iff_of_compatibleWith h
  · intro a b hva hvb hka hkb hlabel
    have hparts := parts_eq_of_label_eq hva hvb hka hkb hlabel
    refine ⟨hparts, ?_⟩
    rw [CompatClass.compatibleWith_iff]
    exact ⟨fun h => h.2.2.2, fun htsc => ⟨hparts.1, hparts.2.1, hparts.2.2.1, htsc⟩⟩

/-- The chain of the test's three frequencies: its ends share a label and are not compatible. -/
theorem compatible_up_to_drift_two_moves :
    let host (tscKhz : UInt32) : CompatClass := ⟨"GenuineIntel", "Xeon", tscKhz, "6.1.155"⟩
    Drifted 2 (host 2000000) (host 2000800) ∧
      ((host 2000000).compatibleWith (host 2000800) = true ↔
        tscWithinTolerance 2000000 2000800 = true) := by
  intro host
  obtain ⟨-, -, hchain, -, -⟩ := compatible_up_to_drift
  exact hchain (host 2000000) [host 2000400, host 2000800] (by decide +kernel)

/-- Compatibility is not transitive: two moves accepted one after the other take a VM out of the
tolerance of its first host. Nor do labels name its classes: two hosts with one label are not
compatible, two compatible ones at a megahertz boundary have two labels, and a slash in a vendor or
in a kernel release moves the parts of a label. -/
theorem not_equivalence_nor_labelled :
    let host (tscKhz : UInt32) : CompatClass := ⟨"GenuineIntel", "Xeon", tscKhz, "6.1.155"⟩
    ((host 2000000).compatibleWith (host 2000400) = true ∧
      (host 2000400).compatibleWith (host 2000800) = true ∧
      (host 2000000).compatibleWith (host 2000800) = false) ∧
    (host 2000000).label = (host 2000800).label ∧
    ((host 1999999).compatibleWith (host 2000000) = true ∧
      (host 1999999).label ≠ (host 2000000).label) ∧
    (let a : CompatClass := ⟨"v/m", "n", 1000, "6.1"⟩
      let b : CompatClass := ⟨"v", "m/n", 1000, "6.1"⟩
      a.label = b.label ∧ a.compatibleWith b = false) ∧
    (let a : CompatClass := ⟨"v", "m", 1000, "1MHz/6"⟩
      let b : CompatClass := ⟨"v", "m/1MHz", 1000, "6"⟩
      a.label = b.label ∧ a.compatibleWith b = false) := by
  decide +kernel

end CompatClass

end Sleepwalk.Proto
