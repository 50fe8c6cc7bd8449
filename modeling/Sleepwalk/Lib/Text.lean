import Mathlib.Data.List.TakeWhile
import Mathlib.Data.Nat.Notation

/-!
# Text

Trimming by the Unicode property `White_Space`, as `str::trim` and `str::trim_end` do, and numbers
as text.
-/

namespace Text

/-- The code points of the property `White_Space`. -/
def isWhitespace (c : Char) : Bool :=
  (9 ≤ c.toNat && c.toNat ≤ 13) || (0x2000 ≤ c.toNat && c.toNat ≤ 0x200A) ||
    [0x20, 0x85, 0xA0, 0x1680, 0x2028, 0x2029, 0x202F, 0x205F, 0x3000].contains c.toNat

/-- Drop whitespace at the end. -/
def trimEnd (s : String) : String :=
  .ofList (s.toList.reverse.dropWhile isWhitespace).reverse

/-- Drop whitespace at both ends. -/
def trim (s : String) : String :=
  .ofList ((s.toList.dropWhile isWhitespace).reverse.dropWhile isWhitespace).reverse

/-- A newline after a text that ends in no whitespace is all that is trimmed. -/
theorem trimEnd_newline {cs : List Char} {last : Char} (h : isWhitespace last = false) :
    trimEnd (.ofList (cs ++ [last]) ++ "\n") = .ofList (cs ++ [last]) := by
  have hlist : (String.ofList (cs ++ [last]) ++ "\n").toList.reverse =
      Char.ofNat 10 :: last :: cs.reverse := by simp
  have hnewline : isWhitespace (Char.ofNat 10) = true := by decide
  rw [trimEnd, hlist, List.dropWhile_cons_of_pos hnewline, List.dropWhile_cons_of_neg (by simp [h])]
  simp

/-! ## What is left between whitespace -/

/-- `trim` on lists. -/
def trimList (cs : List Char) : List Char :=
  ((cs.dropWhile isWhitespace).reverse.dropWhile isWhitespace).reverse

variable {cs pre post : List Char}

theorem toList_trim (s : String) : (trim s).toList = trimList s.toList := String.toList_ofList

theorem trimList_append_left (h : ∀ c ∈ pre, isWhitespace c = true) :
    trimList (pre ++ cs) = trimList cs := by
  rw [trimList, List.dropWhile_append_of_pos h, trimList]

theorem trimList_append_right (h : ∀ c ∈ post, isWhitespace c = true) :
    trimList (cs ++ post) = trimList cs := by
  have hreverse : ∀ c ∈ post.reverse, isWhitespace c = true := by simpa using h
  rw [trimList, List.dropWhile_append, trimList]
  split
  case isTrue hall =>
    rw [List.isEmpty_iff] at hall
    have hpost : post.dropWhile isWhitespace = [] := List.dropWhile_eq_nil_iff.mpr h
    rw [hall, hpost]
  case isFalse => rw [List.reverse_append, List.dropWhile_append_of_pos hreverse]

/-- A text is what trimming leaves of it, between whitespace. -/
theorem exists_trimList (cs : List Char) :
    ∃ pre post, (∀ c ∈ pre, isWhitespace c = true) ∧ (∀ c ∈ post, isWhitespace c = true) ∧
      cs = pre ++ trimList cs ++ post := by
  refine ⟨cs.takeWhile isWhitespace,
    ((cs.dropWhile isWhitespace).reverse.takeWhile isWhitespace).reverse,
    fun c hc => List.mem_takeWhile_imp hc,
    fun c hc => List.mem_takeWhile_imp (List.mem_reverse.mp hc), ?_⟩
  rw [List.append_assoc, trimList, ← List.reverse_append, List.takeWhile_append_dropWhile,
    List.reverse_reverse, List.takeWhile_append_dropWhile]

/-- A text that trimming leaves alone is what is left of a line exactly if the line is that text
between whitespace. -/
theorem trim_eq_iff {s line : String} (h : trim s = s) :
    trim line = s ↔ ∃ pre post : List Char, (∀ c ∈ pre, isWhitespace c = true) ∧
      (∀ c ∈ post, isWhitespace c = true) ∧ line = .ofList (pre ++ s.toList ++ post) := by
  constructor
  · rintro rfl
    obtain ⟨pre, post, hpre, hpost, hline⟩ := exists_trimList line.toList
    refine ⟨pre, post, hpre, hpost, ?_⟩
    rw [toList_trim, ← hline, String.ofList_toList]
  · rintro ⟨pre, post, hpre, hpost, rfl⟩
    rw [← String.toList_inj, toList_trim, String.toList_ofList, trimList_append_right hpost,
      trimList_append_left hpre, ← toList_trim, h]

/-- A number is read back from its digits. -/
theorem repr_inj {m n : ℕ} (h : m.repr = n.repr) : m = n := by
  have hread := congrArg (fun s => Nat.ofDigitChars 10 s.toList 0) h
  simpa [Nat.toList_repr] using hread

end Text
