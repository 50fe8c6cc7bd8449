import Mathlib.Data.List.Basic
import Sleepwalk.Lib.Query
import Sleepwalk.Lib.Text

/-!
# Scanning text

A text as lines (`str::lines`), the first word of a line (`split_whitespace().next()`), and a word
as an unsigned number (`parse::<u64>`).

A table is written with one named number on each line, with a unit or without. The last line with a
name tells its number, whatever the other lines say (`lastNumber_text`).
-/

namespace Scan

open Query Text

/-- A line without the carriage return at its end. -/
def stripCR (line : List Char) : List Char :=
  if line.getLast? = some '\r' then line.dropLast else line

/-- The lines of a text. The last one need not be ended. -/
def lines (cs : List Char) : List (List Char) :=
  let parts := split '\n' cs
  parts.dropLast.map stripCR ++ parts.getLast?.toList.filter (· ≠ [])

/-- The first word. -/
def word (cs : List Char) : Option (List Char) :=
  match (cs.dropWhile isWhitespace).takeWhile (!isWhitespace ·) with
  | [] => none
  | w => some w

/-- A word as a number below a bound. -/
def unsigned (bound : ℕ) (cs : List Char) : Option ℕ :=
  let digits := if cs.head? = some '+' then cs.tail else cs
  if digits ≠ [] ∧ digits.all Char.isDigit ∧ Nat.ofDigitChars 10 digits 0 < bound then
    some (Nat.ofDigitChars 10 digits 0)
  else none

/-- The number that a line starts with. -/
def number (bound : ℕ) (cs : List Char) : Option ℕ := (word cs).bind (unsigned bound)

/-- The number on the last line with this prefix. -/
def lastNumber (bound : ℕ) (key : List Char) (ls : List (List Char)) : Option ℕ :=
  (ls.filterMap (·.dropPrefix? key)).getLast?.bind (number bound)

variable {bound n : ℕ} {cs line rest w pre post key : List Char}

/-! ## Lines -/

theorem split_ne_nil (sep : Char) (cs : List Char) : split sep cs ≠ [] := by
  cases cs with
  | nil => simp [split]
  | cons c cs =>
    rw [split]
    split
    · simp
    · split <;> simp

@[simp]
theorem lines_nil : lines [] = [] := rfl

theorem lines_append (h : '\n' ∉ line) :
    lines (line ++ '\n' :: rest) = stripCR line :: lines rest := by
  have hrest := split_ne_nil '\n' rest
  rw [lines, split_append h, List.dropLast_cons_of_ne_nil hrest, lines]
  simp [List.getLast?_cons, List.getLast?_eq_getLast_of_ne_nil hrest]

/-- The lines of a text of ended lines. -/
theorem lines_flatMap {α : Type*} {f : α → List Char} (xs : List α)
    (h : ∀ x ∈ xs, '\n' ∉ f x ∧ (f x).getLast? ≠ some '\r') :
    lines (xs.flatMap fun x => f x ++ ['\n']) = xs.map f := by
  induction xs with
  | nil => rfl
  | cons x xs ih =>
    obtain ⟨hline, hlast⟩ := h x List.mem_cons_self
    rw [List.flatMap_cons, List.append_assoc, List.singleton_append, lines_append hline, stripCR,
      if_neg hlast, ih fun y hy => h y (List.mem_cons_of_mem _ hy), List.map_cons]

/-! ## Numbers -/

/-- A word is found between whitespace. -/
theorem word_append (hpre : ∀ c ∈ pre, isWhitespace c = true)
    (hw : ∀ c ∈ w, isWhitespace c = false) (hne : w ≠ [])
    (hpost : ∀ c ∈ post.head?, isWhitespace c = true) : word (pre ++ (w ++ post)) = some w := by
  have hword : ∀ c ∈ w, (!isWhitespace c) = true := fun c hc => by simp [hw c hc]
  have hend : post.takeWhile (!isWhitespace ·) = [] := by
    cases post with
    | nil => rfl
    | cons c post => exact List.takeWhile_cons_of_neg (by simp [hpost c rfl])
  have hdrop : (w ++ post).dropWhile isWhitespace = w ++ post := by
    cases w with
    | nil => exact absurd rfl hne
    | cons c w => exact List.dropWhile_cons_of_neg (by simp [hw c List.mem_cons_self])
  rw [word, List.dropWhile_append_of_pos hpre, hdrop, List.takeWhile_append_of_pos hword, hend,
    List.append_nil]
  cases w with
  | nil => exact absurd rfl hne
  | cons c w => rfl

/-- A number is read back from its digits. -/
theorem unsigned_toDigits (h : n < bound) : unsigned bound (Nat.toDigits 10 n) = some n := by
  have hdigits : ∀ c ∈ Nat.toDigits 10 n, c.isDigit = true :=
    fun c hc => Nat.isDigit_of_mem_toDigits (by decide) (by decide) hc
  have hplus : (Nat.toDigits 10 n).head? ≠ some '+' := by
    intro hhead
    have hdigit := hdigits _ (List.mem_of_mem_head? hhead)
    revert hdigit
    decide
  have hvalue : Nat.ofDigitChars 10 (Nat.toDigits 10 n) 0 = n := by simp
  rw [unsigned, if_neg hplus]
  simp only [hvalue]
  exact if_pos ⟨Nat.toDigits_ne_nil, List.all_eq_true.mpr hdigits, h⟩

theorem isWhitespace_of_isDigit {c : Char} (h : c.isDigit = true) : isWhitespace c = false := by
  have hrange : 0x30 ≤ c.toNat ∧ c.toNat ≤ 0x39 := by
    simpa [Char.isDigit, UInt32.le_iff_toNat_le] using h
  have hlow : ∀ n, 0x30 ≤ n → n ≤ 0x39 → ∀ m ∈ [0x20, 0x85, 0xA0, 0x1680, 0x2028, 0x2029, 0x202F,
      0x205F, 0x3000], n ≠ m := by
    intro n h h' m hm
    simp only [List.mem_cons, List.not_mem_nil, or_false] at hm
    omega
  have hcontains := hlow c.toNat hrange.1 hrange.2
  simp only [isWhitespace, Bool.or_eq_false_iff, Bool.and_eq_false_iff, decide_eq_false_iff_not]
  refine ⟨⟨by omega, by omega⟩, ?_⟩
  rw [List.contains_eq_mem, decide_eq_false_iff_not]
  exact fun hmem => hcontains _ hmem rfl

/-- A number is read back from its digits, between whitespace. -/
theorem number_append (hpre : ∀ c ∈ pre, isWhitespace c = true) (h : n < bound)
    (hpost : ∀ c ∈ post.head?, isWhitespace c = true) :
    number bound (pre ++ (Nat.toDigits 10 n ++ post)) = some n := by
  have hdigits : ∀ c ∈ Nat.toDigits 10 n, isWhitespace c = false := fun c hc =>
    isWhitespace_of_isDigit (Nat.isDigit_of_mem_toDigits (by decide) (by decide) hc)
  rw [number, word_append hpre hdigits Nat.toDigits_ne_nil hpost, Option.bind_some,
    unsigned_toDigits h]

theorem lastNumber_concat (ls : List (List Char)) (line : List Char) :
    lastNumber bound key (ls ++ [line]) =
      match line.dropPrefix? key with
      | some rest => number bound rest
      | none => lastNumber bound key ls := by
  rw [lastNumber, List.filterMap_append]
  cases hdrop : line.dropPrefix? key with
  | none => simp [hdrop, lastNumber]
  | some rest => simp [hdrop]

/-! ## Tables -/

/-- A line of a table: a name, a colon, and a number between blanks and a unit. -/
structure Row where
  name : List Char
  /-- How many blanks there are before the number. -/
  blanks : ℕ
  number : ℕ
  /-- What is written after the number. -/
  unit : List Char

/-- The line of a row. -/
def Row.text (row : Row) : List Char :=
  row.name ++ ':' :: (List.replicate row.blanks ' ' ++ (Nat.toDigits 10 row.number ++ row.unit))

variable {row : Row}

/-- What stands after the name. -/
theorem notMem_row {c : Char} (hcolon : c ≠ ':') (hblank : c ≠ ' ') (hdigit : c.isDigit = false)
    (hunit : c ∉ row.unit) :
    c ∉ ':' :: (List.replicate row.blanks ' ' ++ (Nat.toDigits 10 row.number ++ row.unit)) := by
  have hdigits : c ∉ Nat.toDigits 10 row.number := by
    intro hmem
    rw [Nat.isDigit_of_mem_toDigits (by decide) (by decide) hmem] at hdigit
    cases hdigit
  simp only [List.mem_cons, List.mem_append, List.mem_replicate, hcolon, hblank, hdigits, hunit,
    and_false, or_self, not_false_eq_true]

/-- A table is read back line by line. -/
theorem lines_text (rows : List Row)
    (h : ∀ row ∈ rows, '\n' ∉ row.name ∧ '\n' ∉ row.unit ∧ '\r' ∉ row.unit) :
    lines (rows.flatMap fun row => row.text ++ ['\n']) = rows.map Row.text := by
  refine lines_flatMap rows fun row hrow => ?_
  obtain ⟨hname, hline, hreturn⟩ := h row hrow
  constructor
  · rw [Row.text, List.mem_append, not_or]
    exact ⟨hname, notMem_row (by decide) (by decide) (by decide) hline⟩
  · intro hlast
    rw [Row.text, List.getLast?_append_of_ne_nil _ (by simp)] at hlast
    exact notMem_row (by decide) (by decide) (by decide) hreturn (List.mem_of_getLast? hlast)

theorem dropPrefix?_text (hname : ':' ∉ row.name) (hkey : ':' ∉ key) :
    row.text.dropPrefix? (key ++ [':']) =
      if row.name = key then
        some (List.replicate row.blanks ' ' ++ (Nat.toDigits 10 row.number ++ row.unit))
      else none := by
  split_ifs with hsame
  · rw [List.dropPrefix?_eq_some_iff]
    refine ⟨key ++ [':'], ?_, beq_self_eq_true _⟩
    rw [Row.text, hsame, List.append_assoc, List.singleton_append]
  · rw [Option.eq_none_iff_forall_ne_some]
    intro rest hrest
    obtain ⟨k, htext, hk⟩ := List.dropPrefix?_eq_some_iff.mp hrest
    obtain rfl := eq_of_beq hk
    -- Both texts are cut at their first colon.
    have hcut := splitOnce_append hname (List.replicate row.blanks ' ' ++
      (Nat.toDigits 10 row.number ++ row.unit))
    rw [← Row.text, htext, List.append_assoc, List.singleton_append, splitOnce_append hkey] at hcut
    have hnames := congrArg Prod.fst (Option.some_inj.mp hcut)
    exact hsame hnames.symm

/-- The last row with a name tells the number of that name. -/
theorem lastNumber_text (hkey : ':' ∉ key) (rows : List Row)
    (hrows : ∀ row ∈ rows, ':' ∉ row.name ∧ row.number < bound ∧
      ∀ c ∈ row.unit.head?, isWhitespace c = true) :
    lastNumber bound (key ++ [':']) (rows.map Row.text) =
      (rows.filter fun row => row.name = key).getLast?.map Row.number := by
  have hfound : ((rows.map Row.text).filterMap (·.dropPrefix? (key ++ [':']))) =
      (rows.filter fun row => row.name = key).map fun row =>
        List.replicate row.blanks ' ' ++ (Nat.toDigits 10 row.number ++ row.unit) := by
    induction rows with
    | nil => rfl
    | cons row rows ih =>
      have hrest := ih fun row' hrow' => hrows row' (List.mem_cons_of_mem _ hrow')
      rw [List.map_cons, List.filterMap_cons,
        dropPrefix?_text (hrows row List.mem_cons_self).1 hkey, hrest]
      by_cases hname : row.name = key
      · rw [if_pos hname, List.filter_cons_of_pos (by simpa using hname), List.map_cons]
      · rw [if_neg hname, List.filter_cons_of_neg (by simpa using hname)]
  rw [lastNumber, hfound, List.getLast?_map]
  cases hlast : (rows.filter fun row => row.name = key).getLast? with
  | none => rfl
  | some row =>
    have hmem : row ∈ rows := List.mem_of_mem_filter (List.mem_of_getLast? hlast)
    have hblank : ∀ c ∈ List.replicate row.blanks ' ', isWhitespace c = true := by
      intro c hc
      rw [List.eq_of_mem_replicate hc]
      decide
    exact number_append hblank (hrows row hmem).2.1 (hrows row hmem).2.2

end Scan
