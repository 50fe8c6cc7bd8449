import Mathlib.Tactic.IntervalCases
import Sleepwalk.Lib.Serde

/-!
# Compact JSON text

How a JSON value is written: without whitespace between its tokens, the entries of an object in
their order, and every control character of a string escaped. Objects of numbers, strings and nulls
are read back (`Json.ofText`).
-/

namespace Serde

/-- Write one character of a string: quotes, backslashes and control characters are escaped. -/
def escape (c : Char) : List Char :=
  match c.toNat with
  | 0x22 => "\\\"".toList
  | 0x5C => "\\\\".toList
  | 0x08 => "\\b".toList
  | 0x09 => "\\t".toList
  | 0x0A => "\\n".toList
  | 0x0C => "\\f".toList
  | 0x0D => "\\r".toList
  | n =>
    if n < 0x20 then "\\u00".toList ++ [Nat.digitChar (n / 16), Nat.digitChar (n % 16)] else [c]

/-- Write a string. -/
def quote (s : String) : List Char := "\"".toList ++ (s.toList.flatMap escape ++ "\"".toList)

namespace Json

mutual

/-- Write a value. -/
def print : Json → List Char
  | .null => "null".toList
  | .bool b => (if b then "true" else "false").toList
  | .uint n => Nat.toDigits 10 n.toNat
  | .number text => text.toList
  | .string s => quote s
  | .array items => "[".toList ++ (printItems items ++ "]".toList)
  | .object entries => "\x7b".toList ++ (printEntries entries ++ "\x7d".toList)

/-- Write the items of an array. -/
def printItems : List Json → List Char
  | [] => []
  | [item] => print item
  | item :: items => print item ++ (",".toList ++ printItems items)

/-- Write the entries of an object. -/
def printEntries : List (String × Json) → List Char
  | [] => []
  | [(key, value)] => quote key ++ (":".toList ++ print value)
  | (key, value) :: entries =>
    quote key ++ (":".toList ++ (print value ++ (",".toList ++ printEntries entries)))

end

/-- The text of a value. -/
def text (value : Json) : String := .ofList value.print

end Json

example : (Json.object [("type", .string "DrainAck"), ("in_flight", .null)]).text =
    "\x7b\"type\":\"DrainAck\",\"in_flight\":null\x7d" := by decide

/-! ## No control characters -/

/-- No control character among some characters. -/
def Clean (cs : List Char) : Prop := ∀ c ∈ cs, 0x20 ≤ c.toNat

variable {cs cs' : List Char}

instance : Decidable (Clean cs) :=
  List.decidableBAll (fun c : Char => 0x20 ≤ c.toNat) cs

@[simp]
theorem clean_append : Clean (cs ++ cs') ↔ Clean cs ∧ Clean cs' := by
  simp [Clean, or_imp, forall_and]

theorem Clean.newline_notMem (h : Clean cs) : Char.ofNat 10 ∉ cs := by
  intro hmem
  have hten := h _ hmem
  revert hten
  decide

theorem clean_digitChar {n : ℕ} (h : n < 16) : Clean [Nat.digitChar n] := by
  have hall : ∀ m < 16, Clean [Nat.digitChar m] := by decide
  exact hall n h

theorem clean_escape (c : Char) : Clean (escape c) := by
  unfold escape
  split
  case h_8 =>
    split
    case isTrue hlow =>
      have hhex : Clean ([Nat.digitChar (c.toNat / 16)] ++ [Nat.digitChar (c.toNat % 16)]) :=
        clean_append.mpr ⟨clean_digitChar (by omega), clean_digitChar (by omega)⟩
      exact clean_append.mpr ⟨by decide, hhex⟩
    case isFalse hhigh =>
      intro d hd
      obtain rfl := List.mem_singleton.mp hd
      exact Nat.le_of_not_lt hhigh
  all_goals decide

@[simp]
theorem clean_quote (s : String) : Clean (quote s) := by
  have hbody : Clean (s.toList.flatMap escape) := by
    intro d hd
    obtain ⟨c, -, hd⟩ := List.mem_flatMap.mp hd
    exact clean_escape c d hd
  exact clean_append.mpr ⟨by decide, clean_append.mpr ⟨hbody, by decide⟩⟩

namespace Json

@[simp]
theorem clean_print_null : Clean Json.null.print := by decide

@[simp]
theorem clean_print_uint (n : UInt64) : Clean (Json.uint n).print := by
  intro c hc
  have hdigit : c.isDigit := Nat.isDigit_of_mem_toDigits (by decide) (by decide) hc
  have hrange : 0x30 ≤ c.toNat ∧ c.toNat ≤ 0x39 := by
    simpa [Char.isDigit, UInt32.le_iff_toNat_le] using hdigit
  omega

@[simp]
theorem clean_print_string (s : String) : Clean (Json.string s).print := clean_quote s

@[simp]
theorem clean_print_object {entries : List (String × Json)} :
    Clean (Json.object entries).print ↔ Clean (printEntries entries) := by
  have hopen : Clean "\x7b".toList := by decide
  have hclose : Clean "\x7d".toList := by decide
  simp only [print, clean_append, hopen, hclose, true_and, and_true]

/-- The entries of an object are clean if their values are. -/
theorem clean_printEntries {entries : List (String × Json)}
    (h : ∀ e ∈ entries, Clean e.2.print) : Clean (printEntries entries) := by
  have hcolon : Clean ":".toList := by decide
  have hcomma : Clean ",".toList := by decide
  induction entries with
  | nil => decide
  | cons e entries ih =>
    have hvalue := h e List.mem_cons_self
    have hrest := ih fun e he => h e (List.mem_cons_of_mem _ he)
    cases entries with
    | nil => simp only [printEntries, clean_append, clean_quote, hcolon, hvalue, and_self]
    | cons e' entries =>
      simp only [printEntries, clean_append, clean_quote, hcolon, hcomma, hvalue, hrest, and_self]

/-- The text of an object ends in its brace. -/
theorem print_object_eq (entries : List (String × Json)) :
    (Json.object entries).print = ("\x7b".toList ++ printEntries entries) ++ ['\x7d'] := by
  rw [print, List.append_assoc]
  rfl

end Json

/-! ## Reading back what is written -/

/-- What an escaping character stands for. -/
def unescape (c : Char) : Option Char :=
  match c.toNat with
  | 0x22 | 0x5C => some c
  | 0x62 => some (.ofNat 0x08)
  | 0x74 => some (.ofNat 0x09)
  | 0x6E => some (.ofNat 0x0A)
  | 0x66 => some (.ofNat 0x0C)
  | 0x72 => some (.ofNat 0x0D)
  | _ => none

/-- The value of a hexadecimal digit. -/
def hexValue (c : Char) : ℕ := if c.isDigit then c.toNat - 0x30 else c.toNat - 0x57

/-- Read one character of a string. -/
def readChar : List Char → Option (Char × List Char)
  | '\\' :: 'u' :: '0' :: '0' :: a :: b :: cs => some (.ofNat (16 * hexValue a + hexValue b), cs)
  | '\\' :: c :: cs => (unescape c).map fun d => (d, cs)
  | c :: cs => if c.toNat = 0x22 ∨ c.toNat < 0x20 then none else some (c, cs)
  | [] => none

/-- Read the rest of a string after its opening quote, of at most `n` characters. -/
def readString : ℕ → List Char → Option (List Char × List Char)
  | _, '"' :: cs => some ([], cs)
  | 0, _ => none
  | n + 1, cs => do
    let (c, cs) ← readChar cs
    let (s, cs) ← readString n cs
    return (c :: s, cs)

theorem readChar_escape (c : Char) (cs : List Char) :
    readChar (escape c ++ cs) = some (c, cs) := by
  have hcontrol : ∀ n < 0x20, readChar (escape (.ofNat n) ++ cs) = some (.ofNat n, cs) := by
    intro n hn
    interval_cases n <;> rfl
  have hquote : readChar (escape (.ofNat 0x22) ++ cs) = some (.ofNat 0x22, cs) := rfl
  have hslash : readChar (escape (.ofNat 0x5C) ++ cs) = some (.ofNat 0x5C, cs) := rfl
  rw [← Char.ofNat_toNat c]
  by_cases hlow : c.toNat < 0x20
  · exact hcontrol _ hlow
  by_cases h22 : c.toNat = 0x22
  · rw [h22]
    exact hquote
  by_cases h5C : c.toNat = 0x5C
  · rw [h5C]
    exact hslash
  -- Any other character stands for itself.
  rw [Char.ofNat_toNat]
  have hself : escape c = [c] := by
    unfold escape
    split
    case h_8 => exact if_neg hlow
    all_goals omega
  have hplain : c ≠ '\\' := by
    rintro rfl
    exact h5C rfl
  rw [hself, List.singleton_append, readChar.eq_def]
  split <;> simp_all

/-- No escape starts with a quote. -/
theorem escape_append_ne {c : Char} {cs tail : List Char} : escape c ++ cs ≠ '"' :: tail := by
  intro h
  have hread := readChar_escape c cs
  rw [h] at hread
  cases hread

theorem escape_ne_nil (c : Char) : escape c ≠ [] := by
  intro h
  have hread := readChar_escape c []
  rw [h] at hread
  cases hread

theorem length_le_flatMap_escape (cs : List Char) : cs.length ≤ (cs.flatMap escape).length := by
  induction cs with
  | nil => simp
  | cons c cs ih =>
    have hpos : 0 < (escape c).length := List.length_pos_iff.mpr (escape_ne_nil c)
    rw [List.flatMap_cons, List.length_append, List.length_cons]
    omega

theorem readString_flatMap {cs rest : List Char} {n : ℕ} (h : cs.length ≤ n) :
    readString n (cs.flatMap escape ++ '"' :: rest) = some (cs, rest) := by
  induction cs generalizing n with
  | nil => cases n <;> rfl
  | cons c cs ih =>
    obtain ⟨n, rfl⟩ := Nat.exists_eq_succ_of_ne_zero (Nat.ne_of_gt (Nat.lt_of_lt_of_le
      (Nat.zero_lt_succ _) h))
    have hrest := ih (Nat.le_of_succ_le_succ h)
    rw [List.flatMap_cons, List.append_assoc, readString, readChar_escape]
    · simp [hrest]
    · exact fun tail => escape_append_ne

/-- Read a number that fits 64 bits. -/
def readUint (cs : List Char) : Option (UInt64 × List Char) :=
  let digits := cs.takeWhile Char.isDigit
  let n := Nat.ofDigitChars 10 digits 0
  if digits.isEmpty ∨ 2 ^ 64 ≤ n then none else some (.ofNat n, cs.dropWhile Char.isDigit)

/-- No digit comes first. -/
def NoDigit (cs : List Char) : Prop := ∀ c ∈ cs.head?, c.isDigit = false

theorem readUint_toDigits {n : UInt64} {rest : List Char} (h : NoDigit rest) :
    readUint (Nat.toDigits 10 n.toNat ++ rest) = some (n, rest) := by
  have hall : ∀ c ∈ Nat.toDigits 10 n.toNat, c.isDigit = true :=
    fun c hc => Nat.isDigit_of_mem_toDigits (by decide) (by decide) hc
  have hend : rest.takeWhile Char.isDigit = [] ∧ rest.dropWhile Char.isDigit = rest := by
    cases rest with
    | nil => exact ⟨rfl, rfl⟩
    | cons c rest =>
      have hc : ¬ c.isDigit = true := by simp [h c rfl]
      exact ⟨List.takeWhile_cons_of_neg hc, List.dropWhile_cons_of_neg hc⟩
  have hvalue : Nat.ofDigitChars 10 (Nat.toDigits 10 n.toNat) 0 = n.toNat := by simp
  have hlt := n.toNat_lt
  rw [readUint, List.takeWhile_append_of_pos hall, List.dropWhile_append_of_pos hall, hend.1,
    hend.2, List.append_nil, hvalue, if_neg, UInt64.ofNat_toNat]
  simp only [List.isEmpty_iff, Nat.toDigits_ne_nil, false_or]
  omega

namespace Json

mutual

/-- Read a value, of at most `n` characters. -/
def read : ℕ → List Char → Option (Json × List Char)
  | 0, _ => none
  | n + 1, cs =>
    match cs with
    | 'n' :: 'u' :: 'l' :: 'l' :: cs => some (.null, cs)
    | '"' :: cs => (readString n cs).map fun (s, cs) => (.string (.ofList s), cs)
    | '\x7b' :: '\x7d' :: cs => some (.object [], cs)
    | '\x7b' :: cs => (readEntries n cs).map fun (entries, cs) => (.object entries, cs)
    | cs => (readUint cs).map fun (n, cs) => (.uint n, cs)

/-- Read the entries of an object and its end. -/
def readEntries : ℕ → List Char → Option (List (String × Json) × List Char)
  | 0, _ => none
  | n + 1, cs =>
    match cs with
    | '"' :: cs => do
      let (key, cs) ← readString n cs
      match cs with
      | ':' :: cs =>
        let (value, cs) ← read n cs
        match cs with
        | '\x7d' :: cs => return ([(.ofList key, value)], cs)
        | ',' :: cs =>
          let (entries, cs) ← readEntries n cs
          return ((.ofList key, value) :: entries, cs)
        | _ => none
      | _ => none
    | _ => none

end

/-- The value a text stands for. -/
def ofText (text : String) : Option Json :=
  match read text.toList.length text.toList with
  | some (value, []) => some value
  | _ => none

/-- A value is read back wherever it stands. -/
def Readable (value : Json) : Prop :=
  ∀ n rest, value.print.length ≤ n → NoDigit rest →
    read n (value.print ++ rest) = some (value, rest)

theorem Readable.ofText_text {value : Json} (h : Readable value) :
    ofText value.text = some value := by
  have hread := h value.print.length [] le_rfl (by simp [NoDigit])
  rw [List.append_nil] at hread
  simp [ofText, text, hread]

theorem readable_null : Readable .null := by
  intro n rest hn _
  obtain ⟨n, rfl⟩ : ∃ m, n = m + 1 := ⟨n - 1, by simp [print] at hn; omega⟩
  rfl

theorem readable_string (s : String) : Readable (.string s) := by
  intro n rest hn _
  have hlength := length_le_flatMap_escape s.toList
  have hquote : "\"".toList.length = 1 := rfl
  simp only [print, quote, List.length_append, hquote] at hn
  obtain ⟨n, rfl⟩ : ∃ m, n = m + 1 := ⟨n - 1, by omega⟩
  have hbody : readString n (s.toList.flatMap escape ++ '"' :: rest) = some (s.toList, rest) :=
    readString_flatMap (by omega)
  show (readString n ((s.toList.flatMap escape ++ "\"".toList) ++ rest)).map _ = _
  rw [List.append_assoc]
  show (readString n (s.toList.flatMap escape ++ '"' :: rest)).map _ = _
  rw [hbody]
  simp

theorem readable_uint (n : UInt64) : Readable (.uint n) := by
  intro m rest hm hdigit
  have hread := readUint_toDigits (n := n) hdigit
  obtain ⟨d, ds, hds⟩ : ∃ d ds, Nat.toDigits 10 n.toNat = d :: ds :=
    List.exists_cons_of_ne_nil Nat.toDigits_ne_nil
  have hd : d.isDigit = true :=
    Nat.isDigit_of_mem_toDigits (by decide) (by decide) (hds ▸ List.mem_cons_self)
  simp only [print, hds, List.cons_append, List.length_cons] at hm hread ⊢
  obtain ⟨m, rfl⟩ : ∃ k, m = k + 1 := ⟨m - 1, by omega⟩
  rw [read.eq_def]
  dsimp only
  -- No other value starts with a digit.
  split
  case h_5 => rw [hread, Option.map_some]
  all_goals
    rename_i heq
    obtain rfl := (List.cons.inj heq).1
    exact absurd hd (by decide)

/-- The rest of an object, after its opening brace. -/
theorem readEntries_printEntries {entries : List (String × Json)} {n : ℕ} {rest : List Char}
    (h : ∀ e ∈ entries, Readable e.2) (hne : entries ≠ [])
    (hn : (printEntries entries).length + 1 ≤ n) :
    readEntries n (printEntries entries ++ '\x7d' :: rest) = some (entries, rest) := by
  induction entries generalizing n with
  | nil => exact absurd rfl hne
  | cons e entries ih =>
    obtain ⟨key, value⟩ := e
    have hvalue : Readable value := h (key, value) List.mem_cons_self
    have hlength := length_le_flatMap_escape key.toList
    have hquote : "\"".toList.length = 1 := rfl
    have hcolon : ":".toList.length = 1 := rfl
    have hcomma : ",".toList.length = 1 := rfl
    obtain ⟨n, rfl⟩ : ∃ m, n = m + 1 := ⟨n - 1, by omega⟩
    have hkey : ∀ tail, key.toList.length ≤ n →
        readString n (key.toList.flatMap escape ++ '"' :: tail) = some (key.toList, tail) :=
      fun tail hle => readString_flatMap hle
    -- After the last entry comes the brace, after any other a comma and the entries behind it.
    cases entries with
    | nil =>
      simp only [printEntries, quote, List.length_append, hquote, hcolon] at hn
      have hread := hvalue n ('\x7d' :: rest) (by omega) (by simp [NoDigit])
      have htext : printEntries [(key, value)] ++ '\x7d' :: rest =
          '"' :: (key.toList.flatMap escape ++ '"' :: ':' :: (value.print ++ '\x7d' :: rest)) := by
        simp [printEntries, quote]
      rw [htext]
      simp [readEntries, hkey _ (by omega), hread]
    | cons e' entries =>
      simp only [printEntries, quote, List.length_append, hquote, hcolon, hcomma] at hn
      have hread := hvalue n (',' :: (printEntries (e' :: entries) ++ '\x7d' :: rest)) (by omega)
        (by simp [NoDigit])
      have hrest := ih (n := n) (fun f hf => h f (List.mem_cons_of_mem _ hf))
        (List.cons_ne_nil e' entries) (by omega)
      have htext : printEntries ((key, value) :: e' :: entries) ++ '\x7d' :: rest =
          '"' :: (key.toList.flatMap escape ++ '"' :: ':' :: (value.print ++
            ',' :: (printEntries (e' :: entries) ++ '\x7d' :: rest))) := by
        simp [printEntries, quote]
      rw [htext]
      simp [readEntries, hkey _ (by omega), hread, hrest]

theorem readable_object {entries : List (String × Json)} (h : ∀ e ∈ entries, Readable e.2) :
    Readable (.object entries) := by
  intro n rest hn _
  have hopen : "\x7b".toList.length = 1 := rfl
  have hclose : "\x7d".toList.length = 1 := rfl
  simp only [print, List.length_append, hopen, hclose] at hn
  obtain ⟨n, rfl⟩ : ∃ m, n = m + 1 := ⟨n - 1, by omega⟩
  cases entries with
  | nil => rfl
  | cons e entries =>
    have hread : readEntries n (printEntries (e :: entries) ++ '\x7d' :: rest) =
        some (e :: entries, rest) :=
      readEntries_printEntries h (List.cons_ne_nil e entries) (by omega)
    have htext : (Json.object (e :: entries)).print ++ rest =
        '\x7b' :: (printEntries (e :: entries) ++ '\x7d' :: rest) := by
      simp [print]
    have hkey : ∃ tail, printEntries (e :: entries) = '"' :: tail := by
      cases entries <;> exact ⟨_, rfl⟩
    obtain ⟨tail, htail⟩ := hkey
    rw [htext]
    rw [htail] at hread ⊢
    show (readEntries n ('"' :: tail ++ '\x7d' :: rest)).map _ = _
    rw [hread, Option.map_some]

end Json

end Serde
