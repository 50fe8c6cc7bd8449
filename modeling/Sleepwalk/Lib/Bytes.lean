import Mathlib.Data.List.Induction
import Mathlib.Tactic.Common
import Mathlib.Tactic.Ring

/-!
# Bytes

Big-endian integers, UTF-8 names, and computations that read from or write to a byte stream: such
a computation may fail, and a failure keeps the state reached so far.
-/

namespace Bytes

/-! ## Big-endian integers -/

/-- A number as `w` bytes, the most significant first. -/
def toBE : (w n : ℕ) → List UInt8
  | 0, _ => []
  | w + 1, n => toBE w (n / 256) ++ [.ofNat n]

/-- The number that bytes stand for, the most significant first. -/
def ofBE (bytes : List UInt8) : ℕ := bytes.foldl (fun n b => n * 256 + b.toNat) 0

theorem ofBE_append_singleton (bytes : List UInt8) (b : UInt8) :
    ofBE (bytes ++ [b]) = ofBE bytes * 256 + b.toNat := by
  simp [ofBE]

@[simp]
theorem length_toBE (w n : ℕ) : (toBE w n).length = w := by
  induction w generalizing n with
  | zero => rfl
  | succ w ih => simp [toBE, ih]

theorem ofBE_toBE {w n : ℕ} (h : n < 256 ^ w) : ofBE (toBE w n) = n := by
  induction w generalizing n with
  | zero =>
    obtain rfl : n = 0 := by simpa using h
    rfl
  | succ w ih =>
    have hhigh : n / 256 < 256 ^ w := Nat.div_lt_of_lt_mul (by rwa [Nat.mul_comm, ← Nat.pow_succ])
    rw [toBE, ofBE_append_singleton, ih hhigh, UInt8.toNat_ofNat']
    omega

theorem ofBE_lt (bytes : List UInt8) : ofBE bytes < 256 ^ bytes.length := by
  induction bytes using List.reverseRecOn with
  | nil => decide
  | append_singleton bytes b ih =>
    have hb := b.toNat_lt
    rw [ofBE_append_singleton, List.length_append, List.length_singleton, Nat.pow_succ]
    omega

theorem toBE_ofBE (bytes : List UInt8) : toBE bytes.length (ofBE bytes) = bytes := by
  induction bytes using List.reverseRecOn with
  | nil => rfl
  | append_singleton bytes b ih =>
    have hb := b.toNat_lt
    rw [ofBE_append_singleton, List.length_append, List.length_singleton, toBE]
    have hhigh : (ofBE bytes * 256 + b.toNat) / 256 = ofBE bytes := by omega
    have hlow : UInt8.ofNat (ofBE bytes * 256 + b.toNat) = b := by
      rw [← UInt8.toNat_inj, UInt8.toNat_ofNat']
      omega
    rw [hhigh, ih, hlow]

/-! ## Text as bytes -/

/-- The UTF-8 bytes of a text. -/
def ofText (text : String) : List UInt8 := text.toUTF8.data.toList

/-- The text that UTF-8 bytes stand for. -/
def toText (bytes : List UInt8) : Option String := String.fromUTF8? ⟨bytes.toArray⟩

theorem toText_eq_some_iff {bytes : List UInt8} {text : String} :
    toText bytes = some text ↔ bytes = ofText text := by
  have hbytes : ∀ b : List UInt8, b = (ByteArray.mk b.toArray).data.toList := fun _ => rfl
  rw [toText, String.fromUTF8?]
  constructor
  · intro h
    split at h
    · obtain rfl := Option.some_inj.mp h
      exact hbytes bytes
    · cases h
  · rintro rfl
    have hsame : ByteArray.mk (ofText text).toArray = text.toUTF8 := by simp [ofText]
    rw [hsame]
    simp only [String.toUTF8_eq_toByteArray, dif_pos text.isValidUTF8]
    rfl

/-- No other character has an ASCII byte in its encoding. -/
theorem notMem_utf8EncodeChar {b : UInt8} (hb : b.toNat < 128) {c : Char}
    (h : c.val.toNat ≠ b.toNat) : b ∉ String.utf8EncodeChar c := by
  have hhigh : ∀ n, 128 ≤ n → n < 256 → b ≠ UInt8.ofNat n := by
    intro n hlow hlt heq
    have hnat := congrArg UInt8.toNat heq
    rw [UInt8.toNat_ofNat', Nat.mod_eq_of_lt hlt] at hnat
    omega
  simp only [String.utf8EncodeChar]
  split_ifs with h1 h2 h3
  · intro hmem
    have hnat := congrArg UInt8.toNat (List.mem_singleton.mp hmem)
    rw [UInt8.toNat_ofNat', Nat.mod_eq_of_lt (by omega)] at hnat
    exact h hnat.symm
  -- All bytes of a longer encoding have their high bit set.
  all_goals simp only [List.mem_cons, List.not_mem_nil, or_false, not_or]
  · exact ⟨hhigh _ (by omega) (by omega), hhigh _ (by omega) (by omega)⟩
  · exact ⟨hhigh _ (by omega) (by omega), hhigh _ (by omega) (by omega),
      hhigh _ (by omega) (by omega)⟩
  · exact ⟨hhigh _ (by omega) (by omega), hhigh _ (by omega) (by omega),
      hhigh _ (by omega) (by omega), hhigh _ (by omega) (by omega)⟩

/-- A text without an ASCII character has no such byte. -/
theorem notMem_ofText {b : UInt8} (hb : b.toNat < 128) {text : String}
    (h : ∀ c ∈ text.toList, c.val.toNat ≠ b.toNat) : b ∉ ofText text := by
  obtain ⟨cs, rfl⟩ : ∃ cs, text = .ofList cs := ⟨text.toList, String.ofList_toList.symm⟩
  rw [String.toList_ofList] at h
  have hbytes : ofText (.ofList cs) = cs.flatMap String.utf8EncodeChar := by
    simp [ofText, String.toByteArray_ofList, List.utf8Encode]
  rw [hbytes, List.mem_flatMap]
  rintro ⟨c, hc, hmem⟩
  exact notMem_utf8EncodeChar hb (h c hc) hmem

end Bytes

/-! ## Computations over a state -/

namespace Exec

variable {ε σ α β : Type}

/-- Run a computation: what it returns, and the state it leaves behind. -/
def exec (m : ExceptT ε (StateM σ) α) (s : σ) : Except ε α × σ := m.run.run s

variable {s s' s'' : σ} {a : α} {b : β}

@[simp]
theorem exec_pure (a : α) (s : σ) :
    exec (pure a : ExceptT ε (StateM σ) α) s = (.ok a, s) := rfl

@[simp]
theorem exec_throw (e : ε) (s : σ) :
    exec (throw e : ExceptT ε (StateM σ) α) s = (.error e, s) := rfl

@[simp]
theorem exec_get (s : σ) : exec (get : ExceptT ε (StateM σ) σ) s = (.ok s, s) := rfl

@[simp]
theorem exec_set (s s' : σ) : exec (set s' : ExceptT ε (StateM σ) PUnit) s = (.ok .unit, s') := rfl

@[simp]
theorem exec_modify (f : σ → σ) (s : σ) :
    exec (modify f : ExceptT ε (StateM σ) PUnit) s = (.ok .unit, f s) := rfl

theorem exec_bind (m : ExceptT ε (StateM σ) α) (f : α → ExceptT ε (StateM σ) β) (s : σ) :
    exec (m >>= f) s =
      match exec m s with
      | (.ok a, s') => exec (f a) s'
      | (.error e, s') => (.error e, s') := by
  simp only [exec, ExceptT.run_bind, StateT.run_bind]
  rcases m.run.run s with ⟨r, s'⟩
  cases r <;> rfl

/-- A computation that succeeds is made of ones that succeed. -/
theorem exec_bind_ok_iff {m : ExceptT ε (StateM σ) α} {f : α → ExceptT ε (StateM σ) β} :
    exec (m >>= f) s = (.ok b, s'') ↔
      ∃ a s', exec m s = (.ok a, s') ∧ exec (f a) s' = (.ok b, s'') := by
  rw [exec_bind]
  rcases exec m s with ⟨e | a, s'⟩ <;> simp

/-- A computation that fails is one whose first part fails, or whose second part does after it. -/
theorem exec_bind_error_iff {m : ExceptT ε (StateM σ) α} {f : α → ExceptT ε (StateM σ) β} {e : ε} :
    exec (m >>= f) s = (.error e, s'') ↔
      exec m s = (.error e, s'') ∨
        ∃ a s', exec m s = (.ok a, s') ∧ exec (f a) s' = (.error e, s'') := by
  rw [exec_bind]
  rcases exec m s with ⟨e | a, s'⟩ <;> simp

end Exec
