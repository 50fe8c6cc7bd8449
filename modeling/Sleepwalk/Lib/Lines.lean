import Sleepwalk.Lib.Bytes

/-!
# Lines of a byte stream

Reading newline-terminated UTF-8 text off a stream, as `read_line` does, and reading a stream of
frames message by message.
-/

namespace Lines

open Bytes

/-- The byte that ends a line. -/
def LF : UInt8 := 10

/-- Whether a byte stays on the line. -/
def notLF (b : UInt8) : Bool := b != LF

/-- One line: the bytes up to the first newline, with it, or all that is left. -/
def readLine (input : List UInt8) : List UInt8 × List UInt8 :=
  match input.dropWhile notLF with
  | [] => (input, [])
  | lf :: rest => (input.takeWhile notLF ++ [lf], rest)

/-- Bytes without a newline, and one after them, are a line. -/
theorem readLine_append {bytes rest : List UInt8} (h : LF ∉ bytes) :
    readLine (bytes ++ LF :: rest) = (bytes ++ [LF], rest) := by
  have hall : ∀ b ∈ bytes, notLF b = true := by
    intro b hb
    have hne : b ≠ LF := fun heq => h (heq ▸ hb)
    simpa [notLF] using hne
  have hstop : ¬ notLF LF = true := by decide
  rw [readLine, List.dropWhile_append_of_pos hall, List.dropWhile_cons_of_neg hstop,
    List.takeWhile_append_of_pos hall, List.takeWhile_cons_of_neg hstop, List.append_nil]

/-- The lines of a stream that have ended, without their newlines. -/
def completeLines : List UInt8 → List (List UInt8)
  | [] => []
  | b :: input =>
    if b = LF then [] :: completeLines input
    else match completeLines input with
      | [] => []
      | line :: lines => (b :: line) :: lines

/-! ## Text without newlines -/

theorem LF_notMem_ofText {cs : List Char} (h : Char.ofNat 10 ∉ cs) : LF ∉ ofText (.ofList cs) := by
  refine notMem_ofText (by decide) fun c hc hten => ?_
  have hnewline : c = Char.ofNat 10 := Char.ext (UInt32.toNat_inj.mp hten)
  rw [String.toList_ofList] at hc
  exact h (hnewline ▸ hc)

theorem ofText_append (s t : String) : ofText (s ++ t) = ofText s ++ ofText t := by
  simp [ofText, String.toByteArray_append]

/-- A line of text is read back with its newline. -/
theorem readLine_ofText {cs : List Char} {rest : List UInt8} (h : Char.ofNat 10 ∉ cs) :
    readLine (ofText (.ofList cs) ++ LF :: rest) = (ofText (.ofList cs ++ "\n"), rest) := by
  have hnewline : ofText "\n" = [LF] := by decide
  rw [readLine_append (LF_notMem_ofText h), ofText_append, hnewline]

/-! ## Receiving message by message -/

section Receive

variable {σ ε α β : Type}

/-- Receive `n` times. -/
def receive (recv : σ → Except ε α × σ) : ℕ → σ → List (Except ε α) × σ
  | 0, s => ([], s)
  | n + 1, s =>
    let (result, s') := recv s
    let (results, s'') := receive recv n s'
    (result :: results, s'')

/-- If every frame is received as what it stands for, so is a stream of frames. -/
theorem receive_frames {recv : σ → Except ε β × σ} (reader : List UInt8 → σ)
    {frame : α → List UInt8} (expected : α → β) {msgs : List α} {rest : List UInt8}
    (hone : ∀ msg ∈ msgs, ∀ rest,
      recv (reader (frame msg ++ rest)) = (.ok (expected msg), reader rest)) :
    receive recv msgs.length (reader (msgs.flatMap frame ++ rest)) =
      (msgs.map fun msg => .ok (expected msg), reader rest) := by
  induction msgs with
  | nil => rfl
  | cons msg msgs ih =>
    have hhead := hone msg List.mem_cons_self (msgs.flatMap frame ++ rest)
    have htail := ih fun m hm => hone m (List.mem_cons_of_mem msg hm)
    rw [List.length_cons, List.flatMap_cons, List.append_assoc, receive, hhead]
    simp only [htail, List.map_cons]

end Receive

end Lines
