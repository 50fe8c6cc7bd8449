import Mathlib.Data.List.Basic

/-!
# A gate over a stream of requests

A gate reads commands: `shut` and `reopen` move it, `request i` is admitted if it finds the gate
open and deferred if it finds it shut, anything else passes by. `isShut b l`, `admitted b l` and
`deferred b l` say where the gate stands after `l` and which requests went which way, for a gate
that stood at `b` before.

`Stranded` is the pattern that a gate without a memory of its requests cannot serve: a request is
deferred and the gate reopens later.
-/

namespace Gate

variable {ι : Type*}

/-- One command to a gate. -/
inductive Cmd (ι : Type*) where
  /-- Shut the gate. -/
  | shut
  /-- Reopen the gate. -/
  | reopen
  /-- Ask for admission. -/
  | request (i : ι)
  /-- A command that is none of the gate's business. -/
  | other
deriving DecidableEq, Repr

/-- Where one command leaves the gate. -/
def step (b : Bool) : Cmd ι → Bool
  | .shut => true
  | .reopen => false
  | .request _ | .other => b

/-- Where a list of commands leaves the gate. -/
def isShut (b : Bool) (l : List (Cmd ι)) : Bool := l.foldl step b

/-- The requests that found the gate open, in order. -/
def admitted (b : Bool) : List (Cmd ι) → List ι
  | [] => []
  | .request i :: l => if b then admitted b l else i :: admitted b l
  | c :: l => admitted (step b c) l

/-- The requests that found the gate shut, in order. -/
def deferred (b : Bool) : List (Cmd ι) → List ι
  | [] => []
  | .request i :: l => if b then i :: deferred b l else deferred b l
  | c :: l => deferred (step b c) l

/-- All requests, in order. -/
def requests (l : List (Cmd ι)) : List ι :=
  l.filterMap fun
    | .request i => some i
    | _ => none

@[simp]
theorem isShut_nil (b : Bool) : isShut b ([] : List (Cmd ι)) = b := rfl

@[simp]
theorem isShut_cons (b : Bool) (c : Cmd ι) (l : List (Cmd ι)) :
    isShut b (c :: l) = isShut (step b c) l := rfl

theorem isShut_append (b : Bool) (l₁ l₂ : List (Cmd ι)) :
    isShut b (l₁ ++ l₂) = isShut (isShut b l₁) l₂ := List.foldl_append

theorem admitted_append (b : Bool) (l₁ l₂ : List (Cmd ι)) :
    admitted b (l₁ ++ l₂) = admitted b l₁ ++ admitted (isShut b l₁) l₂ := by
  induction l₁ generalizing b with
  | nil => rfl
  | cons c l₁ ih => cases c <;> cases b <;> simp [admitted, step, ih]

theorem deferred_append (b : Bool) (l₁ l₂ : List (Cmd ι)) :
    deferred b (l₁ ++ l₂) = deferred b l₁ ++ deferred (isShut b l₁) l₂ := by
  induction l₁ generalizing b with
  | nil => rfl
  | cons c l₁ ih => cases c <;> cases b <;> simp [deferred, step, ih]

/-- What goes through a gate is decided command by command. -/
theorem admitted_cons (b : Bool) (c : Cmd ι) (l : List (Cmd ι)) :
    admitted b (c :: l) = admitted b [c] ++ admitted (step b c) l := admitted_append b [c] l

/-- What is held back by a gate is decided command by command. -/
theorem deferred_cons (b : Bool) (c : Cmd ι) (l : List (Cmd ι)) :
    deferred b (c :: l) = deferred b [c] ++ deferred (step b c) l := deferred_append b [c] l

/-- Every request is admitted or deferred. -/
theorem length_requests (b : Bool) (l : List (Cmd ι)) :
    (requests l).length = (admitted b l).length + (deferred b l).length := by
  induction l generalizing b with
  | nil => rfl
  | cons c l ih =>
    have hstep := ih (step b c)
    cases c <;> cases b <;> simp [requests, admitted, deferred, step] at hstep ⊢ <;> omega

/-- With nothing deferred every request was admitted. -/
theorem admitted_of_deferred_nil {b : Bool} {l : List (Cmd ι)} (h : deferred b l = []) :
    admitted b l = requests l := by
  induction l generalizing b with
  | nil => rfl
  | cons c l ih =>
    cases c <;> cases b <;> simp [requests, admitted, deferred, step] at h ⊢ <;> exact ih h

/-- Something was deferred exactly if some request came when the gate stood shut. -/
theorem deferred_ne_nil_iff {b : Bool} {l : List (Cmd ι)} :
    deferred b l ≠ [] ↔ ∃ l₁ i l₂, l = l₁ ++ .request i :: l₂ ∧ isShut b l₁ = true := by
  constructor
  · intro h
    -- The first request is deferred or not by where the gate starts; the rest is the induction's.
    induction l generalizing b with
    | nil => exact absurd rfl h
    | cons c l ih =>
      have hrest : deferred (step b c) l ≠ [] →
          ∃ l₁ i l₂, c :: l = l₁ ++ .request i :: l₂ ∧ isShut b l₁ = true := by
        intro hne
        obtain ⟨l₁, i, l₂, hl, hshut⟩ := ih hne
        exact ⟨c :: l₁, i, l₂, by rw [hl]; rfl, hshut⟩
      cases c with
      | request i =>
        cases b with
        | true => exact ⟨[], i, l, rfl, rfl⟩
        | false => exact hrest h
      | shut | reopen | other => exact hrest h
  · rintro ⟨l₁, i, l₂, rfl, hshut⟩
    rw [deferred_append, hshut]
    simp [deferred]

/-- Something was admitted exactly if some request came when the gate stood open. -/
theorem admitted_ne_nil_iff {b : Bool} {l : List (Cmd ι)} :
    admitted b l ≠ [] ↔ ∃ l₁ i l₂, l = l₁ ++ .request i :: l₂ ∧ isShut b l₁ = false := by
  constructor
  · intro h
    induction l generalizing b with
    | nil => exact absurd rfl h
    | cons c l ih =>
      have hrest : admitted (step b c) l ≠ [] →
          ∃ l₁ i l₂, c :: l = l₁ ++ .request i :: l₂ ∧ isShut b l₁ = false := by
        intro hne
        obtain ⟨l₁, i, l₂, hl, hopen⟩ := ih hne
        exact ⟨c :: l₁, i, l₂, by rw [hl]; rfl, hopen⟩
      cases c with
      | request i =>
        cases b with
        | true => exact hrest h
        | false => exact ⟨[], i, l, rfl, rfl⟩
      | shut | reopen | other => exact hrest h
  · rintro ⟨l₁, i, l₂, rfl, hopen⟩
    rw [admitted_append, hopen]
    simp [admitted]

/-- An open gate that was shut before has been reopened. -/
theorem reopened_of_not_isShut {l : List (Cmd ι)} (h : isShut true l = false) :
    ∃ l₁ l₂, l = l₁ ++ .reopen :: l₂ := by
  induction l with
  | nil => simp at h
  | cons c l ih =>
    cases c with
    | reopen => exact ⟨[], l, rfl⟩
    | shut | request | other =>
      obtain ⟨l₁, l₂, hl⟩ := ih h
      exact ⟨_ :: l₁, l₂, by rw [hl]; rfl⟩

/-- A request was deferred, and the gate reopened afterwards. -/
def Stranded (l : List (Cmd ι)) : Prop :=
  ∃ l₁ i l₂ l₃, l = l₁ ++ .request i :: (l₂ ++ .reopen :: l₃) ∧ isShut false l₁ = true

/-- A list strands a request exactly if one of its prefixes deferred a request and leaves the gate
open. -/
theorem stranded_iff {l : List (Cmd ι)} :
    Stranded l ↔ ∃ p, p <+: l ∧ isShut false p = false ∧ deferred false p ≠ [] := by
  constructor
  · rintro ⟨l₁, i, l₂, l₃, rfl, hshut⟩
    refine ⟨l₁ ++ .request i :: (l₂ ++ [.reopen]), ⟨l₃, by simp⟩, ?_, ?_⟩
    · simp [isShut, step]
    · exact deferred_ne_nil_iff.mpr ⟨l₁, i, _, rfl, hshut⟩
  · rintro ⟨p, ⟨rest, rfl⟩, hopen, hne⟩
    obtain ⟨l₁, i, l₂, rfl, hshut⟩ := deferred_ne_nil_iff.mp hne
    rw [isShut_append, hshut] at hopen
    obtain ⟨m₁, m₂, rfl⟩ := reopened_of_not_isShut (l := l₂) hopen
    exact ⟨l₁, i, m₁, m₂ ++ rest, by simp, hshut⟩

end Gate
