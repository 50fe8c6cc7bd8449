import Mathlib.Data.List.Basic

/-!
# Bracketed logs

A log of `start i` and `stop i` marks over an arbitrary type of ids, as a sequential worker leaves
it. Three readings of such a log are compared:

* `openMark l` — the id of the last start that no stop follows;
* `track l` — the automaton of strictly alternating logs with matching ids, `none` once the log
  leaves that language;
* `SettledBut o l` — every start has been followed by its own stop before the next start, except
  possibly a last one with id `o`. This is what survives when marks get lost on the way.

`completed l` collects the ids of the brackets that were closed, in the order they closed.
-/

namespace Bracket

variable {ι : Type*}

/-- An entry of a log that was extended stands in the log or in the extension. -/
theorem append_eq_split {α : Type*} {l₁ l₂ pre post : List α} {e : α}
    (h : l₁ ++ l₂ = pre ++ e :: post) :
    (∃ post', post = post' ++ l₂ ∧ l₁ = pre ++ e :: post') ∨
      ∃ pre', pre = l₁ ++ pre' ∧ l₂ = pre' ++ e :: post := by
  rcases List.append_eq_append_iff.mp h with ⟨pre', hpre, hl₂⟩ | ⟨l, hl₁, hrest⟩
  · exact Or.inr ⟨pre', hpre, hl₂⟩
  · cases l with
    | nil => exact Or.inr ⟨[], by simpa using hl₁.symm, by simpa using hrest.symm⟩
    | cons e' post' =>
      obtain ⟨rfl, hpost⟩ := List.cons.inj hrest
      exact Or.inl ⟨post', hpost, hl₁⟩

/-- The only entry of a log is where any split of the log stands. -/
theorem singleton_eq_split {α : Type*} {m e : α} {pre post : List α}
    (h : [m] = pre ++ e :: post) : pre = [] ∧ m = e ∧ post = [] := by
  cases pre with
  | nil =>
    obtain ⟨he, hpost⟩ := List.cons.inj h
    exact ⟨rfl, he, hpost.symm⟩
  | cons a pre => simp at h

/-- One mark of a log of bracketed work. -/
inductive Mark (ι : Type*) where
  /-- Work on `i` started. -/
  | start (i : ι)
  /-- Work on `i` stopped. -/
  | stop (i : ι)
deriving DecidableEq, Repr

namespace Mark

/-- The mark opens a bracket. -/
def IsStart : Mark ι → Prop
  | start _ => True
  | stop _ => False

@[simp]
theorem isStart_start (i : ι) : (start i).IsStart := trivial

@[simp]
theorem not_isStart_stop (i : ι) : ¬ (stop i).IsStart := id

end Mark

open Mark

/-! ## The open bracket -/

/-- What one mark does to the open bracket. -/
def openStep : Option ι → Mark ι → Option ι
  | _, start i => some i
  | _, stop _ => none

/-- The id of the last start that no stop follows. -/
def openMark (l : List (Mark ι)) : Option ι := l.foldl openStep none

section Alternation

variable [DecidableEq ι]

/-- One step of the automaton of alternating logs: a start needs no bracket open, a stop needs
its own. -/
def trackStep : Option ι → Mark ι → Option (Option ι)
  | none, start i => some (some i)
  | some i, stop j => if i = j then some none else none
  | some _, start _ => none
  | none, stop _ => none

/-- The bracket open after a log that alternates strictly with matching ids; `none` for any
other log. -/
def track (l : List (Mark ι)) : Option (Option ι) := l.foldlM trackStep none

/-- Starts and stops alternate strictly, each stop naming the start before it. -/
def Alternates (l : List (Mark ι)) : Prop := (track l).isSome

@[simp]
theorem track_nil : track ([] : List (Mark ι)) = some none := rfl

/-- The automaton reads a concatenation part by part. -/
theorem track_append (l₁ l₂ : List (Mark ι)) :
    track (l₁ ++ l₂) = (track l₁).bind fun o => l₂.foldlM trackStep o := by
  simp [track, List.foldlM_append]

/-- A start extends an alternating log with nothing open. -/
theorem track_append_start {l : List (Mark ι)} (h : track l = some none) (i : ι) :
    track (l ++ [start i]) = some (some i) := by
  simp [track_append, h, trackStep]

/-- A stop extends an alternating log whose open bracket it names. -/
theorem track_append_stop {l : List (Mark ι)} {i : ι} (h : track l = some (some i)) :
    track (l ++ [stop i]) = some none := by
  simp [track_append, h, trackStep]

/-- The automaton and the fold agree on what is open. -/
theorem foldl_openStep_of_foldlM {l : List (Mark ι)} {o o' : Option ι}
    (h : l.foldlM trackStep o = some o') : l.foldl openStep o = o' := by
  induction l generalizing o with
  | nil => simpa using h
  | cons m l ih =>
    rw [List.foldlM_cons] at h
    obtain ⟨o₁, hstep, hrest⟩ := Option.bind_eq_some_iff.mp h
    have hopen : openStep o m = o₁ := by
      cases o <;> cases m <;> simp [trackStep, openStep] at hstep ⊢
      · exact hstep
      · exact hstep.2
    rw [List.foldl_cons, hopen]
    exact ih hrest

/-- On an alternating log `openMark` is the bracket the automaton has open. -/
theorem openMark_of_track {l : List (Mark ι)} {o : Option ι} (h : track l = some o) :
    openMark l = o := foldl_openStep_of_foldlM h

end Alternation

/-! ## Settled logs -/

/-- Every start is followed by its own stop before the next start, except possibly a last one,
whose id is `o`. -/
def SettledBut (o : Option ι) (l : List (Mark ι)) : Prop :=
  ∀ pre i post, l = pre ++ start i :: post →
    (∃ mid rest, post = mid ++ stop i :: rest ∧ ∀ m ∈ mid, ¬ m.IsStart) ∨
      (o = some i ∧ ∀ m ∈ post, ¬ m.IsStart)

/-- Every start is followed by its own stop before the next start. -/
def Settled (l : List (Mark ι)) : Prop := SettledBut none l

theorem settledBut_nil (o : Option ι) : SettledBut o ([] : List (Mark ι)) := by
  intro pre i post h
  simp at h

/-- A settled log stays so when an exception is allowed. -/
theorem Settled.but {l : List (Mark ι)} (h : Settled l) (o : Option ι) : SettledBut o l := by
  intro pre i post hl
  rcases h pre i post hl with hstop | ⟨hnone, -⟩
  · exact Or.inl hstop
  · cases hnone

/-- A start may be added to a settled log: it is then the one exception. -/
theorem Settled.append_start {l : List (Mark ι)} (h : Settled l) (i : ι) :
    SettledBut (some i) (l ++ [start i]) := by
  intro pre j post hl
  rcases append_eq_split hl with ⟨post', hpost, hl'⟩ | ⟨pre', -, hm⟩
  · rcases h pre j post' hl' with ⟨mid, rest, hrest, hmid⟩ | ⟨hnone, -⟩
    · exact Or.inl ⟨mid, rest ++ [start i], by simp [hpost, hrest], hmid⟩
    · cases hnone
  · obtain ⟨-, hij, hpost⟩ := singleton_eq_split hm
    exact Or.inr ⟨by rw [Mark.start.inj hij], by simp [hpost]⟩

/-- The stop of the exception settles the log. -/
theorem SettledBut.append_stop {l : List (Mark ι)} {i : ι} (h : SettledBut (some i) l) :
    Settled (l ++ [stop i]) := by
  intro pre j post hl
  rcases append_eq_split hl with ⟨post', hpost, hl'⟩ | ⟨pre', -, hm⟩
  · rcases h pre j post' hl' with ⟨mid, rest, hrest, hmid⟩ | ⟨hij, hmid⟩
    · exact Or.inl ⟨mid, rest ++ [stop i], by simp [hpost, hrest], hmid⟩
    · have hij' : i = j := by simpa using hij
      subst hij'
      exact Or.inl ⟨post', [], by simp [hpost], hmid⟩
  · cases (singleton_eq_split hm).2.1

/-- A stop never unsettles a log, whatever it names. -/
theorem SettledBut.append_any_stop {o : Option ι} {l : List (Mark ι)} (h : SettledBut o l)
    (i : ι) : SettledBut o (l ++ [stop i]) := by
  intro pre j post hl
  rcases append_eq_split hl with ⟨post', hpost, hl'⟩ | ⟨pre', -, hm⟩
  · rcases h pre j post' hl' with ⟨mid, rest, hrest, hmid⟩ | ⟨ho, hmid⟩
    · exact Or.inl ⟨mid, rest ++ [stop i], by simp [hpost, hrest], hmid⟩
    · refine Or.inr ⟨ho, ?_⟩
      intro m hm
      rw [hpost, List.mem_append, List.mem_singleton] at hm
      rcases hm with hm | rfl
      · exact hmid m hm
      · simp
  · cases (singleton_eq_split hm).2.1

/-! ## Completed brackets -/

section Completed

variable [DecidableEq ι]

/-- What one mark does to the open bracket and the brackets closed so far. -/
def closeStep : Option ι × List ι → Mark ι → Option ι × List ι
  | (_, done), start i => (some i, done)
  | (some i, done), stop j => if i = j then (none, done ++ [i]) else (some i, done)
  | (none, done), stop _ => (none, done)

/-- The ids of the brackets that were opened and then closed, in the order they closed. -/
def completed (l : List (Mark ι)) : List ι := (l.foldl closeStep (none, [])).2

@[simp]
theorem completed_nil : completed ([] : List (Mark ι)) = [] := rfl

/-- A whole bracket at the end of a log is one more completed bracket. -/
theorem completed_append_bracket (l : List (Mark ι)) (i : ι) :
    completed (l ++ [start i, stop i]) = completed l ++ [i] := by
  simp [completed, List.foldl_append, closeStep]

end Completed

end Bracket
