import Sleepwalk.Lib.Bytes

/-!
# Computations that may not return

A computation over a state whose operations fail, or never complete. A failure can be looked at with
`attempt`; what never completes keeps its caller waiting as well. `onError` cleans up after a
failure.

`Keeps P m` says that a property of the state outlives a computation, however it ends.
-/

namespace Exec

variable {ε ε' σ α β : Type}

/-- Why a computation has no value. -/
inductive Stop (ε : Type) where
  /-- It failed. -/
  | failed (e : ε)
  /-- It never returns. -/
  | stuck
deriving DecidableEq, Repr

/-- The same with another error. -/
def Stop.map (f : ε → ε') : Stop ε → Stop ε'
  | .failed e => .failed (f e)
  | .stuck => .stuck

/-- An operation that does not touch the state, by its result. -/
def outcome (r : Except ε α) : ExceptT ε (StateM σ) α := ExceptT.mk (pure r)

@[simp]
theorem exec_outcome (r : Except ε α) (s : σ) :
    exec (outcome r : ExceptT ε (StateM σ) α) s = (r, s) := rfl

/-- The result of a computation as a value. -/
def attempt (m : ExceptT (Stop ε) (StateM σ) α) : ExceptT (Stop ε') (StateM σ) (Except ε α) :=
  ExceptT.mk do
    match ← m.run with
    | .ok a => return .ok (.ok a)
    | .error (.failed e) => return .ok (.error e)
    | .error .stuck => return .error .stuck

theorem exec_attempt (m : ExceptT (Stop ε) (StateM σ) α) (s : σ) :
    exec (attempt m : ExceptT (Stop ε') (StateM σ) (Except ε α)) s =
      match exec m s with
      | (.ok a, s') => (.ok (.ok a), s')
      | (.error (.failed e), s') => (.ok (.error e), s')
      | (.error .stuck, s') => (.error .stuck, s') := by
  rw [exec, exec, attempt, ExceptT.run_mk, StateT.run_bind]
  rcases m.run.run s with ⟨(e | _) | a, s'⟩
  · rfl
  · rfl
  · rfl

/-- Clean up the state if a computation fails. -/
def onError (cleanup : σ → σ) (m : ExceptT ε (StateM σ) α) : ExceptT ε (StateM σ) α := fun s =>
  match exec m s with
  | (.ok a, s') => (.ok a, s')
  | (.error e, s') => (.error e, cleanup s')

theorem exec_onError (cleanup : σ → σ) (m : ExceptT ε (StateM σ) α) (s : σ) :
    exec (onError cleanup m) s =
      match exec m s with
      | (.ok a, s') => (.ok a, s')
      | (.error e, s') => (.error e, cleanup s') := rfl

theorem exec_onError_ok_iff {cleanup : σ → σ} {m : ExceptT ε (StateM σ) α} {s s' : σ} {a : α} :
    exec (onError cleanup m) s = (.ok a, s') ↔ exec m s = (.ok a, s') := by
  rw [exec_onError]
  rcases exec m s with ⟨e | b, s''⟩
  · simp
  · simp

theorem exec_onError_error_iff {cleanup : σ → σ} {m : ExceptT ε (StateM σ) α} {s s' : σ} {e : ε} :
    exec (onError cleanup m) s = (.error e, s') ↔
      ∃ s'', exec m s = (.error e, s'') ∧ s' = cleanup s'' := by
  rw [exec_onError]
  rcases exec m s with ⟨e' | a, s''⟩
  · simp [and_comm, eq_comm]
  · simp

/-- The computation with another error where it fails. -/
def mapFailed (f : ε → ε') (m : ExceptT (Stop ε) (StateM σ) α) : ExceptT (Stop ε') (StateM σ) α :=
  fun s => ((exec m s).1.mapError (Stop.map f), (exec m s).2)

@[simp]
theorem exec_mapFailed (f : ε → ε') (m : ExceptT (Stop ε) (StateM σ) α) (s : σ) :
    exec (mapFailed f m) s = ((exec m s).1.mapError (Stop.map f), (exec m s).2) := rfl

/-- A computation on the first part of a state. -/
def onFst {τ : Type} (m : ExceptT ε (StateM σ) α) : ExceptT ε (StateM (σ × τ)) α := fun s =>
  ((exec m s.1).1, ((exec m s.1).2, s.2))

@[simp]
theorem exec_onFst {τ : Type} (m : ExceptT ε (StateM σ) α) (s : σ) (t : τ) :
    exec (onFst m) (s, t) = ((exec m s).1, ((exec m s).2, t)) := rfl

/-- A computation, its result noted beside the state. -/
def noted {τ : Type} (entry : Except ε α → τ) (m : ExceptT ε (StateM σ) α) :
    ExceptT ε (StateM (σ × List τ)) α := fun s =>
  ((exec m s.1).1, ((exec m s.1).2, s.2 ++ [entry (exec m s.1).1]))

@[simp]
theorem exec_noted {τ : Type} (entry : Except ε α → τ) (m : ExceptT ε (StateM σ) α) (s : σ)
    (log : List τ) :
    exec (noted entry m) (s, log) =
      ((exec m s).1, ((exec m s).2, log ++ [entry (exec m s).1])) := rfl

/-! ## Whether a computation returns -/

/-- The computation returns a value. -/
def Returns (m : ExceptT ε (StateM σ) α) (s : σ) : Prop := ∃ a s', exec m s = (.ok a, s')

theorem returns_bind {m : ExceptT ε (StateM σ) α} {f : α → ExceptT ε (StateM σ) β} {s : σ} :
    Returns (m >>= f) s ↔ ∃ a s', exec m s = (.ok a, s') ∧ Returns (f a) s' := by
  constructor
  · rintro ⟨b, s'', h⟩
    obtain ⟨a, s', hm, hf⟩ := exec_bind_ok_iff.mp h
    exact ⟨a, s', hm, b, s'', hf⟩
  · rintro ⟨a, s', hm, b, s'', hf⟩
    exact ⟨b, s'', exec_bind_ok_iff.mpr ⟨a, s', hm, hf⟩⟩

theorem returns_outcome {r : Except ε Unit} {s : σ} :
    Returns (outcome r) s ↔ r = .ok () := by
  constructor
  · rintro ⟨a, s', h⟩
    exact (Prod.mk.inj h).1
  · rintro rfl
    exact ⟨(), s, rfl⟩

/-- A computation that does not return fails. -/
theorem not_returns_iff {m : ExceptT ε (StateM σ) α} {s : σ} :
    ¬ Returns m s ↔ ∃ e s', exec m s = (.error e, s') := by
  rw [Returns]
  rcases exec m s with ⟨e | a, s'⟩
  · simp
  · simp

/-! ## What outlives a computation -/

/-- The property outlives the computation. -/
def Keeps (P : σ → Prop) (m : ExceptT ε (StateM σ) α) : Prop := ∀ s, P s → P (exec m s).2

variable {P : σ → Prop} {m : ExceptT ε (StateM σ) α}

theorem keeps_pure (a : α) : Keeps P (pure a : ExceptT ε (StateM σ) α) := fun _ h => h

theorem keeps_outcome (r : Except ε α) : Keeps P (outcome r) := fun _ h => h

theorem keeps_modify {f : σ → σ} (h : ∀ s, P s → P (f s)) :
    Keeps P (modify f : ExceptT ε (StateM σ) PUnit) := h

theorem Keeps.bind {f : α → ExceptT ε (StateM σ) β} (hm : Keeps P m) (hf : ∀ a, Keeps P (f a)) :
    Keeps P (m >>= f) := by
  intro s hs
  have hmid := hm s hs
  rw [exec_bind]
  rcases hexec : exec m s with ⟨e | a, s'⟩
  · rwa [hexec] at hmid
  · rw [hexec] at hmid
    exact hf a s' hmid

/-! ## What a computation ensures -/

/-- From a state with `P`, the computation ends with `Q` of its value and state, or fails in a state
with `E`. -/
def Ensures (P : σ → Prop) (m : ExceptT ε (StateM σ) α) (Q : α → σ → Prop) (E : σ → Prop) : Prop :=
  ∀ s, P s →
    match exec m s with
    | (.ok a, s') => Q a s'
    | (.error _, s') => E s'

variable {Q : α → σ → Prop} {E : σ → Prop}

theorem Ensures.ok (h : Ensures P m Q E) {s s' : σ} {a : α} (hs : P s)
    (hexec : exec m s = (.ok a, s')) : Q a s' := by
  have hend := h s hs
  rwa [hexec] at hend

theorem Ensures.error (h : Ensures P m Q E) {s s' : σ} {e : ε} (hs : P s)
    (hexec : exec m s = (.error e, s')) : E s' := by
  have hend := h s hs
  rwa [hexec] at hend

theorem ensures_pure {a : α} (h : ∀ s, P s → Q a s) :
    Ensures P (pure a : ExceptT ε (StateM σ) α) Q E := h

theorem Keeps.ensures (h : Keeps P m) (hE : ∀ s, P s → E s) : Ensures P m (fun _ => P) E := by
  intro s hs
  have hend := h s hs
  rcases hexec : exec m s with ⟨e | a, s'⟩
  · rw [hexec] at hend
    exact hE s' hend
  · rwa [hexec] at hend

theorem Ensures.bind {f : α → ExceptT ε (StateM σ) β} {R : β → σ → Prop} (hm : Ensures P m Q E)
    (hf : ∀ a, Ensures (Q a) (f a) R E) : Ensures P (m >>= f) R E := by
  intro s hs
  have hend := hm s hs
  rw [exec_bind]
  rcases hexec : exec m s with ⟨e | a, s'⟩
  · rwa [hexec] at hend
  · rw [hexec] at hend
    exact hf a s' hend

/-! ## One computation following another -/

section Follows

variable {τ α' β' : Type} {R : σ → τ → Prop} {V : α → α' → Prop} {W : β → β' → Prop}
  {n : ExceptT ε (StateM τ) α'}

/-- What two runs end with: related values or the same error, in related states. -/
def Matches (R : σ → τ → Prop) (V : α → α' → Prop) :
    Except ε α × σ → Except ε α' × τ → Prop
  | (.ok a, s), (.ok b, t) => V a b ∧ R s t
  | (.error e, s), (.error e', t) => e = e' ∧ R s t
  | _, _ => False

theorem Matches.of_error {x : Except ε α × σ} {e : ε} {t : τ} (h : Matches R V x (.error e, t)) :
    ∃ s, x = (.error e, s) ∧ R s t := by
  rcases x with ⟨e' | a, s⟩
  · obtain ⟨rfl, hR⟩ := h
    exact ⟨s, rfl, hR⟩
  · exact False.elim h

theorem Matches.of_ok {x : Except ε α × σ} {b : α'} {t : τ} (h : Matches R V x (.ok b, t)) :
    ∃ a s, x = (.ok a, s) ∧ V a b ∧ R s t := by
  rcases x with ⟨e | a, s⟩
  · exact False.elim h
  · exact ⟨a, s, rfl, h⟩

/-- From related states, both computations end alike. -/
def Follows (R : σ → τ → Prop) (m : ExceptT ε (StateM σ) α) (n : ExceptT ε (StateM τ) α')
    (V : α → α' → Prop) : Prop :=
  ∀ s t, R s t → Matches R V (exec m s) (exec n t)

theorem follows_pure {a : α} {b : α'} (h : V a b) :
    Follows R (pure a : ExceptT ε (StateM σ) α) (pure b) V := fun _ _ hR => ⟨h, hR⟩

theorem follows_throw {e : ε} :
    Follows R (throw e : ExceptT ε (StateM σ) α) (throw e : ExceptT ε (StateM τ) α') V :=
  fun _ _ hR => ⟨rfl, hR⟩

theorem Follows.bind {f : α → ExceptT ε (StateM σ) β} {f' : α' → ExceptT ε (StateM τ) β'}
    (hm : Follows R m n V) (hf : ∀ a b, V a b → Follows R (f a) (f' b) W) :
    Follows R (m >>= f) (n >>= f') W := by
  intro s t hR
  have hend := hm s t hR
  rw [exec_bind, exec_bind]
  -- If one of them fails, so does the other, and neither goes on.
  rcases hright : exec n t with ⟨e | b, t'⟩
  · rw [hright] at hend
    obtain ⟨s', hleft, hR'⟩ := hend.of_error
    rw [hleft]
    exact ⟨rfl, hR'⟩
  · rw [hright] at hend
    obtain ⟨a, s', hleft, hV, hR'⟩ := hend.of_ok
    rw [hleft]
    exact hf a b hV s' t' hR'

end Follows

end Exec
