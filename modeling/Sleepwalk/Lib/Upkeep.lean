import Sleepwalk.Lib.Custody

/-!
# Nothing runs unheld

`Tended` says of a state of `Custody` that every process that runs is held by a place, and that
every process a place may run does run. A place keeps it so if it only takes up processes that are
new, stops what it lets go, and leaves the processes of others alone (`Tends`).

That no process has two holders, which soundness gives, is what makes this local: nobody else's
process is stopped by it (`Tended.setClaim`).
-/

namespace Custody

variable {P S Q : Type*}

/-- A process runs. -/
def Running (proc : P → Option (Proc P)) (p : P) : Prop :=
  ∃ pr, proc p = some pr ∧ pr.running = true

/-- Whatever runs is held by a place, and whatever a place may run is running. -/
structure Tended (s : State P S Q) : Prop where
  /-- No process runs unheld. -/
  held : ∀ p, Running s.proc p → ∃ q, (s.claim q).proc = some p
  /-- No place has a dead guest. -/
  live : ∀ q p, s.claim q = .live p → Running s.proc p

/-- What a place may do to the processes as its claim changes. -/
structure Tends (proc proc' : P → Option (Proc P)) (c c' : Claim P S) : Prop where
  /-- It leaves other processes as they are. -/
  others : ∀ p, c.proc ≠ some p → c'.proc ≠ some p → proc' p = proc p
  /-- A process it takes up is new. -/
  fresh : ∀ p, c.proc ≠ some p → c'.proc = some p → proc p = none
  /-- A process it lets go does not run. -/
  stopped : ∀ p, c.proc = some p → c'.proc ≠ some p → ¬ Running proc' p
  /-- What it may run runs, if that was so before. -/
  live : ∀ p, c' = .live p → (c = .live p → Running proc p) → Running proc' p

/-! ## Keeping a state tended -/

section State

variable {s s' : State P S Q} {q q' : Q} {c : Claim P S} {p : P}

theorem tended_empty : Tended (P := P) (S := S) (Q := Q)
    { proc := fun _ => none, parcel := fun _ => none, claim := fun _ => .nothing } where
  held p hrun := by
    obtain ⟨pr, hpr, -⟩ := hrun
    simp at hpr
  live q p hq := by simp at hq

variable [DecidableEq Q]

/-- One place that tends its process keeps the whole state tended. -/
theorem Tended.setClaim (h : Tended s) (hsound : Sound s)
    (htends : Tends s.proc s'.proc (s.claim q) c) (hclaim : s'.claim = s.claim) :
    Tended (s'.setClaim q c) := by
  have hself : (s'.setClaim q c).claim q = c := Function.update_self ..
  have hother : ∀ q', q' ≠ q → (s'.setClaim q c).claim q' = s.claim q' := by
    intro q' hq'
    rw [← hclaim]
    exact Function.update_of_ne hq' ..
  constructor
  · intro p hrun
    by_cases hnew : c.proc = some p
    · exact ⟨q, by rw [hself, hnew]⟩
    by_cases hold : (s.claim q).proc = some p
    · exact absurd hrun (htends.stopped p hold hnew)
    -- The process is somebody else's, so it ran before.
    obtain ⟨q', hq'⟩ := h.held p (by
      unfold Running
      rw [← htends.others p hold hnew]
      exact hrun)
    have hne : q' ≠ q := by
      rintro rfl
      exact hold hq'
    exact ⟨q', by rw [hother q' hne, hq']⟩
  · intro q' p hq'
    by_cases hne : q' = q
    · subst hne
      rw [hself] at hq'
      exact htends.live p hq' (h.live q' p)
    rw [hother q' hne] at hq'
    have hrun := h.live q' p hq'
    have hold : (s.claim q).proc ≠ some p := by
      intro hq
      exact hne (hsound.holder_unique (by rw [hq']; rfl) hq)
    have hnew : c.proc ≠ some p := by
      intro hc
      obtain ⟨pr, hpr, -⟩ := hrun
      simp [htends.fresh p hold hc] at hpr
    change Running s'.proc p
    unfold Running
    rw [htends.others p hold hnew]
    exact hrun

/-- A running guest changes hands. -/
theorem Tended.give (h : Tended s) (hq : s.claim q = .live p) (hq' : s.claim q' = .nothing) :
    Tended ((s.setClaim q .nothing).setClaim q' (.live p)) := by
  have hother : ∀ q'', q'' ≠ q' → q'' ≠ q →
      ((s.setClaim q .nothing).setClaim q' (.live p)).claim q'' = s.claim q'' := by
    intro q'' hne hne'
    exact (Function.update_of_ne hne ..).trans (Function.update_of_ne hne' ..)
  have hself : ((s.setClaim q .nothing).setClaim q' (.live p)).claim q' = .live p :=
    Function.update_self ..
  constructor
  · intro p' hrun
    obtain ⟨q'', hq''⟩ := h.held p' hrun
    by_cases hfrom : q'' = q
    · rw [hfrom, hq] at hq''
      exact ⟨q', by rw [hself, hq'']⟩
    have hto : q'' ≠ q' := by
      rintro rfl
      simp [hq', Claim.proc] at hq''
    exact ⟨q'', by rw [hother q'' hto hfrom, hq'']⟩
  · intro q'' p' hq''
    by_cases hto : q'' = q'
    · subst hto
      obtain rfl : p = p' := by simpa [hself] using hq''
      exact h.live q p hq
    by_cases hfrom : q'' = q
    · subst hfrom
      simp [State.setClaim, Function.update_of_ne hto] at hq''
    rw [hother q'' hto hfrom] at hq''
    exact h.live q'' p' hq''

end State

/-! ## Tending a process -/

section Tends

variable {proc : P → Option (Proc P)} {c c' : Claim P S} {p : P}

/-- A place that goes on with the process it has. -/
theorem Tends.same (hproc : c'.proc = c.proc) (hlive : ∀ p, c' = .live p → c = .live p) :
    Tends proc proc c c' where
  others _ _ _ := rfl
  fresh _ hold hnew := absurd (hproc ▸ hnew) hold
  stopped _ hold hnew := absurd (hproc ▸ hold) hnew
  live p hp hrun := hrun (hlive p hp)

/-- A place that stops its process, whether it keeps it or not. -/
theorem Tends.stop {proc' : P → Option (Proc P)} (hc : c.proc = some p)
    (hc' : c'.proc = none ∨ c'.proc = some p) (hlive : ∀ p, c' ≠ .live p)
    (hothers : ∀ p', p' ≠ p → proc' p' = proc p') (hstopped : ¬ Running proc' p) :
    Tends proc proc' c c' where
  others p' hold _ := by
    refine hothers p' ?_
    rintro rfl
    exact hold hc
  fresh p' hold hnew := by
    rcases hc' with hnone | hkept
    · simp [hnone] at hnew
    · exact absurd (hc.trans (hkept.symm.trans hnew)) hold
  stopped p' hold _ := by
    obtain rfl := Option.some_inj.mp (hc.symm.trans hold)
    exact hstopped
  live p' hp' _ := absurd hp' (hlive p')

variable [DecidableEq P]

/-- A place that changes the process it has. -/
theorem Tends.update {pr : Proc P} (hc : c.proc = some p) (hc' : c'.proc = some p)
    (hlive : (∃ p, c' = .live p) → pr.running = true) :
    Tends proc (Function.update proc p (some pr)) c c' where
  others p' hold _ := by
    refine Function.update_of_ne ?_ ..
    rintro rfl
    exact hold hc
  fresh p' hold hnew := absurd (hc.trans (hc'.symm.trans hnew)) hold
  stopped p' hold hnew := absurd (hc'.trans (hc.symm.trans hold)) hnew
  live p' hp _ := by
    obtain rfl : p = p' := by
      rw [hp] at hc'
      exact (Option.some_inj.mp hc').symm
    exact ⟨pr, Function.update_self .., hlive ⟨p, hp⟩⟩

/-- A place that launches a process. -/
theorem Tends.launch {pr : Proc P} (hp : proc p = none) (hc : c.proc = none)
    (hc' : c'.proc = some p) (hlive : ∀ p, c' ≠ .live p) :
    Tends proc (Function.update proc p (some pr)) c c' where
  others p' _ hnew := by
    refine Function.update_of_ne ?_ ..
    rintro rfl
    exact hnew hc'
  fresh p' _ hnew := by
    obtain rfl := Option.some_inj.mp (hc'.symm.trans hnew)
    exact hp
  stopped p' hold _ := by simp [hc] at hold
  live p' hp' _ := absurd hp' (hlive p')

end Tends

end Custody
