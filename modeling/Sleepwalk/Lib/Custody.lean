import Mathlib.Logic.Function.Basic
import Mathlib.Logic.Relation

/-!
# Custody of the right to run

Processes run guests, and a guest can be moved to another process as the content of a parcel.
Places hold claims on processes and parcels, and `Step` is what they may do with them. A guest is
named by the process that booted it, its lineage, which a parcel carries along.

The right to run a guest is never copied: `Ledger` keeps, for every lineage, the one process or
parcel that has it. Nothing in a state says which one that is, so a state is `Sound` if some ledger
fits it, and every step takes one ledger to another. Two processes that run one guest would both
have the right (`Sound.unique`).
-/

namespace Custody

variable {P S Q : Type*}

/-- A process. -/
structure Proc (P : Type*) where
  /-- The guest it was given, by boot or by load. -/
  lineage : Option P
  /-- The guest is running. -/
  running : Bool
  /-- The guest has been paused here. -/
  wasPaused : Bool
deriving DecidableEq, Repr

namespace Proc

/-- A process without a guest. -/
def idle : Proc P := { lineage := none, running := false, wasPaused := false }

/-- A process that was just given a guest. -/
def started (lineage : Option P) : Proc P := { lineage, running := true, wasPaused := false }

/-- A paused process. -/
def pause (pr : Proc P) : Proc P := { pr with running := false, wasPaused := true }

/-- A process that stopped running. -/
def stop (pr : Proc P) : Proc P := { pr with running := false }

end Proc

/-- A guest on its way. -/
structure Parcel (P : Type*) where
  /-- The process it was taken from. -/
  source : P
  /-- Some place has taken it up. -/
  taken : Bool
deriving DecidableEq, Repr

/-- What a place holds. -/
inductive Claim (P S : Type*) where
  /-- Nothing. -/
  | nothing
  /-- A process without a guest. -/
  | fresh (p : P)
  /-- A process with the right to run its guest. -/
  | live (p : P)
  /-- The same, paused. -/
  | frozen (p : P)
  /-- A process and no right. -/
  | husk (p : P)
  /-- A parcel. -/
  | parcel (σ : S)
  /-- A parcel and a process to load it into. -/
  | loading (σ : S) (p : P)
deriving DecidableEq, Repr

/-- The process of a claim. -/
def Claim.proc : Claim P S → Option P
  | .nothing | .parcel _ => none
  | .fresh p | .live p | .frozen p | .husk p | .loading _ p => some p

/-- Processes, parcels, and what each place holds. -/
structure State (P S Q : Type*) where
  /-- The processes launched so far. -/
  proc : P → Option (Proc P)
  /-- The parcels shipped so far. -/
  parcel : S → Option (Parcel P)
  /-- What each place holds. -/
  claim : Q → Claim P S

namespace State

/-- Set a process. -/
def setProc [DecidableEq P] (s : State P S Q) (p : P) (pr : Proc P) : State P S Q :=
  { s with proc := Function.update s.proc p (some pr) }

/-- Set a parcel. -/
def setParcel [DecidableEq S] (s : State P S Q) (σ : S) (pc : Parcel P) : State P S Q :=
  { s with parcel := Function.update s.parcel σ (some pc) }

/-- Set a claim. -/
def setClaim [DecidableEq Q] (s : State P S Q) (q : Q) (c : Claim P S) : State P S Q :=
  { s with claim := Function.update s.claim q c }

@[simp]
theorem setProc_self [DecidableEq P] (s : State P S Q) (p : P) (pr : Proc P) :
    (s.setProc p pr).proc p = some pr := Function.update_self ..

@[simp]
theorem setProc_of_ne [DecidableEq P] (s : State P S Q) {p p' : P} (h : p' ≠ p) (pr : Proc P) :
    (s.setProc p pr).proc p' = s.proc p' := Function.update_of_ne h ..

@[simp]
theorem setParcel_self [DecidableEq S] (s : State P S Q) (σ : S) (pc : Parcel P) :
    (s.setParcel σ pc).parcel σ = some pc := Function.update_self ..

@[simp]
theorem setParcel_of_ne [DecidableEq S] (s : State P S Q) {σ σ' : S} (h : σ' ≠ σ) (pc : Parcel P) :
    (s.setParcel σ pc).parcel σ' = s.parcel σ' := Function.update_of_ne h ..

end State

section Step

variable [DecidableEq P] [DecidableEq S] [DecidableEq Q]

/-- What may happen. -/
inductive Step (s : State P S Q) : State P S Q → Prop where
  /-- A process is launched. -/
  | launch {q : Q} {p : P} (hq : s.claim q = .nothing) (hp : s.proc p = none) :
    Step s ((s.setProc p .idle).setClaim q (.fresh p))
  /-- A process is launched to load a parcel. -/
  | equip {q : Q} {p : P} {σ : S} (hq : s.claim q = .parcel σ) (hp : s.proc p = none) :
    Step s ((s.setProc p .idle).setClaim q (.loading σ p))
  /-- A guest is booted. -/
  | boot {q : Q} {p : P} (hq : s.claim q = .fresh p) :
    Step s ((s.setProc p (.started (some p))).setClaim q (.live p))
  /-- A guest is loaded and resumed. -/
  | load {q : Q} {p : P} {σ : S} {pc : Parcel P} {pr : Proc P} (hq : s.claim q = .loading σ p)
    (hσ : s.parcel σ = some pc) (hsource : s.proc pc.source = some pr) :
    Step s ((s.setProc p (.started pr.lineage)).setClaim q (.live p))
  /-- A guest is paused. -/
  | pause {q : Q} {p : P} {pr : Proc P} (hq : s.claim q = .live p) (hp : s.proc p = some pr) :
    Step s ((s.setProc p pr.pause).setClaim q (.frozen p))
  /-- A paused guest is shipped. -/
  | ship {q : Q} {p : P} {σ : S} (hq : s.claim q = .frozen p) (hσ : s.parcel σ = none) :
    Step s ((s.setParcel σ { source := p, taken := false }).setClaim q (.husk p))
  /-- A parcel is taken up. -/
  | take {q : Q} {σ : S} {p : P} (hq : s.claim q = .nothing)
    (hσ : s.parcel σ = some { source := p, taken := false }) :
    Step s ((s.setParcel σ { source := p, taken := true }).setClaim q (.parcel σ))
  /-- A process stops. -/
  | stop {p : P} {pr : Proc P} (hp : s.proc p = some pr) : Step s (s.setProc p pr.stop)
  /-- A running guest changes hands. -/
  | give (q' : Q) {q : Q} {p : P} (hq : s.claim q = .live p) :
    Step s ((s.setClaim q .nothing).setClaim q' (.live p))
  /-- A place keeps its process but gives up the rest of its claim. -/
  | retire {q : Q} {p : P} (hq : (s.claim q).proc = some p) : Step s (s.setClaim q (.husk p))
  /-- A place gives up its claim. -/
  | release (q : Q) : Step s (s.setClaim q .nothing)

/-- Any number of steps. -/
abbrev Steps : State P S Q → State P S Q → Prop := Relation.ReflTransGen Step

/-- A claim that another one can be given up for. -/
def Claim.Weaker (c' c : Claim P S) : Prop :=
  c' = c ∨ c' = .nothing ∨ ∃ p, c.proc = some p ∧ c' = .husk p

omit [DecidableEq P] [DecidableEq S] in
theorem Claim.Weaker.refl (c : Claim P S) : c.Weaker c := .inl rfl

/-- Giving up some of a claim. -/
theorem steps_weaker {s : State P S Q} {q : Q} {c : Claim P S} (h : c.Weaker (s.claim q)) :
    Steps s (s.setClaim q c) := by
  rcases h with rfl | rfl | ⟨p, hp, rfl⟩
  · have hsame : s.setClaim q (s.claim q) = s := by simp [State.setClaim]
    rw [hsame]
  · exact .single (.release q)
  · exact .single (.retire hp)

/-- Giving up some of a claim right after a step. -/
theorem steps_then_weaker {s s' : State P S Q} {q : Q} {c c' : Claim P S}
    (hstep : Step s (s'.setClaim q c)) (h : c'.Weaker c) : Steps s (s'.setClaim q c') := by
  have hclaim : (s'.setClaim q c).claim q = c := Function.update_self ..
  have hlater : Steps (s'.setClaim q c) ((s'.setClaim q c).setClaim q c') :=
    steps_weaker (by rwa [hclaim])
  have hboth : (s'.setClaim q c).setClaim q c' = s'.setClaim q c' := by simp [State.setClaim]
  rw [hboth] at hlater
  exact .head hstep hlater

end Step

/-! ## The ledger -/

/-- Who has the right to run each lineage, and which place holds each process and each parcel. -/
structure Ledger (P S Q : Type*) where
  /-- The process or parcel with the right to run a lineage. -/
  keeper : P → Option (P ⊕ S)
  /-- The place that holds a process. -/
  owner : P → Option Q
  /-- The place that holds a parcel. -/
  carrier : S → Option Q

namespace Ledger

/-- Reassign the right to run a lineage. -/
def setKeeper [DecidableEq P] (L : Ledger P S Q) (ℓ : P) (x : P ⊕ S) : Ledger P S Q :=
  { L with keeper := Function.update L.keeper ℓ (some x) }

/-- Reassign a process. -/
def setOwner [DecidableEq P] (L : Ledger P S Q) (p : P) (q : Q) : Ledger P S Q :=
  { L with owner := Function.update L.owner p (some q) }

/-- Reassign a parcel. -/
def setCarrier [DecidableEq S] (L : Ledger P S Q) (σ : S) (q : Q) : Ledger P S Q :=
  { L with carrier := Function.update L.carrier σ (some q) }

@[simp]
theorem setKeeper_self [DecidableEq P] (L : Ledger P S Q) (ℓ : P) (x : P ⊕ S) :
    (L.setKeeper ℓ x).keeper ℓ = some x := Function.update_self ..

@[simp]
theorem setKeeper_of_ne [DecidableEq P] (L : Ledger P S Q) {ℓ ℓ' : P} (h : ℓ' ≠ ℓ) (x : P ⊕ S) :
    (L.setKeeper ℓ x).keeper ℓ' = L.keeper ℓ' := Function.update_of_ne h ..

/-- Who has a right keeps it when the right of somebody else is reassigned. -/
theorem setKeeper_keeps [DecidableEq P] (L : Ledger P S Q) {ℓ ℓ' : P} {x y : P ⊕ S}
    (h : L.keeper ℓ' = some y) (hne : L.keeper ℓ ≠ some y) :
    (L.setKeeper ℓ x).keeper ℓ' = some y := by
  have hℓ : ℓ' ≠ ℓ := by
    rintro rfl
    exact hne h
  exact (L.setKeeper_of_ne hℓ x).trans h

@[simp]
theorem setOwner_self [DecidableEq P] (L : Ledger P S Q) (p : P) (q : Q) :
    (L.setOwner p q).owner p = some q := Function.update_self ..

@[simp]
theorem setOwner_of_ne [DecidableEq P] (L : Ledger P S Q) {p p' : P} (h : p' ≠ p) (q : Q) :
    (L.setOwner p q).owner p' = L.owner p' := Function.update_of_ne h ..

@[simp]
theorem setCarrier_self [DecidableEq S] (L : Ledger P S Q) (σ : S) (q : Q) :
    (L.setCarrier σ q).carrier σ = some q := Function.update_self ..

@[simp]
theorem setCarrier_of_ne [DecidableEq S] (L : Ledger P S Q) {σ σ' : S} (h : σ' ≠ σ) (q : Q) :
    (L.setCarrier σ q).carrier σ' = L.carrier σ' := Function.update_of_ne h ..

end Ledger

variable {s s' : State P S Q} {L L' : Ledger P S Q} {q q' : Q} {p p' : P} {σ : S}

/-- A taken parcel with the right to run its lineage. -/
def Carried (s : State P S Q) (L : Ledger P S Q) (q : Q) (σ : S) : Prop :=
  L.carrier σ = some q ∧ ∃ pc pr ℓ, s.parcel σ = some pc ∧ pc.taken = true ∧
    s.proc pc.source = some pr ∧ pr.lineage = some ℓ ∧ L.keeper ℓ = some (.inr σ)

/-- What the ledger says about the claim of a place. -/
def Backed (s : State P S Q) (L : Ledger P S Q) (q : Q) : Claim P S → Prop
  | .nothing => True
  | .fresh p => L.owner p = some q ∧ ∃ pr, s.proc p = some pr ∧ pr.lineage = none ∧
      pr.wasPaused = false
  | .live p => L.owner p = some q ∧ ∃ pr ℓ, s.proc p = some pr ∧ pr.lineage = some ℓ ∧
      L.keeper ℓ = some (.inl p) ∧ pr.wasPaused = false
  | .frozen p => L.owner p = some q ∧ ∃ pr ℓ, s.proc p = some pr ∧ pr.lineage = some ℓ ∧
      L.keeper ℓ = some (.inl p) ∧ pr.wasPaused = true
  | .husk p => L.owner p = some q ∧ s.proc p ≠ none
  | .parcel σ => Carried s L q σ
  | .loading σ p => Carried s L q σ ∧ L.owner p = some q ∧ ∃ pr, s.proc p = some pr ∧
      pr.lineage = none ∧ pr.wasPaused = false

/-- The ledger fits the state. -/
structure Fits (s : State P S Q) (L : Ledger P S Q) : Prop where
  /-- A running process has the right to run its lineage. -/
  running : ∀ p pr, s.proc p = some pr → pr.running = true →
    ∃ ℓ, pr.lineage = some ℓ ∧ L.keeper ℓ = some (.inl p)
  /-- A process that was paused stays so. -/
  paused : ∀ p pr, s.proc p = some pr → pr.wasPaused = true → pr.running = false
  /-- Rights exist for booted guests only. -/
  origin : ∀ ℓ, L.keeper ℓ ≠ none → ∃ pr, s.proc ℓ = some pr ∧ pr.lineage = some ℓ
  /-- The source of a parcel was paused, and a parcel not taken up has the right. -/
  shipped : ∀ σ pc, s.parcel σ = some pc → ∃ pr ℓ, s.proc pc.source = some pr ∧
    pr.lineage = some ℓ ∧ pr.wasPaused = true ∧ (pc.taken = false → L.keeper ℓ = some (.inr σ))
  /-- Every claim is backed. -/
  claims : ∀ q, Backed s L q (s.claim q)

/-- Some ledger fits the state. -/
def Sound (s : State P S Q) : Prop := ∃ L : Ledger P S Q, Fits s L

/-! ### What a sound state rules out -/

/-- With nothing launched, shipped or claimed there is nothing to keep. -/
theorem sound_empty : Sound (P := P) (S := S) (Q := Q)
    { proc := fun _ => none, parcel := fun _ => none, claim := fun _ => .nothing } := by
  refine ⟨{ keeper := fun _ => none, owner := fun _ => none, carrier := fun _ => none }, ?_⟩
  exact ⟨by simp, by simp, by simp, by simp, fun _ => trivial⟩

/-- No two processes run one guest. -/
theorem Sound.unique (h : Sound s) {pr pr' : Proc P} (hp : s.proc p = some pr)
    (hp' : s.proc p' = some pr') (hrun : pr.running = true) (hrun' : pr'.running = true)
    (hsame : pr.lineage = pr'.lineage) : p = p' := by
  obtain ⟨L, hfits⟩ := h
  obtain ⟨ℓ, hlineage, hkeeper⟩ := hfits.running p pr hp hrun
  obtain ⟨ℓ', hlineage', hkeeper'⟩ := hfits.running p' pr' hp' hrun'
  obtain rfl : ℓ = ℓ' := by
    rw [hlineage, hlineage'] at hsame
    exact Option.some_inj.mp hsame
  rw [hkeeper] at hkeeper'
  simpa using hkeeper'

/-- A process that was paused does not run. -/
theorem Sound.paused (h : Sound s) {pr : Proc P} (hp : s.proc p = some pr)
    (hpaused : pr.wasPaused = true) : pr.running = false := by
  obtain ⟨L, hfits⟩ := h
  exact hfits.paused p pr hp hpaused

/-- The source of a parcel has a guest, which was paused there. -/
theorem Sound.source (h : Sound s) {pc : Parcel P} (hσ : s.parcel σ = some pc) :
    ∃ pr ℓ, s.proc pc.source = some pr ∧ pr.lineage = some ℓ ∧ pr.wasPaused = true := by
  obtain ⟨L, hfits⟩ := h
  obtain ⟨pr, ℓ, hpr, hlineage, hpaused, -⟩ := hfits.shipped σ pc hσ
  exact ⟨pr, ℓ, hpr, hlineage, hpaused⟩

/-- A process that is claimed fresh has no guest. -/
theorem Sound.fresh_idle (h : Sound s) (hq : s.claim q = .fresh p) :
    ∃ pr, s.proc p = some pr ∧ pr.lineage = none ∧ pr.wasPaused = false := by
  obtain ⟨L, hfits⟩ := h
  have hbacked := hfits.claims q
  rw [hq] at hbacked
  exact hbacked.2

/-- A process that is claimed for a load has no guest, and the parcel is there. -/
theorem Sound.loading_idle (h : Sound s) (hq : s.claim q = .loading σ p) :
    (∃ pr, s.proc p = some pr ∧ pr.lineage = none ∧ pr.wasPaused = false) ∧
      ∃ pc, s.parcel σ = some pc := by
  obtain ⟨L, hfits⟩ := h
  have hbacked := hfits.claims q
  rw [hq] at hbacked
  obtain ⟨⟨-, pc, _, _, hpc, -⟩, -, hidle⟩ := hbacked
  exact ⟨hidle, pc, hpc⟩

/-- A process that is claimed live has not been paused. -/
theorem Sound.live_not_paused (h : Sound s) (hq : s.claim q = .live p) :
    ∃ pr, s.proc p = some pr ∧ pr.wasPaused = false := by
  obtain ⟨L, hfits⟩ := h
  have hbacked := hfits.claims q
  rw [hq] at hbacked
  obtain ⟨-, pr, _, hpr, -, -, hpaused⟩ := hbacked
  exact ⟨pr, hpr, hpaused⟩

/-- A claim on a process is backed by its owner. -/
theorem Backed.owner {c : Claim P S} (h : Backed s L q c) (hp : c.proc = some p) :
    L.owner p = some q := by
  cases c with
  | nothing | parcel => simp [Claim.proc] at hp
  | fresh | live | frozen | husk =>
    obtain rfl := Option.some_inj.mp hp
    exact h.1
  | loading =>
    obtain rfl := Option.some_inj.mp hp
    exact h.2.1

/-- A claimed process has been launched. -/
theorem Backed.born {c : Claim P S} (h : Backed s L q c) (hp : c.proc = some p) :
    s.proc p ≠ none := by
  cases c with
  | nothing | parcel => simp [Claim.proc] at hp
  | fresh =>
    obtain rfl := Option.some_inj.mp hp
    obtain ⟨-, pr, hpr, -⟩ := h
    simp [hpr]
  | live | frozen =>
    obtain rfl := Option.some_inj.mp hp
    obtain ⟨-, pr, _, hpr, -⟩ := h
    simp [hpr]
  | husk =>
    obtain rfl := Option.some_inj.mp hp
    exact h.2
  | loading =>
    obtain rfl := Option.some_inj.mp hp
    obtain ⟨-, -, pr, hpr, -⟩ := h
    simp [hpr]

/-- No two places hold one process. -/
theorem Sound.holder_unique (h : Sound s) (hq : (s.claim q).proc = some p)
    (hq' : (s.claim q').proc = some p) : q = q' := by
  obtain ⟨L, hfits⟩ := h
  have howner := (hfits.claims q).owner hq
  rw [(hfits.claims q').owner hq'] at howner
  exact (Option.some_inj.mp howner).symm

/-! ### Steps keep states sound -/

/-- What is left alone for the place `q` when a state and a ledger change: its processes may calm
down, and what it holds keeps its rights. -/
structure Frame (s s' : State P S Q) (L L' : Ledger P S Q) (q : Q) : Prop where
  proc : ∀ p pr, L.owner p = some q → s.proc p = some pr → ∃ pr', s'.proc p = some pr' ∧
    pr'.lineage = pr.lineage ∧ pr'.wasPaused = pr.wasPaused
  parcel : ∀ σ pc, s.parcel σ = some pc → pc.taken = true → s'.parcel σ = some pc
  lineage : ∀ p pr ℓ, s.proc p = some pr → pr.lineage = some ℓ →
    ∃ pr', s'.proc p = some pr' ∧ pr'.lineage = some ℓ
  owner : ∀ p pr, s.proc p = some pr → L.owner p = some q → L'.owner p = some q
  carrier : ∀ σ pc, s.parcel σ = some pc → pc.taken = true → L.carrier σ = some q →
    L'.carrier σ = some q
  keepProc : ∀ ℓ p, L.owner p = some q → L.keeper ℓ = some (.inl p) →
    L'.keeper ℓ = some (.inl p)
  keepParcel : ∀ ℓ σ, L.carrier σ = some q → L.keeper ℓ = some (.inr σ) →
    L'.keeper ℓ = some (.inr σ)

/-- With parcels and their rights untouched, only the processes and their owners matter. -/
theorem Frame.of_procs (hparcel : s'.parcel = s.parcel) (hkeeper : L'.keeper = L.keeper)
    (hcarrier : L'.carrier = L.carrier)
    (hproc : ∀ p pr, L.owner p = some q → s.proc p = some pr → ∃ pr', s'.proc p = some pr' ∧
      pr'.lineage = pr.lineage ∧ pr'.wasPaused = pr.wasPaused)
    (hlineage : ∀ p pr ℓ, s.proc p = some pr → pr.lineage = some ℓ →
      ∃ pr', s'.proc p = some pr' ∧ pr'.lineage = some ℓ)
    (howner : ∀ p pr, s.proc p = some pr → L.owner p = some q → L'.owner p = some q) :
    Frame s s' L L' q where
  proc := hproc
  parcel σ pc hσ _ := by rw [hparcel, hσ]
  lineage := hlineage
  owner := howner
  carrier σ pc _ _ h := by rw [hcarrier, h]
  keepProc ℓ p _ h := by rw [hkeeper, h]
  keepParcel ℓ σ _ h := by rw [hkeeper, h]

/-- With the processes untouched, only the parcels and the rights matter. -/
theorem Frame.of_parcels (hproc : s'.proc = s.proc) (howner : L'.owner = L.owner)
    (hparcel : ∀ σ pc, s.parcel σ = some pc → pc.taken = true → s'.parcel σ = some pc ∧
      (L.carrier σ = some q → L'.carrier σ = some q))
    (hkeepProc : ∀ ℓ p, L.owner p = some q → L.keeper ℓ = some (.inl p) →
      L'.keeper ℓ = some (.inl p))
    (hkeepParcel : ∀ ℓ σ, L.carrier σ = some q → L.keeper ℓ = some (.inr σ) →
      L'.keeper ℓ = some (.inr σ)) : Frame s s' L L' q where
  proc p pr _ hpr := ⟨pr, by rw [hproc, hpr], rfl, rfl⟩
  parcel σ pc hσ htaken := (hparcel σ pc hσ htaken).1
  lineage p pr _ hpr hℓ := ⟨pr, by rw [hproc, hpr], hℓ⟩
  owner p _ _ h := by rw [howner, h]
  carrier σ pc hσ htaken := (hparcel σ pc hσ htaken).2
  keepProc := hkeepProc
  keepParcel := hkeepParcel

/-- A taken parcel stays so. -/
theorem Carried.frame (h : Carried s L q σ) (hframe : Frame s s' L L' q) : Carried s' L' q σ := by
  obtain ⟨hcarrier, pc, pr, ℓ, hσ, htaken, hsource, hlineage, hkeeper⟩ := h
  obtain ⟨pr', hsource', hlineage'⟩ := hframe.lineage _ pr ℓ hsource hlineage
  exact ⟨hframe.carrier σ pc hσ htaken hcarrier, pc, pr', ℓ, hframe.parcel σ pc hσ htaken, htaken,
    hsource', hlineage', hframe.keepParcel ℓ σ hcarrier hkeeper⟩

/-- A claim stays backed. -/
theorem Backed.frame {c : Claim P S} (h : Backed s L q c) (hframe : Frame s s' L L' q) :
    Backed s' L' q c := by
  -- The frame keeps the owner, the record and the keeper of whatever the claim names.
  cases c with
  | nothing => trivial
  | fresh p =>
    obtain ⟨howner, pr, hpr, hlineage, hpaused⟩ := h
    obtain ⟨pr', hpr', hlineage', hpaused'⟩ := hframe.proc p pr howner hpr
    exact ⟨hframe.owner p pr hpr howner, pr', hpr', hlineage'.trans hlineage,
      hpaused'.trans hpaused⟩
  | live p =>
    obtain ⟨howner, pr, ℓ, hpr, hlineage, hkeep, hpaused⟩ := h
    obtain ⟨pr', hpr', hlineage', hpaused'⟩ := hframe.proc p pr howner hpr
    exact ⟨hframe.owner p pr hpr howner, pr', ℓ, hpr', hlineage'.trans hlineage,
      hframe.keepProc ℓ p howner hkeep, hpaused'.trans hpaused⟩
  | frozen p =>
    obtain ⟨howner, pr, ℓ, hpr, hlineage, hkeep, hpaused⟩ := h
    obtain ⟨pr', hpr', hlineage', hpaused'⟩ := hframe.proc p pr howner hpr
    exact ⟨hframe.owner p pr hpr howner, pr', ℓ, hpr', hlineage'.trans hlineage,
      hframe.keepProc ℓ p howner hkeep, hpaused'.trans hpaused⟩
  | husk p =>
    obtain ⟨howner, hborn⟩ := h
    obtain ⟨pr, hpr⟩ := Option.ne_none_iff_exists'.mp hborn
    obtain ⟨pr', hpr', -⟩ := hframe.proc p pr howner hpr
    exact ⟨hframe.owner p pr hpr howner, by simp [hpr']⟩
  | parcel σ => exact Carried.frame h hframe
  | loading σ p =>
    obtain ⟨hcarried, howner, pr, hpr, hlineage, hpaused⟩ := h
    obtain ⟨pr', hpr', hlineage', hpaused'⟩ := hframe.proc p pr howner hpr
    exact ⟨hcarried.frame hframe, hframe.owner p pr hpr howner, pr', hpr',
      hlineage'.trans hlineage, hpaused'.trans hpaused⟩

section Step

variable [DecidableEq Q]

/-- When one place changes its claim, the others that hold anything only need to be left alone. -/
theorem claims_setClaim {c : Claim P S} (h : ∀ q, Backed s L q (s.claim q))
    (hself : Backed s' L' q c) (hclaim : s'.claim = Function.update s.claim q c)
    (hothers : ∀ q', q' ≠ q → s.claim q' ≠ .nothing → Frame s s' L L' q') (q' : Q) :
    Backed s' L' q' (s'.claim q') := by
  rw [hclaim]
  by_cases hq : q' = q
  · rw [hq, Function.update_self]
    exact hself
  · rw [Function.update_of_ne hq]
    by_cases hnothing : s.claim q' = .nothing
    · rw [hnothing]
      trivial
    · exact (h q').frame (hothers q' hq hnothing)

/-- Giving up a claim needs no change of the ledger. -/
theorem Fits.setClaim {c : Claim P S} (h : Fits s L) (hself : Backed s L q c) :
    Fits (s.setClaim q c) L where
  running := h.running
  paused := h.paused
  origin := h.origin
  shipped := h.shipped
  claims := claims_setClaim h.claims hself rfl fun _ _ _ =>
    .of_parcels rfl rfl (fun _ _ hσ _ => ⟨hσ, id⟩) (fun _ _ _ h => h) (fun _ _ _ h => h)

variable [DecidableEq P]

/-! #### Launching -/

omit [DecidableEq Q] in
/-- A launched process belongs to the place that launched it. -/
theorem frame_launch (hp : s.proc p = none) (q q' : Q) :
    Frame s (s.setProc p .idle) L (L.setOwner p q) q' := by
  have hne : ∀ p' pr, s.proc p' = some pr → p' ≠ p := by
    rintro p' pr hpr rfl
    simp [hp] at hpr
  have hsame : ∀ p' pr, s.proc p' = some pr → (s.setProc p .idle).proc p' = some pr :=
    fun p' pr hpr => (s.setProc_of_ne (hne p' pr hpr) _).trans hpr
  refine .of_procs rfl rfl rfl ?_ ?_ ?_
  · exact fun p' pr _ hpr => ⟨pr, hsame p' pr hpr, rfl, rfl⟩
  · exact fun p' pr _ hpr hlineage => ⟨pr, hsame p' pr hpr, hlineage⟩
  · exact fun p' pr hpr howner => (L.setOwner_of_ne (hne p' pr hpr) q).trans howner

omit [DecidableEq Q] in
/-- Paused processes stay so when another one is set to a state that is no contradiction. -/
theorem Fits.paused_setProc (h : Fits s L) {pr : Proc P}
    (hnew : pr.wasPaused = true → pr.running = false) (p' : P) (pr' : Proc P)
    (hpr' : (s.setProc p pr).proc p' = some pr') (hpaused : pr'.wasPaused = true) :
    pr'.running = false := by
  by_cases hp' : p' = p
  · rw [hp'] at hpr'
    obtain rfl := Option.some_inj.mp ((s.setProc_self p _).symm.trans hpr')
    exact hnew hpaused
  · exact h.paused p' pr' ((s.setProc_of_ne hp' _).symm.trans hpr') hpaused

/-- The ledger after a launch. -/
theorem Fits.launch {c : Claim P S} (h : Fits s L) (hp : s.proc p = none)
    (hself : Backed (s.setProc p .idle) (L.setOwner p q) q c) :
    Fits ((s.setProc p .idle).setClaim q c) (L.setOwner p q) := by
  have hframe := frame_launch (L := L) hp q
  refine Fits.setClaim ⟨?_, h.paused_setProc fun _ => rfl, ?_, ?_,
    fun q' => (h.claims q').frame (hframe q')⟩ hself
  · intro p' pr hpr hrun
    by_cases hp' : p' = p
    · rw [hp', State.setProc_self] at hpr
      obtain rfl := Option.some_inj.mp hpr
      simp [Proc.idle] at hrun
    · rw [State.setProc_of_ne s hp'] at hpr
      exact h.running p' pr hpr hrun
  · intro ℓ hℓ
    obtain ⟨pr, hpr, hlineage⟩ := h.origin ℓ hℓ
    exact (hframe q).lineage ℓ pr ℓ hpr hlineage
  · intro σ pc hσ
    obtain ⟨pr, ℓ, hpr, hlineage, hpaused, hkeep⟩ := h.shipped σ pc hσ
    have hne : pc.source ≠ p := by
      intro heq
      simp [heq, hp] at hpr
    exact ⟨pr, ℓ, (s.setProc_of_ne hne _).trans hpr, hlineage, hpaused, hkeep⟩

/-! #### Starting and stopping -/

/-- A started guest takes over the right to run its lineage: nobody had it, or a parcel that the
same place carries. -/
theorem Fits.start {pr : Proc P} {ℓ : P} (h : Fits s L) (howner : L.owner p = some q)
    (hp : s.proc p = some pr) (hidle : pr.lineage = none)
    (hright : ℓ = p ∨ ∃ σ pc, L.keeper ℓ = some (.inr σ) ∧ L.carrier σ = some q ∧
      s.parcel σ = some pc ∧ pc.taken = true) :
    Fits ((s.setProc p (.started (some ℓ))).setClaim q (.live p)) (L.setKeeper ℓ (.inl p)) := by
  have hnone : ℓ = p → L.keeper ℓ = none := by
    rintro rfl
    by_contra hkeep
    obtain ⟨pr', hpr', hlineage⟩ := h.origin _ hkeep
    rw [hp] at hpr'
    obtain rfl := Option.some_inj.mp hpr'
    simp [hidle] at hlineage
  have hnotProc : ∀ p', L.keeper ℓ ≠ some (.inl p') := by
    intro p' hp'
    rcases hright with rfl | ⟨σ, _, hkeep, -⟩
    · simp [hnone rfl] at hp'
    · simp [hkeep] at hp'
  have hnotParcel : ∀ σ, L.keeper ℓ = some (.inr σ) → L.carrier σ = some q ∧
      ∃ pc, s.parcel σ = some pc ∧ pc.taken = true := by
    intro σ hσ
    rcases hright with rfl | ⟨σ', pc, hkeep, hcarrier, hpc, htaken⟩
    · simp [hnone rfl] at hσ
    · obtain rfl : σ' = σ := by simpa [hkeep] using hσ
      exact ⟨hcarrier, pc, hpc, htaken⟩
  -- The process had no guest, so no lineage is lost with its old state.
  have hkept : ∀ p' pr' ℓ', s.proc p' = some pr' → pr'.lineage = some ℓ' →
      p' ≠ p ∧ (s.setProc p (.started (some ℓ))).proc p' = some pr' := by
    intro p' pr' ℓ' hpr' hlineage
    have hne : p' ≠ p := by
      rintro rfl
      rw [hp] at hpr'
      obtain rfl := Option.some_inj.mp hpr'
      simp [hidle] at hlineage
    exact ⟨hne, (s.setProc_of_ne hne _).trans hpr'⟩
  refine ⟨?_, h.paused_setProc (fun hpaused => by cases hpaused), ?_, ?_,
    claims_setClaim h.claims ?_ rfl fun q' hq' _ => ?_⟩
  · intro p' pr' hpr' hrun
    by_cases hp' : p' = p
    · rw [hp'] at hpr' ⊢
      obtain rfl := Option.some_inj.mp ((s.setProc_self p _).symm.trans hpr')
      exact ⟨ℓ, rfl, L.setKeeper_self ℓ _⟩
    · obtain ⟨ℓ', hlineage, hkeep⟩ :=
        h.running p' pr' ((s.setProc_of_ne hp' _).symm.trans hpr') hrun
      exact ⟨ℓ', hlineage, L.setKeeper_keeps hkeep (hnotProc p')⟩
  · intro ℓ' hℓ'
    by_cases heq : ℓ' = ℓ
    · rcases hright with rfl | ⟨σ, _, hkeep, -⟩
      · rw [heq]
        exact ⟨_, s.setProc_self _ _, rfl⟩
      · obtain ⟨pr', hpr', hlineage⟩ := h.origin ℓ' (by rw [heq, hkeep]; simp)
        exact ⟨pr', (hkept ℓ' pr' ℓ' hpr' hlineage).2, hlineage⟩
    · have hold : L.keeper ℓ' ≠ none := by
        rwa [L.setKeeper_of_ne heq] at hℓ'
      obtain ⟨pr', hpr', hlineage⟩ := h.origin ℓ' hold
      exact ⟨pr', (hkept ℓ' pr' ℓ' hpr' hlineage).2, hlineage⟩
  · intro σ pc hσ
    obtain ⟨pr', ℓ', hpr', hlineage, hpaused, hkeep⟩ := h.shipped σ pc hσ
    refine ⟨pr', ℓ', (hkept _ pr' ℓ' hpr' hlineage).2, hlineage, hpaused, ?_⟩
    intro huntaken
    refine L.setKeeper_keeps (hkeep huntaken) ?_
    intro hsame
    obtain ⟨-, pc', hpc', htaken⟩ := hnotParcel σ hsame
    have hσ' : s.parcel σ = some pc := hσ
    rw [hpc'] at hσ'
    obtain rfl := Option.some_inj.mp hσ'
    simp [htaken] at huntaken
  · exact ⟨howner, _, ℓ, s.setProc_self p _, rfl, L.setKeeper_self ℓ _, rfl⟩
  · have hother : ∀ p', L.owner p' = some q' → p' ≠ p := by
      rintro p' howner' rfl
      rw [howner] at howner'
      exact hq' (Option.some_inj.mp howner').symm
    exact
      { proc := fun p' pr' howner' hpr' =>
          ⟨pr', (s.setProc_of_ne (hother p' howner') _).trans hpr', rfl, rfl⟩
        parcel := fun _ _ hσ _ => hσ
        lineage := fun p' pr' ℓ' hpr' hlineage =>
          ⟨pr', (hkept p' pr' ℓ' hpr' hlineage).2, hlineage⟩
        owner := fun _ _ _ howner' => howner'
        carrier := fun _ _ _ _ hcarrier => hcarrier
        keepProc := fun _ p' _ hkeep => L.setKeeper_keeps hkeep (hnotProc p')
        keepParcel := fun _ σ hcarrier hkeep => by
          refine L.setKeeper_keeps hkeep fun hsame => hq' ?_
          have hcarrier' := (hnotParcel σ hsame).1
          rw [hcarrier] at hcarrier'
          exact Option.some_inj.mp hcarrier' }

omit [DecidableEq Q] in
/-- A process that stops needs no right any more. -/
theorem Fits.calm {pr pr' : Proc P} (h : Fits s L) (hp : s.proc p = some pr)
    (hlineage : pr'.lineage = pr.lineage) (hstopped : pr'.running = false)
    (hpaused : pr.wasPaused = true → pr'.wasPaused = true)
    (hclaims : ∀ q', Backed (s.setProc p pr') L q' (s.claim q')) : Fits (s.setProc p pr') L := by
  have hkept : ∀ p' pr₁ ℓ, s.proc p' = some pr₁ → pr₁.lineage = some ℓ →
      ∃ pr₂, (s.setProc p pr').proc p' = some pr₂ ∧ pr₂.lineage = some ℓ ∧
        (pr₁.wasPaused = true → pr₂.wasPaused = true) := by
    intro p' pr₁ ℓ hpr₁ hℓ
    by_cases hp' : p' = p
    · rw [hp'] at hpr₁ ⊢
      obtain rfl := Option.some_inj.mp (hp.symm.trans hpr₁)
      exact ⟨pr', s.setProc_self p _, hlineage.trans hℓ, hpaused⟩
    · exact ⟨pr₁, (s.setProc_of_ne hp' _).trans hpr₁, hℓ, id⟩
  refine ⟨?_, h.paused_setProc fun _ => hstopped, ?_, ?_, hclaims⟩
  · intro p' pr₁ hpr₁ hrun
    by_cases hp' : p' = p
    · rw [hp'] at hpr₁
      obtain rfl := Option.some_inj.mp ((s.setProc_self p _).symm.trans hpr₁)
      simp [hstopped] at hrun
    · exact h.running p' pr₁ ((s.setProc_of_ne hp' _).symm.trans hpr₁) hrun
  · intro ℓ hℓ
    obtain ⟨pr₁, hpr₁, hlineage₁⟩ := h.origin ℓ hℓ
    obtain ⟨pr₂, hpr₂, hlineage₂, -⟩ := hkept ℓ pr₁ ℓ hpr₁ hlineage₁
    exact ⟨pr₂, hpr₂, hlineage₂⟩
  · intro σ pc hσ
    obtain ⟨pr₁, ℓ, hpr₁, hlineage₁, hpaused₁, hkeep⟩ := h.shipped σ pc hσ
    obtain ⟨pr₂, hpr₂, hlineage₂, hpaused₂⟩ := hkept _ pr₁ ℓ hpr₁ hlineage₁
    exact ⟨pr₂, ℓ, hpr₂, hlineage₂, hpaused₂ hpaused₁, hkeep⟩

/-- The ledger after a pause. -/
theorem Fits.pause {pr : Proc P} (h : Fits s L) (hq : s.claim q = .live p)
    (hp : s.proc p = some pr) : Fits ((s.setProc p pr.pause).setClaim q (.frozen p)) L := by
  have hbacked := h.claims q
  rw [hq] at hbacked
  obtain ⟨howner, pr', ℓ, hpr', hlineage, hkeep, -⟩ := hbacked
  obtain rfl := Option.some_inj.mp (hp.symm.trans hpr')
  -- With the claim given up first, nothing else is claimed on the process that stops.
  have hcalm : Fits ((s.setClaim q .nothing).setProc p pr.pause) L := by
    refine (h.setClaim (c := .nothing) trivial).calm hp rfl rfl (fun _ => rfl) ?_
    refine claims_setClaim (q := q) (c := .nothing) h.claims trivial rfl fun q' hq' _ => ?_
    have hother : ∀ p', L.owner p' = some q' → p' ≠ p := by
      rintro p' howner' rfl
      rw [howner] at howner'
      exact hq' (Option.some_inj.mp howner').symm
    refine .of_procs rfl rfl rfl ?_ ?_ fun _ _ _ howner' => howner'
    · exact fun p' pr' howner' hpr' =>
        ⟨pr', (s.setProc_of_ne (hother p' howner') _).trans hpr', rfl, rfl⟩
    · intro p' pr₁ ℓ' hpr₁ hℓ'
      by_cases hp' : p' = p
      · rw [hp'] at hpr₁ ⊢
        obtain rfl := Option.some_inj.mp (hp.symm.trans hpr₁)
        exact ⟨pr.pause, s.setProc_self p _, hℓ'⟩
      · exact ⟨pr₁, (s.setProc_of_ne hp' _).trans hpr₁, hℓ'⟩
  have hfrozen := hcalm.setClaim (q := q) (c := .frozen p)
    ⟨howner, pr.pause, ℓ, s.setProc_self p _, hlineage, hkeep, rfl⟩
  simpa [State.setClaim, State.setProc] using hfrozen

omit [DecidableEq Q] in
/-- The ledger after a process stopped. -/
theorem Fits.stop {pr : Proc P} (h : Fits s L) (hp : s.proc p = some pr) :
    Fits (s.setProc p pr.stop) L := by
  refine h.calm hp rfl rfl id fun q' => (h.claims q').frame ?_
  have hkept : ∀ p' pr₁, s.proc p' = some pr₁ → ∃ pr₂, (s.setProc p pr.stop).proc p' = some pr₂ ∧
      pr₂.lineage = pr₁.lineage ∧ pr₂.wasPaused = pr₁.wasPaused := by
    intro p' pr₁ hpr₁
    by_cases hp' : p' = p
    · rw [hp'] at hpr₁ ⊢
      obtain rfl := Option.some_inj.mp (hp.symm.trans hpr₁)
      exact ⟨pr.stop, s.setProc_self p _, rfl, rfl⟩
    · exact ⟨pr₁, (s.setProc_of_ne hp' _).trans hpr₁, rfl, rfl⟩
  refine .of_procs rfl rfl rfl (fun p' pr₁ _ => hkept p' pr₁) ?_ fun _ _ _ howner => howner
  intro p' pr₁ ℓ hpr₁ hℓ
  obtain ⟨pr₂, hpr₂, hlineage, -⟩ := hkept p' pr₁ hpr₁
  exact ⟨pr₂, hpr₂, hlineage.trans hℓ⟩

/-! #### Changing hands -/

/-- A running guest that changes hands takes its ledger entry along. -/
theorem Fits.give (h : Fits s L) (q' : Q) (hq : s.claim q = .live p) :
    Fits ((s.setClaim q .nothing).setClaim q' (.live p)) (L.setOwner p q') := by
  have hbacked := h.claims q
  rw [hq] at hbacked
  obtain ⟨howner, hlive⟩ := hbacked
  refine ⟨h.running, h.paused, h.origin, h.shipped, ?_⟩
  refine claims_setClaim (q := q') (c := .live p)
    (h.setClaim (q := q) (c := .nothing) trivial).claims ⟨L.setOwner_self p q', hlive⟩ rfl
    fun q'' _ hholds => ?_
  -- A third place that holds something does not hold the process that was handed over.
  have hother : ∀ p', L.owner p' = some q'' → p' ≠ p := by
    rintro p' howner' rfl
    rw [howner] at howner'
    obtain rfl := Option.some_inj.mp howner'
    exact hholds (Function.update_self ..)
  refine .of_procs rfl rfl rfl (fun p' pr _ hpr => ⟨pr, hpr, rfl, rfl⟩)
    (fun _ pr _ hpr hℓ => ⟨pr, hpr, hℓ⟩) ?_
  exact fun p' _ _ howner' => (L.setOwner_of_ne (hother p' howner') q').trans howner'

variable [DecidableEq S]

/-- The ledger after a shipment: the right goes from the process to the parcel. -/
theorem Fits.ship (h : Fits s L) (hq : s.claim q = .frozen p) (hσ : s.parcel σ = none) :
    Sound ((s.setParcel σ { source := p, taken := false }).setClaim q (.husk p)) := by
  have hbacked := h.claims q
  rw [hq] at hbacked
  obtain ⟨howner, pr, ℓ, hpr, hlineage, hkeep, hpaused⟩ := hbacked
  have hold : ∀ σ' pc, s.parcel σ' = some pc → σ' ≠ σ := by
    rintro σ' pc hpc rfl
    simp [hσ] at hpc
  refine ⟨L.setKeeper ℓ (.inr σ), ?_, h.paused, ?_, ?_,
    claims_setClaim (q := q) (c := .husk p) h.claims ⟨howner, ?_⟩ rfl fun q' hq' _ => ?_⟩
  · intro p' pr' hpr' hrun
    obtain ⟨ℓ', hlineage', hkeep'⟩ := h.running p' pr' hpr' hrun
    -- A process that runs is not the frozen one, so its right stays with it.
    refine ⟨ℓ', hlineage', L.setKeeper_keeps hkeep' ?_⟩
    intro hsame
    obtain rfl : p = p' := by simpa [hkeep] using hsame
    obtain rfl := Option.some_inj.mp (hpr.symm.trans hpr')
    simp [h.paused p pr hpr hpaused] at hrun
  · intro ℓ' hℓ'
    by_cases heq : ℓ' = ℓ
    · exact h.origin ℓ' (by rw [heq, hkeep]; simp)
    · exact h.origin ℓ' (by rwa [L.setKeeper_of_ne heq] at hℓ')
  · intro σ' pc hpc
    by_cases hσ' : σ' = σ
    · rw [hσ'] at hpc ⊢
      obtain rfl := Option.some_inj.mp ((s.setParcel_self σ _).symm.trans hpc)
      exact ⟨pr, ℓ, hpr, hlineage, hpaused, fun _ => L.setKeeper_self ℓ _⟩
    · obtain ⟨pr', ℓ', hpr', hlineage', hpaused', hkeep'⟩ :=
        h.shipped σ' pc ((s.setParcel_of_ne hσ' _).symm.trans hpc)
      refine ⟨pr', ℓ', hpr', hlineage', hpaused', fun huntaken => ?_⟩
      exact L.setKeeper_keeps (hkeep' huntaken) (by simp [hkeep])
  · change s.proc p ≠ none
    simp [hpr]
  · refine .of_parcels rfl rfl ?_ ?_ ?_
    · exact fun σ' pc hpc _ => ⟨(s.setParcel_of_ne (hold σ' pc hpc) _).trans hpc, id⟩
    · intro ℓ' p' howner' hkeep'
      refine L.setKeeper_keeps hkeep' fun hsame => hq' ?_
      obtain rfl : p = p' := by simpa [hkeep] using hsame
      rw [howner] at howner'
      exact (Option.some_inj.mp howner').symm
    · exact fun _ _ _ hkeep' => L.setKeeper_keeps hkeep' (by simp [hkeep])

omit [DecidableEq P] in
/-- The ledger after a parcel was taken up. -/
theorem Fits.take (h : Fits s L) (hσ : s.parcel σ = some { source := p, taken := false }) :
    Fits ((s.setParcel σ { source := p, taken := true }).setClaim q (.parcel σ))
      (L.setCarrier σ q) := by
  obtain ⟨pr, ℓ, hpr, hlineage, hpaused, hkeep⟩ := h.shipped σ _ hσ
  have hold : ∀ σ' pc, s.parcel σ' = some pc → pc.taken = true → σ' ≠ σ := by
    rintro σ' pc hpc htaken rfl
    obtain rfl := Option.some_inj.mp (hσ.symm.trans hpc)
    simp at htaken
  refine ⟨h.running, h.paused, h.origin, ?_, claims_setClaim h.claims ?_ rfl fun q' _ _ => ?_⟩
  · intro σ' pc hpc
    by_cases hσ' : σ' = σ
    · rw [hσ'] at hpc ⊢
      obtain rfl := Option.some_inj.mp ((s.setParcel_self σ _).symm.trans hpc)
      exact ⟨pr, ℓ, hpr, hlineage, hpaused, fun huntaken => by simp at huntaken⟩
    · exact h.shipped σ' pc ((s.setParcel_of_ne hσ' _).symm.trans hpc)
  · exact ⟨L.setCarrier_self σ q, _, pr, ℓ, s.setParcel_self σ _, rfl, hpr, hlineage, hkeep rfl⟩
  · refine .of_parcels rfl rfl ?_ (fun _ _ _ h => h) fun _ _ _ h => h
    exact fun σ' pc hpc htaken => ⟨(s.setParcel_of_ne (hold σ' pc hpc htaken) _).trans hpc,
      (L.setCarrier_of_ne (hold σ' pc hpc htaken) q).trans⟩

/-- Every step keeps a state sound. -/
theorem Sound.step (h : Sound s) (hstep : Step s s') : Sound s' := by
  obtain ⟨L, hfits⟩ := h
  cases hstep with
  | @launch q p hq hp =>
    exact ⟨_, hfits.launch hp ⟨L.setOwner_self p q, _, s.setProc_self p _, rfl, rfl⟩⟩
  | @equip q p σ hq hp =>
    have hbacked := hfits.claims q
    rw [hq] at hbacked
    refine ⟨_, hfits.launch hp ⟨hbacked.frame (frame_launch hp q q), ?_⟩⟩
    exact ⟨L.setOwner_self p q, _, s.setProc_self p _, rfl, rfl⟩
  | @boot q p hq =>
    have hbacked := hfits.claims q
    rw [hq] at hbacked
    obtain ⟨howner, pr, hpr, hidle, -⟩ := hbacked
    exact ⟨_, hfits.start howner hpr hidle (.inl rfl)⟩
  | @load q p σ pc pr hq hσ hsource =>
    have hbacked := hfits.claims q
    rw [hq] at hbacked
    obtain ⟨⟨hcarrier, pc', pr', ℓ, hpc', htaken, hpr', hlineage, hkeep⟩, howner, pr₀, hpr₀,
      hidle, -⟩ := hbacked
    obtain rfl := Option.some_inj.mp (hσ.symm.trans hpc')
    obtain rfl := Option.some_inj.mp (hsource.symm.trans hpr')
    rw [hlineage]
    exact ⟨_, hfits.start howner hpr₀ hidle (.inr ⟨σ, pc, hkeep, hcarrier, hσ, htaken⟩)⟩
  | pause hq hp => exact ⟨L, hfits.pause hq hp⟩
  | ship hq hσ => exact hfits.ship hq hσ
  | take hq hσ => exact ⟨_, hfits.take hσ⟩
  | stop hp => exact ⟨L, hfits.stop hp⟩
  | give q' hq => exact ⟨_, hfits.give q' hq⟩
  | @retire q p hq =>
    refine ⟨L, hfits.setClaim ⟨(hfits.claims q).owner hq, ?_⟩⟩
    exact (hfits.claims q).born hq
  | release q => exact ⟨L, hfits.setClaim trivial⟩

/-- Every run keeps a state sound. -/
theorem Sound.steps (h : Sound s) (hsteps : Steps s s') : Sound s' := by
  induction hsteps with
  | refl => exact h
  | tail _ hstep ih => exact ih.step hstep

/-! #### Paused for good -/

/-- A process that was paused. -/
def State.Paused (s : State P S Q) (p : P) : Prop :=
  ∃ pr, s.proc p = some pr ∧ pr.wasPaused = true

omit [DecidableEq Q] [DecidableEq S] in
theorem State.Paused.setProc (h : s.Paused p) {pr : Proc P}
    (hnew : ∀ old, s.proc p' = some old → old.wasPaused = true → pr.wasPaused = true) :
    (s.setProc p' pr).Paused p := by
  obtain ⟨old, hold, hpaused⟩ := h
  by_cases hp : p = p'
  · subst hp
    exact ⟨pr, s.setProc_self p pr, hnew old hold hpaused⟩
  · exact ⟨old, (s.setProc_of_ne hp pr).trans hold, hpaused⟩

/-- No step starts a process again that was paused. -/
theorem Sound.step_paused (h : Sound s) (hpaused : s.Paused p) (hstep : Step s s') :
    s'.Paused p := by
  -- A process that gets a guest has none before, so it was never paused.
  have hidle : ∀ {p' : P} {pr : Proc P}, (∃ old, s.proc p' = some old ∧ old.lineage = none ∧
      old.wasPaused = false) → (s.setProc p' pr).Paused p := by
    rintro p' pr ⟨old, hold, -, hfresh⟩
    refine hpaused.setProc fun old' hold' hwas => ?_
    obtain rfl := Option.some_inj.mp (hold.symm.trans hold')
    simp [hfresh] at hwas
  cases hstep with
  | launch _ hp | equip _ hp => exact hpaused.setProc fun old hold => by simp [hp] at hold
  | boot hq => exact hidle (h.fresh_idle hq)
  | load hq => exact hidle (h.loading_idle hq).1
  | pause => exact hpaused.setProc fun _ _ _ => rfl
  | stop hp =>
    refine hpaused.setProc fun old hold hwas => ?_
    obtain rfl := Option.some_inj.mp (hp.symm.trans hold)
    exact hwas
  | ship | take | give | retire | release => exact hpaused

/-- No run starts a process again that was paused. -/
theorem Sound.steps_paused (h : Sound s) (hpaused : s.Paused p) (hsteps : Steps s s') :
    s'.Paused p := by
  induction hsteps with
  | refl => exact hpaused
  | tail hsteps hstep ih => exact (h.steps hsteps).step_paused ih hstep

end Step

end Custody
