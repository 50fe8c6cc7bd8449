import Mathlib.Data.Nat.Init
import Mathlib.Logic.Relation
import Sleepwalk.Proto.Messages

/-!
# The migration state machine

`proto::fsm`. The typestate `Migration<S>` is a family of structures over its phase, and a
transition is a function between two members of the family, so that a transition taken from the
wrong phase has no type. `MigrationState` is the runtime tag of a phase.

`Migration.Step` collects the public transitions, and `Migration.reaches_iff` says where a chain
of them leads.
-/

namespace Sleepwalk.Proto

/-- Runtime-inspectable migration state, for logs, transcripts and metrics. -/
inductive MigrationState where
  /-- No migration in progress for this VM. -/
  | stable
  /-- Decided, nothing done yet. -/
  | intent
  /-- Drain requested, new turns gated. -/
  | draining
  /-- All three quiescence layers satisfied. -/
  | quiescent
  /-- Pausing the VM and writing the snapshot. -/
  | snapshotting
  /-- Streaming the snapshot to the target host. -/
  | transferring
  /-- The target host is restoring. -/
  | restoring
  /-- Switching authority to the target. -/
  | cutOver
  /-- Tearing down source-side state. -/
  | cleanup
  /-- Aborted before snapshotting. -/
  | aborted
deriving DecidableEq, Repr

/-- The marker types of the typestate, one for each phase of a migration. -/
inductive Phase where
  | intent
  | draining
  | quiescent
  | snapshotting
  | transferring
  | restoring
  | cutOver
  | cleanup
  | stable
deriving DecidableEq, Repr

/-- The runtime tag of a phase. -/
def Phase.STATE : Phase → MigrationState
  | .intent => .intent
  | .draining => .draining
  | .quiescent => .quiescent
  | .snapshotting => .snapshotting
  | .transferring => .transferring
  | .restoring => .restoring
  | .cutOver => .cutOver
  | .cleanup => .cleanup
  -- The one phase that is not called as it is tagged.
  | .stable => .aborted

/-- The phases from which a migration can still be aborted. -/
inductive Abortable : Phase → Prop where
  | intent : Abortable .intent
  | draining : Abortable .draining
  | quiescent : Abortable .quiescent

/-- A migration of one VM from a source host to a target host, in phase `S`. -/
structure Migration (S : Phase) where
  /-- The VM being moved. -/
  vm : VmId
  /-- The source host. -/
  fromHost : HostId
  /-- The target host. -/
  toHost : HostId
deriving DecidableEq, Repr

namespace Migration

variable {S T U : Phase}

/-- This migration's current phase as a runtime value. -/
def state (_ : Migration S) : MigrationState := S.STATE

/-- Re-tag this migration, carrying its data forward. -/
def advance (m : Migration S) : Migration T := ⟨m.vm, m.fromHost, m.toHost⟩

/-! ## Transitions -/

/-- Begin a migration. -/
def intent (vm : VmId) (fromHost toHost : HostId) : Migration .intent := ⟨vm, fromHost, toHost⟩

/-- Issue the drain request and begin gating new turns. -/
def drain (m : Migration .intent) : Migration .draining := m.advance

/-- All three quiescence layers are satisfied. -/
def quiescent (m : Migration .draining) : Migration .quiescent := m.advance

/-- Pause the VM and write the snapshot. -/
def snapshot (m : Migration .quiescent) : Migration .snapshotting := m.advance

/-- Begin streaming the snapshot to the target host. -/
def transfer (m : Migration .snapshotting) : Migration .transferring := m.advance

/-- The target begins restoring from the received snapshot. -/
def restore (m : Migration .transferring) : Migration .restoring := m.advance

/-- Switch authority to the target host. -/
def cutover (m : Migration .restoring) : Migration .cutOver := m.advance

/-- Tear down source-side state. -/
def cleanup (m : Migration .cutOver) : Migration .cleanup := m.advance

/-- Abort the migration and leave the VM on the source host. -/
def abort (m : Migration S) (_ : Abortable S) : Migration .stable := m.advance

@[simp]
theorem advance_vm (m : Migration S) : (m.advance : Migration T).vm = m.vm := rfl

@[simp]
theorem advance_fromHost (m : Migration S) : (m.advance : Migration T).fromHost = m.fromHost := rfl

@[simp]
theorem advance_toHost (m : Migration S) : (m.advance : Migration T).toHost = m.toHost := rfl

@[simp]
theorem advance_self (m : Migration S) : m.advance = m := rfl

@[simp]
theorem advance_advance (m : Migration S) :
    ((m.advance : Migration T).advance : Migration U) = m.advance := rfl

/-! ## Chains of transitions -/

/-- One public transition, from a migration in some phase to one in another. -/
inductive Step : (Σ S, Migration S) → (Σ S, Migration S) → Prop where
  | drain (m : Migration .intent) : Step ⟨_, m⟩ ⟨_, m.drain⟩
  | quiescent (m : Migration .draining) : Step ⟨_, m⟩ ⟨_, m.quiescent⟩
  | snapshot (m : Migration .quiescent) : Step ⟨_, m⟩ ⟨_, m.snapshot⟩
  | transfer (m : Migration .snapshotting) : Step ⟨_, m⟩ ⟨_, m.transfer⟩
  | restore (m : Migration .transferring) : Step ⟨_, m⟩ ⟨_, m.restore⟩
  | cutover (m : Migration .restoring) : Step ⟨_, m⟩ ⟨_, m.cutover⟩
  | cleanup (m : Migration .cutOver) : Step ⟨_, m⟩ ⟨_, m.cleanup⟩
  | abort {S : Phase} (m : Migration S) (h : Abortable S) : Step ⟨_, m⟩ ⟨_, m.abort h⟩

/-- Some chain of public transitions leads from the one migration to the other. -/
def Reaches (m : Migration S) (n : Migration T) : Prop :=
  Relation.ReflTransGen Step ⟨S, m⟩ ⟨T, n⟩

end Migration

namespace Phase

variable {S T U : Phase}

/-- The place of a phase on the way from `Intent` to `Cleanup`. An aborted migration has none. -/
def place : Phase → Option ℕ
  | .intent => some 0
  | .draining => some 1
  | .quiescent => some 2
  | .snapshotting => some 3
  | .transferring => some 4
  | .restoring => some 5
  | .cutOver => some 6
  | .cleanup => some 7
  | .stable => none

/-- A migration in the first phase may end up in the second: the second comes no earlier on the way
forward, or is the aborted one and the snapshot has not begun. -/
def Leads (S T : Phase) : Prop :=
  match S.place, T.place with
  | some i, some j => i ≤ j
  | some i, none => i < 3
  | none, some _ => False
  | none, none => True

instance : Decidable (Leads S T) := by
  unfold Leads
  split <;> infer_instance

theorem abortable_iff : Abortable S ↔ ∃ i ∈ S.place, i < 3 := by
  constructor
  · intro h
    cases h <;> simp [place]
  · cases S <;> simp [place]
    all_goals constructor

theorem place_eq_none_iff : S.place = none ↔ S = .stable := by
  cases S <;> decide

theorem place_injective {i : ℕ} (hS : S.place = some i) (hT : T.place = some i) : S = T := by
  cases S <;> cases hS <;> cases T <;> cases hT <;> rfl

theorem place_le {i : ℕ} (h : S.place = some i) : i ≤ 7 := by
  cases S <;> cases h <;> decide

theorem Leads.refl (S : Phase) : Leads S S := by
  cases S <;> decide

theorem Leads.trans (hST : Leads S T) (hTU : Leads T U) : Leads S U := by
  unfold Leads at hST hTU ⊢
  cases hT : T.place with
  | none =>
    -- An aborted migration stays aborted, so `U` is its phase too.
    rw [hT] at hST hTU
    cases hU : U.place with
    | none => rwa [hU] at hTU
    | some k => rw [hU] at hTU; exact hTU.elim
  | some j =>
    rw [hT] at hST hTU
    cases hS : S.place with
    | none => rw [hS] at hST; exact hST.elim
    | some i =>
      rw [hS] at hST
      cases hU : U.place with
      | none => rw [hU] at hTU; exact Nat.lt_of_le_of_lt hST hTU
      | some k => rw [hU] at hTU; exact Nat.le_trans hST hTU

end Phase

theorem Abortable.leads {S : Phase} (h : Abortable S) : S.Leads .stable := by
  cases h <;> decide

namespace Migration

variable {S T : Phase} {m : Migration S} {n : Migration T}

/-- A transition keeps the VM and the hosts, and leads forward or aborts. -/
theorem Step.leads {p q : Σ S, Migration S} (h : Step p q) :
    p.1.Leads q.1 ∧ q.2 = p.2.advance := by
  refine ⟨?_, ?_⟩
  · cases h with
    | abort m h => exact h.leads
    | drain => show Phase.Leads .intent .draining; decide
    | quiescent => show Phase.Leads .draining .quiescent; decide
    | snapshot => show Phase.Leads .quiescent .snapshotting; decide
    | transfer => show Phase.Leads .snapshotting .transferring; decide
    | restore => show Phase.Leads .transferring .restoring; decide
    | cutover => show Phase.Leads .restoring .cutOver; decide
    | cleanup => show Phase.Leads .cutOver .cleanup; decide
  · cases h <;> rfl

/-- Every phase before the last one on the way forward has a transition to the next. -/
theorem exists_step {i : ℕ} (hS : S.place = some i) (hi : i < 7) (m : Migration S) :
    ∃ T : Phase, T.place = some (i + 1) ∧ Step ⟨S, m⟩ ⟨T, m.advance⟩ := by
  cases S with
  | intent => cases hS; exact ⟨.draining, rfl, .drain m⟩
  | draining => cases hS; exact ⟨.quiescent, rfl, .quiescent m⟩
  | quiescent => cases hS; exact ⟨.snapshotting, rfl, .snapshot m⟩
  | snapshotting => cases hS; exact ⟨.transferring, rfl, .transfer m⟩
  | transferring => cases hS; exact ⟨.restoring, rfl, .restore m⟩
  | restoring => cases hS; exact ⟨.cutOver, rfl, .cutover m⟩
  | cutOver => cases hS; exact ⟨.cleanup, rfl, .cleanup m⟩
  | cleanup => cases hS; exact absurd hi (Nat.lt_irrefl 7)
  | stable => cases hS

/-- The way forward leads from any of its phases to any later one. -/
theorem reaches_of_le {i j : ℕ} (hS : S.place = some i) (hT : T.place = some j) (hij : i ≤ j)
    (m : Migration S) : Reaches m (m.advance : Migration T) := by
  induction hij using Nat.decreasingInduction generalizing S with
  | self =>
    obtain rfl := Phase.place_injective hS hT
    exact .refl
  | of_succ i hij ih =>
    have hj : j ≤ 7 := Phase.place_le hT
    obtain ⟨S', hS', hstep⟩ := exists_step hS (by omega) m
    exact .head hstep (ih hS' m.advance)

/-- A chain of transitions leads from one migration to another exactly if they are of the same VM
and hosts, and the phases are in order. -/
theorem reaches_iff : Reaches m n ↔ S.Leads T ∧ n = m.advance := by
  constructor
  · intro h
    -- Both hold along the chain, one transition after the other.
    suffices hchain : ∀ q : Σ S, Migration S, Relation.ReflTransGen Step ⟨S, m⟩ q →
        S.Leads q.1 ∧ q.2 = m.advance from hchain ⟨T, n⟩ h
    intro q hq
    induction hq with
    | refl => exact ⟨.refl S, rfl⟩
    | tail _ hstep ih =>
      obtain ⟨hleads, hdata⟩ := hstep.leads
      refine ⟨ih.1.trans hleads, ?_⟩
      rw [hdata, ih.2]
      rfl
  · rintro ⟨hleads, rfl⟩
    unfold Phase.Leads at hleads
    cases hS : S.place with
    | none =>
      obtain rfl := Phase.place_eq_none_iff.mp hS
      cases hT : T.place with
      | none =>
        obtain rfl := Phase.place_eq_none_iff.mp hT
        exact .refl
      | some j => rw [hS, hT] at hleads; exact hleads.elim
    | some i =>
      cases hT : T.place with
      | none =>
        obtain rfl := Phase.place_eq_none_iff.mp hT
        rw [hS, hT] at hleads
        exact .single (.abort m (Phase.abortable_iff.mpr ⟨i, hS, hleads⟩))
      | some j =>
        rw [hS, hT] at hleads
        exact reaches_of_le hS hT hleads m

end Migration

end Sleepwalk.Proto
