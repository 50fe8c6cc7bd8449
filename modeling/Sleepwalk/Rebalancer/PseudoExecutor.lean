import Sleepwalk.Rebalancer.Driver

/-!
# The fake executor

`PseudoExecutor` records the names of the effects it receives, answers the drain request as scripted
and can be primed to fail one effect once. The driver stops at the first effect that fails, so one
primed failure is enough: every end of a driven migration can be had with the fake
(`exists_pseudo`).
-/

namespace Sleepwalk.Rebalancer

open Proto Exec

/-- A fake migration executor for driver tests. -/
structure PseudoExecutor where
  /-- The effects received, oldest first. -/
  calls : List String
  /-- The answer to the drain request. -/
  drain : DrainOutcome
  /-- The effect that is to fail next time, and how. -/
  fail : Option (String × String)
deriving DecidableEq, Repr

namespace PseudoExecutor

/-- A fake whose drain request is answered as given. -/
def withDrain (drain : DrainOutcome) : PseudoExecutor := ⟨[], drain, none⟩

/-- A fake whose drain reports quiescence. -/
def new : PseudoExecutor := withDrain .quiescent

/-- Prime the fake so that the next call to an effect fails. -/
def failOn (fake : PseudoExecutor) (op detail : String) : PseudoExecutor :=
  { fake with fail := some (op, detail) }

/-- Record an effect for a VM, and honor a primed failure for it. -/
def record (op : String) (vm : VmId) : EffectM PseudoExecutor Unit := do
  modify fun fake => { fake with calls := fake.calls ++ [op] }
  match (← get).fail with
  | some (failedOp, detail) =>
    if failedOp = op then
      modify fun fake => { fake with fail := none }
      throw (.failed ⟨op, vm, detail⟩)
  | none => pure ()

/-- The fake as an executor. -/
def executor : MigrationExecutor PseudoExecutor where
  requestDrain vm _ := do
    record "request_drain" vm
    return (← get).drain
  cancelDrain vm := record "cancel_drain" vm
  snapshot vm := record "snapshot" vm
  transfer vm _ := record "transfer" vm
  restore vm _ := record "restore" vm
  cutover vm _ := record "cutover" vm
  cleanup vm _ := record "cleanup" vm

variable {op : String} {vm : VmId} {cs : List String} {d : DrainOutcome}

/-- An effect that is not primed to fail succeeds. -/
theorem exec_record_of_ne {fail : Option (String × String)} (h : ∀ f ∈ fail, f.1 ≠ op) :
    exec (record op vm) ⟨cs, d, fail⟩ = (.ok (), ⟨cs ++ [op], d, fail⟩) := by
  cases fail with
  | none => rfl
  | some f =>
    have hne : f.1 ≠ op := h f rfl
    simp [record, exec_bind, hne]

/-- A primed effect fails once. -/
theorem exec_record_self {detail : String} :
    exec (record op vm) ⟨cs, d, some (op, detail)⟩ =
      (.error (.failed ⟨op, vm, detail⟩), ⟨cs ++ [op], d, none⟩) := by
  simp [record, exec_bind]

theorem perform_executor (call : Effect) : executor.perform call = record call.op call.vm := by
  cases call <;> rfl

/-- The failure a fake is primed with for a driver that an effect stops. -/
def primed : Option (Stop ExecError) → Option (String × String)
  | some (.failed e) => some (e.op, e.detail)
  | _ => none

/-- How a test sets a fake up: by its answer to the drain request, and at most one failure. -/
def SetUp (fake : PseudoExecutor) : Prop :=
  ∃ d, fake = withDrain d ∨ ∃ op detail, fake = (withDrain d).failOn op detail

theorem setUp_primed (d : DrainOutcome) (r : Option (Stop ExecError)) :
    SetUp ⟨[], d, primed r⟩ := by
  rcases r with _ | e | _
  · exact ⟨d, .inl rfl⟩
  · exact ⟨d, .inr ⟨e.op, e.detail, rfl⟩⟩
  · exact ⟨d, .inl rfl⟩

end PseudoExecutor

open PseudoExecutor

section Adequate

variable {m : Migration .intent} {deadline : Duration} {o : MigrationOutcome} {calls : List Effect}
  {log : List Entry} {r : Option (Stop ExecError)} {cs : List String} {d : DrainOutcome}
  {result : Except (Stop MigrationError) MigrationOutcome}

/-- The effect that stops a list of calls is one of them. -/
theorem Carried.primed_mem (h : Carried calls log r) (hnamed : ∀ entry ∈ log, entry.Named) :
    ∀ f ∈ primed r, f.1 ∈ calls.map Effect.op := by
  induction h with
  | nil => simp [primed]
  | stop call calls e =>
    cases e with
    | stuck => simp [primed]
    | failed e =>
      have hop : e.op = call.op := (hnamed _ List.mem_cons_self e rfl).1
      simp [primed, hop]
  | cons call h ih =>
    rw [List.forall_mem_cons] at hnamed
    intro f hf
    exact List.mem_cons_of_mem _ (ih hnamed.2 f hf)

/-- With the failure primed that stops them, the fake goes through a list of calls alike. -/
theorem Carried.exec_executor (h : Carried calls log r) (hops : (calls.map Effect.op).Nodup)
    (hnamed : ∀ entry ∈ log, entry.Named) (hr : r ≠ some .stuck) (o : MigrationOutcome)
    (cs : List String) (d : DrainOutcome) :
    exec (carry executor o calls) ⟨cs, d, primed r⟩ =
      (ended o r, ⟨cs ++ log.map Entry.op, d, none⟩) := by
  induction h generalizing cs with
  | nil => simp [carry, ended, primed]
  | stop call calls e =>
    cases e with
    | stuck => exact absurd rfl hr
    | failed e =>
      obtain ⟨hop, hvm⟩ := hnamed _ List.mem_cons_self e rfl
      obtain ⟨op, vm, detail⟩ := e
      obtain rfl : op = call.op := hop
      obtain rfl : vm = call.vm := hvm
      rw [carry, exec_bind, effect, exec_mapFailed, perform_executor, primed, exec_record_self]
      rfl
  | @cons call calls log r h ih =>
    rw [List.map_cons, List.nodup_cons] at hops
    rw [List.forall_mem_cons] at hnamed
    -- The failure that is primed is of a later effect, which has another name.
    have hlater : ∀ f ∈ primed r, f.1 ≠ call.op := by
      intro f hf heq
      exact hops.1 (heq ▸ h.primed_mem hnamed.2 f hf)
    rw [carry, exec_bind, effect, exec_mapFailed, perform_executor, exec_record_of_ne hlater]
    have hexec := ih hops.2 hnamed.2 hr (cs ++ [call.op])
    rw [List.append_assoc] at hexec
    exact hexec

theorem nodup_standDown : ((standDown m).map Effect.op).Nodup := by
  simp [standDown]

theorem nodup_relocation : ((relocation m).map Effect.op).Nodup := by
  simp [relocation, Effect.op]

theorem exec_requestDrain_executor {fail : Option (String × String)}
    (h : ∀ f ∈ fail, f.1 ≠ "request_drain") :
    exec (executor.requestDrain m.vm deadline) ⟨[], d, fail⟩ =
      (.ok d, ⟨["request_drain"], d, fail⟩) := by
  rw [executor, exec_bind, exec_record_of_ne h]
  rfl

theorem ne_stuck (h : ended o r ≠ .error .stuck) : r ≠ some .stuck := by
  rintro rfl
  exact h rfl

/-- Whatever ends a driven migration with an executor whose errors name their effects, a fake that
is set up for it ends it likewise, and receives the same effects in the same order. -/
theorem exists_pseudo {σ : Type} (E : MigrationExecutor σ) (hE : E.Names) (m : Migration .intent)
    (deadline : Duration) (s : σ)
    (hreturns : (exec (drive m E.recorded deadline) (s, [])).1 ≠ .error .stuck) :
    ∃ fake, SetUp fake ∧
      (exec (drive m executor deadline) fake).1 = (exec (drive m E.recorded deadline) (s, [])).1 ∧
      (exec (drive m executor deadline) fake).2.calls =
        (exec (drive m E.recorded deadline) (s, [])).2.2.map Entry.op := by
  obtain ⟨log, result, s', htranscript, hnamed, hexec⟩ := exists_transcript m E deadline s
  rw [hexec] at hreturns ⊢
  replace hnamed := hnamed hE
  cases htranscript with
  | drainStops e =>
    cases e with
    | stuck => exact absurd rfl hreturns
    | failed e =>
      obtain ⟨hop, hvm⟩ := hnamed _ List.mem_cons_self e rfl
      obtain ⟨op, vm, detail⟩ := e
      obtain rfl : op = "request_drain" := hop
      obtain rfl : vm = m.vm := hvm
      refine ⟨⟨[], .quiescent, primed (some (.failed ⟨"request_drain", m.vm, detail⟩))⟩,
        setUp_primed _ _, ?_⟩
      rw [drive_eq, exec_bind, effect, exec_mapFailed, executor, exec_bind, primed,
        exec_record_self]
      exact ⟨rfl, rfl⟩
  | @busy inFlight log r h =>
    rw [List.forall_mem_cons] at hnamed
    refine ⟨⟨[], .busy inFlight, primed r⟩, setUp_primed _ _, ?_⟩
    have hdrain : ∀ f ∈ primed r, f.1 ≠ "request_drain" := by
      intro f hf heq
      exact absurd (heq ▸ h.primed_mem hnamed.2 f hf) (by simp [standDown, Effect.op])
    rw [drive_eq, exec_bind, effect, exec_mapFailed, exec_requestDrain_executor hdrain]
    have hrest := h.exec_executor nodup_standDown hnamed.2 (ne_stuck hreturns)
      (.aborted .notQuiescent) ["request_drain"] (.busy inFlight)
    exact ⟨congrArg Prod.fst hrest, congrArg (·.2.calls) hrest⟩
  | @quiescent log r h =>
    rw [List.forall_mem_cons] at hnamed
    refine ⟨⟨[], .quiescent, primed r⟩, setUp_primed _ _, ?_⟩
    have hdrain : ∀ f ∈ primed r, f.1 ≠ "request_drain" := by
      intro f hf heq
      exact absurd (heq ▸ h.primed_mem hnamed.2 f hf) (by simp [relocation, Effect.op])
    rw [drive_eq, exec_bind, effect, exec_mapFailed, exec_requestDrain_executor hdrain]
    have hrest := h.exec_executor nodup_relocation hnamed.2 (ne_stuck hreturns) .completed
      ["request_drain"] .quiescent
    exact ⟨congrArg Prod.fst hrest, congrArg (·.2.calls) hrest⟩

/-- The fake is an executor whose errors name their effects. -/
theorem names_executor : executor.Names := by
  have hrecord : ∀ (s : PseudoExecutor) op vm e,
      (exec (record op vm) s).1 = .error (.failed e) → e.op = op ∧ e.vm = vm := by
    intro ⟨cs, d, fail⟩ op vm e h
    by_cases hfail : ∀ f ∈ fail, f.1 ≠ op
    · rw [exec_record_of_ne hfail] at h
      cases h
    · push Not at hfail
      obtain ⟨⟨op, detail⟩, rfl, rfl⟩ := hfail
      rw [exec_record_self] at h
      cases h
      exact ⟨rfl, rfl⟩
  refine ⟨fun s vm deadline e h => ?_, fun s call e h => ?_⟩
  · refine hrecord s "request_drain" vm e ?_
    rw [executor, exec_bind] at h
    rcases hexec : exec (record "request_drain" vm) s with ⟨e' | u, s'⟩
    · rw [hexec] at h
      cases h
      rfl
    · rw [hexec] at h
      cases h
  · rw [perform_executor] at h
    exact hrecord s call.op call.vm e h

/-- A transfer that fails, had with a fake. -/
theorem exists_pseudo_transfer : ∃ fake, SetUp fake ∧
    (exec (drive (.intent ⟨0⟩ ⟨"a"⟩ ⟨"b"⟩) executor ⟨5⟩) fake).1 =
      .error (.failed (.executor ⟨"transfer", ⟨0⟩, "connection reset"⟩)) ∧
    (exec (drive (.intent ⟨0⟩ ⟨"a"⟩ ⟨"b"⟩) executor ⟨5⟩) fake).2.calls =
      ["request_drain", "snapshot", "transfer"] := by
  have h := exists_pseudo executor names_executor (.intent ⟨0⟩ ⟨"a"⟩ ⟨"b"⟩) ⟨5⟩
    (new.failOn "transfer" "connection reset") (by decide)
  exact h

end Adequate

end Sleepwalk.Rebalancer
