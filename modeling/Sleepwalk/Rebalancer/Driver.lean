import Sleepwalk.Lib.Attempt
import Sleepwalk.Lib.Runs
import Sleepwalk.Proto.Fsm

/-!
# The migration driver

`drive` of `driver.rs`, over the executor port of `executor.rs`. What an executor does to the world
and how it answers is left open: an executor is a structure of computations over a state of its own,
and an effect may fail or never return.

An executor is observed by `recorded`, which keeps the calls and their answers beside its state. The
transcripts of `drive` are those of `Transcript` and no others (`drive_transcript_iff`), and each
of them can be replayed on the typestate of `proto::fsm` (`drive_replays`).
-/

namespace Sleepwalk.Rebalancer

open Proto Exec

/-- The result of asking the source host to drain the VM. -/
inductive DrainOutcome where
  /-- All quiescence layers are satisfied. -/
  | quiescent
  /-- The drain deadline elapsed without quiescence. -/
  | busy (inFlight : Option TurnId)
deriving DecidableEq, Repr

/-- An error from one executor effect. -/
structure ExecError where
  /-- The effect that failed. -/
  op : String
  /-- The VM the effect was for. -/
  vm : VmId
  /-- What went wrong. -/
  detail : String
deriving DecidableEq, Repr

/-- A computation of an executor over its world. -/
abbrev EffectM (σ : Type) := ExceptT (Stop ExecError) (StateM σ)

/-- The effects the migration driver invokes. -/
structure MigrationExecutor (σ : Type) where
  /-- Ask the source host to gate new turns and report quiescence, waiting up to the deadline. -/
  requestDrain : VmId → Duration → EffectM σ DrainOutcome
  /-- Un-gate the guest after an aborted drain. -/
  cancelDrain : VmId → EffectM σ Unit
  /-- Pause the VM and write its snapshot on the source host. -/
  snapshot : VmId → EffectM σ Unit
  /-- Stream the snapshot from the source to a host. -/
  transfer : VmId → HostId → EffectM σ Unit
  /-- Restore the VM from the snapshot on a host. -/
  restore : VmId → HostId → EffectM σ Unit
  /-- Switch authority to a host. -/
  cutover : VmId → HostId → EffectM σ Unit
  /-- Tear down source-side state on a host. -/
  cleanup : VmId → HostId → EffectM σ Unit

/-- Why a migration aborted. -/
inductive AbortReason where
  /-- The drain did not reach quiescence before the deadline. -/
  | notQuiescent
deriving DecidableEq, Repr

/-- How a driven migration ended. -/
inductive MigrationOutcome where
  /-- The VM was relocated and source-side state cleaned up. -/
  | completed
  /-- The migration aborted before snapshotting. -/
  | aborted (reason : AbortReason)
deriving DecidableEq, Repr

/-- A failure that stopped a migration partway. -/
inductive MigrationError where
  /-- An executor effect failed. -/
  | executor (e : ExecError)
deriving DecidableEq, Repr

section Drive

variable {σ : Type}

/-- An effect of the executor, its error as one of the driver. -/
def effect {α : Type} (m : EffectM σ α) : ExceptT (Stop MigrationError) (StateM σ) α :=
  mapFailed .executor m

/-- Drive a migration from `Intent` to completion, or a clean abort. -/
def drive (migration : Migration .intent) (exec : MigrationExecutor σ) (drainDeadline : Duration) :
    ExceptT (Stop MigrationError) (StateM σ) MigrationOutcome := do
  let vm := migration.vm
  let toHost := migration.toHost
  let fromHost := migration.fromHost
  let draining := migration.drain
  match ← effect (exec.requestDrain vm drainDeadline) with
  | .busy _ =>
    -- The in-flight turn wins: un-gate and stand down.
    effect (exec.cancelDrain vm)
    let _stable := draining.abort .draining
    return .aborted .notQuiescent
  | .quiescent =>
    let quiescent := draining.quiescent
    effect (exec.snapshot vm)
    let snapshotting := quiescent.snapshot
    effect (exec.transfer vm toHost)
    let transferring := snapshotting.transfer
    effect (exec.restore vm toHost)
    let restoring := transferring.restore
    effect (exec.cutover vm toHost)
    let cutover := restoring.cutover
    effect (exec.cleanup vm fromHost)
    let _cleanup := cutover.cleanup
    return .completed

end Drive

/-! ## What the executor sees -/

/-- The effects that only succeed or fail, as the driver asks for them. -/
inductive Effect where
  | cancelDrain (vm : VmId)
  | snapshot (vm : VmId)
  | transfer (vm : VmId) (toHost : HostId)
  | restore (vm : VmId) (toHost : HostId)
  | cutover (vm : VmId) (toHost : HostId)
  | cleanup (vm : VmId) (fromHost : HostId)
deriving DecidableEq, Repr

namespace Effect

/-- The name of an effect. -/
def op : Effect → String
  | .cancelDrain _ => "cancel_drain"
  | .snapshot _ => "snapshot"
  | .transfer _ _ => "transfer"
  | .restore _ _ => "restore"
  | .cutover _ _ => "cutover"
  | .cleanup _ _ => "cleanup"

/-- The VM an effect is for. -/
def vm : Effect → VmId
  | .cancelDrain vm | .snapshot vm | .transfer vm _ | .restore vm _ | .cutover vm _
  | .cleanup vm _ => vm

end Effect

/-- A call of the driver and its answer. A call that never returns is answered by `Stop.stuck`. -/
inductive Entry where
  | requestDrain (vm : VmId) (deadline : Duration) (answer : Except (Stop ExecError) DrainOutcome)
  | effect (call : Effect) (answer : Except (Stop ExecError) Unit)

namespace Entry

/-- The name of the effect that was called. -/
def op : Entry → String
  | .requestDrain _ _ _ => "request_drain"
  | .effect call _ => call.op

/-- If the effect failed, its error names the effect and the VM it was for. -/
def Named : Entry → Prop
  | .requestDrain vm _ answer =>
    ∀ e, answer = .error (.failed e) → e.op = "request_drain" ∧ e.vm = vm
  | .effect call answer => ∀ e, answer = .error (.failed e) → e.op = call.op ∧ e.vm = call.vm

end Entry

section Recorded

variable {σ : Type}

namespace MigrationExecutor

/-- One of the effects that only succeed or fail. -/
def perform (E : MigrationExecutor σ) : Effect → EffectM σ Unit
  | .cancelDrain vm => E.cancelDrain vm
  | .snapshot vm => E.snapshot vm
  | .transfer vm toHost => E.transfer vm toHost
  | .restore vm toHost => E.restore vm toHost
  | .cutover vm toHost => E.cutover vm toHost
  | .cleanup vm fromHost => E.cleanup vm fromHost

/-- The executor, its calls and answers noted beside its state. -/
def recorded (E : MigrationExecutor σ) : MigrationExecutor (σ × List Entry) where
  requestDrain vm deadline := noted (.requestDrain vm deadline) (E.requestDrain vm deadline)
  cancelDrain vm := noted (.effect (.cancelDrain vm)) (E.cancelDrain vm)
  snapshot vm := noted (.effect (.snapshot vm)) (E.snapshot vm)
  transfer vm toHost := noted (.effect (.transfer vm toHost)) (E.transfer vm toHost)
  restore vm toHost := noted (.effect (.restore vm toHost)) (E.restore vm toHost)
  cutover vm toHost := noted (.effect (.cutover vm toHost)) (E.cutover vm toHost)
  cleanup vm fromHost := noted (.effect (.cleanup vm fromHost)) (E.cleanup vm fromHost)

theorem perform_recorded (E : MigrationExecutor σ) (call : Effect) :
    E.recorded.perform call = noted (.effect call) (E.perform call) := by
  cases call <;> rfl

/-- The errors of the executor name the effect that failed and the VM it was for. -/
structure Names (E : MigrationExecutor σ) : Prop where
  requestDrain : ∀ s vm deadline,
    (Entry.requestDrain vm deadline (exec (E.requestDrain vm deadline) s).1).Named
  perform : ∀ s call, (Entry.effect call (exec (E.perform call) s).1).Named

end MigrationExecutor

end Recorded

/-! ## Transcripts -/

/-- How a migration ends that would end as given unless an effect stops it. -/
def ended (o : MigrationOutcome) : Option (Stop ExecError) →
    Except (Stop MigrationError) MigrationOutcome
  | none => .ok o
  | some e => .error (e.map .executor)

/-- The calls are made in order, up to the first that does not succeed. -/
inductive Carried : List Effect → List Entry → Option (Stop ExecError) → Prop where
  | nil : Carried [] [] none
  | stop (call : Effect) (calls : List Effect) (e : Stop ExecError) :
    Carried (call :: calls) [.effect call (.error e)] (some e)
  | cons (call : Effect) {calls : List Effect} {log : List Entry} {r : Option (Stop ExecError)}
    (h : Carried calls log r) : Carried (call :: calls) (.effect call (.ok ()) :: log) r

/-- What stands a migration down. -/
def standDown (m : Migration .intent) : List Effect := [.cancelDrain m.vm]

/-- What relocates a drained VM. -/
def relocation (m : Migration .intent) : List Effect :=
  [.snapshot m.vm, .transfer m.vm m.toHost, .restore m.vm m.toHost, .cutover m.vm m.toHost,
    .cleanup m.vm m.fromHost]

/-- The transcripts of a driven migration, with how each of them ends. -/
inductive Transcript (m : Migration .intent) (deadline : Duration) :
    List Entry → Except (Stop MigrationError) MigrationOutcome → Prop where
  /-- The drain request does not return an outcome, and nothing else is called. -/
  | drainStops (e : Stop ExecError) :
    Transcript m deadline [.requestDrain m.vm deadline (.error e)] (.error (e.map .executor))
  /-- The guest is busy, and the drain is cancelled. -/
  | busy (inFlight : Option TurnId) {log : List Entry} {r : Option (Stop ExecError)}
    (h : Carried (standDown m) log r) :
    Transcript m deadline (.requestDrain m.vm deadline (.ok (.busy inFlight)) :: log)
      (ended (.aborted .notQuiescent) r)
  /-- The guest is quiescent, and the VM is relocated. -/
  | quiescent {log : List Entry} {r : Option (Stop ExecError)} (h : Carried (relocation m) log r) :
    Transcript m deadline (.requestDrain m.vm deadline (.ok .quiescent) :: log)
      (ended .completed r)

section Transcripts

variable {σ : Type} {m : Migration .intent} {deadline : Duration} {E : MigrationExecutor σ}
  {o : MigrationOutcome} {calls : List Effect} {log log₀ : List Entry}
  {r : Option (Stop ExecError)} {s : σ}
  {result : Except (Stop MigrationError) MigrationOutcome}

/-- The calls in order, and then the outcome. -/
def carry (E : MigrationExecutor σ) (o : MigrationOutcome) :
    List Effect → ExceptT (Stop MigrationError) (StateM σ) MigrationOutcome
  | [] => return o
  | call :: calls => do
    effect (E.perform call)
    carry E o calls

/-- After the drain request, the driver makes a fixed list of calls. -/
theorem drive_eq (m : Migration .intent) (E : MigrationExecutor σ) (deadline : Duration) :
    drive m E deadline = (do
      match ← effect (E.requestDrain m.vm deadline) with
      | .busy _ => carry E (.aborted .notQuiescent) (standDown m)
      | .quiescent => carry E .completed (relocation m)) := rfl

/-- What an executor sees of a list of calls. -/
theorem exists_carried (E : MigrationExecutor σ) (o : MigrationOutcome) (calls : List Effect)
    (s : σ) (log₀ : List Entry) :
    ∃ log r s', Carried calls log r ∧ (E.Names → ∀ entry ∈ log, entry.Named) ∧
      exec (carry E.recorded o calls) (s, log₀) = (ended o r, (s', log₀ ++ log)) := by
  induction calls generalizing s log₀ with
  | nil => exact ⟨[], none, s, .nil, by simp, by simp [carry, ended]⟩
  | cons call calls ih =>
    have hnamed : E.Names → (Entry.effect call (exec (E.perform call) s).1).Named :=
      fun h => h.perform s call
    rw [carry, exec_bind, effect, exec_mapFailed, E.perform_recorded, exec_noted]
    rcases hcall : exec (E.perform call) s with ⟨e | u, s'⟩
    · rw [hcall] at hnamed
      refine ⟨[.effect call (.error e)], some e, s', .stop call calls e, ?_, ?_⟩
      · intro hE entry hentry
        rw [List.mem_singleton] at hentry
        exact hentry ▸ hnamed hE
      · rfl
    · rw [hcall] at hnamed
      obtain ⟨log, r, s'', hlog, hnames, hexec⟩ := ih s' (log₀ ++ [.effect call (.ok ())])
      refine ⟨.effect call (.ok ()) :: log, r, s'', .cons call hlog, ?_, ?_⟩
      · intro hE entry hentry
        rcases List.mem_cons.mp hentry with rfl | hentry
        · exact hnamed hE
        · exact hnames hE entry hentry
      · rw [List.append_assoc] at hexec
        exact hexec

/-- What an executor sees of the driver is a transcript. -/
theorem exists_transcript (m : Migration .intent) (E : MigrationExecutor σ) (deadline : Duration)
    (s : σ) :
    ∃ log result s', Transcript m deadline log result ∧ (E.Names → ∀ entry ∈ log, entry.Named) ∧
      exec (drive m E.recorded deadline) (s, []) = (result, (s', log)) := by
  have hnamed : E.Names →
      (Entry.requestDrain m.vm deadline (exec (E.requestDrain m.vm deadline) s).1).Named :=
    fun h => h.requestDrain s m.vm deadline
  rw [drive_eq, exec_bind, effect, exec_mapFailed, MigrationExecutor.recorded, exec_noted]
  rcases hdrain : exec (E.requestDrain m.vm deadline) s with ⟨e | d, s'⟩
  · rw [hdrain] at hnamed
    refine ⟨_, _, s', .drainStops e, ?_, rfl⟩
    intro hE entry hentry
    rw [List.mem_singleton] at hentry
    exact hentry ▸ hnamed hE
  · rw [hdrain] at hnamed
    -- However the drain is answered, what follows is a list of calls.
    have hcons : ∀ {log : List Entry}, (E.Names → ∀ entry ∈ log, entry.Named) → E.Names →
        ∀ entry ∈ .requestDrain m.vm deadline (.ok d) :: log, entry.Named := by
      intro log hlog hE entry hentry
      rcases List.mem_cons.mp hentry with rfl | hentry
      · exact hnamed hE
      · exact hlog hE entry hentry
    cases d with
    | quiescent =>
      obtain ⟨log, r, s'', hlog, hnames, hexec⟩ := exists_carried E .completed (relocation m) s'
        [.requestDrain m.vm deadline (.ok .quiescent)]
      exact ⟨_, _, s'', .quiescent hlog, hcons hnames, hexec⟩
    | busy inFlight =>
      obtain ⟨log, r, s'', hlog, hnames, hexec⟩ := exists_carried E (.aborted .notQuiescent)
        (standDown m) s' [.requestDrain m.vm deadline (.ok (.busy inFlight))]
      exact ⟨_, _, s'', .busy inFlight hlog, hcons hnames, hexec⟩

/-! ## Every transcript occurs -/

/-- An executor that answers as it is told: the drain request first, and every other effect with
the next of the answers that are its state. -/
def scripted (drain : Except (Stop ExecError) DrainOutcome) :
    MigrationExecutor (List (Except (Stop ExecError) Unit)) where
  requestDrain _ _ := outcome drain
  cancelDrain _ := answerNext
  snapshot _ := answerNext
  transfer _ _ := answerNext
  restore _ _ := answerNext
  cutover _ _ := answerNext
  cleanup _ _ := answerNext
where
  answerNext : EffectM (List (Except (Stop ExecError) Unit)) Unit := fun answers =>
    (answers.headD (.ok ()), answers.tail)

theorem perform_scripted (drain : Except (Stop ExecError) DrainOutcome) (call : Effect) :
    (scripted drain).perform call = scripted.answerNext := by
  cases call <;> rfl

theorem exists_script (drain : Except (Stop ExecError) DrainOutcome) (o : MigrationOutcome)
    (h : Carried calls log r) :
    ∃ answers, ∀ log₀, exec (carry (scripted drain).recorded o calls) (answers, log₀) =
      (ended o r, ([], log₀ ++ log)) := by
  induction h with
  | nil => exact ⟨[], fun log₀ => by simp [carry, ended]⟩
  | stop call calls e =>
    refine ⟨[.error e], fun log₀ => ?_⟩
    rw [carry, exec_bind, effect, exec_mapFailed, MigrationExecutor.perform_recorded, exec_noted,
      perform_scripted]
    rfl
  | cons call h ih =>
    obtain ⟨answers, hexec⟩ := ih
    refine ⟨.ok () :: answers, fun log₀ => ?_⟩
    rw [carry, exec_bind, effect, exec_mapFailed, MigrationExecutor.perform_recorded, exec_noted,
      perform_scripted]
    have hrest := hexec (log₀ ++ [.effect call (.ok ())])
    rw [List.append_assoc] at hrest
    exact hrest

/-- The transcripts are what executors see of the driver, and nothing else. -/
theorem drive_transcript_iff (m : Migration .intent) (deadline : Duration) (log : List Entry)
    (result : Except (Stop MigrationError) MigrationOutcome) :
    (∃ (σ : Type) (E : MigrationExecutor σ) (s s' : σ),
        exec (drive m E.recorded deadline) (s, []) = (result, (s', log))) ↔
      Transcript m deadline log result := by
  constructor
  · rintro ⟨σ, E, s, s', hexec⟩
    obtain ⟨log', result', s'', htranscript, -, hexec'⟩ := exists_transcript m E deadline s
    obtain ⟨rfl, rfl, rfl⟩ : result = result' ∧ s' = s'' ∧ log = log' := by
      simpa using hexec.symm.trans hexec'
    exact htranscript
  · rintro (e | ⟨inFlight, h⟩ | h)
    · exact ⟨_, scripted (.error e), [], [], rfl⟩
    · obtain ⟨answers, hexec⟩ := exists_script (.ok (.busy inFlight)) (.aborted .notQuiescent) h
      exact ⟨_, scripted (.ok (.busy inFlight)), answers, [],
        hexec [.requestDrain m.vm deadline (.ok (.busy inFlight))]⟩
    · obtain ⟨answers, hexec⟩ := exists_script (.ok .quiescent) .completed h
      exact ⟨_, scripted (.ok .quiescent), answers, [],
        hexec [.requestDrain m.vm deadline (.ok .quiescent)]⟩

/-! ## The typestate along a transcript -/

/-- An effect that succeeds takes the migration on, and one that does not leaves it where it is. -/
def settle (answer : Except (Stop ExecError) Unit) (stay go : Σ S, Migration S) :
    Option (Σ S, Migration S) :=
  match answer with
  | .ok _ => some go
  | .error _ => some stay

/-- Follow a transcript on the typestate: an effect is taken only in the phase it belongs to, for
the VM and the host of the migration, and the migration goes on if it succeeds. -/
def replay : (Σ S, Migration S) → Entry → Option (Σ S, Migration S)
  | ⟨.draining, m⟩, .requestDrain vm _ answer =>
    if vm = m.vm then
      match answer with
      | .ok .quiescent => some ⟨_, m.quiescent⟩
      | _ => some ⟨_, m⟩
    else none
  | ⟨.draining, m⟩, .effect (.cancelDrain vm) answer =>
    if vm = m.vm then settle answer ⟨_, m⟩ ⟨_, m.abort .draining⟩ else none
  | ⟨.quiescent, m⟩, .effect (.snapshot vm) answer =>
    if vm = m.vm then settle answer ⟨_, m⟩ ⟨_, m.snapshot⟩ else none
  | ⟨.snapshotting, m⟩, .effect (.transfer vm toHost) answer =>
    if vm = m.vm ∧ toHost = m.toHost then settle answer ⟨_, m⟩ ⟨_, m.transfer⟩ else none
  | ⟨.transferring, m⟩, .effect (.restore vm toHost) answer =>
    if vm = m.vm ∧ toHost = m.toHost then settle answer ⟨_, m⟩ ⟨_, m.restore⟩ else none
  | ⟨.restoring, m⟩, .effect (.cutover vm toHost) answer =>
    if vm = m.vm ∧ toHost = m.toHost then settle answer ⟨_, m⟩ ⟨_, m.cutover⟩ else none
  | ⟨.cutOver, m⟩, .effect (.cleanup vm fromHost) answer =>
    if vm = m.vm ∧ fromHost = m.fromHost then settle answer ⟨_, m⟩ ⟨_, m.cleanup⟩ else none
  | _, _ => none

/-- The phase in which the result of a driven migration leaves it. -/
def LeftIn (S : Phase) : Except (Stop MigrationError) MigrationOutcome → Prop
  | .ok .completed => S = .cleanup
  | .ok (.aborted _) => S = .stable
  | .error _ => S ≠ .cleanup ∧ S ≠ .stable

/-- What relocates a VM can be replayed from the quiescent phase. -/
theorem Carried.replay_relocation (h : Carried (relocation m) log r) :
    ∃ S, Runs.run replay ⟨.quiescent, m.advance⟩ log = some ⟨S, m.advance⟩ ∧
      LeftIn S (ended .completed r) := by
  -- Each effect either stops in its phase or is the step to the next one.
  rcases h with _ | ⟨_, _, e⟩ | ⟨_, h⟩
  · exact ⟨.quiescent, by simp [Runs.run, replay, settle], by decide, by decide⟩
  rcases h with _ | ⟨_, _, e⟩ | ⟨_, h⟩
  · exact ⟨.snapshotting, by simp [Runs.run, replay, settle, Migration.snapshot], by decide,
      by decide⟩
  rcases h with _ | ⟨_, _, e⟩ | ⟨_, h⟩
  · exact ⟨.transferring, by simp [Runs.run, replay, settle, Migration.snapshot,
      Migration.transfer], by decide, by decide⟩
  rcases h with _ | ⟨_, _, e⟩ | ⟨_, h⟩
  · exact ⟨.restoring, by simp [Runs.run, replay, settle, Migration.snapshot, Migration.transfer,
      Migration.restore], by decide, by decide⟩
  rcases h with _ | ⟨_, _, e⟩ | ⟨_, h⟩
  · exact ⟨.cutOver, by simp [Runs.run, replay, settle, Migration.snapshot, Migration.transfer,
      Migration.restore, Migration.cutover], by decide, by decide⟩
  cases h
  exact ⟨.cleanup, by simp [Runs.run, replay, settle, Migration.snapshot, Migration.transfer,
    Migration.restore, Migration.cutover, Migration.cleanup], rfl⟩

/-- A transcript can be replayed, and the result tells the phase that is reached. -/
theorem Transcript.replay (h : Transcript m deadline log result) :
    ∃ S, Runs.run replay ⟨.draining, m.drain⟩ log = some ⟨S, m.advance⟩ ∧ LeftIn S result := by
  rcases h with e | ⟨inFlight, h⟩ | h
  · exact ⟨.draining, by simp [Runs.run, Rebalancer.replay, Migration.drain], by decide, by decide⟩
  · rcases h with _ | ⟨_, _, e⟩ | ⟨_, h⟩
    · exact ⟨.draining, by simp [Runs.run, Rebalancer.replay, settle, Migration.drain], by decide,
        by decide⟩
    · cases h
      exact ⟨.stable, by simp [Runs.run, Rebalancer.replay, settle, Migration.drain,
        Migration.abort], rfl⟩
  · obtain ⟨S, hrun, hleft⟩ := h.replay_relocation
    refine ⟨S, ?_, hleft⟩
    rw [Runs.run_cons_eq_some_iff]
    exact ⟨_, by simp [Rebalancer.replay, Migration.drain, Migration.quiescent], hrun⟩

/-- Whatever the executor does, its calls are ones the typestate allows, each in its phase, and the
result tells the phase in which the driver leaves the migration. -/
theorem drive_replays (m : Migration .intent) (E : MigrationExecutor σ) (deadline : Duration)
    (s : σ) :
    ∃ S, Runs.run replay ⟨.draining, m.drain⟩ (exec (drive m E.recorded deadline) (s, [])).2.2 =
        some ⟨S, m.advance⟩ ∧
      LeftIn S (exec (drive m E.recorded deadline) (s, [])).1 := by
  obtain ⟨log, result, s', htranscript, -, hexec⟩ := exists_transcript m E deadline s
  rw [hexec]
  exact htranscript.replay

end Transcripts

end Sleepwalk.Rebalancer
