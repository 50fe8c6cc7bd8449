import Sleepwalk.Lib.Attempt
import Sleepwalk.Lib.Runs
import Sleepwalk.Proto.Messages

/-!
# The lifecycle of a VM

`Vm` of `vm.rs` wraps the control port of one Firecracker and tracks the state of its VM.
Firecracker is left open: each of its calls changes a world of its own and succeeds, fails or never
returns.

The tracked state is what the calls that succeeded make it. Firecracker's own state may differ,
since a call can fail after it took effect; `Lawful` says no more than that of it.
-/

namespace Sleepwalk.Hostd

open Proto Exec

/-- The lifecycle state of a managed VM. -/
inductive RunState where
  /-- Configured but not yet booted. -/
  | created
  /-- Booted, vCPUs running. -/
  | running
  /-- Paused, snapshot-eligible. -/
  | paused
  /-- Shut down. -/
  | stopped
deriving DecidableEq, Repr

/-- An error from a single Firecracker control operation. -/
inductive FirecrackerError where
  /-- The operation reached Firecracker but it rejected or failed it. -/
  | rejected (op detail : String)
  /-- Firecracker was unreachable. -/
  | unreachable (op detail : String)
deriving DecidableEq, Repr

/-- Why a lifecycle operation could not be carried out. -/
inductive LifecycleError where
  /-- The operation is not legal from the current state. -/
  | illegalTransition (current : RunState) (op : String)
  /-- The operation was legal but Firecracker failed it. -/
  | firecracker (e : FirecrackerError)
deriving DecidableEq, Repr

/-- A call of Firecracker over its world. -/
abbrev FirecrackerM (σ : Type) := ExceptT (Stop FirecrackerError) (StateM σ)

/-- The lifecycle operations of the control surface of one microVM. -/
structure FirecrackerApi (σ : Type) where
  /-- Start the configured guest. -/
  boot : FirecrackerM σ Unit
  /-- Pause the VM. -/
  pause : FirecrackerM σ Unit
  /-- Resume a paused VM. -/
  resume : FirecrackerM σ Unit
  /-- Stop the VM. -/
  shutdown : FirecrackerM σ Unit

/-- One microVM managed by hostd: its identity and its state. -/
structure Vm where
  id : VmId
  state : RunState
deriving DecidableEq, Repr

namespace Vm

variable {σ : Type}

/-- A computation on a VM and the world of its Firecracker. -/
abbrev VmM (σ : Type) := ExceptT (Stop LifecycleError) (StateM (σ × Vm))

/-- Wrap a freshly-configured VM. -/
def new (id : VmId) : Vm := ⟨id, .created⟩

/-- Require the VM to be in a state before an operation, else reject. -/
def require (want : RunState) (op : String) : VmM σ Unit := do
  let vm := (← get).2
  if vm.state = want then pure () else throw (.failed (.illegalTransition vm.state op))

/-- A call of Firecracker. -/
def call (m : FirecrackerM σ Unit) : VmM σ Unit := mapFailed .firecracker (onFst m)

/-- Set the tracked state. -/
def setState (state : RunState) : VmM σ Unit := modify fun s => (s.1, { s.2 with state })

variable (F : FirecrackerApi σ)

/-- Boot the guest. -/
def boot : VmM σ Unit := do
  require .created "boot"
  call F.boot
  setState .running

/-- Pause the VM. -/
def pause : VmM σ Unit := do
  require .running "pause"
  call F.pause
  setState .paused

/-- Resume a paused VM. -/
def resume : VmM σ Unit := do
  require .paused "resume"
  call F.resume
  setState .running

/-- Shut the VM down. -/
def shutdown : VmM σ Unit := do
  let vm := (← get).2
  unless vm.state = .running ∨ vm.state = .paused do
    throw (.failed (.illegalTransition vm.state "shutdown"))
  call F.shutdown
  setState .stopped

end Vm

/-! ## What an operation does -/

/-- The lifecycle operations. -/
inductive LifecycleOp where
  | boot
  | pause
  | resume
  | shutdown
deriving DecidableEq, Repr

namespace LifecycleOp

/-- The name of an operation. -/
def name : LifecycleOp → String
  | .boot => "boot"
  | .pause => "pause"
  | .resume => "resume"
  | .shutdown => "shutdown"

/-- The state an operation leads to. -/
def target : LifecycleOp → RunState
  | .boot => .running
  | .pause => .paused
  | .resume => .running
  | .shutdown => .stopped

/-- The operation is legal from the state. -/
inductive Legal : LifecycleOp → RunState → Prop where
  | boot : Legal .boot .created
  | pause : Legal .pause .running
  | resume : Legal .resume .paused
  | shutdown : Legal .shutdown .running
  | shutdownPaused : Legal .shutdown .paused

instance (op : LifecycleOp) (state : RunState) : Decidable (Legal op state) := by
  cases op <;> cases state <;>
    first | exact .isTrue (by constructor) | exact .isFalse (by rintro ⟨⟩)

end LifecycleOp

open LifecycleOp

section Operations

variable {σ : Type} {F : FirecrackerApi σ} {s : σ} {vm : Vm} {op : LifecycleOp}

/-- The call of Firecracker that an operation makes. -/
def FirecrackerApi.call (F : FirecrackerApi σ) : LifecycleOp → FirecrackerM σ Unit
  | .boot => F.boot
  | .pause => F.pause
  | .resume => F.resume
  | .shutdown => F.shutdown

/-- An operation of the VM. -/
def Vm.perform (F : FirecrackerApi σ) : LifecycleOp → Vm.VmM σ Unit
  | .boot => Vm.boot F
  | .pause => Vm.pause F
  | .resume => Vm.resume F
  | .shutdown => Vm.shutdown F

theorem LifecycleOp.legal_iff {state : RunState} :
    op.Legal state ↔ match op with
      | .boot => state = .created
      | .pause => state = .running
      | .resume => state = .paused
      | .shutdown => state = .running ∨ state = .paused := by
  cases op <;> cases state <;> decide

/-- An operation that is not legal is refused, and nothing is called or changed. -/
theorem Vm.exec_perform_of_not_legal (h : ¬ op.Legal vm.state) :
    exec (Vm.perform F op) (s, vm) = (.error (.failed (.illegalTransition vm.state op.name)),
      (s, vm)) := by
  rw [legal_iff] at h
  cases op with
  | boot => simp [perform, boot, require, exec_bind, name, h]
  | pause => simp [perform, pause, require, exec_bind, name, h]
  | resume => simp [perform, resume, require, exec_bind, name, h]
  | shutdown => simp [perform, shutdown, exec_bind, name, h]

/-- An operation that is legal is called, and the state is tracked if the call succeeds. -/
theorem Vm.exec_perform_of_legal (h : op.Legal vm.state) :
    exec (Vm.perform F op) (s, vm) =
      match exec (F.call op) s with
      | (.ok _, s') => (.ok (), (s', { vm with state := op.target }))
      | (.error e, s') => (.error (e.map .firecracker), (s', vm)) := by
  have hcall : exec (Vm.perform F op) (s, vm) =
      exec (do Vm.call (F.call op); Vm.setState op.target) (s, vm) := by
    rw [legal_iff] at h
    cases op with
    | boot => simp [perform, boot, require, exec_bind, target, h, FirecrackerApi.call]
    | pause => simp [perform, pause, require, exec_bind, target, h, FirecrackerApi.call]
    | resume => simp [perform, resume, require, exec_bind, target, h, FirecrackerApi.call]
    | shutdown => simp [perform, shutdown, exec_bind, target, h, FirecrackerApi.call]
  rw [hcall, exec_bind, Vm.call, exec_mapFailed, exec_onFst]
  rcases exec (F.call op) s with ⟨e | _, s'⟩
  · rfl
  · rfl

/-- Ask for operations one after the other, whatever became of those before. One that never returns
keeps the caller waiting. -/
def Vm.operate (F : FirecrackerApi σ) : List LifecycleOp → σ × Vm → σ × Vm
  | [], s => s
  | op :: ops, s =>
    match exec (Vm.perform F op) s with
    | (.error .stuck, s') => s'
    | (_, s') => Vm.operate F ops s'

/-- What every operation keeps is kept. -/
theorem Vm.operate_preserves {P : σ × Vm → Prop}
    (hstep : ∀ op s, P s → P (exec (Vm.perform F op) s).2) (ops : List LifecycleOp) {s : σ × Vm}
    (h : P s) : P (Vm.operate F ops s) := by
  induction ops generalizing s with
  | nil => exact h
  | cons op ops ih =>
    have hone := hstep op s h
    rw [Vm.operate]
    rcases hexec : exec (Vm.perform F op) s with ⟨(e | _) | u, s'⟩
    · rw [hexec] at hone
      exact ih hone
    · rw [hexec] at hone
      exact hone
    · rw [hexec] at hone
      exact ih hone

end Operations

/-! ## What Firecracker is asked for -/

/-- A call of Firecracker and its answer. -/
abbrev FirecrackerCall := LifecycleOp × Except (Stop FirecrackerError) Unit

/-- The calls that succeeded. -/
def accepted (log : List FirecrackerCall) : List LifecycleOp :=
  log.filterMap fun c => c.2.toOption.map fun _ => c.1

@[simp]
theorem accepted_append (log log' : List FirecrackerCall) :
    accepted (log ++ log') = accepted log ++ accepted log' := List.filterMap_append

@[simp]
theorem accepted_ok (op : LifecycleOp) (u : Unit) : accepted [(op, .ok u)] = [op] := rfl

@[simp]
theorem accepted_error (op : LifecycleOp) (e : Stop FirecrackerError) :
    accepted [(op, .error e)] = [] := rfl

/-- A boot, and some pauses with a resume after each. -/
def cycles (n : ℕ) : List LifecycleOp := .boot :: (List.replicate n [.pause, .resume]).flatten

theorem cycles_succ (n : ℕ) : cycles (n + 1) = cycles n ++ [.pause, .resume] := by
  simp [cycles, List.replicate_succ']

/-- The life of a VM up to a state, as the calls that succeeded. -/
inductive Life : List LifecycleOp → RunState → Prop where
  | created : Life [] .created
  | running (n : ℕ) : Life (cycles n) .running
  | paused (n : ℕ) : Life (cycles n ++ [.pause]) .paused
  | stopped (n : ℕ) : Life (cycles n ++ [.shutdown]) .stopped
  | stoppedPaused (n : ℕ) : Life (cycles n ++ [.pause, .shutdown]) .stopped

theorem Life.concat {life : List LifecycleOp} {state : RunState} {op : LifecycleOp}
    (h : Life life state) (hop : op.Legal state) : Life (life ++ [op]) op.target := by
  cases hop with
  | boot =>
    cases h
    exact .running 0
  | pause =>
    cases h with
    | running n => exact .paused n
  | resume =>
    cases h with
    | paused n =>
      rw [List.append_assoc]
      exact cycles_succ n ▸ .running (n + 1)
  | shutdown =>
    cases h with
    | running n => exact .stopped n
  | shutdownPaused =>
    cases h with
    | paused n =>
      rw [List.append_assoc]
      exact .stoppedPaused n

/-- Every call was legal after the ones that had succeeded, and together they lead to the state. -/
structure Lived (log : List FirecrackerCall) (state : RunState) : Prop where
  life : Life (accepted log) state
  legal : ∀ before c after, log = before ++ c :: after →
    ∃ q, Life (accepted before) q ∧ c.1.Legal q

theorem Lived.concat {log : List FirecrackerCall} {state state' : RunState} {c : FirecrackerCall}
    (h : Lived log state) (hc : c.1.Legal state) (hlife : Life (accepted (log ++ [c])) state') :
    Lived (log ++ [c]) state' := by
  refine ⟨hlife, fun before c' after hlog => ?_⟩
  -- The last call is the new one, and any other was there before.
  rcases List.eq_nil_or_concat after with rfl | ⟨after, last, rfl⟩
  · obtain ⟨rfl, hcc⟩ := List.append_inj' hlog rfl
    obtain rfl : c = c' := by simpa using hcc
    exact ⟨state, h.life, hc⟩
  · rw [List.concat_eq_append, ← List.cons_append, ← List.append_assoc] at hlog
    exact h.legal before c' after (List.append_inj_left' hlog rfl)

/-- The lifecycle operations, with the calls of Firecracker noted. -/
def FirecrackerApi.recorded {σ : Type} (F : FirecrackerApi σ) :
    FirecrackerApi (σ × List FirecrackerCall) where
  boot := noted (Prod.mk .boot) F.boot
  pause := noted (Prod.mk .pause) F.pause
  resume := noted (Prod.mk .resume) F.resume
  shutdown := noted (Prod.mk .shutdown) F.shutdown

section History

variable {σ : Type} (F : FirecrackerApi σ)

theorem FirecrackerApi.call_recorded (op : LifecycleOp) :
    F.recorded.call op = noted (Prod.mk op) (F.call op) := by
  cases op <;> rfl

/-- Whatever is asked of a VM and however Firecracker answers, the calls that succeed are a boot,
any number of pauses and resumes in turn, and a shutdown at last; the tracked state tells how far
that is; and no call is made that is not legal there. -/
theorem lived_operate (id : VmId) (s : σ) (ops : List LifecycleOp) :
    (Vm.operate F.recorded ops ((s, []), .new id)).2.id = id ∧
      Lived (Vm.operate F.recorded ops ((s, []), .new id)).1.2
        (Vm.operate F.recorded ops ((s, []), .new id)).2.state := by
  refine Vm.operate_preserves (P := fun (w : (σ × List FirecrackerCall) × Vm) =>
    w.2.id = id ∧ Lived w.1.2 w.2.state) ?_ ops ⟨rfl, .created, by simp⟩
  rintro op ⟨⟨s, log⟩, vm⟩ ⟨hid, hlived⟩
  by_cases hop : op.Legal vm.state
  · rw [Vm.exec_perform_of_legal hop, F.call_recorded, exec_noted]
    rcases exec (F.call op) s with ⟨e | _, s'⟩
    · exact ⟨hid, hlived.concat hop (by simpa using hlived.life)⟩
    · exact ⟨hid, hlived.concat hop (by simpa using hlived.life.concat hop)⟩
  · rw [Vm.exec_perform_of_not_legal hop]
    exact ⟨hid, hlived⟩

end History

/-! ## What Firecracker does -/

/-- A Firecracker that keeps the state of its guest, and loses the answers to the calls it is told
to. -/
def forgetful (lost : LifecycleOp → Bool) : FirecrackerApi RunState where
  boot := answer .boot
  pause := answer .pause
  resume := answer .resume
  shutdown := answer .shutdown
where
  answer (op : LifecycleOp) : FirecrackerM RunState Unit := do
    -- Only the state the operation is for lets it through.
    if op.Legal (← get) then
      set op.target
      if lost op then throw (.failed (.unreachable op.name "send: connection closed"))
    else throw (.failed (.rejected op.name "not supported in this state"))

theorem call_forgetful (lost : LifecycleOp → Bool) (op : LifecycleOp) :
    (forgetful lost).call op = forgetful.answer lost op := by
  cases op <;> rfl

theorem exec_answer (lost : LifecycleOp → Bool) (op : LifecycleOp) (q : RunState) :
    exec (forgetful.answer lost op) q =
      if op.Legal q then
        if lost op then
          (.error (.failed (.unreachable op.name "send: connection closed")), op.target)
        else (.ok (), op.target)
      else (.error (.failed (.rejected op.name "not supported in this state")), q) := by
  by_cases hop : op.Legal q
  · by_cases hlost : lost op
    · simp [forgetful.answer, exec_bind, hop, hlost]
    · simp [forgetful.answer, exec_bind, hop, hlost]
  · simp [forgetful.answer, exec_bind, hop]

section Lawful

variable {σ : Type} {F : FirecrackerApi σ} {truth : σ → RunState}

/-- A call that succeeds takes effect, and one that fails took effect or did not: its answer may be
lost. -/
structure Lawful (F : FirecrackerApi σ) (truth : σ → RunState) : Prop where
  ok : ∀ op s s', exec (F.call op) s = (.ok (), s') → truth s' = op.target
  error : ∀ op s e s', exec (F.call op) s = (.error e, s') →
    truth s' = truth s ∨ truth s' = op.target

theorem lawful_forgetful (lost : LifecycleOp → Bool) : Lawful (forgetful lost) id := by
  constructor
  · intro op q q' h
    rw [call_forgetful, exec_answer] at h
    split_ifs at h <;> simp_all
  · intro op q e q' h
    rw [call_forgetful, exec_answer] at h
    split_ifs at h <;> simp_all

/-- The real state is the tracked one, or the one some legal operation leads to. -/
def AtMostOneAhead (truth tracked : RunState) : Prop :=
  truth = tracked ∨ ∃ op : LifecycleOp, op.Legal tracked ∧ truth = op.target

/-- Whatever is asked of a VM and whichever answers are lost, its tracked state is at most one
operation behind. -/
theorem operate_atMostOneAhead (hF : Lawful F truth) (id : VmId) (s : σ)
    (hs : truth s = .created) (ops : List LifecycleOp) :
    AtMostOneAhead (truth (Vm.operate F ops (s, .new id)).1)
      (Vm.operate F ops (s, .new id)).2.state := by
  refine Vm.operate_preserves (P := fun w => AtMostOneAhead (truth w.1) w.2.state) ?_ ops
    (.inl hs)
  rintro op ⟨s, vm⟩ hahead
  by_cases hop : op.Legal vm.state
  · rw [Vm.exec_perform_of_legal hop]
    rcases hcall : exec (F.call op) s with ⟨e | _, s'⟩
    · rcases hF.error op s e s' hcall with hkept | htook
      · simpa [hkept] using hahead
      · exact .inr ⟨op, hop, htook⟩
    · exact .inl (hF.ok op s s' hcall)
  · rw [Vm.exec_perform_of_not_legal hop]
    exact hahead

/-- A pause whose answer is lost leaves the tracked state one operation behind. -/
theorem operate_lost_pause :
    AtMostOneAhead (Vm.operate (forgetful (· = .pause)) [.boot, .pause] (.created, .new ⟨0⟩)).1
        (Vm.operate (forgetful (· = .pause)) [.boot, .pause] (.created, .new ⟨0⟩)).2.state ∧
      Vm.operate (forgetful (· = .pause)) [.boot, .pause] (.created, .new ⟨0⟩) =
        (.paused, ⟨⟨0⟩, .running⟩) :=
  ⟨operate_atMostOneAhead (lawful_forgetful _) ⟨0⟩ .created rfl [.boot, .pause], by decide⟩

/-- If a boot took effect and its answer was lost, and Firecracker starts an instance only once,
then whatever is asked of the VM, nothing but another boot is called and the guest keeps running. -/
theorem operate_of_lost_boot
    (hF : ∀ s, truth s ≠ .created → ∃ e s', exec F.boot s = (.error e, s') ∧ truth s' = truth s)
    (id : VmId) (s : σ) (hs : truth s = .running) (ops : List LifecycleOp) :
    truth (Vm.operate F.recorded ops ((s, []), .new id)).1.1 = .running ∧
      (Vm.operate F.recorded ops ((s, []), .new id)).2.state = .created ∧
      ∀ c ∈ (Vm.operate F.recorded ops ((s, []), .new id)).1.2,
        c.1 = .boot ∧ ∃ e, c.2 = .error e := by
  refine Vm.operate_preserves (P := fun (w : (σ × List FirecrackerCall) × Vm) =>
    truth w.1.1 = .running ∧ w.2.state = .created ∧ ∀ c ∈ w.1.2, c.1 = .boot ∧ ∃ e, c.2 = .error e)
    ?_ ops ⟨hs, rfl, by simp⟩
  rintro op ⟨⟨s, log⟩, vm⟩ ⟨hrunning, hcreated, hlog⟩
  by_cases hop : op.Legal vm.state
  · -- A VM that is tracked as created can only be booted, and that fails.
    obtain rfl : op = .boot := by
      rw [legal_iff, hcreated] at hop
      cases op <;> simp_all
    obtain ⟨e, s', hboot, hkept⟩ := hF s (by rw [hrunning]; decide)
    rw [Vm.exec_perform_of_legal hop, F.call_recorded, exec_noted, FirecrackerApi.call, hboot]
    refine ⟨hkept.trans hrunning, hcreated, fun c hc => ?_⟩
    rcases List.mem_append.mp hc with hc | hc
    · exact hlog c hc
    · obtain rfl := List.mem_singleton.mp hc
      exact ⟨rfl, e, rfl⟩
  · rw [Vm.exec_perform_of_not_legal hop]
    exact ⟨hrunning, hcreated, hlog⟩

/-- A guest that runs, and a VM that cannot be shut down. -/
theorem operate_lost_boot :
    (Vm.operate (forgetful (· = .boot)).recorded [.boot, .pause, .shutdown]
      ((.running, []), .new ⟨0⟩)).2.state = .created := by
  have hF : ∀ s : RunState, id s ≠ .created → ∃ e s',
      exec (forgetful (· = .boot)).boot s = (.error e, s') ∧ id s' = id s := by
    intro s hs
    have hop : ¬ LifecycleOp.boot.Legal s := by
      rw [legal_iff]
      exact hs
    exact ⟨_, s, by rw [forgetful, exec_answer, if_neg hop], rfl⟩
  exact (operate_of_lost_boot hF ⟨0⟩ .running rfl [.boot, .pause, .shutdown]).2.1

end Lawful

end Sleepwalk.Hostd
