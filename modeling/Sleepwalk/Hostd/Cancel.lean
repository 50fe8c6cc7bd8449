import Sleepwalk.Hostd.SplitBrain

/-!
# Dropping the future of a send

A client that closes its connection drops the future of its request. From `VmRegistry::take` to
`VmRegistry::insert` the handler of a `/migrate/send?vm=ID` owns its VM, so what is dropped with it
is the VM. `cancel_keeps_vm_iff` says at which await points before the pause the VM survives: where
it has not been taken yet, and nowhere else.
-/

namespace Sleepwalk.Hostd

open Proto Custody

/-- Whether `migrate_running` awaits something here, and has not paused its VM. The metadata is
written, and the VM torn down, without an await. -/
def SendPhase.awaitsUnpaused : SendPhase → Bool
  | .connecting | .greeting | .handingSecrets | .requesting | .awaitingAck | .cancelling => true
  | .shipping .pausing => true
  | _ => false

/-- The await points of a `/migrate/send?vm=ID` on a host at which its VM is not paused. -/
inductive Fleet.SuspendedSend (w : Fleet) (host : HostId) (vm : RunningVm) : Task → Prop where
  /-- For the lock of the registry, to take the VM out of it. -/
  | taking {dest : Addr} {pr : Process} (hslot : w.registry host vm.id = some vm)
    (hproc : w.procs vm.proc = some pr) (hrunning : pr.running = true) :
    SuspendedSend w host vm (.taking vm.id dest)
  /-- In `migrate_running`. -/
  | migrating {dest : Addr} {phase : SendPhase} {stream : Option StreamId}
    (hphase : phase.awaitsUnpaused = true) :
    SuspendedSend w host vm (.migrating dest vm phase stream)
  /-- For the lock of the registry, to put the VM back. -/
  | registering : SuspendedSend w host vm (.registering vm .stoodDown)

/-- The VM runs, and is registered on the host. -/
def Fleet.Keeps (w : Fleet) (host : HostId) (vm : RunningVm) : Prop :=
  w.registry host vm.id = some vm ∧ ∃ pr, w.procs vm.proc = some pr ∧ pr.running = true

section

variable {w : Fleet} {h : HandlerId} {host : HostId} {task : Task} {vm : RunningVm}

theorem registry_kill (w : Fleet) (p : ProcId) (killed : Bool) :
    (w.kill p killed).registry = w.registry := by
  unfold Fleet.kill Fleet.modifyProc
  split
  · split <;> rfl
  · rfl

theorem registry_modifyStream (w : Fleet) (σ : StreamId) (f : Stream → Stream) :
    (w.modifyStream σ f).registry = w.registry := by
  unfold Fleet.modifyStream
  split <;> rfl

/-- No registry slot changes when a future is dropped. -/
theorem registry_cancel (hh : w.handlers h = some (host, task)) (killed : Bool) :
    (w.step (.cancel h killed)).registry = w.registry := by
  simp only [Fleet.step, Fleet.tryStep, hh, Option.getD_some]
  cases task.proc with
  | none =>
    cases task.stream with
    | none => rfl
    | some σ => exact registry_modifyStream w σ _
  | some p =>
    cases task.stream with
    | none => exact registry_kill w p killed
    | some σ => exact (registry_modifyStream _ σ _).trans (registry_kill w p killed)

/-- A handler that has taken a VM holds its process. -/
theorem holds_of_suspendedSend (hh : w.handlers h = some (host, task))
    (hsend : w.SuspendedSend host vm task) (htaken : ∀ dest, task ≠ .taking vm.id dest) :
    w.Holds vm.proc (.handler h) := by
  refine ⟨host, task, hh, ?_⟩
  cases hsend with
  | taking => exact absurd rfl (htaken _)
  | @migrating _ phase _ hphase =>
    cases phase with
    | returned result => cases hphase
    | _ => rfl
  | registering => rfl

end

/-- In every run of any number of hosts, and at every await point of a `/migrate/send?vm=ID` before
the pause: if the future is dropped there, its VM runs on and is registered on its host if and only
if the handler was still waiting to take it from the registry. -/
theorem cancel_keeps_vm_iff (bootSecrets : HostId → Bool) (ls : List Fleet.Label) (h : HandlerId)
    (host : HostId) (task : Task) (vm : RunningVm) (killed : Bool)
    (hh : ((Fleet.empty bootSecrets).run ls).handlers h = some (host, task))
    (hsend : ((Fleet.empty bootSecrets).run ls).SuspendedSend host vm task) :
    (((Fleet.empty bootSecrets).run ls).step (.cancel h killed)).Keeps host vm ↔
      ∃ dest, task = .taking vm.id dest := by
  have hinv := (Invariant.empty bootSecrets).run ls
  generalize (Fleet.empty bootSecrets).run ls = w at *
  constructor
  · rintro ⟨hslot, -⟩
    by_contra hnot
    -- A registered VM would be in two places, its slot and the handler that took it.
    rw [registry_cancel hh] at hslot
    have hholds := holds_of_suspendedSend hh hsend fun dest htask => hnot ⟨dest, htask⟩
    have hsame := hinv.noSplitBrain.one_holder vm.proc _ (.slot host vm.id) hholds ⟨vm, hslot, rfl⟩
    cases hsame
  · rintro ⟨dest, rfl⟩
    cases hsend with
    | taking hslot hproc hrunning =>
      refine ⟨by rw [registry_cancel hh]; exact hslot, _, ?_, hrunning⟩
      -- A handler that waits for the lock holds no process and no stream.
      simpa [Fleet.step, Fleet.tryStep, hh, Task.proc, Task.stream, Fleet.setTask] using hproc

/-- An operation that succeeds. -/
def Event.fine : Event where
  outcome := .ok
  effect := true
  killed := true
  proc := 0
  stream := 0
  vmId := ⟨0⟩
  net := ⟨"", "", ""⟩

/-- A daemon boots a VM and registers it, and then gets a request to send it. -/
def sendRequested : List Fleet.Label :=
  .request 0 ⟨"a"⟩ (.spawn false ⟨7⟩ "guest.vsock") :: List.replicate 9 (.event 0 .fine) ++
    [.request 1 ⟨"a"⟩ (.send ⟨7⟩ "b:9000")]

/-- The future is dropped while it waits for the lock: the VM runs on. -/
theorem cancel_keeps_vm_waiting :
    (((Fleet.empty fun _ => false).run sendRequested).step (.cancel 1 true)).Keeps ⟨"a"⟩
      { id := ⟨7⟩, proc := 0, vsockUds := "guest.vsock", net := none } := by
  refine (cancel_keeps_vm_iff (fun _ => false) sendRequested 1 ⟨"a"⟩ (.taking ⟨7⟩ "b:9000") _ true
    (by decide +kernel) ?_).mpr ⟨_, rfl⟩
  have hproc : ((Fleet.empty fun _ => false).run sendRequested).procs 0 =
      some (.started (some 0)) := by decide +kernel
  exact .taking (by decide +kernel) hproc rfl

/-- The future is dropped while it connects to the guest: the VM that `take` removed is gone. -/
theorem vm_lost_by_cancel :
    let w := (Fleet.empty fun _ => false).run (sendRequested ++ [.event 1 .fine])
    let vm : RunningVm := { id := ⟨7⟩, proc := 0, vsockUds := "guest.vsock", net := none }
    w.handlers 1 = some (⟨"a"⟩, .migrating "b:9000" vm .connecting none) ∧
      w.procs 0 = some (.started (some 0)) ∧
      (w.step (.cancel 1 true)).procs 0 = some (Custody.Proc.started (some 0)).stop ∧
      ¬ (w.step (.cancel 1 true)).Keeps ⟨"a"⟩ vm := by
  intro w vm
  refine ⟨by decide +kernel, by decide +kernel, by decide +kernel, ?_⟩
  rintro ⟨hslot, -⟩
  have hnone : (w.step (.cancel 1 true)).registry ⟨"a"⟩ ⟨7⟩ = none := by decide +kernel
  rw [hnone] at hslot
  cases hslot

end Sleepwalk.Hostd
