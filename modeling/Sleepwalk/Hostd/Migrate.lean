import Sleepwalk.Lib.Text
import Sleepwalk.Proto.Messages

/-!
# Migration programs

The programs of `hostd::migrate` and `VmRegistry::spawn`, each as the list of points where it waits
for one operation that can fail, and a `next` function that says where it goes on. What an operation
does to processes and streams, and how it turns out, is left to the models that run the programs.

* `ShipPhase` is `snapshot_and_send`;
* `SendPhase` is `migrate_running`, which drains, ships and tears down a registered VM (and does
  what the computation `migrateRunning` does: `runs_migrateRunning`);
* `SourcePhase` is `migrate_source`, which boots a VM of its own to ship;
* `RecvPhase` is `receive_and_restore`;
* `SpawnPhase` is `VmRegistry::spawn`.

A VM's work dir and memory size, and the timings of a move, are left out: no program branches on
them.
-/

namespace Sleepwalk.Hostd

open Proto

/-- The drain deadline. -/
def DRAIN_DEADLINE : Duration := ⟨5 * 10 ^ 9⟩

/-- A Firecracker process. -/
abbrev ProcId := ℕ

/-- A VM's network identity: its host tap, guest MAC, and guest IP. -/
structure NetId where
  /-- The host tap device backing the VM's interface. -/
  tap : String
  /-- The guest MAC. -/
  mac : String
  /-- The guest IP. -/
  ip : String
deriving DecidableEq, Repr

/-- One running VM the daemon owns. -/
structure RunningVm where
  /-- The VM's id on this host. -/
  id : VmId
  /-- The Firecracker process, which the control handle drives. -/
  proc : ProcId
  /-- The host-side vsock unix socket. -/
  vsockUds : String
  /-- The VM's network identity, present only for a networked VM. -/
  net : Option NetId
deriving DecidableEq, Repr

/-- What a file of a snapshot stream holds. Memory and device state belong to a guest, named by the
process that booted it. -/
inductive FileBody where
  /-- Guest memory. -/
  | memory (lineage : ProcId)
  /-- Device and vCPU state. -/
  | state (lineage : ProcId)
  /-- Text. -/
  | text (s : String)
  /-- A serialized network identity. -/
  | net (net : NetId)
deriving DecidableEq, Repr

/-- The received files by name. -/
abbrev Files := List (String × FileBody)

/-- How the operation that a program waits for turned out. -/
inductive Outcome where
  /-- It succeeded. A drain found the guest quiescent. -/
  | ok
  /-- A drain found the guest busy. -/
  | busy
  /-- It failed. -/
  | err
deriving DecidableEq, Repr

/-! ## Sending -/

/-- Where `snapshot_and_send` waits. -/
inductive ShipPhase where
  /-- For the VM to pause. -/
  | pausing
  /-- For the snapshot to be written. -/
  | snapshotting
  /-- For the connection to the receiver. -/
  | dialing
  /-- For a file to be streamed, with these to follow. -/
  | sending (file : String) (rest : List String)
  /-- For the end-of-stream marker, the flush and the shutdown. -/
  | finishing
deriving DecidableEq, Repr

/-- Where `snapshot_and_send` goes on. -/
inductive ShipNext where
  /-- It waits again. -/
  | more (phase : ShipPhase)
  /-- It returns `Ok`. -/
  | sent
  /-- It returns `Err`. -/
  | failed
deriving DecidableEq, Repr

namespace ShipPhase

/-- Go on to the first of the files left. -/
def sendNext : List String → ShipPhase
  | [] => .finishing
  | file :: rest => .sending file rest

/-- Any failure ends `snapshot_and_send`. -/
def next (files : List String) : ShipPhase → Outcome → ShipNext
  | .pausing, .ok => .more .snapshotting
  | .snapshotting, .ok => .more .dialing
  | .dialing, .ok => .more (sendNext files)
  | .sending _ rest, .ok => .more (sendNext rest)
  | .finishing, .ok => .sent
  | _, _ => .failed

end ShipPhase

/-- The files `snapshot_and_send` streams: the snapshot, and then the extra ones. -/
def snapshotFiles (extra : List String) : List String := ["mem.snap", "state.snap"] ++ extra

/-- The metadata files `migrate_running` adds to the snapshot. -/
def RunningVm.extra (vm : RunningVm) : List String :=
  if vm.net.isSome then ["vsock.txt", "net.json"] else ["vsock.txt"]

/-- How `migrate_running` ended. -/
inductive MigrateResult where
  /-- The VM was shipped and torn down here. -/
  | moved
  /-- The VM is handed back. -/
  | stoodDown
  /-- The migration failed, and the VM was torn down. -/
  | failed
deriving DecidableEq, Repr

/-- Where `migrate_running` waits. -/
inductive SendPhase where
  /-- For the connection to the guest: TCP for a networked VM, vsock for any other. -/
  | connecting
  /-- For the guest's `Hello`. -/
  | greeting
  /-- For `Secrets` to be sent. -/
  | handingSecrets
  /-- For `DrainRequest` to be sent. -/
  | requesting
  /-- For the `DrainAck`. -/
  | awaitingAck
  /-- For `DrainCancel` to be sent. -/
  | cancelling
  /-- For `vsock.txt` to be written. -/
  | writingVsock
  /-- For `net.json` to be serialized and written. -/
  | writingNet
  /-- For `snapshot_and_send`. -/
  | shipping (phase : ShipPhase)
  /-- For the teardown of the VM, after it was sent or after a failure. -/
  | tearingDown (sent : Bool)
  /-- Nowhere: it has returned. -/
  | returned (result : MigrateResult)
deriving DecidableEq, Repr

namespace SendPhase

/-- A failure up to the end of the drain stands the migration down. Any later one tears the VM
down. -/
def next (vm : RunningVm) : SendPhase → Outcome → SendPhase
  | .connecting, .ok => .greeting
  | .greeting, .ok => .handingSecrets
  | .handingSecrets, .ok => .requesting
  | .requesting, .ok => .awaitingAck
  | .awaitingAck, .ok => .writingVsock
  | .awaitingAck, .busy => .cancelling
  | .writingVsock, .ok => if vm.net.isSome then .writingNet else .shipping .pausing
  | .writingVsock, _ => .tearingDown false
  | .writingNet, .ok => .shipping .pausing
  | .writingNet, _ => .tearingDown false
  | .shipping phase, o =>
    match phase.next (snapshotFiles vm.extra) o with
    | .more phase => .shipping phase
    | .sent => .tearingDown true
    | .failed => .tearingDown false
  | .tearingDown sent, _ => .returned (if sent then .moved else .failed)
  | .returned result, _ => .returned result
  -- Connecting, the handshake, the drain, and the cancellation, whose failure is ignored.
  | _, _ => .returned .stoodDown

/-- How far `migrate_running` is from its end. -/
def remaining : SendPhase → ℕ
  | .connecting => 20
  | .greeting => 19
  | .handingSecrets => 18
  | .requesting => 17
  | .awaitingAck => 16
  | .writingVsock => 15
  | .writingNet => 14
  | .shipping .pausing => 13
  | .shipping .snapshotting => 12
  | .shipping .dialing => 11
  | .shipping (.sending _ rest) => rest.length + 6
  | .shipping .finishing => 5
  | .cancelling => 4
  | .tearingDown _ => 4
  | .returned _ => 3

/-- Every operation brings `migrate_running` closer to its end. -/
theorem remaining_next (vm : RunningVm) {phase : SendPhase} (o : Outcome)
    (hphase : ∀ result, phase ≠ .returned result) :
    (phase.next vm o).remaining < phase.remaining := by
  -- The measure leaves room for every file that the snapshot can have.
  have hsendNext : ∀ files : List String,
      (SendPhase.shipping (ShipPhase.sendNext files)).remaining ≤ files.length + 5 := by
    intro files
    cases files with
    | nil => exact Nat.le_refl 5
    | cons file rest => simp [ShipPhase.sendNext, remaining]
  cases phase with
  | writingVsock =>
    cases o with
    | ok => cases hnet : vm.net.isSome <;> simp [next, hnet, remaining]
    | busy | err => simp [next, remaining]
  | shipping ship =>
    cases ship with
    | dialing =>
      cases o with
      | ok =>
        have hfirst := hsendNext (snapshotFiles vm.extra)
        have hlength : (snapshotFiles vm.extra).length ≤ 4 := by
          cases hnet : vm.net.isSome <;> simp [snapshotFiles, RunningVm.extra, hnet]
        change (SendPhase.shipping (ShipPhase.sendNext (snapshotFiles vm.extra))).remaining < 11
        omega
      | busy | err => simp [next, ShipPhase.next, remaining]
    | sending file rest =>
      cases o with
      | ok => exact Nat.lt_succ_of_le (hsendNext rest)
      | busy | err => simp [next, ShipPhase.next, remaining]
    | pausing | snapshotting | finishing =>
      cases o <;> simp [next, ShipPhase.next, remaining]
  | tearingDown sent => cases sent <;> simp [next, remaining]
  | returned result => exact absurd rfl (hphase result)
  | _ => cases o <;> simp [next, remaining]

end SendPhase

/-! ## Booting -/

/-- A step of configuring a booted process. -/
inductive ConfigStep where
  | machine
  | bootSource
  | drive
  | vsock
  | network
deriving DecidableEq, Repr

/-- The configuration of a VM, in order. -/
def configSteps (networked : Bool) : List ConfigStep :=
  [.machine, .bootSource, .drive, .vsock] ++ if networked then [.network] else []

/-- Where `VmRegistry::spawn` waits. -/
inductive SpawnPhase where
  /-- For the work dir. -/
  | preparing
  /-- For the tap and the addresses of a networked VM. -/
  | plumbing
  /-- For the Firecracker process. -/
  | launching (net : Option NetId)
  /-- For a step of its configuration, with these to follow. -/
  | configuring (proc : ProcId) (net : Option NetId) (step : ConfigStep) (rest : List ConfigStep)
  /-- For the boot. -/
  | booting (proc : ProcId) (net : Option NetId)
  /-- For the connection over which boot secrets go. -/
  | linking (proc : ProcId) (net : Option NetId)
  /-- For the handshake that delivers them. -/
  | delivering (proc : ProcId) (net : Option NetId)
  /-- For the drop of the process after a failure. -/
  | dropping (proc : ProcId)
  /-- Nowhere: it has the VM to register, or has failed. -/
  | returned (vm : Option RunningVm)
deriving DecidableEq, Repr

namespace SpawnPhase

/-- Go on to the next configuration step. -/
def configNext (proc : ProcId) (net : Option NetId) : List ConfigStep → SpawnPhase
  | [] => .booting proc net
  | step :: rest => .configuring proc net step rest

/-- A failure drops what was made so far. `fresh` is the VM under construction: its id, the process
launched for it, its socket, and the identity plumbed for it. `secrets` says that the daemon has
boot secrets to deliver. -/
def next (fresh : RunningVm) (networked secrets : Bool) : SpawnPhase → Outcome → SpawnPhase
  | .preparing, .ok => if networked then .plumbing else .launching none
  | .plumbing, .ok => .launching fresh.net
  | .launching net, .ok => configNext fresh.proc net (configSteps net.isSome)
  | .configuring proc net _ rest, .ok => configNext proc net rest
  | .booting proc net, .ok =>
    if secrets then .linking proc net else .returned (some { fresh with proc, net })
  | .linking proc net, .ok => .delivering proc net
  | .delivering proc net, .ok => .returned (some { fresh with proc, net })
  | .configuring proc _ _ _, _ => .dropping proc
  | .booting proc _, _ => .dropping proc
  | .linking proc _, _ => .dropping proc
  | .delivering proc _, _ => .dropping proc
  | .returned vm, _ => .returned vm
  | _, _ => .returned none

end SpawnPhase

/-- Where `migrate_source` waits. -/
inductive SourcePhase where
  /-- For the work dir. -/
  | preparing
  /-- For the Firecracker process. -/
  | launching
  /-- For a step of its configuration, with these to follow. -/
  | configuring (proc : ProcId) (step : ConfigStep) (rest : List ConfigStep)
  /-- For the boot. -/
  | booting (proc : ProcId)
  /-- For the connection to the guest. -/
  | connecting (proc : ProcId)
  /-- For the handshake. -/
  | greeting (proc : ProcId)
  /-- For the drain. -/
  | draining (proc : ProcId)
  /-- For `snapshot_and_send`. -/
  | shipping (proc : ProcId) (phase : ShipPhase)
  /-- For the process to be killed, on success or dropped after a failure. -/
  | killing (proc : ProcId) (sent : Bool)
  /-- Nowhere: it has returned. -/
  | returned (sent : Bool)
deriving DecidableEq, Repr

namespace SourcePhase

/-- Go on to the next configuration step. -/
def configNext (proc : ProcId) : List ConfigStep → SourcePhase
  | [] => .booting proc
  | step :: rest => .configuring proc step rest

/-- Every failure kills the VM. -/
def next (fresh : ProcId) : SourcePhase → Outcome → SourcePhase
  | .preparing, .ok => .launching
  | .launching, .ok => configNext fresh (configSteps false)
  | .configuring proc _ rest, .ok => configNext proc rest
  | .booting proc, .ok => .connecting proc
  | .connecting proc, .ok => .greeting proc
  | .greeting proc, .ok => .draining proc
  | .draining proc, .ok => .shipping proc .pausing
  | .shipping proc phase, o =>
    match phase.next (snapshotFiles []) o with
    | .more phase => .shipping proc phase
    | .sent => .killing proc true
    | .failed => .killing proc false
  | .killing _ sent, _ => .returned sent
  | .returned sent, _ => .returned sent
  | .configuring proc _ _, _ => .killing proc false
  | .booting proc, _ => .killing proc false
  | .connecting proc, _ => .killing proc false
  | .greeting proc, _ => .killing proc false
  | .draining proc, _ => .killing proc false
  | _, _ => .returned false

end SourcePhase

/-! ## Receiving -/

/-- Where `receive_and_restore` waits. -/
inductive RecvPhase where
  /-- For the work dir. -/
  | preparing
  /-- For a sender to connect. -/
  | accepting
  /-- For the next file of the stream, or its end. -/
  | reading (files : Files)
  /-- For `net.json` to be read. -/
  | readingNet (files : Files)
  /-- For the tap. -/
  | creatingTap (files : Files) (net : NetId)
  /-- For the page server's socket. -/
  | bindingUffd (files : Files) (net : Option NetId)
  /-- For the Firecracker process. -/
  | launching (files : Files) (net : Option NetId)
  /-- For the snapshot to be loaded and resumed. -/
  | loading (files : Files) (net : Option NetId) (proc : ProcId)
  /-- For the cleanup after a failed load. -/
  | cleaningUp (proc : ProcId)
  /-- For the restored guest to settle and the announcement of its address. -/
  | settling (vm : RunningVm)
  /-- Nowhere: it has the VM to register, or has failed. -/
  | returned (vm : Option RunningVm)
deriving DecidableEq, Repr

namespace RecvPhase

/-- The vsock path carried by the snapshot, or an empty one. -/
def vsockPath (files : Files) : String :=
  match files.lookup "vsock.txt" with
  | some (.text s) => Text.trim s
  | _ => ""

/-- After the end of the stream: the file count is checked, and a networked VM's identity read. -/
def received (files : Files) : RecvPhase :=
  if 2 ≤ files.length ∧ files.length ≤ 4 then
    match files.lookup "net.json" with
    | some _ => .readingNet files
    | none => .bindingUffd files none
  else .returned none

/-- A failure ends the restore; only a failed load has something to clean up. `item` is what a
successful read takes from the stream, a file or its end, and `fresh` has the new VM's id and the
process launched for it. -/
def next (item : Option (String × FileBody)) (fresh : RunningVm) : RecvPhase → Outcome → RecvPhase
  | .preparing, .ok => .accepting
  | .accepting, .ok => .reading []
  | .reading files, .ok =>
    match item with
    | some file => .reading (files ++ [file])
    | none => received files
  | .readingNet files, .ok =>
    match files.lookup "net.json" with
    | some (.net net) => .creatingTap files net
    | _ => .returned none
  | .creatingTap files net, .ok => .bindingUffd files (some net)
  | .bindingUffd files net, .ok => .launching files net
  | .launching files net, .ok => .loading files net fresh.proc
  | .loading files net proc, .ok =>
    .settling { id := fresh.id, proc, vsockUds := vsockPath files, net }
  | .loading _ _ proc, _ => .cleaningUp proc
  | .cleaningUp _, _ => .returned none
  | .settling vm, _ => .returned (some vm)
  | .returned vm, _ => .returned vm
  | _, _ => .returned none

end RecvPhase

end Sleepwalk.Hostd
